import Mathlib.Data.List.Basic
import UsbExport.Proofs.Host.History
import UsbExport.Proofs.Session.Leaving

/-!
When a server stops for a restart. A client that is gone leaves behind the phase in which its
session was and the way in which that ended. Main statement: under the restart policy a server stops
exactly with the first session that its client left behind busy by closing, and serves nobody after
that. A busy session over a broken socket does not stop it.
-/

namespace UsbExport.Server

open Dispatch Socket

/-- In which phase a session was when it began to leave, and what for. -/
structure Departure where
  phase : Phase
  ending : Ending
deriving DecidableEq, Repr

/-- A session leaves with its client or over a broken socket. -/
def Departure.Fits (departure : Departure) : Prop :=
  departure.ending = departure.phase.departure ∨ ∃ kind, departure.ending = .failed kind

variable {Executor Inner : Type}

/-- Nobody but the session itself touches the session, and nobody touches the configuration. -/
def Minds [DeviceExecutor Executor] (inner : Company (System Executor) Inner) : Prop :=
  ∀ party system next, (inner.move party system).next? = some next →
    system.moveSession.next? = some next ∨
      next.visit = system.visit ∧ next.config = system.config

/-- The ending that the session being served cleans up for. -/
def leaving? (server : Server Executor) : Option Ending :=
  server.system.visit.bind fun visit => visit.session.stage.leaving?

/-- The departure that an event brings about. -/
def departure? (server next : Server Executor) : Option Departure :=
  match server.system.visit, leaving? server, leaving? next with
  | some visit, none, some ending => some ⟨visit.session.phase, ending⟩
  | _, _, _ => none

/-- The runs of a server, with the departures on the way. -/
inductive Tells (inner : Company (System Executor) Inner) (start : Server Executor) :
    List Departure → Server Executor → Prop
  | start : Tells inner start [] start
  | step {departures : List Departure} {server next : Server Executor}
      (tells : Tells inner start departures server) (event : Event Inner)
      (happened : step inner server event = some next) :
      Tells inner start (departures ++ (departure? server next).toList) next

/-- How a server stands to its policy. -/
structure Heeds (policy : DetachPolicy) (departures : List Departure) (server : Server Executor) :
    Prop where
  policy_eq : server.system.config.detachPolicy = policy
  endings_eq : departures.map Departure.ending = server.endings.reverse ++ (leaving? server).toList
  fits : ∀ departure ∈ departures, departure.Fits
  stopped_iff : server.isStopped = true ↔
    ∃ ending, server.endings.head? = some ending ∧ stopsAt policy ending = true
  unserved : server.isStopped = true → server.system.visit = none
  earlier : ∀ ending ∈ server.endings.tail, stopsAt policy ending = false

theorem departure?_eq_none {server next : Server Executor}
    (same : leaving? next = leaving? server) : departure? server next = none := by
  unfold departure?
  rw [same]
  split
  · next going leaves =>
      rw [going] at leaves
      contradiction
  · rfl

namespace Heeds

variable {inner : Company (System Executor) Inner} {policy : DetachPolicy}
  {departures : List Departure} {server next : Server Executor}

/-- What happens around the session is no departure. -/
theorem of_still (heeds : Heeds policy departures server)
    (visit_eq : next.system.visit = server.system.visit)
    (config_eq : next.system.config = server.system.config)
    (endings_eq : next.endings = server.endings) (stopped_eq : next.isStopped = server.isStopped) :
    Heeds policy (departures ++ (departure? server next).toList) next := by
  have leaving_eq : leaving? next = leaving? server := by
    rw [leaving?, leaving?, visit_eq]
  rw [departure?_eq_none leaving_eq, Option.toList_none, List.append_nil]
  refine ⟨?_, ?_, heeds.fits, ?_, ?_, ?_⟩
  · rw [config_eq]
    exact heeds.policy_eq
  · rw [endings_eq, leaving_eq]
    exact heeds.endings_eq
  · rw [stopped_eq, endings_eq]
    exact heeds.stopped_iff
  · rw [stopped_eq, visit_eq]
    exact heeds.unserved
  · rw [endings_eq]
    exact heeds.earlier

/-- A session that begins to leave is the last departure. -/
theorem of_session [DeviceExecutor Executor] (heeds : Heeds policy departures server)
    {system : System Executor} (moved : server.system.moveSession.next? = some system) :
    Heeds policy (departures ++ (departure? server { server with system }).toList)
      { server with system } := by
  obtain ⟨visit, visit_eq, move⟩ := System.moveSession_cases moved
  obtain ⟨config_eq, visit', visit_eq', leaves⟩ := move.leavesWith visit_eq
  have running : server.isStopped = false := by
    rw [← Bool.not_eq_true]
    intro stopped
    rw [heeds.unserved stopped] at visit_eq
    contradiction
  have before : leaving? server = visit.session.stage.leaving? := by
    rw [leaving?, visit_eq, Option.bind_some]
  have after : leaving? { server with system } = visit'.session.stage.leaving? := by
    rw [leaving?, visit_eq', Option.bind_some]
  have stopped_iff := heeds.stopped_iff
  have earlier := heeds.earlier
  rcases leaves with same | ⟨going, ending, leaving, reason⟩
  · have leaving_eq : leaving? { server with system } = leaving? server := by
      rw [after, before, same]
    rw [departure?_eq_none leaving_eq, Option.toList_none, List.append_nil]
    refine ⟨?_, ?_, heeds.fits, stopped_iff, by simp [running], earlier⟩
    · rw [config_eq]
      exact heeds.policy_eq
    · rw [leaving_eq]
      exact heeds.endings_eq
  · have departure_eq : departure? server { server with system } =
        some ⟨visit.session.phase, ending⟩ := by
      simp only [departure?, visit_eq, before, going, after, leaving]
    rw [departure_eq, Option.toList_some]
    refine ⟨?_, ?_, ?_, stopped_iff, by simp [running], earlier⟩
    · rw [config_eq]
      exact heeds.policy_eq
    · rw [after, leaving, List.map_append, heeds.endings_eq, before, going]
      simp
    · rw [List.forall_mem_append, List.forall_mem_singleton]
      exact ⟨heeds.fits, reason⟩

/-- A session is over, and how it ended decides whether the server stops. -/
theorem of_end (heeds : Heeds policy departures server) (running : server.isStopped = false)
    {visit : Visit} {ending : Ending} (visit_eq : server.system.visit = some visit)
    (ended : visit.session.stage = .finished ending)
    (next_eq : next = { server with
      system := { server.system with visit := none }
      isStopped := stopsAt server.system.config.detachPolicy ending
      endings := ending :: server.endings }) :
    Heeds policy (departures ++ (departure? server next).toList) next := by
  have unstopped : ∀ ending ∈ server.endings, stopsAt policy ending = false := by
    intro ending member
    cases endings_eq : server.endings with
    | nil =>
        rw [endings_eq] at member
        contradiction
    | cons latest older =>
        rw [endings_eq] at member
        rcases List.mem_cons.1 member with rfl | member
        · rw [← Bool.not_eq_true]
          intro stops
          have stopped := heeds.stopped_iff.2 ⟨_, by rw [endings_eq, List.head?_cons], stops⟩
          rw [running] at stopped
          contradiction
        · exact heeds.earlier ending (by rw [endings_eq]; exact member)
  have leaving : leaving? server = some ending := by
    rw [leaving?, visit_eq, Option.bind_some, ended]
    rfl
  have departed : departure? server next = none := by
    simp [departure?, visit_eq, leaving]
  rw [departed, Option.toList_none, List.append_nil]
  subst next_eq
  refine ⟨heeds.policy_eq, ?_, heeds.fits, ?_, fun _ => rfl, unstopped⟩
  · rw [heeds.endings_eq, leaving]
    simp [leaving?]
  · rw [← heeds.policy_eq]
    simp

/-- The next client is served, which is not leaving yet. -/
theorem of_turn (heeds : Heeds policy departures server) (running : server.isStopped = false)
    {link : LinkId} {line : List LinkId} (unvisited : server.system.visit = none)
    (next_eq : next = { server with system := server.system.setVisit { link }, line }) :
    Heeds policy (departures ++ (departure? server next).toList) next := by
  have leaving_eq : leaving? next = leaving? server := by
    rw [next_eq, leaving?, leaving?, unvisited]
    rfl
  rw [departure?_eq_none leaving_eq, Option.toList_none, List.append_nil]
  have endings_eq := heeds.endings_eq
  rw [← leaving_eq] at endings_eq
  subst next_eq
  refine ⟨heeds.policy_eq, endings_eq, heeds.fits, heeds.stopped_iff, ?_, heeds.earlier⟩
  intro stopped
  rw [running] at stopped
  contradiction

theorem of_acceptor (heeds : Heeds policy departures server)
    (moved : server.moveAcceptor.next? = some next) :
    Heeds policy (departures ++ (departure? server next).toList) next := by
  obtain ⟨running, ⟨visit, ending, visit_eq, stage_eq, next_eq⟩ |
    ⟨link, line, unvisited, -, next_eq⟩⟩ :=
    moveAcceptor_cases moved
  · exact heeds.of_end running visit_eq stage_eq next_eq
  · exact heeds.of_turn running unvisited next_eq

theorem step [DeviceExecutor Executor] (heeds : Heeds policy departures server)
    (minds : Minds inner) {event : Event Inner}
    (happened : Server.step inner server event = some next) :
    Heeds policy (departures ++ (departure? server next).toList) next := by
  cases event with
  | move party =>
      cases party with
      | acceptor => exact heeds.of_acceptor happened
      | inner party =>
          obtain ⟨system, moved, rfl⟩ := lift_next? happened
          rcases minds party _ _ moved with moved | ⟨visit_eq, config_eq⟩
          · exact heeds.of_session moved
          · exact heeds.of_still visit_eq config_eq rfl rfl
  | _ =>
      obtain rfl := Option.some.inj happened
      exact heeds.of_still rfl rfl rfl rfl

end Heeds

/-- A server that has served nobody yet. -/
structure Opening (server : Server Executor) : Prop where
  unvisited : server.system.visit = none
  unended : server.endings = []
  running : server.isStopped = false

/-- A stopped server has nobody's turn: whatever happens around it. -/
theorem still_of_stopped [DeviceExecutor Executor] {inner : Company (System Executor) Inner}
    (minds : Minds inner) {server next : Server Executor} (stopped : server.isStopped = true)
    (unvisited : server.system.visit = none) {event : Event Inner}
    (happened : step inner server event = some next) :
    departure? server next = none ∧ next.isStopped = true ∧ next.system.visit = none := by
  have silent : departure? server next = none := by
    simp [departure?, unvisited]
  refine ⟨silent, ?_⟩
  cases event with
  | move party =>
      cases party with
      | acceptor =>
          obtain ⟨running, -⟩ := moveAcceptor_cases happened
          rw [stopped] at running
          contradiction
      | inner party =>
          obtain ⟨system, moved, rfl⟩ := lift_next? happened
          rcases minds party _ _ moved with moved | ⟨visit_eq, -⟩
          · obtain ⟨visit, visit_eq, -⟩ := System.moveSession_cases moved
            rw [unvisited] at visit_eq
            contradiction
          · exact ⟨stopped, visit_eq.trans unvisited⟩
  | _ =>
      obtain rfl := Option.some.inj happened
      exact ⟨stopped, unvisited⟩

namespace Tells

variable [DeviceExecutor Executor] {inner : Company (System Executor) Inner}
  {start server last : Server Executor} {departures later : List Departure}

theorem heeds (tells : Tells inner start departures server) (minds : Minds inner)
    (opening : Opening start) : Heeds start.system.config.detachPolicy departures server := by
  induction tells with
  | start =>
      refine ⟨rfl, ?_, by simp, ?_, fun _ => opening.unvisited, ?_⟩
      · simp [leaving?, opening.unvisited, opening.unended]
      · simp [opening.running, opening.unended]
      · simp [opening.unended]
  | step _ event happened ih => exact ih.step minds happened

theorem still (tells : Tells inner server later last) (minds : Minds inner)
    (stopped : server.isStopped = true) (unvisited : server.system.visit = none) :
    later = [] ∧ last.isStopped = true ∧ last.system.visit = none := by
  induction tells with
  | start => exact ⟨rfl, stopped, unvisited⟩
  | step _ event happened ih =>
      obtain ⟨nobody, stopped, unvisited⟩ := ih
      obtain ⟨silent, stopped, unvisited⟩ := still_of_stopped minds stopped unvisited happened
      exact ⟨by rw [nobody, silent]; rfl, stopped, unvisited⟩

end Tells

/-- The departures whose sessions are over, without the one that still cleans up. -/
def departed (server : Server Executor) (departures : List Departure) : List Departure :=
  departures.take server.endings.length

namespace Heeds

variable {departures : List Departure} {server : Server Executor} {policy : DetachPolicy}

end Heeds

theorem Tells.append {inner : Company (System Executor) Inner} {start server last : Server Executor}
    {departures later : List Departure} (past : Tells inner start departures server)
    (future : Tells inner server later last) : Tells inner start (departures ++ later) last := by
  induction future with
  | start => rwa [List.append_nil]
  | step _ event happened ih =>
      rw [← List.append_assoc]
      exact .step ih event happened

end UsbExport.Server

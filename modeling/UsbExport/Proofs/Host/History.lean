import UsbExport.Proofs.Host.Moves
import UsbExport.Server.Runs

/-!
Runs of a server with a host executor, with a trace of what its parties have done. Clients connect
and send, sockets behave as they like, and the parties move in any order.
-/

namespace UsbExport.Host

open Dispatch Socket

variable {Handle : Type}

/-- What is read off a trace with one more step, if the step is told of. -/
theorem filterMap_append_toList {Step Item : Type} (item? : Step → Option Item)
    (trace : List Step) (step : Option Step) :
    (trace ++ step.toList).filterMap item? = trace.filterMap item? ++ (step.bind item?).toList := by
  rw [List.filterMap_append]
  cases step with
  | none => rfl
  | some what => cases found : item? what <;> simp [found]

/-- What an event at a server does that concerns a client or its URBs. -/
def done? [UsbHandle Handle] (server : Server (Host Handle)) : Server.Event Party → Option Deed
  | .move (.inner party) => deed? server.system party
  | _ => none

/-- The runs from a state, with what was done on the way. -/
inductive History [UsbHandle Handle] (start : Server (Host Handle)) :
    List Deed → Server (Host Handle) → Prop
  | start : History start [] start
  | step {trace : List Deed} {server next : Server (Host Handle)}
      (history : History start trace server) (event : Server.Event Party)
      (happened : Server.step company server event = some next) :
      History start (trace ++ (done? server event).toList) next

/-- A server that has not served anybody yet, with an executor that has no URBs and no workers. -/
structure Fresh (server : Server (Host Handle)) : Prop where
  unvisited : server.system.visit = none
  unlinked : server.system.links = []
  unposted : server.system.data.queue = [] ∧ server.system.control.queue = []
  unslotted : server.system.slots = []
  unlined : server.line = []
  idle : server.system.executor.loop = .idle
  unemployed : server.system.executor.workers = []
  unbooked : server.system.executor.urbs = {}

/-- What an event can come to, with what it does: a move of the session or of the executor, a
session that is over or begins, a client that connects, or something around the sockets. -/
inductive Happening [UsbHandle Handle] (server : Server (Host Handle)) :
    Option Deed → Server (Host Handle) → Prop
  | session {visit : Visit} {deed : Option Session.Deed} {next : System (Host Handle)}
      (visit_eq : server.system.visit = some visit)
      (move : server.system.SessionMove visit deed next) :
      Happening server (deed.map (.session visit.link)) { server with system := next }
  | executor {deed : Option Deed} {next : System (Host Handle)}
      (move : ExecutorMove server.system deed next) :
      Happening server deed { server with system := next }
  | departs {visit : Visit} {ending : Ending} (visit_eq : server.system.visit = some visit)
      (ended : visit.session.stage = .finished ending) (isStopped : Bool) :
      Happening server none
        { server with
          system := { server.system with visit := none }
          isStopped
          endings := ending :: server.endings }
  | serves {link : LinkId} {line : List LinkId} (unvisited : server.system.visit = none)
      (line_eq : server.line = link :: line) :
      Happening server none { server with system := server.system.setVisit { link }, line }
  | connects (guard : Guard) :
      Happening server none
        { server with
          system := { server.system with links := server.system.links ++ [{ guard }] }
          line := server.line ++ [server.system.links.length] }
  | around {links : List Link} (length_eq : links.length = server.system.links.length) (now : Nat) :
      Happening server none { server with system := { server.system with links, now } }

theorem moveAcceptor_happening [UsbHandle Handle] {server next : Server (Host Handle)}
    (moved : server.moveAcceptor.next? = some next) : Happening server none next := by
  obtain ⟨-, ⟨visit, ending, visit_eq, stage_eq, rfl⟩ | ⟨link, line, unvisited, line_eq, rfl⟩⟩ :=
    Server.moveAcceptor_cases moved
  · exact .departs visit_eq stage_eq _
  · exact .serves unvisited line_eq

theorem step_happening [UsbHandle Handle] {server next : Server (Host Handle)}
    {event : Server.Event Party} (happened : Server.step company server event = some next) :
    Happening server (done? server event) next := by
  cases event with
  | move party =>
      cases party with
      | acceptor => exact moveAcceptor_happening happened
      | inner party =>
          obtain ⟨system, moved, rfl⟩ := Server.lift_next? happened
          cases party with
          | session =>
              obtain ⟨visit, visit_eq, move⟩ := System.moveSession_cases moved
              rw [done?, deed?, visit_eq, Option.bind_some]
              exact .session visit_eq move
          | loop preference => exact .executor (.loop (moveLoop_cases moved))
          | worker id =>
              obtain ⟨worker, worker', rest, worker_eq, move, rfl⟩ := moveWorker_cases moved
              rw [done?, deed?, worker_eq, Option.bind_some]
              exact .executor (.worker worker_eq move)
          | job id => exact .executor (.job (moveJob_cases moved))
          | transfer id =>
              obtain ⟨worker, request, outcome, worker_eq, stage_eq, rfl⟩ :=
                finishTransfer_cases moved
              exact .executor (.transfer worker_eq stage_eq)
  | pass duration =>
      obtain rfl := Option.some.inj happened
      exact .around rfl _
  | connect =>
      obtain rfl := Option.some.inj happened
      exact .connects _
  | arrive link bytes =>
      obtain rfl := Option.some.inj happened
      exact .around (by simp) _
  | finish link =>
      obtain rfl := Option.some.inj happened
      exact .around (by simp) _
  | stumble link kind =>
      obtain rfl := Option.some.inj happened
      exact .around (by simp) _
  | setMode link mode =>
      obtain rfl := Option.some.inj happened
      exact .around (by simp) _

namespace History

variable [UsbHandle Handle] {start mid server : Server (Host Handle)}
  {trace before after : List Deed}

theorem append (past : History start before mid) (future : History mid after server) :
    History start (before ++ after) server := by
  induction future with
  | start => rwa [List.append_nil]
  | step _ event happened ih =>
      rw [← List.append_assoc]
      exact .step ih event happened

/-- What holds at the start and is kept by whatever happens holds all along. -/
theorem invariant (Holds : List Deed → Server (Host Handle) → Prop) (initial : Holds [] start)
    (kept : ∀ trace server deed next, Holds trace server → Happening server deed next →
      Holds (trace ++ deed.toList) next)
    (history : History start trace server) : Holds trace server := by
  induction history with
  | start => exact initial
  | step _ event happened ih => exact kept _ _ _ _ ih (step_happening happened)

end History

/-- Goes along with events, past those that cannot happen. -/
def follow [UsbHandle Handle] (server : Server (Host Handle)) :
    List (Server.Event Party) → List Deed × Server (Host Handle)
  | [] => ([], server)
  | event :: events =>
      match Server.step company server event with
      | none => follow server events
      | some next =>
          let (trace, last) := follow next events
          ((done? server event).toList ++ trace, last)

theorem history_follow [UsbHandle Handle] (server : Server (Host Handle))
    (events : List (Server.Event Party)) :
    History server (follow server events).1 (follow server events).2 := by
  induction events generalizing server with
  | nil => exact .start
  | cons event events ih =>
      rw [follow]
      cases happened : Server.step company server event with
      | none => exact ih server
      | some next => exact (History.step .start event happened).append (ih next)

/-! ### A small server -/

/-- A device that does whatever it is asked and has nothing to say. -/
structure Placid where

instance : UsbHandle Placid where
  claim device _ := (device, .ok ())
  release device _ := (device, .ok ())
  transfer device transfer := (device, .ok ⟨transfer.bufferSize, []⟩)
  mayFinish _ _ := true

def placid : Server (Host Placid) where
  system :=
    { config := {}
      executor :=
        { device := { busId := "1" }
          endpoints := [(2, .bulk)]
          interfaces := [0]
          maxTransfer := 1024
          handle := {} } }

theorem fresh_placid : Fresh placid := ⟨rfl, rfl, ⟨rfl, rfl⟩, rfl, rfl, rfl, rfl, rfl⟩

def placidImport : Bytes := ImportRequest.encode ⟨0, .ofString "1"⟩ 0x0111

/-- A submit with one byte for the device. -/
def placidSubmit : Submit := ⟨⟨1, 7, 1, 0, 2⟩, ⟨0, 1, 0, 0, 0, .zero 8⟩, [170], []⟩

def moves (parties : List Party) : List (Server.Event Party) :=
  parties.map fun party => .move (.inner party)

def sessionMoves (count : Nat) : List (Server.Event Party) := moves (List.replicate count .session)

/-- Everybody gets turns, except that no submit is taken before a control request. -/
def rounds (count : Nat) : List (Server.Event Party) :=
  (List.replicate count
    (.move .acceptor :: moves [.session, .loop .control, .worker 0, .job 0, .job 1, .job 2,
      .job 3, .transfer 0])).flatten

/-- The first client comes and gets the device. -/
def firstImport : List (Server.Event Party) :=
  [.connect, .arrive 0 placidImport] ++ rounds 20

/-- The first client goes, and the next one asks for the device. -/
def secondImport : List (Server.Event Party) :=
  [.finish 0] ++ sessionMoves 20 ++
    [.move .acceptor, .connect, .arrive 1 placidImport, .move .acceptor] ++ sessionMoves 5

end UsbExport.Host

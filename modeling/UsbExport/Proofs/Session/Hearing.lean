import UsbExport.Proofs.Session.Answers

/-!
A session that hears its client out. The client sends one stream in any pieces, pauses for any time
and stops; reads may fail for a moment anywhere. Main statement: unless it was struck by a fault
while it read past bytes, the session has done what one does that reads the stream byte by byte.
-/

namespace UsbExport

open Dispatch Socket

namespace System

open Session

variable {Executor : Type}

/-! ### Runs -/

/-- What is on record of a session and its client. -/
structure Transcript where
  arrived : Bytes := []
  ended : Bool := false
  acts : List Act := []
  /-- The faults that reads have met, each with the stage of the session. -/
  met : List (Stage × FaultKind) := []

namespace Transcript

def after (transcript : Transcript) (system : System Executor) : Transcript :=
  { transcript with
    acts := transcript.acts ++ system.act?.toList
    met := transcript.met ++ system.met?.toList }

/-- The client sends no other bytes, and sends all of them before it stops. -/
structure Feeds (transcript : Transcript) (stream : Bytes) : Prop where
  arrived : transcript.arrived <+: stream
  ended : transcript.ended = true → transcript.arrived = stream

/-- A fault was met while the session read past bytes. -/
def Struck (transcript : Transcript) : Prop :=
  ∃ left kind, (Stage.skipping left, kind) ∈ transcript.met

end Transcript

/-- What the others may do: anything but touch the session, its input and its place in the line for
its socket. -/
structure Leaves (visit : Visit) (before after : System Executor) : Prop where
  visit_eq : after.visit = before.visit
  config_eq : after.config = before.config
  link : ∀ socket, before.links[visit.link]? = some socket →
    ∃ guard, after.links[visit.link]? = some { socket with guard } ∧
      socket.guard.Bystep visit.wait.ticket? guard

/-- The ways in which a session can go on: its client sends or stops sending, a read is going to fail
for a moment, others do something or time goes by, or the session makes a move. -/
inductive Hearing [DeviceExecutor Executor] (start : System Executor) (link : LinkId) :
    Transcript → System Executor → Prop
  | start : Hearing start link {} start
  | arrive {transcript : Transcript} {system : System Executor}
      (hearing : Hearing start link transcript system) (bytes : Bytes)
      (sending : transcript.ended = false) :
      Hearing start link { transcript with arrived := transcript.arrived ++ bytes }
        (system.mapLink link fun socket => { socket with inbox := socket.inbox.arrive bytes })
  | stumble {transcript : Transcript} {system : System Executor}
      (hearing : Hearing start link transcript system) (kind : FaultKind)
      (transient : kind.isTransient = true) :
      Hearing start link transcript
        (system.mapLink link fun socket => { socket with inbox := socket.inbox.stumble kind })
  | finish {transcript : Transcript} {system : System Executor}
      (hearing : Hearing start link transcript system) :
      Hearing start link { transcript with ended := true }
        (system.mapLink link fun socket => { socket with inbox := socket.inbox.finish })
  | others {transcript : Transcript} {system after : System Executor} {visit : Visit}
      (hearing : Hearing start link transcript system) (visit_eq : system.visit = some visit)
      (leaves : Leaves visit system after) : Hearing start link transcript after
  | move {transcript : Transcript} {system next : System Executor}
      (hearing : Hearing start link transcript system)
      (moved : system.moveSession.next? = some next) :
      Hearing start link (transcript.after system) next

/-- A session between two commands, on a socket of which nothing has been read. -/
structure Opens (system : System Executor) (link : LinkId) (phase : Phase) : Prop where
  visit_eq : system.visit = some { link, session := Session.rest phase }
  socket : ∃ guard, system.links[link]? = some { guard } ∧ guard.Orderly

/-! ### Leaving -/

theorem leaving?_of_wants {session : Session} {limit : Nat}
    (wants : session.wants = some limit) : session.stage.leaving? = none := by
  unfold Session.wants at wants
  split at wants <;> next stage_eq => first | (rw [stage_eq]; rfl) | cases wants

theorem leaving?_take {session : Session} {limit : Nat} (wants : session.wants = some limit)
    (limits : SessionLimits) (bytes : Bytes) :
    (session.take limits bytes).stage.leaving? = none := by
  have going {stage : Stage} {phase : Phase} (phase_eq : stage.phase? = some phase) :
      stage.leaving? = none := by
    cases stage <;> first | rfl | cases phase_eq
  simp only [Session.take]
  split
  · split
    · rfl
    · exact going (Part.phase?_complete _ _ _)
  · exact going (Stage.phase?_skip _)
  · exact leaving?_of_wants wants

theorem leaving?_inputEnded {session : Session} {limit : Nat} (wants : session.wants = some limit)
    (kind : FaultKind) :
    (session.disturb .inputEnded).stage.leaving? ≠ some (.failed kind) := by
  obtain ⟨phase, stage⟩ := session
  intro failed
  cases stage with
  | collecting part got => cases part <;> cases phase <;> cases failed
  | skipping left => cases phase <;> cases failed
  | _ => cases wants

theorem leaving?_resume {session : Session} {ending : Ending}
    (leaving : session.stage.leaving? = some ending) :
    (session.resume .done).stage.leaving? = some ending := by
  obtain ⟨phase, stage⟩ := session
  cases stage <;> first | exact leaving | cases leaving

/-- Only a send that fails makes a session fail that goes on with an answer. -/
theorem leaving?_of_resume {session : Session} {answer : Answer} {kind : FaultKind}
    (failed : (session.resume answer).stage.leaving? = some (.failed kind)) :
    session.stage.leaving? = some (.failed kind) ∨ answer = .failed kind := by
  have departure (phase : Phase) : phase.departure ≠ .failed kind := by
    cases phase <;> exact Ending.noConfusion
  have rested (phase : Phase) : (rest phase).stage.leaving? = none := by cases phase <;> rfl
  unfold Session.resume at failed
  split at failed
  all_goals first
    | exact Or.inl failed
    | (rw [rested] at failed; cases failed)
    | exact absurd (Option.some.inj failed) (departure _)
    | (next stage_eq => rw [stage_eq]; exact Or.inl failed)
    | cases failed
  exact Or.inr rfl

theorem own_of_leaving {stage : Stage} {ending : Ending} {ask : Ask}
    (leaving : stage.leaving? = some ending) (asks : stage.ask? = some ask) : ask.kind = .own := by
  cases stage <;> cases leaving <;> cases asks <;> rfl

theorem leaving?_of_unsent {session : Session} {ask : Ask} (asks : session.stage.ask? = some ask)
    (sends : ask.kind = .send) (kind : FaultKind) :
    (session.resume (.failed kind)).stage.leaving? = some (.failed kind) := by
  obtain ⟨phase, stage⟩ := session
  cases stage <;> cases asks <;> first | rfl | cases sends

/-! ### What every run keeps -/

/-- How things stand between a session and its client. As long as the session was not struck, its
acts are those of one that reads the stream byte by byte, and it has heard so much of it. -/
structure Conduct (limits : SessionLimits) (phase : Phase) (stream : Bytes)
    (transcript : Transcript) (visit : Visit) (socket : Link) : Prop where
  ended_eq : socket.inbox.ended = transcript.ended
  transient : ∀ kind ∈ socket.inbox.faults, kind.isTransient = true
  stands : Stands visit socket.guard
  fits : visit.session.Fits
  hungry : visit.session.stage.Hungry
  own : ∀ act ∈ transcript.acts, act.ask.kind = .own → act.answer = .done
  leaving : (∃ act ∈ transcript.acts, act.Fails) → visit.session.stage.leaving? ≠ none
  failed : ∀ kind, visit.session.stage.leaving? = some (.failed kind) →
    (∃ act ∈ transcript.acts, act.Fails) ∨ transcript.Struck
  struck : transcript.Struck →
    (∃ left kind, (Stage.skipping left, kind) ∈ transcript.met ∧
        visit.session.stage.leaving? = some (.failed kind)) ∧
      ∀ act ∈ transcript.acts, ¬ act.Fails
  replayed : ¬ transcript.Struck → ∃ later, stream = transcript.arrived ++ later ∧
    replay limits (rest phase) stream (transcript.acts.map Act.answer) =
      (transcript.acts, hear limits visit.session (socket.inbox.bytes ++ later))

namespace Conduct

variable {limits : SessionLimits} {phase : Phase} {stream : Bytes} {transcript : Transcript}
  {visit after : Visit} {socket : Link}

theorem calm (conduct : Conduct limits phase stream transcript visit socket) {limit : Nat}
    (wants : visit.session.wants = some limit) :
    (∀ act ∈ transcript.acts, ¬ act.Fails) ∧ ¬ transcript.Struck := by
  have reading := leaving?_of_wants wants
  refine ⟨fun act mem fails => conduct.leaving ⟨act, mem, fails⟩ reading, fun struck => ?_⟩
  obtain ⟨⟨left, kind, -, leaving⟩, -⟩ := conduct.struck struck
  rw [reading] at leaving
  cases leaving

/-- A read that leaves the session where a session comes to that reads the stream byte by byte. -/
theorem heard (conduct : Conduct limits phase stream transcript visit socket) {limit : Nat}
    (wants : visit.session.wants = some limit) {inbox : Inbox} {arrival : Arrival}
    {met : List (Stage × FaultKind)} (bearable : ∀ left kind, (Stage.skipping left, kind) ∉ met)
    (ended_eq : inbox.ended = socket.inbox.ended)
    (faults : ∀ kind ∈ inbox.faults, kind ∈ socket.inbox.faults)
    (unfailed : ∀ kind, (visit.session.receive limits arrival).stage.leaving? ≠ some (.failed kind))
    (same : ∀ later, stream = transcript.arrived ++ later →
      hear limits visit.session (socket.inbox.bytes ++ later) =
        hear limits (visit.session.receive limits arrival) (inbox.bytes ++ later)) :
    Conduct limits phase stream { transcript with met := transcript.met ++ met }
      { visit with session := visit.session.receive limits arrival } { socket with inbox } := by
  obtain ⟨unfailing, unstruck⟩ := conduct.calm wants
  have spared : ¬ Transcript.Struck { transcript with met := transcript.met ++ met } := by
    rintro ⟨left, kind, mem⟩
    rcases List.mem_append.1 mem with mem | mem
    · exact unstruck ⟨left, kind, mem⟩
    · exact bearable left kind mem
  refine ⟨ended_eq.trans conduct.ended_eq, fun kind mem => conduct.transient kind (faults kind mem),
    conduct.stands.of_free (conduct.stands.free_of_wants wants), conduct.fits.receive limits arrival,
    hungry_receive conduct.hungry limits arrival, conduct.own, ?_, ?_, ?_, fun _ => ?_⟩
  · rintro ⟨act, mem, fails⟩
    exact absurd fails (unfailing act mem)
  · exact fun kind failed => absurd failed (unfailed kind)
  · exact fun struck => absurd struck spared
  · obtain ⟨later, split, replayed⟩ := conduct.replayed unstruck
    exact ⟨later, split, replayed.trans (by rw [same later split])⟩

theorem strike (conduct : Conduct limits phase stream transcript visit socket) {left : Nat}
    (stage_eq : visit.session.stage = .skipping left) {kind : FaultKind} {faults : List FaultKind}
    (faults_eq : socket.inbox.faults = kind :: faults) :
    Conduct limits phase stream
      { transcript with met := transcript.met ++ [(.skipping left, kind)] }
      { visit with session := visit.session.receive limits (.disturbance (.fault kind)) }
      { socket with inbox := { socket.inbox with faults, deadline := none } } := by
  have wants : visit.session.wants = some left := by simp [Session.wants, stage_eq]
  have failed : (visit.session.receive limits (.disturbance (.fault kind))).stage =
      .resetting (.failed kind) := by
    simp [receive, disturb, stage_eq, Session.fail]
  have struck : Transcript.Struck
      { transcript with met := transcript.met ++ [(.skipping left, kind)] } :=
    ⟨left, kind, List.mem_append_right _ List.mem_cons_self⟩
  refine ⟨conduct.ended_eq, fun fault mem => conduct.transient fault ?_,
    conduct.stands.of_free (conduct.stands.free_of_wants wants), conduct.fits.receive limits _,
    hungry_receive conduct.hungry limits _, conduct.own, fun _ => ?_, fun _ _ => Or.inr struck,
    fun _ => ⟨⟨left, kind, List.mem_append_right _ List.mem_cons_self, ?_⟩, (conduct.calm wants).1⟩,
    fun spared => absurd struck spared⟩
  · rw [faults_eq]
    exact List.mem_cons_of_mem _ mem
  · rw [failed]
    exact Option.some_ne_none _
  · rw [failed]
    rfl

/-- A read brings a piece of what is ahead, a fault, or the end, or nothing. -/
theorem read (conduct : Conduct limits phase stream transcript visit socket)
    (feeds : transcript.Feeds stream) {limit now : Nat} {timeout : Option Nat}
    (wants : visit.session.wants = some limit) {arrival : Arrival} {inbox : Inbox}
    (brought : socket.inbox.read limit now timeout = some (arrival, inbox)) :
    Conduct limits phase stream
      { transcript with
        met := transcript.met ++
          (arrival.fault?.map fun kind => (visit.session.stage, kind)).toList }
      { visit with session := visit.session.receive limits arrival } { socket with inbox } := by
  obtain ⟨filled, rfl, rfl⟩ | ⟨empty, kind, faults, faults_eq, rfl, rfl⟩ |
    ⟨empty, ended, rfl, rfl⟩ | ⟨-, none, deadline, rfl⟩ := Inbox.read_cases brought
  · have pos := conduct.hungry.pos wants
    have some : socket.inbox.bytes.take limit ≠ [] := by
      rw [ne_eq, List.take_eq_nil_iff]
      exact fun none => none.elim (Nat.ne_of_gt pos) filled
    refine conduct.heard wants (by simp [Arrival.fault?]) rfl (fun _ => id) ?_ fun later _ => ?_
    · intro kind failed
      rw [receive, leaving?_take wants] at failed
      cases failed
    · rw [receive, ← hear_append limits wants some (List.length_take_le _ _), ← List.append_assoc,
        List.take_append_drop]
  · have transient := conduct.transient kind (by rw [faults_eq]; exact List.mem_cons_self)
    by_cases skips : ∃ left, visit.session.stage = .skipping left
    · obtain ⟨left, stage_eq⟩ := skips
      rw [Arrival.fault?, stage_eq]
      exact conduct.strike stage_eq faults_eq
    · have reading (left : Nat) (stage_eq : visit.session.stage = .skipping left) : False :=
        skips ⟨left, stage_eq⟩
      have borne : visit.session.receive limits (.disturbance (.fault kind)) = visit.session :=
        disturb_fault_eq transient reading
      refine conduct.heard wants ?_ rfl ?_ ?_ fun later _ => ?_
      · intro left fault mem
        exact reading left (Prod.mk.inj (List.mem_singleton.1 mem)).1.symm
      · exact fun fault mem => faults_eq ▸ List.mem_cons_of_mem kind mem
      · rw [borne, leaving?_of_wants wants]
        intro kind failed
        cases failed
      · rw [borne]
  · refine conduct.heard wants (by simp [Arrival.fault?]) rfl (fun _ => id)
      (leaving?_inputEnded wants) fun later split => ?_
    -- the client has sent everything, so nothing is ahead
    have all := feeds.ended (conduct.ended_eq.symm.trans ended)
    obtain rfl : later = [] := List.self_eq_append_right.1 (all.trans split)
    rw [empty, List.nil_append, receive, hear_of_wants (wants_disturb_inputEnded visit.session)]
    rfl
  · have same : visit.session.receive limits arrival = visit.session := by
      rcases none with rfl | rfl
      · rfl
      · exact elapse_eq conduct.fits
    have unmet : arrival.fault? = .none := by rcases none with rfl | rfl <;> rfl
    rw [unmet]
    refine conduct.heard wants (by simp) rfl (fun _ => id) ?_ fun later _ => by rw [same]
    rw [same, leaving?_of_wants wants]
    exact fun kind failed => by cases failed

theorem resume (conduct : Conduct limits phase stream transcript visit socket)
    (silent : visit.session.wants = none) {ask : Ask} {answer : Answer}
    (asks : visit.session.stage.ask? = some ask) (own : ask.kind = .own → answer = .done)
    (sent : ∀ kind, answer = .failed kind → ask.kind = .send) {guard : Guard}
    (stands : Stands after guard) (session_eq : after.session = visit.session.resume answer) :
    Conduct limits phase stream
      { transcript with acts := transcript.acts ++ [⟨visit.session.phase, ask, answer⟩] } after
      { socket with guard } := by
  refine ⟨conduct.ended_eq, conduct.transient, stands, session_eq ▸ conduct.fits.resume answer,
    session_eq ▸ hungry_resume conduct.hungry answer, ?_, ?_, ?_, fun struck => ?_,
    fun spared => ?_⟩
  · intro act mem
    rcases List.mem_append.1 mem with mem | mem
    · exact conduct.own act mem
    · obtain rfl := List.mem_singleton.1 mem
      exact own
  · rintro ⟨act, mem, fails⟩
    rw [session_eq]
    rcases List.mem_append.1 mem with mem | mem
    · obtain ⟨ending, gone⟩ := Option.ne_none_iff_exists'.1 (conduct.leaving ⟨act, mem, fails⟩)
      rw [own (own_of_leaving gone asks), leaving?_resume gone]
      exact Option.some_ne_none _
    · obtain rfl := List.mem_singleton.1 mem
      obtain ⟨kind, rfl⟩ := fails
      rw [leaving?_of_unsent asks (sent kind rfl)]
      exact Option.some_ne_none _
  · intro kind failed
    rw [session_eq] at failed
    rcases leaving?_of_resume failed with before | rfl
    · refine (conduct.failed kind before).imp_left ?_
      rintro ⟨act, mem, fails⟩
      exact ⟨act, List.mem_append_left _ mem, fails⟩
    · exact Or.inl ⟨_, List.mem_append_right _ List.mem_cons_self, kind, rfl⟩
  · obtain ⟨⟨left, kind, met, gone⟩, unfailing⟩ := conduct.struck struck
    obtain rfl := own (own_of_leaving gone asks)
    refine ⟨⟨left, kind, met, session_eq ▸ leaving?_resume gone⟩, fun act mem => ?_⟩
    rcases List.mem_append.1 mem with mem | mem
    · exact unfailing act mem
    · obtain rfl := List.mem_singleton.1 mem
      rintro ⟨kind, unsent⟩
      cases unsent
  · obtain ⟨later, split, replayed⟩ := conduct.replayed spared
    refine ⟨later, split, ?_⟩
    rw [hear_of_wants silent] at replayed
    rw [List.map_append, List.map_singleton, replay_concat replayed asks, session_eq]

/-- A move that does not read: what was asked for is answered, or nothing happens to the session. -/
theorem answered {system : System Executor}
    (conduct : Conduct limits phase stream transcript visit socket)
    (silent : visit.session.wants = none) (visit_eq : system.visit = some visit)
    (socket_eq : system.links[visit.link]? = some socket) {guard : Guard}
    (stands : Stands after guard)
    (session_eq : after.session = system.answer?.elim visit.session visit.session.resume) :
    Conduct limits phase stream
      { transcript with acts := transcript.acts ++ system.act?.toList } after
      { socket with guard } := by
  cases answered : system.answer? with
  | none =>
      have unacted : system.act? = none := by simp [act?, visit_eq, answered]
      rw [answered] at session_eq
      replace session_eq : after.session = visit.session := session_eq
      rw [unacted, Option.toList_none, List.append_nil]
      exact ⟨conduct.ended_eq, conduct.transient, stands, session_eq ▸ conduct.fits,
        session_eq ▸ conduct.hungry, conduct.own, session_eq ▸ conduct.leaving,
        session_eq ▸ conduct.failed, session_eq ▸ conduct.struck, session_eq ▸ conduct.replayed⟩
  | some answer =>
      obtain ⟨ask, asks⟩ : ∃ ask, visit.session.stage.ask? = some ask := by
        obtain asks | ⟨ending, ended⟩ := ask?_or_finished silent
        · exact asks
        · rw [answer?_of_ending visit_eq ended] at answered
          cases answered
      have acted : system.act? = some ⟨visit.session.phase, ask, answer⟩ := by
        simp [act?, visit_eq, asks, answered]
      obtain ⟨own, sent⟩ := conduct.stands.answered visit_eq socket_eq answered asks
      rw [answered] at session_eq
      rw [acted, Option.toList_some]
      exact conduct.resume silent asks own sent stands session_eq

end Conduct

/-! ### Whole runs -/

variable {start system : System Executor} {link : LinkId} {phase : Phase} {stream : Bytes}
  {transcript : Transcript}

structure Heard (start : System Executor) (link : LinkId) (phase : Phase) (stream : Bytes)
    (transcript : Transcript) (system : System Executor) : Prop where
  config_eq : system.config = start.config
  conduct : ∃ visit socket, system.visit = some visit ∧ visit.link = link ∧
    system.links[link]? = some socket ∧
    Conduct start.config.sessionLimits phase stream transcript visit socket

theorem Opens.heard (opens : Opens start link phase) (stream : Bytes) :
    Heard start link phase stream {} start := by
  obtain ⟨guard, socket_eq, orderly⟩ := opens.socket
  have unstruck : ¬ ({} : Transcript).Struck := fun ⟨_, _, mem⟩ => nomatch mem
  have resting : (Session.rest phase).stage.leaving? = none := by cases phase <;> rfl
  exact {
    config_eq := rfl
    conduct := ⟨_, _, opens.visit_eq, rfl, socket_eq, {
      ended_eq := rfl
      transient := by simp
      stands := ⟨orderly, by simp⟩
      fits := fits_rest phase
      hungry := Stage.hungry_atRest phase
      own := by simp
      leaving := by simp
      failed := fun kind failed => by rw [resting] at failed; cases failed
      struck := fun struck => absurd struck unstruck
      replayed := fun _ => ⟨stream, rfl, rfl⟩ }⟩ }

theorem Conduct.arrive {limits : SessionLimits} {visit : Visit} {socket : Link} {bytes : Bytes}
    (conduct : Conduct limits phase stream transcript visit socket)
    (within : transcript.arrived ++ bytes <+: stream) :
    Conduct limits phase stream { transcript with arrived := transcript.arrived ++ bytes } visit
      { socket with inbox := socket.inbox.arrive bytes } where
  __ := conduct
  ended_eq := conduct.ended_eq
  transient := conduct.transient
  stands := conduct.stands
  failed := conduct.failed
  struck := conduct.struck
  replayed spared := by
    obtain ⟨later, split, replayed⟩ := conduct.replayed spared
    obtain ⟨rest, rest_eq⟩ := within
    obtain rfl : later = bytes ++ rest := by
      rw [← rest_eq, List.append_assoc] at split
      exact (List.append_cancel_left split).symm
    rw [← List.append_assoc] at replayed
    exact ⟨rest, rest_eq.symm, replayed⟩

theorem Heard.move [DeviceExecutor Executor]
    (heard : Heard start link phase stream transcript system) (feeds : transcript.Feeds stream)
    {next : System Executor}
    (moved : system.moveSession.next? = some next) :
    Heard start link phase stream (transcript.after system) next := by
  obtain ⟨config_eq, visit, socket, visit_eq, rfl, socket_eq, conduct⟩ := heard
  obtain ⟨visit', visit_eq', move⟩ := moveSession_cases moved
  obtain rfl := Option.some.inj (visit_eq.symm.trans visit_eq')
  cases wants : visit.session.wants with
  | none =>
      obtain ⟨config_eq', after, guard, after_eq, link_eq, socket_eq', stands⟩ :=
        move.stands wants visit_eq socket_eq conduct.stands
      obtain ⟨after', after_eq', session_eq⟩ := follows_of_moved visit_eq wants moved
      obtain rfl := Option.some.inj (after_eq.symm.trans after_eq')
      refine ⟨config_eq'.trans config_eq, _, _, after_eq, link_eq, socket_eq', ?_⟩
      rw [Transcript.after, met?_of_silent visit_eq wants, Option.toList_none, List.append_nil]
      exact conduct.answered wants visit_eq socket_eq stands session_eq
  | some limit =>
      obtain ⟨socket', arrival, inbox, socket_eq', brought, rfl⟩ :=
        read_of_moved visit_eq wants moved
      obtain rfl := Option.some.inj (socket_eq.symm.trans socket_eq')
      refine ⟨config_eq, _, _, rfl, rfl, getElem?_mapLink socket_eq, ?_⟩
      rw [Transcript.after, act?_of_wants visit_eq wants, Option.toList_none, List.append_nil,
        met?_of_read visit_eq wants socket_eq brought, config_eq]
      exact conduct.read feeds wants brought

theorem Hearing.heard [DeviceExecutor Executor] (hearing : Hearing start link transcript system)
    (opens : Opens start link phase) (feeds : transcript.Feeds stream) :
    Heard start link phase stream transcript system := by
  induction hearing with
  | start => exact opens.heard stream
  | arrive _ bytes sending ih =>
      have before := (List.prefix_append _ bytes).trans feeds.arrived
      obtain ⟨config_eq, visit, socket, visit_eq, link_eq, socket_eq, conduct⟩ :=
        ih ⟨before, by simp [sending]⟩
      exact ⟨config_eq, visit, _, visit_eq, link_eq, getElem?_mapLink socket_eq,
        conduct.arrive feeds.arrived⟩
  | stumble _ kind transient ih =>
      obtain ⟨config_eq, visit, socket, visit_eq, link_eq, socket_eq, conduct⟩ := ih feeds
      refine ⟨config_eq, visit, _, visit_eq, link_eq, getElem?_mapLink socket_eq, {
        conduct with
        transient := fun fault mem => ?_ }⟩
      rcases List.mem_append.1 mem with mem | mem
      · exact conduct.transient fault mem
      · exact List.mem_singleton.1 mem ▸ transient
  | finish _ ih =>
      obtain ⟨config_eq, visit, socket, visit_eq, link_eq, socket_eq, conduct⟩ :=
        ih ⟨feeds.arrived, fun _ => feeds.ended rfl⟩
      exact ⟨config_eq, visit, _, visit_eq, link_eq, getElem?_mapLink socket_eq,
        { conduct with ended_eq := rfl }⟩
  | others _ visit_eq leaves ih =>
      obtain ⟨config_eq, visit, socket, visit_eq', rfl, socket_eq, conduct⟩ := ih feeds
      obtain rfl := Option.some.inj (visit_eq.symm.trans visit_eq')
      obtain ⟨guard, socket_eq', bystep⟩ := leaves.link socket socket_eq
      exact ⟨leaves.config_eq.trans config_eq, _, _, leaves.visit_eq.trans visit_eq, rfl, socket_eq',
        { conduct with stands := conduct.stands.bystep bystep }⟩
  | @move transcript _ _ _ moved ih =>
      have before : transcript.Feeds stream := ⟨feeds.arrived, feeds.ended⟩
      exact (ih before).move before moved

end System

end UsbExport

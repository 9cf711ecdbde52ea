import UsbExport.Proofs.Session.Hearing
import UsbExport.Proofs.Session.Stream

/-!
Two sessions on one stream. Main statements: how the stream is cut and how long it takes makes no
difference, and a fault makes one exactly if it is met in the payload of a submit that was rejected.
-/

namespace UsbExport

open Dispatch Socket

namespace System

open Session

variable {Executor : Type} {phase : Phase} {stream : Bytes} {transcript : Transcript}

theorem unstruck_of_unharmed (unharmed : transcript.met = []) : ¬ transcript.Struck := by
  rintro ⟨left, kind, mem⟩
  rw [unharmed] at mem
  cases mem

theorem silent_of_ended {session : Session} (ended : session.ending? ≠ none) :
    session.wants = none ∧ session.stage.ask? = none := by
  obtain ⟨phase, stage⟩ := session
  cases stage <;> first | exact ⟨rfl, rfl⟩ | exact absurd rfl ended

/-- Two sessions do the same, as far as both have come. One that has ended and one that does not
read any more have done the same and stand the same, or the second asks for the next thing that the
first one did. -/
structure InStep (one other : Transcript) (first second : Session) : Prop where
  together : one.acts <+: other.acts ∨ other.acts <+: one.acts
  ended : first.ending? ≠ none → second.ending? ≠ none → one.acts = other.acts ∧ first = second
  stopped : first.ending? ≠ none → second.wants = none →
    one.acts = other.acts ∧ first = second ∨
      ∃ act, other.acts ++ [act] <+: one.acts ∧ second.stage.ask? = some act.ask

/-- A run to its end and a run that has stopped. -/
theorem replays_stopped {limits : SessionLimits} {session first second : Session}
    {ahead left left' : Bytes} {acts acts' : List Act}
    (played : replay limits session ahead (acts.map Act.answer) = (acts, hear limits first left))
    (played' : replay limits session ahead (acts'.map Act.answer) =
      (acts', hear limits second left'))
    (together : acts <+: acts' ∨ acts' <+: acts) (ended : first.ending? ≠ none)
    (silent : second.wants = none) :
    acts = acts' ∧ first = second ∨
      ∃ act, acts' ++ [act] <+: acts ∧ second.stage.ask? = some act.ask := by
  obtain ⟨phase, stage⟩ := first
  obtain ⟨ending, rfl⟩ : ∃ ending, stage = .finished ending := by
    cases stage <;> first | exact ⟨_, rfl⟩ | exact absurd rfl ended
  rw [hear_of_wants rfl] at played
  rw [hear_of_wants silent] at played'
  rcases together with ⟨rest, rfl⟩ | ⟨rest, rfl⟩
  · have longer := replay_longer played played'
    rw [replay_of_ask?_eq_none rfl rfl, Prod.mk.injEq, Prod.mk.injEq] at longer
    obtain ⟨rfl, same, -⟩ := longer
    exact Or.inl ⟨(List.append_nil _).symm, same⟩
  · have longer := replay_longer played' played
    cases rest with
    | nil =>
        rw [List.map_nil, replay, hear_of_wants silent, Prod.mk.injEq, Prod.mk.injEq] at longer
        exact Or.inl ⟨List.append_nil _, longer.2.1.symm⟩
    | cons act rest =>
        refine Or.inr ⟨act, ⟨rest, by simp⟩, ?_⟩
        cases asks : second.stage.ask? with
        | none =>
            rw [replay_of_ask?_eq_none silent asks] at longer
            cases longer
        | some ask =>
            simp only [List.map_cons, replay, hear_of_wants silent, asks, Prod.mk.injEq,
              List.cons.injEq] at longer
            rw [← longer.1.1]

/-- Two sessions that were not struck part at a send that one of them got through, or are in step. -/
theorem inStep_of_heard {limits : SessionLimits} {one other : Transcript} {visit visit' : Visit}
    {socket socket' : Link} (conduct : Conduct limits phase stream one visit socket)
    (conduct' : Conduct limits phase stream other visit' socket') (spared : ¬ one.Struck)
    (spared' : ¬ other.Struck) (posts : Agree .post one.acts other.acts)
    (waits : Agree .wait one.acts other.acts) :
    (∃ frame, Parted one.acts other.acts (.send frame)) ∨
      InStep one other visit.session visit'.session := by
  obtain ⟨later, -, played⟩ := conduct.replayed spared
  obtain ⟨later', -, played'⟩ := conduct'.replayed spared'
  have alike := replay_alike limits (rest phase) stream (one.acts.map Act.answer)
    (other.acts.map Act.answer)
  rw [played, played'] at alike
  obtain ⟨ask, parted⟩ | together := alike
  · refine Or.inl ?_
    cases ask with
    | send frame => exact ⟨frame, parted⟩
    | list | importDevice | unknown | submit => exact absurd posts parted.not_agree
    | confirmation => exact absurd waits parted.not_agree
    | cancel | reset | release | close =>
        obtain ⟨before, phase, answer, answer', differ, first, second⟩ := parted
        have done := conduct.own _ (first.subset (List.mem_append_right _ List.mem_cons_self)) rfl
        have done' := conduct'.own _ (second.subset (List.mem_append_right _ List.mem_cons_self)) rfl
        exact absurd (done.trans done'.symm) differ
  · refine Or.inr ⟨together, fun ended ended' => ?_, replays_stopped played played' together⟩
    obtain ⟨silent, unasked⟩ := silent_of_ended ended'
    obtain same | ⟨act, -, asks⟩ := replays_stopped played played' together ended silent
    · exact same
    · rw [unasked] at asks
      cases asks

/-! ### Runs by script -/

/-- What a client and its socket do, and how many moves the session makes in between. -/
inductive Cue
  | bytes (piece : Bytes)
  /-- Time goes by, as much as a read is given. -/
  | pause
  | fault (kind : FaultKind)
  | stop
  | moves (count : Nat)

/-- The session moves on alone, as often as it can but at most `count` times. -/
def hearOn [DeviceExecutor Executor] :
    (count : Nat) → Transcript × System Executor → Transcript × System Executor
  | 0, state => state
  | count + 1, (transcript, system) =>
      match system.moveSession.next? with
      | some next => hearOn count (transcript.after system, next)
      | none => (transcript, system)

/-- What becomes of a run at a cue. A client that has stopped sends nothing more. -/
def follow [DeviceExecutor Executor] (link : LinkId) (state : Transcript × System Executor) :
    Cue → Transcript × System Executor
  | .bytes piece =>
      if state.1.ended then state
      else ({ state.1 with arrived := state.1.arrived ++ piece },
        state.2.mapLink link fun socket => { socket with inbox := socket.inbox.arrive piece })
  | .pause =>
      match state.2.visit with
      | some _ => (state.1, { state.2 with now := state.2.now + state.2.config.receiveTimeout })
      | none => state
  | .fault kind =>
      if kind.isTransient then
        (state.1,
          state.2.mapLink link fun socket => { socket with inbox := socket.inbox.stumble kind })
      else state
  | .stop =>
      ({ state.1 with ended := true },
        state.2.mapLink link fun socket => { socket with inbox := socket.inbox.finish })
  | .moves count => hearOn count state

theorem Hearing.hearOn [DeviceExecutor Executor] {start : System Executor} {link : LinkId}
    {state : Transcript × System Executor} (hearing : Hearing start link state.1 state.2)
    (count : Nat) :
    Hearing start link (System.hearOn count state).1 (System.hearOn count state).2 := by
  induction count generalizing state with
  | zero => exact hearing
  | succ count ih =>
      unfold System.hearOn
      split
      · next moved => exact ih (hearing.move moved)
      · exact hearing

/-- Every script is a run. -/
theorem Hearing.script [DeviceExecutor Executor] {start : System Executor} {link : LinkId}
    {state : Transcript × System Executor} (hearing : Hearing start link state.1 state.2)
    (cues : List Cue) :
    Hearing start link (cues.foldl (follow link) state).1 (cues.foldl (follow link) state).2 := by
  induction cues generalizing state with
  | nil => exact hearing
  | cons cue cues ih =>
      refine ih ?_
      cases cue with
      | bytes piece =>
          simp only [follow]
          split
          · exact hearing
          · next sending => exact hearing.arrive piece (Bool.eq_false_iff.2 sending)
      | pause =>
          simp only [follow]
          split
          · next visit visit_eq =>
              exact hearing.others visit_eq ⟨rfl, rfl, fun socket same => ⟨_, same, .none⟩⟩
          · exact hearing
      | fault kind =>
          simp only [follow]
          split
          · next transient => exact hearing.stumble kind transient
          · exact hearing
      | stop => exact hearing.finish
      | moves count => exact hearing.hearOn count

/-- A session alone with its client, and what has become of it at the end of a script. -/
def attended (phase : Phase) : System Recorder where
  config := { maxTransfer := 2 }
  links := [{ guard := { timeout := 10 } }]
  visit := some { link := 0, session := Session.rest phase }
  executor := {}

def scripted (phase : Phase) (cues : List Cue) : Transcript × System Recorder :=
  cues.foldl (follow 0) ({}, attended phase)

theorem opens_attended (phase : Phase) : Opens (attended phase) 0 phase :=
  ⟨rfl, _, rfl, ⟨by simp, fun _ => rfl⟩⟩

theorem hearing_scripted (phase : Phase) (cues : List Cue) :
    Hearing (attended phase) 0 (scripted phase cues).1 (scripted phase cues).2 :=
  Hearing.script .start cues

section Pairs

variable {Executor' : Type} [DeviceExecutor Executor] [DeviceExecutor Executor']
  {start system : System Executor} {start' system' : System Executor'} {link link' : LinkId}
  {one other : Transcript} {visit visit' : Visit}

/-- A session whose client has stopped does not wait for it. -/
theorem Heard.silent_of_blocked (heard : Heard start link phase stream transcript system)
    (visit_eq : system.visit = some visit) (ended : transcript.ended = true)
    (blocked : system.moveSession.next? = none) : visit.session.wants = none := by
  obtain ⟨-, visit', socket, visit_eq', rfl, socket_eq, conduct⟩ := heard
  obtain rfl := Option.some.inj (visit_eq.symm.trans visit_eq')
  by_contra reads
  obtain ⟨limit, wants⟩ := Option.ne_none_iff_exists'.1 reads
  obtain ⟨brought, brings⟩ : ∃ brought,
      socket.inbox.read limit system.now (system.readTimeout visit) = some brought := by
    unfold Inbox.read
    rw [conduct.ended_eq, ended]
    split
    · split <;> exact ⟨_, rfl⟩
    · exact ⟨_, rfl⟩
  rw [moveSession_of_wants visit_eq wants, readInput, socket_eq] at blocked
  simp [brings, Move.next?] at blocked

/-- How a stream is cut into reads, and how long it takes to come, makes no difference. Two sessions
that begin in the same phase on the same stream, and are answered the same by the channels and the
executor, do the same in the same phases, come to the same end, and stop for nothing but an answer;
only a send that one of them gets through and the other does not can tell them apart. -/
theorem alike_however_read (opens : Opens start link phase) (opens' : Opens start' link' phase)
    (limits : start.config.sessionLimits = start'.config.sessionLimits)
    (hearing : Hearing start link one system) (hearing' : Hearing start' link' other system')
    (feeds : one.Feeds stream) (feeds' : other.Feeds stream)
    (unharmed : one.met = []) (unharmed' : other.met = [])
    (posts : Agree .post one.acts other.acts) (waits : Agree .wait one.acts other.acts)
    (visit_eq : system.visit = some visit) (visit_eq' : system'.visit = some visit') :
    (∃ frame, Parted one.acts other.acts (.send frame)) ∨
      InStep one other visit.session visit'.session ∧
        (other.ended = true → system'.moveSession.next? = none → visit'.session.wants = none) := by
  have heard := hearing.heard opens feeds
  have heard' := hearing'.heard opens' feeds'
  obtain ⟨-, _, _, same, -, -, conduct⟩ := id heard
  obtain ⟨-, _, _, same', -, -, conduct'⟩ := id heard'
  obtain rfl := Option.some.inj (visit_eq.symm.trans same)
  obtain rfl := Option.some.inj (visit_eq'.symm.trans same')
  rw [← limits] at conduct'
  refine (inStep_of_heard conduct conduct' (unstruck_of_unharmed unharmed)
    (unstruck_of_unharmed unharmed') posts waits).imp_right fun inStep => ⟨inStep, ?_⟩
  exact heard'.silent_of_blocked visit_eq'

/-- Both frames in one piece, or cut inside a header and inside a body with pauses in between. -/
def atOnce : List Cue := [.bytes (twoFrames.flatMap UrbFrame.bytes), .stop, .moves 60]

def inPieces : List Cue :=
  [.moves 5, .pause, .moves 5, .bytes ((twoFrames.flatMap UrbFrame.bytes).take 7), .moves 5, .pause,
    .moves 5, .bytes (((twoFrames.flatMap UrbFrame.bytes).drop 7).take 60), .moves 5, .pause,
    .moves 5, .bytes ((twoFrames.flatMap UrbFrame.bytes).drop 67), .moves 60, .stop, .moves 60]

theorem alike_however_read_of_two_cuts :
    InStep (scripted .busy atOnce).1 (scripted .busy inPieces).1 ⟨.idle, .finished .detached⟩
        ⟨.idle, .finished .detached⟩ ∧
      (scripted .busy inPieces).1.acts.length = 6 := by
  have opens := opens_attended .busy
  have feeds : (scripted .busy atOnce).1.Feeds (twoFrames.flatMap UrbFrame.bytes) := by
    have all : (scripted .busy atOnce).1.arrived = twoFrames.flatMap UrbFrame.bytes := by
      decide +kernel
    exact ⟨all ▸ List.prefix_rfl, fun _ => all⟩
  have feeds' : (scripted .busy inPieces).1.Feeds (twoFrames.flatMap UrbFrame.bytes) := by
    have all : (scripted .busy inPieces).1.arrived = twoFrames.flatMap UrbFrame.bytes := by
      decide +kernel
    exact ⟨all ▸ List.prefix_rfl, fun _ => all⟩
  have same : (scripted .busy atOnce).1.acts = (scripted .busy inPieces).1.acts := by
    decide +kernel
  have agree (kind : Ask.Kind) :
      Agree kind (scripted .busy atOnce).1.acts (scripted .busy inPieces).1.acts := by
    rw [same]
    exact Or.inl List.prefix_rfl
  obtain ⟨frame, parted⟩ | ⟨inStep, -⟩ := alike_however_read opens opens rfl
    (hearing_scripted .busy atOnce) (hearing_scripted .busy inPieces) feeds feeds'
    (by decide +kernel) (by decide +kernel) (agree .post) (agree .wait) rfl rfl
  · exact absurd (agree .send) parted.not_agree
  · exact ⟨inStep, by decide +kernel⟩

/-- Faults that pass make no difference, except one that is met while the session reads past a
submit that it has rejected. That one ends the session, so two sessions that differ in nothing but
such faults do the same and end the same exactly if there was none. -/
theorem altered_iff_struck (opens : Opens start link phase) (opens' : Opens start' link' phase)
    (limits : start.config.sessionLimits = start'.config.sessionLimits)
    (hearing : Hearing start link one system) (hearing' : Hearing start' link' other system')
    (feeds : one.Feeds stream) (feeds' : other.Feeds stream) (unharmed' : other.met = [])
    (posts : Agree .post one.acts other.acts) (waits : Agree .wait one.acts other.acts)
    (visit_eq : system.visit = some visit) (visit_eq' : system'.visit = some visit') :
    (∃ frame, Parted one.acts other.acts (.send frame)) ∨
      (¬ one.Struck → InStep one other visit.session visit'.session) ∧
        (visit.session.ending? ≠ none → visit'.session.ending? ≠ none →
          (one.acts = other.acts ∧ visit.session = visit'.session ↔ ¬ one.Struck)) ∧
        (one.Struck → ∃ left kind, (Stage.skipping left, kind) ∈ one.met ∧
          visit.session.stage.leaving? = some (.failed kind)) := by
  obtain ⟨-, _, _, same, -, -, conduct⟩ := hearing.heard opens feeds
  obtain ⟨-, _, _, same', -, -, conduct'⟩ := hearing'.heard opens' feeds'
  obtain rfl := Option.some.inj (visit_eq.symm.trans same)
  obtain rfl := Option.some.inj (visit_eq'.symm.trans same')
  rw [← limits] at conduct'
  have spared' := unstruck_of_unharmed unharmed'
  by_cases struck : one.Struck
  · obtain ⟨⟨left, kind, met, leaving⟩, unfailing⟩ := conduct.struck struck
    refine Or.inr ⟨fun spared => absurd struck spared, fun _ _ => ?_,
      fun _ => ⟨left, kind, met, leaving⟩⟩
    refine ⟨fun ⟨acts_eq, session_eq⟩ => ?_, fun spared => absurd struck spared⟩
    -- the other one can only have failed at a send, and then this one would have
    rw [session_eq] at leaving
    obtain ⟨act, mem, fails⟩ := (conduct'.failed kind leaving).resolve_right spared'
    exact absurd fails (unfailing act (acts_eq ▸ mem))
  · refine (inStep_of_heard conduct conduct' struck spared' posts waits).imp_right fun inStep => ?_
    exact ⟨fun _ => inStep, fun ended ended' => iff_of_true (inStep.ended ended ended') struck,
      fun strikes => absurd strikes struck⟩

/-- A submit of eight bytes where two are allowed, and the cancelling of another URB. -/
def tooLarge : List UrbFrame :=
  [.submit ⟨1, 9, 1, 0, 2⟩ ⟨0, 8, 0, 0, 0, .zero 8⟩ rfl ⟨[1, 2, 3, 4, 5, 6, 7, 8], rfl⟩ (.zero 0),
    .unlink ⟨2, 10, 1, 0, 0⟩ rfl 4 (.zero 24)]

/-- A read fails for a moment when three bytes of the payload are behind it, or none does. -/
def disturbed : List Cue :=
  [.bytes ((tooLarge.flatMap UrbFrame.bytes).take 51), .moves 10, .fault .wouldBlock, .moves 10,
    .bytes ((tooLarge.flatMap UrbFrame.bytes).drop 51), .stop, .moves 60]

def undisturbed : List Cue := [.bytes (tooLarge.flatMap UrbFrame.bytes), .stop, .moves 60]

theorem altered_of_fault_in_rejected_payload :
    (scripted .busy disturbed).1.Struck ∧
      ¬ ((scripted .busy disturbed).1.acts = (scripted .busy undisturbed).1.acts ∧
        (⟨.idle, .finished (.failed .wouldBlock)⟩ : Session) = ⟨.idle, .finished .detached⟩) ∧
      (scripted .busy disturbed).1.acts.length + 2 = (scripted .busy undisturbed).1.acts.length := by
  have opens := opens_attended .busy
  have feeds : (scripted .busy disturbed).1.Feeds (tooLarge.flatMap UrbFrame.bytes) := by
    have all : (scripted .busy disturbed).1.arrived = tooLarge.flatMap UrbFrame.bytes := by
      decide +kernel
    exact ⟨all ▸ List.prefix_rfl, fun _ => all⟩
  have feeds' : (scripted .busy undisturbed).1.Feeds (tooLarge.flatMap UrbFrame.bytes) := by
    have all : (scripted .busy undisturbed).1.arrived = tooLarge.flatMap UrbFrame.bytes := by
      decide +kernel
    exact ⟨all ▸ List.prefix_rfl, fun _ => all⟩
  have met : (scripted .busy disturbed).1.met = [(.skipping 5, .wouldBlock)] := by decide +kernel
  have struck : (scripted .busy disturbed).1.Struck :=
    ⟨5, .wouldBlock, by rw [met]; exact List.mem_singleton_self _⟩
  have unsent : answersTo .send (scripted .busy disturbed).1.acts = [] := by decide +kernel
  have agree (kind : Ask.Kind) (none : answersTo kind (scripted .busy disturbed).1.acts = []) :
      Agree kind (scripted .busy disturbed).1.acts (scripted .busy undisturbed).1.acts :=
    Or.inl (none ▸ List.nil_prefix)
  obtain ⟨frame, parted⟩ | ⟨-, altered, -⟩ := altered_iff_struck opens opens rfl
    (hearing_scripted .busy disturbed) (hearing_scripted .busy undisturbed) feeds feeds'
    (by decide +kernel) (agree .post (by decide +kernel)) (agree .wait (by decide +kernel)) rfl rfl
  · exact absurd (agree .send unsent) parted.not_agree
  · exact ⟨struck,
      fun same => (altered (Option.some_ne_none _) (Option.some_ne_none _)).1 same struck,
      by decide +kernel⟩

end Pairs

end System

end UsbExport

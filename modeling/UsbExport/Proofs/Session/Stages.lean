import UsbExport.Proofs.Session.Phases

/-!
From which stage a session can come to which. A read brings it neither to an answer it waits for nor
to its clean-up; only a request makes it wait; and what was reset stays so.
-/

namespace UsbExport

open Dispatch Socket

namespace Session

theorem Stage.awaits_cases {stage : Stage} (awaits : stage.awaits = true) :
    stage = .awaitingList ∨ stage = .awaitingImport := by
  cases stage <;> first | exact Or.inl rfl | exact Or.inr rfl | cases awaits

/-- Where a read can lead. -/
def Stage.followsRead : Stage → Bool
  | .awaitingList | .awaitingImport | .acknowledging _ | .releasing _ | .closing _ | .finished _ =>
      false
  | _ => true

theorem Part.followsRead_complete (limits : SessionLimits) (bytes : Bytes) (part : Part) :
    (part.complete limits bytes).followsRead = true := by
  have skip (count : Nat) : (Stage.skip count).followsRead = true := by
    unfold Stage.skip
    split <;> rfl
  have collect (header : UrbHeader) (params : SubmitParams) (data : Bytes) :
      (Stage.collectDescriptors header params data).followsRead = true := by
    unfold Stage.collectDescriptors
    split <;> rfl
  cases part with
  | payload header params => exact collect _ _ _
  | _ =>
      simp only [complete, Stage.afterControlHeader, Stage.afterUrbHeader, Stage.afterParams,
        Stage.collectPayload]
      repeat' split
      all_goals first
        | rfl
        | exact skip _
        | exact collect _ _ _

theorem followsRead_receive {session : Session} {limit : Nat} (wants : session.wants = some limit)
    (limits : SessionLimits) (arrival : Arrival) :
    (session.receive limits arrival).stage.followsRead = true := by
  have reads : session.stage.followsRead = true := by
    unfold Session.wants at wants
    split at wants <;> next stage_eq => first | (rw [stage_eq]; rfl) | cases wants
  cases arrival with
  | bytes bytes =>
      simp only [receive, take]
      split
      · split
        · rfl
        · exact Part.followsRead_complete _ _ _
      · unfold Stage.skip
        split <;> rfl
      · exact reads
  | disturbance what =>
      have waited : session.elapse.stage.followsRead = true := by
        obtain same | ⟨-, -, rested⟩ := elapse_cases session
        · rwa [same]
        · rw [rested]
          cases session.phase <;> rfl
      simp only [receive, disturb]
      repeat' split
      all_goals first | exact reads | exact waited | rfl
  | nothing => exact reads

/-- The flags of the device were reset. -/
def Stage.isReset : Stage → Bool
  | .releasing _ | .closing _ | .finished _ => true
  | _ => false

theorem Stage.isReset_of_request? {stage : Stage} {slot : SlotId}
    {request : ControlHeader × ControlCommand} (posting : stage.request? slot = some request) :
    stage.isReset = false := by
  cases stage <;> first | rfl | cases posting

/-- The answer to a command that a stage waits for. -/
def Stage.Expects : Stage → ControlCommand → Prop
  | .awaitingList, .deviceList _ _ | .awaitingImport, .importDevice _ _ => True
  | _, _ => False

theorem awaits_rest (phase : Phase) : (rest phase).stage.awaits = false := by
  cases phase <;> rfl

/-- Whoever waits for an answer after going on has asked for it just now. -/
theorem awaits_resume {session : Session} {answer : Answer}
    (awaits : (session.resume answer).stage.awaits = true)
    (answered : session.stage.awaits = true → ∃ yes, answer = .taken yes) :
    answer = .taken true ∧ ∀ slot, ∃ header command,
      session.stage.request? slot = some (header, command) ∧
        (session.resume answer).stage.Expects command := by
  obtain ⟨phase, stage⟩ := session
  unfold resume at awaits ⊢
  split at awaits
  all_goals first
    | (next stage_eq =>
        cases stage_eq
        exact ⟨rfl, fun slot => ⟨_, _, rfl, trivial⟩⟩)
    | (rw [awaits_rest] at awaits; cases awaits)
    | cases awaits
    | skip
  -- what is left goes on as it was, and an answer would have ended its waiting
  obtain ⟨yes, rfl⟩ := answered awaits
  rcases Stage.awaits_cases awaits with rfl | rfl <;> cases yes <;> simp at *

theorem isReset_resume {session : Session} (reset : session.stage.isReset = true)
    (answer : Answer) : (session.resume answer).stage.isReset = true := by
  unfold resume
  split
  all_goals first
    | rfl
    | exact reset
    | (next stage_eq => rw [stage_eq] at reset; cases reset)

theorem isReset_resume_eq_false {session : Session} (unreset : session.stage.isReset = false)
    {answer : Answer} (unended : answer = .done → ∀ ending, session.stage ≠ .resetting ending) :
    (session.resume answer).stage.isReset = false := by
  have rested (phase : Phase) : (rest phase).stage.isReset = false := by cases phase <;> rfl
  unfold resume
  split
  all_goals first
    | rfl
    | exact rested _
    | exact unreset
    | exact absurd ‹_› (unended rfl _)
    | (next stage_eq => rw [stage_eq] at unreset; cases unreset)

/-- A session that cleans up does not go back. -/
theorem phase?_resume_eq_none {session : Session} (leaving : session.stage.phase? = none)
    (answer : Answer) : (session.resume answer).stage.phase? = none := by
  unfold resume
  split
  all_goals first
    | rfl
    | exact leaving
    | (next stage_eq => rw [stage_eq] at leaving; cases leaving)

/-- A session is over when its socket is closed. -/
theorem finished_resume {session : Session} {answer : Answer} {ending : Ending}
    (finished : (session.resume answer).stage = .finished ending) :
    session.stage = .finished ending ∨ session.stage = .closing ending ∧ answer = .done := by
  have rested (phase : Phase) : (rest phase).stage ≠ .finished ending := by
    cases phase <;> exact Stage.noConfusion
  unfold resume at finished
  split at finished
  all_goals first
    | exact absurd finished (rested _)
    | cases finished
    | exact Or.inl finished
  exact Or.inr ⟨‹_›, rfl⟩

/-- The flags were reset, and the device is going to be released. -/
def Stage.isReleasing : Stage → Bool
  | .releasing _ => true
  | _ => false

theorem isReleasing_receive {session : Session} {limit : Nat}
    (wants : session.wants = some limit) (limits : SessionLimits) (arrival : Arrival) :
    (session.receive limits arrival).stage.isReleasing = session.stage.isReleasing := by
  have follows := followsRead_receive wants limits arrival
  have reading : session.stage.isReleasing = false := by
    unfold Session.wants at wants
    split at wants <;> next stage_eq => first | (rw [stage_eq]; rfl) | cases wants
  rw [reading]
  cases stage_eq : (session.receive limits arrival).stage <;>
    first | rfl | (rw [stage_eq] at follows; cases follows)

/-- Only the reset of the flags brings a session to the release. -/
theorem isReleasing_resume {session : Session} {answer : Answer}
    (unreset : ∀ ending, session.stage ≠ .resetting ending)
    (unreleased : session.stage.isReleasing = false) :
    (session.resume answer).stage.isReleasing = false := by
  have rested (phase : Phase) : (rest phase).stage.isReleasing = false := by cases phase <;> rfl
  unfold resume
  split
  all_goals first
    | rfl
    | exact rested _
    | exact unreleased
    | next stage_eq => exact absurd stage_eq (unreset _)

theorem isReleasing_resume_taken (session : Session) (yes : Bool) :
    (session.resume (.taken yes)).stage.isReleasing = session.stage.isReleasing := by
  have rested (phase : Phase) : (rest phase).stage.isReleasing = false := by cases phase <;> rfl
  obtain ⟨phase, stage⟩ := session
  cases stage with
  | postingList header status cut =>
      cases cut <;> cases yes <;> first | rfl | exact rested _
  | _ => cases yes <;> first | rfl | exact rested _

end Session

end UsbExport

import UsbExport.Proofs.Session.Hearing

/-!
The stay of a client, from when its session begins to when the server goes on without it. Main
statements: whatever a session reads and however it is answered, it comes from one milestone of its
stay to the next one; it is struck by the end of the input, by a read that fails or by an
acknowledgement that cannot be sent, and by nothing else.
-/

namespace UsbExport

open Dispatch Socket

/-- What a session ends by. -/
inductive Cause
  /-- A read has found the end of the input. -/
  | inputEnded
  /-- A read has failed. -/
  | unread (kind : FaultKind)
  /-- A cancellation could not be acknowledged. -/
  | unsent (kind : FaultKind)
deriving DecidableEq, Repr

/-- How a session ends that is struck in this phase. -/
def Cause.ending (phase : Phase) : Cause → Ending
  | .inputEnded => phase.departure
  | .unread kind | .unsent kind => .failed kind

/-- What befalls a session, up to when the server goes on without it. -/
inductive Milestone
  | begun (link : LinkId)
  /-- From now on the session is going to end. -/
  | struck (phase : Phase) (cause : Cause)
  | reset
  | released
  | closed
  | over (ending : Ending)
deriving DecidableEq, Repr

structure Stay where
  link : LinkId
  phase : Phase
  cause : Cause
deriving DecidableEq, Repr

namespace Stay

def ending (stay : Stay) : Ending := stay.cause.ending stay.phase

/-- All that there is to a stay: a session is served, it is struck, it cleans up, and it is over. -/
def course (stay : Stay) : List Milestone :=
  [.begun stay.link, .struck stay.phase stay.cause, .reset, .released, .closed, .over stay.ending]

end Stay

namespace Session

/-- The input has ended inside a device list request, and the list is still to be asked for or to
come. -/
def Stage.isCut : Stage → Bool
  | .postingList _ _ cut => cut
  | .awaitingList => true
  | _ => false

/-- How many milestones lie behind a session. -/
def Stage.progress : Stage → Nat
  | .postingList _ _ true | .awaitingList | .resetting _ => 2
  | .releasing _ => 3
  | .closing _ => 4
  | .finished _ => 5
  | _ => 1

/-- A session that was struck ends as it does in this stay. -/
structure Suits (stay : Stay) (session : Session) : Prop where
  cut : session.stage.isCut = true → session.phase = stay.phase ∧ stay.cause = .inputEnded
  leaving : ∀ ending, session.stage.leaving? = some ending → ending = stay.ending

/-- The milestone that a session comes to by a read. -/
def reads? (session : Session) : Arrival → Option Milestone
  | .bytes _ | .disturbance .silence | .nothing => none
  | .disturbance .inputEnded => some (.struck session.phase .inputEnded)
  | .disturbance (.fault kind) =>
      if session.disturb (.fault kind) = session then none
      else some (.struck session.phase (.unread kind))

/-- The milestone that a session comes to by an answer. -/
def hears? (session : Session) (answer : Answer) : Option Milestone :=
  match session.stage, answer with
  | .acknowledging _, .failed kind => some (.struck session.phase (.unsent kind))
  | .resetting _, .done => some .reset
  | .releasing _, .done => some .released
  | .closing _, .done => some .closed
  | _, _ => none

/-- A session goes on to a milestone, or on its way there. -/
def GoesOn (session : Session) (milestone : Option Milestone) (next : Session) : Prop :=
  ∀ stay, Suits stay session → ∃ stay' : Stay, stay'.link = stay.link ∧ Suits stay' next ∧
    stay'.course.take next.stage.progress =
      stay.course.take session.stage.progress ++ milestone.toList

/-! ### A session that is served -/

/-- Nothing has struck the session so far. -/
structure Stage.IsServing (stage : Stage) : Prop where
  uncut : stage.isCut = false
  staying : stage.leaving? = none

namespace Stage.IsServing

variable {stage : Stage} {session next : Session}

theorem progress_eq (serving : stage.IsServing) : stage.progress = 1 := by
  obtain ⟨uncut, staying⟩ := serving
  cases stage with
  | postingList header status cut =>
      obtain rfl : cut = false := uncut
      rfl
  | resetting | releasing | closing | finished => cases staying
  | awaitingList => cases uncut
  | _ => rfl

theorem suits (serving : session.stage.IsServing) (stay : Stay) : Suits stay session where
  cut cut := by simp [serving.uncut] at cut
  leaving ending leaving := by simp [serving.staying] at leaving

theorem goesOn (serving : session.stage.IsServing) (after : next.stage.IsServing) :
    session.GoesOn none next := by
  intro stay _
  refine ⟨stay, rfl, after.suits stay, ?_⟩
  rw [serving.progress_eq, after.progress_eq, Option.toList_none, List.append_nil]

/-- A session that is struck while it is served. -/
theorem struck (serving : session.stage.IsServing) {phase : Phase} {cause : Cause}
    (suits : ∀ link, Suits ⟨link, phase, cause⟩ next) (progress_eq : next.stage.progress = 2) :
    session.GoesOn (some (.struck phase cause)) next := by
  intro stay _
  refine ⟨⟨stay.link, phase, cause⟩, rfl, suits stay.link, ?_⟩
  rw [serving.progress_eq, progress_eq]
  rfl

/-- A session begins to clean up. -/
theorem resets (serving : session.stage.IsServing) {phase : Phase} {cause : Cause}
    (stage_eq : next.stage = .resetting (cause.ending phase)) :
    session.GoesOn (some (.struck phase cause)) next := by
  refine serving.struck (fun link => ⟨?_, ?_⟩) (by rw [stage_eq]; rfl)
  · rw [stage_eq]
    exact fun cut => by cases cut
  · rw [stage_eq]
    exact fun ending leaving => (Option.some.inj leaving).symm

end Stage.IsServing

theorem isServing_rest (phase : Phase) : (rest phase).stage.IsServing := by
  cases phase <;> exact ⟨rfl, rfl⟩

theorem isServing_of_wants {session : Session} {limit : Nat}
    (wants : session.wants = some limit) : session.stage.IsServing := by
  unfold Session.wants at wants
  split at wants <;> next stage_eq => first | (rw [stage_eq]; exact ⟨rfl, rfl⟩) | cases wants

theorem Part.isCut_complete (limits : SessionLimits) (bytes : Bytes) (part : Part) :
    (part.complete limits bytes).isCut = false := by
  have skip (count : Nat) : (Stage.skip count).isCut = false := by
    unfold Stage.skip
    split <;> rfl
  have collect (header : UrbHeader) (params : SubmitParams) (data : Bytes) :
      (Stage.collectDescriptors header params data).isCut = false := by
    unfold Stage.collectDescriptors
    split <;> rfl
  cases part with
  | payload header params => exact collect _ _ _
  | _ =>
      simp only [complete, Stage.afterControlHeader, Stage.afterUrbHeader, Stage.afterParams,
        Stage.collectPayload]
      repeat' split
      all_goals first
        | rfl
        | exact skip _
        | exact collect _ _ _

/-- Whatever bytes a client sends, it is served on. -/
theorem isServing_take {session : Session} {limit : Nat} (wants : session.wants = some limit)
    (limits : SessionLimits) (bytes : Bytes) : (session.take limits bytes).stage.IsServing := by
  refine ⟨?_, System.leaving?_take wants limits bytes⟩
  simp only [take]
  split
  · split
    · rfl
    · exact Part.isCut_complete _ _ _
  · unfold Stage.skip
    split <;> rfl
  · exact (isServing_of_wants wants).uncut

theorem disturb_fault (session : Session) (kind : FaultKind) :
    session.disturb (.fault kind) = session ∨
      session.disturb (.fault kind) = session.fail kind := by
  obtain ⟨phase, stage⟩ := session
  cases stage with
  | collecting part got =>
      simp only [disturb]
      split
      · exact Or.inl rfl
      · exact Or.inr rfl
  | skipping left => exact Or.inr rfl
  | _ => exact Or.inl rfl

theorem isServing_elapse {session : Session} (serving : session.stage.IsServing) :
    session.elapse.stage.IsServing := by
  obtain same | ⟨-, -, rested⟩ := elapse_cases session
  · rwa [same]
  · rw [rested]
    exact isServing_rest _

/-- A read brings nothing that ends a session but the end of the input and a fault. -/
theorem goesOn_receive {session : Session} {limit : Nat} (wants : session.wants = some limit)
    (limits : SessionLimits) (arrival : Arrival) :
    session.GoesOn (session.reads? arrival) (session.receive limits arrival) := by
  have serving := isServing_of_wants wants
  obtain ⟨phase, stage⟩ := session
  cases arrival with
  | bytes bytes => exact serving.goesOn (isServing_take wants limits bytes)
  | disturbance what =>
      cases what with
      | inputEnded =>
          cases stage with
          | collecting part got =>
              cases part with
              | listStatus header =>
                  refine serving.struck (fun link => ⟨fun _ => ⟨rfl, rfl⟩, ?_⟩) rfl
                  exact fun ending leaving => by cases leaving
              | _ => exact serving.resets rfl
          | skipping left => exact serving.resets rfl
          | _ => cases wants
      | fault kind =>
          simp only [reads?, receive]
          split
          · next same =>
              rw [same]
              exact serving.goesOn serving
          · next more =>
              rw [(disturb_fault _ kind).resolve_left more]
              exact serving.resets rfl
      | silence => exact serving.goesOn (isServing_elapse serving)
  | nothing => exact serving.goesOn serving

/-- A session whose input has ended leaves with its client. -/
theorem goesOn_depart {session : Session} (cut : session.stage.isCut = true)
    (progress_eq : session.stage.progress = 2) : session.GoesOn none session.depart := by
  intro stay suits
  obtain ⟨phase_eq, cause_eq⟩ := suits.cut cut
  refine ⟨stay, rfl, ⟨Bool.noConfusion, fun ending leaving => ?_⟩, ?_⟩
  · rw [← Option.some.inj leaving, Stay.ending, cause_eq, phase_eq]
    rfl
  · rw [progress_eq, Option.toList_none, List.append_nil]
    rfl

/-- No answer ends a session that is served but a failure to send; otherwise a session that was
struck goes on as it has to. -/
theorem goesOn_resume (session : Session) (answer : Answer) :
    session.GoesOn (session.hears? answer) (session.resume answer) := by
  have same {milestone : Option Milestone} (none_eq : milestone = none) :
      session.GoesOn milestone session := by
    subst none_eq
    exact fun stay suits => ⟨stay, rfl, suits, (List.append_nil _).symm⟩
  have rested {phase : Phase} (serving : session.stage.IsServing) :
      session.GoesOn none (rest phase) := serving.goesOn (isServing_rest phase)
  obtain ⟨phase, stage⟩ := session
  cases answer with
  | done =>
      cases stage with
      | cancelling header target => exact Stage.IsServing.goesOn ⟨rfl, rfl⟩ ⟨rfl, rfl⟩
      | acknowledging seqnum => exact rested ⟨rfl, rfl⟩
      | resetting ending | releasing ending | closing ending =>
          exact fun stay suits => ⟨stay, rfl, ⟨Bool.noConfusion, suits.leaving⟩, rfl⟩
      | postingList header status cut => cases cut <;> exact same rfl
      | _ => exact same rfl
  | taken yes =>
      cases stage with
      | postingList header status cut =>
          cases cut with
          | false => exact rested ⟨rfl, rfl⟩
          | true =>
              cases yes with
              | false => exact goesOn_depart rfl rfl
              | true => exact fun stay suits => ⟨stay, rfl, ⟨suits.cut, suits.leaving⟩, rfl⟩
      | awaitingList => exact goesOn_depart rfl rfl
      | postingImport header request =>
          cases yes with
          | false => exact rested ⟨rfl, rfl⟩
          | true => exact Stage.IsServing.goesOn ⟨rfl, rfl⟩ ⟨rfl, rfl⟩
      | awaitingImport => cases yes <;> exact rested ⟨rfl, rfl⟩
      | postingUnknown header => exact rested ⟨rfl, rfl⟩
      | submitting submit => exact rested ⟨rfl, rfl⟩
      | _ => exact same rfl
  | failed kind =>
      cases stage with
      | acknowledging seqnum => exact Stage.IsServing.resets ⟨rfl, rfl⟩ rfl
      | postingList header status cut => cases cut <;> exact same rfl
      | _ => exact same rfl

end Session

end UsbExport

import UsbExport.Proofs.Session.Deeds

/-!
What a session does in which phase. Only a confirmed import makes it busy, and it stays busy until
it has let the device go.
-/

namespace UsbExport

open Dispatch Socket

namespace Session

def Part.phase : Part → Phase
  | controlHeader | listStatus _ | importBody _ => .idle
  | _ => .busy

/-- The phase of a stage, as long as the session goes on. -/
def Stage.phase? : Stage → Option Phase
  | .collecting part _ => some part.phase
  | .skipping _ | .submitting _ | .cancelling _ _ | .acknowledging _ => some .busy
  | .postingList _ _ _ | .postingImport _ _ | .postingUnknown _ => some .idle
  | .awaitingList | .awaitingImport => some .idle
  | .resetting _ | .releasing _ | .closing _ | .finished _ => none

/-- The stage goes with the phase. -/
def Fits (session : Session) : Prop := ∀ phase ∈ session.stage.phase?, session.phase = phase

theorem fits_rest (phase : Phase) : (rest phase).Fits := by
  cases phase <;> simp [Fits, rest, Stage.atRest, Stage.phase?, Part.phase]

/-- A session that waits for a command to begin waits where it rests. -/
theorem elapse_eq {session : Session} (fits : session.Fits) : session.elapse = session := by
  obtain ⟨phase, stage⟩ := session
  unfold elapse
  split
  · next stage_eq =>
      obtain rfl : stage = _ := stage_eq
      obtain rfl : phase = .idle := fits .idle rfl
      rfl
  · next stage_eq =>
      obtain rfl : stage = _ := stage_eq
      obtain rfl : phase = .busy := fits .busy rfl
      rfl
  · rfl

theorem Stage.phase?_skip (count : Nat) : (Stage.skip count).phase? = some .busy := by
  unfold Stage.skip
  split <;> rfl

theorem Stage.phase?_collectDescriptors (header : UrbHeader) (params : SubmitParams)
    (data : Bytes) : (Stage.collectDescriptors header params data).phase? = some .busy := by
  unfold Stage.collectDescriptors
  split <;> rfl

theorem Part.phase?_complete (limits : SessionLimits) (bytes : Bytes) (part : Part) :
    (part.complete limits bytes).phase? = some part.phase := by
  cases part with
  | controlHeader =>
      simp only [complete, Stage.afterControlHeader]
      repeat' split
      all_goals rfl
  | listStatus header => rfl
  | importBody header =>
      simp only [complete]
      split <;> rfl
  | urbHeader =>
      simp only [complete, Stage.afterUrbHeader]
      repeat' split
      all_goals rfl
  | submitParams header =>
      simp only [complete, Stage.afterParams, Stage.collectPayload]
      repeat' split
      all_goals first
        | rfl
        | exact Stage.phase?_skip _
        | exact Stage.phase?_collectDescriptors _ _ _
  | payload header params => exact Stage.phase?_collectDescriptors _ _ _
  | descriptors header params data => rfl
  | unlinkParams header =>
      simp only [complete]
      split <;> rfl

theorem Stage.phase_of_request? {stage : Stage} {slot : SlotId} {header : ControlHeader}
    {command : ControlCommand} (posting : stage.request? slot = some (header, command)) :
    stage.phase? = some .idle ∧ (command.slot? = none ∨ command.slot? = some slot) := by
  cases stage <;> cases posting
  · exact ⟨rfl, Or.inr rfl⟩
  · exact ⟨rfl, Or.inr rfl⟩
  · exact ⟨rfl, Or.inl rfl⟩

theorem phase_receive (limits : SessionLimits) (session : Session) (arrival : Arrival) :
    (session.receive limits arrival).phase = session.phase := by
  unfold receive take disturb elapse
  split
  · split <;> rfl
  · split <;> first | rfl | split <;> rfl
  · rfl

theorem Fits.receive {session : Session} (fits : session.Fits) (limits : SessionLimits)
    (arrival : Arrival) : (session.receive limits arrival).Fits := by
  intro phase found
  rw [phase_receive]
  refine fits phase ?_
  cases arrival with
  | bytes bytes =>
      simp only [Session.receive, take] at found
      split at found
      · next part got stage_eq =>
          rw [stage_eq]
          split at found
          · exact found
          · rwa [Part.phase?_complete] at found
      · next left stage_eq =>
          rw [stage_eq]
          rwa [Stage.phase?_skip] at found
      · exact found
  | disturbance what =>
      simp only [Session.receive, disturb] at found
      split at found
      · next header got _ stage_eq =>
          rw [stage_eq]
          exact found
      · cases found
      · cases found
      · split at found
        · exact found
        · cases found
      · cases found
      · rwa [elapse_eq fits] at found
      · exact found
  | nothing => exact found

theorem Fits.resume {session : Session} (fits : session.Fits) (answer : Answer) :
    (session.resume answer).Fits := by
  have same {stage : Stage} (eq : stage.phase? = session.stage.phase?) :
      ({ session with stage } : Session).Fits := by
    intro phase found
    exact fits phase (eq ▸ found)
  unfold Session.resume
  split
  · next stage_eq => exact same (by rw [stage_eq]; rfl)
  · exact fun _ found => nomatch found
  · exact fits_rest _
  · next stage_eq => exact same (by rw [stage_eq]; rfl)
  · exact fits_rest _
  · exact fits_rest _
  · exact fun _ found => nomatch found
  · exact fits_rest _
  · exact fits_rest _
  · exact fits_rest _
  · next stage_eq => exact same (by rw [stage_eq]; rfl)
  · exact fits_rest _
  · exact fun _ found => nomatch found
  · exact fun _ found => nomatch found
  · exact fun _ found => nomatch found
  · exact fun _ found => nomatch found
  · exact fits

/-- Only a confirmed import makes a session busy. -/
theorem phase_of_resume {session : Session} {answer : Answer}
    (busy : (session.resume answer).phase = .busy) :
    session.phase = .busy ∨ session.stage = .awaitingImport ∧ answer = .taken true := by
  by_cases confirmed : session.stage = .awaitingImport ∧ answer = .taken true
  · exact Or.inr confirmed
  · refine Or.inl ?_
    unfold Session.resume at busy
    split at busy
    all_goals first
      | exact busy
      | exact absurd ⟨‹_›, rfl⟩ confirmed
      | exact nomatch busy

/-! ### While the device is held -/

/-- Whether the device is still to be released. -/
def Stage.hasDevice : Stage → Bool
  | .closing _ | .finished _ => false
  | _ => true

theorem Part.hasDevice_complete (limits : SessionLimits) (bytes : Bytes) (part : Part) :
    (part.complete limits bytes).hasDevice = true := by
  have going := part.phase?_complete limits bytes
  generalize part.complete limits bytes = stage at going
  cases stage <;> first | rfl | cases going

theorem hasDevice_receive {session : Session} (has : session.stage.hasDevice = true)
    (limits : SessionLimits) (arrival : Arrival) :
    (session.receive limits arrival).stage.hasDevice = true := by
  cases arrival with
  | bytes bytes =>
      simp only [receive, take]
      split
      · split
        · rfl
        · exact Part.hasDevice_complete _ _ _
      · unfold Stage.skip
        split <;> rfl
      · exact has
  | disturbance what =>
      have rested : (Stage.atRest session.phase).hasDevice = true := by
        cases session.phase <;> rfl
      simp only [receive, disturb, elapse]
      repeat' split
      all_goals first | exact has | exact rested | rfl
  | nothing => exact has

theorem hasDevice_resume {session : Session} (has : session.stage.hasDevice = true)
    (unreleased : ∀ ending, session.stage ≠ .releasing ending) (answer : Answer) :
    (session.resume answer).stage.hasDevice = true := by
  have rested (phase : Phase) : (Stage.atRest phase).hasDevice = true := by
    cases phase <;> rfl
  unfold Session.resume
  split
  all_goals first
    | rfl
    | exact rested _
    | exact has
    | exact absurd ‹_› (unreleased _)
    | simp_all [Stage.hasDevice]

/-- A session that is not done with its device stays busy. -/
theorem phase_resume {session : Session} (busy : session.phase = .busy)
    (has : session.stage.hasDevice = true) (answer : Answer) :
    (session.resume answer).phase = .busy := by
  unfold Session.resume
  split
  all_goals first
    | exact busy
    | rfl
    | simp_all [Stage.hasDevice]

end Session

end UsbExport

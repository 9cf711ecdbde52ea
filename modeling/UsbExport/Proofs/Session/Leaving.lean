import UsbExport.Proofs.Session.Phases

/-!
How a session comes to leave. It leaves with its client, and then its phase tells how it has ended,
or over a socket that is broken; once it leaves, its ending is settled.
-/

namespace UsbExport

open Dispatch Socket

namespace Session

/-- How a session ends that has begun to clean up. -/
def Stage.leaving? : Stage → Option Ending
  | .resetting ending | .releasing ending | .closing ending | .finished ending => some ending
  | _ => none

theorem Stage.leaving?_of_phase? {stage : Stage} {phase : Phase}
    (going : stage.phase? = some phase) : stage.leaving? = none := by
  cases stage <;> first | rfl | cases going

/-- A session goes on as it was, or it begins to leave now. -/
def LeavesWith (session next : Session) : Prop :=
  next.stage.leaving? = session.stage.leaving? ∨
    session.stage.leaving? = none ∧ ∃ ending, next.stage.leaving? = some ending ∧
      (ending = session.phase.departure ∨ ∃ kind, ending = .failed kind)

theorem leavesWith_depart {session : Session} (going : session.stage.leaving? = none) :
    session.LeavesWith session.depart :=
  Or.inr ⟨going, _, rfl, Or.inl rfl⟩

theorem leavesWith_fail {session : Session} (going : session.stage.leaving? = none)
    (kind : FaultKind) : session.LeavesWith (session.fail kind) :=
  Or.inr ⟨going, _, rfl, Or.inr ⟨kind, rfl⟩⟩

theorem leavesWith_elapse (session : Session) : session.LeavesWith session.elapse := by
  obtain same | ⟨part, stage_eq, rested⟩ := elapse_cases session
  · rw [same]
    exact Or.inl rfl
  · refine Or.inl ?_
    rw [rested, stage_eq]
    cases session.phase <;> rfl

theorem leavesWith_receive (limits : SessionLimits) (session : Session) (arrival : Arrival) :
    session.LeavesWith (session.receive limits arrival) := by
  cases arrival with
  | bytes bytes =>
      simp only [receive, take]
      split
      · next part got stage_eq =>
          refine Or.inl ?_
          rw [stage_eq]
          split
          · rfl
          · exact Stage.leaving?_of_phase? (Part.phase?_complete _ _ _)
      · next left stage_eq =>
          refine Or.inl ?_
          rw [stage_eq]
          exact Stage.leaving?_of_phase? (Stage.phase?_skip _)
      · exact Or.inl rfl
  | disturbance what =>
      simp only [receive, disturb]
      split
      · next header got stage_eq => exact Or.inl (by rw [stage_eq]; rfl)
      · next stage_eq => exact leavesWith_depart (by rw [stage_eq]; rfl)
      · next stage_eq => exact leavesWith_depart (by rw [stage_eq]; rfl)
      · next stage_eq =>
          split
          · exact Or.inl rfl
          · exact leavesWith_fail (by rw [stage_eq]; rfl) _
      · next stage_eq => exact leavesWith_fail (by rw [stage_eq]; rfl) _
      · exact leavesWith_elapse session
      · exact Or.inl rfl
  | nothing => exact Or.inl rfl

theorem leavesWith_resume (session : Session) (answer : Answer) :
    session.LeavesWith (session.resume answer) := by
  have rested {phase : Phase} (going : session.stage.leaving? = none) :
      session.LeavesWith (rest phase) := by
    refine Or.inl ?_
    rw [going]
    cases phase <;> rfl
  unfold resume
  split
  all_goals first
    | exact Or.inl rfl
    | next stage_eq => exact rested (by rw [stage_eq]; rfl)
    | next stage_eq => exact leavesWith_depart (by rw [stage_eq]; rfl)
    | next stage_eq => exact leavesWith_fail (by rw [stage_eq]; rfl) _
    | next stage_eq => exact Or.inl (by rw [stage_eq]; rfl)

end Session

namespace System

open Session

variable {Executor : Type} [DeviceExecutor Executor] {system next : System Executor} {visit : Visit}
  {deed : Option Deed}

/-- A move of a session leaves the configuration alone, and the session where it is served. -/
theorem SessionMove.leavesWith (visit_eq : system.visit = some visit)
    (move : SessionMove system visit deed next) :
    next.config = system.config ∧
      ∃ visit', next.visit = some visit' ∧ visit.session.LeavesWith visit'.session := by
  cases move with
  | read wants socket_eq brought => exact ⟨rfl, _, rfl, leavesWith_receive _ _ _⟩
  | asked posting posted => exact ⟨rfl, _, rfl, leavesWith_resume _ _⟩
  | refused posting unposted => exact ⟨rfl, _, rfl, leavesWith_resume _ _⟩
  | looked awaits wait_eq unanswered => exact ⟨rfl, _, rfl, Or.inl rfl⟩
  | answered awaits given => exact ⟨rfl, _, rfl, leavesWith_resume _ _⟩
  | posted stage_eq posted => exact ⟨rfl, _, rfl, leavesWith_resume _ _⟩
  | dropped stage_eq unposted => exact ⟨rfl, _, rfl, leavesWith_resume _ _⟩
  | crowded stage_eq unposted unset => exact ⟨rfl, _, rfl, Or.inl rfl⟩
  | cancelled stage_eq => exact ⟨rfl, _, rfl, leavesWith_resume _ _⟩
  | stood wanted unset =>
      refine ⟨?_, _, rfl, Or.inl rfl⟩
      simp only [setVisit, standInLine]
      split <;> rfl
  | moved wanted wait_eq socket_eq polled => exact ⟨rfl, _, visit_eq, Or.inl rfl⟩
  | served wanted wait_eq socket_eq polled standing => exact ⟨rfl, _, rfl, leavesWith_resume _ _⟩
  | reset stage_eq => exact ⟨rfl, _, rfl, leavesWith_resume _ _⟩
  | released stage_eq => exact ⟨rfl, _, rfl, leavesWith_resume _ _⟩

end System

end UsbExport

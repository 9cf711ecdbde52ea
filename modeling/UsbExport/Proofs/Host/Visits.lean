import UsbExport.Proofs.Host.Desk

/-!
How the session that is served goes on from one step at the desk to the next: what it can have been
before when it waits for an answer now, when it has the device now, or when it is cleaning up.
-/

namespace UsbExport.Host

open Dispatch Socket

/-- How the session that is served goes on. -/
inductive VisitStep (before : Desk) (note : Option Note) (after : Desk) : Prop
  | stays (visit_eq : after.visit = before.visit)
  | reads {visit : Visit} (visit_eq : before.visit = some visit) {limit : Nat}
      (wants : visit.session.wants = some limit) (limits : SessionLimits) (arrival : Arrival)
      (visit_eq' : after.visit =
        some { visit with session := visit.session.receive limits arrival })
  | waits {visit : Visit} (visit_eq : before.visit = some visit) (wait : Wait)
      (kept : ∀ slot deadline, wait = .answer slot deadline → ∃ deadline',
        visit.wait = .answer slot deadline')
      (visit_eq' : after.visit = some { visit with wait })
  | asks {visit : Visit} (visit_eq : before.visit = some visit) {header : ControlHeader}
      {command : ControlCommand}
      (posting : visit.session.stage.request? before.slots.length = some (header, command))
      (note_eq : note = some (.deed (.session visit.link (.asked ⟨header, command, visit.link⟩))))
      (loop_eq : after.loop = before.loop)
      (slots_eq : after.slots = before.slots ++ (command.slot?.map fun _ => Slot.open).toList)
      (visit_eq' : after.visit = some { visit with
        session := visit.session.resume (.taken true), wait := System.waitFor command })
  | resumes {visit : Visit} (visit_eq : before.visit = some visit) (answer : Session.Answer)
      (answered : visit.session.stage.awaits = true → ∃ yes, answer = .taken yes)
      (confirmed : visit.session.stage = .awaitingImport → answer = .taken true →
        ∃ slot deadline, visit.wait = .answer slot deadline ∧
          before.slots[slot]? = some (.given true))
      (visit_eq' : after.visit =
        some { visit with session := visit.session.resume answer, wait := .nothing })
  | departs {visit : Visit} (visit_eq : before.visit = some visit) {ending : Ending}
      (stage_eq : visit.session.stage = .finished ending) (visit_eq' : after.visit = none)
  | serves (unvisited : before.visit = none) (link : LinkId)
      (visit_eq' : after.visit = some { link })

variable {before after : Desk} {note : Option Note}

theorem DeskStep.visitStep (step : DeskStep before note after) : VisitStep before note after := by
  have idle {visit : Visit} {stage : Session.Stage} (stage_eq : visit.session.stage = stage)
      (free : stage.awaits = false) {answer : Session.Answer}
      (awaits : visit.session.stage.awaits = true) : ∃ yes, answer = .taken yes := by
    rw [stage_eq, free] at awaits
    cases awaits
  cases step with
  | reads visit_eq wants limits arrival => exact .reads visit_eq wants limits arrival rfl
  | asks visit_eq posting => exact .asks visit_eq posting rfl rfl rfl rfl
  | unposted visit_eq closed =>
      exact .resumes visit_eq _ (fun _ => ⟨false, rfl⟩) (fun _ no => nomatch no) rfl
  | waits visit_eq wait kept still => exact .waits visit_eq wait kept rfl
  | learns visit_eq awaits wait_eq given =>
      refine .resumes visit_eq _ (fun _ => ⟨_, rfl⟩) (fun _ yes => ⟨_, _, wait_eq, ?_⟩) rfl
      rw [given, Session.Answer.taken.inj yes]
  | misses visit_eq awaits lost =>
      exact .resumes visit_eq _ (fun _ => ⟨false, rfl⟩) (fun _ no => nomatch no) rfl
  | givesUp visit_eq awaits =>
      exact .resumes visit_eq _ (fun _ => ⟨false, rfl⟩) (fun _ no => nomatch no) rfl
  | works visit_eq working answer aside =>
      refine .resumes visit_eq answer (fun awaits => ?_) (fun stage_eq => ?_) rfl
      · rcases Session.Stage.awaits_cases awaits with eq | eq <;>
          · rw [eq] at working
            cases working
      · rw [stage_eq] at working
        cases working
  | resets visit_eq stage_eq =>
      exact .resumes visit_eq _ (idle stage_eq rfl) (by simp [stage_eq]) rfl
  | releases visit_eq stage_eq =>
      exact .resumes visit_eq _ (idle stage_eq rfl) (by simp [stage_eq]) rfl
  | closes visit_eq stage_eq =>
      exact .resumes visit_eq _ (idle stage_eq rfl) (by simp [stage_eq]) rfl
  | departs visit_eq stage_eq => exact .departs visit_eq stage_eq rfl
  | serves unvisited link => exact .serves unvisited link rfl
  | _ => exact .stays rfl

namespace VisitStep

/-- A session that waits for an answer waited for it before or has just asked. -/
theorem awaited (step : VisitStep before note after) {visit : Visit}
    (visit_eq : after.visit = some visit) (awaits : visit.session.stage.awaits = true)
    {slot : SlotId} {deadline : Option Nat} (wait_eq : visit.wait = .answer slot deadline) :
    (∃ earlier deadline', before.visit = some earlier ∧ earlier.link = visit.link ∧
        earlier.session = visit.session ∧ earlier.wait = .answer slot deadline') ∨
      slot = before.slots.length ∧ after.loop = before.loop ∧
        after.slots = before.slots ++ [.open] ∧ ∃ request,
          note = some (.deed (.session visit.link (.asked request))) ∧
            request.reply = visit.link ∧ request.command.slot? = some slot ∧
            visit.session.stage.Expects request.command := by
  cases step with
  | stays eq => exact Or.inl ⟨visit, deadline, eq ▸ visit_eq, rfl, rfl, wait_eq⟩
  | reads eq wants limits arrival eq' =>
      obtain rfl := Option.some.inj (eq'.symm.trans visit_eq)
      have follows := Session.followsRead_receive wants limits arrival
      rcases Session.Stage.awaits_cases awaits with stage_eq | stage_eq <;>
        · rw [stage_eq] at follows
          cases follows
  | waits eq wait kept eq' =>
      obtain rfl := Option.some.inj (eq'.symm.trans visit_eq)
      obtain ⟨deadline', was⟩ := kept slot deadline wait_eq
      exact Or.inl ⟨_, deadline', eq, rfl, rfl, was⟩
  | @asks earlier eq header command posting note_eq loop_eq slots_eq eq' =>
      obtain rfl := Option.some.inj (eq'.symm.trans visit_eq)
      have slot_eq : command.slot? = some slot := by
        simp only [System.waitFor] at wait_eq
        split at wait_eq <;> cases wait_eq
        assumption
      obtain ⟨-, posted⟩ := Session.awaits_resume awaits fun _ => ⟨true, rfl⟩
      obtain ⟨header', command', posting', expects⟩ := posted before.slots.length
      obtain ⟨rfl, rfl⟩ := Prod.mk.inj (Option.some.inj (posting.symm.trans posting'))
      rw [slot_eq] at slots_eq
      rcases (Session.Stage.phase_of_request? posting).2 with none_eq | some_eq
      · rw [none_eq] at slot_eq
        cases slot_eq
      · exact Or.inr ⟨Option.some.inj (slot_eq.symm.trans some_eq), loop_eq, slots_eq, _, note_eq,
          rfl, slot_eq, expects⟩
  | resumes eq answer answered confirmed eq' =>
      obtain rfl := Option.some.inj (eq'.symm.trans visit_eq)
      cases wait_eq
  | departs eq stage_eq eq' => cases eq'.symm.trans visit_eq
  | serves unvisited link eq' =>
      obtain rfl := Option.some.inj (eq'.symm.trans visit_eq)
      cases wait_eq

/-- A session that has the device, and whose flags are not reset, had it before or sees the answer
to its import. -/
theorem hasDevice (step : VisitStep before note after) {visit : Visit}
    (visit_eq : after.visit = some visit) (busy : visit.session.phase = .busy)
    (unreset : visit.session.stage.isReset = false) :
    ∃ earlier, before.visit = some earlier ∧ earlier.link = visit.link ∧
      (earlier.session.phase = .busy ∧ earlier.session.stage.isReset = false ∨
        earlier.session.stage = .awaitingImport ∧ ∃ slot deadline,
          earlier.wait = .answer slot deadline ∧ before.slots[slot]? = some (.given true)) := by
  have before_reset {session : Session} {answer : Session.Answer}
      (unreset : (session.resume answer).stage.isReset = false) :
      session.stage.isReset = false := by
    by_contra reset
    rw [Session.isReset_resume (by simpa using reset)] at unreset
    cases unreset
  cases step with
  | stays eq => exact ⟨visit, eq ▸ visit_eq, rfl, Or.inl ⟨busy, unreset⟩⟩
  | reads eq wants limits arrival eq' =>
      obtain rfl := Option.some.inj (eq'.symm.trans visit_eq)
      refine ⟨_, eq, rfl, Or.inl ⟨(Session.phase_receive ..).symm.trans busy, ?_⟩⟩
      unfold Session.wants at wants
      split at wants <;> next stage_eq => first | (rw [stage_eq]; rfl) | cases wants
  | waits eq wait kept eq' =>
      obtain rfl := Option.some.inj (eq'.symm.trans visit_eq)
      exact ⟨_, eq, rfl, Or.inl ⟨busy, unreset⟩⟩
  | asks eq posting note_eq loop_eq slots_eq eq' =>
      obtain rfl := Option.some.inj (eq'.symm.trans visit_eq)
      refine ⟨_, eq, rfl, Or.inl ⟨?_, before_reset unreset⟩⟩
      refine (Session.phase_of_resume busy).resolve_right fun confirmed => ?_
      rw [confirmed.1] at posting
      cases posting
  | resumes eq answer answered confirmed eq' =>
      obtain rfl := Option.some.inj (eq'.symm.trans visit_eq)
      refine ⟨_, eq, rfl, ?_⟩
      rcases Session.phase_of_resume busy with was | ⟨stage_eq, yes⟩
      · exact Or.inl ⟨was, before_reset unreset⟩
      · exact Or.inr ⟨stage_eq, confirmed stage_eq yes⟩
  | departs eq stage_eq eq' => cases eq'.symm.trans visit_eq
  | serves unvisited link eq' =>
      obtain rfl := Option.some.inj (eq'.symm.trans visit_eq)
      cases busy

/-- A session whose flags were reset does not come back. -/
theorem isReset (step : VisitStep before note after) {visit : Visit}
    (visit_eq : before.visit = some visit) (reset : visit.session.stage.isReset = true) :
    after.visit = none ∨ ∃ later, after.visit = some later ∧ later.link = visit.link ∧
      later.session.stage.isReset = true := by
  cases step with
  | stays eq => exact Or.inr ⟨visit, eq.trans visit_eq, rfl, reset⟩
  | reads eq wants limits arrival eq' =>
      obtain rfl := Option.some.inj (visit_eq.symm.trans eq)
      unfold Session.wants at wants
      split at wants <;>
        next stage_eq => first | (rw [stage_eq] at reset; cases reset) | cases wants
  | waits eq wait kept eq' =>
      obtain rfl := Option.some.inj (visit_eq.symm.trans eq)
      exact Or.inr ⟨_, eq', rfl, reset⟩
  | asks eq posting note_eq loop_eq slots_eq eq' =>
      obtain rfl := Option.some.inj (visit_eq.symm.trans eq)
      exact Or.inr ⟨_, eq', rfl, Session.isReset_resume reset _⟩
  | resumes eq answer answered confirmed eq' =>
      obtain rfl := Option.some.inj (visit_eq.symm.trans eq)
      exact Or.inr ⟨_, eq', rfl, Session.isReset_resume reset _⟩
  | departs eq stage_eq eq' => exact Or.inl eq'
  | serves unvisited link eq' => simp [unvisited] at visit_eq

end VisitStep

/-- Flags and claims change for an import in hand, or when a session cleans up. -/
theorem DeskStep.taken_or (step : DeskStep before note after) :
    (after.busy = before.busy ∧ after.claimed = before.claimed ∧
        after.interfaces = before.interfaces) ∨
      before.loop.slot?.isSome ∨
      ∃ visit, after.visit = some visit ∧ visit.session.stage.isReset = true := by
  have inHand {order : ImportOrder} {stage : ImportStage}
      (loop_eq : before.loop = .importing order stage) : before.loop.slot?.isSome := by
    rw [loop_eq]
    rfl
  cases step with
  | resets visit_eq stage_eq =>
      exact Or.inr (Or.inr ⟨_, rfl, by simp [Session.resume, stage_eq, Session.Stage.isReset]⟩)
  | releases visit_eq stage_eq =>
      exact Or.inr (Or.inr ⟨_, rfl, by simp [Session.resume, stage_eq, Session.Stage.isReset]⟩)
  | records loop_eq => exact Or.inr (Or.inl (inHand loop_eq))
  | marks loop_eq => exact Or.inr (Or.inl (inHand loop_eq))
  | unmarks loop_eq => exact Or.inr (Or.inl (inHand loop_eq))
  | unclaims loop_eq => exact Or.inr (Or.inl (inHand loop_eq))
  | _ => exact Or.inl ⟨rfl, rfl, rfl⟩

end UsbExport.Host

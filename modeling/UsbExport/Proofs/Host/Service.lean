import UsbExport.Proofs.Host.Departures
import UsbExport.Proofs.Host.Visits

/-!
While a session has the device. The executor has no control request in hand, nobody takes the device
back, and the socket of the session stays open; and from then on its client is told nothing more.
-/

namespace UsbExport.Host

open Dispatch Socket

variable {Handle : Type}

/-- The session on a socket has the device and has not begun to clean up. -/
def AtWork (link : LinkId) (desk : Desk) : Prop :=
  ∃ visit, desk.visit = some visit ∧ visit.link = link ∧ visit.session.phase = .busy ∧
    visit.session.stage.isReset = false

namespace AtWork

variable {link : LinkId} {before after : Desk} {note : Option Note}

theorem step (atWork : AtWork link before) (step : DeskStep before note after)
    (unreset : note ≠ some (.deed (.session link .reset))) : AtWork link after := by
  obtain ⟨visit, visit_eq, link_eq, busy, going⟩ := atWork
  have resumed {other : Visit} (eq : before.visit = some other)
      (answer : Session.Answer) {wait : Wait}
      (unended : answer = .done → ∀ ending, other.session.stage ≠ .resetting ending)
      (eq' : after.visit = some { other with session := other.session.resume answer, wait }) :
      AtWork link after := by
    obtain rfl := Option.some.inj (visit_eq.symm.trans eq)
    refine ⟨_, eq', link_eq, Session.phase_resume busy ?_ answer, ?_⟩
    · cases stage_eq : visit.session.stage <;> simp [stage_eq, Session.Stage.isReset] at going <;> rfl
    · exact Session.isReset_resume_eq_false going unended
  cases step with
  | @reads other eq limit wants limits arrival =>
      obtain rfl := Option.some.inj (visit_eq.symm.trans eq)
      refine ⟨_, rfl, link_eq, (Session.phase_receive _ _ _).trans busy, ?_⟩
      have follows := Session.followsRead_receive wants limits arrival
      cases stage_eq : (visit.session.receive limits arrival).stage <;>
        first | rfl | (rw [stage_eq] at follows; cases follows)
  | asks eq posting => exact resumed eq (.taken true) Session.Answer.noConfusion rfl
  | unposted eq closed => exact resumed eq (.taken false) Session.Answer.noConfusion rfl
  | @waits other eq wait kept still =>
      obtain rfl := Option.some.inj (visit_eq.symm.trans eq)
      exact ⟨_, rfl, link_eq, busy, going⟩
  | @learns other eq awaits slot deadline wait_eq yes given =>
      exact resumed eq (.taken yes) Session.Answer.noConfusion rfl
  | misses eq awaits lost => exact resumed eq (.taken false) Session.Answer.noConfusion rfl
  | givesUp eq awaits => exact resumed eq (.taken false) Session.Answer.noConfusion rfl
  | @works other eq working answer note aside =>
      refine resumed eq answer (fun _ ending stage_eq => ?_) rfl
      simp [stage_eq, works] at working
  | resets eq stage_eq =>
      obtain rfl := Option.some.inj (visit_eq.symm.trans eq)
      exact absurd (by rw [link_eq]) unreset
  | releases eq stage_eq =>
      obtain rfl := Option.some.inj (visit_eq.symm.trans eq)
      simp [stage_eq, Session.Stage.isReset] at going
  | closes eq stage_eq =>
      obtain rfl := Option.some.inj (visit_eq.symm.trans eq)
      simp [stage_eq, Session.Stage.isReset] at going
  | departs eq stage_eq =>
      obtain rfl := Option.some.inj (visit_eq.symm.trans eq)
      simp [stage_eq, Session.Stage.isReset] at going
  | serves unvisited other => cases unvisited.symm.trans visit_eq
  | _ => exact ⟨visit, visit_eq, link_eq, busy, going⟩

/-- Only who has reset the flags releases the device. -/
theorem unreleased (atWork : AtWork link before) (step : DeskStep before note after)
    (other : LinkId) : note ≠ some (.deed (.session other .released)) := by
  obtain ⟨visit, visit_eq, -, -, going⟩ := atWork
  rintro rfl
  generalize told : some (Note.deed (Deed.session other Session.Deed.released)) = note at step
  cases step with
  | releases eq stage_eq =>
      obtain rfl := Option.some.inj (visit_eq.symm.trans eq)
      simp [stage_eq, Session.Stage.isReset] at going
  | @goesOn order stage => cases stage <;> cases told
  | works eq working answer aside => exact aside _ told.symm
  | aside aside => exact aside _ told.symm
  | _ => cases told

end AtWork

/-- The first client has the device. -/
theorem atWork_firstImport : AtWork 0 (desk (retell placid firstImport).2.system) := by
  have visited : (retell placid firstImport).2.system.visit.map (fun visit => (visit.link,
      visit.session.phase, visit.session.stage.isReset)) = some (0, .busy, false) := by
    decide +kernel
  obtain ⟨visit, visit_eq, seen⟩ := Option.map_eq_some_iff.1 visited
  refine ⟨visit, visit_eq, ?_⟩
  simpa using seen

/-! ### The executor meanwhile -/

theorem DeskStep.unstopped {before after : Desk} {note : Option Note}
    (step : DeskStep before note after) (unstopped : before.loop ≠ .stopped) :
    after.loop ≠ .stopped := by
  cases step with
  | takes idle queue_eq =>
      simp only [LoopStage.ofRequest]
      split <;> simp
  | _ => first | exact unstopped | simp

/-! ### The socket meanwhile -/

/-- The session on a socket is cleaning up or over, and does not come back. -/
structure Parted (link : LinkId) (server : Server (Host Handle)) : Prop where
  called : Called link server
  isReset : ∀ visit, server.system.visit = some visit → visit.link = link →
    visit.session.stage.isReset = true

theorem Parted.step [UsbHandle Handle] {link : LinkId} {server next : Server (Host Handle)}
    (parted : Parted link server) {event : Server.Event Party}
    (happened : Server.step company server event = some next) : Parted link next := by
  have happening := step_happening happened
  refine ⟨parted.called.happening happening, fun visit visit_eq link_eq => ?_⟩
  rcases happening.visit_or visit_eq with ⟨earlier, earlier_eq, same⟩ | ⟨-, line_eq⟩
  · have reset := parted.isReset earlier earlier_eq (same.trans link_eq)
    rcases (step_deskStep happened).visitStep.isReset earlier_eq reset with
      gone | ⟨later, later_eq, -, reset⟩
    · cases gone.symm.trans visit_eq
    · obtain rfl := Option.some.inj (later_eq.symm.trans visit_eq)
      exact reset
  · exact absurd (by simp [line_eq, link_eq]) parted.called.unlined

/-! ### What the client is still told -/

theorem LoopStage.slot?_isSome_of_link? {stage : LoopStage} {link : LinkId}
    (linked : stage.link? = some link) : stage.slot?.isSome := by
  cases stage <;> first | rfl | cases linked

theorem DeskStep.isReset_of_reset {link : LinkId} {before after : Desk}
    (step : DeskStep before (some (.deed (.session link .reset))) after) :
    ∀ visit, after.visit = some visit → visit.session.stage.isReset = true := by
  intro later later_eq
  generalize told : some (Note.deed (.session link .reset)) = note at step
  cases step with
  | resets visit_eq stage_eq =>
      obtain rfl := Option.some.inj later_eq
      simp [Session.resume, stage_eq, Session.Stage.isReset]
  | @goesOn order stage => cases stage <;> cases told
  | works eq working answer aside => exact (aside _ told.symm).elim
  | aside aside => exact (aside _ told.symm).elim
  | _ => cases told

/-- A session that has the device keeps it, or has just reset the flags. -/
theorem AtWork.keeps_or_resets {link : LinkId} {before after : Desk} {note : Option Note}
    (atWork : AtWork link before) (step : DeskStep before note after) :
    AtWork link after ∨
      ∀ visit, after.visit = some visit → visit.session.stage.isReset = true := by
  by_cases resets : note = some (.deed (.session link .reset))
  · subst resets
    exact Or.inr step.isReset_of_reset
  · exact Or.inl (atWork.step step resets)

/-- The client on a socket has been told all it asked for: its session has the device or is cleaning
up, and does not ask any more. -/
structure Told (link : LinkId) (server : Server (Host Handle)) : Prop where
  unasked : link ∉ (desk server.system).askers
  served : AtWork link (desk server.system) ∨ Parted link server

/-- While a session has the device, nobody waits to be told anything. -/
theorem askers_of_atWork {link : LinkId} {system : System (Host Handle)} (asks : Asks system)
    (atWork : AtWork link (desk system)) : (desk system).askers = [] := by
  obtain ⟨visit, visit_eq, -, busy, -⟩ := atWork
  obtain ⟨idle, unslotted⟩ : system.executor.loop.slot? = none ∧
      system.control.queue.filterMap (·.command.slot?) = [] := by
    simpa [pending] using asks.settled visit visit_eq busy
  refine List.eq_nil_iff_forall_not_mem.2 fun other member => ?_
  rcases List.mem_append.1 member with inHand | waits
  · have loop_eq : system.executor.loop.link? = some other := Option.mem_toList.1 inHand
    have slotted := LoopStage.slot?_isSome_of_link? loop_eq
    simp [idle] at slotted
  · obtain ⟨request, waiting, -⟩ := List.mem_map.1 waits
    obtain ⟨waiting, slotted⟩ := List.mem_filter.1 waiting
    have slotless : request.command.slot? = none :=
      List.filterMap_eq_nil_iff.1 unslotted request waiting
    simp [slotless] at slotted

theorem Told.of_atWork {link : LinkId} {server : Server (Host Handle)} (asks : Asks server.system)
    (atWork : AtWork link (desk server.system)) : Told link server :=
  ⟨by simp [askers_of_atWork asks atWork], Or.inl atWork⟩

theorem Told.step [UsbHandle Handle] {link : LinkId} {server next : Server (Host Handle)}
    (told : Told link server) (asks : Asks server.system)
    (called : ∀ visit, server.system.visit = some visit → Called visit.link server)
    {event : Server.Event Party} (happened : Server.step company server event = some next) :
    Told link next where
  unasked := by
    intro member
    rcases (step_deskStep happened).askers member with earlier | ⟨visit, visit_eq, link_eq, asking⟩
    · exact told.unasked earlier
    · obtain ⟨request, posting⟩ := Option.isSome_iff_exists.1 asking
      rcases told.served with ⟨other, other_eq, -, busy, -⟩ | parted
      · obtain rfl := Option.some.inj (other_eq.symm.trans visit_eq)
        have idle := asks.fits other visit_eq .idle (Session.Stage.phase_of_request? posting).1
        cases busy.symm.trans idle
      · have reset := parted.isReset visit visit_eq link_eq
        exact absurd reset (by simp [Session.Stage.isReset_of_request? posting])
  served := by
    rcases told.served with atWork | parted
    · refine (atWork.keeps_or_resets (step_deskStep happened)).imp_right fun reset => ?_
      obtain ⟨visit, visit_eq, link_eq, -⟩ := atWork
      exact ⟨(link_eq ▸ called visit visit_eq).happening (step_happening happened),
        fun later later_eq _ => reset later later_eq⟩
    · exact Or.inr (parted.step happened)

theorem Note.eq_of_close {host : Host Handle} {note : Note} {link : LinkId} {succeeded : Bool}
    (told : note.outcome? host = some (link, .close, succeeded)) :
    note = .deed (.session link (.served .close succeeded)) := by
  unfold outcome? at told
  split at told <;> cases told
  rfl

namespace Chronicle

variable [UsbHandle Handle] {start mid server : Server (Host Handle)}
  {notes before after : List Note} {link : LinkId}

theorem atWork (future : Chronicle mid notes server) (atWork : AtWork link (desk mid.system))
    (unreset : .deed (.session link .reset) ∉ notes) : AtWork link (desk server.system) := by
  induction future with
  | start => exact atWork
  | step _ event happened ih =>
      have earlier := ih fun member => unreset (List.mem_append_left _ member)
      refine earlier.step (step_deskStep happened) fun said => unreset ?_
      simp [said]

theorem unstopped (chronicle : Chronicle start notes server) (fresh : Fresh start) :
    server.system.executor.loop ≠ .stopped := by
  induction chronicle with
  | start => simp [fresh.idle]
  | step _ event happened ih => exact (step_deskStep happened).unstopped ih

/-- While a session has the device, the executor has no control request in hand. -/
theorem idle_of_atWork (chronicle : Chronicle start notes server) (fresh : Fresh start)
    (atWork : AtWork link (desk server.system)) : server.system.executor.loop = .idle := by
  have unstopped := chronicle.unstopped fresh
  obtain ⟨visit, visit_eq, -, busy, -⟩ := atWork
  have settled := (chronicle.history.asks fresh).settled visit visit_eq busy
  cases loop_eq : server.system.executor.loop with
  | idle => rfl
  | stopped => exact absurd loop_eq unstopped
  | _ => simp [pending, loop_eq, LoopStage.slot?] at settled

theorem parted (future : Chronicle mid notes server) (parted : Parted link mid) :
    Parted link server := by
  induction future with
  | start => exact parted
  | step _ event happened ih => exact ih.step happened

/-- Once a session has the device, nothing is left to tell its client. -/
theorem told (past : Chronicle start before mid) (fresh : Fresh start)
    (atWork : AtWork link (desk mid.system)) (since : Chronicle mid after server) :
    Told link server := by
  induction since with
  | start => exact .of_atWork (past.history.asks fresh) atWork
  | step since event happened ih =>
      have whole := past.append since
      exact ih.step (whole.history.asks fresh) (whole.called fresh) happened

/-- From when a session has the device, only clients after it have to be told anything. -/
theorem lt_of_asker (past : Chronicle start before mid) (fresh : Fresh start)
    (atWork : AtWork link (desk mid.system)) (since : Chronicle mid after server) :
    ∀ other ∈ (desk server.system).askers, link < other := by
  have gone : Past link mid := by
    obtain ⟨visit, visit_eq, rfl, -⟩ := atWork
    exact (past.history.inOrder fresh).visited visit visit_eq
  have le : ∀ other ∈ (desk server.system).askers, link ≤ other := by
    induction since with
    | start => simp [askers_of_atWork (past.history.asks fresh) atWork]
    | step since event happened ih =>
        intro other member
        rcases (step_deskStep happened).askers member with
          earlier | ⟨visit, visit_eq, rfl, -⟩
        · exact ih other earlier
        · exact (since.past gone).visit_le visit visit_eq
  intro other member
  refine Nat.lt_of_le_of_ne (le other member) ?_
  rintro rfl
  exact (past.told fresh atWork since).unasked member

/-- Who has reset the flags does not come back. -/
theorem parted_of_reset (chronicle : Chronicle start notes server) (fresh : Fresh start)
    (reset : .deed (.session link .reset) ∈ notes) : Parted link server := by
  obtain ⟨before, after, rfl⟩ := List.append_of_mem reset
  obtain ⟨mid, event, next, past, happened, made, future⟩ := chronicle.cut
  obtain ⟨visit, visit_eq, link_eq⟩ := (past.visited fresh happened made).2
  refine future.parted ⟨?_, fun later later_eq _ => ?_⟩
  · exact (link_eq ▸ past.called fresh visit visit_eq).happening (step_happening happened)
  · have step := step_deskStep happened
    rw [made] at step
    exact step.isReset_of_reset later later_eq

/-- While a session has the device, its socket is open. -/
theorem isOpen_of_atWork (chronicle : Chronicle start notes server) (fresh : Fresh start)
    (atWork : AtWork link (desk server.system)) {guard : Guard}
    (guard_eq : (guards server.system)[link]? = some guard) : guard.isOpen = true := by
  refine ((chronicle.receipts fresh).isOpen_iff guard_eq).2 fun succeeded closed => ?_
  obtain ⟨note, member, told⟩ := mem_outcomesAt.1 closed
  obtain rfl := Note.eq_of_close told
  obtain ⟨before, after, rfl⟩ := List.append_of_mem member
  obtain ⟨mid, event, next, past, happened, made, future⟩ := chronicle.cut
  have said : done? mid event = some (.session link (.served .close succeeded)) := by
    rw [← note?_deed, made]
    rfl
  have happening := step_happening happened
  obtain ⟨visit, visit_eq, link_eq, errand, answer, visit_eq'⟩ :=
    happening.errand_of_served (past.lines fresh) said
  have reset : (visit.session.resume answer).stage.isReset = true := by
    cases stage_eq : visit.session.stage with
    | closing ending => exact Session.isReset_resume (by rw [stage_eq]; rfl) answer
    | _ => simp [stage_eq, Session.Stage.errand?] at errand
  have parted : Parted link next := by
    refine ⟨(link_eq ▸ past.called fresh visit visit_eq).happening happening, fun later eq _ => ?_⟩
    obtain rfl := Option.some.inj (visit_eq'.symm.trans eq)
    exact reset
  obtain ⟨visit, visit_eq, link_eq, -, going⟩ := atWork
  exact Bool.false_ne_true (going.symm.trans ((future.parted parted).isReset visit visit_eq link_eq))

end Chronicle

end UsbExport.Host

import UsbExport.Proofs.Host.Holding

/-!
By what right the device is held. Main statement: in every run, whatever interface is held is in the
books, or about to be entered there, or a job is going to release it; and a device with claims in
the books is marked, or a session or an import is about to give them up or to mark it.
-/

namespace UsbExport.Host

open Dispatch Socket

variable {Handle : Type}

/-- An import has claims in the books that it has not marked the device for yet, or not any more. -/
def LoopStage.isTaking : LoopStage → Bool
  | .importing _ .clearing | .importing _ .marking | .importing _ .unclaiming => true
  | _ => false

/-- Somebody knows that an interface is held. -/
def Holding.Backs (holding : Holding) (number : UInt8) : Prop :=
  number ∈ holding.claimed ∨
    (∃ job numbers, ⟨job, .release numbers⟩ ∈ holding.jobs ∧ number ∈ numbers) ∨
    (∃ order, holding.loop = .importing order .recording) ∧ number ∈ holding.interfaces

structure Pledged (holding : Holding) : Prop where
  nodup : (holding.jobs.map Job.id).Nodup
  claiming : ∀ job, ⟨job, .claim⟩ ∈ holding.jobs →
    ∃ order, holding.loop = .importing order (.claiming job)
  known : ∀ number ∈ holding.claimed, number ∈ holding.interfaces
  backed : ∀ number, holds holding.calls number = true → holding.Backs number
  guarded : holding.claimed = [] ∨ holding.busy = true ∨ holding.cleaning = true ∨
    holding.loop.isTaking = true

namespace Pledged

section

variable {holding next : Holding}

theorem guarded_next (pledged : Pledged holding) {loop : LoopStage}
    (taking : holding.loop.isTaking = true → loop.isTaking = true) :
    holding.claimed = [] ∨ holding.busy = true ∨ holding.cleaning = true ∨
      loop.isTaking = true :=
  pledged.guarded.imp_right (Or.imp_right (Or.imp_right taking))

/-- The loop goes on, and neither claims nor enters claims into the books. -/
theorem goOn (pledged : Pledged holding) (releasing : Option JobId) (busy : Bool)
    {loop : LoopStage} (unclaiming : ∀ order job, holding.loop ≠ .importing order (.claiming job))
    (unrecorded : ∀ order, holding.loop ≠ .importing order .recording)
    (guarded : holding.claimed = [] ∨ busy = true ∨ holding.cleaning = true ∨
      loop.isTaking = true) : Pledged { holding with releasing, busy, loop } where
  nodup := pledged.nodup
  claiming := by
    intro job member
    obtain ⟨order, loop_eq⟩ := pledged.claiming job member
    exact absurd loop_eq (unclaiming order job)
  known := pledged.known
  backed := by
    intro number held
    rcases pledged.backed number held with claimed | owed | ⟨⟨order, loop_eq⟩, -⟩
    · exact Or.inl claimed
    · exact Or.inr (Or.inl owed)
    · exact absurd loop_eq (unrecorded order)
  guarded := guarded

theorem nodup_add (pledged : Pledged holding) {job : JobId} (fresh : holding.Lacks job)
    (task : Task) : ((holding.jobs ++ [(⟨job, task⟩ : Job)]).map Job.id).Nodup := by
  rw [List.map_append, List.nodup_append]
  refine ⟨pledged.nodup, List.nodup_singleton _, ?_⟩
  rintro id old _ new rfl
  obtain ⟨other, member, rfl⟩ := List.mem_map.1 old
  exact fresh other member (List.mem_singleton.1 new)

/-- What is in the books is passed on to a job. -/
theorem release (pledged : Pledged holding) {job : JobId} (fresh : holding.Lacks job)
    (loop : LoopStage) (cleaning : Bool)
    (unclaiming : ∀ order id, holding.loop = .importing order (.claiming id) →
      loop = .importing order (.claiming id))
    (unrecorded : ∀ order, holding.loop = .importing order .recording →
      loop = .importing order .recording) :
    Pledged { holding.release job with loop, cleaning } := by
  unfold Holding.release
  by_cases empty : holding.claimed.isEmpty = true
  · rw [if_pos empty]
    refine ⟨pledged.nodup, fun id member => ?_, pledged.known, fun number held => ?_,
      Or.inl (List.isEmpty_iff.1 empty)⟩
    · obtain ⟨order, loop_eq⟩ := pledged.claiming id member
      exact ⟨order, unclaiming order id loop_eq⟩
    · exact (pledged.backed number held).imp_right (Or.imp_right (And.imp_left
        fun ⟨order, loop_eq⟩ => ⟨order, unrecorded order loop_eq⟩))
  · rw [if_neg empty]
    refine ⟨pledged.nodup_add fresh _, fun id member => ?_, nofun, fun number held => ?_,
      Or.inl rfl⟩
    · have old : ⟨id, .claim⟩ ∈ holding.jobs := by simpa using member
      obtain ⟨order, loop_eq⟩ := pledged.claiming id old
      exact ⟨order, unclaiming order id loop_eq⟩
    · rcases pledged.backed number held with claimed | ⟨other, numbers, member, here⟩ |
        ⟨⟨order, loop_eq⟩, exported⟩
      · exact Or.inr (Or.inl ⟨job, _, List.mem_append_right _ (List.mem_singleton_self _), claimed⟩)
      · exact Or.inr (Or.inl ⟨other, numbers, List.mem_append_left _ member, here⟩)
      · exact Or.inr (Or.inr ⟨⟨order, unrecorded order loop_eq⟩, exported⟩)

/-- The other jobs stay on the pool. -/
theorem mem_drop (pledged : Pledged holding) {job other : Job} (member : job ∈ holding.jobs)
    (member' : other ∈ holding.jobs) (apart : other.task ≠ job.task) :
    other ∈ (holding.drop job.id).jobs := by
  refine List.mem_filter.2 ⟨member', bne_iff_ne.2 fun same => apart ?_⟩
  rw [List.inj_on_of_nodup_map pledged.nodup member' member same]

theorem nodup_drop (pledged : Pledged holding) (job : JobId) :
    ((holding.drop job).jobs.map Job.id).Nodup :=
  pledged.nodup.sublist (List.filter_sublist.map Job.id)

theorem claims (pledged : Pledged holding) {job : JobId} {made : List Call} {success : Bool}
    (member : ⟨job, .claim⟩ ∈ holding.jobs) (pass : ClaimPass holding.interfaces made success) :
    Pledged { holding.drop job with
      calls := holding.calls ++ made
      loop := holding.loop.afterClaim job success } := by
  obtain ⟨order, loop_eq⟩ := pledged.claiming job member
  rw [LoopStage.afterClaim_of_claiming loop_eq]
  have still {number : UInt8} {loop : LoopStage} {calls : List Call}
      (held : holds holding.calls number = true) :
      Holding.Backs { holding.drop job with calls, loop } number := by
    rcases pledged.backed number held with claimed | ⟨other, numbers, member', here⟩ |
      ⟨⟨order', recording⟩, -⟩
    · exact Or.inl claimed
    · exact Or.inr (Or.inl ⟨other, numbers, pledged.mem_drop member member' (by simp), here⟩)
    · rw [loop_eq] at recording
      cases recording
  refine ⟨pledged.nodup_drop job, fun id member' => ?_, pledged.known, fun number held => ?_, ?_⟩
  · obtain ⟨member', apart⟩ := List.mem_filter.1 member'
    obtain ⟨order', loop_eq'⟩ := pledged.claiming id member'
    rw [loop_eq] at loop_eq'
    cases loop_eq'
    simp at apart
  · cases pass with
    | all =>
        have held : holds (holding.calls ++ claimsOf holding.interfaces) number = true := held
        rw [holds_claimsOf, Bool.or_eq_true, decide_eq_true_iff] at held
        rcases held with held | exported
        · exact still held
        · exact Or.inr (Or.inr ⟨⟨order, rfl⟩, exported⟩)
    | refused split => exact still (ClaimPass.holds_refused (.refused split) held)
  · have untaken : holding.loop.isTaking ≠ true := by simp [loop_eq, LoopStage.isTaking]
    exact pledged.guarded.imp_right
      (Or.imp_right (Or.imp_right fun taking => absurd taking untaken))

theorem frees (pledged : Pledged holding) {job : JobId} {numbers : List UInt8}
    (member : ⟨job, .release numbers⟩ ∈ holding.jobs) :
    Pledged { holding.drop job with calls := holding.calls ++ releasesOf numbers } := by
  refine ⟨pledged.nodup_drop job, fun id member' => ?_, pledged.known, fun number held => ?_,
    pledged.guarded⟩
  · exact pledged.claiming id (List.mem_filter.1 member').1
  · have held : holds (holding.calls ++ releasesOf numbers) number = true := held
    rw [holds_releasesOf, Bool.and_eq_true, Bool.not_eq_true', decide_eq_false_iff_not] at held
    rcases pledged.backed number held.1 with claimed | ⟨other, numbers', member', here⟩ | recording
    · exact Or.inl claimed
    · refine Or.inr (Or.inl ⟨other, numbers', pledged.mem_drop member member' ?_, here⟩)
      rintro same
      cases same
      exact held.2 here
    · exact Or.inr (Or.inr recording)

theorem attends (pledged : Pledged holding) {order : ImportOrder} {stage : ImportStage}
    (loop_eq : holding.loop = .importing order stage) (step : ImportStep holding order stage next) :
    Pledged next := by
  cases step with
  | passes | refuses | waits | stands | returns | confirms =>
      exact pledged.goOn _ _ (by simp [loop_eq]) (by simp [loop_eq])
        (pledged.guarded_next (by simp [loop_eq, LoopStage.isTaking]))
  | settles | settlesBack =>
      exact pledged.goOn none _ (by simp [loop_eq]) (by simp [loop_eq])
        (pledged.guarded_next (by simp [loop_eq, LoopStage.isTaking]))
  | clears =>
      exact pledged.goOn _ _ (by simp [loop_eq]) (by simp [loop_eq])
        (pledged.guarded_next fun _ => rfl)
  | marks =>
      exact pledged.goOn _ true (by simp [loop_eq]) (by simp [loop_eq]) (Or.inr (Or.inl rfl))
  | unmarks =>
      exact pledged.goOn _ false (by simp [loop_eq]) (by simp [loop_eq])
        (Or.inr (Or.inr (Or.inr rfl)))
  | @begins job fresh =>
      have unrecorded (order' : ImportOrder) : holding.loop ≠ .importing order' .recording := by
        simp [loop_eq]
      refine ⟨pledged.nodup_add fresh _, fun id member => ?_, pledged.known,
        fun number held => ?_, pledged.guarded_next (by simp [loop_eq, LoopStage.isTaking])⟩
      · rcases List.mem_append.1 member with old | new
        · obtain ⟨order', loop_eq'⟩ := pledged.claiming id old
          simp [loop_eq] at loop_eq'
        · cases List.mem_singleton.1 new
          exact ⟨order, rfl⟩
      · rcases pledged.backed number held with claimed | ⟨other, numbers, member, here⟩ |
          ⟨⟨order', recording⟩, -⟩
        · exact Or.inl claimed
        · exact Or.inr (Or.inl ⟨other, numbers, List.mem_append_left _ member, here⟩)
        · exact absurd recording (unrecorded order')
  | records =>
      refine ⟨pledged.nodup, fun id member => ?_, fun _ exported => exported,
        fun number held => ?_, Or.inr (Or.inr (Or.inr rfl))⟩
      · obtain ⟨order', loop_eq'⟩ := pledged.claiming id member
        simp [loop_eq] at loop_eq'
      · rcases pledged.backed number held with claimed | owed | ⟨-, exported⟩
        · exact Or.inl (pledged.known number claimed)
        · exact Or.inr (Or.inl owed)
        · exact Or.inl exported
  | unclaims fresh =>
      exact pledged.release fresh _ (holding.release _).cleaning (by simp [loop_eq])
        (by simp [loop_eq])

theorem step {note : Option Note} (pledged : Pledged holding)
    (step : HoldingStep holding note next) : Pledged next := by
  cases step with
  | aside => exact pledged
  | resets =>
      exact ⟨pledged.nodup, pledged.claiming, pledged.known, pledged.backed,
        Or.inr (Or.inr (Or.inl rfl))⟩
  | @cleansUp link job fresh =>
      have loop_eq := holding.loop_release job
      exact pledged.release fresh (holding.release job).loop false
        (fun _ _ eq => loop_eq.trans eq) fun _ eq => loop_eq.trans eq
  | elsewhere apart begins quiet =>
      have apart' (order : ImportOrder) (stage : ImportStage) :
          holding.loop ≠ .importing order stage := by
        intro loop_eq
        rw [loop_eq] at apart
        cases apart
      refine pledged.goOn _ _ (fun _ _ => apart' _ _) (fun _ => apart' _ _)
        (pledged.guarded_next fun taking => ?_)
      unfold LoopStage.isTaking at taking
      split at taking <;> first | exact absurd ‹_› (apart' _ _) | cases taking
  | attends loop_eq step => exact pledged.attends loop_eq step
  | replies loop_eq =>
      exact pledged.goOn _ _ (by simp [loop_eq]) (by simp [loop_eq])
        (pledged.guarded_next (by simp [loop_eq, LoopStage.isTaking]))
  | claims member pass => exact pledged.claims member pass
  | frees member => exact pledged.frees member

end

section

variable {system : System (Host (Recorded Handle))}

/-- Before an import is looked at, no claim is on the pool; the device has no job of its own if
none is going to release it. -/
theorem jobless (pledged : Pledged (holding system)) {order : ImportOrder}
    (loop_eq : system.executor.loop = .importing order .checking)
    (unreleased : ∀ job ∈ system.executor.jobs, ∀ numbers, job.task ≠ .release numbers) :
    (holding system).jobs = [] := by
  rw [List.eq_nil_iff_forall_not_mem]
  rintro ⟨id, task⟩ member
  obtain ⟨member', exclusive⟩ := List.mem_filter.1 member
  cases task with
  | claim =>
      obtain ⟨order', claiming⟩ := pledged.claiming id member
      cases loop_eq.symm.trans claiming
  | release numbers => exact unreleased _ member' numbers rfl
  | transfer place => cases exclusive

/-- A device that is free, with nobody cleaning up and no job of its own, is not held. -/
theorem unheld (pledged : Pledged (holding system)) {order : ImportOrder}
    (loop_eq : system.executor.loop = .importing order .checking)
    (jobless : (holding system).jobs = []) (uncleaned : system.isCleaning = false)
    (free : system.flags.busy = false) :
    system.executor.claimed = [] ∧ ∀ number, holds system.executor.handle.calls number = false := by
  have claimed : (holding system).claimed = [] := by
    rcases pledged.guarded with claimed | busy | cleaning | taking
    · exact claimed
    · cases free.symm.trans busy
    · cases uncleaned.symm.trans cleaning
    · rw [show (holding system).loop = _ from loop_eq] at taking
      cases taking
  refine ⟨claimed, fun number => Bool.eq_false_iff.2 fun held => ?_⟩
  rcases pledged.backed number held with here | ⟨job, numbers, member, -⟩ | ⟨⟨order', recording⟩, -⟩
  · rw [claimed] at here
    cases here
  · rw [jobless] at member
    cases member
  · cases loop_eq.symm.trans recording

end

end Pledged

theorem Chronicle.pledged [UsbHandle Handle] [Yields Handle]
    {start server : Server (Host (Recorded Handle))} {notes : List Note}
    (chronicle : Chronicle start notes server) (untouched : Untouched start.system.executor) :
    Numbered server.system.executor ∧ Pledged (holding server.system) := by
  induction chronicle with
  | start =>
      have jobless : (holding start.system).jobs = [] := by
        show exclusive start.system.executor = []
        rw [exclusive, untouched.jobless, List.filter_nil]
      refine ⟨⟨by simp [untouched.jobless], by simp [untouched.jobless]⟩, by simp [jobless],
        by simp [jobless], ?_, fun number held => ?_, Or.inl untouched.unclaimed⟩
      · rw [show (holding start.system).claimed = [] from untouched.unclaimed]
        exact List.nil_subset _
      · rw [show (holding start.system).calls = [] from untouched.uncalled] at held
        cases held
  | step _ event happened ih =>
      exact ⟨step_numbered ih.1 happened, ih.2.step (step_holdingStep ih.1 happened)⟩

end UsbExport.Host

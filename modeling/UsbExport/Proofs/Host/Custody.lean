import UsbExport.Proofs.Host.Calls
import UsbExport.Proofs.Host.Order
import UsbExport.Proofs.Host.Staff

/-!
Who has the interfaces of the device. At any time nothing is held, or they are held for a client, or
a release of them is on the pool and somebody knows its number; only an import that has waited for
that release has them claimed. Main statement: every move of the executor, and every clean-up of a
session, keeps it so.
-/

namespace UsbExport.Host

open Dispatch Socket

variable {Handle : Type}

/-- A task for which the pool wants the device for itself. -/
def Task.isExclusive : Task → Bool
  | .claim | .release _ => true
  | .transfer _ => false

def exclusive (host : Host Handle) : List Job := host.jobs.filter (·.task.isExclusive)

/-! ### Jobs on the pool -/

/-- Every job on the pool has a number of its own. -/
structure Numbered (host : Host Handle) : Prop where
  numbered : ∀ job ∈ host.jobs, job.id < host.issued
  nodup : (host.jobs.map Job.id).Nodup

namespace Numbered

variable {host host' : Host Handle}

theorem grow (own : Numbered host) (pool : PoolGrows host host') : Numbered host' := by
  refine ⟨pool.numbered own.numbered, ?_⟩
  rcases pool with ⟨jobs_eq, -⟩ | ⟨task, jobs_eq, -⟩
  · rw [jobs_eq]
    exact own.nodup
  · rw [jobs_eq, List.map_append, List.nodup_append]
    refine ⟨own.nodup, List.nodup_singleton _, ?_⟩
    rintro id old _ new rfl
    obtain ⟨job, mem, rfl⟩ := List.mem_map.1 old
    exact Nat.ne_of_lt (own.numbered job mem) (List.mem_singleton.1 new)

theorem dropJob (own : Numbered host) (id : JobId) : Numbered (host.dropJob id) :=
  ⟨fun job mem => own.numbered job (List.mem_filter.1 mem).1,
    own.nodup.sublist (List.filter_sublist.map Job.id)⟩

/-- The number of a job tells the job. -/
theorem eq_of_id (own : Numbered host) {job other : Job} (mem : job ∈ host.jobs)
    (mem' : other ∈ host.jobs) (same : job.id = other.id) : job = other :=
  List.inj_on_of_nodup_map own.nodup mem mem' same

end Numbered

theorem exclusive_dropJob (host : Host Handle) (id : JobId) :
    exclusive (host.dropJob id) = (exclusive host).filter (·.id != id) := by
  simp only [exclusive, dropJob, List.filter_filter, Bool.and_comm]

theorem exclusive_addJob (host : Host Handle) (task : Task) :
    exclusive (host.addJob task).2 =
      exclusive host ++ if task.isExclusive then [⟨host.issued, task⟩] else [] := by
  simp [exclusive, addJob, List.filter_cons]

/-- The end of a transfer's job leaves those that want the device for themselves. -/
theorem exclusive_dropJob_transfer {host : Host Handle} (own : Numbered host) {job : Job}
    (mem : job ∈ host.jobs) (shared : job.task.isExclusive = false) :
    exclusive (host.dropJob job.id) = exclusive host := by
  rw [exclusive_dropJob, List.filter_eq_self]
  intro other member
  obtain ⟨mem', alone⟩ := List.mem_filter.1 member
  rw [bne_iff_ne]
  intro same
  rw [own.eq_of_id mem' mem same, shared] at alone
  cases alone

/-! ### Where the interfaces are -/

/-- Nothing is held. -/
structure Free (host : Host (Recorded Handle)) : Prop where
  unclaimed : host.claimed = []
  quiet : exclusive host = []
  holds_eq : ∀ number, holds host.handle.calls number = false

/-- A job is going to claim all interfaces. -/
structure Claiming (host : Host (Recorded Handle)) (job : JobId) : Prop where
  unclaimed : host.claimed = []
  only : exclusive host = [⟨job, .claim⟩]
  holds_eq : ∀ number, holds host.handle.calls number = false

/-- All interfaces have been claimed, and nobody has noted it yet. -/
structure Taken (host : Host (Recorded Handle)) : Prop where
  unclaimed : host.claimed = []
  quiet : exclusive host = []
  holds_eq : ∀ number, holds host.handle.calls number = decide (number ∈ host.interfaces)

/-- All interfaces are held for a client. -/
structure Kept (host : Host (Recorded Handle)) : Prop where
  claimed_eq : host.claimed = host.interfaces
  quiet : exclusive host = []
  holds_eq : ∀ number, holds host.handle.calls number = decide (number ∈ host.interfaces)

/-- A job is going to release all interfaces. -/
structure Leaving (host : Host (Recorded Handle)) (job : JobId) : Prop where
  unclaimed : host.claimed = []
  only : exclusive host = [⟨job, .release host.interfaces⟩]
  holds_eq : ∀ number, holds host.handle.calls number = decide (number ∈ host.interfaces)

/-- Nobody waits for the interfaces. They may be kept if something guards them from another claim. -/
def AtEase (host : Host (Recorded Handle)) (guarded : Prop) : Prop :=
  Free host ∨ (Kept host ∧ guarded) ∨ ∃ job, host.releasing = some job ∧ Leaving host job

/-- What holds at a stage of an import. -/
def ImportStage.Custody (host : Host (Recorded Handle)) (busy : Bool) : ImportStage → Prop
  | .checking | .replying _ _ | .unmarking | .confirming _ => AtEase host (busy = true)
  | .clearing | .marking | .unclaiming => AtEase host True
  | .settling | .settlingBack => AtEase host False
  | .awaitingRelease job | .awaitingBack job => Free host ∨ Leaving host job
  | .startingClaim => Free host
  | .claiming job => Claiming host job
  | .recording => Taken host

/-- What holds of the interfaces, whatever the loop is doing. -/
def Custody (host : Host (Recorded Handle)) (busy : Bool) : Prop :=
  match host.loop with
  | .importing _ stage => stage.Custody host busy
  | .idle | .stopped | .listing _ _ _ _ | .listed _ => AtEase host (busy = true)

/-- The interfaces, and what is known of them, are as they were. -/
structure SameHold (host host' : Host (Recorded Handle)) : Prop where
  claimed_eq : host'.claimed = host.claimed
  releasing_eq : host'.releasing = host.releasing
  interfaces_eq : host'.interfaces = host.interfaces
  exclusive_eq : exclusive host' = exclusive host
  calls_eq : host'.handle.calls = host.handle.calls

section Holds

variable {host host' : Host (Recorded Handle)} {job : JobId} {guarded guarded' : Prop}

theorem SameHold.refl (host : Host (Recorded Handle)) : SameHold host host :=
  ⟨rfl, rfl, rfl, rfl, rfl⟩

theorem Free.same (free : Free host) (same : SameHold host host') : Free host' :=
  ⟨same.claimed_eq.trans free.unclaimed, same.exclusive_eq.trans free.quiet,
    same.calls_eq ▸ free.holds_eq⟩

theorem Claiming.same (claiming : Claiming host job) (same : SameHold host host') :
    Claiming host' job :=
  ⟨same.claimed_eq.trans claiming.unclaimed, same.exclusive_eq.trans claiming.only,
    same.calls_eq ▸ claiming.holds_eq⟩

theorem Taken.same (taken : Taken host) (same : SameHold host host') : Taken host' :=
  ⟨same.claimed_eq.trans taken.unclaimed, same.exclusive_eq.trans taken.quiet,
    same.calls_eq ▸ same.interfaces_eq ▸ taken.holds_eq⟩

theorem Kept.same (kept : Kept host) (same : SameHold host host') : Kept host' :=
  ⟨same.claimed_eq.trans (kept.claimed_eq.trans same.interfaces_eq.symm),
    same.exclusive_eq.trans kept.quiet, same.calls_eq ▸ same.interfaces_eq ▸ kept.holds_eq⟩

theorem Leaving.same (leaving : Leaving host job) (same : SameHold host host') :
    Leaving host' job :=
  ⟨same.claimed_eq.trans leaving.unclaimed,
    same.exclusive_eq.trans (same.interfaces_eq ▸ leaving.only),
    same.calls_eq ▸ same.interfaces_eq ▸ leaving.holds_eq⟩

theorem AtEase.same (ease : AtEase host guarded) (same : SameHold host host')
    (guards : guarded → guarded') : AtEase host' guarded' := by
  rcases ease with free | ⟨kept, guard⟩ | ⟨job, known, leaving⟩
  · exact Or.inl (free.same same)
  · exact Or.inr (Or.inl ⟨kept.same same, guards guard⟩)
  · exact Or.inr (Or.inr ⟨job, same.releasing_eq.trans known, leaving.same same⟩)

theorem ImportStage.Custody.same {stage : ImportStage} {busy : Bool}
    (custody : stage.Custody host busy) (same : SameHold host host') :
    stage.Custody host' busy := by
  cases stage with
  | awaitingRelease | awaitingBack => exact custody.imp (·.same same) (·.same same)
  | startingClaim => exact Free.same custody same
  | claiming => exact Claiming.same custody same
  | recording => exact Taken.same custody same
  | _ => exact AtEase.same custody same id

theorem Custody.same {busy : Bool} (custody : Custody host busy) (same : SameHold host host')
    (loop_eq : host'.loop = host.loop) : Custody host' busy := by
  unfold Custody at custody ⊢
  rw [loop_eq]
  split at custody
  · exact ImportStage.Custody.same custody same
  all_goals exact AtEase.same custody same id

/-- A release of nothing only forgets. -/
theorem sameHold_release (unclaimed : host.claimed = []) : SameHold host host.release := by
  unfold Host.release
  rw [unclaimed]
  exact ⟨unclaimed.symm, rfl, rfl, rfl, rfl⟩

/-- A release of what is kept puts a job on the pool and leaves its number where the next import
looks for it. -/
theorem Kept.release (kept : Kept host) (filled : host.interfaces ≠ []) :
    host.release.releasing = some host.issued ∧ Leaving host.release host.issued := by
  have claimed : host.claimed.isEmpty = false := by
    rw [kept.claimed_eq, ← Bool.not_eq_true, List.isEmpty_iff]
    exact filled
  have pool :
      exclusive host.release = exclusive host ++ [⟨host.issued, .release host.claimed⟩] := by
    unfold Host.release
    rw [if_neg (by simp [claimed])]
    exact exclusive_addJob _ (.release host.claimed)
  have released : host.release.releasing = some host.issued ∧ host.release.claimed = [] ∧
      host.release.interfaces = host.interfaces ∧ host.release.handle = host.handle := by
    unfold Host.release
    rw [if_neg (by simp [claimed])]
    exact ⟨rfl, rfl, rfl, rfl⟩
  obtain ⟨known, unclaimed, interfaces_eq, handle_eq⟩ := released
  refine ⟨known, unclaimed, ?_, ?_⟩
  · rw [pool, kept.quiet, kept.claimed_eq, interfaces_eq, List.nil_append]
  · rw [handle_eq, interfaces_eq]
    exact kept.holds_eq

theorem AtEase.release (ease : AtEase host guarded) : AtEase host.release guarded' := by
  rcases ease with free | ⟨kept, -⟩ | ⟨job, known, leaving⟩
  · exact Or.inl (free.same (sameHold_release free.unclaimed))
  · by_cases filled : host.interfaces = []
    · -- a device without interfaces is held by nobody
      have unclaimed : host.claimed = [] := kept.claimed_eq.trans filled
      have free : Free host := ⟨unclaimed, kept.quiet, by simpa [filled] using kept.holds_eq⟩
      exact Or.inl (free.same (sameHold_release unclaimed))
    · obtain ⟨known, leaving⟩ := kept.release filled
      exact Or.inr (Or.inr ⟨_, known, leaving⟩)
  · have same := sameHold_release leaving.unclaimed
    exact Or.inr (Or.inr ⟨job, same.releasing_eq.trans known, leaving.same same⟩)

/-- A clean-up leaves nothing that has to be guarded. -/
theorem Custody.release {busy : Bool} (custody : Custody host busy) (free : Bool) :
    Custody host.release free := by
  unfold Custody at custody ⊢
  rw [release_loop]
  split at custody
  · next order stage loop_eq =>
      cases stage with
      | awaitingRelease | awaitingBack =>
          have unclaimed : host.claimed = [] := custody.elim Free.unclaimed Leaving.unclaimed
          exact ImportStage.Custody.same custody (sameHold_release unclaimed)
      | startingClaim => exact Free.same custody (sameHold_release (Free.unclaimed custody))
      | claiming job => exact Claiming.same custody (sameHold_release (Claiming.unclaimed custody))
      | recording => exact Taken.same custody (sameHold_release (Taken.unclaimed custody))
      | _ => exact AtEase.release custody
  all_goals exact AtEase.release custody

end Holds

/-! ### The moves of the executor -/

section Moves

variable {system next : System (Host (Recorded Handle))}

/-- Whoever takes over the last release waits for it if it may still be going on. -/
theorem AtEase.settle {host : Host (Recorded Handle)} (ease : AtEase host False) :
    (host.releasing = none → Free { host with releasing := none }) ∧
      ∀ job, host.releasing = some job →
        Free { host with releasing := none } ∨ Leaving { host with releasing := none } job := by
  rcases ease with free | ⟨-, guard⟩ | ⟨job, known, leaving⟩
  · have free' : Free { host with releasing := none } :=
      ⟨free.unclaimed, free.quiet, free.holds_eq⟩
    exact ⟨fun _ => free', fun _ _ => Or.inl free'⟩
  · exact guard.elim
  · refine ⟨fun unknown => ?_, fun other known' => Or.inr ?_⟩
    · rw [known] at unknown
      cases unknown
    · obtain rfl : job = other := Option.some.inj (known.symm.trans known')
      exact ⟨leaving.unclaimed, leaving.only, leaving.holds_eq⟩

/-- A release that is not on the pool any more is over. -/
theorem free_of_done {host : Host (Recorded Handle)} {job : JobId}
    (waited : Free host ∨ Leaving host job) (done : ¬ host.hasJob job = true) : Free host := by
  refine waited.resolve_right fun leaving => done ?_
  have pending : (⟨job, .release host.interfaces⟩ : Job) ∈ host.exclusive := by
    rw [leaving.only]
    exact List.mem_singleton_self _
  rw [hasJob, List.any_eq_true]
  exact ⟨_, (List.mem_filter.1 pending).1, beq_self_eq_true job⟩

theorem moveImport_custody {order : ImportOrder} {stage : ImportStage}
    (loop_eq : system.executor.loop = .importing order stage)
    (custody : Custody system.executor system.flags.busy)
    (moved : (moveImport order stage system).next? = some next) :
    Custody next.executor next.flags.busy := by
  unfold Custody at custody
  rw [loop_eq] at custody
  cases stage with
  | checking =>
      simp only [moveImport] at moved
      split at moved
      · next free =>
          cases moved
          simp only [Bool.and_eq_true, Bool.not_eq_true'] at free
          exact AtEase.same custody ⟨rfl, rfl, rfl, rfl, rfl⟩ fun busy => by simp [free.2] at busy
      · cases moved
        exact AtEase.same custody ⟨rfl, rfl, rfl, rfl, rfl⟩ id
  | settling =>
      cases moved
      obtain ⟨unknown, known⟩ := AtEase.settle custody
      unfold settle
      cases releasing : system.executor.releasing with
      | none => exact Free.same (unknown releasing) ⟨rfl, rfl, rfl, rfl, rfl⟩
      | some job =>
          exact (known job releasing).imp (·.same ⟨rfl, rfl, rfl, rfl, rfl⟩)
            (·.same ⟨rfl, rfl, rfl, rfl, rfl⟩)
  | awaitingRelease job =>
      simp only [moveImport] at moved
      split at moved <;> cases moved
      exact Free.same (free_of_done custody ‹_›) ⟨rfl, rfl, rfl, rfl, rfl⟩
  | startingClaim =>
      cases moved
      obtain ⟨unclaimed, quiet, holds_eq⟩ := custody
      refine ⟨unclaimed, ?_, holds_eq⟩
      show exclusive (system.executor.addJob .claim).2 = _
      rw [exclusive_addJob, quiet]
      rfl
  | claiming job => cases moved
  | recording =>
      cases moved
      obtain ⟨-, quiet, holds_eq⟩ := custody
      exact Or.inr (Or.inl ⟨⟨rfl, quiet, holds_eq⟩, trivial⟩)
  | clearing =>
      cases moved
      exact AtEase.same custody ⟨rfl, rfl, rfl, rfl, rfl⟩ id
  | marking =>
      cases moved
      exact AtEase.same custody ⟨rfl, rfl, rfl, rfl, rfl⟩ fun _ => rfl
  | replying accepted ticket =>
      cases ticket with
      | none =>
          simp only [moveImport, Move.next?, Option.some.injEq] at moved
          subst moved
          obtain ⟨links, frame, -⟩ := standInLine_frame system order.reply
            (.send (importReply system.executor order.version accepted).encode)
          rw [frame]
          exact AtEase.same custody ⟨rfl, rfl, rfl, rfl, rfl⟩ id
      | some ticket =>
          simp only [moveImport] at moved
          obtain ⟨socket, guard, -, ⟨-, -, rfl⟩ | ⟨result, -, -, -, -, -, rfl⟩⟩ :=
            System.pursue_cases moved
          · show Custody system.executor system.flags.busy
            unfold Custody
            rw [loop_eq]
            exact custody
          · cases accepted <;> cases result <;>
              exact AtEase.same custody ⟨rfl, rfl, rfl, rfl, rfl⟩ id
  | unmarking =>
      cases moved
      exact AtEase.same custody ⟨rfl, rfl, rfl, rfl, rfl⟩ fun _ => trivial
  | unclaiming =>
      cases moved
      exact (AtEase.release custody).same ⟨rfl, rfl, rfl, rfl, rfl⟩ id
  | settlingBack =>
      cases moved
      obtain ⟨unknown, known⟩ := AtEase.settle custody
      unfold settle
      cases releasing : system.executor.releasing with
      | none => exact Or.inl (Free.same (unknown releasing) ⟨rfl, rfl, rfl, rfl, rfl⟩)
      | some job =>
          exact (known job releasing).imp (·.same ⟨rfl, rfl, rfl, rfl, rfl⟩)
            (·.same ⟨rfl, rfl, rfl, rfl, rfl⟩)
  | awaitingBack job =>
      simp only [moveImport] at moved
      split at moved <;> cases moved
      exact Or.inl (Free.same (free_of_done custody ‹_›) ⟨rfl, rfl, rfl, rfl, rfl⟩)
  | confirming accepted =>
      cases moved
      exact AtEase.same custody ⟨rfl, rfl, rfl, rfl, rfl⟩ id

/-- Taking in a submit concerns the workers only. -/
theorem sameHold_accept (host : Host (Recorded Handle)) (request : SubmitRequest) :
    SameHold host (host.accept request) ∧ (host.accept request).loop = host.loop ∧
      PoolGrows host (host.accept request) := by
  unfold Host.accept enqueue
  dsimp only
  split <;> exact ⟨⟨rfl, rfl, rfl, rfl, rfl⟩, rfl, Or.inl ⟨rfl, rfl⟩⟩

theorem moveRequest_custody (custody : Custody system.executor system.flags.busy)
    (moved : (moveRequest system).next? = some next) :
    Custody next.executor next.flags.busy := by
  unfold moveRequest at moved
  cases loop_eq : system.executor.loop with
  | idle | stopped => simp [loop_eq, Move.next?] at moved
  | importing order stage =>
      simp only [loop_eq] at moved
      exact moveImport_custody loop_eq custody moved
  | listed slot =>
      unfold Custody at custody
      rw [loop_eq] at custody
      simp only [loop_eq, Move.next?, Option.some.injEq] at moved
      subst moved
      exact AtEase.same custody ⟨rfl, rfl, rfl, rfl, rfl⟩ id
  | listing version link slot ticket =>
      have ease := custody
      unfold Custody at ease
      rw [loop_eq] at ease
      cases ticket with
      | none =>
          simp only [loop_eq, Move.next?, Option.some.injEq] at moved
          subst moved
          obtain ⟨links, frame, -⟩ := standInLine_frame system link
            (.send (Reply.listOf version [system.executor.device]).encode)
          rw [frame]
          exact AtEase.same ease ⟨rfl, rfl, rfl, rfl, rfl⟩ id
      | some ticket =>
          simp only [loop_eq] at moved
          obtain ⟨socket, guard, -, ⟨-, -, rfl⟩ | ⟨result, -, -, -, -, -, rfl⟩⟩ :=
            System.pursue_cases moved
          · exact custody
          · exact AtEase.same ease ⟨rfl, rfl, rfl, rfl, rfl⟩ id

theorem moveLoop_custody {preference : Preference}
    (custody : Custody system.executor system.flags.busy)
    (moved : (moveLoop preference system).next? = some next) :
    Custody next.executor next.flags.busy := by
  have turn := moveLoop_cases moved
  generalize loopDeed? preference system = deed at turn
  cases turn with
  | @takesControl request control idle taken =>
      have ease := custody
      unfold Custody at ease
      rw [idle] at ease
      unfold handleControl
      split
      · exact AtEase.same ease ⟨rfl, rfl, rfl, rfl, rfl⟩ id
      · exact AtEase.same ease ⟨rfl, rfl, rfl, rfl, rfl⟩ id
      · exact custody
  | @takesSubmit request data idle taken =>
      obtain ⟨same, loop_eq, -⟩ := sameHold_accept system.executor request
      show Custody (system.executor.accept request) (DeviceFlags.markPending _ _).busy
      rw [DeviceFlags.busy_markPending]
      exact custody.same same loop_eq
  | attends working attends =>
      refine moveRequest_custody custody ?_
      unfold moveLoop at moved
      split at moved
      · next eq => exact absurd eq working
      · next eq => exact absurd eq working
      · exact moved

/-! ### The moves of the workers and of the pool -/

/-- A worker has nothing to do with the interfaces. -/
theorem WorkerMove.sameHold {rest : System (Host (Recorded Handle))} {id : WorkerId}
    {worker worker' : Worker} {deed : Option Deed}
    (move : WorkerMove system id worker deed worker' rest) :
    SameHold system.executor (putWorker rest id worker').executor ∧
      (putWorker rest id worker').executor.loop = system.executor.loop ∧
      (putWorker rest id worker').flags.busy = system.flags.busy ∧
      PoolGrows system.executor (putWorker rest id worker').executor := by
  cases move with
  | takes idle queue_eq busy wanted =>
      refine ⟨⟨rfl, rfl, rfl, ?_, rfl⟩, rfl, rfl, Or.inr ⟨_, rfl, rfl⟩⟩
      show exclusive (system.executor.addJob (.transfer id)).2 = _
      rw [exclusive_addJob]
      exact List.append_nil _
  | @stands link completion stage_eq =>
      obtain ⟨links, frame, -⟩ :=
        standInLine_frame system link (.send (Reply.completed completion).encode)
      rw [frame]
      exact ⟨⟨rfl, rfl, rfl, rfl, rfl⟩, rfl, rfl, Or.inl ⟨rfl, rfl⟩⟩
  | _ => exact ⟨⟨rfl, rfl, rfl, rfl, rfl⟩, rfl, rfl, Or.inl ⟨rfl, rfl⟩⟩

/-- Who wants the device for itself: an import that claims, or the release of what was claimed. -/
theorem Custody.cases_of_job {host : Host (Recorded Handle)} {busy : Bool}
    (custody : Custody host busy) {job : Job} (mem : job ∈ exclusive host) :
    (∃ order, host.loop = .importing order (.claiming job.id) ∧ job.task = .claim ∧
      Claiming host job.id) ∨ (job.task = .release host.interfaces ∧ Leaving host job.id) := by
  have elsewhere {id : JobId} (leaving : Leaving host id) :
      job.task = .release host.interfaces ∧ Leaving host job.id := by
    have only := leaving.only
    rw [only, List.mem_singleton] at mem
    subst mem
    exact ⟨rfl, leaving⟩
  have nobody (quiet : exclusive host = []) : False := by
    rw [quiet] at mem
    cases mem
  have ease {guarded : Prop} (ease : AtEase host guarded) :
      job.task = .release host.interfaces ∧ Leaving host job.id := by
    rcases ease with free | ⟨kept, -⟩ | ⟨id, -, leaving⟩
    · exact (nobody free.quiet).elim
    · exact (nobody kept.quiet).elim
    · exact elsewhere leaving
  unfold Custody at custody
  split at custody
  · next order stage loop_eq =>
      cases stage with
      | awaitingRelease | awaitingBack =>
          exact Or.inr (custody.elim (fun free => (nobody free.quiet).elim) elsewhere)
      | startingClaim => exact (nobody (Free.quiet custody)).elim
      | recording => exact (nobody (Taken.quiet custody)).elim
      | claiming id =>
          have only := Claiming.only custody
          rw [only, List.mem_singleton] at mem
          subst mem
          exact Or.inl ⟨order, loop_eq, rfl, custody⟩
      | _ => exact Or.inr (ease custody)
  all_goals exact Or.inr (ease custody)

/-- When what is leaving is gone, nothing is held. -/
theorem Custody.freed {host host' : Host (Recorded Handle)} {busy : Bool} {job : JobId}
    (custody : Custody host busy) (leaving : Leaving host job) (free : Free host')
    (loop_eq : host'.loop = host.loop) : Custody host' busy := by
  have occupied : exclusive host ≠ [] := by
    rw [leaving.only]
    exact List.cons_ne_nil _ _
  unfold Custody at custody ⊢
  rw [loop_eq]
  split at custody
  · next order stage eq =>
      cases stage with
      | startingClaim => exact absurd (Free.quiet custody) occupied
      | recording => exact absurd (Taken.quiet custody) occupied
      | claiming id =>
          have only := leaving.only
          rw [Claiming.only custody] at only
          cases only
      | _ => exact Or.inl free
  all_goals exact Or.inl free

variable [UsbHandle Handle]

/-- A transfer leaves alone what is claimed. -/
theorem sameHold_beginTransfer {host : Host (Recorded Handle)} (own : Numbered host) {job : Job}
    {place : WorkerId} (mem : job ∈ host.jobs) (task_eq : job.task = .transfer place) :
    SameHold host (host.beginTransfer job.id place) ∧
      (host.beginTransfer job.id place).loop = host.loop := by
  have pool : exclusive (host.dropJob job.id) = exclusive host :=
    exclusive_dropJob_transfer own mem (by rw [task_eq]; rfl)
  unfold Host.beginTransfer
  dsimp only
  split
  · split <;> exact ⟨⟨rfl, rfl, rfl, pool, rfl⟩, rfl⟩
  · exact ⟨⟨rfl, rfl, rfl, pool, rfl⟩, rfl⟩

/-- The claim that an import waits for brings it all interfaces or none. -/
theorem Claiming.runClaim [Yields Handle] {host : Host (Recorded Handle)} {job : JobId}
    {order : ImportOrder} {busy : Bool} (claiming : Claiming host job)
    (loop_eq : host.loop = .importing order (.claiming job)) (nodup : host.interfaces.Nodup)
    (alternate : Alternate host.handle.calls) :
    Custody (host.runClaim job) busy ∧ Alternate (host.runClaim job).handle.calls := by
  obtain ⟨unclaimed, only, holds_eq⟩ := claiming
  obtain ⟨alternate', holds_eq'⟩ := claim_pass nodup alternate holds_eq
  have pool : exclusive (host.dropJob job) = [] := by
    rw [exclusive_dropJob, only]
    simp
  unfold Host.runClaim
  generalize claimAll host.handle host.interfaces = answer at alternate' holds_eq'
  obtain ⟨handle, success⟩ := answer
  dsimp only at alternate' holds_eq' ⊢
  have still : (host.dropJob job).loop = .importing order (.claiming job) := loop_eq
  simp only [still, if_true]
  refine ⟨?_, alternate'⟩
  cases success with
  | true =>
      exact Taken.mk unclaimed pool fun number => (holds_eq' number).trans (Bool.true_and _)
  | false => exact Or.inl ⟨unclaimed, pool, by simpa using holds_eq'⟩

/-- The release that is on the pool gives back all interfaces. -/
theorem Leaving.run [Yields Handle] {host : Host (Recorded Handle)} {job : JobId}
    (leaving : Leaving host job) (nodup : host.interfaces.Nodup)
    (alternate : Alternate host.handle.calls) :
    Free { host.dropJob job with handle := releaseAll host.handle host.interfaces } ∧
      Alternate (releaseAll host.handle host.interfaces).calls := by
  obtain ⟨unclaimed, only, holds_eq⟩ := leaving
  obtain ⟨alternate', holds_eq'⟩ := release_pass nodup alternate
    (fun number mem => by rw [holds_eq]; exact decide_eq_true mem)
  refine ⟨⟨unclaimed, ?_, fun number => ?_⟩, alternate'⟩
  · show exclusive (host.dropJob job) = []
    rw [exclusive_dropJob, only]
    simp
  · show holds (releaseAll host.handle host.interfaces).calls number = false
    rw [holds_eq', holds_eq]
    simp

theorem moveJob_custody [Yields Handle] {id : JobId} (own : Numbered system.executor)
    (nodup : system.executor.interfaces.Nodup) (alternate : Alternate system.executor.handle.calls)
    (custody : Custody system.executor system.flags.busy)
    (moved : (moveJob id system).next? = some next) :
    Custody next.executor next.flags.busy ∧ Alternate next.executor.handle.calls := by
  unfold moveJob at moved
  cases found : system.executor.jobs.find? (·.id == id) with
  | none => simp [found, Move.next?] at moved
  | some job =>
      have mem : job ∈ system.executor.jobs := List.mem_of_find?_eq_some found
      obtain rfl : job.id = id := by simpa using List.find?_some found
      simp only [found] at moved
      cases task_eq : job.task with
      | claim =>
          simp only [task_eq] at moved
          split at moved <;> cases moved
          obtain ⟨order, loop_eq, -, claiming⟩ | ⟨task_eq', -⟩ := custody.cases_of_job
            (List.mem_filter.2 ⟨mem, by rw [task_eq]; rfl⟩)
          · exact claiming.runClaim loop_eq nodup alternate
          · rw [task_eq] at task_eq'
            cases task_eq'
      | release numbers =>
          simp only [task_eq] at moved
          split at moved <;> cases moved
          obtain ⟨-, -, task_eq', -⟩ | ⟨task_eq', leaving⟩ := custody.cases_of_job
            (List.mem_filter.2 ⟨mem, by rw [task_eq]; rfl⟩)
          · rw [task_eq] at task_eq'
            cases task_eq'
          · rw [task_eq] at task_eq'
            obtain rfl := Task.release.inj task_eq'
            obtain ⟨free, alternate'⟩ := leaving.run nodup alternate
            exact ⟨custody.freed leaving free rfl, alternate'⟩
      | transfer place =>
          simp only [task_eq] at moved
          cases moved
          obtain ⟨same, loop_eq⟩ := sameHold_beginTransfer own mem task_eq
          exact ⟨custody.same same loop_eq, same.calls_eq ▸ alternate⟩

end Moves

end UsbExport.Host

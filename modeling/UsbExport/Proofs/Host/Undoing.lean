import UsbExport.Proofs.Host.Asking
import UsbExport.Proofs.Host.Pledges

/-!
Imports that fail. An import can fail before it has claimed anything, while it claims, and when its
reply does not get through; what it has done by then differs, and so does what is left to undo. Main
statement: when the handling of an import that failed is over, the flag, the claims in the books and
the interfaces that are held are as they were before, the answer is no, and a reply that was sent is
the refusal.
-/

namespace UsbExport.Host

open Dispatch Socket

variable {Handle : Type}

/-! ### The handling of an import -/

def repliesIn (notes : List Note) : List Note := notes.filter Note.isReply

/-- A session does a step of its clean-up that concerns the device. -/
def Note.isCleanUp : Note → Bool
  | .deed (.session _ .reset) | .deed (.session _ .released) => true
  | _ => false

/-- An import is being handled, from the moment it was taken up, and no session cleans up
meanwhile. -/
inductive Attempt [UsbHandle Handle] (order : ImportOrder) (before : Server (Host Handle)) :
    List Note → Server (Host Handle) → Prop
  | begins (loop_eq : before.system.executor.loop = .importing order .checking) :
      Attempt order before [] before
  | goesOn {notes : List Note} {server next : Server (Host Handle)}
      (attempt : Attempt order before notes server) (event : Server.Event Party)
      (happened : Server.step company server event = some next)
      (undisturbed : ∀ what ∈ note? server event, what.isCleanUp = false)
      (inHand : next.system.executor.loop.order? = some order) :
      Attempt order before (notes ++ (note? server event).toList) next

theorem Attempt.chronicle [UsbHandle Handle] {order : ImportOrder}
    {before last : Server (Host Handle)} {notes : List Note}
    (attempt : Attempt order before notes last) : Chronicle before notes last := by
  induction attempt with
  | begins => exact .start
  | goesOn _ event happened _ _ ih => exact ih.step event happened

theorem Attempt.begun [UsbHandle Handle] {order : ImportOrder}
    {before last : Server (Host Handle)} {notes : List Note}
    (attempt : Attempt order before notes last) :
    before.system.executor.loop = .importing order .checking := by
  induction attempt with
  | begins loop_eq => exact loop_eq
  | goesOn _ _ _ _ _ ih => exact ih

/-- How an import can fail. -/
inductive Fails (order : ImportOrder) (before after : System (Host (Recorded Handle)))
    (notes : List Note) : Prop
  | unknown (unnamed : before.executor.device.isNamedBy order.busId = false)
  | taken (busy : before.flags.busy = true)
  | refused {made : List Call}
      (calls_eq : after.executor.handle.calls = before.executor.handle.calls ++ made)
      {number : UInt8} (member : ⟨.claim, number, false⟩ ∈ made)
  | unsent {accepted : Bool} (replied : .replied order accepted false ∈ notes)

/-- The device is as it was, and nothing is under way. If a claim was refused, the interfaces before
it were released, each once, and that is all. -/
structure Restored (before after : Holding) : Prop where
  busy_eq : after.busy = before.busy
  claimed_eq : after.claimed = before.claimed
  held_eq : ∀ number, holds after.calls number = holds before.calls number
  quiet : after.jobs = []
  taken_back : ∀ made, after.calls = before.calls ++ made →
    ∀ (place : Nat) (number : UInt8), made[place]? = some ⟨.claim, number, false⟩ →
      before.interfaces[place]? = some number ∧
        made = claimsOf (before.interfaces.take place) ++
          ⟨.claim, number, false⟩ :: releasesOf (before.interfaces.take place)

/-- An import has left nothing behind. There was one reply to it, and if that could be sent it is
the refusal. -/
structure Undone (order : ImportOrder) (before after : System (Host (Recorded Handle)))
    (notes : List Note) : Prop extends Restored (holding before) (holding after) where
  confirmed : after.slots[order.confirm]? = some (.given false)
  replied : ∃ accepted succeeded, repliesIn notes = [.replied order accepted succeeded] ∧
    (succeeded = true → accepted = false ∧ (Reply.refused order.version).encode.length = 8 ∧
      ∃ socket, after.links[order.reply]? = some socket ∧
        (Reply.refused order.version).encode <:+: socket.guard.sink.written)

/-! ### What an import has done so far -/

/-- Where an import that began at `before` has brought the device. -/
structure Stands (before now : Holding) (busy : Bool) (claimed : List UInt8) (jobs : List Job)
    (made : List Call) : Prop where
  interfaces_eq : now.interfaces = before.interfaces
  device_eq : now.device = before.device
  busy_eq : now.busy = busy
  claimed_eq : now.claimed = claimed
  jobs_eq : now.jobs = jobs
  calls_eq : now.calls = before.calls ++ made

/-- The device is the one that was asked for, and it was free. -/
def Welcome (order : ImportOrder) (before : Holding) : Prop :=
  before.device.isNamedBy order.busId = true ∧ before.busy = false

/-- The calls of an import that is denied: none, or those of a claim that was refused. -/
inductive Denied (order : ImportOrder) (before : Holding) : List Call → Prop
  | unwelcome (unwelcome : ¬Welcome order before) : Denied order before []
  | refused {made : List Call} (welcome : Welcome order before)
      (pass : ClaimPass before.interfaces made false) : Denied order before made

/-- All interfaces were claimed and released again. -/
def TakenBack (before now : Holding) : Prop :=
  Stands before now false [] [] (claimsOf before.interfaces ++ releasesOf before.interfaces)

/-- All interfaces were claimed, and a job is going to release them. -/
def GoesBack (before now : Holding) (job : JobId) : Prop :=
  Stands before now false [] [⟨job, .release before.interfaces⟩] (claimsOf before.interfaces)

/-- What an import has done, and how it was replied to, when it has come to a stage. -/
def ImportStage.Course (order : ImportOrder) (before now : Holding) (replies : List Note) :
    ImportStage → Prop
  | .checking => Stands before now before.busy before.claimed [] [] ∧ replies = []
  | .settling | .awaitingRelease _ | .startingClaim =>
      Welcome order before ∧ Stands before now before.busy before.claimed [] [] ∧ replies = []
  | .claiming job =>
      Welcome order before ∧ Stands before now before.busy before.claimed [⟨job, .claim⟩] [] ∧
        replies = []
  | .recording =>
      Welcome order before ∧
        Stands before now before.busy before.claimed [] (claimsOf before.interfaces) ∧
        replies = []
  | .clearing | .marking =>
      Welcome order before ∧
        Stands before now before.busy before.interfaces [] (claimsOf before.interfaces) ∧
        replies = []
  | .replying true _ =>
      Welcome order before ∧
        Stands before now true before.interfaces [] (claimsOf before.interfaces) ∧ replies = []
  | .replying false _ =>
      (∃ made, Denied order before made ∧ Stands before now before.busy before.claimed [] made) ∧
        replies = []
  | .unmarking =>
      Welcome order before ∧
        Stands before now true before.interfaces [] (claimsOf before.interfaces) ∧
        replies = [.replied order true false]
  | .unclaiming =>
      Welcome order before ∧
        Stands before now false before.interfaces [] (claimsOf before.interfaces) ∧
        replies = [.replied order true false]
  | .settlingBack =>
      Welcome order before ∧
        (TakenBack before now ∨ ∃ job, now.releasing = some job ∧ GoesBack before now job) ∧
        replies = [.replied order true false]
  | .awaitingBack job =>
      Welcome order before ∧ (TakenBack before now ∨ GoesBack before now job) ∧
        replies = [.replied order true false]
  | .confirming false =>
      (∃ made succeeded, Denied order before made ∧
        Stands before now before.busy before.claimed [] made ∧
        replies = [.replied order false succeeded]) ∨
      Welcome order before ∧ TakenBack before now ∧ replies = [.replied order true false]
  | .confirming true =>
      Welcome order before ∧
        Stands before now true before.interfaces [] (claimsOf before.interfaces) ∧
        replies = [.replied order true true]

section Steps

variable {order : ImportOrder} {stage : ImportStage} {before now next : Holding}
  {busy : Bool} {claimed : List UInt8} {jobs : List Job} {made : List Call} {replies : List Note}

/-- The loop goes on and nothing else happens. -/
theorem Stands.goOn (stands : Stands before now busy claimed jobs made)
    (releasing : Option JobId) (loop : LoopStage) :
    Stands before { now with releasing, loop } busy claimed jobs made :=
  ⟨stands.interfaces_eq, stands.device_eq, stands.busy_eq, stands.claimed_eq, stands.jobs_eq,
    stands.calls_eq⟩

/-- The release of what is in the books is on the pool, or there was nothing to release. -/
theorem Stands.release
    (stands : Stands before now false before.interfaces [] (claimsOf before.interfaces))
    (job : JobId) (loop : LoopStage) :
    TakenBack before { now.release job with loop } ∨
      (now.release job).releasing = some job ∧
        GoesBack before { now.release job with loop } job := by
  obtain ⟨interfaces_eq, device_eq, busy_eq, claimed_eq, jobs_eq, calls_eq⟩ := stands
  unfold Holding.release
  by_cases empty : now.claimed.isEmpty = true
  · have none : before.interfaces = [] := claimed_eq ▸ List.isEmpty_iff.1 empty
    rw [if_pos empty]
    refine Or.inl ⟨interfaces_eq, device_eq, busy_eq, List.isEmpty_iff.1 empty, jobs_eq, ?_⟩
    rw [none] at calls_eq ⊢
    exact calls_eq
  · rw [if_neg empty]
    refine Or.inr ⟨rfl, interfaces_eq, device_eq, busy_eq, rfl, ?_, calls_eq⟩
    rw [jobs_eq, claimed_eq]
    rfl

theorem ImportStep.course (loop_eq : now.loop = .importing order stage)
    (course : stage.Course order before now replies) (step : ImportStep now order stage next)
    (inHand : next.loop.order? = some order) :
    ∃ stage', next.loop = .importing order stage' ∧ stage'.Course order before next replies := by
  cases step with
  | passes named free =>
      obtain ⟨stands, unreplied⟩ := course
      have welcome : Welcome order before :=
        ⟨stands.device_eq ▸ named, stands.busy_eq ▸ free⟩
      exact ⟨_, rfl, welcome, stands.goOn _ _, unreplied⟩
  | refuses taken =>
      obtain ⟨stands, unreplied⟩ := course
      have unwelcome : ¬Welcome order before := by
        rintro ⟨named, free⟩
        rw [stands.device_eq, stands.busy_eq, named, free] at taken
        exact taken.elim nofun nofun
      exact ⟨_, rfl, ⟨[], .unwelcome unwelcome, stands.goOn _ _⟩, unreplied⟩
  | settles =>
      obtain ⟨welcome, stands, unreplied⟩ := course
      cases now.releasing <;> exact ⟨_, rfl, welcome, stands.goOn _ _, unreplied⟩
  | waits gone =>
      obtain ⟨welcome, stands, unreplied⟩ := course
      exact ⟨_, rfl, welcome, stands.goOn _ _, unreplied⟩
  | begins fresh =>
      obtain ⟨welcome, ⟨interfaces_eq, device_eq, busy_eq, claimed_eq, jobs_eq, calls_eq⟩,
        unreplied⟩ := course
      refine ⟨_, rfl, welcome, ⟨interfaces_eq, device_eq, busy_eq, claimed_eq, ?_, calls_eq⟩,
        unreplied⟩
      rw [jobs_eq]
      rfl
  | records =>
      obtain ⟨welcome, stands, unreplied⟩ := course
      exact ⟨_, rfl, welcome, ⟨stands.interfaces_eq, stands.device_eq, stands.busy_eq,
        stands.interfaces_eq, stands.jobs_eq, stands.calls_eq⟩, unreplied⟩
  | clears =>
      obtain ⟨welcome, stands, unreplied⟩ := course
      exact ⟨_, rfl, welcome, stands.goOn _ _, unreplied⟩
  | marks =>
      obtain ⟨welcome, stands, unreplied⟩ := course
      exact ⟨_, rfl, welcome, ⟨stands.interfaces_eq, stands.device_eq, rfl, stands.claimed_eq,
        stands.jobs_eq, stands.calls_eq⟩, unreplied⟩
  | @stands accepted ticket =>
      refine ⟨_, rfl, ?_⟩
      cases accepted with
      | true =>
          obtain ⟨welcome, stands, unreplied⟩ := course
          exact ⟨welcome, stands.goOn _ _, unreplied⟩
      | false =>
          obtain ⟨⟨made, denied, stands⟩, unreplied⟩ := course
          exact ⟨⟨made, denied, stands.goOn _ _⟩, unreplied⟩
  | unmarks =>
      obtain ⟨welcome, stands, replied⟩ := course
      exact ⟨_, rfl, welcome, ⟨stands.interfaces_eq, stands.device_eq, rfl, stands.claimed_eq,
        stands.jobs_eq, stands.calls_eq⟩, replied⟩
  | @unclaims job fresh =>
      obtain ⟨welcome, stands, replied⟩ := course
      exact ⟨_, rfl, welcome, (stands.release job _).imp_right fun goes => ⟨job, goes⟩, replied⟩
  | settlesBack =>
      obtain ⟨welcome, returning, replied⟩ := course
      cases releasing : now.releasing with
      | none =>
          rcases returning with taken | ⟨job, known, -⟩
          · exact ⟨_, rfl, Or.inr ⟨welcome, taken.goOn _ _, replied⟩⟩
          · cases releasing.symm.trans known
      | some job =>
          refine ⟨_, rfl, welcome, ?_, replied⟩
          rcases returning with taken | ⟨other, known, goes⟩
          · exact Or.inl (taken.goOn _ _)
          · cases releasing.symm.trans known
            exact Or.inr (goes.goOn _ _)
  | @returns job gone =>
      obtain ⟨welcome, returning, replied⟩ := course
      rcases returning with taken | goes
      · exact ⟨_, rfl, Or.inr ⟨welcome, taken.goOn _ _, replied⟩⟩
      · -- the release that was waited for is gone, so it cannot be on the pool
        have pending : ⟨job, .release before.interfaces⟩ ∈ now.jobs := by
          rw [goes.jobs_eq]
          exact List.mem_singleton_self _
        exact absurd rfl (gone _ pending)
  | confirms => cases inHand

/-- The jobs of an import: one that claims, or one that gives back what was claimed. -/
theorem ImportStage.Course.cases_of_job (course : stage.Course order before now replies) {job : Job}
    (member : job ∈ now.jobs) :
    (∃ id, stage = .claiming id ∧ job = ⟨id, .claim⟩) ∨
      (stage = .settlingBack ∨ ∃ id, stage = .awaitingBack id) ∧
        job.task = .release before.interfaces ∧ GoesBack before now job.id := by
  have nobody {busy : Bool} {claimed : List UInt8} {made : List Call}
      (stands : Stands before now busy claimed [] made) : False := by
    rw [stands.jobs_eq] at member
    cases member
  have somebody {id : JobId} (goes : GoesBack before now id) :
      job.task = .release before.interfaces ∧ GoesBack before now job.id := by
    have here := member
    rw [goes.jobs_eq, List.mem_singleton] at here
    subst here
    exact ⟨rfl, goes⟩
  cases stage with
  | claiming id =>
      obtain ⟨-, stands, -⟩ := course
      rw [stands.jobs_eq, List.mem_singleton] at member
      exact Or.inl ⟨id, rfl, member⟩
  | settlingBack =>
      obtain ⟨-, taken | ⟨id, -, goes⟩, -⟩ := course
      · exact (nobody taken).elim
      · exact Or.inr ⟨Or.inl rfl, somebody goes⟩
  | awaitingBack id =>
      obtain ⟨-, taken | goes, -⟩ := course
      · exact (nobody taken).elim
      · exact Or.inr ⟨Or.inr ⟨id, rfl⟩, somebody goes⟩
  | checking => exact (nobody course.1).elim
  | replying accepted ticket =>
      cases accepted with
      | true => exact (nobody course.2.1).elim
      | false =>
          obtain ⟨⟨made, -, stands⟩, -⟩ := course
          exact (nobody stands).elim
  | confirming accepted =>
      cases accepted with
      | true => exact (nobody course.2.1).elim
      | false =>
          rcases course with ⟨made, succeeded, -, stands, -⟩ | ⟨-, taken, -⟩
          · exact (nobody stands).elim
          · exact (nobody taken).elim
  | _ => exact (nobody course.2.1).elim

theorem ImportStage.Course.claims (loop_eq : now.loop = .importing order stage)
    (course : stage.Course order before now replies) {job : JobId} {made : List Call}
    {success : Bool} (member : ⟨job, .claim⟩ ∈ now.jobs)
    (pass : ClaimPass now.interfaces made success) :
    ∃ stage', now.loop.afterClaim job success = .importing order stage' ∧
      stage'.Course order before
        { now.drop job with
          calls := now.calls ++ made
          loop := now.loop.afterClaim job success } replies := by
  obtain ⟨id, rfl, same⟩ | ⟨-, release, -⟩ := course.cases_of_job member
  · cases same
    obtain ⟨welcome, ⟨interfaces_eq, device_eq, busy_eq, claimed_eq, jobs_eq, calls_eq⟩,
      unreplied⟩ := course
    have stands : Stands before
        { now.drop job with
          calls := now.calls ++ made
          loop := now.loop.afterClaim job success } before.busy before.claimed [] made := by
      refine ⟨interfaces_eq, device_eq, busy_eq, claimed_eq, Holding.drop_only jobs_eq, ?_⟩
      show now.calls ++ made = before.calls ++ made
      rw [calls_eq, List.append_nil]
    refine ⟨_, LoopStage.afterClaim_of_claiming loop_eq success, ?_⟩
    rw [interfaces_eq] at pass
    cases success with
    | true =>
        cases pass
        exact ⟨welcome, stands, unreplied⟩
    | false => exact ⟨⟨made, .refused welcome pass, stands⟩, unreplied⟩
  · cases release

theorem ImportStage.Course.frees (course : stage.Course order before now replies) {job : JobId}
    {numbers : List UInt8} (member : ⟨job, .release numbers⟩ ∈ now.jobs) :
    stage.Course order before
      { now.drop job with calls := now.calls ++ releasesOf numbers } replies := by
  obtain ⟨id, -, same⟩ | ⟨stage_eq, release, goes⟩ := course.cases_of_job member
  · cases same
  · obtain rfl := Task.release.inj release
    obtain ⟨interfaces_eq, device_eq, busy_eq, claimed_eq, jobs_eq, calls_eq⟩ := goes
    have taken : TakenBack before
        { now.drop job with calls := now.calls ++ releasesOf before.interfaces } := by
      refine ⟨interfaces_eq, device_eq, busy_eq, claimed_eq, Holding.drop_only jobs_eq, ?_⟩
      show now.calls ++ releasesOf before.interfaces = _
      rw [calls_eq, List.append_assoc]
    obtain rfl | ⟨id, rfl⟩ := stage_eq <;> exact ⟨course.1, Or.inl taken, course.2.2⟩

theorem repliesIn_quiet {notes : List Note} {note : Option Note}
    (quiet : ∀ what ∈ note, what.isReply = false) :
    repliesIn (notes ++ note.toList) = repliesIn notes := by
  cases note with
  | none => rw [Option.toList_none, List.append_nil]
  | some what => simp [repliesIn, quiet what rfl]

/-- Whatever happens, the import in hand goes on in its course. -/
theorem HoldingStep.course {notes : List Note} {note : Option Note}
    (loop_eq : now.loop = .importing order stage)
    (course : stage.Course order before now (repliesIn notes)) (step : HoldingStep now note next)
    (undisturbed : ∀ what ∈ note, what.isCleanUp = false)
    (inHand : next.loop.order? = some order) :
    ∃ stage', next.loop = .importing order stage' ∧
      stage'.Course order before next (repliesIn (notes ++ note.toList)) := by
  cases step with
  | aside quiet =>
      rw [repliesIn_quiet quiet]
      exact ⟨stage, loop_eq, course⟩
  | resets link => cases undisturbed _ rfl
  | cleansUp link fresh => cases undisturbed _ rfl
  | elsewhere apart begins quiet =>
      rw [loop_eq] at apart
      cases apart
  | attends loop_eq' step quiet =>
      cases loop_eq.symm.trans loop_eq'
      rw [repliesIn_quiet quiet]
      exact step.course loop_eq course inHand
  | @replies order' accepted ticket loop_eq' succeeded =>
      cases loop_eq.symm.trans loop_eq'
      have replies_eq : repliesIn (notes ++ [.replied order accepted succeeded]) =
          repliesIn notes ++ [.replied order accepted succeeded] := by
        simp [repliesIn, Note.isReply]
      refine ⟨_, rfl, ?_⟩
      rw [Option.toList_some, replies_eq]
      cases accepted with
      | true =>
          obtain ⟨welcome, stands, unreplied⟩ := course
          rw [unreplied]
          cases succeeded <;> exact ⟨welcome, stands.goOn _ _, rfl⟩
      | false =>
          obtain ⟨⟨made, denied, stands⟩, unreplied⟩ := course
          rw [unreplied]
          exact Or.inl ⟨made, succeeded, denied, stands.goOn _ _, rfl⟩
  | claims member pass =>
      rw [repliesIn_quiet (by simp)]
      exact course.claims loop_eq member pass
  | frees member =>
      rw [repliesIn_quiet (by simp)]
      exact ⟨stage, loop_eq, course.frees member⟩

theorem LoopStage.order?_afterClaim (loop : LoopStage) (job : JobId) (success : Bool) :
    (loop.afterClaim job success).order? = loop.order? := by
  unfold LoopStage.afterClaim
  split <;> rfl

/-- The handling of an import ends with the answer to it. -/
theorem HoldingStep.finishes {note : Option Note} (step : HoldingStep now note next)
    (loop_eq : now.loop = .importing order stage) (finished : next.loop.order? = none) :
    ∃ accepted, stage = .confirming accepted ∧ next = { now with loop := .idle } := by
  have inHand : now.loop.order? ≠ none := by simp [loop_eq, LoopStage.order?]
  cases step with
  | attends loop_eq' step =>
      cases loop_eq.symm.trans loop_eq'
      cases step with
      | confirms => exact ⟨_, rfl, rfl⟩
      | _ => cases finished
  | cleansUp link fresh =>
      have finished : (now.release _).loop.order? = none := finished
      rw [now.loop_release] at finished
      exact absurd finished inHand
  | elsewhere apart => exact absurd apart inHand
  | replies => cases finished
  | claims =>
      have finished : (now.loop.afterClaim _ _).order? = none := finished
      rw [LoopStage.order?_afterClaim] at finished
      exact absurd finished inHand
  | _ => exact absurd finished inHand

/-! ### What is left when it is over -/

/-- An import that is confirmed did not fail. -/
theorem Fails.unconfirmed {before last after : System (Host (Recorded Handle))}
    {notes : List Note} (fails : Fails order before after notes)
    (calls_eq : after.executor.handle.calls = last.executor.handle.calls)
    (course : (ImportStage.confirming true).Course order (holding before) (holding last)
      (repliesIn notes)) : False := by
  obtain ⟨⟨named, free⟩, stands, replied⟩ := course
  cases fails with
  | unknown unnamed => cases named.symm.trans unnamed
  | taken busy => cases free.symm.trans busy
  | refused made_eq member =>
      have same := made_eq.symm.trans (calls_eq.trans stands.calls_eq)
      obtain rfl := List.append_cancel_left same
      obtain ⟨number, -, other⟩ := List.mem_map.1 member
      cases other
  | unsent failed =>
      have member := List.mem_filter.2 ⟨failed, (rfl : Note.isReply _ = true)⟩
      rw [← repliesIn, replied, List.mem_singleton] at member
      cases member

variable (free : before.busy = false →
  before.claimed = [] ∧ ∀ number, holds before.calls number = false)

include free in
/-- Before a free device is claimed nothing is held, so nothing is held after a refusal. -/
theorem Denied.restored (denied : Denied order before made)
    (stands : Stands before now before.busy before.claimed [] made) : Restored before now := by
  refine ⟨stands.busy_eq, stands.claimed_eq, fun number => ?_, stands.jobs_eq,
    fun made' calls_eq place number refused => ?_⟩
  · rw [stands.calls_eq]
    cases denied with
    | unwelcome => rw [List.append_nil]
    | refused welcome pass =>
        have unheld := (free welcome.2).2 number
        rw [unheld]
        exact Bool.eq_false_iff.2 fun held => by simp [pass.holds_refused held] at unheld
  · obtain rfl := List.append_cancel_left (calls_eq.symm.trans stands.calls_eq)
    cases denied with
    | unwelcome => simp at refused
    | refused welcome pass => exact pass.of_refused refused

include free in
theorem TakenBack.restored (taken : TakenBack before now) (welcome : Welcome order before) :
    Restored before now := by
  obtain ⟨unclaimed, unheld⟩ := free welcome.2
  refine ⟨taken.busy_eq.trans welcome.2.symm, taken.claimed_eq.trans unclaimed.symm,
    fun number => ?_, taken.jobs_eq, fun made calls_eq place number refused => ?_⟩
  · rw [taken.calls_eq, holds_taken_back, unheld]
    rfl
  · obtain rfl := List.append_cancel_left (calls_eq.symm.trans taken.calls_eq)
    rw [List.getElem?_append] at refused
    split at refused
    · exact absurd refused getElem?_claimsOf
    · exact absurd refused getElem?_releasesOf

end Steps

section Runs

variable [UsbHandle Handle] {order : ImportOrder}

theorem Attempt.course [Yields Handle] {before last : Server (Host (Recorded Handle))}
    {notes : List Note} (attempt : Attempt order before notes last)
    (own : Numbered before.system.executor) (jobless : (holding before.system).jobs = []) :
    Numbered last.system.executor ∧
      ∃ stage, last.system.executor.loop = .importing order stage ∧
        stage.Course order (holding before.system) (holding last.system) (repliesIn notes) := by
  induction attempt with
  | begins loop_eq =>
      exact ⟨own, _, loop_eq, ⟨rfl, rfl, rfl, rfl, jobless, (List.append_nil _).symm⟩, rfl⟩
  | goesOn _ event happened undisturbed inHand ih =>
      obtain ⟨own, stage, loop_eq, course⟩ := ih
      exact ⟨step_numbered own happened,
        (step_holdingStep own happened).course loop_eq course undisturbed inHand⟩

/-- The answer to an import goes into its slot. -/
theorem DeskStep.answered {before after : Desk} {note : Option Note} {accepted : Bool}
    (step : DeskStep before note after)
    (loop_eq : before.loop = .importing order (.confirming accepted))
    (finished : after.loop.order? = none) :
    after.slots = (before.answer order.confirm accepted).slots := by
  have inHand : before.loop.order? ≠ none := by simp [loop_eq, LoopStage.order?]
  cases step with
  | confirms loop_eq' =>
      cases loop_eq.symm.trans loop_eq'
      rfl
  | takes idle => simp [idle] at loop_eq
  | listStands loop_eq' => cases loop_eq.symm.trans loop_eq'
  | lists loop_eq' => cases loop_eq.symm.trans loop_eq'
  | listAnswers loop_eq' => cases loop_eq.symm.trans loop_eq'
  | goesOn | passes | refuses | unclaimable | records | marks | replies | unmarks | unclaims =>
      cases finished
  | _ => exact absurd finished inHand

/-- **A failed import leaves nothing behind.** However an import fails, when its handling is over,
with no release on the pool when it began and no session cleaning up meanwhile, the answer is no;
the flag, the claims in the books and the interfaces that are held are as they were; a refused claim
has released the interfaces before it, each once; and a reply that was sent is the refusal. -/
theorem failed_import_leaves_nothing [Yields Handle]
    {start before last after : Server (Host (Recorded Handle))} {earlier notes : List Note}
    (fresh : Fresh start) (untouched : Untouched start.system.executor)
    (past : Chronicle start earlier before)
    (unreleased : ∀ job ∈ before.system.executor.jobs, ∀ numbers, job.task ≠ .release numbers)
    (uncleaned : before.system.isCleaning = false) (attempt : Attempt order before notes last)
    {event : Server.Event Party} (ended : Server.step company last event = some after)
    (finished : after.system.executor.loop.order? = none)
    (fails : Fails order before.system after.system notes) :
    Undone order before.system after.system notes := by
  obtain ⟨own, pledged⟩ := past.pledged untouched
  have jobless := pledged.jobless attempt.begun unreleased
  have free := pledged.unheld attempt.begun jobless uncleaned
  obtain ⟨own', stage, loop_eq, course⟩ := attempt.course own jobless
  obtain ⟨accepted, rfl, after_eq⟩ := (step_holdingStep own' ended).finishes loop_eq finished
  have until_last := past.append attempt.chronicle
  -- nobody else answers, so the slot was still open
  have confirmed : after.system.slots[order.confirm]? = some (.given accepted) := by
    have waits : order.confirm ∈ pending last.system := by
      simp [pending, loop_eq, LoopStage.slot?]
    have unanswered := (until_last.history.asks fresh).unanswered _ waits
    show (desk after.system).slots[order.confirm]? = _
    rw [(step_deskStep ended).answered loop_eq finished]
    simp [Desk.answer, desk, unanswered]
  cases accepted with
  | true => exact (fails.unconfirmed (congrArg Holding.calls after_eq) course).elim
  | false =>
      rcases course with ⟨made, succeeded, denied, stands, replied⟩ | ⟨welcome, taken, replied⟩
      · have restored : Restored (holding before.system) (holding after.system) := by
          rw [after_eq]
          exact denied.restored free (stands.goOn _ _)
        refine ⟨restored, confirmed, false, succeeded, replied, ?_⟩
        rintro rfl
        have noted : .replied order false true ∈ notes := by
          refine (List.mem_filter.1 (?_ : _ ∈ repliesIn notes)).1
          rw [replied]
          exact List.mem_singleton_self _
        obtain ⟨guard, guard_eq, sent⟩ := ((until_last.step event ended).receipts fresh).written
          (List.mem_append_left _ (List.mem_append_right _ noted)) rfl
        obtain ⟨socket, socket_eq, rfl⟩ : ∃ socket, after.system.links[order.reply]? = some socket ∧
            socket.guard = guard := by simpa [guards] using guard_eq
        exact ⟨rfl, rfl, socket, socket_eq, sent⟩
      · have restored : Restored (holding before.system) (holding after.system) := by
          rw [after_eq]
          exact TakenBack.restored free (taken.goOn _ _) welcome
        exact ⟨restored, confirmed, true, false, replied, fun sent => by cases sent⟩

end Runs

/-! ### A device that refuses an interface -/

/-- Whether an import stays in hand while these events happen, and no session cleans up. -/
def handles [UsbHandle Handle] (order : ImportOrder) (server : Server (Host Handle)) :
    List (Server.Event Party) → Bool
  | [] => true
  | event :: events =>
      match Server.step company server event with
      | none => handles order server events
      | some next =>
          (note? server event).all (!·.isCleanUp) &&
            next.system.executor.loop.order? == some order && handles order next events

theorem Attempt.retell [UsbHandle Handle] {order : ImportOrder}
    {before server : Server (Host Handle)} {notes : List Note}
    (attempt : Attempt order before notes server)
    (events : List (Server.Event Party)) (inHand : handles order server events = true) :
    Attempt order before (notes ++ (Host.retell server events).1)
      (Host.retell server events).2 := by
  induction events generalizing notes server with
  | nil => simpa [Host.retell] using attempt
  | cons event events ih =>
      rw [Host.retell]
      rw [handles] at inHand
      cases happened : Server.step company server event with
      | none =>
          rw [happened] at inHand
          exact ih attempt inHand
      | some next =>
          simp only [happened, Bool.and_eq_true, beq_iff_eq] at inHand
          obtain ⟨⟨undisturbed, inHand⟩, rest⟩ := inHand
          rw [← List.append_assoc]
          refine ih (attempt.goesOn event happened (fun what noted => ?_) inHand) rest
          rw [Option.mem_def.1 noted] at undisturbed
          simpa using undisturbed

/-- A device that does not let go of one of its interfaces. -/
structure Wary where

instance : UsbHandle Wary where
  claim device number := (device, if number = 2 then .error .busy else .ok ())
  release device _ := (device, .ok ())
  transfer device transfer := (device, .ok ⟨transfer.bufferSize, []⟩)
  mayFinish _ _ := true

instance : Yields Wary := ⟨fun _ _ => rfl⟩

def wary : Server (Host (Recorded Wary)) where
  system :=
    { config := {}
      executor :=
        { device := { busId := "1" }
          endpoints := []
          interfaces := [0, 1, 2, 3]
          maxTransfer := 1024
          handle := ⟨{}, []⟩ } }

/-- A client asks for the device, and the executor takes that up. -/
def takenUp : List Note × Server (Host (Recorded Wary)) :=
  retell wary ([.connect, .arrive 0 placidImport, .move .acceptor] ++ sessionMoves 4 ++
    moves [.loop .control])

/-- The claim is refused, and the refusal sent. -/
def turnedDown : List Note × Server (Host (Recorded Wary)) :=
  retell takenUp.2 (moves ([.loop .control, .loop .control, .loop .control, .job 0] ++
    List.replicate 3 (.loop .control)))

def waryOrder : ImportOrder := ⟨0x0111, .ofString "1", 0, 0⟩

theorem refused_import_leaves_nothing :
    ∃ after, Server.step company turnedDown.2 (.move (.inner (.loop .control))) = some after ∧
      after.system.executor.handle.calls =
        [⟨.claim, 0, true⟩, ⟨.claim, 1, true⟩, ⟨.claim, 2, false⟩, ⟨.release, 0, true⟩,
          ⟨.release, 1, true⟩] ∧
      Undone waryOrder takenUp.2.system after.system turnedDown.1 := by
  have begun : takenUp.2.system.executor.loop = .importing waryOrder .checking := by decide +kernel
  have unstarted : takenUp.2.system.executor.jobs = [] ∧ takenUp.2.system.isCleaning = false ∧
      takenUp.2.system.executor.handle.calls = [] := by decide +kernel
  have finished : (Server.step company turnedDown.2 (.move (.inner (.loop .control)))).map
      (fun after => (after.system.executor.loop.order?, after.system.executor.handle.calls)) =
        some (none, [⟨.claim, 0, true⟩, ⟨.claim, 1, true⟩, ⟨.claim, 2, false⟩,
          ⟨.release, 0, true⟩, ⟨.release, 1, true⟩]) := by decide +kernel
  have attempt := (Attempt.begins begun).retell
    (moves ([.loop .control, .loop .control, .loop .control, .job 0] ++
      List.replicate 3 (.loop .control))) (by decide +kernel)
  obtain ⟨after, ended, told⟩ := Option.map_eq_some_iff.1 finished
  obtain ⟨done, calls_eq⟩ := Prod.mk.inj told
  have calls_eq' : after.system.executor.handle.calls =
      takenUp.2.system.executor.handle.calls ++ [⟨.claim, 0, true⟩, ⟨.claim, 1, true⟩,
        ⟨.claim, 2, false⟩, ⟨.release, 0, true⟩, ⟨.release, 1, true⟩] := by
    rw [calls_eq, unstarted.2.2]
    rfl
  have refused : (⟨.claim, 2, false⟩ : Call) ∈ [⟨.claim, 0, true⟩, ⟨.claim, 1, true⟩,
      ⟨.claim, 2, false⟩, ⟨.release, 0, true⟩, ⟨.release, 1, true⟩] := by decide
  exact ⟨after, ended, calls_eq,
    failed_import_leaves_nothing ⟨rfl, rfl, ⟨rfl, rfl⟩, rfl, rfl, rfl, rfl, rfl⟩
      ⟨rfl, rfl, rfl, rfl⟩ (chronicle_retell wary _) (by simp [unstarted.1]) unstarted.2.1 attempt
      ended done (.refused calls_eq' refused)⟩

end UsbExport.Host

import UsbExport.Proofs.Host.Cancellation
import UsbExport.Proofs.Host.Chronicle

/-!
Accounts of the URBs that have numbers of their own, while nobody empties the books. The books list
as in flight what the workers hold, and as unlinked what was cancelled in flight; whatever was
cancelled so is dropped, and everything else that leaves the books is answered.
-/

namespace UsbExport.Host

open Dispatch Socket

variable {Handle : Type}

/-! ### Where the URBs and their answers are -/

def Deed.accepted? : Deed → Option SubmitRequest
  | .accepted request => some request
  | _ => none

/-- The number whose answer has had its turn. -/
def Deed.answered? : Deed → Option UInt32
  | .answered _ completion _ => some completion.header.seqnum
  | _ => none

def answered (trace : List Deed) : List UInt32 := trace.filterMap Deed.answered?

/-- The number that a worker is about to answer. -/
def WorkerStage.replies? : WorkerStage → Option UInt32
  | .replying _ completion _ => some completion.header.seqnum
  | _ => none

namespace Ledger

/-- The URBs that workers have taken out of their queues. -/
def staged (ledger : Ledger) : List SubmitRequest :=
  ledger.works.filterMap fun work => work.stage.request?

def queued (ledger : Ledger) : List SubmitRequest := ledger.works.flatMap Work.queue

def replies (ledger : Ledger) : List UInt32 :=
  ledger.works.filterMap fun work => work.stage.replies?

theorem employed_perm (ledger : Ledger) : ledger.employed.Perm (ledger.staged ++ ledger.queued) := by
  rw [List.perm_iff_count]
  intro request
  unfold employed staged queued
  induction ledger.works with
  | nil => rfl
  | cons work works ih =>
      cases staged : work.stage.request? <;>
        simp only [List.flatMap_cons, List.filterMap_cons, Work.held, staged, List.count_append,
          Option.toList_none, Option.toList_some, List.count_nil, List.count_cons] at ih ⊢ <;>
        omega

theorem find_ne_absent {ledger : Ledger} {target : UInt32} :
    ledger.find target ≠ .absent ↔ target ∈ ledger.urbs.inFlight := by
  unfold find
  split
  · next flying => split <;> simp [flying]
  · next landed => simp [landed]

theorem mem_queued_of_find {ledger : Ledger} {target : UInt32}
    (found : ledger.find target = .queued) :
    ∃ request ∈ ledger.queued, request.seqnum = target := by
  unfold find at found
  split at found
  · split at found
    · next queued =>
        obtain ⟨work, member, request, inside, same⟩ : ∃ work ∈ ledger.works,
            ∃ request ∈ work.queue, request.seqnum = target := by simpa using queued
        exact ⟨request, List.mem_flatMap.2 ⟨work, member, inside⟩, same⟩
    · cases found
  · cases found

end Ledger

theorem answered_append (trace : List Deed) (deed : Option Deed) :
    answered (trace ++ deed.toList) = answered trace ++ (deed.bind Deed.answered?).toList :=
  filterMap_append_toList Deed.answered? trace deed

/-- What comes to a worker was accepted, and goes with its retirement. -/
theorem LedgerStep.employed_perm {before after : Ledger} {deed : Option Deed}
    (step : LedgerStep before deed after) :
    (before.employed ++ (deed.bind Deed.accepted?).toList).Perm
      ((deed.bind Deed.retired?).toList ++ after.employed) := by
  rw [List.perm_iff_count]
  intro request
  cases step with
  | accepts =>
      simp [Deed.accepted?, Deed.retired?, Ledger.employed, Work.held, List.count_cons]
  | employs =>
      simp [Deed.accepted?, Deed.retired?, Ledger.employed, Work.held, WorkerStage.request?,
        List.count_cons]
  | works step =>
      have kept := step.held_perm.count_eq request
      have unaccepted : (deed.bind Deed.accepted?).toList = [] := by cases step <;> rfl
      rw [unaccepted]
      simp only [Ledger.employed, List.flatMap_append, List.flatMap_cons, List.count_append,
        List.count_nil] at kept ⊢
      omega
  | rests quiet =>
      have still : (deed.bind Deed.accepted?).toList = [] ∧
          (deed.bind Deed.retired?).toList = [] := by
        cases deed with
        | none => exact ⟨rfl, rfl⟩
        | some what =>
            have still := quiet what rfl
            cases what <;> first | exact still.elim | exact ⟨rfl, rfl⟩
      rw [still.1, still.2, List.append_nil, List.nil_append]
  | _ => simp [Deed.accepted?, Deed.retired?, Ledger.employed]

/-- An answer has had its turn, or somebody is about to answer who took an unmarked URB out of the
books; whoever else takes one out finds it marked or skipped it. -/
theorem LedgerStep.replies {trace : List Deed} {before after : Ledger} {deed : Option Deed}
    (step : LedgerStep before deed after) (books : Books trace before) :
    (∃ request ∈ before.employed, deed = some (.retired request) ∧
      request.seqnum ∉ before.urbs.unlinked ∧
        after.replies.Perm (request.seqnum :: before.replies)) ∨
    before.replies.Perm ((deed.bind Deed.answered?).toList ++ after.replies) ∧
      ∀ request, deed = some (.retired request) → request.seqnum ∈ before.urbs.unlinked ∨
        ∃ work ∈ before.works, work.stage = .retiring request none := by
  cases step with
  | accepts =>
      refine Or.inr ⟨?_, by simp⟩
      simp only [Ledger.replies, List.filterMap_append, List.filterMap_cons]
      exact .refl _
  | employs =>
      refine Or.inr ⟨?_, by simp⟩
      simp [Ledger.replies, Deed.answered?, WorkerStage.replies?]
  | @works waiting front back work work' urbs urbs' deed step =>
      cases step with
      | @reports request queue completion wanted =>
          have seqnum_eq := books.seqnum_eq ⟨queue, _⟩ (by simp) request completion rfl
          refine Or.inl ⟨request, ?_, rfl, wanted, ?_⟩
          · simp [Ledger.employed, Work.held, WorkerStage.request?]
          · simp only [Ledger.replies, List.filterMap_append, List.filterMap_cons,
              WorkerStage.replies?, seqnum_eq]
            exact List.perm_middle
      | @drops request queue completion unwanted =>
          refine Or.inr ⟨by simp [Ledger.replies, Deed.answered?, WorkerStage.replies?],
            fun other same => ?_⟩
          cases same
          rcases unwanted with rfl | marked
          · exact Or.inr ⟨⟨queue, _⟩, by simp, rfl⟩
          · exact Or.inl marked
      | @answers link completion queue ticket succeeded =>
          refine Or.inr ⟨?_, by simp⟩
          simp only [Ledger.replies, List.filterMap_append, List.filterMap_cons,
            WorkerStage.replies?, Deed.answered?, Option.bind_some, Option.toList_some]
          exact List.perm_middle
      | _ =>
          refine Or.inr ⟨?_, by simp⟩
          simp [Ledger.replies, Deed.answered?, WorkerStage.replies?]
  | rests quiet =>
      have still : (deed.bind Deed.answered?).toList = [] ∧
          ∀ request, deed ≠ some (.retired request) := by
        cases deed with
        | none => exact ⟨rfl, by simp⟩
        | some what =>
            have still := quiet what rfl
            cases what <;> first | exact still.elim | exact ⟨rfl, by simp⟩
      rw [still.1]
      exact Or.inr ⟨.refl _, fun request same => absurd same (still.2 request)⟩
  | _ => exact Or.inr ⟨.refl _, by simp⟩

/-- What becomes of the books as long as nobody empties them. -/
inductive UrbsStep (before : Ledger) : Option Deed → Urbs → Prop
  | submits {request : SubmitRequest} (waited : request ∈ before.waiting) :
      UrbsStep before (some (.accepted request)) (before.urbs.submit request.seqnum)
  | unlinks (link : LinkId) (target : UInt32) :
      UrbsStep before (some (.session link (.cancelled target))) (before.urbs.unlink target)
  | retires {request : SubmitRequest} (employed : request ∈ before.employed) :
      UrbsStep before (some (.retired request)) (before.urbs.retire request.seqnum)
  | keeps {deed : Option Deed} (unaccepted : deed.bind Deed.accepted? = none)
      (unretired : deed.bind Deed.retired? = none)
      (uncancelled : ∀ link target, deed ≠ some (.session link (.cancelled target))) :
      UrbsStep before deed before.urbs

theorem LedgerStep.urbsStep {before after : Ledger} {deed : Option Deed}
    (step : LedgerStep before deed after) (uncleared : deed ≠ some .cleared)
    (unreleased : ∀ link, deed ≠ some (.session link .released)) :
    UrbsStep before deed after.urbs := by
  cases step with
  | posts link submit => exact .keeps rfl rfl (by simp)
  | accepts => exact .submits (by simp)
  | employs => exact .submits (by simp)
  | cancels link target => exact .unlinks link target
  | releases link => exact absurd rfl (unreleased link)
  | clears => exact absurd rfl uncleared
  | @works waiting front back work work' urbs urbs' deed step =>
      have inHand {request : SubmitRequest} (held : request ∈ work.held) :
          request ∈ Ledger.employed ⟨waiting, front ++ work :: back, urbs⟩ := by
        simp [Ledger.employed, held]
      cases step with
      | drops unwanted => exact .retires (inHand (by simp [Work.held, WorkerStage.request?]))
      | reports wanted => exact .retires (inHand (by simp [Work.held, WorkerStage.request?]))
      | _ => exact .keeps rfl rfl (by simp)
  | rests quiet =>
      cases deed with
      | none => exact .keeps rfl rfl (by simp)
      | some what =>
          have still := quiet what rfl
          cases what with
          | session link what =>
              cases what with
              | cancelled target => exact still.elim
              | _ => exact .keeps rfl rfl (by simp)
          | _ => exact still.elim

/-- Whoever has a URB in hand had it before, or took it off the queue: to skip it, or unmarked. -/
theorem LedgerStep.staged {before after : Ledger} {deed : Option Deed}
    (step : LedgerStep before deed after) {later : Work} (member : later ∈ after.works)
    {request : SubmitRequest} (stage_eq : later.stage.request? = some request) :
    (∃ work ∈ before.works, work.stage.request? = some request ∧
        (work.stage = .retiring request none → later.stage = .retiring request none)) ∨
      request ∈ before.queued ∧
        (later.stage = .retiring request none ∨ request.seqnum ∉ before.urbs.unlinked) := by
  have old (found : later ∈ before.works) :
      (∃ work ∈ before.works, work.stage.request? = some request ∧
        (work.stage = .retiring request none → later.stage = .retiring request none)) ∨
      request ∈ before.queued ∧
        (later.stage = .retiring request none ∨ request.seqnum ∉ before.urbs.unlinked) :=
    Or.inl ⟨later, found, stage_eq, id⟩
  cases step with
  | @accepts request waiting front back work urbs =>
      rcases List.mem_append.1 member with member | member
      · exact old (by simp [member])
      · rcases List.mem_cons.1 member with rfl | member
        · exact Or.inl ⟨work, by simp, stage_eq, id⟩
        · exact old (by simp [member])
  | employs =>
      rcases List.mem_append.1 member with member | member
      · exact old member
      · rw [List.mem_singleton.1 member] at stage_eq
        cases stage_eq
  | @works waiting front back work work' urbs urbs' deed step =>
      rcases List.mem_append.1 member with member | member
      · exact old (by simp [member])
      · rcases List.mem_cons.1 member with rfl | member
        · cases step with
          | skips =>
              cases stage_eq
              exact Or.inr ⟨by simp [Ledger.queued], Or.inl rfl⟩
          | takes wanted =>
              cases stage_eq
              exact Or.inr ⟨by simp [Ledger.queued], Or.inr wanted⟩
          | @begins request queue outcome =>
              cases stage_eq
              exact Or.inl ⟨⟨queue, .transferring request none⟩, by simp, rfl, by simp⟩
          | @ends request queue begun completion seqnum_eq =>
              cases stage_eq
              exact Or.inl ⟨⟨queue, .transferring request begun⟩, by simp, rfl, by simp⟩
          | _ => cases stage_eq
        · exact old (by simp [member])
  | _ => exact old member

/-- A URB in hand stays so until it is taken out of the books. -/
theorem LedgerStep.mem_staged {before after : Ledger} {deed : Option Deed}
    (step : LedgerStep before deed after) {request : SubmitRequest}
    (staged : request ∈ before.staged) :
    request ∈ after.staged ∨ deed = some (.retired request) := by
  cases step with
  | accepts =>
      left
      simp only [Ledger.staged, List.filterMap_append, List.filterMap_cons] at staged ⊢
      exact staged
  | employs => exact Or.inl (by simpa [Ledger.staged, WorkerStage.request?] using staged)
  | works step =>
      simp only [Ledger.staged, List.filterMap_append, List.filterMap_cons] at staged ⊢
      cases step <;> simp [WorkerStage.request?] at staged ⊢ <;> grind
  | _ => exact Or.inl staged

/-- The transfer of a URB begins in the hands of its worker. -/
theorem LedgerStep.staged_of_begun {before after : Ledger} {request : SubmitRequest}
    (step : LedgerStep before (some (.begun request)) after) :
    request ∈ after.staged ∧ ∃ work ∈ before.works, work.stage = .transferring request none := by
  cases step with
  | works step =>
      cases step with
      | begins outcome =>
          exact ⟨by simp [Ledger.staged, WorkerStage.request?], _,
            List.mem_append_right _ (List.mem_cons_self ..), rfl⟩
  | rests quiet => exact (quiet _ rfl).elim

/-! ### What was cancelled in flight -/

/-- A URB of this number was in flight when it was cancelled. -/
def Struck (seqnum : UInt32) (notes : List Note) : Prop :=
  ∃ link found, .cancelled link seqnum found ∈ notes ∧ found ≠ .absent

theorem Struck.later {seqnum : UInt32} {notes : List Note} (struck : Struck seqnum notes)
    (more : List Note) : Struck seqnum (notes ++ more) := by
  obtain ⟨link, found, member, present⟩ := struck
  exact ⟨link, found, List.mem_append_left _ member, present⟩

/-- A cancellation is noted with where it finds its URB. -/
def Note.Finds (ledger : Ledger) (note : Option Note) : Prop :=
  ∀ link target, note.bind Note.deed? = some (.session link (.cancelled target)) →
    note = some (.cancelled link target (ledger.find target))

theorem struck_append {seqnum : UInt32} {notes : List Note} {note : Option Note} {ledger : Ledger}
    (finds : Note.Finds ledger note) :
    Struck seqnum (notes ++ note.toList) ↔ Struck seqnum notes ∨
      seqnum ∈ ledger.urbs.inFlight ∧
        ∃ link, note.bind Note.deed? = some (.session link (.cancelled seqnum)) := by
  constructor
  · rintro ⟨link, found, member, present⟩
    rcases List.mem_append.1 member with member | made
    · exact Or.inl ⟨link, found, member, present⟩
    · obtain rfl := Option.mem_toList.1 made
      have eq := finds link seqnum rfl
      cases eq
      exact Or.inr ⟨Ledger.find_ne_absent.1 present, link, rfl⟩
  · rintro (struck | ⟨flying, link, said⟩)
    · exact struck.later _
    · exact ⟨link, _, by simp [finds link seqnum said], Ledger.find_ne_absent.2 flying⟩

/-! ### The accounts -/

/-- Every URB that is held has a number of its own, which none that left the books had. -/
def Apart (trace : List Deed) (ledger : Ledger) : Prop :=
  ((retired trace ++ ledger.held).map (·.seqnum)).Nodup

namespace Apart

variable {trace : List Deed} {ledger : Ledger} (apart : Apart trace ledger)
include apart

theorem parts : ((retired trace).map (·.seqnum)).Nodup ∧ (ledger.waiting.map (·.seqnum)).Nodup ∧
    (ledger.employed.map (·.seqnum)).Nodup ∧
    (∀ request ∈ retired trace, ∀ other ∈ ledger.held, request.seqnum ≠ other.seqnum) ∧
    ∀ request ∈ ledger.waiting, ∀ other ∈ ledger.employed, request.seqnum ≠ other.seqnum := by
  unfold Apart Ledger.held at apart
  simp only [List.map_append, List.nodup_append] at apart
  obtain ⟨gone, ⟨waiting, employed, across⟩, beyond⟩ := apart
  refine ⟨gone, waiting, employed, fun request member other held => ?_,
    fun request member other held =>
      across _ (List.mem_map_of_mem member) _ (List.mem_map_of_mem held)⟩
  refine beyond _ (List.mem_map_of_mem member) _ ?_
  rw [← List.map_append]
  exact List.mem_map_of_mem held

theorem staged_ne_queued : ∀ request ∈ ledger.staged, ∀ other ∈ ledger.queued,
    request.seqnum ≠ other.seqnum := by
  have employed := apart.parts.2.2.1
  rw [(ledger.employed_perm.map _).nodup_iff, List.map_append, List.nodup_append] at employed
  exact fun request member other held =>
    employed.2.2 _ (List.mem_map_of_mem member) _ (List.mem_map_of_mem held)

theorem retired_ne_employed : ∀ request ∈ retired trace, ∀ other ∈ ledger.employed,
    request.seqnum ≠ other.seqnum :=
  fun request member other held =>
    apart.parts.2.2.2.1 request member other (List.mem_append_right _ held)

end Apart

structure Tally (notes : List Note) (ledger : Ledger) : Prop where
  books : Books (deeds notes) ledger
  flying : ∀ request ∈ ledger.employed, request.seqnum ∈ ledger.urbs.inFlight
  unlinked_iff : ∀ seqnum, seqnum ∈ ledger.urbs.unlinked ↔
    seqnum ∈ ledger.urbs.inFlight ∧ Struck seqnum notes
  struck : ∀ seqnum, Struck seqnum notes →
    ∃ request ∈ retired (deeds notes) ++ ledger.employed, request.seqnum = seqnum
  skipped : ∀ work ∈ ledger.works, ∀ request, work.stage = .retiring request none →
    Struck request.seqnum notes
  answers : ∀ seqnum, ¬Struck seqnum notes →
    (answered (deeds notes) ++ ledger.replies).count seqnum =
      ((retired (deeds notes)).map (·.seqnum)).count seqnum
  silent : ∀ seqnum, Struck seqnum notes → seqnum ∉ answered (deeds notes) ++ ledger.replies
  addressed : ∀ link completion succeeded, .answered link completion succeeded ∈ deeds notes →
    ∃ request ∈ retired (deeds notes), request.reply = link ∧
      request.seqnum = completion.header.seqnum
  begun : ∀ request, .begun request ∈ deeds notes →
    request ∈ retired (deeds notes) ++ ledger.staged
  unbegun : ∀ link seqnum, .cancelled link seqnum .queued ∈ notes →
    (∀ work ∈ ledger.works, ∀ request, work.stage.request? = some request →
      request.seqnum = seqnum → work.stage = .retiring request none) ∧
    ∀ request, .begun request ∈ deeds notes → request.seqnum ≠ seqnum

namespace Tally

variable {notes : List Note} {note : Option Note} {before after : Ledger}

theorem mem_queued_employed {ledger : Ledger} {request : SubmitRequest}
    (queued : request ∈ ledger.queued) : request ∈ ledger.employed :=
  ledger.employed_perm.mem_iff.2 (List.mem_append_right _ queued)

theorem flying_step (tally : Tally notes before) (apart : Apart (deeds notes) before)
    {deed : Option Deed} (step : LedgerStep before deed after)
    (urbsStep : UrbsStep before deed after.urbs) :
    ∀ request ∈ after.employed, request.seqnum ∈ after.urbs.inFlight := by
  intro request employed
  have perm := step.employed_perm
  have found := perm.mem_iff.2 (List.mem_append_right _ employed)
  rw [List.mem_append, Option.mem_toList] at found
  generalize after.urbs = urbs at urbsStep
  cases urbsStep with
  | submits waited =>
      rcases found with found | new
      · exact Urbs.mem_inFlight_submit.2 (Or.inr (tally.flying request found))
      · cases new
        exact Urbs.mem_inFlight_submit.2 (Or.inl rfl)
  | unlinks link target =>
      rw [Urbs.inFlight_unlink]
      exact tally.flying request (found.resolve_right (by simp [Deed.accepted?]))
  | @retires gone held =>
      have found := found.resolve_right (by simp [Deed.accepted?])
      refine Urbs.mem_inFlight_retire.2 ⟨tally.flying request found, fun same => ?_⟩
      have perm : before.employed.Perm (gone :: after.employed) := by
        simpa [Deed.accepted?, Deed.retired?] using perm
      have single := apart.parts.2.2.1
      rw [(perm.map _).nodup_iff, List.map_cons, List.nodup_cons] at single
      exact single.1 (List.mem_map.2 ⟨request, employed, same⟩)
  | keeps unaccepted unretired uncancelled =>
      rw [unaccepted] at found
      exact tally.flying request (found.resolve_right (by simp))

theorem unlinked_iff_step (tally : Tally notes before) (apart : Apart (deeds notes) before)
    (finds : Note.Finds before note)
    (urbsStep : UrbsStep before (note.bind Note.deed?) after.urbs) (seqnum : UInt32) :
    seqnum ∈ after.urbs.unlinked ↔
      seqnum ∈ after.urbs.inFlight ∧ Struck seqnum (notes ++ note.toList) := by
  rw [struck_append finds]
  generalize note.bind Note.deed? = deed at urbsStep
  generalize after.urbs = urbs at urbsStep
  have old := tally.unlinked_iff seqnum
  cases urbsStep with
  | @submits request waited =>
      have unflown : request.seqnum ∉ before.urbs.inFlight := by
        intro flying
        obtain ⟨other, employed, same⟩ := tally.books.employed_of_mem _ flying
        exact apart.parts.2.2.2.2 request waited other employed same.symm
      have unstruck : ¬Struck request.seqnum notes := by
        intro struck
        obtain ⟨other, known, same⟩ := tally.struck _ struck
        rcases List.mem_append.1 known with gone | employed
        · exact apart.parts.2.2.2.1 other gone request (List.mem_append_left _ waited) same
        · exact apart.parts.2.2.2.2 request waited other employed same.symm
      rw [Urbs.mem_inFlight_submit]
      show seqnum ∈ before.urbs.unlinked ↔ _
      rw [old]
      by_cases here : seqnum = request.seqnum
      · subst here
        simp [unflown, unstruck]
      · simp [here]
  | unlinks link target =>
      rw [Urbs.mem_unlinked_unlink, Urbs.inFlight_unlink, old]
      by_cases here : seqnum = target
      · subst here
        by_cases flying : seqnum ∈ before.urbs.inFlight <;> simp [flying]
      · have other : target ≠ seqnum := Ne.symm here
        simp [here, other]
  | retires employed =>
      rw [Urbs.mem_unlinked_retire, Urbs.mem_inFlight_retire, old]
      simp [and_right_comm]
  | keeps unaccepted unretired uncancelled => simp [old, uncancelled]

theorem struck_step (tally : Tally notes before) (finds : Note.Finds before note)
    (step : LedgerStep before (note.bind Note.deed?) after) (seqnum : UInt32)
    (struck : Struck seqnum (notes ++ note.toList)) :
    ∃ request ∈ retired (deeds (notes ++ note.toList)) ++ after.employed,
      request.seqnum = seqnum := by
  have kept {request : SubmitRequest} (known : request ∈ retired (deeds notes) ++ before.employed) :
      request ∈ retired (deeds (notes ++ note.toList)) ++ after.employed := by
    rw [deeds_append, retired_append, List.append_assoc, List.mem_append]
    rcases List.mem_append.1 known with gone | employed
    · exact Or.inl gone
    · exact Or.inr (step.employed_perm.mem_iff.1 (List.mem_append_left _ employed))
  rcases (struck_append finds).1 struck with earlier | ⟨flying, -⟩
  · obtain ⟨request, known, same⟩ := tally.struck seqnum earlier
    exact ⟨request, kept known, same⟩
  · obtain ⟨request, employed, same⟩ := tally.books.employed_of_mem seqnum flying
    exact ⟨request, kept (List.mem_append_right _ employed), same⟩

/-- What is taken out of the books without an answer was cancelled in flight. -/
theorem struck_of_unanswered (tally : Tally notes before) {request : SubmitRequest}
    (unwanted : request.seqnum ∈ before.urbs.unlinked ∨
      ∃ work ∈ before.works, work.stage = .retiring request none) :
    Struck request.seqnum notes := by
  rcases unwanted with marked | ⟨work, member, stage_eq⟩
  · exact ((tally.unlinked_iff _).1 marked).2
  · exact tally.skipped work member request stage_eq

theorem silent_step (tally : Tally notes before) (apart : Apart (deeds notes) before)
    (finds : Note.Finds before note) (step : LedgerStep before (note.bind Note.deed?) after)
    (seqnum : UInt32) (struck : Struck seqnum (notes ++ note.toList)) :
    seqnum ∉ answered (deeds (notes ++ note.toList)) ++ after.replies := by
  have quiet : seqnum ∉ answered (deeds notes) ++ before.replies := by
    by_cases earlier : Struck seqnum notes
    · exact tally.silent seqnum earlier
    · -- it is cancelled only now, and has not left the books
      obtain ⟨flying, -⟩ := ((struck_append finds).1 struck).resolve_left earlier
      obtain ⟨request, employed, rfl⟩ := tally.books.employed_of_mem seqnum flying
      rw [← List.count_eq_zero, tally.answers _ earlier, List.count_eq_zero]
      intro gone
      obtain ⟨other, gone, same⟩ := List.mem_map.1 gone
      exact apart.retired_ne_employed other gone request employed same
  rw [deeds_append, answered_append, List.append_assoc]
  rcases step.replies tally.books with ⟨request, employed, said, unmarked, perm⟩ | ⟨perm, -⟩
  · have unanswered : (note.bind Note.deed?).bind Deed.answered? = none := by rw [said]; rfl
    rw [unanswered, Option.toList_none, List.nil_append, (perm.append_left _).mem_iff,
      List.perm_middle.mem_iff, List.mem_cons, not_or]
    refine ⟨fun same => unmarked ?_, quiet⟩
    rcases (struck_append finds).1 struck with earlier | ⟨-, link, cancelled⟩
    · rw [tally.unlinked_iff, ← same]
      exact ⟨same ▸ tally.flying request employed, earlier⟩
    · cases cancelled.symm.trans said
  · rwa [← (perm.append_left _).mem_iff]

theorem answers_step (tally : Tally notes before)
    (step : LedgerStep before (note.bind Note.deed?) after) (seqnum : UInt32)
    (unstruck : ¬Struck seqnum (notes ++ note.toList)) :
    (answered (deeds (notes ++ note.toList)) ++ after.replies).count seqnum =
      ((retired (deeds (notes ++ note.toList))).map (·.seqnum)).count seqnum := by
  have earlier : ¬Struck seqnum notes := fun struck => unstruck (struck.later _)
  have counted := tally.answers seqnum earlier
  rw [deeds_append, answered_append, retired_append, List.append_assoc, List.map_append]
  simp only [List.count_append] at counted ⊢
  rcases step.replies tally.books with ⟨request, employed, said, unmarked, perm⟩ | ⟨perm, gone⟩
  · rw [said]
    have count_eq := perm.count_eq seqnum
    simp only [Option.bind_some, Deed.answered?, Deed.retired?, Option.toList_none,
      Option.toList_some, List.map_cons, List.map_nil, List.count_cons, List.count_nil] at count_eq ⊢
    omega
  · have count_eq := perm.count_eq seqnum
    have unretired : (((note.bind Note.deed?).bind Deed.retired?).toList.map
        (·.seqnum)).count seqnum = 0 := by
      rw [List.count_eq_zero]
      intro member
      obtain ⟨request, taken, same⟩ := List.mem_map.1 member
      obtain ⟨what, said, found⟩ := Option.bind_eq_some_iff.1 (Option.mem_toList.1 taken)
      cases what <;> cases found
      exact earlier (same ▸ tally.struck_of_unanswered (gone request said))
    rw [List.count_append] at count_eq
    omega

theorem addressed_step (tally : Tally notes before)
    (step : LedgerStep before (note.bind Note.deed?) after) (link : LinkId)
    (completion : Completion) (succeeded : Bool)
    (answered : .answered link completion succeeded ∈ deeds (notes ++ note.toList)) :
    ∃ request ∈ retired (deeds (notes ++ note.toList)), request.reply = link ∧
      request.seqnum = completion.header.seqnum := by
  rw [deeds_append] at answered ⊢
  obtain ⟨request, gone, eqs⟩ : ∃ request ∈ retired (deeds notes), request.reply = link ∧
      request.seqnum = completion.header.seqnum := by
    rcases List.mem_append.1 answered with earlier | now
    · exact tally.addressed link completion succeeded earlier
    · rw [Option.mem_toList.1 now] at step
      obtain ⟨work, member, ticket, stage_eq⟩ := step.replying_of_answer rfl
      exact tally.books.retired_of_replying work member link completion ticket stage_eq
  exact ⟨request, mem_retired_append.2 (Or.inl gone), eqs⟩

theorem begun_step (tally : Tally notes before)
    (step : LedgerStep before (note.bind Note.deed?) after) (request : SubmitRequest)
    (begun : .begun request ∈ deeds (notes ++ note.toList)) :
    request ∈ retired (deeds (notes ++ note.toList)) ++ after.staged := by
  rw [deeds_append] at begun ⊢
  rw [retired_append, List.append_assoc, List.mem_append]
  rcases List.mem_append.1 begun with earlier | now
  · rcases List.mem_append.1 (tally.begun request earlier) with gone | staged
    · exact Or.inl gone
    · refine Or.inr (List.mem_append.2 ?_)
      rcases step.mem_staged staged with still | said
      · exact Or.inr still
      · exact Or.inl (by simp [said, Deed.retired?])
  · rw [Option.mem_toList.1 now] at step
    exact Or.inr (List.mem_append_right _ step.staged_of_begun.1)

theorem unbegun_step (tally : Tally notes before) (apart : Apart (deeds notes) before)
    (finds : Note.Finds before note) (step : LedgerStep before (note.bind Note.deed?) after)
    (link : LinkId) (seqnum : UInt32)
    (cancelled : .cancelled link seqnum .queued ∈ notes ++ note.toList) :
    (∀ work ∈ after.works, ∀ request, work.stage.request? = some request →
      request.seqnum = seqnum → work.stage = .retiring request none) ∧
    ∀ request, .begun request ∈ deeds (notes ++ note.toList) → request.seqnum ≠ seqnum := by
  rcases List.mem_append.1 cancelled with earlier | now
  · obtain ⟨skipped, unbegun⟩ := tally.unbegun link seqnum earlier
    have struck : Struck seqnum notes := ⟨link, .queued, earlier, by simp⟩
    refine ⟨fun later member request stage_eq same => ?_, fun request begun same => ?_⟩
    · rcases step.staged member stage_eq with
        ⟨work, found, was, kept⟩ | ⟨queued, skips | unmarked⟩
      · exact kept (skipped work found request was same)
      · exact skips
      · refine absurd ((tally.unlinked_iff _).2 ⟨tally.flying request ?_, same ▸ struck⟩) unmarked
        exact mem_queued_employed queued
    · rw [deeds_append] at begun
      rcases List.mem_append.1 begun with before | now
      · exact unbegun request before same
      · rw [Option.mem_toList.1 now] at step
        obtain ⟨-, work, member, stage_eq⟩ := step.staged_of_begun
        cases stage_eq.symm.trans (skipped work member request (by rw [stage_eq]; rfl) same)
  · obtain rfl := Option.mem_toList.1 now
    have eq := finds link seqnum rfl
    simp only [Option.some.injEq, Note.cancelled.injEq, true_and] at eq
    obtain ⟨queued, member, rfl⟩ := Ledger.mem_queued_of_find eq.symm
    refine ⟨fun work found request stage_eq same => ?_, fun request begun same => ?_⟩
    · have works_eq : after.works = before.works := by
        rw [LedgerStep.eq_of_cancelled step]
      have staged : request ∈ before.staged :=
        List.mem_filterMap.2 ⟨work, works_eq ▸ found, stage_eq⟩
      exact absurd same (apart.staged_ne_queued request staged queued member)
    · have begun : .begun request ∈ deeds notes := by
        simpa [deeds, Note.deed?] using begun
      rcases List.mem_append.1 (tally.begun request begun) with gone | staged
      · exact apart.retired_ne_employed request gone queued (mem_queued_employed member) same
      · exact apart.staged_ne_queued request staged queued member same

theorem step (tally : Tally notes before) (apart : Apart (deeds notes) before)
    (finds : Note.Finds before note) (step : LedgerStep before (note.bind Note.deed?) after)
    (uncleared : note.bind Note.deed? ≠ some .cleared)
    (unreleased : ∀ link, note.bind Note.deed? ≠ some (.session link .released))
    (skips : ∀ work ∈ after.works, ∀ request, work.stage = .retiring request none →
      (∃ earlier ∈ before.works, earlier.stage = .retiring request none) ∨
        request.seqnum ∈ before.urbs.unlinked) : Tally (notes ++ note.toList) after where
  books := by
    rw [deeds_append]
    exact tally.books.step step
  flying := tally.flying_step apart step (step.urbsStep uncleared unreleased)
  unlinked_iff := tally.unlinked_iff_step apart finds (step.urbsStep uncleared unreleased)
  struck := tally.struck_step finds step
  skipped := by
    intro work member request stage_eq
    rcases skips work member request stage_eq with ⟨earlier, found, was⟩ | marked
    · exact (tally.struck_of_unanswered (Or.inr ⟨earlier, found, was⟩)).later _
    · exact (tally.struck_of_unanswered (Or.inl marked)).later _
  answers := tally.answers_step step
  silent := tally.silent_step apart finds step
  addressed := tally.addressed_step step
  begun := tally.begun_step step
  unbegun := tally.unbegun_step apart finds step

end Tally

end UsbExport.Host

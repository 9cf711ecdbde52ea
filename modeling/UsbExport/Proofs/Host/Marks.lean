import UsbExport.Proofs.Host.PendingFlags

/-!
What the deeds of a run make of the books and of the pending flags, and what of it is due to clients
before a given one. A number in flight and a pending flag are marks of one kind: a URB of their key
that comes in raises them, and one that leaves lowers them. Main statement: a client finds a mark as
its own URBs make it exactly as long as no earlier client's URB of that key comes in while the mark
is down, or leaves while it is up.
-/

namespace UsbExport.Host

open Dispatch Socket

variable {Handle : Type}

/-! ### The books along a run -/

/-- What a deed makes of the books. -/
def Deed.book (urbs : Urbs) : Deed → Urbs
  | .accepted request => urbs.submit request.seqnum
  | .retired request => urbs.retire request.seqnum
  | .session _ (.cancelled target) => urbs.unlink target
  | .session _ .released | .cleared => {}
  | _ => urbs

def booksAfter (urbs : Urbs) (trace : List Deed) : Urbs := trace.foldl Deed.book urbs

theorem booksAfter_append (urbs : Urbs) (earlier later : List Deed) :
    booksAfter urbs (earlier ++ later) = booksAfter (booksAfter urbs earlier) later :=
  List.foldl_append

theorem Deed.book_of_isQuiet {deed : Deed} (quiet : deed.IsQuiet) (urbs : Urbs) :
    deed.book urbs = urbs := by
  cases deed with
  | session link what => cases what <;> first | rfl | exact quiet.elim
  | _ => exact quiet.elim

theorem LedgerStep.urbs_eq {before after : Ledger} {deed : Option Deed}
    (step : LedgerStep before deed after) : after.urbs = booksAfter before.urbs deed.toList := by
  cases step with
  | works step => cases step <;> rfl
  | @rests ledger deed quiet =>
      cases deed with
      | none => rfl
      | some what => exact (Deed.book_of_isQuiet (quiet what rfl) _).symm
  | _ => rfl

theorem History.urbs_eq [UsbHandle Handle] {start last : Server (Host Handle)} {trace : List Deed}
    (history : History start trace last) :
    last.system.executor.urbs = booksAfter start.system.executor.urbs trace := by
  refine history.invariant
    (fun trace server => (ledger server.system).urbs = booksAfter (ledger start.system).urbs trace)
    rfl fun trace server deed next ih happening => ?_
  rw [booksAfter_append, ← ih]
  exact happening.ledgerStep.urbs_eq

/-! ### Marks -/

section

variable {κ : Type} [DecidableEq κ] {key : SubmitRequest → κ} {value : κ} {up : Bool}

/-- What a deed makes of the mark of a key. -/
def Deed.mark (key : SubmitRequest → κ) (value : κ) (up : Bool) : Deed → Bool
  | .accepted request => key request == value || up
  | .retired request => key request != value && up
  | _ => up

def markAfter (key : SubmitRequest → κ) (value : κ) (up : Bool) (trace : List Deed) : Bool :=
  trace.foldl (Deed.mark key value) up

theorem markAfter_concat (trace : List Deed) (deed : Deed) :
    markAfter key value up (trace ++ [deed]) = deed.mark key value (markAfter key value up trace) :=
  List.foldl_append

/-- Nobody empties the books or resets the flags. -/
def Deed.IsSpare : Deed → Prop
  | .cleared | .session _ .released | .session _ .reset => False
  | _ => True

theorem flagAfter_eq_markAfter (endpoint : Nat) {trace : List Deed}
    (spare : ∀ deed ∈ trace, deed.IsSpare) :
    flagAfter endpoint up trace = markAfter SubmitRequest.endpoint endpoint up trace := by
  induction trace generalizing up with
  | nil => rfl
  | cons deed trace ih =>
      have same : deed.flag endpoint up = deed.mark SubmitRequest.endpoint endpoint up := by
        cases deed with
        | session link what =>
            cases what with
            | reset => exact (spare _ List.mem_cons_self).elim
            | _ => rfl
        | _ => rfl
      rw [flagAfter, List.foldl_cons, same]
      exact ih fun other member => spare other (List.mem_cons_of_mem _ member)

/-- A number is in flight as long as its mark is up. -/
theorem mem_inFlight_booksAfter (seqnum : UInt32) {urbs : Urbs} {trace : List Deed}
    (spare : ∀ deed ∈ trace, deed.IsSpare) : seqnum ∈ (booksAfter urbs trace).inFlight ↔
      markAfter SubmitRequest.seqnum seqnum (decide (seqnum ∈ urbs.inFlight)) trace = true := by
  induction trace generalizing urbs with
  | nil => exact (decide_eq_true_iff).symm
  | cons deed trace ih =>
      have same : decide (seqnum ∈ (deed.book urbs).inFlight) =
          deed.mark SubmitRequest.seqnum seqnum (decide (seqnum ∈ urbs.inFlight)) := by
        have now := spare deed List.mem_cons_self
        rw [Bool.eq_iff_iff, decide_eq_true_iff]
        cases deed with
        | accepted request =>
            rw [Deed.mark, Bool.or_eq_true, beq_iff_eq, decide_eq_true_iff, eq_comm]
            exact Urbs.mem_inFlight_submit
        | retired request =>
            rw [Deed.mark, Bool.and_eq_true, bne_iff_ne, decide_eq_true_iff, and_comm, ne_comm]
            exact Urbs.mem_inFlight_retire
        | cleared => exact now.elim
        | session link what =>
            cases what with
            | cancelled target => simp [Deed.book, Deed.mark, Urbs.inFlight_unlink]
            | released => exact now.elim
            | _ => simp [Deed.book, Deed.mark]
        | _ => simp [Deed.book, Deed.mark]
      rw [booksAfter, List.foldl_cons, markAfter, List.foldl_cons, ← same]
      exact ih fun other member => spare other (List.mem_cons_of_mem _ member)

/-! ### What is due to earlier clients -/

/-- The submit that is taken into the books, begun on the device or taken out of the books. -/
def Deed.request? : Deed → Option SubmitRequest
  | .accepted request | .begun request | .retired request => some request
  | _ => none

/-- Whether a deed is about a URB of a client before `link`. -/
def Deed.isLeftover (link : LinkId) (deed : Deed) : Bool :=
  deed.request?.any fun request => decide (request.reply < link)

/-- What was done, without what was done for clients before `link`. -/
def own (link : LinkId) (trace : List Deed) : List Deed :=
  trace.filter fun deed => !deed.isLeftover link

/-- A URB of an earlier client raises a mark that the client's own URBs leave down, or lowers one
that they hold up. -/
def Intrudes (key : SubmitRequest → κ) (value : κ) (up : Bool) (link : LinkId)
    (trace : List Deed) : Prop :=
  ∃ earlier deed later request, trace = earlier ++ deed :: later ∧ request.reply < link ∧
    key request = value ∧
      (deed = .accepted request ∧ markAfter key value up (own link earlier) = false ∨
        deed = .retired request ∧ markAfter key value up (own link earlier) = true)

variable {link : LinkId} {trace : List Deed}

theorem own_concat (deed : Deed) : own link (trace ++ [deed]) =
    own link trace ++ if deed.isLeftover link then [] else [deed] := by
  cases about : deed.isLeftover link <;> simp [own, about]

/-- An earlier client's deed changes a mark only by raising or lowering it. -/
theorem Deed.mark_of_isLeftover {deed : Deed} (about : deed.isLeftover link = true)
    (changed : deed.mark key value up ≠ up) : ∃ request : SubmitRequest, request.reply < link ∧
      key request = value ∧ (deed = .accepted request ∧ up = false ∨
        deed = .retired request ∧ up = true) := by
  cases deed with
  | accepted request =>
      refine ⟨request, by simpa [isLeftover, request?] using about, ?_⟩
      cases up <;> simp_all [mark]
  | retired request =>
      refine ⟨request, by simpa [isLeftover, request?] using about, ?_⟩
      cases up <;> simp_all [mark]
  | _ => exact absurd rfl changed

/-- A mark is what the client's own URBs make of it, at every point, exactly if no URB of an earlier
client intrudes. -/
theorem marks_agree_iff : (∀ sofar, sofar <+: trace →
    markAfter key value up sofar = markAfter key value up (own link sofar)) ↔
      ¬Intrudes key value up link trace := by
  constructor
  · rintro agree ⟨earlier, deed, later, request, rfl, before, same, came | left⟩
    all_goals
      have now := agree (earlier ++ [deed]) ⟨later, by simp⟩
      have then_ := agree earlier (List.prefix_append _ _)
    · obtain ⟨rfl, down⟩ := came
      have about : (Deed.accepted request).isLeftover link = true := by
        simp [Deed.isLeftover, Deed.request?, before]
      rw [markAfter_concat, own_concat, about, if_pos rfl, List.append_nil, then_, down] at now
      simp [Deed.mark, same] at now
    · obtain ⟨rfl, high⟩ := left
      have about : (Deed.retired request).isLeftover link = true := by
        simp [Deed.isLeftover, Deed.request?, before]
      rw [markAfter_concat, own_concat, about, if_pos rfl, List.append_nil, then_, high] at now
      simp [Deed.mark, same] at now
  · intro unharmed sofar within
    -- From the start on: each deed is the client's own, or leaves the mark as it is.
    induction sofar using List.reverseRecOn with
    | nil => rfl
    | append_singleton earlier deed ih =>
        obtain ⟨later, rfl⟩ := within
        have then_ := ih ⟨deed :: later, by simp⟩
        rw [markAfter_concat, own_concat, then_]
        cases about : deed.isLeftover link with
        | false => rw [if_neg Bool.false_ne_true, markAfter_concat]
        | true =>
            rw [if_pos rfl, List.append_nil]
            by_contra changed
            obtain ⟨request, before, same, how⟩ := Deed.mark_of_isLeftover about changed
            exact unharmed ⟨earlier, deed, later, request, by simp, before, same, how⟩

end

/-! ### A number in the books -/

/-- Two books say the same of a number. -/
def SameStanding (seqnum : UInt32) (urbs urbs' : Urbs) : Prop :=
  (seqnum ∈ urbs.inFlight ↔ seqnum ∈ urbs'.inFlight) ∧
    (seqnum ∈ urbs.unlinked ↔ seqnum ∈ urbs'.unlinked)

section

variable {seqnum : UInt32} {link : LinkId} {trace : List Deed}

theorem mem_unlinked_book_iff {urbs urbs' : Urbs} (same : SameStanding seqnum urbs urbs')
    (deed : Deed) :
    seqnum ∈ (deed.book urbs).unlinked ↔ seqnum ∈ (deed.book urbs').unlinked := by
  cases deed with
  | retired request =>
      show seqnum ∈ (urbs.retire _).unlinked ↔ seqnum ∈ (urbs'.retire _).unlinked
      rw [Urbs.mem_unlinked_retire, Urbs.mem_unlinked_retire, same.2]
  | cleared => exact Iff.rfl
  | session other what =>
      cases what with
      | cancelled target =>
          show seqnum ∈ (urbs.unlink _).unlinked ↔ seqnum ∈ (urbs'.unlink _).unlinked
          rw [Urbs.mem_unlinked_unlink, Urbs.mem_unlinked_unlink, same.2]
          refine or_congr_left (and_congr_right ?_)
          rintro rfl
          exact same.1
      | released => exact Iff.rfl
      | _ => exact same.2
  | _ => exact same.2

/-- What is unlinked is in flight. -/
theorem mem_inFlight_of_unlinked (trace : List Deed)
    (unlinked : seqnum ∈ (booksAfter {} trace).unlinked) :
    seqnum ∈ (booksAfter {} trace).inFlight := by
  induction trace using List.reverseRecOn with
  | nil => cases unlinked
  | append_singleton trace deed ih =>
      rw [booksAfter_append] at unlinked ⊢
      generalize booksAfter {} trace = urbs at ih unlinked ⊢
      cases deed with
      | accepted request => exact Urbs.mem_inFlight_submit.2 (Or.inr (ih unlinked))
      | retired request =>
          obtain ⟨was, other⟩ := Urbs.mem_unlinked_retire.1 unlinked
          exact Urbs.mem_inFlight_retire.2 ⟨ih was, other⟩
      | cleared => cases unlinked
      | session other what =>
          cases what with
          | cancelled target =>
              have flew : seqnum ∈ urbs.inFlight := by
                rcases Urbs.mem_unlinked_unlink.1 unlinked with ⟨rfl, flying⟩ | was
                · exact flying
                · exact ih was
              exact (Urbs.inFlight_unlink urbs target).symm ▸ flew
          | released => cases unlinked
          | _ => exact ih unlinked
      | _ => exact ih unlinked

theorem spare_of_prefix {sofar : List Deed} (spare : ∀ deed ∈ trace, deed.IsSpare)
    (within : sofar <+: trace) : ∀ deed ∈ sofar ++ own link sofar, deed.IsSpare := by
  intro deed member
  rcases List.mem_append.1 member with member | member
  · exact spare deed (within.subset member)
  · exact spare deed (within.subset (List.mem_filter.1 member).1)

/-- A number stands in the books as the client's own URBs have it, at every point, exactly if no URB
of an earlier client intrudes. -/
theorem standings_agree_iff (spare : ∀ deed ∈ trace, deed.IsSpare) : (∀ sofar, sofar <+: trace →
    SameStanding seqnum (booksAfter {} sofar) (booksAfter {} (own link sofar))) ↔
      ¬Intrudes SubmitRequest.seqnum seqnum false link trace := by
  have flying_iff {sofar : List Deed} (within : sofar <+: trace) :
      (seqnum ∈ (booksAfter {} sofar).inFlight ↔
          seqnum ∈ (booksAfter {} (own link sofar)).inFlight) ↔
        markAfter SubmitRequest.seqnum seqnum false sofar =
          markAfter SubmitRequest.seqnum seqnum false (own link sofar) := by
    have spare' : ∀ deed ∈ sofar ++ own link sofar, deed.IsSpare := spare_of_prefix spare within
    rw [mem_inFlight_booksAfter seqnum fun deed member =>
        spare' deed (List.mem_append_left _ member),
      mem_inFlight_booksAfter seqnum fun deed member =>
        spare' deed (List.mem_append_right _ member)]
    exact Bool.eq_iff_iff.symm
  rw [← marks_agree_iff]
  refine ⟨fun same sofar within => (flying_iff within).1 (same sofar within).1,
    fun agree sofar within => ⟨(flying_iff within).2 (agree sofar within), ?_⟩⟩
  induction sofar using List.reverseRecOn with
  | nil => exact Iff.rfl
  | append_singleton earlier deed ih =>
      have before : earlier <+: trace := (List.prefix_append _ _).trans within
      have same : SameStanding seqnum (booksAfter {} earlier) (booksAfter {} (own link earlier)) :=
        ⟨(flying_iff before).2 (agree earlier before), ih before⟩
      rw [booksAfter_append, own_concat]
      cases about : deed.isLeftover link with
      | false =>
          rw [if_neg Bool.false_ne_true, booksAfter_append]
          exact mem_unlinked_book_iff same deed
      | true =>
          rw [if_pos rfl, List.append_nil]
          refine (mem_unlinked_book_iff same deed).trans ?_
          cases deed with
          | retired request =>
              refine Urbs.mem_unlinked_retire.trans ⟨And.left, fun unlinked => ⟨unlinked, ?_⟩⟩
              -- Of this number it would leave, though the client's own one is in flight.
              have now := (flying_iff within).2 (agree _ within)
              rw [booksAfter_append, own_concat, about, if_pos rfl, List.append_nil] at now
              exact (Urbs.mem_inFlight_retire.1 (now.2 (mem_inFlight_of_unlinked _ unlinked))).2
          | accepted request => exact Iff.rfl
          | begun request => exact Iff.rfl
          | _ => cases about

end

end UsbExport.Host

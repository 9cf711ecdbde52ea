import UsbExport.Proofs.Host.Ledger

/-!
No URB is lost or made up: what was posted is still held or has been taken out of the books. What
the books list as in flight is with a worker, and who answers has a submit of that number behind it.
-/

namespace UsbExport.Host

open Dispatch Socket

variable {Handle : Type}

/-- The submit that came into the data channel. -/
def Deed.posted? : Deed → Option SubmitRequest
  | .session link (.offered submit true) => some ⟨submit, link⟩
  | _ => none

theorem Deed.eq_of_posted? {deed : Deed} {request : SubmitRequest}
    (found : deed.posted? = some request) :
    deed = .session request.reply (.offered request.submit true) := by
  unfold posted? at found
  split at found <;> cases found
  rfl

/-- The submit that left the books. -/
def Deed.retired? : Deed → Option SubmitRequest
  | .retired request => some request
  | _ => none

def Work.held (work : Work) : List SubmitRequest := work.stage.request?.toList ++ work.queue

namespace Ledger

/-- The URBs that the workers hold. -/
def employed (ledger : Ledger) : List SubmitRequest := ledger.works.flatMap Work.held

/-- The URBs on their way between the data channel and the end of their time in the books. -/
def held (ledger : Ledger) : List SubmitRequest := ledger.waiting ++ ledger.employed

end Ledger

theorem WorkStep.held_perm {urbs urbs' : Urbs} {work work' : Work} {deed : Option Deed}
    (step : WorkStep urbs work deed work' urbs') :
    work.held.Perm ((deed.bind Deed.retired?).toList ++ work'.held) := by
  cases step <;> exact .refl _

theorem LedgerStep.held_perm {before after : Ledger} {deed : Option Deed}
    (step : LedgerStep before deed after) :
    (before.held ++ (deed.bind Deed.posted?).toList).Perm
      ((deed.bind Deed.retired?).toList ++ after.held) := by
  rw [List.perm_iff_count]
  intro request
  cases step with
  | posts link submit =>
      simp only [Deed.posted?, Deed.retired?, Ledger.held, Ledger.employed, Option.bind_some,
        Option.toList_some, Option.toList_none, List.count_append, List.count_nil]
      omega
  | accepts =>
      simp [Deed.posted?, Deed.retired?, Ledger.held, Ledger.employed, Work.held, List.count_cons]
      omega
  | employs =>
      simp [Deed.posted?, Deed.retired?, Ledger.held, Ledger.employed, Work.held,
        WorkerStage.request?, List.count_cons]
      omega
  | cancels link target => simp [Deed.posted?, Deed.retired?, Ledger.held, Ledger.employed]
  | releases link => simp [Deed.posted?, Deed.retired?, Ledger.held, Ledger.employed]
  | clears => simp [Deed.posted?, Deed.retired?, Ledger.held, Ledger.employed]
  | works step =>
      have kept := step.held_perm.count_eq request
      have unposted : (deed.bind Deed.posted?).toList = [] := by cases step <;> rfl
      rw [unposted]
      simp only [Ledger.held, Ledger.employed, List.flatMap_append, List.flatMap_cons,
        List.count_append, List.count_nil] at kept ⊢
      omega
  | rests quiet =>
      have unposted : (deed.bind Deed.posted?).toList = [] ∧
          (deed.bind Deed.retired?).toList = [] := by
        cases deed with
        | none => exact ⟨rfl, rfl⟩
        | some what =>
            have still := quiet what rfl
            cases what with
            | session link deed =>
                cases deed with
                | offered submit taken =>
                    cases taken with
                    | true => exact still.elim
                    | false => exact ⟨rfl, rfl⟩
                | _ => exact ⟨rfl, rfl⟩
            | retired request => exact still.elim
            | _ => exact ⟨rfl, rfl⟩
      rw [unposted.1, unposted.2, List.append_nil, List.nil_append]

def posted (trace : List Deed) : List SubmitRequest := trace.filterMap Deed.posted?

def retired (trace : List Deed) : List SubmitRequest := trace.filterMap Deed.retired?

theorem posted_append (trace : List Deed) (deed : Option Deed) :
    posted (trace ++ deed.toList) = posted trace ++ (deed.bind Deed.posted?).toList :=
  filterMap_append_toList Deed.posted? trace deed

theorem retired_append (trace : List Deed) (deed : Option Deed) :
    retired (trace ++ deed.toList) = retired trace ++ (deed.bind Deed.retired?).toList :=
  filterMap_append_toList Deed.retired? trace deed

/-- What was held at the start or posted since has left the books or is still held. -/
theorem History.held_perm [UsbHandle Handle] {start server : Server (Host Handle)}
    {trace : List Deed} (history : History start trace server) :
    ((ledger start.system).held ++ posted trace).Perm
      (retired trace ++ (ledger server.system).held) := by
  refine history.invariant (fun trace server => ((ledger start.system).held ++ posted trace).Perm
    (retired trace ++ (ledger server.system).held)) ?_ ?_
  · simp [posted, retired]
  · intro trace server deed next ih happening
    have step := happening.ledgerStep.held_perm
    rw [posted_append, retired_append, List.perm_iff_count]
    rw [List.perm_iff_count] at ih step
    intro request
    have earlier := ih request
    have now := step request
    simp only [List.count_append] at earlier now ⊢
    omega

theorem Fresh.ledger_eq {start : Server (Host Handle)} (fresh : Fresh start) :
    ledger start.system = ⟨[], [], {}⟩ := by
  rw [ledger, fresh.unposted.1, fresh.unemployed, fresh.unbooked]
  rfl

/-! ### The books -/

/-- What the books and the workers say of what was done so far. -/
structure Books (trace : List Deed) (ledger : Ledger) : Prop where
  employed_of_mem : ∀ seqnum ∈ ledger.urbs.inFlight,
    ∃ request ∈ ledger.employed, request.seqnum = seqnum
  seqnum_eq : ∀ work ∈ ledger.works, ∀ request completion,
    work.stage = .retiring request (some completion) →
      completion.header.seqnum = request.seqnum
  retired_of_replying : ∀ work ∈ ledger.works, ∀ link completion ticket,
    work.stage = .replying link completion ticket →
      ∃ request ∈ retired trace, request.reply = link ∧
        request.seqnum = completion.header.seqnum

theorem Urbs.inFlight_unlink (urbs : Urbs) (seqnum : UInt32) :
    (urbs.unlink seqnum).inFlight = urbs.inFlight := by
  unfold Urbs.unlink
  split <;> rfl

/-- What is in flight after a step of a worker was in flight before and is not what it retires. -/
theorem WorkStep.inFlight {urbs urbs' : Urbs} {work work' : Work} {deed : Option Deed}
    (step : WorkStep urbs work deed work' urbs') {seqnum : UInt32}
    (flying : seqnum ∈ urbs'.inFlight) :
    seqnum ∈ urbs.inFlight ∧ ∀ request ∈ deed.bind Deed.retired?, request.seqnum ≠ seqnum := by
  cases step with
  | drops unwanted =>
      obtain ⟨flew, other⟩ := Urbs.mem_inFlight_retire.1 flying
      exact ⟨flew, by simp [Deed.retired?, Ne.symm other]⟩
  | reports wanted =>
      obtain ⟨flew, other⟩ := Urbs.mem_inFlight_retire.1 flying
      exact ⟨flew, by simp [Deed.retired?, Ne.symm other]⟩
  | _ => exact ⟨flying, by simp [Deed.retired?]⟩

theorem mem_retired_append {trace : List Deed} {deed : Option Deed} {request : SubmitRequest} :
    request ∈ retired (trace ++ deed.toList) ↔
      request ∈ retired trace ∨ request ∈ deed.bind Deed.retired? := by
  rw [retired_append, List.mem_append, Option.mem_toList, Option.mem_def]

theorem Books.works {trace : List Deed} {waiting : List SubmitRequest} {front back : List Work}
    {work work' : Work} {urbs urbs' : Urbs} {deed : Option Deed}
    (books : Books trace ⟨waiting, front ++ work :: back, urbs⟩)
    (step : WorkStep urbs work deed work' urbs') :
    Books (trace ++ deed.toList) ⟨waiting, front ++ work' :: back, urbs'⟩ where
  employed_of_mem := by
    intro seqnum flying
    obtain ⟨flew, other⟩ := step.inFlight flying
    obtain ⟨request, held, seqnum_eq⟩ := books.employed_of_mem seqnum flew
    refine ⟨request, ?_, seqnum_eq⟩
    simp only [Ledger.employed, List.flatMap_append, List.flatMap_cons, List.mem_append] at held ⊢
    rcases held with held | held | held
    · exact Or.inl held
    · rcases List.mem_append.1 (step.held_perm.mem_iff.1 held) with gone | kept
      · exact absurd seqnum_eq (other request (Option.mem_toList.1 gone))
      · exact Or.inr (Or.inl kept)
    · exact Or.inr (Or.inr held)
  seqnum_eq := by
    intro other member request completion stage_eq
    rcases List.mem_append.1 member with member | member
    · exact books.seqnum_eq other (by simp [member]) request completion stage_eq
    · rcases List.mem_cons.1 member with rfl | member
      · cases step with
        | ends seqnum_eq =>
            cases stage_eq
            exact seqnum_eq
        | _ => cases stage_eq
      · exact books.seqnum_eq other (by simp [member]) request completion stage_eq
  retired_of_replying := by
    intro other member link completion ticket stage_eq
    have old (found : other ∈ front ++ work :: back) :
        ∃ request ∈ retired (trace ++ deed.toList), request.reply = link ∧
          request.seqnum = completion.header.seqnum := by
      obtain ⟨request, gone, eqs⟩ :=
        books.retired_of_replying other found link completion ticket stage_eq
      exact ⟨request, mem_retired_append.2 (Or.inl gone), eqs⟩
    rcases List.mem_append.1 member with member | member
    · exact old (by simp [member])
    · rcases List.mem_cons.1 member with rfl | member
      · cases step with
        | @reports request queue completion wanted =>
            cases stage_eq
            exact ⟨request, mem_retired_append.2 (Or.inr rfl), rfl,
              (books.seqnum_eq ⟨queue, _⟩ (by simp) request completion rfl).symm⟩
        | @stands link completion queue ticket =>
            cases stage_eq
            obtain ⟨request, gone, eqs⟩ :=
              books.retired_of_replying ⟨queue, _⟩ (by simp) link completion none rfl
            exact ⟨request, mem_retired_append.2 (Or.inl gone), eqs⟩
        | _ => cases stage_eq
      · exact old (by simp [member])

/-- A submit that comes into the books comes to a worker. -/
theorem Books.accepts {trace : List Deed} {waiting : List SubmitRequest} {request : SubmitRequest}
    {works works' : List Work} {urbs : Urbs} (books : Books trace ⟨request :: waiting, works, urbs⟩)
    (mem_iff : ∀ other, other ∈ works'.flatMap Work.held ↔
      other = request ∨ other ∈ works.flatMap Work.held)
    (stages : ∀ work ∈ works', work.stage = .idle ∨
      ∃ earlier ∈ works, earlier.stage = work.stage) :
    Books (trace ++ [.accepted request]) ⟨waiting, works', urbs.submit request.seqnum⟩ where
  employed_of_mem := by
    intro seqnum flying
    rcases Urbs.mem_inFlight_submit.1 flying with rfl | flew
    · exact ⟨request, (mem_iff request).2 (Or.inl rfl), rfl⟩
    · obtain ⟨other, held, seqnum_eq⟩ := books.employed_of_mem seqnum flew
      exact ⟨other, (mem_iff other).2 (Or.inr held), seqnum_eq⟩
  seqnum_eq := by
    intro work member other completion stage_eq
    rcases stages work member with idle | ⟨earlier, found, same⟩
    · rw [idle] at stage_eq
      cases stage_eq
    · exact books.seqnum_eq earlier found other completion (same.trans stage_eq)
  retired_of_replying := by
    intro work member link completion ticket stage_eq
    rcases stages work member with idle | ⟨earlier, found, same⟩
    · rw [idle] at stage_eq
      cases stage_eq
    · obtain ⟨other, gone, eqs⟩ := books.retired_of_replying earlier found link completion ticket
        (same.trans stage_eq)
      refine ⟨other, ?_, eqs⟩
      simpa [retired] using Or.inl gone

theorem Books.step {trace : List Deed} {before after : Ledger} {deed : Option Deed}
    (books : Books trace before) (step : LedgerStep before deed after) :
    Books (trace ++ deed.toList) after := by
  have replied (work : Work) (member : work ∈ before.works) (link : LinkId)
      (completion : Completion) (ticket : Option Ticket)
      (stage_eq : work.stage = .replying link completion ticket) :
      ∃ request ∈ retired (trace ++ deed.toList), request.reply = link ∧
        request.seqnum = completion.header.seqnum := by
    obtain ⟨request, gone, eqs⟩ :=
      books.retired_of_replying work member link completion ticket stage_eq
    exact ⟨request, mem_retired_append.2 (Or.inl gone), eqs⟩
  cases step with
  | posts link submit => exact ⟨books.employed_of_mem, books.seqnum_eq, replied⟩
  | @accepts request waiting front back work urbs =>
      refine books.accepts (fun other => ?_) fun later member => Or.inr ?_
      · simp only [List.flatMap_append, List.flatMap_cons, Work.held, List.mem_append,
          List.mem_singleton]
        grind
      · rcases List.mem_append.1 member with member | member
        · exact ⟨later, by simp [member], rfl⟩
        · rcases List.mem_cons.1 member with rfl | member
          · exact ⟨work, by simp, rfl⟩
          · exact ⟨later, by simp [member], rfl⟩
  | @employs request waiting works urbs =>
      refine books.accepts (fun other => ?_) fun later member => ?_
      · simp [Work.held, WorkerStage.request?, or_comm]
      · rcases List.mem_append.1 member with member | member
        · exact Or.inr ⟨later, member, rfl⟩
        · rw [List.mem_singleton.1 member]
          exact Or.inl rfl
  | cancels link target =>
      refine ⟨fun seqnum flying => books.employed_of_mem seqnum ?_, books.seqnum_eq, replied⟩
      rwa [Urbs.inFlight_unlink] at flying
  | releases link => exact ⟨by simp, books.seqnum_eq, replied⟩
  | clears => exact ⟨by simp, books.seqnum_eq, replied⟩
  | works step => exact books.works step
  | rests quiet => exact ⟨books.employed_of_mem, books.seqnum_eq, replied⟩

theorem History.books [UsbHandle Handle] {start server : Server (Host Handle)} {trace : List Deed}
    (history : History start trace server) (fresh : Fresh start) :
    Books trace (ledger server.system) := by
  refine history.invariant (fun trace server => Books trace (ledger server.system)) ?_
    fun _ _ _ _ ih happening => Books.step ih happening.ledgerStep
  rw [fresh.ledger_eq]
  exact ⟨by simp, by simp, by simp⟩

end UsbExport.Host

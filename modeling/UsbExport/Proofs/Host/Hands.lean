import UsbExport.Proofs.Host.Books
import UsbExport.Proofs.Host.Crew

/-!
What a worker has in hand, with the URB whose answer it owes. A completion does not tell which URB
it is for, so the URB is kept beside the worker until the answer has had its turn. Main statement: a
step of a worker takes up one more URB when it owes nothing, or it goes on with the one it has.
-/

namespace UsbExport.Host

open Dispatch Socket
open scoped List

/-- The URB whose transfer is still to begin. -/
def WorkerStage.unbegun? : WorkerStage → Option SubmitRequest
  | .transferring request none => some request
  | _ => none

/-- The URB whose transfer is under way. -/
def WorkerStage.underway? : WorkerStage → Option SubmitRequest
  | .transferring request (some _) => some request
  | _ => none

/-- The submit whose transfer began. -/
def Deed.begun? : Deed → Option SubmitRequest
  | .begun request => some request
  | _ => none

def begun (trace : List Deed) : List SubmitRequest := trace.filterMap Deed.begun?

theorem begun_append (trace : List Deed) (deed : Option Deed) :
    begun (trace ++ deed.toList) = begun trace ++ (deed.bind Deed.begun?).toList :=
  filterMap_append_toList Deed.begun? trace deed

def Deed.isAnswer : Deed → Bool
  | .answered _ _ _ => true
  | _ => false

/-- A completion that has had its turn, with the URB that it is for. -/
structure Answer where
  request : SubmitRequest
  completion : Completion
  succeeded : Bool
deriving DecidableEq, Repr

namespace Answer

def deed (answer : Answer) : Deed :=
  .answered answer.request.reply answer.completion answer.succeeded

/-- What the answer comes to at the socket. -/
def outcome (answer : Answer) : Errand × Bool :=
  (.send (Reply.completed answer.completion).encode, answer.succeeded)

def Fits (answer : Answer) : Prop :=
  answer.completion.header.seqnum = answer.request.seqnum

end Answer

/-- A worker, and the URB whose answer it owes. -/
structure Hand where
  worker : Worker
  owed : Option SubmitRequest

namespace Hand

def staged (hand : Hand) : List SubmitRequest := hand.worker.stage.request?.toList

def unbegun (hand : Hand) : List SubmitRequest := hand.worker.stage.unbegun?.toList

def underway (hand : Hand) : List SubmitRequest := hand.worker.stage.underway?.toList

def owing (hand : Hand) : List SubmitRequest := hand.owed.toList

def held (hand : Hand) : List SubmitRequest := hand.staged ++ hand.worker.queue

/-- All URBs that concern the worker. -/
def concerns (hand : Hand) : List SubmitRequest := hand.held ++ hand.owing

/-- A worker owes an answer from when it takes up a transfer until the answer has had its turn or
the URB is dropped. -/
def Fits (hand : Hand) : Prop :=
  match hand.worker.stage with
  | .transferring request _ => hand.owed = some request
  | .retiring request (some completion) =>
      hand.owed = some request ∧ completion.header.seqnum = request.seqnum
  | .replying link completion _ => ∃ request, hand.owed = some request ∧ request.reply = link ∧
      completion.header.seqnum = request.seqnum
  | .idle | .retiring _ none | .stopped => hand.owed = none

variable {hand : Hand}

theorem staged_sublist_held (hand : Hand) : hand.staged <+ hand.held :=
  List.sublist_append_left _ _

/-- A transfer that is still to begin or under way is owed. -/
theorem transfer_sublist_owing (fits : hand.Fits) : hand.unbegun ++ hand.underway <+ hand.owing := by
  obtain ⟨⟨address, registered, queue, stage⟩, owed⟩ := hand
  cases stage with
  | transferring request begun =>
      obtain rfl : owed = some request := fits
      cases begun <;> exact List.Sublist.refl _
  | _ => exact List.nil_sublist _

end Hand

/-- What a step does to what a worker has in hand, with the answers it gives. -/
inductive HandStep (hand hand' : Hand) : Option Deed → List Answer → Prop
  | takes {request : SubmitRequest} (held_eq : hand.held = hand'.held)
      (bare : hand.staged = [] ∧ hand.unbegun = [] ∧ hand.owing = [])
      (laden : hand'.staged = [request] ∧ hand'.unbegun = [request] ∧ hand'.owing = [request])
      (stage_eq : hand'.worker.stage = .transferring request none) :
      HandStep hand hand' none []
  | goesOn {deed : Option Deed} {answers : List Answer}
      (held_eq : hand.held = (deed.bind Deed.retired?).toList ++ hand'.held)
      (staged_le : hand.staged <+ (deed.bind Deed.retired?).toList ++ hand'.staged)
      (unbegun_le : (deed.bind Deed.begun?).toList ++ hand'.unbegun <+ hand.unbegun)
      (owing_le : answers.map Answer.request ++ hand'.owing <+ hand.owing)
      (told : answers.map Answer.deed = deed.toList.filter Deed.isAnswer)
      (fits : ∀ answer ∈ answers, answer.Fits) : HandStep hand hand' deed answers

theorem WorkStep.handStep {urbs urbs' : Urbs} {hand : Hand} {worker' : Worker}
    {deed : Option Deed} (fits : hand.Fits)
    (step : WorkStep urbs hand.worker.work deed worker'.work urbs') :
    ∃ owed answers, Hand.Fits ⟨worker', owed⟩ ∧ HandStep hand ⟨worker', owed⟩ deed answers := by
  obtain ⟨⟨address, registered, queue, stage⟩, owed⟩ := hand
  obtain ⟨address', registered', queue', stage'⟩ := worker'
  simp only [Worker.work] at step
  cases step with
  | skips =>
      obtain rfl : owed = none := fits
      exact ⟨none, [], rfl, .goesOn rfl (List.nil_sublist _) (.refl _) (.refl _) rfl (by simp)⟩
  | takes wanted =>
      obtain rfl : owed = none := fits
      exact ⟨_, [], rfl, .takes rfl ⟨rfl, rfl, rfl⟩ ⟨rfl, rfl, rfl⟩ rfl⟩
  | begins outcome =>
      exact ⟨owed, [], fits, .goesOn rfl (.refl _) (.refl _) (.refl _) rfl (by simp)⟩
  | ends seqnum_eq =>
      exact ⟨owed, [], ⟨fits, seqnum_eq⟩,
        .goesOn rfl (.refl _) (List.nil_sublist _) (.refl _) rfl (by simp)⟩
  | drops unwanted =>
      exact ⟨none, [], rfl, .goesOn rfl (.refl _) (.refl _) (List.nil_sublist _) rfl (by simp)⟩
  | @reports request queue completion wanted =>
      obtain ⟨owed_eq, seqnum_eq⟩ := fits
      exact ⟨owed, [], ⟨request, owed_eq, rfl, seqnum_eq⟩,
        .goesOn rfl (.refl _) (.refl _) (.refl _) rfl (by simp)⟩
  | stands ticket => exact ⟨owed, [], fits, .goesOn rfl (.refl _) (.refl _) (.refl _) rfl (by simp)⟩
  | @answers link completion queue ticket succeeded =>
      obtain ⟨request, rfl, rfl, seqnum_eq⟩ := fits
      exact ⟨none, [⟨request, completion, succeeded⟩], rfl,
        .goesOn rfl (.refl _) (.refl _) (.refl _) rfl (by simpa [Answer.Fits] using seqnum_eq)⟩
  | stops =>
      obtain rfl : owed = none := fits
      exact ⟨none, [], rfl, .goesOn rfl (.refl _) (.refl _) (.refl _) rfl (by simp)⟩

/-- Nothing that did not concern a worker before concerns it after a step. -/
theorem HandStep.concerns_subset {hand hand' : Hand} {deed : Option Deed} {answers : List Answer}
    (step : HandStep hand hand' deed answers) : hand'.concerns ⊆ hand.concerns := by
  intro request member
  rcases List.mem_append.1 member with member | member
  · cases step with
    | takes held_eq => exact List.mem_append_left _ (held_eq ▸ member)
    | goesOn held_eq =>
        rw [Hand.concerns, held_eq]
        exact List.mem_append_left _ (List.mem_append_right _ member)
  · cases step with
    | takes held_eq bare laden =>
        rw [laden.2.2, ← laden.1] at member
        exact List.mem_append_left _ (held_eq ▸ hand'.staged_sublist_held.subset member)
    | goesOn held_eq staged_le unbegun_le owing_le =>
        exact List.mem_append_right _ (owing_le.subset (List.mem_append_right _ member))

end UsbExport.Host

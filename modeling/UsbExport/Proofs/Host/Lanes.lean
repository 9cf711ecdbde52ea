import UsbExport.Proofs.Host.Hands

/-!
The URBs of one client for one endpoint. As long as no worker is dismissed, a single worker has all
of them in hand, and they stand in a line: those that left the books, what the worker holds, what
waits in the data channel. Afterwards nothing new is taken up, and what is begun and what is owed is
still in this order.
-/

namespace UsbExport.Host

open Dispatch Socket
open scoped List

/-- The URBs that a client has submitted for an endpoint. -/
def lane (link : LinkId) (address : UInt8) (requests : List SubmitRequest) : List SubmitRequest :=
  requests.filter fun request => request.reply == link && request.address == address

section

variable {link : LinkId} {address : UInt8}

@[simp] theorem lane_append (requests more : List SubmitRequest) :
    lane link address (requests ++ more) = lane link address requests ++ lane link address more :=
  List.filter_append requests more

@[simp] theorem lane_nil : lane link address [] = [] := rfl

theorem mem_lane {requests : List SubmitRequest} {request : SubmitRequest} :
    request ∈ lane link address requests ↔
      request ∈ requests ∧ request.reply = link ∧ request.address = address := by
  simp [lane]

theorem lane_sublist (link : LinkId) (address : UInt8) {requests more : List SubmitRequest}
    (le : requests <+ more) : lane link address requests <+ lane link address more := le.filter _

theorem lane_eq_nil {requests : List SubmitRequest}
    (others : ∀ request ∈ requests, request.reply = link → request.address ≠ address) :
    lane link address requests = [] := by
  refine List.eq_nil_iff_forall_not_mem.2 fun request member => ?_
  obtain ⟨member, reply_eq, address_eq⟩ := mem_lane.1 member
  exact others request member reply_eq address_eq

end

/-! ### Which worker has a lane -/

namespace Hand

def dismiss (hand : Hand) : Hand := { hand with worker := hand.worker.dismiss }

/-- None of the URBs of a lane concerns the worker. -/
def IsClear (link : LinkId) (address : UInt8) (hand : Hand) : Prop :=
  lane link address hand.concerns = []

variable {link : LinkId} {address : UInt8} {hand : Hand}

theorem IsClear.lane_eq_nil (clear : hand.IsClear link address) {part : List SubmitRequest}
    (le : part ⊆ hand.concerns) : lane link address part = [] := by
  refine List.eq_nil_iff_forall_not_mem.2 fun request member => ?_
  obtain ⟨member, here⟩ := mem_lane.1 member
  have concerned := mem_lane.2 ⟨le member, here⟩
  rw [clear] at concerned
  cases concerned

theorem held_subset (hand : Hand) : hand.held ⊆ hand.concerns := List.subset_append_left _ _

theorem owing_subset (hand : Hand) : hand.owing ⊆ hand.concerns := List.subset_append_right _ _

theorem staged_subset (hand : Hand) : hand.staged ⊆ hand.concerns :=
  fun _ member => hand.held_subset (hand.staged_sublist_held.subset member)

theorem unbegun_subset (hand : Hand) : hand.unbegun ⊆ hand.concerns := by
  refine fun request member => hand.staged_subset ?_
  obtain ⟨⟨place, registered, queue, stage⟩, owed⟩ := hand
  cases stage with
  | transferring request begun =>
      cases begun with
      | none => exact member
      | some outcome => cases member
  | _ => cases member

end Hand

/-- What the workers have of a lane, in some part of what they have in hand. -/
def laneOf (link : LinkId) (address : UInt8) (part : Hand → List SubmitRequest)
    (roll : List Hand) : List SubmitRequest :=
  lane link address (roll.flatMap part)

section

variable {link : LinkId} {address : UInt8} {part : Hand → List SubmitRequest}
  {front back roll : List Hand} {hand : Hand}

theorem laneOf_split :
    laneOf link address part (front ++ hand :: back) =
      laneOf link address part front ++ lane link address (part hand) ++
        laneOf link address part back := by
  simp [laneOf]

theorem laneOf_eq_nil (clear : ∀ hand ∈ roll, hand.IsClear link address)
    (le : ∀ hand, part hand ⊆ hand.concerns) : laneOf link address part roll = [] := by
  induction roll with
  | nil => rfl
  | cons hand rest ih =>
      rw [List.forall_mem_cons] at clear
      rw [laneOf, List.flatMap_cons, lane_append, clear.1.lane_eq_nil (le hand)]
      exact ih clear.2

theorem laneOf_sublist {part' : Hand → List SubmitRequest}
    (le : ∀ hand ∈ roll, part hand <+ part' hand) :
    laneOf link address part roll <+ laneOf link address part' roll := by
  refine lane_sublist link address ?_
  induction roll with
  | nil => exact .refl _
  | cons hand rest ih =>
      rw [List.forall_mem_cons] at le
      exact le.1.append (ih le.2)

/-- All others are clear, and the lane is in one hand. -/
theorem laneOf_alone (clear : ∀ other ∈ front ++ back, other.IsClear link address)
    (le : ∀ hand, part hand ⊆ hand.concerns) :
    laneOf link address part (front ++ hand :: back) = lane link address (part hand) := by
  rw [List.forall_mem_append] at clear
  rw [laneOf_split, laneOf_eq_nil clear.1 le, laneOf_eq_nil clear.2 le, List.append_nil,
    List.nil_append]

end

/-- Every URB is with a worker of its endpoint. One worker at most takes new URBs of an endpoint,
and only such workers have anything to do with a client. -/
structure Assigned (link : LinkId) (roll : List Hand) : Prop where
  placed : ∀ hand ∈ roll, ∀ request ∈ hand.concerns, request.address = hand.worker.address
  single : roll.Pairwise fun hand other => hand.worker.isRegistered = true →
    other.worker.isRegistered = true → hand.worker.address ≠ other.worker.address
  registered : ∀ hand ∈ roll, ∀ request ∈ hand.concerns, request.reply = link →
    hand.worker.isRegistered = true

namespace Assigned

variable {link : LinkId} {address : UInt8} {front back roll : List Hand} {hand hand' : Hand}

/-- A worker has nothing of a lane unless it takes the URBs of that endpoint. -/
theorem clear (assigned : Assigned link roll) (member : hand ∈ roll)
    (other : hand.worker.isRegistered = true → hand.worker.address ≠ address) :
    hand.IsClear link address := by
  refine lane_eq_nil fun request concerned reply_eq address_eq => ?_
  refine other (assigned.registered hand member request concerned reply_eq) ?_
  rw [← assigned.placed hand member request concerned, address_eq]

/-- The worker that takes the URBs of an endpoint has all there is of its lane. -/
theorem alone (assigned : Assigned link (front ++ hand :: back))
    (registered : hand.worker.isRegistered = true) (here : hand.worker.address = address) :
    ∀ other ∈ front ++ back, other.IsClear link address := by
  intro other member
  have present : other ∈ front ++ hand :: back := by
    rcases List.mem_append.1 member with member | member <;> simp [member]
  refine assigned.clear present fun registered' same => ?_
  have single := assigned.single
  rw [List.pairwise_append, List.pairwise_cons] at single
  rcases List.mem_append.1 member with member | member
  · exact single.2.2 other member hand List.mem_cons_self registered' registered
      (same.trans here.symm)
  · exact single.2.1.1 other member registered registered' (here.trans same.symm)

/-- Either a worker has all that there is of a lane, or it has nothing of it. -/
theorem alone_or_clear (assigned : Assigned link (front ++ hand :: back)) (address : UInt8) :
    (∀ other ∈ front ++ back, other.IsClear link address) ∨ hand.IsClear link address := by
  by_cases here : hand.worker.isRegistered = true ∧ hand.worker.address = address
  · exact Or.inl (assigned.alone here.1 here.2)
  · exact Or.inr (assigned.clear (by simp) fun registered same => here ⟨registered, same⟩)

/-- Somebody has all there is of a lane, or nobody has anything. -/
theorem exists_alone (assigned : Assigned link roll) (address : UInt8) :
    (∀ hand ∈ roll, hand.IsClear link address) ∨ ∃ front hand back, roll = front ++ hand :: back ∧
      ∀ other ∈ front ++ back, other.IsClear link address := by
  by_cases clear : ∀ hand ∈ roll, hand.IsClear link address
  · exact Or.inl clear
  · simp only [not_forall] at clear
    obtain ⟨hand, member, unclear⟩ := clear
    obtain ⟨front, back, rfl⟩ := List.append_of_mem member
    exact Or.inr ⟨front, hand, back, rfl,
      (assigned.alone_or_clear address).resolve_right unclear⟩

/-- A worker goes on, with nothing new. -/
theorem set (assigned : Assigned link (front ++ hand :: back))
    (address_eq : hand'.worker.address = hand.worker.address)
    (registered_eq : hand'.worker.isRegistered = hand.worker.isRegistered)
    (concerned : ∀ request ∈ hand'.concerns, request ∈ hand.concerns ∨
      request.address = hand.worker.address ∧ hand.worker.isRegistered = true) :
    Assigned link (front ++ hand' :: back) := by
  obtain ⟨placed, single, registered⟩ := assigned
  simp only [List.forall_mem_append, List.forall_mem_cons] at placed registered
  refine ⟨?_, ?_, ?_⟩
  · simp only [List.forall_mem_append, List.forall_mem_cons]
    refine ⟨placed.1, fun request member => ?_, placed.2.2⟩
    rw [address_eq]
    exact (concerned request member).elim (placed.2.1 request) And.left
  · rw [List.pairwise_append, List.pairwise_cons] at single ⊢
    simp only [List.forall_mem_cons, address_eq, registered_eq] at single ⊢
    exact single
  · simp only [List.forall_mem_append, List.forall_mem_cons]
    refine ⟨registered.1, fun request member reply_eq => ?_, registered.2.2⟩
    rw [registered_eq]
    exact (concerned request member).elim (fun old => registered.2.1 request old reply_eq)
      And.right

/-- A worker comes for an endpoint that nobody takes the URBs of. -/
theorem employ (assigned : Assigned link roll)
    (nobody : ∀ other ∈ roll, other.worker.isRegistered = true →
      other.worker.address ≠ hand.worker.address)
    (registered : hand.worker.isRegistered = true)
    (placed : ∀ request ∈ hand.concerns, request.address = hand.worker.address) :
    Assigned link (roll ++ [hand]) := by
  refine ⟨?_, ?_, ?_⟩
  · simp only [List.forall_mem_append, List.forall_mem_singleton]
    exact ⟨assigned.placed, placed⟩
  · rw [List.pairwise_append]
    refine ⟨assigned.single, List.pairwise_singleton _ _, fun other member hand' same => ?_⟩
    obtain rfl := List.mem_singleton.1 same
    exact fun registered' _ => nobody other member registered'
  · simp only [List.forall_mem_append, List.forall_mem_singleton]
    exact ⟨assigned.registered, fun _ _ _ => registered⟩

/-- A client that has nothing to do with any worker loses none. -/
theorem dismiss (assigned : Assigned link roll)
    (unconcerned : ∀ hand ∈ roll, ∀ request ∈ hand.concerns, request.reply ≠ link) :
    Assigned link (roll.map Hand.dismiss) := by
  refine ⟨?_, ?_, ?_⟩
  · exact List.forall_mem_map.2 assigned.placed
  · exact List.pairwise_map.2 (assigned.single.imp fun _ registered => nomatch registered)
  · exact List.forall_mem_map.2 fun hand member request concerned reply_eq =>
      absurd reply_eq (unconcerned hand member request concerned)

end Assigned

/-! ### A lane in order -/

/-- The URBs of a lane stand in a line. What has begun, and what is answered or owed, comes from
those that left the books and the one that is taken up, in order. -/
structure Queued (link : LinkId) (address : UInt8)
    (posted retired begun answered waiting : List SubmitRequest) (roll : List Hand) : Prop where
  order : posted = retired ++ laneOf link address Hand.held roll ++ waiting
  begun_le : begun ++ laneOf link address Hand.unbegun roll <+
    retired ++ laneOf link address Hand.staged roll
  answered_le : answered ++ laneOf link address Hand.owing roll <+
    retired ++ laneOf link address Hand.staged roll

/-- Nothing of a lane is taken up any more. -/
structure Winding (link : LinkId) (address : UInt8) (posted begun answered : List SubmitRequest)
    (roll : List Hand) : Prop where
  begun_le : begun ++ laneOf link address Hand.unbegun roll <+ posted
  answered_le : answered ++ laneOf link address Hand.owing roll <+ posted
  one : (laneOf link address Hand.owing roll).length ≤ 1

section

variable {link : LinkId} {address : UInt8}
  {posted retired begun answered waiting : List SubmitRequest} {front back roll : List Hand}
  {hand hand' : Hand} {deed : Option Deed} {answers : List Answer}

/-- What is spent of a part moves over, and what is taken in hand is so later or has left the
books. -/
theorem lane_sublist_of_spent
    {spent part part' staged retires staged' before left : List SubmitRequest}
    (le : before ++ lane link address part <+ left ++ lane link address staged)
    (part_le : spent ++ part' <+ part) (staged_le : staged <+ retires ++ staged') :
    before ++ lane link address spent ++ lane link address part' <+
      left ++ lane link address retires ++ lane link address staged' := by
  have later := (lane_sublist link address part_le).append_left before
  have earlier := (lane_sublist link address staged_le).append_left left
  simp only [lane_append, ← List.append_assoc] at later earlier
  exact (later.trans le).trans earlier

theorem Queued.works_alone
    (queued : Queued link address posted retired begun answered waiting (front ++ hand :: back))
    (step : HandStep hand hand' deed answers)
    (alone : ∀ other ∈ front ++ back, other.IsClear link address) :
    Queued link address posted (retired ++ lane link address (deed.bind Deed.retired?).toList)
      (begun ++ lane link address (deed.bind Deed.begun?).toList)
      (answered ++ lane link address (answers.map Answer.request)) waiting
      (front ++ hand' :: back) := by
  obtain ⟨order, begun_le, answered_le⟩ := queued
  rw [laneOf_alone alone Hand.held_subset] at order
  rw [laneOf_alone alone Hand.unbegun_subset, laneOf_alone alone Hand.staged_subset] at begun_le
  rw [laneOf_alone alone Hand.owing_subset, laneOf_alone alone Hand.staged_subset] at answered_le
  constructor
  · rw [laneOf_alone alone Hand.held_subset, order]
    cases step with
    | takes held_eq => simp [held_eq]
    | goesOn held_eq => simp [held_eq]
  · rw [laneOf_alone alone Hand.unbegun_subset, laneOf_alone alone Hand.staged_subset]
    cases step with
    | takes held_eq bare laden =>
        rw [bare.1, bare.2.1] at begun_le
        rw [laden.1, laden.2.1]
        simpa using begun_le
    | goesOn held_eq staged_le unbegun_le =>
        exact lane_sublist_of_spent begun_le unbegun_le staged_le
  · rw [laneOf_alone alone Hand.owing_subset, laneOf_alone alone Hand.staged_subset]
    cases step with
    | takes held_eq bare laden =>
        rw [bare.1, bare.2.2] at answered_le
        rw [laden.1, laden.2.2]
        simpa using answered_le
    | goesOn held_eq staged_le unbegun_le owing_le =>
        exact lane_sublist_of_spent answered_le owing_le staged_le

/-- A hand is exchanged for one that has the same. -/
theorem laneOf_exchange {part : Hand → List SubmitRequest} (eq : part hand' = part hand) :
    laneOf link address part (front ++ hand' :: back) =
      laneOf link address part (front ++ hand :: back) := by
  rw [laneOf_split, laneOf_split, eq]

theorem laneOf_employ {part : Hand → List SubmitRequest} (bare : part hand = []) :
    laneOf link address part (roll ++ [hand]) = laneOf link address part roll := by
  rw [laneOf_split, bare]
  exact (List.append_nil _).trans (List.append_nil _)

theorem laneOf_dismiss {part : Hand → List SubmitRequest}
    (eq : ∀ hand, part (Hand.dismiss hand) = part hand) :
    laneOf link address part (roll.map Hand.dismiss) = laneOf link address part roll := by
  simp [laneOf, List.flatMap_map, eq]

/-- What has nothing to do with a lane does not change what there is of it. -/
theorem laneOf_clear {part : Hand → List SubmitRequest} (le : ∀ hand, part hand ⊆ hand.concerns)
    (clear : hand.IsClear link address) (clear' : hand'.IsClear link address) :
    laneOf link address part (front ++ hand' :: back) =
      laneOf link address part (front ++ hand :: back) := by
  rw [laneOf_split, laneOf_split, clear.lane_eq_nil (le hand), clear'.lane_eq_nil (le hand')]

theorem Hand.IsClear.subset (clear : hand.IsClear link address)
    (le : hand'.concerns ⊆ hand.concerns) : hand'.IsClear link address :=
  clear.lane_eq_nil le

/-- Nor does it retire, begin or answer anything of the lane. -/
theorem HandStep.lane_eq_nil (step : HandStep hand hand' deed answers)
    (clear : hand.IsClear link address) :
    lane link address (deed.bind Deed.retired?).toList = [] ∧
      lane link address (deed.bind Deed.begun?).toList = [] ∧
      lane link address (answers.map Answer.request) = [] := by
  cases step with
  | takes => exact ⟨rfl, rfl, rfl⟩
  | goesOn held_eq staged_le unbegun_le owing_le =>
      refine ⟨clear.lane_eq_nil ?_, clear.lane_eq_nil ?_, clear.lane_eq_nil ?_⟩
      · refine List.Subset.trans ?_ hand.held_subset
        rw [held_eq]
        exact List.subset_append_left _ _
      · exact List.Subset.trans ((List.sublist_append_left _ _).trans unbegun_le).subset
          hand.unbegun_subset
      · exact List.Subset.trans ((List.sublist_append_left _ _).trans owing_le).subset
          hand.owing_subset

theorem Queued.works
    (queued : Queued link address posted retired begun answered waiting (front ++ hand :: back))
    (assigned : Assigned link (front ++ hand :: back)) (step : HandStep hand hand' deed answers) :
    Queued link address posted (retired ++ lane link address (deed.bind Deed.retired?).toList)
      (begun ++ lane link address (deed.bind Deed.begun?).toList)
      (answered ++ lane link address (answers.map Answer.request)) waiting
      (front ++ hand' :: back) := by
  rcases assigned.alone_or_clear address with alone | clear
  · exact queued.works_alone step alone
  · have clear' := clear.subset step.concerns_subset
    obtain ⟨retires, begins, answers⟩ := step.lane_eq_nil clear
    obtain ⟨order, begun_le, answered_le⟩ := queued
    rw [retires, begins, answers, List.append_nil, List.append_nil, List.append_nil]
    constructor
    · rwa [laneOf_clear Hand.held_subset clear clear']
    · rwa [laneOf_clear Hand.unbegun_subset clear clear',
        laneOf_clear Hand.staged_subset clear clear']
    · rwa [laneOf_clear Hand.owing_subset clear clear',
        laneOf_clear Hand.staged_subset clear clear']

/-- A URB comes into the data channel. -/
theorem Queued.post
    (queued : Queued link address posted retired begun answered waiting roll)
    (request : List SubmitRequest) :
    Queued link address (posted ++ request) retired begun answered (waiting ++ request) roll := by
  refine ⟨?_, queued.begun_le, queued.answered_le⟩
  rw [queued.order, List.append_assoc]

/-- A URB goes from the data channel to the worker of its endpoint. -/
theorem Queued.accept {request : SubmitRequest}
    (queued : Queued link address posted retired begun answered
      (lane link address (request :: waiting)) (front ++ hand :: back))
    (assigned : Assigned link (front ++ hand :: back))
    (registered : hand.worker.isRegistered = true)
    (placed : hand.worker.address = request.address)
    (held_eq : hand'.held = hand.held ++ [request]) (staged_eq : hand'.staged = hand.staged)
    (unbegun_eq : hand'.unbegun = hand.unbegun) (owing_eq : hand'.owing = hand.owing) :
    Queued link address posted retired begun answered (lane link address waiting)
      (front ++ hand' :: back) := by
  obtain ⟨order, begun_le, answered_le⟩ := queued
  refine ⟨?_, by rwa [laneOf_exchange unbegun_eq, laneOf_exchange staged_eq],
    by rwa [laneOf_exchange owing_eq, laneOf_exchange staged_eq]⟩
  by_cases here : request.address = address
  · -- nobody else has anything of this lane, so the URB joins it at its end
    have alone := assigned.alone registered (placed.trans here)
    rw [laneOf_alone alone Hand.held_subset] at order ⊢
    rw [order, held_eq, lane_append, ← List.singleton_append, lane_append]
    simp
  · have others : lane link address [request] = [] :=
      lane_eq_nil fun other member _ => List.mem_singleton.1 member ▸ here
    rw [order, laneOf_split, laneOf_split, held_eq, lane_append, ← List.singleton_append,
      lane_append, others]
    simp

/-- A URB goes from the data channel to a new worker. -/
theorem Queued.employ {request : SubmitRequest}
    (queued : Queued link address posted retired begun answered
      (lane link address (request :: waiting)) roll) (held_eq : hand.held = [request])
    (staged_eq : hand.staged = []) (unbegun_eq : hand.unbegun = []) (owing_eq : hand.owing = []) :
    Queued link address posted retired begun answered (lane link address waiting)
      (roll ++ [hand]) := by
  obtain ⟨order, begun_le, answered_le⟩ := queued
  refine ⟨?_, by rwa [laneOf_employ unbegun_eq, laneOf_employ staged_eq],
    by rwa [laneOf_employ owing_eq, laneOf_employ staged_eq]⟩
  have joins : laneOf link address Hand.held (roll ++ [hand]) =
      laneOf link address Hand.held roll ++ lane link address [request] := by
    rw [laneOf_split, held_eq]
    exact List.append_nil _
  rw [order, joins, ← List.singleton_append, lane_append]
  simp

theorem Queued.dismiss
    (queued : Queued link address posted retired begun answered waiting roll) :
    Queued link address posted retired begun answered waiting (roll.map Hand.dismiss) := by
  obtain ⟨order, begun_le, answered_le⟩ := queued
  exact ⟨by rwa [laneOf_dismiss fun _ => rfl],
    by rwa [laneOf_dismiss fun _ => rfl, laneOf_dismiss fun _ => rfl],
    by rwa [laneOf_dismiss fun _ => rfl, laneOf_dismiss fun _ => rfl]⟩

/-! ### When nothing new is taken up -/

theorem Queued.winding
    (queued : Queued link address posted retired begun answered waiting roll)
    (assigned : Assigned link roll) : Winding link address posted begun answered roll := by
  obtain ⟨order, begun_le, answered_le⟩ := queued
  have held : retired ++ laneOf link address Hand.staged roll <+ posted := by
    rw [order]
    exact ((laneOf_sublist fun hand _ => hand.staged_sublist_held).append_left _).trans
      (List.sublist_append_left _ _)
  refine ⟨begun_le.trans held, answered_le.trans held, ?_⟩
  rcases assigned.exists_alone address with clear | ⟨front, hand, back, rfl, alone⟩
  · rw [laneOf_eq_nil clear Hand.owing_subset]
    exact Nat.zero_le 1
  · rw [laneOf_alone alone Hand.owing_subset]
    refine Nat.le_trans (List.length_filter_le _ _) ?_
    rw [Hand.owing]
    cases hand.owed <;> simp

/-- What is spent of a list that has at most one member comes first. -/
theorem append_sublist_of_spent {α : Type} {spent before before' front back : List α}
    (few : (front ++ before ++ back).length ≤ 1) (le : spent ++ before' <+ before) :
    spent ++ (front ++ before' ++ back) <+ front ++ before ++ back := by
  cases before with
  | nil =>
      obtain ⟨rfl, rfl⟩ := List.append_eq_nil_iff.1 (List.sublist_nil.1 le)
      exact .refl _
  | cons first rest =>
      simp only [List.length_append, List.length_cons] at few
      obtain rfl := List.eq_nil_of_length_eq_zero (show front.length = 0 by omega)
      obtain rfl := List.eq_nil_of_length_eq_zero (show back.length = 0 by omega)
      simpa using le

theorem Winding.works (winding : Winding link address posted begun answered (front ++ hand :: back))
    (fits : ∀ other ∈ front ++ hand :: back, other.Fits) (step : HandStep hand hand' deed answers)
    (untaken : ∀ request, hand'.worker.stage ≠ .transferring request none) :
    Winding link address posted (begun ++ lane link address (deed.bind Deed.begun?).toList)
      (answered ++ lane link address (answers.map Answer.request)) (front ++ hand' :: back) := by
  obtain ⟨begun_le, answered_le, one⟩ := winding
  have few : (laneOf link address Hand.unbegun (front ++ hand :: back)).length ≤ 1 :=
    Nat.le_trans (laneOf_sublist fun other member => (List.sublist_append_left _ _).trans
      (Hand.transfer_sublist_owing (fits other member))).length_le one
  cases step with
  | takes held_eq bare laden stage_eq => exact absurd stage_eq (untaken _)
  | goesOn held_eq staged_le unbegun_le owing_le =>
      have begins := lane_sublist link address unbegun_le
      have answers := lane_sublist link address owing_le
      rw [lane_append] at begins answers
      rw [laneOf_split] at few one begun_le answered_le
      have spent := append_sublist_of_spent one answers
      refine ⟨?_, ?_, ?_⟩ <;> rw [laneOf_split]
      · rw [List.append_assoc]
        exact ((append_sublist_of_spent few begins).append_left begun).trans begun_le
      · rw [List.append_assoc]
        exact (spent.append_left answered).trans answered_le
      · exact Nat.le_trans ((List.sublist_append_right _ _).trans spent).length_le one

/-- What workers have in their queues does not matter any more. -/
theorem Winding.still {posted' : List SubmitRequest} {roll' : List Hand}
    (winding : Winding link address posted begun answered roll) (le : posted <+ posted')
    (unbegun_eq : laneOf link address Hand.unbegun roll' = laneOf link address Hand.unbegun roll)
    (owing_eq : laneOf link address Hand.owing roll' = laneOf link address Hand.owing roll) :
    Winding link address posted' begun answered roll' := by
  obtain ⟨begun_le, answered_le, one⟩ := winding
  exact ⟨by rw [unbegun_eq]; exact begun_le.trans le, by rw [owing_eq]; exact answered_le.trans le,
    by rwa [owing_eq]⟩

end

end UsbExport.Host

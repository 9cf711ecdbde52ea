import Mathlib.Data.List.Induction
import UsbExport.Proofs.Socket.Turns

/-!
What a shared socket accepts when sends fail. Every errand that has had its turn is a delivery, with
the bytes that were taken for it. In every order of events the bytes on the wire are those of the
deliveries in turn, a sent frame being whole and a failed one cut short. Main statement: no byte
follows a cut frame, whatever the socket does, exactly if no frame of two bytes or more is followed,
before the first close, by a frame that is not empty.
-/

namespace UsbExport.Socket

/-- An errand that has had its turn, what the socket took of its frame, and whether it went well. -/
structure Delivery where
  errand : Errand
  taken : Bytes
  succeeded : Bool
deriving DecidableEq, Repr

namespace Delivery

/-- The send failed after part of its frame was written. -/
def IsTorn (delivery : Delivery) : Prop := delivery.succeeded = false ∧ delivery.taken ≠ []

/-- A sent frame is whole, a failed one is cut short or was never begun, and a close writes
nothing. -/
def Fits (delivery : Delivery) : Prop :=
  match delivery.errand, delivery.succeeded with
  | .send frame, true => delivery.taken = frame
  | .send frame, false =>
      delivery.taken <+: frame ∧ (delivery.taken = [] ∨ delivery.taken ≠ frame)
  | .close, _ => delivery.taken = []

/-- The frame of a send that went well. -/
def sent? (delivery : Delivery) : Option Bytes :=
  match delivery.errand, delivery.succeeded with
  | .send frame, true => some frame
  | .send _, false | .close, _ => none

theorem Fits.taken_eq {delivery : Delivery} (fits : delivery.Fits) (untorn : ¬ delivery.IsTorn) :
    delivery.taken = delivery.sent?.getD [] := by
  obtain ⟨errand, taken, succeeded⟩ := delivery
  cases errand with
  | close => exact fits
  | send frame =>
      cases succeeded with
      | true => exact fits
      | false =>
          by_contra begun
          exact untorn ⟨rfl, begun⟩

theorem sent?_eq_none_of_isTorn {delivery : Delivery} (torn : delivery.IsTorn) :
    delivery.sent? = none := by
  obtain ⟨errand, taken, succeeded⟩ := delivery
  obtain ⟨rfl, -⟩ : succeeded = false ∧ taken ≠ [] := torn
  cases errand with
  | send frame => rfl
  | close => rfl

/-- A torn frame has been cut in two, so it has at least two bytes. -/
theorem Fits.two_le_of_isTorn {delivery : Delivery} (fits : delivery.Fits)
    (torn : delivery.IsTorn) :
    ∃ frame, delivery.errand = .send frame ∧ 2 ≤ frame.length := by
  obtain ⟨errand, taken, succeeded⟩ := delivery
  obtain ⟨rfl, begun⟩ : succeeded = false ∧ taken ≠ [] := torn
  cases errand with
  | send frame =>
      obtain ⟨⟨rest, cut⟩, empty | short⟩ : taken <+: frame ∧ (taken = [] ∨ taken ≠ frame) := fits
      · exact absurd empty begun
      subst cut
      have more : rest ≠ [] := by
        rintro rfl
        exact short (List.append_nil _).symm
      have := List.length_pos_iff.2 begun
      have := List.length_pos_iff.2 more
      exact ⟨_, rfl, by rw [List.length_append]; omega⟩
  | close => exact absurd fits begun

/-- Nothing is written for an empty frame or a close. -/
theorem Fits.frame_ne_nil {delivery : Delivery} (fits : delivery.Fits)
    (begun : delivery.taken ≠ []) :
    ∃ frame, delivery.errand = .send frame ∧ frame ≠ [] := by
  obtain ⟨errand, taken, succeeded⟩ := delivery
  cases errand with
  | send frame =>
      refine ⟨frame, rfl, ?_⟩
      rintro rfl
      cases succeeded with
      | true => exact begun fits
      | false => exact begun (List.prefix_nil.1 fits.1)
  | close => exact absurd fits begun

end Delivery

/-- Once a send has failed after part of its frame was written, no byte of a later frame is. The
bytes of the frame that is on its way come last. -/
def Intact (deliveries : List Delivery) (underway : Bytes) : Prop :=
  deliveries.Pairwise (fun earlier later => earlier.IsTorn → later.taken = []) ∧
    ∀ delivery ∈ deliveries, delivery.IsTorn → underway = []

/-- The wire has the frames that were sent, and at most the beginning of one more after them. -/
def Framed (deliveries : List Delivery) (errands : List Errand) (written : Bytes) : Prop :=
  ∃ cut, written = (deliveries.filterMap Delivery.sent?).flatten ++ cut ∧
    (cut = [] ∨ ∃ frame, .send frame ∈ errands ∧ cut <+: frame)

/-- A frame that can be cut is followed, before the first close, by one that is not empty. -/
def Exposed (errands : List Errand) : Prop :=
  ∃ before frame between next after,
    errands = before ++ .send frame :: (between ++ .send next :: after) ∧
      .close ∉ before ∧ .close ∉ between ∧ 2 ≤ frame.length ∧ next ≠ []

theorem Intact.framed {errands : List Errand} {underway : Bytes} :
    ∀ {deliveries : List Delivery}, Intact deliveries underway →
      (∀ delivery ∈ deliveries, delivery.Fits) →
      (∀ delivery ∈ deliveries, delivery.errand ∈ errands) →
      (underway = [] ∨ ∃ frame, .send frame ∈ errands ∧ underway <+: frame) →
      Framed deliveries errands (deliveries.flatMap Delivery.taken ++ underway)
  | [], _, _, _, cut => ⟨underway, by simp, cut⟩
  | delivery :: deliveries, ⟨apart, last⟩, fits, asked, cut => by
      rw [List.pairwise_cons] at apart
      by_cases torn : delivery.IsTorn
      · have silent : ∀ later ∈ deliveries, later.taken = [] :=
          fun later mem => apart.1 later mem torn
        have nothing : (deliveries.filterMap Delivery.sent?).flatten = [] := by
          rw [List.flatten_eq_nil_iff]
          intro frame mem
          obtain ⟨later, mem, sent⟩ := List.mem_filterMap.1 mem
          have untorn : ¬ later.IsTorn := fun cutToo => cutToo.2 (silent later mem)
          have taken := (fits later (List.mem_cons_of_mem _ mem)).taken_eq untorn
          rw [silent later mem, sent] at taken
          exact taken.symm
        refine ⟨delivery.taken, ?_, Or.inr ?_⟩
        · rw [List.filterMap_cons_none (delivery.sent?_eq_none_of_isTorn torn), nothing,
            List.flatMap_cons, List.flatMap_eq_nil_iff.2 silent, last delivery (by simp) torn]
          simp
        · obtain ⟨frame, frame_eq, -⟩ := (fits delivery (by simp)).two_le_of_isTorn torn
          refine ⟨frame, frame_eq ▸ asked delivery (by simp), ?_⟩
          have cutShort := fits delivery (by simp)
          rw [Delivery.Fits, frame_eq, torn.1] at cutShort
          exact cutShort.1
      · have rest : Intact deliveries underway :=
          ⟨apart.2, fun later mem => last later (List.mem_cons_of_mem _ mem)⟩
        obtain ⟨cut, written, short⟩ := rest.framed
          (fun later mem => fits later (List.mem_cons_of_mem _ mem))
          (fun later mem => asked later (List.mem_cons_of_mem _ mem)) cut
        refine ⟨cut, ?_, short⟩
        rw [List.flatMap_cons, List.append_assoc, written, (fits delivery (by simp)).taken_eq torn,
          List.filterMap_cons, ← List.append_assoc]
        cases delivery.sent? <;> simp

namespace Guard

inductive Event
  | request (errand : Errand)
  | poll (ticket : Ticket) (now : Nat)
  | setMode (mode : WriteMode)
deriving DecidableEq, Repr

def Event.errand? : Event → Option Errand
  | request errand => some errand
  | poll _ _ | setMode _ => none

/-- What has been taken of the frame at the head of the line. -/
def takenSoFar (guard : Guard) : Bytes :=
  match guard.line, guard.current with
  | ⟨_, .send frame⟩ :: _, some sending => frame.take (frame.length - sending.rest.length)
  | _, _ => []

/-- The state after an event. -/
def happen (guard : Guard) : Event → Guard
  | .request errand => (guard.request errand).2
  | .poll ticket now =>
      match guard.poll ticket now with
      | .waiting => guard
      | .advanced next | .paused next | .finished next _ => next
  | .setMode mode => guard.setMode mode

/-- The delivery that an event brings to its end. -/
def delivery? (guard : Guard) : Event → Option Delivery
  | .poll ticket now =>
      match guard.poll ticket now, guard.line with
      | .finished _ result, head :: _ => some ⟨head.errand, guard.takenSoFar, result.isOk⟩
      | _, _ => none
  | .request _ | .setMode _ => none

/-- The runs of a socket: the errands asked of it in order, those that have had their turn, and what
has become of it. -/
inductive Serves (timeout : Nat) : List Errand → List Delivery → Guard → Prop
  | start : Serves timeout [] [] { timeout }
  | step {errands : List Errand} {deliveries : List Delivery} {guard : Guard}
      (serves : Serves timeout errands deliveries guard) (event : Event) :
      Serves timeout (errands ++ event.errand?.toList)
        (deliveries ++ (guard.delivery? event).toList) (guard.happen event)

/-! ### What holds in every run -/

structure Accounts (errands : List Errand) (deliveries : List Delivery) (guard : Guard) : Prop where
  errands_eq : errands = deliveries.map Delivery.errand ++ guard.line.map Waiter.errand
  written_eq : guard.sink.written = deliveries.flatMap Delivery.taken ++ guard.takenSoFar
  current_ok : ∀ sending, guard.current = some sending → guard.isOpen = true ∧
    ∃ ticket frame line, guard.line = ⟨ticket, .send frame⟩ :: line ∧
      frame = guard.takenSoFar ++ sending.rest
  isOpen_iff : guard.isOpen = true ↔ .close ∉ deliveries.map Delivery.errand
  fits : ∀ delivery ∈ deliveries, delivery.Fits
  shut : deliveries.Pairwise fun earlier later => earlier.errand = .close → later.taken = []
  flushing : guard.sink.flushing = .done

theorem takenSoFar_of_current_eq_none {guard : Guard} (idle : guard.current = none) :
    guard.takenSoFar = [] := by
  unfold takenSoFar
  rw [idle]
  split <;> simp_all

theorem takenSoFar_eq {guard : Guard} {ticket : Ticket} {taken : Bytes} {line : List Waiter}
    {sending : Sending} (standing : guard.line = ⟨ticket, .send (taken ++ sending.rest)⟩ :: line)
    (current : guard.current = some sending) : guard.takenSoFar = taken := by
  simp [takenSoFar, standing, current]

namespace Accounts

variable {errands : List Errand} {deliveries : List Delivery} {guard next : Guard}

theorem takenSoFar_of_closed (accounts : Accounts errands deliveries guard)
    (closed : guard.isOpen = false) : guard.takenSoFar = [] := by
  cases current : guard.current with
  | none => exact takenSoFar_of_current_eq_none current
  | some sending =>
      have := (accounts.current_ok sending current).1
      rw [closed] at this
      contradiction

/-- The frame at the head of the line is what was taken of it and what is still to be sent. -/
theorem frame_eq (accounts : Accounts errands deliveries guard) {ticket : Ticket} {frame : Bytes}
    {line : List Waiter} (standing : guard.line = ⟨ticket, .send frame⟩ :: line) (deadline : Nat) :
    frame = guard.takenSoFar ++ (guard.current.getD ⟨deadline, frame⟩).rest := by
  cases current : guard.current with
  | none => simp [takenSoFar_of_current_eq_none current]
  | some sending =>
      obtain ⟨-, _, _, _, line_eq, frame_eq⟩ := accounts.current_ok sending current
      rw [standing] at line_eq
      cases line_eq
      exact frame_eq

/-- The head of the line has had its turn and leaves. -/
theorem leave (accounts : Accounts errands deliveries guard) {head : Waiter} {line : List Waiter}
    (standing : guard.line = head :: line) {succeeded : Bool}
    (fits : (⟨head.errand, guard.takenSoFar, succeeded⟩ : Delivery).Fits)
    (line_eq : next.line = line) (idle : next.current = none)
    (written : next.sink.written = guard.sink.written)
    (flushing : next.sink.flushing = guard.sink.flushing)
    (isOpen : next.isOpen = true ↔ guard.isOpen = true ∧ head.errand ≠ .close) :
    Accounts errands (deliveries ++ [⟨head.errand, guard.takenSoFar, succeeded⟩]) next where
  errands_eq := by
    rw [accounts.errands_eq, standing, line_eq]
    simp
  written_eq := by
    rw [written, accounts.written_eq, takenSoFar_of_current_eq_none idle]
    simp
  current_ok := by simp [idle]
  isOpen_iff := by
    rw [isOpen, accounts.isOpen_iff]
    simp [eq_comm]
  fits := by
    intro other mem
    rcases List.mem_append.1 mem with mem | mem
    · exact accounts.fits other mem
    · rw [List.mem_singleton.1 mem]
      exact fits
  shut := by
    refine List.pairwise_append.2 ⟨accounts.shut, List.pairwise_singleton _ _, ?_⟩
    intro earlier mem last hlast close
    rw [List.mem_singleton.1 hlast]
    apply accounts.takenSoFar_of_closed
    rw [← Bool.not_eq_true, accounts.isOpen_iff, not_not, ← close]
    exact List.mem_map_of_mem mem
  flushing := flushing.trans accounts.flushing

/-- The head of the line stays, and the socket has taken one more piece of its frame. -/
theorem go_on (accounts : Accounts errands deliveries guard) {ticket : Ticket} {line : List Waiter}
    {deadline : Nat} (piece rest : Bytes)
    (standing : guard.line = ⟨ticket, .send (guard.takenSoFar ++ piece ++ rest)⟩ :: line)
    (line_eq : next.line = guard.line) (isOpen : guard.isOpen = true)
    (isOpen' : next.isOpen = true) (current : next.current = some ⟨deadline, rest⟩)
    (written : next.sink.written = guard.sink.written ++ piece)
    (flushing : next.sink.flushing = guard.sink.flushing) :
    Accounts errands deliveries next := by
  have sofar : next.takenSoFar = guard.takenSoFar ++ piece :=
    takenSoFar_eq (line_eq.trans standing) current
  exact {
    errands_eq := by rw [accounts.errands_eq, line_eq]
    written_eq := by rw [written, accounts.written_eq, sofar, List.append_assoc]
    current_ok := by
      intro sending same
      rw [current] at same
      cases same
      exact ⟨isOpen', ticket, _, line, line_eq.trans standing, by rw [sofar]⟩
    isOpen_iff := by rw [← accounts.isOpen_iff, isOpen, isOpen']
    fits := accounts.fits
    shut := accounts.shut
    flushing := flushing.trans accounts.flushing }

theorem request (accounts : Accounts errands deliveries guard) (errand : Errand) :
    Accounts (errands ++ [errand]) deliveries (guard.request errand).2 := by
  have sofar : (guard.request errand).2.takenSoFar = guard.takenSoFar := by
    cases current : guard.current with
    | none =>
        rw [takenSoFar_of_current_eq_none current]
        exact takenSoFar_of_current_eq_none current
    | some sending =>
        obtain ⟨-, ticket, frame, line, standing, -⟩ := accounts.current_ok sending current
        simp [takenSoFar, Guard.request, current, standing]
  exact {
    errands_eq := by simp [accounts.errands_eq, Guard.request]
    written_eq := by rw [sofar, ← accounts.written_eq]; rfl
    current_ok := by
      intro sending current
      obtain ⟨isOpen, ticket, frame, line, standing, frame_eq⟩ :=
        accounts.current_ok sending current
      refine ⟨isOpen, ticket, frame, line ++ [⟨guard.issued, errand⟩], ?_, ?_⟩
      · simp [Guard.request, standing]
      · rw [sofar]
        exact frame_eq
    isOpen_iff := accounts.isOpen_iff
    fits := accounts.fits
    shut := accounts.shut
    flushing := accounts.flushing }

theorem setMode (accounts : Accounts errands deliveries guard) (mode : WriteMode) :
    Accounts errands deliveries (guard.setMode mode) :=
  ⟨accounts.errands_eq, accounts.written_eq, accounts.current_ok, accounts.isOpen_iff,
    accounts.fits, accounts.shut, accounts.flushing⟩

theorem push (accounts : Accounts errands deliveries guard) {ticket : Ticket} {frame : Bytes}
    {line : List Waiter} {now : Nat} (standing : guard.line = ⟨ticket, .send frame⟩ :: line)
    (isOpen : guard.isOpen = true)
    (pushed : guard.Pushed (guard.current.getD ⟨now + guard.timeout, frame⟩)
      (guard.poll ticket now)) :
    Accounts errands (deliveries ++ (guard.delivery? (.poll ticket now)).toList)
      (guard.happen (.poll ticket now)) := by
  have frame_eq := accounts.frame_eq standing (now + guard.timeout)
  simp only [delivery?, Guard.happen, standing]
  generalize guard.current.getD ⟨now + guard.timeout, frame⟩ = sending at frame_eq pushed
  obtain ⟨deadline, rest⟩ := sending
  change frame = guard.takenSoFar ++ rest at frame_eq
  have unmoved :
      guard.line = ⟨ticket, .send (guard.takenSoFar ++ [] ++ rest)⟩ :: line := by
    rw [List.append_nil, ← frame_eq]
    exact standing
  generalize guard.poll ticket now = progress at pushed
  cases pushed with
  | whole done =>
      cases done
      refine accounts.leave standing ?_ (by simp [Guard.leave, standing]) rfl (by simp) rfl
        (by simp [Guard.leave, isOpen])
      change guard.takenSoFar = frame
      rw [frame_eq, List.append_nil]
  | @piece count more offer =>
      have moved : guard.line =
          ⟨ticket, .send (guard.takenSoFar ++ rest.take count ++ rest.drop count)⟩ :: line := by
        rw [List.append_assoc, List.take_append_drop, ← frame_eq]
        exact standing
      rw [Option.toList_none, List.append_nil]
      exact accounts.go_on _ _ moved rfl isOpen isOpen rfl (by simp) rfl
  | stalled =>
      rw [Option.toList_none, List.append_nil]
      exact accounts.go_on _ _ unmoved rfl isOpen isOpen rfl (by simp) rfl
  | waits =>
      rw [Option.toList_none, List.append_nil]
      exact accounts
  | pauses =>
      rw [Option.toList_none, List.append_nil]
      exact accounts.go_on _ _ unmoved rfl isOpen isOpen rfl (by simp) rfl
  | fails early same flushing =>
      have more : rest ≠ [] := early.resolve_right (not_not.2 accounts.flushing)
      refine accounts.leave standing ?_ (by simp [Guard.leave, standing]) rfl same flushing
        (by simp [Guard.leave, isOpen])
      refine ⟨⟨rest, frame_eq.symm⟩, Or.inr ?_⟩
      intro whole
      change guard.takenSoFar = frame at whole
      rw [whole] at frame_eq
      exact more (List.self_eq_append_right.1 frame_eq)

theorem poll (accounts : Accounts errands deliveries guard) (ticket : Ticket) (now : Nat) :
    Accounts errands (deliveries ++ (guard.delivery? (.poll ticket now)).toList)
      (guard.happen (.poll ticket now)) := by
  have polled := guard.polled ticket now
  generalize progress_eq : guard.poll ticket now = progress at polled
  cases polled with
  | waits => simpa [delivery?, Guard.happen, progress_eq] using accounts
  | shuts standing =>
      simp only [delivery?, Guard.happen, progress_eq, standing]
      have idle : guard.takenSoFar = [] := by
        simp only [takenSoFar, standing]
      refine accounts.leave standing idle (by simp [Guard.leave, standing]) rfl ?_ ?_ (by simp)
      · cases guard.isOpen <;> simp
      · cases guard.isOpen <;> rfl
  | refused standing shut =>
      simp only [delivery?, Guard.happen, progress_eq, standing]
      have idle := accounts.takenSoFar_of_closed shut
      refine accounts.leave standing ?_ (by simp [Guard.leave, standing]) rfl rfl rfl ?_
      · exact ⟨by simp [idle], Or.inl idle⟩
      · simp [Guard.leave]
  | sends standing isOpen pushed =>
      rw [← progress_eq] at pushed
      exact accounts.push standing isOpen pushed

theorem happen (accounts : Accounts errands deliveries guard) (event : Event) :
    Accounts (errands ++ event.errand?.toList) (deliveries ++ (guard.delivery? event).toList)
      (guard.happen event) := by
  cases event with
  | request errand =>
      simp only [delivery?, Option.toList_none, List.append_nil]
      exact accounts.request errand
  | poll ticket now =>
      simp only [Event.errand?, Option.toList_none, List.append_nil]
      exact accounts.poll ticket now
  | setMode mode =>
      simp only [delivery?, Event.errand?, Option.toList_none, List.append_nil]
      exact accounts.setMode mode

end Accounts

theorem Serves.accounts {timeout : Nat} {errands : List Errand} {deliveries : List Delivery}
    {guard : Guard} (serves : Serves timeout errands deliveries guard) :
    Accounts errands deliveries guard := by
  induction serves with
  | start =>
      exact {
        errands_eq := rfl
        written_eq := rfl
        current_ok := by simp
        isOpen_iff := by simp
        fits := by simp
        shut := List.Pairwise.nil
        flushing := rfl }
  | step _ event ih => exact ih.happen event

/-! ### No byte after a cut frame -/

theorem Accounts.intact {errands : List Errand} {deliveries : List Delivery} {guard : Guard}
    (accounts : Accounts errands deliveries guard) (safe : ¬ Exposed errands) :
    Intact deliveries guard.takenSoFar := by
  constructor
  · rw [List.pairwise_iff_forall_sublist]
    intro earlier later both torn
    obtain ⟨start, rest, split, memStart, memRest⟩ := List.cons_sublist_iff.1 both
    obtain ⟨before, between₁, rfl⟩ := List.append_of_mem memStart
    obtain ⟨between₂, after, rfl⟩ := List.append_of_mem (List.singleton_sublist.1 memRest)
    by_contra begun
    obtain ⟨frame, frame_eq, two⟩ :=
      (accounts.fits earlier (by simp [split])).two_le_of_isTorn torn
    obtain ⟨next, next_eq, filled⟩ := (accounts.fits later (by simp [split])).frame_ne_nil begun
    have unshut : ∀ delivery ∈ before ++ earlier :: (between₁ ++ between₂),
        delivery.errand ≠ .close := by
      intro delivery mem close
      have shut := accounts.shut
      rw [split, show before ++ earlier :: between₁ ++ (between₂ ++ later :: after) =
        before ++ earlier :: (between₁ ++ between₂) ++ later :: after by simp] at shut
      exact begun ((List.pairwise_append.1 shut).2.2 delivery mem later (by simp) close)
    refine safe ⟨before.map Delivery.errand, frame, (between₁ ++ between₂).map Delivery.errand,
      next, after.map Delivery.errand ++ guard.line.map Waiter.errand, ?_, ?_, ?_, two, filled⟩
    · rw [accounts.errands_eq, split]
      simp [frame_eq, next_eq]
    · intro close
      obtain ⟨delivery, mem, eq⟩ := List.mem_map.1 close
      exact unshut delivery (by simp [mem]) eq
    · intro close
      obtain ⟨delivery, mem, eq⟩ := List.mem_map.1 close
      exact unshut delivery (by simpa using Or.inr (Or.inr (List.mem_append.1 mem))) eq
  · intro delivery mem torn
    by_contra underway
    obtain ⟨frame, frame_eq, two⟩ := (accounts.fits delivery mem).two_le_of_isTorn torn
    cases current : guard.current with
    | none => exact underway (takenSoFar_of_current_eq_none current)
    | some sending =>
        obtain ⟨isOpen, ticket, next, line, standing, next_eq⟩ :=
          accounts.current_ok sending current
        have unshut := accounts.isOpen_iff.1 isOpen
        obtain ⟨before, between, rfl⟩ := List.append_of_mem mem
        simp only [List.map_append, List.map_cons, List.mem_append, List.mem_cons, not_or] at unshut
        refine safe ⟨before.map Delivery.errand, frame, between.map Delivery.errand, next,
          line.map Waiter.errand, ?_, unshut.1, unshut.2.2, two, ?_⟩
        · rw [accounts.errands_eq, standing]
          simp [frame_eq]
        · rintro rfl
          exact underway (List.append_eq_nil_iff.1 next_eq.symm).1

theorem Accounts.framed {errands : List Errand} {deliveries : List Delivery} {guard : Guard}
    (accounts : Accounts errands deliveries guard) (safe : ¬ Exposed errands) :
    Framed deliveries errands guard.sink.written := by
  rw [accounts.written_eq]
  refine (accounts.intact safe).framed accounts.fits ?_ ?_
  · intro delivery mem
    rw [accounts.errands_eq]
    exact List.mem_append_left _ (List.mem_map_of_mem mem)
  · cases current : guard.current with
    | none => exact Or.inl (takenSoFar_of_current_eq_none current)
    | some sending =>
        obtain ⟨-, ticket, frame, line, standing, frame_eq⟩ :=
          accounts.current_ok sending current
        refine Or.inr ⟨frame, ?_, sending.rest, frame_eq.symm⟩
        rw [accounts.errands_eq, standing]
        simp

/-! ### A run that goes on after a cut frame -/

/-- The socket is open and between two frames, with these errands to come. -/
structure Ready (guard : Guard) (errands : List Errand) : Prop where
  isOpen : guard.isOpen = true
  idle : guard.current = none
  line_eq : guard.line.map Waiter.errand = errands

namespace Serves

variable {timeout : Nat} {errands : List Errand} {deliveries : List Delivery} {guard : Guard}

theorem setMode (serves : Serves timeout errands deliveries guard) (mode : WriteMode) :
    Serves timeout errands deliveries (guard.setMode mode) := by
  simpa [delivery?, Event.errand?, Guard.happen] using serves.step (.setMode mode)

theorem advance (serves : Serves timeout errands deliveries guard) {ticket : Ticket} {now : Nat}
    {next : Guard} (moved : guard.poll ticket now = .advanced next) :
    Serves timeout errands deliveries next := by
  simpa [delivery?, Event.errand?, Guard.happen, moved] using serves.step (.poll ticket now)

theorem finish (serves : Serves timeout errands deliveries guard) {ticket : Ticket} {now : Nat}
    {next : Guard} {result : Except SendError Unit} {head : Waiter} {line : List Waiter}
    (standing : guard.line = head :: line) (moved : guard.poll ticket now = .finished next result) :
    Serves timeout errands (deliveries ++ [⟨head.errand, guard.takenSoFar, result.isOk⟩]) next := by
  simpa [delivery?, Event.errand?, Guard.happen, moved, standing] using
    serves.step (.poll ticket now)

/-- Everything is asked for before anything is done. -/
theorem all_asked (timeout : Nat) (errands : List Errand) :
    ∃ guard, Serves timeout errands [] guard ∧ guard.Ready errands := by
  induction errands using List.reverseRecOn with
  | nil => exact ⟨_, .start, rfl, rfl, rfl⟩
  | append_singleton errands errand ih =>
      obtain ⟨guard, serves, ready⟩ := ih
      refine ⟨(guard.request errand).2, ?_, ready.isOpen, ready.idle, ?_⟩
      · simpa [delivery?, Event.errand?, Guard.happen] using serves.step (.request errand)
      · simp [Guard.request, ready.line_eq]

/-- The socket takes the first piece of the next frame. -/
theorem take_piece (serves : Serves timeout errands deliveries guard) {ticket : Ticket}
    {frame : Bytes} {line : List Waiter} {count : Nat}
    (standing : guard.line = ⟨ticket, .send frame⟩ :: line) (isOpen : guard.isOpen = true)
    (idle : guard.current = none) (filled : frame ≠ [])
    (offer : guard.sink.offer frame.length = .taken count) :
    ∃ next, Serves timeout errands deliveries next ∧ next.isOpen = true ∧
      next.line = ⟨ticket, .send (frame.take count ++ frame.drop count)⟩ :: line ∧
      next.current = some ⟨0 + guard.timeout, frame.drop count⟩ := by
  have moved : guard.poll ticket 0 = .advanced { guard with
      sink := guard.sink.write (frame.take count)
      current := some ⟨0 + guard.timeout, frame.drop count⟩ } := by
    rw [poll_of_head standing isOpen, idle, Option.getD_none]
    simp [push, filled, offer]
  refine ⟨_, serves.advance moved, isOpen, ?_, rfl⟩
  rw [List.take_append_drop]
  exact standing

/-- A socket that takes everything writes the next frame whole. -/
theorem write_whole (serves : Serves timeout errands deliveries guard) {frame : Bytes}
    {rest : List Errand} (ready : guard.Ready (.send frame :: rest)) :
    ∃ next, Serves timeout errands (deliveries ++ [⟨.send frame, frame, true⟩]) next ∧
      next.Ready rest := by
  obtain ⟨⟨ticket, _⟩, line, standing, rfl, rfl⟩ := List.map_eq_cons_iff.1 ready.line_eq
  by_cases filled : frame = []
  · subst filled
    have moved : guard.poll ticket 0 =
        .finished { guard.leave with sink := guard.sink.flush } (.ok ()) := by
      rw [poll_of_head standing ready.isOpen, ready.idle, Option.getD_none]
      simp [push, serves.accounts.flushing]
    have served := serves.finish standing moved
    rw [takenSoFar_of_current_eq_none ready.idle] at served
    refine ⟨_, served, ready.isOpen, rfl, ?_⟩
    simp [leave, standing]
  · have offer : (guard.setMode .accept).sink.offer frame.length = .taken frame.length := rfl
    obtain ⟨next, begun, isOpen, standing', current⟩ := (serves.setMode .accept).take_piece
      standing ready.isOpen ready.idle filled offer
    rw [List.drop_length] at current standing'
    have moved : next.poll ticket 0 =
        .finished { next.leave with sink := next.sink.flush } (.ok ()) := by
      rw [poll_of_head standing' isOpen, current]
      simp [push, begun.accounts.flushing]
    have served := begun.finish standing' moved
    rw [takenSoFar_eq standing' current, List.append_nil, List.take_length] at served
    refine ⟨_, served, isOpen, rfl, ?_⟩
    simp [leave, standing']

theorem write_all (serves : Serves timeout errands deliveries guard) {frames rest : List Errand}
    (sends : .close ∉ frames) (ready : guard.Ready (frames ++ rest)) :
    ∃ whole next, Serves timeout errands (deliveries ++ whole) next ∧ next.Ready rest := by
  induction frames generalizing deliveries guard with
  | nil => exact ⟨[], guard, by simpa using serves, ready⟩
  | cons errand frames ih =>
      cases errand with
      | close => simp at sends
      | send frame =>
          obtain ⟨next, served, ready'⟩ := serves.write_whole ready
          obtain ⟨whole, last, done, ready''⟩ := ih served (by simpa using sends) ready'
          exact ⟨_, last, by simpa using done, ready''⟩

/-- A socket that takes one byte and then none any more cuts the next frame. -/
theorem tear (serves : Serves timeout errands deliveries guard) {frame : Bytes}
    {rest : List Errand} (ready : guard.Ready (.send frame :: rest)) (two : 2 ≤ frame.length) :
    ∃ next, Serves timeout errands (deliveries ++ [⟨.send frame, frame.take 1, false⟩]) next ∧
      next.Ready rest := by
  obtain ⟨⟨ticket, _⟩, line, standing, rfl, rfl⟩ := List.map_eq_cons_iff.1 ready.line_eq
  have filled : frame ≠ [] := by
    rintro rfl
    simp at two
  have offer : (guard.setMode (.pieces 1 false)).sink.offer frame.length = .taken 1 := by
    show Offer.taken (min 1 frame.length) = .taken 1
    rw [Nat.min_eq_left (by omega)]
  obtain ⟨next, begun, isOpen, standing', current⟩ := (serves.setMode (.pieces 1 false)).take_piece
    standing ready.isOpen ready.idle filled offer
  have more : frame.drop 1 ≠ [] := by
    rw [← List.length_pos_iff, List.length_drop]
    omega
  have turned := begun.setMode .refuse
  have refusing : (next.setMode .refuse).sink.mode = .refuse := rfl
  replace standing' : (next.setMode .refuse).line = _ := standing'
  replace isOpen : (next.setMode .refuse).isOpen = true := isOpen
  replace current : (next.setMode .refuse).current = _ := current
  generalize next.setMode .refuse = next at turned refusing standing' isOpen current
  have refused : next.poll ticket 0 = .finished next.leave (.error .nothingTaken) := by
    rw [poll_of_head standing' isOpen, current, Option.getD_some]
    simp only [push, List.isEmpty_iff, more, if_false, Sink.offer, refusing, WriteMode.offer]
  have served := turned.finish standing' refused
  rw [takenSoFar_eq standing' current, List.take_append_drop] at served
  refine ⟨_, served, isOpen, rfl, ?_⟩
  simp [leave, standing']

end Serves

/-- A cut frame can be followed by a whole one whenever a frame of two bytes or more is asked for
before one that is not empty. -/
theorem exists_not_intact (timeout : Nat) {errands : List Errand} (exposed : Exposed errands) :
    ∃ deliveries guard, Serves timeout errands deliveries guard ∧
      ¬ Intact deliveries guard.takenSoFar := by
  obtain ⟨before, frame, between, next, after, rfl, unshut, unshut', two, filled⟩ := exposed
  obtain ⟨_, asked, ready⟩ := Serves.all_asked timeout
    (before ++ .send frame :: (between ++ .send next :: after))
  obtain ⟨whole, _, served, ready⟩ := asked.write_all unshut ready
  obtain ⟨_, served, ready⟩ := served.tear ready two
  obtain ⟨whole', _, served, ready⟩ := served.write_all unshut' ready
  obtain ⟨last, served, -⟩ := served.write_whole ready
  refine ⟨_, last, served, ?_⟩
  rintro ⟨apart, -⟩
  have torn : (⟨.send frame, frame.take 1, false⟩ : Delivery).IsTorn := by
    refine ⟨rfl, ?_⟩
    rw [Ne, ← List.length_eq_zero_iff, List.length_take]
    omega
  refine filled ((List.pairwise_append.1 apart).2.2 _ ?_ ⟨.send next, next, true⟩ ?_ torn)
  · simp
  · simp

/-- Whatever the socket does and in whatever order things happen, the wire has whole frames and at
most the beginning of one more, and no byte after a cut frame, exactly if the errands do not ask for
one: a failed send leaves the socket open for the next. -/
theorem intact_iff_not_exposed (timeout : Nat) (errands : List Errand) :
    (∀ deliveries guard, Serves timeout errands deliveries guard →
      Framed deliveries errands guard.sink.written ∧ Intact deliveries guard.takenSoFar) ↔
      ¬ Exposed errands := by
  constructor
  · intro intact exposed
    obtain ⟨deliveries, guard, serves, cut⟩ := exists_not_intact timeout exposed
    exact cut (intact deliveries guard serves).2
  · intro safe deliveries guard serves
    exact ⟨serves.accounts.framed safe, serves.accounts.intact safe⟩

end Guard

end UsbExport.Socket

import UsbExport.Proofs.Socket.Turns

/-!
Who stands in line for a socket. A line holds exactly the waiters that took a ticket and have not
had their turn, each with a ticket of its own; a turn that ends is that of the waiter who moved. A
socket that takes what it is offered is done with the head of its line after two moves.
-/

namespace UsbExport.Socket.Guard

/-- The line holds these waiters, in some order. -/
structure Lined (guard : Guard) (waiters : List Waiter) : Prop where
  orderly : guard.Orderly
  nodup : (guard.line.map Waiter.ticket).Nodup
  perm : guard.line.Perm waiters

namespace Lined

variable {guard next : Guard} {waiters waiters' : List Waiter} {ticket : Ticket} {errand : Errand}
  {now : Nat}

theorem fresh (timeout : Nat) : ({ timeout } : Guard).Lined [] where
  orderly := ⟨by simp, by simp⟩
  nodup := List.nodup_nil
  perm := .nil

theorem of_perm (lined : guard.Lined waiters) (perm : waiters.Perm waiters') :
    guard.Lined waiters' :=
  ⟨lined.orderly, lined.nodup, lined.perm.trans perm⟩

theorem request (lined : guard.Lined waiters) (errand : Errand) :
    (guard.request errand).2.Lined (⟨guard.issued, errand⟩ :: waiters) where
  orderly := lined.orderly.request errand
  nodup := by
    show (List.map Waiter.ticket (guard.line ++ [⟨guard.issued, errand⟩])).Nodup
    rw [List.map_append]
    refine List.nodup_append.2 ⟨lined.nodup, by simp, fun other member mine same => ?_⟩
    obtain ⟨waiter, standing, rfl⟩ := List.mem_map.1 member
    rw [List.mem_singleton.1 (show mine ∈ [guard.issued] from same)]
    exact Nat.ne_of_lt (lined.orderly.given waiter standing)
  perm := (List.perm_append_singleton ..).trans (lined.perm.cons _)

theorem moved (lined : guard.Lined waiters)
    (moved : guard.poll ticket now = .advanced next ∨ guard.poll ticket now = .paused next) :
    next.Lined waiters := by
  have line_eq := (kept_of_moved moved).1
  refine ⟨lined.orderly.moved moved, ?_, ?_⟩
  · rw [line_eq]
    exact lined.nodup
  · rw [line_eq]
    exact lined.perm

/-- The head of the line is who moved, and leaves. -/
theorem finished (lined : guard.Lined (⟨ticket, errand⟩ :: waiters))
    {result : Except SendError Unit} (finished : guard.poll ticket now = .finished next result) :
    (∃ line, guard.line = ⟨ticket, errand⟩ :: line) ∧ next.Lined waiters := by
  obtain ⟨done, line, standing⟩ := head_of_finished finished
  have nodup := lined.nodup
  have perm := lined.perm
  rw [standing, List.map_cons, List.nodup_cons] at nodup
  rw [standing] at perm
  have head_eq : (⟨ticket, errand⟩ : Waiter) = ⟨ticket, done⟩ := by
    rcases List.mem_cons.1 (perm.mem_iff.2 (List.mem_cons_self ..)) with same | member
    · exact same
    · exact absurd (List.mem_map_of_mem member) nodup.1
  rw [← head_eq] at standing perm
  have line_eq : next.line = line := by
    rw [(left_of_finished finished).1, standing, List.drop_one, List.tail_cons]
  refine ⟨⟨line, standing⟩, lined.orderly.finished finished, ?_, ?_⟩
  · rw [line_eq]
    exact nodup.2
  · rw [line_eq]
    exact perm.cons_inv

theorem setMode (lined : guard.Lined waiters) (mode : WriteMode) :
    (guard.setMode mode).Lined waiters :=
  ⟨⟨lined.orderly.given, lined.orderly.idle⟩, lined.nodup, lined.perm⟩

end Lined

/-- The next move for a ticket ends its turn, with success if the socket is open. -/
def Finishes (guard : Guard) (ticket : Ticket) (now : Nat) : Prop :=
  ∃ next result, guard.poll ticket now = .finished next result ∧ next.sink.mode = .accept ∧
    (guard.isOpen = true → result = .ok ())

theorem finishes_of_written {guard : Guard} {ticket : Ticket} {frame : Bytes} {line : List Waiter}
    {now : Nat} (standing : guard.line = ⟨ticket, .send frame⟩ :: line)
    (isOpen : guard.isOpen = true) (accepting : guard.sink.mode = .accept)
    (flushing : guard.sink.flushing = .done)
    (written : (guard.current.getD ⟨now + guard.timeout, frame⟩).rest = []) :
    guard.Finishes ticket now := by
  refine ⟨{ guard.leave with sink := guard.sink.flush }, .ok (), ?_, accepting, fun _ => rfl⟩
  rw [poll_of_head standing isOpen, push, if_pos (by simp [written]), flushing]

/-- Where everything is taken, the head of the line is done at once or with the next move. -/
theorem finishes_or_advances {guard : Guard} {head : Waiter} {line : List Waiter}
    (standing : guard.line = head :: line) (accepting : guard.sink.mode = .accept)
    (flushing : guard.sink.flushing = .done) (now : Nat) :
    guard.Finishes head.ticket now ∨ ∃ next, guard.poll head.ticket now = .advanced next ∧
      next.sink.mode = .accept ∧ next.isOpen = guard.isOpen ∧ next.Finishes head.ticket now := by
  obtain ⟨ticket, errand⟩ := head
  cases errand with
  | close =>
      have polled : guard.poll ticket now = .finished
          { guard.leave with
            isOpen := false
            sink := if guard.isOpen then guard.sink.shutDown else guard.sink } (.ok ()) := by
        simp [poll, standing]
      refine Or.inl ⟨_, _, polled, ?_, fun _ => rfl⟩
      dsimp only
      split <;> exact accepting
  | send frame =>
      cases isOpen : guard.isOpen with
      | false =>
          have polled : guard.poll ticket now = .finished guard.leave (.error .closed) := by
            simp [poll, standing, isOpen]
          exact Or.inl ⟨_, _, polled, accepting, by simp [isOpen]⟩
      | true =>
          by_cases written : (guard.current.getD ⟨now + guard.timeout, frame⟩).rest = []
          · exact Or.inl (finishes_of_written standing isOpen accepting flushing written)
          · have polled := @poll_of_head guard ticket frame line standing isOpen now
            generalize guard.current.getD ⟨now + guard.timeout, frame⟩ = sending at polled written
            have taken : guard.sink.offer sending.rest.length = .taken sending.rest.length := by
              simp [Sink.offer, WriteMode.offer, accepting]
            rw [push, if_neg (by simp [written])] at polled
            simp only [taken] at polled
            exact Or.inr ⟨_, polled, accepting, isOpen,
              finishes_of_written standing isOpen accepting flushing (by simp)⟩

end UsbExport.Socket.Guard

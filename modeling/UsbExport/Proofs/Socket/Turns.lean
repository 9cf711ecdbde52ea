import Mathlib.Tactic.ByContra
import UsbExport.Socket.Guard

/-!
What one turn at a shared socket can come to. Whoever holds a ticket keeps its place whatever the
others do, and is served after a number of moves that only depends on its frame.
-/

namespace UsbExport.Socket

/-- Moves that an errand takes at most from when its ticket is drawn. -/
def Errand.effort : Errand → Nat
  | .send frame => 2 * frame.length + 3
  | .close => 3

/-- A socket that takes anything takes at least one byte. -/
theorem Sink.offer_taken_pos {sink : Sink} {rest : Bytes} {count : Nat}
    (offer : sink.offer rest.length = .taken count) (more : rest ≠ []) : 0 < count := by
  have filled := List.length_pos_iff.2 more
  unfold Sink.offer WriteMode.offer at offer
  split at offer
  · cases offer
    exact filled
  · next limit pauses =>
      split at offer
      · contradiction
      split at offer
      · contradiction
      cases offer
      omega
  all_goals contradiction

/-- A socket does not pause twice before a piece. -/
theorem Sink.rested_of_offer_pause {sink : Sink} {size : Nat} (offer : sink.offer size = .pause) :
    sink.rested = false := by
  unfold Sink.offer WriteMode.offer at offer
  split at offer
  case h_2 =>
    split at offer
    · next pauses =>
        simp only [Bool.and_eq_true, Bool.not_eq_true'] at pauses
        exact pauses.2
    · split at offer <;> contradiction
  all_goals contradiction

/-- No socket refuses an offer as if it had been closed. -/
theorem Sink.ne_closed_of_offer {sink : Sink} {size : Nat} {error : SendError}
    (offer : sink.offer size = .failed error) : error ≠ .closed := by
  unfold Sink.offer WriteMode.offer at offer
  rintro rfl
  split at offer
  case h_2 =>
    split at offer
    · contradiction
    · split at offer <;> simp at offer
  all_goals simp at offer

namespace Guard

/-! ### One turn -/

/-- What the head of the line can come to with its frame. -/
inductive Pushed (guard : Guard) (sending : Sending) : Progress → Prop
  | whole (done : sending.rest = []) :
      Pushed guard sending (.finished { guard.leave with sink := guard.sink.flush } (.ok ()))
  | piece {count : Nat} (more : sending.rest ≠ [])
      (offer : guard.sink.offer sending.rest.length = .taken count) :
      Pushed guard sending (.advanced { guard with
        sink := guard.sink.write (sending.rest.take count)
        current := some { sending with rest := sending.rest.drop count } })
  | stalled (unseen : guard.current ≠ some sending) :
      Pushed guard sending (.advanced { guard with current := some sending })
  | waits : Pushed guard sending .waiting
  | pauses (more : sending.rest ≠ []) (offer : guard.sink.offer sending.rest.length = .pause) :
      Pushed guard sending
        (.paused { guard with sink := guard.sink.pause, current := some sending })
  | fails {sink : Sink} {error : SendError}
      (early : sending.rest ≠ [] ∨ guard.sink.flushing ≠ .done)
      (written : sink.written = guard.sink.written)
      (flushing : sink.flushing = guard.sink.flushing) (own : error ≠ .closed) :
      Pushed guard sending (.finished { guard.leave with sink } (.error error))

theorem stall_pushed (guard : Guard) (frame : Bytes) {sending : Sending} (now : Nat)
    (early : sending.rest ≠ [] ∨ guard.sink.flushing ≠ .done) :
    guard.Pushed sending (guard.stall frame sending now) := by
  unfold stall
  by_cases late : sending.deadline ≤ now
  · rw [if_pos late]
    exact .fails early rfl rfl (by simp)
  rw [if_neg late]
  by_cases same : guard.current = some sending
  · rw [if_pos same]
    exact .waits
  · rw [if_neg same]
    exact .stalled same

theorem pushed (guard : Guard) (frame : Bytes) (sending : Sending) (now : Nat) :
    guard.Pushed sending (guard.push frame sending now) := by
  unfold push
  by_cases done : sending.rest = []
  · rw [if_pos (by simp [done])]
    cases flushing : guard.sink.flushing with
    | done => exact .whole done
    | later => exact guard.stall_pushed frame now (Or.inr (by simp [flushing]))
    | failed fault => exact .fails (Or.inr (by simp [flushing])) rfl rfl (by simp)
  rw [if_neg (by simp [done])]
  cases offer : guard.sink.offer sending.rest.length with
  | taken count => exact .piece done offer
  | later => exact guard.stall_pushed frame now (Or.inl done)
  | pause =>
      by_cases late : sending.deadline ≤ now
      · simp only [late, if_true]
        exact .fails (Or.inl done) rfl rfl (by simp)
      · simp only [late, if_false]
        exact .pauses done offer
  | failed error => exact .fails (Or.inl done) rfl rfl (Sink.ne_closed_of_offer offer)

/-- What asking on behalf of a ticket can come to. Only the head of the line gets anywhere. -/
inductive Polled (guard : Guard) (ticket : Ticket) (now : Nat) : Progress → Prop
  | waits : Polled guard ticket now .waiting
  | shuts {line : List Waiter} (standing : guard.line = ⟨ticket, .close⟩ :: line) :
      Polled guard ticket now (.finished
        { guard.leave with
          isOpen := false
          sink := if guard.isOpen then guard.sink.shutDown else guard.sink } (.ok ()))
  | refused {frame : Bytes} {line : List Waiter}
      (standing : guard.line = ⟨ticket, .send frame⟩ :: line) (isOpen : guard.isOpen = false) :
      Polled guard ticket now (.finished guard.leave (.error .closed))
  | sends {frame : Bytes} {line : List Waiter} {progress : Progress}
      (standing : guard.line = ⟨ticket, .send frame⟩ :: line) (isOpen : guard.isOpen = true)
      (pushed : guard.Pushed (guard.current.getD ⟨now + guard.timeout, frame⟩) progress) :
      Polled guard ticket now progress

theorem polled (guard : Guard) (ticket : Ticket) (now : Nat) :
    guard.Polled ticket now (guard.poll ticket now) := by
  unfold poll
  cases standing : guard.line with
  | nil => exact .waits
  | cons head line =>
      obtain ⟨number, errand⟩ := head
      by_cases turn : number = ticket
      · subst turn
        simp only [ne_eq, not_true, if_false]
        cases errand with
        | close => exact .shuts standing
        | send frame =>
            cases isOpen : guard.isOpen with
            | false => simpa using .refused standing isOpen
            | true => simpa using .sends standing isOpen (guard.pushed frame _ now)
      · simp only [ne_eq, turn, not_false_iff, if_true]
        exact .waits

theorem poll_of_head {guard : Guard} {ticket : Ticket} {frame : Bytes} {line : List Waiter}
    (standing : guard.line = ⟨ticket, .send frame⟩ :: line) (isOpen : guard.isOpen = true)
    {now : Nat} : guard.poll ticket now =
      guard.push frame (guard.current.getD ⟨now + guard.timeout, frame⟩) now := by
  simp [poll, standing, isOpen]

/-- Who gets anywhere is at the head of the line. -/
theorem Polled.head {guard : Guard} {ticket : Ticket} {now : Nat} {progress : Progress}
    (polled : guard.Polled ticket now progress) (moved : progress ≠ .waiting) :
    ∃ errand line, guard.line = ⟨ticket, errand⟩ :: line := by
  cases polled with
  | waits => exact absurd rfl moved
  | shuts standing => exact ⟨_, _, standing⟩
  | refused standing => exact ⟨_, _, standing⟩
  | sends standing => exact ⟨_, _, standing⟩

theorem head_of_finished {guard next : Guard} {ticket : Ticket} {now : Nat}
    {result : Except SendError Unit} (finished : guard.poll ticket now = .finished next result) :
    ∃ errand line, guard.line = ⟨ticket, errand⟩ :: line :=
  (guard.polled ticket now).head (by simp [finished])

/-! ### A place in the line -/

/-- Every ticket in the line has been given out, and no frame is on its way while the line is
empty. -/
structure Orderly (guard : Guard) : Prop where
  given : ∀ waiter ∈ guard.line, waiter.ticket < guard.issued
  idle : guard.line = [] → guard.current = none

/-- The ticket stands in the line for this errand and for no other. -/
structure Holds (guard : Guard) (ticket : Ticket) (errand : Errand) : Prop where
  stands : ⟨ticket, errand⟩ ∈ guard.line
  only : ∀ waiter ∈ guard.line, waiter.ticket = ticket → waiter.errand = errand

/-- What others do with their own tickets while one ticket is held, or none. -/
inductive Bystep (mine : Option Ticket) (guard : Guard) : Guard → Prop
  | none : Bystep mine guard guard
  | request (errand : Errand) : Bystep mine guard (guard.request errand).2
  | poll {ticket : Ticket} {now : Nat} {next : Guard} (other : mine ≠ some ticket)
      (moved : guard.poll ticket now = .advanced next ∨ guard.poll ticket now = .paused next ∨
        ∃ result, guard.poll ticket now = .finished next result) : Bystep mine guard next
  | cancel {ticket : Ticket} (other : mine ≠ some ticket) : Bystep mine guard (guard.cancel ticket)
  | setMode (mode : WriteMode) : Bystep mine guard (guard.setMode mode)

/-- Moves that the errand of a ticket still takes at most: two for every byte that is left, one of
them a pause. -/
def toil (guard : Guard) (ticket : Ticket) (errand : Errand) : Nat :=
  match guard.line, guard.current with
  | head :: _, some sending =>
      if head.ticket = ticket then
        2 * sending.rest.length + (if guard.sink.rested then 0 else 1) + 1
      else errand.effort
  | _, _ => errand.effort

variable {guard next : Guard} {ticket mine : Ticket} {errand : Errand} {now : Nat}

/-- A move of the head of the line leaves it at the head. -/
theorem kept_of_moved
    (moved : guard.poll ticket now = .advanced next ∨ guard.poll ticket now = .paused next) :
    next.line = guard.line ∧ next.issued = guard.issued := by
  rcases moved with moved | moved
  all_goals
    have polled := guard.polled ticket now
    rw [moved] at polled
    cases polled with
    | sends standing isOpen pushed => cases pushed <;> exact ⟨rfl, rfl⟩

/-- The next in the line finds the socket between two frames. -/
theorem left_of_finished {result : Except SendError Unit}
    (finished : guard.poll ticket now = .finished next result) :
    next.line = guard.line.drop 1 ∧ next.issued = guard.issued ∧ next.current = none := by
  have polled := guard.polled ticket now
  rw [finished] at polled
  cases polled with
  | shuts => exact ⟨rfl, rfl, rfl⟩
  | refused => exact ⟨rfl, rfl, rfl⟩
  | sends standing isOpen pushed => cases pushed <;> exact ⟨rfl, rfl, rfl⟩

namespace Orderly

theorem request (orderly : guard.Orderly) (errand : Errand) :
    (guard.request errand).2.Orderly where
  given := by
    intro waiter mem
    rcases List.mem_append.1 mem with mem | mem
    · exact Nat.lt_succ_of_lt (orderly.given waiter mem)
    · rw [List.mem_singleton.1 mem]
      exact Nat.lt_succ_self _
  idle := by simp [Guard.request]

theorem moved (orderly : guard.Orderly)
    (moved : guard.poll ticket now = .advanced next ∨ guard.poll ticket now = .paused next) :
    next.Orderly := by
  obtain ⟨line_eq, issued_eq⟩ := kept_of_moved moved
  refine ⟨?_, ?_⟩
  · rw [line_eq, issued_eq]
    exact orderly.given
  · intro empty
    have head := (guard.polled ticket now).head
      (by rcases moved with moved | moved <;> simp [moved])
    obtain ⟨_, _, standing⟩ := head
    rw [line_eq, standing] at empty
    contradiction

theorem finished (orderly : guard.Orderly) {result : Except SendError Unit}
    (finished : guard.poll ticket now = .finished next result) : next.Orderly := by
  obtain ⟨line_eq, issued_eq, idle⟩ := left_of_finished finished
  refine ⟨?_, fun _ => idle⟩
  rw [line_eq, issued_eq]
  exact fun waiter mem => orderly.given waiter (List.mem_of_mem_drop mem)

theorem cancel (orderly : guard.Orderly) (ticket : Ticket) : (guard.cancel ticket).Orderly := by
  unfold Guard.cancel
  cases standing : guard.line with
  | nil => exact orderly
  | cons head line =>
      by_cases turn : head.ticket = ticket
      · simp only [turn, if_true]
        exact ⟨fun waiter mem => orderly.given waiter (List.mem_of_mem_drop mem), fun _ => rfl⟩
      · simp only [turn, if_false]
        refine ⟨?_, by simp⟩
        intro waiter mem
        apply orderly.given
        rw [standing]
        rcases List.mem_cons.1 mem with rfl | mem
        · exact List.mem_cons_self
        · exact List.mem_cons_of_mem _ (List.mem_filter.1 mem).1

theorem bystep (orderly : guard.Orderly) {mine : Option Ticket}
    (bystep : guard.Bystep mine next) : next.Orderly := by
  cases bystep with
  | none => exact orderly
  | request errand => exact orderly.request errand
  | poll _ moved =>
      rcases moved with moved | moved | ⟨result, moved⟩
      · exact orderly.moved (Or.inl moved)
      · exact orderly.moved (Or.inr moved)
      · exact orderly.finished moved
  | cancel _ => exact orderly.cancel _
  | setMode mode => exact ⟨orderly.given, orderly.idle⟩

end Orderly

namespace Holds

/-- A ticket that has just been drawn is held. -/
theorem request (orderly : guard.Orderly) (errand : Errand) :
    (guard.request errand).2.Holds (guard.request errand).1 errand where
  stands := by simp [Guard.request]
  only := by
    intro waiter mem same
    rcases List.mem_append.1 mem with mem | mem
    · exact absurd same (Nat.ne_of_lt (orderly.given waiter mem))
    · rw [List.mem_singleton.1 mem]

theorem of_line_eq (holds : guard.Holds ticket errand) (line_eq : next.line = guard.line) :
    next.Holds ticket errand := by
  refine ⟨?_, ?_⟩
  · rw [line_eq]
    exact holds.stands
  · rw [line_eq]
    exact holds.only

/-- A ticket stays in the line when the head is somebody else and leaves. -/
theorem of_drop (holds : guard.Holds mine errand) {head : Waiter} {line : List Waiter}
    (standing : guard.line = head :: line) (other : head.ticket ≠ mine)
    (line_eq : next.line = guard.line.drop 1) : next.Holds mine errand := by
  have rest : next.line = line := by rw [line_eq, standing, List.drop_one, List.tail_cons]
  refine ⟨?_, ?_⟩
  · have stands := holds.stands
    rw [standing] at stands
    rw [rest]
    rcases List.mem_cons.1 stands with rfl | stands
    · exact absurd rfl other
    · exact stands
  · intro waiter mem
    rw [rest] at mem
    apply holds.only
    rw [standing]
    exact List.mem_cons_of_mem _ mem

theorem cancel (holds : guard.Holds mine errand) (other : mine ≠ ticket) :
    (guard.cancel ticket).Holds mine errand := by
  unfold Guard.cancel
  cases standing : guard.line with
  | nil => exact holds
  | cons head line =>
      by_cases turn : head.ticket = ticket
      · simp only [turn, if_true]
        exact holds.of_drop standing (by rw [turn]; exact other.symm) rfl
      · simp only [turn, if_false]
        refine ⟨?_, ?_⟩
        · have stands := holds.stands
          rw [standing] at stands
          rcases List.mem_cons.1 stands with rfl | stands
          · exact List.mem_cons_self
          · exact List.mem_cons_of_mem _ (List.mem_filter.2 ⟨stands, by simpa using other⟩)
        · intro waiter mem
          apply holds.only
          rw [standing]
          rcases List.mem_cons.1 mem with rfl | mem
          · exact List.mem_cons_self
          · exact List.mem_cons_of_mem _ (List.mem_filter.1 mem).1

theorem bystep (holds : guard.Holds mine errand) (orderly : guard.Orderly)
    (bystep : guard.Bystep (some mine) next) : next.Holds mine errand := by
  cases bystep with
  | none => exact holds
  | request added =>
      refine ⟨List.mem_append_left _ holds.stands, ?_⟩
      intro waiter mem same
      rcases List.mem_append.1 mem with mem | mem
      · exact holds.only waiter mem same
      · rw [List.mem_singleton.1 mem] at same
        have := orderly.given _ holds.stands
        exact absurd same (Nat.ne_of_gt this)
  | @poll ticket now _ other moved =>
      rcases moved with moved | moved | ⟨result, moved⟩
      · exact holds.of_line_eq (kept_of_moved (Or.inl moved)).1
      · exact holds.of_line_eq (kept_of_moved (Or.inr moved)).1
      · obtain ⟨errand, line, standing⟩ := head_of_finished moved
        exact holds.of_drop standing (fun same => other (by rw [← same]))
          (left_of_finished moved).1
  | cancel other => exact holds.cancel fun same => other (by rw [same])
  | setMode mode => exact ⟨holds.stands, holds.only⟩

end Holds

/-! ### A frame on its way -/

/-- What the holder of a ticket has got through of its frame stands at the end of everything that
is written. -/
def Underway (guard : Guard) (ticket : Ticket) : Prop :=
  ∀ frame line sending, guard.line = ⟨ticket, .send frame⟩ :: line →
    guard.current = some sending →
    ∃ earlier taken, frame = taken ++ sending.rest ∧ guard.sink.written = earlier ++ taken

namespace Underway

theorem of_idle (idle : guard.current = none) (ticket : Ticket) : guard.Underway ticket := by
  intro frame line sending standing current
  rw [idle] at current
  contradiction

/-- Nothing is written yet for a ticket that has just been drawn. -/
theorem request (orderly : guard.Orderly) (errand : Errand) :
    (guard.request errand).2.Underway (guard.request errand).1 := by
  cases waiting : guard.line with
  | nil =>
      have unused : (guard.request errand).2.current = none := orderly.idle waiting
      exact of_idle unused _
  | cons head rest =>
      intro frame line sending standing
      rw [Guard.request, waiting, List.cons_append, List.cons.injEq] at standing
      have given := orderly.given head (by rw [waiting]; exact List.mem_cons_self)
      rw [standing.1] at given
      exact absurd given (Nat.lt_irrefl _)

/-- The head of the line goes on where it is, or begins. -/
theorem goes_on (underway : guard.Underway ticket) {frame : Bytes} {line : List Waiter}
    (standing : guard.line = ⟨ticket, .send frame⟩ :: line) (deadline : Nat) :
    ∃ earlier taken, frame = taken ++ (guard.current.getD ⟨deadline, frame⟩).rest ∧
      guard.sink.written = earlier ++ taken := by
  cases current : guard.current with
  | none => exact ⟨guard.sink.written, [], rfl, (List.append_nil _).symm⟩
  | some sending => exact underway frame line sending standing current

/-- A piece more of the frame is a piece more of what is written. -/
theorem of_pushed {sending after : Sending} {progress : Progress} {earlier taken : Bytes}
    (pushed : guard.Pushed sending progress) (written : guard.sink.written = earlier ++ taken)
    (moved : progress = .advanced next ∨ progress = .paused next)
    (current : next.current = some after) :
    ∃ more, taken ++ sending.rest = more ++ after.rest ∧ next.sink.written = earlier ++ more := by
  cases pushed with
  | @piece count =>
      obtain rfl : _ = next := Progress.advanced.inj (moved.resolve_right (by simp))
      obtain rfl := Option.some.inj current
      refine ⟨taken ++ sending.rest.take count, ?_, ?_⟩
      · rw [List.append_assoc, List.take_append_drop]
      · rw [Sink.written_write, written, List.append_assoc]
  | stalled =>
      obtain rfl : _ = next := Progress.advanced.inj (moved.resolve_right (by simp))
      obtain rfl := Option.some.inj current
      exact ⟨taken, rfl, written⟩
  | pauses =>
      obtain rfl : _ = next := Progress.paused.inj (moved.resolve_left (by simp))
      obtain rfl := Option.some.inj current
      exact ⟨taken, rfl, written⟩
  | whole | waits | fails => simp at moved

theorem moved (underway : guard.Underway ticket)
    (moved : guard.poll ticket now = .advanced next ∨ guard.poll ticket now = .paused next) :
    next.Underway ticket := by
  intro frame line sending standing current
  rw [(kept_of_moved moved).1] at standing
  have polled := guard.polled ticket now
  generalize guard.poll ticket now = progress at polled moved
  cases polled with
  | sends standing' isOpen pushed =>
      obtain ⟨rfl, -⟩ : frame = _ ∧ line = _ := by simpa [standing] using standing'
      obtain ⟨earlier, taken, frame_eq, written⟩ := underway.goes_on standing (now + guard.timeout)
      obtain ⟨more, split, written'⟩ := of_pushed pushed written moved current
      exact ⟨earlier, more, frame_eq.trans split, written'⟩
  | waits | shuts | refused => simp at moved

/-- A frame that was sent stands whole at the end. -/
theorem sent (underway : guard.Underway ticket) {frame : Bytes} {line : List Waiter}
    (standing : guard.line = ⟨ticket, .send frame⟩ :: line)
    (finished : guard.poll ticket now = .finished next (.ok ())) :
    ∃ earlier, next.sink.written = earlier ++ frame := by
  have polled := guard.polled ticket now
  rw [finished] at polled
  cases polled with
  | shuts standing' =>
      rw [standing] at standing'
      cases standing'
  | @sends frame' line' _ standing' isOpen pushed =>
      obtain ⟨rfl, rfl⟩ : frame = frame' ∧ line = line' := by simpa [standing] using standing'
      obtain ⟨earlier, taken, frame_eq, written⟩ := underway.goes_on standing (now + guard.timeout)
      cases pushed with
      | whole done =>
          rw [done, List.append_nil] at frame_eq
          exact ⟨earlier, by rw [Sink.written_flush, written, frame_eq]⟩

theorem bystep (underway : guard.Underway mine) (orderly : guard.Orderly)
    (bystep : guard.Bystep (some mine) next) : next.Underway mine := by
  cases bystep with
  | none => exact underway
  | request errand =>
      cases waiting : guard.line with
      | nil =>
          have unused : (guard.request errand).2.current = none := orderly.idle waiting
          exact of_idle unused mine
      | cons head rest =>
          intro frame line sending standing current
          rw [Guard.request, waiting, List.cons_append, List.cons.injEq] at standing
          exact underway frame rest sending (by rw [waiting, standing.1]) current
  | @poll ticket now _ other moved =>
      rcases moved with moved | moved | ⟨result, moved⟩
      · exact of_other other (Or.inl moved)
      · exact of_other other (Or.inr moved)
      · exact of_idle (left_of_finished moved).2.2 mine
  | @cancel ticket other =>
      unfold Guard.cancel
      cases waiting : guard.line with
      | nil => exact underway
      | cons head rest =>
          by_cases turn : head.ticket = ticket
          · simp only [turn, if_true]
            exact of_idle rfl mine
          · simp only [turn, if_false]
            intro frame line sending standing current
            rw [List.cons.injEq] at standing
            exact underway frame rest sending (by rw [waiting, standing.1]) current
  | setMode mode => exact underway
where
  of_other {ticket : Ticket} {now : Nat} (other : some mine ≠ some ticket)
      (moved : guard.poll ticket now = .advanced next ∨ guard.poll ticket now = .paused next) :
      next.Underway mine := by
    intro frame line sending standing
    obtain ⟨errand, rest, head⟩ := (guard.polled ticket now).head
      (by rcases moved with moved | moved <;> simp [moved])
    rw [(kept_of_moved moved).1, head, List.cons.injEq, Waiter.mk.injEq] at standing
    exact absurd (congrArg some standing.1.1.symm) other

end Underway

/-! ### How long an errand takes -/

theorem toil_of_idle (idle : guard.current = none) : guard.toil ticket errand = errand.effort := by
  unfold toil
  rw [idle]
  split <;> simp_all

theorem toil_of_other {head : Waiter} {line : List Waiter} (standing : guard.line = head :: line)
    (other : head.ticket ≠ ticket) : guard.toil ticket errand = errand.effort := by
  unfold toil
  rw [standing]
  cases guard.current with
  | none => rfl
  | some sending => simp [other]

theorem toil_request (orderly : guard.Orderly) (errand : Errand) :
    (guard.request errand).2.toil (guard.request errand).1 errand = errand.effort := by
  cases standing : guard.line with
  | nil => exact toil_of_idle (orderly.idle standing)
  | cons head line =>
      have given := orderly.given head (by rw [standing]; exact List.mem_cons_self)
      have standing' : (guard.request errand).2.line =
          head :: (line ++ [⟨guard.issued, errand⟩]) := by
        simp [Guard.request, standing]
      exact toil_of_other standing' (Nat.ne_of_lt given)

theorem toil_pos (guard : Guard) (ticket : Ticket) (errand : Errand) :
    0 < guard.toil ticket errand := by
  have effort : 0 < errand.effort := by cases errand <;> simp [Errand.effort]
  unfold toil
  split
  · split
    · omega
    · exact effort
  · exact effort

/-- What the others do takes nothing off the errand and adds nothing to it. -/
theorem toil_bystep (holds : guard.Holds mine errand) (bystep : guard.Bystep (some mine) next) :
    next.toil mine errand = guard.toil mine errand := by
  cases bystep with
  | none => rfl
  | request added =>
      obtain ⟨head, line, standing⟩ := List.exists_cons_of_ne_nil (List.ne_nil_of_mem holds.stands)
      simp only [toil, Guard.request, standing, List.cons_append]
      cases guard.current <;> rfl
  | @poll ticket now _ other moved =>
      obtain ⟨errand', line, standing⟩ := (guard.polled ticket now).head
        (by rcases moved with moved | moved | ⟨result, moved⟩ <;> simp [moved])
      have elsewhere : ticket ≠ mine := fun same => other (by rw [same])
      rw [toil_of_other standing elsewhere]
      rcases moved with moved | moved | ⟨result, moved⟩
      · exact toil_of_other ((kept_of_moved (Or.inl moved)).1.trans standing) elsewhere
      · exact toil_of_other ((kept_of_moved (Or.inr moved)).1.trans standing) elsewhere
      · exact toil_of_idle (left_of_finished moved).2.2
  | @cancel ticket other =>
      have elsewhere : ticket ≠ mine := fun same => other (by rw [same])
      unfold Guard.cancel
      cases standing : guard.line with
      | nil => rfl
      | cons head line =>
          by_cases turn : head.ticket = ticket
          · simp only [turn, if_true]
            rw [toil_of_other standing (by rw [turn]; exact elsewhere)]
            exact toil_of_idle rfl
          · simp only [turn, if_false]
            simp only [toil, standing]
            cases guard.current <;> rfl
  | setMode mode => rfl

/-- Every move with a ticket takes something off its errand. -/
theorem toil_moved_lt (holds : guard.Holds mine errand)
    (moved : guard.poll mine now = .advanced next ∨ guard.poll mine now = .paused next) :
    next.toil mine errand < guard.toil mine errand := by
  have polled := guard.polled mine now
  have pushes : ∃ frame line progress, guard.line = ⟨mine, .send frame⟩ :: line ∧
      guard.Pushed (guard.current.getD ⟨now + guard.timeout, frame⟩) progress ∧
      (progress = .advanced next ∨ progress = .paused next) := by
    rcases moved with moved | moved
    all_goals
      rw [moved] at polled
      cases polled with
      | sends standing isOpen pushed => exact ⟨_, _, _, standing, pushed, by simp⟩
  obtain ⟨frame, line, progress, standing, pushed, progress_eq⟩ := pushes
  have errand_eq : errand = .send frame :=
    (holds.only ⟨mine, .send frame⟩ (by rw [standing]; exact List.mem_cons_self) rfl).symm
  subst errand_eq
  generalize sending_eq : guard.current.getD ⟨now + guard.timeout, frame⟩ = sending at pushed
  have left : 2 * sending.rest.length + (if guard.sink.rested then 0 else 1) + 1 ≤
      guard.toil mine (.send frame) := by
    cases current : guard.current with
    | none =>
        rw [toil_of_idle current, ← sending_eq, current, Option.getD_none, Errand.effort]
        dsimp only
        split <;> omega
    | some begun =>
        rw [current, Option.getD_some] at sending_eq
        simp [toil, standing, current, sending_eq]
  have toil_eq : next.line = guard.line → ∀ rest, next.current = some ⟨sending.deadline, rest⟩ →
      next.toil mine (.send frame) =
        2 * rest.length + (if next.sink.rested then 0 else 1) + 1 := by
    intro line_eq rest current
    simp [toil, line_eq, standing, current]
  cases pushed with
  | whole => simp at progress_eq
  | @piece count more offer =>
      obtain rfl : _ = next := by simpa using progress_eq
      have some := Sink.offer_taken_pos offer more
      have filled := List.length_pos_iff.2 more
      rw [toil_eq rfl _ rfl, List.length_drop]
      simp only [Sink.write, Bool.false_eq_true, if_false]
      omega
  | stalled unseen =>
      obtain rfl : _ = next := by simpa using progress_eq
      have fresh : guard.current = none := by
        cases current : guard.current with
        | none => rfl
        | some begun =>
            rw [current, Option.getD_some] at sending_eq
            exact absurd (by rw [current, sending_eq]) unseen
      rw [toil_of_idle fresh, Errand.effort]
      rw [fresh, Option.getD_none] at sending_eq
      rw [toil_eq rfl _ rfl, ← sending_eq]
      dsimp only
      split <;> omega
  | waits => simp at progress_eq
  | pauses more offer =>
      obtain rfl : _ = next := by simpa using progress_eq
      rw [Sink.rested_of_offer_pause offer] at left
      rw [toil_eq rfl _ rfl]
      simp only [Sink.pause, if_true]
      simp only [Bool.false_eq_true, if_false] at left
      omega
  | fails => simp at progress_eq

end Guard

end UsbExport.Socket

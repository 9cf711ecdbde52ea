import UsbExport.Proofs.Socket.Deliveries

/-!
Turns at a shared socket, whatever it does with bytes and with flushes, and whoever gives up on the
way. A turn is over when its errand is done, when it has failed, or when its holder has let go of
it. Main statement: the bytes on the wire are those of the turns one after the other, in the order
of the tickets; a send that went well has its whole frame there, no other turn falls into the middle
of one, and once a close has had its turn the socket stays as it is.
-/

namespace UsbExport.Socket

/-- A turn that is over, and what the socket took in it. Whoever gave up has no outcome. -/
structure Turn where
  waiter : Waiter
  taken : Bytes
  outcome : Option (Except SendError Unit)

namespace Turn

/-- The turn of a close. -/
def Shuts (turn : Turn) : Prop := turn.waiter.errand = .close ∧ turn.outcome = some (.ok ())

/-- A send that went well has its whole frame taken, any other the front of it; a close takes
nothing and does not fail. -/
def Fits (turn : Turn) : Prop :=
  match turn.waiter.errand, turn.outcome with
  | .send frame, some (.ok ()) => turn.taken = frame
  | .send frame, _ => turn.taken <+: frame
  | .close, some (.error _) => False
  | .close, _ => turn.taken = []

/-- What a turn comes to at a socket that is closed. -/
def IsRefused (turn : Turn) : Prop :=
  turn.taken = [] ∧
    ∀ frame, turn.waiter.errand = .send frame →
      turn.outcome = none ∨ turn.outcome = some (.error .closed)

end Turn

namespace Guard

/-- Anything that can happen at a shared socket. -/
inductive Incident
  | request (errand : Errand)
  | poll (ticket : Ticket) (now : Nat)
  | cancel (ticket : Ticket)
  | setMode (mode : WriteMode)
  | setFlush (flushing : FlushMode)
deriving DecidableEq, Repr

/-- A socket and the turns there so far. -/
structure Log where
  guard : Guard
  turns : List Turn := []

namespace Log

/-- The turn of the head of the line is over. -/
def finish (log : Log) (next : Guard) (outcome : Option (Except SendError Unit)) : Log where
  guard := next
  turns := log.turns ++
    (log.guard.line.head?.map fun waiter => ⟨waiter, log.guard.takenSoFar, outcome⟩).toList

def happen (log : Log) : Incident → Log
  | .request errand => { log with guard := (log.guard.request errand).2 }
  | .poll ticket now =>
      match log.guard.poll ticket now with
      | .waiting => log
      | .advanced next | .paused next => { log with guard := next }
      | .finished next result => log.finish next (some result)
  | .cancel ticket =>
      if (log.guard.line.head?.map Waiter.ticket) = some ticket then
        log.finish (log.guard.cancel ticket) none
      else { log with guard := log.guard.cancel ticket }
  | .setMode mode => { log with guard := log.guard.setMode mode }
  | .setFlush flushing => { log with guard := log.guard.setFlush flushing }

/-- The tickets of the turns and then those of the line. -/
def tickets (log : Log) : List Ticket :=
  (log.turns.map Turn.waiter ++ log.guard.line).map Waiter.ticket

/-- What holds of the turns at a socket at all times. -/
structure Sound (log : Log) : Prop where
  written_eq : log.guard.sink.written = log.turns.flatMap Turn.taken ++ log.guard.takenSoFar
  ordered : log.tickets.Pairwise (· < ·)
  given : ∀ ticket ∈ log.tickets, ticket < log.guard.issued
  underway : ∀ sending, log.guard.current = some sending → log.guard.isOpen = true ∧
    ∃ ticket frame line, log.guard.line = ⟨ticket, .send frame⟩ :: line ∧
      frame = log.guard.takenSoFar ++ sending.rest
  fits : ∀ turn ∈ log.turns, turn.Fits
  isOpen_iff : log.guard.isOpen = true ↔ ∀ turn ∈ log.turns, ¬ turn.Shuts
  shut : log.turns.Pairwise fun earlier later => earlier.Shuts → later.IsRefused
  own : ∀ before turn after, log.turns = before ++ turn :: after →
    turn.outcome = some (.error .closed) → ∃ earlier ∈ before, earlier.Shuts

end Log

/-- Everything that has happened at a socket since it was opened. -/
def record (timeout : Nat) (incidents : List Incident) : Log :=
  incidents.foldl Log.happen { guard := { timeout } }

namespace Log.Sound

variable {log : Log} {next : Guard}

theorem start (timeout : Nat) : Sound { guard := { timeout } } where
  written_eq := rfl
  ordered := List.Pairwise.nil
  given := by simp [tickets]
  underway := by simp
  fits := by simp
  isOpen_iff := by simp
  shut := List.Pairwise.nil
  own := by simp

theorem takenSoFar_of_closed (sound : log.Sound) (closed : log.guard.isOpen = false) :
    log.guard.takenSoFar = [] := by
  cases current : log.guard.current with
  | none => exact takenSoFar_of_current_eq_none current
  | some sending =>
      have isOpen := (sound.underway sending current).1
      rw [closed] at isOpen
      contradiction

/-- The frame at the head of the line is what was taken of it and what is still to be sent. -/
theorem frame_eq (sound : log.Sound) {ticket : Ticket} {frame : Bytes} {line : List Waiter}
    (standing : log.guard.line = ⟨ticket, .send frame⟩ :: line) (deadline : Nat) :
    frame = log.guard.takenSoFar ++ (log.guard.current.getD ⟨deadline, frame⟩).rest := by
  cases current : log.guard.current with
  | none => simp [takenSoFar_of_current_eq_none current]
  | some sending =>
      obtain ⟨-, _, _, _, line_eq, frame_eq⟩ := sound.underway sending current
      rw [standing] at line_eq
      cases line_eq
      exact frame_eq

/-- The head of the line leaves: its turn comes last, and the next one finds the socket between two
frames. -/
theorem finish (sound : log.Sound) {head : Waiter} {line : List Waiter}
    {outcome : Option (Except SendError Unit)} (standing : log.guard.line = head :: line)
    (fits : (⟨head, log.guard.takenSoFar, outcome⟩ : Turn).Fits)
    (line_eq : next.line = line) (issued_eq : next.issued = log.guard.issued)
    (idle : next.current = none) (written : next.sink.written = log.guard.sink.written)
    (isOpen : next.isOpen = true ↔ log.guard.isOpen = true ∧
      ¬ (⟨head, log.guard.takenSoFar, outcome⟩ : Turn).Shuts)
    (refused : log.guard.isOpen = false →
      (⟨head, log.guard.takenSoFar, outcome⟩ : Turn).IsRefused)
    (own : outcome = some (.error .closed) → log.guard.isOpen = false) :
    (log.finish next outcome).Sound := by
  have closed_iff : log.guard.isOpen = false ↔ ∃ turn ∈ log.turns, turn.Shuts := by
    rw [← Bool.not_eq_true, sound.isOpen_iff]
    simp
  have turns_eq : (log.finish next outcome).turns =
      log.turns ++ [⟨head, log.guard.takenSoFar, outcome⟩] := by
    simp [Log.finish, standing]
  have tickets_eq : (log.finish next outcome).tickets = log.tickets := by
    simp [tickets, standing, Log.finish, line_eq]
  refine ⟨?_, ?_, ?_, by simp [Log.finish, idle], ?_, ?_, ?_, ?_⟩
  · show next.sink.written = _ ++ next.takenSoFar
    rw [written, sound.written_eq, turns_eq, takenSoFar_of_current_eq_none idle]
    simp
  · rw [tickets_eq]
    exact sound.ordered
  · rw [tickets_eq]
    intro ticket member
    exact Nat.lt_of_lt_of_eq (sound.given ticket member) issued_eq.symm
  · rw [turns_eq, List.forall_mem_append, List.forall_mem_singleton]
    exact ⟨sound.fits, fits⟩
  · rw [turns_eq, List.forall_mem_append, List.forall_mem_singleton, ← sound.isOpen_iff]
    exact isOpen
  · rw [turns_eq]
    refine List.pairwise_append.2 ⟨sound.shut, List.pairwise_singleton _ _, ?_⟩
    intro earlier member last same shuts
    rw [List.mem_singleton.1 same]
    exact refused (closed_iff.2 ⟨earlier, member, shuts⟩)
  · rw [turns_eq]
    intro before turn after split closed
    rcases List.eq_nil_or_concat after with rfl | ⟨rest, last, rfl⟩
    · obtain ⟨rfl, same⟩ := List.append_inj' split rfl
      cases same
      exact closed_iff.1 (own closed)
    · rw [List.concat_eq_append, ← List.cons_append, ← List.append_assoc] at split
      exact sound.own before turn rest (List.append_inj' split rfl).1 closed

/-- Nobody's turn is over, and the socket has taken one more piece of the frame at the head. -/
theorem go_on (sound : log.Sound) {ticket : Ticket} {line : List Waiter} {deadline : Nat}
    (piece rest : Bytes)
    (standing : log.guard.line = ⟨ticket, .send (log.guard.takenSoFar ++ piece ++ rest)⟩ :: line)
    (line_eq : next.line = log.guard.line) (issued_eq : next.issued = log.guard.issued)
    (isOpen : log.guard.isOpen = true) (isOpen' : next.isOpen = true)
    (current : next.current = some ⟨deadline, rest⟩)
    (written : next.sink.written = log.guard.sink.written ++ piece) :
    Sound { log with guard := next } := by
  have sofar : next.takenSoFar = log.guard.takenSoFar ++ piece :=
    takenSoFar_eq (line_eq.trans standing) current
  have tickets_eq : tickets { log with guard := next } = log.tickets := by
    simp [tickets, line_eq]
  refine ⟨?_, ?_, ?_, ?_, sound.fits, ?_, sound.shut, sound.own⟩
  · rw [written, sound.written_eq, sofar, List.append_assoc]
  · rw [tickets_eq]
    exact sound.ordered
  · rw [tickets_eq]
    intro ticket member
    exact Nat.lt_of_lt_of_eq (sound.given ticket member) issued_eq.symm
  · intro sending same
    rw [current] at same
    cases same
    exact ⟨isOpen', ticket, _, line, line_eq.trans standing, by rw [sofar]⟩
  · rw [← sound.isOpen_iff, isOpen, isOpen']

theorem request (sound : log.Sound) (errand : Errand) :
    (log.happen (.request errand)).Sound := by
  have tickets_eq : (log.happen (.request errand)).tickets =
      log.tickets ++ [log.guard.issued] := by
    simp [tickets, happen, Guard.request]
  have sofar : (log.guard.request errand).2.takenSoFar = log.guard.takenSoFar := by
    cases current : log.guard.current with
    | none =>
        rw [takenSoFar_of_current_eq_none current]
        exact takenSoFar_of_current_eq_none current
    | some sending =>
        obtain ⟨-, ticket, frame, line, standing, -⟩ := sound.underway sending current
        simp [takenSoFar, Guard.request, current, standing]
  refine ⟨?_, ?_, ?_, ?_, sound.fits, sound.isOpen_iff, sound.shut, sound.own⟩
  · show log.guard.sink.written = _ ++ (log.guard.request errand).2.takenSoFar
    rw [sofar]
    exact sound.written_eq
  · rw [tickets_eq]
    refine List.pairwise_append.2 ⟨sound.ordered, List.pairwise_singleton _ _, ?_⟩
    intro ticket member last same
    rw [List.mem_singleton.1 same]
    exact sound.given ticket member
  · rw [tickets_eq, List.forall_mem_append, List.forall_mem_singleton]
    exact ⟨fun ticket member => Nat.lt_succ_of_lt (sound.given ticket member), Nat.lt_succ_self _⟩
  · intro sending current
    obtain ⟨isOpen, ticket, frame, line, standing, frame_eq⟩ := sound.underway sending current
    refine ⟨isOpen, ticket, frame, line ++ [⟨log.guard.issued, errand⟩], ?_, ?_⟩
    · simp [happen, Guard.request, standing]
    · show frame = (log.guard.request errand).2.takenSoFar ++ sending.rest
      rw [sofar]
      exact frame_eq

/-- What the socket will do next with bytes and flushes is nobody's turn. -/
theorem of_sink (sound : log.Sound) {sink : Sink}
    (written : sink.written = log.guard.sink.written) :
    Sound { log with guard := { log.guard with sink } } :=
  ⟨written.trans sound.written_eq, sound.ordered, sound.given, sound.underway, sound.fits,
    sound.isOpen_iff, sound.shut, sound.own⟩

/-- Whoever gives up behind the head of the line leaves no trace. -/
theorem thin (sound : log.Sound) {head : Waiter} {line : List Waiter}
    (standing : log.guard.line = head :: line) (stays : Waiter → Bool) :
    Sound { log with guard := { log.guard with line := head :: line.filter stays } } := by
  have fewer : (tickets { log with
      guard := { log.guard with line := head :: line.filter stays } }).Sublist log.tickets := by
    simp only [tickets, standing]
    exact ((List.Sublist.refl _).append (List.filter_sublist.cons_cons _)).map _
  have sofar : takenSoFar { log.guard with line := head :: line.filter stays } =
      log.guard.takenSoFar := by
    obtain ⟨ticket, errand⟩ := head
    cases errand <;> cases current : log.guard.current <;> simp [takenSoFar, standing, current]
  refine ⟨?_, ?_, ?_, ?_, sound.fits, sound.isOpen_iff, sound.shut, sound.own⟩
  · rw [sofar]
    exact sound.written_eq
  · exact sound.ordered.sublist fewer
  · exact fun ticket member => sound.given ticket (fewer.subset member)
  · intro sending current
    obtain ⟨isOpen, ticket, frame, rest, line_eq, frame_eq⟩ := sound.underway sending current
    rw [standing] at line_eq
    cases line_eq
    exact ⟨isOpen, ticket, frame, _, rfl, by rw [sofar]; exact frame_eq⟩

/-- The head of the line gives up. What it has sent stays sent. -/
theorem give_up (sound : log.Sound) {head : Waiter} {line : List Waiter}
    (standing : log.guard.line = head :: line) : (log.finish log.guard.leave none).Sound := by
  obtain ⟨ticket, errand⟩ := head
  refine sound.finish standing ?_ (by simp [Guard.leave, standing]) rfl rfl rfl ?_ ?_ (by simp)
  · cases errand with
    | send frame => exact ⟨_, (sound.frame_eq standing 0).symm⟩
    | close =>
        show log.guard.takenSoFar = []
        simp only [takenSoFar, standing]
  · simp [Guard.leave, Turn.Shuts]
  · exact fun closed => ⟨sound.takenSoFar_of_closed closed, fun _ _ => Or.inl rfl⟩

theorem cancel (sound : log.Sound) (ticket : Ticket) : (log.happen (.cancel ticket)).Sound := by
  cases standing : log.guard.line with
  | nil => simpa [happen, Guard.cancel, standing] using sound
  | cons head line =>
      by_cases turn : head.ticket = ticket
      · simpa [happen, Guard.cancel, standing, turn] using sound.give_up standing
      · simpa [happen, Guard.cancel, standing, turn] using sound.thin standing _

theorem push (sound : log.Sound) {ticket : Ticket} {frame : Bytes} {line : List Waiter} {now : Nat}
    (standing : log.guard.line = ⟨ticket, .send frame⟩ :: line) (isOpen : log.guard.isOpen = true)
    (pushed : log.guard.Pushed (log.guard.current.getD ⟨now + log.guard.timeout, frame⟩)
      (log.guard.poll ticket now)) : (log.happen (.poll ticket now)).Sound := by
  have frame_eq := sound.frame_eq standing (now + log.guard.timeout)
  simp only [happen]
  generalize log.guard.current.getD ⟨now + log.guard.timeout, frame⟩ = sending at frame_eq pushed
  obtain ⟨deadline, rest⟩ := sending
  change frame = log.guard.takenSoFar ++ rest at frame_eq
  have unmoved :
      log.guard.line = ⟨ticket, .send (log.guard.takenSoFar ++ [] ++ rest)⟩ :: line := by
    rw [List.append_nil, ← frame_eq]
    exact standing
  have front : log.guard.takenSoFar <+: frame := ⟨rest, frame_eq.symm⟩
  generalize log.guard.poll ticket now = progress at pushed
  cases pushed with
  | whole done =>
      cases done
      refine sound.finish standing ?_ (by simp [Guard.leave, standing]) rfl rfl (by simp) ?_ ?_
        (by simp)
      · change log.guard.takenSoFar = frame
        rw [frame_eq, List.append_nil]
      · simp [Guard.leave, Turn.Shuts]
      · simp [isOpen]
  | @piece count more offer =>
      have moved : log.guard.line =
          ⟨ticket, .send (log.guard.takenSoFar ++ rest.take count ++ rest.drop count)⟩ :: line := by
        rw [List.append_assoc, List.take_append_drop, ← frame_eq]
        exact standing
      exact sound.go_on _ _ moved rfl rfl isOpen isOpen rfl (by simp)
  | stalled => exact sound.go_on _ _ unmoved rfl rfl isOpen isOpen rfl (by simp)
  | waits => exact sound
  | pauses => exact sound.go_on _ _ unmoved rfl rfl isOpen isOpen rfl (by simp)
  | fails early same flushing own =>
      refine sound.finish standing front (by simp [Guard.leave, standing]) rfl rfl same ?_ ?_ ?_
      · simp [Guard.leave, Turn.Shuts]
      · simp [isOpen]
      · simp [own]

theorem poll (sound : log.Sound) (ticket : Ticket) (now : Nat) :
    (log.happen (.poll ticket now)).Sound := by
  have polled := log.guard.polled ticket now
  generalize progress_eq : log.guard.poll ticket now = progress at polled
  cases polled with
  | waits => simpa [happen, progress_eq] using sound
  | shuts standing =>
      have idle : log.guard.takenSoFar = [] := by
        simp only [takenSoFar, standing]
      simp only [happen, progress_eq]
      refine sound.finish standing idle (by simp [Guard.leave, standing]) rfl rfl ?_ ?_ ?_ (by simp)
      · cases log.guard.isOpen <;> simp
      · simp [Turn.Shuts]
      · intro _
        exact ⟨idle, by simp⟩
  | refused standing shut =>
      have idle := sound.takenSoFar_of_closed shut
      simp only [happen, progress_eq]
      refine sound.finish standing ?_ (by simp [Guard.leave, standing]) rfl rfl rfl ?_ ?_ ?_
      · change log.guard.takenSoFar <+: _
        rw [idle]
        exact List.nil_prefix
      · simp [Guard.leave, Turn.Shuts]
      · intro _
        exact ⟨idle, by simp⟩
      · exact fun _ => shut
  | sends standing isOpen pushed =>
      rw [← progress_eq] at pushed
      exact sound.push standing isOpen pushed

theorem happen (sound : log.Sound) (incident : Incident) : (log.happen incident).Sound := by
  cases incident with
  | request errand => exact sound.request errand
  | poll ticket now => exact sound.poll ticket now
  | cancel ticket => exact sound.cancel ticket
  | setMode mode => exact sound.of_sink rfl
  | setFlush flushing => exact sound.of_sink rfl

end Log.Sound

theorem record_sound (timeout : Nat) (incidents : List Incident) :
    (record timeout incidents).Sound := by
  unfold record
  generalize start_eq : ({ guard := { timeout } } : Log) = start
  have sound : start.Sound := start_eq ▸ Log.Sound.start timeout
  clear start_eq
  induction incidents generalizing start with
  | nil => exact sound
  | cons incident incidents ih => exact ih _ (sound.happen incident)

/-! ### The wire -/

namespace Log.Sound

variable {log : Log}

/-- While a frame is on its way nobody else gets anywhere, and nobody who wants to close. -/
theorem alone (sound : log.Sound) {sending : Sending} (current : log.guard.current = some sending) :
    ∃ ticket frame line, log.guard.line = ⟨ticket, .send frame⟩ :: line ∧
      frame = log.guard.takenSoFar ++ sending.rest ∧
        ∀ other, other ≠ ticket → ∀ now, log.guard.poll other now = .waiting := by
  obtain ⟨-, ticket, frame, line, standing, frame_eq⟩ := sound.underway sending current
  refine ⟨ticket, frame, line, standing, frame_eq, fun other different now => ?_⟩
  by_contra moved
  obtain ⟨errand, rest, head⟩ := (log.guard.polled other now).head moved
  rw [standing] at head
  cases head
  exact different rfl

/-- At a closed socket every turn is over at once, and changes the line and nothing else. -/
theorem poll_of_closed (closed : log.guard.isOpen = false) {head : Waiter} {line : List Waiter}
    (standing : log.guard.line = head :: line) (now : Nat) :
    log.guard.poll head.ticket now = .finished log.guard.leave
      (match head.errand with
      | .send _ => .error .closed
      | .close => .ok ()) := by
  obtain ⟨ticket, errand⟩ := head
  cases errand with
  | send frame => simp [Guard.poll, standing, closed]
  | close =>
      have unchanged : { log.guard.leave with isOpen := false, sink := log.guard.sink } =
          log.guard.leave := by
        simp [Guard.leave, closed]
      simpa [Guard.poll, standing, closed] using unchanged

end Log.Sound

/-- Whatever the socket does with bytes and flushes, whoever asks and gives up, and in whatever
order: the wire has the bytes of the turns in the order of their tickets, each send that went well
with its whole frame, and those of the frame on its way, which nobody else can cut. Sends fail for
reasons of their own until the first close has had its turn; from then on no byte is written and
every turn is over at once. -/
theorem contiguous_until_closed (timeout : Nat) (incidents : List Incident) :
    let log := record timeout incidents
    log.guard.sink.written = log.turns.flatMap Turn.taken ++ log.guard.takenSoFar ∧
      (∀ turn ∈ log.turns, turn.Fits) ∧
      log.tickets.Pairwise (· < ·) ∧
      (∀ sending, log.guard.current = some sending →
        ∃ ticket frame line, log.guard.line = ⟨ticket, .send frame⟩ :: line ∧
          frame = log.guard.takenSoFar ++ sending.rest ∧
            ∀ other, other ≠ ticket → ∀ now, log.guard.poll other now = .waiting) ∧
      (∀ before turn after, log.turns = before ++ turn :: after →
        turn.outcome = some (.error .closed) → ∃ earlier ∈ before, earlier.Shuts) ∧
      ∀ before close after, log.turns = before ++ close :: after → close.Shuts →
        log.guard.sink.written = before.flatMap Turn.taken ∧
          (∀ turn ∈ after, turn.IsRefused) ∧
          ∀ head line now, log.guard.line = head :: line →
            log.guard.poll head.ticket now = .finished log.guard.leave
              (match head.errand with
              | .send _ => .error .closed
              | .close => .ok ()) := by
  intro log
  have sound : log.Sound := record_sound timeout incidents
  refine ⟨sound.written_eq, sound.fits, sound.ordered, fun sending => sound.alone, sound.own, ?_⟩
  intro before close after split shuts
  have closed : log.guard.isOpen = false := by
    rw [← Bool.not_eq_true, sound.isOpen_iff]
    intro unshut
    exact unshut close (by simp [split]) shuts
  have refused : ∀ turn ∈ after, turn.IsRefused := by
    have shut := sound.shut
    rw [split] at shut
    exact fun turn member =>
      (List.pairwise_cons.1 (List.pairwise_append.1 shut).2.1).1 turn member shuts
  have silent : close.taken = [] := by
    have fits := sound.fits close (by simp [split])
    rw [Turn.Fits, shuts.1, shuts.2] at fits
    exact fits
  refine ⟨?_, refused, fun head line now standing => Log.Sound.poll_of_closed closed standing now⟩
  rw [sound.written_eq, sound.takenSoFar_of_closed closed, split, List.append_nil,
    List.flatMap_append, List.flatMap_cons, silent, List.nil_append,
    List.flatMap_eq_nil_iff.2 fun turn member => (refused turn member).1, List.append_nil]

/-- Two send at once on a socket that takes one byte at a time, a third closes it, and a fourth
comes too late. -/
def fourClones : List Incident :=
  [.request (.send [1, 2]), .request (.send [3, 4]), .request .close, .request (.send [5]),
    .setMode (.pieces 1 false), .poll 0 0, .poll 1 0, .poll 2 0, .poll 0 0, .poll 0 0, .poll 1 0,
    .setMode .refuse, .poll 1 0, .poll 2 0, .poll 3 0]

theorem contiguous_until_closed_of_four_clones :
    (record 5 fourClones).guard.sink.written = [1, 2] ++ [3] ∧
      ∀ turn ∈ (record 5 fourClones).turns.drop 3, turn.IsRefused := by
  have final := (contiguous_until_closed 5 fourClones).2.2.2.2.2
    [⟨⟨0, .send [1, 2]⟩, [1, 2], some (.ok ())⟩,
      ⟨⟨1, .send [3, 4]⟩, [3], some (.error .nothingTaken)⟩]
    ⟨⟨2, .close⟩, [], some (.ok ())⟩ [⟨⟨3, .send [5]⟩, [], some (.error .closed)⟩] rfl ⟨rfl, rfl⟩
  exact ⟨final.1, final.2.1⟩

end Guard

end UsbExport.Socket

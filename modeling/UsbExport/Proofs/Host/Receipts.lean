import UsbExport.Proofs.Host.Places
import UsbExport.Proofs.Socket.Deliveries

/-!
What reached the sockets of a server. The turns that the notes of a run tell the end of are, socket
by socket and in order, the deliveries of the socket; so a frame that was sent is on the wire, and
nothing is sent after a close.
-/

namespace UsbExport

open Dispatch Socket

namespace Socket.Guard

/-- A socket that was closed takes no frame. -/
theorem isOpen_of_sent {guard next : Guard} {ticket : Ticket} {frame : Bytes}
    {line : List Waiter} {now : Nat} {result : Except SendError Unit}
    (standing : guard.line = ⟨ticket, .send frame⟩ :: line)
    (finished : guard.poll ticket now = .finished next result) (sent : result.isOk = true) :
    guard.isOpen = true := by
  have polled := guard.polled ticket now
  rw [finished] at polled
  cases polled with
  | shuts standing' => simp [standing] at standing'
  | refused => cases sent
  | sends _ isOpen => exact isOpen

theorem Serves.moved {timeout : Nat} {errands : List Errand} {deliveries : List Delivery}
    {guard next : Guard} (serves : Serves timeout errands deliveries guard) {ticket : Ticket}
    {now : Nat}
    (moved : guard.poll ticket now = .advanced next ∨ guard.poll ticket now = .paused next) :
    Serves timeout errands deliveries next := by
  rcases moved with moved | moved
  · exact serves.advance moved
  · simpa [delivery?, Event.errand?, Guard.happen, moved] using serves.step (.poll ticket now)

end Socket.Guard

namespace Host

variable {Handle : Type}

/-- What became of the errands at a socket whose turns the notes tell the end of. -/
def outcomesAt (host : Host Handle) (link : LinkId) (notes : List Note) : List (Errand × Bool) :=
  (notes.filterMap (Note.outcome? host)).filterMap fun outcome =>
    if outcome.1 = link then some outcome.2 else none

theorem mem_outcomesAt {host : Host Handle} {link : LinkId} {notes : List Note}
    {outcome : Errand × Bool} : outcome ∈ outcomesAt host link notes ↔
      ∃ note ∈ notes, note.outcome? host = some (link, outcome) := by
  constructor
  · intro member
    obtain ⟨⟨other, same⟩, told, here⟩ := List.mem_filterMap.1 member
    obtain ⟨rfl, rfl⟩ : other = link ∧ same = outcome := by simpa using here
    exact List.mem_filterMap.1 told
  · rintro ⟨note, member, told⟩
    exact List.mem_filterMap.2 ⟨_, List.mem_filterMap.2 ⟨note, member, told⟩, if_pos rfl⟩

theorem outcomesAt_append (host : Host Handle) (link : LinkId) (notes : List Note)
    (note : Option Note) :
    outcomesAt host link (notes ++ note.toList) = outcomesAt host link notes ++
      ((note.bind (Note.outcome? host)).bind fun outcome =>
        if outcome.1 = link then some outcome.2 else none).toList := by
  rw [outcomesAt, filterMap_append_toList, filterMap_append_toList]
  rfl

theorem outcomesAt_of_told {host : Host Handle} {note : Note} {link : LinkId}
    {outcome : Errand × Bool} (told : note.outcome? host = some (link, outcome))
    (front back : List Note) : outcomesAt host link (front ++ note :: back) =
      outcomesAt host link front ++ outcome :: outcomesAt host link back := by
  simp [outcomesAt, told]

theorem outcome?_congr {host host' : Host Handle} (device_eq : host'.device = host.device) :
    Note.outcome? host' = Note.outcome? host := by
  funext note
  unfold Note.outcome?
  split <;> simp [importReply, device_eq]

theorem DeskStep.device_eq {before after : Desk} {note : Option Note}
    (step : DeskStep before note after) :
    after.device = before.device ∧ after.interfaces = before.interfaces := by
  cases step <;> exact ⟨rfl, rfl⟩

theorem outcomesAt_congr {host host' : Host Handle} (device_eq : host'.device = host.device)
    (link : LinkId) (notes : List Note) :
    outcomesAt host' link notes = outcomesAt host link notes := by
  rw [outcomesAt, outcomesAt, outcome?_congr device_eq]

/-- The deliveries of every socket are those that the notes tell of. -/
structure Receipts (notes : List Note) (system : System (Host Handle)) : Prop where
  served : ∀ (link : LinkId) (guard : Guard), (guards system)[link]? = some guard →
    ∃ timeout errands deliveries, Guard.Serves timeout errands deliveries guard ∧
      deliveries.map (fun delivery => (delivery.errand, delivery.succeeded)) =
        outcomesAt system.executor link notes
  known : ∀ outcome ∈ notes.filterMap (Note.outcome? system.executor),
    outcome.1 < (guards system).length

namespace Receipts

variable {notes : List Note} {note : Option Note} {system next : System (Host Handle)}
  {outcome : Option (LinkId × Errand × Bool)}

theorem outcomesAt_next (device_eq : next.executor.device = system.executor.device)
    (told : note.bind (Note.outcome? system.executor) = outcome) (link : LinkId) :
    outcomesAt next.executor link (notes ++ note.toList) =
      outcomesAt system.executor link notes ++ (outcome.bind fun outcome =>
        if outcome.1 = link then some outcome.2 else none).toList := by
  rw [← told, ← outcomesAt_append, outcomesAt, outcomesAt, outcome?_congr device_eq]

theorem outcomes_next (device_eq : next.executor.device = system.executor.device)
    (told : note.bind (Note.outcome? system.executor) = outcome) :
    (notes ++ note.toList).filterMap (Note.outcome? next.executor) =
      notes.filterMap (Note.outcome? system.executor) ++ outcome.toList := by
  rw [outcome?_congr device_eq, List.filterMap_append, ← told]
  cases note with
  | none => rfl
  | some note => cases said : note.outcome? system.executor <;> simp [said]

/-- One socket changes, and what it delivers goes with what is noted. -/
theorem of_set (receipts : Receipts notes system)
    (device_eq : next.executor.device = system.executor.device)
    (told : note.bind (Note.outcome? system.executor) = outcome) {link : LinkId}
    {guard guard' : Guard} (guard_eq : (guards system)[link]? = some guard)
    (guards_eq : guards next = (guards system).set link guard')
    (here : ∀ timeout errands deliveries, Guard.Serves timeout errands deliveries guard →
      ∃ errands' deliveries', Guard.Serves timeout errands' deliveries' guard' ∧
        deliveries'.map (fun delivery => (delivery.errand, delivery.succeeded)) =
          deliveries.map (fun delivery => (delivery.errand, delivery.succeeded)) ++
            (outcome.map (·.2)).toList)
    (elsewhere : ∀ result ∈ outcome, result.1 = link) :
    Receipts (notes ++ note.toList) next := by
  have short := (List.getElem?_eq_some_iff.1 guard_eq).1
  have noted (other : LinkId) : (outcome.bind fun outcome =>
      if outcome.1 = other then some outcome.2 else none) =
        if link = other then outcome.map (·.2) else none := by
    cases outcome with
    | none => simp
    | some result =>
        obtain rfl := elsewhere result rfl
        rfl
  refine ⟨fun other found found_eq => ?_, fun result member => ?_⟩
  · rw [guards_eq] at found_eq
    rw [outcomesAt_next device_eq told, noted]
    by_cases same : link = other
    · subst same
      rw [List.getElem?_set_self short] at found_eq
      obtain rfl := Option.some.inj found_eq
      obtain ⟨timeout, errands, deliveries, serves, eq⟩ := receipts.served link guard guard_eq
      obtain ⟨errands', deliveries', serves', eq'⟩ := here timeout errands deliveries serves
      exact ⟨timeout, errands', deliveries', serves', by rw [eq', eq, if_pos rfl]⟩
    · rw [List.getElem?_set_ne same] at found_eq
      rw [if_neg same, Option.toList_none, List.append_nil]
      exact receipts.served other found found_eq
  · rw [outcomes_next device_eq told, List.mem_append, Option.mem_toList] at member
    rw [guards_eq, List.length_set]
    rcases member with member | member
    · exact receipts.known result member
    · rw [elsewhere result member]
      exact short

/-- Nothing is noted of the sockets that there are, and those that come have delivered nothing. -/
theorem of_append (receipts : Receipts notes system)
    (device_eq : next.executor.device = system.executor.device)
    (told : note.bind (Note.outcome? system.executor) = none) {fresh : List Guard}
    (guards_eq : guards next = guards system ++ fresh)
    (start : ∀ guard ∈ fresh, ∃ timeout, Guard.Serves timeout [] [] guard) :
    Receipts (notes ++ note.toList) next := by
  have at_eq (link : LinkId) : outcomesAt next.executor link (notes ++ note.toList) =
      outcomesAt system.executor link notes := by simp [outcomesAt_next device_eq told]
  have all_eq : (notes ++ note.toList).filterMap (Note.outcome? next.executor) =
      notes.filterMap (Note.outcome? system.executor) := by simp [outcomes_next device_eq told]
  refine ⟨fun link guard guard_eq => ?_, fun outcome member => ?_⟩
  · rw [guards_eq] at guard_eq
    rw [at_eq]
    by_cases old : link < (guards system).length
    · rw [List.getElem?_append_left old] at guard_eq
      exact receipts.served link guard guard_eq
    · rw [List.getElem?_append_right (Nat.le_of_not_lt old)] at guard_eq
      obtain ⟨timeout, serves⟩ := start guard (List.mem_of_getElem? guard_eq)
      refine ⟨timeout, [], [], serves, (List.filterMap_eq_nil_iff.2 fun outcome member => ?_).symm⟩
      refine if_neg ?_
      rintro rfl
      exact old (receipts.known outcome member)
  · rw [guards_eq, List.length_append]
    exact Nat.lt_add_right _ (receipts.known outcome (all_eq ▸ member))

theorem step (receipts : Receipts notes system) (lines : Lines system)
    (device_eq : next.executor.device = system.executor.device)
    (step : LineStep system next (note.bind (Note.outcome? system.executor))) :
    Receipts (notes ++ note.toList) next := by
  generalize told : note.bind (Note.outcome? system.executor) = outcome at step
  cases step with
  | rests places_perm guards_eq =>
      exact receipts.of_append device_eq told (guards_eq.trans (List.append_nil _).symm) (by simp)
  | opens places_perm guards_eq =>
      refine receipts.of_append device_eq told guards_eq fun guard member => ?_
      obtain rfl := List.mem_singleton.1 member
      exact ⟨_, .start⟩
  | tunes guard_eq mode places_perm guards_eq =>
      exact receipts.of_set device_eq told guard_eq guards_eq
        (fun _ errands deliveries serves => ⟨errands, deliveries, serves.setMode mode, by simp⟩)
        (by simp)
  | stands guard_eq errand places_perm guards_eq =>
      refine receipts.of_set device_eq told guard_eq guards_eq
        (fun _ errands deliveries serves => ?_) (by simp)
      exact ⟨errands ++ [errand], deliveries,
        by simpa [Guard.delivery?, Guard.Event.errand?, Guard.happen] using
          serves.step (.request errand), by simp⟩
  | turns guard_eq polled places_perm guards_eq =>
      exact receipts.of_set device_eq told guard_eq guards_eq
        (fun _ errands deliveries serves => ⟨errands, deliveries, serves.moved polled, by simp⟩)
        (by simp)
  | @leaves link guard guard' guard_eq ticket errand now result polled places_perm guards_eq =>
      refine receipts.of_set device_eq told guard_eq guards_eq
        (fun _ errands deliveries serves => ?_) (by simp)
      obtain ⟨line, standing⟩ := lines.head
        (places_perm.mem_iff.2 (List.mem_cons_self ..)) guard_eq polled
      exact ⟨errands, _, serves.finish standing polled, by simp⟩

/-- A frame that was sent is on the wire. -/
theorem written (receipts : Receipts notes system) {note : Note} (member : note ∈ notes)
    {link : LinkId} {frame : Bytes}
    (sent : note.outcome? system.executor = some (link, .send frame, true)) :
    ∃ guard, (guards system)[link]? = some guard ∧ frame <:+: guard.sink.written := by
  have short : link < (guards system).length :=
    receipts.known _ (List.mem_filterMap.2 ⟨note, member, sent⟩)
  have guard_eq := List.getElem?_eq_getElem short
  refine ⟨_, guard_eq, ?_⟩
  obtain ⟨timeout, errands, deliveries, serves, eq⟩ := receipts.served link _ guard_eq
  have told : (Errand.send frame, true) ∈ outcomesAt system.executor link notes :=
    mem_outcomesAt.2 ⟨note, member, sent⟩
  rw [← eq] at told
  obtain ⟨⟨errand, taken, succeeded⟩, delivered, same⟩ := List.mem_map.1 told
  obtain ⟨rfl, rfl⟩ : errand = .send frame ∧ succeeded = true := by simpa using same
  have accounts := serves.accounts
  obtain rfl : taken = frame := accounts.fits _ delivered
  obtain ⟨before, after, split⟩ := List.append_of_mem delivered
  rw [accounts.written_eq, split]
  exact ⟨before.flatMap Delivery.taken,
    after.flatMap Delivery.taken ++ (guards system)[link].takenSoFar, by simp⟩

/-- A socket is open until its close has had its turn. -/
theorem isOpen_iff (receipts : Receipts notes system) {link : LinkId} {guard : Guard}
    (guard_eq : (guards system)[link]? = some guard) :
    guard.isOpen = true ↔
      ∀ succeeded, (Errand.close, succeeded) ∉ outcomesAt system.executor link notes := by
  obtain ⟨timeout, errands, deliveries, serves, eq⟩ := receipts.served link guard guard_eq
  rw [serves.accounts.isOpen_iff, ← eq]
  simp only [List.mem_map, not_exists, not_and, Prod.mk.injEq]
  constructor
  · exact fun unclosed _ delivery member same => (unclosed delivery member same).elim
  · exact fun unclosed delivery member same => unclosed delivery.succeeded delivery member same rfl

/-- What a client's socket has taken, it also hands on. -/
theorem flushing (receipts : Receipts notes system) {guard : Guard}
    (member : guard ∈ guards system) : guard.sink.flushing = .done := by
  obtain ⟨link, guard_eq⟩ := List.mem_iff_getElem?.1 member
  obtain ⟨timeout, errands, deliveries, serves, -⟩ := receipts.served link guard guard_eq
  exact serves.accounts.flushing

end Receipts

namespace Chronicle

variable [UsbHandle Handle] {start server : Server (Host Handle)} {notes before after : List Note}

theorem device_eq (chronicle : Chronicle start notes server) :
    server.system.executor.device = start.system.executor.device := by
  induction chronicle with
  | start => rfl
  | step _ event happened ih => exact (step_deskStep happened).device_eq.1.trans ih

theorem lines (chronicle : Chronicle start notes server) (fresh : Fresh start) :
    Lines server.system := by
  induction chronicle with
  | start => exact ⟨by simp [guards, fresh.unlinked], by
      simp [places, fresh.unvisited, loopPlace?, fresh.idle, workerPlaces, fresh.unemployed]⟩
  | step chronicle event happened ih =>
      exact ih.step (step_lineStep (chronicle.linked fresh) ih happened)

theorem receipts (chronicle : Chronicle start notes server) (fresh : Fresh start) :
    Receipts notes server.system := by
  induction chronicle with
  | start => exact ⟨by simp [guards, fresh.unlinked], by simp⟩
  | step chronicle event happened ih =>
      have lines := chronicle.lines fresh
      exact ih.step lines (step_deskStep happened).device_eq.1
        (step_lineStep (chronicle.linked fresh) lines happened)

end Chronicle

end Host

end UsbExport

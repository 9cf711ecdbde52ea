import UsbExport.Proofs.Host.Asking
import UsbExport.Proofs.Host.Visits

/-!
Where a control request comes from. Whatever waits for the executor or is in its hands was asked by
a session, each request has a slot of its own, and a session that waits has asked for what it waits
for; so an answer can only be the answer to that request.
-/

namespace UsbExport.Host

open Dispatch Socket

variable {Handle : Type}

/-- The note that a session asked for something. -/
def Note.ofAsked (request : ControlRequest) : Note := .deed (.session request.reply (.asked request))

/-- A request was asked. -/
def Asked (notes : List Note) (request : ControlRequest) : Prop := .ofAsked request ∈ notes

theorem asked_append {notes : List Note} {note : Option Note} {request : ControlRequest} :
    Asked (notes ++ note.toList) request ↔ Asked notes request ∨ note = some (.ofAsked request) := by
  simp only [Asked, List.mem_append, Option.mem_toList]

theorem Note.unasked_of_aside {note : Option Note} (aside : ∀ what ∈ note, what.IsAside)
    (request : ControlRequest) : note ≠ some (.ofAsked request) := by
  rintro rfl
  exact aside _ rfl

/-- The request that the executor has in hand. -/
def LoopStage.Handles (request : ControlRequest) : LoopStage → Prop
  | .listing version link slot _ =>
      ∃ header status, header.version = version ∧
        request = ⟨header, .deviceList status slot, link⟩
  | .listed slot => ∃ header status link, request = ⟨header, .deviceList status slot, link⟩
  | .importing order _ =>
      ∃ header body, header.version = order.version ∧ body.busId = order.busId ∧
        request = ⟨header, .importDevice body order.confirm, order.reply⟩
  | _ => False

theorem LoopStage.handles_ofRequest {request : ControlRequest} {slot : SlotId}
    (slot_eq : (ofRequest request).slot? = some slot) : (ofRequest request).Handles request := by
  obtain ⟨header, command, link⟩ := request
  cases command with
  | deviceList status replied => exact ⟨header, status, rfl, rfl⟩
  | importDevice body confirm => exact ⟨header, body, rfl, rfl, rfl⟩
  | unknown => cases slot_eq

theorem LoopStage.Handles.slot_eq {loop : LoopStage} {request : ControlRequest}
    (handles : loop.Handles request) : request.command.slot? = loop.slot? := by
  unfold Handles at handles
  split at handles
  · obtain ⟨header, status, -, rfl⟩ := handles
    rfl
  · obtain ⟨header, status, link, rfl⟩ := handles
    rfl
  · obtain ⟨header, body, -, -, rfl⟩ := handles
    rfl
  · exact handles.elim

/-- The slots of the requests in hand and of those that wait, in order. -/
def Desk.pending (desk : Desk) : List SlotId :=
  desk.loop.slot?.toList ++ desk.queue.filterMap (·.command.slot?)

theorem Desk.slot?_eq_none {desk : Desk} (none_left : desk.pending = []) :
    desk.loop.slot? = none := by
  rw [pending, List.append_eq_nil_iff, Option.toList_eq_nil_iff] at none_left
  exact none_left.1

/-- Nothing is left to answer while a session has the device or an answer that it has not seen. -/
structure Settled (desk : Desk) : Prop where
  busy : ∀ visit, desk.visit = some visit → visit.session.phase = .busy → desk.pending = []
  given : ∀ visit, desk.visit = some visit → ∀ slot deadline, visit.wait = .answer slot deadline →
    ∀ yes, desk.slots[slot]? = some (.given yes) → desk.pending = []

theorem Asks.isSettled {system : System (Host Handle)} (asks : Asks system) :
    Settled (desk system) := by
  refine ⟨asks.settled, fun visit visit_eq slot deadline wait_eq yes given => ?_⟩
  refine (asks.asked_last visit visit_eq slot deadline wait_eq).resolve_right fun last => ?_
  have unanswered := asks.unanswered slot (List.mem_of_getLast? last)
  cases (show _ = some (Slot.given yes) from given).symm.trans unanswered

/-- An answer that is there after a step was there before, or is given to the request in hand. -/
theorem DeskStep.given_or {before after : Desk} {note : Option Note}
    (step : DeskStep before note after) {slot : SlotId} {yes : Bool}
    (given : after.slots[slot]? = some (.given yes)) :
    before.slots[slot]? = some (.given yes) ∨
      (∃ order, before.loop = .importing order (.confirming yes) ∧ order.confirm = slot ∧
        after = { before.answer slot yes with loop := .idle }) ∨
      before.loop = .listed slot ∧ yes = true := by
  have answered {other : SlotId} {yes' : Bool}
      (given : (before.answer other yes').slots[slot]? = some (.given yes)) :
      before.slots[slot]? = some (.given yes) ∨ other = slot ∧ yes' = yes := by
    simp only [Desk.answer, List.getElem?_modify] at given
    cases found : before.slots[slot]? with
    | none => simp [found] at given
    | some answer =>
        by_cases same : other = slot
        · cases answer with
          | «open» => exact Or.inr ⟨same, by simpa [found, same] using given⟩
          | given answer => exact Or.inl (by simpa [found, same] using given)
          | lost => simp [found, same] at given
        · exact Or.inl (by simpa [found, same] using given)
  cases step with
  | @asks visit visit_eq header command posting =>
      left
      have given : (before.slots ++ (command.slot?.map fun _ => Slot.open).toList)[slot]? =
          some (.given yes) := given
      rw [List.getElem?_append] at given
      split at given
      · exact given
      · cases found : command.slot? <;> simp [found, List.getElem?_singleton] at given
  | listAnswers loop_eq =>
      rcases answered given with old | ⟨rfl, rfl⟩
      · exact Or.inl old
      · exact Or.inr (Or.inr ⟨loop_eq, rfl⟩)
  | @confirms order accepted loop_eq =>
      rcases answered given with old | ⟨rfl, rfl⟩
      · exact Or.inl old
      · exact Or.inr (Or.inl ⟨order, loop_eq, rfl, rfl⟩)
  | _ => exact Or.inl given

/-- Every request at the desk was asked, and every slot belongs to one request. -/
structure Provenance (notes : List Note) (desk : Desk) : Prop where
  short : ∀ request, Asked notes request → ∀ slot ∈ request.command.slot?, slot < desk.slots.length
  single : ∀ request, Asked notes request → ∀ other, Asked notes other →
    ∀ slot ∈ request.command.slot?, slot ∈ other.command.slot? → request = other
  queued : ∀ request ∈ desk.queue, Asked notes request
  handled : ∀ slot ∈ desk.loop.slot?, ∃ request, Asked notes request ∧ desk.loop.Handles request
  awaited : ∀ visit, desk.visit = some visit → visit.session.stage.awaits = true →
    ∀ slot deadline, visit.wait = .answer slot deadline → ∃ request, Asked notes request ∧
      request.reply = visit.link ∧ request.command.slot? = some slot ∧
        visit.session.stage.Expects request.command

namespace Provenance

variable {notes : List Note} {before after : Desk} {note : Option Note}

theorem awaited_step (provenance : Provenance notes before) (step : DeskStep before note after) :
    ∀ visit, after.visit = some visit → visit.session.stage.awaits = true →
      ∀ slot deadline, visit.wait = .answer slot deadline → ∃ request,
        Asked (notes ++ note.toList) request ∧ request.reply = visit.link ∧
          request.command.slot? = some slot ∧ visit.session.stage.Expects request.command := by
  intro visit visit_eq awaits slot deadline wait_eq
  rcases step.visitStep.awaited visit_eq awaits wait_eq with
    ⟨earlier, deadline', eq, link_eq, session_eq, wait_eq'⟩ |
      ⟨-, -, -, request, note_eq, reply_eq, facts⟩
  · obtain ⟨request, asked, facts⟩ :=
      provenance.awaited earlier eq (by rwa [session_eq]) slot deadline' wait_eq'
    rw [link_eq, session_eq] at facts
    exact ⟨request, asked_append.2 (Or.inl asked), facts⟩
  · refine ⟨request, asked_append.2 (Or.inr ?_), reply_eq, facts⟩
    rw [note_eq, Note.ofAsked, reply_eq]

/-- The session asks for one thing more, with a slot of its own. -/
theorem ask (provenance : Provenance notes before) (request : ControlRequest)
    (new : ∀ slot ∈ request.command.slot?,
      slot = before.slots.length ∧ after.slots.length = before.slots.length + 1)
    (slots : before.slots.length ≤ after.slots.length)
    (queue_eq : after.queue = before.queue ++ [request]) (loop_eq : after.loop = before.loop)
    (awaited : ∀ visit, after.visit = some visit → visit.session.stage.awaits = true →
      ∀ slot deadline, visit.wait = .answer slot deadline →
        ∃ other, Asked (notes ++ [.ofAsked request]) other ∧ other.reply = visit.link ∧
          other.command.slot? = some slot ∧ visit.session.stage.Expects other.command) :
    Provenance (notes ++ [.ofAsked request]) after := by
  have asked_iff (other : ControlRequest) :
      Asked (notes ++ [.ofAsked request]) other ↔ Asked notes other ∨ other = request := by
    rw [Asked, List.mem_append, List.mem_singleton]
    refine or_congr_right ⟨fun same => ?_, fun same => by rw [same]⟩
    simp only [Note.ofAsked, Note.deed.injEq, Deed.session.injEq, Session.Deed.asked.injEq] at same
    exact same.2
  have apart {other : ControlRequest} (asked : Asked notes other) {slot : SlotId}
      (mem : slot ∈ other.command.slot?) (mem' : slot ∈ request.command.slot?) : False := by
    have short := provenance.short other asked slot mem
    rw [(new slot mem').1] at short
    exact Nat.lt_irrefl _ short
  refine ⟨fun other asked slot mem => ?_, fun first asked second asked' slot mem mem' => ?_,
    fun other member => ?_, fun slot mem => ?_, awaited⟩
  · rcases (asked_iff other).1 asked with asked | rfl
    · exact Nat.lt_of_lt_of_le (provenance.short other asked slot mem) slots
    · obtain ⟨slot_eq, length_eq⟩ := new slot mem
      rw [slot_eq, length_eq]
      exact Nat.lt_succ_self _
  · rcases (asked_iff first).1 asked with old | rfl <;>
      rcases (asked_iff second).1 asked' with old' | rfl
    · exact provenance.single first old second old' slot mem mem'
    · exact (apart old mem mem').elim
    · exact (apart old' mem' mem).elim
    · rfl
  · rw [queue_eq, List.mem_append, List.mem_singleton] at member
    exact (asked_iff other).2 (member.imp_left (provenance.queued other))
  · rw [loop_eq] at mem ⊢
    obtain ⟨other, asked, handles⟩ := provenance.handled slot mem
    exact ⟨other, (asked_iff other).2 (Or.inl asked), handles⟩

/-- Nothing is asked, and the executor has in hand what it had or took. -/
theorem goOn (provenance : Provenance notes before)
    (unasked : ∀ request, note ≠ some (.ofAsked request))
    (slots : before.slots.length ≤ after.slots.length)
    (queued : ∀ request ∈ after.queue, request ∈ before.queue)
    (handled : ∀ slot ∈ after.loop.slot?, ∃ request, Asked notes request ∧
      after.loop.Handles request)
    (awaited : ∀ visit, after.visit = some visit → visit.session.stage.awaits = true →
      ∀ slot deadline, visit.wait = .answer slot deadline →
        ∃ other, Asked (notes ++ note.toList) other ∧ other.reply = visit.link ∧
          other.command.slot? = some slot ∧ visit.session.stage.Expects other.command) :
    Provenance (notes ++ note.toList) after := by
  have asked_iff (request : ControlRequest) :
      Asked (notes ++ note.toList) request ↔ Asked notes request :=
    asked_append.trans (or_iff_left (unasked request))
  refine ⟨fun request asked slot mem => ?_, fun request asked other asked' => ?_,
    fun request member => ?_, fun slot mem => ?_, awaited⟩
  · exact Nat.lt_of_lt_of_le
      (provenance.short request ((asked_iff request).1 asked) slot mem) slots
  · exact provenance.single request ((asked_iff request).1 asked) other ((asked_iff other).1 asked')
  · exact (asked_iff request).2 (provenance.queued request (queued request member))
  · obtain ⟨request, asked, handles⟩ := handled slot mem
    exact ⟨request, (asked_iff request).2 asked, handles⟩

theorem step (provenance : Provenance notes before) (step : DeskStep before note after) :
    Provenance (notes ++ note.toList) after := by
  have awaited := provenance.awaited_step step
  have imports {order : ImportOrder} {stage : ImportStage}
      (loop_eq : before.loop = .importing order stage) {stage' : ImportStage} :
      ∀ slot ∈ (LoopStage.importing order stage').slot?, ∃ request, Asked notes request ∧
        (LoopStage.importing order stage').Handles request := by
    obtain ⟨request, asked, handles⟩ := provenance.handled order.confirm (by rw [loop_eq]; rfl)
    rw [loop_eq] at handles
    exact fun _ _ => ⟨request, asked, handles⟩
  cases step with
  | @asks visit visit_eq header command posting =>
      refine provenance.ask ⟨header, command, visit.link⟩ (fun slot mem => ?_) (by simp) rfl rfl
        awaited
      have slot_eq : command.slot? = some slot := mem
      rcases (Session.Stage.phase_of_request? posting).2 with none_eq | some_eq
      · rw [none_eq] at slot_eq
        cases slot_eq
      · exact ⟨Option.some.inj (slot_eq.symm.trans some_eq), by simp [slot_eq]⟩
  | @takes request queue idle queue_eq =>
      refine provenance.goOn (by simp) (Nat.le_refl _)
        (fun other member => by rw [queue_eq]; exact .tail _ member)
        (fun slot mem => ⟨request, provenance.queued request (by simp [queue_eq]), ?_⟩) awaited
      exact LoopStage.handles_ofRequest mem
  | @listStands version link slot loop_eq ticket =>
      obtain ⟨request, asked, handles⟩ := provenance.handled slot (by rw [loop_eq]; rfl)
      rw [loop_eq] at handles
      exact provenance.goOn (by simp) (Nat.le_refl _) (fun _ => id)
        (fun _ _ => ⟨request, asked, handles⟩) awaited
  | @lists version link slot ticket loop_eq succeeded =>
      obtain ⟨request, asked, handles⟩ := provenance.handled slot (by rw [loop_eq]; rfl)
      rw [loop_eq] at handles
      obtain ⟨header, status, -, rfl⟩ := handles
      exact provenance.goOn (by simp [Note.ofAsked]) (Nat.le_refl _) (fun _ => id)
        (fun _ _ => ⟨_, asked, header, status, link, rfl⟩) awaited
  | listAnswers loop_eq =>
      exact provenance.goOn (by simp) (by simp [Desk.answer]) (fun _ => id)
        (fun _ mem => nomatch mem) awaited
  | confirms loop_eq =>
      exact provenance.goOn (by simp) (by simp [Desk.answer]) (fun _ => id)
        (fun _ mem => nomatch mem) awaited
  | @goesOn order stage stage' loop_eq bid_eq =>
      refine provenance.goOn (fun request => ?_) (Nat.le_refl _) (fun _ => id) (imports loop_eq)
        awaited
      cases stage <;> simp [ImportStage.deed?, Note.ofAsked]
  | passes loop_eq named free =>
      exact provenance.goOn (by simp) (Nat.le_refl _) (fun _ => id) (imports loop_eq) awaited
  | refuses loop_eq taken =>
      exact provenance.goOn (by simp) (Nat.le_refl _) (fun _ => id) (imports loop_eq) awaited
  | unclaimable loop_eq passed =>
      exact provenance.goOn (by simp) (Nat.le_refl _) (fun _ => id) (imports loop_eq) awaited
  | records loop_eq =>
      exact provenance.goOn (by simp [Note.ofAsked]) (Nat.le_refl _) (fun _ => id)
        (imports loop_eq) awaited
  | marks loop_eq =>
      exact provenance.goOn (by simp [Note.ofAsked]) (Nat.le_refl _) (fun _ => id)
        (imports loop_eq) awaited
  | replies loop_eq succeeded =>
      exact provenance.goOn (by simp [Note.ofAsked]) (Nat.le_refl _) (fun _ => id)
        (imports loop_eq) awaited
  | unmarks loop_eq =>
      exact provenance.goOn (by simp) (Nat.le_refl _) (fun _ => id) (imports loop_eq) awaited
  | unclaims loop_eq =>
      exact provenance.goOn (by simp [Note.ofAsked]) (Nat.le_refl _) (fun _ => id)
        (imports loop_eq) awaited
  | works visit_eq working answer aside =>
      exact provenance.goOn (Note.unasked_of_aside aside) (Nat.le_refl _) (fun _ => id)
        provenance.handled awaited
  | aside aside =>
      exact provenance.goOn (Note.unasked_of_aside aside) (Nat.le_refl _) (fun _ => id)
        provenance.handled awaited
  | _ =>
      exact provenance.goOn (by simp [Note.ofAsked]) (Nat.le_refl _) (fun _ => id)
        provenance.handled awaited

/-- The import in hand is the one that a session waits for. -/
theorem reply_eq (provenance : Provenance notes before) {order : ImportOrder} {stage : ImportStage}
    (loop_eq : before.loop = .importing order stage) {visit : Visit}
    (visit_eq : before.visit = some visit) (awaits : visit.session.stage.awaits = true)
    {deadline : Option Nat} (wait_eq : visit.wait = .answer order.confirm deadline) :
    order.reply = visit.link := by
  obtain ⟨request, asked, handles⟩ := provenance.handled order.confirm (by rw [loop_eq]; rfl)
  obtain ⟨other, asked', reply_eq, slot_eq, -⟩ :=
    provenance.awaited visit visit_eq awaits order.confirm deadline wait_eq
  have slot_eq' : request.command.slot? = some order.confirm := by
    rw [handles.slot_eq, loop_eq]
    rfl
  obtain rfl := provenance.single request asked other asked' order.confirm slot_eq' slot_eq
  rw [loop_eq] at handles
  obtain ⟨header, body, -, -, rfl⟩ := handles
  exact reply_eq

end Provenance

theorem Chronicle.provenance [UsbHandle Handle] {start server : Server (Host Handle)}
    {notes : List Note} (chronicle : Chronicle start notes server) (fresh : Fresh start) :
    Provenance notes (desk server.system) := by
  induction chronicle with
  | start =>
      refine ⟨by simp [Asked], by simp [Asked], ?_, ?_, ?_⟩
      · simp [desk, fresh.unposted.2]
      · simp [desk, fresh.idle, LoopStage.slot?]
      · simp [desk, fresh.unvisited]
  | step chronicle event happened ih => exact ih.step (step_deskStep happened)

end UsbExport.Host

import UsbExport.Proofs.Host.Departures
import UsbExport.Proofs.Host.Provenance

/-!
Device lists and the end of their session. Requests are answered in order, so a session that waits
for its last list has all of them on the wire when it cleans up. It waits only for a list whose
request the end of the input cut off; behind a whole request it closes the socket at once.
-/

namespace UsbExport.Host

open Dispatch Socket

variable {Handle : Type}

/-- Every list that was asked for is still to be dealt with or has had its turn. -/
def Accounted (notes : List Note) (desk : Desk) : Prop :=
  ∀ header status slot link, Asked notes ⟨header, .deviceList status slot, link⟩ →
    ⟨header, .deviceList status slot, link⟩ ∈ desk.queue ∨
      (∃ ticket, desk.loop = .listing header.version link slot ticket) ∨
      ∃ succeeded, .listed header.version link slot succeeded ∈ notes

/-- Every list that the session on a socket asked for was sent. -/
def ListsSent (link : LinkId) (notes : List Note) : Prop :=
  ∀ header status slot, Asked notes ⟨header, .deviceList status slot, link⟩ →
    .listed header.version link slot true ∈ notes

/-- No list for a socket failed. -/
def ListsUnfailed (link : LinkId) (notes : List Note) : Prop :=
  ∀ version slot, .listed version link slot false ∉ notes

theorem DeskStep.request_of_asked {before after : Desk} {request : ControlRequest}
    (step : DeskStep before (some (.ofAsked request)) after) :
    (∃ visit, before.visit = some visit ∧ visit.link = request.reply ∧
        visit.session.stage.request? before.slots.length = some (request.header, request.command)) ∧
      after.queue = before.queue ++ [request] := by
  generalize told : some (Note.ofAsked request) = note at step
  cases step with
  | asks visit_eq posting =>
      obtain ⟨link_eq, rfl⟩ : request.reply = _ ∧ request = _ := by
        simpa [Note.ofAsked] using told
      exact ⟨⟨_, visit_eq, rfl, posting⟩, rfl⟩
  | @goesOn order stage => cases stage <;> cases told
  | works visit_eq working answer aside => exact (aside _ told.symm).elim
  | aside aside => exact (aside _ told.symm).elim
  | _ => simp [Note.ofAsked] at told

theorem Accounted.step {notes : List Note} {before after : Desk} {note : Option Note}
    (accounted : Accounted notes before) (step : DeskStep before note after) :
    Accounted (notes ++ note.toList) after := by
  intro header status slot link asked
  rcases asked_append.1 asked with asked | rfl
  · have listed (found : ∃ succeeded, .listed header.version link slot succeeded ∈ notes) :
        ∃ succeeded, .listed header.version link slot succeeded ∈ notes ++ note.toList :=
      found.imp fun _ member => List.mem_append_left _ member
    have old := accounted header status slot link asked
    -- the executor does not leave a list before its turn
    have elsewhere (queue_eq : after.queue = before.queue)
        (apart : ∀ ticket, before.loop ≠ .listing header.version link slot ticket) :
        ⟨header, .deviceList status slot, link⟩ ∈ after.queue ∨
          (∃ ticket, after.loop = .listing header.version link slot ticket) ∨
          ∃ succeeded, .listed header.version link slot succeeded ∈ notes ++ note.toList := by
      rcases old with queued | ⟨ticket, loop_eq⟩ | found
      · exact Or.inl (queue_eq ▸ queued)
      · exact absurd loop_eq (apart ticket)
      · exact Or.inr (Or.inr (listed found))
    cases step with
    | asks visit_eq posting =>
        rcases old with queued | inHand | found
        · exact Or.inl (List.mem_append_left _ queued)
        · exact Or.inr (Or.inl inHand)
        · exact Or.inr (Or.inr (listed found))
    | @takes request queue idle queue_eq =>
        rcases old with queued | ⟨ticket, loop_eq⟩ | found
        · rw [queue_eq] at queued
          rcases List.mem_cons.1 queued with rfl | queued
          · exact Or.inr (Or.inl ⟨none, rfl⟩)
          · exact Or.inl queued
        · cases idle.symm.trans loop_eq
        · exact Or.inr (Or.inr (listed found))
    | @listStands version other slot' loop_eq ticket =>
        rcases old with queued | ⟨ticket', loop_eq'⟩ | found
        · exact Or.inl queued
        · cases loop_eq.symm.trans loop_eq'
          exact Or.inr (Or.inl ⟨_, rfl⟩)
        · exact Or.inr (Or.inr (listed found))
    | @lists version other slot' ticket loop_eq succeeded =>
        rcases old with queued | ⟨ticket', loop_eq'⟩ | found
        · exact Or.inl queued
        · cases loop_eq.symm.trans loop_eq'
          exact Or.inr (Or.inr ⟨succeeded, by simp⟩)
        · exact Or.inr (Or.inr (listed found))
    | listAnswers loop_eq => exact elsewhere rfl (by simp [loop_eq])
    | goesOn loop_eq => exact elsewhere rfl (by simp [loop_eq])
    | passes loop_eq => exact elsewhere rfl (by simp [loop_eq])
    | refuses loop_eq => exact elsewhere rfl (by simp [loop_eq])
    | unclaimable loop_eq => exact elsewhere rfl (by simp [loop_eq])
    | records loop_eq => exact elsewhere rfl (by simp [loop_eq])
    | marks loop_eq => exact elsewhere rfl (by simp [loop_eq])
    | replies loop_eq => exact elsewhere rfl (by simp [loop_eq])
    | unmarks loop_eq => exact elsewhere rfl (by simp [loop_eq])
    | unclaims loop_eq => exact elsewhere rfl (by simp [loop_eq])
    | confirms loop_eq => exact elsewhere rfl (by simp [loop_eq])
    | _ => exact old.imp_right (Or.imp_right listed)
  · left
    rw [step.request_of_asked.2]
    simp

/-- When nothing is left to answer, all lists have had their turn. -/
theorem Accounted.sent {notes : List Note} {desk : Desk} (accounted : Accounted notes desk)
    (none_left : desk.pending = []) {link : LinkId} (unfailed : ListsUnfailed link notes) :
    ListsSent link notes := by
  intro header status slot asked
  rw [Desk.pending, List.append_eq_nil_iff, Option.toList_eq_nil_iff,
    List.filterMap_eq_nil_iff] at none_left
  rcases accounted header status slot link asked with queued | ⟨ticket, loop_eq⟩ | ⟨succeeded, member⟩
  · cases none_left.2 _ queued
  · rw [loop_eq] at none_left
    cases none_left.1
  · cases succeeded with
    | true => exact member
    | false => exact absurd member (unfailed _ _)

/-- The executor takes requests, and no answer gets lost. -/
structure Answering (desk : Desk) : Prop where
  accepting : desk.accepting = true
  unlost : ∀ slot : SlotId, desk.slots[slot]? ≠ some Slot.lost

theorem Answering.step {before after : Desk} {note : Option Note} (answering : Answering before)
    (step : DeskStep before note after) : Answering after := by
  obtain ⟨accepting, unlost⟩ := answering
  have answered (slot : SlotId) (yes : Bool) (other : SlotId) :
      (before.answer slot yes).slots[other]? ≠ some Slot.lost := by
    intro lost
    simp only [Desk.answer, List.getElem?_modify] at lost
    cases found : before.slots[other]? with
    | none => simp [found] at lost
    | some answer =>
        cases answer with
        | lost => exact unlost other found
        | _ => by_cases same : slot = other <;> simp [found, same] at lost
  cases step with
  | @asks visit visit_eq header command posting =>
      refine ⟨accepting, fun slot lost => ?_⟩
      rw [List.getElem?_append] at lost
      split at lost
      · exact unlost slot lost
      · cases found : command.slot? <;> simp [found, List.getElem?_singleton] at lost
  | listAnswers loop_eq => exact ⟨accepting, answered _ _⟩
  | confirms loop_eq => exact ⟨accepting, answered _ _⟩
  | _ => exact ⟨accepting, unlost⟩

/-! ### Once the input has ended -/

/-- The input ended inside a device list request, which is still to be handed on. -/
def asksLast : Session.Stage → Bool
  | .postingList _ _ cut => cut
  | _ => false

theorem disturb_inputEnded_cases {session : Session} {limit : Nat}
    (reading : session.wants = some limit) :
    asksLast (session.disturb .inputEnded).stage = true ∨
      (session.disturb .inputEnded).stage = .resetting session.phase.departure := by
  cases stage_eq : session.stage with
  | collecting part got =>
      cases part <;> simp [Session.disturb, stage_eq, Session.depart, asksLast]
  | skipping left => simp [Session.disturb, stage_eq, Session.depart]
  | _ => simp [Session.wants, stage_eq] at reading

/-- Whoever reads or has the device is none of those whose input has ended. -/
theorem goes_on_of_wants_or_works {session : Session}
    (busy : session.wants.isSome = true ∨ works session.stage = true) :
    asksLast session.stage = false ∧ session.stage ≠ .awaitingList ∧
      session.stage.phase? ≠ none := by
  unfold Session.wants works at busy
  cases stage_eq : session.stage <;> simp [stage_eq] at busy <;>
    simp [asksLast, Session.Stage.phase?]

/-- A session whose input has ended waits for its last list, or cleans up with all of them sent. -/
def Parting (link : LinkId) (notes : List Note) (desk : Desk) : Prop :=
  ∀ visit, desk.visit = some visit → visit.link = link →
    asksLast visit.session.stage = true ∨
      (visit.session.stage = .awaitingList ∧
          ∃ slot deadline, visit.wait = .answer slot deadline) ∨
      visit.session.stage.phase? = none ∧ ListsSent link notes

theorem ListsSent.later {link : LinkId} {notes : List Note} {note : Option Note}
    (sent : ListsSent link notes)
    (unasked : ∀ request : ControlRequest, request.reply = link → note ≠ some (.ofAsked request)) :
    ListsSent link (notes ++ note.toList) := by
  intro header status slot asked
  rcases asked_append.1 asked with asked | asked
  · exact List.mem_append_left _ (sent header status slot asked)
  · exact absurd asked (unasked _ rfl)

section

variable {link : LinkId} {notes : List Note} {before after : Desk} {note : Option Note}
  {visit : Visit}

/-- A session that cleans up asks for nothing. -/
theorem ListsSent.step (sent : ListsSent link notes) (step : DeskStep before note after)
    (visit_eq : before.visit = some visit) (leaving : visit.session.stage.phase? = none) :
    ListsSent link (notes ++ note.toList) := by
  refine sent.later fun request reply_eq made => ?_
  subst made
  obtain ⟨⟨asker, asker_eq, -, posting⟩, -⟩ := step.request_of_asked
  obtain rfl := Option.some.inj (visit_eq.symm.trans asker_eq)
  rw [(Session.Stage.phase_of_request? posting).1] at leaving
  cases leaving

namespace Parting

theorem not_working (parting : Parting link notes before) (visit_eq : before.visit = some visit)
    (link_eq : visit.link = link) :
    ¬(visit.session.wants.isSome = true ∨ works visit.session.stage = true) := by
  intro busy
  obtain ⟨unasking, unawaiting, staying⟩ := goes_on_of_wants_or_works busy
  rcases parting visit visit_eq link_eq with asking | ⟨awaiting, -⟩ | ⟨leaving, -⟩
  · cases asking.symm.trans unasking
  · exact unawaiting awaiting
  · exact staying leaving

theorem awaiting (parting : Parting link notes before) (visit_eq : before.visit = some visit)
    (link_eq : visit.link = link) (awaits : visit.session.stage.awaits = true) :
    visit.session.stage = .awaitingList ∧ ∃ slot deadline, visit.wait = .answer slot deadline := by
  rcases parting visit visit_eq link_eq with asking | awaiting | ⟨leaving, -⟩
  · rcases Session.Stage.awaits_cases awaits with stage_eq | stage_eq <;>
      simp [stage_eq, asksLast] at asking
  · exact awaiting
  · rcases Session.Stage.awaits_cases awaits with stage_eq | stage_eq <;>
      simp [stage_eq, Session.Stage.phase?] at leaving

/-- A clean-up goes on, and is not begun before its time. -/
theorem leaves (parting : Parting link notes before) (step : DeskStep before note after)
    (visit_eq : before.visit = some visit) (link_eq : visit.link = link)
    (leaving : visit.session.stage.phase? = none) (answer : Session.Answer) :
    (visit.session.resume answer).stage.phase? = none ∧ ListsSent link (notes ++ note.toList) := by
  refine ⟨Session.phase?_resume_eq_none leaving answer, ?_⟩
  rcases parting visit visit_eq link_eq with asking | ⟨awaiting, -⟩ | ⟨-, sent⟩
  · cases stage_eq : visit.session.stage <;> simp [stage_eq, asksLast] at asking
    simp [stage_eq, Session.Stage.phase?] at leaving
  · simp [awaiting, Session.Stage.phase?] at leaving
  · exact sent.step step visit_eq leaving

theorem step (parting : Parting link notes before) (step : DeskStep before note after)
    (accounted : Accounted notes before) (settled : Settled before)
    (provenance : Provenance notes before) (answering : Answering before)
    (unfailed : ListsUnfailed link notes) (patient : note ≠ some (.gaveUp link))
    (unserved : before.visit = none → ∀ visit, after.visit = some visit → visit.link ≠ link) :
    Parting link (notes ++ note.toList) after := by
  intro visit visit_eq link_eq
  have whole := step
  have stays (eq : before.visit = some visit) :
      asksLast visit.session.stage = true ∨
        (visit.session.stage = .awaitingList ∧
          ∃ slot deadline, visit.wait = .answer slot deadline) ∨
        visit.session.stage.phase? = none ∧ ListsSent link (notes ++ note.toList) :=
    (parting visit eq link_eq).imp_right (Or.imp_right fun ⟨leaving, sent⟩ =>
      ⟨leaving, sent.step whole eq leaving⟩)
  have cleans_up {earlier : Visit} (eq : before.visit = some earlier) {stage : Session.Stage}
      (stage_eq : earlier.session.stage = stage) (leaving : stage.phase? = none)
      (answer : Session.Answer)
      (eq' : visit = { earlier with session := earlier.session.resume answer, wait := .nothing }) :
      visit.session.stage.phase? = none ∧ ListsSent link (notes ++ note.toList) := by
    subst eq' stage_eq
    exact parting.leaves whole eq link_eq leaving answer
  cases step with
  | @reads earlier eq limit wants =>
      obtain rfl := Option.some.inj visit_eq
      exact (parting.not_working eq link_eq (Or.inl (by rw [wants]; rfl))).elim
  | @asks earlier eq header command posting =>
      obtain rfl := Option.some.inj visit_eq
      rcases parting earlier eq link_eq with asking | ⟨awaiting, -⟩ | ⟨leaving, -⟩
      · right; left
        cases stage_eq : earlier.session.stage <;> simp [stage_eq, asksLast] at asking
        rw [stage_eq] at posting
        subst asking
        cases posting
        simp [Session.resume, stage_eq, System.waitFor, ControlCommand.slot?]
      · rw [awaiting] at posting
        cases posting
      · rw [(Session.Stage.phase_of_request? posting).1] at leaving
        cases leaving
  | unposted eq closed => cases answering.accepting.symm.trans closed
  | @waits earlier eq wait kept asking =>
      obtain rfl := Option.some.inj visit_eq
      rcases parting earlier eq link_eq with asking | ⟨awaiting, -⟩ | ⟨leaving, sent⟩
      · exact Or.inl asking
      · exact Or.inr (Or.inl ⟨awaiting, asking (by rw [awaiting]; rfl)⟩)
      · exact Or.inr (Or.inr ⟨leaving, sent.step whole eq leaving⟩)
  | @learns earlier eq awaits slot deadline wait_eq yes given =>
      obtain rfl := Option.some.inj visit_eq
      have sent := accounted.sent (settled.given earlier eq slot deadline wait_eq yes given) unfailed
      refine Or.inr (Or.inr ⟨?_, sent.later (by simp)⟩)
      simp [Session.resume, (parting.awaiting eq link_eq awaits).1, Session.depart,
        Session.Stage.phase?]
  | @misses earlier eq awaits lost =>
      obtain rfl := Option.some.inj visit_eq
      obtain ⟨-, slot, deadline, wait_eq⟩ := parting.awaiting eq link_eq awaits
      obtain ⟨request, asked, -, slot_eq, -⟩ :=
        provenance.awaited earlier eq awaits slot deadline wait_eq
      have found := List.getElem?_eq_getElem (provenance.short request asked slot slot_eq)
      have lost := lost slot deadline wait_eq
      rw [found, Option.getD_some] at lost
      exact absurd (found.trans (congrArg some lost)) (answering.unlost slot)
  | @givesUp earlier eq awaits =>
      obtain rfl := Option.some.inj visit_eq
      exact absurd (by rw [← link_eq]) patient
  | @works earlier eq working answer =>
      obtain rfl := Option.some.inj visit_eq
      exact (parting.not_working eq link_eq (Or.inr working)).elim
  | resets eq stage_eq =>
      exact Or.inr (Or.inr (cleans_up eq stage_eq rfl .done (Option.some.inj visit_eq).symm))
  | releases eq stage_eq =>
      exact Or.inr (Or.inr (cleans_up eq stage_eq rfl .done (Option.some.inj visit_eq).symm))
  | closes eq stage_eq =>
      exact Or.inr (Or.inr (cleans_up eq stage_eq rfl _ (Option.some.inj visit_eq).symm))
  | departs eq stage_eq => cases visit_eq
  | serves unvisited other => exact absurd link_eq (unserved unvisited visit visit_eq)
  | _ => exact stays visit_eq

end Parting

end

namespace Chronicle

variable [UsbHandle Handle] {start mid server last : Server (Host Handle)}
  {notes before after : List Note} {link : LinkId}

theorem accounted (chronicle : Chronicle start notes server) :
    Accounted notes (desk server.system) := by
  induction chronicle with
  | start => simp [Accounted, Asked]
  | step chronicle event happened ih => exact ih.step (step_deskStep happened)

theorem answering (chronicle : Chronicle start notes server) (fresh : Fresh start)
    (accepting : start.system.control.accepting = true) : Answering (desk server.system) := by
  induction chronicle with
  | start => exact ⟨accepting, by simp [desk, fresh.unslotted]⟩
  | step chronicle event happened ih => exact ih.step (step_deskStep happened)

/-- As long as the session is patient and no list fails, it does not clean up before all lists are
sent. -/
theorem parting (past : Chronicle start before mid) (fresh : Fresh start)
    (accepting : start.system.control.accepting = true) (called : Called link mid)
    (ended : Parting link before (desk mid.system)) (future : Chronicle mid after last)
    (patient : .gaveUp link ∉ after) (unfailed : ListsUnfailed link (before ++ after)) :
    Parting link (before ++ after) (desk last.system) ∧ Called link last := by
  induction future with
  | start => exact ⟨by rwa [List.append_nil], called⟩
  | @step notes server next future event happened ih =>
      have happening := step_happening happened
      have whole := past.append future
      have unfailed : ListsUnfailed link (before ++ notes) := fun version slot member =>
        unfailed version slot (by rw [← List.append_assoc]; exact List.mem_append_left _ member)
      obtain ⟨parting, called⟩ :=
        ih (fun member => patient (List.mem_append_left _ member)) unfailed
      refine ⟨?_, called.happening happening⟩
      rw [← List.append_assoc]
      refine parting.step (step_deskStep happened) whole.accounted
        (whole.history.asks fresh).isSettled (whole.provenance fresh)
        (whole.answering fresh accepting) unfailed (fun made => patient (by simp [made])) ?_
      rintro unvisited visit visit_eq rfl
      rcases happening.visit_or visit_eq with ⟨earlier, earlier_eq, -⟩ | ⟨-, line_eq⟩
      · cases earlier_eq.symm.trans unvisited
      · exact called.unlined (by simp [line_eq])

end Chronicle

/-- The socket is not closed before every list that was asked for on it is sent and on the wire, in
whatever order things happen from here, as long as no list fails and the session does not stop
waiting for one. -/
def ListsFirst [UsbHandle Handle] (link : LinkId) (before : List Note)
    (mid : Server (Host Handle)) : Prop :=
  ∀ after last succeeded,
    Chronicle mid (after ++ [.deed (.session link (.served .close succeeded))]) last →
    .gaveUp link ∉ after → ListsUnfailed link (before ++ after) →
    ∀ header status slot, Asked (before ++ after) ⟨header, .deviceList status slot, link⟩ →
      .listed header.version link slot true ∈ before ++ after ∧
      ∃ socket, last.system.links[link]? = some socket ∧
        (Reply.listOf header.version [last.system.executor.device]).encode <:+:
          socket.guard.sink.written

section

variable [UsbHandle Handle] {start mid : Server (Host Handle)} {before : List Note}

theorem Chronicle.listsFirst (past : Chronicle start before mid) (fresh : Fresh start)
    (accepting : start.system.control.accepting = true) {visit : Visit}
    (visit_eq : mid.system.visit = some visit)
    (ended : Parting visit.link before (desk mid.system)) : ListsFirst visit.link before mid := by
  intro after last succeeded future patient unfailed header status slot asked
  obtain ⟨closing, event, next, waiting, happened, made, -⟩ := future.cut
  obtain ⟨parting, -⟩ := past.parting fresh accepting (past.called fresh visit visit_eq) ended
    waiting patient unfailed
  have sent : ListsSent visit.link (before ++ after) := by
    have said : done? closing event = some (.session visit.link (.served .close succeeded)) := by
      rw [← note?_deed, made]
      rfl
    obtain ⟨closer, closer_eq, link_eq, errand, -⟩ :=
      (step_happening happened).errand_of_served ((past.append waiting).lines fresh) said
    rcases parting closer closer_eq link_eq with asking | ⟨awaiting, -⟩ | ⟨-, sent⟩
    · cases stage_eq : closer.session.stage <;> simp [stage_eq, asksLast] at asking
      simp [stage_eq, Session.Stage.errand?] at errand
    · simp [awaiting, Session.Stage.errand?] at errand
    · exact sent
  have listed := sent header status slot asked
  have member : .listed header.version visit.link slot true ∈
      before ++ (after ++ [.deed (.session visit.link (.served .close succeeded))]) := by
    rw [← List.append_assoc]
    exact List.mem_append_left _ listed
  obtain ⟨guard, guard_eq, written⟩ := ((past.append future).receipts fresh).written member rfl
  obtain ⟨socket, socket_eq, rfl⟩ :
      ∃ socket, last.system.links[visit.link]? = some socket ∧ socket.guard = guard := by
    simpa [guards] using guard_eq
  exact ⟨listed, socket, socket_eq, written⟩

theorem chronicle_moveSession {server : Server (Host Handle)} {system : System (Host Handle)}
    {note : Option Note} (moved : server.system.moveSession = .went system)
    (made : sessionNote? server.system = note) :
    Chronicle server note.toList { server with system } := by
  have went : (company.move .session server.system).next? = some system :=
    congrArg Move.next? moved
  exact .of_move went made

/-- Whoever stands alone in line for the close of its socket closes it. -/
theorem exists_closed_of_alone {server : Server (Host Handle)} {link : LinkId} {session : Session}
    {ticket : Ticket} (visit_eq : server.system.visit = some ⟨link, session, .turn ticket⟩)
    {ending : Ending} (stage_eq : session.stage = .closing ending) {socket : Link}
    (socket_eq : server.system.links[link]? = some socket)
    (alone : socket.guard.line = [⟨ticket, .close⟩]) :
    ∃ last, Chronicle server [.deed (.session link (.served .close true))] last := by
  obtain ⟨guard, polled⟩ : ∃ guard,
      socket.guard.poll ticket server.system.now = .finished guard (.ok ()) := by
    simp [Guard.poll, alone]
  have moved : server.system.moveSession =
      .went ((server.system.setGuard link guard).resume ⟨link, session, .turn ticket⟩ .done) := by
    simp [System.moveSession, visit_eq, stage_eq, System.runErrand, System.pursue, socket_eq,
      polled]
  have made : sessionNote? server.system = some (.deed (.session link (.served .close true))) := by
    simp [sessionNote?, System.deed?, visit_eq, stage_eq, Wait.ticket?, System.served?, socket_eq,
      polled, alone, Except.isOk, Except.toBool]
  exact ⟨_, chronicle_moveSession moved made⟩

/-- If nobody stands in line for a socket, the session that is to close it does so at once. -/
theorem exists_closed {server : Server (Host Handle)} {link : LinkId} {session : Session}
    (visit_eq : server.system.visit = some { link, session }) {ending : Ending}
    (stage_eq : session.stage = .closing ending) {socket : Link}
    (socket_eq : server.system.links[link]? = some socket) (free : socket.guard.line = []) :
    ∃ last, Chronicle server [.deed (.session link (.served .close true))] last := by
  let standing := (server.system.setGuard link (socket.guard.request .close).2).setVisit
    ⟨link, session, .turn (socket.guard.request .close).1⟩
  have moved : server.system.moveSession = .went standing := by
    simp [System.moveSession, visit_eq, stage_eq, System.runErrand, System.standInLine, socket_eq,
      standing]
  have silent : sessionNote? server.system = none := by
    simp [sessionNote?, System.deed?, visit_eq, stage_eq, Wait.ticket?, System.isOverdue]
  have stood : Chronicle server [] { server with system := standing } :=
    chronicle_moveSession moved silent
  have visit_eq' : standing.visit = some ⟨link, session, .turn socket.guard.issued⟩ := rfl
  have socket_eq' : standing.links[link]? =
      some { socket with guard := (socket.guard.request .close).2 } := by
    exact System.getElem?_mapLink socket_eq
  have alone : (socket.guard.request .close).2.line = [⟨socket.guard.issued, .close⟩] := by
    simp [Guard.request, free]
  have closable : ∃ last, Chronicle { server with system := standing }
      [.deed (.session link (.served .close true))] last :=
    exists_closed_of_alone visit_eq' stage_eq socket_eq' alone
  obtain ⟨last, closed⟩ := closable
  exact ⟨last, stood.append closed⟩

theorem exists_released {server : Server (Host Handle)} {link : LinkId} {session : Session}
    (visit_eq : server.system.visit = some { link, session }) {ending : Ending}
    (stage_eq : session.stage = .releasing ending) {socket : Link}
    (socket_eq : server.system.links[link]? = some socket) (free : socket.guard.line = []) :
    ∃ last, Chronicle server [.deed (.session link .released),
      .deed (.session link (.served .close true))] last := by
  let closing :=
    { server.system with executor := server.system.executor.release }.resume { link, session } .done
  have moved : server.system.moveSession = .went closing := by
    simp only [System.moveSession, visit_eq, stage_eq]
    rfl
  have made : sessionNote? server.system = some (.deed (.session link .released)) :=
    sessionNote?_some visit_eq (by simp [System.deed?, visit_eq, stage_eq]) (by simp)
  have released : Chronicle server [.deed (.session link .released)]
      { server with system := closing } := chronicle_moveSession moved made
  have visit_eq' : closing.visit = some { link, session := session.resume .done } := rfl
  have stage_eq' : (session.resume .done).stage = .closing ending := by
    simp [Session.resume, stage_eq]
  have closable : ∃ last, Chronicle { server with system := closing }
      [.deed (.session link (.served .close true))] last :=
    exists_closed visit_eq' stage_eq' socket_eq free
  obtain ⟨last, closed⟩ := closable
  exact ⟨last, released.append closed⟩

/-- A session that cleans up closes a socket for which nobody stands in line at once. -/
theorem exists_cleaned_up {visit : Visit} (visit_eq : mid.system.visit = some visit)
    {ending : Ending} (stage_eq : visit.session.stage = .resetting ending) {socket : Link}
    (socket_eq : mid.system.links[visit.link]? = some socket) (free : socket.guard.line = []) :
    ∃ last, Chronicle mid [.deed (.session visit.link .reset),
      .deed (.session visit.link .released),
      .deed (.session visit.link (.served .close true))] last := by
  let releasing := { mid.system with flags := mid.system.flags.reset }.resume visit .done
  have moved : mid.system.moveSession = .went releasing := by
    simp only [System.moveSession, visit_eq, stage_eq]
    rfl
  have made : sessionNote? mid.system = some (.deed (.session visit.link .reset)) :=
    sessionNote?_some visit_eq (by simp [System.deed?, visit_eq, stage_eq]) (by simp)
  have reset : Chronicle mid [.deed (.session visit.link .reset)] { mid with system := releasing } :=
    chronicle_moveSession moved made
  have visit_eq' : releasing.visit = some
      { link := visit.link, session := visit.session.resume .done } := rfl
  have stage_eq' : (visit.session.resume .done).stage = .releasing ending := by
    simp [Session.resume, stage_eq]
  have releasable : ∃ last, Chronicle { mid with system := releasing }
      [.deed (.session visit.link .released),
        .deed (.session visit.link (.served .close true))] last :=
    exists_released visit_eq' stage_eq' socket_eq free
  obtain ⟨last, closed⟩ := releasable
  exact ⟨last, reset.append closed⟩

/-- A client whose input ends is sent all lists it asked for before its socket is closed, if its
input ended inside its last request or all lists have been sent already. If neither holds and
nobody stands in line for the socket, it can be closed first. -/
theorem lists_first_iff_asks_last (fresh : Fresh start)
    (accepting : start.system.control.accepting = true) (past : Chronicle start before mid)
    {visit : Visit} (visit_eq : mid.system.visit = some visit) {session : Session} {limit : Nat}
    (reading : session.wants = some limit) (ended : visit.session = session.disturb .inputEnded) :
    (asksLast visit.session.stage = true ∨ ListsSent visit.link before →
      ListsFirst visit.link before mid) ∧
    ∀ socket, mid.system.links[visit.link]? = some socket → socket.guard.line = [] →
      ListsUnfailed visit.link before → ListsFirst visit.link before mid →
        asksLast visit.session.stage = true ∨ ListsSent visit.link before := by
  have quits := disturb_inputEnded_cases reading
  rw [← ended] at quits
  refine ⟨fun heard => past.listsFirst fresh accepting visit_eq fun other eq _ => ?_,
    fun socket socket_eq free unfailed first => ?_⟩
  · obtain rfl := Option.some.inj (visit_eq.symm.trans eq)
    rcases quits with asking | leaving
    · exact Or.inl asking
    · refine heard.imp_right fun sent => Or.inr ⟨?_, sent⟩
      rw [leaving]
      rfl
  · refine quits.imp_right fun leaving header status slot asked => ?_
    obtain ⟨last, closed⟩ := exists_cleaned_up visit_eq leaving socket_eq free
    have future : Chronicle mid ([.deed (.session visit.link .reset),
        .deed (.session visit.link .released)] ++
          [.deed (.session visit.link (.served .close true))]) last := closed
    have unfailed' : ListsUnfailed visit.link (before ++ [.deed (.session visit.link .reset),
        .deed (.session visit.link .released)]) := by
      intro version slot member
      exact unfailed version slot (by simpa using member)
    obtain ⟨listed, -⟩ := first _ last true future (by simp) unfailed' header status slot
      (List.mem_append_left _ asked)
    simpa using listed

end

def placidListRequest : Bytes := ControlHeader.encode ⟨0x0111, Command.requestDeviceList⟩

/-- The input of a client ends right behind the header of its list request. -/
def cutsRequest : List (Server.Event Party) :=
  [.connect, .arrive 0 placidListRequest, .finish 0, .move .acceptor] ++ sessionMoves 2

/-- The input of a client ends right behind its whole list request. -/
def endsRequest : List (Server.Event Party) :=
  [.connect, .arrive 0 (placidListRequest ++ bytes32 0), .finish 0, .move .acceptor] ++
    sessionMoves 4

theorem list_lost_behind_whole_request :
    (retell placid endsRequest).1 =
        [.ofAsked ⟨⟨0x0111, Command.requestDeviceList⟩, .deviceList 0 0, 0⟩] ∧
      ListsFirst 0 (retell placid cutsRequest).1 (retell placid cutsRequest).2 ∧
      ¬ListsFirst 0 (retell placid endsRequest).1 (retell placid endsRequest).2 := by
  have cut : (retell placid cutsRequest).2.system.visit.map
      (fun visit => (visit.link, visit.session)) = some (0, Session.disturb
        ⟨.idle, .collecting (.listStatus ⟨0x0111, Command.requestDeviceList⟩) []⟩ .inputEnded) := by
    decide +kernel
  have whole : (retell placid endsRequest).2.system.visit.map
      (fun visit => (visit.link, visit.session)) = some (0, Session.disturb
        ⟨.idle, .collecting .controlHeader []⟩ .inputEnded) := by
    decide +kernel
  have told : (retell placid endsRequest).1 =
      [.ofAsked ⟨⟨0x0111, Command.requestDeviceList⟩, .deviceList 0 0, 0⟩] := by decide +kernel
  have lines : (retell placid endsRequest).2.system.links.map (fun socket => socket.guard.line) =
      [[]] := by decide +kernel
  refine ⟨told, ?_, fun first => ?_⟩
  · obtain ⟨visit, visit_eq, seen⟩ := Option.map_eq_some_iff.1 cut
    obtain ⟨link_eq, session_eq⟩ := Prod.mk.inj seen
    rw [← show visit.link = 0 from link_eq]
    refine (lists_first_iff_asks_last fresh_placid rfl (chronicle_retell placid cutsRequest)
      visit_eq rfl session_eq).1 (Or.inl ?_)
    rw [show visit.session = _ from session_eq]
    rfl
  · obtain ⟨visit, visit_eq, seen⟩ := Option.map_eq_some_iff.1 whole
    obtain ⟨link_eq, session_eq⟩ := Prod.mk.inj seen
    have link_eq : visit.link = 0 := link_eq
    have session_eq : visit.session = _ := session_eq
    obtain ⟨socket, socket_eq, free⟩ : ∃ socket,
        (retell placid endsRequest).2.system.links[visit.link]? = some socket ∧
          socket.guard.line = [] := by
      rw [link_eq]
      have found := congrArg (·[0]?) lines
      simpa using found
    have lost := (lists_first_iff_asks_last fresh_placid rfl (chronicle_retell placid endsRequest)
      visit_eq rfl session_eq).2 socket socket_eq free (by simp [ListsUnfailed, told, Note.ofAsked])
      (link_eq ▸ first)
    rw [session_eq, link_eq, told] at lost
    rcases lost with asking | sent
    · cases asking
    · have listed := sent ⟨0x0111, Command.requestDeviceList⟩ 0 0 (by simp [Asked])
      simp [Note.ofAsked] at listed

end UsbExport.Host

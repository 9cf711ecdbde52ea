import UsbExport.Proofs.Host.Provenance
import UsbExport.Proofs.Host.Receipts
import UsbExport.Proofs.Wire.DeviceList

/-!
Who has the device has really been given it. The confirmation that makes a session busy answers the
session's own import, after the interfaces were claimed, the device was marked and the reply was
sent; and until the session cleans up, nobody takes any of that back.
-/

namespace UsbExport.Host

open Dispatch Socket

variable {Handle : Type}

/-! ### What the executor says to a client -/

/-- The client that the executor has answered, with a device list or the reply to an import. -/
def Note.saidTo? : Note → Option LinkId
  | .replied order _ _ => some order.reply
  | .listed _ link _ _ => some link
  | _ => none

/-- The last thing that the executor said to a client. -/
def SaidLast (link : LinkId) (note : Note) (notes : List Note) : Prop :=
  ∃ front back, notes = front ++ note :: back ∧ ∀ later ∈ back, later.saidTo? ≠ some link

theorem SaidLast.later {link : LinkId} {note : Note} {notes : List Note}
    (last : SaidLast link note notes) {more : List Note}
    (unsaid : ∀ what ∈ more, what.saidTo? ≠ some link) : SaidLast link note (notes ++ more) := by
  obtain ⟨front, back, rfl, quiet⟩ := last
  refine ⟨front, back ++ more, by simp, fun what member => ?_⟩
  exact (List.mem_append.1 member).elim (quiet what) (unsaid what)

/-- The client that the executor stands in line to answer. -/
def LoopStage.answers? : LoopStage → Option LinkId
  | .listing _ link _ (some _) => some link
  | .importing order (.replying _ (some _)) => some order.reply
  | _ => none

theorem LoopStage.link?_of_answers? {loop : LoopStage} {link : LinkId}
    (answers : loop.answers? = some link) : loop.link? = some link := by
  unfold answers? at answers
  split at answers <;> first | exact answers | cases answers

theorem LoopStage.answers?_eq_none {loop : LoopStage} (quiet : loop.slot? = none) :
    loop.answers? = none := by
  cases loop <;> first | rfl | cases quiet

theorem Note.unsaid_of_aside {note : Option Note} (aside : ∀ what ∈ note, what.IsAside) :
    ∀ what ∈ note, what.saidTo? = none := by
  intro what member
  have other := aside what member
  cases what <;> first | rfl | exact other.elim

theorem ImportStage.unsaid (stage : ImportStage) (link : LinkId) :
    ∀ what ∈ stage.deed?.map Note.deed, what.saidTo? ≠ some link := by
  intro what made
  cases stage <;> cases made <;> simp [Note.saidTo?]

/-- Whom the executor answers, it stood in line to answer, and then no longer does. -/
theorem DeskStep.answers {before after : Desk} {note : Option Note}
    (step : DeskStep before note after) {what : Note} (made : what ∈ note) {link : LinkId}
    (said : what.saidTo? = some link) :
    before.loop.answers? = some link ∧ after.loop.answers? = none := by
  cases step with
  | lists loop_eq =>
      cases made
      exact ⟨by rw [loop_eq]; exact said, rfl⟩
  | @replies order accepted ticket loop_eq succeeded =>
      cases made
      refine ⟨by rw [loop_eq]; exact said, ?_⟩
      cases accepted <;> cases succeeded <;> rfl
  | @goesOn order stage stage' loop_eq bid_eq => exact absurd said (stage.unsaid link what made)
  | works visit_eq working answer aside =>
      cases (Note.unsaid_of_aside aside what made).symm.trans said
  | aside aside => cases (Note.unsaid_of_aside aside what made).symm.trans said
  | _ => cases made <;> cases said

theorem DeskStep.unsaid {before after : Desk} {note : Option Note}
    (step : DeskStep before note after) {link : LinkId}
    (quiet : before.loop.answers? ≠ some link) : ∀ what ∈ note, what.saidTo? ≠ some link :=
  fun _ made said => quiet (step.answers made said).1

/-- The device is marked and claimed, and an import of this session has been replied to, which was
the last thing that the client was told. -/
structure Granted (notes : List Note) (desk : Desk) (link : LinkId) : Prop where
  busy : desk.busy = true
  claimed : desk.claimed = desk.interfaces
  replied : ∃ header body confirm,
    [Note.ofAsked ⟨header, .importDevice body confirm, link⟩,
      .replied ⟨header.version, body.busId, confirm, link⟩ true true].Sublist notes
  last : ∃ order, order.reply = link ∧ SaidLast link (.replied order true true) notes

theorem Granted.later {notes : List Note} {before after : Desk} {link : LinkId}
    (granted : Granted notes before link) {note : Option Note}
    (unsaid : ∀ what ∈ note, what.saidTo? ≠ some link) (busy_eq : after.busy = before.busy)
    (claimed_eq : after.claimed = before.claimed)
    (interfaces_eq : after.interfaces = before.interfaces) :
    Granted (notes ++ note.toList) after link := by
  obtain ⟨header, body, confirm, replied⟩ := granted.replied
  obtain ⟨order, reply_eq, last⟩ := granted.last
  exact ⟨busy_eq.trans granted.busy, by rw [claimed_eq, interfaces_eq, granted.claimed],
    ⟨header, body, confirm, replied.trans (List.sublist_append_left _ _)⟩, order, reply_eq,
    last.later fun what member => unsaid what (Option.mem_toList.1 member)⟩

/-- What an import in hand has got so far for the session on a socket. -/
def Bid.Holds (notes : List Note) (desk : Desk) (link : LinkId) : Bid → Prop
  | .recorded => desk.claimed = desk.interfaces
  | .marked => desk.claimed = desk.interfaces ∧ desk.busy = true
  | .granted => Granted notes desk link
  | _ => True

theorem Bid.Holds.later {notes : List Note} {before after : Desk} {link : LinkId} {bid : Bid}
    (holds : bid.Holds notes before link) {note : Option Note}
    (unsaid : ∀ what ∈ note, what.saidTo? ≠ some link)
    (busy_eq : after.busy = before.busy) (claimed_eq : after.claimed = before.claimed)
    (interfaces_eq : after.interfaces = before.interfaces) :
    bid.Holds (notes ++ note.toList) after link := by
  cases bid with
  | recorded => rwa [Holds, claimed_eq, interfaces_eq]
  | marked => rwa [Holds, claimed_eq, interfaces_eq, busy_eq]
  | granted => exact Granted.later holds unsaid busy_eq claimed_eq interfaces_eq
  | _ => trivial

/-- What a session that waits for its import will be given, has been given, and has. -/
structure Grants (notes : List Note) (desk : Desk) : Prop where
  inHand : ∀ visit, desk.visit = some visit → visit.session.stage = .awaitingImport →
    ∀ order stage, desk.loop = .importing order stage →
      ∀ deadline, visit.wait = .answer order.confirm deadline →
        stage.bid.Holds notes desk visit.link
  given : ∀ visit, desk.visit = some visit → visit.session.stage = .awaitingImport →
    ∀ slot deadline, visit.wait = .answer slot deadline →
      desk.slots[slot]? = some (.given true) → Granted notes desk visit.link
  kept : ∀ visit, desk.visit = some visit → visit.session.phase = .busy →
    visit.session.stage.isReset = false → Granted notes desk visit.link

section

variable {notes : List Note} {before after : Desk} {note : Option Note}

/-- An import in hand gets on with what it has got for the session that waits for it. -/
theorem DeskStep.holds (step : DeskStep before note after) {order : ImportOrder}
    {stage : ImportStage} (loop_eq : after.loop = .importing order stage)
    (unreset : ∀ visit, after.visit = some visit → visit.session.stage.isReset = false)
    (provenance : Provenance notes before)
    (holds : ∀ stage, before.loop = .importing order stage →
      stage.bid.Holds notes before order.reply) :
    stage.bid.Holds (notes ++ note.toList) after order.reply := by
  have unsaid (loop_eq' : before.loop.answers? = after.loop.answers?) :
      ∀ what ∈ note, what.saidTo? ≠ some order.reply := by
    intro what made said
    obtain ⟨before_eq, after_eq⟩ := step.answers made said
    rw [loop_eq', after_eq] at before_eq
    cases before_eq
  have same (loop_eq' : before.loop = after.loop) (busy_eq : after.busy = before.busy)
      (claimed_eq : after.claimed = before.claimed)
      (interfaces_eq : after.interfaces = before.interfaces) :
      stage.bid.Holds (notes ++ note.toList) after order.reply :=
    (holds stage (loop_eq'.trans loop_eq)).later (unsaid (by rw [loop_eq'])) busy_eq claimed_eq
      interfaces_eq
  cases step with
  | resets visit_eq stage_eq =>
      have reset := unreset _ rfl
      simp [Session.resume, stage_eq, Session.Stage.isReset] at reset
  | releases visit_eq stage_eq =>
      have reset := unreset _ rfl
      simp [Session.resume, stage_eq, Session.Stage.isReset] at reset
  | @takes request queue idle queue_eq =>
      have loop_eq : LoopStage.ofRequest request = .importing order stage := loop_eq
      unfold LoopStage.ofRequest at loop_eq
      split at loop_eq <;> cases loop_eq
      trivial
  | goesOn loop_eq' bid_eq =>
      cases loop_eq
      rw [bid_eq]
      exact (holds _ loop_eq').later (ImportStage.unsaid _ _) rfl rfl rfl
  | passes loop_eq' named free =>
      cases loop_eq
      trivial
  | refuses loop_eq' taken =>
      cases loop_eq
      trivial
  | unclaimable loop_eq' passed =>
      cases loop_eq
      trivial
  | records loop_eq' =>
      cases loop_eq
      exact rfl
  | marks loop_eq' =>
      cases loop_eq
      exact ⟨holds _ loop_eq', rfl⟩
  | @replies order accepted ticket loop_eq' succeeded =>
      cases loop_eq
      cases accepted <;> cases succeeded <;> try trivial
      obtain ⟨claimed, busy⟩ := holds _ loop_eq'
      obtain ⟨request, asked, handles⟩ :=
        provenance.handled order.confirm (by rw [loop_eq']; rfl)
      rw [loop_eq'] at handles
      obtain ⟨header, body, version_eq, busId_eq, rfl⟩ := handles
      refine ⟨busy, claimed, ⟨header, body, order.confirm, ?_⟩, order, rfl, notes, [], rfl, by simp⟩
      rw [version_eq, busId_eq]
      exact (List.singleton_sublist.2 asked).append (.refl _)
  | unmarks loop_eq' =>
      cases loop_eq
      trivial
  | unclaims loop_eq' =>
      cases loop_eq
      trivial
  | lists => cases loop_eq
  | listStands => cases loop_eq
  | listAnswers => cases loop_eq
  | confirms => cases loop_eq
  | _ => exact same rfl rfl rfl rfl

end

namespace Grants

variable {notes : List Note} {before after : Desk} {note : Option Note}

theorem step (grants : Grants notes before) (settled : Settled before)
    (provenance : Provenance notes before) (step : DeskStep before note after) :
    Grants (notes ++ note.toList) after where
  inHand := by
    intro visit visit_eq stage_eq order stage loop_eq deadline wait_eq
    have awaits : visit.session.stage.awaits = true := by rw [stage_eq]; rfl
    have reply_eq := (provenance.step step).reply_eq loop_eq visit_eq awaits wait_eq
    rw [← reply_eq]
    refine step.holds loop_eq (fun other eq => ?_) provenance fun stage loop_eq => ?_
    · obtain rfl := Option.some.inj (visit_eq.symm.trans eq)
      rw [stage_eq]
      rfl
    · rcases step.visitStep.awaited visit_eq awaits wait_eq with
        ⟨earlier, deadline', eq, link_eq, session_eq, wait_eq'⟩ | ⟨new, same, -⟩
      · rw [reply_eq, ← link_eq]
        exact grants.inHand earlier eq (by rw [session_eq, stage_eq]) order stage loop_eq deadline'
          wait_eq'
      · obtain ⟨request, asked, handles⟩ :=
          provenance.handled order.confirm (by rw [loop_eq]; rfl)
        have slot_eq : request.command.slot? = some order.confirm := by
          rw [handles.slot_eq, loop_eq]
          rfl
        exact absurd new (Nat.ne_of_lt (provenance.short request asked order.confirm slot_eq))
  given := by
    intro visit visit_eq stage_eq slot deadline wait_eq given
    have awaits : visit.session.stage.awaits = true := by rw [stage_eq]; rfl
    rcases step.visitStep.awaited visit_eq awaits wait_eq with
      ⟨earlier, deadline', eq, link_eq, session_eq, wait_eq'⟩ | ⟨new, -, slots_eq, -⟩
    · have stage_eq' : earlier.session.stage = .awaitingImport := by rw [session_eq, stage_eq]
      rw [← link_eq]
      rcases step.given_or given with old | ⟨order, loop_eq, rfl, rfl⟩ | ⟨loop_eq, -⟩
      · have granted := grants.given earlier eq stage_eq' slot deadline' wait_eq' old
        have quiet := Desk.slot?_eq_none (settled.given earlier eq slot deadline' wait_eq' true old)
        rcases step.taken_or with ⟨busy_eq, claimed_eq, interfaces_eq⟩ | inHand |
          ⟨other, other_eq, reset⟩
        · exact granted.later (step.unsaid (by simp [LoopStage.answers?_eq_none quiet])) busy_eq
            claimed_eq interfaces_eq
        · simp [quiet] at inHand
        · obtain rfl := Option.some.inj (visit_eq.symm.trans other_eq)
          rw [stage_eq] at reset
          cases reset
      · exact (grants.inHand earlier eq stage_eq' order _ loop_eq deadline' wait_eq').later
          (step.unsaid (by simp [loop_eq, LoopStage.answers?])) rfl rfl rfl
      · -- a device list is answered, and the session waits for an import
        obtain ⟨request, asked, handles⟩ := provenance.handled slot (by rw [loop_eq]; rfl)
        obtain ⟨other, asked', -, slot_eq, expects⟩ := provenance.awaited earlier eq
          (by rw [stage_eq']; rfl) slot deadline' wait_eq'
        have slot_eq' : request.command.slot? = some slot := by
          rw [handles.slot_eq, loop_eq]
          rfl
        obtain rfl := provenance.single request asked other asked' slot slot_eq' slot_eq
        rw [loop_eq] at handles
        obtain ⟨header, status, link, rfl⟩ := handles
        rw [stage_eq'] at expects
        exact expects.elim
    · rw [slots_eq, new, List.getElem?_concat_length] at given
      cases given
  kept := by
    intro visit visit_eq busy unreset
    obtain ⟨earlier, eq, link_eq, had⟩ := step.visitStep.hasDevice visit_eq busy unreset
    have granted : Granted notes before visit.link ∧ before.loop.slot? = none := by
      rw [← link_eq]
      rcases had with ⟨busy, unreset⟩ | ⟨stage_eq, slot, deadline, wait_eq, given⟩
      · exact ⟨grants.kept earlier eq busy unreset,
          Desk.slot?_eq_none (settled.busy earlier eq busy)⟩
      · exact ⟨grants.given earlier eq stage_eq slot deadline wait_eq given,
          Desk.slot?_eq_none (settled.given earlier eq slot deadline wait_eq true given)⟩
    rcases step.taken_or with ⟨busy_eq, claimed_eq, interfaces_eq⟩ | inHand |
      ⟨other, other_eq, reset⟩
    · exact granted.1.later (step.unsaid (by simp [LoopStage.answers?_eq_none granted.2])) busy_eq
        claimed_eq interfaces_eq
    · simp [granted.2] at inHand
    · obtain rfl := Option.some.inj (visit_eq.symm.trans other_eq)
      rw [reset] at unreset
      cases unreset

end Grants

theorem Chronicle.grants [UsbHandle Handle] {start server : Server (Host Handle)}
    {notes : List Note} (chronicle : Chronicle start notes server) (fresh : Fresh start) :
    Grants notes (desk server.system) := by
  induction chronicle with
  | start => refine ⟨?_, ?_, ?_⟩ <;> simp [desk, fresh.unvisited]
  | step chronicle event happened ih =>
      exact ih.step (chronicle.history.asks fresh).isSettled (chronicle.provenance fresh)
        (step_deskStep happened)

/-- What a session does with URBs. -/
def concernsUrbs : Session.Deed → Bool
  | .offered _ _ | .cancelled _ => true
  | _ => false

/-- Only a session that is busy and has not reset the flags does anything with URBs. -/
theorem Happening.busy_of_urb [UsbHandle Handle] {server next : Server (Host Handle)}
    {link : LinkId} {what : Session.Deed}
    (happening : Happening server (some (.session link what)) next) (urb : concernsUrbs what = true)
    (asks : Asks server.system) :
    ∃ visit, server.system.visit = some visit ∧ visit.link = link ∧
      visit.session.phase = .busy ∧ visit.session.stage.isReset = false := by
  generalize told : some (Deed.session link what) = deed at happening
  cases happening with
  | @session visit said next visit_eq move =>
      obtain ⟨what', rfl, said_eq⟩ := Option.map_eq_some_iff.1 told.symm
      obtain ⟨rfl, rfl⟩ := Deed.session.inj said_eq
      have going {stage : Session.Stage} (stage_eq : visit.session.stage = stage)
          (phase_eq : stage.phase? = some .busy) : ∃ visit', server.system.visit = some visit' ∧
            visit'.link = visit.link ∧ visit'.session.phase = .busy ∧
              visit'.session.stage.isReset = false := by
        refine ⟨visit, visit_eq, rfl, ?_, ?_⟩
        · exact asks.fits visit visit_eq .busy (by rw [stage_eq, phase_eq]; rfl)
        · rw [stage_eq]
          cases stage <;> first | rfl | cases phase_eq
      cases move with
      | posted stage_eq => exact going stage_eq rfl
      | dropped stage_eq => exact going stage_eq rfl
      | cancelled stage_eq => exact going stage_eq rfl
      | _ => cases urb
  | executor move => exact absurd told.symm (move.ne_session _ _)
  | _ => cases told

/-- Whenever a session is busy and has not reset the flags, the device is marked busy, all its
interfaces are claimed, and an import that this very session asked for was accepted, with a frame
that grants the device written to its socket in full; and nobody but such a session does anything
with URBs. -/
theorem granted_of_busy [UsbHandle Handle] {start server : Server (Host Handle)}
    {notes : List Note} (fresh : Fresh start) (chronicle : Chronicle start notes server) :
    (∀ visit, server.system.visit = some visit → visit.session.phase = .busy →
      visit.session.stage.isReset = false →
        server.system.flags.busy = true ∧
        server.system.executor.claimed = server.system.executor.interfaces ∧
        ∃ header body confirm socket before frame after,
          [.ofAsked ⟨header, .importDevice body confirm, visit.link⟩,
            .replied ⟨header.version, body.busId, confirm, visit.link⟩ true true].Sublist notes ∧
          server.system.links[visit.link]? = some socket ∧
          socket.guard.sink.written = before ++ frame ++ after ∧
          IsGrant header.version server.system.executor.device frame) ∧
    ∀ event next link what, Server.step company server event = some next →
      done? server event = some (.session link what) → concernsUrbs what = true →
        ∃ visit, server.system.visit = some visit ∧ visit.link = link ∧
          visit.session.phase = .busy ∧ visit.session.stage.isReset = false := by
  refine ⟨fun visit visit_eq busy unreset => ?_, fun event next link what happened said urb => ?_⟩
  · have granted := (chronicle.grants fresh).kept visit visit_eq busy unreset
    obtain ⟨header, body, confirm, replied⟩ := granted.replied
    obtain ⟨guard, guard_eq, written⟩ := (chronicle.receipts fresh).written
      (replied.subset (List.mem_cons_of_mem _ (List.mem_singleton_self _))) rfl
    obtain ⟨socket, socket_eq, rfl⟩ :
        ∃ socket, server.system.links[visit.link]? = some socket ∧ socket.guard = guard := by
      simpa [guards] using guard_eq
    obtain ⟨before, after, written_eq⟩ := written
    exact ⟨granted.busy, granted.claimed, header, body, confirm, socket, before, _, after, replied,
      socket_eq, written_eq.symm, isGrant_accepted _ _⟩
  · have happening := step_happening happened
    rw [said] at happening
    exact happening.busy_of_urb urb (chronicle.history.asks fresh)

theorem granted_of_busy_after_import :
    (retell placid firstImport).2.system.visit.map (fun visit => (visit.link,
        visit.session.phase, visit.session.stage.isReset)) = some (0, .busy, false) ∧
      (retell placid firstImport).2.system.flags.busy = true ∧
      (retell placid firstImport).2.system.executor.claimed = [0] ∧
      ∃ header body confirm socket before frame after,
        [.ofAsked ⟨header, .importDevice body confirm, 0⟩,
          .replied ⟨header.version, body.busId, confirm, 0⟩ true true].Sublist
            (retell placid firstImport).1 ∧
        (retell placid firstImport).2.system.links[0]? = some socket ∧
        socket.guard.sink.written = before ++ frame ++ after ∧
        IsGrant header.version { busId := "1" } frame := by
  have visited : (retell placid firstImport).2.system.visit.map (fun visit => (visit.link,
      visit.session.phase, visit.session.stage.isReset)) = some (0, .busy, false) := by
    decide +kernel
  have exported : (retell placid firstImport).2.system.executor.device = { busId := "1" } ∧
      (retell placid firstImport).2.system.executor.interfaces = [0] := by decide +kernel
  obtain ⟨visit, visit_eq, seen⟩ := Option.map_eq_some_iff.1 visited
  obtain ⟨link_eq, busy, unreset⟩ : visit.link = 0 ∧ visit.session.phase = .busy ∧
      visit.session.stage.isReset = false := by simpa using seen
  have granted := (granted_of_busy fresh_placid (chronicle_retell placid firstImport)).1 visit
    visit_eq busy unreset
  rw [link_eq, exported.1, exported.2] at granted
  exact ⟨visited, granted⟩

end UsbExport.Host

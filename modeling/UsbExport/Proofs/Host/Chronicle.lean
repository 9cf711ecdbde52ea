import UsbExport.Proofs.Host.Ledger

/-!
Runs of a server with a host executor, told with everything that decides who has the device and who
is answered: besides the deeds, how far the handling of a request has come, where a cancellation
finds its URB, and when a session stops waiting for an answer.
-/

namespace UsbExport

open Dispatch

/-- The session has waited in vain for as long as it waits. -/
def System.isOverdue {Executor : Type} (system : System Executor) (visit : Visit) : Bool :=
  match visit.wait with
  | .answer slot (some deadline) =>
      visit.session.stage.awaits && system.slot slot == .open && deadline ≤ system.now
  | _ => false

namespace Host

variable {Handle : Type}

/-- Where a cancellation finds the URB of its number. -/
inductive Found
  /-- Not in flight. -/
  | absent
  /-- In flight, and still in the queue of its worker. -/
  | queued
  /-- In flight, and taken up by its worker. -/
  | underway
deriving DecidableEq, Repr

def Ledger.find (ledger : Ledger) (target : UInt32) : Found :=
  if target ∈ ledger.urbs.inFlight then
    if ledger.works.any fun work => work.queue.any (·.seqnum == target) then .queued else .underway
  else .absent

/-- What the parties do, in as much detail as any of the theorems needs. -/
inductive Note
  | deed (deed : Deed)
  /-- The session on a socket cancelled a URB. -/
  | cancelled (link : LinkId) (target : UInt32) (found : Found)
  /-- The session on a socket stopped waiting for an answer. -/
  | gaveUp (link : LinkId)
  /-- The interfaces that were claimed for an import went into the books. -/
  | recorded (order : ImportOrder)
  /-- The device was marked busy for an import. -/
  | marked (order : ImportOrder)
  /-- The reply to an import has had its turn. -/
  | replied (order : ImportOrder) (accepted succeeded : Bool)
  /-- A device list has had its turn. -/
  | listed (version : UInt16) (link : LinkId) (slot : SlotId) (succeeded : Bool)
deriving DecidableEq, Repr

def Note.deed? : Note → Option Deed
  | .deed what => some what
  | .cancelled link target _ => some (.session link (.cancelled target))
  | _ => none

/-! ### What the next event comes to -/

/-- Whether the errand that a move with a ticket brings to its end goes well. -/
def succeeded? (system : System (Host Handle)) (link : LinkId) (ticket : Socket.Ticket) :
    Option Bool :=
  match system.served? link ticket with
  | some (.served _ succeeded) => some succeeded
  | _ => none

def sessionNote? (system : System (Host Handle)) : Option Note :=
  system.visit.bind fun visit =>
    match system.deed? with
    | some (.cancelled target) =>
        some (.cancelled visit.link target ((ledger system).find target))
    | some deed => some (.deed (.session visit.link deed))
    | none => if system.isOverdue visit then some (.gaveUp visit.link) else none

def loopNote? (preference : Preference) (system : System (Host Handle)) : Option Note :=
  match system.executor.loop with
  | .listing version link replied (some ticket) =>
      (succeeded? system link ticket).map (.listed version link replied)
  | .importing order .recording => some (.recorded order)
  | .importing order .marking => some (.marked order)
  | .importing order (.replying accepted (some ticket)) =>
      (succeeded? system order.reply ticket).map (.replied order accepted)
  | _ => (loopDeed? preference system).map .deed

def note? [UsbHandle Handle] (server : Server (Host Handle)) :
    Server.Event Party → Option Note
  | .move (.inner .session) => sessionNote? server.system
  | .move (.inner (.loop preference)) => loopNote? preference server.system
  | .move (.inner party) => (deed? server.system party).map .deed
  | _ => none

theorem sessionNote?_deed (system : System (Host Handle)) :
    (sessionNote? system).bind Note.deed? =
      system.visit.bind fun visit => system.deed?.map (.session visit.link) := by
  unfold sessionNote?
  cases system.visit with
  | none => rfl
  | some visit =>
      simp only [Option.bind_some]
      split
      · next said => rw [said]; rfl
      · next said => rw [said]; rfl
      · next said =>
          rw [said]
          split <;> rfl

theorem loopNote?_deed (preference : Preference) (system : System (Host Handle)) :
    (loopNote? preference system).bind Note.deed? = loopDeed? preference system := by
  have silent {notes : Bool → Note} (quiet : ∀ succeeded, (notes succeeded).deed? = none)
      (result : Option Bool) : (result.map notes).bind Note.deed? = none := by
    cases result <;> simp [quiet]
  unfold loopNote?
  split
  · next loop_eq =>
      rw [silent fun _ => rfl]
      simp [loopDeed?, taken?, loop_eq]
  · next loop_eq => simp [loopDeed?, loop_eq, ImportStage.deed?, Note.deed?]
  · next loop_eq => simp [loopDeed?, loop_eq, ImportStage.deed?, Note.deed?]
  · next loop_eq =>
      rw [silent fun _ => rfl]
      simp [loopDeed?, loop_eq, ImportStage.deed?]
  · cases loopDeed? preference system <;> rfl

/-- A note tells whatever deed there is. -/
theorem note?_deed [UsbHandle Handle] (server : Server (Host Handle))
    (event : Server.Event Party) : (note? server event).bind Note.deed? = done? server event := by
  have told (deed : Option Deed) : (deed.map .deed).bind Note.deed? = deed := by
    cases deed <;> rfl
  cases event with
  | move party =>
      cases party with
      | acceptor => rfl
      | inner party =>
          cases party with
          | session => exact sessionNote?_deed server.system
          | loop preference => exact loopNote?_deed preference server.system
          | worker id => exact told _
          | job id => exact told _
          | transfer id => exact told (deed? server.system (.transfer id))
  | _ => rfl

/-! ### Chronicles -/

/-- The runs from a state, with the notes that were made on the way. -/
inductive Chronicle [UsbHandle Handle] (start : Server (Host Handle)) :
    List Note → Server (Host Handle) → Prop
  | start : Chronicle start [] start
  | step {notes : List Note} {server next : Server (Host Handle)}
      (chronicle : Chronicle start notes server) (event : Server.Event Party)
      (happened : Server.step company server event = some next) :
      Chronicle start (notes ++ (note? server event).toList) next

def deeds (notes : List Note) : List Deed := notes.filterMap Note.deed?

theorem deeds_append (notes : List Note) (note : Option Note) :
    deeds (notes ++ note.toList) = deeds notes ++ (note.bind Note.deed?).toList :=
  filterMap_append_toList Note.deed? notes note

namespace Chronicle

variable [UsbHandle Handle] {start mid server last : Server (Host Handle)}
  {notes before after : List Note}

theorem history (chronicle : Chronicle start notes server) :
    History start (deeds notes) server := by
  induction chronicle with
  | start => exact .start
  | step _ event happened ih =>
      rw [deeds_append, note?_deed]
      exact ih.step event happened

theorem append (past : Chronicle start before mid) (future : Chronicle mid after last) :
    Chronicle start (before ++ after) last := by
  induction future with
  | start => rwa [List.append_nil]
  | step _ event happened ih =>
      rw [← List.append_assoc]
      exact .step ih event happened

/-- The move of a party, with the note that it makes. -/
theorem of_move {party : Party} {system : System (Host Handle)} {note : Option Note}
    (moved : (company.move party server.system).next? = some system)
    (made : note? server (.move (.inner party)) = note) :
    Chronicle server note.toList { server with system } := by
  subst made
  refine .step .start (.move (.inner party)) ?_
  show (server.lift _).next? = _
  cases went : company.move party server.system with
  | blocked => simp [went, Move.next?] at moved
  | went next =>
      rw [went] at moved
      cases moved
      rfl
  | paused next =>
      rw [went] at moved
      cases moved
      rfl

/-- A chronicle can be cut where a note was made. -/
theorem cut {note : Note} (chronicle : Chronicle start (before ++ note :: after) last) :
    ∃ mid event next, Chronicle start before mid ∧ Server.step company mid event = some next ∧
      note? mid event = some note ∧ Chronicle next after last := by
  generalize whole : before ++ note :: after = notes at chronicle
  induction chronicle generalizing after with
  | start => simp at whole
  | @step notes server next chronicle event happened ih =>
      cases made : note? server event with
      | none =>
          rw [made, Option.toList_none, List.append_nil] at whole
          obtain ⟨mid, event', next', past, step, told, future⟩ := ih whole
          refine ⟨mid, event', next', past, step, told, ?_⟩
          simpa [made] using future.step event happened
      | some later =>
          rw [made, Option.toList_some] at whole
          rcases List.eq_nil_or_concat after with rfl | ⟨shorter, final, rfl⟩
          · obtain ⟨rfl, same⟩ := List.append_inj' whole rfl
            obtain rfl : note = later := by simpa using same
            exact ⟨server, event, next, chronicle, happened, made, .start⟩
          · rw [List.concat_eq_append, ← List.cons_append, ← List.append_assoc] at whole
            obtain ⟨whole, same⟩ := List.append_inj' whole rfl
            obtain ⟨mid, event', next', past, step, told, future⟩ := ih whole
            refine ⟨mid, event', next', past, step, told, ?_⟩
            rw [List.concat_eq_append, same]
            simpa [made] using future.step event happened

theorem split (chronicle : Chronicle start (before ++ after) last) :
    ∃ mid, Chronicle start before mid ∧ Chronicle mid after last := by
  cases after with
  | nil =>
      rw [List.append_nil] at chronicle
      exact ⟨last, chronicle, .start⟩
  | cons note after =>
      obtain ⟨mid, event, next, past, happened, made, future⟩ := chronicle.cut
      have first := Chronicle.step .start event happened
      rw [made] at first
      exact ⟨mid, past, first.append future⟩

end Chronicle

/-- Goes along with events, past those that cannot happen, and tells the notes. -/
def retell [UsbHandle Handle] (server : Server (Host Handle)) :
    List (Server.Event Party) → List Note × Server (Host Handle)
  | [] => ([], server)
  | event :: events =>
      match Server.step company server event with
      | none => retell server events
      | some next =>
          let (notes, last) := retell next events
          ((note? server event).toList ++ notes, last)

theorem chronicle_retell [UsbHandle Handle] (server : Server (Host Handle))
    (events : List (Server.Event Party)) :
    Chronicle server (retell server events).1 (retell server events).2 := by
  induction events generalizing server with
  | nil => exact .start
  | cons event events ih =>
      rw [retell]
      cases happened : Server.step company server event with
      | none => exact ih server
      | some next => exact (Chronicle.step .start event happened).append (ih next)

end Host

end UsbExport

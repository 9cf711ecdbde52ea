import UsbExport.Proofs.Host.Contents
import UsbExport.Proofs.Host.Sent

/-!
What a client is sent once it has the device. After the reply to its import the socket gets nothing
but acknowledged unlinks and completions of its own submits. Main statement: if no send fails, a
client that knows which of its submits read from the device can tell these replies apart.
-/

namespace UsbExport.Host

open Dispatch Socket

variable {Handle : Type}

/-! ### What the frames are -/

/-- The acknowledgement of an unlink, or the completion of one of these submits. -/
def IsReply (bound : Nat) (submits : List Submit) (frame : Bytes) : Prop :=
  (∃ seqnum, frame = (UnlinkReply.acknowledge seqnum 0).encode) ∨
    ∃ submit ∈ submits, ∃ completion, Completes bound submit completion ∧ frame = completion.encode

theorem IsReply.whole {bound : Nat} {submits : List Submit} {frame : Bytes}
    (reply : IsReply bound submits frame) (distinct : (submits.map (·.header.seqnum)).Nodup) :
    replyLength (Submit.reads submits) frame = frame.length := by
  rcases reply with ⟨seqnum, rfl⟩ | ⟨submit, member, completion, completes, rfl⟩
  · exact replyLength_acknowledge ..
  · exact completes.whole distinct member

/-- Whatever the executor got from a client is among these submits. -/
def Covers (submits : List Submit) (link : LinkId) (notes : List Note) : Prop :=
  ∀ request ∈ posted (deeds notes), request.reply = link → request.submit ∈ submits

section

variable {bound : Nat} {submits : List Submit} {link : LinkId} {frame : Bytes}

theorem Covers.of_sublist {notes fewer : List Note} (covers : Covers submits link notes)
    (sublist : fewer.Sublist notes) : Covers submits link fewer :=
  fun request known => covers request ((sublist.filterMap _).filterMap _ |>.subset known)

theorem isReply_of_errand {stage : Session.Stage} (errand : stage.errand? = some (.send frame)) :
    IsReply bound submits frame := by
  cases stage with
  | acknowledging seqnum =>
      cases errand
      exact Or.inl ⟨seqnum, rfl⟩
  | _ => cases errand

theorem isReply_of_carries {notes : List Note} (covers : Covers submits link notes)
    {completion : Completion} {ticket : Option Ticket}
    (carries : (WorkerStage.replying link completion ticket).Carries bound (deeds notes)) :
    IsReply bound submits (Reply.completed completion).encode := by
  obtain ⟨request, known, reply_eq, completes⟩ := carries
  exact Or.inr ⟨request.submit, covers request known reply_eq, completion, completes, rfl⟩

theorem link?_of_loopPlace? {host : Host Handle} {place : Place}
    (placed : loopPlace? host = some place) : host.loop.link? = some place.link := by
  unfold loopPlace? at placed
  split at placed
  · next loop_eq =>
      cases placed
      rw [loop_eq]
      rfl
  · next loop_eq =>
      cases placed
      rw [loop_eq]
      rfl
  · cases placed

/-- Whoever stands in line at the socket of a client that has the device brings a reply. -/
theorem Told.isReply_of_place {server : Server (Host Handle)} (told : Told link server)
    {notes : List Note} (covers : Covers submits link notes)
    (carries : ∀ work ∈ (ledger server.system).works, work.stage.Carries bound (deeds notes))
    {ticket : Ticket} (placed : ⟨link, ticket, .send frame⟩ ∈ places server.system) :
    IsReply bound submits frame := by
  rcases List.mem_append.1 placed with session | others
  · obtain ⟨visit, -, placed⟩ := Option.bind_eq_some_iff.1 (Option.mem_toList.1 session)
    unfold Visit.place? at placed
    split at placed
    · next errand =>
        cases placed
        exact isReply_of_errand errand
    · cases placed
  rcases List.mem_append.1 others with loop | working
  · refine absurd ?_ told.unasked
    exact List.mem_append_left _
      (Option.mem_toList.2 (link?_of_loopPlace? (Option.mem_toList.1 loop)))
  · obtain ⟨worker, member, placed⟩ := List.mem_filterMap.1 working
    have carries := carries worker.work (List.mem_map_of_mem member)
    unfold WorkerStage.place? at placed
    split at placed
    · next link completion ticket stage_eq =>
        cases placed
        have stage_eq : worker.work.stage = .replying link completion (some ticket) := stage_eq
        rw [stage_eq] at carries
        exact isReply_of_carries covers carries
    · cases placed

end

namespace Chronicle

variable [UsbHandle Handle] {start mid last : Server (Host Handle)}
  {notes before after : List Note} {link : LinkId}

theorem bound_eq (chronicle : Chronicle start notes last) :
    last.system.executor.maxTransfer = start.system.executor.maxTransfer := by
  induction chronicle with
  | start => rfl
  | step _ event happened ih => exact (step_happening happened).bound_eq.trans ih

/-- What is sent to a client, but not by the executor itself, is a reply. -/
theorem isReply_of_outcome (chronicle : Chronicle start notes last) (fresh : Fresh start)
    (measured : Measured Handle) {submits : List Submit} (covers : Covers submits link notes)
    {note : Note} (member : note ∈ notes) (unsaid : note.saidTo? ≠ some link)
    {host : Host Handle} {frame : Bytes} {succeeded : Bool}
    (told : note.outcome? host = some (link, .send frame, succeeded)) :
    IsReply last.system.executor.maxTransfer submits frame := by
  obtain ⟨front, back, rfl⟩ := List.append_of_mem member
  obtain ⟨mid, event, next, past, happened, made, future⟩ := chronicle.cut
  have happening := step_happening happened
  rw [← note?_deed, made] at happening
  unfold Note.outcome? at told
  split at told <;> cases told
  · obtain ⟨visit, -, -, errand, -⟩ := happening.errand_of_served (past.lines fresh) rfl
    exact isReply_of_errand errand
  · next completion =>
      obtain ⟨work, member, ticket, stage_eq⟩ := happening.ledgerStep.replying_of_answer rfl
      have carries := past.history.carries fresh measured work member
      rw [stage_eq] at carries
      rw [future.bound_eq, happening.bound_eq]
      exact isReply_of_carries (covers.of_sublist (List.sublist_append_left _ _)) carries
  · exact absurd rfl unsaid
  · exact absurd rfl unsaid

/-- The last thing that the executor said to a client that has the device is that its import was
accepted. -/
theorem saidLast_accepted (past : Chronicle start before mid) (fresh : Fresh start)
    (atWork : AtWork link (desk mid.system)) (since : Chronicle mid after last) :
    ∃ order, order.reply = link ∧ SaidLast link (.replied order true true) (before ++ after) := by
  have unsaid := past.unsaid fresh atWork since
  obtain ⟨visit, visit_eq, rfl, busy, going⟩ := atWork
  obtain ⟨order, reply_eq, granted⟩ := ((past.grants fresh).kept visit visit_eq busy going).last
  exact ⟨order, reply_eq, granted.later unsaid⟩

/-- The frame under way on the socket of a client that has the device is a reply. -/
theorem isReply_underway (past : Chronicle start before mid) (fresh : Fresh start)
    (atWork : AtWork link (desk mid.system)) (since : Chronicle mid after last)
    (measured : Measured Handle) {submits : List Submit}
    (covers : Covers submits link (before ++ after)) {guard : Guard}
    (guard_eq : (guards last.system)[link]? = some guard) :
    ∃ frame, IsReply last.system.executor.maxTransfer submits frame ∧
      guard.takenSoFar <+: frame := by
  have whole := past.append since
  rcases (whole.receipts fresh).underway guard_eq with idle | ⟨ticket, frame, standing, cut⟩
  · rw [idle]
    exact ⟨_, Or.inl ⟨0, rfl⟩, List.nil_prefix⟩
  · have placed := (whole.lines fresh).place guard_eq standing
    have carries := whole.history.carries fresh measured
    exact ⟨frame, (past.told fresh atWork since).isReply_of_place covers carries placed, cut⟩

end Chronicle

/-- **A client can tell its replies apart.** While no send to a client fails, what its socket gets
after the reply to its import splits into the replies that were sent, and the beginning of the one
under way, for a reader that only knows which of the submits read from the device. Each of them
acknowledges an unlink or completes a submit, with no data if that failed, and otherwise with no
more than there is room for. -/
theorem replies_split [UsbHandle Handle] {start mid last : Server (Host Handle)}
    {before after : List Note} {link : LinkId} {submits : List Submit}
    (measured : Measured Handle) (fresh : Fresh start) (past : Chronicle start before mid)
    (atWork : AtWork link (desk mid.system)) (since : Chronicle mid after last)
    (unfailed : ∀ frame,
      (.send frame, false) ∉ outcomesAt last.system.executor link (before ++ after))
    (covers : Covers submits link (before ++ after))
    (distinct : (submits.map (·.header.seqnum)).Nodup) :
    ∃ socket version earlier later stream frames rest,
      last.system.links[link]? = some socket ∧
      outcomesAt last.system.executor link (before ++ after) = earlier ++
        (.send (Reply.accepted version last.system.executor.device).encode, true) :: later ∧
      socket.guard.sink.written = (sentFrames earlier).flatten ++
        (Reply.accepted version last.system.executor.device).encode ++ stream ∧
      splitReplies (Submit.reads submits) stream = (frames, rest) ∧
      (frames = sentFrames later ∧ rest = socket.guard.takenSoFar ∨
        frames = sentFrames later ++ [socket.guard.takenSoFar] ∧ rest = []) ∧
      ∀ frame ∈ frames, IsReply last.system.executor.maxTransfer submits frame := by
  have whole := past.append since
  have receipts := whole.receipts fresh
  obtain ⟨order, reply_eq, front, back, notes_eq, quiet⟩ :=
    past.saidLast_accepted fresh atWork since
  set host := last.system.executor
  have told : Note.outcome? host (.replied order true true) =
      some (link, .send (Reply.accepted order.version host.device).encode, true) := by
    rw [← reply_eq]
    rfl
  have outcomes_eq : outcomesAt host link (before ++ after) = outcomesAt host link front ++
      (.send (Reply.accepted order.version host.device).encode, true) ::
        outcomesAt host link back := by
    rw [notes_eq]
    exact outcomesAt_of_told told front back
  obtain ⟨guard, guard_eq, -⟩ := receipts.written (by simp [notes_eq]) told
  obtain ⟨socket, socket_eq, rfl⟩ :
      ∃ socket, last.system.links[link]? = some socket ∧ socket.guard = guard := by
    simpa [guards] using guard_eq
  have written :=
    calc socket.guard.sink.written
        = (sentFrames (outcomesAt host link (before ++ after))).flatten ++
            socket.guard.takenSoFar := receipts.written_of_unfailed guard_eq unfailed
      _ = (sentFrames (outcomesAt host link front)).flatten ++
            (Reply.accepted order.version host.device).encode ++
              ((sentFrames (outcomesAt host link back)).flatten ++ socket.guard.takenSoFar) := by
          rw [outcomes_eq]
          simp [sentFrames]
  have replies : ∀ frame ∈ sentFrames (outcomesAt host link back),
      IsReply host.maxTransfer submits frame := by
    intro frame sent
    obtain ⟨note, member, told⟩ := mem_outcomesAt.1 (mem_sentFrames sent)
    apply whole.isReply_of_outcome fresh measured covers _ (quiet note member) told
    simp [notes_eq, member]
  obtain ⟨next, reply, cut⟩ := past.isReply_underway fresh atWork since measured covers guard_eq
  have split := splitReplies_of_part (fun frame sent => (replies frame sent).whole distinct)
    (reply.whole distinct) cut
  by_cases complete : socket.guard.takenSoFar = next
  · rw [if_pos complete] at split
    have all : ∀ frame ∈ sentFrames (outcomesAt host link back) ++ [socket.guard.takenSoFar],
        IsReply host.maxTransfer submits frame := by
      rw [List.forall_mem_append, List.forall_mem_singleton]
      exact ⟨replies, complete ▸ reply⟩
    exact ⟨socket, order.version, _, _, _, _, _, socket_eq, outcomes_eq, written, split,
      Or.inr ⟨rfl, rfl⟩, all⟩
  · rw [if_neg complete] at split
    exact ⟨socket, order.version, _, _, _, _, _, socket_eq, outcomes_eq, written, split,
      Or.inl ⟨rfl, rfl⟩, replies⟩

/-- A submit that asks for four bytes from the control pipe. -/
def descriptorRead : Submit :=
  ⟨⟨1, 9, 1, 1, 0⟩, ⟨0, 8, 0, 0, 0, .ofBytes 8 [0x80, 6, 0, 1, 0, 0, 4, 0]⟩, [], []⟩

/-- Submits that read and write come in, and an unlink, which is answered first. -/
def threeReplies : List Note × Server (Host Placid) :=
  retell (retell placid firstImport).2
    ([.arrive 0 (descriptorRead.encode ++ placidSubmit.encode ++ placidUnlink)] ++
      sessionMoves 9 ++ rounds 12 ++
        moves [.worker 1, .job 2, .transfer 1, .worker 1, .worker 1, .worker 1, .worker 1])

theorem replies_split_of_three :
    posted (deeds ((retell placid firstImport).1 ++ threeReplies.1)) =
        [⟨descriptorRead, 0⟩, ⟨placidSubmit, 0⟩] ∧
      (sentFrames (outcomesAt threeReplies.2.system.executor 0
        ((retell placid firstImport).1 ++ threeReplies.1))).map List.length = [320, 48, 52, 48] ∧
      ∃ socket version earlier later stream frames rest,
        threeReplies.2.system.links[0]? = some socket ∧
        outcomesAt threeReplies.2.system.executor 0
            ((retell placid firstImport).1 ++ threeReplies.1) =
          earlier ++ (.send (Reply.accepted version { busId := "1" }).encode, true) :: later ∧
        socket.guard.sink.written = (sentFrames earlier).flatten ++
          (Reply.accepted version { busId := "1" }).encode ++ stream ∧
        splitReplies (Submit.reads [descriptorRead, placidSubmit]) stream = (frames, rest) ∧
        (frames = sentFrames later ∧ rest = socket.guard.takenSoFar ∨
          frames = sentFrames later ++ [socket.guard.takenSoFar] ∧ rest = []) ∧
        ∀ frame ∈ frames, IsReply 1024 [descriptorRead, placidSubmit] frame := by
  have posted_eq : posted (deeds ((retell placid firstImport).1 ++ threeReplies.1)) =
      [⟨descriptorRead, 0⟩, ⟨placidSubmit, 0⟩] := by decide +kernel
  have lengths : (sentFrames (outcomesAt threeReplies.2.system.executor 0
      ((retell placid firstImport).1 ++ threeReplies.1))).map List.length = [320, 48, 52, 48] := by
    decide +kernel
  have succeeded : (outcomesAt threeReplies.2.system.executor 0
      ((retell placid firstImport).1 ++ threeReplies.1)).all (·.2) = true := by decide +kernel
  have exported : threeReplies.2.system.executor.device = { busId := "1" } ∧
      threeReplies.2.system.executor.maxTransfer = 1024 := by decide +kernel
  have measured : Measured Placid := by
    rintro handle transfer moved ⟨⟩
    exact Nat.le_refl _
  have covers : Covers [descriptorRead, placidSubmit] 0
      ((retell placid firstImport).1 ++ threeReplies.1) := by
    intro request known _
    rw [posted_eq] at known
    exact List.mem_map_of_mem known
  have split := replies_split measured fresh_placid (chronicle_retell placid firstImport)
    atWork_firstImport (chronicle_retell _ _) (Unfailed.of_all succeeded) covers (by decide)
  rw [← threeReplies, exported.1, exported.2] at split
  exact ⟨posted_eq, lengths, split⟩

end UsbExport.Host

import UsbExport.Proofs.Host.Books
import UsbExport.Proofs.Host.StageMoves
import UsbExport.Proofs.Wire.Replies

/-!
What is in a completion. Its data are as long as it says, if the submit reads from the device, and
else there are none; a failure brings neither data nor a length; and nothing is longer than what
was asked for. All this is settled when the transfer begins, and goes with the worker from stage to
stage.
-/

namespace UsbExport.Host

open Dispatch Socket

variable {Handle : Type}

/-- A device that never says it has moved more than the buffer holds. -/
def Measured (Handle : Type) [UsbHandle Handle] : Prop :=
  ∀ (handle : Handle) (transfer : Transfer) (moved : Transferred),
    (UsbHandle.transfer handle transfer).2 = .ok moved → moved.count ≤ transfer.bufferSize

/-- A submit that reads has room for this many bytes: no more than it asks for, than the executor
allows, and on the control pipe than the setup packet asks for. -/
structure HasRoom (bound : Nat) (submit : Submit) (length : Nat) : Prop where
  asked : length ≤ submit.params.bufferLength.toNat
  allowed : length ≤ bound
  setUp : submit.header.endpoint &&& 0xF = 0 →
    length ≤ (SetupPacket.ofOctets submit.params.setup).length.toNat

theorem HasRoom.of_le {bound length shorter : Nat} {submit : Submit}
    (room : HasRoom bound submit length) (le : shorter ≤ length) : HasRoom bound submit shorter :=
  ⟨Nat.le_trans le room.asked, Nat.le_trans le room.allowed,
    fun zero => Nat.le_trans le (room.setUp zero)⟩

/-- The completion of a submit, by an executor with a bound on transfers. -/
structure Completes (bound : Nat) (submit : Submit) (completion : Completion) : Prop where
  header_eq : completion.header = .reply Command.returnSubmit submit.header.seqnum
  plain : completion.descriptors = []
  length_eq : completion.data.length =
    if submit.header.isOut then 0 else completion.actualLength.toNat
  failed : completion.status ≠ 0 → completion.data = [] ∧ completion.actualLength = 0
  within : submit.header.isOut = false → HasRoom bound submit completion.actualLength.toNat

theorem Completes.whole {bound : Nat} {submit : Submit} {completion : Completion}
    (completes : Completes bound submit completion) {submits : List Submit}
    (distinct : (submits.map (·.header.seqnum)).Nodup) (member : submit ∈ submits) :
    replyLength (Submit.reads submits) completion.encode = completion.encode.length := by
  have seqnum_eq : completion.header.seqnum = submit.header.seqnum := by
    rw [completes.header_eq]
    rfl
  have command_eq : completion.header.command = Command.returnSubmit := by
    rw [completes.header_eq]
    rfl
  rw [completion.replyLength_encode, completion.length_encode, completes.plain, completes.length_eq,
    command_eq, seqnum_eq, Submit.reads_eq distinct member]
  cases submit.header.isOut <;> simp

/-! ### What is planned -/

/-- The buffer that is made for a submit is within all that bounds it. -/
theorem hasRoom_room (host : Host Handle) (submit : Submit) :
    HasRoom host.maxTransfer submit (host.room submit) := by
  simp only [room]
  split
  · exact ⟨Nat.zero_le _, Nat.zero_le _, fun _ => Nat.zero_le _⟩
  · split
    · constructor <;> omega
    · next numbered =>
        refine ⟨Nat.min_le_left .., Nat.min_le_right .., fun zero => absurd ?_ numbered⟩
        rw [zero]
        rfl

/-- What a submit becomes: a transfer in its direction, with its data or with the buffer that was
made for it. -/
theorem bufferSize_of_planned {host : Host Handle} {submit : Submit} {transfer : Transfer}
    (planned : host.plan submit = .ok transfer) :
    transfer.isIn = !submit.header.isOut ∧
      transfer.bufferSize =
        if submit.header.isOut then submit.data.length else host.room submit := by
  simp only [plan] at planned
  cases isOut : submit.header.isOut with
  | true =>
      simp only [isOut, if_true] at planned
      repeat' split at planned
      all_goals cases planned
      all_goals exact ⟨rfl, rfl⟩
  | false =>
      simp only [isOut, Bool.false_eq_true, if_false] at planned
      repeat' split at planned
      all_goals cases planned
      all_goals exact ⟨rfl, rfl⟩

/-- A submit that reads becomes a transfer that reads, with no more than there is room for. -/
theorem hasRoom_of_planned {host : Host Handle} {submit : Submit} {transfer : Transfer}
    (planned : host.plan submit = .ok transfer) :
    transfer.isIn = !submit.header.isOut ∧
      (submit.header.isOut = false → HasRoom host.maxTransfer submit transfer.bufferSize) := by
  obtain ⟨isIn_eq, size_eq⟩ := bufferSize_of_planned planned
  refine ⟨isIn_eq, fun isIn => ?_⟩
  rw [size_eq, isIn]
  exact hasRoom_room host submit

theorem completes_of_error (bound : Nat) (submit : Submit) (error : UsbError) :
    Completes bound submit (completion submit.header.seqnum (.error error)) where
  header_eq := rfl
  plain := rfl
  length_eq := by
    show 0 = _
    split <;> rfl
  failed _ := ⟨rfl, rfl⟩
  within _ := ⟨Nat.zero_le _, Nat.zero_le _, fun _ => Nat.zero_le _⟩

theorem length_collect {transfer : Transfer} {moved : Transferred}
    (enough : moved.count ≤ transfer.bufferSize) : (transfer.collect moved).data.length =
      if transfer.isIn then moved.count else 0 := by
  simp only [Transfer.collect]
  split
  · rw [List.length_take, Octets.length_eq, Nat.min_eq_left enough]
  · rfl

/-- Whatever comes of a transfer that was planned, its completion fits the submit. -/
theorem completes_of_planned [UsbHandle Handle] (measured : Measured Handle) {host : Host Handle}
    {submit : Submit} {transfer : Transfer} (planned : host.plan submit = .ok transfer)
    (handle : Handle) :
    Completes host.maxTransfer submit (completion submit.header.seqnum
      ((UsbHandle.transfer handle transfer).2.map transfer.collect)) := by
  obtain ⟨isIn_eq, room⟩ := hasRoom_of_planned planned
  cases result : (UsbHandle.transfer handle transfer).2 with
  | error error => exact completes_of_error host.maxTransfer submit error
  | ok moved =>
      have enough := measured handle transfer moved result
      have length_eq := length_collect enough
      rw [isIn_eq] at length_eq
      have counted (isIn : submit.header.isOut = false) :
          moved.count.toUInt32.toNat = moved.count := by
        have fits := submit.params.bufferLength.toNat_lt
        have asked := (room isIn).asked
        exact Nat.mod_eq_of_lt (by omega)
      refine ⟨rfl, rfl, ?_, fun failed => absurd rfl failed, fun isIn => ?_⟩
      · show (transfer.collect moved).data.length = if _ then 0 else moved.count.toUInt32.toNat
        rw [length_eq]
        cases isOut : submit.header.isOut with
        | true => rfl
        | false => exact (counted isOut).symm
      · show HasRoom _ _ moved.count.toUInt32.toNat
        rw [counted isIn]
        exact (room isIn).of_le enough

/-! ### From stage to stage -/

/-- What a worker has or will have to report fits its submit. -/
def WorkerStage.Carries (bound : Nat) (trace : List Deed) : WorkerStage → Prop
  | .transferring request (some outcome) =>
      Completes bound request.submit (completion request.seqnum outcome)
  | .retiring request (some completion) => Completes bound request.submit completion
  | .replying link completion _ => ∃ request ∈ posted trace, request.reply = link ∧
      Completes bound request.submit completion
  | _ => True

variable [UsbHandle Handle]

theorem StageMove.carries (measured : Measured Handle) {system : System (Host Handle)}
    {before after : WorkerStage} (move : StageMove system before after) {trace : List Deed}
    (posted_of_held : ∀ request ∈ before.request?, request ∈ posted trace)
    (carries : before.Carries system.executor.maxTransfer trace) :
    after.Carries system.executor.maxTransfer trace := by
  cases move with
  | fails unplanned => exact completes_of_error ..
  | begins planned => exact completes_of_planned measured planned _
  | ends => exact carries
  | @reports request completion => exact ⟨request, posted_of_held request rfl, rfl, carries⟩
  | stands => exact carries
  | _ => trivial

theorem WorkerStage.Carries.later {bound : Nat} {trace : List Deed} {stage : WorkerStage}
    (carries : stage.Carries bound trace) (deed : Option Deed) :
    stage.Carries bound (trace ++ deed.toList) := by
  unfold Carries at carries ⊢
  split
  · exact carries
  · exact carries
  · obtain ⟨request, known, fits⟩ := carries
    refine ⟨request, ?_, fits⟩
    rw [posted_append]
    exact List.mem_append_left _ known
  · trivial

theorem Happening.bound_eq {server next : Server (Host Handle)} {deed : Option Deed}
    (happening : Happening server deed next) :
    next.system.executor.maxTransfer = server.system.executor.maxTransfer := by
  cases happening with
  | session visit_eq move =>
      cases move with
      | @stood errand wanted unset =>
          obtain ⟨links, frame, -⟩ := standInLine_frame server.system _ errand
          rw [frame]
          rfl
      | released stage_eq => exact server.system.executor.maxTransfer_release
      | _ => rfl
  | executor move =>
      rcases move.takes_or_proceeds with ⟨request, control, loop, -, -, rfl, -⟩ | proceeds
      · rfl
      · exact proceeds.bound_eq
  | _ => rfl

namespace History

variable {start server : Server (Host Handle)} {trace : List Deed}

theorem mem_posted_of_held (history : History start trace server) (fresh : Fresh start)
    {request : SubmitRequest} (held : request ∈ (ledger server.system).held) :
    request ∈ posted trace := by
  have perm := history.held_perm
  rw [fresh.ledger_eq] at perm
  exact perm.mem_iff.2 (List.mem_append_right _ held)

/-- Whatever a worker reports fits a submit of the client that it is reported to. -/
theorem carries (history : History start trace server) (fresh : Fresh start)
    (measured : Measured Handle) : ∀ work ∈ (ledger server.system).works,
      work.stage.Carries server.system.executor.maxTransfer trace := by
  induction history with
  | start => simp [fresh.ledger_eq]
  | @step trace server next history event happened ih =>
      intro work member
      have happening := step_happening happened
      rw [happening.bound_eq]
      refine WorkerStage.Carries.later ?_ _
      rcases happening.cameFrom work member with idle | ⟨earlier, found, same | move⟩
      · rw [idle]
        trivial
      · rw [← same]
        exact ih earlier found
      · refine move.carries measured (fun request mem => ?_) (ih earlier found)
        refine history.mem_posted_of_held fresh (List.mem_append_right _ ?_)
        refine List.mem_flatMap.2 ⟨earlier, found, List.mem_append_left _ ?_⟩
        exact Option.mem_toList.2 mem

end History

end UsbExport.Host

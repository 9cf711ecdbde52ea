import Mathlib.Data.List.Nodup
import UsbExport.Proofs.Wire.SubmitCodec
import UsbExport.Wire.Reply
import UsbExport.Wire.Unlink

/-!
The replies to a client that has the device, as bytes. A reply does not tell how long it is: whether
data follows depends on the request, which only the client knows. Main statement: who knows which of
the submits read from the device takes whole replies off the input one by one, and stops before one
that is not all there.
-/

namespace UsbExport

/-- Whether the submit of this number reads from the device. -/
def Submit.reads (submits : List Submit) (number : Nat) : Bool :=
  submits.any fun submit => submit.header.seqnum.toNat == number && !submit.header.isOut

theorem Submit.reads_eq {submits : List Submit}
    (distinct : (submits.map (·.header.seqnum)).Nodup) {submit : Submit}
    (member : submit ∈ submits) :
    reads submits submit.header.seqnum.toNat = !submit.header.isOut := by
  rw [Bool.eq_iff_iff, reads, List.any_eq_true]
  constructor
  · rintro ⟨other, found, same⟩
    rw [Bool.and_eq_true, beq_iff_eq] at same
    obtain rfl := List.inj_on_of_nodup_map distinct found member (UInt32.toNat_inj.1 same.1)
    exact same.2
  · intro isIn
    exact ⟨submit, member, by simpa using isIn⟩

/-! ### Taking replies off the input -/

/-- The number of the URB that a frame completes, if it is a completion. -/
def completed? (frame : Bytes) : Option Nat :=
  if 48 ≤ frame.length ∧ wordAt frame 0 = 3 then some (wordAt frame 4) else none

/-- Forty-eight octets, and the data if the reply is the completion of a submit that reads. -/
def replyLength (reads : Nat → Bool) (input : Bytes) : Nat :=
  if wordAt input 0 = 3 ∧ reads (wordAt input 4) = true then 48 + wordAt input 24 else 48

theorem le_replyLength (reads : Nat → Bool) (input : Bytes) : 48 ≤ replyLength reads input := by
  unfold replyLength
  split
  · exact Nat.le_add_right ..
  · exact Nat.le_refl _

/-- Takes replies off the input for as long as all of the next one is there. -/
def splitReplies (reads : Nat → Bool) (input : Bytes) : List Bytes × Bytes :=
  if 48 ≤ input.length ∧ replyLength reads input ≤ input.length then
    let later := splitReplies reads (input.drop (replyLength reads input))
    (input.take (replyLength reads input) :: later.1, later.2)
  else ([], input)
termination_by input.length
decreasing_by
  have long := le_replyLength reads input
  rw [List.length_drop]
  omega

theorem wordAt_append_left {front : Bytes} {offset : Nat} (enough : offset + 4 ≤ front.length)
    (tail : Bytes) : wordAt (front ++ tail) offset = wordAt front offset := by
  have left : 4 ≤ (front.drop offset).length := by
    rw [List.length_drop]
    omega
  rw [wordAt, wordAt, List.drop_append_of_le_length (by omega), List.take_append_of_le_length left]

theorem replyLength_append {front : Bytes} (enough : 48 ≤ front.length) (reads : Nat → Bool)
    (tail : Bytes) : replyLength reads (front ++ tail) = replyLength reads front := by
  rw [replyLength, replyLength, wordAt_append_left (by omega), wordAt_append_left (by omega),
    wordAt_append_left (by omega)]

section

variable {reads : Nat → Bool} {frame : Bytes} (whole : replyLength reads frame = frame.length)

include whole

theorem splitReplies_cons (tail : Bytes) : splitReplies reads (frame ++ tail) =
    (frame :: (splitReplies reads tail).1, (splitReplies reads tail).2) := by
  have enough : 48 ≤ frame.length := whole ▸ le_replyLength reads frame
  have length_eq := (replyLength_append enough reads tail).trans whole
  have there : 48 ≤ (frame ++ tail).length ∧
      replyLength reads (frame ++ tail) ≤ (frame ++ tail).length := by
    rw [length_eq, List.length_append]
    omega
  rw [splitReplies, if_pos there, length_eq, List.take_left, List.drop_left]

/-- A reply of which something is missing stays on the input. -/
theorem splitReplies_part {part : Bytes} (cut : part <+: frame) (missing : part ≠ frame) :
    splitReplies reads part = ([], part) := by
  have short : part.length < frame.length :=
    Nat.lt_of_le_of_ne cut.length_le fun same => missing (cut.eq_of_length same)
  rw [splitReplies, if_neg]
  rintro ⟨enough, there⟩
  obtain ⟨rest, rfl⟩ := cut
  rw [← replyLength_append enough reads rest, whole] at there
  exact Nat.not_le_of_lt short there

end

theorem splitReplies_flatten {reads : Nat → Bool} {frames : List Bytes}
    (whole : ∀ frame ∈ frames, replyLength reads frame = frame.length) (tail : Bytes) :
    splitReplies reads (frames.flatten ++ tail) =
      (frames ++ (splitReplies reads tail).1, (splitReplies reads tail).2) := by
  induction frames with
  | nil => rfl
  | cons frame frames ih =>
      rw [List.flatten_cons, List.append_assoc, splitReplies_cons (whole frame (by simp)),
        ih fun other member => whole other (List.mem_cons_of_mem _ member)]
      rfl

/-- Whole replies are taken off one by one, and so is one more if all of it is there. -/
theorem splitReplies_of_part {reads : Nat → Bool} {frames : List Bytes}
    (whole : ∀ frame ∈ frames, replyLength reads frame = frame.length) {frame part : Bytes}
    (next : replyLength reads frame = frame.length) (cut : part <+: frame) :
    splitReplies reads (frames.flatten ++ part) =
      if part = frame then (frames ++ [part], []) else (frames, part) := by
  rw [splitReplies_flatten whole]
  split
  · next complete =>
      have last := splitReplies_cons next []
      rw [List.append_nil, splitReplies_part next (List.nil_prefix) ?_] at last
      · rw [complete, last]
      · rintro rfl
        exact absurd (next ▸ le_replyLength reads []) (by simp)
  · next missing => rw [splitReplies_part next cut missing, List.append_nil]

/-! ### The two kinds of reply -/

theorem replyLength_acknowledge (reads : Nat → Bool) (seqnum status : UInt32) :
    replyLength reads (UnlinkReply.acknowledge seqnum status).encode =
      (UnlinkReply.acknowledge seqnum status).encode.length := by
  rw [replyLength, if_neg]
  · rw [UnlinkReply.length_encode]
    rfl
  · rintro ⟨completes, -⟩
    cases completes

theorem completed?_acknowledge (seqnum status : UInt32) :
    completed? (UnlinkReply.acknowledge seqnum status).encode = none := by
  rw [completed?, if_neg]
  rintro ⟨-, completes⟩
  cases completes

theorem UrbHeader.wordAt_command (header : UrbHeader) (tail : Bytes) :
    wordAt (header.encode ++ tail) 0 = header.command.toNat := by
  have words := wordAt_append [] header.command (bytes32 header.seqnum ++ bytes32 header.devid ++
    bytes32 header.direction ++ bytes32 header.endpoint ++ tail)
  simpa [encode] using words

theorem UrbHeader.wordAt_seqnum (header : UrbHeader) (tail : Bytes) :
    wordAt (header.encode ++ tail) 4 = header.seqnum.toNat := by
  have words := wordAt_append (bytes32 header.command) header.seqnum (bytes32 header.devid ++
    bytes32 header.direction ++ bytes32 header.endpoint ++ tail)
  simpa [encode] using words

namespace Completion

variable (completion : Completion)

theorem length_encode : completion.encode.length =
    48 + completion.data.length + completion.descriptors.length := by
  simp only [encode, List.length_append, length_bytes32, UrbHeader.length_encode, UrbHeader.size,
    Bytes.length_zeros]

theorem wordAt_actualLength : wordAt completion.encode 24 = completion.actualLength.toNat := by
  have words := wordAt_append (completion.header.encode ++ bytes32 completion.status)
    completion.actualLength (bytes32 completion.startFrame ++ bytes32 completion.packetCount ++
      bytes32 completion.errorCount ++ Bytes.zeros 8 ++ completion.data ++ completion.descriptors)
  simpa [encode, UrbHeader.size] using words

theorem wordAt_command : wordAt completion.encode 0 = completion.header.command.toNat := by
  rw [encode]
  simp only [List.append_assoc]
  exact completion.header.wordAt_command _

theorem wordAt_seqnum : wordAt completion.encode 4 = completion.header.seqnum.toNat := by
  rw [encode]
  simp only [List.append_assoc]
  exact completion.header.wordAt_seqnum _

theorem replyLength_encode (reads : Nat → Bool) : replyLength reads completion.encode =
    if completion.header.command = Command.returnSubmit ∧
        reads completion.header.seqnum.toNat = true then 48 + completion.actualLength.toNat
    else 48 := by
  have completes : completion.header.command.toNat = 3 ↔
      completion.header.command = Command.returnSubmit :=
    UInt32.toNat_inj (b := Command.returnSubmit)
  rw [replyLength, completion.wordAt_command, completion.wordAt_seqnum,
    completion.wordAt_actualLength]
  simp only [completes]

/-- A completion is told by its command, and the URB that it is for by its number. -/
theorem completed?_encode {completion : Completion}
    (command_eq : completion.header.command = Command.returnSubmit) :
    completed? completion.encode = some completion.header.seqnum.toNat := by
  have long : 48 ≤ completion.encode.length := by
    rw [completion.length_encode]
    omega
  have told : wordAt completion.encode 0 = 3 := by
    rw [completion.wordAt_command, command_eq]
    rfl
  rw [completed?, if_pos ⟨long, told⟩, completion.wordAt_seqnum]

end Completion

end UsbExport

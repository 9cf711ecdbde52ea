import UsbExport.Dispatch.Request
import UsbExport.Proofs.Wire.SubmitCodec
import UsbExport.Session.Basic

/-!
What a busy session makes of well-formed frames. A stage owes what the frames ahead of it ask for,
and goes on owing it however their bytes are cut into reads.
-/

namespace UsbExport

/-- A frame about a URB that brings along exactly what its header and parameters declare. -/
inductive UrbFrame
  | submit (header : UrbHeader) (params : SubmitParams) (kind : header.kind = .submit)
      (data : Octets (params.payloadLength header)) (descriptors : Octets params.descriptorLength)
  | unlink (header : UrbHeader) (kind : header.kind = .unlink) (target : UInt32)
      (padding : Octets 24)
  | other (header : UrbHeader) (foreign : header.kind ≠ .submit ∧ header.kind ≠ .unlink)

/-- The bytes that acknowledge the command with a number: the number of the reply, that of the
command, three empty fields, no error, and padding. -/
def acknowledgement (seqnum : UInt32) : Bytes :=
  [0, 0, 0, 4] ++
    [.ofNat (seqnum.toNat / 16777216), .ofNat (seqnum.toNat / 65536), .ofNat (seqnum.toNat / 256),
      .ofNat seqnum.toNat] ++ List.replicate 40 0

theorem UnlinkReply.encode_acknowledge (seqnum : UInt32) :
    (UnlinkReply.acknowledge seqnum 0).encode = acknowledgement seqnum := by
  simp only [encode, acknowledge, UrbHeader.encode, UrbHeader.reply, acknowledgement, Bytes.zeros]
  rfl

/-- What a session asks of its surroundings while it serves its client. -/
inductive Effect
  | ask (request : Dispatch.ControlRequest)
  | offer (submit : Submit)
  | cancel (target : UInt32)
  | send (frame : Bytes)
deriving DecidableEq, Repr

theorem UnlinkParams.decode_append (target : UInt32) (padding : Octets 24) :
    UnlinkParams.decode (bytes32 target ++ padding.bytes) = .ok ⟨target⟩ := by
  have read := Octets.read_append padding []
  rw [List.append_nil] at read
  simp [UnlinkParams.decode, decodeExactly, UnlinkParams.read, readWord32_append, read]

namespace UrbFrame

def bytes : UrbFrame → Bytes
  | submit header params _ data descriptors =>
      header.encode ++ (params.encode ++ (data.bytes ++ descriptors.bytes))
  | unlink header _ target padding => header.encode ++ (bytes32 target ++ padding.bytes)
  | other header _ => header.encode

/-- What the frame asks for, as it is decoded in one piece. -/
def effects (maxTransfer : Nat) : UrbFrame → List Effect
  | frame@(submit _ _ _ _ _) =>
      match Submit.decode frame.bytes maxTransfer with
      | .ok whole => [.offer whole]
      | .error _ => []
  | unlink header _ target _ => [.cancel target, .send (acknowledgement header.seqnum)]
  | other _ _ => []

/-- Decoding a submit in one piece fails at its bounds or not at all. -/
theorem decode_submit (header : UrbHeader) (params : SubmitParams) (kind : header.kind = .submit)
    (data : Octets (params.payloadLength header)) (descriptors : Octets params.descriptorLength)
    (maxTransfer : Nat) :
    Submit.decode (submit header params kind data descriptors).bytes maxTransfer =
      (params.checkBounds maxTransfer).map
        fun _ => ⟨header, params, data.bytes, descriptors.bytes⟩ := by
  have params_read : SubmitParams.parse
      ((submit header params kind data descriptors).bytes.drop UrbHeader.size) = .ok params := by
    rw [bytes, List.drop_left' header.length_encode, params.parse_append]
  have body : (submit header params kind data descriptors).bytes.drop Submit.fixedSize =
      data.bytes ++ descriptors.bytes := by
    rw [bytes, ← List.append_assoc]
    exact List.drop_left' (by simp [Submit.fixedSize])
  have enough : ¬ (submit header params kind data descriptors).bytes.length <
      Submit.fixedSize + params.payloadLength header + params.descriptorLength := by
    simp [bytes, Submit.fixedSize, data.length_eq, descriptors.length_eq]
    omega
  have header_read :
      UrbHeader.decode (submit header params kind data descriptors).bytes = .ok header :=
    header.decode_append _
  unfold Submit.decode SubmitParams.decode
  rw [header_read, params_read, body]
  cases bounds : params.checkBounds maxTransfer with
  | error error => simp [bind, Except.bind, bounds, Except.map]
  | ok =>
      simp [bind, Except.bind, bounds, Except.map, enough, pure, Except.pure,
        List.take_left' data.length_eq, List.drop_left' data.length_eq,
        List.take_of_length_le (Nat.le_of_eq descriptors.length_eq)]

end UrbFrame

namespace Session

/-- What a stage still has to do, given the bytes that the session has not read yet. -/
inductive Owes (limits : SessionLimits) : Stage → Bytes → List Effect → Prop
  | done : Owes limits (.atRest .busy) [] []
  | collect {part : Part} {got missing ahead : Bytes} {owed : List Effect} (more : missing ≠ [])
      (size_eq : (got ++ missing).length = part.size)
      (next : Owes limits (part.complete limits (got ++ missing)) ahead owed) :
      Owes limits (.collecting part got) (missing ++ ahead) owed
  | skip {skipped ahead : Bytes} {owed : List Effect} (more : skipped ≠ [])
      (next : Owes limits (.atRest .busy) ahead owed) :
      Owes limits (.skipping skipped.length) (skipped ++ ahead) owed
  | submit {submit : Submit} {ahead : Bytes} {owed : List Effect}
      (next : Owes limits (.atRest .busy) ahead owed) :
      Owes limits (.submitting submit) ahead (.offer submit :: owed)
  | cancel {header : UrbHeader} {target : UInt32} {ahead : Bytes} {owed : List Effect}
      (next : Owes limits (.acknowledging header.seqnum) ahead owed) :
      Owes limits (.cancelling header target) ahead (.cancel target :: owed)
  | acknowledge {seqnum : UInt32} {ahead : Bytes} {owed : List Effect}
      (next : Owes limits (.atRest .busy) ahead owed) :
      Owes limits (.acknowledging seqnum) ahead (.send (acknowledgement seqnum) :: owed)

namespace Owes

variable {limits : SessionLimits} {ahead : Bytes} {owed : List Effect}

/-! ### Frames are owed -/

theorem collect_whole {part : Part} {bytes : Bytes} (more : bytes ≠ [])
    (size_eq : bytes.length = part.size)
    (next : Owes limits (part.complete limits bytes) ahead owed) :
    Owes limits (.collecting part []) (bytes ++ ahead) owed :=
  .collect more (by simpa using size_eq) (by simpa using next)

theorem skip_of_length {skipped : Bytes} {count : Nat} (length_eq : skipped.length = count)
    (next : Owes limits (.atRest .busy) ahead owed) :
    Owes limits (Stage.skip count) (skipped ++ ahead) owed := by
  subst length_eq
  unfold Stage.skip
  split
  · next empty =>
      rw [List.length_eq_zero_iff.1 empty]
      exact next
  · next more =>
      exact .skip (fun empty => more (by rw [empty]; rfl)) next

theorem collectDescriptors {header : UrbHeader} {params : SubmitParams} {data : Bytes}
    (descriptors : Octets params.descriptorLength)
    (next : Owes limits (.atRest .busy) ahead owed) :
    Owes limits (Stage.collectDescriptors header params data) (descriptors.bytes ++ ahead)
      (.offer ⟨header, params, data, descriptors.bytes⟩ :: owed) := by
  have length_eq := descriptors.length_eq
  unfold Stage.collectDescriptors
  split
  · next none =>
      rw [List.length_eq_zero_iff.1 (length_eq.trans none)]
      exact .submit next
  · next more =>
      refine collect_whole ?_ length_eq (.submit next)
      rintro empty
      exact more (by rw [← length_eq, empty]; rfl)

theorem collectPayload {header : UrbHeader} {params : SubmitParams}
    (data : Octets (params.payloadLength header)) (descriptors : Octets params.descriptorLength)
    (next : Owes limits (.atRest .busy) ahead owed) :
    Owes limits (Stage.collectPayload header params)
      (data.bytes ++ (descriptors.bytes ++ ahead))
      (.offer ⟨header, params, data.bytes, descriptors.bytes⟩ :: owed) := by
  have length_eq := data.length_eq
  unfold Stage.collectPayload
  split
  · next none =>
      rw [List.length_eq_zero_iff.1 (length_eq.trans none)]
      exact collectDescriptors descriptors next
  · next more =>
      refine collect_whole ?_ length_eq (collectDescriptors descriptors next)
      rintro empty
      exact more (by rw [← length_eq, empty]; rfl)

/-- The parts of a frame, taken one by one, come to what the frame asks for in one piece. -/
theorem frame (frame : UrbFrame) (next : Owes limits (.atRest .busy) ahead owed) :
    Owes limits (.atRest .busy) (frame.bytes ++ ahead)
      (frame.effects limits.maxTransfer ++ owed) := by
  have header_read (header : UrbHeader) : UrbHeader.decode header.encode = .ok header := by
    simpa using header.decode_append []
  have header_some (header : UrbHeader) : header.encode ≠ [] := by
    simp [UrbHeader.encode, bytes32]
  cases frame with
  | submit header params kind data descriptors =>
      have params_read : SubmitParams.parse params.encode = .ok params := by
        simpa using params.parse_append []
      have params_some : params.encode ≠ [] := by simp [SubmitParams.encode, bytes32]
      have after : Owes limits (Stage.afterParams header params limits.maxTransfer)
          (data.bytes ++ (descriptors.bytes ++ ahead))
          ((UrbFrame.submit header params kind data descriptors).effects limits.maxTransfer ++
            owed) := by
        rw [UrbFrame.effects, UrbFrame.decode_submit]
        unfold Stage.afterParams
        cases params.checkBounds limits.maxTransfer with
        | ok => exact collectPayload data descriptors next
        | error error =>
            rw [← List.append_assoc]
            exact skip_of_length (by simp [data.length_eq, descriptors.length_eq]) next
      simp only [UrbFrame.bytes, List.append_assoc]
      refine collect_whole (header_some header) header.length_encode ?_
      simp only [Part.complete, header_read, Stage.afterUrbHeader, kind]
      refine collect_whole params_some params.length_encode ?_
      simpa only [Part.complete, params_read] using after
  | unlink header kind target padding =>
      simp only [UrbFrame.bytes, UrbFrame.effects, List.append_assoc]
      refine collect_whole (header_some header) header.length_encode ?_
      simp only [Part.complete, header_read, Stage.afterUrbHeader, kind]
      rw [← List.append_assoc]
      refine collect_whole (by simp [bytes32]) ?_ ?_
      · simp [padding.length_eq, Part.size, UnlinkParams.size]
      · simp only [Part.complete, UnlinkParams.decode_append]
        exact .cancel (.acknowledge next)
  | other header foreign =>
      simp only [UrbFrame.bytes, UrbFrame.effects, List.nil_append]
      refine collect_whole (header_some header) header.length_encode ?_
      have rests : Stage.afterUrbHeader header = .atRest .busy := by
        unfold Stage.afterUrbHeader
        split
        · next kind => exact absurd kind foreign.1
        · next kind => exact absurd kind foreign.2
        · rfl
      simpa only [Part.complete, header_read, rests] using next

theorem frames (limits : SessionLimits) (frames : List UrbFrame) :
    Owes limits (.atRest .busy) (frames.flatMap UrbFrame.bytes)
      (frames.flatMap (UrbFrame.effects limits.maxTransfer)) := by
  induction frames with
  | nil => exact .done
  | cons frame frames ih =>
      rw [List.flatMap_cons, List.flatMap_cons]
      exact Owes.frame frame ih

/-- A stage that reads has something to read. -/
theorem wants_pos {phase : Phase} {stage : Stage} {wanted : Nat}
    (owes : Owes limits stage ahead owed)
    (wants : (⟨phase, stage⟩ : Session).wants = some wanted) : 0 < wanted := by
  cases owes with
  | done =>
      obtain rfl := Option.some.inj wants
      decide
  | collect more size_eq next =>
      have := List.length_pos_iff.2 more
      rw [List.length_append] at size_eq
      simp only [Session.wants, Option.some.injEq] at wants
      omega
  | skip more next =>
      obtain rfl := Option.some.inj wants
      exact List.length_pos_iff.2 more
  | submit => simp [Session.wants] at wants
  | cancel => simp [Session.wants] at wants
  | acknowledge => simp [Session.wants] at wants

/-! ### However it is read -/

/-- The shorter of two beginnings of one stream begins the longer one. -/
theorem exists_rest {first bytes ahead after : Bytes} (eq : first ++ after = bytes ++ ahead)
    (shorter : bytes.length ≤ first.length) :
    ∃ rest, first = bytes ++ rest ∧ ahead = rest ++ after := by
  rcases List.append_eq_append_iff.1 eq with ⟨rest, rfl, rfl⟩ | ⟨rest, rfl, rfl⟩
  · obtain rfl : rest = [] := by
      rw [List.length_append] at shorter
      exact List.length_eq_zero_iff.1 (by omega)
    exact ⟨[], by simp, rfl⟩
  · exact ⟨rest, rfl, rfl⟩

/-- Reading on, by any number of bytes that is wanted, changes nothing of what is owed. -/
theorem take {phase : Phase} {stage : Stage} {bytes stream : Bytes} {wanted : Nat}
    (owes : Owes limits stage stream owed)
    (wants : (⟨phase, stage⟩ : Session).wants = some wanted) (some : bytes ≠ [])
    (within : bytes.length ≤ wanted) (stream_eq : stream = bytes ++ ahead) :
    Owes limits ((⟨phase, stage⟩ : Session).take limits bytes).stage ahead owed := by
  cases owes with
  | done =>
      rw [eq_comm, List.append_eq_nil_iff] at stream_eq
      exact absurd stream_eq.1 some
  | @collect part got missing after _ more size_eq next =>
      obtain rfl : part.size - got.length = wanted := by simpa [Session.wants] using wants
      have fits : bytes.length ≤ missing.length := by
        rw [List.length_append] at size_eq
        omega
      obtain ⟨rest, rfl, rfl⟩ := exists_rest stream_eq fits
      rw [← List.append_assoc] at size_eq next
      show Owes limits (if (got ++ bytes).length < part.size then _ else _) _ _
      by_cases whole : rest = []
      · subst whole
        rw [List.append_nil] at size_eq next
        rw [if_neg (by omega)]
        exact next
      · have := List.length_pos_iff.2 whole
        have left := List.length_append.symm.trans size_eq
        rw [if_pos (by omega)]
        exact .collect whole size_eq next
  | @skip skipped after _ more next =>
      obtain rfl : skipped.length = wanted := by simpa [Session.wants] using wants
      obtain ⟨rest, rfl, rfl⟩ := exists_rest stream_eq within
      exact skip_of_length (by simp) next
  | submit => simp [Session.wants] at wants
  | cancel => simp [Session.wants] at wants
  | acknowledge => simp [Session.wants] at wants

theorem phase_take (limits : SessionLimits) (phase : Phase) (stage : Stage) (bytes : Bytes) :
    (⟨phase, stage⟩ : Session).take limits bytes =
      ⟨phase, ((⟨phase, stage⟩ : Session).take limits bytes).stage⟩ := by
  unfold Session.take
  split <;> rfl

/-- At the end of the stream a session that reads is between two frames. -/
theorem at_end {stage : Stage} (owes : Owes limits stage [] owed)
    (reads : (⟨.busy, stage⟩ : Session).wants ≠ none) :
    stage = .collecting .urbHeader [] ∧ owed = [] := by
  generalize stream_eq : ([] : Bytes) = stream at owes
  cases owes with
  | done => exact ⟨rfl, rfl⟩
  | collect more size_eq next =>
      exact absurd (List.append_eq_nil_iff.1 stream_eq.symm).1 more
  | skip more next => exact absurd (List.append_eq_nil_iff.1 stream_eq.symm).1 more
  | submit => simp [wants] at reads
  | cancel => simp [wants] at reads
  | acknowledge => simp [wants] at reads

end Owes

end Session

end UsbExport

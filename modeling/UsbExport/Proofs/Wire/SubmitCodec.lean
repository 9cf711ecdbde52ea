import Mathlib.Data.List.Basic
import UsbExport.Wire.Submit

/-!
Submits as bytes. What a frame declares is read off the words at their places, and from that alone
follows whether it decodes and what is wrong with it first. Main statement: decoding takes exactly
the declared bytes, gives them back when it encodes, and undoes encoding whatever follows the frame.
-/

namespace UsbExport

/-! ### Words at their places -/

/-- The number in the four octets from an offset on. -/
def wordAt (input : Bytes) (offset : Nat) : Nat :=
  ((input.drop offset).take 4).foldl (fun value byte => value * 256 + byte.toNat) 0

theorem wordAt_append (front : Bytes) (value : UInt32) (tail : Bytes) :
    wordAt (front ++ (bytes32 value ++ tail)) front.length = value.toNat := by
  have bound := value.toNat_lt
  rw [wordAt, List.drop_left, List.take_left' (length_bytes32 value)]
  simp only [bytes32, List.foldl_cons, List.foldl_nil, UInt8.toNat_ofNat']
  omega

theorem exists_word32 (input : Bytes) (enough : 4 ≤ input.length) :
    ∃ value, input = bytes32 value ++ input.drop 4 := by
  match input, enough with
  | first :: second :: third :: fourth :: rest, _ =>
      exact ⟨word32 first second third fourth, by rw [bytes32_word32]; rfl⟩

/-- Both fixed parts of a submit begin with five words. -/
theorem exists_five_words {input : Bytes} (enough : 20 ≤ input.length) :
    ∃ first second third fourth fifth, input =
      bytes32 first ++ bytes32 second ++ bytes32 third ++ bytes32 fourth ++ bytes32 fifth ++
        input.drop 20 := by
  have cut (count : Nat) (within : count + 4 ≤ 20) :
      ∃ value, input.drop count = bytes32 value ++ input.drop (count + 4) := by
    obtain ⟨value, word⟩ := exists_word32 (input.drop count) (by simp; omega)
    rw [List.drop_drop] at word
    exact ⟨value, word⟩
  obtain ⟨first, eq₁⟩ := cut 0 (by omega)
  obtain ⟨second, eq₂⟩ := cut 4 (by omega)
  obtain ⟨third, eq₃⟩ := cut 8 (by omega)
  obtain ⟨fourth, eq₄⟩ := cut 12 (by omega)
  obtain ⟨fifth, eq₅⟩ := cut 16 (by omega)
  refine ⟨first, second, third, fourth, fifth, ?_⟩
  rw [List.drop_zero, eq₂, eq₃, eq₄, eq₅] at eq₁
  simpa using eq₁

/-! ### The fixed parts -/

theorem UrbHeader.decode_append (header : UrbHeader) (tail : Bytes) :
    UrbHeader.decode (header.encode ++ tail) = .ok header := by
  rw [UrbHeader.decode, decodeExactly, UrbHeader.read_append]

theorem SubmitParams.parse_append (params : SubmitParams) (tail : Bytes) :
    SubmitParams.parse (params.encode ++ tail) = .ok params := by
  rw [SubmitParams.parse, decodeExactly, SubmitParams.read_append]

/-- Any twenty octets are a header. -/
theorem UrbHeader.exists_of_le {input : Bytes} (enough : UrbHeader.size ≤ input.length) :
    ∃ header : UrbHeader, input = header.encode ++ input.drop UrbHeader.size := by
  obtain ⟨command, seqnum, devid, direction, endpoint, words⟩ := exists_five_words enough
  exact ⟨⟨command, seqnum, devid, direction, endpoint⟩, words⟩

/-- Any twenty-eight octets are parameters. -/
theorem SubmitParams.exists_of_le {input : Bytes} (enough : SubmitParams.size ≤ input.length) :
    ∃ params : SubmitParams, input = params.encode ++ input.drop SubmitParams.size := by
  unfold SubmitParams.size at enough ⊢
  obtain ⟨flags, length, start, count, interval, words⟩ :=
    exists_five_words (Nat.le_trans (by omega) enough)
  have setup : ((input.drop 20).take 8).length = 8 := by simp; omega
  refine ⟨⟨flags, length, start, count, interval, ⟨(input.drop 20).take 8, setup⟩⟩, ?_⟩
  rw [← List.take_append_drop 8 (input.drop 20), List.drop_drop] at words
  simpa [SubmitParams.encode] using words

theorem UrbHeader.append_of_read {input rest : Bytes} {header : UrbHeader}
    (read : UrbHeader.read input = some (header, rest)) : input = header.encode ++ rest := by
  simp only [UrbHeader.read, Option.bind_eq_bind, Option.bind_eq_some_iff, Prod.exists] at read
  obtain ⟨command, _, eq₁, seqnum, _, eq₂, devid, _, eq₃, direction, _, eq₄, endpoint, _, eq₅,
    whole⟩ := read
  obtain ⟨rfl, rfl⟩ : _ ∧ _ := by simpa using whole
  rw [append_of_readWord32 eq₁, append_of_readWord32 eq₂, append_of_readWord32 eq₃,
    append_of_readWord32 eq₄, append_of_readWord32 eq₅]
  simp [UrbHeader.encode]

theorem SubmitParams.append_of_read {input rest : Bytes} {params : SubmitParams}
    (read : SubmitParams.read input = some (params, rest)) : input = params.encode ++ rest := by
  simp only [SubmitParams.read, Option.bind_eq_bind, Option.bind_eq_some_iff, Prod.exists] at read
  obtain ⟨flags, _, eq₁, length, _, eq₂, start, _, eq₃, count, _, eq₄, interval, _, eq₅, setup, _,
    eq₆, whole⟩ := read
  obtain ⟨rfl, rfl⟩ : _ ∧ _ := by simpa using whole
  rw [append_of_readWord32 eq₁, append_of_readWord32 eq₂, append_of_readWord32 eq₃,
    append_of_readWord32 eq₄, append_of_readWord32 eq₅, Octets.append_of_read eq₆]
  simp [SubmitParams.encode]

/-- An input that is shorter than all that the reader takes is malformed. -/
theorem decodeExactly_of_lt {α : Type} {needed : Nat} {read : Bytes → Option (α × Bytes)}
    {encode : α → Bytes} {input : Bytes} (short : input.length < needed)
    (sized : ∀ value, (encode value).length = needed)
    (taken : ∀ value rest, read input = some (value, rest) → input = encode value ++ rest) :
    decodeExactly needed read input = .error (.malformedHeader needed input.length) := by
  unfold decodeExactly
  split
  · next value rest found =>
      have whole := congrArg List.length (taken value rest found)
      rw [List.length_append, sized] at whole
      omega
  · rfl

theorem UrbHeader.decode_of_lt {input : Bytes} (short : input.length < UrbHeader.size) :
    UrbHeader.decode input = .error (.malformedHeader UrbHeader.size input.length) :=
  decodeExactly_of_lt short UrbHeader.length_encode fun _ _ => UrbHeader.append_of_read

theorem SubmitParams.parse_of_lt {input : Bytes} (short : input.length < SubmitParams.size) :
    SubmitParams.parse input = .error (.malformedHeader SubmitParams.size input.length) :=
  decodeExactly_of_lt short SubmitParams.length_encode fun _ _ => SubmitParams.append_of_read

/-! ### What a frame declares -/

theorem SubmitParams.payloadLength_eq (params : SubmitParams) (header : UrbHeader) :
    params.payloadLength header =
      if header.direction = 0 then params.bufferLength.toNat else 0 := by
  simp [payloadLength, UrbHeader.isOut]

theorem SubmitParams.descriptorLength_eq (params : SubmitParams) : params.descriptorLength =
    if params.packetCount = 0 ∨ params.packetCount = 0xFFFFFFFF then 0
    else 16 * params.packetCount.toNat := by
  rw [descriptorLength, descriptorSize, Nat.mul_comm]

namespace SubmitLayout

/-- The length of the buffer of a URB, whichever way its data goes. -/
def buffer (input : Bytes) : Nat := wordAt input 24

/-- Only direction zero brings its payload along. -/
def payload (input : Bytes) : Nat := if wordAt input 12 = 0 then buffer input else 0

/-- Sixteen octets for a packet, and none for the two counts that say there are no packets. -/
def descriptors (input : Bytes) : Nat :=
  if wordAt input 32 = 0 ∨ wordAt input 32 = 0xFFFFFFFF then 0 else 16 * wordAt input 32

/-- Forty-eight octets of header and parameters, and all that they declare. -/
def size (input : Bytes) : Nat := 48 + payload input + descriptors input

/-- What is wrong first with a frame at the front of the input. -/
def fault? (input : Bytes) (bound : Nat) : Option WireError :=
  if input.length < 20 then some (.malformedHeader 20 input.length)
  else if input.length - 20 < 28 then some (.malformedHeader 28 (input.length - 20))
  else if bound < buffer input then some (.payloadTooLarge (buffer input) bound)
  else if bound < descriptors input then some (.payloadTooLarge (descriptors input) bound)
  else if input.length < size input then some (.truncatedPayload (size input) input.length)
  else none

/-- The frame is all there and within the bound. -/
structure Fits (input : Bytes) (bound : Nat) : Prop where
  fixed : 48 ≤ input.length
  buffer_le : buffer input ≤ bound
  descriptors_le : descriptors input ≤ bound
  whole : size input ≤ input.length

theorem fault?_eq_none_iff {input : Bytes} {bound : Nat} :
    fault? input bound = none ↔ Fits input bound := by
  unfold fault?
  constructor
  · intro faultless
    split_ifs at faultless with short cut long wide missing
    exact ⟨by omega, by omega, by omega, by omega⟩
  · rintro ⟨fixed, buffer_le, descriptors_le, whole⟩
    rw [if_neg (by omega), if_neg (by omega), if_neg (by omega), if_neg (by omega),
      if_neg (by omega)]

/-! The words of a frame are the fields of its header and of its parameters. -/

variable (header : UrbHeader) (params : SubmitParams) (body : Bytes)

theorem wordAt_direction : wordAt (header.encode ++ (params.encode ++ body)) 12 =
    header.direction.toNat := by
  have words := wordAt_append
    (bytes32 header.command ++ bytes32 header.seqnum ++ bytes32 header.devid) header.direction
    (bytes32 header.endpoint ++ (params.encode ++ body))
  simpa [UrbHeader.encode] using words

theorem buffer_eq : buffer (header.encode ++ (params.encode ++ body)) =
    params.bufferLength.toNat := by
  have words := wordAt_append (header.encode ++ bytes32 params.transferFlags) params.bufferLength
    (bytes32 params.startFrame ++ bytes32 params.packetCount ++ bytes32 params.interval ++
      params.setup.bytes ++ body)
  simpa [buffer, SubmitParams.encode, UrbHeader.size] using words

theorem wordAt_packetCount : wordAt (header.encode ++ (params.encode ++ body)) 32 =
    params.packetCount.toNat := by
  have words := wordAt_append (header.encode ++ bytes32 params.transferFlags ++
    bytes32 params.bufferLength ++ bytes32 params.startFrame) params.packetCount
    (bytes32 params.interval ++ params.setup.bytes ++ body)
  simpa [SubmitParams.encode, UrbHeader.size] using words

theorem payload_eq : payload (header.encode ++ (params.encode ++ body)) =
    params.payloadLength header := by
  have zero : header.direction.toNat = 0 ↔ header.direction = 0 := UInt32.toNat_inj (b := 0)
  rw [payload, buffer_eq, wordAt_direction, params.payloadLength_eq]
  simp only [zero]

theorem descriptors_eq : descriptors (header.encode ++ (params.encode ++ body)) =
    params.descriptorLength := by
  have zero : params.packetCount.toNat = 0 ↔ params.packetCount = 0 := UInt32.toNat_inj (b := 0)
  have ones : params.packetCount.toNat = 0xFFFFFFFF ↔ params.packetCount = 0xFFFFFFFF :=
    UInt32.toNat_inj (b := 0xFFFFFFFF)
  rw [descriptors, wordAt_packetCount, params.descriptorLength_eq]
  simp only [zero, ones]

theorem size_eq : size (header.encode ++ (params.encode ++ body)) =
    Submit.fixedSize + params.payloadLength header + params.descriptorLength := by
  rw [size, payload_eq, descriptors_eq]
  rfl

/-- Bounds are checked on the words of the frame. -/
theorem checkBounds_eq (bound : Nat) : params.checkBounds bound =
    let input := header.encode ++ (params.encode ++ body)
    if bound < buffer input then .error (.payloadTooLarge (buffer input) bound)
    else if bound < descriptors input then .error (.payloadTooLarge (descriptors input) bound)
    else .ok () := by
  dsimp only
  rw [buffer_eq, descriptors_eq, SubmitParams.checkBounds]

end SubmitLayout

namespace Submit

/-- A frame with both fixed parts decodes unless there is a fault in it. -/
theorem decode_append (header : UrbHeader) (params : SubmitParams) (body : Bytes) (bound : Nat) :
    Submit.decode (header.encode ++ (params.encode ++ body)) bound =
      let payload := params.payloadLength header
      match SubmitLayout.fault? (header.encode ++ (params.encode ++ body)) bound with
      | some error => .error error
      | none => .ok ⟨header, params, body.take payload,
          (body.drop payload).take params.descriptorLength⟩ := by
  have rest : (header.encode ++ (params.encode ++ body)).drop UrbHeader.size =
      params.encode ++ body := List.drop_left' header.length_encode
  have body_eq : (header.encode ++ (params.encode ++ body)).drop fixedSize = body := by
    rw [← List.append_assoc]
    exact List.drop_left' (by simp [fixedSize])
  have size_eq := SubmitLayout.size_eq header params body
  have long : (header.encode ++ (params.encode ++ body)).length =
      48 + body.length := by
    simp [UrbHeader.size, SubmitParams.size]
    omega
  have bounds := SubmitLayout.checkBounds_eq header params body bound
  unfold Submit.decode SubmitParams.decode
  rw [header.decode_append, rest, params.parse_append, body_eq]
  generalize header.encode ++ (params.encode ++ body) = input at long size_eq bounds
  rw [SubmitLayout.fault?, if_neg (by omega), if_neg (by omega)]
  by_cases large : bound < SubmitLayout.buffer input
  · simp [bounds, large, bind, Except.bind]
  by_cases wide : bound < SubmitLayout.descriptors input
  · simp [bounds, large, wide, bind, Except.bind]
  by_cases short : input.length < SubmitLayout.size input
  · simp [bounds, large, wide, short, ← size_eq, bind, Except.bind, pure, Except.pure, throw,
      throwThe, MonadExceptOf.throw]
  · simp [bounds, large, wide, short, ← size_eq, bind, Except.bind, pure, Except.pure]

/-- A submit brings along what its fields declare, and declares nothing beyond the bound. -/
structure Declared (submit : Submit) (bound : Nat) : Prop where
  data_length : submit.data.length =
    if submit.header.direction = 0 then submit.params.bufferLength.toNat else 0
  descriptors_length : submit.descriptors.length =
    if submit.params.packetCount = 0 ∨ submit.params.packetCount = 0xFFFFFFFF then 0
    else 16 * submit.params.packetCount.toNat
  buffer_le : submit.params.bufferLength.toNat ≤ bound
  descriptors_le : submit.descriptors.length ≤ bound

variable {input : Bytes} {bound : Nat}

/-- An input with a fault fails to decode for that very reason. -/
theorem decode_of_fault {error : WireError} (fault : SubmitLayout.fault? input bound = some error) :
    Submit.decode input bound = .error error := by
  by_cases headed : UrbHeader.size ≤ input.length
  swap
  · have short : input.length < 20 := Nat.lt_of_not_le headed
    rw [SubmitLayout.fault?, if_pos short, Option.some.injEq] at fault
    subst fault
    rw [Submit.decode, UrbHeader.decode_of_lt short]
    rfl
  obtain ⟨header, input_eq⟩ := UrbHeader.exists_of_le headed
  generalize input.drop UrbHeader.size = rest at input_eq
  subst input_eq
  by_cases described : SubmitParams.size ≤ rest.length
  swap
  · have short : rest.length < 28 := Nat.lt_of_not_le described
    have rest_length : (header.encode ++ rest).length - 20 = rest.length := by
      simp [UrbHeader.size]
    have headed : ¬ (header.encode ++ rest).length < 20 := Nat.not_lt.2 headed
    rw [SubmitLayout.fault?, if_neg headed, rest_length, if_pos short, Option.some.injEq] at fault
    subst fault
    rw [Submit.decode, header.decode_append, SubmitParams.decode,
      List.drop_left' header.length_encode, SubmitParams.parse_of_lt short]
    rfl
  obtain ⟨params, rest_eq⟩ := SubmitParams.exists_of_le described
  rw [rest_eq] at fault ⊢
  rw [decode_append, fault]

/-- An input that fits decodes to a submit, which encodes to the octets that were declared. -/
theorem decode_of_fits (fits : SubmitLayout.Fits input bound) :
    ∃ submit, Submit.decode input bound = .ok submit ∧ submit.Declared bound ∧
      submit.encode = input.take (SubmitLayout.size input) := by
  have fixed : UrbHeader.size + SubmitParams.size ≤ input.length := fits.fixed
  obtain ⟨header, input_eq⟩ := UrbHeader.exists_of_le (Nat.le_trans (Nat.le_add_right ..) fixed)
  generalize input.drop UrbHeader.size = rest at input_eq
  subst input_eq
  rw [List.length_append, header.length_encode] at fixed
  obtain ⟨params, rest_eq⟩ := SubmitParams.exists_of_le (Nat.le_of_add_le_add_left fixed)
  generalize rest.drop SubmitParams.size = body at rest_eq
  subst rest_eq
  have faultless := SubmitLayout.fault?_eq_none_iff.2 fits
  have size_eq := SubmitLayout.size_eq header params body
  have front : (header.encode ++ params.encode).length = fixedSize := by simp [fixedSize]
  have enough : params.payloadLength header + params.descriptorLength ≤ body.length := by
    have whole := fits.whole
    rw [size_eq, ← List.append_assoc, List.length_append, front] at whole
    omega
  have data_length : (body.take (params.payloadLength header)).length =
      params.payloadLength header := by
    rw [List.length_take]
    omega
  have descriptors_length : ((body.drop (params.payloadLength header)).take
      params.descriptorLength).length = params.descriptorLength := by
    rw [List.length_take, List.length_drop]
    omega
  refine ⟨_, by rw [decode_append, faultless], ⟨?_, ?_, ?_, ?_⟩, ?_⟩
  · rw [data_length, SubmitParams.payloadLength_eq]
  · rw [descriptors_length, SubmitParams.descriptorLength_eq]
  · exact SubmitLayout.buffer_eq header params body ▸ fits.buffer_le
  · rw [descriptors_length, ← SubmitLayout.descriptors_eq header params body]
    exact fits.descriptors_le
  · rw [size_eq, ← List.append_assoc, Nat.add_assoc, ← front, List.take_length_add_append,
      List.take_add]
    simp [encode]

/-- Decoding undoes encoding, whatever follows the frame. -/
theorem decode_encode_append {submit : Submit} (declared : submit.Declared bound) (tail : Bytes) :
    Submit.decode (submit.encode ++ tail) bound = .ok submit := by
  obtain ⟨header, params, data, descriptors⟩ := submit
  obtain ⟨data_length, descriptors_length, buffer_le, descriptors_le⟩ := declared
  dsimp only at data_length descriptors_length buffer_le descriptors_le
  rw [← SubmitParams.payloadLength_eq] at data_length
  rw [← SubmitParams.descriptorLength_eq] at descriptors_length
  have whole : encode ⟨header, params, data, descriptors⟩ ++ tail =
      header.encode ++ (params.encode ++ (data ++ (descriptors ++ tail))) := by
    simp [encode]
  have fits : SubmitLayout.Fits
      (header.encode ++ (params.encode ++ (data ++ (descriptors ++ tail)))) bound := by
    refine ⟨?_, ?_, ?_, ?_⟩
    · simp [UrbHeader.size, SubmitParams.size]
      omega
    · rw [SubmitLayout.buffer_eq]
      exact buffer_le
    · rw [SubmitLayout.descriptors_eq, ← descriptors_length]
      exact descriptors_le
    · rw [SubmitLayout.size_eq, ← data_length, ← descriptors_length]
      simp [fixedSize]
      omega
  rw [whole, decode_append, SubmitLayout.fault?_eq_none_iff.2 fits]
  dsimp only
  rw [List.take_left' data_length, List.drop_left' data_length,
    List.take_left' descriptors_length]

/-- Decoding succeeds exactly on a frame that is all there and within the bound. It then takes the
declared octets and no others; else it fails with what is wrong first. Every submit that brings
along what it declares is decoded to itself. -/
theorem decode_exact (input : Bytes) (bound : Nat) :
    ((∃ submit, Submit.decode input bound = .ok submit) ↔ SubmitLayout.Fits input bound) ∧
      (∀ submit, Submit.decode input bound = .ok submit →
        submit.Declared bound ∧ submit.encode = input.take (SubmitLayout.size input)) ∧
      (∀ error, Submit.decode input bound = .error error →
        SubmitLayout.fault? input bound = some error) ∧
      ∀ submit : Submit, submit.Declared bound → ∀ tail,
        Submit.decode (submit.encode ++ tail) bound = .ok submit := by
  have undone : ∀ submit : Submit, submit.Declared bound → ∀ tail,
      Submit.decode (submit.encode ++ tail) bound = .ok submit :=
    fun submit declared tail => decode_encode_append declared tail
  cases fault : SubmitLayout.fault? input bound with
  | none =>
      have fits := SubmitLayout.fault?_eq_none_iff.1 fault
      obtain ⟨submit, decoded, exact⟩ := decode_of_fits fits
      refine ⟨⟨fun _ => fits, fun _ => ⟨submit, decoded⟩⟩, ?_, ?_, undone⟩
      · intro other same
        rw [decoded, Except.ok.injEq] at same
        rw [← same]
        exact exact
      · intro error failed
        rw [decoded] at failed
        contradiction
  | some reason =>
      have failed := decode_of_fault fault
      refine ⟨⟨?_, ?_⟩, ?_, ?_, undone⟩
      · rintro ⟨submit, decoded⟩
        rw [failed] at decoded
        contradiction
      · intro fits
        rw [SubmitLayout.fault?_eq_none_iff.2 fits] at fault
        contradiction
      · intro submit decoded
        rw [failed] at decoded
        contradiction
      · intro error same
        rw [failed, Except.error.injEq] at same
        rw [same]

/-- Two octets for the device and the descriptor of one packet. -/
def onePacket : Submit where
  header := ⟨1, 7, 65538, 0, 1⟩
  params := ⟨0, 2, 0, 1, 0, .zero 8⟩
  data := [0xAB, 0xCD]
  descriptors := List.replicate 16 0

/-- Sixty-six octets are taken and the next one is left; a bound below the descriptors or an octet
less makes the frame fail. -/
theorem decode_exact_of_one_packet :
    Submit.decode (onePacket.encode ++ [0xEF]) 16 = .ok onePacket ∧
      onePacket.encode = (onePacket.encode ++ [0xEF]).take 66 ∧
      SubmitLayout.fault? (onePacket.encode ++ [0xEF]) 15 = some (.payloadTooLarge 16 15) ∧
      SubmitLayout.fault? (onePacket.encode.take 65) 16 = some (.truncatedPayload 66 65) := by
  have decoded : Submit.decode (onePacket.encode ++ [0xEF]) 16 = .ok onePacket :=
    (decode_exact [] 16).2.2.2 onePacket ⟨by decide, by decide, by decide, by decide⟩ [0xEF]
  exact ⟨decoded, ((decode_exact _ 16).2.1 onePacket decoded).2,
    (decode_exact _ 15).2.2.1 _ rfl, (decode_exact _ 16).2.2.1 _ rfl⟩

end Submit

end UsbExport

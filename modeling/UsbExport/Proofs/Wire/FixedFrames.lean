import UsbExport.Proofs.Wire.DeviceList
import UsbExport.Wire.Import
import UsbExport.Wire.Unlink

/-!
Frames of a fixed size. Six codecs of the protocol know the length of a frame beforehand; each has
its fields in a row from the first octet on, and two leave the rest of the frame without a meaning.
Main statement: decoding fails exactly on inputs that are too short and says so, takes the fields
from their places otherwise and nothing from behind the frame, and is undone by encoding; and
encoding is undone by decoding whatever follows.
-/

namespace UsbExport

/-! ### Fields in a row -/

/-- Every field begins where the one before it ends. -/
def Contiguous : Nat → List (Nat × Bytes) → Prop
  | _, [] => True
  | start, (offset, octets) :: fields =>
      offset = start ∧ Contiguous (start + octets.length) fields

/-- The octets of fields, one field behind the other. -/
def joined (fields : List (Nat × Bytes)) : Bytes := (fields.map Prod.snd).flatten

/-- Fields in a row are found at their offsets, whatever stands before and behind them. -/
theorem Contiguous.fieldAt_eq {fields : List (Nat × Bytes)} (front : Bytes)
    (row : Contiguous front.length fields) {offset : Nat} {octets : Bytes}
    (member : (offset, octets) ∈ fields) (tail : Bytes) :
    offset + octets.length ≤ front.length + (joined fields).length ∧
      fieldAt (front ++ (joined fields ++ tail)) offset octets.length = octets := by
  induction fields generalizing front with
  | nil => cases member
  | cons field fields ih =>
      obtain ⟨start, first⟩ := field
      obtain ⟨rfl, rest⟩ := row
      have whole : joined ((front.length, first) :: fields) = first ++ joined fields := rfl
      rw [whole, List.append_assoc]
      rcases List.mem_cons.1 member with same | later
      · obtain ⟨rfl, rfl⟩ := Prod.mk.inj same
        refine ⟨by rw [List.length_append]; omega, ?_⟩
        rw [fieldAt, List.drop_left, List.take_left]
      · rw [← List.length_append] at rest
        obtain ⟨within, found⟩ := ih _ rest later
        rw [List.append_assoc] at found
        refine ⟨?_, found⟩
        rw [List.length_append] at within ⊢
        omega

/-! ### Codecs of one size -/

/-- A codec of frames that all have one size. -/
structure FixedCodec (α : Type) where
  size : Nat
  decode : Bytes → Except WireError α
  encode : α → Bytes
  /-- So many octets at the front of a frame mean something; the others are written as zeros. -/
  meant : Nat
  /-- What an input of this length is said to lack, if it is too short. -/
  needed : Nat → Nat
  /-- The octets of every field with their offset in the frame. -/
  fields : α → List (Nat × Bytes)

namespace FixedCodec

variable {α : Type}

/-- What it takes for the two halves of a codec to be inverse to each other, on every input. -/
structure Exact (codec : FixedCodec α) : Prop where
  /-- Only an input that is too short fails to decode. -/
  fails_iff : ∀ input,
    (∃ error, codec.decode input = .error error) ↔ input.length < codec.size
  error_eq : ∀ input error, codec.decode input = .error error →
    error = .malformedHeader (codec.needed input.length) input.length
  /-- Nothing behind the frame makes a difference. -/
  decode_front : ∀ input tail, codec.size ≤ input.length →
    codec.decode (input.take codec.size ++ tail) = codec.decode input
  /-- Every field comes from its place, which is in the part that means something and so within
  the input. -/
  field_eq : ∀ input value, codec.decode input = .ok value →
    ∀ field ∈ codec.fields value,
      field.1 + field.2.length ≤ codec.meant ∧ codec.meant ≤ input.length ∧
        fieldAt input field.1 field.2.length = field.2
  encode_of_decode : ∀ input value, codec.decode input = .ok value →
    codec.encode value = input.take codec.meant ++ Bytes.zeros (codec.size - codec.meant)
  decode_encode : ∀ value tail, codec.decode (codec.encode value ++ tail) = .ok value

/-- How a frame is laid out: the fields in a row, then octets that nobody looks at. -/
structure LaidOut (codec : FixedCodec α) : Prop where
  meant_le : codec.meant ≤ codec.size
  contiguous : ∀ value, Contiguous 0 (codec.fields value)
  length_joined : ∀ value, (joined (codec.fields value)).length = codec.meant
  encode_eq : ∀ value, codec.encode value =
    joined (codec.fields value) ++ Bytes.zeros (codec.size - codec.meant)
  /-- Whatever stands in the part that means something is a value. -/
  exists_value : ∀ input : Bytes, codec.size ≤ input.length →
    ∃ value, input.take codec.meant = joined (codec.fields value)
  decode_joined : ∀ value (skipped : Octets (codec.size - codec.meant)) tail,
    codec.decode (joined (codec.fields value) ++ (skipped.bytes ++ tail)) = .ok value
  decode_of_lt : ∀ input : Bytes, input.length < codec.size →
    codec.decode input = .error (.malformedHeader (codec.needed input.length) input.length)

namespace LaidOut

variable {codec : FixedCodec α} (layout : codec.LaidOut)
include layout

/-- An input that is long enough is taken apart into the fields of a value, the octets that mean
nothing and what follows the frame. -/
theorem split {input : Bytes} (enough : codec.size ≤ input.length) :
    ∃ value, ∃ skipped : Octets (codec.size - codec.meant),
      input.take codec.meant = joined (codec.fields value) ∧
        ∀ tail, input.take codec.size ++ tail =
          joined (codec.fields value) ++ (skipped.bytes ++ tail) := by
  obtain ⟨value, front⟩ := layout.exists_value input enough
  have within := layout.meant_le
  have length_eq :
      ((input.drop codec.meant).take (codec.size - codec.meant)).length =
        codec.size - codec.meant := by
    rw [List.length_take, List.length_drop]
    omega
  refine ⟨value, ⟨_, length_eq⟩, front, fun tail => ?_⟩
  rw [← front, ← List.append_assoc, ← List.take_add, Nat.add_sub_cancel' within]

/-- Decoding an input that is long enough gives the value its front spells. -/
theorem decode_of_le {input : Bytes} (enough : codec.size ≤ input.length) :
    ∃ value, input.take codec.meant = joined (codec.fields value) ∧
      ∀ tail, codec.decode (input.take codec.size ++ tail) = .ok value := by
  obtain ⟨value, skipped, front, parts⟩ := layout.split enough
  refine ⟨value, front, fun tail => ?_⟩
  rw [parts tail, layout.decode_joined]

theorem front_of_decode {input : Bytes} {value : α} (decoded : codec.decode input = .ok value) :
    codec.size ≤ input.length ∧ input.take codec.meant = joined (codec.fields value) := by
  have enough : codec.size ≤ input.length := by
    by_contra short
    rw [layout.decode_of_lt input (by omega)] at decoded
    contradiction
  obtain ⟨other, front, same⟩ := layout.decode_of_le enough
  have again := same (input.drop codec.size)
  rw [List.take_append_drop, decoded, Except.ok.injEq] at again
  exact ⟨enough, again ▸ front⟩

theorem exact : codec.Exact where
  fails_iff input := by
    constructor
    · rintro ⟨error, failed⟩
      by_contra long
      obtain ⟨value, -, same⟩ := layout.decode_of_le (Nat.le_of_not_lt long)
      have decoded := same (input.drop codec.size)
      rw [List.take_append_drop, failed] at decoded
      contradiction
    · intro short
      exact ⟨_, layout.decode_of_lt input short⟩
  error_eq input error failed := by
    by_cases short : input.length < codec.size
    · rw [layout.decode_of_lt input short, Except.error.injEq] at failed
      exact failed.symm
    · obtain ⟨value, -, same⟩ := layout.decode_of_le (Nat.le_of_not_lt short)
      have decoded := same (input.drop codec.size)
      rw [List.take_append_drop, failed] at decoded
      contradiction
  decode_front input tail enough := by
    obtain ⟨value, -, same⟩ := layout.decode_of_le enough
    have decoded := same (input.drop codec.size)
    rw [List.take_append_drop] at decoded
    rw [same tail, decoded]
  field_eq input value decoded field member := by
    obtain ⟨enough, front⟩ := layout.front_of_decode decoded
    have found := Contiguous.fieldAt_eq [] (layout.contiguous value) member
      (input.drop codec.meant)
    rw [List.nil_append, ← front, List.take_append_drop, front, layout.length_joined] at found
    have within := layout.meant_le
    exact ⟨by simpa using found.1, by omega, found.2⟩
  encode_of_decode input value decoded := by
    rw [layout.encode_eq, (layout.front_of_decode decoded).2]
  decode_encode value tail := by
    rw [layout.encode_eq, List.append_assoc]
    exact layout.decode_joined value (Octets.zero _) tail

end LaidOut

end FixedCodec

/-! ### The six frames -/

/-- A reader that never takes fewer octets than it needs finds a shorter input malformed. -/
theorem decodeExactly_of_short {α : Type} {needed : Nat} {read : Bytes → Option (α × Bytes)}
    {input : Bytes} (short : input.length < needed)
    (taken : ∀ value rest, read input = some (value, rest) → needed ≤ input.length) :
    decodeExactly needed read input = .error (.malformedHeader needed input.length) := by
  unfold decodeExactly
  split
  · next value rest found => exact absurd (taken value rest found) (Nat.not_le_of_lt short)
  · rfl

theorem length_of_readWord16 {input rest : Bytes} {value : UInt16}
    (read : readWord16 input = some (value, rest)) : input.length = rest.length + 2 := by
  rw [append_of_readWord16 read, List.length_append, length_bytes16, Nat.add_comm]

theorem length_of_readWord32 {input rest : Bytes} {value : UInt32}
    (read : readWord32 input = some (value, rest)) : input.length = rest.length + 4 := by
  rw [append_of_readWord32 read, List.length_append, length_bytes32, Nat.add_comm]

theorem Octets.length_of_read {size : Nat} {input rest : Bytes} {field : Octets size}
    (read : Octets.read size input = some (field, rest)) :
    input.length = rest.length + size := by
  rw [Octets.append_of_read read, List.length_append, field.length_eq, Nat.add_comm]

theorem exists_word16 (input : Bytes) (enough : 2 ≤ input.length) :
    ∃ value, input = bytes16 value ++ input.drop 2 := by
  match input, enough with
  | high :: low :: rest, _ => exact ⟨word16 high low, by rw [bytes16_word16]; rfl⟩

namespace ControlHeader

theorem decode_append (header : ControlHeader) (tail : Bytes) :
    decode (header.encode ++ tail) = .ok header := by
  rw [decode, decodeExactly, read_append]

/-- Two words of 16 bits. -/
def codec : FixedCodec ControlHeader where
  size := 4
  decode := decode
  encode := encode
  meant := 4
  needed _ := 4
  fields header := [(0, bytes16 header.version), (2, bytes16 header.command)]

theorem codec_laidOut : codec.LaidOut where
  meant_le := Nat.le_refl 4
  contiguous _ := ⟨rfl, rfl, trivial⟩
  length_joined _ := rfl
  encode_eq header := by simp [codec, encode, joined, Bytes.zeros]
  exists_value input enough := by
    obtain ⟨version, first⟩ := exists_word16 input (by simp [codec] at enough; omega)
    obtain ⟨command, second⟩ := exists_word16 (input.drop 2) (by simp [codec] at enough ⊢; omega)
    refine ⟨⟨version, command⟩, ?_⟩
    rw [second] at first
    rw [first]
    rfl
  decode_joined header skipped tail := by
    have spelled : joined (codec.fields header) = header.encode := rfl
    rw [spelled]
    exact header.decode_append (skipped.bytes ++ tail)
  decode_of_lt input short := by
    refine decodeExactly_of_short short fun header rest read => ?_
    simp only [ControlHeader.read, Option.bind_eq_bind, Option.bind_eq_some_iff, Prod.exists]
      at read
    obtain ⟨version, _, first, command, _, second, -⟩ := read
    have := length_of_readWord16 first
    have := length_of_readWord16 second
    unfold size
    omega

end ControlHeader

namespace UrbHeader

/-- Five words of 32 bits. -/
def codec : FixedCodec UrbHeader where
  size := 20
  decode := decode
  encode := encode
  meant := 20
  needed _ := 20
  fields header :=
    [(0, bytes32 header.command), (4, bytes32 header.seqnum), (8, bytes32 header.devid),
      (12, bytes32 header.direction), (16, bytes32 header.endpoint)]

theorem joined_fields (header : UrbHeader) : joined (codec.fields header) = header.encode := rfl

theorem length_of_read {input rest : Bytes} {header : UrbHeader}
    (found : read input = some (header, rest)) : input.length = rest.length + 20 := by
  rw [append_of_read found, List.length_append, length_encode, Nat.add_comm]
  rfl

theorem codec_laidOut : codec.LaidOut where
  meant_le := Nat.le_refl 20
  contiguous _ := ⟨rfl, rfl, rfl, rfl, rfl, trivial⟩
  length_joined _ := rfl
  encode_eq header := by
    rw [joined_fields]
    exact (List.append_nil _).symm
  exists_value input enough := by
    obtain ⟨header, parts⟩ := exists_of_le enough
    refine ⟨header, ?_⟩
    rw [parts]
    rfl
  decode_joined header skipped tail := by
    rw [joined_fields]
    exact header.decode_append (skipped.bytes ++ tail)
  decode_of_lt _ short := decode_of_lt short

end UrbHeader

namespace SubmitParams

/-- Five words of 32 bits and the octets of the setup packet. -/
def codec : FixedCodec SubmitParams where
  size := 28
  decode := parse
  encode := encode
  meant := 28
  needed _ := 28
  fields params :=
    [(0, bytes32 params.transferFlags), (4, bytes32 params.bufferLength),
      (8, bytes32 params.startFrame), (12, bytes32 params.packetCount),
      (16, bytes32 params.interval), (20, params.setup.bytes)]

theorem joined_fields (params : SubmitParams) : joined (codec.fields params) = params.encode := by
  simp [joined, codec, encode]

theorem codec_laidOut : codec.LaidOut where
  meant_le := Nat.le_refl 28
  contiguous _ := ⟨rfl, rfl, rfl, rfl, rfl, rfl, trivial⟩
  length_joined params := by rw [joined_fields, length_encode]; rfl
  encode_eq params := by
    rw [joined_fields]
    exact (List.append_nil _).symm
  exists_value input enough := by
    obtain ⟨params, parts⟩ := exists_of_le enough
    refine ⟨params, ?_⟩
    rw [parts, joined_fields]
    exact List.take_left' params.length_encode
  decode_joined params skipped tail := by
    rw [joined_fields]
    exact params.parse_append (skipped.bytes ++ tail)
  decode_of_lt _ short := parse_of_lt short

end SubmitParams

namespace Unlink

/-- A header and a word, then 24 octets without a meaning. The header is asked for first. -/
def codec : FixedCodec Unlink where
  size := 48
  decode := decode
  encode := encode
  meant := 24
  needed available := if available < 20 then 20 else 48
  fields unlink := UrbHeader.codec.fields unlink.header ++ [(20, bytes32 unlink.target)]

theorem joined_fields (unlink : Unlink) :
    joined (codec.fields unlink) = unlink.header.encode ++ bytes32 unlink.target := rfl

theorem codec_laidOut : codec.LaidOut where
  meant_le := by decide
  contiguous _ := ⟨rfl, rfl, rfl, rfl, rfl, rfl, trivial⟩
  length_joined _ := rfl
  encode_eq _ := rfl
  exists_value input enough := by
    simp only [codec] at enough ⊢
    have headed : UrbHeader.size ≤ input.length := by
      unfold UrbHeader.size
      omega
    obtain ⟨header, first⟩ := UrbHeader.exists_of_le headed
    obtain ⟨target, second⟩ := exists_word32 (input.drop UrbHeader.size)
      (by rw [List.length_drop]; unfold UrbHeader.size; omega)
    refine ⟨⟨header, target⟩, ?_⟩
    rw [second] at first
    rw [first]
    rfl
  decode_joined unlink skipped tail := by
    have header_read := unlink.header.decode_append
      (bytes32 unlink.target ++ (skipped.bytes ++ tail))
    have padding := Octets.read_append skipped tail
    simp only [codec, Nat.reduceSub] at padding
    rw [joined_fields, List.append_assoc]
    simp only [codec, decode, header_read, bind, Except.bind, decodeExactly]
    simp [read, UnlinkParams.read, UrbHeader.read_append, readWord32_append, padding]
  decode_of_lt input short := by
    simp only [codec, decode] at short ⊢
    by_cases headless : input.length < 20
    · rw [if_pos headless, UrbHeader.decode_of_lt headless]
      rfl
    · obtain ⟨header, first⟩ := UrbHeader.exists_of_le (Nat.le_of_not_lt headless)
      have header_read := header.decode_append (input.drop UrbHeader.size)
      rw [← first] at header_read
      rw [if_neg headless, header_read]
      refine decodeExactly_of_short short fun unlink rest found => ?_
      simp only [read, UnlinkParams.read, Option.bind_eq_bind, Option.bind_eq_some_iff,
        Prod.exists] at found
      obtain ⟨header, _, first, params, _, ⟨target, _, second, padding, _, third, whole⟩, -⟩ :=
        found
      have := UrbHeader.length_of_read first
      have := length_of_readWord32 second
      have := Octets.length_of_read third
      show 48 ≤ input.length
      omega

end Unlink

namespace UnlinkReply

/-- A header and a word, then 24 octets without a meaning. -/
def codec : FixedCodec UnlinkReply where
  size := 48
  decode := decode
  encode := encode
  meant := 24
  needed _ := 48
  fields reply := UrbHeader.codec.fields reply.header ++ [(20, bytes32 reply.status)]

theorem joined_fields (reply : UnlinkReply) :
    joined (codec.fields reply) = reply.header.encode ++ bytes32 reply.status := rfl

theorem codec_laidOut : codec.LaidOut where
  meant_le := by decide
  contiguous _ := ⟨rfl, rfl, rfl, rfl, rfl, rfl, trivial⟩
  length_joined _ := rfl
  encode_eq _ := rfl
  exists_value input enough := by
    obtain ⟨unlink, front⟩ := Unlink.codec_laidOut.exists_value input enough
    exact ⟨⟨unlink.header, unlink.target⟩, front⟩
  decode_joined reply skipped tail := by
    have padding := Octets.read_append skipped tail
    simp only [codec, Nat.reduceSub] at padding
    rw [joined_fields, List.append_assoc]
    simp only [codec, decode, decodeExactly]
    simp [read, UrbHeader.read_append, readWord32_append, padding]
  decode_of_lt input short := by
    refine decodeExactly_of_short short fun reply rest found => ?_
    simp only [read, Option.bind_eq_bind, Option.bind_eq_some_iff, Prod.exists] at found
    obtain ⟨header, _, first, status, _, second, padding, _, third, -⟩ := found
    have := UrbHeader.length_of_read first
    have := length_of_readWord32 second
    have := Octets.length_of_read third
    show 48 ≤ input.length
    omega

end UnlinkReply

namespace ImportRequest

theorem length_encodeBody (request : ImportRequest) : request.encodeBody.length = size := by
  rw [encodeBody, List.length_append, request.busId.length_eq, length_bytes32]
  rfl

theorem decode_append (request : ImportRequest) (tail : Bytes) :
    decode (request.encodeBody ++ tail) = .ok request := by
  rw [decode, decodeExactly, read_append]

/-- A word and the bus id. What is encoded begins with a control header, which is left off here. -/
def codec (version : UInt16) : FixedCodec ImportRequest where
  size := 36
  decode := decode
  encode request := (request.encode version).drop 4
  meant := 36
  needed _ := 36
  fields request := [(0, bytes32 request.status), (4, request.busId.bytes)]

theorem joined_fields (version : UInt16) (request : ImportRequest) :
    joined ((codec version).fields request) = request.encodeBody := by
  simp [joined, codec, encodeBody]

theorem codec_laidOut (version : UInt16) : (codec version).LaidOut where
  meant_le := Nat.le_refl 36
  contiguous _ := ⟨rfl, rfl, trivial⟩
  length_joined request := by
    rw [joined_fields, length_encodeBody]
    rfl
  encode_eq request := by
    rw [joined_fields]
    exact (List.append_nil _).symm
  exists_value input enough := by
    simp only [codec] at enough
    obtain ⟨status, parts⟩ := exists_word32 input (by omega)
    have field : ((input.drop 4).take 32).length = 32 := by
      rw [List.length_take, List.length_drop]
      omega
    refine ⟨⟨status, ⟨_, field⟩⟩, ?_⟩
    rw [joined_fields]
    exact congrArg (List.take 36) parts
  decode_joined request skipped tail := by
    rw [joined_fields]
    exact request.decode_append (skipped.bytes ++ tail)
  decode_of_lt input short := by
    refine decodeExactly_of_short short fun request rest found => ?_
    simp only [read, Option.bind_eq_bind, Option.bind_eq_some_iff, Prod.exists] at found
    obtain ⟨status, _, first, busId, _, second, -⟩ := found
    have := length_of_readWord32 first
    have := Octets.length_of_read second
    unfold size
    omega

/-- What is left off is the control header of an import. -/
theorem take_encode (request : ImportRequest) (version : UInt16) :
    (request.encode version).take 4 = ControlHeader.encode ⟨version, Command.requestImport⟩ := rfl

end ImportRequest

/-- Each of the six codecs is exact. The request to import has its control header in front of what
is decoded. -/
theorem fixed_codecs_exact :
    ControlHeader.codec.Exact ∧ UrbHeader.codec.Exact ∧ SubmitParams.codec.Exact ∧
      Unlink.codec.Exact ∧ UnlinkReply.codec.Exact ∧
      ∀ version, (ImportRequest.codec version).Exact ∧ ∀ request : ImportRequest,
        (request.encode version).take 4 =
          ControlHeader.encode ⟨version, Command.requestImport⟩ :=
  ⟨ControlHeader.codec_laidOut.exact, UrbHeader.codec_laidOut.exact,
    SubmitParams.codec_laidOut.exact, Unlink.codec_laidOut.exact,
    UnlinkReply.codec_laidOut.exact, fun version =>
      ⟨(ImportRequest.codec_laidOut version).exact, fun request => request.take_encode version⟩⟩

/-- A whole header and a part of the rest: the whole frame is asked for. -/
example : Unlink.decode (Bytes.zeros 30) = .error (.malformedHeader 48 30) := by decide

end UsbExport

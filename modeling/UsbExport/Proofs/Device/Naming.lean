import UsbExport.Proofs.Wire.DeviceList
import UsbExport.Proofs.Wire.FixedFrames

/-!
Bus ids: what a client is shown and what it can ask for. The record of a device holds its bus id in
a field of 32 octets, and a request to import holds an id in a field of the same size; a text is put
into the one by cutting and filling up, into the other by writing it over zeros. Main statement: a
device is named by the octets its own record shows and by no others, whether they were copied from
the record or made from the bus id, and two bus ids name the same device exactly if their first 32
octets, padded with zeros, are the same.
-/

namespace UsbExport

/-! ### Texts in a field -/

/-- The first octets of a text, with zeros where the text has ended. -/
def Bytes.padded (size : Nat) (text : Bytes) : Bytes :=
  (List.range size).map fun index => text.getD index 0

namespace Octets

/-- A field over which a text was written is the text, cut or filled up. -/
theorem overwrite_zero (size : Nat) (text : Bytes) :
    (zero size).overwrite text = ofBytes size text := by
  ext1
  have left : size - min text.length size = size - text.length := by omega
  show text.take (min text.length size) ++ (Bytes.zeros size).drop (min text.length size) =
    text.take size ++ Bytes.zeros (size - text.length)
  rw [Bytes.zeros, List.drop_replicate, left, Nat.min_comm, ← List.take_eq_take_min]
  rfl

/-- A text in a field is its first octets, padded. -/
theorem bytes_ofBytes (size : Nat) (text : Bytes) :
    (ofBytes size text).bytes = text.padded size := by
  apply List.ext_getElem?
  intro index
  by_cases inside : index < size
  · have padded : (text.padded size)[index]? = some (text.getD index 0) := by
      rw [Bytes.padded, List.getElem?_map, List.getElem?_range inside]
      rfl
    rw [padded, List.getD_eq_getElem?_getD]
    show (text.take size ++ List.replicate _ 0)[index]? = _
    -- a place in the field lies within the text or behind its end
    rw [List.getElem?_append, List.length_take]
    by_cases reached : index < text.length
    · rw [if_pos (by omega), List.getElem?_take_of_lt inside, List.getElem?_eq_getElem reached,
        Option.getD_some]
    · rw [if_neg (by omega), List.getElem?_replicate_of_lt (by omega),
        List.getElem?_eq_none (Nat.le_of_not_lt reached), Option.getD_none]
  · have beyond := Nat.le_of_not_lt inside
    rw [List.getElem?_eq_none (by rw [length_eq]; exact beyond),
      List.getElem?_eq_none (by simpa [Bytes.padded] using beyond)]

end Octets

theorem BusId.bytes_ofString (id : String) :
    (BusId.ofString id).bytes = Bytes.padded 32 id.toUTF8.toList := by
  rw [ofString, Octets.overwrite_zero, Octets.bytes_ofBytes]

/-! ### What a request asks for -/

namespace ImportRequest

/-- The octets behind the control header of a request are read as the request. -/
theorem decode_encode (request : ImportRequest) (version : UInt16) (tail : Bytes) :
    decode ((request.encode version).drop 4 ++ tail) = .ok request :=
  request.decode_append tail

theorem exists_of_long {body : Bytes} (long : 36 ≤ body.length) :
    ∃ request, decode body = .ok request := by
  obtain ⟨request, -, decoded⟩ := (codec_laidOut 0).decode_of_le long
  have whole := decoded (body.drop 36)
  rw [show (codec 0).size = 36 from rfl, List.take_append_drop] at whole
  exact ⟨request, whole⟩

theorem busId_of_decode {body : Bytes} {request : ImportRequest}
    (decoded : decode body = .ok request) :
    36 ≤ body.length ∧ fieldAt body 4 32 = request.busId.bytes := by
  have member : (4, request.busId.bytes) ∈ (codec 0).fields request :=
    List.mem_cons_of_mem _ List.mem_cons_self
  obtain ⟨-, long, found⟩ := (codec_laidOut 0).exact.field_eq body request decoded _ member
  rw [request.busId.length_eq] at found
  exact ⟨long, found⟩

end ImportRequest

/-! ### What a device is named by -/

namespace DeviceRecord

variable (device : DeviceRecord)

theorem fieldAt_encode : fieldAt device.encode 256 32 = device.busIdField.bytes := by
  have fields := device.fieldsFrom_encode []
  rw [List.append_nil] at fields
  simp only [fieldsFrom, parts, List.cons.injEq, Nat.zero_add] at fields
  exact fields.2.1

/-- The bus id a client copies from the record. -/
def shownBusId : BusId where
  bytes := fieldAt device.encode 256 32
  length_eq := by rw [fieldAt_encode, length_busIdField]

theorem shownBusId_eq : device.shownBusId = .ofString device.busId := by
  ext1
  show fieldAt device.encode 256 32 = _
  rw [fieldAt_encode, BusId.ofString, Octets.overwrite_zero]
  rfl

theorem isNamedBy_iff (id : BusId) : device.isNamedBy id = true ↔ id = device.shownBusId := by
  have shown : device.busIdField = device.shownBusId := by
    ext1
    exact device.fieldAt_encode.symm
  rw [isNamedBy, beq_iff_eq, shown, eq_comm]

/-- The octets behind the control header of a request ask for the device. -/
def IsAskedForBy (body : Bytes) : Prop :=
  ∃ request, ImportRequest.decode body = .ok request ∧ device.isNamedBy request.busId = true

theorem isAskedForBy_iff (body : Bytes) :
    device.IsAskedForBy body ↔
      36 ≤ body.length ∧ fieldAt body 4 32 = fieldAt device.encode 256 32 := by
  constructor
  · rintro ⟨request, decoded, named⟩
    obtain ⟨long, found⟩ := ImportRequest.busId_of_decode decoded
    rw [(device.isNamedBy_iff _).1 named] at found
    exact ⟨long, found⟩
  · rintro ⟨long, same⟩
    obtain ⟨request, decoded⟩ := ImportRequest.exists_of_long long
    refine ⟨request, decoded, (device.isNamedBy_iff _).2 ?_⟩
    ext1
    rw [← (ImportRequest.busId_of_decode decoded).2, same]
    rfl

theorem isAskedForBy_encode (status : UInt32) (version : UInt16) (tail : Bytes) :
    device.IsAskedForBy
      ((ImportRequest.encode ⟨status, device.shownBusId⟩ version).drop 4 ++ tail) :=
  ⟨_, ImportRequest.decode_encode _ version tail, (device.isNamedBy_iff _).2 rfl⟩

/-- A bus id that a client spells names the device if nothing of it differs within the field. -/
theorem isNamedBy_ofString_iff (text : String) :
    device.isNamedBy (.ofString text) = true ↔
      Bytes.padded 32 text.toUTF8.toList = Bytes.padded 32 device.busId.toUTF8.toList := by
  rw [isNamedBy_iff, shownBusId_eq, Octets.ext_iff, BusId.bytes_ofString, BusId.bytes_ofString]

/-- A device is named by the octets of the bus id in its own record and by no others; these are what
is written into a request for its bus id, the first 32 octets of it, padded with zeros. The octets
behind the control header of a request ask for the device exactly if there are enough of them and
these stand in their place, as they do whether they were copied from the record or made from the bus
id. Two bus ids are taken for one another exactly if their first 32 octets, padded, are the same. -/
theorem named_exactly_as_shown :
    (∀ id : BusId, device.isNamedBy id = true ↔ id.bytes = fieldAt device.encode 256 32) ∧
      fieldAt device.encode 256 32 = (BusId.ofString device.busId).bytes ∧
      fieldAt device.encode 256 32 = Bytes.padded 32 device.busId.toUTF8.toList ∧
      (∀ body, device.IsAskedForBy body ↔
        36 ≤ body.length ∧ fieldAt body 4 32 = fieldAt device.encode 256 32) ∧
      (∀ status version tail,
        device.IsAskedForBy
            ((ImportRequest.encode ⟨status, device.shownBusId⟩ version).drop 4 ++ tail) ∧
          device.IsAskedForBy
            ((ImportRequest.encode ⟨status, .ofString device.busId⟩ version).drop 4 ++ tail)) ∧
      (∀ text : String, device.isNamedBy (.ofString text) = true ↔
        Bytes.padded 32 text.toUTF8.toList = Bytes.padded 32 device.busId.toUTF8.toList) ∧
      ∀ other : DeviceRecord,
        (∃ id, device.isNamedBy id = true ∧ other.isNamedBy id = true) ↔
          Bytes.padded 32 device.busId.toUTF8.toList =
            Bytes.padded 32 other.busId.toUTF8.toList := by
  have shown : fieldAt device.encode 256 32 = (BusId.ofString device.busId).bytes :=
    congrArg Octets.bytes device.shownBusId_eq
  refine ⟨fun id => ?_, shown, ?_, device.isAskedForBy_iff, fun status version tail => ?_,
    device.isNamedBy_ofString_iff, fun other => ?_⟩
  · rw [isNamedBy_iff, Octets.ext_iff]
    rfl
  · rw [shown, BusId.bytes_ofString]
  · have copied := device.isAskedForBy_encode status version tail
    have made := copied
    rw [shownBusId_eq] at made
    exact ⟨copied, made⟩
  · rw [← isNamedBy_ofString_iff, isNamedBy_iff, ← shownBusId_eq]
    constructor
    · rintro ⟨id, first, second⟩
      rw [← (device.isNamedBy_iff id).1 first, (other.isNamedBy_iff id).1 second]
    · intro same
      exact ⟨device.shownBusId, (device.isNamedBy_iff _).2 rfl, (other.isNamedBy_iff _).2 same⟩

/-- The last character is cut in two, and another one begins with the same octet. -/
example : isNamedBy { busId := "1-1.1.1.1.1.1.1.1.1.1.1.1.1.1.1é" }
    (.ofString "1-1.1.1.1.1.1.1.1.1.1.1.1.1.1.1è") = true := by decide +kernel

example : isNamedBy { busId := "1-1" } (.ofString "1-1.1") = false := by decide +kernel

end DeviceRecord

end UsbExport

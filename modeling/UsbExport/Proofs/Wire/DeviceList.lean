import UsbExport.Proofs.Wire.SubmitCodec
import UsbExport.Wire.Reply

/-!
The device list as a client takes it apart. A header of twelve octets says how many devices follow;
the record of a device has every field at a fixed offset and says in its last octet how many entries
of four octets come behind it. Main statement: who goes by these offsets and counts alone takes
exactly the list off the input and finds in it all that is shown of every device. The reply that
grants an import carries the fields of its device at the same places.
-/

namespace UsbExport

/-! ### Fields at their places -/

/-- The octets of a field, or what is there of them. -/
def fieldAt (input : Bytes) (offset size : Nat) : Bytes := (input.drop offset).take size

/-- The number that octets make up, the most significant one first. -/
def Bytes.number (field : Bytes) : Nat :=
  field.foldl (fun value byte => value * 256 + byte.toNat) 0

def numberAt (input : Bytes) (offset size : Nat) : Nat := (fieldAt input offset size).number

/-- A text field without its padding: everything up to the first zero. -/
def textAt (input : Bytes) (offset size : Nat) : Bytes :=
  (fieldAt input offset size).takeWhile (· != 0)

@[simp] theorem Bytes.number_bytes32 (value : UInt32) : (bytes32 value).number = value.toNat := by
  have bound := value.toNat_lt
  simp only [number, bytes32, List.foldl_cons, List.foldl_nil, UInt8.toNat_ofNat']
  omega

@[simp] theorem Bytes.number_bytes16 (value : UInt16) : (bytes16 value).number = value.toNat := by
  have bound := value.toNat_lt
  simp only [number, bytes16, List.foldl_cons, List.foldl_nil, UInt8.toNat_ofNat']
  omega

@[simp] theorem Bytes.number_singleton (byte : UInt8) : Bytes.number [byte] = byte.toNat := by
  simp [number]

/-- Fields of these sizes, one behind the other from an offset on. -/
def fieldsFrom (input : Bytes) : Nat → List Nat → List Bytes
  | _, [] => []
  | offset, size :: sizes => fieldAt input offset size :: fieldsFrom input (offset + size) sizes

/-- Of parts in a row, each stands behind those before it. -/
theorem fieldsFrom_flatten (front : Bytes) (parts : List Bytes) (tail : Bytes) :
    fieldsFrom (front ++ (parts.flatten ++ tail)) front.length (parts.map List.length) = parts := by
  induction parts generalizing front with
  | nil => rfl
  | cons part parts ih =>
      have first : fieldAt (front ++ ((part :: parts).flatten ++ tail)) front.length part.length =
          part := by
        rw [fieldAt, List.drop_left, List.flatten_cons, List.append_assoc, List.take_left]
      have rest := ih (front ++ part)
      rw [List.length_append, List.append_assoc, ← List.append_assoc part, ← List.flatten_cons]
        at rest
      rw [List.map_cons, fieldsFrom, first, rest]

theorem fieldAt_append_right (front rest : Bytes) (offset size : Nat) :
    fieldAt (front ++ rest) (front.length + offset) size = fieldAt rest offset size := by
  rw [fieldAt, fieldAt, List.drop_length_add_append]

/-- A text without zeros is found in its field as far as there is room. -/
theorem takeWhile_ofBytes {size : Nat} {text : Bytes} (plain : 0 ∉ text) :
    (Octets.ofBytes size text).bytes.takeWhile (· != 0) = text.take size := by
  have kept : ∀ byte ∈ text.take size, (byte != 0) = true := fun byte member =>
    bne_iff_ne.2 (ne_of_mem_of_not_mem (List.mem_of_mem_take member) plain)
  show (text.take size ++ List.replicate _ 0).takeWhile _ = _
  rw [List.takeWhile_append_of_pos kept, List.takeWhile_replicate]
  simp

/-! ### What a client sees -/

/-- What a device list tells of a device. -/
structure Exhibit where
  path : Bytes
  busId : Bytes
  busNumber : Nat
  deviceNumber : Nat
  speed : Nat
  vendor : Nat
  product : Nat
  release : Nat
  classCode : Nat
  subclass : Nat
  protocol : Nat
  configuration : Nat
  configurations : Nat
  /-- Class, subclass and protocol of every interface. -/
  interfaces : List (Nat × Nat × Nat)
deriving DecidableEq, Repr

/-- All there is to tell of a device. Its path and its bus id are told as far as there is room. -/
def DeviceRecord.shown (device : DeviceRecord) : Exhibit where
  path := device.path.toUTF8.toList.take 256
  busId := device.busId.toUTF8.toList.take 32
  busNumber := device.busNumber.toNat
  deviceNumber := device.deviceNumber.toNat
  speed := device.speed.toNat
  vendor := device.vendor.toNat
  product := device.product.toNat
  release := device.release.toNat
  classCode := device.classCode.toNat
  subclass := device.subclass.toNat
  protocol := device.protocol.toNat
  configuration := device.configuration.toNat
  configurations := device.configurations.toNat
  interfaces := device.interfaces.map fun entry =>
    (entry.classCode.toNat, entry.subclass.toNat, entry.protocol.toNat)

namespace Exhibit

/-- The entry of an interface; its fourth octet means nothing. -/
def entryAt (input : Bytes) (offset : Nat) : Nat × Nat × Nat :=
  (numberAt input offset 1, numberAt input (offset + 1) 1, numberAt input (offset + 2) 1)

/-- Takes a record off the input, with as many entries as it declares. -/
def read (input : Bytes) : Option (Exhibit × Bytes) :=
  let count := numberAt input 311 1
  if input.length < 312 ∨ input.length < 312 + 4 * count then none
  else
    some
      ({ path := textAt input 0 256
         busId := textAt input 256 32
         busNumber := numberAt input 288 4
         deviceNumber := numberAt input 292 4
         speed := numberAt input 296 4
         vendor := numberAt input 300 2
         product := numberAt input 302 2
         release := numberAt input 304 2
         classCode := numberAt input 306 1
         subclass := numberAt input 307 1
         protocol := numberAt input 308 1
         configuration := numberAt input 309 1
         configurations := numberAt input 310 1
         interfaces := (List.range count).map fun index => entryAt input (312 + 4 * index) },
        input.drop (312 + 4 * count))

/-- Takes a number of devices off the input. -/
def readMany : Nat → Bytes → Option (List Exhibit × Bytes)
  | 0, input => some ([], input)
  | count + 1, input => do
      let (first, input) ← read input
      let (rest, input) ← readMany count input
      return (first :: rest, input)

end Exhibit

/-- A device list as a client finds it. -/
structure DeviceList where
  version : Nat
  command : Nat
  status : Nat
  count : Nat
  devices : List Exhibit
deriving DecidableEq, Repr

/-- Takes a device list off the input. -/
def DeviceList.read (input : Bytes) : Option (DeviceList × Bytes) :=
  let count := numberAt input 8 4
  if input.length < 12 then none
  else do
    let (devices, rest) ← Exhibit.readMany count (input.drop 12)
    return (⟨numberAt input 0 2, numberAt input 2 2, numberAt input 4 4, count, devices⟩, rest)

/-! ### A device -/

namespace DeviceRecord

/-- A device that a list can tell of: its interfaces can be counted in one octet, and no zero ends
its texts early. -/
structure IsListable (device : DeviceRecord) : Prop where
  countable : device.interfaces.length ≤ 255
  path_plain : 0 ∉ device.path.toUTF8.toList
  busId_plain : 0 ∉ device.busId.toUTF8.toList

variable (device : DeviceRecord)

/-- The fields of the record in their order. -/
def parts : List Bytes :=
  [device.pathField.bytes, device.busIdField.bytes, bytes32 device.busNumber,
    bytes32 device.deviceNumber, bytes32 device.speed, bytes16 device.vendor,
    bytes16 device.product, bytes16 device.release, [device.classCode], [device.subclass],
    [device.protocol], [device.configuration], [device.configurations],
    [device.interfaces.length.toUInt8]]

theorem flatten_parts : device.parts.flatten = device.encode := by
  simp [parts, encode]

theorem length_pathField : device.pathField.bytes.length = 256 := device.pathField.length_eq

theorem length_busIdField : device.busIdField.bytes.length = 32 := device.busIdField.length_eq

/-- Every field is found at its offset, whatever follows the record. -/
theorem fieldsFrom_encode (tail : Bytes) :
    fieldsFrom (device.encode ++ tail) 0 [256, 32, 4, 4, 4, 2, 2, 2, 1, 1, 1, 1, 1, 1] =
      device.parts := by
  have fields := fieldsFrom_flatten [] device.parts tail
  rw [List.nil_append, flatten_parts] at fields
  simpa [parts, length_pathField, length_busIdField] using fields

theorem length_entries (entries : List InterfaceEntry) :
    (entries.flatMap InterfaceEntry.encode).length = 4 * entries.length := by
  induction entries with
  | nil => rfl
  | cons entry entries ih =>
      rw [List.flatMap_cons, List.length_append, ih, List.length_cons]
      show 4 + _ = _
      omega

theorem length_encodeWithInterfaces :
    device.encodeWithInterfaces.length = 312 + 4 * device.interfaces.length := by
  rw [encodeWithInterfaces, List.length_append, length_encode, length_entries]
  rfl

end DeviceRecord

/-- Of entries in a row, each is found behind those before it. -/
theorem Exhibit.map_entryAt (entries : List InterfaceEntry) (front tail : Bytes) :
    (List.range entries.length).map (fun index => entryAt
      (front ++ (entries.flatMap InterfaceEntry.encode ++ tail)) (front.length + 4 * index)) =
      entries.map fun entry =>
        (entry.classCode.toNat, entry.subclass.toNat, entry.protocol.toNat) := by
  refine List.ext_getElem (by simp) fun index inside _ => ?_
  have inside : index < entries.length := by simpa using inside
  have split : entries.flatMap InterfaceEntry.encode =
      (entries.take index).flatMap InterfaceEntry.encode ++ (entries[index].encode ++
        (entries.drop (index + 1)).flatMap InterfaceEntry.encode) := by
    rw [← List.flatMap_cons, List.getElem_cons_drop, ← List.flatMap_append, List.take_append_drop]
  have before : ((entries.take index).flatMap InterfaceEntry.encode).length = 4 * index := by
    rw [DeviceRecord.length_entries, List.length_take, Nat.min_eq_left (Nat.le_of_lt inside)]
  have found (place : Nat) : numberAt (front ++ (entries.flatMap InterfaceEntry.encode ++ tail))
      (front.length + 4 * index + place) 1 = numberAt (entries[index].encode ++
        ((entries.drop (index + 1)).flatMap InterfaceEntry.encode ++ tail)) place 1 := by
    rw [split, List.append_assoc, List.append_assoc, Nat.add_assoc, numberAt,
      fieldAt_append_right, ← before, fieldAt_append_right, numberAt]
  simp only [List.getElem_map, List.getElem_range, entryAt]
  rw [found 1, found 2, ← Nat.add_zero (_ + _), found 0]
  simp [numberAt, fieldAt, InterfaceEntry.encode]

namespace DeviceRecord

variable {device : DeviceRecord}

/-- A device that can be told of is read as it is shown, whatever follows it. -/
theorem IsListable.read_append (listable : device.IsListable) (tail : Bytes) :
    Exhibit.read (device.encodeWithInterfaces ++ tail) = some (device.shown, tail) := by
  have countable := listable.countable
  have split : device.encodeWithInterfaces ++ tail =
      device.encode ++ (device.interfaces.flatMap InterfaceEntry.encode ++ tail) := by
    rw [encodeWithInterfaces, List.append_assoc]
  have length_eq := device.length_encodeWithInterfaces
  have fields := device.fieldsFrom_encode (device.interfaces.flatMap InterfaceEntry.encode ++ tail)
  have entries := Exhibit.map_entryAt device.interfaces device.encode tail
  rw [← split] at fields entries
  rw [length_encode] at entries
  simp only [fieldsFrom, parts, List.cons.injEq, and_true, Nat.zero_add, Nat.reduceAdd] at fields
  obtain ⟨path, busId, busNumber, deviceNumber, speed, vendor, product, release, classCode,
    subclass, protocol, configuration, configurations, interfaces⟩ := fields
  have count : numberAt (device.encodeWithInterfaces ++ tail) 311 1 = device.interfaces.length := by
    rw [numberAt, interfaces, Bytes.number_singleton, Nat.toUInt8, UInt8.toNat_ofNat']
    omega
  have path_eq : textAt (device.encodeWithInterfaces ++ tail) 0 256 = device.shown.path := by
    rw [textAt, path]
    exact takeWhile_ofBytes listable.path_plain
  have busId_eq : textAt (device.encodeWithInterfaces ++ tail) 256 32 = device.shown.busId := by
    rw [textAt, busId]
    exact takeWhile_ofBytes listable.busId_plain
  rw [Exhibit.read]
  simp only [count, path_eq, busId_eq]
  rw [if_neg (by rw [List.length_append]; omega), ← length_eq, List.drop_left]
  simp only [numberAt, busNumber, deviceNumber, speed, vendor, product, release, classCode,
    subclass, protocol, configuration, configurations, Bytes.number_bytes32, Bytes.number_bytes16,
    Bytes.number_singleton]
  rw [show (312 : Nat) = size from rfl, entries]
  rfl

end DeviceRecord

/-! ### The whole list -/

theorem Exhibit.readMany_append {devices : List DeviceRecord}
    (listable : ∀ device ∈ devices, device.IsListable) (tail : Bytes) :
    readMany devices.length (devices.flatMap DeviceRecord.encodeWithInterfaces ++ tail) =
      some (devices.map DeviceRecord.shown, tail) := by
  induction devices with
  | nil => rfl
  | cons device devices ih =>
      obtain ⟨first, rest⟩ := List.forall_mem_cons.1 listable
      rw [List.length_cons, List.flatMap_cons, List.append_assoc, readMany, first.read_append]
      simp [ih rest]

/-- Who goes by the fixed offsets and the counts takes exactly the device list off the input,
whatever follows it, and recovers the version and the number of devices, and of every device all
fields, all interfaces in their order, and its path and its bus id as far as there is room. -/
theorem DeviceList.read_listOf {devices : List DeviceRecord} (few : devices.length < UInt32.size)
    (listable : ∀ device ∈ devices, device.IsListable) (version : UInt16) (tail : Bytes) :
    DeviceList.read ((Reply.listOf version devices).encode ++ tail) =
      some (⟨version.toNat, 5, 0, devices.length, devices.map DeviceRecord.shown⟩, tail) := by
  have encode_eq : (Reply.listOf version devices).encode ++ tail =
      [bytes16 version, bytes16 Command.replyDeviceList, bytes32 0,
        bytes32 devices.length.toUInt32].flatten ++
      (devices.flatMap DeviceRecord.encodeWithInterfaces ++ tail) := by
    simp [Reply.listOf, Reply.encode]
  have fields := fieldsFrom_flatten [] [bytes16 version, bytes16 Command.replyDeviceList, bytes32 0,
    bytes32 devices.length.toUInt32] (devices.flatMap DeviceRecord.encodeWithInterfaces ++ tail)
  rw [List.nil_append, ← encode_eq] at fields
  simp only [List.map_cons, List.map_nil, List.length_nil, length_bytes16, length_bytes32,
    fieldsFrom, List.cons.injEq, and_true, Nat.zero_add, Nat.reduceAdd] at fields
  obtain ⟨version_eq, command_eq, status_eq, count_eq⟩ := fields
  have count : numberAt ((Reply.listOf version devices).encode ++ tail) 8 4 = devices.length := by
    rw [numberAt, count_eq, Bytes.number_bytes32, Nat.toUInt32, UInt32.toNat_ofNat']
    exact Nat.mod_eq_of_lt few
  have behind : ((Reply.listOf version devices).encode ++ tail).drop 12 =
      devices.flatMap DeviceRecord.encodeWithInterfaces ++ tail := by
    rw [encode_eq]
    exact List.drop_left' rfl
  have long : ¬((Reply.listOf version devices).encode ++ tail).length < 12 := by
    rw [encode_eq, List.length_append]
    simp
  rw [DeviceList.read]
  simp only [count, behind]
  rw [if_neg long, Exhibit.readMany_append listable]
  simp only [numberAt, version_eq, command_eq, status_eq, Bytes.number_bytes16,
    Bytes.number_bytes32]
  rfl

/-! ### The reply that grants an import -/

/-- A frame grants a device: it is the reply to an import, its status is zero, and the fields of the
device stand behind it and nothing else does. -/
structure IsGrant (version : UInt16) (device : DeviceRecord) (frame : Bytes) : Prop where
  length_eq : frame.length = 320
  version_eq : numberAt frame 0 2 = version.toNat
  command_eq : numberAt frame 2 2 = 3
  status_eq : numberAt frame 4 4 = 0
  fields_eq : fieldsFrom frame 8 [256, 32, 4, 4, 4, 2, 2, 2, 1, 1, 1, 1, 1, 1] = device.parts

theorem isGrant_accepted (version : UInt16) (device : DeviceRecord) :
    IsGrant version device (Reply.accepted version device).encode := by
  have encode_eq : (Reply.accepted version device).encode =
      bytes16 version ++ (bytes16 Command.replyImport ++ (bytes32 0 ++ device.encode)) := by
    simp [Reply.accepted, Reply.encode]
  have head := fieldsFrom_flatten [] [bytes16 version, bytes16 Command.replyImport, bytes32 0]
    device.encode
  have behind := fieldsFrom_flatten (bytes16 version ++ bytes16 Command.replyImport ++ bytes32 0)
    device.parts []
  rw [List.append_nil, device.flatten_parts] at behind
  rw [encode_eq]
  simp only [List.flatten_cons, List.flatten_nil, List.append_nil, List.nil_append, List.map_cons,
    List.map_nil, List.length_nil, length_bytes16, length_bytes32, List.append_assoc, fieldsFrom,
    List.cons.injEq, and_true, Nat.zero_add, Nat.reduceAdd] at head
  obtain ⟨version_eq, command_eq, status_eq⟩ := head
  refine ⟨?_, ?_, ?_, ?_, ?_⟩
  · simp [DeviceRecord.length_encode, DeviceRecord.size]
  · rw [numberAt, version_eq, Bytes.number_bytes16]
  · rw [numberAt, command_eq, Bytes.number_bytes16]
    rfl
  · rw [numberAt, status_eq, Bytes.number_bytes32]
    rfl
  · simpa [DeviceRecord.parts, DeviceRecord.length_pathField, DeviceRecord.length_busIdField]
      using behind

/-- Its bus id is cut inside its last character. -/
def longNamed : DeviceRecord where
  path := "/sys/bus/usb/devices/1-1"
  busId := "1-1.1.1.1.1.1.1.1.1.1.1.1.1.1.1é"
  busNumber := 1
  deviceNumber := 2
  vendor := 0x1234
  interfaces := [⟨3, 1, 2⟩, ⟨10, 0, 0⟩]

/-- A device with two interfaces in front of one with none, and something else behind them. -/
theorem DeviceList.read_listOf_of_two :
    longNamed.IsListable ∧ longNamed.shown.busId.length = 32 ∧
      longNamed.busId.toUTF8.toList.length = 33 ∧
      DeviceList.read ((Reply.listOf 0x0111 [longNamed, {}]).encode ++ [1, 17]) =
        some (⟨0x0111, 5, 0, 2,
          [{ path := longNamed.path.toUTF8.toList
             busId := longNamed.busId.toUTF8.toList.take 32
             busNumber := 1, deviceNumber := 2, speed := 0
             vendor := 0x1234, product := 0, release := 0
             classCode := 0, subclass := 0, protocol := 0, configuration := 0, configurations := 0
             interfaces := [(3, 1, 2), (10, 0, 0)] },
            DeviceRecord.shown {}]⟩, [1, 17]) := by
  have listable : longNamed.IsListable :=
    ⟨by decide, by decide +kernel, by decide +kernel⟩
  have plain : DeviceRecord.IsListable {} := ⟨by decide, by decide +kernel, by decide +kernel⟩
  have both : ∀ device ∈ [longNamed, {}], device.IsListable := by simp [listable, plain]
  refine ⟨listable, by decide +kernel, by decide +kernel, ?_⟩
  rw [DeviceList.read_listOf (by decide) both]
  decide +kernel

end UsbExport

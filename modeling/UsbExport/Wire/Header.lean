import UsbExport.Wire.Command
import UsbExport.Wire.Error

/-!
The two headers: four bytes in front of a control command, twenty in front of every frame about
a URB. Both are sequences of big-endian words.
-/

namespace UsbExport

structure ControlHeader where
  version : UInt16
  command : UInt16
deriving DecidableEq, Repr, Inhabited

namespace ControlHeader

def size : Nat := 4

def encode (header : ControlHeader) : Bytes := bytes16 header.version ++ bytes16 header.command

def read (input : Bytes) : Option (ControlHeader × Bytes) := do
  let (version, input) ← readWord16 input
  let (command, input) ← readWord16 input
  return (⟨version, command⟩, input)

def decode : Bytes → Except WireError ControlHeader := decodeExactly size read

def kind (header : ControlHeader) : Command := .ofControlCode header.command

@[simp] theorem length_encode (header : ControlHeader) : header.encode.length = size := rfl

theorem read_append (header : ControlHeader) (tail : Bytes) :
    read (header.encode ++ tail) = some (header, tail) := by
  simp [read, encode, List.append_assoc, readWord16_append]

end ControlHeader

structure UrbHeader where
  command : UInt32
  seqnum : UInt32
  devid : UInt32
  direction : UInt32
  endpoint : UInt32
deriving DecidableEq, Repr, Inhabited

namespace UrbHeader

def size : Nat := 20

def encode (header : UrbHeader) : Bytes :=
  bytes32 header.command ++ bytes32 header.seqnum ++ bytes32 header.devid ++
    bytes32 header.direction ++ bytes32 header.endpoint

def read (input : Bytes) : Option (UrbHeader × Bytes) := do
  let (command, input) ← readWord32 input
  let (seqnum, input) ← readWord32 input
  let (devid, input) ← readWord32 input
  let (direction, input) ← readWord32 input
  let (endpoint, input) ← readWord32 input
  return (⟨command, seqnum, devid, direction, endpoint⟩, input)

def decode : Bytes → Except WireError UrbHeader := decodeExactly size read

def kind (header : UrbHeader) : Command := .ofUrbCode header.command

/-- A reply names only its command and the request it belongs to. -/
def reply (command seqnum : UInt32) : UrbHeader := ⟨command, seqnum, 0, 0, 0⟩

/-- Direction zero sends data to the device; every other value reads from it. -/
def isOut (header : UrbHeader) : Bool := header.direction == 0

@[simp] theorem length_encode (header : UrbHeader) : header.encode.length = size := rfl

theorem read_append (header : UrbHeader) (tail : Bytes) :
    read (header.encode ++ tail) = some (header, tail) := by
  simp [read, encode, List.append_assoc, readWord32_append]

end UrbHeader

end UsbExport

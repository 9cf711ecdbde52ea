import UsbExport.Wire.Header

/-!
Importing a device: the request carries a status word and the device's bus id in a field of
32 bytes.
-/

namespace UsbExport

abbrev BusId := Octets 32

namespace BusId

/-- The id is written over a field of zeros. Longer ids are cut, even inside a character. -/
def ofString (id : String) : BusId := (Octets.zero 32).overwrite id.toUTF8.toList

/-- The id without its padding: everything up to the first zero. -/
def text (id : BusId) : Bytes := id.bytes.takeWhile (· != 0)

end BusId

structure ImportRequest where
  status : UInt32
  busId : BusId
deriving DecidableEq, Repr, Inhabited

namespace ImportRequest

/-- Bytes after the control header. -/
def size : Nat := 36

def encodeBody (request : ImportRequest) : Bytes := bytes32 request.status ++ request.busId.bytes

/-- The whole request, control header included. -/
def encode (request : ImportRequest) (version : UInt16) : Bytes :=
  ControlHeader.encode ⟨version, Command.requestImport⟩ ++ request.encodeBody

def read (input : Bytes) : Option (ImportRequest × Bytes) := do
  let (status, input) ← readWord32 input
  let (busId, input) ← Octets.read 32 input
  return (⟨status, busId⟩, input)

theorem read_append (request : ImportRequest) (tail : Bytes) :
    read (request.encodeBody ++ tail) = some (request, tail) := by
  simp [read, encodeBody, List.append_assoc, readWord32_append, Octets.read_append]

/-- Reads the bytes after the control header. -/
def decode : Bytes → Except WireError ImportRequest := decodeExactly size read

end ImportRequest

end UsbExport

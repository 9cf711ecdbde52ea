import UsbExport.Wire.Header

/-!
Cancelling a URB: the command names the URB to cancel, the reply acknowledges the command. Both
frames have 48 bytes, the last 24 of which mean nothing and are written as zeros.
-/

namespace UsbExport

structure UnlinkParams where
  target : UInt32
deriving DecidableEq, Repr, Inhabited

namespace UnlinkParams

def size : Nat := 28

def read (input : Bytes) : Option (UnlinkParams × Bytes) := do
  let (target, input) ← readWord32 input
  let (_, input) ← Octets.read 24 input
  return (⟨target⟩, input)

def decode : Bytes → Except WireError UnlinkParams := decodeExactly size read

end UnlinkParams

structure Unlink where
  header : UrbHeader
  target : UInt32
deriving DecidableEq, Repr, Inhabited

namespace Unlink

def size : Nat := UrbHeader.size + UnlinkParams.size

def encode (unlink : Unlink) : Bytes :=
  unlink.header.encode ++ bytes32 unlink.target ++ Bytes.zeros 24

def read (input : Bytes) : Option (Unlink × Bytes) := do
  let (header, input) ← UrbHeader.read input
  let (params, input) ← UnlinkParams.read input
  return (⟨header, params.target⟩, input)

theorem read_append (unlink : Unlink) (tail : Bytes) :
    read (unlink.encode ++ tail) = some (unlink, tail) := by
  have padding := Octets.read_append (Octets.zero 24) tail
  simp only [Octets.zero] at padding
  simp [read, encode, UnlinkParams.read, List.append_assoc, UrbHeader.read_append,
    readWord32_append, padding]

/-- A missing header is reported first, then a missing rest with the whole length. -/
def decode (input : Bytes) : Except WireError Unlink := do
  let _ ← UrbHeader.decode input
  decodeExactly size read input

end Unlink

structure UnlinkReply where
  header : UrbHeader
  status : UInt32
deriving DecidableEq, Repr, Inhabited

namespace UnlinkReply

def size : Nat := 48

/-- Acknowledges the command that carried `seqnum`. -/
def acknowledge (seqnum status : UInt32) : UnlinkReply :=
  ⟨.reply Command.returnUnlink seqnum, status⟩

def encode (reply : UnlinkReply) : Bytes :=
  reply.header.encode ++ bytes32 reply.status ++ Bytes.zeros 24

def read (input : Bytes) : Option (UnlinkReply × Bytes) := do
  let (header, input) ← UrbHeader.read input
  let (status, input) ← readWord32 input
  let (_, input) ← Octets.read 24 input
  return (⟨header, status⟩, input)

def decode : Bytes → Except WireError UnlinkReply := decodeExactly size read

theorem read_append (reply : UnlinkReply) (tail : Bytes) :
    read (reply.encode ++ tail) = some (reply, tail) := by
  have padding := Octets.read_append (Octets.zero 24) tail
  simp only [Octets.zero] at padding
  simp [read, encode, List.append_assoc, UrbHeader.read_append, readWord32_append, padding]

@[simp] theorem length_encode (reply : UnlinkReply) : reply.encode.length = size := rfl

end UnlinkReply

end UsbExport

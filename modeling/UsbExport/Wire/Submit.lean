import UsbExport.Wire.Header

/-!
Submitting a URB. The parameters declare how many payload bytes and isochronous packet
descriptors follow them; both lengths are bounded before anything is taken from the input.
-/

namespace UsbExport

structure SubmitParams where
  transferFlags : UInt32
  bufferLength : UInt32
  startFrame : UInt32
  packetCount : UInt32
  interval : UInt32
  setup : Octets 8
deriving DecidableEq, Repr, Inhabited

namespace SubmitParams

def size : Nat := 28

/-- Bytes of one isochronous packet descriptor. -/
def descriptorSize : Nat := 16

def encode (params : SubmitParams) : Bytes :=
  bytes32 params.transferFlags ++ bytes32 params.bufferLength ++ bytes32 params.startFrame ++
    bytes32 params.packetCount ++ bytes32 params.interval ++ params.setup.bytes

def read (input : Bytes) : Option (SubmitParams × Bytes) := do
  let (transferFlags, input) ← readWord32 input
  let (bufferLength, input) ← readWord32 input
  let (startFrame, input) ← readWord32 input
  let (packetCount, input) ← readWord32 input
  let (interval, input) ← readWord32 input
  let (setup, input) ← Octets.read 8 input
  return (⟨transferFlags, bufferLength, startFrame, packetCount, interval, setup⟩, input)

/-- Reads the fields and checks no length they declare. -/
def parse : Bytes → Except WireError SubmitParams := decodeExactly size read

/-- A count of zero and a count of all ones both mean that no descriptors follow. -/
def descriptorLength (params : SubmitParams) : Nat :=
  if params.packetCount = 0 ∨ params.packetCount = 0xFFFFFFFF then 0
  else params.packetCount.toNat * descriptorSize

/-- Only a URB that sends to the device brings its payload along. -/
def payloadLength (params : SubmitParams) (header : UrbHeader) : Nat :=
  if header.isOut then params.bufferLength.toNat else 0

/-- The buffer length is compared with the bound before the descriptors are. -/
def checkBounds (params : SubmitParams) (bound : Nat) : Except WireError Unit :=
  if bound < params.bufferLength.toNat then
    .error (.payloadTooLarge params.bufferLength.toNat bound)
  else if bound < params.descriptorLength then
    .error (.payloadTooLarge params.descriptorLength bound)
  else .ok ()

def decode (input : Bytes) (bound : Nat) : Except WireError SubmitParams := do
  let params ← parse input
  params.checkBounds bound
  return params

@[simp] theorem length_encode (params : SubmitParams) : params.encode.length = size := by
  simp [encode, params.setup.length_eq, size]

theorem read_append (params : SubmitParams) (tail : Bytes) :
    read (params.encode ++ tail) = some (params, tail) := by
  simp [read, encode, List.append_assoc, readWord32_append, Octets.read_append]

end SubmitParams

/-- A submit with everything that belongs to it. -/
structure Submit where
  header : UrbHeader
  params : SubmitParams
  data : Bytes
  descriptors : Bytes
deriving DecidableEq, Repr, Inhabited

namespace Submit

/-- Bytes in front of the payload. -/
def fixedSize : Nat := UrbHeader.size + SubmitParams.size

def encode (submit : Submit) : Bytes :=
  submit.header.encode ++ submit.params.encode ++ submit.data ++ submit.descriptors

/-- Takes one frame off the front of the input; what follows the frame is ignored. -/
def decode (input : Bytes) (bound : Nat) : Except WireError Submit := do
  let header ← UrbHeader.decode input
  let params ← SubmitParams.decode (input.drop UrbHeader.size) bound
  let payload := params.payloadLength header
  let expected := fixedSize + payload + params.descriptorLength
  if input.length < expected then
    throw (.truncatedPayload expected input.length)
  let body := input.drop fixedSize
  return {
    header, params
    data := body.take payload
    descriptors := (body.drop payload).take params.descriptorLength }

end Submit

end UsbExport

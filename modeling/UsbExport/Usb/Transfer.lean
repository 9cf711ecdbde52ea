import UsbExport.Device.Setup
import UsbExport.Usb.Error

/-!
Transfers on a USB device. The two low bits of an endpoint's attributes tell what kind of transfer
it takes, the top bit of its address whether it reads.
-/

namespace UsbExport

inductive TransferKind
  | control
  | isochronous
  | bulk
  | interrupt
deriving DecidableEq, Repr, Inhabited

def TransferKind.ofAttributes (attributes : UInt8) : TransferKind :=
  if attributes &&& 3 = 0 then control
  else if attributes &&& 3 = 1 then isochronous
  else if attributes &&& 3 = 2 then bulk
  else interrupt

/-- The address of the endpoint with a number, for reading or for writing. -/
def endpointAddress (number : UInt8) (isOut : Bool) : UInt8 :=
  if isOut then number else number ||| 0x80

/-- The two kinds of endpoint that carry plain data. -/
inductive StreamKind
  | bulk
  | interrupt
deriving DecidableEq, Repr, Inhabited

inductive Transfer
  | controlIn (setup : SetupPacket) (length : Nat)
  | controlOut (setup : SetupPacket) (data : Bytes)
  | streamIn (kind : StreamKind) (endpoint : UInt8) (length : Nat)
  | streamOut (kind : StreamKind) (endpoint : UInt8) (data : Bytes)
deriving DecidableEq, Repr, Inhabited

namespace Transfer

/-- Where the transfer takes place; both directions of the control pipe are address zero. -/
def endpoint : Transfer → UInt8
  | controlIn _ _ | controlOut _ _ => 0
  | streamIn _ endpoint _ | streamOut _ endpoint _ => endpoint

/-- The most bytes a transfer can move: the length of its buffer. -/
def bufferSize : Transfer → Nat
  | controlIn _ length | streamIn _ _ length => length
  | controlOut _ data | streamOut _ _ data => data.length

def isIn : Transfer → Bool
  | controlIn _ _ | streamIn _ _ _ => true
  | controlOut _ _ | streamOut _ _ _ => false

end Transfer

/-- What a transfer moved: how many bytes, and for a read which. -/
structure Transferred where
  count : Nat
  data : Bytes := []
deriving DecidableEq, Repr, Inhabited

/-- What is left of a transfer when its call returns. A read has filled a buffer of zeros from the
front, and the buffer is cut to the count; a write brings nothing back. -/
def Transfer.collect (transfer : Transfer) (moved : Transferred) : Transferred where
  count := moved.count
  data :=
    if transfer.isIn then (Octets.ofBytes transfer.bufferSize moved.data).bytes.take moved.count
    else []

/-- An open USB device. A transfer is begun and is over later. -/
class UsbHandle (Handle : Type) where
  claim : Handle → UInt8 → Handle × Except UsbError Unit
  release : Handle → UInt8 → Handle × Except UsbError Unit
  /-- Begins a transfer and decides what comes of it. -/
  transfer : Handle → Transfer → Handle × Except UsbError Transferred
  /-- Whether a transfer that was begun at an endpoint may be over now. -/
  mayFinish : Handle → UInt8 → Bool

end UsbExport

import UsbExport.Wire.Bytes

/-!
The setup packet of a control transfer. Unlike the frames around it, it is little-endian.
-/

namespace UsbExport

structure SetupPacket where
  requestType : UInt8
  request : UInt8
  value : UInt16
  index : UInt16
  length : UInt16
deriving DecidableEq, Repr, Inhabited

namespace SetupPacket

/-- The low byte of a word comes first. -/
def ofOctets (setup : Octets 8) : SetupPacket :=
  match setup.bytes with
  | [requestType, request, valueLow, valueHigh, indexLow, indexHigh, lengthLow, lengthHigh] =>
      ⟨requestType, request, word16 valueHigh valueLow, word16 indexHigh indexLow,
        word16 lengthHigh lengthLow⟩
  | _ => default

/-- The top bit of the request type tells a request that reads from the device. -/
def isIn (setup : SetupPacket) : Bool := setup.requestType &&& 0x80 != 0

end SetupPacket

end UsbExport

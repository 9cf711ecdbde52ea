import UsbExport.Wire.Bytes

/-!
The commands a client can send. Control commands carry a 16-bit code, URB commands a 32-bit one;
a code outside the protocol is kept as it came.
-/

namespace UsbExport

inductive Command
  | deviceList
  | importDevice
  | submit
  | unlink
  | unknown (code : UInt32)
deriving DecidableEq, Repr

namespace Command

/-- The revision of the protocol that the usual clients speak. -/
def protocolVersion : UInt16 := 0x0111

def requestDeviceList : UInt16 := 0x8005

def requestImport : UInt16 := 0x8003

def replyDeviceList : UInt16 := 0x0005

def replyImport : UInt16 := 0x0003

def commandSubmit : UInt32 := 1

def commandUnlink : UInt32 := 2

def returnSubmit : UInt32 := 3

def returnUnlink : UInt32 := 4

def ofControlCode (code : UInt16) : Command :=
  if code = requestDeviceList then .deviceList
  else if code = requestImport then .importDevice
  else .unknown code.toUInt32

def ofUrbCode (code : UInt32) : Command :=
  if code = commandSubmit then .submit
  else if code = commandUnlink then .unlink
  else .unknown code

end Command

end UsbExport

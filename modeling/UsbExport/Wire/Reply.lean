import UsbExport.Device.Record
import UsbExport.Wire.Submit

/-!
What the executor of a device writes back: the device list, the answer to an import, and the
completion of a URB.
-/

namespace UsbExport

/-- The fields of a completed URB in front of its data. -/
structure Completion where
  header : UrbHeader
  status : UInt32
  actualLength : UInt32
  startFrame : UInt32 := 0
  packetCount : UInt32 := 0
  errorCount : UInt32 := 0
  data : Bytes := []
  descriptors : Bytes := []
deriving DecidableEq, Repr

inductive Reply
  | deviceList (version : UInt16) (status : UInt32) (devices : List DeviceRecord)
  | importDevice (version : UInt16) (status : UInt32) (device : Option DeviceRecord)
  | completed (completion : Completion)
deriving DecidableEq, Repr

namespace Completion

/-- Bytes in front of the data. -/
def fixedSize : Nat := 48

def encode (completion : Completion) : Bytes :=
  completion.header.encode ++ bytes32 completion.status ++ bytes32 completion.actualLength ++
    bytes32 completion.startFrame ++ bytes32 completion.packetCount ++
    bytes32 completion.errorCount ++ Bytes.zeros 8 ++ completion.data ++ completion.descriptors

/-- A transfer of `actualLength` bytes, with the data that was read. -/
def success (seqnum actualLength : UInt32) (data : Bytes) : Completion where
  header := .reply Command.returnSubmit seqnum
  status := 0
  actualLength
  data

/-- A transfer that failed; the status is the negated error number. -/
def failure (seqnum : UInt32) (errno : Int) : Completion where
  header := .reply Command.returnSubmit seqnum
  status := .ofInt (-errno)
  actualLength := 0

end Completion

namespace Reply

def encode : Reply → Bytes
  | .deviceList version status devices =>
      bytes16 version ++ bytes16 Command.replyDeviceList ++ bytes32 status ++
        bytes32 devices.length.toUInt32 ++ devices.flatMap DeviceRecord.encodeWithInterfaces
  | .importDevice version status device =>
      bytes16 version ++ bytes16 Command.replyImport ++ bytes32 status ++
        (device.map DeviceRecord.encode).getD []
  | .completed completion => completion.encode

def listOf (version : UInt16) (devices : List DeviceRecord) : Reply :=
  .deviceList version 0 devices

def accepted (version : UInt16) (device : DeviceRecord) : Reply :=
  .importDevice version 0 (some device)

def refused (version : UInt16) : Reply := .importDevice version 1 none

end Reply

end UsbExport

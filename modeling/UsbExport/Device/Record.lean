import UsbExport.Wire.Import

/-!
The record of a device as a client sees it: two text fields, three words, six half-words and
bytes, the number of interfaces, and in a device list one entry for each interface.
-/

namespace UsbExport

/-- What an interface is: its class, subclass and protocol. -/
structure InterfaceEntry where
  classCode : UInt8
  subclass : UInt8
  protocol : UInt8
deriving DecidableEq, Repr, Inhabited

def InterfaceEntry.encode (entry : InterfaceEntry) : Bytes :=
  [entry.classCode, entry.subclass, entry.protocol, 0]

structure DeviceRecord where
  path : String := ""
  busId : String := ""
  busNumber : UInt32 := 0
  deviceNumber : UInt32 := 0
  speed : UInt32 := 0
  vendor : UInt16 := 0
  product : UInt16 := 0
  release : UInt16 := 0
  classCode : UInt8 := 0
  subclass : UInt8 := 0
  protocol : UInt8 := 0
  configuration : UInt8 := 0
  configurations : UInt8 := 0
  interfaces : List InterfaceEntry := []
deriving DecidableEq, Repr, Inhabited

namespace DeviceRecord

def size : Nat := 312

def pathSize : Nat := 256

def pathField (device : DeviceRecord) : Octets pathSize :=
  .ofBytes pathSize device.path.toUTF8.toList

def busIdField (device : DeviceRecord) : BusId := .ofBytes 32 device.busId.toUTF8.toList

/-- The fixed part. The number of interfaces is written in one byte and wraps beyond it. -/
def encode (device : DeviceRecord) : Bytes :=
  device.pathField.bytes ++ device.busIdField.bytes ++
    bytes32 device.busNumber ++ bytes32 device.deviceNumber ++ bytes32 device.speed ++
    bytes16 device.vendor ++ bytes16 device.product ++ bytes16 device.release ++
    [device.classCode, device.subclass, device.protocol, device.configuration,
      device.configurations, device.interfaces.length.toUInt8]

/-- The fixed part and an entry for every interface. -/
def encodeWithInterfaces (device : DeviceRecord) : Bytes :=
  device.encode ++ device.interfaces.flatMap InterfaceEntry.encode

/-- An import names this device when all 32 bytes of its bus id are the same. -/
def isNamedBy (device : DeviceRecord) (id : BusId) : Bool := device.busIdField == id

theorem length_encode (device : DeviceRecord) : device.encode.length = size := by
  simp [encode, device.pathField.length_eq, device.busIdField.length_eq, size, pathSize]

end DeviceRecord

end UsbExport

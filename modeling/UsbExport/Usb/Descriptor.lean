import UsbExport.Device.Record
import UsbExport.Usb.Transfer

/-!
How a device describes itself, and the record that it is exported with. Of an interface only the
first alternate setting counts.
-/

namespace UsbExport

structure AlternateSetting where
  number : UInt8
  entry : InterfaceEntry
  /-- Address and attributes of each endpoint. -/
  endpoints : List (UInt8 × UInt8)
deriving Repr, Inhabited

structure Configuration where
  value : UInt8
  interfaces : List (List AlternateSetting)
deriving Repr, Inhabited

structure DeviceDescriptor where
  vendor : UInt16
  product : UInt16
  release : UInt16
  classCode : UInt8
  subclass : UInt8
  protocol : UInt8
  configurations : UInt8
deriving Repr, Inhabited

/-- Where on the bus a device is, and how fast. -/
structure DeviceLocation where
  bus : UInt8
  port : UInt8
  address : UInt8
  speed : Int
deriving Repr, Inhabited

namespace Configuration

/-- The settings that are used. -/
def settings (configuration : Configuration) : List AlternateSetting :=
  configuration.interfaces.filterMap List.head?

def interfaceNumbers (configuration : Configuration) : List UInt8 :=
  configuration.settings.map AlternateSetting.number

/-- The transfer kind of every endpoint address; of two with one address the later comes first. -/
def endpointKinds (configuration : Configuration) : List (UInt8 × TransferKind) :=
  (configuration.settings.flatMap fun setting =>
    setting.endpoints.map fun (address, attributes) =>
      (address, TransferKind.ofAttributes attributes)).reverse

end Configuration

namespace DeviceLocation

def busId (location : DeviceLocation) : String := s!"{location.bus}-{location.port}"

/-- The protocol numbers the speeds as a bus does, except that it counts wireless as well. -/
def speedNumber (location : DeviceLocation) : UInt32 :=
  if location.speed = 1 then 1
  else if location.speed = 2 then 2
  else if location.speed = 3 then 3
  else if location.speed = 4 then 5
  else if location.speed = 5 then 6
  else 0

end DeviceLocation

/-- A release number passes through two decimal digits in front of its point: what they cannot
hold is carried or lost. -/
def normalRelease (release : UInt16) : UInt16 :=
  let tens : UInt16 := release >>> 12
  let ones : UInt16 := (release >>> 8) &&& 0xF
  let major := tens * 10 + ones
  ((major / 10) <<< 12) ||| ((major % 10) <<< 8) ||| (release &&& 0xFF)

def exportedRecord (location : DeviceLocation) (descriptor : DeviceDescriptor)
    (configuration : Configuration) : DeviceRecord where
  path := s!"/sys/bus/usb/devices/{location.busId}"
  busId := location.busId
  busNumber := location.bus.toUInt32
  deviceNumber := location.address.toUInt32
  speed := location.speedNumber
  vendor := descriptor.vendor
  product := descriptor.product
  release := normalRelease descriptor.release
  classCode := descriptor.classCode
  subclass := descriptor.subclass
  protocol := descriptor.protocol
  configuration := configuration.value
  configurations := descriptor.configurations
  interfaces := configuration.settings.map AlternateSetting.entry

/-- A device on the bus, and how each step of opening it comes out. -/
structure ListedDevice (Handle : Type) where
  location : DeviceLocation
  descriptor : Except UsbError DeviceDescriptor
  configuration : Except UsbError Configuration
  handle : Except UsbError Handle

namespace ListedDevice

variable {Handle : Type}

/-- A device whose descriptor cannot be read is no match. -/
def isProduct (device : ListedDevice Handle) (vendor product : UInt16) : Bool :=
  match device.descriptor with
  | .ok descriptor => descriptor.vendor == vendor && descriptor.product == product
  | .error _ => false

/-- The first device with the given vendor and product. -/
def search (bus : Except UsbError (List (ListedDevice Handle))) (vendor product : UInt16) :
    Except UsbError (ListedDevice Handle) := do
  let devices ← bus
  match devices.find? (·.isProduct vendor product) with
  | some device => return device
  | none => throw .notFound

end ListedDevice

end UsbExport

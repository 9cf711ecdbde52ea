/-!
Why a call on a USB device fails, and the error number that a completion reports for it.
-/

namespace UsbExport

inductive UsbError
  | inputOutput
  | invalidParameter
  | access
  | noDevice
  | notFound
  | busy
  | timeout
  | overflow
  | pipe
  | interrupted
  | noMemory
  | notSupported
  | badDescriptor
  | other
deriving DecidableEq, Repr, Inhabited

namespace UsbError

def message : UsbError → String
  | inputOutput => "Input/Output Error"
  | invalidParameter => "Invalid parameter"
  | access => "Access denied (insufficient permissions)"
  | noDevice => "No such device (it may have been disconnected)"
  | notFound => "Entity not found"
  | busy => "Resource busy"
  | timeout => "Operation timed out"
  | overflow => "Overflow"
  | pipe => "Pipe error"
  | interrupted => "System call interrupted (perhaps due to signal)"
  | noMemory => "Insufficient memory"
  | notSupported => "Operation not supported or unimplemented on this platform"
  | badDescriptor => "Malformed descriptor"
  | other => "Other error"

/-- The error as the program tells it. -/
def report (error : UsbError) : String := s!"USB error: {error.message}"

/-- Four causes have an error number of their own; every other is an I/O error. -/
def errno : UsbError → Int
  | pipe => 32
  | noDevice => 19
  | timeout => 110
  | notSupported => 95
  | _ => 5

end UsbError

end UsbExport

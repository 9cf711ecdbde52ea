import UsbExport.Dispatch.Channel
import UsbExport.Wire.Import
import UsbExport.Wire.Submit

/-!
What a session hands to the executor. Every request names the socket that its reply goes to, and a
request that the session waits for names the slot that its answer goes into.
-/

namespace UsbExport.Dispatch

/-- A socket, by its position among the sockets of the server. -/
abbrev LinkId := Nat

/-- A slot for one answer, by its position among the slots of the server. -/
abbrev SlotId := Nat

inductive ControlCommand
  | deviceList (status : UInt32) (replied : SlotId)
  | importDevice (request : ImportRequest) (confirm : SlotId)
  | unknown
deriving DecidableEq, Repr

structure ControlRequest where
  header : ControlHeader
  command : ControlCommand
  reply : LinkId
deriving DecidableEq, Repr

/-- Where the executor says what became of a request. -/
def ControlCommand.slot? : ControlCommand → Option SlotId
  | deviceList _ replied => some replied
  | importDevice _ confirm => some confirm
  | unknown => none

structure SubmitRequest where
  submit : Submit
  reply : LinkId
deriving DecidableEq, Repr

end UsbExport.Dispatch

import UsbExport.Config
import UsbExport.Usb.Error

/-!
Why a server does not start or does not go on, with the chain of causes that a user is shown.
-/

namespace UsbExport

/-- Why the server's socket cannot listen. -/
inductive ListenFault
  | addressInUse
deriving DecidableEq, Repr

def ListenFault.message : ListenFault → String
  | .addressInUse => "Address already in use (os error 98)"

inductive ServerError
  | config (error : ConfigError)
  | networkDown (reason : String)
  | listen (address : String) (fault : ListenFault)
  | restartRequired
  | usb (error : UsbError)
deriving DecidableEq, Repr

namespace ServerError

def message : ServerError → String
  | config error => error.report
  | networkDown reason => s!"Network bring-up failed: {reason}"
  | listen address fault => s!"Could not listen on {address}: {fault.message}"
  | restartRequired => "Restart required after device detach"
  | usb error => error.report

/-- What lies behind the error, the nearest cause first. -/
def causes : ServerError → List String
  | config _ | restartRequired => []
  | networkDown reason => [reason]
  | listen _ fault => [fault.message]
  | usb error => [error.message]

end ServerError

/-- A message for the user and what lies behind it. -/
structure Failure where
  message : String
  causes : List String := []
deriving DecidableEq, Repr

namespace Failure

def ofServerError (error : ServerError) : Failure := ⟨error.message, error.causes⟩

/-- Puts what was being done in front of an error. -/
def within (context : String) (error : Failure) : Failure :=
  ⟨context, error.message :: error.causes⟩

/-- The lines for the causes; a single one has no number. -/
def causeLines : List String → List String
  | [cause] => ["    " ++ cause]
  | causes => causes.mapIdx fun index cause => s!"    {index}: {cause}"

def render (failure : Failure) : String :=
  let head := s!"Error: {failure.message}\n"
  if failure.causes.isEmpty then head
  else
    let lines := "" :: "Caused by:" :: causeLines failure.causes
    head ++ String.join (lines.map (· ++ "\n"))

end Failure

end UsbExport

import UsbExport.Net.Address
import UsbExport.Wire.Command

/-!
How a server is set up, and what it refuses to run with. Times are in milliseconds.
-/

namespace UsbExport

/-- What follows when the client that imported the device goes away. -/
inductive DetachPolicy
  | serveNext
  | restart
deriving DecidableEq, Repr, Inhabited

structure Config where
  bindAddress : Net.Address := .four 0 0 0 0
  port : Nat := 3240
  backlog : Int := 1
  protocolVersion : UInt16 := Command.protocolVersion
  receiveTimeout : Nat := 30000
  sendTimeout : Nat := 5000
  importWait : Nat := 1000
  maxTransfer : Nat := 1024
  detachPolicy : DetachPolicy := .serveNext
  controlDepth : Nat := 4
  dataDepth : Nat := 16
  submitWait : Nat := 100
deriving Repr, Inhabited

inductive ConfigError
  | maxTransfer (value : Nat)
  | backlog
  | timeouts
  | depths
deriving DecidableEq, Repr

def ConfigError.message : ConfigError → String
  | .maxTransfer value => s!"max_transfer must be between 1 and 4294967295, got {value}"
  | .backlog => "listen_backlog must be at least 1"
  | .timeouts => "socket timeouts must be non-zero"
  | .depths => "dispatch channel depths must be non-zero"

/-- The fault as the program tells it. -/
def ConfigError.report (error : ConfigError) : String := s!"Configuration error: {error.message}"

namespace Config

/-- The largest transfer bound: a declared length is a 32-bit word. -/
def largestTransfer : Nat := 4294967295

def listenAddress (config : Config) : String := config.bindAddress.withPort config.port

/-- The first fault, in a fixed order. -/
def check (config : Config) : Except ConfigError Unit :=
  if config.maxTransfer = 0 ∨ largestTransfer < config.maxTransfer then
    .error (.maxTransfer config.maxTransfer)
  else if config.backlog < 1 then .error .backlog
  else if config.receiveTimeout = 0 ∨ config.sendTimeout = 0 then .error .timeouts
  else if config.controlDepth = 0 ∨ config.dataDepth = 0 then .error .depths
  else .ok ()

theorem maxTransfer_le_of_check {config : Config} (h : config.check = .ok ()) :
    0 < config.maxTransfer ∧ config.maxTransfer ≤ largestTransfer := by
  unfold check at h
  split at h
  · cases h
  · omega

end Config

end UsbExport

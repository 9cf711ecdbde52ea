import UsbExport.CommandLine.Arguments
import UsbExport.Host.Basic
import UsbExport.Log.Journal
import UsbExport.Server.Basic
import UsbExport.Text.Quoted

/-!
Starting the program. In this order: the arguments are read, the log is opened, the device and the
protocol version are parsed, the configuration is checked, the device is opened, and the server
comes to listen. The first thing that fails ends the program.
-/

namespace UsbExport.CommandLine

open Log

def programName : String := "usbip-bridge"

def programVersion : String := "0.1.0"

def versionLine : String := s!"{programName} {programVersion}\n"

/-- What log records of the program name as their origin. -/
def mainTarget : String := "usbip_bridge"

def hostTarget : String := "usbip_bridge::host"

def serverTarget : String := "usbip_bridge::server"

/-- A log with the filter in front of it and the folder it is kept in. -/
structure Diary where
  filter : Filter
  journal : Journal
  folder : Folder

namespace Diary

def capacity : Nat := defaultCapacity

/-- The whole start takes less than the interval between two writes of the log. -/
def now : Nat := 0

def note (diary : Diary) (level : Level) (target message : String) : Diary :=
  if diary.filter.enabled level target then
    let line := Text.toBytes (recordLine level target message)
    let (journal, folder) := diary.journal.append line now diary.folder
    { diary with journal, folder }
  else diary

def flush (diary : Diary) : Diary :=
  let (journal, folder) := diary.journal.flush now diary.folder
  { diary with journal, folder }

/-- What is noted about the network before the server listens. -/
def noteNetwork (diary : Diary) (network : Network) : Diary :=
  let diary := diary.note .debug serverTarget "Using the host network stack"
  if network.fault.isNone then diary.note .info serverTarget "Network is up" else diary

/-- Opens the log in its file, or keeps it in memory. -/
def begin (arguments : Arguments) (folder : Folder) : Except Failure Diary :=
  let filter := Filter.ofLevels arguments.logLevel []
  match arguments.logFile with
  | none => .ok ⟨filter, .inMemory capacity, folder⟩
  | some path =>
      match Journal.openAt path capacity now folder with
      | .ok (journal, folder) => .ok ⟨filter, journal, folder⟩
      | .error error => .error ⟨s!"Failed to open log file {path}", [error.message]⟩

end Diary

/-- A 16-bit word in hexadecimal; `what` is what it is for. -/
def parseWord (what : String) (text : List Char) : Except Failure UInt16 :=
  match Text.number 16 0xFFFF text with
  | .ok value => .ok value.toUInt16
  | .error error =>
      .error ⟨s!"invalid {what} {Text.quoted (String.ofList text)}", [error.message]⟩

/-- Vendor and product, with a colon between them. -/
def parseDevice (text : String) : Except Failure (UInt16 × UInt16) :=
  let vendor := text.toList.takeWhile (· != ':')
  match text.toList.dropWhile (· != ':') with
  | [] => .error ⟨s!"expected VID:PID, got {Text.quoted text}", []⟩
  | _ :: product => do
      let vendor ← parseWord "vendor id" vendor
      let product ← parseWord "product id" product
      return (vendor, product)

def deviceName (vendor product : UInt16) : String :=
  s!"{Text.hexadecimal 4 vendor.toNat}:{Text.hexadecimal 4 product.toNat}"

def Arguments.config (arguments : Arguments) (protocolVersion : UInt16) : Config where
  bindAddress := arguments.bind
  port := arguments.port
  protocolVersion
  receiveTimeout := arguments.receiveTimeout * 1000
  importWait := arguments.importWait
  maxTransfer := arguments.maxTransfer
  detachPolicy := if arguments.restartOnDetach then .restart else .serveNext

/-- What the program finds around it. -/
structure Surroundings (Handle : Type) where
  folder : Folder
  bus : Except UsbError (List (ListedDevice Handle))
  network : Network

/-- What becomes of a start. -/
inductive Launch (Handle : Type)
  | refused (refusal : Refusal)
  | failed (failure : Failure) (folder : Folder)
  | serving (config : Config) (host : Host Handle) (diary : Diary)

variable {Handle : Type}

/-- Opens the device with an allowed configuration. -/
def prepare (arguments : Arguments) (bus : Except UsbError (List (ListedDevice Handle))) :
    Except Failure (Config × Host Handle) := do
  let (vendor, product) ← parseDevice arguments.device
  let version ← parseWord "protocol version" arguments.protocolVersion.toList
  let config := arguments.config version
  match config.check with
  | .error error => throw (.ofServerError (.config error))
  | .ok () =>
      match Host.openDevice bus vendor product config.maxTransfer with
      | .ok host => return (config, host)
      | .error error =>
          let context := s!"Failed to open USB device {deviceName vendor product}"
          throw ((Failure.ofServerError (.usb error)).within context)

/-- The server has come to an end: the log says why, and is written out. -/
def stop (diary : Diary) (error : ServerError) : Failure × Folder :=
  let diary :=
    match error with
    | .restartRequired => diary.note .warn serverTarget "Device detached, stopping for restart"
    | _ => diary
  let diary := diary.note .error mainTarget s!"Server stopped: {error.message}"
  (.ofServerError error, diary.flush.folder)

def launch (arguments : List String) (surroundings : Surroundings Handle) : Launch Handle :=
  match Arguments.ofList arguments with
  | .error refusal => .refused refusal
  | .ok arguments =>
      match Diary.begin arguments surroundings.folder with
      | .error failure => .failed failure surroundings.folder
      | .ok diary =>
          let greeting := s!"{programName} v{programVersion} (boot {diary.journal.boot})"
          let diary := diary.note .info mainTarget greeting
          match prepare arguments surroundings.bus with
          | .error failure => .failed failure diary.folder
          | .ok (config, host) =>
              let device := host.device
              let name := deviceName device.vendor device.product
              let diary := diary.note .info hostTarget
                s!"Exporting {name} as bus id {device.busId}"
              let diary := diary.noteNetwork surroundings.network
              match config.start surroundings.network with
              | .error error =>
                  let (failure, folder) := stop diary error
                  .failed failure folder
              | .ok () => .serving config host diary

/-- What the program exits with when its arguments are refused, and what it says then. -/
def Refusal.exitCode : Refusal → Nat
  | .misuse => 2
  | .help | .version => 0

/-- What a failed program exits with. -/
def failureExitCode : Nat := 1

end UsbExport.CommandLine

import UsbExport.Config
import UsbExport.Log.Filter
import UsbExport.Text.Number

/-!
The arguments of the program. They are read from left to right: an option that takes a value takes
what is attached to it or else the next argument, unless that begins with a hyphen. No option may be
given twice. Asking for help or for the version ends the reading, but not before an error in front
of it.
-/

namespace UsbExport.CommandLine

inductive OptionName
  | device
  | bind
  | port
  | protocolVersion
  | receiveTimeout
  | importWait
  | maxTransfer
  | restartOnDetach
  | logFile
  | logLevel
  | help
  | version
deriving DecidableEq, Repr

namespace OptionName

def takesValue : OptionName → Bool
  | restartOnDetach | help | version => false
  | _ => true

def ofLong? : String → Option OptionName
  | "device" => some device
  | "bind" => some bind
  | "port" => some port
  | "protocol-version" => some protocolVersion
  | "recv-timeout" => some receiveTimeout
  | "import-wait" => some importWait
  | "max-transfer" => some maxTransfer
  | "restart-on-detach" => some restartOnDetach
  | "log-file" => some logFile
  | "log-level" => some logLevel
  | "help" => some help
  | "version" => some version
  | _ => none

def ofShort? : Char → Option OptionName
  | 'd' => some device
  | 'b' => some bind
  | 'p' => some port
  | 'l' => some logLevel
  | 'h' => some help
  | 'V' => some version
  | _ => none

end OptionName

structure Arguments where
  device : String
  bind : Net.Address := .four 0 0 0 0
  port : Nat := 3240
  protocolVersion : String := "0111"
  /-- In seconds. -/
  receiveTimeout : Nat := 30
  importWait : Nat := 1000
  maxTransfer : Nat := 1024
  restartOnDetach : Bool := false
  logFile : Option String := none
  logLevel : Log.Level := .info
deriving Repr, Inhabited

/-- Why there are no arguments to start with. -/
inductive Refusal
  | misuse
  | help
  | version
deriving DecidableEq, Repr

def largestWord : Nat := 18446744073709551615

def largestPort : Nat := 65535

/-- A port may be written as any whole number within its range, even as minus zero. -/
def readPort (text : String) : Option Nat :=
  match text.toList with
  | '-' :: digits =>
      match Text.number 10 0 digits with
      | .ok value => if digits.head? = some '+' then none else some value
      | .error _ => none
  | digits => (Text.number 10 largestPort digits).toOption

def readWord (text : String) : Option Nat := (Text.number 10 largestWord text.toList).toOption

/-- Arguments as they have been read so far. -/
structure Reading where
  given : List OptionName := []
  device : Option String := none
  arguments : Arguments := { device := "" }

namespace Reading

/-- Sets an option that has not been given before; a value that cannot be read is misuse. -/
def set (reading : Reading) (name : OptionName) (value : String) : Except Refusal Reading := do
  if name = .help then throw .help
  if name = .version then throw .version
  if name ∈ reading.given then throw .misuse
  let reading := { reading with given := name :: reading.given }
  let arguments := reading.arguments
  let arguments ←
    match name with
    | .device => return { reading with device := some value }
    | .bind =>
        match Net.Address.ofString? value with
        | some bind => pure { arguments with bind }
        | none => throw .misuse
    | .port =>
        match readPort value with
        | some port => pure { arguments with port }
        | none => throw .misuse
    | .protocolVersion => pure { arguments with protocolVersion := value }
    | .receiveTimeout =>
        match readWord value with
        | some receiveTimeout => pure { arguments with receiveTimeout }
        | none => throw .misuse
    | .importWait =>
        match readWord value with
        | some importWait => pure { arguments with importWait }
        | none => throw .misuse
    | .maxTransfer =>
        match readWord value with
        | some maxTransfer => pure { arguments with maxTransfer }
        | none => throw .misuse
    | .restartOnDetach => pure { arguments with restartOnDetach := true }
    | .logFile =>
        if value.isEmpty then throw .misuse else pure { arguments with logFile := some value }
    | .logLevel =>
        match Log.Level.ofString? value with
        | some logLevel => pure { arguments with logLevel }
        | none => throw .misuse
    | .help | .version => pure arguments
  return { reading with arguments }

/-- An option is set when the next one begins or the arguments end. -/
structure Pending where
  name : OptionName
  value : Option String

/-- Sets what is pending; an option still without its value is misuse. -/
def settle (reading : Reading) (pending : Option Pending) : Except Refusal Reading :=
  match pending with
  | none => .ok reading
  | some ⟨_, none⟩ => .error .misuse
  | some ⟨name, some value⟩ => reading.set name value

/-- Begins an option, with the value that is attached to it, if there is one. -/
def begin (reading : Reading) (pending : Option Pending) (name : OptionName)
    (attached : Option String) : Except Refusal (Reading × Option Pending) := do
  let reading ← reading.settle pending
  match name.takesValue, attached with
  | true, none => return (reading, some ⟨name, none⟩)
  | true, some value => return (← reading.set name value, none)
  | false, none => return (← reading.set name "", none)
  | false, some _ => throw .misuse

def long (reading : Reading) (pending : Option Pending) (text : List Char) :
    Except Refusal (Reading × Option Pending) :=
  let name := String.ofList (text.takeWhile (· != '='))
  let attached :=
    match text.dropWhile (· != '=') with
    | _ :: value => some (String.ofList value)
    | [] => none
  match OptionName.ofLong? name with
  | some name => reading.begin pending name attached
  | none => .error .misuse

/-- Letters behind one hyphen: flags, and at most one option whose value is the rest. -/
def short (reading : Reading) (pending : Option Pending) :
    List Char → Except Refusal (Reading × Option Pending)
  | [] => .ok (reading, pending)
  | letter :: rest =>
      match OptionName.ofShort? letter with
      | none => .error .misuse
      | some name =>
          if name.takesValue then
            let attached :=
              match rest with
              | [] => none
              | '=' :: value => some (String.ofList value)
              | value => some (String.ofList value)
            reading.begin pending name attached
          else do
            let (reading, pending) ← reading.begin pending name none
            reading.short pending rest

/-- Reads arguments in order. After two hyphens only plain arguments follow, and there are none
that the program takes. -/
def readAll (reading : Reading) (pending : Option Pending) : List String → Except Refusal Reading
  | [] => reading.settle pending
  | argument :: rest =>
      match argument.toList with
      | ['-', '-'] => if rest.isEmpty then reading.settle pending else .error .misuse
      | '-' :: '-' :: text => do
          let (reading, pending) ← reading.long pending text
          reading.readAll pending rest
      | '-' :: letter :: text => do
          let (reading, pending) ← reading.short pending (letter :: text)
          reading.readAll pending rest
      | _ =>
          match pending with
          | some ⟨name, none⟩ => reading.readAll (some ⟨name, some argument⟩) rest
          | _ => .error .misuse

end Reading

namespace Arguments

/-- The arguments, or why there are none; the device has to be named. -/
def ofList (arguments : List String) : Except Refusal Arguments := do
  let reading ← Reading.readAll {} none arguments
  match reading.device with
  | some device => return { reading.arguments with device }
  | none => throw .misuse

end Arguments

end UsbExport.CommandLine

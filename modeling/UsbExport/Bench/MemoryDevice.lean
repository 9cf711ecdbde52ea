import UsbExport.Usb.Transfer

/-!
A USB device in memory. It follows a script, keeps a list of the calls that reached it, and can be
told to hold the transfers of an endpoint. A control transfer whose setup packet says another
direction is refused before it reaches the device.
-/

namespace UsbExport.Bench

/-- What a script says about one transfer. -/
inductive Scripted
  | usual
  | fails (error : UsbError)
  | reads (data : Bytes)
  | writes (count : Nat)
deriving DecidableEq, Repr, Inhabited

/-- A call that reached the device. -/
inductive UsbCall
  | claim (interface : UInt8)
  | release (interface : UInt8)
  | transfer (transfer : Transfer)
deriving DecidableEq, Repr

/-- What a read brings that no script speaks of. -/
inductive Filling
  /-- A control read fills its buffer; another read brings its endpoint's address four times. -/
  | pattern
  /-- Every read fills its buffer with zeros. -/
  | zeros
deriving DecidableEq, Repr, Inhabited

structure MemoryDevice where
  claimFaults : List (UInt8 × List (Option UsbError)) := []
  releaseFaults : List (UInt8 × List (Option UsbError)) := []
  script : List (UInt8 × List Scripted) := []
  filling : Filling := .pattern
  held : List UInt8 := []
  /-- Whether the last control transfer was refused. -/
  hasRefused : Bool := false
  calls : List UsbCall := []
deriving Repr, Inhabited

/-- Uses up the next entry under a key. -/
def nextEntry {α : Type} (table : List (UInt8 × List α)) (key : UInt8) :
    Option α × List (UInt8 × List α) :=
  match table with
  | [] => (none, [])
  | (candidate, entries) :: rest =>
      if candidate = key then (entries.head?, (candidate, entries.drop 1) :: rest)
      else
        let (entry, rest) := nextEntry rest key
        (entry, (candidate, entries) :: rest)

def outcomeOf (fault : Option UsbError) : Except UsbError Unit :=
  match fault with
  | some error => .error error
  | none => .ok ()

namespace MemoryDevice

def record (device : MemoryDevice) (call : UsbCall) : MemoryDevice :=
  { device with calls := device.calls ++ [call] }

/-- What comes of a read with nothing in the script. -/
def usualData (filling : Filling) : Transfer → Bytes
  | .controlIn _ length =>
      match filling with
      | .pattern => List.replicate length 0x12
      | .zeros => Bytes.zeros length
  | .streamIn _ endpoint length =>
      match filling with
      | .pattern => List.replicate (min length 4) endpoint
      | .zeros => Bytes.zeros length
  | .controlOut .. | .streamOut .. => []

/-- The outcome of a transfer; an entry for the other direction says nothing. -/
def outcome (filling : Filling) (transfer : Transfer) (entry : Scripted) :
    Except UsbError Transferred :=
  let usual : Transferred :=
    if transfer.isIn then
      let data := usualData filling transfer
      ⟨data.length, data⟩
    else ⟨transfer.bufferSize, []⟩
  match entry with
  | .fails error => .error error
  | .reads data =>
      let data := data.take transfer.bufferSize
      .ok (if transfer.isIn then ⟨data.length, data⟩ else usual)
  | .writes count => .ok (if transfer.isIn then usual else ⟨count, []⟩)
  | .usual => .ok usual

def claim (device : MemoryDevice) (number : UInt8) : MemoryDevice × Except UsbError Unit :=
  let (fault, claimFaults) := nextEntry device.claimFaults number
  ({ device.record (.claim number) with claimFaults }, outcomeOf fault.join)

def release (device : MemoryDevice) (number : UInt8) : MemoryDevice × Except UsbError Unit :=
  let (fault, releaseFaults) := nextEntry device.releaseFaults number
  ({ device.record (.release number) with releaseFaults }, outcomeOf fault.join)

/-- Whether the setup packet of a control transfer says the other direction. -/
def isContrary : Transfer → Bool
  | .controlIn setup _ => !setup.isIn
  | .controlOut setup _ => setup.isIn
  | .streamIn .. | .streamOut .. => false

def transfer (device : MemoryDevice) (transfer : Transfer) :
    MemoryDevice × Except UsbError Transferred :=
  if isContrary transfer then ({ device with hasRefused := true }, .error .invalidParameter)
  else
    let hasRefused := device.hasRefused && transfer.endpoint != 0
    let (entry, script) := nextEntry device.script transfer.endpoint
    ({ device.record (.transfer transfer) with script, hasRefused },
      outcome device.filling transfer (entry.getD .usual))

instance : UsbHandle MemoryDevice where
  claim := claim
  release := release
  transfer := transfer
  mayFinish device endpoint :=
    !device.held.contains endpoint || endpoint == 0 && device.hasRefused

def hold (device : MemoryDevice) (endpoint : UInt8) : MemoryDevice :=
  { device with held := device.held.insert endpoint }

def letGo (device : MemoryDevice) (endpoint : UInt8) : MemoryDevice :=
  { device with held := device.held.filter (· != endpoint) }

end MemoryDevice

end UsbExport.Bench

import UsbExport.Bench.MemoryDevice
import UsbExport.Bench.ScriptedExecutor
import UsbExport.Host.Loop
import UsbExport.System.Clock

/-!
Trials of a whole server in virtual time. A scenario is a list of steps: what clients send, what
their sockets do, what is called on the executor. Every step is followed by everything that it
brings about, and then reports what could be seen. A second socket takes the replies to requests
that are posted without a session.
-/

namespace UsbExport

/-- What a session that cleans up says of its flags in the log, and a trial reports. -/
def DeviceFlags.anyPending (flags : DeviceFlags) : Bool := !flags.pending.isEmpty

end UsbExport

namespace UsbExport.Bench

open Dispatch Socket

inductive Step
  | connect (bytes : Bytes) (ended : Bool) (mode : WriteMode)
  | send (bytes : Bytes)
  | finish (bytes : Bytes)
  /-- A read fails. One that is only interrupted is made again before the session hears of it. -/
  | stumble (kind : FaultKind)
  | setMode (mode : WriteMode)
  | wait (duration : Nat)
  | setBusy (busy : Bool)
  | markPending (endpoint : Nat)
  /-- Lets a session that serves nobody clean up so many times. -/
  | cleanUp (times : Nat)
  | dropExecutor
  | unlink (seqnum : UInt32)
  | release
  | releaseInline
  | takeControl (count : Nat)
  | takeData (count : Nat)
  | directList (version : UInt16)
  | directImport (version : UInt16) (busId : BusId) (impatient : Bool)
  | directUnknown (header : ControlHeader)
  | directSubmit (submit : Submit)
  | directClose
  | hold (endpoint : UInt8)
  | letGo (endpoint : UInt8)
  | letGoAll
deriving Repr

inductive SessionStatus
  | none
  | running
  | ended (ending : Ending)
deriving DecidableEq, Repr

/-- What a step reports about itself. -/
inductive Outcome
  | nothing
  | cleaned (phase : Phase) (isOpen : Bool)
  | posted (result : Except DispatchError Unit)
  | listed (result : Except DispatchError Unit) (replied : Bool)
  | imported (result : Except DispatchError Unit) (confirmed : Option Bool)

/-- What was seen of the executor since the last step. -/
inductive Sighting
  | scripted (control : List ControlRequest) (data : List SubmitRequest) (unlinked : List UInt32)
      (releases : Nat)
  | host (calls : List UsbCall) (directFrames : List Bytes)
deriving Repr

structure Report where
  session : SessionStatus
  frames : List Bytes
  unflushed : Bytes
  isShutDown : Bool
  busy : Bool
  pending : List Nat
  outcome : Outcome
  sighting : Sighting

/-- The socket for direct requests is the first one. -/
def directLink : LinkId := 0

/-- What the scenario needs to know of an executor. -/
structure Rig (Executor : Type) where
  clockwork : Clockwork (System Executor)
  /-- Both channels lose their receiver. -/
  drop : System Executor → System Executor
  /-- Releases at once instead of on the pool. -/
  releaseInline : Executor → Executor
  allow : Step → Executor → Executor
  sight : System Executor → Sighting × System Executor

/-- Takes the frames and the unflushed bytes off a socket. -/
def collect {Executor : Type} (system : System Executor) (link : LinkId) :
    (List Bytes × Bytes) × System Executor :=
  match system.links[link]? with
  | some socket =>
      let sink := socket.guard.sink
      ((sink.frames, sink.unflushed),
        system.setGuard link
          { socket.guard with sink := { sink with frames := [], unflushed := [] } })
  | none => (([], []), system)

/-- The clock of a system with a given company. -/
def systemClock {Executor Party : Type} [BEq Party] (company : Company (System Executor) Party)
    (deadlines : System Executor → List Nat) : Clockwork (System Executor) where
  now := System.now
  setNow system now := { system with now }
  settle := company.settle
  deadlines := deadlines

def ScriptedExecutor.rig : Rig ScriptedExecutor where
  clockwork := systemClock company deadlines
  drop := stop
  releaseInline := DeviceExecutor.release
  allow
    | .takeControl count, executor =>
        { executor with controlAllowance := executor.controlAllowance.map (· + count) }
    | .takeData count, executor =>
        { executor with dataAllowance := executor.dataAllowance.map (· + count) }
    | _, executor => executor
  sight system :=
    let executor := system.executor
    (.scripted executor.controls executor.submits executor.unlinked executor.releases,
      { system with executor := { executor with controls := [], submits := [], unlinked := [] } })

def hostRig : Rig (Host MemoryDevice) where
  clockwork := systemClock Host.company System.deadlines
  drop := Host.stop
  releaseInline host :=
    let handle := Host.releaseAll host.handle host.claimed
    { host.forgetUrbs with claimed := [], handle }
  allow
    | .hold endpoint, host => { host with handle := host.handle.hold endpoint }
    | .letGo endpoint, host => { host with handle := host.handle.letGo endpoint }
    | .letGoAll, host => { host with handle := { host.handle with held := [] } }
    | _, host => host
  sight system :=
    let ((frames, _), system) := collect system directLink
    let handle := system.executor.handle
    (.host handle.calls frames,
      { system with executor := { system.executor with handle := { handle with calls := [] } } })

structure Scenario (Executor : Type) where
  rig : Rig Executor
  system : System Executor
  /-- Whether the clock stands still. -/
  holds : Bool := false

namespace Scenario

variable {Executor : Type}

def start (rig : Rig Executor) (config : Config) (executor : Executor) (holds : Bool) :
    Scenario Executor :=
  let system : System Executor := { config, executor }
  { rig, system := (system.addLink {} .accept).2, holds }

/-- Lets everything happen that takes less than `duration` and a millisecond. -/
def pass (scenario : Scenario Executor) (duration : Nat) : Scenario Executor :=
  let clockwork := scenario.rig.clockwork
  if scenario.holds then { scenario with system := clockwork.settle scenario.system }
  else
    let system := clockwork.runUntil (scenario.system.now + duration) scenario.system
    { scenario with system := { system with now := system.now + 1 } }

def mapSystem (scenario : Scenario Executor) (change : System Executor → System Executor) :
    Scenario Executor :=
  { scenario with system := change scenario.system }

/-- Changes the socket of the session that came last. -/
def mapSocket (scenario : Scenario Executor) (change : Link → Link) : Scenario Executor :=
  match scenario.system.visit with
  | some visit => scenario.mapSystem (·.mapLink visit.link change)
  | none => scenario

def mapInbox (scenario : Scenario Executor) (change : Inbox → Inbox) : Scenario Executor :=
  scenario.mapSocket fun socket => { socket with inbox := change socket.inbox }

/-- More moments than any trial takes. -/
def patience : Nat := 100000

/-- Waits while a channel is full, for as long as `limit` says if there is one. A clock that stands
still brings no room. -/
def awaitRoom (scenario : Scenario Executor) (isFull : System Executor → Bool)
    (limit : Option Nat) : Scenario Executor :=
  let clockwork := scenario.rig.clockwork
  let bound := limit.map (scenario.system.now + ·)
  let waits (system : System Executor) : Bool := isFull system && bound.all (system.now < ·)
  let patient := { clockwork with
    deadlines := fun system => bound.toList ++ clockwork.deadlines system }
  if scenario.holds || !isFull scenario.system then scenario
  else scenario.mapSystem (patient.runWhile waits patience)

/-- Posts a request without a session, and names the slot for the answer to it. -/
def postDirect (scenario : Scenario Executor) (header : ControlHeader)
    (command : SlotId → ControlCommand) :
    (Except DispatchError Unit × SlotId) × Scenario Executor :=
  let scenario := scenario.awaitRoom (fun system => system.control.isFull) none
  let system := scenario.system
  let slot := system.slots.length
  match system.control.post ⟨header, command slot, directLink⟩ with
  | .ok control =>
      let slots := if (command slot).slot?.isSome then system.slots ++ [.open] else system.slots
      ((.ok (), slot), { scenario with system := { system with control, slots } })
  | .error error => ((.error error, slot), scenario)

/-- Posts a submit without a session. -/
def submitDirect (scenario : Scenario Executor) (submit : Submit) :
    Except DispatchError Unit × Scenario Executor :=
  let wait := scenario.system.config.submitWait
  let scenario := scenario.awaitRoom (fun system => system.data.isFull) (some wait)
  match scenario.system.data.post ⟨submit, directLink⟩ with
  | .ok data => (.ok (), scenario.mapSystem fun system => { system with data })
  | .error error => (.error error, scenario)

def closeDirect (system : System Executor) : System Executor :=
  system.mapLink directLink fun socket =>
    let (ticket, guard) := socket.guard.request .close
    match guard.poll ticket system.now with
    | .finished guard _ => { socket with guard }
    | _ => { socket with guard }

def confirmation : Slot → Option Bool
  | .given yes => some yes
  | .open | .lost => none

def doIt [DeviceExecutor Executor] (scenario : Scenario Executor) :
    Step → Outcome × Scenario Executor
  | .connect bytes ended mode =>
      let scenario := scenario.mapSystem fun system => system.forget.connect { bytes, ended } mode
      (.nothing, scenario.pass 0)
  | .send bytes => (.nothing, (scenario.mapInbox (·.arrive bytes)).pass 0)
  | .finish bytes => (.nothing, (scenario.mapInbox (·.arrive bytes |>.finish)).pass 0)
  | .stumble .interrupted => (.nothing, scenario.pass 0)
  | .stumble kind => (.nothing, (scenario.mapInbox (·.stumble kind)).pass 0)
  | .setMode mode =>
      let change (socket : Link) : Link := { socket with guard := socket.guard.setMode mode }
      (.nothing, (scenario.mapSocket change).pass 0)
  | .wait duration => (.nothing, scenario.pass duration)
  | .setBusy busy =>
      let change (system : System Executor) : System Executor :=
        { system with flags := system.flags.setBusy busy }
      (.nothing, (scenario.mapSystem change).pass 0)
  | .markPending endpoint =>
      let change (system : System Executor) : System Executor :=
        { system with flags := system.flags.markPending endpoint }
      (.nothing, (scenario.mapSystem change).pass 0)
  | .cleanUp times =>
      let change (system : System Executor) : System Executor :=
        { system with
          flags := if times = 0 then system.flags else system.flags.reset
          executor := times.repeat DeviceExecutor.release system.executor }
      (.cleaned .idle (times == 0), (scenario.mapSystem change).pass 0)
  | .dropExecutor => (.nothing, (scenario.mapSystem scenario.rig.drop).pass 0)
  | .unlink seqnum =>
      let change (system : System Executor) : System Executor :=
        { system with executor := DeviceExecutor.unlink system.executor seqnum }
      (.nothing, (scenario.mapSystem change).pass 0)
  | .release =>
      let change (system : System Executor) : System Executor :=
        { system with executor := DeviceExecutor.release system.executor }
      (.nothing, (scenario.mapSystem change).pass 0)
  | .releaseInline =>
      let change (system : System Executor) : System Executor :=
        { system with executor := scenario.rig.releaseInline system.executor }
      (.nothing, (scenario.mapSystem change).pass 0)
  | .directList version =>
      let header := ⟨version, Command.requestDeviceList⟩
      let ((result, slot), scenario) := scenario.postDirect header (.deviceList 0)
      let scenario := (scenario.pass 0).pass 0
      (.listed result (confirmation (scenario.system.slot slot) == some true), scenario)
  | .directImport version busId impatient =>
      let header := ⟨version, Command.requestImport⟩
      let ((result, slot), scenario) := scenario.postDirect header (.importDevice ⟨0, busId⟩)
      let scenario := (scenario.pass 0).pass 0
      let confirmed := if impatient then none else confirmation (scenario.system.slot slot)
      (.imported result confirmed, scenario)
  | .directUnknown header =>
      let ((result, _), scenario) := scenario.postDirect header fun _ => .unknown
      (.posted result, scenario.pass 0)
  | .directSubmit submit =>
      let (result, scenario) := scenario.submitDirect submit
      (.posted result, scenario.pass 0)
  | .directClose => (.nothing, (scenario.mapSystem closeDirect).pass 0)
  | step =>
      let change (system : System Executor) : System Executor :=
        { system with executor := scenario.rig.allow step system.executor }
      let scenario := scenario.mapSystem change
      let holds := match step with
        | .letGoAll => false
        | _ => scenario.holds
      (.nothing, { scenario with holds }.pass 0)

def status (system : System Executor) : SessionStatus :=
  match system.visit with
  | none => .none
  | some visit =>
      match visit.session.ending? with
      | some ending => .ended ending
      | none => .running

/-- Takes a step and reports what can be seen after it. -/
def step [DeviceExecutor Executor] (scenario : Scenario Executor) (step : Step) :
    Report × Scenario Executor :=
  let (outcome, scenario) := scenario.doIt step
  let link := scenario.system.visit.map Visit.link
  let ((frames, unflushed), system) :=
    match link with
    | some link => collect scenario.system link
    | none => (([], []), scenario.system)
  let isShutDown := (link.bind (system.links[·]?)).any (·.guard.sink.isShutDown)
  let (sighting, system) := scenario.rig.sight system
  let report : Report := {
    session := status system
    frames, unflushed, isShutDown
    busy := system.flags.busy
    pending := system.flags.pendingEndpoints
    outcome, sighting }
  (report, { scenario with system })

def run [DeviceExecutor Executor] (scenario : Scenario Executor) : List Step → List Report
  | [] => []
  | step :: rest =>
      let (report, scenario) := scenario.step step
      report :: scenario.run rest

end Scenario

end UsbExport.Bench

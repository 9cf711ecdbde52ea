import UsbExport.System.Visit
import UsbExport.Wire.Reply

/-!
An executor without a device. It handles control requests as a list of actions says and records
submits. One taker serves the control channel and one the data channel; either may have to be
allowed to take a message.
-/

namespace UsbExport.Bench

open Dispatch Socket

inductive Action
  | reply
  /-- Accepts an import and says so to the session alone. -/
  | acceptQuietly
  | refuse
  /-- Never answers. -/
  | keepSilent
  /-- Loses the answer. -/
  | drop
deriving DecidableEq, Repr, Inhabited

/-- An action and how long the taker waits before it. -/
structure Order where
  action : Action := .reply
  delay : Nat := 0
deriving DecidableEq, Repr, Inhabited

inductive TakerStage
  | idle
  | delaying (request : ControlRequest) (action : Action) (due : Nat)
  | acting (request : ControlRequest) (action : Action)
  /-- Sending a reply; then the slot gets its answer. -/
  | replying (link : LinkId) (ticket : Ticket) (slot : SlotId) (answer : Bool)
  | stopped
deriving Repr, Inhabited

structure ScriptedExecutor where
  device : DeviceRecord := {}
  orders : List Order := []
  /-- How many messages may still be taken; without a number all of them. -/
  controlAllowance : Option Nat := none
  dataAllowance : Option Nat := none
  stage : TakerStage := .idle
  controls : List ControlRequest := []
  submits : List SubmitRequest := []
  unlinked : List UInt32 := []
  releases : Nat := 0
deriving Repr, Inhabited

namespace ScriptedExecutor

instance : DeviceExecutor ScriptedExecutor where
  unlink executor seqnum := { executor with unlinked := executor.unlinked ++ [seqnum] }
  release executor := { executor with releases := executor.releases + 1 }

abbrev ScriptedSystem := System ScriptedExecutor

def setStage (system : ScriptedSystem) (stage : TakerStage) : ScriptedSystem :=
  { system with executor := { system.executor with stage } }

/-- Takes a control request. Only those that can be answered use up an order. -/
def takeControl (system : ScriptedSystem) (request : ControlRequest) : ScriptedSystem :=
  let executor := system.executor
  let executor := { executor with
    controls := executor.controls ++ [request]
    controlAllowance := executor.controlAllowance.map (· - 1) }
  match request.command with
  | .unknown => { system with executor }
  | _ =>
      let order := executor.orders.head?.getD {}
      let stage : TakerStage :=
        if order.delay = 0 then .acting request order.action
        else .delaying request order.action (system.now + order.delay)
      { system with executor := { executor with orders := executor.orders.drop 1, stage } }

/-- Sends a reply; the answer follows whatever becomes of it. -/
def sendReply (system : ScriptedSystem) (link : LinkId) (reply : Reply) (slot : SlotId)
    (answer : Bool) : ScriptedSystem :=
  let (ticket, system) := system.standInLine link (.send reply.encode)
  setStage system (.replying link ticket slot answer)

def act (system : ScriptedSystem) (request : ControlRequest) (action : Action) : ScriptedSystem :=
  let version := request.header.version
  let device := system.executor.device
  match request.command, action with
  | .deviceList _ _, .keepSilent | .importDevice _ _, .keepSilent => setStage system .idle
  | .deviceList _ slot, .drop | .importDevice _ slot, .drop =>
      setStage (system.answer slot .lost) .idle
  | .deviceList _ slot, _ => sendReply system request.reply (.listOf version [device]) slot true
  | .importDevice _ slot, .reply =>
      let system := { system with flags := system.flags.setBusy true }
      sendReply system request.reply (.accepted version device) slot true
  | .importDevice _ slot, .acceptQuietly =>
      let system := { system with flags := system.flags.setBusy true }
      setStage (system.answer slot (.given true)) .idle
  | .importDevice _ slot, .refuse => sendReply system request.reply (.refused version) slot false
  | .unknown, _ => setStage system .idle

def moveControlTaker (system : ScriptedSystem) : Move ScriptedSystem :=
  match system.executor.stage with
  | .idle =>
      if system.executor.controlAllowance = some 0 then .blocked
      else
        match system.control.take? with
        | some (request, control) => .went (takeControl { system with control } request)
        | none => .blocked
  | .delaying request action due =>
      if due ≤ system.now then .went (setStage system (.acting request action)) else .blocked
  | .acting request action => .went (act system request action)
  | .replying link ticket slot answer =>
      system.pursue link ticket fun system _ => setStage (system.answer slot (.given answer)) .idle
  | .stopped => .blocked

def moveDataTaker (system : ScriptedSystem) : Move ScriptedSystem :=
  if system.executor.dataAllowance = some 0 then .blocked
  else
    match system.data.take? with
    | some (request, data) =>
        let executor := system.executor
        .went { system with
          data
          executor := { executor with
            submits := executor.submits ++ [request]
            dataAllowance := executor.dataAllowance.map (· - 1) } }
    | none => .blocked

/-- Both takers go away, and a request in hand with them. -/
def stop (system : ScriptedSystem) : ScriptedSystem :=
  let system :=
    match system.executor.stage with
    | .delaying request _ _ | .acting request _ => system.lose request
    | .replying link ticket slot _ =>
        (system.answer slot .lost).mapLink link fun socket =>
          { socket with guard := socket.guard.cancel ticket }
    | .idle | .stopped => system
  setStage system.abandonChannels .stopped

inductive Party
  | session
  | controlTaker
  | dataTaker
deriving DecidableEq, Repr

def company : Company ScriptedSystem Party where
  parties _ := [.session, .controlTaker, .dataTaker]
  reserve _ := []
  move
    | .session => System.moveSession
    | .controlTaker => moveControlTaker
    | .dataTaker => moveDataTaker

/-- When somebody stops waiting. -/
def deadlines (system : ScriptedSystem) : List Nat :=
  match system.executor.stage with
  | .delaying _ _ due => due :: system.deadlines
  | _ => system.deadlines

end ScriptedExecutor

end UsbExport.Bench

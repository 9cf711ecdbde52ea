import UsbExport.Config
import UsbExport.Dispatch.Channel
import UsbExport.Wire.Header

/-!
Trials of the two channels in virtual time, without a session or an executor. Messages may be taken
out, and the receivers go away, while a post waits for room.
-/

namespace UsbExport.Bench

open Dispatch

inductive Side
  | control
  | data
deriving DecidableEq, Repr

/-- What happens by itself when its time has come. -/
inductive Happening
  | take (side : Side)
  | dropPorts
deriving DecidableEq, Repr

inductive DispatchStep
  | submit (seqnum : UInt32) (later : List (Nat × Happening))
  | control (header : ControlHeader) (later : List (Nat × Happening))
  | receiveData
  | receiveControl
  | close (side : Side)
  | dropPorts
  | dropBridge
  | cloneBridge

inductive PostResult
  | accepted
  | failed (error : DispatchError)
  /-- Found no room in a long time and was given up. -/
  | blocked
deriving DecidableEq, Repr

inductive Received (Message : Type)
  | message (message : Message)
  | empty
  | disconnected

inductive DispatchResult
  | nothing
  | posted (result : PostResult)
  | data (received : Received UInt32)
  | control (received : Received ControlHeader)

structure DispatchTrial where
  submitWait : Nat
  control : Channel ControlHeader
  data : Channel UInt32
  /-- Whether anybody can still post. -/
  hasSender : Bool := true
  now : Nat := 0
  later : List (Nat × Happening) := []

namespace DispatchTrial

def start (config : Config) : DispatchTrial where
  submitWait := config.submitWait
  control := .ofDepth config.controlDepth
  data := .ofDepth config.dataDepth

/-- How long a control request is waited for. -/
def controlPatience : Nat := 10000

def dropPorts (trial : DispatchTrial) : DispatchTrial :=
  { trial with control := trial.control.abandon, data := trial.data.abandon }

def discard {Message : Type} (channel : Channel Message) : Channel Message :=
  (channel.take?.map Prod.snd).getD channel

def happen (trial : DispatchTrial) : Happening → DispatchTrial
  | .take .control => { trial with control := discard trial.control }
  | .take .data => { trial with data := discard trial.data }
  | .dropPorts => trial.dropPorts

/-- A channel by its side, for messages of any kind. -/
structure Access (Message : Type) where
  get : DispatchTrial → Channel Message
  set : DispatchTrial → Channel Message → DispatchTrial

def onControl : Access ControlHeader where
  get := control
  set trial control := { trial with control }

def onData : Access UInt32 where
  get := data
  set trial data := { trial with data }

/-- Posts, and waits for room until `deadline` while other things happen. -/
def post {Message : Type} (access : Access Message) (message : Message) (deadline : Nat) :
    (fuel : Nat) → DispatchTrial → Option DispatchError × DispatchTrial
  | 0, trial => (some .full, trial)
  | fuel + 1, trial =>
      match (access.get trial).post message with
      | .ok channel => (none, access.set trial channel)
      | .error .unavailable => (some .unavailable, trial)
      | .error .full =>
          match (trial.later.map Prod.fst).min? with
          | none => (some .full, { trial with now := deadline })
          | some due =>
              if due < deadline then
                let (ready, later) := trial.later.partition (·.1 == due)
                let trial := { trial with now := max due trial.now, later }
                post access message deadline fuel
                  (ready.foldl (fun trial item => trial.happen item.2) trial)
              else (some .full, { trial with now := deadline })

/-- Posts after noting what will happen by itself. -/
def postWith {Message : Type} (trial : DispatchTrial) (access : Access Message)
    (message : Message) (wait : Nat) (later : List (Nat × Happening)) :
    Option DispatchError × DispatchTrial :=
  if trial.hasSender then
    let later := later.map fun (delay, happening) => (trial.now + delay, happening)
    let trial := { trial with later := trial.later ++ later }
    post access message (trial.now + wait) (trial.later.length + 1) trial
  else (some .unavailable, trial)

def receive {Message : Type} (trial : DispatchTrial) (access : Access Message) :
    Received Message × DispatchTrial :=
  let channel := access.get trial
  match channel.take? with
  | some (message, channel) => (.message message, access.set trial channel)
  | none =>
      (if trial.hasSender && channel.accepting then .empty else .disconnected, trial)

def doIt (trial : DispatchTrial) : DispatchStep → DispatchResult × DispatchTrial
  | .submit seqnum later =>
      let (error, trial) := trial.postWith onData seqnum trial.submitWait later
      (.posted (error.elim .accepted .failed), trial)
  | .control header later =>
      let (error, trial) := trial.postWith onControl header controlPatience later
      let result :=
        match error with
        | none => .accepted
        | some .full => .blocked
        | some .unavailable => .failed .unavailable
      (.posted result, trial)
  | .receiveData =>
      let (received, trial) := trial.receive onData
      (.data received, trial)
  | .receiveControl =>
      let (received, trial) := trial.receive onControl
      (.control received, trial)
  | .close .control => (.nothing, { trial with control := trial.control.close })
  | .close .data => (.nothing, { trial with data := trial.data.close })
  | .dropPorts => (.nothing, trial.dropPorts)
  | .dropBridge => (.nothing, { trial with hasSender := false })
  | .cloneBridge => (.nothing, trial)

/-- The time that a step took, and what came of it. -/
def step (trial : DispatchTrial) (step : DispatchStep) : (Nat × DispatchResult) × DispatchTrial :=
  let (result, after) := trial.doIt step
  ((after.now - trial.now, result), after)

end DispatchTrial

end UsbExport.Bench

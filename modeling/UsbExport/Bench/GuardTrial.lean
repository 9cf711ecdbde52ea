import UsbExport.Socket.Guard

/-!
Trials of one shared socket in virtual time. Sends that are started together wait for one another;
the clock moves on only while the first of them is blocked.
-/

namespace UsbExport.Bench

open Socket

inductive GuardStep
  /-- Sends frames; `unstallAfter` from now the socket begins to take everything. -/
  | send (frames : List Bytes) (unstallAfter : Option Nat)
  | close
  | setMode (mode : WriteMode)

structure GuardReport where
  elapsed : Nat
  frames : List Bytes
  unflushed : Bytes
  isOpen : Bool
  isShutDown : Bool
  results : List (Except SendError Unit)

structure GuardTrial where
  guard : Guard
  now : Nat := 0
  /-- When the socket begins to take everything. -/
  unstalls : List Nat := []

namespace GuardTrial

def start (timeout : Nat) : GuardTrial := { guard := { timeout } }

/-- Lets the clock run to the next thing that happens: the socket gives in, or the sender gives
up. -/
def idle (trial : GuardTrial) : GuardTrial :=
  let deadline := (trial.guard.deadline?).getD trial.now
  match trial.unstalls.min? with
  | some due =>
      if due < deadline then
        { guard := trial.guard.setMode .accept
          now := max due trial.now
          unstalls := trial.unstalls.erase due }
      else { trial with now := deadline }
  | none => { trial with now := deadline }

/-- Runs the errand of a ticket to its end. -/
def await (ticket : Ticket) : (fuel : Nat) → GuardTrial → Except SendError Unit × GuardTrial
  | 0, trial => (.ok (), trial)
  | fuel + 1, trial =>
      match trial.guard.poll ticket trial.now with
      | .waiting => await ticket fuel trial.idle
      | .advanced guard | .paused guard => await ticket fuel { trial with guard }
      | .finished guard result => (result, { trial with guard })

/-- A turn for every byte and every change of the socket. -/
def patience (trial : GuardTrial) (errand : Errand) : Nat :=
  match errand with
  | .send frame => 3 * frame.length + 2 * trial.unstalls.length + 4
  | .close => 1

def run (trial : GuardTrial) (errands : List Errand) :
    List (Except SendError Unit) × GuardTrial :=
  let (tickets, guard) := errands.foldl
    (fun (tickets, guard) errand =>
      let (ticket, guard) := guard.request errand
      (tickets ++ [(ticket, errand)], guard))
    ([], trial.guard)
  tickets.foldl
    (fun (results, trial) (ticket, errand) =>
      let (result, trial) := await ticket (trial.patience errand) trial
      (results ++ [result], trial))
    ([], { trial with guard })

def doIt (trial : GuardTrial) : GuardStep → List (Except SendError Unit) × GuardTrial
  | .send frames unstallAfter =>
      let due := unstallAfter.map (trial.now + ·)
      { trial with unstalls := trial.unstalls ++ due.toList }.run (frames.map .send)
  | .close => trial.run [.close]
  | .setMode mode => ([], { trial with guard := trial.guard.setMode mode })

def step (trial : GuardTrial) (step : GuardStep) : GuardReport × GuardTrial :=
  let (results, after) := trial.doIt step
  let sink := after.guard.sink
  let report : GuardReport := {
    elapsed := after.now - trial.now
    frames := sink.frames
    unflushed := sink.unflushed
    isOpen := after.guard.isOpen
    isShutDown := sink.isShutDown
    results }
  (report, { after with guard := { after.guard with sink := { sink with frames := [] } } })

end GuardTrial

end UsbExport.Bench

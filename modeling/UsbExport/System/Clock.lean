/-!
Virtual time. It moves only when nothing else can happen, and then to the next moment at which
something happens by itself.
-/

namespace UsbExport

/-- How a state runs: its clock, what it does at one moment, and when it goes on by itself. -/
structure Clockwork (State : Type) where
  now : State → Nat
  setNow : State → Nat → State
  settle : State → State
  deadlines : State → List Nat

namespace Clockwork

variable {State : Type}

/-- The next moment after now at which something happens by itself. -/
def nextMoment (clockwork : Clockwork State) (state : State) : Option Nat :=
  ((clockwork.deadlines state).filter (clockwork.now state < ·)).min?

def advance (clockwork : Clockwork State) (limit : Nat) : (fuel : Nat) → State → State
  | 0, state => state
  | fuel + 1, state =>
      match clockwork.nextMoment state with
      | some moment =>
          if moment ≤ limit then
            clockwork.advance limit fuel (clockwork.settle (clockwork.setNow state moment))
          else state
      | none => state

/-- Lets everything happen that is due by `limit`, and stops the clock there. -/
def runUntil (clockwork : Clockwork State) (limit : Nat) (state : State) : State :=
  let state := clockwork.settle state
  let state := clockwork.advance limit (limit + 1 - clockwork.now state) state
  clockwork.setNow state (max limit (clockwork.now state))

/-- Lets things happen until the state is as wanted, or nothing more would happen. -/
def runWhile (clockwork : Clockwork State) (unwanted : State → Bool) :
    (fuel : Nat) → State → State
  | 0, state => state
  | fuel + 1, state =>
      let state := clockwork.settle state
      if unwanted state then
        match clockwork.nextMoment state with
        | some moment => clockwork.runWhile unwanted fuel (clockwork.setNow state moment)
        | none => state
      else state

end Clockwork

end UsbExport

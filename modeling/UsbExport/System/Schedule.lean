/-!
Running several parties that act on one state. A party moves until it is blocked or lets others go
first; a party that a move has made able to move goes to the end of the queue. A party in reserve
gets a turn when nobody else can move. Main statement: serving the queue takes turns, so what holds
of all turns in any order holds of it.
-/

namespace UsbExport

/-- What came of asking a party to move. -/
inductive Move (State : Type)
  | blocked
  | went (next : State)
  /-- Moved, and lets the others go first. -/
  | paused (next : State)

def Move.isBlocked {State : Type} : Move State → Bool
  | blocked => true
  | _ => false

/-- The state after a move, if there was one. -/
def Move.next? {State : Type} : Move State → Option State
  | blocked => none
  | went next => some next
  | paused next => some next

structure Company (State Party : Type) where
  /-- Who is there, in the order in which equals are served. -/
  parties : State → List Party
  /-- Who is in reserve, in the order in which they are tried. -/
  reserve : State → List Party
  move : Party → State → Move State

namespace Company

variable {State Party : Type} [BEq Party]

def canMove (company : Company State Party) (state : State) (party : Party) : Bool :=
  !(company.move party state).isBlocked

/-- Those who can move and do not stand in the queue. -/
def newcomers (company : Company State Party) (queue : List Party) (state : State) : List Party :=
  (company.parties state).filter fun party =>
    !queue.contains party && company.canMove state party

/-- Serves the queue until nobody can move, for at most `fuel` turns. -/
def serve (company : Company State Party) : (fuel : Nat) → List Party → State → State
  | 0, _, state => state
  | fuel + 1, [], state =>
      match (company.reserve state).find? (company.canMove state) with
      | some party => company.serve fuel [party] state
      | none => state
  | fuel + 1, party :: queue, state =>
      match company.move party state with
      | .blocked => company.serve fuel queue state
      | .went next =>
          let queue := party :: queue
          company.serve fuel (queue ++ company.newcomers queue next) next
      | .paused next =>
          let queue := queue ++ company.newcomers (party :: queue) next ++ [party]
          company.serve fuel queue next

/-- More turns than anything takes that does not run for ever. -/
def patience : Nat := 10000000

/-- Lets everybody who can move do so until nobody can. -/
def settle (company : Company State Party) (state : State) : State :=
  company.serve patience (company.newcomers [] state) state

/-- What any number of moves, by anybody in any order, lead to. -/
inductive Moves (company : Company State Party) : State → State → Prop
  | refl (state : State) : Moves company state state
  | step {first second last : State} (party : Party)
      (moved : (company.move party first).next? = some second)
      (moves : Moves company second last) : Moves company first last

theorem moves_serve (company : Company State Party) (fuel : Nat) (queue : List Party)
    (state : State) : company.Moves state (company.serve fuel queue state) := by
  fun_induction company.serve fuel queue state with
  | case1 => exact .refl _
  | case2 fuel state party found ih => exact ih
  | case3 => exact .refl _
  | case4 fuel party queue state moved ih => exact ih
  | case5 fuel party queue state next moved _ ih =>
      exact .step party (by rw [moved]; rfl) ih
  | case6 fuel party queue state next moved _ ih =>
      exact .step party (by rw [moved]; rfl) ih

theorem moves_settle (company : Company State Party) (state : State) :
    company.Moves state (company.settle state) :=
  company.moves_serve _ _ _

end Company

end UsbExport

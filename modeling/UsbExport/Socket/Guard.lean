import UsbExport.Socket.Sink

/-!
One writing side shared by many. Whoever wants to send a frame or to close the socket takes a
ticket and stands in line; the head of the line has the socket for itself until its frame is
written and flushed, the write fails, or the time for it has passed. What a failed send has
written stays written. After a close every send is refused.
-/

namespace UsbExport.Socket

abbrev Ticket := Nat

inductive Errand
  | send (frame : Bytes)
  | close
deriving DecidableEq, Repr

structure Waiter where
  ticket : Ticket
  errand : Errand
deriving DecidableEq, Repr

/-- How far the head of the line is with its frame. -/
structure Sending where
  deadline : Nat
  rest : Bytes
deriving DecidableEq, Repr

structure Guard where
  timeout : Nat
  sink : Sink := {}
  isOpen : Bool := true
  line : List Waiter := []
  current : Option Sending := none
  /-- Tickets given out so far. -/
  issued : Nat := 0
deriving Repr, Inhabited

/-- What came of asking on behalf of one ticket. -/
inductive Progress
  | waiting
  | advanced (guard : Guard)
  | paused (guard : Guard)
  | finished (guard : Guard) (result : Except SendError Unit)

namespace Guard

/-- Takes a ticket for an errand. -/
def request (guard : Guard) (errand : Errand) : Ticket × Guard :=
  (guard.issued,
    { guard with
      line := guard.line ++ [⟨guard.issued, errand⟩]
      issued := guard.issued + 1 })

/-- The head of the line leaves, and the next one finds the socket untouched. -/
def leave (guard : Guard) : Guard := { guard with line := guard.line.drop 1, current := none }

/-- Gives a ticket back before its errand is done. -/
def cancel (guard : Guard) (ticket : Ticket) : Guard :=
  match guard.line with
  | head :: rest =>
      if head.ticket = ticket then guard.leave
      else { guard with line := head :: rest.filter (·.ticket != ticket) }
  | [] => guard

/-- The socket makes the head of the line wait, for as long as there is time. -/
def stall (guard : Guard) (frame : Bytes) (sending : Sending) (now : Nat) : Progress :=
  if sending.deadline ≤ now then .finished guard.leave (.error (.timedOut frame.length))
  else if guard.current = some sending then .waiting
  else .advanced { guard with current := some sending }

/-- One move of the head of the line with its frame. -/
def push (guard : Guard) (frame : Bytes) (sending : Sending) (now : Nat) : Progress :=
  if sending.rest.isEmpty then
    match guard.sink.flushing with
    | .done => .finished { guard.leave with sink := guard.sink.flush } (.ok ())
    | .later => guard.stall frame sending now
    | .failed fault => .finished guard.leave (.error (.socket fault))
  else
    match guard.sink.offer sending.rest.length with
    | .taken count =>
        .advanced { guard with
          sink := guard.sink.write (sending.rest.take count)
          current := some { sending with rest := sending.rest.drop count } }
    | .later => guard.stall frame sending now
    | .pause =>
        let paused := { guard with sink := guard.sink.pause }
        if sending.deadline ≤ now then .finished paused.leave (.error (.timedOut frame.length))
        else .paused { paused with current := some sending }
    | .failed error => .finished guard.leave (.error error)

/-- One move for a ticket; only the head of the line gets anywhere. The time for a frame begins
when its ticket reaches the head. -/
def poll (guard : Guard) (ticket : Ticket) (now : Nat) : Progress :=
  match guard.line with
  | [] => .waiting
  | head :: _ =>
      if head.ticket ≠ ticket then .waiting
      else
        match head.errand with
        | .close =>
            .finished
              { guard.leave with
                isOpen := false
                sink := if guard.isOpen then guard.sink.shutDown else guard.sink }
              (.ok ())
        | .send frame =>
            if guard.isOpen then
              guard.push frame (guard.current.getD ⟨now + guard.timeout, frame⟩) now
            else .finished guard.leave (.error .closed)

/-- When the head of the line gives up. -/
def deadline? (guard : Guard) : Option Nat := guard.current.map Sending.deadline

def setMode (guard : Guard) (mode : WriteMode) : Guard :=
  { guard with sink := { guard.sink with mode } }

def setFlush (guard : Guard) (flushing : FlushMode) : Guard :=
  { guard with sink := { guard.sink with flushing } }

end Guard

end UsbExport.Socket

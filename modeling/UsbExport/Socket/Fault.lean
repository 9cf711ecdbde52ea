/-!
Why a socket fails. A transient fault leaves the connection as it was.
-/

namespace UsbExport.Socket

inductive FaultKind
  | wouldBlock
  | timedOut
  | interrupted
  | connectionReset
  | connectionAborted
  | brokenPipe
  | unexpectedEnd
  | notConnected
  | writeZero
  | other
deriving DecidableEq, Repr, Inhabited

namespace FaultKind

/-- Reading goes on after a transient fault. -/
def isTransient : FaultKind → Bool
  | wouldBlock | timedOut | interrupted => true
  | _ => false

end FaultKind

/-- A fault and what the socket says about it. -/
structure Fault where
  kind : FaultKind
  text : String
deriving DecidableEq, Repr, Inhabited

/-- Why a frame was not sent. -/
inductive SendError
  | closed
  | timedOut (size : Nat)
  | nothingTaken
  | socket (fault : Fault)
deriving DecidableEq, Repr

namespace SendError

def kind : SendError → FaultKind
  | closed => .notConnected
  | timedOut _ => .timedOut
  | nothingTaken => .writeZero
  | socket fault => fault.kind

def message : SendError → String
  | closed => "socket already closed"
  | timedOut size => s!"send of {size} bytes timed out"
  | nothingTaken => "write zero"
  | socket fault => fault.text

end SendError

end UsbExport.Socket

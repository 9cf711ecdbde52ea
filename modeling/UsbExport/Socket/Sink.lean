import UsbExport.Socket.Fault
import UsbExport.Wire.Bytes

/-!
The writing side of a socket. What it does with bytes that are offered, and with a flush, depends on
its modes, which may change at any time. A frame is what was written between two flushes.
-/

namespace UsbExport.Socket

inductive WriteMode
  | accept
  /-- Takes at most `size` bytes at once; `pauses` lets others run before each piece. -/
  | pieces (size : Nat) (pauses : Bool)
  | fail (fault : Fault)
  | stall
  | refuse
deriving DecidableEq, Repr, Inhabited

/-- What a flush comes to. -/
inductive FlushMode
  | done
  | later
  | failed (fault : Fault)
deriving DecidableEq, Repr, Inhabited

/-- How a socket takes an offer. -/
inductive Offer
  | taken (count : Nat)
  | later
  | pause
  | failed (error : SendError)
deriving DecidableEq, Repr

/-- What a mode does with `size` bytes, at least one. A piece that was paused for is not paused for
again. -/
def WriteMode.offer (mode : WriteMode) (size : Nat) (rested : Bool) : Offer :=
  match mode with
  | accept => .taken size
  | pieces limit pauses =>
      if pauses && !rested then .pause
      else if limit = 0 then .failed .nothingTaken
      else .taken (min limit size)
  | fail fault => .failed (.socket fault)
  | stall => .later
  | refuse => .failed .nothingTaken

structure Sink where
  mode : WriteMode := .accept
  flushing : FlushMode := .done
  frames : List Bytes := []
  /-- Bytes written since the last flush. -/
  unflushed : Bytes := []
  /-- Whether it has already paused before the next piece. -/
  rested : Bool := false
  isShutDown : Bool := false
deriving Repr, Inhabited

namespace Sink

/-- Everything the socket has accepted, in order. -/
def written (sink : Sink) : Bytes := sink.frames.flatten ++ sink.unflushed

/-- What the socket does with `size` bytes that are offered to it now. -/
def offer (sink : Sink) (size : Nat) : Offer := sink.mode.offer size sink.rested

/-- Takes a piece; it will pause again before the next one. -/
def write (sink : Sink) (bytes : Bytes) : Sink :=
  { sink with unflushed := sink.unflushed ++ bytes, rested := false }

def pause (sink : Sink) : Sink := { sink with rested := true }

def flush (sink : Sink) : Sink :=
  { sink with frames := sink.frames ++ [sink.unflushed], unflushed := [] }

def shutDown (sink : Sink) : Sink := { sink with isShutDown := true }

@[simp] theorem written_write (sink : Sink) (bytes : Bytes) :
    (sink.write bytes).written = sink.written ++ bytes := by
  simp [written, write]

@[simp] theorem written_pause (sink : Sink) : sink.pause.written = sink.written := rfl

@[simp] theorem written_flush (sink : Sink) : sink.flush.written = sink.written := by
  simp [written, flush]

@[simp] theorem written_shutDown (sink : Sink) : sink.shutDown.written = sink.written := rfl

end Sink

end UsbExport.Socket

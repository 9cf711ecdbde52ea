/-!
A bounded queue between a session and the executor of the device. The receiver may stop accepting;
what is queued then stays readable. A receiver that goes away takes the queue with it.
-/

namespace UsbExport.Dispatch

inductive DispatchError
  | full
  | unavailable
deriving DecidableEq, Repr

def DispatchError.message : DispatchError → String
  | .full => "Dispatch channel full"
  | .unavailable => "Device executor unavailable"

structure Channel (α : Type) where
  capacity : Nat
  queue : List α := []
  accepting : Bool := true
deriving Repr, Inhabited

namespace Channel

variable {α : Type}

/-- A channel holds at least one message. -/
def ofDepth (depth : Nat) : Channel α := { capacity := max depth 1 }

def post (channel : Channel α) (message : α) : Except DispatchError (Channel α) :=
  if !channel.accepting then .error .unavailable
  else if channel.queue.length < channel.capacity then
    .ok { channel with queue := channel.queue ++ [message] }
  else .error .full

/-- Whether a post has to wait for room. -/
def isFull (channel : Channel α) : Bool :=
  channel.accepting && channel.capacity ≤ channel.queue.length

/-- The oldest message and the channel without it. -/
def take? (channel : Channel α) : Option (α × Channel α) :=
  match channel.queue with
  | [] => none
  | message :: rest => some (message, { channel with queue := rest })

/-- Accepts nothing more; what is queued stays. -/
def close (channel : Channel α) : Channel α := { channel with accepting := false }

/-- Accepts nothing more and loses what is queued. -/
def abandon (channel : Channel α) : Channel α :=
  { channel with accepting := false, queue := [] }

theorem queue_post {channel channel' : Channel α} {message : α}
    (h : channel.post message = .ok channel') : channel'.queue = channel.queue ++ [message] := by
  unfold post at h
  split at h
  · cases h
  · split at h
    · cases h; rfl
    · cases h

theorem isFull_iff {channel : Channel α} {message : α} :
    channel.isFull ↔ channel.post message = .error .full := by
  unfold isFull post
  cases channel.accepting <;> simp

theorem length_post_le {channel channel' : Channel α} {message : α}
    (h : channel.post message = .ok channel') : channel'.queue.length ≤ channel'.capacity := by
  unfold post at h
  split at h
  · cases h
  · split at h
    · cases h; simp; omega
    · cases h

theorem queue_take? {channel channel' : Channel α} {message : α}
    (h : channel.take? = some (message, channel')) :
    channel.queue = message :: channel'.queue := by
  unfold take? at h
  split at h
  · cases h
  · cases h; assumption

end Channel

end UsbExport.Dispatch

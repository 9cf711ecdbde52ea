/-!
The flags that a session and the executor of its device share: whether a client has imported the
device, and on which endpoint numbers a transfer is pending.
-/

namespace UsbExport

/-- Endpoint numbers a device can use. -/
def endpointCount : Nat := 16

structure DeviceFlags where
  busy : Bool := false
  pending : List Nat := []
deriving DecidableEq, Repr, Inhabited

namespace DeviceFlags

def setBusy (flags : DeviceFlags) (busy : Bool) : DeviceFlags := { flags with busy }

/-- Endpoints that no device has are ignored. -/
def markPending (flags : DeviceFlags) (endpoint : Nat) : DeviceFlags :=
  if endpoint < endpointCount then { flags with pending := flags.pending.insert endpoint }
  else flags

def clearPending (flags : DeviceFlags) (endpoint : Nat) : DeviceFlags :=
  { flags with pending := flags.pending.filter (· != endpoint) }

def isPending (flags : DeviceFlags) (endpoint : Nat) : Bool := flags.pending.contains endpoint

/-- The pending endpoint numbers, ascending. -/
def pendingEndpoints (flags : DeviceFlags) : List Nat :=
  (List.range endpointCount).filter flags.isPending

def reset (_ : DeviceFlags) : DeviceFlags := {}

theorem isPending_markPending (flags : DeviceFlags) (endpoint other : Nat) :
    (flags.markPending endpoint).isPending other = true ↔
      endpoint < endpointCount ∧ other = endpoint ∨ flags.isPending other = true := by
  unfold markPending isPending
  split <;> rename_i h <;> simp [h]

theorem isPending_clearPending (flags : DeviceFlags) (endpoint other : Nat) :
    (flags.clearPending endpoint).isPending other = true ↔
      flags.isPending other = true ∧ other ≠ endpoint := by
  simp [clearPending, isPending]

end DeviceFlags

end UsbExport

import UsbExport.Wire.Bytes

/-!
What can be wrong with a frame held in one byte string, and the wording of each fault.
-/

namespace UsbExport

inductive WireError
  | malformedHeader (needed available : Nat)
  | payloadTooLarge (declared bound : Nat)
  | truncatedPayload (expected available : Nat)
deriving DecidableEq, Repr

def WireError.message : WireError → String
  | .malformedHeader needed available =>
      s!"Malformed header: needed {needed} bytes, got {available}"
  | .payloadTooLarge declared bound =>
      s!"Payload too large: {declared} bytes (max: {bound})"
  | .truncatedPayload expected available =>
      s!"Truncated payload: expected {expected} bytes, got {available}"

/-- Decodes with a reader that needs `needed` bytes; a shorter input is a malformed header. -/
def decodeExactly {α : Type} (needed : Nat) (read : Bytes → Option (α × Bytes))
    (input : Bytes) : Except WireError α :=
  match read input with
  | some (value, _) => .ok value
  | none => .error (.malformedHeader needed input.length)

end UsbExport

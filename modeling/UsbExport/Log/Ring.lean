import UsbExport.Text.Utf8

/-!
A log of the most recent lines in a fixed number of bytes. A new line goes to the end; when the
ring overflows, the oldest bytes go, and then what is left of the line they were cut from, unless
that line is the only one.
-/

namespace UsbExport.Log

def newline : UInt8 := 0x0A

/-- A line ends with a newline; one that has it already gets no second. -/
def terminated (line : Bytes) : Bytes :=
  if line.getLast? = some newline then line else line ++ [newline]

/-- Drops everything through the first newline, unless nothing would be left. -/
def dropCutLine (bytes : Bytes) : Bytes :=
  match (bytes.dropWhile (· != newline)).drop 1 with
  | [] => bytes
  | rest => rest

structure Ring where
  capacity : Nat
  bytes : Bytes := []
deriving DecidableEq, Repr, Inhabited

namespace Ring

def append (ring : Ring) (line : Bytes) : Ring :=
  let bytes := ring.bytes ++ terminated line
  if bytes.length ≤ ring.capacity then { ring with bytes }
  else { ring with bytes := dropCutLine (bytes.drop (bytes.length - ring.capacity)) }

def clear (ring : Ring) : Ring := { ring with bytes := [] }

def text (ring : Ring) : String := Text.ofBytes ring.bytes

@[simp] theorem capacity_append (ring : Ring) (line : Bytes) :
    (ring.append line).capacity = ring.capacity := by
  simp only [append]
  split <;> rfl

end Ring

end UsbExport.Log

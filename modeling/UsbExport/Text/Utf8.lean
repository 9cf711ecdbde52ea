import UsbExport.Wire.Bytes

/-!
Text from bytes that may not be text. Decoding never fails: every longest piece that begins a
character and cannot be completed, and every byte that begins none, becomes one replacement
character.
-/

namespace UsbExport.Text

/-- What stands in for bytes that are no character. -/
def replacement : Char := '\uFFFD'

/-- Where the decoder stands between two bytes: at a boundary, or inside a character that still
needs `more + 1` bytes, the next of which lies between `low` and `high`. -/
inductive Decoding
  | boundary
  | inside (value more : Nat) (low high : UInt8)
deriving DecidableEq, Repr

namespace Decoding

/-- A byte at a boundary is a character, begins one, or is replaced. -/
def begin (byte : UInt8) : Decoding × List Char :=
  if byte < 0x80 then (boundary, [Char.ofNat byte.toNat])
  else if byte < 0xC2 then (boundary, [replacement])
  else if byte < 0xE0 then (inside (byte.toNat - 0xC0) 0 0x80 0xBF, [])
  else if byte = 0xE0 then (inside 0 1 0xA0 0xBF, [])
  else if byte = 0xED then (inside 0xD 1 0x80 0x9F, [])
  else if byte < 0xF0 then (inside (byte.toNat - 0xE0) 1 0x80 0xBF, [])
  else if byte = 0xF0 then (inside 0 2 0x90 0xBF, [])
  else if byte < 0xF4 then (inside (byte.toNat - 0xF0) 2 0x80 0xBF, [])
  else if byte = 0xF4 then (inside 4 2 0x80 0x8F, [])
  else (boundary, [replacement])

/-- A byte that cannot continue the character is read again at a boundary. -/
def next : Decoding → UInt8 → Decoding × List Char
  | boundary, byte => begin byte
  | inside value more low high, byte =>
      if low ≤ byte ∧ byte ≤ high then
        let value := value * 64 + (byte.toNat - 0x80)
        match more with
        | 0 => (boundary, [Char.ofNat value])
        | more + 1 => (inside value more 0x80 0xBF, [])
      else
        let (state, text) := begin byte
        (state, replacement :: text)

/-- Input that ends inside a character leaves one replacement. -/
def finish : Decoding → List Char
  | boundary => []
  | inside .. => [replacement]

def run : Decoding → Bytes → List Char
  | state, [] => state.finish
  | state, byte :: rest =>
      let (state, text) := state.next byte
      text ++ run state rest

end Decoding

/-- Decodes bytes as UTF-8, replacing what is no text. -/
def ofBytes (bytes : Bytes) : String := String.ofList (Decoding.boundary.run bytes)

def toBytes (text : String) : Bytes := text.toUTF8.toList

end UsbExport.Text

import UsbExport.Text.Number

/-!
Internet addresses in text. An address of four bytes is written in decimal with points, one of
eight words in hexadecimal with colons, where two colons stand for the longest run of zero words.
-/

namespace UsbExport.Net

inductive Address
  | four (a b c d : Nat)
  | six (words : List Nat)
deriving DecidableEq, Repr, Inhabited

namespace Address

/-- A decimal byte: at most three digits, no superfluous zero in front. -/
def readByte (text : List Char) : Option (Nat × List Char) :=
  let digits := text.takeWhile Char.isDigit
  let rest := text.drop digits.length
  if digits.length = 0 ∨ 3 < digits.length then none
  else if digits.head? = some '0' ∧ 1 < digits.length then none
  else
    match Text.number 10 255 digits with
    | .ok value => some (value, rest)
    | .error _ => none

def readChar (c : Char) : List Char → Option (List Char)
  | head :: rest => if head = c then some rest else none
  | [] => none

def readFour (text : List Char) : Option ((Nat × Nat × Nat × Nat) × List Char) := do
  let (a, text) ← readByte text
  let (b, text) ← readChar '.' text >>= readByte
  let (c, text) ← readChar '.' text >>= readByte
  let (d, text) ← readChar '.' text >>= readByte
  return ((a, b, c, d), text)

/-- A word of at most four hexadecimal digits. -/
def readWord (text : List Char) : Option (Nat × List Char) :=
  let digits := text.takeWhile fun c => (Text.digit? 16 c).isSome
  if digits.length = 0 ∨ 4 < digits.length then none
  else
    match Text.number 16 0xFFFF digits with
    | .ok value => some (value, text.drop digits.length)
    | .error _ => none

/-- Reads up to `room` words with colons between them. Four decimal bytes count as two words, end
the list, and are reported. -/
def readWords : (room : Nat) → (first : Bool) → List Char → List Nat × Bool × List Char
  | 0, _, text => ([], false, text)
  | room + 1, first, text =>
      let afterColon := if first then some text else readChar ':' text
      match afterColon.bind readFour with
      | some ((a, b, c, d), rest) =>
          if 0 < room then ([a * 256 + b, c * 256 + d], true, rest)
          else more room text afterColon
      | none => more room text afterColon
where
  more (room : Nat) (text : List Char) (afterColon : Option (List Char)) :
      List Nat × Bool × List Char :=
    match afterColon.bind readWord with
    | some (word, rest) =>
        let (words, bytes, rest) := readWords room false rest
        (word :: words, bytes, rest)
    | none => ([], false, text)

def readSix (text : List Char) : Option (List Nat × List Char) := do
  let (front, bytes, text) := readWords 8 true text
  if front.length = 8 then return (front, text)
  if bytes then none
  let text ← readChar ':' text >>= readChar ':'
  let (back, _, text) := readWords (7 - front.length) true text
  return (front ++ List.replicate (8 - front.length - back.length) 0 ++ back, text)

def ofString? (text : String) : Option Address :=
  match readFour text.toList with
  | some ((a, b, c, d), []) => some (four a b c d)
  | _ =>
      match readSix text.toList with
      | some (words, []) => some (six words)
      | _ => none

def fourText (a b c d : Nat) : String := s!"{a}.{b}.{c}.{d}"

def zeroRun (words : List Nat) : Nat := (words.takeWhile (· == 0)).length

/-- Start and length of the first longest run of zero words. -/
def longestZeroRun (words : List Nat) : Nat × Nat :=
  (List.range words.length).foldl
    (fun best start =>
      let length := zeroRun (words.drop start)
      if best.2 < length then (start, length) else best)
    (0, 0)

def wordsText (words : List Nat) : String := ":".intercalate (words.map (Text.hexadecimal 1))

def toText : Address → String
  | four a b c d => fourText a b c d
  | six [0, 0, 0, 0, 0, 0xFFFF, high, low] =>
      "::ffff:" ++ fourText (high / 256) (high % 256) (low / 256) (low % 256)
  | six words =>
      let (start, length) := longestZeroRun words
      if 1 < length then
        wordsText (words.take start) ++ "::" ++ wordsText (words.drop (start + length))
      else wordsText words

/-- An address and a port; an address of words goes in brackets. -/
def withPort (address : Address) (port : Nat) : String :=
  match address with
  | four .. => s!"{address.toText}:{port}"
  | six _ => s!"[{address.toText}]:{port}"

end Address

end UsbExport.Net

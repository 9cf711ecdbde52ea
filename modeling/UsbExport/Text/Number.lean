/-!
Unsigned numbers in text. One leading plus sign is allowed, leading zeros count for nothing, and
reading stops at the first character that is no digit or that carries the number past its limit.
-/

namespace UsbExport.Text

inductive NumberError
  | empty
  | invalidDigit
  | tooLarge
deriving DecidableEq, Repr

def NumberError.message : NumberError → String
  | .empty => "cannot parse integer from empty string"
  | .invalidDigit => "invalid digit found in string"
  | .tooLarge => "number too large to fit in target type"

/-- The value of an ASCII digit or letter in a base of at most 16. -/
def digit? (base : Nat) (c : Char) : Option Nat :=
  let value :=
    if '0' ≤ c ∧ c ≤ '9' then some (c.toNat - '0'.toNat)
    else if 'a' ≤ c ∧ c ≤ 'z' then some (c.toNat - 'a'.toNat + 10)
    else if 'A' ≤ c ∧ c ≤ 'Z' then some (c.toNat - 'A'.toNat + 10)
    else none
  value.filter (· < base)

/-- Adds one digit. A character that is no digit is reported before an overflow at it. -/
def addDigit (base limit value : Nat) (c : Char) : Except NumberError Nat :=
  match digit? base c with
  | none => .error .invalidDigit
  | some digit =>
      let value := value * base + digit
      if limit < value then .error .tooLarge else .ok value

/-- Reads a number of at most `limit` in the given base. -/
def number (base limit : Nat) (text : List Char) : Except NumberError Nat :=
  match text with
  | [] => .error .empty
  | ['+'] => .error .invalidDigit
  | '+' :: digits => digits.foldlM (addDigit base limit) 0
  | digits => digits.foldlM (addDigit base limit) 0

/-- A number written with exactly as many lower-case hexadecimal digits as it needs, and at least
`width`. -/
def hexadecimal (width value : Nat) : String :=
  let digits := Nat.toDigits 16 value
  String.ofList (List.replicate (width - digits.length) '0' ++ digits)

end UsbExport.Text

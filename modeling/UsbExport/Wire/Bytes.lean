/-!
Bytes on the wire. Words are big-endian; a fixed field holds an exact number of octets, shorter
text being padded with zeros and longer text cut. Readers take a value off the front of a byte
string and hand back the rest, so a layout is the sequence of its readers.
-/

namespace UsbExport

abbrev Bytes := List UInt8

def Bytes.zeros (count : Nat) : Bytes := List.replicate count 0

@[simp] theorem Bytes.length_zeros (count : Nat) : (Bytes.zeros count).length = count :=
  List.length_replicate

def word16 (high low : UInt8) : UInt16 := .ofNat (high.toNat * 256 + low.toNat)

def word32 (first second third fourth : UInt8) : UInt32 :=
  .ofNat (((first.toNat * 256 + second.toNat) * 256 + third.toNat) * 256 + fourth.toNat)

/-- The two octets of a word, the more significant one first. -/
def bytes16 (value : UInt16) : Bytes := [.ofNat (value.toNat / 256), .ofNat value.toNat]

/-- The four octets of a word, the most significant one first. -/
def bytes32 (value : UInt32) : Bytes :=
  [.ofNat (value.toNat / 16777216), .ofNat (value.toNat / 65536), .ofNat (value.toNat / 256),
    .ofNat value.toNat]

@[simp] theorem length_bytes16 (value : UInt16) : (bytes16 value).length = 2 := rfl

@[simp] theorem length_bytes32 (value : UInt32) : (bytes32 value).length = 4 := rfl

def readWord16 : Bytes → Option (UInt16 × Bytes)
  | high :: low :: rest => some (word16 high low, rest)
  | _ => none

def readWord32 : Bytes → Option (UInt32 × Bytes)
  | first :: second :: third :: fourth :: rest => some (word32 first second third fourth, rest)
  | _ => none

theorem readWord16_append (value : UInt16) (tail : Bytes) :
    readWord16 (bytes16 value ++ tail) = some (value, tail) := by
  have h := value.toNat_lt
  simp only [bytes16, List.cons_append, List.nil_append, readWord16, word16, Option.some.injEq,
    Prod.mk.injEq, and_true]
  apply UInt16.toNat_inj.1
  simp only [UInt8.toNat_ofNat', UInt16.toNat_ofNat']
  omega

theorem readWord32_append (value : UInt32) (tail : Bytes) :
    readWord32 (bytes32 value ++ tail) = some (value, tail) := by
  have h := value.toNat_lt
  simp only [bytes32, List.cons_append, List.nil_append, readWord32, word32, Option.some.injEq,
    Prod.mk.injEq, and_true]
  apply UInt32.toNat_inj.1
  simp only [UInt8.toNat_ofNat', UInt32.toNat_ofNat']
  omega

theorem bytes16_word16 (high low : UInt8) : bytes16 (word16 high low) = [high, low] := by
  have hh := high.toNat_lt
  have hl := low.toNat_lt
  simp only [bytes16, word16, List.cons.injEq, and_true]
  constructor <;> apply UInt8.toNat_inj.1 <;>
    simp only [UInt8.toNat_ofNat', UInt16.toNat_ofNat'] <;> omega

theorem bytes32_word32 (first second third fourth : UInt8) :
    bytes32 (word32 first second third fourth) = [first, second, third, fourth] := by
  have h1 := first.toNat_lt
  have h2 := second.toNat_lt
  have h3 := third.toNat_lt
  have h4 := fourth.toNat_lt
  simp only [bytes32, word32, List.cons.injEq, and_true]
  refine ⟨?_, ?_, ?_, ?_⟩ <;> apply UInt8.toNat_inj.1 <;>
    simp only [UInt8.toNat_ofNat', UInt32.toNat_ofNat'] <;> omega

theorem append_of_readWord16 {input rest : Bytes} {value : UInt16}
    (h : readWord16 input = some (value, rest)) : input = bytes16 value ++ rest := by
  unfold readWord16 at h
  split at h
  · cases h
    rw [bytes16_word16]
    rfl
  · cases h

theorem append_of_readWord32 {input rest : Bytes} {value : UInt32}
    (h : readWord32 input = some (value, rest)) : input = bytes32 value ++ rest := by
  unfold readWord32 at h
  split at h
  · cases h
    rw [bytes32_word32]
    rfl
  · cases h

/-- A field of exactly `size` octets. -/
@[ext]
structure Octets (size : Nat) where
  bytes : Bytes
  length_eq : bytes.length = size
deriving DecidableEq, Repr

namespace Octets

/-- Cuts a byte string to the field and fills what is left of the field with zeros. -/
def ofBytes (size : Nat) (text : Bytes) : Octets size where
  bytes := text.take size ++ Bytes.zeros (size - text.length)
  length_eq := by simp; omega

def zero (size : Nat) : Octets size := ⟨Bytes.zeros size, by simp⟩

/-- Writes a byte string over the front of the field. What goes beyond the field is left out, and
what the byte string does not reach stays. -/
def overwrite {size : Nat} (field : Octets size) (text : Bytes) : Octets size where
  bytes :=
    let count := min text.length size
    text.take count ++ field.bytes.drop count
  length_eq := by
    rw [List.length_append, List.length_take, List.length_drop, field.length_eq]
    omega

instance {size : Nat} : Inhabited (Octets size) := ⟨zero size⟩

def read (size : Nat) (input : Bytes) : Option (Octets size × Bytes) :=
  if h : size ≤ input.length then
    some (⟨input.take size, by simp [h]⟩, input.drop size)
  else none

theorem read_append {size : Nat} (field : Octets size) (tail : Bytes) :
    read size (field.bytes ++ tail) = some (field, tail) := by
  obtain ⟨text, rfl⟩ := field
  simp [read]

theorem append_of_read {size : Nat} {input rest : Bytes} {field : Octets size}
    (h : read size input = some (field, rest)) : input = field.bytes ++ rest := by
  unfold read at h
  split at h
  · cases h
    exact (List.take_append_drop _ _).symm
  · cases h

end Octets

end UsbExport

import Mathlib.Tactic.IntervalCases
import UsbExport.Text.Utf8

/-!
Text that is encoded and decoded again. Every character is put into one to four bytes; the decoder
takes exactly these and is at a boundary behind them. Main statement: whatever text was encoded is
what is decoded.
-/

namespace UsbExport.Text

/-! ### The bytes of a text -/

theorem toList_loop_eq (bytes : ByteArray) (index : Nat) (seen : List UInt8) :
    ByteArray.toList.loop bytes index seen = seen.reverse ++ bytes.data.toList.drop index := by
  fun_induction ByteArray.toList.loop bytes index seen with
  | case1 index seen inside ih =>
      have inside' : index < bytes.data.toList.length := inside
      have here : bytes.get! index = bytes.data.toList[index] := by
        simp only [ByteArray.get!, Array.getElem_toList]
        exact getElem!_pos bytes.data index inside
      rw [ih, List.reverse_cons, List.append_assoc, here, List.singleton_append,
        List.getElem_cons_drop inside']
  | case2 index seen outside =>
      have beyond : bytes.data.toList.length ≤ index := Nat.le_of_not_lt outside
      rw [List.drop_eq_nil_of_le beyond, List.append_nil]

theorem toBytes_eq (text : String) : toBytes text = text.toList.flatMap String.utf8EncodeChar := by
  rw [toBytes, ByteArray.toList, toList_loop_eq, String.toUTF8_eq_toByteArray,
    ← String.utf8Encode_toList, List.utf8Encode, List.toList_data_toByteArray]
  rfl

theorem toBytes_ofList (text : List Char) :
    toBytes (String.ofList text) = text.flatMap String.utf8EncodeChar := by
  rw [toBytes_eq, String.toList_ofList]

theorem toBytes_append (front back : String) :
    toBytes (front ++ back) = toBytes front ++ toBytes back := by
  simp [toBytes_eq]

/-! ### Reading a character -/

namespace Decoding

theorem begin_one {value : Nat} (short : value < 0x80) :
    begin (UInt8.ofNat value) = (boundary, [Char.ofNat value]) := by
  interval_cases value <;> rfl

theorem begin_two {value : Nat} (low : 2 ≤ value) (short : value < 0x20) :
    begin (UInt8.ofNat (value + 0xC0)) = (inside value 0 0x80 0xBF, []) := by
  interval_cases value <;> rfl

/-- What begins a character of three bytes bounds the next byte, so that nothing is encoded longer
than it has to be and no surrogate is encoded at all. -/
theorem begin_three {value : Nat} (short : value < 0x10) :
    begin (UInt8.ofNat (value + 0xE0)) =
      (inside value 1 (if value = 0 then 0xA0 else 0x80) (if value = 0xD then 0x9F else 0xBF),
        []) := by
  interval_cases value <;> rfl

theorem begin_four {value : Nat} (short : value < 5) :
    begin (UInt8.ofNat (value + 0xF0)) =
      (inside value 2 (if value = 0 then 0x90 else 0x80) (if value = 4 then 0x8F else 0xBF),
        []) := by
  interval_cases value <;> rfl

/-- Inside a character a byte within the bounds brings six bits more. -/
theorem next_inside {value more bits : Nat} {low high : UInt8} (short : bits < 0x40)
    (above : low.toNat ≤ bits + 0x80) (below : bits + 0x80 ≤ high.toNat) :
    next (inside value more low high) (UInt8.ofNat (bits + 0x80)) =
      match more with
      | 0 => (boundary, [Char.ofNat (value * 64 + bits)])
      | more + 1 => (inside (value * 64 + bits) more 0x80 0xBF, []) := by
  have toNat_eq : (UInt8.ofNat (bits + 0x80)).toNat = bits + 0x80 :=
    UInt8.toNat_ofNat_of_lt' (show bits + 0x80 < 256 by omega)
  have fits : low ≤ UInt8.ofNat (bits + 0x80) ∧ UInt8.ofNat (bits + 0x80) ≤ high := by
    rw [UInt8.le_iff_toNat_le, UInt8.le_iff_toNat_le, toNat_eq]
    exact ⟨above, below⟩
  cases more <;> simp only [next, if_pos fits, toNat_eq, Nat.add_sub_cancel]

/-- The last byte of a character. -/
theorem run_last {value bits : Nat} {low high : UInt8} (short : bits < 0x40)
    (above : low.toNat ≤ bits + 0x80) (below : bits + 0x80 ≤ high.toNat) (rest : Bytes) :
    (inside value 0 low high).run (UInt8.ofNat (bits + 0x80) :: rest) =
      Char.ofNat (value * 64 + bits) :: boundary.run rest := by
  rw [run, next_inside short above below]
  rfl

theorem run_further {value more bits : Nat} {low high : UInt8} (short : bits < 0x40)
    (above : low.toNat ≤ bits + 0x80) (below : bits + 0x80 ≤ high.toNat) (rest : Bytes) :
    (inside value (more + 1) low high).run (UInt8.ofNat (bits + 0x80) :: rest) =
      (inside (value * 64 + bits) more 0x80 0xBF).run rest := by
  rw [run, next_inside short above below]
  rfl

theorem run_first {byte : UInt8} {state : Decoding} (begun : begin byte = (state, []))
    (rest : Bytes) : boundary.run (byte :: rest) = state.run rest := by
  rw [run, next, begun]
  rfl

theorem run_encode (c : Char) (rest : Bytes) :
    boundary.run (String.utf8EncodeChar c ++ rest) = c :: boundary.run rest := by
  have own : Char.ofNat c.val.toNat = c := Char.ofNat_toNat c
  have valid : c.val.toNat < 0xD800 ∨ 0xDFFF < c.val.toNat ∧ c.val.toNat < 0x110000 := c.valid
  unfold String.utf8EncodeChar
  generalize c.val.toNat = value at own valid
  dsimp only
  split
  · next one =>
    rw [List.singleton_append, run, next, begin_one (by omega), own]
    rfl
  · split
    · next _ two =>
      have lead : value / 64 % 32 = value / 64 := by omega
      have whole : value / 64 * 64 + value % 64 = value := by omega
      simp only [List.cons_append, List.nil_append]
      rw [lead, run_first (begin_two (by omega) (by omega)),
        run_last (by omega) (by simp) (by simp; omega), whole, own]
    · split
      · next _ _ three =>
        have lead : value / 4096 % 16 = value / 4096 := by omega
        have whole : (value / 4096 * 64 + value / 64 % 64) * 64 + value % 64 = value := by omega
        simp only [List.cons_append, List.nil_append]
        rw [lead, run_first (begin_three (by omega)), run_further (by omega) ?_ ?_,
          run_last (by omega) (by simp) (by simp; omega), whole, own]
        · split <;> simp
          omega
        · split <;> simp <;> omega
      · next _ _ three =>
        have lead : value / 262144 % 8 = value / 262144 := by omega
        have whole : ((value / 262144 * 64 + value / 4096 % 64) * 64 + value / 64 % 64) * 64 +
            value % 64 = value := by omega
        simp only [List.cons_append, List.nil_append]
        rw [lead, run_first (begin_four (by omega)), run_further (by omega) ?_ ?_,
          run_further (by omega) (by simp) (by simp; omega),
          run_last (by omega) (by simp) (by simp; omega), whole, own]
        · split <;> simp
          omega
        · split <;> simp <;> omega

end Decoding

/-- What was encoded is decoded. -/
theorem ofBytes_toBytes (text : String) : ofBytes (toBytes text) = text := by
  have run_eq (chars : List Char) :
      Decoding.boundary.run (chars.flatMap String.utf8EncodeChar) = chars := by
    induction chars with
    | nil => rfl
    | cons c chars ih => rw [List.flatMap_cons, Decoding.run_encode, ih]
  rw [ofBytes, toBytes_eq, run_eq, String.ofList_toList]

end UsbExport.Text

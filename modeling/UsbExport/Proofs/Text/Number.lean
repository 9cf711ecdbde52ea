import UsbExport.Text.Blank
import UsbExport.Text.Number

/-!
Numbers that are written and read again. Main statement: a number in decimal digits is read as
itself, if it is within the limit.
-/

namespace UsbExport.Text

theorem toList_toString (n : Nat) : (toString n).toList = Nat.toDigits 10 n := by
  rw [Nat.toString_eq_ofList_toDigits, String.toList_ofList]

theorem isDigit_of_mem {n : Nat} {c : Char} (member : c ∈ (toString n).toList) : c.isDigit = true :=
  Nat.isDigit_of_mem_toDigits (by decide) (by decide) (toList_toString n ▸ member)

theorem isDigit_bounds {c : Char} (decimal : c.isDigit = true) :
    48 ≤ c.toNat ∧ c.toNat ≤ 57 := by
  rw [Char.isDigit, Bool.and_eq_true, decide_eq_true_eq, decide_eq_true_eq] at decimal
  exact ⟨UInt32.le_iff_toNat_le.1 decimal.1, UInt32.le_iff_toNat_le.1 decimal.2⟩

/-! ### Blanks -/

theorem isBlank_of_isDigit {c : Char} (decimal : c.isDigit = true) : isBlank c = false := by
  have bounds := isDigit_bounds decimal
  simp [isBlank, blankRanges]
  omega

/-- There is nothing to trim where nothing is blank. -/
theorem trim_of_plain {text : List Char} (plain : ∀ c ∈ text, isBlank c = false) :
    trim text = text := by
  have kept (chars : List Char) (plain : ∀ c ∈ chars, isBlank c = false) :
      chars.dropWhile isBlank = chars := by
    cases chars with
    | nil => rfl
    | cons c rest => rw [List.dropWhile_cons_of_neg (by simp [plain c List.mem_cons_self])]
  rw [trim, kept text plain, kept text.reverse fun c member => plain c (List.mem_reverse.1 member),
    List.reverse_reverse]

/-! ### Digits -/

theorem digit?_of_isDigit {c : Char} (decimal : c.isDigit = true) :
    digit? 10 c = some (c.toNat - '0'.toNat) := by
  obtain ⟨low, high⟩ := isDigit_bounds decimal
  have within : '0' ≤ c ∧ c ≤ '9' := ⟨low, high⟩
  have short : c.toNat - 48 < 10 := by omega
  rw [digit?, if_pos within, Option.filter_some, if_pos (by simpa using short)]

theorem le_ofDigitChars (digits : List Char) (value : Nat) :
    value ≤ Nat.ofDigitChars 10 digits value := by
  induction digits generalizing value with
  | nil => exact Nat.le_refl value
  | cons c rest ih =>
      rw [Nat.ofDigitChars_cons]
      exact Nat.le_trans (by omega) (ih _)

/-- Digit by digit nothing exceeds the limit that does not at the end. -/
theorem foldlM_addDigit {limit : Nat} {digits : List Char} {value : Nat}
    (decimal : ∀ c ∈ digits, c.isDigit = true)
    (fits : Nat.ofDigitChars 10 digits value ≤ limit) :
    digits.foldlM (addDigit 10 limit) value = .ok (Nat.ofDigitChars 10 digits value) := by
  induction digits generalizing value with
  | nil => rfl
  | cons c rest ih =>
      rw [Nat.ofDigitChars_cons] at fits ⊢
      have reached := Nat.le_trans (le_ofDigitChars rest _) fits
      have added : addDigit 10 limit value c = .ok (10 * value + (c.toNat - '0'.toNat)) := by
        rw [addDigit, digit?_of_isDigit (decimal c List.mem_cons_self), Nat.mul_comm value 10]
        exact if_neg (Nat.not_lt.2 reached)
      rw [List.foldlM_cons, added]
      exact ih (fun c member => decimal c (List.mem_cons_of_mem _ member)) fits

theorem number_toString {n limit : Nat} (fits : n ≤ limit) :
    number 10 limit (toString n).toList = .ok n := by
  have decimal : ∀ c ∈ (toString n).toList, c.isDigit = true := fun _ => isDigit_of_mem
  have value_eq : Nat.ofDigitChars 10 (toString n).toList 0 = n := by
    rw [toList_toString, Nat.ofDigitChars_ten_toDigits]
  have some : (toString n).toList ≠ [] := by
    rw [toList_toString]
    exact Nat.toDigits_ne_nil
  have read := foldlM_addDigit decimal (value_eq.symm ▸ fits)
  rw [value_eq] at read
  unfold number
  split
  · next empty => exact absurd empty some
  · next sign =>
    rw [sign] at decimal
    exact absurd (decimal '+' List.mem_cons_self) (by decide)
  · next digits _ sign =>
    rw [sign] at decimal
    exact absurd (decimal '+' List.mem_cons_self) (by decide)
  · exact read

end UsbExport.Text

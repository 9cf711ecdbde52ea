import Mathlib.Data.List.DropRight
import UsbExport.Log.Ring

/-!
A text as a sequence of lines, each of which ends with a newline: where a line begins, which one is
the last, and what a cut at the front leaves of the first.
-/

namespace UsbExport.Log

/-- Nothing, or whole lines only. -/
def EndsLine (text : Bytes) : Prop := text = [] ∨ text.getLast? = some newline

/-- The rest of a text from the beginning of one of its lines on, or nothing at its end. -/
def StartsLine (text rest : Bytes) : Prop := ∃ front, text = front ++ rest ∧ EndsLine front

/-- Everything behind the newline before the last one. -/
def lastLine (text : Bytes) : Bytes :=
  text.dropLast.rtakeWhile (· != newline) ++ text.getLast?.toList

/-- Everything behind the first newline. -/
def afterLine (text : Bytes) : Bytes := (text.dropWhile (· != newline)).drop 1

/-- What appending lines to an empty text makes of it. -/
def textOf (lines : List Bytes) : Bytes := lines.flatMap terminated

instance (text : Bytes) : Decidable (EndsLine text) := inferInstanceAs (Decidable (_ ∨ _))

/-! ### Texts of whole lines -/

theorem endsLine_concat (text : Bytes) : EndsLine (text ++ [newline]) := Or.inr (by simp)

theorem endsLine_terminated (line : Bytes) : EndsLine (terminated line) := by
  unfold terminated
  split
  · next ends => exact Or.inr ends
  · exact endsLine_concat line

theorem terminated_ne_nil (line : Bytes) : terminated line ≠ [] := by
  unfold terminated
  split
  · next ends => simpa using List.getLast?_isSome.1 (by rw [ends]; rfl)
  · simp

theorem EndsLine.append {text rest : Bytes} (text_ends : EndsLine text) (ends : EndsLine rest) :
    EndsLine (text ++ rest) := by
  rcases ends with rfl | last_eq
  · rwa [List.append_nil]
  · exact Or.inr (by rw [List.getLast?_append, last_eq]; rfl)

/-- The end of a text is its own end. -/
theorem EndsLine.of_append {text rest : Bytes} (ends : EndsLine (text ++ rest)) :
    EndsLine rest := by
  by_cases empty : rest = []
  · exact Or.inl empty
  · right
    rcases ends with nothing | last_eq
    · exact absurd (List.append_eq_nil_iff.1 nothing).2 empty
    · rw [List.getLast?_append, List.getLast?_eq_some_getLast empty] at last_eq
      rw [List.getLast?_eq_some_getLast empty]
      exact last_eq

theorem EndsLine.exists_concat {text : Bytes} (ends : EndsLine text) (some : text ≠ []) :
    ∃ init, text = init ++ [newline] :=
  List.getLast?_eq_some_iff.1 (ends.resolve_left some)

theorem endsLine_textOf (lines : List Bytes) : EndsLine (textOf lines) := by
  induction lines with
  | nil => exact Or.inl rfl
  | cons line lines ih => exact (endsLine_terminated line).append ih

theorem textOf_concat (lines : List Bytes) (line : Bytes) :
    textOf (lines ++ [line]) = textOf lines ++ terminated line := by
  simp [textOf]

/-! ### Where lines begin -/

theorem startsLine_self (text : Bytes) : StartsLine text text := ⟨[], rfl, Or.inl rfl⟩

theorem StartsLine.isSuffix {text rest : Bytes} (starts : StartsLine text rest) :
    rest <:+ text := by
  obtain ⟨front, rfl, -⟩ := starts
  exact List.suffix_append front rest

theorem StartsLine.append {text rest : Bytes} (starts : StartsLine text rest) (more : Bytes) :
    StartsLine (text ++ more) (rest ++ more) := by
  obtain ⟨front, rfl, ends⟩ := starts
  exact ⟨front, List.append_assoc .., ends⟩

/-- Where a line begins in a longer text, ahead of what was added, one began before. -/
theorem StartsLine.of_append {text rest more : Bytes} (starts : StartsLine (text ++ more) rest)
    (longer : more.length ≤ rest.length) :
    ∃ earlier, rest = earlier ++ more ∧ StartsLine text earlier := by
  obtain ⟨front, text_eq, ends⟩ := starts
  rcases List.append_eq_append_iff.1 text_eq with ⟨between, rfl, rfl⟩ | ⟨between, rfl, rfl⟩
  · obtain rfl : between = [] := by
      rw [List.length_append] at longer
      exact List.length_eq_zero_iff.1 (by omega)
    exact ⟨[], rfl, text, by simp, by simpa using ends⟩
  · exact ⟨between, rfl, front, rfl, ends⟩

theorem startsLine_iff {text rest : Bytes} :
    StartsLine text rest ↔ rest <:+ text ∧ EndsLine (text.rdrop rest.length) := by
  constructor
  · rintro ⟨front, rfl, ends⟩
    exact ⟨List.suffix_append front rest, by simpa [List.rdrop] using ends⟩
  · rintro ⟨⟨front, rfl⟩, ends⟩
    exact ⟨front, rfl, by simpa [List.rdrop] using ends⟩

instance (text rest : Bytes) : Decidable (StartsLine text rest) :=
  decidable_of_iff _ startsLine_iff.symm

/-! ### The last line -/

theorem exists_lastLine {text : Bytes} (ends : EndsLine text) (some : text ≠ []) :
    ∃ front body, text = front ++ (body ++ [newline]) ∧ EndsLine front ∧ newline ∉ body ∧
      lastLine text = body ++ [newline] := by
  obtain ⟨init, rfl⟩ := ends.exists_concat some
  refine ⟨init.rdropWhile (· != newline), init.rtakeWhile (· != newline), ?_, ?_, ?_, ?_⟩
  · rw [← List.append_assoc, List.rdropWhile_append_rtakeWhile]
  · by_cases empty : init.rdropWhile (· != newline) = []
    · exact Or.inl empty
    · have stopped := List.rdropWhile_last_not (· != newline) init empty
      rw [bne_iff_ne, not_not] at stopped
      exact Or.inr (by rw [List.getLast?_eq_some_getLast empty, stopped])
  · intro inside
    simpa using List.mem_rtakeWhile_imp inside
  · simp [lastLine]

/-- Whatever begins with a line reaches through the last one. -/
theorem length_lastLine_le {text rest : Bytes} (ends : EndsLine text)
    (starts : StartsLine text rest) (some : rest ≠ []) :
    (lastLine text).length ≤ rest.length := by
  obtain ⟨front, rfl, front_ends⟩ := starts
  obtain ⟨before, body, text_eq, -, plain, last_eq⟩ := exists_lastLine ends (by simp [some])
  rw [last_eq]
  rcases List.append_eq_append_iff.1 text_eq with ⟨between, rfl, rest_eq⟩ | ⟨between, rfl, rest_eq⟩
  · rw [rest_eq]
    exact (List.suffix_append between (body ++ [newline])).length_le
  · rcases front_ends.of_append with rfl | last
    · rw [rest_eq]
      exact Nat.le_refl _
    · -- a newline inside the last line, ahead of its own
      obtain ⟨init, rest_eq'⟩ := List.eq_nil_or_concat' rest |>.resolve_left some
      obtain ⟨tail, rfl⟩ := rest_eq'
      rw [← List.append_assoc] at rest_eq
      have body_eq := (List.append_inj' rest_eq rfl).1
      exact absurd (List.mem_append_left _ (List.mem_of_getLast? last)) (body_eq ▸ plain)

/-! ### What a cut leaves of the first line -/

/-- A cut line is dropped unless nothing comes behind it. -/
theorem dropCutLine_eq (bytes : Bytes) :
    dropCutLine bytes = if afterLine bytes = [] then bytes else afterLine bytes := by
  unfold dropCutLine afterLine
  split
  · next empty => rw [if_pos empty]
  · next some => rw [if_neg some]

theorem bne_newline_of_plain {body : Bytes} (plain : newline ∉ body) :
    ∀ byte ∈ body, (byte != newline) = true :=
  fun _ member => bne_iff_ne.2 (ne_of_mem_of_not_mem member plain)

theorem afterLine_append {body : Bytes} (plain : newline ∉ body) (rest : Bytes) :
    afterLine (body ++ newline :: rest) = rest := by
  rw [afterLine, List.dropWhile_append_of_pos (bne_newline_of_plain plain)]
  simp

/-- A text with a newline is its first line and what comes behind it. -/
theorem exists_firstLine {bytes : Bytes} (member : newline ∈ bytes) :
    ∃ body, newline ∉ body ∧ bytes = body ++ newline :: afterLine bytes := by
  obtain ⟨body, rest, rfl, plain⟩ := List.eq_append_cons_of_mem member
  exact ⟨body, plain, by rw [afterLine_append plain]⟩

end UsbExport.Log

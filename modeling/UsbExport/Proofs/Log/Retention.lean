import UsbExport.Proofs.Log.Lines

/-!
What a ring keeps of the lines that were appended to it. It holds whole lines from the end of the
text, and of those that leave room in it all that fit, or it is filled by the end of a single line.
Main statement: it keeps as many whole lines as fit, unless an overflow cuts the text just between
two lines; then the line behind the cut goes as well.
-/

namespace UsbExport.Log

/-- The longest end of a text that begins with a line and fits. -/
structure Longest (capacity : Nat) (text kept : Bytes) : Prop where
  starts : StartsLine text kept
  fits : kept.length ≤ capacity
  longest : ∀ other, StartsLine text other → other.length ≤ capacity →
    other.length ≤ kept.length

/-- What a ring that evicts no line that fits holds: whole lines if the last one fits, and the end
of the last one if it does not. -/
def Retained (capacity : Nat) (text kept : Bytes) : Prop :=
  if (lastLine text).length ≤ capacity then Longest capacity text kept
  else kept = text.rtake capacity

/-- What a ring holds after any number of appends. -/
inductive Kept (capacity : Nat) (text : Bytes) : Bytes → Prop
  | whole {kept : Bytes} (starts : StartsLine text kept) (fits : kept.length ≤ capacity)
      (nearly : ∀ other, StartsLine text other → other.length < capacity →
        other.length ≤ kept.length) : Kept capacity text kept
  | cut (long : capacity < (lastLine text).length) : Kept capacity text (text.rtake capacity)

namespace Ring

/-- The ring after lines were appended to it one after the other. -/
def appendAll (ring : Ring) (lines : List Bytes) : Ring := lines.foldl append ring

theorem appendAll_concat (ring : Ring) (lines : List Bytes) (line : Bytes) :
    ring.appendAll (lines ++ [line]) = (ring.appendAll lines).append line := by
  simp [appendAll]

@[simp] theorem capacity_appendAll (ring : Ring) (lines : List Bytes) :
    (ring.appendAll lines).capacity = ring.capacity := by
  induction lines generalizing ring with
  | nil => rfl
  | cons line lines ih => exact (ih _).trans (ring.capacity_append line)

end Ring

/-! ### Ends of a text -/

theorem rtake_isSuffix (text : Bytes) (count : Nat) : text.rtake count <:+ text :=
  List.drop_suffix _ text

theorem length_rtake {text : Bytes} {count : Nat} (enough : count ≤ text.length) :
    (text.rtake count).length = count := by
  rw [List.rtake, List.length_drop]
  omega

/-- The end of a text is the end of a longer one that ends alike. -/
theorem rtake_append {text rest more : Bytes} {count : Nat} (suffix : rest <:+ text)
    (enough : count ≤ (rest ++ more).length) :
    (rest ++ more).rtake count = (text ++ more).rtake count := by
  obtain ⟨front, rfl⟩ := suffix
  have length_eq : ((front ++ rest) ++ more).length - count =
      front.length + ((rest ++ more).length - count) := by
    simp only [List.length_append] at enough ⊢
    omega
  rw [List.rtake, List.rtake, length_eq, List.append_assoc, ← List.drop_drop, List.drop_left]

theorem startsLine_lastLine {text : Bytes} (ends : EndsLine text) (some : text ≠ []) :
    StartsLine text (lastLine text) := by
  obtain ⟨front, body, text_eq, front_ends, -, last_eq⟩ := exists_lastLine ends some
  exact ⟨front, by rw [last_eq]; exact text_eq, front_ends⟩

theorem lastLine_ne_nil {text : Bytes} (ends : EndsLine text) (some : text ≠ []) :
    lastLine text ≠ [] := by
  obtain ⟨front, body, -, -, -, last_eq⟩ := exists_lastLine ends some
  simp [last_eq]

/-! ### An overflow -/

section

variable {capacity : Nat} {text : Bytes}

/-- A cut inside the last line leaves what it leaves. -/
theorem dropCutLine_of_long (ends : EndsLine text) (some : text ≠ [])
    (long : capacity ≤ (lastLine text).length) :
    dropCutLine (text.rtake capacity) = text.rtake capacity := by
  obtain ⟨front, body, text_eq, -, plain, last_eq⟩ := exists_lastLine ends some
  have short : (text.rtake capacity).length ≤ (body ++ [newline]).length := by
    rw [← last_eq, List.rtake, List.length_drop]
    omega
  have inside : text.rtake capacity <:+ body ++ [newline] :=
    List.suffix_of_suffix_length_le (rtake_isSuffix text capacity) ⟨front, text_eq.symm⟩ short
  have nothing : afterLine (text.rtake capacity) = [] := by
    rcases List.suffix_concat_iff.1 inside with none | ⟨tail, eq, suffix⟩
    · rw [none]
      rfl
    · rw [eq]
      exact afterLine_append (fun member => plain (suffix.mem member)) []
  rw [dropCutLine_eq, if_pos nothing]

/-- Any line that begins behind a cut begins behind the line that was cut. -/
theorem StartsLine.isSuffix_afterLine {rest kept : Bytes} (starts : StartsLine text rest)
    (suffix : kept <:+ text) (shorter : rest.length < kept.length) :
    newline ∈ kept ∧ rest <:+ afterLine kept := by
  obtain ⟨front, rfl, ends⟩ := starts
  obtain ⟨between, rfl⟩ := List.suffix_of_suffix_length_le (List.suffix_append front rest) suffix
    (Nat.le_of_lt shorter)
  have some : between ≠ [] := by
    rintro rfl
    exact Nat.lt_irrefl _ shorter
  obtain ⟨before, eq⟩ := suffix
  rw [← List.append_assoc, List.append_left_inj] at eq
  obtain ⟨init, between_eq⟩ := (eq ▸ ends).of_append.exists_concat some
  have inside : newline ∈ between := by simp [between_eq]
  obtain ⟨body, plain, first_eq⟩ := exists_firstLine inside
  refine ⟨List.mem_append_left _ inside, ?_⟩
  rw [first_eq, List.append_assoc, List.cons_append, afterLine_append plain]
  exact List.suffix_append _ rest

/-- A cut ahead of the last line leaves the lines behind the first newline. -/
theorem dropCutLine_of_short (ends : EndsLine text) (exceeds : capacity < text.length)
    (short : (lastLine text).length < capacity) :
    dropCutLine (text.rtake capacity) = afterLine (text.rtake capacity) ∧
      StartsLine text (afterLine (text.rtake capacity)) ∧
      ∃ line, newline ∉ line ∧
        text.rtake capacity = line ++ newline :: afterLine (text.rtake capacity) := by
  have some : text ≠ [] := List.ne_nil_of_length_pos (by omega)
  have length_eq := length_rtake (Nat.le_of_lt exceeds)
  obtain ⟨member, behind⟩ := (startsLine_lastLine ends some).isSuffix_afterLine
    (rtake_isSuffix text capacity) (by rwa [length_eq])
  obtain ⟨line, plain, kept_eq⟩ := exists_firstLine member
  refine ⟨?_, ?_, line, plain, kept_eq⟩
  · rw [dropCutLine_eq, if_neg]
    intro nothing
    rw [nothing] at behind
    exact lastLine_ne_nil ends some (List.suffix_nil.1 behind)
  · obtain ⟨before, eq⟩ := rtake_isSuffix text capacity
    refine ⟨before ++ line ++ [newline], ?_, endsLine_concat _⟩
    rw [List.append_assoc, List.append_assoc, List.singleton_append, ← kept_eq, eq]

/-- What an overflow leaves, and when it is all that fits. -/
theorem kept_of_over (ends : EndsLine text) (exceeds : capacity < text.length) :
    Kept capacity text (dropCutLine (text.rtake capacity)) ∧
      (Retained capacity text (dropCutLine (text.rtake capacity)) ↔
        ¬ ((lastLine text).length < capacity ∧ StartsLine text (text.rtake capacity))) := by
  have some : text ≠ [] := List.ne_nil_of_length_pos (by omega)
  have length_eq := length_rtake (Nat.le_of_lt exceeds)
  rcases Nat.lt_trichotomy capacity (lastLine text).length with long | exact_fit | short
  · -- the end of a single line
    rw [dropCutLine_of_long ends some (Nat.le_of_lt long), Retained,
      if_neg (Nat.not_le.2 long)]
    exact ⟨.cut long, fun _ => by omega, fun _ => rfl⟩
  · -- just the last line
    have kept_eq : text.rtake capacity = lastLine text := by
      rw [exact_fit]
      exact (List.suffix_iff_eq_drop.1 (startsLine_lastLine ends some).isSuffix).symm
    have starts : StartsLine text (text.rtake capacity) := kept_eq ▸ startsLine_lastLine ends some
    rw [dropCutLine_of_long ends some (Nat.le_of_eq exact_fit), Retained,
      if_pos (Nat.le_of_eq exact_fit.symm)]
    refine ⟨.whole starts (Nat.le_of_eq length_eq) fun other _ fits => ?_, fun _ => by omega,
      fun _ => ⟨starts, Nat.le_of_eq length_eq, fun other _ fits => ?_⟩⟩
    · rw [length_eq]
      exact Nat.le_of_lt fits
    · rwa [length_eq]
  · obtain ⟨dropped, starts, line, -, kept_eq⟩ := dropCutLine_of_short ends exceeds short
    have shorter : (afterLine (text.rtake capacity)).length < capacity := by
      have := congrArg List.length kept_eq
      rw [length_eq, List.length_append, List.length_cons] at this
      omega
    have nearly (other : Bytes) (other_starts : StartsLine text other)
        (fits : other.length < capacity) :
        other.length ≤ (afterLine (text.rtake capacity)).length :=
      (other_starts.isSuffix_afterLine (rtake_isSuffix text capacity)
        (by rwa [length_eq])).2.length_le
    rw [dropped, Retained, if_pos (Nat.le_of_lt short)]
    refine ⟨.whole starts (Nat.le_of_lt shorter) nearly, fun kept between => ?_, fun inside =>
      ⟨starts, Nat.le_of_lt shorter, fun other other_starts fits => ?_⟩⟩
    · have := kept.longest _ between.2 (Nat.le_of_eq length_eq)
      omega
    · -- another end of the same length as the cut is the cut
      rcases Nat.lt_or_eq_of_le fits with less | same
      · exact nearly other other_starts less
      · have other_eq : other = text.rtake capacity := by
          rw [List.suffix_iff_eq_drop.1 other_starts.isSuffix, same]
          rfl
        exact absurd ⟨short, other_eq ▸ other_starts⟩ inside

end

/-! ### One append after the other -/

/-- An append after which the ring overflows, is cut just between two lines, and has room for more
than the last one. -/
def Overtrims (ring : Ring) (line text : Bytes) : Prop :=
  ring.capacity < (ring.bytes ++ terminated line).length ∧
    (lastLine text).length < ring.capacity ∧ StartsLine text (text.rtake ring.capacity)

instance (ring : Ring) (line text : Bytes) : Decidable (Overtrims ring line text) :=
  inferInstanceAs (Decidable (_ ∧ _ ∧ _))

section

variable {capacity : Nat} {text kept : Bytes}

theorem Kept.nil (capacity : Nat) : Kept capacity [] [] :=
  .whole (startsLine_self []) (Nat.zero_le _) fun _ starts _ => starts.isSuffix.length_le

theorem Kept.isSuffix (holds : Kept capacity text kept) : kept <:+ text := by
  cases holds with
  | whole starts => exact starts.isSuffix
  | cut => exact rtake_isSuffix text capacity

/-- A line that finds room comes to what is kept, and nothing longer fits. -/
theorem Kept.room (holds : Kept capacity text kept) (ends : EndsLine text) {more : Bytes}
    (some : more ≠ []) (room : (kept ++ more).length ≤ capacity) :
    Longest capacity (text ++ more) (kept ++ more) := by
  have more_pos := List.length_pos_iff.2 some
  rw [List.length_append] at room
  cases holds with
  | whole starts fits nearly =>
      refine ⟨starts.append more, by rwa [List.length_append],
        fun other other_starts other_fits => ?_⟩
      by_cases shorter : other.length ≤ more.length
      · rw [List.length_append]
        exact Nat.le_add_left_of_le shorter
      · obtain ⟨earlier, rfl, earlier_starts⟩ := other_starts.of_append (by omega)
        simp only [List.length_append] at other_fits ⊢
        have := nearly earlier earlier_starts (by omega)
        omega
  | cut long =>
      -- the ring was full
      have enough : capacity ≤ text.length := by
        by_cases empty : text = []
        · subst empty
          exact absurd long (by simp [lastLine])
        · exact Nat.le_of_lt (Nat.lt_of_lt_of_le long
            (startsLine_lastLine ends empty).isSuffix.length_le)
      rw [length_rtake enough] at room
      omega

end

section

variable {ring : Ring} {text : Bytes}

/-- An append that overflows cuts the whole text. -/
theorem bytes_append_of_over (holds : Kept ring.capacity text ring.bytes) (line : Bytes)
    (exceeds : ring.capacity < (ring.bytes ++ terminated line).length) :
    (ring.append line).bytes = dropCutLine ((text ++ terminated line).rtake ring.capacity) ∧
      ring.capacity < (text ++ terminated line).length := by
  refine ⟨?_, ?_⟩
  · rw [Ring.append, if_neg (Nat.not_le.2 exceeds),
      ← rtake_append holds.isSuffix (Nat.le_of_lt exceeds)]
    rfl
  · have := holds.isSuffix.length_le
    rw [List.length_append] at exceeds ⊢
    omega

/-- What the ring holds after an append, and when that is all that fits. -/
theorem Kept.append (holds : Kept ring.capacity text ring.bytes) (ends : EndsLine text)
    (line : Bytes) :
    Kept ring.capacity (text ++ terminated line) (ring.append line).bytes ∧
      (Retained ring.capacity (text ++ terminated line) (ring.append line).bytes ↔
        ¬ Overtrims ring line (text ++ terminated line)) := by
  have all_ends := ends.append (endsLine_terminated line)
  have some := terminated_ne_nil line
  by_cases room : (ring.bytes ++ terminated line).length ≤ ring.capacity
  · have bytes_eq : (ring.append line).bytes = ring.bytes ++ terminated line := by
      rw [Ring.append, if_pos room]
    have longest := holds.room ends some room
    rw [bytes_eq]
    refine ⟨.whole longest.starts longest.fits fun other starts fits =>
      longest.longest other starts (Nat.le_of_lt fits), fun _ exceeds => ?_, fun _ => ?_⟩
    · exact absurd exceeds.1 (Nat.not_lt.2 room)
    · have last_le := length_lastLine_le all_ends longest.starts (by simp [some])
      rw [Retained, if_pos (Nat.le_trans last_le room)]
      exact longest
  · have exceeds := Nat.lt_of_not_le room
    obtain ⟨bytes_eq, longer⟩ := bytes_append_of_over holds line exceeds
    obtain ⟨keeps, all⟩ := kept_of_over all_ends longer
    rw [bytes_eq, all]
    exact ⟨keeps, not_congr ⟨fun both => ⟨exceeds, both⟩, fun trims => trims.2⟩⟩

/-- Whoever overtrims loses the line right behind the cut, for which there was room. -/
theorem Overtrims.lost {line : Bytes} (holds : Kept ring.capacity text ring.bytes)
    (ends : EndsLine text) (trims : Overtrims ring line (text ++ terminated line)) :
    ∃ lost, newline ∉ lost ∧ Longest ring.capacity (text ++ terminated line)
      (lost ++ newline :: (ring.append line).bytes) := by
  obtain ⟨exceeds, short, starts⟩ := trims
  obtain ⟨bytes_eq, longer⟩ := bytes_append_of_over holds line exceeds
  obtain ⟨dropped, -, lost, plain, cut_eq⟩ :=
    dropCutLine_of_short (ends.append (endsLine_terminated line)) longer short
  have length_eq := length_rtake (Nat.le_of_lt longer)
  refine ⟨lost, plain, ?_⟩
  rw [bytes_eq, dropped, ← cut_eq]
  exact ⟨starts, Nat.le_of_eq length_eq, fun other _ fits => by rwa [length_eq]⟩

end

theorem kept_appendAll (capacity : Nat) (lines : List Bytes) :
    let ring := Ring.appendAll { capacity } lines
    Kept ring.capacity (textOf lines) ring.bytes := by
  induction lines using List.reverseRecOn with
  | nil => exact .nil capacity
  | append_singleton lines line ih =>
      rw [Ring.appendAll_concat, textOf_concat]
      dsimp only
      rw [Ring.capacity_append]
      exact (ih.append (endsLine_textOf lines) line).1

/-- The ring keeps as many whole lines as fit, and the end of the last one if that does not fit,
unless the last append overtrims. Then there was room for one line more: the one right behind the
cut. -/
theorem retained_iff_not_overtrims (capacity : Nat) (lines : List Bytes) (line : Bytes) :
    let before := Ring.appendAll { capacity } lines
    let after := before.append line
    let text := textOf (lines ++ [line])
    (Retained capacity text after.bytes ↔ ¬ Overtrims before line text) ∧
      (Overtrims before line text → ∃ lost, newline ∉ lost ∧
        Longest capacity text (lost ++ newline :: after.bytes)) := by
  intro before after text
  have capacity_eq : before.capacity = capacity := Ring.capacity_appendAll _ lines
  have ends := endsLine_textOf lines
  have holds : Kept before.capacity (textOf lines) before.bytes := kept_appendAll capacity lines
  have text_eq : text = textOf lines ++ terminated line := textOf_concat lines line
  rw [text_eq, ← capacity_eq]
  exact ⟨(holds.append ends line).2, fun trims => trims.lost holds ends⟩

/-- Two lines of four bytes would fill the ring, but the cut falls between them and the one
before. -/
example :
    let before := Ring.appendAll { capacity := 8 } [[97, 97], [98, 98, 98]]
    Overtrims before [99, 99, 99] (textOf [[97, 97], [98, 98, 98], [99, 99, 99]]) ∧
      (before.append [99, 99, 99]).bytes = [99, 99, 99, newline] := by
  decide

end UsbExport.Log

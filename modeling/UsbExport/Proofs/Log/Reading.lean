import UsbExport.Proofs.Log.Upkeep
import UsbExport.Proofs.Text.Number
import UsbExport.Proofs.Text.Utf8

/-!
Reading the file of a log. It is a line with the boot count and the text of the ring; who opens it
reads the count and takes the text apart into lines. Main statement: of a ring whose bytes are text
with no carriage return at the end of a line, nothing is lost on the way through the file.
-/

namespace UsbExport.Log

/-! ### Text in lines -/

/-- Text that is cut into its lines without loss. -/
structure Readable (bytes : Bytes) : Prop where
  isText : ∃ text : String, bytes = Text.toBytes text
  unreturned : ¬[0x0D, newline] <:+: bytes

/-- Only a newline has its byte in it. -/
theorem eq_newline_of_mem {c : Char} (member : newline ∈ String.utf8EncodeChar c) : c = '\n' := by
  have own : Char.ofNat c.val.toNat = c := Char.ofNat_toNat c
  unfold String.utf8EncodeChar at member
  generalize c.val.toNat = value at own member
  have apart (bits : Nat) (low : 0x80 ≤ bits) (high : bits < 0x100) :
      newline ≠ UInt8.ofNat bits := by
    intro same
    have := congrArg UInt8.toNat same
    rw [UInt8.toNat_ofNat_of_lt' high] at this
    simp [newline] at this
    omega
  dsimp only at member
  split at member
  · next one =>
    have same := congrArg UInt8.toNat (List.mem_singleton.1 member)
    rw [UInt8.toNat_ofNat_of_lt' (show value < 256 by omega)] at same
    rw [← own, ← same]
    rfl
  · split at member
    · simp only [List.mem_cons, List.not_mem_nil, or_false] at member
      rcases member with same | same <;> exact absurd same (apart _ (by omega) (by omega))
    · split at member
      · simp only [List.mem_cons, List.not_mem_nil, or_false] at member
        rcases member with same | same | same <;> exact absurd same (apart _ (by omega) (by omega))
      · simp only [List.mem_cons, List.not_mem_nil, or_false] at member
        rcases member with same | same | same | same <;>
          exact absurd same (apart _ (by omega) (by omega))

theorem not_mem_toBytes {line : List Char} (plain : '\n' ∉ line) :
    newline ∉ Text.toBytes (String.ofList line) := by
  rw [Text.toBytes_ofList]
  intro member
  obtain ⟨c, inside, member⟩ := List.mem_flatMap.1 member
  exact plain (eq_newline_of_mem member ▸ inside)

theorem terminated_of_plain {line : Bytes} (plain : newline ∉ line) :
    terminated line = line ++ [newline] :=
  if_neg fun last => plain (List.mem_of_getLast? last)

/-- A text that ends with a newline in bytes ends with one. -/
theorem getLast?_of_endsLine {text : List Char}
    (ends : EndsLine (Text.toBytes (String.ofList text))) :
    text = [] ∨ text.getLast? = some '\n' := by
  rcases List.eq_nil_or_concat' text with rfl | ⟨init, c, rfl⟩
  · exact Or.inl rfl
  · right
    have own : EndsLine (String.utf8EncodeChar c) := by
      rw [Text.toBytes_ofList, List.flatMap_append, List.flatMap_singleton] at ends
      exact ends.of_append
    have last := own.resolve_left String.utf8EncodeChar_ne_nil
    rw [List.getLast?_concat, eq_newline_of_mem (List.mem_of_getLast? last)]

/-- Whole lines are lines without a newline, each with one behind it. -/
theorem exists_lines {text : List Char} (ends : text = [] ∨ text.getLast? = some '\n') :
    ∃ lines : List (List Char), (∀ line ∈ lines, '\n' ∉ line) ∧
      text = lines.flatMap (· ++ ['\n']) := by
  induction text with
  | nil => exact ⟨[], nofun, rfl⟩
  | cons c rest ih =>
      have ends := ends.resolve_left (List.cons_ne_nil c rest)
      have ends' : rest = [] ∨ rest.getLast? = some '\n' := by
        cases rest with
        | nil => exact Or.inl rfl
        | cons d rest => exact Or.inr (by rwa [List.getLast?_cons_cons] at ends)
      obtain ⟨lines, plain, rfl⟩ := ih ends'
      by_cases newline_eq : c = '\n'
      · refine ⟨[] :: lines, fun line member => ?_, by simp [newline_eq]⟩
        rcases List.mem_cons.1 member with rfl | member
        · exact List.not_mem_nil
        · exact plain line member
      · cases lines with
        | nil => exact absurd (Option.some.inj ends) newline_eq
        | cons line lines =>
            refine ⟨(c :: line) :: lines, fun other member => ?_, by simp⟩
            rcases List.mem_cons.1 member with rfl | member
            · rw [List.mem_cons, not_or]
              exact ⟨Ne.symm newline_eq, plain line List.mem_cons_self⟩
            · exact plain other (List.mem_cons_of_mem _ member)

theorem intercalate_lines (lines : List (List Char)) :
    ['\n'].intercalate (lines ++ [[]]) = lines.flatMap (· ++ ['\n']) := by
  induction lines with
  | nil => rfl
  | cons line lines ih =>
      rw [List.cons_append, List.flatMap_cons, ← ih]
      cases lines <;> simp [List.intercalate]

/-- Reading the lines of a text gives them back, if none ends with a carriage return. -/
theorem linesOf_flatMap {lines : List (List Char)} (plain : ∀ line ∈ lines, '\n' ∉ line)
    (unreturned : ∀ line ∈ lines, line.getLast? ≠ some '\r') :
    linesOf (lines.flatMap (· ++ ['\n'])) = lines := by
  have pieces : (lines.flatMap (· ++ ['\n'])).splitOn '\n' = lines ++ [[]] := by
    rw [← intercalate_lines]
    refine List.splitOn_intercalate '\n' (fun line member => ?_) (by simp)
    rcases List.mem_append.1 member with member | member
    · exact plain line member
    · rw [List.mem_singleton.1 member]
      exact List.not_mem_nil
  have kept : lines.map linesOf.dropReturn = lines := by
    refine (List.map_congr_left fun line member => ?_).trans (List.map_id lines)
    exact if_neg (unreturned line member)
  simp [linesOf, pieces, kept]

/-- The lines of readable bytes, each with its newline again, are the bytes. -/
theorem Readable.textOf_lines {bytes : Bytes} (readable : Readable bytes) (ends : EndsLine bytes) :
    ∃ text : String, bytes = Text.toBytes text ∧
      textOf ((linesOf text.toList).map fun line => Text.toBytes (String.ofList line)) = bytes := by
  obtain ⟨⟨text, rfl⟩, unreturned⟩ := readable
  obtain ⟨chars, rfl⟩ : ∃ chars, text = String.ofList chars := ⟨text.toList, by simp⟩
  refine ⟨_, rfl, ?_⟩
  obtain ⟨lines, plain, rfl⟩ := exists_lines (getLast?_of_endsLine ends)
  have kept : ∀ line ∈ lines, line.getLast? ≠ some '\r' := by
    intro line member last
    obtain ⟨init, rfl⟩ := List.getLast?_eq_some_iff.1 last
    obtain ⟨front, back, rfl⟩ := List.append_of_mem member
    have pair : ['\r', '\n'].flatMap String.utf8EncodeChar = [0x0D, newline] := by decide +kernel
    refine unreturned ⟨(front.flatMap (· ++ ['\n']) ++ init).flatMap String.utf8EncodeChar,
      (back.flatMap (· ++ ['\n'])).flatMap String.utf8EncodeChar, ?_⟩
    rw [Text.toBytes_ofList, ← pair, ← List.flatMap_append, ← List.flatMap_append]
    simp
  rw [String.toList_ofList, linesOf_flatMap plain kept, Text.toBytes_ofList, textOf,
    List.flatMap_map, List.flatMap_assoc]
  refine List.flatMap_congr fun line member => ?_
  rw [terminated_of_plain (not_mem_toBytes (plain line member)), Text.toBytes_ofList,
    List.flatMap_append]
  rfl

/-! ### The file -/

theorem splitFirstLine_append {line : List Char} (plain : '\n' ∉ line) (rest : List Char) :
    splitFirstLine (line ++ '\n' :: rest) = (line, rest) := by
  have passed : ∀ c ∈ line, (c != '\n') = true :=
    fun c member => bne_iff_ne.2 (ne_of_mem_of_not_mem member plain)
  rw [splitFirstLine, List.takeWhile_append_of_pos passed, List.dropWhile_append_of_pos passed]
  simp

theorem parseFile_append {boot : Nat} (counted : boot ≤ largestBoot) (text : List Char) :
    parseFile ((banner ++ toString boot ++ "\n").toList ++ text) = some (boot, text) := by
  have decimal : ∀ c ∈ (toString boot).toList, c.isDigit = true := fun _ => Text.isDigit_of_mem
  have plain : '\n' ∉ banner.toList ++ (toString boot).toList := by
    rw [List.mem_append, not_or]
    exact ⟨by decide, fun member => absurd (decimal _ member) (by decide)⟩
  have first_eq : (banner ++ toString boot ++ "\n").toList ++ text =
      (banner.toList ++ (toString boot).toList) ++ '\n' :: text := by
    simp [String.toList_append]
  have begins : banner.toList.isPrefixOf (banner.toList ++ (toString boot).toList) = true := by
    simp
  have count_eq : (banner.toList ++ (toString boot).toList).drop banner.length =
      (toString boot).toList := by
    rw [← String.length_toList, List.drop_left]
  have trimmed : Text.trim (toString boot).toList = (toString boot).toList :=
    Text.trim_of_plain fun c member => Text.isBlank_of_isDigit (decimal c member)
  rw [parseFile, first_eq, splitFirstLine_append plain]
  dsimp only
  rw [if_pos begins, count_eq, trimmed, Text.number_toString counted]

/-- Whoever reads the file finds the boot count and the text. -/
theorem parseFile_file {boot : Nat} (counted : boot ≤ largestBoot) (text : String) :
    parseFile (Text.ofBytes (header boot ++ Text.toBytes text)).toList =
      some (boot, text.toList) := by
  have file_eq : header boot ++ Text.toBytes text =
      Text.toBytes (banner ++ toString boot ++ "\n" ++ text) := by
    rw [Text.toBytes_append]
    rfl
  rw [file_eq, Text.ofBytes_toBytes, String.toList_append, parseFile_append counted]

/-! ### A new ring -/

/-- As long as there is room nothing is evicted. -/
theorem Ring.appendAll_of_room {ring : Ring} {lines : List Bytes}
    (room : (ring.bytes ++ textOf lines).length ≤ ring.capacity) :
    ring.appendAll lines = { ring with bytes := ring.bytes ++ textOf lines } := by
  induction lines generalizing ring with
  | nil => simp [appendAll, textOf]
  | cons line lines ih =>
      have text_eq : textOf (line :: lines) = terminated line ++ textOf lines := rfl
      rw [text_eq, ← List.append_assoc] at room ⊢
      have first : ring.append line = { ring with bytes := ring.bytes ++ terminated line } := by
        rw [append, if_pos]
        rw [List.length_append] at room
        omega
      show (ring.append line).appendAll lines = _
      rw [first]
      exact ih room

namespace Journal

/-- What the file of a readable ring leaves for a new run: the ring, with a line that marks the
reboot. -/
theorem recover_of_readable {ring : Ring} {boot : Nat} (path : String)
    (counted : boot ≤ largestBoot) (readable : Readable ring.bytes) (ends : EndsLine ring.bytes)
    (fits : ring.bytes.length ≤ ring.capacity) :
    let left := header boot ++ Text.toBytes ring.text
    (recover path ring.capacity (some left)).ring =
        ring.append (Text.toBytes (marker (nextBoot boot))) ∧
      (recover path ring.capacity (some left)).boot = nextBoot boot := by
  intro left
  obtain ⟨text, bytes_eq, lines_eq⟩ := readable.textOf_lines ends
  have text_eq : ring.text = text := by rw [Ring.text, bytes_eq, Text.ofBytes_toBytes]
  have parsed : parseFile (Text.ofBytes left).toList = some (boot, text.toList) := by
    rw [← text_eq]
    exact parseFile_file counted ring.text
  constructor
  · have opening : openingLines (some left) =
        (linesOf text.toList).map (fun line => Text.toBytes (String.ofList line)) ++
          [Text.toBytes (marker (nextBoot boot))] := by
      rw [openingLines, Option.map_some, Option.bind_some, parsed]
    rw [ring_recover, opening, Ring.appendAll_concat, Ring.appendAll_of_room]
    · rw [lines_eq]
      rfl
    · rw [lines_eq]
      exact fits
  · rw [recover, Option.map_some, Option.bind_some, parsed]

end Journal

end UsbExport.Log

import UsbExport.Log.Journal
import UsbExport.Proofs.Log.Retention

/-!
A journal from one act to the next: lines are appended, the file is flushed, the log is cleared,
and at any of these the folder may refuse to be written. Main statement: whatever a journal begins
with and whatever happens to it, its ring stays within its capacity and holds the end of the text
since the last clearing, from the beginning of a line on or from inside a line that fills it.
-/

namespace UsbExport.Log

/-- The end of a single line, for the whole of which there is no room. -/
structure CutLine (capacity : Nat) (text kept : Bytes) : Prop where
  fills : kept.length = capacity
  single : newline ∉ kept.dropLast
  inside : ∃ front, front ≠ [] ∧ lastLine text = front ++ kept

/-- What holds of a ring's bytes and the text they come from. -/
structure Upheld (capacity : Nat) (text kept : Bytes) : Prop where
  fits : kept.length ≤ capacity
  suffix : kept <:+ text
  ends : EndsLine kept
  begins : StartsLine text kept ∨ CutLine capacity text kept

theorem EndsLine.of_isSuffix {text rest : Bytes} (ends : EndsLine text) (suffix : rest <:+ text) :
    EndsLine rest := by
  obtain ⟨front, rfl⟩ := suffix
  exact ends.of_append

/-- A line that does not fit is cut to what does. -/
theorem cutLine_rtake {capacity : Nat} {text : Bytes} (ends : EndsLine text) (some : text ≠ [])
    (long : capacity < (lastLine text).length) : CutLine capacity text (text.rtake capacity) := by
  obtain ⟨front, body, text_eq, -, plain, last_eq⟩ := exists_lastLine ends some
  have last_suffix : lastLine text <:+ text := (startsLine_lastLine ends some).isSuffix
  have length_eq : (text.rtake capacity).length = capacity :=
    length_rtake (Nat.le_trans (Nat.le_of_lt long) last_suffix.length_le)
  obtain ⟨before, before_eq⟩ := List.suffix_of_suffix_length_le (rtake_isSuffix text capacity)
    last_suffix (by rw [length_eq]; exact Nat.le_of_lt long)
  refine ⟨length_eq, fun member => plain ?_, before, ?_, before_eq.symm⟩
  · rw [last_eq] at before_eq
    rcases List.suffix_concat_iff.1 ⟨before, before_eq⟩ with nothing | ⟨tail, eq, suffix⟩
    · rw [nothing] at member
      exact absurd member (by simp)
    · rw [eq, List.dropLast_concat] at member
      exact suffix.mem member
  · rintro rfl
    rw [List.nil_append] at before_eq
    rw [← before_eq, length_eq] at long
    exact Nat.lt_irrefl _ long

theorem Kept.upheld {capacity : Nat} {text kept : Bytes} (holds : Kept capacity text kept)
    (ends : EndsLine text) : Upheld capacity text kept := by
  have suffix := holds.isSuffix
  cases holds with
  | whole starts fits nearly => exact ⟨fits, suffix, ends.of_isSuffix suffix, .inl starts⟩
  | cut long =>
      have some : text ≠ [] := by
        rintro rfl
        exact absurd long (by simp [lastLine])
      have cut := cutLine_rtake ends some long
      exact ⟨Nat.le_of_eq cut.fills, suffix, ends.of_isSuffix suffix, .inr cut⟩

deriving instance DecidableEq for Folder, Journal

namespace Journal

/-- What a journal is asked to do. -/
inductive Act
  | append (line : Bytes)
  | flush
  | clear
deriving DecidableEq, Repr

namespace Act

def perform (act : Act) (journal : Journal) (now : Nat) (folder : Folder) : Journal × Folder :=
  match act with
  | append line => journal.append line now folder
  | flush => journal.flush now folder
  | clear => journal.clear now folder

/-- What becomes of the ring, whatever becomes of the file. -/
def onRing (act : Act) (ring : Ring) : Ring :=
  match act with
  | append line => ring.append line
  | flush => ring
  | clear => ring.clear

/-- What becomes of the text that was appended since the last clearing. -/
def onText (act : Act) (text : Bytes) : Bytes :=
  match act with
  | append line => text ++ terminated line
  | flush => text
  | clear => []

end Act

/-- An act, when it comes, and whether nothing can be written just then. -/
structure Turn where
  act : Act
  now : Nat
  isReadOnly : Bool
deriving DecidableEq, Repr

def Turn.take (turn : Turn) (state : Journal × Folder) : Journal × Folder :=
  turn.act.perform state.1 turn.now { state.2 with isReadOnly := turn.isReadOnly }

def run (start : Journal × Folder) (turns : List Turn) : Journal × Folder :=
  turns.foldl (fun state turn => turn.take state) start

/-- The text that was appended since the last clearing, `text` having been there before. -/
def textSince (text : Bytes) (turns : List Turn) : Bytes :=
  turns.foldl (fun text turn => turn.act.onText text) text

/-- The lines that a new run begins with, given what the file holds. -/
def openingLines (left : Option Bytes) : List Bytes :=
  match (left.map fun bytes => (Text.ofBytes bytes).toList).bind parseFile with
  | some (boot, text) =>
      (linesOf text).map (fun line => Text.toBytes (String.ofList line)) ++
        [Text.toBytes (marker (nextBoot boot))]
  | none => [Text.toBytes "--- boot 1 ---"]

/-- A journal that was just made, and the lines it begins with. -/
inductive Begun (capacity : Nat) : List Bytes → Journal × Folder → Prop
  | inMemory (folder : Folder) : Begun capacity [] (.inMemory capacity, folder)
  | opened {path : String} {now : Nat} {folder folder' : Folder} {journal : Journal}
      (interval : Nat) (opened : openAt path capacity now folder = .ok (journal, folder')) :
      Begun capacity (openingLines (folder.file? path)) ({ journal with interval }, folder')

/-! ### Opening -/

theorem ring_recover (path : String) (capacity : Nat) (left : Option Bytes) :
    (recover path capacity left).ring = Ring.appendAll { capacity } (openingLines left) := by
  unfold recover openingLines
  cases (left.map fun bytes => (Text.ofBytes bytes).toList).bind parseFile with
  | none => rfl
  | some found =>
      obtain ⟨boot, text⟩ := found
      dsimp only
      rw [Ring.appendAll_concat, Ring.appendAll, List.foldl_map]

/-- Writing the file changes what is known about the file, and nothing else. -/
theorem eq_of_persist {journal journal' : Journal} {now : Nat} {folder folder' : Folder}
    (written : journal.persist now folder = .ok (journal', folder')) :
    journal'.ring = journal.ring ∧ journal'.boot = journal.boot ∧ journal'.path = journal.path ∧
      journal'.interval = journal.interval := by
  unfold persist at written
  split at written
  · obtain ⟨rfl, rfl⟩ : journal = journal' ∧ folder = folder' := by simpa using written
    exact ⟨rfl, rfl, rfl, rfl⟩
  · next path _ =>
    cases result : folder.write path journal.fileBytes with
    | error fault =>
        rw [result] at written
        exact nomatch written
    | ok changed =>
        rw [result] at written
        obtain ⟨rfl, -⟩ := Prod.mk.inj (Except.ok.inj written)
        exact ⟨rfl, rfl, rfl, rfl⟩

theorem openAt_eq {path : String} {capacity now : Nat} {folder : Folder}
    {state : Journal × Folder} (opened : openAt path capacity now folder = .ok state) :
    (recover path capacity (folder.file? path)).persist now folder = .ok state := by
  unfold openAt at opened
  unfold Folder.file?
  split at opened
  · next bytes found =>
    rw [found]
    exact opened
  · next missing =>
    rw [missing]
    exact opened
  · exact nomatch opened

/-! ### One turn -/

theorem tryPersist_frame (journal : Journal) (now : Nat) (folder : Folder) :
    (journal.tryPersist now folder).1.ring = journal.ring ∧
      (journal.tryPersist now folder).1.boot = journal.boot := by
  unfold tryPersist
  split
  · next result written =>
    obtain ⟨ring_eq, boot_eq, -⟩ := eq_of_persist written
    exact ⟨ring_eq, boot_eq⟩
  · exact ⟨rfl, rfl⟩

/-- Whatever becomes of the file, an act does its work on the ring and leaves the boot count. -/
theorem take_frame (turn : Turn) (state : Journal × Folder) :
    (turn.take state).1.ring = turn.act.onRing state.1.ring ∧
      (turn.take state).1.boot = state.1.boot := by
  obtain ⟨act, now, isReadOnly⟩ := turn
  cases act with
  | append line =>
      simp only [Turn.take, Act.perform, Act.onRing, append]
      split
      · exact ⟨rfl, rfl⟩
      · split
        · exact tryPersist_frame ..
        · exact ⟨rfl, rfl⟩
  | flush =>
      simp only [Turn.take, Act.perform, Act.onRing, flush]
      split
      · exact tryPersist_frame ..
      · exact ⟨rfl, rfl⟩
  | clear => exact tryPersist_frame ..

@[simp] theorem Act.capacity_onRing (act : Act) (ring : Ring) :
    (act.onRing ring).capacity = ring.capacity := by
  cases act with
  | append line => exact ring.capacity_append line
  | flush => rfl
  | clear => rfl

theorem Act.endsLine_onText (act : Act) {text : Bytes} (ends : EndsLine text) :
    EndsLine (act.onText text) := by
  cases act with
  | append line => exact ends.append (endsLine_terminated line)
  | flush => exact ends
  | clear => exact .inl rfl

theorem Act.kept_onRing (act : Act) {ring : Ring} {text : Bytes} (ends : EndsLine text)
    (holds : Kept ring.capacity text ring.bytes) :
    Kept ring.capacity (act.onText text) (act.onRing ring).bytes := by
  cases act with
  | append line => exact (holds.append ends line).1
  | flush => exact holds
  | clear => exact .nil ring.capacity

/-! ### Any number of turns -/

theorem kept_run {start : Journal × Folder} {text : Bytes} (ends : EndsLine text)
    (holds : Kept start.1.ring.capacity text start.1.ring.bytes) (turns : List Turn) :
    (run start turns).1.ring.capacity = start.1.ring.capacity ∧
      EndsLine (textSince text turns) ∧
      Kept start.1.ring.capacity (textSince text turns) (run start turns).1.ring.bytes := by
  induction turns generalizing start text with
  | nil => exact ⟨rfl, ends, holds⟩
  | cons turn turns ih =>
      obtain ⟨ring_eq, -⟩ := take_frame turn start
      have capacity_eq : (turn.take start).1.ring.capacity = start.1.ring.capacity := by
        rw [ring_eq, Act.capacity_onRing]
      have next := turn.act.kept_onRing ends holds
      rw [← ring_eq, ← capacity_eq] at next
      have rest := ih (turn.act.endsLine_onText ends) next
      rwa [capacity_eq] at rest

theorem Begun.kept {capacity : Nat} {lines : List Bytes} {start : Journal × Folder}
    (begun : Begun capacity lines start) :
    start.1.ring.capacity = capacity ∧ Kept capacity (textOf lines) start.1.ring.bytes := by
  cases begun with
  | inMemory folder => exact ⟨rfl, .nil capacity⟩
  | @opened path now folder folder' journal interval opened =>
      have ring_eq := (eq_of_persist (openAt_eq opened)).1
      rw [ring_recover] at ring_eq
      have capacity_eq : journal.ring.capacity = capacity := by
        rw [ring_eq, Ring.capacity_appendAll]
      have holds := kept_appendAll capacity (openingLines (folder.file? path))
      dsimp only at holds
      rw [← ring_eq, capacity_eq] at holds
      exact ⟨capacity_eq, holds⟩

/-- However a journal begins and whatever is done to it, its ring holds the end of what was appended
since it was cleared last, as much as its capacity allows. -/
theorem upheld_run {capacity : Nat} {lines : List Bytes} {start : Journal × Folder}
    (begun : Begun capacity lines start) (turns : List Turn) :
    (run start turns).1.ring.capacity = capacity ∧
      Upheld capacity (textSince (textOf lines) turns) (run start turns).1.ring.bytes := by
  obtain ⟨capacity_eq, holds⟩ := begun.kept
  obtain ⟨same, ends, kept⟩ := kept_run (endsLine_textOf lines) (capacity_eq.symm ▸ holds) turns
  rw [capacity_eq] at same kept
  exact ⟨same, kept.upheld ends⟩

/-- The log that a run at its fourth boot left. -/
def leftBehind : Folder :=
  { entries := [("log", .file (Text.toBytes "usbip-bridge-log boot=4\nold\nolder\n"))] }

/-- The log of the run after it, in twelve bytes. -/
def reopened : Journal × Folder :=
  ({ ring := ⟨12, Text.toBytes " boot 5 ---\n"⟩, boot := 5, path := some "log", written := some 0 },
    { entries := [("log", .file (Text.toBytes "usbip-bridge-log boot=5\n boot 5 ---\n"))] })

/-- Two lines after a clearing that cannot be written. -/
def clearedFirst : List Turn :=
  [⟨.clear, 1, true⟩, ⟨.append (Text.toBytes "first"), 2, false⟩,
    ⟨.append (Text.toBytes "second!"), 3, true⟩]

/-- The line that marks the reboot is cut to what the ring holds, and goes with the clearing. -/
theorem upheld_run_reopened :
    openAt "log" 12 0 leftBehind = .ok reopened ∧
      (run reopened clearedFirst).1.ring.bytes = Text.toBytes "second!\n" ∧
      (run reopened clearedFirst).1.ring.capacity = 12 ∧
      Upheld 12 (textSince (textOf (openingLines (leftBehind.file? "log"))) clearedFirst)
        (run reopened clearedFirst).1.ring.bytes := by
  have opened : openAt "log" 12 0 leftBehind = .ok reopened := by decide +kernel
  exact ⟨opened, by decide +kernel, upheld_run (.opened 1000 opened) clearedFirst⟩

end Journal

end UsbExport.Log

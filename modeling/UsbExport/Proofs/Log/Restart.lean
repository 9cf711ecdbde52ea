import UsbExport.Proofs.Log.Currency
import UsbExport.Proofs.Log.Reading

/-!
What a log that is kept in a file remembers when it is closed and opened again. Main statement:
where every write gets through, the ring of the next run is that of the last one with a line that
marks the reboot, and so on after any number of restarts.
-/

namespace UsbExport.Log

/-- Writing a file changes nothing but what stands in the folder. -/
theorem Folder.isReadOnly_of_write {folder folder' : Folder} {path : String} {bytes : Bytes}
    (written : folder.write path bytes = .ok folder') :
    folder'.isReadOnly = folder.isReadOnly := by
  unfold write at written
  cases passed : folder.checkAncestors path with
  | error fault =>
      rw [passed] at written
      exact nomatch written
  | ok nothing =>
      rw [passed] at written
      dsimp only [bind, Except.bind] at written
      split at written
      · exact nomatch written
      · split at written
        · exact nomatch written
        · obtain rfl := Except.ok.inj written
          rfl

namespace Journal

/-- What is done to a log between two openings, when it is closed, and how it is opened again. -/
structure Life where
  turns : List Turn
  closing : Nat
  opening : Nat
  interval : Nat

namespace Life

/-- The last flush, when the log is closed. -/
def close (life : Life) (state : Journal × Folder) : Journal × Folder :=
  (⟨.flush, life.closing, false⟩ : Turn).take (run state life.turns)

/-- Closes the log and opens the same file with the same capacity. -/
def reopen (path : String) (state : Journal × Folder) (life : Life) :
    Except FolderError (Journal × Folder) := do
  let (journal, folder) := life.close state
  let (journal, folder) ← openAt path journal.ring.capacity life.opening folder
  return ({ journal with interval := life.interval }, folder)

/-- The ring that a life leaves. -/
def leave (life : Life) (ring : Ring) : Ring :=
  life.turns.foldl (fun ring turn => turn.act.onRing ring) ring

end Life

/-- Any number of restarts. -/
def restarts (path : String) (state : Journal × Folder) (lives : List Life) :
    Except FolderError (Journal × Folder) :=
  lives.foldlM (Life.reopen path) state

/-- What is to be remembered of a log: its ring and how often it was booted. -/
structure Memory where
  ring : Ring
  boot : Nat
deriving DecidableEq, Repr

def memory (journal : Journal) : Memory := ⟨journal.ring, journal.boot⟩

namespace Memory

/-- A restart appends one line to the ring, under the rule that every line is appended under. -/
def pass (memory : Memory) (life : Life) : Memory :=
  let boot := min (memory.boot + 1) (2 ^ 32 - 1)
  { ring := (life.leave memory.ring).append (Text.toBytes s!"--- reboot, boot {boot} ---"), boot }

/-- Every life ends with a ring that can be read back. -/
def IsReadable (memory : Memory) : List Life → Prop
  | [] => True
  | life :: lives => Readable (life.leave memory.ring).bytes ∧ (memory.pass life).IsReadable lives

end Memory

/-- No write fails. -/
def Life.IsWritable (life : Life) : Prop := ∀ turn ∈ life.turns, turn.isReadOnly = false

/-! ### Closing -/

theorem ring_run (state : Journal × Folder) (turns : List Turn) :
    (run state turns).1.ring =
      turns.foldl (fun ring turn => turn.act.onRing ring) state.1.ring := by
  induction turns generalizing state with
  | nil => rfl
  | cons turn turns ih =>
      rw [List.foldl_cons, ← (take_frame turn state).1]
      exact ih _

theorem isReadOnly_tryPersist (journal : Journal) (now : Nat) (folder : Folder) :
    (journal.tryPersist now folder).2.isReadOnly = folder.isReadOnly := by
  cases path_eq : journal.path with
  | none =>
      unfold tryPersist persist
      rw [path_eq]
  | some path =>
      rw [tryPersist, persist_eq path_eq]
      cases written : folder.write path journal.fileBytes with
      | error fault => rfl
      | ok folder' => exact Folder.isReadOnly_of_write written

theorem isReadOnly_take (turn : Turn) (state : Journal × Folder) :
    (turn.take state).2.isReadOnly = turn.isReadOnly := by
  obtain ⟨act, now, isReadOnly⟩ := turn
  cases act with
  | append line =>
      simp only [Turn.take, Act.perform, append]
      split
      · rfl
      · split
        · exact isReadOnly_tryPersist ..
        · rfl
  | flush =>
      simp only [Turn.take, Act.perform, flush]
      split
      · exact isReadOnly_tryPersist ..
      · rfl
  | clear => exact isReadOnly_tryPersist ..

/-- What a life leaves in the file when no write failed: all that the ring holds. -/
theorem Life.stored_close {path : String} {state : Journal × Folder} {life : Life}
    (stored : Stored path state.1.fileBytes state) (writable : life.IsWritable) :
    Stored path (life.close state).1.fileBytes (life.close state) := by
  obtain ⟨⟨old, kept⟩, standing⟩ := standing stored life.turns
  rcases take_cases kept ⟨.flush, life.closing, false⟩ with ⟨-, -, wrote⟩ | ⟨-, -, left⟩
  · exact wrote
  · have clean : (run state life.turns).1.dirty = false := left.resolve_left Bool.false_ne_true
    rcases standing with outstanding | current | ⟨before, turn, after, turns_eq, in_vain, -⟩
    · exact absurd (clean.symm.trans outstanding) Bool.false_ne_true
    · have frame := take_frame ⟨.flush, life.closing, false⟩ (run state life.turns)
      rw [close, fileBytes_eq frame.2 (congrArg Ring.bytes frame.1)]
      exact (take_idle current clean (Or.inl rfl)).1
    · have member : turn ∈ life.turns := by simp [turns_eq]
      exact absurd (in_vain.refused.symm.trans (writable turn member)) Bool.noConfusion

theorem Life.close_frame (life : Life) (state : Journal × Folder) :
    (life.close state).1.ring = life.leave state.1.ring ∧
      (life.close state).1.boot = state.1.boot ∧ (life.close state).2.isReadOnly = false := by
  obtain ⟨ring_eq, boot_eq⟩ := take_frame ⟨.flush, life.closing, false⟩ (run state life.turns)
  exact ⟨ring_eq.trans (ring_run state life.turns), boot_eq.trans (boot_run state life.turns),
    isReadOnly_take ⟨.flush, life.closing, false⟩ _⟩

/-! ### Opening again -/

/-- A log that was just opened: its file is up to date, its ring holds whole lines within its
capacity, and its boot count can be written and read. -/
structure Sound (path : String) (state : Journal × Folder) : Prop where
  stored : Stored path state.1.fileBytes state
  kept : ∃ text, EndsLine text ∧ Kept state.1.ring.capacity text state.1.ring.bytes
  counted : state.1.boot ≤ largestBoot

theorem boot_recover_le (path : String) (capacity : Nat) (left : Option Bytes) :
    (recover path capacity left).boot ≤ largestBoot := by
  unfold recover
  dsimp only
  split
  · exact Nat.min_le_right _ _
  · exact Nat.le_of_ble_eq_true rfl

theorem sound_of_openAt {path : String} {capacity now : Nat} {folder folder' : Folder}
    {journal : Journal} (opened : openAt path capacity now folder = .ok (journal, folder'))
    (interval : Nat) : Sound path ({ journal with interval }, folder') where
  stored := stored_of_openAt opened interval
  kept := by
    obtain ⟨capacity_eq, kept⟩ := (Begun.opened interval opened).kept
    exact ⟨_, endsLine_textOf _, capacity_eq.symm ▸ kept⟩
  counted := by
    obtain ⟨-, boot_eq, -⟩ := eq_of_persist (openAt_eq opened)
    exact boot_eq.trans_le (boot_recover_le _ _ _)

/-- One restart: it succeeds, and the line that marks it is all that comes to the ring. -/
theorem Sound.reopen {path : String} {state : Journal × Folder} (sound : Sound path state)
    {life : Life} (writable : life.IsWritable)
    (readable : Readable (life.leave state.1.ring).bytes) :
    ∃ next, Life.reopen path state life = .ok next ∧ Sound path next ∧
      memory next.1 = (memory state.1).pass life := by
  obtain ⟨closed, closed_eq⟩ : ∃ closed, life.close state = closed := ⟨_, rfl⟩
  obtain ⟨ring_eq, boot_eq, isReadOnly_eq⟩ := life.close_frame state
  have stored := Life.stored_close sound.stored writable
  rw [closed_eq] at ring_eq boot_eq isReadOnly_eq stored
  rw [← ring_eq] at readable
  have upheld : ∃ text, Upheld closed.1.ring.capacity text closed.1.ring.bytes := by
    obtain ⟨text, ends, kept⟩ := sound.kept
    obtain ⟨capacity_eq, ends', kept'⟩ := kept_run ends kept life.turns
    rw [ring_eq, Life.leave, ← ring_run, capacity_eq]
    exact ⟨_, kept'.upheld ends'⟩
  obtain ⟨text, upheld⟩ := upheld
  obtain ⟨ring_eq', boot_eq'⟩ := recover_of_readable path
    (boot_eq.trans_le sound.counted) readable upheld.ends upheld.fits
  -- the file is there and can be written, so it is opened
  have opened : openAt path closed.1.ring.capacity life.opening closed.2 =
      (recover path closed.1.ring.capacity (some closed.1.fileBytes)).persist life.opening
        closed.2 := by
    rw [openAt, stored.read_eq]
  rw [persist_eq (path_recover ..), Folder.write_of_read stored.read_eq, isReadOnly_eq,
    if_neg Bool.false_ne_true] at opened
  refine ⟨_, ?_, sound_of_openAt opened life.interval, ?_⟩
  · rw [Life.reopen, closed_eq]
    dsimp only
    rw [opened]
    rfl
  · show Memory.mk (recover path closed.1.ring.capacity (some closed.1.fileBytes)).ring
      (recover path closed.1.ring.capacity (some closed.1.fileBytes)).boot = _
    rw [fileBytes, ring_eq', boot_eq', ring_eq, boot_eq]
    rfl

theorem Sound.restarts {path : String} {state : Journal × Folder} (sound : Sound path state)
    {lives : List Life} (writable : ∀ life ∈ lives, life.IsWritable)
    (readable : (memory state.1).IsReadable lives) :
    ∃ last, restarts path state lives = .ok last ∧
      memory last.1 = lives.foldl Memory.pass (memory state.1) := by
  induction lives generalizing state with
  | nil => exact ⟨state, rfl, rfl⟩
  | cons life lives ih =>
      obtain ⟨next, reopened, sound', memory_eq⟩ :=
        sound.reopen (writable life List.mem_cons_self) readable.1
      obtain ⟨last, restarted, last_eq⟩ := ih sound'
        (fun other member => writable other (List.mem_cons_of_mem _ member))
        (memory_eq ▸ readable.2)
      refine ⟨last, ?_, ?_⟩
      · rw [Journal.restarts, List.foldlM_cons, reopened]
        exact restarted
      · rw [last_eq, memory_eq, List.foldl_cons]

/-- A log in a file survives any number of restarts, if all writes got through and what its ring
held at the end of every life can be read back: it is opened again, each restart counts one boot
more as far as the count goes, and appends the line that says so to the ring as it was. -/
theorem memory_restarts {path : String} {capacity now : Nat} {folder folder' : Folder}
    {journal : Journal} (opened : openAt path capacity now folder = .ok (journal, folder'))
    (interval : Nat) {lives : List Life} (writable : ∀ life ∈ lives, life.IsWritable)
    (readable : (memory journal).IsReadable lives) :
    ∃ last folder'', restarts path ({ journal with interval }, folder') lives =
        .ok (last, folder'') ∧
      memory last = lives.foldl Memory.pass (memory journal) := by
  obtain ⟨last, restarted, memory_eq⟩ :=
    (sound_of_openAt opened interval).restarts writable readable
  exact ⟨last.1, last.2, restarted, memory_eq⟩

/-- The log that was left behind, opened with room for all of it. -/
def roomy : Journal × Folder :=
  ({ ring := ⟨64, Text.toBytes "old\nolder\n--- reboot, boot 5 ---\n"⟩
     boot := 5, path := some "log", written := some 0 },
    { entries := [("log", .file (Text.toBytes
        "usbip-bridge-log boot=5\nold\nolder\n--- reboot, boot 5 ---\n"))] })

/-- A life that leaves two lines, and one that leaves nothing. -/
def twoLives : List Life :=
  [{ turns := [⟨.append (Text.toBytes "grüße"), 1, false⟩, ⟨.append [], 2, false⟩]
     closing := 3, opening := 4, interval := 1000 },
    { turns := [⟨.append (Text.toBytes "gone"), 5, false⟩, ⟨.clear, 6, false⟩]
      closing := 7, opening := 8, interval := 0 }]

/-- The first restart evicts the oldest line; of the second life only the line of its end is
left. -/
theorem memory_restarts_of_two_lives :
    openAt "log" 64 0 leftBehind = .ok roomy ∧
      ((memory roomy.1).pass twoLives[0]).ring.bytes =
        Text.toBytes "older\n--- reboot, boot 5 ---\ngrüße\n\n--- reboot, boot 6 ---\n" ∧
      ∃ last folder, restarts "log" roomy twoLives = .ok (last, folder) ∧ last.boot = 7 ∧
        last.ring.bytes = Text.toBytes "--- reboot, boot 7 ---\n" := by
  have opened : openAt "log" 64 0 leftBehind = .ok roomy := by decide +kernel
  have writable : ∀ life ∈ twoLives, life.IsWritable := by
    intro life member turn taken
    simp only [twoLives, List.mem_cons, List.not_mem_nil, or_false] at member
    rcases member with rfl | rfl <;>
      simp only [List.mem_cons, List.not_mem_nil, or_false] at taken <;>
        rcases taken with rfl | rfl <;> rfl
  have readable : (memory roomy.1).IsReadable twoLives :=
    ⟨⟨⟨"old\nolder\n--- reboot, boot 5 ---\ngrüße\n\n", by decide +kernel⟩, by decide +kernel⟩,
      ⟨⟨"", by decide +kernel⟩, by decide +kernel⟩, trivial⟩
  obtain ⟨last, folder, restarted, memory_eq⟩ := memory_restarts opened 1000 writable readable
  have whole : twoLives.foldl Memory.pass (memory roomy.1) =
      ⟨⟨64, Text.toBytes "--- reboot, boot 7 ---\n"⟩, 7⟩ := by decide +kernel
  have memory_eq := memory_eq.trans whole
  exact ⟨opened, by decide +kernel, last, folder, restarted, congrArg Memory.boot memory_eq,
    congrArg (fun memory => memory.ring.bytes) memory_eq⟩

end Journal

end UsbExport.Log

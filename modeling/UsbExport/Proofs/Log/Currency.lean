import UsbExport.Proofs.Log.Upkeep

/-!
What a log's file holds. Whatever failed before, a flush that can write makes the file say what the
ring holds, for as long as a line that is not written yet is known to be outstanding. Main
statement: the one thing that a flush does not make up for is a clearing that could not be written
while nothing was outstanding. It leaves no trace, and the file goes on holding what was cleared.
-/

namespace UsbExport

/-! ### Bytes and texts -/

namespace Text

theorem Decoding.run_inside_ne_nil (value more : Nat) (low high : UInt8) (bytes : Bytes) :
    (inside value more low high).run bytes ≠ [] := by
  induction bytes generalizing value more low high with
  | nil => exact List.cons_ne_nil _ _
  | cons byte rest ih =>
      simp only [run, next]
      by_cases fits : low ≤ byte ∧ byte ≤ high
      · rw [if_pos fits]
        cases more with
        | zero => exact List.cons_ne_nil _ _
        | succ more => exact ih _ _ _ _
      · rw [if_neg fits]
        exact List.cons_ne_nil _ _

/-- A step that shows a character, or waits for the rest of one. -/
def Decoding.Yields (step : Decoding × List Char) : Prop :=
  step.2 ≠ [] ∨ ∃ value more low high, step.1 = inside value more low high

theorem Decoding.yields_ite {cond : Prop} [Decidable cond] {yes no : Decoding × List Char}
    (yields : Yields yes) (yields' : Yields no) : Yields (if cond then yes else no) := by
  split
  · exact yields
  · exact yields'

theorem Decoding.yields_begin (byte : UInt8) : Yields (begin byte) := by
  unfold begin
  repeat' apply yields_ite
  all_goals first
    | exact .inl (List.cons_ne_nil _ _)
    | exact .inr ⟨_, _, _, _, rfl⟩

/-- Bytes never decode to nothing. -/
theorem ofBytes_ne_empty {bytes : Bytes} (some : bytes ≠ []) : ofBytes bytes ≠ "" := by
  obtain ⟨byte, rest, rfl⟩ := List.exists_cons_of_ne_nil some
  suffices Decoding.boundary.run (byte :: rest) ≠ [] by
    intro empty
    exact this (by simpa [ofBytes] using congrArg String.toList empty)
  rw [Decoding.run, Decoding.next]
  rcases Decoding.yields_begin byte with shown | ⟨value, more, low, high, inside⟩
  · simp [shown]
  · simp [inside, Decoding.run_inside_ne_nil]

theorem length_toList_loop (bytes : ByteArray) (index : Nat) (seen : List UInt8) :
    (ByteArray.toList.loop bytes index seen).length = seen.length + (bytes.size - index) := by
  fun_induction ByteArray.toList.loop bytes index seen with
  | case1 index seen inside ih =>
      rw [ih, List.length_cons]
      omega
  | case2 index seen outside =>
      rw [List.length_reverse]
      omega

theorem length_toBytes (text : String) : (toBytes text).length = text.utf8ByteSize := by
  rw [toBytes, ByteArray.toList, length_toList_loop]
  simp

theorem toBytes_ne_nil {text : String} (some : text ≠ "") : toBytes text ≠ [] := by
  intro empty
  have size := length_toBytes text
  rw [empty] at size
  exact some (String.utf8ByteSize_eq_zero_iff.1 size.symm)

end Text

namespace Log

/-! ### The folder -/

namespace Folder

theorem length_of_mem_passing {passed rest : List Char} {ancestor : String}
    (member : ancestor ∈ ancestors.passing passed rest) :
    ancestor.toList.length < passed.length + rest.length := by
  induction rest generalizing passed with
  | nil => exact nomatch member
  | cons c rest ih =>
      have further (inside : ancestor ∈ ancestors.passing (passed ++ [c]) rest) :
          ancestor.toList.length < passed.length + (c :: rest).length := by
        have := ih inside
        simp only [List.length_append, List.length_cons, List.length_nil] at this ⊢
        omega
      simp only [ancestors.passing] at member
      split at member
      · rcases List.mem_cons.1 member with rfl | inside
        · simp
        · exact further inside
      · exact further member

/-- No path leads through itself. -/
theorem not_mem_ancestors (path : String) : path ∉ ancestors path := by
  intro member
  have := length_of_mem_passing member
  simp at this

theorem entry_set_self (folder : Folder) (path : String) (entry : Entry) :
    Folder.entry? (folder.set path entry) path = some entry := by
  simp [set, entry?]

theorem entry_set_of_ne (folder : Folder) {path other : String} (entry : Entry)
    (differ : other ≠ path) :
    Folder.entry? (folder.set path entry) other = folder.entry? other := by
  unfold entry? set
  rw [List.lookup_cons, beq_false_of_ne differ]
  dsimp only
  induction folder.entries with
  | nil => rfl
  | cons item items ih =>
      by_cases same : item.1 = path
      · have filtered : (item.1 != path) = false := by simp [same]
        rw [List.filter_cons_of_neg (by simp [filtered]), ih, List.lookup_cons,
          beq_false_of_ne (same ▸ differ)]
      · rw [List.filter_cons_of_pos (by simpa using same), List.lookup_cons, List.lookup_cons, ih]

theorem checkAncestors_set (folder : Folder) (path : String) (entry : Entry) :
    (folder.set path entry).checkAncestors path = folder.checkAncestors path := by
  unfold checkAncestors
  have others : ∀ ancestor ∈ ancestors path,
      Folder.entry? (folder.set path entry) ancestor = folder.entry? ancestor :=
    fun ancestor member => folder.entry_set_of_ne entry
      (ne_of_mem_of_not_mem member (not_mem_ancestors path))
  generalize ancestors path = passed at others
  induction passed with
  | nil => rfl
  | cons ancestor rest ih =>
      simp only [List.forM]
      rw [others ancestor List.mem_cons_self,
        ih fun other member => others other (List.mem_cons_of_mem _ member)]

/-- What was written is read again. -/
theorem read_of_write {folder folder' : Folder} {path : String} {bytes : Bytes}
    (written : folder.write path bytes = .ok folder') : folder'.read path = .ok bytes := by
  unfold write at written
  cases passed : folder.checkAncestors path with
  | error fault =>
      rw [passed] at written
      exact nomatch written
  | ok nothing =>
      rw [passed] at written
      have set_eq : folder.set path (.file bytes) = folder' := by
        dsimp only [bind, Except.bind] at written
        split at written
        · exact nomatch written
        · split at written
          · exact nomatch written
          · exact Except.ok.inj written
      unfold read
      rw [← set_eq, checkAncestors_set, passed, entry_set_self]
      rfl

/-- A file that is there is written unless the folder refuses. -/
theorem write_of_read {folder : Folder} {path : String} {old : Bytes}
    (there : folder.read path = .ok old) (bytes : Bytes) :
    folder.write path bytes =
      if folder.isReadOnly then .error .readOnly else .ok (folder.set path (.file bytes)) := by
  unfold read at there
  unfold write
  cases passed : folder.checkAncestors path with
  | error fault =>
      rw [passed] at there
      exact nomatch there
  | ok nothing =>
      rw [passed] at there
      dsimp only [bind, Except.bind] at there ⊢
      split at there
      · next found =>
        rw [found]
        dsimp only
        split <;> rfl
      · exact nomatch there
      · exact nomatch there

end Folder

/-! ### One turn -/

namespace Journal

/-- A log that is kept at a path, where the file holds the given bytes. -/
structure Stored (path : String) (bytes : Bytes) (state : Journal × Folder) : Prop where
  path_eq : state.1.path = some path
  read_eq : state.2.read path = .ok bytes

/-- Whether lines are outstanding after an act that wrote nothing. -/
def Act.onDirty (act : Act) (dirty : Bool) : Bool :=
  match act with
  | append _ => true
  | flush => dirty
  | clear => dirty

/-- Whether an act leaves a file alone that it could write. -/
def Act.MayWait (act : Act) (dirty : Bool) : Prop :=
  match act with
  | append _ => True
  | flush => dirty = false
  | clear => False

section

variable {path : String} {old : Bytes}

theorem persist_eq {journal : Journal} (path_eq : journal.path = some path) (now : Nat)
    (folder : Folder) :
    journal.persist now folder = (folder.write path journal.fileBytes).map fun folder =>
      ({ journal with dirty := false, written := some now }, folder) := by
  unfold persist
  split
  · next none_eq => exact nomatch none_eq.symm.trans path_eq
  · next other some_eq =>
    obtain rfl : other = path := Option.some.inj (some_eq.symm.trans path_eq)
    cases folder.write other journal.fileBytes <;> rfl

/-- The file is written as the journal is if the folder lets it, and else all stays as it was. -/
theorem tryPersist_cases {state : Journal × Folder} (stored : Stored path old state) (now : Nat) :
    let state' := state.1.tryPersist now state.2
    (state.2.isReadOnly = false ∧ state'.1.dirty = false ∧ Stored path state'.1.fileBytes state') ∨
      (state.2.isReadOnly = true ∧ state' = state) := by
  have write_eq := Folder.write_of_read stored.read_eq state.1.fileBytes
  have persist_eq := persist_eq stored.path_eq now state.2
  cases readOnly : state.2.isReadOnly with
  | true =>
      rw [readOnly, if_pos rfl] at write_eq
      rw [write_eq] at persist_eq
      exact .inr ⟨rfl, by rw [tryPersist, persist_eq]; rfl⟩
  | false =>
      rw [readOnly, if_neg Bool.false_ne_true] at write_eq
      have read_eq := Folder.read_of_write write_eq
      rw [write_eq] at persist_eq
      rw [tryPersist, persist_eq]
      exact .inl ⟨rfl, rfl, stored.path_eq, read_eq⟩

/-- A turn writes the file as the journal now is, or it leaves the file: then the folder refused, or
the act may wait. -/
theorem take_cases {state : Journal × Folder} (stored : Stored path old state) (turn : Turn) :
    let state' := turn.take state
    (turn.isReadOnly = false ∧ state'.1.dirty = false ∧ Stored path state'.1.fileBytes state') ∨
      (Stored path old state' ∧ state'.1.dirty = turn.act.onDirty state.1.dirty ∧
        (turn.isReadOnly = true ∨ turn.act.MayWait state.1.dirty)) := by
  obtain ⟨journal, folder⟩ := state
  obtain ⟨act, now, isReadOnly⟩ := turn
  have stays (changed : Journal) (path_eq : changed.path = some path) :
      Stored path old (changed, { folder with isReadOnly }) := ⟨path_eq, stored.read_eq⟩
  -- an act that tries to write what the journal has become
  have tries (changed : Journal) (path_eq : changed.path = some path) :
      let state' := changed.tryPersist now { folder with isReadOnly }
      (isReadOnly = false ∧ state'.1.dirty = false ∧ Stored path state'.1.fileBytes state') ∨
        (Stored path old state' ∧ state'.1.dirty = changed.dirty ∧ isReadOnly = true) := by
    rcases tryPersist_cases (stays changed path_eq) now with wrote | ⟨refused, same⟩
    · exact .inl wrote
    · refine .inr ⟨?_, ?_, refused⟩
      · rw [same]
        exact stays changed path_eq
      · rw [same]
  have named : journal.path.isNone = false := by rw [show journal.path = _ from stored.path_eq]; rfl
  cases act with
  | append line =>
      simp only [Turn.take, Act.perform, append, named, Bool.false_eq_true, if_false]
      split
      · rcases tries { journal with ring := journal.ring.append line, dirty := true }
          stored.path_eq with wrote | ⟨kept, dirty, refused⟩
        · exact .inl wrote
        · exact .inr ⟨kept, dirty, .inl refused⟩
      · exact .inr ⟨stays _ stored.path_eq, rfl, .inr trivial⟩
  | flush =>
      simp only [Turn.take, Act.perform, flush]
      split
      · rcases tries journal stored.path_eq with wrote | ⟨kept, dirty, refused⟩
        · exact .inl wrote
        · exact .inr ⟨kept, dirty, .inl refused⟩
      · next clean => exact .inr ⟨stays _ stored.path_eq, rfl, .inr (eq_false_of_ne_true clean)⟩
  | clear =>
      rcases tries { journal with ring := journal.ring.clear } stored.path_eq with
        wrote | ⟨kept, dirty, refused⟩
      · exact .inl wrote
      · exact .inr ⟨kept, dirty, .inl refused⟩

end

/-- A file with the same boot count and the same text is the same file. -/
theorem fileBytes_eq {journal journal' : Journal} (boot_eq : journal'.boot = journal.boot)
    (bytes_eq : journal'.ring.bytes = journal.ring.bytes) :
    journal'.fileBytes = journal.fileBytes := by
  rw [fileBytes, fileBytes, boot_eq, Ring.text, Ring.text, bytes_eq]

/-! ### Any number of turns -/

theorem run_concat (start : Journal × Folder) (turns : List Turn) (turn : Turn) :
    run start (turns ++ [turn]) = turn.take (run start turns) := by
  simp [run]

theorem run_append (start : Journal × Folder) (turns more : List Turn) :
    run start (turns ++ more) = run (run start turns) more := by
  simp [run]

theorem boot_run (start : Journal × Folder) (turns : List Turn) :
    (run start turns).1.boot = start.1.boot := by
  induction turns generalizing start with
  | nil => rfl
  | cons turn turns ih => exact (ih _).trans (take_frame turn start).2

/-- A turn that writes nothing while nothing is outstanding, and adds no line. -/
def Turn.IsIdle (turn : Turn) : Prop :=
  turn.act = .flush ∨ (turn.act = .clear ∧ turn.isReadOnly = true)

/-- A clearing of a log that holds something and has nothing outstanding, when the file cannot be
written. -/
structure ClearsInVain (state : Journal × Folder) (turn : Turn) : Prop where
  act_eq : turn.act = .clear
  refused : turn.isReadOnly = true
  written : state.1.dirty = false
  held : state.1.ring.bytes ≠ []

/-- A run after whose last line and last write there was such a clearing. -/
def LosesClearing (start : Journal × Folder) (turns : List Turn) : Prop :=
  ∃ before turn after, turns = before ++ turn :: after ∧ ClearsInVain (run start before) turn ∧
    ∀ later ∈ after, later.IsIdle

theorem LosesClearing.concat {start : Journal × Folder} {turns : List Turn} {turn : Turn}
    (loses : LosesClearing start turns) (idle : turn.IsIdle) :
    LosesClearing start (turns ++ [turn]) := by
  obtain ⟨before, clearing, after, rfl, in_vain, idles⟩ := loses
  refine ⟨before, clearing, after ++ [turn], by simp, in_vain, fun later member => ?_⟩
  rcases List.mem_append.1 member with earlier | last
  · exact idles later earlier
  · rwa [List.mem_singleton.1 last]

section

variable {path : String} {old : Bytes}

/-- Nothing changes on the record as long as nothing is outstanding and no line comes. -/
theorem take_idle {state : Journal × Folder} {turn : Turn} (stored : Stored path old state)
    (clean : state.1.dirty = false) (idle : turn.IsIdle) :
    Stored path old (turn.take state) ∧ (turn.take state).1.dirty = false ∧
      ((turn.take state).1.ring.bytes = state.1.ring.bytes ∨
        (turn.take state).1.ring.bytes = []) := by
  have ring_eq := congrArg Ring.bytes (take_frame turn state).1
  rcases idle with flushes | ⟨clears, refused⟩
  · have take_eq : turn.take state =
        (state.1, { state.2 with isReadOnly := turn.isReadOnly }) := by
      rw [Turn.take, flushes, Act.perform, flush, clean]
      rfl
    rw [take_eq]
    exact ⟨⟨stored.path_eq, stored.read_eq⟩, clean, .inl rfl⟩
  · rcases take_cases stored turn with ⟨writable, -⟩ | ⟨kept, dirty, -⟩
    · exact absurd (writable.symm.trans refused) Bool.false_ne_true
    · rw [clears] at dirty ring_eq
      exact ⟨kept, dirty.trans clean, .inr ring_eq⟩

theorem run_idle {state : Journal × Folder} {turns : List Turn} (stored : Stored path old state)
    (clean : state.1.dirty = false) (empty : state.1.ring.bytes = [])
    (idle : ∀ turn ∈ turns, turn.IsIdle) :
    Stored path old (run state turns) ∧ (run state turns).1.dirty = false ∧
      (run state turns).1.ring.bytes = [] := by
  induction turns generalizing state with
  | nil => exact ⟨stored, clean, empty⟩
  | cons turn turns ih =>
      obtain ⟨kept, still_clean, same | cleared⟩ := take_idle stored clean
        (idle turn List.mem_cons_self)
      · exact ih kept still_clean (same.trans empty) fun later member =>
          idle later (List.mem_cons_of_mem _ member)
      · exact ih kept still_clean cleared fun later member =>
          idle later (List.mem_cons_of_mem _ member)

/-- What a clearing in vain leaves behind: an empty ring, nothing outstanding, and the file of
before. -/
theorem ClearsInVain.run_idle {state : Journal × Folder} {turn : Turn} {turns : List Turn}
    (in_vain : ClearsInVain state turn) (stored : Stored path old state)
    (idle : ∀ later ∈ turns, later.IsIdle) :
    Stored path old (run state (turn :: turns)) ∧ (run state (turn :: turns)).1.dirty = false ∧
      (run state (turn :: turns)).1.ring.bytes = [] := by
  obtain ⟨kept, clean, -⟩ := take_idle stored in_vain.written
    (.inr ⟨in_vain.act_eq, in_vain.refused⟩)
  have empty : (turn.take state).1.ring.bytes = [] := by
    rw [(take_frame turn state).1, in_vain.act_eq]
    rfl
  have rest := Journal.run_idle kept clean empty idle
  exact rest

/-- At any time a line is outstanding, or the file says what the ring holds, or a clearing was
lost. -/
theorem standing {start : Journal × Folder} (stored : Stored path start.1.fileBytes start)
    (turns : List Turn) :
    (∃ old, Stored path old (run start turns)) ∧
      ((run start turns).1.dirty = true ∨
        Stored path (run start turns).1.fileBytes (run start turns) ∨
        LosesClearing start turns) := by
  induction turns using List.reverseRecOn with
  | nil => exact ⟨⟨_, stored⟩, .inr (.inl stored)⟩
  | append_singleton turns turn ih =>
      obtain ⟨⟨old, kept⟩, standing⟩ := ih
      rw [run_concat]
      rcases take_cases kept turn with ⟨-, -, current⟩ | ⟨still_kept, dirty, left⟩
      · exact ⟨⟨_, current⟩, .inr (.inl current)⟩
      refine ⟨⟨old, still_kept⟩, ?_⟩
      have ring_eq := congrArg Ring.bytes (take_frame turn (run start turns)).1
      -- the file of a run that was current stays current as long as the ring is the same
      have stays (same : (turn.take (run start turns)).1.ring.bytes =
          (run start turns).1.ring.bytes)
          (current : Stored path (run start turns).1.fileBytes (run start turns)) :
          Stored path (turn.take (run start turns)).1.fileBytes (turn.take (run start turns)) := by
        rw [fileBytes_eq (take_frame turn (run start turns)).2 same,
          show (run start turns).1.fileBytes = old from
            Except.ok.inj (current.read_eq.symm.trans kept.read_eq)]
        exact still_kept
      cases act : turn.act with
      | append line =>
          rw [act] at dirty
          exact .inl dirty
      | flush =>
          rw [act] at dirty ring_eq
          rcases standing with outstanding | current | loses
          · exact .inl (dirty.trans outstanding)
          · exact .inr (.inl (stays ring_eq current))
          · exact .inr (.inr (loses.concat (.inl act)))
      | clear =>
          rw [act] at dirty ring_eq left
          have refused : turn.isReadOnly = true := left.resolve_right id
          rcases standing with outstanding | current | loses
          · exact .inl (dirty.trans outstanding)
          · by_cases outstanding : (run start turns).1.dirty = true
            · exact .inl (dirty.trans outstanding)
            · by_cases empty : (run start turns).1.ring.bytes = []
              · exact .inr (.inl (stays (ring_eq.trans empty.symm) current))
              · refine .inr (.inr ⟨turns, turn, [], rfl, ⟨act, refused, ?_, empty⟩, ?_⟩)
                · exact eq_false_of_ne_true outstanding
                · exact fun later member => nomatch member
          · exact .inr (.inr (loses.concat (.inr ⟨act, refused⟩)))

/-- A clearing in vain finds the file as the journal was. -/
theorem stored_of_clearsInVain {start : Journal × Folder}
    (stored : Stored path start.1.fileBytes start) {turns : List Turn} {turn : Turn}
    (in_vain : ClearsInVain (run start turns) turn) :
    Stored path (run start turns).1.fileBytes (run start turns) := by
  rcases (standing stored turns).2 with outstanding | current | loses
  · exact absurd (in_vain.written.symm.trans outstanding) Bool.false_ne_true
  · exact current
  · -- after a clearing that was lost the ring is empty
    obtain ⟨before, clearing, after, rfl, earlier, idle⟩ := loses
    obtain ⟨⟨old, kept⟩, -⟩ := standing stored before
    rw [run_append] at in_vain ⊢
    exact absurd (earlier.run_idle kept idle).2.2 in_vain.held

end

theorem path_recover (path : String) (capacity : Nat) (left : Option Bytes) :
    (recover path capacity left).path = some path := by
  unfold recover
  dsimp only
  split <;> rfl

/-- Opening a log writes its file. -/
theorem stored_of_openAt {path : String} {capacity now : Nat} {folder folder' : Folder}
    {journal : Journal} (opened : openAt path capacity now folder = .ok (journal, folder'))
    (interval : Nat) :
    Stored path journal.fileBytes ({ journal with interval }, folder') := by
  have path_eq := path_recover path capacity (folder.file? path)
  have written := openAt_eq opened
  rw [persist_eq path_eq] at written
  cases result : folder.write path (recover path capacity (folder.file? path)).fileBytes with
  | error fault =>
      rw [result] at written
      exact nomatch written
  | ok changed =>
      rw [result] at written
      obtain ⟨rfl, rfl⟩ := Prod.mk.inj (Except.ok.inj written)
      exact ⟨path_eq, Folder.read_of_write result⟩

/-- The bytes of a file tell an empty ring from one that holds something. -/
theorem fileBytes_ne {boot : Nat} {ring : Ring} (held : ring.bytes ≠ []) :
    header boot ++ Text.toBytes ring.text ≠ header boot ++ Text.toBytes (Text.ofBytes []) := by
  intro same
  have text_eq := List.append_cancel_left same
  exact Text.toBytes_ne_nil (Text.ofBytes_ne_empty held) (text_eq.trans (by decide +kernel))

/-- However the writes of a log went, a flush that can write makes its file the header and the text
of the ring, unless a clearing was lost; then the file still holds the text from before it. -/
theorem current_iff_not_losesClearing {path : String} {capacity now : Nat}
    {folder folder' : Folder} {journal : Journal}
    (opened : openAt path capacity now folder = .ok (journal, folder')) (interval later : Nat)
    (turns : List Turn) :
    let start : Journal × Folder := ({ journal with interval }, folder')
    let closed := (⟨.flush, later, false⟩ : Turn).take (run start turns)
    closed.1.boot = journal.boot ∧ closed.1.ring = (run start turns).1.ring ∧
      (closed.2.read path = .ok (header journal.boot ++ Text.toBytes closed.1.ring.text) ↔
        ¬LosesClearing start turns) ∧
      ∀ before turn after, turns = before ++ turn :: after →
        ClearsInVain (run start before) turn → (∀ idle ∈ after, idle.IsIdle) →
        closed.2.read path =
          .ok (header journal.boot ++ Text.toBytes (run start before).1.ring.text) := by
  intro start closed
  have stored : Stored path start.1.fileBytes start := stored_of_openAt opened interval
  have boot_eq (reached : List Turn) : (run start reached).1.boot = journal.boot :=
    boot_run start reached
  have closed_boot : closed.1.boot = journal.boot := (take_frame _ _).2.trans (boot_eq turns)
  have lost (before : List Turn) (turn : Turn) (after : List Turn)
      (turns_eq : turns = before ++ turn :: after) (in_vain : ClearsInVain (run start before) turn)
      (idle : ∀ idle ∈ after, idle.IsIdle) :
      closed.2.read path =
        .ok (header journal.boot ++ Text.toBytes (run start before).1.ring.text) := by
    have kept := in_vain.run_idle (stored_of_clearsInVain stored in_vain) idle
    rw [← run_append, ← turns_eq] at kept
    rw [← boot_eq before]
    exact (take_idle kept.1 kept.2.1 (.inl rfl)).1.read_eq
  refine ⟨closed_boot, (take_frame _ _).1, ⟨?_, ?_⟩, lost⟩
  · rintro current ⟨before, turn, after, turns_eq, in_vain, idle⟩
    have empty : closed.1.ring.bytes = [] := by
      have kept := in_vain.run_idle (stored_of_clearsInVain stored in_vain) idle
      rw [← run_append, ← turns_eq] at kept
      exact (congrArg Ring.bytes (take_frame _ _).1).trans kept.2.2
    have text_eq : closed.1.ring.text = Text.ofBytes [] := by rw [Ring.text, empty]
    rw [lost before turn after turns_eq in_vain idle, text_eq] at current
    exact fileBytes_ne in_vain.held (Except.ok.inj current)
  · intro kept_all
    obtain ⟨⟨old, kept⟩, standing⟩ := standing stored turns
    have current : Stored path closed.1.fileBytes closed := by
      rcases take_cases kept ⟨.flush, later, false⟩ with ⟨-, -, wrote⟩ | ⟨-, -, left⟩
      · exact wrote
      · have clean : (run start turns).1.dirty = false := left.resolve_left Bool.false_ne_true
        rcases standing with outstanding | current | loses
        · exact absurd (clean.symm.trans outstanding) Bool.false_ne_true
        · rw [fileBytes_eq (take_frame _ _).2 (congrArg Ring.bytes (take_frame _ _).1)]
          exact (take_idle current clean (.inl rfl)).1
        · exact absurd loses kept_all
    rw [← closed_boot]
    exact current.read_eq

/-- A log that is cleared while its file cannot be written: flushed, it still shows its first
line. -/
theorem current_iff_not_losesClearing_reopened :
    openAt "log" 12 0 leftBehind = .ok reopened ∧
      LosesClearing reopened [⟨.clear, 1, true⟩] ∧
      (Turn.take ⟨.flush, 2, false⟩ (run reopened [⟨.clear, 1, true⟩])).2.read "log" =
        .ok (header 5 ++ Text.toBytes " boot 5 ---\n") ∧
      (run reopened [⟨.clear, 1, true⟩]).1.ring.bytes = [] := by
  have opened : openAt "log" 12 0 leftBehind = .ok reopened := by decide +kernel
  have in_vain : ClearsInVain (run reopened []) ⟨.clear, 1, true⟩ :=
    ⟨rfl, rfl, rfl, by decide +kernel⟩
  obtain ⟨-, -, -, lost⟩ := current_iff_not_losesClearing opened 1000 2 [⟨.clear, 1, true⟩]
  have shown := lost [] _ [] rfl in_vain fun idle member => nomatch member
  exact ⟨opened, ⟨[], _, [], rfl, in_vain, fun idle member => nomatch member⟩,
    shown.trans (by decide +kernel), rfl⟩

end Journal

end Log

end UsbExport

import UsbExport.Proofs.Host.Custody

/-!
How the interfaces of the device change hands. Imports are handled one after the other, sessions
clean up at any time, jobs run at any later time. Main statement: claims and releases of an
interface alternate, nothing is claimed before all is given back, and what an import has claimed is
given back once, however often it is released.
-/

namespace UsbExport.Host

open Dispatch Socket

variable {Handle : Type}

/-! ### Runs -/

/-- What is marked down about the interfaces. -/
inductive Mark
  | made (call : Call)
  /-- An import holds all interfaces and has noted it. -/
  | recorded
  /-- Whatever is held is to be released. -/
  | released
deriving DecidableEq, Repr

def Mark.call? : Mark → Option Call
  | .made call => some call
  | .recorded | .released => none

def called (marks : List Mark) : List Call := marks.filterMap Mark.call?

@[simp] theorem called_append (marks more : List Mark) :
    called (marks ++ more) = called marks ++ called more := List.filterMap_append

@[simp] theorem called_calls (calls : List Call) : called (calls.map .made) = calls := by
  simp [called, List.filterMap_map, Function.comp_def, Mark.call?]

def ImportStage.mark? : ImportStage → Option Mark
  | .recording => some .recorded
  | .unclaiming => some .released
  | _ => none

/-- What the move of a party says about the import in hand. -/
def mark? (party : Party) (system : System (Host Handle)) : Option Mark :=
  match party, system.executor.loop with
  | .loop _, .importing _ stage => stage.mark?
  | _, _ => none

/-- The calls that were made from one state to another. -/
def newCalls (host host' : Host (Recorded Handle)) : List Mark :=
  (host'.handle.calls.drop host.handle.calls.length).map .made

/-- The clean-up of a session: the device is marked free and at once released. -/
def cleanUp (system : System (Host Handle)) : System (Host Handle) :=
  { system with flags := system.flags.reset, executor := system.executor.release }

/-- Something happened that is of no concern to the interfaces. -/
structure Elsewhere (system next : System (Host Handle)) : Prop where
  executor_eq : ∃ urbs, next.executor = { system.executor with urbs }
  busy_eq : next.flags.busy = system.flags.busy

/-- A run of an executor, with what it marks down. Its own parties move in any order; a clean-up may
come at any time, and so may anything that happens elsewhere. -/
inductive Turnover [UsbHandle Handle] (start : System (Host (Recorded Handle))) :
    List Mark → System (Host (Recorded Handle)) → Prop
  | start : Turnover start [] start
  | moves {marks : List Mark} {system next : System (Host (Recorded Handle))} {party : Party}
      (before : Turnover start marks system) (apart : party ≠ .session)
      (moved : (company.move party system).next? = some next) :
      Turnover start
        (marks ++ ((mark? party system).toList ++ newCalls system.executor next.executor)) next
  | cleansUp {marks : List Mark} {system : System (Host (Recorded Handle))}
      (before : Turnover start marks system) :
      Turnover start (marks ++ [.released]) (cleanUp system)
  | elsewhere {marks : List Mark} {system next : System (Host (Recorded Handle))}
      (before : Turnover start marks system) (elsewhere : Elsewhere system next) :
      Turnover start marks next

/-- Nothing is claimed, and nothing is under way. -/
structure Untouched (host : Host (Recorded Handle)) : Prop where
  unclaimed : host.claimed = []
  jobless : host.jobs = []
  idle : host.loop = .idle
  uncalled : host.handle.calls = []

/-- Of the moves of a session, only two concern the interfaces. -/
theorem Elsewhere.of_session {system next : System (Host Handle)} {visit : Visit}
    {deed : Option Session.Deed} (move : system.SessionMove visit deed next)
    (unreset : deed ≠ some .reset) (unreleased : deed ≠ some .released) :
    Elsewhere system next := by
  cases move with
  | @stood errand wanted unset =>
      obtain ⟨links, frame, -⟩ := standInLine_frame system visit.link errand
      rw [frame]
      exact ⟨⟨_, rfl⟩, rfl⟩
  | reset => exact absurd rfl unreset
  | released => exact absurd rfl unreleased
  | _ => exact ⟨⟨_, rfl⟩, rfl⟩

/-! ### What one move does -/

/-- What a move does with the interfaces, and what it marks down. -/
inductive HoldMove (host host' : Host (Recorded Handle)) : List Mark → Prop
  | rests (interfaces_eq : host'.interfaces = host.interfaces)
      (claimed_eq : host'.claimed = host.claimed)
      (calls_eq : host'.handle.calls = host.handle.calls) (pool : PoolGrows host host') :
      HoldMove host host' []
  | records {order : ImportOrder} (loop_eq : host.loop = .importing order .recording)
      (interfaces_eq : host'.interfaces = host.interfaces)
      (claimed_eq : host'.claimed = host.interfaces)
      (calls_eq : host'.handle.calls = host.handle.calls) (pool : PoolGrows host host') :
      HoldMove host host' [.recorded]
  | releases (interfaces_eq : host'.interfaces = host.interfaces)
      (calls_eq : host'.handle.calls = host.handle.calls) (pool : PoolGrows host host')
      (passed : host.claimed = [] ∨ ⟨host.issued, .release host.claimed⟩ ∈ host'.jobs) :
      HoldMove host host' [.released]
  | runs {job : Job} {calls : List Call} (mem : job ∈ host.jobs)
      (jobs_eq : host'.jobs = (host.dropJob job.id).jobs) (issued_eq : host'.issued = host.issued)
      (interfaces_eq : host'.interfaces = host.interfaces)
      (claimed_eq : host'.claimed = host.claimed)
      (calls_eq : host'.handle.calls = host.handle.calls ++ calls)
      (released : ∀ numbers, job.task = .release numbers →
        calls = numbers.map fun number => ⟨.release, number, true⟩)
      (transferred : ∀ place, job.task = .transfer place → calls = [])
      (yielded : ∀ call ∈ calls, call.isRelease = true → call.succeeded = true) :
      HoldMove host host' (calls.map .made)

theorem PoolGrows.release (host : Host Handle) : PoolGrows host host.release := by
  unfold Host.release
  dsimp only
  split
  · exact Or.inl ⟨rfl, rfl⟩
  · exact Or.inr ⟨_, rfl, rfl⟩

/-- What is claimed is passed on to a job. -/
theorem release_passes (host : Host Handle) :
    host.claimed = [] ∨ ⟨host.issued, .release host.claimed⟩ ∈ host.release.jobs := by
  unfold Host.release
  dsimp only
  split
  · next empty => exact Or.inl (List.isEmpty_iff.1 empty)
  · exact Or.inr (List.mem_append_right _ (List.mem_singleton_self _))

theorem HoldMove.of_release (host : Host (Recorded Handle)) (loop : LoopStage) :
    HoldMove host { host.release with loop } [.released] := by
  have frame : host.release.interfaces = host.interfaces ∧ host.release.handle = host.handle := by
    unfold Host.release
    dsimp only
    split <;> exact ⟨rfl, rfl⟩
  exact .releases frame.1 (congrArg Recorded.calls frame.2) (.release host) (release_passes host)

theorem runClaim_hold [UsbHandle Handle] (host : Host Handle) (id : JobId) :
    (host.runClaim id).interfaces = host.interfaces ∧
      (host.runClaim id).claimed = host.claimed ∧
      (host.runClaim id).handle = (claimAll host.handle host.interfaces).1 := by
  unfold runClaim
  dsimp only
  split
  · split <;> exact ⟨rfl, rfl, rfl⟩
  · exact ⟨rfl, rfl, rfl⟩

theorem beginTransfer_hold [UsbHandle Handle] (host : Host (Recorded Handle)) (id : JobId)
    (place : WorkerId) :
    (host.beginTransfer id place).interfaces = host.interfaces ∧
      (host.beginTransfer id place).claimed = host.claimed ∧
      (host.beginTransfer id place).handle.calls = host.handle.calls ∧
      (host.beginTransfer id place).jobs = (host.dropJob id).jobs ∧
      (host.beginTransfer id place).issued = host.issued := by
  unfold Host.beginTransfer
  dsimp only
  split
  · split <;> exact ⟨rfl, rfl, rfl, rfl, rfl⟩
  · exact ⟨rfl, rfl, rfl, rfl, rfl⟩

section Moves

variable {system next : System (Host (Recorded Handle))}

theorem moveImport_holdMove {order : ImportOrder} {stage : ImportStage}
    (loop_eq : system.executor.loop = .importing order stage)
    (moved : (moveImport order stage system).next? = some next) :
    HoldMove system.executor next.executor stage.mark?.toList := by
  have unchanged : PoolGrows system.executor system.executor := Or.inl ⟨rfl, rfl⟩
  cases stage with
  | checking =>
      simp only [moveImport] at moved
      split at moved <;> cases moved <;> exact .rests rfl rfl rfl unchanged
  | awaitingRelease job | awaitingBack job =>
      simp only [moveImport] at moved
      split at moved <;> cases moved
      exact .rests rfl rfl rfl unchanged
  | startingClaim =>
      cases moved
      exact .rests rfl rfl rfl (Or.inr ⟨.claim, rfl, rfl⟩)
  | claiming job => cases moved
  | recording =>
      cases moved
      exact .records loop_eq rfl rfl rfl unchanged
  | replying accepted ticket =>
      cases ticket with
      | none =>
          simp only [moveImport, Move.next?, Option.some.injEq] at moved
          subst moved
          obtain ⟨links, frame, -⟩ := standInLine_frame system order.reply
            (.send (importReply system.executor order.version accepted).encode)
          rw [frame]
          exact .rests rfl rfl rfl unchanged
      | some ticket =>
          simp only [moveImport] at moved
          obtain ⟨socket, guard, -, ⟨-, -, rfl⟩ | ⟨result, -, -, -, -, -, rfl⟩⟩ :=
            System.pursue_cases moved <;> exact .rests rfl rfl rfl unchanged
  | unclaiming =>
      cases moved
      exact .of_release system.executor _
  | _ =>
      cases moved
      exact .rests rfl rfl rfl unchanged

theorem moveRequest_holdMove {preference : Preference}
    (moved : (moveRequest system).next? = some next) :
    HoldMove system.executor next.executor (mark? (.loop preference) system).toList := by
  have unchanged : PoolGrows system.executor system.executor := Or.inl ⟨rfl, rfl⟩
  unfold moveRequest at moved
  cases loop_eq : system.executor.loop with
  | idle | stopped => simp [loop_eq, Move.next?] at moved
  | importing order stage =>
      simp only [loop_eq] at moved
      have told : mark? (.loop preference) system = stage.mark? := by simp [mark?, loop_eq]
      rw [told]
      exact moveImport_holdMove loop_eq moved
  | listed slot =>
      simp only [loop_eq, Move.next?, Option.some.injEq] at moved
      subst moved
      have quiet : mark? (.loop preference) system = none := by simp [mark?, loop_eq]
      rw [quiet]
      exact .rests rfl rfl rfl unchanged
  | listing version link slot ticket =>
      have quiet : mark? (.loop preference) system = none := by simp [mark?, loop_eq]
      rw [quiet]
      cases ticket with
      | none =>
          simp only [loop_eq, Move.next?, Option.some.injEq] at moved
          subst moved
          obtain ⟨links, frame, -⟩ := standInLine_frame system link
            (.send (Reply.listOf version [system.executor.device]).encode)
          rw [frame]
          exact .rests rfl rfl rfl unchanged
      | some ticket =>
          simp only [loop_eq] at moved
          obtain ⟨socket, guard, -, ⟨-, -, rfl⟩ | ⟨result, -, -, -, -, -, rfl⟩⟩ :=
            System.pursue_cases moved <;> exact .rests rfl rfl rfl unchanged

theorem moveLoop_holdMove {preference : Preference}
    (moved : (moveLoop preference system).next? = some next) :
    HoldMove system.executor next.executor (mark? (.loop preference) system).toList := by
  have turn := moveLoop_cases moved
  generalize loopDeed? preference system = deed at turn
  cases turn with
  | @takesControl request control idle taken =>
      have quiet : mark? (.loop preference) system = none := by simp [mark?, idle]
      rw [quiet]
      obtain ⟨loop, frame, -⟩ := handleControl_eq { system with control } idle request
      rw [frame]
      exact .rests rfl rfl rfl (Or.inl ⟨rfl, rfl⟩)
  | @takesSubmit request data idle taken =>
      have quiet : mark? (.loop preference) system = none := by simp [mark?, idle]
      rw [quiet]
      obtain ⟨same, -, pool⟩ := sameHold_accept system.executor request
      exact .rests same.interfaces_eq same.claimed_eq same.calls_eq pool
  | attends working attends =>
      refine moveRequest_holdMove ?_
      unfold moveLoop at moved
      split at moved
      · next eq => exact absurd eq working
      · next eq => exact absurd eq working
      · exact moved

theorem HoldMove.calls_eq {host host' : Host (Recorded Handle)} {marks : List Mark}
    (move : HoldMove host host' marks) :
    host'.handle.calls = host.handle.calls ++ called marks := by
  cases move with
  | runs mem jobs_eq issued_eq interfaces_eq claimed_eq calls_eq => rw [calls_eq, called_calls]
  | rests interfaces_eq claimed_eq calls_eq => exact calls_eq.trans (List.append_nil _).symm
  | records loop_eq interfaces_eq claimed_eq calls_eq =>
      exact calls_eq.trans (List.append_nil _).symm
  | releases interfaces_eq calls_eq => exact calls_eq.trans (List.append_nil _).symm

theorem newCalls_eq_nil {host host' : Host (Recorded Handle)}
    (calls_eq : host'.handle.calls = host.handle.calls) : newCalls host host' = [] := by
  rw [newCalls, calls_eq, List.drop_length, List.map_nil]

/-- The executor's loop makes no calls. -/
theorem moveLoop_calls {preference : Preference}
    (moved : (moveLoop preference system).next? = some next) :
    next.executor.handle.calls = system.executor.handle.calls := by
  have uncalled : called (mark? (.loop preference) system).toList = [] := by
    unfold mark?
    split
    · next order stage _ _ => cases stage <;> rfl
    · rfl
  have calls_eq := (moveLoop_holdMove moved).calls_eq
  rwa [uncalled, List.append_nil] at calls_eq

variable [UsbHandle Handle]

theorem moveJob_holdMove [Yields Handle] {id : JobId}
    (moved : (moveJob id system).next? = some next) :
    HoldMove system.executor next.executor (newCalls system.executor next.executor) := by
  have told {host' : Host (Recorded Handle)} {calls : List Call}
      (calls_eq : host'.handle.calls = system.executor.handle.calls ++ calls) :
      newCalls system.executor host' = calls.map .made := by
    rw [newCalls, calls_eq, List.drop_left]
  unfold moveJob at moved
  cases found : system.executor.jobs.find? (·.id == id) with
  | none => simp [found, Move.next?] at moved
  | some job =>
      have mem : job ∈ system.executor.jobs := List.mem_of_find?_eq_some found
      obtain rfl : job.id = id := by simpa using List.find?_some found
      simp only [found] at moved
      cases task_eq : job.task with
      | claim =>
          simp only [task_eq] at moved
          split at moved <;> cases moved
          obtain ⟨jobs_eq, issued_eq, -⟩ := runClaim_frame system.executor job.id
          obtain ⟨interfaces_eq, claimed_eq, handle_eq⟩ := runClaim_hold system.executor job.id
          obtain ⟨calls, calls_eq, yielded⟩ :=
            calls_claimAll system.executor.handle system.executor.interfaces
          have calls_eq := (congrArg Recorded.calls handle_eq).trans calls_eq
          exact told calls_eq ▸ .runs mem jobs_eq issued_eq interfaces_eq claimed_eq calls_eq
            (by simp [task_eq]) (by simp [task_eq]) yielded
      | release numbers =>
          simp only [task_eq] at moved
          split at moved <;> cases moved
          have calls_eq : ({ system.executor.dropJob job.id with
              handle := releaseAll system.executor.handle numbers } :
                Host (Recorded Handle)).handle.calls = _ :=
            calls_releaseAll system.executor.handle numbers
          have released : ∀ more, job.task = .release more →
              numbers.map (fun number => (⟨.release, number, true⟩ : Call)) =
                more.map fun number => ⟨.release, number, true⟩ := by
            intro more eq
            obtain rfl := Task.release.inj (task_eq.symm.trans eq)
            rfl
          exact told calls_eq ▸ .runs mem rfl rfl rfl rfl calls_eq released (by simp [task_eq])
            (by simp)
      | transfer place =>
          simp only [task_eq] at moved
          cases moved
          obtain ⟨interfaces_eq, claimed_eq, calls_eq, jobs_eq, issued_eq⟩ :=
            beginTransfer_hold system.executor job.id place
          rw [← List.append_nil system.executor.handle.calls] at calls_eq
          exact told calls_eq ▸ .runs mem jobs_eq issued_eq interfaces_eq claimed_eq calls_eq
            (by simp [task_eq]) (fun _ _ => rfl) (by simp)

theorem move_holdMove [Yields Handle] {party : Party} (apart : party ≠ .session)
    (moved : (company.move party system).next? = some next) :
    HoldMove system.executor next.executor
      ((mark? party system).toList ++ newCalls system.executor next.executor) := by
  cases party with
  | session => exact absurd rfl apart
  | loop preference =>
      rw [newCalls_eq_nil (moveLoop_calls moved), List.append_nil]
      exact moveLoop_holdMove moved
  | worker id =>
      obtain ⟨worker, worker', rest, worker_eq, move, rfl⟩ := moveWorker_cases moved
      obtain ⟨same, -, -, pool⟩ := move.sameHold
      rw [newCalls_eq_nil same.calls_eq]
      exact .rests same.interfaces_eq same.claimed_eq same.calls_eq pool
  | job id => exact moveJob_holdMove moved
  | transfer id =>
      obtain ⟨worker, request, outcome, -, -, rfl⟩ := finishTransfer_cases moved
      rw [show newCalls system.executor (putWorker system id _).executor = [] from
        newCalls_eq_nil rfl]
      exact .rests rfl rfl rfl (Or.inl ⟨rfl, rfl⟩)

/-- Whoever moves, the interfaces stay in somebody's hands. -/
theorem move_custody [Yields Handle] {party : Party} (apart : party ≠ .session)
    (own : Numbered system.executor) (nodup : system.executor.interfaces.Nodup)
    (alternate : Alternate system.executor.handle.calls)
    (custody : Custody system.executor system.flags.busy)
    (moved : (company.move party system).next? = some next) :
    Custody next.executor next.flags.busy ∧ Alternate next.executor.handle.calls := by
  cases party with
  | session => exact absurd rfl apart
  | loop preference =>
      exact ⟨moveLoop_custody custody moved, (moveLoop_calls moved).symm ▸ alternate⟩
  | worker id =>
      obtain ⟨worker, worker', rest, worker_eq, move, rfl⟩ := moveWorker_cases moved
      obtain ⟨same, loop_eq, busy_eq, -⟩ := move.sameHold
      rw [busy_eq]
      exact ⟨custody.same same loop_eq, same.calls_eq ▸ alternate⟩
  | job id => exact moveJob_custody own nodup alternate custody moved
  | transfer id =>
      obtain ⟨worker, request, outcome, -, -, rfl⟩ := finishTransfer_cases moved
      exact ⟨custody.same ⟨rfl, rfl, rfl, rfl, rfl⟩ rfl, alternate⟩

end Moves

/-! ### What a run keeps -/

/-- Some job is going to release an interface. -/
def IsOwed (host : Host Handle) (number : UInt8) : Prop :=
  ∃ job ∈ host.jobs, ∃ numbers, job.task = .release numbers ∧ number ∈ numbers

theorem PoolGrows.mem {host host' : Host Handle} (pool : PoolGrows host host') {job : Job}
    (mem : job ∈ host.jobs) : job ∈ host'.jobs := by
  rcases pool with ⟨jobs_eq, -⟩ | ⟨task, jobs_eq, -⟩ <;> rw [jobs_eq]
  · exact mem
  · exact List.mem_append_left _ mem

namespace HoldMove

variable {host host' : Host (Recorded Handle)} {marks : List Mark} {number : UInt8}

theorem interfaces_eq (move : HoldMove host host' marks) :
    host'.interfaces = host.interfaces := by
  cases move <;> assumption

theorem yielded (move : HoldMove host host' marks) :
    ∀ call ∈ called marks, call.isRelease = true → call.succeeded = true := by
  cases move with
  | runs => rwa [called_calls]
  | _ => nofun

theorem numbered (move : HoldMove host host' marks) (own : Numbered host) : Numbered host' := by
  cases move with
  | @runs job calls mem jobs_eq issued_eq =>
      obtain ⟨numbered, nodup⟩ := own.dropJob job.id
      exact ⟨by rw [jobs_eq, issued_eq]; exact numbered, by rw [jobs_eq]; exact nodup⟩
  | _ => exact own.grow ‹_›

/-- A job that owes an interface stays on the pool until the interface is released. -/
theorem owed (move : HoldMove host host' marks) (own : Numbered host)
    (owed : IsOwed host number) (uncalled : ∀ call ∈ called marks, call.number ≠ number) :
    IsOwed host' number := by
  obtain ⟨job, mem, numbers, task_eq, here⟩ := owed
  cases move with
  | @runs other calls mem' jobs_eq issued_eq interfaces_eq claimed_eq calls_eq released =>
      refine ⟨job, ?_, numbers, task_eq, here⟩
      rw [jobs_eq]
      refine List.mem_filter.2 ⟨mem, bne_iff_ne.2 fun same => ?_⟩
      obtain rfl := own.eq_of_id mem mem' same
      rw [called_calls, released numbers task_eq] at uncalled
      exact uncalled _ (List.mem_map_of_mem here) rfl
  | _ => exact ⟨job, PoolGrows.mem ‹_› mem, numbers, task_eq, here⟩

/-- What is held for a client stays so, unless it is passed on to a job. -/
theorem claimed (move : HoldMove host host' marks) (mem : number ∈ host.claimed)
    (exported : number ∈ host.interfaces) :
    number ∈ host'.claimed ∧ .released ∉ marks ∨ IsOwed host' number := by
  cases move with
  | rests interfaces_eq claimed_eq => exact Or.inl ⟨claimed_eq ▸ mem, by simp⟩
  | records loop_eq interfaces_eq claimed_eq => exact Or.inl ⟨claimed_eq ▸ exported, by simp⟩
  | releases interfaces_eq calls_eq pool passed =>
      rcases passed with empty | passed
      · rw [empty] at mem
        cases mem
      · exact Or.inr ⟨_, passed, _, rfl, mem⟩
  | runs job jobs_eq issued_eq interfaces_eq claimed_eq =>
      exact Or.inl ⟨claimed_eq ▸ mem, by simp⟩

/-- An import that notes what it holds was about to do so. -/
theorem of_recorded {before after : List Mark} (move : HoldMove host host' marks)
    (split : marks = before ++ .recorded :: after) :
    (before = [] ∧ after = []) ∧ (∃ order, host.loop = .importing order .recording) ∧
      host'.claimed = host.interfaces := by
  have mem : Mark.recorded ∈ marks := by simp [split]
  cases move with
  | records loop_eq interfaces_eq claimed_eq =>
      refine ⟨?_, ⟨_, loop_eq⟩, claimed_eq⟩
      cases before with
      | nil => exact ⟨rfl, by simpa using split.symm⟩
      | cons => simp at split
  | _ => simp at mem

/-- A claim is made by a job that claims, and nothing else happens meanwhile. -/
theorem of_claim {call : Call} (move : HoldMove host host' marks)
    (mem : .made call ∈ marks) (claims : call.isClaim = true) :
    (∃ job ∈ host.jobs, job.task = .claim) ∧ .recorded ∉ marks := by
  cases move with
  | @runs job calls mem' jobs_eq issued_eq interfaces_eq claimed_eq calls_eq released transferred =>
      have made : call ∈ calls := by simpa using mem
      refine ⟨⟨job, mem', ?_⟩, by simp⟩
      cases task_eq : job.task with
      | claim => rfl
      | release numbers =>
          rw [released numbers task_eq] at made
          obtain ⟨number, -, rfl⟩ := List.mem_map.1 made
          cases claims
      | transfer place =>
          rw [transferred place task_eq] at made
          cases made
  | _ => simp at mem

end HoldMove

/-- Where a mark stands in a record that was continued. -/
theorem split_cases {marks more before after : List Mark} {mark : Mark}
    (split : marks ++ more = before ++ mark :: after) :
    (∃ part, marks = before ++ mark :: part ∧ after = part ++ more) ∨
      ∃ part, more = part ++ mark :: after ∧ before = marks ++ part := by
  rcases List.append_eq_append_iff.1 split with ⟨part, before_eq, more_eq⟩ |
    ⟨part, marks_eq, after_eq⟩
  · exact Or.inr ⟨part, more_eq, before_eq⟩
  · cases part with
    | nil => exact Or.inr ⟨[], after_eq.symm, by simpa using marks_eq.symm⟩
    | cons first rest =>
        obtain ⟨rfl, rfl⟩ := List.cons.inj after_eq
        exact Or.inl ⟨rest, marks_eq, rfl⟩

/-- What holds of the interfaces after a run with these marks. -/
structure Entrusted (marks : List Mark) (system : System (Host (Recorded Handle))) : Prop where
  own : Numbered system.executor
  nodup : system.executor.interfaces.Nodup
  custody : Custody system.executor system.flags.busy
  calls_eq : system.executor.handle.calls = called marks
  alternate : Alternate (called marks)
  yielded : ∀ call ∈ called marks, call.isRelease = true → call.succeeded = true
  held : ∀ before after, marks = before ++ .recorded :: after →
    ∀ number, holds (called before) number = decide (number ∈ system.executor.interfaces)
  owed : ∀ before after, marks = before ++ .recorded :: after →
    ∀ number ∈ system.executor.interfaces, (∀ call ∈ called after, call.number ≠ number) →
      number ∈ system.executor.claimed ∧ .released ∉ after ∨ IsOwed system.executor number
  returned : ∀ before between call rest,
    marks = before ++ .recorded :: between ++ .made call :: rest → call.isClaim = true →
      ∀ number ∈ system.executor.interfaces, ⟨.release, number, true⟩ ∈ called between

namespace Entrusted

variable {marks more : List Mark} {system next : System (Host (Recorded Handle))}

theorem extend_held (kept : Entrusted marks system)
    (move : HoldMove system.executor next.executor more) {before after : List Mark}
    (split : marks ++ more = before ++ .recorded :: after) (number : UInt8) :
    holds (called before) number = decide (number ∈ next.executor.interfaces) := by
  rw [move.interfaces_eq]
  rcases split_cases split with ⟨part, earlier, -⟩ | ⟨part, now, rfl⟩
  · exact kept.held before part earlier number
  · obtain ⟨⟨rfl, -⟩, ⟨order, loop_eq⟩, -⟩ := move.of_recorded now
    have taken := kept.custody
    unfold Custody at taken
    rw [loop_eq] at taken
    rw [List.append_nil, ← kept.calls_eq]
    exact Taken.holds_eq taken number

theorem extend_owed (kept : Entrusted marks system)
    (move : HoldMove system.executor next.executor more) {before after : List Mark}
    (split : marks ++ more = before ++ .recorded :: after) {number : UInt8}
    (exported : number ∈ next.executor.interfaces)
    (uncalled : ∀ call ∈ called after, call.number ≠ number) :
    number ∈ next.executor.claimed ∧ .released ∉ after ∨ IsOwed next.executor number := by
  rw [move.interfaces_eq] at exported
  rcases split_cases split with ⟨part, earlier, rfl⟩ | ⟨part, now, -⟩
  · simp only [called_append, List.mem_append, or_imp, forall_and] at uncalled
    rcases kept.owed before part earlier number exported uncalled.1 with ⟨mem, unreleased⟩ | owed
    · refine (move.claimed mem exported).imp_left fun still => ⟨still.1, ?_⟩
      rw [List.mem_append]
      exact not_or.2 ⟨unreleased, still.2⟩
    · exact Or.inr (move.owed kept.own owed uncalled.2)
  · obtain ⟨⟨-, rfl⟩, -, claimed_eq⟩ := move.of_recorded now
    exact Or.inl ⟨claimed_eq ▸ exported, List.not_mem_nil⟩

theorem extend_returned (kept : Entrusted marks system)
    (move : HoldMove system.executor next.executor more) {before between rest : List Mark}
    {call : Call}
    (split : marks ++ more = before ++ .recorded :: between ++ .made call :: rest)
    (claims : call.isClaim = true) {number : UInt8}
    (exported : number ∈ next.executor.interfaces) :
    ⟨.release, number, true⟩ ∈ called between := by
  rw [move.interfaces_eq] at exported
  rcases split_cases split with ⟨part, earlier, -⟩ | ⟨part, now, marks_eq⟩
  · exact kept.returned before between call part earlier claims number exported
  · obtain ⟨⟨job, mem, task_eq⟩, unrecorded⟩ := move.of_claim (by simp [now]) claims
    -- nothing was held when this pass of claims began
    have free : holds (called marks) number = false := by
      obtain ⟨order, loop_eq, -, claiming⟩ | ⟨task_eq', -⟩ := kept.custody.cases_of_job
        (List.mem_filter.2 ⟨mem, by rw [task_eq]; rfl⟩)
      · rw [← kept.calls_eq]
        exact claiming.holds_eq number
      · rw [task_eq] at task_eq'
        cases task_eq'
    obtain ⟨earlier, marks_eq', rfl⟩ | ⟨part', part_eq, -⟩ := split_cases marks_eq.symm
    · have held := kept.held before earlier marks_eq' number
      rw [decide_eq_true exported] at held
      rw [marks_eq', called_append] at free
      rw [called_append]
      exact List.mem_append_left _ (release_mem_of_holds held free)
    · exact absurd (by simp [now, part_eq]) unrecorded

/-- Whatever a move does, the interfaces stay entrusted to somebody. -/
theorem extend (kept : Entrusted marks system)
    (move : HoldMove system.executor next.executor more)
    (custody : Custody next.executor next.flags.busy)
    (alternate : Alternate next.executor.handle.calls) : Entrusted (marks ++ more) next where
  own := move.numbered kept.own
  nodup := move.interfaces_eq ▸ kept.nodup
  custody := custody
  calls_eq := by rw [move.calls_eq, kept.calls_eq, called_append]
  alternate := by rwa [called_append, ← kept.calls_eq, ← move.calls_eq]
  yielded := by
    rw [called_append]
    exact List.forall_mem_append.2 ⟨kept.yielded, move.yielded⟩
  held := fun _ _ split => kept.extend_held move split
  owed := fun _ _ split _ => kept.extend_owed move split
  returned := fun _ _ _ _ split claims _ => kept.extend_returned move split claims

theorem start (untouched : Untouched system.executor)
    (nodup : system.executor.interfaces.Nodup) : Entrusted [] system where
  own := ⟨by simp [untouched.jobless], by simp [untouched.jobless]⟩
  nodup := nodup
  custody := by
    unfold Custody
    rw [untouched.idle]
    refine Or.inl ⟨untouched.unclaimed, ?_, fun number => ?_⟩
    · rw [exclusive, untouched.jobless, List.filter_nil]
    · rw [untouched.uncalled]
      rfl
  calls_eq := untouched.uncalled
  alternate := alternate_nil
  yielded := nofun
  held := by simp
  owed := by simp
  returned := by simp

end Entrusted

/-- How the interfaces of a device are claimed and released in a run. -/
structure HandsOver (interfaces : List UInt8) (marks : List Mark) (host : Host (Recorded Handle)) :
    Prop where
  /-- No interface is claimed while it is held, and none is released that is not. -/
  alternate : Alternate (called marks)
  /-- Where all interfaces are going to be claimed, nothing is held and nothing to be released. -/
  freed : ∀ job ∈ host.jobs, job.task = .claim →
    (∀ number, holds (called marks) number = false) ∧
      ∀ other ∈ host.jobs, ∀ numbers, other.task ≠ .release numbers
  /-- An import that is accepted holds all interfaces. -/
  held : ∀ before after, marks = before ++ .recorded :: after →
    ∀ number, holds (called before) number = decide (number ∈ interfaces)
  /-- Nothing is claimed before all that an import held is released. -/
  returned : ∀ before between call rest,
    marks = before ++ .recorded :: between ++ .made call :: rest → call.isClaim = true →
      ∀ number ∈ interfaces, ⟨.release, number, true⟩ ∈ called between
  /-- What an import held is released once, when it was asked for and the jobs have run. -/
  once : ∀ before after, marks = before ++ .recorded :: after → .released ∈ after →
    (∀ job ∈ host.jobs, ∀ numbers, job.task ≠ .release numbers) →
      ∀ number ∈ interfaces,
        ((called after).filter (·.number = number)).takeWhile Call.isRelease =
          [⟨.release, number, true⟩]

section Runs

variable [UsbHandle Handle] [Yields Handle] {start system : System (Host (Recorded Handle))}
  {marks : List Mark}

theorem Turnover.entrusted (run : Turnover start marks system)
    (untouched : Untouched start.executor) (nodup : start.executor.interfaces.Nodup) :
    Entrusted marks system ∧ system.executor.interfaces = start.executor.interfaces := by
  induction run with
  | start => exact ⟨.start untouched nodup, rfl⟩
  | moves before apart moved ih =>
      obtain ⟨kept, same⟩ := ih
      have move := move_holdMove apart moved
      obtain ⟨custody, alternate⟩ :=
        move_custody apart kept.own kept.nodup (kept.calls_eq ▸ kept.alternate) kept.custody moved
      exact ⟨kept.extend move custody alternate, move.interfaces_eq.trans same⟩
  | @cleansUp marks system before ih =>
      obtain ⟨kept, same⟩ := ih
      have move : HoldMove system.executor (cleanUp system).executor [.released] :=
        .of_release system.executor system.executor.release.loop
      refine ⟨kept.extend move (kept.custody.release _) ?_, move.interfaces_eq.trans same⟩
      rw [move.calls_eq, kept.calls_eq]
      exact (List.append_nil (called marks)).symm ▸ kept.alternate
  | @elsewhere marks system next before elsewhere ih =>
      obtain ⟨kept, same⟩ := ih
      obtain ⟨⟨urbs, executor_eq⟩, busy_eq⟩ := elsewhere
      have move : HoldMove system.executor next.executor [] := by
        rw [executor_eq]
        exact .rests rfl rfl rfl (Or.inl ⟨rfl, rfl⟩)
      have custody : Custody next.executor next.flags.busy := by
        rw [executor_eq, busy_eq]
        exact kept.custody.same ⟨rfl, rfl, rfl, rfl, rfl⟩ rfl
      have alternate : Alternate next.executor.handle.calls := by
        rw [move.calls_eq, kept.calls_eq]
        exact (List.append_nil (called marks)).symm ▸ kept.alternate
      exact ⟨List.append_nil marks ▸ kept.extend move custody alternate,
        move.interfaces_eq.trans same⟩

/-- **Claims and releases alternate.** However imports, clean-ups and jobs come together, an
interface is claimed only when all are free and released only when it is held, and what was held for
an accepted import is released once. -/
theorem claims_and_releases_alternate (run : Turnover start marks system)
    (untouched : Untouched start.executor) (nodup : start.executor.interfaces.Nodup) :
    HandsOver start.executor.interfaces marks system.executor := by
  obtain ⟨kept, same⟩ := run.entrusted untouched nodup
  rw [← same]
  refine ⟨kept.alternate, fun job mem task_eq => ?_, kept.held, kept.returned,
    fun before after split asked done number exported => ?_⟩
  · obtain ⟨order, loop_eq, -, claiming⟩ | ⟨task_eq', -⟩ := kept.custody.cases_of_job
      (List.mem_filter.2 ⟨mem, by rw [task_eq]; rfl⟩)
    · refine ⟨kept.calls_eq ▸ claiming.holds_eq, fun other mem' numbers task_eq' => ?_⟩
      have pending : other ∈ exclusive system.executor :=
        List.mem_filter.2 ⟨mem', by rw [task_eq']; rfl⟩
      rw [claiming.only, List.mem_singleton] at pending
      rw [pending] at task_eq'
      cases task_eq'
    · rw [task_eq] at task_eq'
      cases task_eq'
  · have alternate : Alternate (called before ++ called after) := by
      have whole := kept.alternate
      rwa [split, called_append] at whole
    have yielded : ∀ call ∈ called after, call.isRelease = true → call.succeeded = true := by
      intro call mem
      refine kept.yielded call ?_
      rw [split, called_append]
      exact List.mem_append_right _ mem
    refine takeWhile_release_of_held alternate ?_ yielded ?_
    · rw [kept.held before after split, decide_eq_true exported]
    · by_contra uncalled
      have uncalled : ∀ call ∈ called after, call.number ≠ number :=
        fun call mem here => uncalled ⟨call, mem, here⟩
      rcases kept.owed before after split number exported uncalled with
        ⟨-, unasked⟩ | ⟨job, mem, numbers, task_eq, -⟩
      · exact unasked asked
      · exact done job mem numbers task_eq

end Runs

/-! ### Two imports -/

/-- Lets parties move where they can, and cleans up where nobody is named. -/
def turnOver [UsbHandle Handle] (system : System (Host (Recorded Handle))) :
    List (Option Party) → List Mark × System (Host (Recorded Handle))
  | [] => ([], system)
  | none :: rest =>
      let (marks, last) := turnOver (cleanUp system) rest
      (.released :: marks, last)
  | some .session :: rest => turnOver system rest
  | some party :: rest =>
      match (company.move party system).next? with
      | none => turnOver system rest
      | some next =>
          let (marks, last) := turnOver next rest
          ((mark? party system).toList ++ newCalls system.executor next.executor ++ marks, last)

theorem Turnover.turnOver [UsbHandle Handle] {start system : System (Host (Recorded Handle))}
    {marks : List Mark} (run : Turnover start marks system) (parties : List (Option Party)) :
    Turnover start (marks ++ (Host.turnOver system parties).1)
      (Host.turnOver system parties).2 := by
  induction parties generalizing marks system with
  | nil => simpa [Host.turnOver] using run
  | cons party rest ih =>
      rcases party with - | party
      · simpa [Host.turnOver] using ih run.cleansUp
      · by_cases session : party = .session
        · subst session
          exact ih run
        · rw [Host.turnOver]
          · cases moved : (company.move party system).next? with
            | none => exact ih run
            | some next => simpa using ih (run.moves session moved)
          · simpa using session

instance : Yields Placid := ⟨fun _ _ => rfl⟩

def placidRequest (slot : SlotId) : ControlRequest :=
  ⟨⟨0x0111, Command.requestImport⟩, .importDevice ⟨0, .ofString "1"⟩ slot, 0⟩

/-- Two clients ask for a device with two interfaces. -/
def twoRequests : System (Host (Recorded Placid)) :=
  (System.addLink
    { config := {}
      control := { capacity := 2, queue := [placidRequest 0, placidRequest 1] }
      slots := [.open, .open]
      executor :=
        { device := { busId := "1" }
          endpoints := []
          interfaces := [0, 1]
          maxTransfer := 1024
          handle := ⟨{}, []⟩ } } {} .accept).2

def loopMoves (count : Nat) : List (Option Party) := List.replicate count (some (.loop .control))

/-- While the first import is replied to, the device is released twice. The second import then has
to wait until the release has run. -/
def twoImports : List (Option Party) :=
  loopMoves 4 ++ [some (.job 0)] ++ loopMoves 3 ++ [none] ++ loopMoves 5 ++ [none] ++
    loopMoves 5 ++ [some (.job 1)] ++ loopMoves 2 ++ [some (.job 2)] ++ loopMoves 1

theorem alternate_of_two_imports :
    Untouched twoRequests.executor ∧ twoRequests.executor.interfaces.Nodup ∧
      (turnOver twoRequests twoImports).1 =
        [.made ⟨.claim, 0, true⟩, .made ⟨.claim, 1, true⟩, .recorded, .released, .released,
          .made ⟨.release, 0, true⟩, .made ⟨.release, 1, true⟩, .made ⟨.claim, 0, true⟩,
          .made ⟨.claim, 1, true⟩, .recorded] ∧
      HandsOver [0, 1] (turnOver twoRequests twoImports).1
        (turnOver twoRequests twoImports).2.executor := by
  have untouched : Untouched twoRequests.executor := ⟨rfl, rfl, rfl, rfl⟩
  have nodup : twoRequests.executor.interfaces.Nodup := by decide
  exact ⟨untouched, nodup, by decide +kernel,
    claims_and_releases_alternate (Turnover.start.turnOver twoImports) untouched nodup⟩

end UsbExport.Host

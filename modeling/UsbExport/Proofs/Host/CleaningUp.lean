import Mathlib.Data.List.Nodup
import UsbExport.Proofs.Host.Receipts

/-!
Cleaning up after a session, more than once. The first time the flags are reset, the URBs and the
queues forgotten, what is claimed handed to a job, and the socket closed. Main statement: from any
state and with everybody else at work, as long as nothing new is taken up, none of the moves of a
second clean-up changes anything or has anything to do with the device or the socket.
-/

namespace UsbExport

open Dispatch Socket

/-! ### A closed socket -/

namespace Socket.Guard

variable {guard next : Guard} {ticket : Ticket} {now : Nat}

/-- Nobody gets on with a frame at a closed socket. -/
theorem closed_of_moved (closed : guard.isOpen = false)
    (moved : guard.poll ticket now = .advanced next ∨ guard.poll ticket now = .paused next) :
    next.isOpen = false := by
  have polled := guard.polled ticket now
  rcases moved with moved | moved
  all_goals
    rw [moved] at polled
    cases polled with
    | sends standing isOpen pushed => simp [closed] at isOpen

/-- Whoever has the turn at a closed socket leaves it as it is. -/
theorem closed_of_finished (closed : guard.isOpen = false) {result : Except SendError Unit}
    (finished : guard.poll ticket now = .finished next result) :
    next.isOpen = false ∧ next.sink = guard.sink := by
  have polled := guard.polled ticket now
  rw [finished] at polled
  cases polled with
  | shuts standing => simp [closed]
  | refused standing => exact ⟨closed, rfl⟩
  | sends standing isOpen pushed => simp [closed] at isOpen

/-- The turn of a close. -/
theorem poll_close {line : List Waiter} (standing : guard.line = ⟨ticket, .close⟩ :: line)
    (now : Nat) : guard.poll ticket now = .finished
      { guard.leave with
        isOpen := false
        sink := if guard.isOpen then guard.sink.shutDown else guard.sink } (.ok ()) := by
  simp [poll, standing]

end Socket.Guard

/-- Those inside a server can move whenever its system can. -/
theorem Server.step_inner {Executor Inner : Type} {inner : Company (System Executor) Inner}
    {server : Server Executor} {party : Inner} {system : System Executor}
    (moved : (inner.move party server.system).next? = some system) :
    step inner server (.move (.inner party)) = some { server with system } := by
  show (server.lift (inner.move party server.system)).next? = _
  generalize inner.move party server.system = move at moved
  cases move with
  | blocked => cases moved
  | went _ | paused _ =>
      obtain rfl := Option.some.inj moved
      rfl

namespace Host

variable {Handle : Type}

/-- Something new is taken up for a client: a submit, or an import that goes into the books or marks
the device. -/
def Note.takesUp : Note → Bool
  | .deed (.accepted _) | .recorded _ | .marked _ => true
  | _ => false

/-! ### What is left when everything has been let go -/

/-- Nothing is left of any client but what its workers and jobs have in hand. -/
structure Cleared (system : System (Host Handle)) : Prop where
  flags_eq : system.flags = {}
  unclaimed : system.executor.claimed = []
  unbooked : system.executor.urbs = {}
  dismissed : ∀ worker ∈ system.executor.workers, worker.isRegistered = false

section

variable {system next rest : System (Host Handle)}

/-- No flag is raised but for something that is taken up. -/
theorem LoopTurn.flags_eq {note : Option Note} (turn : LoopTurn system note next)
    (nothing : ∀ what ∈ note, what.takesUp = false) (down : system.flags = {}) :
    next.flags = {} := by
  cases turn with
  | @takesControl request control idle taken =>
      unfold handleControl
      split <;> exact down
  | takesSubmit idle taken => cases nothing _ rfl
  | attends move =>
      cases move with
      | @listStands version link slot loop_eq =>
          obtain ⟨links, frame, -⟩ := standInLine_frame system link
            (.send (Reply.listOf version [system.executor.device]).encode)
          rw [frame]
          exact down
      | @imports order stage note next loop_eq move =>
          cases move with
          | @stands accepted stage_eq =>
              obtain ⟨links, frame, -⟩ := standInLine_frame system order.reply
                (.send (importReply system.executor order.version accepted).encode)
              rw [frame]
              exact down
          | marks stage_eq => cases nothing _ rfl
          | unmarks stage_eq =>
              show system.flags.setBusy false = {}
              rw [down]
              rfl
          | _ => exact down
      | _ => exact down

theorem WorkerMove.flags_eq {id : WorkerId} {worker worker' : Worker} {deed : Option Deed}
    (move : WorkerMove system id worker deed worker' rest) (down : system.flags = {}) :
    rest.flags = {} := by
  have retired (request : SubmitRequest) : (retire system request).2.flags = {} := by
    show system.flags.clearPending _ = {}
    rw [down]
    rfl
  cases move with
  | drops stage_eq unwanted => exact retired _
  | reports stage_eq wanted => exact retired _
  | @stands link completion stage_eq =>
      obtain ⟨links, frame, -⟩ :=
        standInLine_frame system link (.send (Reply.completed completion).encode)
      rw [frame]
      exact down
  | _ => exact down

theorem isRegistered_release {host : Host Handle} :
    ∀ worker ∈ host.release.workers, worker.isRegistered = false := by
  have forgotten : ∀ worker ∈ host.forgetUrbs.workers, worker.isRegistered = false := by
    intro worker member
    obtain ⟨earlier, -, rfl⟩ := List.mem_map.1 member
    rfl
  unfold release
  dsimp only
  split <;> exact forgotten

theorem release_cleared (host : Host Handle) :
    host.release.claimed = [] ∧ host.release.urbs = {} := by
  unfold release
  dsimp only
  split <;> exact ⟨rfl, rfl⟩

namespace Cleared

/-- A system that differs in nothing that has to be let go. -/
theorem of_eq (cleared : Cleared system) (flags_eq : next.flags = system.flags)
    (claimed_eq : next.executor.claimed = system.executor.claimed)
    (urbs_eq : next.executor.urbs = system.executor.urbs)
    (workers_eq : next.executor.workers = system.executor.workers) : Cleared next :=
  ⟨flags_eq.trans cleared.flags_eq, claimed_eq.trans cleared.unclaimed,
    urbs_eq.trans cleared.unbooked, by rw [workers_eq]; exact cleared.dismissed⟩

/-- A worker that is put in its place is as much dismissed as it was. -/
theorem put (cleared : Cleared system) {id : WorkerId} {worker worker' : Worker}
    (worker_eq : system.executor.workers[id]? = some worker)
    (registered_eq : worker'.isRegistered = worker.isRegistered)
    (flags_eq : rest.flags = {}) (claimed_eq : rest.executor.claimed = system.executor.claimed)
    (urbs_eq : rest.executor.urbs = {})
    (workers_eq : rest.executor.workers = system.executor.workers) :
    Cleared (putWorker rest id worker') := by
  refine ⟨flags_eq, claimed_eq.trans cleared.unclaimed, urbs_eq, fun other member => ?_⟩
  have member : other ∈ rest.executor.workers.set id worker' := member
  rw [workers_eq] at member
  rcases List.mem_or_eq_of_mem_set member with old | rfl
  · exact cleared.dismissed other old
  · rw [registered_eq]
    exact cleared.dismissed worker (List.mem_of_getElem? worker_eq)

theorem loop {preference : Preference} (cleared : Cleared system)
    (moved : (moveLoop preference system).next? = some next)
    (nothing : ∀ what ∈ loopNote? preference system, what.takesUp = false) : Cleared next := by
  have turn := moveLoop_turn moved
  have flags_eq := turn.flags_eq nothing cleared.flags_eq
  have urbs_eq : next.executor.urbs = {} := by
    have told := loopNote?_deed preference system
    have move := moveLoop_cases moved
    generalize loopDeed? preference system = deed at move told
    cases move with
    | takesControl idle taken =>
        unfold handleControl
        split <;> exact cleared.unbooked
    | takesSubmit idle taken =>
        obtain ⟨note, mem, said⟩ := Option.bind_eq_some_iff.1 told
        have quiet := nothing note mem
        cases note <;> cases said
        cases quiet
    | attends working attends =>
        rcases attends.urbs_eq with ⟨-, same⟩ | ⟨-, empty, -⟩
        · exact same.trans cleared.unbooked
        · exact empty
  generalize loopNote? preference system = note at turn nothing
  have still (claimed_eq : next.executor.claimed = system.executor.claimed)
      (workers_eq : next.executor.workers = system.executor.workers) : Cleared next :=
    ⟨flags_eq, claimed_eq.trans cleared.unclaimed, urbs_eq, by
      rw [workers_eq]
      exact cleared.dismissed⟩
  cases turn with
  | takesControl idle taken =>
      refine still ?_ ?_ <;> (unfold handleControl; split <;> rfl)
  | takesSubmit idle taken => cases nothing _ rfl
  | attends move =>
      cases move with
      | @listStands version link slot loop_eq =>
          obtain ⟨links, frame, -⟩ := standInLine_frame system link
            (.send (Reply.listOf version [system.executor.device]).encode)
          exact still (by rw [frame]; rfl) (by rw [frame]; rfl)
      | @imports order stage note next loop_eq move =>
          cases move with
          | goesOn held => exact still held.claimed_eq held.workers_eq
          | records stage_eq => cases nothing _ rfl
          | @stands accepted stage_eq =>
              obtain ⟨links, frame, -⟩ := standInLine_frame system order.reply
                (.send (importReply system.executor order.version accepted).encode)
              exact still (by rw [frame]; rfl) (by rw [frame]; rfl)
          | unclaims stage_eq =>
              exact ⟨flags_eq, (release_cleared system.executor).1, urbs_eq, isRegistered_release⟩
          | _ => exact still rfl rfl
      | _ => exact still rfl rfl

theorem worker {id : WorkerId} {worker worker' : Worker} {deed : Option Deed}
    (cleared : Cleared system) (worker_eq : system.executor.workers[id]? = some worker)
    (move : WorkerMove system id worker deed worker' rest) :
    Cleared (putWorker rest id worker') := by
  have flags_eq := move.flags_eq cleared.flags_eq
  have retired (request : SubmitRequest) : (retire system request).2.executor.urbs = {} := by
    show system.executor.urbs.retire _ = {}
    rw [cleared.unbooked]
    rfl
  cases move with
  | drops stage_eq unwanted => exact cleared.put worker_eq rfl flags_eq rfl (retired _) rfl
  | reports stage_eq wanted => exact cleared.put worker_eq rfl flags_eq rfl (retired _) rfl
  | @stands link completion stage_eq =>
      obtain ⟨links, frame, -⟩ :=
        standInLine_frame system link (.send (Reply.completed completion).encode)
      refine cleared.put worker_eq rfl flags_eq ?_ ?_ ?_ <;> rw [frame]
      exact cleared.unbooked
  | _ => exact cleared.put worker_eq rfl flags_eq rfl cleared.unbooked rfl

theorem job [UsbHandle Handle] {id : JobId} {deed : Option Deed} (cleared : Cleared system)
    (move : JobMove system id deed next) : Cleared next := by
  cases move with
  | claims =>
      refine cleared.of_eq rfl ?_ ?_ ?_ <;>
        (simp only [change, runClaim]; repeat' split) <;> rfl
  | releases numbers => exact cleared.of_eq rfl rfl rfl rfl
  | passes => exact cleared.of_eq rfl rfl rfl rfl
  | fails worker_eq stage_eq unplanned =>
      exact cleared.put worker_eq rfl cleared.flags_eq rfl cleared.unbooked rfl
  | begins worker_eq stage_eq planned =>
      exact cleared.put worker_eq rfl cleared.flags_eq rfl cleared.unbooked rfl

end Cleared

/-- Everybody but the session moves as a part of the executor. -/
theorem executorMove_of_moved [UsbHandle Handle] {party : Party} (apart : party ≠ .session)
    (moved : (company.move party system).next? = some next) :
    ExecutorMove system (deed? system party) next := by
  cases party with
  | session => exact absurd rfl apart
  | loop preference => exact .loop (moveLoop_cases moved)
  | worker id =>
      obtain ⟨worker, worker', rest, worker_eq, move, rfl⟩ := moveWorker_cases moved
      rw [deed?, worker_eq, Option.bind_some]
      exact .worker worker_eq move
  | job id => exact .job (moveJob_cases moved)
  | transfer id =>
      obtain ⟨worker, request, outcome, worker_eq, stage_eq, rfl⟩ := finishTransfer_cases moved
      exact .transfer worker_eq stage_eq

/-- Nobody else touches the session. -/
theorem visit_eq_of_moved [UsbHandle Handle] {party : Party} (apart : party ≠ .session)
    (moved : (company.move party system).next? = some next) : next.visit = system.visit := by
  rcases (executorMove_of_moved apart moved).takes_or_proceeds with
    ⟨request, control, loop, -, -, rfl, -⟩ | proceeds
  · rfl
  · exact proceeds.visit_eq

end

/-! ### What everybody else does meanwhile -/

section

variable [UsbHandle Handle] {server next : Server (Host Handle)} {event : Server.Event Party}

/-- Something happens that is not the session's doing, and nothing new is taken up. -/
structure Meanwhile (server : Server (Host Handle)) (event : Server.Event Party) : Prop where
  other : event ≠ .move (.inner .session)
  served : event ≠ .move .acceptor
  nothing : ∀ what ∈ note? server event, what.takesUp = false

/-- Either one of the others moves, or session, flags and executor are left as they are. -/
theorem Meanwhile.cases (meanwhile : Meanwhile server event)
    (happened : Server.step company server event = some next) :
    (∃ party system, event = .move (.inner party) ∧ party ≠ .session ∧
        (company.move party server.system).next? = some system ∧ next = { server with system }) ∨
      next.system.visit = server.system.visit ∧ next.system.flags = server.system.flags ∧
        next.system.executor = server.system.executor := by
  cases event with
  | move party =>
      cases party with
      | acceptor => exact absurd rfl meanwhile.served
      | inner party =>
          obtain ⟨system, moved, rfl⟩ := Server.inner_of_step happened
          exact Or.inl ⟨party, system, rfl, fun same => meanwhile.other (by rw [same]), moved, rfl⟩
  | _ =>
      obtain rfl := Option.some.inj happened
      exact Or.inr ⟨rfl, rfl, rfl⟩

theorem Meanwhile.visit_eq (meanwhile : Meanwhile server event)
    (happened : Server.step company server event = some next) :
    next.system.visit = server.system.visit := by
  obtain ⟨party, system, -, apart, moved, rfl⟩ | ⟨visit_eq, -, -⟩ := meanwhile.cases happened
  · exact visit_eq_of_moved apart moved
  · exact visit_eq

theorem Meanwhile.flags_eq (meanwhile : Meanwhile server event)
    (happened : Server.step company server event = some next) (down : server.system.flags = {}) :
    next.system.flags = {} := by
  obtain ⟨party, system, rfl, apart, moved, rfl⟩ | ⟨-, flags_eq, -⟩ := meanwhile.cases happened
  · cases party with
    | session => exact absurd rfl apart
    | loop preference => exact (moveLoop_turn moved).flags_eq meanwhile.nothing down
    | worker id =>
        obtain ⟨worker, worker', rest, worker_eq, move, rfl⟩ := moveWorker_cases moved
        exact move.flags_eq down
    | job id =>
        have move := moveJob_cases moved
        generalize (begun? server.system id).map Deed.begun = deed at move
        cases move <;> exact down
    | transfer id =>
        obtain ⟨worker, request, outcome, worker_eq, stage_eq, rfl⟩ := finishTransfer_cases moved
        exact down
  · exact flags_eq.trans down

theorem Cleared.meanwhile (cleared : Cleared server.system) (meanwhile : Meanwhile server event)
    (happened : Server.step company server event = some next) : Cleared next.system := by
  obtain ⟨party, system, rfl, apart, moved, rfl⟩ | ⟨-, flags_eq, executor_eq⟩ :=
    meanwhile.cases happened
  · cases party with
    | session => exact absurd rfl apart
    | loop preference => exact cleared.loop moved meanwhile.nothing
    | worker id =>
        obtain ⟨worker, worker', rest, worker_eq, move, rfl⟩ := moveWorker_cases moved
        exact cleared.worker worker_eq move
    | job id => exact cleared.job (moveJob_cases moved)
    | transfer id =>
        obtain ⟨worker, request, outcome, worker_eq, stage_eq, rfl⟩ := finishTransfer_cases moved
        exact cleared.put worker_eq rfl cleared.flags_eq rfl cleared.unbooked rfl
  · exact cleared.of_eq flags_eq (by rw [executor_eq]) (by rw [executor_eq]) (by rw [executor_eq])

end

/-- A socket that is closed stays so, whoever moves. -/
theorem LineStep.closed {system next : System (Host Handle)}
    {outcome : Option (LinkId × Errand × Bool)} (step : LineStep system next outcome)
    {link : LinkId} {guard : Guard} (guard_eq : (guards system)[link]? = some guard)
    (closed : guard.isOpen = false) :
    ∃ guard', (guards next)[link]? = some guard' ∧ guard'.isOpen = false := by
  have short := (List.getElem?_eq_some_iff.1 guard_eq).1
  have put {other : LinkId} {old new : Guard} (found : (guards system)[other]? = some old)
      (guards_eq : guards next = (guards system).set other new)
      (closes : old.isOpen = false → new.isOpen = false) :
      ∃ guard', (guards next)[link]? = some guard' ∧ guard'.isOpen = false := by
    rw [guards_eq]
    by_cases same : other = link
    · subst same
      obtain rfl := Option.some.inj (found.symm.trans guard_eq)
      exact ⟨new, List.getElem?_set_self short, closes closed⟩
    · exact ⟨guard, by rw [List.getElem?_set_ne same, guard_eq], closed⟩
  cases step with
  | rests places_perm guards_eq => exact ⟨guard, guards_eq ▸ guard_eq, closed⟩
  | opens places_perm guards_eq =>
      exact ⟨guard, by rw [guards_eq, List.getElem?_append_left short, guard_eq], closed⟩
  | tunes found mode places_perm guards_eq => exact put found guards_eq id
  | stands found errand places_perm guards_eq => exact put found guards_eq id
  | turns found polled places_perm guards_eq =>
      exact put found guards_eq fun closed => Guard.closed_of_moved closed polled
  | leaves found polled places_perm guards_eq =>
      exact put found guards_eq fun closed => (Guard.closed_of_finished closed polled).1

/-! ### One clean-up -/

/-- What everybody's places in lines go back to. -/
structure Sound (server : Server (Host Handle)) : Prop where
  linked : Linked server
  lines : Lines server.system
  books : ∃ trace, Books trace (ledger server.system)

theorem Chronicle.sound [UsbHandle Handle] {start server : Server (Host Handle)}
    {notes : List Note} (chronicle : Chronicle start notes server) (fresh : Fresh start) :
    Sound server :=
  ⟨chronicle.linked fresh, chronicle.lines fresh, _, chronicle.history.books fresh⟩

theorem Sound.step [UsbHandle Handle] {server next : Server (Host Handle)}
    {event : Server.Event Party} (sound : Sound server)
    (happened : Server.step company server event = some next) : Sound next := by
  obtain ⟨trace, books⟩ := sound.books
  have happening := step_happening happened
  exact ⟨sound.linked.happening happening books (step_deskStep happened),
    sound.lines.step (step_lineStep sound.linked sound.lines happened),
    _, books.step happening.ledgerStep⟩

/-- A session that stands in no line begins to clean up, wherever it is. -/
def beginCleanUp (server : Server (Host Handle)) (visit : Visit) (ending : Ending) :
    Server (Host Handle) :=
  { server with
    system := server.system.setVisit
      { visit with session := ⟨visit.session.phase, .resetting ending⟩, wait := .nothing } }

theorem Sound.beginCleanUp {server : Server (Host Handle)} {visit : Visit} (sound : Sound server)
    (visit_eq : server.system.visit = some visit) (free : visit.wait.ticket? = none)
    (ending : Ending) : Sound (beginCleanUp server visit ending) := by
  have unplaced : visit.place? = none := by
    refine place?_of_wait fun ticket wait_eq => ?_
    rw [wait_eq] at free
    cases free
  refine ⟨⟨sound.linked.line_lt, fun other other_eq => ?_, sound.linked.askers_lt,
    sound.linked.held_lt, sound.linked.replying_lt⟩, ?_, sound.books⟩
  · obtain rfl := Option.some.inj other_eq
    exact sound.linked.visit_lt visit visit_eq
  · refine sound.lines.step (.of_visit visit_eq rfl unplaced ?_ rfl rfl rfl)
    exact place?_of_errand? rfl

/-- A run in which a session cleans up, with the moves that it makes itself, each as the state
before and the state after. Others may move at any time. -/
inductive CleansUp [UsbHandle Handle] (start : Server (Host Handle)) :
    List (System (Host Handle) × System (Host Handle)) → Server (Host Handle) → Prop
  | start : CleansUp start [] start
  | moves {moves : List (System (Host Handle) × System (Host Handle))}
      {server next : Server (Host Handle)} (before : CleansUp start moves server)
      (happened : Server.step company server (.move (.inner .session)) = some next) :
      CleansUp start (moves ++ [(server.system, next.system)]) next
  | meanwhile {moves : List (System (Host Handle) × System (Host Handle))}
      {server next : Server (Host Handle)} (before : CleansUp start moves server)
      (event : Server.Event Party) (aside : Meanwhile server event)
      (happened : Server.step company server event = some next) : CleansUp start moves next

/-- How far the session on a socket is with its clean-up, and what it has let go by then. -/
inductive Tidying (link : LinkId) (system : System (Host Handle)) : Prop
  | resetting {phase : Phase} {ending : Ending}
      (visit_eq : system.visit = some ⟨link, ⟨phase, .resetting ending⟩, .nothing⟩)
  | releasing {phase : Phase} {ending : Ending}
      (visit_eq : system.visit = some ⟨link, ⟨phase, .releasing ending⟩, .nothing⟩)
      (flags_eq : system.flags = {})
  | closing {phase : Phase} {ending : Ending}
      (visit_eq : system.visit = some ⟨link, ⟨phase, .closing ending⟩, .nothing⟩)
      (cleared : Cleared system)
  | standing {phase : Phase} {ending : Ending} {ticket : Ticket}
      (visit_eq : system.visit = some ⟨link, ⟨phase, .closing ending⟩, .turn ticket⟩)
      (cleared : Cleared system)
  | finished {ending : Ending} {guard : Guard}
      (visit_eq : system.visit = some ⟨link, ⟨.idle, .finished ending⟩, .nothing⟩)
      (cleared : Cleared system) (guard_eq : (guards system)[link]? = some guard)
      (closed : guard.isOpen = false)

/-- One move of a session that cleans up. -/
inductive TidyMove (link : LinkId) (system : System (Host Handle)) : System (Host Handle) → Prop
  | resets {phase : Phase} {ending : Ending}
      (visit_eq : system.visit = some ⟨link, ⟨phase, .resetting ending⟩, .nothing⟩) :
      TidyMove link system
        { system with
          flags := {}
          visit := some ⟨link, ⟨phase, .releasing ending⟩, .nothing⟩ }
  | releases {phase : Phase} {ending : Ending}
      (visit_eq : system.visit = some ⟨link, ⟨phase, .releasing ending⟩, .nothing⟩) :
      TidyMove link system
        { system with
          executor := system.executor.release
          visit := some ⟨link, ⟨phase, .closing ending⟩, .nothing⟩ }
  | stands {phase : Phase} {ending : Ending} {socket : Link}
      (visit_eq : system.visit = some ⟨link, ⟨phase, .closing ending⟩, .nothing⟩)
      (socket_eq : system.links[link]? = some socket) :
      TidyMove link system
        ((system.setGuard link (socket.guard.request .close).2).setVisit
          ⟨link, ⟨phase, .closing ending⟩, .turn socket.guard.issued⟩)
  | closes {phase : Phase} {ending : Ending} {ticket : Ticket} {socket : Link} {line : List Waiter}
      (visit_eq : system.visit = some ⟨link, ⟨phase, .closing ending⟩, .turn ticket⟩)
      (socket_eq : system.links[link]? = some socket)
      (standing : socket.guard.line = ⟨ticket, .close⟩ :: line) :
      TidyMove link system
        ((system.setGuard link
          { socket.guard.leave with
            isOpen := false
            sink := if socket.guard.isOpen then socket.guard.sink.shutDown
              else socket.guard.sink }).setVisit
          ⟨link, ⟨.idle, .finished ending⟩, .nothing⟩)

section

variable {link : LinkId} {system next : System (Host Handle)}

theorem TidyMove.moved (move : TidyMove link system next) :
    system.moveSession.next? = some next := by
  cases move with
  | resets visit_eq => simp [System.moveSession, visit_eq]; rfl
  | releases visit_eq => simp [System.moveSession, visit_eq]; rfl
  | stands visit_eq socket_eq =>
      simp [System.moveSession, visit_eq, System.runErrand, System.standInLine_eq socket_eq,
        Move.next?]
  | closes visit_eq socket_eq standing =>
      simp [System.moveSession, visit_eq, System.runErrand, System.pursue, socket_eq,
        Guard.poll_close standing, Move.next?, System.resume, Session.resume]

/-- Whoever has a place holds it. -/
theorem Lines.holds (lines : Lines system) {ticket : Ticket} {errand : Errand}
    (member : ⟨link, ticket, errand⟩ ∈ places system) {guard : Guard}
    (guard_eq : (guards system)[link]? = some guard) : guard.Holds ticket errand := by
  have lined := (lines.lined link guard guard_eq).of_perm
    ((List.perm_cons_erase member).filterMap _)
  rw [← waitersAt, waitersAt_cons_self] at lined
  have stands := lined.perm.mem_iff.2 (List.mem_cons_self ..)
  refine ⟨stands, fun waiter found same => ?_⟩
  rw [List.inj_on_of_nodup_map lined.nodup found stands same]

/-- Whoever has a place and gets anywhere with its ticket is at the head of the line. -/
theorem Lines.standing (lines : Lines system) {ticket : Ticket} {errand : Errand}
    (member : ⟨link, ticket, errand⟩ ∈ places system) {guard : Guard}
    (guard_eq : (guards system)[link]? = some guard) {now : Nat}
    (moved : guard.poll ticket now ≠ .waiting) : ∃ line, guard.line = ⟨ticket, errand⟩ :: line := by
  obtain ⟨done, line, standing⟩ := (guard.polled ticket now).head moved
  obtain rfl : done = errand := (lines.holds member guard_eq).only ⟨ticket, done⟩
    (by rw [standing]; exact List.mem_cons_self) rfl
  exact ⟨line, standing⟩

/-- A session that cleans up makes one of four moves. -/
theorem Tidying.tidyMove (tidying : Tidying link system) (lines : Lines system)
    (short : link < system.links.length) (moved : system.moveSession.next? = some next) :
    TidyMove link system next := by
  have socket_eq := List.getElem?_eq_getElem short
  have same {other : System (Host Handle)} (move : TidyMove link system other) :
      TidyMove link system next := by
    obtain rfl := Option.some.inj (moved.symm.trans move.moved)
    exact move
  cases tidying with
  | resetting visit_eq => exact same (.resets visit_eq)
  | releasing visit_eq flags_eq => exact same (.releases visit_eq)
  | closing visit_eq cleared => exact same (.stands visit_eq socket_eq)
  | @standing phase ending ticket visit_eq cleared =>
      have member : (⟨link, ticket, .close⟩ : Place) ∈ places system := by
        simp [places, visit_eq, Visit.place?, Session.Stage.errand?]
      have turn : (system.links[link].guard).poll ticket system.now ≠ .waiting := by
        intro waits
        simp [System.moveSession, visit_eq, System.runErrand, System.pursue, socket_eq, waits,
          Move.next?] at moved
      obtain ⟨line, standing⟩ := lines.standing member (guards_getElem? socket_eq) turn
      exact same (.closes visit_eq socket_eq standing)
  | finished visit_eq => simp [System.moveSession, visit_eq, Move.next?] at moved

theorem guards_setGuard_self (guard : Guard) (short : link < system.links.length) :
    (guards (system.setGuard link guard))[link]? = some guard := by
  rw [guards_setGuard, List.getElem?_set_self]
  rwa [guards, List.length_map]

theorem Tidying.short {server : Server (Host Handle)} (tidying : Tidying link server.system)
    (linked : Linked server) : link < server.system.links.length := by
  cases tidying <;> exact linked.visit_lt _ ‹_›

theorem Tidying.move (tidying : Tidying link system) (move : TidyMove link system next) :
    Tidying link next := by
  have sameVisit {visit visit' : Visit} (one : system.visit = some visit)
      (other : system.visit = some visit') : visit = visit' :=
    Option.some.inj (one.symm.trans other)
  cases move with
  | resets visit_eq => exact .releasing rfl rfl
  | releases visit_eq =>
      cases tidying with
      | releasing visit_eq' flags_eq =>
          obtain ⟨unclaimed, unbooked⟩ := release_cleared system.executor
          exact .closing rfl ⟨flags_eq, unclaimed, unbooked, isRegistered_release⟩
      | _ visit_eq' => cases sameVisit visit_eq visit_eq'
  | stands visit_eq socket_eq =>
      cases tidying with
      | closing visit_eq' cleared => exact .standing rfl (cleared.of_eq rfl rfl rfl rfl)
      | _ visit_eq' => cases sameVisit visit_eq visit_eq'
  | closes visit_eq socket_eq standing =>
      cases tidying with
      | standing visit_eq' cleared =>
          have short := (List.getElem?_eq_some_iff.1 socket_eq).1
          exact .finished rfl (cleared.of_eq rfl rfl rfl rfl) (guards_setGuard_self _ short) rfl
      | _ visit_eq' => cases sameVisit visit_eq visit_eq'

theorem Tidying.meanwhile [UsbHandle Handle] {server later : Server (Host Handle)}
    {event : Server.Event Party} (tidying : Tidying link server.system)
    (meanwhile : Meanwhile server event)
    (happened : Server.step company server event = some later)
    (step : LineStep server.system later.system
      ((note? server event).bind (Note.outcome? server.system.executor))) :
    Tidying link later.system := by
  have same := meanwhile.visit_eq happened
  cases tidying with
  | resetting visit_eq => exact .resetting (same.trans visit_eq)
  | releasing visit_eq flags_eq =>
      exact .releasing (same.trans visit_eq) (meanwhile.flags_eq happened flags_eq)
  | closing visit_eq cleared =>
      exact .closing (same.trans visit_eq) (cleared.meanwhile meanwhile happened)
  | standing visit_eq cleared =>
      exact .standing (same.trans visit_eq) (cleared.meanwhile meanwhile happened)
  | finished visit_eq cleared guard_eq closed =>
      obtain ⟨guard', guard_eq', closed'⟩ := step.closed guard_eq closed
      exact .finished (same.trans visit_eq) (cleared.meanwhile meanwhile happened) guard_eq' closed'

/-! ### A clean-up after a clean-up -/

/-- What a clean-up deals with: the phase of the session, the flags, the executor with all that it
has in its books and on its pool, and the socket. -/
structure Estate (Handle : Type) where
  phase : Option Phase
  flags : DeviceFlags
  executor : Host Handle
  isOpen : Option Bool
  sink : Option Sink

def estate (link : LinkId) (system : System (Host Handle)) : Estate Handle where
  phase := system.visit.map (·.session.phase)
  flags := system.flags
  executor := system.executor
  isOpen := (guards system)[link]?.map (·.isOpen)
  sink := (guards system)[link]?.map (·.sink)

/-- The same state with another device and another socket. -/
def exchange (link : LinkId) (handle : Handle) (sink : Sink) (system : System (Host Handle)) :
    System (Host Handle) :=
  change (system.mapLink link fun socket => { socket with guard := { socket.guard with sink } })
    fun host => { host with handle }

/-- A move of the session that makes no call: it is the same with any device and any socket. -/
def IsSilent (link : LinkId) (system next : System (Host Handle)) : Prop :=
  ∀ handle sink, (exchange link handle sink system).moveSession.next? =
    some (exchange link handle sink next)

/-- Nothing is left to be done at the socket or in the executor. -/
structure Tidied (link : LinkId) (system : System (Host Handle)) : Prop where
  cleared : Cleared system
  closed : ∃ guard, (guards system)[link]? = some guard ∧ guard.isOpen = false
  phase_eq : system.visit.map (·.session.phase) = some .idle

theorem Cleared.release_eq (cleared : Cleared system) :
    system.executor.release = system.executor := by
  have kept : system.executor.workers.map (fun worker => { worker with isRegistered := false }) =
      system.executor.workers := by
    refine (List.map_congr_left fun worker member => ?_).trans (List.map_id _)
    rw [← cleared.dismissed worker member]
    rfl
  have unclaimed := cleared.unclaimed
  have unbooked := cleared.unbooked
  unfold release forgetUrbs
  rw [unclaimed, kept]
  generalize system.executor = host at unclaimed unbooked
  obtain ⟨_, _, _, _, _, claimed, _, urbs, _, _, _, _⟩ := host
  cases unclaimed
  cases unbooked
  rfl

theorem Cleared.exchange (cleared : Cleared system) (link : LinkId) (handle : Handle)
    (sink : Sink) : Cleared (exchange link handle sink system) :=
  cleared.of_eq rfl rfl rfl rfl

theorem exchange_setGuard (handle : Handle) (sink : Sink) (guard : Guard) :
    exchange link handle sink (system.setGuard link guard) =
      (exchange link handle sink system).setGuard link { guard with sink } := by
  simp [exchange, change, System.setGuard, System.mapLink, List.modify_modify_eq,
    Function.comp_def]

theorem exchange_setVisit (handle : Handle) (sink : Sink) (visit : Visit) :
    exchange link handle sink (system.setVisit visit) =
      (exchange link handle sink system).setVisit visit :=
  rfl

theorem links_exchange {handle : Handle} {sink : Sink} {socket : Link}
    (socket_eq : system.links[link]? = some socket) :
    (exchange link handle sink system).links[link]? =
      some { socket with guard := { socket.guard with sink } } := by
  simp [exchange, change, System.mapLink, socket_eq]

theorem estate_eq {guard guard' : Guard}
    (phase_eq : next.visit.map (·.session.phase) = system.visit.map (·.session.phase))
    (flags_eq : next.flags = system.flags) (executor_eq : next.executor = system.executor)
    (guard_eq : (guards system)[link]? = some guard)
    (guard_eq' : (guards next)[link]? = some guard') (open_eq : guard'.isOpen = guard.isOpen)
    (sink_eq : guard'.sink = guard.sink) : estate link next = estate link system := by
  simp [estate, phase_eq, flags_eq, executor_eq, guard_eq, guard_eq', open_eq, sink_eq]

/-- None of the moves of another clean-up changes anything or makes a call. -/
theorem Tidied.move (tidied : Tidied link system) (move : TidyMove link system next) :
    estate link next = estate link system ∧ IsSilent link system next ∧ Tidied link next := by
  obtain ⟨cleared, ⟨guard, guard_eq, closed⟩, phase_eq⟩ := tidied
  have idle {visit : Visit} (visit_eq : system.visit = some visit) :
      visit.session.phase = .idle := by
    rw [visit_eq] at phase_eq
    exact Option.some.inj phase_eq
  cases move with
  | resets visit_eq =>
      have phase := idle visit_eq
      dsimp only at phase
      subst phase
      refine ⟨?_, fun handle sink => ?_, ⟨cleared.of_eq cleared.flags_eq.symm rfl rfl rfl,
        ⟨guard, guard_eq, closed⟩, rfl⟩⟩
      · simp only [estate, visit_eq, cleared.flags_eq]
        rfl
      · exact TidyMove.moved (.resets visit_eq)
  | releases visit_eq =>
      have phase := idle visit_eq
      dsimp only at phase
      subst phase
      rw [cleared.release_eq]
      refine ⟨?_, fun handle sink => ?_, ⟨cleared.of_eq rfl rfl rfl rfl, ⟨guard, guard_eq, closed⟩,
        rfl⟩⟩
      · simp only [estate, visit_eq]
        rfl
      · have move : TidyMove link (exchange link handle sink system) _ := .releases visit_eq
        rw [(cleared.exchange link handle sink).release_eq] at move
        exact move.moved
  | @stands phase ending socket visit_eq socket_eq =>
      have phase := idle visit_eq
      dsimp only at phase
      subst phase
      obtain rfl := Option.some.inj ((guards_getElem? socket_eq).symm.trans guard_eq)
      have short := (List.getElem?_eq_some_iff.1 socket_eq).1
      have after := guards_setGuard_self (socket.guard.request .close).2 short
      refine ⟨?_, fun handle sink => ?_, ⟨cleared.of_eq rfl rfl rfl rfl, ⟨_, after, closed⟩,
        rfl⟩⟩
      · exact estate_eq (by rw [visit_eq]; rfl) rfl rfl guard_eq after rfl rfl
      · have move : TidyMove link (exchange link handle sink system) _ :=
          .stands visit_eq (links_exchange socket_eq)
        rw [move.moved, exchange_setVisit, exchange_setGuard]
        rfl
  | @closes phase ending ticket socket line visit_eq socket_eq standing =>
      have phase := idle visit_eq
      dsimp only at phase
      subst phase
      obtain rfl := Option.some.inj ((guards_getElem? socket_eq).symm.trans guard_eq)
      have short := (List.getElem?_eq_some_iff.1 socket_eq).1
      have unshut (sink : Sink) : (if socket.guard.isOpen then sink.shutDown else sink) = sink := by
        rw [closed]
        rfl
      have after := guards_setGuard_self
        { socket.guard.leave with isOpen := false, sink := socket.guard.sink } short
      rw [unshut]
      refine ⟨?_, fun handle sink => ?_, ⟨cleared.of_eq rfl rfl rfl rfl, ⟨_, after, rfl⟩, rfl⟩⟩
      · exact estate_eq (by rw [visit_eq]; rfl) rfl rfl guard_eq after closed.symm rfl
      · have move : TidyMove link (exchange link handle sink system) _ :=
          .closes visit_eq (links_exchange socket_eq) standing
        rw [move.moved, exchange_setVisit, exchange_setGuard]
        simp only [closed]
        rfl

theorem Tidied.meanwhile [UsbHandle Handle] {server later : Server (Host Handle)}
    {event : Server.Event Party} (tidied : Tidied link server.system)
    (meanwhile : Meanwhile server event)
    (happened : Server.step company server event = some later)
    (step : LineStep server.system later.system
      ((note? server event).bind (Note.outcome? server.system.executor))) :
    Tidied link later.system := by
  obtain ⟨guard, guard_eq, closed⟩ := tidied.closed
  refine ⟨tidied.cleared.meanwhile meanwhile happened, step.closed guard_eq closed, ?_⟩
  rw [meanwhile.visit_eq happened]
  exact tidied.phase_eq

end

/-! ### Whole clean-ups -/

section

variable [UsbHandle Handle] {start server : Server (Host Handle)} {link : LinkId}
  {moves : List (System (Host Handle) × System (Host Handle))}

/-- A clean-up gets done step by step, whatever the others do. -/
theorem CleansUp.tidying (run : CleansUp start moves server) (sound : Sound start)
    (tidying : Tidying link start.system) : Sound server ∧ Tidying link server.system := by
  induction run with
  | start => exact ⟨sound, tidying⟩
  | moves before happened ih =>
      obtain ⟨sound, tidying⟩ := ih
      refine ⟨sound.step happened, ?_⟩
      obtain ⟨system, moved, rfl⟩ := Server.inner_of_step happened
      exact tidying.move (tidying.tidyMove sound.lines (tidying.short sound.linked) moved)
  | meanwhile before event aside happened ih =>
      obtain ⟨sound, tidying⟩ := ih
      exact ⟨sound.step happened, tidying.meanwhile aside happened
        (step_lineStep sound.linked sound.lines happened)⟩

/-- Where all has been let go, a clean-up leaves everything as it is. -/
theorem CleansUp.tidied (run : CleansUp start moves server) (sound : Sound start)
    (tidying : Tidying link start.system) (tidied : Tidied link start.system) :
    Tidied link server.system ∧
      ∀ move ∈ moves, estate link move.2 = estate link move.1 ∧ IsSilent link move.1 move.2 := by
  induction run with
  | start => exact ⟨tidied, by simp⟩
  | moves before happened ih =>
      obtain ⟨sound, tidying⟩ := before.tidying sound tidying
      obtain ⟨system, moved, rfl⟩ := Server.inner_of_step happened
      obtain ⟨same, silent, tidied⟩ :=
        ih.1.move (tidying.tidyMove sound.lines (tidying.short sound.linked) moved)
      refine ⟨tidied, fun move member => ?_⟩
      rcases List.mem_append.1 member with earlier | last
      · exact ih.2 move earlier
      · obtain rfl := List.mem_singleton.1 last
        exact ⟨same, silent⟩
  | meanwhile before event aside happened ih =>
      have sound := (before.tidying sound tidying).1
      exact ⟨ih.1.meanwhile aside happened (step_lineStep sound.linked sound.lines happened), ih.2⟩

/-- The session may clean up without anybody else moving. -/
theorem CleansUp.ofSessionMoves {count : Nat} {next : Server (Host Handle)}
    (before : CleansUp start moves server)
    (run : Server.runFrom company server (sessionMoves count) = some next) :
    ∃ moves, CleansUp start moves next := by
  induction count generalizing moves server with
  | zero =>
      obtain rfl := Option.some.inj run
      exact ⟨moves, before⟩
  | succ count ih =>
      obtain ⟨second, happened, rest⟩ := Option.bind_eq_some_iff.1 run
      exact ih (before.moves happened) rest

theorem TidyMove.runs {system next : System (Host Handle)} {last : Server (Host Handle)}
    {count : Nat} (server : Server (Host Handle)) (move : TidyMove link system next)
    (rest : Server.runFrom company { server with system := next } (sessionMoves count) =
      some last) :
    Server.runFrom company { server with system } (sessionMoves (count + 1)) = some last := by
  have happened : Server.step company { server with system } (.move (.inner .session)) =
      some { server with system := next } := Server.step_inner move.moved
  show (Server.step company { server with system } (.move (.inner .session))).bind _ = _
  rw [happened]
  exact rest

/-- Where all has been let go and nobody stands in line, the four moves of a clean-up are there to
be made. -/
theorem Tidied.run {phase : Phase} {ending : Ending} (tidied : Tidied link server.system)
    (visit_eq : server.system.visit = some ⟨link, ⟨phase, .resetting ending⟩, .nothing⟩)
    (free : ∀ socket, server.system.links[link]? = some socket → socket.guard.line = []) :
    ∃ next, Server.runFrom company server (sessionMoves 4) = some next ∧
      next.system.visit = some ⟨link, ⟨.idle, .finished ending⟩, .nothing⟩ ∧
      estate link next.system = estate link server.system := by
  have first := TidyMove.resets visit_eq
  obtain ⟨same₁, -, tidied₁⟩ := tidied.move first
  have second : TidyMove link { server.system with
      flags := {}
      visit := some ⟨link, ⟨phase, .releasing ending⟩, .nothing⟩ } _ := .releases rfl
  obtain ⟨same₂, -, tidied₂⟩ := tidied₁.move second
  obtain ⟨guard, guard_eq, -⟩ := tidied.closed
  obtain ⟨socket, socket_eq, -⟩ : ∃ socket, server.system.links[link]? = some socket ∧ _ := by
    simpa only [guards, List.getElem?_map, Option.map_eq_some_iff] using guard_eq
  have third : TidyMove link { server.system with
      flags := {}
      executor := server.system.executor.release
      visit := some ⟨link, ⟨phase, .closing ending⟩, .nothing⟩ } _ := .stands rfl socket_eq
  obtain ⟨same₃, -, tidied₃⟩ := tidied₂.move third
  have standing : (socket.guard.request .close).2.line = [⟨socket.guard.issued, .close⟩] := by
    simp [Guard.request, free socket socket_eq]
  have fourth : TidyMove link ((System.setGuard { server.system with
      flags := {}
      executor := server.system.executor.release
      visit := some ⟨link, ⟨phase, .closing ending⟩, .nothing⟩ }
        link (socket.guard.request .close).2).setVisit
          ⟨link, ⟨phase, .closing ending⟩, .turn socket.guard.issued⟩) _ :=
    .closes rfl (System.getElem?_mapLink socket_eq) standing
  obtain ⟨same₄, -, -⟩ := tidied₃.move fourth
  refine ⟨{ server with system := _ }, ?_, ?_, same₄.trans (same₃.trans (same₂.trans same₁))⟩
  · exact first.runs server (second.runs server (third.runs server (fourth.runs server rfl)))
  · rfl

/-- A session that has cleaned up may do so again. Whenever the first clean-up begins, whatever is
pending, queued, claimed or being released then, and whoever moves meanwhile: as long as nothing new
is taken up, the first one leaves nothing behind, and none of the moves of the second one changes
the phase, the flags, the executor or the socket, or has to do with the device or the socket. When
nobody stands in line at the socket, the second one gets done by itself and leaves all as it was. -/
theorem clean_up_is_idempotent {notes : List Note} {once : Server (Host Handle)}
    (fresh : Fresh start) (chronicle : Chronicle start notes server) {visit : Visit}
    (visit_eq : server.system.visit = some visit) (free : visit.wait.ticket? = none)
    {ending last : Ending} (first : CleansUp (beginCleanUp server visit ending) moves once)
    (completed : once.system.visit.map (·.session.stage) = some (.finished last)) :
    ∃ left, once.system.visit = some left ∧ left.link = visit.link ∧
      Tidied visit.link once.system ∧
      ∀ again : Ending,
        (∀ moves twice, CleansUp (beginCleanUp once left again) moves twice →
          ∀ move ∈ moves, estate visit.link move.2 = estate visit.link move.1 ∧
            IsSilent visit.link move.1 move.2) ∧
        ((∀ socket, once.system.links[visit.link]? = some socket → socket.guard.line = []) →
          ∃ twice, Server.runFrom company (beginCleanUp once left again) (sessionMoves 4) =
              some twice ∧
            twice.system.visit = some ⟨visit.link, ⟨.idle, .finished again⟩, .nothing⟩ ∧
            estate visit.link twice.system = estate visit.link once.system) := by
  have sound := (chronicle.sound fresh).beginCleanUp visit_eq free ending
  have begun : Tidying visit.link (beginCleanUp server visit ending).system := .resetting rfl
  obtain ⟨sound, tidying⟩ := first.tidying sound begun
  obtain ⟨left, left_eq, stage_eq⟩ := Option.map_eq_some_iff.1 completed
  cases tidying with
  | @finished ended guard visit_eq' cleared guard_eq closed =>
      have tidied : Tidied visit.link once.system :=
        ⟨cleared, ⟨_, guard_eq, closed⟩, by rw [visit_eq']; rfl⟩
      refine ⟨_, visit_eq', rfl, tidied, fun again => ?_⟩
      have sound := sound.beginCleanUp visit_eq' rfl again
      have begun : Tidied visit.link (beginCleanUp once
          ⟨visit.link, ⟨.idle, .finished ended⟩, .nothing⟩ again).system :=
        ⟨cleared.of_eq rfl rfl rfl rfl, ⟨_, guard_eq, closed⟩, rfl⟩
      have same : estate visit.link (beginCleanUp once
          ⟨visit.link, ⟨.idle, .finished ended⟩, .nothing⟩ again).system =
          estate visit.link once.system := by
        simp only [estate, visit_eq']
        rfl
      refine ⟨fun moves twice second => (second.tidied sound (.resetting rfl) begun).2,
        fun unlined => ?_⟩
      obtain ⟨twice, run, finished, kept⟩ := begun.run rfl unlined
      exact ⟨twice, run, finished, kept.trans same⟩
  | _ visit_eq' =>
      obtain rfl := Option.some.inj (left_eq.symm.trans visit_eq')
      cases stage_eq

end

/-- The device is with a client and at work for it. -/
def inMidTransfer : List Note × Server (Host Placid) :=
  retell placid (firstImport ++ [.arrive 0 placidSubmit.encode] ++ sessionMoves 4 ++
    moves [.loop .data, .worker 0])

theorem clean_up_is_idempotent_in_mid_transfer :
    inMidTransfer.2.system.flags = ⟨true, [2]⟩ ∧
      inMidTransfer.2.system.executor.claimed = [0] ∧
      inMidTransfer.2.system.executor.urbs.inFlight = [7] ∧
      ∃ visit once left twice, inMidTransfer.2.system.visit = some visit ∧
        Server.runFrom company (beginCleanUp inMidTransfer.2 visit .detached) (sessionMoves 4) =
          some once ∧
        once.system.executor.releasing = some 2 ∧ once.system.visit = some left ∧
        Server.runFrom company (beginCleanUp once left .detached) (sessionMoves 4) = some twice ∧
        estate visit.link twice.system = estate visit.link once.system := by
  have visited : inMidTransfer.2.system.visit.map (fun visit => (visit.link, visit.wait.ticket?)) =
      some (0, none) := by decide +kernel
  have cleaned : (inMidTransfer.2.system.visit.bind fun visit =>
      (Server.runFrom company (beginCleanUp inMidTransfer.2 visit .detached)
        (sessionMoves 4)).map fun once =>
          (once.system.executor.releasing, once.system.visit.map (·.session.stage),
            once.system.links.map (·.guard.line))) =
      some (some 2, some (.finished .detached), [[]]) := by decide +kernel
  obtain ⟨visit, visit_eq, seen⟩ := Option.map_eq_some_iff.1 visited
  obtain ⟨link_eq, free⟩ : visit.link = 0 ∧ visit.wait.ticket? = none := by simpa using seen
  rw [visit_eq, Option.bind_some] at cleaned
  obtain ⟨once, run, left⟩ := Option.map_eq_some_iff.1 cleaned
  obtain ⟨releasing, completed, unlined⟩ : once.system.executor.releasing = some 2 ∧
      once.system.visit.map (·.session.stage) = some (.finished .detached) ∧
      once.system.links.map (·.guard.line) = [[]] := by simpa using left
  obtain ⟨moves, first⟩ := CleansUp.start.ofSessionMoves run
  obtain ⟨left, left_eq, -, -, second⟩ := clean_up_is_idempotent fresh_placid
    (chronicle_retell placid _) visit_eq free first completed
  obtain ⟨twice, again, -, same⟩ := (second .detached).2 fun socket socket_eq => by
    have lined := congrArg (·[visit.link]?) unlined
    rw [link_eq] at socket_eq
    simpa [link_eq, socket_eq] using lined
  exact ⟨by decide +kernel, by decide +kernel, by decide +kernel, visit, once, left, twice,
    visit_eq, run, releasing, left_eq, again, same⟩

end Host

end UsbExport

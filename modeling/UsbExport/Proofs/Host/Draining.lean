import Mathlib.Algebra.GroupWithZero.Nat
import UsbExport.Proofs.Host.Service
import UsbExport.Proofs.Host.Staff

/-!
Draining the queues. While a session has the device, nothing keeps its URBs from being done but a
device that does not finish a transfer or a socket that does not take what it is offered: otherwise
somebody can always go on, and after finitely many moves nothing is left to do.
-/

namespace UsbExport.Host

open Dispatch Socket

variable {Handle : Type}

/-! ### What is left to do -/

/-- What a worker still has to do with what it has in hand. -/
def WorkerStage.toil : WorkerStage → Nat
  | .idle | .stopped => 0
  | .replying _ _ (some _) => 1
  | .replying _ _ none => 2
  | .retiring _ _ => 3
  | .transferring _ (some _) => 4
  | .transferring _ none => 5

def Work.toil (work : Work) : Nat := work.stage.toil + 6 * work.queue.length

def Ledger.toil (ledger : Ledger) : Nat :=
  7 * ledger.waiting.length + (ledger.works.map Work.toil).sum

/-- What is left to do with the URBs, and at its socket for the session. -/
def load (system : System (Host Handle)) : Nat :=
  (ledger system).toil + (system.visit.bind Visit.place?).toList.length

theorem LedgerStep.toil_lt_of_accepted {before after : Ledger} {request : SubmitRequest}
    (step : LedgerStep before (some (.accepted request)) after) : after.toil < before.toil := by
  cases step with
  | accepts =>
      simp only [Ledger.toil, Work.toil, List.length_cons, List.map_append, List.map_cons,
        List.sum_append, List.sum_cons, List.length_append, List.length_nil]
      omega
  | employs =>
      simp only [Ledger.toil, Work.toil, WorkerStage.toil, List.length_cons, List.map_append,
        List.map_cons, List.sum_append, List.sum_cons, List.length_nil, List.map_nil, List.sum_nil]
      omega
  | works step => cases step
  | rests quiet => exact (quiet _ rfl).elim

theorem load_lt_of_worker {system next : System (Host Handle)} {id : WorkerId}
    {worker worker' : Worker} (worker_eq : system.executor.workers[id]? = some worker)
    (workers_eq : next.executor.workers = system.executor.workers.set id worker')
    (data_eq : next.data = system.data) (visit_eq : next.visit = system.visit)
    (toil_lt : worker'.work.toil < worker.work.toil) : load next < load system := by
  obtain ⟨front, back, works_eq, set_eq⟩ := exists_works worker_eq
  have ledger_lt : (ledger next).toil < (ledger system).toil := by
    simp only [Ledger.toil, ledger, workers_eq, data_eq, works_eq, set_eq, List.map_append,
      List.map_cons, List.sum_append, List.sum_cons]
    omega
  rw [load, load, visit_eq]
  exact Nat.add_lt_add_right ledger_lt _

theorem WorkerMove.toil_lt {system rest : System (Host Handle)} {id : WorkerId}
    {worker worker' : Worker} {deed : Option Deed}
    (move : WorkerMove system id worker deed worker' rest) (toiling : 0 < worker.work.toil)
    (unset : ∀ link completion ticket, worker.stage ≠ .replying link completion (some ticket)) :
    worker'.work.toil < worker.work.toil := by
  cases move with
  | skips idle queue_eq skip =>
      simp only [Worker.work, Work.toil, idle, queue_eq, WorkerStage.toil, List.length_cons]
      omega
  | takes idle queue_eq busy wanted =>
      simp only [Worker.work, Work.toil, idle, queue_eq, WorkerStage.toil, List.length_cons]
      omega
  | stops idle empty dismissed =>
      simp [Worker.work, Work.toil, idle, empty, WorkerStage.toil] at toiling
  | drops stage_eq unwanted => simp [Worker.work, Work.toil, stage_eq, WorkerStage.toil]
  | reports stage_eq wanted => simp [Worker.work, Work.toil, stage_eq, WorkerStage.toil]
  | stands stage_eq => simp [Worker.work, Work.toil, stage_eq, WorkerStage.toil]
  | turns stage_eq socket_eq polled => exact absurd stage_eq (unset _ _ _)
  | answers stage_eq socket_eq polled => exact absurd stage_eq (unset _ _ _)

/-- Where nobody stands in line and nothing waits, the load is with the workers. -/
theorem exists_toiling {system : System (Host Handle)} (placed : places system = [])
    (waiting : system.data.queue = []) (loaded : load system ≠ 0) :
    ∃ worker ∈ system.executor.workers, 0 < worker.work.toil := by
  have unplaced : (system.visit.bind Visit.place?).toList = [] :=
    (List.append_eq_nil_iff.1 placed).1
  have toiling : 0 < ((ledger system).works.map Work.toil).sum := by
    have emptied : (ledger system).waiting = [] := waiting
    rw [load, Ledger.toil, unplaced, emptied] at loaded
    simpa using Nat.pos_of_ne_zero loaded
  obtain ⟨_, counted, toiling⟩ := List.sum_pos_iff_exists_pos_nat.1 toiling
  obtain ⟨work, listed, rfl⟩ := List.mem_map.1 counted
  obtain ⟨worker, found, rfl⟩ := List.mem_map.1 listed
  exact ⟨worker, found, toiling⟩

/-! ### Sockets that take everything -/

def Accepting (system : System (Host Handle)) : Prop :=
  ∀ guard ∈ guards system, guard.sink.mode = .accept

namespace Accepting

variable {system : System (Host Handle)}

theorem setGuard (accepting : Accepting system) (link : LinkId) {guard : Guard}
    (mode_eq : guard.sink.mode = .accept) : Accepting (system.setGuard link guard) := by
  intro other member
  rw [guards_setGuard] at member
  rcases List.mem_or_eq_of_mem_set member with old | rfl
  · exact accepting other old
  · exact mode_eq

theorem standInLine (accepting : Accepting system) (link : LinkId) (errand : Errand) :
    Accepting (system.standInLine link errand).2 := by
  unfold System.standInLine
  split
  · next socket socket_eq =>
      exact accepting.setGuard link
        (accepting socket.guard (List.mem_of_getElem? (guards_getElem? socket_eq)))
  · exact accepting

end Accepting

/-- Whoever has a place while the executor has no request in hand is the session or a worker. -/
theorem owner_of_place {system : System (Host Handle)} (idle : system.executor.loop = .idle)
    {place : Place} (member : place ∈ places system) :
    (∃ visit, system.visit = some visit ∧ visit.link = place.link ∧
        visit.wait = .turn place.waiter.ticket ∧
          visit.session.stage.errand? = some place.waiter.errand) ∨
      ∃ (id : WorkerId) (worker : Worker) (completion : Completion),
        system.executor.workers[id]? = some worker ∧
          worker.stage = .replying place.link completion (some place.waiter.ticket) := by
  have unplaced : loopPlace? system.executor = none := by simp [loopPlace?, idle]
  rw [places, unplaced, Option.toList_none, List.nil_append, List.mem_append,
    Option.mem_toList] at member
  rcases member with member | member
  · obtain ⟨visit, visit_eq, place_eq⟩ := Option.bind_eq_some_iff.1 member
    left
    refine ⟨visit, visit_eq, ?_⟩
    unfold Visit.place? at place_eq
    split at place_eq <;> cases place_eq
    exact ⟨rfl, ‹_›, ‹_›⟩
  · obtain ⟨worker, found, place_eq⟩ := List.mem_filterMap.1 member
    obtain ⟨id, worker_eq⟩ := List.mem_iff_getElem?.1 found
    right
    unfold WorkerStage.place? at place_eq
    split at place_eq <;> cases place_eq
    exact ⟨id, worker, _, worker_eq, ‹_›⟩

/-! ### Going on -/

/-- What only brings to its end what was begun: nobody asks for anything more, and everything that
is sent to a socket gets through. -/
def Note.Concludes (link : LinkId) : Note → Prop
  | .deed (.session other what) =>
      ∃ errand succeeded, what = .served errand succeeded ∧ (other = link → succeeded = true)
  | .deed (.answered other _ succeeded) => other = link → succeeded = true
  | .cancelled _ _ _ => False
  | _ => True

/-- Something can be brought further towards its end. -/
def Eases [UsbHandle Handle] (link : LinkId) (server : Server (Host Handle)) : Prop :=
  ∃ notes next, Chronicle server notes next ∧ load next.system < load server.system ∧
    Accepting next.system ∧ ∀ note ∈ notes, note.Concludes link

section

variable [UsbHandle Handle] {link : LinkId} {server : Server (Host Handle)}

theorem Eases.of_move (party : Party) {system : System (Host Handle)}
    (moved : (company.move party server.system).next? = some system)
    (toil_lt : load system < load server.system) (accepting : Accepting system)
    (concluding : ∀ note ∈ note? server (.move (.inner party)), note.Concludes link) :
    Eases link server :=
  ⟨_, _, .of_move moved rfl, toil_lt, accepting, by simpa using concluding⟩

theorem eases_of_waiting (idle : server.system.executor.loop = .idle)
    (accepting : Accepting server.system) (waiting : server.system.data.queue ≠ []) :
    Eases link server := by
  obtain ⟨request, queue, queue_eq⟩ := List.exists_cons_of_ne_nil waiting
  have taken : server.system.data.take? =
      some (request, { server.system.data with queue }) := by
    simp [Channel.take?, queue_eq]
  have moved : (moveLoop .data server.system).next? =
      some (handleSubmit
        { server.system with data := { server.system.data with queue } } request) := by
    simp [moveLoop, idle, takeSubmit, taken, Move.next?]
  have told : note? server (.move (.inner (.loop .data))) = some (.deed (.accepted request)) := by
    simp [note?, loopNote?, loopDeed?, taken?, idle, queue_eq]
  have step := loop_ledgerStep (.takesSubmit idle taken)
  refine .of_move (.loop .data) moved ?_ accepting (by simp [told, Note.Concludes])
  exact Nat.add_lt_add_right step.toil_lt_of_accepted _

theorem eases_of_worker (accepting : Accepting server.system) {id : WorkerId} {worker : Worker}
    (worker_eq : server.system.executor.workers[id]? = some worker)
    (toiling : 0 < worker.work.toil) (dismissed : worker.stage = .stopped → worker.queue = [])
    (unasked : ∀ request begun, worker.stage ≠ .transferring request begun)
    (unset : ∀ other completion ticket, worker.stage ≠ .replying other completion (some ticket)) :
    Eases link server := by
  obtain ⟨⟨next, went⟩, concluding⟩ : (∃ next, moveWorker id server.system = .went next) ∧
      ∀ deed ∈ workerDeed? server.system worker, (Note.deed deed).Concludes link := by
    cases stage_eq : worker.stage with
    | idle =>
        cases queue_eq : worker.queue with
        | nil => simp [Worker.work, Work.toil, stage_eq, queue_eq, WorkerStage.toil] at toiling
        | cons request queue => simp [moveWorker, worker_eq, stage_eq, queue_eq, workerDeed?]
    | transferring request begun => exact absurd stage_eq (unasked _ _)
    | retiring request completion =>
        simp [moveWorker, worker_eq, stage_eq, workerDeed?, Note.Concludes]
    | replying other completion ticket =>
        cases ticket with
        | none => simp [moveWorker, worker_eq, stage_eq, workerDeed?, Note.Concludes]
        | some ticket => exact absurd stage_eq (unset _ _ _)
    | stopped =>
        simp [Worker.work, Work.toil, stage_eq, dismissed stage_eq, WorkerStage.toil] at toiling
  have moved : (moveWorker id server.system).next? = some next := by rw [went]; rfl
  obtain ⟨same, worker', rest, same_eq, move, rfl⟩ := moveWorker_cases moved
  obtain rfl := Option.some.inj (worker_eq.symm.trans same_eq)
  obtain ⟨workers_eq, data_eq, visit_eq⟩ := move.frame
  refine .of_move (.worker id) moved ?_ ?_ ?_
  · exact load_lt_of_worker worker_eq (congrArg (·.set id worker') workers_eq) data_eq visit_eq
      (move.toil_lt toiling unset)
  · show Accepting rest
    generalize workerDeed? server.system worker = deed at move
    cases move with
    | stands stage_eq => exact accepting.standInLine _ _
    | turns stage_eq socket_eq polled => exact absurd stage_eq (unset _ _ _)
    | answers stage_eq socket_eq polled => exact absurd stage_eq (unset _ _ _)
    | _ => exact accepting
  · have told : note? server (.move (.inner (.worker id))) =
        (workerDeed? server.system worker).map .deed := by
      simp [note?, deed?, worker_eq]
    rw [told]
    simpa using concluding

theorem eases_of_asked (accepting : Accepting server.system)
    (staffed : Staffed server.system.executor) {id : WorkerId} {worker : Worker}
    (worker_eq : server.system.executor.workers[id]? = some worker) {request : SubmitRequest}
    (stage_eq : worker.stage = .transferring request none) : Eases link server := by
  obtain ⟨job, found⟩ := staffed.provided id worker request worker_eq stage_eq
  obtain ⟨task, job_eq, task_eq⟩ := Option.map_eq_some_iff.1 found
  have moved : (moveJob job server.system).next? =
      some (change server.system (·.beginTransfer job id)) := by
    simp [moveJob, job_eq, task_eq, Move.next?]
  obtain ⟨stage, served, workers_eq, -⟩ := beginTransfer_frame worker_eq stage_eq job
  refine .of_move (.job job) moved ?_ accepting ?_
  · refine load_lt_of_worker worker_eq workers_eq rfl rfl ?_
    rcases served with ⟨completion, rfl⟩ | ⟨outcome, rfl⟩ <;>
      simp [Worker.work, Work.toil, stage_eq, WorkerStage.toil]
  · intro note told
    obtain ⟨deed, begun, rfl⟩ : ∃ deed, deed? server.system (.job job) = some deed ∧
        Note.deed deed = note := by simpa [note?] using told
    obtain ⟨request, -, rfl⟩ := Option.map_eq_some_iff.1 begun
    simp [Note.Concludes]

theorem eases_of_begun (accepting : Accepting server.system)
    (able : ∀ (handle : Handle) (address : UInt8), UsbHandle.mayFinish handle address = true)
    {id : WorkerId} {worker : Worker}
    (worker_eq : server.system.executor.workers[id]? = some worker) {request : SubmitRequest}
    {outcome : Except UsbError Transferred}
    (stage_eq : worker.stage = .transferring request (some outcome)) : Eases link server := by
  obtain ⟨next, moved⟩ : ∃ next, (finishTransfer id server.system).next? = some next := by
    simp [finishTransfer, worker_eq, stage_eq, able, Move.next?]
  obtain ⟨same, request', outcome', same_eq, -, rfl⟩ := finishTransfer_cases moved
  obtain rfl := Option.some.inj (worker_eq.symm.trans same_eq)
  refine .of_move (.transfer id) moved ?_ accepting (by simp [note?, deed?])
  refine load_lt_of_worker worker_eq rfl rfl rfl ?_
  simp [Worker.work, Work.toil, stage_eq, WorkerStage.toil]

/-! ### The head of a line -/

/-- Whoever gets on with its frame can go on from there. -/
theorem Eases.of_advance (party : Party) {other : LinkId} {guard : Guard}
    (moved : (company.move party server.system).next? =
      some (server.system.setGuard other guard))
    (silent : note? server (.move (.inner party)) = none)
    (eases : Eases link { server with system := server.system.setGuard other guard }) :
    Eases link server := by
  obtain ⟨notes, next, future, load_lt, accepting, concluding⟩ := eases
  have step : Chronicle server [] { server with system := server.system.setGuard other guard } :=
    .of_move moved silent
  exact ⟨notes, next, step.append future, load_lt, accepting, concluding⟩

theorem eases_of_answering (accepting : Accepting server.system) {id : WorkerId} {worker : Worker}
    (worker_eq : server.system.executor.workers[id]? = some worker) {other : LinkId}
    {completion : Completion} {ticket : Ticket}
    (stage_eq : worker.stage = .replying other completion (some ticket)) {socket : Link}
    (socket_eq : server.system.links[other]? = some socket)
    (finishes : socket.guard.Finishes ticket server.system.now)
    (isOpen : other = link → socket.guard.isOpen = true) : Eases link server := by
  obtain ⟨guard, result, polled, mode_eq, succeeds⟩ := finishes
  obtain ⟨errand, line, standing⟩ := Guard.head_of_finished polled
  have moved : (moveWorker id server.system).next? =
      some (change (server.system.setGuard other guard) (·.setStage id .idle)) := by
    simp [moveWorker, worker_eq, stage_eq, System.pursue, socket_eq, polled, Move.next?]
  have told : note? server (.move (.inner (.worker id))) =
      some (.deed (.answered other completion result.isOk)) := by
    simp [note?, deed?, worker_eq, workerDeed?, stage_eq, System.served?, socket_eq, polled,
      standing]
  refine .of_move (.worker id) moved ?_ (accepting.setGuard other mode_eq) ?_
  · have workers_eq := congrArg Host.workers (setStage_eq worker_eq .idle)
    refine load_lt_of_worker worker_eq workers_eq rfl rfl ?_
    simp [Worker.work, Work.toil, stage_eq, WorkerStage.toil]
  · rw [told]
    rintro note ⟨⟩
    intro same
    rw [succeeds (isOpen same)]
    rfl

theorem eases_of_acknowledging (accepting : Accepting server.system) {visit : Visit}
    (visit_eq : server.system.visit = some visit) {seqnum : UInt32}
    (stage_eq : visit.session.stage = .acknowledging seqnum) {ticket : Ticket}
    (wait_eq : visit.wait = .turn ticket) {socket : Link}
    (socket_eq : server.system.links[visit.link]? = some socket)
    (finishes : socket.guard.Finishes ticket server.system.now)
    (isOpen : visit.link = link → socket.guard.isOpen = true) : Eases link server := by
  obtain ⟨guard, result, polled, mode_eq, succeeds⟩ := finishes
  obtain ⟨errand, line, standing⟩ := Guard.head_of_finished polled
  have moved : server.system.moveSession.next? =
      some ((server.system.setGuard visit.link guard).resume visit (.ofSend result)) := by
    cases result <;>
      simp [System.moveSession, visit_eq, stage_eq, System.runErrand, wait_eq, System.pursue,
        socket_eq, polled, Move.next?, Session.Answer.ofSend]
  have told : note? server (.move (.inner .session)) =
      some (.deed (.session visit.link (.served errand result.isOk))) := by
    simp [note?, sessionNote?, System.deed?, visit_eq, stage_eq, wait_eq, Wait.ticket?,
      System.served?, socket_eq, polled, standing]
  refine .of_move .session moved ?_ (accepting.setGuard visit.link mode_eq) ?_
  swap
  · rw [told]
    rintro note ⟨⟩
    exact ⟨errand, result.isOk, rfl, fun same => by rw [succeeds (isOpen same)]; rfl⟩
  have before : visit.place? = some ⟨visit.link, ticket,
      .send (UnlinkReply.acknowledge seqnum 0).encode⟩ := by
    simp [Visit.place?, wait_eq, stage_eq, Session.Stage.errand?]
  have after : ({ visit with
      session := visit.session.resume (.ofSend result), wait := .nothing } : Visit).place? = none :=
    place?_of_wait (by simp)
  have same : ledger ((server.system.setGuard visit.link guard).resume visit (.ofSend result)) =
      ledger server.system := rfl
  have placed : ((server.system.setGuard visit.link guard).resume visit (.ofSend result)).visit.bind
      Visit.place? = none := after
  rw [load, load, same, placed, visit_eq, Option.bind_some, before]
  exact Nat.lt_succ_self _

theorem eases_of_worker_head (accepting : Accepting server.system) {id : WorkerId} {worker : Worker}
    (worker_eq : server.system.executor.workers[id]? = some worker) {other : LinkId}
    {completion : Completion} {head : Waiter} {line : List Waiter}
    (stage_eq : worker.stage = .replying other completion (some head.ticket)) {socket : Link}
    (socket_eq : server.system.links[other]? = some socket)
    (standing : socket.guard.line = head :: line) (flushing : socket.guard.sink.flushing = .done)
    (isOpen : other = link → socket.guard.isOpen = true) : Eases link server := by
  have mode_eq := accepting _ (List.mem_of_getElem? (guards_getElem? socket_eq))
  rcases Guard.finishes_or_advances standing mode_eq flushing server.system.now with
    finishes | ⟨guard, polled, mode_eq', open_eq, finishes⟩
  · exact eases_of_answering accepting worker_eq stage_eq socket_eq finishes isOpen
  · have moved : (moveWorker id server.system).next? =
        some (server.system.setGuard other guard) := by
      simp [moveWorker, worker_eq, stage_eq, System.pursue, socket_eq, polled, Move.next?]
    refine .of_advance (.worker id) moved ?_ ?_
    · simp [note?, deed?, worker_eq, workerDeed?, stage_eq, System.served?, socket_eq, polled]
    · exact eases_of_answering (accepting.setGuard other mode_eq') worker_eq stage_eq
        (System.getElem?_mapLink socket_eq) finishes fun same => open_eq.trans (isOpen same)

theorem eases_of_session_head (accepting : Accepting server.system) {visit : Visit}
    (visit_eq : server.system.visit = some visit) {seqnum : UInt32}
    (stage_eq : visit.session.stage = .acknowledging seqnum) {head : Waiter} {line : List Waiter}
    (wait_eq : visit.wait = .turn head.ticket) {socket : Link}
    (socket_eq : server.system.links[visit.link]? = some socket)
    (standing : socket.guard.line = head :: line) (flushing : socket.guard.sink.flushing = .done)
    (isOpen : visit.link = link → socket.guard.isOpen = true) : Eases link server := by
  have mode_eq := accepting _ (List.mem_of_getElem? (guards_getElem? socket_eq))
  rcases Guard.finishes_or_advances standing mode_eq flushing server.system.now with
    finishes | ⟨guard, polled, mode_eq', open_eq, finishes⟩
  · exact eases_of_acknowledging accepting visit_eq stage_eq wait_eq socket_eq finishes isOpen
  · have moved : server.system.moveSession.next? =
        some (server.system.setGuard visit.link guard) := by
      simp [System.moveSession, visit_eq, stage_eq, System.runErrand, wait_eq, System.pursue,
        socket_eq, polled, Move.next?]
    refine .of_advance .session moved ?_ ?_
    · simp [note?, sessionNote?, System.deed?, visit_eq, stage_eq, wait_eq, Wait.ticket?,
        System.served?, socket_eq, polled, System.isOverdue]
    · exact eases_of_acknowledging (accepting.setGuard visit.link mode_eq') visit_eq stage_eq wait_eq
        (System.getElem?_mapLink socket_eq) finishes fun same => open_eq.trans (isOpen same)

/-- If anybody stands in line, somebody at the head of that line can go on. -/
theorem eases_of_place {notes : List Note} (lines : Lines server.system)
    (receipts : Receipts notes server.system) (accepting : Accepting server.system)
    (idle : server.system.executor.loop = .idle) (atWork : AtWork link (desk server.system))
    (isOpen : ∀ guard, (guards server.system)[link]? = some guard → guard.isOpen = true)
    {place : Place} (member : place ∈ places server.system) : Eases link server := by
  have short : place.link < server.system.links.length := by
    simpa [guards] using lines.placed place member
  have socket_eq := List.getElem?_eq_getElem short
  generalize server.system.links[place.link] = socket at socket_eq
  have lined := lines.lined place.link socket.guard (guards_getElem? socket_eq)
  have flushing := receipts.flushing (List.mem_of_getElem? (guards_getElem? socket_eq))
  have stands : place.waiter ∈ socket.guard.line :=
    lined.perm.mem_iff.2 (List.mem_filterMap.2 ⟨place, member, if_pos rfl⟩)
  obtain ⟨head, line, standing⟩ := List.exists_cons_of_ne_nil (List.ne_nil_of_mem stands)
  obtain ⟨⟨other, waiter⟩, owned, here⟩ : ∃ owner ∈ places server.system,
      (if owner.link = place.link then some owner.waiter else none) = some head :=
    List.mem_filterMap.1 (lined.perm.mem_iff.1 (by simp [standing]))
  obtain ⟨rfl, rfl⟩ : other = place.link ∧ waiter = head := by simpa using here
  rcases owner_of_place idle owned with
    ⟨visit, visit_eq, link_eq, wait_eq, wanted⟩ | ⟨id, worker, completion, worker_eq, stage_eq⟩
  · obtain ⟨same, same_eq, -, -, going⟩ := atWork
    obtain rfl := Option.some.inj (visit_eq.symm.trans same_eq)
    obtain ⟨seqnum, stage_eq⟩ : ∃ seqnum, visit.session.stage = .acknowledging seqnum := by
      cases stage_eq : visit.session.stage <;>
        simp [stage_eq, Session.Stage.errand?, Session.Stage.isReset] at wanted going
      exact ⟨_, rfl⟩
    refine eases_of_session_head accepting visit_eq stage_eq wait_eq (link_eq ▸ socket_eq) standing
      flushing fun same => ?_
    exact isOpen _ (same ▸ link_eq ▸ guards_getElem? socket_eq)
  · refine eases_of_worker_head accepting worker_eq stage_eq socket_eq standing flushing
      fun same => ?_
    exact isOpen _ (same ▸ guards_getElem? socket_eq)

/-! ### To the end -/

/-- As long as anything is left to do, somebody can go on. -/
theorem Chronicle.eases {start : Server (Host Handle)} {notes : List Note}
    (chronicle : Chronicle start notes server) (fresh : Fresh start)
    (unasked : start.system.executor.jobs = []) (atWork : AtWork link (desk server.system))
    (accepting : Accepting server.system)
    (able : ∀ (handle : Handle) (address : UInt8), UsbHandle.mayFinish handle address = true)
    (loaded : load server.system ≠ 0) : Eases link server := by
  have idle := chronicle.idle_of_atWork fresh atWork
  have staffed := chronicle.staffed fresh unasked
  have lines := chronicle.lines fresh
  by_cases placed : places server.system = []
  swap
  · obtain ⟨place, member⟩ := List.exists_mem_of_ne_nil _ placed
    exact eases_of_place lines (chronicle.receipts fresh) accepting idle atWork
      (fun guard guard_eq => chronicle.isOpen_of_atWork fresh atWork guard_eq) member
  by_cases waiting : server.system.data.queue = []
  swap
  · exact eases_of_waiting idle accepting waiting
  obtain ⟨worker, found, toiling⟩ := exists_toiling placed waiting loaded
  obtain ⟨id, worker_eq⟩ := List.mem_iff_getElem?.1 found
  cases stage_eq : worker.stage with
  | transferring request begun =>
      cases begun with
      | none => exact eases_of_asked accepting staffed worker_eq stage_eq
      | some outcome => exact eases_of_begun accepting able worker_eq stage_eq
  | _ =>
      refine eases_of_worker accepting worker_eq toiling
        (fun stopped => (staffed.dismissed id worker worker_eq stopped).2) (by simp [stage_eq])
        fun other completion ticket turning => ?_
      have member : (⟨other, ticket, .send (Reply.completed completion).encode⟩ : Place) ∈
          places server.system := by
        refine List.mem_append_right _ (List.mem_append_right _ (List.mem_filterMap.2 ?_))
        exact ⟨worker, found, by rw [turning]; rfl⟩
      simp [placed] at member

/-- Everything that was begun can be brought to its end. -/
theorem Chronicle.drains {start mid : Server (Host Handle)} {before : List Note}
    (past : Chronicle start before mid) (fresh : Fresh start)
    (unasked : start.system.executor.jobs = []) (atWork : AtWork link (desk mid.system))
    (accepting : Accepting mid.system)
    (able : ∀ (handle : Handle) (address : UInt8), UsbHandle.mayFinish handle address = true) :
    ∃ notes last, Chronicle mid notes last ∧ load last.system = 0 ∧
      ∀ note ∈ notes, note.Concludes link := by
  generalize size_eq : load mid.system = size
  induction size using Nat.strongRecOn generalizing mid before with
  | ind size ih =>
      by_cases done : load mid.system = 0
      · exact ⟨[], mid, .start, done, by simp⟩
      · obtain ⟨notes, next, future, load_lt, accepting, concluding⟩ :=
          past.eases fresh unasked atWork accepting able done
        have atWork' : AtWork link (desk next.system) := by
          refine future.atWork atWork fun reset => ?_
          obtain ⟨errand, succeeded, same, -⟩ := concluding _ reset
          cases same
        obtain ⟨notes', last, future', done, concluding'⟩ :=
          ih _ (size_eq ▸ load_lt) (past.append future) atWork' accepting rfl
        refine ⟨notes ++ notes', last, future.append future', done, fun note member => ?_⟩
        exact (List.mem_append.1 member).elim (concluding note) (concluding' note)

end

end UsbExport.Host

import UsbExport.Proofs.Host.Deeds

/-!
Everything that one move of a worker or of the pool of a host executor can come to.
-/

namespace UsbExport.Host

open Dispatch Socket

variable {Handle : Type}

/-! ### The moves of a worker -/

/-- A move of a worker: what it does, what becomes of the worker and of everything else. -/
inductive WorkerMove (system : System (Host Handle)) (id : WorkerId) (worker : Worker) :
    Option Deed → Worker → System (Host Handle) → Prop
  | skips {request : SubmitRequest} {queue : List SubmitRequest} (idle : worker.stage = .idle)
      (queue_eq : worker.queue = request :: queue)
      (skip : system.flags.busy = false ∨
        request.submit.header.seqnum ∈ system.executor.urbs.unlinked) :
      WorkerMove system id worker none { worker with queue, stage := .retiring request none } system
  | takes {request : SubmitRequest} {queue : List SubmitRequest} (idle : worker.stage = .idle)
      (queue_eq : worker.queue = request :: queue) (busy : system.flags.busy = true)
      (wanted : request.submit.header.seqnum ∉ system.executor.urbs.unlinked) :
      WorkerMove system id worker none { worker with queue, stage := .transferring request none }
        (change system fun host => (host.addJob (.transfer id)).2)
  | stops (idle : worker.stage = .idle) (empty : worker.queue = [])
      (dismissed : worker.isRegistered = false) :
      WorkerMove system id worker none { worker with stage := .stopped } system
  | drops {request : SubmitRequest} {completion : Option Completion}
      (stage_eq : worker.stage = .retiring request completion)
      (unwanted : completion = none ∨
        request.submit.header.seqnum ∈ system.executor.urbs.unlinked) :
      WorkerMove system id worker (some (.retired request)) { worker with stage := .idle }
        (retire system request).2
  | reports {request : SubmitRequest} {completion : Completion}
      (stage_eq : worker.stage = .retiring request (some completion))
      (wanted : request.submit.header.seqnum ∉ system.executor.urbs.unlinked) :
      WorkerMove system id worker (some (.retired request))
        { worker with stage := .replying request.reply completion none } (retire system request).2
  | stands {link : LinkId} {completion : Completion}
      (stage_eq : worker.stage = .replying link completion none) :
      WorkerMove system id worker (some (.answering link completion))
        { worker with
          stage := .replying link completion
            (some (system.standInLine link (.send (Reply.completed completion).encode)).1) }
        (system.standInLine link (.send (Reply.completed completion).encode)).2
  | turns {link : LinkId} {completion : Completion} {ticket : Ticket} {socket : Link}
      {guard : Guard} (stage_eq : worker.stage = .replying link completion (some ticket))
      (socket_eq : system.links[link]? = some socket)
      (polled : socket.guard.poll ticket system.now = .advanced guard ∨
        socket.guard.poll ticket system.now = .paused guard) :
      WorkerMove system id worker none worker (system.setGuard link guard)
  | answers {link : LinkId} {completion : Completion} {ticket : Ticket} {socket : Link}
      {guard : Guard} {result : Except SendError Unit}
      (stage_eq : worker.stage = .replying link completion (some ticket))
      (socket_eq : system.links[link]? = some socket)
      (polled : socket.guard.poll ticket system.now = .finished guard result) :
      WorkerMove system id worker (some (.answered link completion result.isOk))
        { worker with stage := .idle } (system.setGuard link guard)

/-- The system with a worker in its place. -/
def putWorker (system : System (Host Handle)) (id : WorkerId) (worker : Worker) :
    System (Host Handle) :=
  change system (·.setWorker id worker)

theorem setStage_eq {host : Host Handle} {id : WorkerId} {worker : Worker}
    (worker_eq : host.workers[id]? = some worker) (stage : WorkerStage) :
    host.setStage id stage = host.setWorker id { worker with stage } := by
  unfold setStage setWorker
  rw [List.modify_eq_set, worker_eq]
  rfl

theorem putWorker_self {system : System (Host Handle)} {id : WorkerId} {worker : Worker}
    (worker_eq : system.executor.workers[id]? = some worker) :
    putWorker system id worker = system := by
  obtain ⟨short, rfl⟩ := List.getElem?_eq_some_iff.1 worker_eq
  simp [putWorker, change, setWorker]

theorem takeUp_cases {id : WorkerId} {system : System (Host Handle)} {worker : Worker}
    {request : SubmitRequest} {queue : List SubmitRequest}
    (worker_eq : system.executor.workers[id]? = some worker) (idle : worker.stage = .idle)
    (queue_eq : worker.queue = request :: queue) :
    ∃ worker' rest, WorkerMove system id worker none worker' rest ∧
      takeUp { system with executor := system.executor.setWorker id { worker with queue } } id
        request = putWorker rest id worker' := by
  have placed : (system.executor.setWorker id { worker with queue }).workers[id]? =
      some { worker with queue } := by
    obtain ⟨short, -⟩ := List.getElem?_eq_some_iff.1 worker_eq
    simp [setWorker, short]
  unfold takeUp
  by_cases skip : system.flags.busy = false ∨
      request.submit.header.seqnum ∈ system.executor.urbs.unlinked
  · refine ⟨_, _, .skips idle queue_eq skip, ?_⟩
    rw [if_pos]
    · simp only [setStage_eq placed, putWorker, change]
      simp [setWorker]
    · simpa [setWorker, Urbs.isUnlinked] using skip
  · rw [not_or, Bool.not_eq_false] at skip
    refine ⟨_, _, .takes idle queue_eq skip.1 skip.2, ?_⟩
    rw [if_neg]
    · have placed' : ((system.executor.setWorker id { worker with queue }).addJob
          (.transfer id)).2.workers[id]? = some { worker with queue } := placed
      simp only [setStage_eq placed', putWorker, change]
      simp [setWorker, addJob]
    · simpa [setWorker, Urbs.isUnlinked] using skip

section

variable {id : WorkerId} {system next : System (Host Handle)} {worker : Worker}

theorem moveIdle_cases (worker_eq : system.executor.workers[id]? = some worker)
    (idle : worker.stage = .idle) (moved : (moveWorker id system).next? = some next) :
    ∃ worker' rest, WorkerMove system id worker none worker' rest ∧
      next = putWorker rest id worker' := by
  unfold moveWorker at moved
  cases queue_eq : worker.queue with
  | nil =>
      cases registered : worker.isRegistered with
      | true => simp [worker_eq, idle, queue_eq, registered, Move.next?] at moved
      | false =>
          simp only [worker_eq, idle, queue_eq, registered, Bool.false_eq_true, if_false,
            Move.next?, Option.some.injEq] at moved
          subst moved
          refine ⟨_, _, .stops idle queue_eq registered, ?_⟩
          simp only [change, putWorker, setStage_eq worker_eq]
  | cons request queue =>
      simp only [worker_eq, idle, queue_eq, Move.next?, Option.some.injEq] at moved
      obtain ⟨worker', rest, move, eq⟩ := takeUp_cases worker_eq idle queue_eq
      refine ⟨worker', rest, move, ?_⟩
      rw [← eq, ← moved]
      simp only [idle]

theorem moveRetiring_cases {request : SubmitRequest} {completion : Option Completion}
    (worker_eq : system.executor.workers[id]? = some worker)
    (stage_eq : worker.stage = .retiring request completion)
    (moved : (moveWorker id system).next? = some next) :
    ∃ worker', WorkerMove system id worker (some (.retired request)) worker'
      (retire system request).2 ∧ next = putWorker (retire system request).2 id worker' := by
  unfold moveWorker at moved
  simp only [worker_eq, stage_eq, Move.next?, Option.some.injEq] at moved
  subst moved
  have kept : (retire system request).2.executor.workers[id]? = some worker := worker_eq
  have marked : (retire system request).1 = true ↔
      request.submit.header.seqnum ∈ system.executor.urbs.unlinked := by
    simp [retire, Urbs.isUnlinked]
  by_cases unwanted : completion = none ∨
      request.submit.header.seqnum ∈ system.executor.urbs.unlinked
  · refine ⟨_, .drops stage_eq unwanted, ?_⟩
    simp only [change, putWorker, setStage_eq kept]
    cases completion with
    | none => rfl
    | some completion => simp [marked.2 (by simpa using unwanted)]
  · cases completion with
    | none => simp at unwanted
    | some completion =>
        have wanted : request.submit.header.seqnum ∉ system.executor.urbs.unlinked := by
          simpa using unwanted
        refine ⟨_, .reports stage_eq wanted, ?_⟩
        have unmarked : (retire system request).1 = false := by
          rw [← Bool.not_eq_true, marked]
          exact wanted
        simp [change, putWorker, setStage_eq kept, unmarked]

theorem moveReplying_cases {link : LinkId} {completion : Completion} {ticket : Option Ticket}
    (worker_eq : system.executor.workers[id]? = some worker)
    (stage_eq : worker.stage = .replying link completion ticket)
    (moved : (moveWorker id system).next? = some next) :
    ∃ worker' rest, WorkerMove system id worker (workerDeed? system worker) worker' rest ∧
      next = putWorker rest id worker' := by
  unfold moveWorker at moved
  cases ticket with
  | none =>
      simp only [worker_eq, stage_eq, Move.next?, Option.some.injEq] at moved
      subst moved
      have deed_eq : workerDeed? system worker = some (.answering link completion) := by
        simp [workerDeed?, stage_eq]
      rw [deed_eq]
      refine ⟨_, _, .stands stage_eq, ?_⟩
      have kept : (system.standInLine link
          (.send (Reply.completed completion).encode)).2.executor = system.executor := by
        unfold System.standInLine
        split <;> rfl
      simp only [change, putWorker]
      rw [setStage_eq (by rw [kept]; exact worker_eq)]
  | some ticket =>
      simp only [worker_eq, stage_eq] at moved
      obtain ⟨socket, guard, socket_eq, ⟨polled, unserved, rfl⟩ |
        ⟨result, done, line, polled, standing, served, rfl⟩⟩ := System.pursue_cases moved
      · have deed_eq : workerDeed? system worker = none := by
          simp [workerDeed?, stage_eq, unserved]
        have kept : (system.setGuard link guard).executor.workers[id]? = some worker := worker_eq
        rw [deed_eq]
        exact ⟨_, _, .turns stage_eq socket_eq polled, (putWorker_self kept).symm⟩
      · have deed_eq : workerDeed? system worker =
            some (.answered link completion result.isOk) := by
          simp [workerDeed?, stage_eq, served]
        have kept : (system.setGuard link guard).executor.workers[id]? = some worker := worker_eq
        rw [deed_eq]
        refine ⟨_, _, .answers stage_eq socket_eq polled, ?_⟩
        simp only [change, putWorker, setStage_eq kept]

/-- Whatever a move of a worker comes to is one of the cases. -/
theorem moveWorker_cases (moved : (moveWorker id system).next? = some next) :
    ∃ worker worker' rest, system.executor.workers[id]? = some worker ∧
      WorkerMove system id worker (workerDeed? system worker) worker' rest ∧
      next = putWorker rest id worker' := by
  cases worker_eq : system.executor.workers[id]? with
  | none => simp [moveWorker, worker_eq, Move.next?] at moved
  | some worker =>
      cases stage_eq : worker.stage with
      | idle =>
          have deed_eq : workerDeed? system worker = none := by simp [workerDeed?, stage_eq]
          obtain ⟨worker', rest, move, eq⟩ := moveIdle_cases worker_eq stage_eq moved
          exact ⟨worker, worker', rest, rfl, deed_eq ▸ move, eq⟩
      | transferring request begun => simp [moveWorker, worker_eq, stage_eq, Move.next?] at moved
      | retiring request completion =>
          have deed_eq : workerDeed? system worker = some (.retired request) := by
            simp [workerDeed?, stage_eq]
          obtain ⟨worker', move, eq⟩ := moveRetiring_cases worker_eq stage_eq moved
          exact ⟨worker, worker', _, rfl, deed_eq ▸ move, eq⟩
      | replying link completion ticket =>
          obtain ⟨worker', rest, move, eq⟩ := moveReplying_cases worker_eq stage_eq moved
          exact ⟨worker, worker', rest, rfl, move, eq⟩
      | stopped => simp [moveWorker, worker_eq, stage_eq, Move.next?] at moved

end

/-! ### The moves of the pool -/

/-- A move of a job on the pool, with what it does. -/
inductive JobMove [UsbHandle Handle] (system : System (Host Handle)) (id : JobId) :
    Option Deed → System (Host Handle) → Prop
  | claims : JobMove system id none (change system (·.runClaim id))
  | releases (numbers : List UInt8) :
      JobMove system id none (change system fun host =>
        { host.dropJob id with handle := releaseAll host.handle numbers })
  | passes : JobMove system id none (change system (·.dropJob id))
  | fails {place : WorkerId} {worker : Worker} {request : SubmitRequest} {error : UsbError}
      (worker_eq : system.executor.workers[place]? = some worker)
      (stage_eq : worker.stage = .transferring request none)
      (unplanned : system.executor.plan request.submit = .error error) :
      JobMove system id none
        (putWorker (change system (·.dropJob id)) place { worker with
          stage := .retiring request
            (some (completion request.submit.header.seqnum (.error error))) })
  | begins {place : WorkerId} {worker : Worker} {request : SubmitRequest} {transfer : Transfer}
      (worker_eq : system.executor.workers[place]? = some worker)
      (stage_eq : worker.stage = .transferring request none)
      (planned : system.executor.plan request.submit = .ok transfer) :
      JobMove system id (some (.begun request))
        (putWorker
          (change system fun host =>
            { host.dropJob id with handle := (UsbHandle.transfer host.handle transfer).1 })
          place { worker with
            stage := .transferring request
              (some ((UsbHandle.transfer system.executor.handle transfer).2.map
                transfer.collect)) })

/-- The job of a transfer begins it, finds that there is no such transfer, or is too late. -/
theorem beginTransfer_cases [UsbHandle Handle] {id : JobId} {system : System (Host Handle)}
    {place : WorkerId}
    (found : (system.executor.jobs.find? (·.id == id)).map Job.task = some (.transfer place)) :
    JobMove system id ((begun? system id).map .begun)
      (change system (·.beginTransfer id place)) := by
  by_cases waiting : ∃ worker request, system.executor.workers[place]? = some worker ∧
      worker.stage = .transferring request none
  · obtain ⟨worker, request, worker_eq, stage_eq⟩ := waiting
    have kept : (system.executor.dropJob id).workers[place]? = some worker := worker_eq
    have same : (system.executor.dropJob id).plan request.submit =
        system.executor.plan request.submit := rfl
    cases planned : system.executor.plan request.submit with
    | error error =>
        have unbegun : begun? system id = none := by
          simp [begun?, found, worker_eq, stage_eq, planned]
        have went : JobMove system id none _ := .fails worker_eq stage_eq planned
        rw [unbegun]
        simpa [change, beginTransfer, kept, stage_eq, same, planned, setStage_eq kept, putWorker]
          using went
    | ok transfer =>
        have begun : begun? system id = some request := by
          simp [begun?, found, worker_eq, stage_eq, planned]
        have went : JobMove system id (some (.begun request)) _ :=
          .begins worker_eq stage_eq planned
        have kept' : ({ system.executor.dropJob id with
            handle := (UsbHandle.transfer system.executor.handle transfer).1 } :
              Host Handle).workers[place]? = some worker := worker_eq
        have handle_eq : (system.executor.dropJob id).handle = system.executor.handle := rfl
        simp only [putWorker, change, ← setStage_eq kept'] at went
        rw [begun]
        simpa [change, beginTransfer, kept, stage_eq, same, planned, handle_eq] using went
  · have idle : ∀ request, (system.executor.workers[place]?).map Worker.stage ≠
        some (.transferring request none) := by
      intro request stage_eq
      obtain ⟨worker, worker_eq, stage_eq⟩ := Option.map_eq_some_iff.1 stage_eq
      exact waiting ⟨worker, request, worker_eq, stage_eq⟩
    have unbegun : begun? system id = none := by
      unfold begun?
      rw [found]
      dsimp only
      split
      · next request stage_eq => exact absurd stage_eq (idle request)
      · rfl
    have passes : beginTransfer system.executor id place = system.executor.dropJob id := by
      unfold beginTransfer
      dsimp only
      split
      · next request stage_eq => exact absurd stage_eq (idle request)
      · rfl
    rw [unbegun, change, passes]
    exact .passes

theorem moveJob_cases [UsbHandle Handle] {id : JobId} {system next : System (Host Handle)}
    (moved : (moveJob id system).next? = some next) :
    JobMove system id ((begun? system id).map .begun) next := by
  unfold moveJob at moved
  cases found : system.executor.jobs.find? (·.id == id) with
  | none => simp [found, Move.next?] at moved
  | some job =>
      obtain ⟨number, task⟩ := job
      cases task with
      | claim =>
          have unbegun : begun? system id = none := by simp [begun?, found]
          cases transferring : system.executor.isTransferring with
          | true => simp [found, transferring, Move.next?] at moved
          | false =>
              simp only [found, transferring, Bool.false_eq_true, if_false, Move.next?,
                Option.some.injEq] at moved
              subst moved
              rw [unbegun]
              exact .claims
      | release numbers =>
          have unbegun : begun? system id = none := by simp [begun?, found]
          cases transferring : system.executor.isTransferring with
          | true => simp [found, transferring, Move.next?] at moved
          | false =>
              simp only [found, transferring, Bool.false_eq_true, if_false, Move.next?,
                Option.some.injEq] at moved
              subst moved
              rw [unbegun]
              exact .releases numbers
      | transfer place =>
          simp only [found, Move.next?, Option.some.injEq] at moved
          subst moved
          exact beginTransfer_cases (by rw [found]; rfl)

/-- The end of a transfer: the worker goes on with its outcome. -/
theorem finishTransfer_cases [UsbHandle Handle] {id : WorkerId} {system next : System (Host Handle)}
    (moved : (finishTransfer id system).next? = some next) :
    ∃ worker request outcome, system.executor.workers[id]? = some worker ∧
      worker.stage = .transferring request (some outcome) ∧
      next = putWorker system id { worker with
        stage := .retiring request
          (some (completion request.submit.header.seqnum outcome)) } := by
  unfold finishTransfer at moved
  split at moved
  · next request outcome stage_eq =>
      obtain ⟨worker, worker_eq, stage_eq⟩ := Option.map_eq_some_iff.1 stage_eq
      split at moved
      · simp only [Move.next?, Option.some.injEq] at moved
        refine ⟨worker, request, outcome, worker_eq, stage_eq, ?_⟩
        rw [← moved, change, setStage_eq worker_eq]
        rfl
      · simp [Move.next?] at moved
  · simp [Move.next?] at moved

end UsbExport.Host

import UsbExport.Proofs.Host.Desk

/-!
Workers and the pool. Whoever waits for a transfer to begin has a job for it on the pool, and a
worker that has stopped has nothing left to do and gets nothing more. So no URB is ever stuck in the
hands of the executor.
-/

namespace UsbExport.Host

open Dispatch Socket

variable {Handle : Type}

/-- The task that the pool runs under a number. -/
def task? (host : Host Handle) (id : JobId) : Option Task :=
  (host.jobs.find? (·.id == id)).map Job.task

structure Staffed (host : Host Handle) : Prop where
  numbered : ∀ job ∈ host.jobs, job.id < host.issued
  provided : ∀ (place : WorkerId) (worker : Worker) (request : SubmitRequest),
    host.workers[place]? = some worker → worker.stage = .transferring request none →
      ∃ id, host.task? id = some (.transfer place)
  dismissed : ∀ (place : WorkerId) (worker : Worker), host.workers[place]? = some worker →
    worker.stage = .stopped → worker.isRegistered = false ∧ worker.queue = []

theorem PoolGrows.task? {host host' : Host Handle} (pool : PoolGrows host host') {id : JobId}
    {task : Task} (found : host.task? id = some task) : host'.task? id = some task := by
  unfold Host.task? at found ⊢
  rcases pool with ⟨jobs_eq, -⟩ | ⟨more, jobs_eq, -⟩ <;> rw [jobs_eq]
  · exact found
  · obtain ⟨job, job_eq, same⟩ := Option.map_eq_some_iff.1 found
    rw [List.find?_append, job_eq]
    exact congrArg some same

theorem PoolGrows.numbered {host host' : Host Handle} (pool : PoolGrows host host')
    (numbered : ∀ job ∈ host.jobs, job.id < host.issued) :
    ∀ job ∈ host'.jobs, job.id < host'.issued := by
  rcases pool with ⟨jobs_eq, issued_eq⟩ | ⟨task, jobs_eq, issued_eq⟩ <;> rw [jobs_eq, issued_eq]
  · exact numbered
  · intro job member
    rcases List.mem_append.1 member with old | new
    · exact Nat.lt_succ_of_lt (numbered job old)
    · rw [List.mem_singleton.1 new]
      exact Nat.lt_succ_self _

theorem task?_dropJob {host : Host Handle} {id other : JobId} (apart : other ≠ id) :
    (host.dropJob id).task? other = host.task? other := by
  unfold task? dropJob
  rw [List.find?_filter]
  congr 2
  funext job
  by_cases here : job.id = other
  · simp [here, apart]
  · simp [here]

/-- A new job has a number that no other job has. -/
theorem task?_addJob {host : Host Handle} (numbered : ∀ job ∈ host.jobs, job.id < host.issued)
    (task : Task) : (host.addJob task).2.task? host.issued = some task := by
  have unused : host.jobs.find? (·.id == host.issued) = none := by
    rw [List.find?_eq_none]
    intro job member same
    exact Nat.ne_of_lt (numbered job member) (by simpa using same)
  show Option.map Job.task (List.find? _ (host.jobs ++ [_])) = _
  rw [List.find?_append, unused]
  simp

namespace Staffed

variable {host host' : Host Handle}

/-- The pool may grow, workers may be dismissed, and URBs may come to those that are not. -/
theorem grow (staffed : Staffed host) (pool : PoolGrows host host')
    (same : ∀ (place : WorkerId) (worker' : Worker), host'.workers[place]? = some worker' →
      worker'.stage = .idle ∨ ∃ worker, host.workers[place]? = some worker ∧
        worker'.stage = worker.stage ∧ (worker.isRegistered = false →
          worker'.isRegistered = false ∧ worker'.queue = worker.queue)) : Staffed host' where
  numbered := pool.numbered staffed.numbered
  provided := by
    intro place worker' request worker_eq stage_eq
    rcases same place worker' worker_eq with idle | ⟨worker, was, stage_eq', -⟩
    · rw [idle] at stage_eq
      cases stage_eq
    · obtain ⟨id, found⟩ := staffed.provided place worker request was (stage_eq' ▸ stage_eq)
      exact ⟨id, pool.task? found⟩
  dismissed := by
    intro place worker' worker_eq stage_eq
    rcases same place worker' worker_eq with idle | ⟨worker, was, stage_eq', kept⟩
    · rw [idle] at stage_eq
      cases stage_eq
    · obtain ⟨unregistered, empty⟩ := staffed.dismissed place worker was (stage_eq' ▸ stage_eq)
      obtain ⟨unregistered', queue_eq⟩ := kept unregistered
      exact ⟨unregistered', queue_eq.trans empty⟩

theorem of_workers_eq (staffed : Staffed host) (pool : PoolGrows host host')
    (workers_eq : host'.workers = host.workers) : Staffed host' :=
  staffed.grow pool fun _ worker' worker_eq =>
    Or.inr ⟨worker', workers_eq ▸ worker_eq, rfl, fun unregistered => ⟨unregistered, rfl⟩⟩

theorem still (staffed : Staffed host) (still : HoldsStill host host') : Staffed host' :=
  staffed.of_workers_eq still.pool still.workers_eq

theorem release (staffed : Staffed host) : Staffed host.release := by
  have forgotten : Staffed { host.forgetUrbs with claimed := [] } := by
    refine staffed.grow (Or.inl ⟨rfl, rfl⟩) fun place worker' worker_eq => Or.inr ?_
    obtain ⟨worker, was, rfl⟩ : ∃ worker, host.workers[place]? = some worker ∧
        { worker with isRegistered := false } = worker' := by
      simpa [forgetUrbs] using worker_eq
    exact ⟨worker, was, rfl, fun _ => ⟨rfl, rfl⟩⟩
  unfold Host.release
  dsimp only
  split
  · exact forgotten
  · exact forgotten.of_workers_eq (Or.inr ⟨_, rfl, rfl⟩) rfl

/-- A submit goes to a worker that still gets URBs, or to a new one. -/
theorem accept (staffed : Staffed host) (request : SubmitRequest) :
    Staffed (host.accept request) := by
  have unmoved {place : WorkerId} {worker : Worker}
      (worker_eq : host.workers[place]? = some worker) :
      worker.stage = .idle ∨ ∃ earlier, host.workers[place]? = some earlier ∧
        worker.stage = earlier.stage ∧ (earlier.isRegistered = false →
          worker.isRegistered = false ∧ worker.queue = earlier.queue) :=
    Or.inr ⟨worker, worker_eq, rfl, fun unregistered => ⟨unregistered, rfl⟩⟩
  unfold Host.accept enqueue
  dsimp only
  split
  · next id found =>
      refine staffed.grow (Or.inl ⟨rfl, rfl⟩) fun place worker' worker_eq => ?_
      rw [List.getElem?_modify] at worker_eq
      obtain ⟨worker, was, rfl⟩ := Option.map_eq_some_iff.1 worker_eq
      by_cases here : id = place
      · subst here
        obtain ⟨short, chosen, -⟩ := List.findIdx?_eq_some_iff_getElem.1 found
        rw [List.getElem?_eq_getElem short] at was
        obtain rfl := Option.some.inj was
        rw [Bool.and_eq_true] at chosen
        refine Or.inr ⟨_, List.getElem?_eq_getElem short, by simp, fun unregistered => ?_⟩
        cases chosen.1.symm.trans unregistered
      · rw [if_neg here]
        exact unmoved was
  · refine staffed.grow (Or.inl ⟨rfl, rfl⟩) fun place worker' worker_eq => ?_
    rw [List.getElem?_append] at worker_eq
    split at worker_eq
    · exact unmoved worker_eq
    · left
      rw [List.getElem?_singleton] at worker_eq
      split at worker_eq <;> cases worker_eq
      rfl

/-- One worker goes on. -/
theorem setWorker (staffed : Staffed host) {id : WorkerId} {worker' : Worker}
    (provided : ∀ request, worker'.stage = .transferring request none →
      ∃ job, host.task? job = some (.transfer id))
    (dismissed : worker'.stage = .stopped → worker'.isRegistered = false ∧ worker'.queue = []) :
    Staffed (host.setWorker id worker') := by
  refine ⟨staffed.numbered, fun place worker request worker_eq stage_eq => ?_,
    fun place worker worker_eq stage_eq => ?_⟩
  all_goals
    simp only [Host.setWorker, List.getElem?_set] at worker_eq
    split at worker_eq
  · next here =>
      split at worker_eq <;> cases worker_eq
      exact here ▸ provided request stage_eq
  · exact staffed.provided place worker request worker_eq stage_eq
  · split at worker_eq <;> cases worker_eq
    exact dismissed stage_eq
  · exact staffed.dismissed place worker worker_eq stage_eq

end Staffed

/-! ### Every event keeps it -/

section

variable {system next : System (Host Handle)}

theorem SessionMove.staffed {visit : Visit} {deed : Option Session.Deed}
    (move : system.SessionMove visit deed next) (staffed : Staffed system.executor) :
    Staffed next.executor := by
  cases move with
  | @stood errand wanted unset =>
      obtain ⟨links, frame, -⟩ := standInLine_frame system visit.link errand
      rw [frame]
      exact staffed
  | cancelled stage_eq => exact staffed.of_workers_eq (Or.inl ⟨rfl, rfl⟩) rfl
  | released stage_eq => exact staffed.release
  | _ => exact staffed

theorem RequestMove.staffed {note : Option Note} (move : RequestMove system note next)
    (staffed : Staffed system.executor) : Staffed next.executor := by
  have same {host : Host Handle} (jobs_eq : host.jobs = system.executor.jobs)
      (issued_eq : host.issued = system.executor.issued)
      (workers_eq : host.workers = system.executor.workers) : Staffed host :=
    staffed.of_workers_eq (Or.inl ⟨jobs_eq, issued_eq⟩) workers_eq
  cases move with
  | @listStands version link slot loop_eq =>
      obtain ⟨links, frame, -⟩ := standInLine_frame system link
        (.send (Reply.listOf version [system.executor.device]).encode)
      rw [frame]
      exact same rfl rfl rfl
  | @imports order stage note next loop_eq move =>
      cases move with
      | goesOn still bid_eq unplaced =>
          exact (staffed.still still).of_workers_eq (Or.inl ⟨rfl, rfl⟩) rfl
      | @stands accepted stage_eq =>
          obtain ⟨links, frame, -⟩ := standInLine_frame system order.reply
            (.send (importReply system.executor order.version accepted).encode)
          rw [frame]
          exact same rfl rfl rfl
      | unclaims stage_eq =>
          exact staffed.release.of_workers_eq (Or.inl ⟨rfl, rfl⟩) rfl
      | _ => exact same rfl rfl rfl
  | _ => exact same rfl rfl rfl

theorem LoopTurn.staffed {note : Option Note} (turn : LoopTurn system note next)
    (staffed : Staffed system.executor) : Staffed next.executor := by
  cases turn with
  | @takesControl request control idle taken =>
      obtain ⟨loop, frame, -⟩ := handleControl_eq { system with control } idle request
      rw [frame]
      exact staffed.of_workers_eq (Or.inl ⟨rfl, rfl⟩) rfl
  | takesSubmit idle taken => exact staffed.accept _
  | attends move => exact move.staffed staffed

theorem WorkerMove.staffed {rest : System (Host Handle)} {id : WorkerId} {worker worker' : Worker}
    {deed : Option Deed} (worker_eq : system.executor.workers[id]? = some worker)
    (move : WorkerMove system id worker deed worker' rest) (staffed : Staffed system.executor) :
    Staffed (putWorker rest id worker').executor := by
  cases move with
  | takes idle queue_eq busy wanted =>
      have grown : Staffed (system.executor.addJob (.transfer id)).2 :=
        staffed.of_workers_eq (Or.inr ⟨_, rfl, rfl⟩) rfl
      exact grown.setWorker (fun _ _ => ⟨_, task?_addJob staffed.numbered _⟩) nofun
  | stops idle empty dismissed => exact staffed.setWorker nofun fun _ => ⟨dismissed, empty⟩
  | @drops request completion stage_eq unwanted =>
      have same : Staffed (retire system request).2.executor :=
        staffed.of_workers_eq (Or.inl ⟨rfl, rfl⟩) rfl
      exact same.setWorker nofun nofun
  | @reports request completion stage_eq wanted =>
      have same : Staffed (retire system request).2.executor :=
        staffed.of_workers_eq (Or.inl ⟨rfl, rfl⟩) rfl
      exact same.setWorker nofun nofun
  | @stands link completion stage_eq =>
      obtain ⟨links, frame, -⟩ :=
        standInLine_frame system link (.send (Reply.completed completion).encode)
      rw [frame]
      exact staffed.setWorker nofun nofun
  | @turns link completion ticket socket guard stage_eq socket_eq polled =>
      have same : putWorker (system.setGuard link guard) id worker = system.setGuard link guard :=
        putWorker_self worker_eq
      rw [same]
      exact staffed
  | _ => exact staffed.setWorker nofun nofun

/-- A job that is done is missed by nobody. -/
theorem Staffed.dropJob {host host' : Host Handle} (staffed : Staffed host) {id : JobId}
    (jobs_eq : host'.jobs = (host.dropJob id).jobs) (issued_eq : host'.issued = host.issued)
    (workers_eq : host'.workers = host.workers)
    (idle : ∀ place, host.task? id = some (.transfer place) →
      ∀ (worker : Worker) (request : SubmitRequest), host.workers[place]? = some worker →
        worker.stage ≠ .transferring request none) : Staffed host' where
  numbered := by
    rw [jobs_eq, issued_eq]
    exact fun job member => staffed.numbered job (List.mem_filter.1 member).1
  provided := by
    rw [workers_eq]
    intro place worker request worker_eq stage_eq
    obtain ⟨other, found⟩ := staffed.provided place worker request worker_eq stage_eq
    have apart : other ≠ id := by
      rintro rfl
      exact idle place found worker request worker_eq stage_eq
    have kept : (host.dropJob id).task? other = host.task? other := task?_dropJob apart
    refine ⟨other, Eq.trans ?_ (kept.trans found)⟩
    exact congrArg (fun jobs => (jobs.find? (·.id == other)).map Job.task) jobs_eq
  dismissed := workers_eq ▸ staffed.dismissed

theorem runClaim_frame [UsbHandle Handle] (host : Host Handle) (id : JobId) :
    (host.runClaim id).jobs = (host.dropJob id).jobs ∧ (host.runClaim id).issued = host.issued ∧
      (host.runClaim id).workers = host.workers := by
  unfold runClaim
  dsimp only
  split
  · split <;> exact ⟨rfl, rfl, rfl⟩
  · exact ⟨rfl, rfl, rfl⟩

/-- The job of a transfer brings its worker an outcome, or the refusal of the transfer. -/
theorem beginTransfer_frame [UsbHandle Handle] {host : Host Handle} {place : WorkerId}
    {worker : Worker} {request : SubmitRequest} (worker_eq : host.workers[place]? = some worker)
    (stage_eq : worker.stage = .transferring request none) (id : JobId) :
    ∃ stage, ((∃ completion, stage = .retiring request (some completion)) ∨
        ∃ outcome, stage = .transferring request (some outcome)) ∧
      (host.beginTransfer id place).workers = (host.setWorker place { worker with stage }).workers ∧
      (host.beginTransfer id place).jobs = (host.dropJob id).jobs ∧
      (host.beginTransfer id place).issued = host.issued := by
  have found : ((host.dropJob id).workers[place]?).map Worker.stage =
      some (.transferring request none) := by
    show (host.workers[place]?).map _ = _
    rw [worker_eq, Option.map_some, stage_eq]
  have set_eq (stage : WorkerStage) : (host.setStage place stage).workers =
      (host.setWorker place { worker with stage }).workers := by
    rw [setStage_eq worker_eq]
  unfold Host.beginTransfer
  simp only [found]
  split
  · exact ⟨_, Or.inl ⟨_, rfl⟩, set_eq _, rfl, rfl⟩
  · exact ⟨_, Or.inr ⟨_, rfl⟩, set_eq _, rfl, rfl⟩

theorem Staffed.beginTransfer [UsbHandle Handle] {host : Host Handle} (staffed : Staffed host)
    {id : JobId} {place : WorkerId} (found : host.task? id = some (.transfer place)) :
    Staffed (host.beginTransfer id place) := by
  have only {other : WorkerId} (found' : host.task? id = some (.transfer other)) :
      other = place := by
    cases found.symm.trans found'
    rfl
  by_cases waiting : ∃ worker request, host.workers[place]? = some worker ∧
      worker.stage = .transferring request none
  · obtain ⟨worker, request, worker_eq, stage_eq⟩ := waiting
    obtain ⟨stage, served, workers_eq, jobs_eq, issued_eq⟩ :=
      beginTransfer_frame worker_eq stage_eq id
    have busy : ∀ request, stage ≠ .transferring request none := by
      rcases served with ⟨completion, rfl⟩ | ⟨outcome, rfl⟩ <;> simp
    have unstopped : stage ≠ .stopped := by
      rcases served with ⟨completion, rfl⟩ | ⟨outcome, rfl⟩ <;> simp
    -- the worker goes on first, so that nobody misses the job
    have stepped : Staffed (host.setWorker place { worker with stage }) :=
      staffed.setWorker (fun request eq => absurd eq (busy request)) fun eq => absurd eq unstopped
    refine stepped.dropJob jobs_eq issued_eq workers_eq fun other found' later request' eq => ?_
    obtain ⟨short, -⟩ := List.getElem?_eq_some_iff.1 worker_eq
    rw [only found', Host.setWorker, List.getElem?_set_self short] at eq
    obtain rfl := Option.some.inj eq
    exact busy request'
  · have passes : host.beginTransfer id place = host.dropJob id := by
      unfold Host.beginTransfer
      dsimp only
      split
      · next request stage_eq =>
          obtain ⟨worker, worker_eq, stage_eq⟩ := Option.map_eq_some_iff.1 stage_eq
          exact absurd ⟨worker, request, worker_eq, stage_eq⟩ waiting
      · rfl
    rw [passes]
    refine staffed.dropJob rfl rfl rfl fun other found' worker request worker_eq stage_eq => ?_
    exact waiting ⟨worker, request, only found' ▸ worker_eq, stage_eq⟩

theorem moveJob_staffed [UsbHandle Handle] {id : JobId}
    (moved : (moveJob id system).next? = some next) (staffed : Staffed system.executor) :
    Staffed next.executor := by
  unfold moveJob at moved
  cases job_eq : system.executor.jobs.find? (·.id == id) with
  | none => simp [job_eq, Move.next?] at moved
  | some job =>
      have found : system.executor.task? id = some job.task := by rw [task?, job_eq]; rfl
      simp only [job_eq] at moved
      cases task_eq : job.task with
      | claim =>
          simp only [task_eq] at moved
          split at moved <;> cases moved
          obtain ⟨jobs_eq, issued_eq, workers_eq⟩ := runClaim_frame system.executor id
          refine staffed.dropJob jobs_eq issued_eq workers_eq fun place found' => ?_
          cases task_eq.symm.trans (Option.some.inj (found.symm.trans found'))
      | release numbers =>
          simp only [task_eq] at moved
          split at moved <;> cases moved
          refine staffed.dropJob rfl rfl rfl fun place found' => ?_
          cases task_eq.symm.trans (Option.some.inj (found.symm.trans found'))
      | transfer place =>
          simp only [task_eq] at moved
          cases moved
          exact staffed.beginTransfer (task_eq ▸ found)

end

theorem step_staffed [UsbHandle Handle] {server next : Server (Host Handle)}
    {event : Server.Event Party} (happened : Server.step company server event = some next)
    (staffed : Staffed server.system.executor) : Staffed next.system.executor := by
  cases event with
  | move party =>
      cases party with
      | acceptor =>
          obtain ⟨-, ⟨_, _, _, _, rfl⟩ | ⟨_, _, _, _, rfl⟩⟩ :=
            Server.moveAcceptor_cases happened <;> exact staffed
      | inner party =>
          obtain ⟨system, moved, rfl⟩ := Server.inner_of_step happened
          cases party with
          | session =>
              obtain ⟨visit, -, move⟩ := System.moveSession_cases moved
              exact SessionMove.staffed move staffed
          | loop preference => exact (moveLoop_turn moved).staffed staffed
          | worker id =>
              obtain ⟨worker, worker', rest, worker_eq, move, rfl⟩ := moveWorker_cases moved
              exact move.staffed worker_eq staffed
          | job id => exact moveJob_staffed moved staffed
          | transfer id =>
              obtain ⟨worker, request, outcome, -, -, rfl⟩ := finishTransfer_cases moved
              exact staffed.setWorker nofun nofun
  | _ =>
      obtain rfl := Option.some.inj happened
      exact staffed

theorem Chronicle.staffed [UsbHandle Handle] {start server : Server (Host Handle)}
    {notes : List Note} (chronicle : Chronicle start notes server) (fresh : Fresh start)
    (unasked : start.system.executor.jobs = []) : Staffed server.system.executor := by
  induction chronicle with
  | start => exact ⟨by simp [unasked], by simp [fresh.unemployed], by simp [fresh.unemployed]⟩
  | step _ _ happened ih => exact step_staffed happened ih

end UsbExport.Host

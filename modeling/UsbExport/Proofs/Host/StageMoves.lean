import UsbExport.Proofs.Host.Ledger

/-!
What an event at a server can make of the stage of a worker. Whoever takes up a URB, begins its
transfer, takes it out of the books or reports it, does so from the stage before; all other workers
stay where they are.
-/

namespace UsbExport.Host

open Dispatch Socket

variable {Handle : Type}

/-- From one stage of a worker to the next, with what the system has to do with it. -/
inductive StageMove [UsbHandle Handle] (system : System (Host Handle)) :
    WorkerStage → WorkerStage → Prop
  | skips {request : SubmitRequest} (skip : system.flags.busy = false ∨
      request.seqnum ∈ system.executor.urbs.unlinked) :
      StageMove system .idle (.retiring request none)
  | takes {request : SubmitRequest} : StageMove system .idle (.transferring request none)
  | stops : StageMove system .idle .stopped
  | fails {request : SubmitRequest} {error : UsbError}
      (unplanned : system.executor.plan request.submit = .error error) :
      StageMove system (.transferring request none)
        (.retiring request (some (completion request.seqnum (.error error))))
  | begins {request : SubmitRequest} {transfer : Transfer}
      (planned : system.executor.plan request.submit = .ok transfer) :
      StageMove system (.transferring request none)
        (.transferring request
          (some ((UsbHandle.transfer system.executor.handle transfer).2.map transfer.collect)))
  | ends {request : SubmitRequest} {outcome : Except UsbError Transferred} :
      StageMove system (.transferring request (some outcome))
        (.retiring request (some (completion request.seqnum outcome)))
  | drops {request : SubmitRequest} {completion : Option Completion} :
      StageMove system (.retiring request completion) .idle
  | reports {request : SubmitRequest} {completion : Completion} :
      StageMove system (.retiring request (some completion))
        (.replying request.reply completion none)
  | stands {link : LinkId} {completion : Completion} {ticket : Ticket} :
      StageMove system (.replying link completion none) (.replying link completion (some ticket))
  | answers {link : LinkId} {completion : Completion} {ticket : Ticket} :
      StageMove system (.replying link completion (some ticket)) .idle

theorem WorkerMove.stageMove [UsbHandle Handle] {system rest : System (Host Handle)} {id : WorkerId}
    {worker worker' : Worker} {deed : Option Deed}
    (move : WorkerMove system id worker deed worker' rest) :
    worker.stage = worker'.stage ∨ StageMove system worker.stage worker'.stage := by
  cases move with
  | skips idle queue_eq skip => exact Or.inr (by rw [idle]; exact .skips skip)
  | takes idle queue_eq busy wanted => exact Or.inr (by rw [idle]; exact .takes)
  | stops idle empty dismissed => exact Or.inr (by rw [idle]; exact .stops)
  | drops stage_eq unwanted => exact Or.inr (by rw [stage_eq]; exact .drops)
  | reports stage_eq wanted => exact Or.inr (by rw [stage_eq]; exact .reports)
  | stands stage_eq => exact Or.inr (by rw [stage_eq]; exact .stands)
  | turns stage_eq socket_eq polled => exact Or.inl rfl
  | answers stage_eq socket_eq polled => exact Or.inr (by rw [stage_eq]; exact .answers)

theorem SessionMove.works_eq {system next : System (Host Handle)} {visit : Visit}
    {deed : Option Session.Deed} (move : system.SessionMove visit deed next) :
    (ledger next).works = (ledger system).works := by
  cases move with
  | @stood errand wanted unset =>
      obtain ⟨links, frame, -⟩ := standInLine_frame system visit.link errand
      rw [frame]
      rfl
  | released stage_eq => exact system.executor.release_frame.1
  | _ => rfl

/-- A worker that is put in its place is the only one that may differ. -/
theorem mem_works_putWorker {system rest : System (Host Handle)} {id : WorkerId}
    {worker worker' : Worker} (worker_eq : system.executor.workers[id]? = some worker)
    (workers_eq : rest.executor.workers = system.executor.workers) {work : Work}
    (member : work ∈ (ledger (putWorker rest id worker')).works) :
    work = worker'.work ∨ work ∈ (ledger system).works := by
  obtain ⟨front, back, works_eq, set_eq⟩ := exists_works worker_eq
  have eq : (ledger (putWorker rest id worker')).works = front ++ worker'.work :: back := by
    rw [← set_eq, ← workers_eq]
    rfl
  rw [eq, List.mem_append, List.mem_cons] at member
  rw [show (ledger system).works = _ from works_eq, List.mem_append, List.mem_cons]
  rcases member with member | here | member
  · exact Or.inr (Or.inl member)
  · exact Or.inl here
  · exact Or.inr (Or.inr (Or.inr member))

/-- A submit that comes to a worker leaves all workers where they are. -/
theorem LedgerStep.stage_of_accepted {before after : Ledger} {request : SubmitRequest}
    (step : LedgerStep before (some (.accepted request)) after) {work : Work}
    (member : work ∈ after.works) :
    work.stage = .idle ∨ ∃ earlier ∈ before.works, earlier.stage = work.stage := by
  cases step with
  | @accepts request waiting front back earlier urbs =>
      rcases List.mem_append.1 member with member | member
      · exact Or.inr ⟨work, by simp [member], rfl⟩
      · rcases List.mem_cons.1 member with rfl | member
        · exact Or.inr ⟨earlier, by simp, rfl⟩
        · exact Or.inr ⟨work, by simp [member], rfl⟩
  | employs =>
      rcases List.mem_append.1 member with member | member
      · exact Or.inr ⟨work, member, rfl⟩
      · exact Or.inl (by rw [List.mem_singleton.1 member])
  | works step => cases step
  | rests quiet => exact (quiet _ rfl).elim

/-- Where a worker can have come from that is in a stage now. -/
def CameFrom [UsbHandle Handle] (system : System (Host Handle)) (stage : WorkerStage) : Prop :=
  stage = .idle ∨ ∃ earlier ∈ (ledger system).works,
    earlier.stage = stage ∨ StageMove system earlier.stage stage

theorem ExecutorMove.cameFrom [UsbHandle Handle] {system next : System (Host Handle)}
    {deed : Option Deed} (move : ExecutorMove system deed next) {work : Work}
    (member : work ∈ (ledger next).works) : CameFrom system work.stage := by
  have old (found : work ∈ (ledger system).works) : CameFrom system work.stage :=
    Or.inr ⟨work, found, Or.inl rfl⟩
  have put {rest : System (Host Handle)} {id : WorkerId} {worker worker' : Worker}
      (worker_eq : system.executor.workers[id]? = some worker)
      (workers_eq : rest.executor.workers = system.executor.workers)
      (member : work ∈ (ledger (putWorker rest id worker')).works)
      (went : worker.stage = worker'.stage ∨ StageMove system worker.stage worker'.stage) :
      CameFrom system work.stage := by
    rcases mem_works_putWorker worker_eq workers_eq member with rfl | found
    · exact Or.inr ⟨_, List.mem_map_of_mem (List.mem_of_getElem? worker_eq), went⟩
    · exact old found
  cases move with
  | loop move =>
      have step := loop_ledgerStep move
      cases move with
      | takesControl idle taken =>
          refine old ?_
          unfold handleControl at member
          split at member <;> exact member
      | takesSubmit idle taken =>
          refine (step.stage_of_accepted member).imp_right fun ⟨earlier, found, same⟩ => ?_
          exact ⟨earlier, found, Or.inl same⟩
      | attends working attends =>
          rw [show (ledger next).works = _ from attends.works_eq] at member
          exact old member
  | worker worker_eq move => exact put worker_eq move.frame.1 member move.stageMove
  | @job id deed next move =>
      cases move with
      | claims =>
          have kept := (runClaim_attends system id).works_eq
          rw [show (ledger (change system (·.runClaim id))).works = _ from kept] at member
          exact old member
      | releases numbers => exact old member
      | passes => exact old member
      | fails worker_eq stage_eq unplanned =>
          exact put worker_eq rfl member (Or.inr (by rw [stage_eq]; exact .fails unplanned))
      | begins worker_eq stage_eq planned =>
          exact put worker_eq rfl member (Or.inr (by rw [stage_eq]; exact .begins planned))
  | transfer worker_eq stage_eq =>
      exact put worker_eq rfl member (Or.inr (by rw [stage_eq]; exact .ends))

theorem Happening.cameFrom [UsbHandle Handle] {server next : Server (Host Handle)}
    {deed : Option Deed} (happening : Happening server deed next) :
    ∀ work ∈ (ledger next.system).works, CameFrom server.system work.stage := by
  intro work member
  cases happening with
  | session visit_eq move =>
      exact Or.inr ⟨work, SessionMove.works_eq move ▸ member, Or.inl rfl⟩
  | executor move => exact move.cameFrom member
  | _ => exact Or.inr ⟨work, member, Or.inl rfl⟩

end UsbExport.Host

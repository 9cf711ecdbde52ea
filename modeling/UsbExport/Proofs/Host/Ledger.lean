import UsbExport.Proofs.Host.History

/-!
Where the URBs of a server stand: in the data channel, with a worker, and in the books of the
executor. Every event at the server is one of the few things that can happen to them.
-/

namespace UsbExport

def Dispatch.SubmitRequest.seqnum (request : Dispatch.SubmitRequest) : UInt32 :=
  request.submit.header.seqnum

namespace Host

open Dispatch Socket

variable {Handle : Type}

/-- The data channel, the workers, and the books. -/
structure Ledger where
  waiting : List SubmitRequest
  works : List Work
  urbs : Urbs

def ledger (system : System (Host Handle)) : Ledger where
  waiting := system.data.queue
  works := system.executor.workers.map Worker.work
  urbs := system.executor.urbs

/-- What can happen to the URBs of one worker, with the books after it. -/
inductive WorkStep (urbs : Urbs) : Work → Option Deed → Work → Urbs → Prop
  | skips {request : SubmitRequest} {queue : List SubmitRequest} :
      WorkStep urbs ⟨request :: queue, .idle⟩ none ⟨queue, .retiring request none⟩ urbs
  | takes {request : SubmitRequest} {queue : List SubmitRequest}
      (wanted : request.seqnum ∉ urbs.unlinked) :
      WorkStep urbs ⟨request :: queue, .idle⟩ none ⟨queue, .transferring request none⟩ urbs
  | begins {request : SubmitRequest} {queue : List SubmitRequest}
      (outcome : Except UsbError Transferred) :
      WorkStep urbs ⟨queue, .transferring request none⟩ (some (.begun request))
        ⟨queue, .transferring request (some outcome)⟩ urbs
  | ends {request : SubmitRequest} {queue : List SubmitRequest}
      {begun : Option (Except UsbError Transferred)} {completion : Completion}
      (seqnum_eq : completion.header.seqnum = request.seqnum) :
      WorkStep urbs ⟨queue, .transferring request begun⟩ none
        ⟨queue, .retiring request (some completion)⟩ urbs
  | drops {request : SubmitRequest} {queue : List SubmitRequest} {completion : Option Completion}
      (unwanted : completion = none ∨ request.seqnum ∈ urbs.unlinked) :
      WorkStep urbs ⟨queue, .retiring request completion⟩ (some (.retired request)) ⟨queue, .idle⟩
        (urbs.retire request.seqnum)
  | reports {request : SubmitRequest} {queue : List SubmitRequest} {completion : Completion}
      (wanted : request.seqnum ∉ urbs.unlinked) :
      WorkStep urbs ⟨queue, .retiring request (some completion)⟩ (some (.retired request))
        ⟨queue, .replying request.reply completion none⟩ (urbs.retire request.seqnum)
  | stands {link : LinkId} {completion : Completion} {queue : List SubmitRequest}
      (ticket : Ticket) :
      WorkStep urbs ⟨queue, .replying link completion none⟩ (some (.answering link completion))
        ⟨queue, .replying link completion (some ticket)⟩ urbs
  | answers {link : LinkId} {completion : Completion} {queue : List SubmitRequest}
      {ticket : Ticket} (succeeded : Bool) :
      WorkStep urbs ⟨queue, .replying link completion (some ticket)⟩
        (some (.answered link completion succeeded)) ⟨queue, .idle⟩ urbs
  | stops : WorkStep urbs ⟨[], .idle⟩ none ⟨[], .stopped⟩ urbs

/-- A deed that leaves the URBs where they are. -/
def Deed.IsQuiet : Deed → Prop
  | .session _ (.offered _ true) | .session _ (.cancelled _) | .session _ .released => False
  | .session _ _ => True
  | _ => False

/-- What can happen to the URBs of a server. -/
inductive LedgerStep : Ledger → Option Deed → Ledger → Prop
  | posts {before : Ledger} (link : LinkId) (submit : Submit) :
      LedgerStep before (some (.session link (.offered submit true)))
        { before with waiting := before.waiting ++ [⟨submit, link⟩] }
  | accepts {request : SubmitRequest} {waiting : List SubmitRequest} {front back : List Work}
      {work : Work} {urbs : Urbs} :
      LedgerStep ⟨request :: waiting, front ++ work :: back, urbs⟩ (some (.accepted request))
        ⟨waiting, front ++ { work with queue := work.queue ++ [request] } :: back,
          urbs.submit request.seqnum⟩
  | employs {request : SubmitRequest} {waiting : List SubmitRequest} {works : List Work}
      {urbs : Urbs} :
      LedgerStep ⟨request :: waiting, works, urbs⟩ (some (.accepted request))
        ⟨waiting, works ++ [⟨[request], .idle⟩], urbs.submit request.seqnum⟩
  | cancels {before : Ledger} (link : LinkId) (target : UInt32) :
      LedgerStep before (some (.session link (.cancelled target)))
        { before with urbs := before.urbs.unlink target }
  | releases {before : Ledger} (link : LinkId) :
      LedgerStep before (some (.session link .released)) { before with urbs := {} }
  | clears {before : Ledger} :
      LedgerStep before (some .cleared) { before with urbs := {} }
  | works {waiting : List SubmitRequest} {front back : List Work} {work work' : Work}
      {urbs urbs' : Urbs} {deed : Option Deed} (step : WorkStep urbs work deed work' urbs') :
      LedgerStep ⟨waiting, front ++ work :: back, urbs⟩ deed
        ⟨waiting, front ++ work' :: back, urbs'⟩
  | rests {before : Ledger} {deed : Option Deed} (quiet : ∀ what ∈ deed, what.IsQuiet) :
      LedgerStep before deed before

/-! ### Every event is one of these steps -/

theorem ledger_eq {system next : System (Host Handle)} (data_eq : next.data = system.data)
    (works_eq : next.executor.workers.map Worker.work = system.executor.workers.map Worker.work)
    (urbs_eq : next.executor.urbs = system.executor.urbs) : ledger next = ledger system := by
  rw [ledger, ledger, data_eq, works_eq, urbs_eq]

theorem session_ledgerStep {system next : System (Host Handle)} {visit : Visit}
    {deed : Option Session.Deed} (move : system.SessionMove visit deed next) :
    LedgerStep (ledger system) (deed.map (.session visit.link)) (ledger next) := by
  cases move with
  | @posted submit data stage_eq posted =>
      have eq : ledger { system.resume visit (.taken true) with data } =
          { ledger system with waiting := (ledger system).waiting ++ [⟨submit, visit.link⟩] } := by
        show Ledger.mk data.queue _ _ = _
        rw [Channel.queue_post posted]
        rfl
      rw [eq]
      exact .posts visit.link submit
  | cancelled stage_eq => exact .cancels visit.link _
  | released stage_eq =>
      have eq : ledger ({ system with executor := system.executor.release }.resume visit .done) =
          { ledger system with urbs := {} } := by
        obtain ⟨works_eq, urbs_eq⟩ := system.executor.release_frame
        show Ledger.mk _ (system.executor.release.workers.map Worker.work)
          system.executor.release.urbs = _
        rw [works_eq, urbs_eq]
        rfl
      exact eq ▸ .releases visit.link
  | @stood errand wanted unset =>
      obtain ⟨links, frame, -⟩ := standInLine_frame system visit.link errand
      have eq : ledger ((system.standInLine visit.link errand).2.setVisit
          { visit with wait := .turn (system.standInLine visit.link errand).1 }) =
            ledger system := by
        rw [frame]
        rfl
      rw [eq]
      exact .rests (by simp)
  | _ =>
      refine .rests fun what said => ?_
      cases said <;> exact trivial

theorem Attends.ledgerStep {system next : System (Host Handle)} {deed : Option Deed}
    (attends : Attends system deed next) :
    LedgerStep (ledger system) deed (ledger next) := by
  rcases attends.urbs_eq with ⟨rfl, urbs_eq⟩ | ⟨rfl, urbs_eq, -⟩
  · rw [ledger_eq (by rw [attends.data_eq]) attends.works_eq urbs_eq]
    exact .rests (by simp)
  · have eq : ledger next = { ledger system with urbs := {} } := by
      rw [ledger, attends.data_eq, attends.works_eq, urbs_eq]
      rfl
    rw [eq]
    exact .clears

/-- A worker in its place among the others. -/
theorem exists_split {workers : List Worker} {id : WorkerId} {worker : Worker}
    (worker_eq : workers[id]? = some worker) :
    ∃ front back, workers = front ++ worker :: back ∧
      ∀ worker', workers.set id worker' = front ++ worker' :: back := by
  obtain ⟨short, rfl⟩ := List.getElem?_eq_some_iff.1 worker_eq
  have set_eq (worker' : Worker) :
      workers.set id worker' = workers.take id ++ worker' :: workers.drop (id + 1) := by
    rw [List.set_eq_take_append_cons_drop, if_pos short]
  refine ⟨_, _, ?_, set_eq⟩
  rw [← set_eq, List.set_getElem_self]

theorem exists_works {workers : List Worker} {id : WorkerId} {worker : Worker}
    (worker_eq : workers[id]? = some worker) :
    ∃ front back, workers.map Worker.work = front ++ worker.work :: back ∧
      ∀ worker', (workers.set id worker').map Worker.work = front ++ worker'.work :: back := by
  obtain ⟨front, back, workers_eq, set_eq⟩ := exists_split worker_eq
  refine ⟨front.map Worker.work, back.map Worker.work, ?_, fun worker' => ?_⟩
  · rw [workers_eq, List.map_append, List.map_cons]
  · rw [set_eq, List.map_append, List.map_cons]

theorem accept_ledgerStep (host : Host Handle) (request : SubmitRequest)
    (waiting : List SubmitRequest) :
    LedgerStep ⟨request :: waiting, host.workers.map Worker.work, host.urbs⟩
      (some (.accepted request))
      ⟨waiting, (host.accept request).workers.map Worker.work, (host.accept request).urbs⟩ := by
  unfold accept enqueue
  dsimp only
  split
  · next id found =>
      obtain ⟨short, -⟩ := List.findIdx?_eq_some_iff_getElem.1 found
      obtain ⟨front, back, works_eq, set_eq⟩ := exists_works (List.getElem?_eq_getElem short)
      rw [List.modify_eq_set, works_eq, set_eq, List.getElem?_eq_getElem short]
      exact .accepts
  · rw [List.map_append]
    exact .employs

theorem loop_ledgerStep {system next : System (Host Handle)} {deed : Option Deed}
    (move : LoopMove system deed next) : LedgerStep (ledger system) deed (ledger next) := by
  cases move with
  | @takesControl request control idle taken =>
      have eq : ledger (handleControl { system with control } request) = ledger system := by
        unfold handleControl
        split <;> rfl
      rw [eq]
      exact .rests (by simp)
  | @takesSubmit request data idle taken =>
      have eq : ledger system =
          ⟨request :: data.queue, (ledger system).works, (ledger system).urbs⟩ := by
        rw [ledger, Channel.queue_take? taken]
      rw [eq]
      exact accept_ledgerStep system.executor request data.queue
  | attends working attends => exact attends.ledgerStep

theorem worker_ledgerStep {system rest : System (Host Handle)} {id : WorkerId}
    {worker worker' : Worker} {deed : Option Deed}
    (worker_eq : system.executor.workers[id]? = some worker)
    (move : WorkerMove system id worker deed worker' rest) :
    LedgerStep (ledger system) deed (ledger (putWorker rest id worker')) := by
  obtain ⟨front, back, works_eq, set_eq⟩ := exists_works worker_eq
  have before : ledger system = ⟨system.data.queue, front ++ worker.work :: back,
      system.executor.urbs⟩ := by
    rw [ledger, works_eq]
  have after (data_eq : rest.data = system.data)
      (workers_eq : rest.executor.workers = system.executor.workers) :
      ledger (putWorker rest id worker') =
        ⟨system.data.queue, front ++ worker'.work :: back, rest.executor.urbs⟩ := by
    rw [ledger, ← set_eq, ← workers_eq, ← data_eq]
    rfl
  rw [before]
  cases move with
  | skips idle queue_eq skip =>
      rw [after rfl rfl, Worker.work, idle, queue_eq]
      exact .works .skips
  | takes idle queue_eq busy wanted =>
      rw [after rfl rfl, Worker.work, idle, queue_eq]
      exact .works (.takes wanted)
  | stops idle empty dismissed =>
      rw [after rfl rfl, Worker.work, Worker.work, idle, empty]
      exact .works .stops
  | drops stage_eq unwanted =>
      rw [after rfl rfl, Worker.work, stage_eq]
      exact .works (.drops unwanted)
  | reports stage_eq wanted =>
      rw [after rfl rfl, Worker.work, stage_eq]
      exact .works (.reports wanted)
  | @stands link completion stage_eq =>
      obtain ⟨links, frame, -⟩ :=
        standInLine_frame system link (.send (Reply.completed completion).encode)
      rw [after (by rw [frame]) (by rw [frame]), Worker.work, stage_eq, frame]
      exact .works (.stands _)
  | turns stage_eq socket_eq polled =>
      rw [after rfl rfl]
      exact .rests (by simp)
  | answers stage_eq socket_eq polled =>
      rw [after rfl rfl, Worker.work, stage_eq]
      exact .works (.answers _)

theorem completion_seqnum (seqnum : UInt32) (outcome : Except UsbError Transferred) :
    (completion seqnum outcome).header.seqnum = seqnum := by
  cases outcome <;> rfl

theorem transfer_ledgerStep {system : System (Host Handle)} {id : WorkerId} {worker : Worker}
    {request : SubmitRequest} {begun : Option (Except UsbError Transferred)}
    (outcome : Except UsbError Transferred)
    (worker_eq : system.executor.workers[id]? = some worker)
    (stage_eq : worker.stage = .transferring request begun) :
    LedgerStep (ledger system) none (ledger (putWorker system id { worker with
      stage := .retiring request (some (completion request.submit.header.seqnum outcome)) })) := by
  obtain ⟨front, back, works_eq, set_eq⟩ := exists_works worker_eq
  have after : ledger (putWorker system id { worker with
      stage := .retiring request (some (completion request.submit.header.seqnum outcome)) }) =
        ⟨system.data.queue, front ++ ⟨worker.queue,
          .retiring request (some (completion request.submit.header.seqnum outcome))⟩ :: back,
          system.executor.urbs⟩ := by
    rw [ledger, putWorker, change, setWorker, set_eq]
    rfl
  rw [after, ledger, works_eq, Worker.work, stage_eq]
  exact .works (.ends (completion_seqnum _ _))

theorem job_ledgerStep [UsbHandle Handle] {system next : System (Host Handle)} {id : JobId}
    {deed : Option Deed} (move : JobMove system id deed next) :
    LedgerStep (ledger system) deed (ledger next) := by
  cases move with
  | claims => exact (runClaim_attends system id).ledgerStep
  | releases numbers => exact .rests (by simp)
  | passes => exact .rests (by simp)
  | @fails place worker request error worker_eq stage_eq unplanned =>
      have worker_eq' : (change system (·.dropJob id)).executor.workers[place]? = some worker :=
        worker_eq
      exact transfer_ledgerStep (.error error) worker_eq' stage_eq
  | @begins place worker request transfer worker_eq stage_eq planned =>
      obtain ⟨front, back, works_eq, set_eq⟩ := exists_works worker_eq
      have after : ledger (putWorker
          (change system fun host =>
            { host.dropJob id with handle := (UsbHandle.transfer host.handle transfer).1 })
          place { worker with
            stage := .transferring request (some
              ((UsbHandle.transfer system.executor.handle transfer).2.map transfer.collect)) }) =
          ⟨system.data.queue, front ++ ⟨worker.queue, .transferring request (some
            ((UsbHandle.transfer system.executor.handle transfer).2.map transfer.collect))⟩ :: back,
            system.executor.urbs⟩ := by
        show Ledger.mk _ ((system.executor.workers.set place _).map Worker.work) _ = _
        rw [set_eq]
        rfl
      rw [after, ledger, works_eq, Worker.work, stage_eq]
      exact .works (.begins _)

theorem ExecutorMove.ledgerStep [UsbHandle Handle] {system next : System (Host Handle)}
    {deed : Option Deed} (move : ExecutorMove system deed next) :
    LedgerStep (ledger system) deed (ledger next) := by
  cases move with
  | loop move => exact loop_ledgerStep move
  | worker worker_eq move => exact worker_ledgerStep worker_eq move
  | job move => exact job_ledgerStep move
  | transfer worker_eq stage_eq => exact transfer_ledgerStep _ worker_eq stage_eq

/-- Whatever happens at a server is one step of its URBs. -/
theorem Happening.ledgerStep [UsbHandle Handle] {server next : Server (Host Handle)}
    {deed : Option Deed} (happening : Happening server deed next) :
    LedgerStep (ledger server.system) deed (ledger next.system) := by
  cases happening with
  | session visit_eq move => exact session_ledgerStep move
  | executor move => exact move.ledgerStep
  | departs visit_eq ended => exact .rests (by simp)
  | serves unvisited line_eq => exact .rests (by simp)
  | connects guard => exact .rests (by simp)
  | around length_eq now => exact .rests (by simp)

end Host

end UsbExport

import UsbExport.Proofs.Host.Staff

/-!
The workers of a host executor with the endpoints they stand for, and the data channel in front of
them. Every event at the server is one of the few things that can happen to them: a URB comes in, it
goes to the one worker that takes new URBs of its endpoint or to a new worker, a worker goes on with
what it has, or all of them are dismissed.
-/

namespace UsbExport

/-- The queue that the URB belongs in. -/
def Dispatch.SubmitRequest.address (request : Dispatch.SubmitRequest) : UInt8 :=
  Host.queueAddress request.submit.header

namespace Host

open Dispatch Socket

variable {Handle : Type}

/-- The data channel and the workers. -/
structure Crew where
  waiting : List SubmitRequest
  workers : List Worker

def crew (system : System (Host Handle)) : Crew := ⟨system.data.queue, system.executor.workers⟩

/-- The worker gets no more URBs. -/
def Worker.dismiss (worker : Worker) : Worker := { worker with isRegistered := false }

/-- Whether a deed moves a URB along, or the answer to one. -/
def Deed.isProgress : Deed → Bool
  | .session _ (.offered _ true) | .accepted _ | .begun _ | .retired _ | .answered _ _ _ => true
  | _ => false

/-- All workers are let go. -/
def Deed.Dismisses (deed : Deed) : Prop :=
  deed = .cleared ∨ ∃ link, deed = .session link .released

/-- What can happen to the crew. Only while the device is busy does a worker take up a transfer. -/
inductive CrewStep (busy : Bool) (crew : Crew) : Option Deed → Crew → Prop
  | posts (link : LinkId) (submit : Submit) :
      CrewStep busy crew (some (.session link (.offered submit true)))
        { crew with waiting := crew.waiting ++ [⟨submit, link⟩] }
  | accepts {request : SubmitRequest} {waiting : List SubmitRequest} {id : WorkerId}
      {worker : Worker} (waiting_eq : crew.waiting = request :: waiting)
      (worker_eq : crew.workers[id]? = some worker) (registered : worker.isRegistered = true)
      (address_eq : worker.address = request.address) :
      CrewStep busy crew (some (.accepted request))
        ⟨waiting, crew.workers.set id { worker with queue := worker.queue ++ [request] }⟩
  | employs {request : SubmitRequest} {waiting : List SubmitRequest}
      (waiting_eq : crew.waiting = request :: waiting)
      (nobody : ∀ worker ∈ crew.workers, worker.isRegistered = true →
        worker.address ≠ request.address) :
      CrewStep busy crew (some (.accepted request))
        ⟨waiting, crew.workers ++ [{ address := request.address, queue := [request] }]⟩
  | dismisses {deed : Deed} (why : deed.Dismisses) :
      CrewStep busy crew (some deed) { crew with workers := crew.workers.map Worker.dismiss }
  | works {id : WorkerId} {worker worker' : Worker} {deed : Option Deed}
      (worker_eq : crew.workers[id]? = some worker) (address_eq : worker'.address = worker.address)
      (registered_eq : worker'.isRegistered = worker.isRegistered)
      (step : ∃ urbs urbs', WorkStep urbs worker.work deed worker'.work urbs')
      (awake : ∀ request, worker'.stage = .transferring request none → busy = true) :
      CrewStep busy crew deed { crew with workers := crew.workers.set id worker' }
  | rests {deed : Option Deed} (aside : ∀ what ∈ deed, what.isProgress = false) :
      CrewStep busy crew deed crew

/-! ### Every event is one of these steps -/

theorem release_workers (host : Host Handle) :
    host.release.workers = host.workers.map Worker.dismiss := by
  unfold release
  dsimp only
  split <;> rfl

theorem crew_eq {system next : System (Host Handle)} (data_eq : next.data = system.data)
    (workers_eq : next.executor.workers = system.executor.workers) : crew next = crew system := by
  rw [crew, crew, data_eq, workers_eq]

section

variable {system next : System (Host Handle)} {busy : Bool}

theorem session_crewStep {visit : Visit} {deed : Option Session.Deed}
    (move : system.SessionMove visit deed next) :
    CrewStep busy (crew system) (deed.map (.session visit.link)) (crew next) := by
  cases move with
  | @posted submit data stage_eq posted =>
      have eq : crew { system.resume visit (.taken true) with data } =
          { crew system with waiting := (crew system).waiting ++ [⟨submit, visit.link⟩] } := by
        show Crew.mk data.queue _ = _
        rw [Channel.queue_post posted]
        rfl
      rw [eq]
      exact .posts visit.link submit
  | released stage_eq =>
      have eq : crew ({ system with executor := system.executor.release }.resume visit .done) =
          { crew system with workers := (crew system).workers.map Worker.dismiss } := by
        show Crew.mk _ system.executor.release.workers = _
        rw [release_workers]
        rfl
      exact eq ▸ .dismisses (Or.inr ⟨_, rfl⟩)
  | @stood errand wanted unset =>
      obtain ⟨links, frame, -⟩ := standInLine_frame system visit.link errand
      have eq : crew ((system.standInLine visit.link errand).2.setVisit
          { visit with wait := .turn (system.standInLine visit.link errand).1 }) =
            crew system := by
        rw [frame]
        rfl
      rw [eq]
      exact .rests (by simp)
  | _ =>
      refine .rests fun what said => ?_
      cases said <;> rfl

theorem accept_crewStep (host : Host Handle) (request : SubmitRequest)
    (waiting : List SubmitRequest) :
    CrewStep busy ⟨request :: waiting, host.workers⟩ (some (.accepted request))
      ⟨waiting, (host.accept request).workers⟩ := by
  unfold accept enqueue
  dsimp only
  split
  · next id found =>
      obtain ⟨short, serves, -⟩ := List.findIdx?_eq_some_iff_getElem.1 found
      simp only [Bool.and_eq_true, beq_iff_eq] at serves
      have worker_eq := List.getElem?_eq_getElem short
      rw [List.modify_eq_set, worker_eq]
      exact .accepts rfl worker_eq serves.1 serves.2
  · next unfound =>
      refine .employs rfl fun worker member registered same => ?_
      have unserved := List.findIdx?_eq_none_iff.1 unfound worker member
      simp only [registered, Bool.true_and, beq_eq_false_iff_ne] at unserved
      exact unserved same

theorem import_crewStep {order : ImportOrder} {stage : ImportStage} {note : Option Note}
    (move : ImportMove system order stage note next) :
    CrewStep busy (crew system) (note.bind Note.deed?) (crew next) := by
  have quiet (stage : ImportStage) : ∀ what ∈ (stage.deed?.map Note.deed).bind Note.deed?,
      what.isProgress = false := by
    cases stage <;> simp [ImportStage.deed?, Note.deed?, Deed.isProgress]
  cases move with
  | @goesOn host stage' still bid_eq unplaced =>
      have eq : crew (setLoop { system with executor := host } (.importing order stage')) =
          crew system := crew_eq rfl still.workers_eq
      rw [eq]
      exact .rests (quiet stage)
  | @stands accepted stage_eq =>
      obtain ⟨links, frame, -⟩ := standInLine_frame system order.reply
        (.send (importReply system.executor order.version accepted).encode)
      rw [frame]
      exact .rests (by simp)
  | unclaims stage_eq =>
      have eq : crew (setLoop (change system Host.release) (.importing order .settlingBack)) =
          { crew system with workers := (crew system).workers.map Worker.dismiss } := by
        show Crew.mk _ system.executor.release.workers = _
        rw [release_workers]
        rfl
      exact eq ▸ .dismisses (Or.inl rfl)
  | _ => exact .rests (by simp [Note.deed?])

theorem loop_crewStep {note : Option Note} (turn : LoopTurn system note next) :
    CrewStep busy (crew system) (note.bind Note.deed?) (crew next) := by
  cases turn with
  | @takesControl request control idle taken =>
      have eq : crew (handleControl { system with control } request) = crew system := by
        unfold handleControl
        split <;> rfl
      rw [eq]
      exact .rests (by simp)
  | @takesSubmit request data idle taken =>
      have eq : crew system = ⟨request :: data.queue, system.executor.workers⟩ := by
        rw [crew, Channel.queue_take? taken]
      rw [eq]
      exact accept_crewStep system.executor request data.queue
  | attends move =>
      cases move with
      | @listStands version link slot loop_eq =>
          obtain ⟨links, frame, -⟩ := standInLine_frame system link
            (.send (Reply.listOf version [system.executor.device]).encode)
          rw [frame]
          exact .rests (by simp)
      | imports loop_eq move => exact import_crewStep move
      | _ => exact .rests (by simp [Note.deed?])

/-- What a worker does is a step of its work, or it waits for its turn at a socket. -/
theorem WorkerMove.workStep {id : WorkerId} {worker worker' : Worker} {rest : System (Host Handle)}
    {deed : Option Deed} (move : WorkerMove system id worker deed worker' rest) :
    (∃ urbs urbs', WorkStep urbs worker.work deed worker'.work urbs') ∨
      deed = none ∧ worker' = worker := by
  cases move with
  | skips idle queue_eq skip =>
      rw [Worker.work, idle, queue_eq]
      exact Or.inl ⟨_, system.executor.urbs, .skips⟩
  | takes idle queue_eq busy wanted =>
      rw [Worker.work, idle, queue_eq]
      exact Or.inl ⟨_, _, .takes wanted⟩
  | stops idle empty dismissed =>
      rw [Worker.work, Worker.work, idle, empty]
      exact Or.inl ⟨_, system.executor.urbs, .stops⟩
  | drops stage_eq unwanted =>
      rw [Worker.work, stage_eq]
      exact Or.inl ⟨_, _, .drops unwanted⟩
  | reports stage_eq wanted =>
      rw [Worker.work, stage_eq]
      exact Or.inl ⟨_, _, .reports wanted⟩
  | stands stage_eq =>
      rw [Worker.work, stage_eq]
      exact Or.inl ⟨_, system.executor.urbs, .stands _⟩
  | turns => exact Or.inr ⟨rfl, rfl⟩
  | answers stage_eq =>
      rw [Worker.work, stage_eq]
      exact Or.inl ⟨_, system.executor.urbs, .answers _⟩

theorem WorkerMove.address_eq {id : WorkerId} {worker worker' : Worker}
    {rest : System (Host Handle)} {deed : Option Deed}
    (move : WorkerMove system id worker deed worker' rest) :
    worker'.address = worker.address ∧ worker'.isRegistered = worker.isRegistered := by
  cases move <;> exact ⟨rfl, rfl⟩

theorem crew_putWorker (rest : System (Host Handle)) (id : WorkerId) (worker : Worker) :
    crew (putWorker rest id worker) =
      { crew rest with workers := (crew rest).workers.set id worker } := rfl

theorem worker_crewStep {id : WorkerId} {worker worker' : Worker} {rest : System (Host Handle)}
    {deed : Option Deed} (worker_eq : system.executor.workers[id]? = some worker)
    (move : WorkerMove system id worker deed worker' rest) :
    CrewStep system.flags.busy (crew system) deed (crew (putWorker rest id worker')) := by
  obtain ⟨workers_eq, data_eq, -⟩ := move.frame
  obtain ⟨address_eq, registered_eq⟩ := move.address_eq
  have awake (request : SubmitRequest) (before : worker.stage ≠ .transferring request none)
      (after : worker'.stage = .transferring request none) : system.flags.busy = true := by
    cases move with
    | takes idle queue_eq busy wanted => exact busy
    | turns => exact absurd after before
    | _ => cases after
  rw [crew_putWorker, crew_eq data_eq workers_eq]
  rcases move.workStep with step | ⟨rfl, rfl⟩
  · refine .works worker_eq address_eq registered_eq step fun request after => ?_
    refine awake request (fun before => ?_) after
    obtain ⟨urbs, urbs', step⟩ := step
    -- a worker that waits for its transfer to begin is not left waiting by a step
    rw [Worker.work, before] at step
    generalize worker.queue = queue at step
    generalize later : worker'.work = work at step
    cases step <;> simp [Worker.work, after] at later
  · have still : { crew system with workers := (crew system).workers.set id worker' } =
        crew system := by
      obtain ⟨short, rfl⟩ := List.getElem?_eq_some_iff.1 worker_eq
      rw [crew, List.set_getElem_self]
    rw [still]
    exact .rests (by simp)

theorem transfer_crewStep {id : WorkerId} {worker : Worker} {request : SubmitRequest}
    {begun : Option (Except UsbError Transferred)} (outcome : Except UsbError Transferred)
    (worker_eq : system.executor.workers[id]? = some worker)
    (stage_eq : worker.stage = .transferring request begun) :
    CrewStep busy (crew system) none (crew (putWorker system id { worker with
      stage := .retiring request (some (completion request.submit.header.seqnum outcome)) })) := by
  rw [crew_putWorker]
  refine .works worker_eq rfl rfl ⟨system.executor.urbs, system.executor.urbs, ?_⟩ (by simp)
  rw [Worker.work, stage_eq]
  exact .ends (completion_seqnum _ _)

theorem job_crewStep [UsbHandle Handle] {id : JobId} {deed : Option Deed}
    (move : JobMove system id deed next) : CrewStep busy (crew system) deed (crew next) := by
  cases move with
  | claims =>
      have eq : crew (change system (·.runClaim id)) = crew system :=
        crew_eq rfl (runClaim_frame system.executor id).2.2
      rw [eq]
      exact .rests (by simp)
  | releases numbers => exact .rests (by simp)
  | passes => exact .rests (by simp)
  | @fails place worker request error worker_eq stage_eq unplanned =>
      have worker_eq' : (change system (·.dropJob id)).executor.workers[place]? = some worker :=
        worker_eq
      exact transfer_crewStep (.error error) worker_eq' stage_eq
  | @begins place worker request transfer worker_eq stage_eq planned =>
      rw [crew_putWorker]
      refine .works worker_eq rfl rfl ⟨system.executor.urbs, system.executor.urbs, ?_⟩ (by simp)
      rw [Worker.work, stage_eq]
      exact .begins _

end

/-- Whatever happens at a server is one step of the crew. -/
theorem step_crewStep [UsbHandle Handle] {server next : Server (Host Handle)}
    {event : Server.Event Party} (happened : Server.step company server event = some next) :
    CrewStep server.system.flags.busy (crew server.system) (done? server event)
      (crew next.system) := by
  cases event with
  | move party =>
      cases party with
      | acceptor =>
          obtain ⟨-, ⟨_, _, _, _, rfl⟩ | ⟨_, _, _, _, rfl⟩⟩ :=
            Server.moveAcceptor_cases happened <;> exact .rests (by simp [done?])
      | inner party =>
          obtain ⟨system, moved, rfl⟩ := Server.inner_of_step happened
          cases party with
          | session =>
              obtain ⟨visit, visit_eq, move⟩ := System.moveSession_cases moved
              rw [done?, deed?, visit_eq, Option.bind_some]
              exact session_crewStep move
          | loop preference =>
              rw [done?, deed?, ← loopNote?_deed]
              exact loop_crewStep (moveLoop_turn moved)
          | worker id =>
              obtain ⟨worker, worker', rest, worker_eq, move, rfl⟩ := moveWorker_cases moved
              rw [done?, deed?, worker_eq, Option.bind_some]
              exact worker_crewStep worker_eq move
          | job id => exact job_crewStep (moveJob_cases moved)
          | transfer id =>
              obtain ⟨worker, request, outcome, worker_eq, stage_eq, rfl⟩ :=
                finishTransfer_cases moved
              exact transfer_crewStep outcome worker_eq stage_eq
  | _ =>
      obtain rfl := Option.some.inj happened
      exact .rests (by simp [done?])

end Host

end UsbExport

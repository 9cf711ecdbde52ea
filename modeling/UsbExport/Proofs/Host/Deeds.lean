import UsbExport.Host.Loop
import UsbExport.Proofs.Session.Deeds

/-!
What the parties around a host executor do with the URBs of its clients, told from the state in
which they move.
-/

namespace UsbExport.Host

open Dispatch Socket

variable {Handle : Type}

/-- What the parties do that concerns a client or its URBs. -/
inductive Deed
  /-- The session on a socket did something. -/
  | session (link : LinkId) (deed : Session.Deed)
  /-- The loop took a submit out of the data channel into the books. -/
  | accepted (request : SubmitRequest)
  /-- An import emptied the books. -/
  | cleared
  /-- The device began the transfer of a submit. -/
  | begun (request : SubmitRequest)
  /-- A worker took a submit out of the books. -/
  | retired (request : SubmitRequest)
  /-- A worker asked for its turn with a completion. -/
  | answering (link : LinkId) (completion : Completion)
  /-- A completion has had its turn. -/
  | answered (link : LinkId) (completion : Completion) (succeeded : Bool)
deriving DecidableEq, Repr

/-- The submit that a worker has taken out of its queue and not yet out of the books. -/
def WorkerStage.request? : WorkerStage → Option SubmitRequest
  | .transferring request _ | .retiring request _ => some request
  | _ => none

/-- What a worker has to do, whether or not new URBs still come to it. -/
structure Work where
  queue : List SubmitRequest
  stage : WorkerStage

def Worker.work (worker : Worker) : Work := ⟨worker.queue, worker.stage⟩

/-! ### What the next move does -/

/-- The submit that an idle loop takes. -/
def taken? (preference : Preference) (system : System (Host Handle)) : Option SubmitRequest :=
  match system.executor.loop with
  | .idle =>
      if preference = .data ∨ system.control.queue = [] then system.data.queue.head? else none
  | _ => none

def ImportStage.deed? : ImportStage → Option Deed
  | .clearing | .unclaiming => some .cleared
  | _ => none

def loopDeed? (preference : Preference) (system : System (Host Handle)) : Option Deed :=
  match system.executor.loop with
  | .importing _ stage => stage.deed?
  | _ => (taken? preference system).map .accepted

def workerDeed? (system : System (Host Handle)) (worker : Worker) : Option Deed :=
  match worker.stage with
  | .retiring request _ => some (.retired request)
  | .replying link completion none => some (.answering link completion)
  | .replying link completion (some ticket) =>
      match system.served? link ticket with
      | some (.served _ succeeded) => some (.answered link completion succeeded)
      | _ => none
  | _ => none

/-- The submit whose transfer a job begins. -/
def begun? (system : System (Host Handle)) (id : JobId) : Option SubmitRequest :=
  match (system.executor.jobs.find? (·.id == id)).map Job.task with
  | some (.transfer worker) =>
      match (system.executor.workers[worker]?).map Worker.stage with
      | some (.transferring request none) =>
          match system.executor.plan request.submit with
          | .ok _ => some request
          | .error _ => none
      | _ => none
  | _ => none

def deed? (system : System (Host Handle)) : Party → Option Deed
  | .session => system.visit.bind fun visit => system.deed?.map (.session visit.link)
  | .loop preference => loopDeed? preference system
  | .worker id => (system.executor.workers[id]?).bind (workerDeed? system)
  | .job id => (begun? system id).map .begun
  | .transfer _ => none

end UsbExport.Host

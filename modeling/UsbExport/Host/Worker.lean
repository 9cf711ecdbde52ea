import UsbExport.Host.Basic
import UsbExport.System.Visit

/-!
The moves of a worker and of the pool. A worker takes the next URB of its queue, skips it if the
device is free or the URB was unlinked, has its transfer run on the pool, takes it out of the books
and reports its completion, unless it was unlinked meanwhile. Claiming and releasing interfaces
exclude all transfers.
-/

namespace UsbExport.Host

open Dispatch Socket

variable {Handle : Type}

def change (system : System (Host Handle)) (f : Host Handle → Host Handle) :
    System (Host Handle) :=
  { system with executor := f system.executor }

/-- Takes up a URB; one that is skipped goes straight to the books. -/
def takeUp (system : System (Host Handle)) (id : WorkerId) (request : SubmitRequest) :
    System (Host Handle) :=
  let host := system.executor
  if !system.flags.busy || host.urbs.isUnlinked request.submit.header.seqnum then
    { system with executor := host.setStage id (.retiring request none) }
  else
    let (_, host) := host.addJob (.transfer id)
    { system with executor := host.setStage id (.transferring request none) }

/-- Takes a URB out of the books and says whether it had been unlinked. -/
def retire (system : System (Host Handle)) (request : SubmitRequest) :
    Bool × System (Host Handle) :=
  let header := request.submit.header
  let urbs := system.executor.urbs
  (urbs.isUnlinked header.seqnum,
    { system with
      flags := system.flags.clearPending header.endpoint.toNat
      executor := { system.executor with urbs := urbs.retire header.seqnum } })

def moveWorker (id : WorkerId) (system : System (Host Handle)) : Move (System (Host Handle)) :=
  match system.executor.workers[id]? with
  | none => .blocked
  | some worker =>
      match worker.stage with
      | .idle =>
          match worker.queue with
          | request :: queue =>
              let host := system.executor.setWorker id { worker with queue }
              .went (takeUp { system with executor := host } id request)
          | [] =>
              if worker.isRegistered then .blocked
              else .went (change system (·.setStage id .stopped))
      | .transferring .. => .blocked
      | .retiring request completion =>
          let (unlinked, system) := retire system request
          let stage :=
            match completion with
            | some completion =>
                if unlinked then .idle else .replying request.reply completion none
            | none => .idle
          .went (change system (·.setStage id stage))
      | .replying link completion none =>
          let (ticket, system) :=
            system.standInLine link (.send (Reply.completed completion).encode)
          .went (change system (·.setStage id (.replying link completion (some ticket))))
      | .replying link _ (some ticket) =>
          system.pursue link ticket fun system _ => change system (·.setStage id .idle)
      | .stopped => .blocked

/-- Claims interfaces in order. When one is refused, those before it are released in order. -/
def claimAll [UsbHandle Handle] (handle : Handle) (numbers : List UInt8) : Handle × Bool :=
  go handle [] numbers
where
  go (handle : Handle) (done : List UInt8) : List UInt8 → Handle × Bool
    | [] => (handle, true)
    | number :: rest =>
        match UsbHandle.claim handle number with
        | (handle, .ok ()) => go handle (done ++ [number]) rest
        | (handle, .error _) =>
            (done.foldl (fun handle number => (UsbHandle.release handle number).1) handle, false)

def releaseAll [UsbHandle Handle] (handle : Handle) (numbers : List UInt8) : Handle :=
  numbers.foldl (fun handle number => (UsbHandle.release handle number).1) handle

/-- A transfer that was begun and is not over. -/
def Worker.isTransferring (worker : Worker) : Bool :=
  match worker.stage with
  | .transferring _ (some _) => true
  | _ => false

def isTransferring (host : Host Handle) : Bool := host.workers.any Worker.isTransferring

/-- Runs the claim that an import waits for. -/
def runClaim [UsbHandle Handle] (host : Host Handle) (id : JobId) : Host Handle :=
  let (handle, success) := claimAll host.handle host.interfaces
  let host := { host.dropJob id with handle }
  match host.loop with
  | .importing order (.claiming job) =>
      if job = id then
        { host with
          loop := .importing order (if success then .recording else .replying false none) }
      else host
  | _ => host

/-- Begins the transfer of a worker. A submit that asks for no possible transfer is over at once. -/
def beginTransfer [UsbHandle Handle] (host : Host Handle) (job : JobId) (id : WorkerId) :
    Host Handle :=
  let host := host.dropJob job
  match (host.workers[id]?).map Worker.stage with
  | some (.transferring request none) =>
      match host.plan request.submit with
      | .error error =>
          let completion := completion request.submit.header.seqnum (.error error)
          host.setStage id (.retiring request (some completion))
      | .ok transfer =>
          let (handle, outcome) := UsbHandle.transfer host.handle transfer
          { host with handle }.setStage id
            (.transferring request (some (outcome.map transfer.collect)))
  | _ => host

/-- Where on the device the transfer of a submit takes place. -/
def transferAddress (submit : Submit) : UInt8 := queueAddress submit.header

def moveJob [UsbHandle Handle] (id : JobId) (system : System (Host Handle)) :
    Move (System (Host Handle)) :=
  let host := system.executor
  match host.jobs.find? (·.id == id) with
  | none => .blocked
  | some job =>
      match job.task with
      | .claim => if host.isTransferring then .blocked else .went (change system (·.runClaim id))
      | .release numbers =>
          if host.isTransferring then .blocked
          else
            let handle := releaseAll host.handle numbers
            .went { system with executor := { host.dropJob id with handle } }
      | .transfer worker => .went (change system (·.beginTransfer id worker))

def finishTransfer [UsbHandle Handle] (id : WorkerId) (system : System (Host Handle)) :
    Move (System (Host Handle)) :=
  match (system.executor.workers[id]?).map Worker.stage with
  | some (.transferring request (some outcome)) =>
      if UsbHandle.mayFinish system.executor.handle (transferAddress request.submit) then
        let completion := completion request.submit.header.seqnum outcome
        .went (change system (·.setStage id (.retiring request (some completion))))
      else .blocked
  | _ => .blocked

end UsbExport.Host

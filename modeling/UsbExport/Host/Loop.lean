import UsbExport.Host.Worker

/-!
The moves of the executor with the requests that come over the channels, one request after the
other. An import is accepted when it names the device, the device is free and all its interfaces
can be claimed; an acceptance whose reply does not get through is taken back.
-/

namespace UsbExport.Host

open Dispatch Socket

variable {Handle : Type}

def setLoop (system : System (Host Handle)) (loop : LoopStage) : System (Host Handle) :=
  change system fun host => { host with loop }

/-- Begins to handle a control request; an unknown command is ignored. -/
def handleControl (system : System (Host Handle)) (request : ControlRequest) :
    System (Host Handle) :=
  match request.command with
  | .deviceList _ replied =>
      setLoop system (.listing request.header.version request.reply replied none)
  | .importDevice body confirm =>
      setLoop system
        (.importing ⟨request.header.version, body.busId, confirm, request.reply⟩ .checking)
  | .unknown => system

/-- Takes in a submit and marks its endpoint. -/
def handleSubmit (system : System (Host Handle)) (request : SubmitRequest) :
    System (Host Handle) :=
  { change system (·.accept request) with
    flags := system.flags.markPending request.submit.header.endpoint.toNat }

def takeControl (system : System (Host Handle)) : Move (System (Host Handle)) :=
  match system.control.take? with
  | some (request, control) => .went (handleControl { system with control } request)
  | none => .blocked

def takeSubmit (system : System (Host Handle)) : Move (System (Host Handle)) :=
  match system.data.take? with
  | some (request, data) => .went (handleSubmit { system with data } request)
  | none => .blocked

/-- Takes over the release that is still going on, if there is one. -/
def settle (system : System (Host Handle)) (waiting : JobId → ImportStage) (free : ImportStage)
    (order : ImportOrder) : System (Host Handle) :=
  let stage := (system.executor.releasing.map waiting).getD free
  setLoop (change system fun host => { host with releasing := none }) (.importing order stage)

def importReply (host : Host Handle) (version : UInt16) (accepted : Bool) : Reply :=
  if accepted then .accepted version host.device else .refused version

/-- One move in handling an import. -/
def moveImport (order : ImportOrder) (stage : ImportStage) (system : System (Host Handle)) :
    Move (System (Host Handle)) :=
  let host := system.executor
  let go (system : System (Host Handle)) (stage : ImportStage) : Move (System (Host Handle)) :=
    .went (setLoop system (.importing order stage))
  match stage with
  | .checking =>
      if host.device.isNamedBy order.busId && !system.flags.busy then go system .settling
      else go system (.replying false none)
  | .settling => .went (settle system .awaitingRelease .startingClaim order)
  | .awaitingRelease job => if host.hasJob job then .blocked else go system .startingClaim
  | .startingClaim =>
      let (job, host) := host.addJob .claim
      go { system with executor := host } (.claiming job)
  | .claiming _ => .blocked
  | .recording => go (change system fun host => { host with claimed := host.interfaces }) .clearing
  | .clearing => go (change system fun host => { host with urbs := {} }) .marking
  | .marking => go { system with flags := system.flags.setBusy true } (.replying true none)
  | .replying accepted none =>
      let reply := importReply host order.version accepted
      let (ticket, system) := system.standInLine order.reply (.send reply.encode)
      go system (.replying accepted (some ticket))
  | .replying accepted (some ticket) =>
      system.pursue order.reply ticket fun system result =>
        let stage :=
          match accepted, result with
          | true, .error _ => .unmarking
          | accepted, _ => .confirming accepted
        setLoop system (.importing order stage)
  | .unmarking => go { system with flags := system.flags.setBusy false } .unclaiming
  | .unclaiming => go (change system Host.release) .settlingBack
  | .settlingBack => .went (settle system .awaitingBack (.confirming false) order)
  | .awaitingBack job => if host.hasJob job then .blocked else go system (.confirming false)
  | .confirming accepted =>
      .went (setLoop (system.answer order.confirm (.given accepted)) .idle)

/-- One move with the request in hand. -/
def moveRequest (system : System (Host Handle)) : Move (System (Host Handle)) :=
  match system.executor.loop with
  | .idle | .stopped => .blocked
  | .listing version link replied none =>
      let reply := Reply.listOf version [system.executor.device]
      let (ticket, system) := system.standInLine link (.send reply.encode)
      .went (setLoop system (.listing version link replied (some ticket)))
  | .listing _ link replied (some ticket) =>
      system.pursue link ticket fun system _ => setLoop system (.listed replied)
  | .listed replied => .went (setLoop (system.answer replied (.given true)) .idle)
  | .importing order stage => moveImport order stage system

/-- Which channel is looked at first when both have something. -/
inductive Preference
  | control
  | data
deriving DecidableEq, Repr, Inhabited

/-- One move of the executor's loop. -/
def moveLoop (preference : Preference) (system : System (Host Handle)) :
    Move (System (Host Handle)) :=
  match system.executor.loop, preference with
  | .idle, .control =>
      match takeControl system with
      | .blocked => takeSubmit system
      | move => move
  | .idle, .data =>
      match takeSubmit system with
      | .blocked => takeControl system
      | move => move
  | _, _ => moveRequest system

/-- The executor stops serving; a request in hand is given up. -/
def stop (system : System (Host Handle)) : System (Host Handle) :=
  let system :=
    match system.executor.loop with
    | .listing _ link replied ticket => giveUp (system.answer replied .lost) link ticket
    | .listed replied => system.answer replied .lost
    | .importing order stage =>
        let system := system.answer order.confirm .lost
        match stage with
        | .replying _ ticket => giveUp system order.reply ticket
        | _ => system
    | .idle | .stopped => system
  setLoop system.abandonChannels .stopped
where
  giveUp (system : System (Host Handle)) (link : LinkId) (ticket : Option Ticket) :
      System (Host Handle) :=
    match ticket with
    | some ticket =>
        system.mapLink link fun socket => { socket with guard := socket.guard.cancel ticket }
    | none => system

/-- Everybody who moves around a host executor. -/
inductive Party
  | session
  | loop (preference : Preference)
  | worker (id : WorkerId)
  | job (id : JobId)
  | transfer (worker : WorkerId)
deriving DecidableEq, Repr

/-- Jobs begin in order; one that needs the device for itself holds up those behind it. -/
def jobsInTurn : List Job → List JobId
  | [] => []
  | job :: jobs =>
      match job.task with
      | .transfer _ => job.id :: jobsInTurn jobs
      | .claim | .release _ => [job.id]

def company [UsbHandle Handle] : Company (System (Host Handle)) Party where
  parties system :=
    .session :: .loop .control ::
      (List.range system.executor.workers.length).map Party.worker
  reserve system :=
    (List.range system.executor.workers.length).map Party.transfer ++
      (jobsInTurn system.executor.jobs).map Party.job
  move
    | .session => System.moveSession
    | .loop preference => moveLoop preference
    | .worker id => moveWorker id
    | .job id => moveJob id
    | .transfer worker => finishTransfer worker

end UsbExport.Host

import UsbExport.Dispatch.Request
import UsbExport.Host.Urbs
import UsbExport.System.Basic
import UsbExport.Usb.Descriptor
import UsbExport.Wire.Reply

/-!
An executor that exports one USB device of the host. URBs of one endpoint are done in order by a
worker that has a queue of its own. Calls that may take long are jobs on a pool: a transfer, the
claim of all interfaces for a client, and their release.
-/

namespace UsbExport.Host

open Dispatch Socket

/-- The queue of a URB: the address of its endpoint, one address for both directions of the control
pipe. -/
def queueAddress (header : UrbHeader) : UInt8 :=
  let number := (header.endpoint &&& 0xF).toUInt8
  if number = 0 then 0 else endpointAddress number header.isOut

/-- Where a worker is with the URB it has taken from its queue. -/
inductive WorkerStage
  | idle
  /-- On the pool; the outcome is decided when the transfer begins. -/
  | transferring (request : SubmitRequest) (begun : Option (Except UsbError Transferred))
  /-- To be taken out of the books, with the completion unless it was skipped. -/
  | retiring (request : SubmitRequest) (completion : Option Completion)
  | replying (link : LinkId) (completion : Completion) (ticket : Option Ticket)
  | stopped
deriving Repr, Inhabited

structure Worker where
  address : UInt8
  /-- Whether new URBs still come to this worker. -/
  isRegistered : Bool := true
  queue : List SubmitRequest := []
  stage : WorkerStage := .idle
deriving Repr, Inhabited

abbrev WorkerId := Nat

abbrev JobId := Nat

inductive Task
  | claim
  | release (numbers : List UInt8)
  | transfer (worker : WorkerId)
deriving DecidableEq, Repr

structure Job where
  id : JobId
  task : Task
deriving DecidableEq, Repr

/-- An import that is being handled. -/
structure ImportOrder where
  version : UInt16
  busId : BusId
  confirm : SlotId
  reply : LinkId
deriving DecidableEq, Repr

/-- Where the handling of an import is. Every stage is left by one move. -/
inductive ImportStage
  | checking
  /-- Finds out whether the last release is still going on. -/
  | settling
  | awaitingRelease (job : JobId)
  | startingClaim
  | claiming (job : JobId)
  | recording
  | clearing
  | marking
  | replying (accepted : Bool) (ticket : Option Ticket)
  /-- The reply did not get through: the acceptance is taken back. -/
  | unmarking
  | unclaiming
  | settlingBack
  | awaitingBack (job : JobId)
  | confirming (accepted : Bool)
deriving DecidableEq, Repr

/-- Where the executor is with the requests that come over the channels. -/
inductive LoopStage
  | idle
  | listing (version : UInt16) (link : LinkId) (replied : SlotId) (ticket : Option Ticket)
  | listed (replied : SlotId)
  | importing (order : ImportOrder) (stage : ImportStage)
  | stopped
deriving DecidableEq, Repr, Inhabited

end Host

/-- The executor of a device that is open under a handle. -/
structure Host (Handle : Type) where
  device : DeviceRecord
  endpoints : List (UInt8 × TransferKind)
  interfaces : List UInt8
  maxTransfer : Nat
  handle : Handle
  /-- Interfaces that are held for a client. -/
  claimed : List UInt8 := []
  /-- The release that the next import waits for. -/
  releasing : Option Host.JobId := none
  urbs : Host.Urbs := {}
  workers : List Host.Worker := []
  jobs : List Host.Job := []
  issued : Nat := 0
  loop : Host.LoopStage := .idle

namespace Host

open Dispatch Socket

variable {Handle : Type}

/-- Opens the first device on the bus with the given vendor and product. -/
def openDevice (bus : Except UsbError (List (ListedDevice Handle))) (vendor product : UInt16)
    (maxTransfer : Nat) : Except UsbError (Host Handle) := do
  let device ← ListedDevice.search bus vendor product
  let descriptor ← device.descriptor
  let configuration ← device.configuration
  let handle ← device.handle
  return {
    device := exportedRecord device.location descriptor configuration
    endpoints := configuration.endpointKinds
    interfaces := configuration.interfaceNumbers
    maxTransfer
    handle }

def addJob (host : Host Handle) (task : Task) : JobId × Host Handle :=
  (host.issued,
    { host with jobs := host.jobs ++ [⟨host.issued, task⟩], issued := host.issued + 1 })

def hasJob (host : Host Handle) (id : JobId) : Bool := host.jobs.any (·.id == id)

def dropJob (host : Host Handle) (id : JobId) : Host Handle :=
  { host with jobs := host.jobs.filter (·.id != id) }

def setWorker (host : Host Handle) (id : WorkerId) (worker : Worker) : Host Handle :=
  { host with workers := host.workers.set id worker }

def setStage (host : Host Handle) (id : WorkerId) (stage : WorkerStage) : Host Handle :=
  { host with workers := host.workers.modify id fun worker => { worker with stage } }

/-- Puts a URB into the queue of its endpoint; the first one on an endpoint brings a worker. -/
def enqueue (host : Host Handle) (request : SubmitRequest) : Host Handle :=
  let address := queueAddress request.submit.header
  match host.workers.findIdx? fun worker => worker.isRegistered && worker.address == address with
  | some id =>
      { host with
        workers := host.workers.modify id fun worker =>
          { worker with queue := worker.queue ++ [request] } }
  | none => { host with workers := host.workers ++ [{ address, queue := [request] }] }

/-- Takes in a submit. -/
def accept (host : Host Handle) (request : SubmitRequest) : Host Handle :=
  { host with urbs := host.urbs.submit request.submit.header.seqnum }.enqueue request

/-- Forgets all URBs and queues; what stands in a queue stays with its worker. -/
def forgetUrbs (host : Host Handle) : Host Handle :=
  { host with
    urbs := {}
    workers := host.workers.map fun worker => { worker with isRegistered := false } }

/-- Forgets all URBs and has what is claimed released. -/
def release (host : Host Handle) : Host Handle :=
  let forgotten := { host.forgetUrbs with claimed := [] }
  if host.claimed.isEmpty then forgotten
  else
    let (job, host) := forgotten.addJob (.release host.claimed)
    { host with releasing := some job }

instance : DeviceExecutor (Host Handle) where
  unlink host seqnum := { host with urbs := host.urbs.unlink seqnum }
  release := Host.release

/-- The length of the buffer that is made for a submit, whatever then comes of it. A read has room
for what was asked for, within the bound, and on the control pipe for no more than the setup packet
says. -/
def room (host : Host Handle) (submit : Submit) : Nat :=
  let asked := min submit.params.bufferLength.toNat host.maxTransfer
  if submit.header.isOut then 0
  else if (submit.header.endpoint &&& 0xF).toUInt8 = 0 then
    min asked (SetupPacket.ofOctets submit.params.setup).length.toNat
  else asked

/-- What a submit asks of the device, if there is such an endpoint. -/
def plan (host : Host Handle) (submit : Submit) : Except UsbError Transfer :=
  let number := (submit.header.endpoint &&& 0xF).toUInt8
  let isOut := submit.header.isOut
  let room := host.room submit
  if number = 0 then
    let setup := SetupPacket.ofOctets submit.params.setup
    if isOut then .ok (.controlOut setup submit.data) else .ok (.controlIn setup room)
  else
    let address := endpointAddress number isOut
    let stream (kind : StreamKind) : Transfer :=
      if isOut then .streamOut kind address submit.data else .streamIn kind address room
    match host.endpoints.lookup address with
    | some .bulk => .ok (stream .bulk)
    | some .interrupt => .ok (stream .interrupt)
    | some .isochronous => .error .notSupported
    | some .control | none => .error .notFound

/-- The completion that reports the outcome of a transfer. -/
def completion (seqnum : UInt32) : Except UsbError Transferred → Completion
  | .ok moved => .success seqnum moved.count.toUInt32 moved.data
  | .error error => .failure seqnum error.errno

end Host

end UsbExport

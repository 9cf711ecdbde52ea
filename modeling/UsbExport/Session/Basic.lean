import UsbExport.Config
import UsbExport.Socket.Fault
import UsbExport.Wire.Import
import UsbExport.Wire.Submit
import UsbExport.Wire.Unlink

/-!
A session with one client, as a machine. It collects the parts of a command off the socket, asks
its surroundings to act on it, and goes on with their answer. While idle it takes control commands;
a confirmed import makes it busy, and from then on it takes URB commands. However it ends, it
resets the flags of the device, releases the device and closes the socket, in this order.
-/

namespace UsbExport

inductive Phase
  | idle
  | busy
deriving DecidableEq, Repr, Inhabited

/-- How a session ended. -/
inductive Ending
  | closed
  | detached
  | failed (kind : Socket.FaultKind)
deriving DecidableEq, Repr, Inhabited

/-- A client that leaves an idle session just goes; one that had the device has let it go. -/
def Phase.departure : Phase → Ending
  | .idle => .closed
  | .busy => .detached

/-- What a session has to know of the configuration. -/
structure SessionLimits where
  version : UInt16
  maxTransfer : Nat
deriving DecidableEq, Repr

def Config.sessionLimits (config : Config) : SessionLimits :=
  ⟨config.protocolVersion, config.maxTransfer⟩

namespace Session

/-- A run of bytes that is acted on when it is complete. -/
inductive Part
  | controlHeader
  | listStatus (header : ControlHeader)
  | importBody (header : ControlHeader)
  | urbHeader
  | submitParams (header : UrbHeader)
  | payload (header : UrbHeader) (params : SubmitParams)
  | descriptors (header : UrbHeader) (params : SubmitParams) (data : Bytes)
  | unlinkParams (header : UrbHeader)
deriving DecidableEq, Repr, Inhabited

/-- Bytes of the word behind the header of a device list request. -/
def listStatusSize : Nat := 4

def Part.size : Part → Nat
  | controlHeader => ControlHeader.size
  | listStatus _ => listStatusSize
  | importBody _ => ImportRequest.size
  | urbHeader => UrbHeader.size
  | submitParams _ => SubmitParams.size
  | payload header params => params.payloadLength header
  | descriptors _ params _ => params.descriptorLength
  | unlinkParams _ => UnlinkParams.size

inductive Stage
  | collecting (part : Part) (got : Bytes)
  /-- Reads past `left` more bytes. -/
  | skipping (left : Nat)
  /-- Hands on a device list request; `cut` when the input ended inside it. -/
  | postingList (header : ControlHeader) (status : UInt32) (cut : Bool)
  | postingImport (header : ControlHeader) (request : ImportRequest)
  | postingUnknown (header : ControlHeader)
  | awaitingList
  | awaitingImport
  | submitting (submit : Submit)
  | cancelling (header : UrbHeader) (target : UInt32)
  | acknowledging (seqnum : UInt32)
  | resetting (ending : Ending)
  | releasing (ending : Ending)
  | closing (ending : Ending)
  | finished (ending : Ending)
deriving DecidableEq, Repr, Inhabited

/-- What a read of the socket can bring besides bytes. -/
inductive Disturbance
  | inputEnded
  | fault (kind : Socket.FaultKind)
  /-- Nothing has come in the time that the read was given. -/
  | silence
deriving DecidableEq, Repr

/-- How the surroundings answer a session that has asked for something. -/
inductive Answer
  | done
  /-- Whether a request was taken, or an import confirmed. -/
  | taken (yes : Bool)
  | failed (kind : Socket.FaultKind)
deriving DecidableEq, Repr

end Session

open Session in
structure Session where
  phase : Phase := .idle
  stage : Stage := .collecting .controlHeader []
deriving DecidableEq, Repr, Inhabited

namespace Session

/-- Where a session waits for the next command. -/
def Stage.atRest : Phase → Stage
  | .idle => .collecting .controlHeader []
  | .busy => .collecting .urbHeader []

def rest (phase : Phase) : Session := ⟨phase, .atRest phase⟩

/-- The client is gone. -/
def depart (session : Session) : Session :=
  { session with stage := .resetting session.phase.departure }

def fail (session : Session) (kind : Socket.FaultKind) : Session :=
  { session with stage := .resetting (.failed kind) }

/-- Reads past bytes; none at all is nothing to wait for. -/
def Stage.skip (count : Nat) : Stage :=
  if count = 0 then .atRest .busy else .skipping count

def Stage.collectDescriptors (header : UrbHeader) (params : SubmitParams) (data : Bytes) : Stage :=
  if params.descriptorLength = 0 then .submitting ⟨header, params, data, []⟩
  else .collecting (.descriptors header params data) []

def Stage.collectPayload (header : UrbHeader) (params : SubmitParams) : Stage :=
  if params.payloadLength header = 0 then .collectDescriptors header params []
  else .collecting (.payload header params) []

/-- What follows the parameters of a submit. One that declares more than is allowed is dropped with
everything that belongs to it. -/
def Stage.afterParams (header : UrbHeader) (params : SubmitParams) (maxTransfer : Nat) : Stage :=
  match params.checkBounds maxTransfer with
  | .ok () => .collectPayload header params
  | .error _ => .skip (params.payloadLength header + params.descriptorLength)

/-- A control header of another revision is dropped. -/
def Stage.afterControlHeader (header : ControlHeader) (version : UInt16) : Stage :=
  if header.version ≠ version then .atRest .idle
  else
    match header.kind with
    | .deviceList => .collecting (.listStatus header) []
    | .importDevice => .collecting (.importBody header) []
    | _ => .postingUnknown header

def Stage.afterUrbHeader (header : UrbHeader) : Stage :=
  match header.kind with
  | .submit => .collecting (.submitParams header) []
  | .unlink => .collecting (.unlinkParams header) []
  | _ => .atRest .busy

/-- What is done with a part of which all bytes are there. -/
def Part.complete (limits : SessionLimits) (bytes : Bytes) : Part → Stage
  | controlHeader =>
      match ControlHeader.decode bytes with
      | .ok header => .afterControlHeader header limits.version
      | .error _ => .atRest .idle
  | listStatus header => .postingList header ((readWord32 bytes).elim 0 Prod.fst) false
  | importBody header =>
      match ImportRequest.decode bytes with
      | .ok request => .postingImport header request
      | .error _ => .atRest .idle
  | urbHeader =>
      match UrbHeader.decode bytes with
      | .ok header => .afterUrbHeader header
      | .error _ => .atRest .busy
  | submitParams header =>
      match SubmitParams.parse bytes with
      | .ok params => .afterParams header params limits.maxTransfer
      | .error _ => .atRest .busy
  | payload header params => .collectDescriptors header params bytes
  | descriptors header params data => .submitting ⟨header, params, data, bytes⟩
  | unlinkParams header =>
      match UnlinkParams.decode bytes with
      | .ok params => .cancelling header params.target
      | .error _ => .atRest .busy

/-- Bytes the session would read now, if it reads at all. -/
def wants (session : Session) : Option Nat :=
  match session.stage with
  | .collecting part got => some (part.size - got.length)
  | .skipping left => some left
  | _ => none

/-- Whether a read is given a time. Reading past bytes takes as long as it takes. -/
def isTimed (session : Session) : Bool :=
  match session.stage with
  | .collecting _ _ => true
  | _ => false

/-- Takes bytes off the socket, no more than it wants. -/
def take (limits : SessionLimits) (session : Session) (bytes : Bytes) : Session :=
  match session.stage with
  | .collecting part got =>
      let got := got ++ bytes
      { session with
        stage := if got.length < part.size then .collecting part got
          else part.complete limits got }
  | .skipping left => { session with stage := .skip (left - bytes.length) }
  | _ => session

/-- What is missing of the word behind the header counts as zero. -/
def cutStatus (got : Bytes) : UInt32 :=
  (readWord32 (Octets.ofBytes listStatusSize got).bytes).elim 0 Prod.fst

/-- Nothing has come for as long as a session waits for a command to begin: it starts to wait
afresh. Inside a command it just waits on. -/
def elapse (session : Session) : Session :=
  match session.stage with
  | .collecting .controlHeader [] | .collecting .urbHeader [] => rest session.phase
  | _ => session

/-- The end of the input ends the session, except that a device list is still asked for. A
transient fault changes nothing, except that reading past bytes bears no fault at all. -/
def disturb (session : Session) (disturbance : Disturbance) : Session :=
  match disturbance, session.stage with
  | .inputEnded, .collecting (.listStatus header) got =>
      { session with stage := .postingList header (cutStatus got) true }
  | .inputEnded, .collecting _ _ => session.depart
  | .inputEnded, .skipping _ => session.depart
  | .fault kind, .collecting _ _ => if kind.isTransient then session else session.fail kind
  | .fault kind, .skipping _ => session.fail kind
  | .silence, _ => session.elapse
  | _, _ => session

/-- Goes on with the answer to what it asked for. -/
def resume (session : Session) (answer : Answer) : Session :=
  match session.stage, answer with
  | .postingList _ _ true, .taken true => { session with stage := .awaitingList }
  | .postingList _ _ true, .taken false => session.depart
  | .postingList _ _ false, .taken _ => rest session.phase
  | .postingImport _ _, .taken true => { session with stage := .awaitingImport }
  | .postingImport _ _, .taken false => rest session.phase
  | .postingUnknown _, .taken _ => rest session.phase
  | .awaitingList, .taken _ => session.depart
  | .awaitingImport, .taken true => rest .busy
  | .awaitingImport, .taken false => rest session.phase
  | .submitting _, .taken _ => rest session.phase
  | .cancelling header _, .done => { session with stage := .acknowledging header.seqnum }
  | .acknowledging _, .done => rest session.phase
  | .acknowledging _, .failed kind => session.fail kind
  | .resetting ending, .done => { session with stage := .releasing ending }
  | .releasing ending, .done => { session with stage := .closing ending }
  | .closing ending, .done => ⟨.idle, .finished ending⟩
  | _, _ => session

/-- How the session ended, if it has. -/
def ending? (session : Session) : Option Ending :=
  match session.stage with
  | .finished ending => some ending
  | _ => none

end Session

end UsbExport

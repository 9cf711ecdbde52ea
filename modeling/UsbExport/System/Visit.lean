import UsbExport.System.Basic
import UsbExport.System.Schedule

/-!
Serving a session. Every move does one thing that the session asks for: it reads what has arrived,
posts a request, looks for an answer, cancels a URB, sends the acknowledgement of that, or does one
step of the cleaning up.
-/

namespace UsbExport

open Dispatch Socket

def Session.receive (limits : SessionLimits) (session : Session) : Arrival → Session
  | .bytes bytes => session.take limits bytes
  | .disturbance what => session.disturb what
  | .nothing => session

namespace System

variable {Executor : Type}

def setVisit (system : System Executor) (visit : Visit) : System Executor :=
  { system with visit := some visit }

/-- The session goes on with an answer and waits for nothing. -/
def resume (system : System Executor) (visit : Visit) (answer : Session.Answer) :
    System Executor :=
  system.setVisit { visit with session := visit.session.resume answer, wait := .nothing }

/-- One move with a ticket, and what follows when its errand is done. -/
def pursue (system : System Executor) (link : LinkId) (ticket : Ticket)
    (after : System Executor → Except SendError Unit → System Executor) :
    Move (System Executor) :=
  match system.links[link]? with
  | none => .blocked
  | some socket =>
      match socket.guard.poll ticket system.now with
      | .waiting => .blocked
      | .advanced guard => .went (system.setGuard link guard)
      | .paused guard => .paused (system.setGuard link guard)
      | .finished guard result => .went (after (system.setGuard link guard) result)

def readTimeout (system : System Executor) (visit : Visit) : Option Nat :=
  if visit.session.isTimed then some system.config.receiveTimeout else none

def readInput (system : System Executor) (visit : Visit) (limit : Nat) :
    Move (System Executor) :=
  match system.links[visit.link]? with
  | none => .blocked
  | some socket =>
      match socket.inbox.read limit system.now (system.readTimeout visit) with
      | none => .blocked
      | some (arrival, inbox) =>
          let session := visit.session.receive system.config.sessionLimits arrival
          let system := system.mapLink visit.link fun socket => { socket with inbox }
          .went (system.setVisit { visit with session })

/-- Posts a control request and waits for room as long as it takes. -/
def postControl (system : System Executor) (visit : Visit) (header : ControlHeader)
    (command : ControlCommand) : Move (System Executor) :=
  match system.control.post ⟨header, command, visit.link⟩ with
  | .error .full => .blocked
  | .error .unavailable => .went (system.resume visit (.taken false))
  | .ok control =>
      let system := { system.resume visit (.taken true) with control }
      match command.slot? with
      | none => .went system
      | some slot =>
          let wait := system.visit.map fun visit => { visit with wait := .answer slot none }
          .went { system with slots := system.slots ++ [.open], visit := wait }

/-- Posts a submit; one that finds no room in time is dropped. -/
def postSubmit (system : System Executor) (visit : Visit) (submit : Submit) :
    Move (System Executor) :=
  match system.data.post ⟨submit, visit.link⟩ with
  | .ok data => .went { system.resume visit (.taken true) with data }
  | .error .unavailable => .went (system.resume visit (.taken false))
  | .error .full =>
      match visit.wait with
      | .room deadline =>
          if deadline ≤ system.now then .went (system.resume visit (.taken false)) else .blocked
      | _ =>
          let deadline := system.now + system.config.submitWait
          .went (system.setVisit { visit with wait := .room deadline })

/-- Looks for an answer. A lost answer is a no, and so is one that does not come in time. -/
def awaitAnswer (system : System Executor) (visit : Visit) : Move (System Executor) :=
  match visit.wait with
  | .answer slot deadline =>
      match system.slot slot, deadline with
      | .given yes, _ => .went (system.resume visit (.taken yes))
      | .lost, _ => .went (system.resume visit (.taken false))
      | .open, none =>
          let deadline := system.now + system.config.importWait
          .went (system.setVisit { visit with wait := .answer slot (some deadline) })
      | .open, some deadline =>
          if deadline ≤ system.now then .went (system.resume visit (.taken false)) else .blocked
  | _ => .went (system.resume visit (.taken false))

def runErrand (system : System Executor) (visit : Visit) (errand : Errand) :
    Move (System Executor) :=
  match visit.wait with
  | .turn ticket =>
      system.pursue visit.link ticket fun system result =>
        match result with
        | .ok () => system.resume visit .done
        | .error error => system.resume visit (.failed error.kind)
  | _ =>
      let (ticket, system) := system.standInLine visit.link errand
      .went (system.setVisit { visit with wait := .turn ticket })

def moveSession [DeviceExecutor Executor] (system : System Executor) : Move (System Executor) :=
  match system.visit with
  | none => .blocked
  | some visit =>
      match visit.session.stage with
      | .collecting part got => system.readInput visit (part.size - got.length)
      | .skipping left => system.readInput visit left
      | .postingList header status _ =>
          system.postControl visit header (.deviceList status system.slots.length)
      | .postingImport header request =>
          system.postControl visit header (.importDevice request system.slots.length)
      | .postingUnknown header => system.postControl visit header .unknown
      | .awaitingList | .awaitingImport => system.awaitAnswer visit
      | .submitting submit => system.postSubmit visit submit
      | .cancelling _ target =>
          let executor := DeviceExecutor.unlink system.executor target
          .went ({ system with executor }.resume visit .done)
      | .acknowledging seqnum =>
          system.runErrand visit (.send (UnlinkReply.acknowledge seqnum 0).encode)
      | .resetting _ => .went ({ system with flags := system.flags.reset }.resume visit .done)
      | .releasing _ =>
          let executor := DeviceExecutor.release system.executor
          .went ({ system with executor }.resume visit .done)
      | .closing _ => system.runErrand visit .close
      | .finished _ => .blocked

def connect (system : System Executor) (inbox : Inbox) (mode : WriteMode) : System Executor :=
  let (link, system) := system.addLink inbox mode
  system.setVisit { link }

/-- Forgets a session where it stands, without cleaning up after it. -/
def forget (system : System Executor) : System Executor :=
  match system.visit with
  | some visit =>
      let system :=
        match visit.wait with
        | .turn ticket =>
            system.mapLink visit.link fun socket =>
              { socket with guard := socket.guard.cancel ticket }
        | _ => system
      { system with visit := none }
  | none => system

end System

end UsbExport

import UsbExport.Device.Flags
import UsbExport.Dispatch.Request
import UsbExport.Session.Basic
import UsbExport.Socket.Guard
import UsbExport.Socket.Inbox

/-!
The state of a server: the flags of its device, the two channels to the executor, the sockets of
its clients, the slots for answers, the session that is being served, and the executor itself.
-/

namespace UsbExport

open Dispatch Socket

/-- What a session calls directly; everything else goes through the channels. -/
class DeviceExecutor (Executor : Type) where
  /-- Cancels a URB that is still in flight. -/
  unlink : Executor → UInt32 → Executor
  /-- The client is gone: lets go of what was held for it. -/
  release : Executor → Executor

/-- The two sides of one socket. -/
structure Link where
  inbox : Inbox := {}
  guard : Guard
deriving Repr, Inhabited

/-- An answer that somebody may be waiting for; it may also be lost. -/
inductive Slot
  | open
  | given (yes : Bool)
  | lost
deriving DecidableEq, Repr, Inhabited

/-- What the session being served waits for. -/
inductive Wait
  | nothing
  /-- Room in the data channel. -/
  | room (deadline : Nat)
  /-- An answer; the time for it begins when the session first looks. -/
  | answer (slot : SlotId) (deadline : Option Nat)
  | turn (ticket : Ticket)
deriving DecidableEq, Repr, Inhabited

/-- A session and the socket it serves. -/
structure Visit where
  link : LinkId
  session : Session := {}
  wait : Wait := .nothing
deriving Repr, Inhabited

structure System (Executor : Type) where
  config : Config
  now : Nat := 0
  flags : DeviceFlags := {}
  control : Channel ControlRequest := .ofDepth config.controlDepth
  data : Channel SubmitRequest := .ofDepth config.dataDepth
  links : List Link := []
  slots : List Slot := []
  visit : Option Visit := none
  executor : Executor

namespace System

variable {Executor : Type}

def mapLink (system : System Executor) (link : LinkId) (change : Link → Link) :
    System Executor :=
  { system with links := system.links.modify link change }

def setGuard (system : System Executor) (link : LinkId) (guard : Guard) : System Executor :=
  system.mapLink link fun socket => { socket with guard }

def addLink (system : System Executor) (inbox : Inbox) (mode : WriteMode) :
    LinkId × System Executor :=
  let guard : Guard := { timeout := system.config.sendTimeout, sink := { mode } }
  (system.links.length, { system with links := system.links ++ [{ inbox, guard }] })

/-- Stands in line for a socket. -/
def standInLine (system : System Executor) (link : LinkId) (errand : Errand) :
    Ticket × System Executor :=
  match system.links[link]? with
  | some socket =>
      let (ticket, guard) := socket.guard.request errand
      (ticket, system.setGuard link guard)
  | none => (0, system)

/-- Gives the first answer; a slot that has one keeps it. -/
def answer (system : System Executor) (slot : SlotId) (answer : Slot) : System Executor :=
  { system with
    slots := system.slots.modify slot fun
      | .open => answer
      | settled => settled }

def slot (system : System Executor) (slot : SlotId) : Slot := system.slots[slot]?.getD .lost

/-- A request that nobody will handle takes the answer to it along. -/
def lose (system : System Executor) (request : ControlRequest) : System Executor :=
  match request.command.slot? with
  | some slot => system.answer slot .lost
  | none => system

/-- The receivers of both channels go away. -/
def abandonChannels (system : System Executor) : System Executor :=
  let lost := system.control.queue.foldl System.lose system
  { lost with control := lost.control.abandon, data := lost.data.abandon }

/-- When a wait is over whatever else happens. -/
def waitDeadline : Wait → Option Nat
  | .nothing => none
  | .room deadline => some deadline
  | .answer _ deadline => deadline
  | .turn _ => none

/-- When the session being served gives up reading. -/
def readDeadline (system : System Executor) : Option Nat := do
  let visit ← system.visit
  let socket ← system.links[visit.link]?
  socket.inbox.deadline

/-- When somebody gives up waiting for a session or a socket. -/
def deadlines (system : System Executor) : List Nat :=
  (system.visit.bind fun visit => waitDeadline visit.wait).toList ++ system.readDeadline.toList ++
    system.links.filterMap fun link => link.guard.deadline?

end System

end UsbExport

import UsbExport.Server.Basic

/-!
All runs of a server: its parties move in any order, time passes, clients connect and send, and
sockets behave as they like. Main statements: whatever holds at the start and is kept by every
event holds in every state that a run reaches, and the schedule that serves parties in turn is one
of the runs.
-/

namespace UsbExport.Server

open Dispatch Socket

variable {Executor Inner : Type}

inductive Event (Inner : Type)
  | move (party : Party Inner)
  | pass (duration : Nat)
  | connect
  | arrive (link : LinkId) (bytes : Bytes)
  | finish (link : LinkId)
  | stumble (link : LinkId) (kind : FaultKind)
  | setMode (link : LinkId) (mode : WriteMode)
deriving Repr

def mapSocket (server : Server Executor) (link : LinkId) (change : Link → Link) :
    Server Executor :=
  server.mapSystem fun system => system.mapLink link change

/-- The state after an event, if it can happen. -/
def step (inner : Company (System Executor) Inner) (server : Server Executor) :
    Event Inner → Option (Server Executor)
  | .move party => ((company inner).move party server).next?
  | .pass duration =>
      some (server.mapSystem fun system => { system with now := system.now + duration })
  | .connect => some server.connect.2
  | .arrive link bytes =>
      some (server.mapSocket link fun socket => { socket with inbox := socket.inbox.arrive bytes })
  | .finish link =>
      some (server.mapSocket link fun socket => { socket with inbox := socket.inbox.finish })
  | .stumble link kind =>
      some (server.mapSocket link fun socket => { socket with inbox := socket.inbox.stumble kind })
  | .setMode link mode =>
      some (server.mapSocket link fun socket => { socket with guard := socket.guard.setMode mode })

/-- The state after events, if they can happen one after the other. -/
def runFrom (inner : Company (System Executor) Inner) (server : Server Executor)
    (events : List (Event Inner)) : Option (Server Executor) :=
  events.foldlM (step inner) server

/-- The states that some run from `start` passes through. -/
inductive Reachable (inner : Company (System Executor) Inner) (start : Server Executor) :
    Server Executor → Prop
  | start : Reachable inner start start
  | step {server next : Server Executor} (event : Event Inner)
      (reached : Reachable inner start server) (happened : step inner server event = some next) :
      Reachable inner start next

namespace Reachable

variable {inner : Company (System Executor) Inner} {start server next : Server Executor}

theorem invariant {Holds : Server Executor → Prop} (initial : Holds start)
    (kept : ∀ server next event, Holds server → Server.step inner server event = some next →
      Holds next)
    (reached : Reachable inner start server) : Holds server := by
  induction reached with
  | start => exact initial
  | step event _ happened ih => exact kept _ _ event ih happened

theorem ofMoves (reached : Reachable inner start server)
    (moves : (company inner).Moves server next) : Reachable inner start next := by
  induction moves with
  | refl => exact reached
  | step party moved _ ih => exact ih (.step (.move party) reached moved)

/-- Serving the parties in turn is one way to run. -/
theorem settle [DecidableEq Inner] (reached : Reachable inner start server) :
    Reachable inner start ((company inner).settle server) :=
  reached.ofMoves (Company.moves_settle _ _)

end Reachable

end UsbExport.Server

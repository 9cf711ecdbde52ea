import UsbExport.Bench.Scenario
import UsbExport.Server.Basic

/-!
Trials of a server with clients that come one after another. A client sends, waits for as many
bytes as it expects, and in the end closes its side or breaks the connection.
-/

namespace UsbExport.Bench

open Dispatch Socket

structure Exchange where
  send : Bytes
  expect : Nat
deriving Repr, Inhabited

inductive Farewell
  /-- Stops sending and reads to the end. -/
  | halfClose
  /-- Breaks the connection and waits until the device is free. -/
  | reset
deriving DecidableEq, Repr, Inhabited

structure Client where
  exchanges : List Exchange
  farewell : Farewell
deriving Repr, Inhabited

/-- What a client got, each time with the busy flag at that moment. -/
structure ClientReport where
  replies : List (Bytes × Bool)
  rest : Bytes
  busy : Bool
deriving Repr, Inhabited

structure ServerTrial (Executor : Type) where
  clockwork : Clockwork (Server Executor)
  server : Server Executor

namespace ServerTrial

variable {Executor : Type}

def sink (server : Server Executor) (link : LinkId) : Sink :=
  ((server.system.links[link]?).map fun socket => socket.guard.sink).getD {}

def busy (server : Server Executor) : Bool := server.system.flags.busy

def mapInbox (server : Server Executor) (link : LinkId) (change : Inbox → Inbox) :
    Server Executor :=
  server.mapSystem fun system =>
    system.mapLink link fun socket => { socket with inbox := change socket.inbox }

/-- Sends and reads; `seen` bytes of what was written have been read before. -/
def exchange (clockwork : Clockwork (Server Executor)) (link : LinkId) (exchange : Exchange)
    (seen : Nat) (server : Server Executor) : (Bytes × Bool) × Server Executor :=
  let server := mapInbox server link (·.arrive exchange.send)
  let wanted (server : Server Executor) : Bool :=
    (sink server link).written.length < seen + exchange.expect
  let server := clockwork.runWhile wanted Scenario.patience server
  ((((sink server link).written.drop seen).take exchange.expect, busy server), server)

def exchanges (clockwork : Clockwork (Server Executor)) (link : LinkId) (seen : Nat)
    (server : Server Executor) : List Exchange → List (Bytes × Bool) × Nat × Server Executor
  | [] => ([], seen, server)
  | first :: rest =>
      let (reply, server) := exchange clockwork link first seen server
      let (replies, seen, server) :=
        exchanges clockwork link (seen + first.expect) server rest
      (reply :: replies, seen, server)

/-- Serves one client from its connection to its end. -/
def serve (trial : ServerTrial Executor) (client : Client) :
    ClientReport × ServerTrial Executor :=
  let (link, server) := trial.server.connect
  let (replies, seen, server) := exchanges trial.clockwork link 0 server client.exchanges
  match client.farewell with
  | .halfClose =>
      let server := mapInbox server link Inbox.finish
      let isOpen (server : Server Executor) : Bool := !(sink server link).isShutDown
      let server := trial.clockwork.runWhile isOpen Scenario.patience server
      (⟨replies, (sink server link).written.drop seen, busy server⟩, { trial with server })
  | .reset =>
      let server := mapInbox server link fun _ => { faults := [.connectionReset], ended := true }
      let server := trial.clockwork.runWhile busy Scenario.patience server
      (⟨replies, [], busy server⟩, { trial with server })

def run (trial : ServerTrial Executor) : List Client → List ClientReport × ServerTrial Executor
  | [] => ([], { trial with server := trial.clockwork.settle trial.server })
  | client :: rest =>
      let (report, trial) := trial.serve client
      let (reports, trial) := trial.run rest
      (report :: reports, trial)

def scripted (config : Config) (executor : ScriptedExecutor) : ServerTrial ScriptedExecutor where
  clockwork := Server.clockwork ScriptedExecutor.company ScriptedExecutor.deadlines
  server := { system := { config, executor } }

def host (config : Config) (host : Host MemoryDevice) : ServerTrial (Host MemoryDevice) where
  clockwork := Server.clockwork Host.company System.deadlines
  server := { system := { config, executor := host } }

/-- Why the server has stopped, if it has. -/
def stopped? (trial : ServerTrial Executor) : Option ServerError :=
  if trial.server.isStopped then some .restartRequired else none

end ServerTrial

end UsbExport.Bench

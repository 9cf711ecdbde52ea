import UsbExport.Server.Error
import UsbExport.System.Clock
import UsbExport.System.Visit

/-!
A server that serves one client after another. Clients that have connected wait in line; the next
one is served when the session before it has ended. Under the restart policy the server stops
instead when a client has let the device go.
-/

namespace UsbExport

open Dispatch Socket

/-- The network around a server when it starts. -/
structure Network where
  /-- Why the network does not come up, if it does not. -/
  fault : Option String := none
  /-- Whether somebody else listens at the address. -/
  addressTaken : Bool := false
deriving Repr, Inhabited

/-- Whether a server comes to listen. The configuration is checked before the network is brought
up, and that happens before the socket is bound. -/
def Config.start (config : Config) (network : Network) : Except ServerError Unit :=
  match config.check with
  | .error error => .error (.config error)
  | .ok () =>
      match network.fault with
      | some reason => .error (.networkDown reason)
      | none =>
          if network.addressTaken then .error (.listen config.listenAddress .addressInUse)
          else .ok ()

structure Server (Executor : Type) where
  system : System Executor
  /-- Clients that wait to be served. -/
  line : List LinkId := []
  isStopped : Bool := false
  /-- How the sessions so far have ended, the latest first. -/
  endings : List Ending := []

namespace Server

variable {Executor : Type}

def mapSystem (server : Server Executor) (change : System Executor → System Executor) :
    Server Executor :=
  { server with system := change server.system }

/-- A client connects, on a socket that takes everything. -/
def connect (server : Server Executor) : LinkId × Server Executor :=
  let (link, system) := server.system.addLink {} .accept
  (link, { server with system, line := server.line ++ [link] })

/-- Whether the end of a session stops the server. -/
def stopsAt (policy : DetachPolicy) (ending : Ending) : Bool :=
  policy == .restart && ending == .detached

/-- One move of the server between sessions. -/
def moveAcceptor (server : Server Executor) : Move (Server Executor) :=
  if server.isStopped then .blocked
  else
    match server.system.visit with
    | some visit =>
        match visit.session.ending? with
        | none => .blocked
        | some ending =>
            .went { server with
              system := { server.system with visit := none }
              isStopped := stopsAt server.system.config.detachPolicy ending
              endings := ending :: server.endings }
    | none =>
        match server.line with
        | [] => .blocked
        | link :: line =>
            .went { server with system := server.system.setVisit { link }, line }

/-- The two moves of the acceptor: it closes the visit of a session that has ended, or it serves the
next client in line. -/
theorem moveAcceptor_cases {server next : Server Executor}
    (moved : server.moveAcceptor.next? = some next) :
    server.isStopped = false ∧
      ((∃ visit ending, server.system.visit = some visit ∧
          visit.session.stage = .finished ending ∧
          next = { server with
            system := { server.system with visit := none }
            isStopped := stopsAt server.system.config.detachPolicy ending
            endings := ending :: server.endings }) ∨
        ∃ link line, server.system.visit = none ∧ server.line = link :: line ∧
          next = { server with system := server.system.setVisit { link }, line }) := by
  unfold moveAcceptor at moved
  split at moved
  · cases moved
  · next running =>
      refine ⟨by simpa using running, ?_⟩
      split at moved
      · next visit visit_eq =>
          split at moved
          · cases moved
          · next ending ended =>
              obtain rfl := Option.some.inj moved
              unfold Session.ending? at ended
              split at ended
              · next stage_eq =>
                  cases ended
                  exact Or.inl ⟨visit, _, visit_eq, stage_eq, rfl⟩
              · cases ended
      · next unvisited =>
          split at moved
          · cases moved
          · next link line line_eq =>
              obtain rfl := Option.some.inj moved
              exact Or.inr ⟨link, line, unvisited, line_eq, rfl⟩

def lift (server : Server Executor) : Move (System Executor) → Move (Server Executor)
  | .blocked => .blocked
  | .went system => .went { server with system }
  | .paused system => .paused { server with system }

theorem lift_next? {server next : Server Executor} {move : Move (System Executor)}
    (moved : (server.lift move).next? = some next) :
    ∃ system, move.next? = some system ∧ next = { server with system } := by
  cases move with
  | blocked => cases moved
  | went system => exact ⟨system, rfl, (Option.some.inj moved).symm⟩
  | paused system => exact ⟨system, rfl, (Option.some.inj moved).symm⟩

/-- Everybody around a server: the acceptor, and those who move the system that it serves with. -/
inductive Party (Inner : Type)
  | acceptor
  | inner (party : Inner)
deriving DecidableEq, Repr

def company {Inner : Type} (inner : Company (System Executor) Inner) :
    Company (Server Executor) (Party Inner) where
  parties server := .acceptor :: (inner.parties server.system).map .inner
  reserve server := (inner.reserve server.system).map .inner
  move
    | .acceptor => moveAcceptor
    | .inner party => fun server => server.lift (inner.move party server.system)

def clockwork {Inner : Type} [DecidableEq Inner] (inner : Company (System Executor) Inner)
    (deadlines : System Executor → List Nat) : Clockwork (Server Executor) where
  now server := server.system.now
  setNow server now := server.mapSystem fun system => { system with now }
  settle := (company inner).settle
  deadlines server := deadlines server.system

end Server

end UsbExport

import UsbExport.Proofs.Socket.Turns
import UsbExport.System.Visit

/-!
What a session does that others can tell, and everything that one move of it can come to.
-/

namespace UsbExport

open Dispatch Socket

namespace Session

/-- What a session does that others can tell. -/
inductive Deed
  | asked (request : ControlRequest)
  /-- A submit that the data channel took, or that found no room in it. -/
  | offered (submit : Submit) (taken : Bool)
  | cancelled (target : UInt32)
  /-- An errand at the socket has had its turn. -/
  | served (errand : Errand) (succeeded : Bool)
  | reset
  | released
deriving DecidableEq, Repr

/-- A session that waits afresh stands where it rests. -/
theorem elapse_cases (session : Session) :
    session.elapse = session ∨
      ∃ part, session.stage = .collecting part [] ∧ session.elapse = rest session.phase := by
  unfold elapse
  split
  · next stage_eq => exact Or.inr ⟨_, stage_eq, rfl⟩
  · next stage_eq => exact Or.inr ⟨_, stage_eq, rfl⟩
  · exact Or.inl rfl

/-- The control command that a stage posts, its answer going to `slot`. -/
def Stage.request? (slot : SlotId) : Stage → Option (ControlHeader × ControlCommand)
  | .postingList header status _ => some (header, .deviceList status slot)
  | .postingImport header request => some (header, .importDevice request slot)
  | .postingUnknown header => some (header, .unknown)
  | _ => none

/-- What a stage does at the socket. -/
def Stage.errand? : Stage → Option Errand
  | .acknowledging seqnum => some (.send (UnlinkReply.acknowledge seqnum 0).encode)
  | .closing _ => some .close
  | _ => none

def Answer.ofSend : Except SendError Unit → Answer
  | .ok () => .done
  | .error error => .failed error.kind

def Stage.awaits : Stage → Bool
  | .awaitingList | .awaitingImport => true
  | _ => false

end Session

/-- The ticket with which a session stands in line. -/
def Wait.ticket? : Wait → Option Ticket
  | .turn ticket => some ticket
  | _ => none

theorem Wait.ticket?_eq_none {wait : Wait} (unset : ∀ ticket, wait ≠ .turn ticket) :
    wait.ticket? = none := by
  cases wait with
  | turn ticket => exact absurd rfl (unset ticket)
  | _ => rfl

namespace System

open Session

variable {Executor : Type}

theorem getElem?_mapLink {system : System Executor} {link : LinkId} {change : Link → Link}
    {socket : Link} (socket_eq : system.links[link]? = some socket) :
    (system.mapLink link change).links[link]? = some (change socket) := by
  simp [mapLink, socket_eq]

/-- Who stands in line at a socket that exists has the last ticket. -/
theorem standInLine_eq {system : System Executor} {link : LinkId} {errand : Errand}
    {socket : Link} (socket_eq : system.links[link]? = some socket) :
    system.standInLine link errand =
      (socket.guard.issued, system.setGuard link (socket.guard.request errand).2) := by
  simp [standInLine, socket_eq, Guard.request]

/-- The errand that a move with a ticket brings to its end. -/
def served? (system : System Executor) (link : LinkId) (ticket : Ticket) : Option Deed :=
  match system.links[link]? with
  | none => none
  | some socket =>
      match socket.guard.poll ticket system.now, socket.guard.line with
      | .finished _ result, head :: _ => some (.served head.errand result.isOk)
      | _, _ => none

/-- What the next move of the session does. -/
def deed? (system : System Executor) : Option Deed :=
  match system.visit with
  | none => none
  | some visit =>
      match visit.session.stage, visit.wait with
      | .submitting submit, wait =>
          match system.data.post ⟨submit, visit.link⟩, wait with
          | .ok _, _ => some (.offered submit true)
          | .error .unavailable, _ => some (.offered submit false)
          | .error .full, .room deadline =>
              if deadline ≤ system.now then some (.offered submit false) else none
          | .error .full, _ => none
      | .cancelling _ target, _ => some (.cancelled target)
      | .acknowledging _, wait | .closing _, wait =>
          wait.ticket?.bind (system.served? visit.link)
      | .resetting _, _ => some .reset
      | .releasing _, _ => some .released
      | stage, _ =>
          match stage.request? system.slots.length with
          | none => none
          | some (header, command) =>
              match system.control.post ⟨header, command, visit.link⟩ with
              | .ok _ => some (.asked ⟨header, command, visit.link⟩)
              | .error _ => none

/-- The wait that follows a control command that was taken. -/
def waitFor (command : ControlCommand) : Wait :=
  match command.slot? with
  | some slot => .answer slot none
  | none => .nothing

/-- A move of the session with what it does: one case for each thing a session can ask for. -/
inductive SessionMove [DeviceExecutor Executor] (system : System Executor) (visit : Visit) :
    Option Deed → System Executor → Prop
  | read {limit : Nat} {socket : Link} {arrival : Arrival} {inbox : Inbox}
      (wants : visit.session.wants = some limit)
      (socket_eq : system.links[visit.link]? = some socket)
      (brought : socket.inbox.read limit system.now (system.readTimeout visit) =
        some (arrival, inbox)) :
      SessionMove system visit none
        ((system.mapLink visit.link fun socket => { socket with inbox }).setVisit
          { visit with session := visit.session.receive system.config.sessionLimits arrival })
  | asked {header : ControlHeader} {command : ControlCommand} {control : Channel ControlRequest}
      (posting : visit.session.stage.request? system.slots.length = some (header, command))
      (posted : system.control.post ⟨header, command, visit.link⟩ = .ok control) :
      SessionMove system visit (some (.asked ⟨header, command, visit.link⟩))
        { system with
          control
          slots := system.slots ++ (command.slot?.map fun _ => Slot.open).toList
          visit := some { visit with
            session := visit.session.resume (.taken true), wait := waitFor command } }
  | refused {header : ControlHeader} {command : ControlCommand}
      (posting : visit.session.stage.request? system.slots.length = some (header, command))
      (unposted : system.control.post ⟨header, command, visit.link⟩ = .error .unavailable) :
      SessionMove system visit none (system.resume visit (.taken false))
  | looked {slot : SlotId}
      (awaits : visit.session.stage.awaits = true) (wait_eq : visit.wait = .answer slot none)
      (unanswered : system.slot slot = .open) :
      SessionMove system visit none
        (system.setVisit
          { visit with wait := .answer slot (some (system.now + system.config.importWait)) })
  | answered {yes : Bool}
      (awaits : visit.session.stage.awaits = true)
      (given : yes = true → ∃ slot deadline,
        visit.wait = .answer slot deadline ∧ system.slot slot = .given true) :
      SessionMove system visit none (system.resume visit (.taken yes))
  | posted {submit : Submit} {data : Channel SubmitRequest}
      (stage_eq : visit.session.stage = .submitting submit)
      (posted : system.data.post ⟨submit, visit.link⟩ = .ok data) :
      SessionMove system visit (some (.offered submit true))
        { system.resume visit (.taken true) with data }
  | dropped {submit : Submit} {error : DispatchError}
      (stage_eq : visit.session.stage = .submitting submit)
      (unposted : system.data.post ⟨submit, visit.link⟩ = .error error) :
      SessionMove system visit (some (.offered submit false)) (system.resume visit (.taken false))
  | crowded {submit : Submit}
      (stage_eq : visit.session.stage = .submitting submit)
      (unposted : system.data.post ⟨submit, visit.link⟩ = .error .full)
      (unset : ∀ deadline, visit.wait ≠ .room deadline) :
      SessionMove system visit none
        (system.setVisit { visit with wait := .room (system.now + system.config.submitWait) })
  | cancelled {header : UrbHeader} {target : UInt32}
      (stage_eq : visit.session.stage = .cancelling header target) :
      SessionMove system visit (some (.cancelled target))
        ({ system with executor := DeviceExecutor.unlink system.executor target }.resume visit
          .done)
  | stood {errand : Errand}
      (wanted : visit.session.stage.errand? = some errand)
      (unset : ∀ ticket, visit.wait ≠ .turn ticket) :
      SessionMove system visit none
        ((system.standInLine visit.link errand).2.setVisit
          { visit with wait := .turn (system.standInLine visit.link errand).1 })
  | moved {errand : Errand} {ticket : Ticket} {socket : Link} {guard : Guard}
      (wanted : visit.session.stage.errand? = some errand) (wait_eq : visit.wait = .turn ticket)
      (socket_eq : system.links[visit.link]? = some socket)
      (polled : socket.guard.poll ticket system.now = .advanced guard ∨
        socket.guard.poll ticket system.now = .paused guard) :
      SessionMove system visit none (system.setGuard visit.link guard)
  | served {errand : Errand} {ticket : Ticket} {socket : Link} {guard : Guard}
      {result : Except SendError Unit} {done : Errand} {line : List Waiter}
      (wanted : visit.session.stage.errand? = some errand) (wait_eq : visit.wait = .turn ticket)
      (socket_eq : system.links[visit.link]? = some socket)
      (polled : socket.guard.poll ticket system.now = .finished guard result)
      (standing : socket.guard.line = ⟨ticket, done⟩ :: line) :
      SessionMove system visit (some (.served done result.isOk))
        ((system.setGuard visit.link guard).resume visit (.ofSend result))
  | reset {ending : Ending} (stage_eq : visit.session.stage = .resetting ending) :
      SessionMove system visit (some .reset)
        ({ system with flags := system.flags.reset }.resume visit .done)
  | released {ending : Ending} (stage_eq : visit.session.stage = .releasing ending) :
      SessionMove system visit (some .released)
        ({ system with executor := DeviceExecutor.release system.executor }.resume visit .done)

variable {system next : System Executor} {visit : Visit}

/-- What a move with a ticket can come to. -/
theorem pursue_cases {link : LinkId} {ticket : Ticket}
    {after : System Executor → Except SendError Unit → System Executor}
    (moved : (system.pursue link ticket after).next? = some next) :
    ∃ socket guard, system.links[link]? = some socket ∧
      ((socket.guard.poll ticket system.now = .advanced guard ∨
          socket.guard.poll ticket system.now = .paused guard) ∧
          system.served? link ticket = none ∧ next = system.setGuard link guard ∨
        ∃ result done line, socket.guard.poll ticket system.now = .finished guard result ∧
          socket.guard.line = ⟨ticket, done⟩ :: line ∧
          system.served? link ticket = some (.served done result.isOk) ∧
          next = after (system.setGuard link guard) result) := by
  unfold pursue at moved
  cases socket_eq : system.links[link]? with
  | none => simp [socket_eq, Move.next?] at moved
  | some socket =>
      cases polled : socket.guard.poll ticket system.now with
      | waiting => simp [socket_eq, polled, Move.next?] at moved
      | advanced guard =>
          simp only [socket_eq, polled, Move.next?, Option.some.injEq] at moved
          refine ⟨socket, guard, rfl, Or.inl ⟨Or.inl polled, ?_, moved.symm⟩⟩
          simp [served?, socket_eq, polled]
      | paused guard =>
          simp only [socket_eq, polled, Move.next?, Option.some.injEq] at moved
          refine ⟨socket, guard, rfl, Or.inl ⟨Or.inr polled, ?_, moved.symm⟩⟩
          simp [served?, socket_eq, polled]
      | finished guard result =>
          simp only [socket_eq, polled, Move.next?, Option.some.injEq] at moved
          obtain ⟨done, line, standing⟩ := Guard.head_of_finished polled
          refine ⟨socket, guard, rfl, Or.inr ⟨result, done, line, polled, standing, ?_, moved.symm⟩⟩
          simp [served?, socket_eq, polled, standing]

variable [DeviceExecutor Executor]

theorem readInput_cases {limit : Nat} (wants : visit.session.wants = some limit)
    (moved : (system.readInput visit limit).next? = some next) :
    SessionMove system visit none next := by
  unfold readInput at moved
  cases socket_eq : system.links[visit.link]? with
  | none => simp [socket_eq, Move.next?] at moved
  | some socket =>
      cases brought : socket.inbox.read limit system.now (system.readTimeout visit) with
      | none => simp [socket_eq, brought, Move.next?] at moved
      | some found =>
          obtain ⟨arrival, inbox⟩ := found
          simp only [socket_eq, brought, Move.next?, Option.some.injEq] at moved
          subst moved
          exact .read wants socket_eq brought

theorem postControl_cases {header : ControlHeader} {command : ControlCommand}
    (posting : visit.session.stage.request? system.slots.length = some (header, command))
    (moved : (system.postControl visit header command).next? = some next) :
    SessionMove system visit
      (match system.control.post ⟨header, command, visit.link⟩ with
        | .ok _ => some (.asked ⟨header, command, visit.link⟩)
        | .error _ => none) next := by
  unfold postControl at moved
  cases posted : system.control.post ⟨header, command, visit.link⟩ with
  | error error =>
      cases error with
      | full => simp [posted, Move.next?] at moved
      | unavailable =>
          simp only [posted, Move.next?, Option.some.injEq] at moved
          subst moved
          exact .refused posting posted
  | ok control =>
      have went := SessionMove.asked posting posted
      cases slot_eq : command.slot? with
      | none =>
          simp only [posted, slot_eq, Move.next?, Option.some.injEq] at moved
          subst moved
          simpa [waitFor, slot_eq, resume, setVisit] using went
      | some slot =>
          simp only [posted, slot_eq, Move.next?, Option.some.injEq] at moved
          subst moved
          simpa [waitFor, slot_eq, resume, setVisit] using went

theorem awaitAnswer_cases (awaits : visit.session.stage.awaits = true)
    (moved : (system.awaitAnswer visit).next? = some next) :
    SessionMove system visit none next := by
  unfold awaitAnswer at moved
  have no : SessionMove system visit none (system.resume visit (.taken false)) :=
    .answered awaits (by simp)
  split at moved
  · next slot deadline wait_eq =>
      split at moved
      · next yes _ given =>
          cases moved
          refine .answered awaits fun confirmed => ⟨slot, _, wait_eq, ?_⟩
          rw [given, confirmed]
      · cases moved
        exact no
      · next unanswered =>
          cases moved
          exact .looked awaits wait_eq unanswered
      · split at moved
        · cases moved
          exact no
        · cases moved
  · cases moved
    exact no

theorem postSubmit_cases {submit : Submit} (stage_eq : visit.session.stage = .submitting submit)
    (visit_eq : system.visit = some visit)
    (moved : (system.postSubmit visit submit).next? = some next) :
    SessionMove system visit system.deed? next := by
  unfold postSubmit at moved
  simp only [deed?, visit_eq, stage_eq]
  cases posted : system.data.post ⟨submit, visit.link⟩ with
  | ok data =>
      simp only [posted, Move.next?, Option.some.injEq] at moved
      subst moved
      exact .posted stage_eq posted
  | error error =>
      cases error with
      | unavailable =>
          simp only [posted, Move.next?, Option.some.injEq] at moved
          subst moved
          exact .dropped stage_eq posted
      | full =>
          cases wait_eq : visit.wait with
          | room deadline =>
              by_cases late : deadline ≤ system.now
              · simp only [posted, wait_eq, late, if_true, Move.next?, Option.some.injEq] at moved
                subst moved
                simp only [late, if_true]
                exact .dropped stage_eq posted
              · simp [posted, wait_eq, late, Move.next?] at moved
          | nothing =>
              simp only [posted, wait_eq, Move.next?, Option.some.injEq] at moved
              subst moved
              exact .crowded stage_eq posted (by simp [wait_eq])
          | answer slot deadline =>
              simp only [posted, wait_eq, Move.next?, Option.some.injEq] at moved
              subst moved
              exact .crowded stage_eq posted (by simp [wait_eq])
          | turn ticket =>
              simp only [posted, wait_eq, Move.next?, Option.some.injEq] at moved
              subst moved
              exact .crowded stage_eq posted (by simp [wait_eq])

theorem runErrand_cases {errand : Errand} (wanted : visit.session.stage.errand? = some errand)
    (moved : (system.runErrand visit errand).next? = some next) :
    SessionMove system visit (visit.wait.ticket?.bind (system.served? visit.link)) next := by
  unfold runErrand at moved
  split at moved
  · next ticket wait_eq =>
      rw [wait_eq, Wait.ticket?, Option.bind_some]
      obtain ⟨socket, guard, socket_eq, ⟨polled, unserved, rfl⟩ |
        ⟨result, done, line, polled, standing, served, rfl⟩⟩ := pursue_cases moved
      · rw [unserved]
        exact .moved wanted wait_eq socket_eq polled
      · rw [served]
        have went := SessionMove.served wanted wait_eq socket_eq polled standing
        cases result with
        | ok => exact went
        | error error => exact went
  · next unset =>
      simp only [Move.next?, Option.some.injEq] at moved
      subst moved
      rw [Wait.ticket?_eq_none unset]
      exact .stood wanted unset

/-- Whatever a move of the session comes to is one of the cases, with the deed told beforehand. -/
theorem moveSession_cases (moved : system.moveSession.next? = some next) :
    ∃ visit, system.visit = some visit ∧ SessionMove system visit system.deed? next := by
  unfold moveSession at moved
  cases visit_eq : system.visit with
  | none => simp [visit_eq, Move.next?] at moved
  | some visit =>
      refine ⟨visit, rfl, ?_⟩
      simp only [visit_eq] at moved
      cases stage_eq : visit.session.stage with
      | collecting part got =>
          simp only [stage_eq] at moved
          simpa [deed?, visit_eq, stage_eq, Stage.request?] using
            readInput_cases (by simp [Session.wants, stage_eq]) moved
      | skipping left =>
          simp only [stage_eq] at moved
          simpa [deed?, visit_eq, stage_eq, Stage.request?] using
            readInput_cases (by simp [Session.wants, stage_eq]) moved
      | postingList header status cut =>
          simp only [stage_eq] at moved
          simpa [deed?, visit_eq, stage_eq, Stage.request?] using
            postControl_cases (by simp [Stage.request?, stage_eq]) moved
      | postingImport header request =>
          simp only [stage_eq] at moved
          simpa [deed?, visit_eq, stage_eq, Stage.request?] using
            postControl_cases (by simp [Stage.request?, stage_eq]) moved
      | postingUnknown header =>
          simp only [stage_eq] at moved
          simpa [deed?, visit_eq, stage_eq, Stage.request?] using
            postControl_cases (by simp [Stage.request?, stage_eq]) moved
      | awaitingList =>
          simp only [stage_eq] at moved
          simpa [deed?, visit_eq, stage_eq, Stage.request?] using
            awaitAnswer_cases (by simp [Stage.awaits, stage_eq]) moved
      | awaitingImport =>
          simp only [stage_eq] at moved
          simpa [deed?, visit_eq, stage_eq, Stage.request?] using
            awaitAnswer_cases (by simp [Stage.awaits, stage_eq]) moved
      | submitting submit =>
          simp only [stage_eq] at moved
          exact postSubmit_cases stage_eq visit_eq moved
      | cancelling header target =>
          simp only [stage_eq, Move.next?, Option.some.injEq] at moved
          subst moved
          have deed_eq : system.deed? = some (.cancelled target) := by
            simp [deed?, visit_eq, stage_eq]
          rw [deed_eq]
          exact .cancelled stage_eq
      | acknowledging seqnum =>
          simp only [stage_eq] at moved
          simpa [deed?, visit_eq, stage_eq] using
            runErrand_cases (by simp [Stage.errand?, stage_eq]) moved
      | resetting ending =>
          simp only [stage_eq, Move.next?, Option.some.injEq] at moved
          subst moved
          have deed_eq : system.deed? = some (.reset) := by simp [deed?, visit_eq, stage_eq]
          rw [deed_eq]
          exact .reset stage_eq
      | releasing ending =>
          simp only [stage_eq, Move.next?, Option.some.injEq] at moved
          subst moved
          have deed_eq : system.deed? = some (.released) := by simp [deed?, visit_eq, stage_eq]
          rw [deed_eq]
          exact .released stage_eq
      | closing ending =>
          simp only [stage_eq] at moved
          simpa [deed?, visit_eq, stage_eq] using
            runErrand_cases (by simp [Stage.errand?, stage_eq]) moved
      | finished ending => simp [stage_eq, Move.next?] at moved

/-! ### A move that reads -/

theorem moveSession_of_wants {limit : Nat} (visit_eq : system.visit = some visit)
    (wants : visit.session.wants = some limit) :
    system.moveSession = system.readInput visit limit := by
  unfold moveSession
  rw [visit_eq]
  unfold Session.wants at wants
  split at wants <;> next stage_eq => simp_all

theorem read_of_moved {limit : Nat} (visit_eq : system.visit = some visit)
    (wants : visit.session.wants = some limit) (moved : system.moveSession.next? = some next) :
    ∃ socket arrival inbox, system.links[visit.link]? = some socket ∧
      socket.inbox.read limit system.now (system.readTimeout visit) = some (arrival, inbox) ∧
      next = (system.mapLink visit.link fun socket => { socket with inbox }).setVisit
        { visit with session := visit.session.receive system.config.sessionLimits arrival } := by
  rw [moveSession_of_wants visit_eq wants] at moved
  unfold readInput at moved
  cases socket_eq : system.links[visit.link]? with
  | none => simp [socket_eq, Move.next?] at moved
  | some socket =>
      cases brought : socket.inbox.read limit system.now (system.readTimeout visit) with
      | none => simp [socket_eq, brought, Move.next?] at moved
      | some found =>
          obtain ⟨arrival, inbox⟩ := found
          simp only [socket_eq, brought, Move.next?, Option.some.injEq] at moved
          exact ⟨socket, arrival, inbox, rfl, brought, moved.symm⟩

end System

end UsbExport

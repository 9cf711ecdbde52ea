import UsbExport.Proofs.Session.Course
import UsbExport.Proofs.Session.Replay

/-!
How a session is answered by the system it lives in. Main statement: a move of a session that does
not read leaves it as it was, or goes on with the answer that `answer?` tells beforehand, and the
session keeps its place in the line for its socket.
-/

namespace UsbExport

open Dispatch Socket

/-- The fault that a read brings. -/
def Socket.Arrival.fault? : Arrival → Option FaultKind
  | .disturbance (.fault kind) => some kind
  | _ => none

namespace System

open Session

variable {Executor : Type}

/-! ### Answers, told beforehand -/

/-- How the control channel answers. One that is full does not answer yet. -/
def answerControl? (system : System Executor) (visit : Visit) : Option Answer :=
  match visit.session.stage.request? system.slots.length with
  | none => none
  | some (header, command) =>
      match system.control.post ⟨header, command, visit.link⟩ with
      | .ok _ => some (.taken true)
      | .error .unavailable => some (.taken false)
      | .error .full => none

/-- How the data channel answers. One that stays full answers when the time is over. -/
def answerSubmit? (system : System Executor) (visit : Visit) (submit : Submit) : Option Answer :=
  match system.data.post ⟨submit, visit.link⟩, visit.wait with
  | .ok _, _ => some (.taken true)
  | .error .unavailable, _ => some (.taken false)
  | .error .full, .room deadline => if deadline ≤ system.now then some (.taken false) else none
  | .error .full, _ => none

/-- What is found in a slot, or that the time for it is over. -/
def answerWait? (system : System Executor) : Wait → Option Answer
  | .answer slot deadline =>
      match system.slot slot, deadline with
      | .given yes, _ => some (.taken yes)
      | .lost, _ => some (.taken false)
      | .open, none => none
      | .open, some deadline => if deadline ≤ system.now then some (.taken false) else none
  | _ => some (.taken false)

/-- What becomes of an errand whose last turn this is. -/
def answerErrand? (system : System Executor) (link : LinkId) (ticket : Ticket) : Option Answer :=
  match system.links[link]? with
  | none => none
  | some socket =>
      match socket.guard.poll ticket system.now with
      | .finished _ result => some (.ofSend result)
      | _ => none

/-- The answer with which the session goes on in its next move, if it gets one. -/
def answer? (system : System Executor) : Option Answer :=
  match system.visit with
  | none => none
  | some visit =>
      match visit.session.stage with
      | .collecting _ _ | .skipping _ | .finished _ => none
      | .postingList _ _ _ | .postingImport _ _ | .postingUnknown _ => system.answerControl? visit
      | .awaitingList | .awaitingImport => system.answerWait? visit.wait
      | .submitting submit => system.answerSubmit? visit submit
      | .cancelling _ _ | .resetting _ | .releasing _ => some .done
      | .acknowledging _ | .closing _ => visit.wait.ticket?.bind (system.answerErrand? visit.link)

/-- The act that the next move of the session completes. -/
def act? (system : System Executor) : Option Act :=
  system.visit.bind fun visit =>
    visit.session.stage.ask?.bind fun ask =>
      system.answer?.map fun answer => ⟨visit.session.phase, ask, answer⟩

/-- The stage in which the next move of the session meets a fault, and the fault. -/
def met? (system : System Executor) : Option (Stage × FaultKind) :=
  system.visit.bind fun visit =>
    visit.session.wants.bind fun limit =>
      system.links[visit.link]?.bind fun socket =>
        (socket.inbox.read limit system.now (system.readTimeout visit)).bind fun (arrival, _) =>
          arrival.fault?.map fun kind => (visit.session.stage, kind)

/-- A session that reads is not answered. -/
theorem answer?_of_wants {system : System Executor} {visit : Visit} {limit : Nat}
    (visit_eq : system.visit = some visit) (wants : visit.session.wants = some limit) :
    system.answer? = none := by
  unfold Session.wants at wants
  unfold answer?
  rw [visit_eq]
  split at wants <;> simp_all

/-- A session that has ended is not answered any more. -/
theorem answer?_of_ending {system : System Executor} {visit : Visit} {ending : Ending}
    (visit_eq : system.visit = some visit) (ended : visit.session.ending? = some ending) :
    system.answer? = none := by
  unfold Session.ending? at ended
  unfold answer?
  rw [visit_eq]
  split at ended <;> simp_all

theorem act?_of_wants {system : System Executor} {visit : Visit} {limit : Nat}
    (visit_eq : system.visit = some visit) (wants : visit.session.wants = some limit) :
    system.act? = none := by
  simp [act?, visit_eq, answer?_of_wants visit_eq wants]

theorem met?_of_read {system : System Executor} {visit : Visit} {limit : Nat} {socket : Link}
    {arrival : Arrival} {inbox : Inbox} (visit_eq : system.visit = some visit)
    (wants : visit.session.wants = some limit)
    (socket_eq : system.links[visit.link]? = some socket)
    (brought : socket.inbox.read limit system.now (system.readTimeout visit) =
      some (arrival, inbox)) :
    system.met? = arrival.fault?.map fun kind => (visit.session.stage, kind) := by
  simp [met?, visit_eq, wants, socket_eq, brought]

theorem met?_of_silent {system : System Executor} {visit : Visit}
    (visit_eq : system.visit = some visit) (silent : visit.session.wants = none) :
    system.met? = none := by
  simp [met?, visit_eq, silent]

/-- Channels and slots say yes or no. -/
theorem taken_of_answerControl? {system : System Executor} {visit : Visit} {answer : Answer}
    (answered : system.answerControl? visit = some answer) : ∃ yes, answer = .taken yes := by
  unfold answerControl? at answered
  repeat' split at answered
  all_goals first
    | exact ⟨_, (Option.some.inj answered).symm⟩
    | cases answered

theorem taken_of_answerSubmit? {system : System Executor} {visit : Visit} {submit : Submit}
    {answer : Answer} (answered : system.answerSubmit? visit submit = some answer) :
    ∃ yes, answer = .taken yes := by
  unfold answerSubmit? at answered
  repeat' split at answered
  all_goals first
    | exact ⟨_, (Option.some.inj answered).symm⟩
    | cases answered

theorem taken_of_answerWait? {system : System Executor} {wait : Wait} {answer : Answer}
    (answered : system.answerWait? wait = some answer) : ∃ yes, answer = .taken yes := by
  unfold answerWait? at answered
  repeat' split at answered
  all_goals first
    | exact ⟨_, (Option.some.inj answered).symm⟩
    | cases answered

/-! ### A move that does not read -/

section Moves

variable {system next : System Executor} {visit : Visit}

/-- The session after a move goes on with the answer it gets, if it gets one. -/
def Follows (visit : Visit) (answer : Option Answer) (next : System Executor) : Prop :=
  ∃ after, next.visit = some after ∧
    after.session = answer.elim visit.session visit.session.resume

theorem follows_resume (system : System Executor) (visit : Visit) (answer : Answer) :
    Follows visit (some answer) (system.resume visit answer) :=
  ⟨_, rfl, rfl⟩

theorem follows_postControl {header : ControlHeader} {command : ControlCommand}
    (posting : visit.session.stage.request? system.slots.length = some (header, command))
    (moved : (system.postControl visit header command).next? = some next) :
    Follows visit (system.answerControl? visit) next := by
  unfold postControl at moved
  unfold answerControl?
  simp only [posting]
  cases posted : system.control.post ⟨header, command, visit.link⟩ with
  | error error =>
      cases error with
      | full => simp [posted, Move.next?] at moved
      | unavailable =>
          simp only [posted, Move.next?, Option.some.injEq] at moved
          exact moved ▸ follows_resume system visit (.taken false)
  | ok control =>
      cases slot_eq : command.slot? with
      | none =>
          simp only [posted, slot_eq, Move.next?, Option.some.injEq] at moved
          exact moved ▸ ⟨_, rfl, rfl⟩
      | some slot =>
          simp only [posted, slot_eq, Move.next?, Option.some.injEq] at moved
          exact moved ▸ ⟨_, rfl, rfl⟩

theorem follows_postSubmit {submit : Submit}
    (moved : (system.postSubmit visit submit).next? = some next) :
    Follows visit (system.answerSubmit? visit submit) next := by
  unfold postSubmit at moved
  unfold answerSubmit?
  cases posted : system.data.post ⟨submit, visit.link⟩ with
  | ok data =>
      simp only [posted, Move.next?, Option.some.injEq] at moved
      exact moved ▸ ⟨_, rfl, rfl⟩
  | error error =>
      cases error with
      | unavailable =>
          simp only [posted, Move.next?, Option.some.injEq] at moved
          exact moved ▸ follows_resume system visit (.taken false)
      | full =>
          simp only [posted] at moved
          split at moved
          · next deadline wait_eq =>
              simp only [wait_eq]
              split at moved
              · next late =>
                  cases moved
                  rw [if_pos late]
                  exact follows_resume system visit (.taken false)
              · cases moved
          · next unset =>
              cases moved
              cases wait_eq : visit.wait with
              | room deadline => exact absurd wait_eq (unset deadline)
              | _ => exact ⟨_, rfl, rfl⟩

theorem follows_awaitAnswer (moved : (system.awaitAnswer visit).next? = some next) :
    Follows visit (system.answerWait? visit.wait) next := by
  rw [awaitAnswer] at moved
  cases wait_eq : visit.wait with
  | answer slot deadline =>
      cases slot_eq : system.slot slot with
      | given yes =>
          simp only [wait_eq, slot_eq, Move.next?, Option.some.injEq] at moved
          simp only [answerWait?, slot_eq]
          exact moved ▸ follows_resume system visit (.taken yes)
      | lost =>
          simp only [wait_eq, slot_eq, Move.next?, Option.some.injEq] at moved
          simp only [answerWait?, slot_eq]
          exact moved ▸ follows_resume system visit (.taken false)
      | «open» =>
          cases deadline with
          | none =>
              simp only [wait_eq, slot_eq, Move.next?, Option.some.injEq] at moved
              simp only [answerWait?, slot_eq]
              exact moved ▸ ⟨_, rfl, rfl⟩
          | some deadline =>
              by_cases late : deadline ≤ system.now
              · simp only [wait_eq, slot_eq, late, if_true, Move.next?, Option.some.injEq] at moved
                simp only [answerWait?, slot_eq, late, if_true]
                exact moved ▸ follows_resume system visit (.taken false)
              · simp [wait_eq, slot_eq, late, Move.next?] at moved
  | _ =>
      simp only [wait_eq, Move.next?, Option.some.injEq] at moved
      exact moved ▸ follows_resume system visit (.taken false)

theorem follows_runErrand {errand : Errand} (visit_eq : system.visit = some visit)
    (moved : (system.runErrand visit errand).next? = some next) :
    Follows visit (visit.wait.ticket?.bind (system.answerErrand? visit.link)) next := by
  unfold runErrand at moved
  split at moved
  · next ticket wait_eq =>
      rw [wait_eq, Wait.ticket?, Option.bind_some]
      unfold answerErrand?
      obtain ⟨socket, guard, socket_eq, ⟨polled | polled, -, rfl⟩ |
        ⟨result, done, line, polled, -, -, rfl⟩⟩ := pursue_cases moved
      · simp only [socket_eq, polled]
        exact ⟨visit, visit_eq, rfl⟩
      · simp only [socket_eq, polled]
        exact ⟨visit, visit_eq, rfl⟩
      · simp only [socket_eq, polled]
        cases result with
        | ok => exact follows_resume _ visit .done
        | error error => exact follows_resume _ visit (.failed error.kind)
  · next unset =>
      cases moved
      rw [Wait.ticket?_eq_none unset]
      exact ⟨_, rfl, rfl⟩

/-- A session that does not read goes on with the answer it gets, or stays as it is. -/
theorem follows_of_moved [DeviceExecutor Executor] (visit_eq : system.visit = some visit)
    (silent : visit.session.wants = none) (moved : system.moveSession.next? = some next) :
    Follows visit system.answer? next := by
  unfold moveSession at moved
  simp only [visit_eq] at moved
  simp only [answer?, visit_eq]
  cases stage_eq : visit.session.stage with
  | collecting part got => simp [Session.wants, stage_eq] at silent
  | skipping left => simp [Session.wants, stage_eq] at silent
  | postingList header status cut =>
      simp only [stage_eq] at moved
      exact follows_postControl (by rw [stage_eq]; rfl) moved
  | postingImport header request =>
      simp only [stage_eq] at moved
      exact follows_postControl (by rw [stage_eq]; rfl) moved
  | postingUnknown header =>
      simp only [stage_eq] at moved
      exact follows_postControl (by rw [stage_eq]; rfl) moved
  | awaitingList =>
      simp only [stage_eq] at moved
      exact follows_awaitAnswer moved
  | awaitingImport =>
      simp only [stage_eq] at moved
      exact follows_awaitAnswer moved
  | submitting submit =>
      simp only [stage_eq] at moved
      exact follows_postSubmit moved
  | acknowledging seqnum =>
      simp only [stage_eq] at moved
      exact follows_runErrand visit_eq moved
  | closing ending =>
      simp only [stage_eq] at moved
      exact follows_runErrand visit_eq moved
  | cancelling header target =>
      simp only [stage_eq, Move.next?, Option.some.injEq] at moved
      exact moved ▸ follows_resume _ visit .done
  | resetting ending =>
      simp only [stage_eq, Move.next?, Option.some.injEq] at moved
      exact moved ▸ follows_resume _ visit .done
  | releasing ending =>
      simp only [stage_eq, Move.next?, Option.some.injEq] at moved
      exact moved ▸ follows_resume _ visit .done
  | finished ending => simp [stage_eq, Move.next?] at moved

/-- A session that cannot move and does not read has ended or asks for something. -/
theorem ask?_or_finished {session : Session} (silent : session.wants = none) :
    (∃ ask, session.stage.ask? = some ask) ∨ ∃ ending, session.ending? = some ending := by
  obtain ⟨phase, stage⟩ := session
  cases stage with
  | collecting | skipping => cases silent
  | finished ending => exact Or.inr ⟨ending, rfl⟩
  | _ => exact Or.inl ⟨_, rfl⟩

/-! ### The place in the line -/

/-- The session stands in the line for its socket with the errand of its stage, or not at all. -/
structure Stands (visit : Visit) (guard : Guard) : Prop where
  orderly : guard.Orderly
  turn : ∀ ticket, visit.wait = .turn ticket →
    ∃ errand, visit.session.stage.errand? = some errand ∧ guard.Holds ticket errand

theorem Stands.of_free {visit after : Visit} {guard : Guard} (stands : Stands visit guard)
    (free : ∀ ticket, after.wait ≠ .turn ticket) : Stands after guard :=
  ⟨stands.orderly, fun ticket turn => absurd turn (free ticket)⟩

/-- A session that reads does not stand in line. -/
theorem Stands.free_of_wants {guard : Guard} {limit : Nat} (stands : Stands visit guard)
    (wants : visit.session.wants = some limit) (ticket : Ticket) : visit.wait ≠ .turn ticket := by
  intro turn
  obtain ⟨errand, wanted, -⟩ := stands.turn ticket turn
  unfold Session.wants at wants
  split at wants <;> simp_all [Stage.errand?]

theorem Stands.bystep {guard after : Guard} (stands : Stands visit guard)
    (bystep : guard.Bystep visit.wait.ticket? after) : Stands visit after := by
  refine ⟨stands.orderly.bystep bystep, fun ticket turn => ?_⟩
  obtain ⟨errand, wanted, holds⟩ := stands.turn ticket turn
  rw [turn] at bystep
  exact ⟨errand, wanted, holds.bystep stands.orderly bystep⟩

/-- Closing never fails. -/
theorem Stands.answer_closing {socket : Link} {ticket : Ticket} {now : Nat} {guard : Guard}
    {result : Except SendError Unit} {ending : Ending} (stands : Stands visit socket.guard)
    (stage_eq : visit.session.stage = .closing ending) (wait_eq : visit.wait = .turn ticket)
    (polled : socket.guard.poll ticket now = .finished guard result) : result = .ok () := by
  obtain ⟨errand, wanted, holds⟩ := stands.turn ticket wait_eq
  rw [stage_eq] at wanted
  obtain rfl : Errand.close = errand := Option.some.inj wanted
  obtain ⟨done, line, standing⟩ := Guard.head_of_finished polled
  obtain rfl : done = .close :=
    holds.only ⟨ticket, done⟩ (by rw [standing]; exact List.mem_cons_self) rfl
  unfold Guard.poll at polled
  simp only [standing, ne_eq, not_true_eq_false, if_false] at polled
  cases polled
  rfl

/-- Only a send can fail, and what a session does by itself is done. -/
theorem Stands.answered {socket : Link} {answer : Answer} {ask : Ask}
    (stands : Stands visit socket.guard) (visit_eq : system.visit = some visit)
    (socket_eq : system.links[visit.link]? = some socket)
    (answered : system.answer? = some answer) (asks : visit.session.stage.ask? = some ask) :
    (ask.kind = .own → answer = .done) ∧ ∀ kind, answer = .failed kind → ask.kind = .send := by
  have of_taken (taken : ∃ yes, answer = .taken yes) (other : ask.kind ≠ .own) :
      (ask.kind = .own → answer = .done) ∧ ∀ kind, answer = .failed kind → ask.kind = .send := by
    obtain ⟨yes, rfl⟩ := taken
    exact ⟨fun own => absurd own other, fun kind failed => nomatch failed⟩
  have of_done (done : answer = .done) :
      (ask.kind = .own → answer = .done) ∧ ∀ kind, answer = .failed kind → ask.kind = .send := by
    subst done
    exact ⟨fun _ => rfl, fun kind failed => nomatch failed⟩
  unfold answer? at answered
  simp only [visit_eq] at answered
  cases stage_eq : visit.session.stage <;> simp only [stage_eq, reduceCtorEq] at answered asks <;>
    obtain rfl := Option.some.inj asks
  case acknowledging => exact ⟨Ask.Kind.noConfusion, fun _ _ => rfl⟩
  case postingList | postingImport | postingUnknown =>
    exact of_taken (taken_of_answerControl? answered) Ask.Kind.noConfusion
  case awaitingList | awaitingImport =>
    exact of_taken (taken_of_answerWait? answered) Ask.Kind.noConfusion
  case submitting => exact of_taken (taken_of_answerSubmit? answered) Ask.Kind.noConfusion
  case cancelling | resetting | releasing => exact of_done (Option.some.inj answered).symm
  case closing ending =>
    refine of_done ?_
    obtain ⟨ticket, ticket_eq, answered⟩ := Option.bind_eq_some_iff.1 answered
    have wait_eq : visit.wait = .turn ticket := by
      cases wait_eq : visit.wait <;> rw [wait_eq] at ticket_eq <;> cases ticket_eq
      rfl
    unfold answerErrand? at answered
    simp only [socket_eq] at answered
    split at answered
    · next polled =>
        cases answered
        rw [stands.answer_closing stage_eq wait_eq polled]
        rfl
    · cases answered

/-- A move that does not read changes nothing at the socket but the line, in which the session keeps
its place or takes a new one. -/
theorem SessionMove.stands [DeviceExecutor Executor] {deed : Option Deed} {socket : Link}
    (move : SessionMove system visit deed next) (silent : visit.session.wants = none)
    (visit_eq : system.visit = some visit) (socket_eq : system.links[visit.link]? = some socket)
    (stands : Stands visit socket.guard) :
    next.config = system.config ∧ ∃ after guard, next.visit = some after ∧
      after.link = visit.link ∧ next.links[visit.link]? = some { socket with guard } ∧
      Stands after guard := by
  cases move with
  | read wants => rw [silent] at wants; cases wants
  | @asked header command control posting posted =>
      refine ⟨rfl, _, socket.guard, rfl, rfl, socket_eq, stands.of_free fun ticket => ?_⟩
      show waitFor command ≠ _
      unfold waitFor
      split <;> simp
  | refused posting unposted =>
      exact ⟨rfl, _, socket.guard, rfl, rfl, socket_eq, stands.of_free (by simp)⟩
  | looked awaits wait_eq unanswered =>
      exact ⟨rfl, _, socket.guard, rfl, rfl, socket_eq, stands.of_free (by simp)⟩
  | answered awaits given =>
      exact ⟨rfl, _, socket.guard, rfl, rfl, socket_eq, stands.of_free (by simp)⟩
  | posted stage_eq posted =>
      exact ⟨rfl, _, socket.guard, rfl, rfl, socket_eq, stands.of_free (by simp)⟩
  | dropped stage_eq unposted =>
      exact ⟨rfl, _, socket.guard, rfl, rfl, socket_eq, stands.of_free (by simp)⟩
  | crowded stage_eq unposted unset =>
      exact ⟨rfl, _, socket.guard, rfl, rfl, socket_eq, stands.of_free (by simp)⟩
  | cancelled stage_eq =>
      exact ⟨rfl, _, socket.guard, rfl, rfl, socket_eq, stands.of_free (by simp)⟩
  | reset stage_eq =>
      exact ⟨rfl, _, socket.guard, rfl, rfl, socket_eq, stands.of_free (by simp)⟩
  | released stage_eq =>
      exact ⟨rfl, _, socket.guard, rfl, rfl, socket_eq, stands.of_free (by simp)⟩
  | @stood errand wanted unset =>
      rw [standInLine_eq socket_eq]
      refine ⟨rfl, _, _, rfl, rfl, getElem?_mapLink socket_eq, stands.orderly.request errand, ?_⟩
      rintro _ ⟨⟩
      exact ⟨errand, wanted, .request stands.orderly errand⟩
  | @moved errand ticket socket' guard wanted wait_eq socket_eq' polled =>
      obtain rfl := Option.some.inj (socket_eq.symm.trans socket_eq')
      refine ⟨rfl, visit, guard, visit_eq, rfl, getElem?_mapLink socket_eq,
        stands.orderly.moved polled, fun other turn => ?_⟩
      obtain ⟨errand', wanted', holds⟩ := stands.turn other turn
      exact ⟨errand', wanted', holds.of_line_eq (Guard.kept_of_moved polled).1⟩
  | @served errand ticket socket' guard result done line wanted wait_eq socket_eq' polled standing =>
      obtain rfl := Option.some.inj (socket_eq.symm.trans socket_eq')
      exact ⟨rfl, _, guard, rfl, rfl, getElem?_mapLink socket_eq,
        stands.orderly.finished polled, by simp⟩

end Moves

end System

end UsbExport

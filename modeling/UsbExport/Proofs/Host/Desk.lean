import UsbExport.Proofs.Host.Requests
import UsbExport.Proofs.Session.Stages

/-!
Where the control requests of a server stand: who has asked, what the executor has in hand, which
answers were given, and who has the device. Every event at the server is one of the few things that
can happen at this desk.
-/

namespace UsbExport

open Dispatch Socket

theorem System.isOverdue_iff {Executor : Type} {system : System Executor} {visit : Visit} :
    system.isOverdue visit = true ↔ visit.session.stage.awaits = true ∧
      ∃ slot deadline, visit.wait = .answer slot (some deadline) ∧ system.slot slot = .open ∧
        deadline ≤ system.now := by
  unfold isOverdue
  split
  · next slot deadline wait_eq => simp [wait_eq, and_assoc]
  · next unset => simpa using fun _ slot deadline wait_eq => absurd wait_eq (unset slot deadline)

theorem System.getElem?_of_slot {Executor : Type} {system : System Executor} {slot : SlotId}
    {yes : Bool} (given : system.slot slot = .given yes) :
    system.slots[slot]? = some (.given yes) := by
  unfold System.slot at given
  cases found : system.slots[slot]? with
  | none => simp [found] at given
  | some answer => simpa [found] using given

theorem DeviceFlags.busy_markPending (flags : DeviceFlags) (endpoint : Nat) :
    (flags.markPending endpoint).busy = flags.busy := by
  unfold markPending
  split <;> rfl

namespace Dispatch.Channel

variable {α : Type} {channel channel' : Channel α} {message : α}

theorem accepting_post (posted : channel.post message = .ok channel') :
    channel'.accepting = channel.accepting := by
  unfold post at posted
  split at posted
  · cases posted
  · split at posted <;> cases posted
    rfl

theorem accepting_take? (taken : channel.take? = some (message, channel')) :
    channel'.accepting = channel.accepting := by
  unfold take? at taken
  split at taken <;> cases taken
  rfl

theorem closed_of_unavailable (unposted : channel.post message = .error .unavailable) :
    channel.accepting = false := by
  unfold post at unposted
  split at unposted
  · next closed => simpa using closed
  · split at unposted <;> cases unposted

end Dispatch.Channel

/-- A move of those inside a server changes its system alone. -/
theorem Server.inner_of_step {Executor Inner : Type} {inner : Company (System Executor) Inner}
    {server next : Server Executor} {party : Inner}
    (happened : step inner server (.move (.inner party)) = some next) :
    ∃ system, (inner.move party server.system).next? = some system ∧
      next = { server with system } := by
  simp only [step, company, lift] at happened
  split at happened
  · cases happened
  · next system eq => exact ⟨system, by rw [eq]; rfl, (Option.some.inj happened).symm⟩
  · next system eq => exact ⟨system, by rw [eq]; rfl, (Option.some.inj happened).symm⟩

namespace Host

variable {Handle : Type}

structure Desk where
  device : DeviceRecord
  interfaces : List UInt8
  busy : Bool
  claimed : List UInt8
  loop : LoopStage
  accepting : Bool
  queue : List ControlRequest
  slots : List Slot
  visit : Option Visit

def desk (system : System (Host Handle)) : Desk where
  device := system.executor.device
  interfaces := system.executor.interfaces
  busy := system.flags.busy
  claimed := system.executor.claimed
  loop := system.executor.loop
  accepting := system.control.accepting
  queue := system.control.queue
  slots := system.slots
  visit := system.visit

namespace Desk

/-- The session that is served goes on with an answer and waits for nothing. -/
def resume (desk : Desk) (visit : Visit) (answer : Session.Answer) : Desk :=
  { desk with visit := some { visit with session := visit.session.resume answer, wait := .nothing } }

/-- Gives the first answer; a slot that has one keeps it. -/
def answer (desk : Desk) (slot : SlotId) (yes : Bool) : Desk :=
  { desk with
    slots := desk.slots.modify slot fun
      | .open => .given yes
      | settled => settled }

end Desk

/-- How the executor begins with a request. -/
def LoopStage.ofRequest (request : ControlRequest) : LoopStage :=
  match request.command with
  | .deviceList _ replied => .listing request.header.version request.reply replied none
  | .importDevice body confirm =>
      .importing ⟨request.header.version, body.busId, confirm, request.reply⟩ .checking
  | .unknown => .idle

/-- A note of something that does not concern control requests or the device as a whole. -/
def Note.IsAside : Note → Prop
  | .deed (.session _ (.asked _)) | .deed (.session _ .reset) | .deed (.session _ .released)
  | .deed .cleared | .gaveUp _ | .recorded _ | .marked _ | .replied _ _ _ | .listed _ _ _ _ => False
  | _ => True

/-- A stage in which a session that has the device serves its client. -/
def works : Session.Stage → Bool
  | .submitting _ | .cancelling _ _ | .acknowledging _ => true
  | _ => false

/-- What can happen to the control requests of a server. -/
inductive DeskStep (desk : Desk) : Option Note → Desk → Prop
  | reads {visit : Visit} (visit_eq : desk.visit = some visit) {limit : Nat}
      (wants : visit.session.wants = some limit) (limits : SessionLimits) (arrival : Arrival) :
      DeskStep desk none
        { desk with
          visit := some { visit with session := visit.session.receive limits arrival } }
  | asks {visit : Visit} (visit_eq : desk.visit = some visit) {header : ControlHeader}
      {command : ControlCommand}
      (posting : visit.session.stage.request? desk.slots.length = some (header, command)) :
      DeskStep desk (some (.deed (.session visit.link (.asked ⟨header, command, visit.link⟩))))
        { desk with
          queue := desk.queue ++ [⟨header, command, visit.link⟩]
          slots := desk.slots ++ (command.slot?.map fun _ => Slot.open).toList
          visit := some { visit with
            session := visit.session.resume (.taken true), wait := System.waitFor command } }
  | unposted {visit : Visit} (visit_eq : desk.visit = some visit)
      (closed : desk.accepting = false) : DeskStep desk none (desk.resume visit (.taken false))
  | waits {visit : Visit} (visit_eq : desk.visit = some visit) (wait : Wait)
      (kept : ∀ slot deadline, wait = .answer slot deadline → ∃ deadline',
        visit.wait = .answer slot deadline')
      (still : visit.session.stage.awaits = true → ∃ slot deadline, wait = .answer slot deadline) :
      DeskStep desk none { desk with visit := some { visit with wait } }
  | learns {visit : Visit} (visit_eq : desk.visit = some visit)
      (awaits : visit.session.stage.awaits = true) {slot : SlotId} {deadline : Option Nat}
      (wait_eq : visit.wait = .answer slot deadline) {yes : Bool}
      (given : desk.slots[slot]? = some (.given yes)) :
      DeskStep desk none (desk.resume visit (.taken yes))
  | misses {visit : Visit} (visit_eq : desk.visit = some visit)
      (awaits : visit.session.stage.awaits = true)
      (lost : ∀ slot deadline, visit.wait = .answer slot deadline →
        desk.slots[slot]?.getD .lost = .lost) :
      DeskStep desk none (desk.resume visit (.taken false))
  | givesUp {visit : Visit} (visit_eq : desk.visit = some visit)
      (awaits : visit.session.stage.awaits = true) :
      DeskStep desk (some (.gaveUp visit.link)) (desk.resume visit (.taken false))
  | works {visit : Visit} (visit_eq : desk.visit = some visit)
      (working : works visit.session.stage = true) (answer : Session.Answer) {note : Option Note}
      (aside : ∀ what ∈ note, what.IsAside) : DeskStep desk note (desk.resume visit answer)
  | resets {visit : Visit} (visit_eq : desk.visit = some visit) {ending : Ending}
      (stage_eq : visit.session.stage = .resetting ending) :
      DeskStep desk (some (.deed (.session visit.link .reset)))
        { desk.resume visit .done with busy := false }
  | releases {visit : Visit} (visit_eq : desk.visit = some visit) {ending : Ending}
      (stage_eq : visit.session.stage = .releasing ending) :
      DeskStep desk (some (.deed (.session visit.link .released)))
        { desk.resume visit .done with claimed := [] }
  | closes {visit : Visit} (visit_eq : desk.visit = some visit) {ending : Ending}
      (stage_eq : visit.session.stage = .closing ending) (done : Errand)
      (result : Except SendError Unit) :
      DeskStep desk (some (.deed (.session visit.link (.served done result.isOk))))
        (desk.resume visit (.ofSend result))
  | departs {visit : Visit} (visit_eq : desk.visit = some visit) {ending : Ending}
      (stage_eq : visit.session.stage = .finished ending) :
      DeskStep desk none { desk with visit := none }
  | serves (unvisited : desk.visit = none) (link : LinkId) :
      DeskStep desk none { desk with visit := some { link } }
  | takes {request : ControlRequest} {queue : List ControlRequest} (idle : desk.loop = .idle)
      (queue_eq : desk.queue = request :: queue) :
      DeskStep desk none { desk with queue, loop := .ofRequest request }
  | listStands {version : UInt16} {link : LinkId} {slot : SlotId}
      (loop_eq : desk.loop = .listing version link slot none) (ticket : Ticket) :
      DeskStep desk none { desk with loop := .listing version link slot (some ticket) }
  | lists {version : UInt16} {link : LinkId} {slot : SlotId} {ticket : Ticket}
      (loop_eq : desk.loop = .listing version link slot (some ticket)) (succeeded : Bool) :
      DeskStep desk (some (.listed version link slot succeeded)) { desk with loop := .listed slot }
  | listAnswers {slot : SlotId} (loop_eq : desk.loop = .listed slot) :
      DeskStep desk none { desk.answer slot true with loop := .idle }
  | goesOn {order : ImportOrder} {stage stage' : ImportStage}
      (loop_eq : desk.loop = .importing order stage) (bid_eq : stage'.bid = stage.bid) :
      DeskStep desk (stage.deed?.map .deed) { desk with loop := .importing order stage' }
  | passes {order : ImportOrder} (loop_eq : desk.loop = .importing order .checking)
      (named : desk.device.isNamedBy order.busId = true) (free : desk.busy = false) :
      DeskStep desk none { desk with loop := .importing order .settling }
  | refuses {order : ImportOrder} (loop_eq : desk.loop = .importing order .checking)
      (taken : desk.device.isNamedBy order.busId = false ∨ desk.busy = true) :
      DeskStep desk none { desk with loop := .importing order (.replying false none) }
  | unclaimable {order : ImportOrder} {stage : ImportStage}
      (loop_eq : desk.loop = .importing order stage) (passed : stage.bid = .passed) :
      DeskStep desk none { desk with loop := .importing order (.replying false none) }
  | records {order : ImportOrder} (loop_eq : desk.loop = .importing order .recording) :
      DeskStep desk (some (.recorded order))
        { desk with claimed := desk.interfaces, loop := .importing order .clearing }
  | marks {order : ImportOrder} (loop_eq : desk.loop = .importing order .marking) :
      DeskStep desk (some (.marked order))
        { desk with busy := true, loop := .importing order (.replying true none) }
  | replies {order : ImportOrder} {accepted : Bool} {ticket : Ticket}
      (loop_eq : desk.loop = .importing order (.replying accepted (some ticket)))
      (succeeded : Bool) :
      DeskStep desk (some (.replied order accepted succeeded))
        { desk with loop := .importing order (.afterReply accepted succeeded) }
  | unmarks {order : ImportOrder} (loop_eq : desk.loop = .importing order .unmarking) :
      DeskStep desk none { desk with busy := false, loop := .importing order .unclaiming }
  | unclaims {order : ImportOrder} (loop_eq : desk.loop = .importing order .unclaiming) :
      DeskStep desk (some (.deed .cleared))
        { desk with claimed := [], loop := .importing order .settlingBack }
  | confirms {order : ImportOrder} {accepted : Bool}
      (loop_eq : desk.loop = .importing order (.confirming accepted)) :
      DeskStep desk none { desk.answer order.confirm accepted with loop := .idle }
  | aside {note : Option Note} (aside : ∀ what ∈ note, what.IsAside) : DeskStep desk note desk

/-! ### Every event is one of these steps -/

/-- A release forgets the claims and lets everything else at the desk stand. -/
theorem release_desk (host : Host Handle) :
    host.release.claimed = [] ∧ host.release.device = host.device ∧
      host.release.interfaces = host.interfaces ∧ host.release.loop = host.loop := by
  unfold release
  dsimp only
  split <;> exact ⟨rfl, rfl, rfl, rfl⟩

theorem accept_desk (host : Host Handle) (request : SubmitRequest) :
    (host.accept request).claimed = host.claimed ∧ (host.accept request).device = host.device ∧
      (host.accept request).interfaces = host.interfaces ∧
      (host.accept request).loop = host.loop := by
  unfold accept enqueue
  dsimp only
  split <;> exact ⟨rfl, rfl, rfl, rfl⟩

/-- The desk does not change with what is not on it. -/
theorem desk_eq {system next : System (Host Handle)}
    (device_eq : next.executor.device = system.executor.device)
    (interfaces_eq : next.executor.interfaces = system.executor.interfaces)
    (claimed_eq : next.executor.claimed = system.executor.claimed)
    (loop_eq : next.executor.loop = system.executor.loop)
    (flags_eq : next.flags.busy = system.flags.busy) (control_eq : next.control = system.control)
    (slots_eq : next.slots = system.slots) (visit_eq : next.visit = system.visit) :
    desk next = desk system := by
  rw [desk, desk, device_eq, interfaces_eq, claimed_eq, loop_eq, flags_eq, control_eq, slots_eq,
    visit_eq]

section

variable {system next : System (Host Handle)} {visit : Visit}

theorem sessionNote?_some (visit_eq : system.visit = some visit) {deed : Session.Deed}
    (said : system.deed? = some deed) (other : ∀ target, deed ≠ .cancelled target) :
    sessionNote? system = some (.deed (.session visit.link deed)) := by
  rw [sessionNote?, visit_eq, Option.bind_some, said]
  cases deed with
  | cancelled target => exact absurd rfl (other target)
  | _ => rfl

theorem sessionNote?_none (visit_eq : system.visit = some visit) (said : system.deed? = none)
    (patient : system.isOverdue visit = false) : sessionNote? system = none := by
  rw [sessionNote?, visit_eq, Option.bind_some, said, patient]
  rfl

theorem awaits_deskStep (visit_eq : system.visit = some visit)
    (awaits : visit.session.stage.awaits = true)
    (moved : (system.awaitAnswer visit).next? = some next) :
    DeskStep (desk system) (sessionNote? system) (desk next) := by
  have quiet : system.deed? = none := by
    unfold System.deed?
    rw [visit_eq]
    rcases Session.Stage.awaits_cases awaits with stage_eq | stage_eq <;>
      simp [stage_eq, Session.Stage.request?]
  have silent (answered : ∀ slot deadline, visit.wait = .answer slot (some deadline) →
      system.slot slot ≠ .open) : sessionNote? system = none := by
    refine sessionNote?_none visit_eq quiet (Bool.eq_false_iff.2 fun overdue => ?_)
    obtain ⟨-, slot, deadline, wait_eq, unanswered, -⟩ := System.isOverdue_iff.1 overdue
    exact answered slot deadline wait_eq unanswered
  unfold System.awaitAnswer at moved
  split at moved
  · next slot limit wait_eq =>
      have same {slot' : SlotId} {limit' : Option Nat} (eq : visit.wait = .answer slot' limit') :
          slot = slot' := by
        rw [wait_eq] at eq
        cases eq
        rfl
      split at moved
      · next _ yes given =>
          cases moved
          rw [silent fun slot' deadline eq unanswered => by simp [← same eq, given] at unanswered]
          exact .learns visit_eq awaits wait_eq (System.getElem?_of_slot given)
      · next lost =>
          cases moved
          rw [silent fun slot' deadline eq unanswered => by simp [← same eq, lost] at unanswered]
          exact .misses visit_eq awaits fun slot' deadline eq => by rw [← same eq]; exact lost
      · next unanswered =>
          cases moved
          rw [silent fun slot' deadline eq => by simp [wait_eq] at eq]
          refine .waits visit_eq _ (fun slot' deadline eq => ⟨none, ?_⟩) fun _ => ⟨_, _, rfl⟩
          cases eq
          exact wait_eq
      · next deadline unanswered =>
          split at moved
          · next late =>
              cases moved
              have overdue : system.isOverdue visit = true :=
                System.isOverdue_iff.2 ⟨awaits, slot, deadline, wait_eq, unanswered, late⟩
              have told : sessionNote? system = some (.gaveUp visit.link) := by
                rw [sessionNote?, visit_eq, Option.bind_some, quiet]
                simp [overdue]
              rw [told]
              exact .givesUp visit_eq awaits
          · cases moved
  · next unset =>
      cases moved
      rw [silent fun slot deadline eq => absurd eq (unset slot (some deadline))]
      exact .misses visit_eq awaits fun slot limit eq => absurd eq (unset slot limit)

theorem session_deskStep (moved : system.moveSession.next? = some next) :
    DeskStep (desk system) (sessionNote? system) (desk next) := by
  obtain ⟨visit, visit_eq, move⟩ := System.moveSession_cases moved
  cases awaits : visit.session.stage.awaits with
  | true =>
      refine awaits_deskStep visit_eq awaits ?_
      rcases Session.Stage.awaits_cases awaits with stage_eq | stage_eq <;>
        simpa [System.moveSession, visit_eq, stage_eq] using moved
  | false =>
      have told {deed : Session.Deed} (said : system.deed? = some deed)
          (other : ∀ target, deed ≠ .cancelled target) :=
        sessionNote?_some visit_eq said other
      have silent (said : system.deed? = none) : sessionNote? system = none := by
        refine sessionNote?_none visit_eq said (Bool.eq_false_iff.2 fun overdue => ?_)
        simp [(System.isOverdue_iff.1 overdue).1] at awaits
      generalize said : system.deed? = deed at move
      cases move with
      | read wants socket_eq brought =>
          rw [silent said]
          exact .reads visit_eq wants _ _
      | @asked header command control posting posted =>
          rw [told said (by simp)]
          have went : DeskStep (desk system) _ _ := .asks visit_eq posting
          rw [desk, desk] at *
          simpa [Channel.queue_post posted, Channel.accepting_post posted] using went
      | refused posting unposted =>
          rw [silent said]
          exact .unposted visit_eq (Channel.closed_of_unavailable unposted)
      | looked stage_awaits wait_eq unanswered => simp [awaits] at stage_awaits
      | answered stage_awaits given => simp [awaits] at stage_awaits
      | posted stage_eq posted =>
          rw [told said (by simp)]
          exact .works visit_eq (by rw [stage_eq]; rfl) _ (by simp [Note.IsAside])
      | dropped stage_eq unposted =>
          rw [told said (by simp)]
          exact .works visit_eq (by rw [stage_eq]; rfl) _ (by simp [Note.IsAside])
      | crowded stage_eq unposted unset =>
          rw [silent said]
          exact .waits visit_eq _ (by simp) (by simp [awaits])
      | @cancelled header target stage_eq =>
          have noted : sessionNote? system =
              some (.cancelled visit.link target ((ledger system).find target)) := by
            rw [sessionNote?, visit_eq, Option.bind_some, said]
          rw [noted]
          exact .works visit_eq (by rw [stage_eq]; rfl) _ (by simp [Note.IsAside])
      | @stood errand wanted unset =>
          rw [silent said]
          obtain ⟨links, frame, -⟩ := standInLine_frame system visit.link errand
          rw [frame]
          exact .waits visit_eq _ (by simp) (by simp [awaits])
      | moved wanted wait_eq socket_eq polled =>
          rw [silent said]
          exact .aside (by simp)
      | @served errand ticket socket guard result done line wanted wait_eq socket_eq polled standing =>
          rw [told said (by simp)]
          cases stage_eq : visit.session.stage with
          | acknowledging seqnum =>
              exact .works visit_eq (by rw [stage_eq]; rfl) _ (by simp [Note.IsAside])
          | closing ending => exact .closes visit_eq stage_eq done result
          | _ => simp [stage_eq, Session.Stage.errand?] at wanted
      | reset stage_eq =>
          rw [told said (by simp)]
          exact .resets visit_eq stage_eq
      | released stage_eq =>
          rw [told said (by simp)]
          obtain ⟨claimed_eq, device_eq, interfaces_eq, loop_eq⟩ := release_desk system.executor
          have eq : desk ({ system with executor := system.executor.release }.resume visit .done) =
              { (desk system).resume visit .done with claimed := [] } := by
            show Desk.mk system.executor.release.device system.executor.release.interfaces _
              system.executor.release.claimed system.executor.release.loop _ _ _ _ = _
            rw [claimed_eq, device_eq, interfaces_eq, loop_eq]
            rfl
          rw [show DeviceExecutor.release system.executor = system.executor.release from rfl, eq]
          exact .releases visit_eq stage_eq

theorem import_deskStep {order : ImportOrder} {stage : ImportStage} {note : Option Note}
    (loop_eq : system.executor.loop = .importing order stage)
    (move : ImportMove system order stage note next) :
    DeskStep (desk system) note (desk next) := by
  cases move with
  | @goesOn host stage' still bid_eq unplaced =>
      have eq : desk (setLoop { system with executor := host } (.importing order stage')) =
          { desk system with loop := .importing order stage' } := by
        show Desk.mk host.device host.interfaces _ host.claimed _ _ _ _ _ = _
        rw [still.claimed_eq, still.device_eq, still.interfaces_eq]
        rfl
      rw [eq]
      exact .goesOn loop_eq bid_eq
  | passes stage_eq named free =>
      subst stage_eq
      exact .passes loop_eq named free
  | refuses stage_eq taken =>
      subst stage_eq
      exact .refuses loop_eq taken
  | records stage_eq =>
      subst stage_eq
      exact .records loop_eq
  | marks stage_eq =>
      subst stage_eq
      exact .marks loop_eq
  | @stands accepted stage_eq =>
      subst stage_eq
      obtain ⟨links, frame, -⟩ := standInLine_frame system order.reply
        (.send (importReply system.executor order.version accepted).encode)
      rw [frame]
      have loop_eq' : (desk system).loop = .importing order (.replying accepted none) := loop_eq
      exact .goesOn loop_eq' (by cases accepted <;> rfl)
  | turns stage_eq socket_eq polled => exact .aside (by simp)
  | replies stage_eq socket_eq polled =>
      subst stage_eq
      exact .replies loop_eq _
  | unmarks stage_eq =>
      subst stage_eq
      exact .unmarks loop_eq
  | unclaims stage_eq =>
      subst stage_eq
      obtain ⟨claimed_eq, device_eq, interfaces_eq, -⟩ := release_desk system.executor
      have eq : desk (setLoop (change system Host.release) (.importing order .settlingBack)) =
          { desk system with claimed := [], loop := .importing order .settlingBack } := by
        show Desk.mk system.executor.release.device system.executor.release.interfaces _
          system.executor.release.claimed _ _ _ _ _ = _
        rw [claimed_eq, device_eq, interfaces_eq]
        rfl
      rw [eq]
      exact .unclaims loop_eq
  | confirms stage_eq =>
      subst stage_eq
      exact .confirms loop_eq

theorem loop_deskStep {note : Option Note} (turn : LoopTurn system note next) :
    DeskStep (desk system) note (desk next) := by
  cases turn with
  | @takesControl request control idle taken =>
      have eq : desk (handleControl { system with control } request) =
          { desk system with queue := control.queue, loop := .ofRequest request } := by
        have accepting_eq := Channel.accepting_take? taken
        unfold handleControl LoopStage.ofRequest
        cases request.command with
        | unknown =>
            show Desk.mk _ _ _ _ system.executor.loop control.accepting _ _ _ = _
            rw [accepting_eq, idle]
            rfl
        | _ =>
            show Desk.mk _ _ _ _ _ control.accepting _ _ _ = _
            rw [accepting_eq]
            rfl
      rw [eq]
      exact .takes idle (Channel.queue_take? taken)
  | @takesSubmit request data idle taken =>
      obtain ⟨claimed_eq, device_eq, interfaces_eq, loop_eq⟩ :=
        accept_desk system.executor request
      have busy_eq : (handleSubmit { system with data } request).flags.busy =
          system.flags.busy := DeviceFlags.busy_markPending _ _
      rw [desk_eq device_eq interfaces_eq claimed_eq loop_eq busy_eq rfl rfl rfl]
      exact .aside (by simp [Note.IsAside])
  | attends move =>
      cases move with
      | @listStands version link slot loop_eq =>
          obtain ⟨links, frame, -⟩ := standInLine_frame system link
            (.send (Reply.listOf version [system.executor.device]).encode)
          rw [frame]
          exact .listStands loop_eq _
      | listTurns loop_eq socket_eq polled => exact .aside (by simp)
      | lists loop_eq socket_eq polled => exact .lists loop_eq _
      | listAnswers loop_eq => exact .listAnswers loop_eq
      | imports loop_eq move => exact import_deskStep loop_eq move

theorem worker_deskStep {id : WorkerId} {worker worker' : Worker} {rest : System (Host Handle)}
    {deed : Option Deed} (move : WorkerMove system id worker deed worker' rest) :
    DeskStep (desk system) (deed.map .deed) (desk (putWorker rest id worker')) := by
  cases move with
  | @stands link completion stage_eq =>
      obtain ⟨links, frame, -⟩ :=
        standInLine_frame system link (.send (Reply.completed completion).encode)
      rw [frame]
      exact .aside (by simp [Note.IsAside])
  | _ => exact .aside (by simp [Note.IsAside])

/-- The claim that an import waits for ends it if it fails. -/
theorem runClaim_deskStep [UsbHandle Handle] (system : System (Host Handle)) (id : JobId) :
    DeskStep (desk system) none (desk (change system (·.runClaim id))) := by
  unfold change runClaim
  dsimp only
  split
  · next order job loop_eq =>
      have loop_eq' : (desk system).loop = .importing order (.claiming job) := loop_eq
      split
      · generalize claimAll system.executor.handle system.executor.interfaces = claims
        obtain ⟨handle, success⟩ := claims
        cases success with
        | true => exact .goesOn loop_eq' rfl
        | false => exact .unclaimable loop_eq' rfl
      · exact .aside (by simp)
  · exact .aside (by simp)

theorem job_deskStep [UsbHandle Handle] {id : JobId} {deed : Option Deed}
    (move : JobMove system id deed next) : DeskStep (desk system) (deed.map .deed) (desk next) := by
  cases move with
  | claims => exact runClaim_deskStep system id
  | _ => exact .aside (by simp [Note.IsAside])

end

theorem acceptor_deskStep {server next : Server (Host Handle)}
    (moved : server.moveAcceptor.next? = some next) :
    DeskStep (desk server.system) none (desk next.system) := by
  obtain ⟨-, ⟨visit, ending, visit_eq, stage_eq, rfl⟩ | ⟨link, line, unvisited, -, rfl⟩⟩ :=
    Server.moveAcceptor_cases moved
  · exact .departs visit_eq stage_eq
  · exact .serves unvisited link

/-- Whatever happens at a server is one step at its desk. -/
theorem step_deskStep [UsbHandle Handle] {server next : Server (Host Handle)}
    {event : Server.Event Party} (happened : Server.step company server event = some next) :
    DeskStep (desk server.system) (note? server event) (desk next.system) := by
  cases event with
  | move party =>
      cases party with
      | acceptor => exact acceptor_deskStep happened
      | inner party =>
          obtain ⟨system, moved, rfl⟩ := Server.inner_of_step happened
          cases party with
          | session => exact session_deskStep moved
          | loop preference => exact loop_deskStep (moveLoop_turn moved)
          | worker id =>
              obtain ⟨worker, worker', rest, worker_eq, move, rfl⟩ := moveWorker_cases moved
              show DeskStep _ ((deed? server.system (.worker id)).map .deed) _
              rw [deed?, worker_eq, Option.bind_some]
              exact worker_deskStep move
          | job id => exact job_deskStep (moveJob_cases moved)
          | transfer id =>
              obtain ⟨worker, request, outcome, worker_eq, stage_eq, rfl⟩ :=
                finishTransfer_cases moved
              exact .aside (by simp [note?, deed?])
  | connect =>
      obtain rfl := Option.some.inj happened
      exact .aside (by simp [note?])
  | _ =>
      obtain rfl := Option.some.inj happened
      exact .aside (by simp [note?])

end Host

end UsbExport

import UsbExport.Proofs.Host.Workers

/-!
Everything that one move of the loop of a host executor can come to, and with it any move of the
executor. Control requests are taken one after the other, each when the one before is answered.
-/

namespace UsbExport.Host

open Dispatch Socket

variable {Handle : Type}

/-- The slot that the request in hand answers into. -/
def LoopStage.slot? : LoopStage → Option SlotId
  | .listing _ _ replied _ | .listed replied => some replied
  | .importing order _ => some order.confirm
  | .idle | .stopped => none

def LoopStage.order? : LoopStage → Option ImportOrder
  | .importing order _ => some order
  | _ => none

/-- The executor leaves the configuration, the bound on transfers and the control requests that wait
alone; it goes on with the one in hand, or it answers that and is idle. -/
structure Proceeds (system next : System (Host Handle)) : Prop where
  config_eq : next.config = system.config
  bound_eq : next.executor.maxTransfer = system.executor.maxTransfer
  control_eq : next.control = system.control
  visit_eq : next.visit = system.visit
  links_eq : next.links.length = system.links.length
  order_eq : ∀ order, next.executor.loop.order? = some order →
    system.executor.loop.order? = some order
  slot_eq : next.executor.loop.slot? = system.executor.loop.slot? ∧ next.slots = system.slots ∨
    next.executor.loop = .idle ∧ ∃ slot yes, system.executor.loop.slot? = some slot ∧
      next.slots = (system.answer slot (.given yes)).slots

/-- Besides, handling a request leaves the URBs alone. The books may be emptied, and workers
dismissed, but no worker loses what it holds. -/
structure Attends (system : System (Host Handle)) (deed : Option Deed)
    (next : System (Host Handle)) : Prop extends Proceeds system next where
  data_eq : next.data = system.data
  works_eq : next.executor.workers.map Worker.work = system.executor.workers.map Worker.work
  urbs_eq : deed = none ∧ next.executor.urbs = system.executor.urbs ∨
    deed = some .cleared ∧ next.executor.urbs = {} ∧ system.executor.loop.order?.isSome

/-- Standing in line changes nothing but a socket. -/
theorem standInLine_frame (system : System (Host Handle)) (link : LinkId) (errand : Errand) :
    ∃ links, (system.standInLine link errand).2 = { system with links } ∧
      links.length = system.links.length := by
  unfold System.standInLine
  split
  · exact ⟨_, rfl, by simp⟩
  · exact ⟨_, rfl, rfl⟩

/-- A move of a worker leaves the others, the data channel and the session alone. -/
theorem WorkerMove.frame {system rest : System (Host Handle)} {id : WorkerId}
    {worker worker' : Worker} {deed : Option Deed}
    (move : WorkerMove system id worker deed worker' rest) :
    rest.executor.workers = system.executor.workers ∧ rest.data = system.data ∧
      rest.visit = system.visit := by
  cases move with
  | @stands link completion stage_eq =>
      obtain ⟨links, frame, -⟩ :=
        standInLine_frame system link (.send (Reply.completed completion).encode)
      rw [frame]
      exact ⟨rfl, rfl, rfl⟩
  | _ => exact ⟨rfl, rfl, rfl⟩

namespace Attends

variable {system next : System (Host Handle)}

/-- A move that leaves all workers as they are and goes on with the request in hand. -/
theorem of_goes (config_eq : next.config = system.config)
    (bound_eq : next.executor.maxTransfer = system.executor.maxTransfer)
    (data_eq : next.data = system.data) (control_eq : next.control = system.control)
    (visit_eq : next.visit = system.visit)
    (links_eq : next.links.length = system.links.length)
    (workers_eq : next.executor.workers = system.executor.workers)
    (urbs_eq : next.executor.urbs = system.executor.urbs) (slots_eq : next.slots = system.slots)
    (order_eq : ∀ order, next.executor.loop.order? = some order →
      system.executor.loop.order? = some order)
    (slot_eq : next.executor.loop.slot? = system.executor.loop.slot?) :
    Attends system none next where
  data_eq := data_eq
  config_eq := config_eq
  bound_eq := bound_eq
  control_eq := control_eq
  visit_eq := visit_eq
  links_eq := links_eq
  works_eq := by rw [workers_eq]
  urbs_eq := Or.inl ⟨rfl, urbs_eq⟩
  order_eq := order_eq
  slot_eq := Or.inl ⟨slot_eq, slots_eq⟩

/-- The answer to the request in hand. -/
theorem of_answer {slot : SlotId} (slot_eq : system.executor.loop.slot? = some slot) (yes : Bool) :
    Attends system none (setLoop (system.answer slot (.given yes)) .idle) where
  data_eq := rfl
  config_eq := rfl
  bound_eq := rfl
  control_eq := rfl
  visit_eq := rfl
  links_eq := rfl
  works_eq := rfl
  urbs_eq := Or.inl ⟨rfl, rfl⟩
  order_eq := by simp [setLoop, change, LoopStage.order?]
  slot_eq := Or.inr ⟨rfl, slot, yes, slot_eq, rfl⟩

/-- A move of an import that is not its last. -/
theorem of_import {order : ImportOrder} {stage stage' : ImportStage}
    (loop_eq : system.executor.loop = .importing order stage) {rest : System (Host Handle)}
    (config_eq : rest.config = system.config)
    (bound_eq : rest.executor.maxTransfer = system.executor.maxTransfer)
    (data_eq : rest.data = system.data) (control_eq : rest.control = system.control)
    (visit_eq : rest.visit = system.visit) (links_eq : rest.links.length = system.links.length)
    (workers_eq : rest.executor.workers = system.executor.workers)
    (urbs_eq : rest.executor.urbs = system.executor.urbs) (slots_eq : rest.slots = system.slots) :
    Attends system none (setLoop rest (.importing order stage')) :=
  of_goes config_eq bound_eq data_eq control_eq visit_eq links_eq workers_eq urbs_eq slots_eq
    (by rw [loop_eq]; exact fun _ eq => eq) (by rw [loop_eq]; rfl)

/-- A move of an import that empties the books. -/
theorem of_clearing {order : ImportOrder} {stage stage' : ImportStage} {host : Host Handle}
    (loop_eq : system.executor.loop = .importing order stage)
    (bound_eq : host.maxTransfer = system.executor.maxTransfer)
    (works_eq : host.workers.map Worker.work = system.executor.workers.map Worker.work)
    (urbs_eq : host.urbs = {}) :
    Attends system (some .cleared)
      (setLoop { system with executor := host } (.importing order stage')) where
  data_eq := rfl
  config_eq := rfl
  bound_eq := bound_eq
  control_eq := rfl
  visit_eq := rfl
  links_eq := rfl
  works_eq := works_eq
  urbs_eq := Or.inr ⟨rfl, urbs_eq, by rw [loop_eq]; rfl⟩
  order_eq := by rw [loop_eq]; exact fun _ eq => eq
  slot_eq := by rw [loop_eq]; exact Or.inl ⟨rfl, rfl⟩

end Attends

/-- A release empties the books and takes nothing from a worker. -/
theorem release_frame (host : Host Handle) :
    host.release.workers.map Worker.work = host.workers.map Worker.work ∧
      host.release.urbs = {} := by
  unfold release
  dsimp only
  split
  · exact ⟨by simp [forgetUrbs, Worker.work], rfl⟩
  · exact ⟨by simp [forgetUrbs, addJob, Worker.work], rfl⟩

theorem maxTransfer_release (host : Host Handle) : host.release.maxTransfer = host.maxTransfer := by
  unfold release
  dsimp only
  split <;> rfl

theorem maxTransfer_accept (host : Host Handle) (request : SubmitRequest) :
    (host.accept request).maxTransfer = host.maxTransfer := by
  unfold accept enqueue
  dsimp only
  split <;> rfl

theorem moveImport_attends {order : ImportOrder} {stage : ImportStage}
    {system next : System (Host Handle)} (loop_eq : system.executor.loop = .importing order stage)
    (moved : (moveImport order stage system).next? = some next) :
    Attends system stage.deed? next := by
  cases stage with
  | checking =>
      simp only [moveImport] at moved
      split at moved <;> cases moved <;>
        exact .of_import loop_eq rfl rfl rfl rfl rfl rfl rfl rfl rfl
  | settling =>
      cases moved
      exact .of_import loop_eq rfl rfl rfl rfl rfl rfl rfl rfl rfl
  | awaitingRelease job =>
      simp only [moveImport] at moved
      split at moved <;> cases moved
      exact .of_import loop_eq rfl rfl rfl rfl rfl rfl rfl rfl rfl
  | startingClaim =>
      cases moved
      exact .of_import loop_eq rfl rfl rfl rfl rfl rfl rfl rfl rfl
  | claiming job => cases moved
  | recording =>
      cases moved
      exact .of_import loop_eq rfl rfl rfl rfl rfl rfl rfl rfl rfl
  | clearing =>
      cases moved
      exact .of_clearing loop_eq rfl rfl rfl
  | marking =>
      cases moved
      exact .of_import loop_eq rfl rfl rfl rfl rfl rfl rfl rfl rfl
  | replying accepted ticket =>
      cases ticket with
      | none =>
          simp only [moveImport, Move.next?, Option.some.injEq] at moved
          subst moved
          obtain ⟨links, frame, length_eq⟩ := standInLine_frame system order.reply
            (.send (importReply system.executor order.version accepted).encode)
          rw [frame]
          exact .of_import loop_eq rfl rfl rfl rfl rfl length_eq rfl rfl rfl
      | some ticket =>
          simp only [moveImport] at moved
          obtain ⟨socket, guard, -, ⟨-, -, rfl⟩ | ⟨result, -, -, -, -, -, rfl⟩⟩ :=
            System.pursue_cases moved
          · exact .of_goes rfl rfl rfl rfl rfl (by simp [System.setGuard, System.mapLink]) rfl rfl
              rfl (fun _ eq => eq) rfl
          · exact .of_import loop_eq rfl rfl rfl rfl rfl
              (by simp [System.setGuard, System.mapLink]) rfl
              rfl rfl
  | unmarking =>
      cases moved
      exact .of_import loop_eq rfl rfl rfl rfl rfl rfl rfl rfl rfl
  | unclaiming =>
      cases moved
      exact .of_clearing loop_eq system.executor.maxTransfer_release
        system.executor.release_frame.1 system.executor.release_frame.2
  | settlingBack =>
      cases moved
      exact .of_import loop_eq rfl rfl rfl rfl rfl rfl rfl rfl rfl
  | awaitingBack job =>
      simp only [moveImport] at moved
      split at moved <;> cases moved
      exact .of_import loop_eq rfl rfl rfl rfl rfl rfl rfl rfl rfl
  | confirming accepted =>
      cases moved
      exact .of_answer (by rw [loop_eq]; rfl) accepted

theorem moveRequest_attends {system next : System (Host Handle)}
    (moved : (moveRequest system).next? = some next) (preference : Preference) :
    Attends system (loopDeed? preference system) next := by
  unfold moveRequest at moved
  cases loop_eq : system.executor.loop with
  | idle => simp [loop_eq, Move.next?] at moved
  | stopped => simp [loop_eq, Move.next?] at moved
  | listing version link replied ticket =>
      have deed_eq : loopDeed? preference system = none := by simp [loopDeed?, taken?, loop_eq]
      rw [deed_eq]
      cases ticket with
      | none =>
          simp only [loop_eq, Move.next?, Option.some.injEq] at moved
          subst moved
          obtain ⟨links, frame, length_eq⟩ := standInLine_frame system link
            (.send (Reply.listOf version [system.executor.device]).encode)
          rw [frame]
          exact .of_goes rfl rfl rfl rfl rfl length_eq rfl rfl rfl
            (by simp [setLoop, change, LoopStage.order?]) (by rw [loop_eq]; rfl)
      | some ticket =>
          simp only [loop_eq] at moved
          obtain ⟨socket, guard, -, ⟨-, -, rfl⟩ | ⟨result, -, -, -, -, -, rfl⟩⟩ :=
            System.pursue_cases moved
          · exact .of_goes rfl rfl rfl rfl rfl (by simp [System.setGuard, System.mapLink]) rfl rfl
              rfl (fun _ eq => eq) rfl
          · exact .of_goes rfl rfl rfl rfl rfl
              (by simp [System.setGuard, System.mapLink, setLoop, change])
              rfl rfl rfl (by simp [setLoop, change, LoopStage.order?])
              (by rw [loop_eq]; rfl)
  | listed replied =>
      have deed_eq : loopDeed? preference system = none := by simp [loopDeed?, taken?, loop_eq]
      rw [deed_eq]
      simp only [loop_eq, Move.next?, Option.some.injEq] at moved
      subst moved
      exact .of_answer (by rw [loop_eq]; rfl) true
  | importing order stage =>
      have deed_eq : loopDeed? preference system = stage.deed? := by simp [loopDeed?, loop_eq]
      rw [deed_eq]
      simp only [loop_eq] at moved
      exact moveImport_attends loop_eq moved

theorem runClaim_attends [UsbHandle Handle] (system : System (Host Handle)) (id : JobId) :
    Attends system none (change system (·.runClaim id)) := by
  unfold change runClaim
  generalize claimAll system.executor.handle system.executor.interfaces = claims
  obtain ⟨handle, success⟩ := claims
  dsimp only
  split
  · next order job loop_eq =>
      have loop_eq' : system.executor.loop = .importing order (.claiming job) := loop_eq
      split
      · refine .of_goes rfl rfl rfl rfl rfl rfl rfl rfl rfl ?_ ?_ <;> rw [loop_eq']
        · exact fun _ eq => eq
        · rfl
      · exact .of_goes rfl rfl rfl rfl rfl rfl rfl rfl rfl (fun _ eq => eq) rfl
  · exact .of_goes rfl rfl rfl rfl rfl rfl rfl rfl rfl (fun _ eq => eq) rfl

/-- A move of the loop: it takes a request, or it goes on with the one in hand. -/
inductive LoopMove (system : System (Host Handle)) : Option Deed → System (Host Handle) → Prop
  | takesControl {request : ControlRequest} {control : Channel ControlRequest}
      (idle : system.executor.loop = .idle)
      (taken : system.control.take? = some (request, control)) :
      LoopMove system none (handleControl { system with control } request)
  | takesSubmit {request : SubmitRequest} {data : Channel SubmitRequest}
      (idle : system.executor.loop = .idle) (taken : system.data.take? = some (request, data)) :
      LoopMove system (some (.accepted request)) (handleSubmit { system with data } request)
  | attends {deed : Option Deed} {next : System (Host Handle)}
      (working : system.executor.loop ≠ .idle) (attends : Attends system deed next) :
      LoopMove system deed next

theorem takeControl_cases {system next : System (Host Handle)}
    (idle : system.executor.loop = .idle) (moved : (takeControl system).next? = some next) :
    LoopMove system none next := by
  unfold takeControl at moved
  cases taken : system.control.take? with
  | none => simp [taken, Move.next?] at moved
  | some found =>
      simp only [taken, Move.next?, Option.some.injEq] at moved
      subst moved
      exact .takesControl idle taken

theorem takeSubmit_cases {system next : System (Host Handle)}
    (idle : system.executor.loop = .idle) (moved : (takeSubmit system).next? = some next) :
    LoopMove system (system.data.queue.head?.map .accepted) next := by
  unfold takeSubmit at moved
  cases taken : system.data.take? with
  | none => simp [taken, Move.next?] at moved
  | some found =>
      simp only [taken, Move.next?, Option.some.injEq] at moved
      subst moved
      rw [Channel.queue_take? taken, List.head?_cons]
      exact .takesSubmit idle taken

theorem take?_eq_none_iff {α : Type} {channel : Channel α} :
    channel.take? = none ↔ channel.queue = [] := by
  unfold Channel.take?
  cases channel.queue <;> simp

/-- Whatever a move of the loop comes to is one of the cases. -/
theorem moveLoop_cases {preference : Preference} {system next : System (Host Handle)}
    (moved : (moveLoop preference system).next? = some next) :
    LoopMove system (loopDeed? preference system) next := by
  by_cases idle : system.executor.loop = .idle
  · unfold moveLoop at moved
    simp only [loopDeed?, taken?, idle]
    cases preference with
    | control =>
        simp only [idle] at moved
        cases taken : system.control.take? with
        | none =>
            rw [takeControl, taken] at moved
            rw [if_pos (Or.inr (take?_eq_none_iff.1 taken))]
            exact takeSubmit_cases idle moved
        | some found =>
            have filled : system.control.queue ≠ [] := by
              rw [Ne, ← take?_eq_none_iff, taken]
              simp
            rw [if_neg (by simp [filled])]
            refine takeControl_cases idle ?_
            unfold takeControl at moved ⊢
            rw [taken] at moved ⊢
            exact moved
    | data =>
        simp only [idle] at moved
        rw [if_pos (Or.inl rfl)]
        cases taken : system.data.take? with
        | none =>
            rw [takeSubmit, taken] at moved
            rw [take?_eq_none_iff.1 taken]
            exact takeControl_cases idle moved
        | some found =>
            refine takeSubmit_cases idle ?_
            unfold takeSubmit at moved ⊢
            rw [taken] at moved ⊢
            exact moved
  · refine .attends idle (moveRequest_attends ?_ preference)
    unfold moveLoop at moved
    split at moved
    · next eq => exact absurd eq idle
    · next eq => exact absurd eq idle
    · exact moved

/-! ### All moves of the executor -/

inductive ExecutorMove [UsbHandle Handle] (system : System (Host Handle)) :
    Option Deed → System (Host Handle) → Prop
  | loop {deed : Option Deed} {next : System (Host Handle)} (move : LoopMove system deed next) :
      ExecutorMove system deed next
  | worker {id : WorkerId} {worker worker' : Worker} {rest : System (Host Handle)}
      {deed : Option Deed} (worker_eq : system.executor.workers[id]? = some worker)
      (move : WorkerMove system id worker deed worker' rest) :
      ExecutorMove system deed (putWorker rest id worker')
  | job {id : JobId} {deed : Option Deed} {next : System (Host Handle)}
      (move : JobMove system id deed next) : ExecutorMove system deed next
  | transfer {id : WorkerId} {worker : Worker} {request : SubmitRequest}
      {outcome : Except UsbError Transferred}
      (worker_eq : system.executor.workers[id]? = some worker)
      (stage_eq : worker.stage = .transferring request (some outcome)) :
      ExecutorMove system none
        (putWorker system id { worker with
          stage := .retiring request (some (completion request.submit.header.seqnum outcome)) })

theorem WorkerMove.proceeds {system rest : System (Host Handle)} {id : WorkerId}
    {worker worker' : Worker} {deed : Option Deed}
    (move : WorkerMove system id worker deed worker' rest) :
    Proceeds system (putWorker rest id worker') := by
  cases move with
  | @stands link completion stage_eq =>
      obtain ⟨links, frame, length_eq⟩ :=
        standInLine_frame system link (.send (Reply.completed completion).encode)
      rw [frame]
      exact ⟨rfl, rfl, rfl, rfl, length_eq, fun _ eq => eq, Or.inl ⟨rfl, rfl⟩⟩
  | @turns link completion ticket socket guard stage_eq socket_eq polled =>
      exact ⟨rfl, rfl, rfl, rfl, by simp [putWorker, change, System.setGuard, System.mapLink],
        fun _ eq => eq, Or.inl ⟨rfl, rfl⟩⟩
  | @answers link completion ticket socket guard result stage_eq socket_eq polled =>
      exact ⟨rfl, rfl, rfl, rfl, by simp [putWorker, change, System.setGuard, System.mapLink],
        fun _ eq => eq, Or.inl ⟨rfl, rfl⟩⟩
  | _ => exact ⟨rfl, rfl, rfl, rfl, rfl, fun _ eq => eq, Or.inl ⟨rfl, rfl⟩⟩

theorem JobMove.proceeds [UsbHandle Handle] {system next : System (Host Handle)} {id : JobId}
    {deed : Option Deed} (move : JobMove system id deed next) : Proceeds system next := by
  cases move with
  | claims => exact (runClaim_attends system id).toProceeds
  | _ => exact ⟨rfl, rfl, rfl, rfl, rfl, fun _ eq => eq, Or.inl ⟨rfl, rfl⟩⟩

theorem handleControl_eq (system : System (Host Handle)) (idle : system.executor.loop = .idle)
    (request : ControlRequest) :
    ∃ loop, handleControl system request = setLoop system loop ∧
      (∀ order, loop.order? = some order → order.reply = request.reply) ∧
      loop.slot? = request.command.slot? := by
  unfold handleControl
  cases request.command with
  | deviceList status replied => exact ⟨_, rfl, by simp [LoopStage.order?], rfl⟩
  | importDevice body confirm =>
      refine ⟨_, rfl, fun order eq => ?_, rfl⟩
      obtain rfl := Option.some.inj eq
      rfl
  | unknown =>
      refine ⟨.idle, ?_, by simp [LoopStage.order?], rfl⟩
      rw [setLoop, change, ← idle]

/-- The executor takes the next control request, or it goes on with the one in hand. -/
theorem ExecutorMove.takes_or_proceeds [UsbHandle Handle] {system next : System (Host Handle)}
    {deed : Option Deed} (move : ExecutorMove system deed next) :
    (∃ request control loop, system.executor.loop = .idle ∧
      system.control.take? = some (request, control) ∧
      next = setLoop { system with control } loop ∧
      (∀ order, loop.order? = some order → order.reply = request.reply) ∧
      loop.slot? = request.command.slot?) ∨ Proceeds system next := by
  cases move with
  | loop move =>
      cases move with
      | @takesControl request control idle taken =>
          obtain ⟨loop, frame, eqs⟩ := handleControl_eq { system with control } idle request
          exact Or.inl ⟨request, control, loop, idle, taken, frame, eqs⟩
      | takesSubmit idle taken =>
          have loop_eq (request : SubmitRequest) :
              (system.executor.accept request).loop = system.executor.loop := by
            unfold accept enqueue
            dsimp only
            split <;> rfl
          refine Or.inr ⟨rfl, maxTransfer_accept _ _, rfl, rfl, rfl, fun order eq => ?_,
            Or.inl ⟨?_, rfl⟩⟩
          · rwa [← loop_eq]
          · exact congrArg LoopStage.slot? (loop_eq _)
      | attends working attends => exact Or.inr attends.toProceeds
  | worker worker_eq move => exact Or.inr move.proceeds
  | job move => exact Or.inr move.proceeds
  | transfer worker_eq stage_eq =>
      exact Or.inr ⟨rfl, rfl, rfl, rfl, rfl, fun _ eq => eq, Or.inl ⟨rfl, rfl⟩⟩

/-- What the executor does is not a deed of the session. -/
theorem ExecutorMove.ne_session [UsbHandle Handle] {system next : System (Host Handle)}
    {deed : Option Deed} (move : ExecutorMove system deed next) (link : LinkId)
    (what : Session.Deed) : deed ≠ some (.session link what) := by
  cases move with
  | loop move =>
      cases move with
      | attends working attends => rcases attends.urbs_eq with ⟨rfl, -⟩ | ⟨rfl, -⟩ <;> simp
      | _ => simp
  | worker worker_eq move => cases move <;> simp
  | job move => cases move <;> simp
  | transfer worker_eq stage_eq => simp

end UsbExport.Host

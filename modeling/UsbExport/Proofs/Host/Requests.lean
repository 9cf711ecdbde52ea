import UsbExport.Proofs.Host.Chronicle

/-!
Everything that one move with a control request in hand can come to, with the note it makes. An
order for the device finds out whether it is free, has the interfaces claimed and recorded, marks
the device busy and is replied to; a reply that does not get through takes the last two back.
-/

namespace UsbExport.Host

open Dispatch Socket

variable {Handle : Type}

/-- How far an import has come in taking the device. -/
inductive Bid
  /-- Nobody has looked yet whether the device is free. -/
  | asked
  | passed
  | recorded
  | marked
  /-- The reply did not get through, and the device is still marked. -/
  | failed
  | unmarked
  | denied
  | granted
deriving DecidableEq, Repr

namespace ImportStage

def bid : ImportStage → Bid
  | .checking => .asked
  | .settling | .awaitingRelease _ | .startingClaim | .claiming _ | .recording => .passed
  | .clearing | .marking => .recorded
  | .replying true _ => .marked
  | .unmarking => .failed
  | .unclaiming => .unmarked
  | .replying false _ | .settlingBack | .awaitingBack _ | .confirming false => .denied
  | .confirming true => .granted

/-- The ticket with which a reply stands in line. -/
def ticket? : ImportStage → Option Ticket
  | .replying _ ticket => ticket
  | _ => none

/-- What follows when the reply has had its turn. -/
def afterReply (accepted succeeded : Bool) : ImportStage :=
  if accepted && !succeeded then .unmarking else .confirming accepted

end ImportStage

/-- The pool is as it was, or has one more job. -/
def PoolGrows (host host' : Host Handle) : Prop :=
  host'.jobs = host.jobs ∧ host'.issued = host.issued ∨
    ∃ task, host'.jobs = host.jobs ++ [⟨host.issued, task⟩] ∧ host'.issued = host.issued + 1

/-- The device is reached as before, and the same is made of a submit. -/
structure SameRig (host host' : Host Handle) : Prop where
  handle_eq : host'.handle = host.handle
  endpoints_eq : host'.endpoints = host.endpoints
  bound_eq : host'.maxTransfer = host.maxTransfer

/-- What the other parties and the theorems look at is as it was. -/
structure HoldsStill (host host' : Host Handle) : Prop where
  pool : PoolGrows host host'
  rig : SameRig host host'
  claimed_eq : host'.claimed = host.claimed
  workers_eq : host'.workers = host.workers
  device_eq : host'.device = host.device
  interfaces_eq : host'.interfaces = host.interfaces

/-- A move with an import in hand. -/
inductive ImportMove (system : System (Host Handle)) (order : ImportOrder) (stage : ImportStage) :
    Option Note → System (Host Handle) → Prop
  | goesOn {host : Host Handle} {stage' : ImportStage} (still : HoldsStill system.executor host)
      (bid_eq : stage'.bid = stage.bid) (unplaced : stage.ticket? = none ∧ stage'.ticket? = none) :
      ImportMove system order stage (stage.deed?.map .deed)
        (setLoop { system with executor := host } (.importing order stage'))
  | passes (stage_eq : stage = .checking)
      (named : system.executor.device.isNamedBy order.busId = true)
      (free : system.flags.busy = false) :
      ImportMove system order stage none (setLoop system (.importing order .settling))
  | refuses (stage_eq : stage = .checking)
      (taken : system.executor.device.isNamedBy order.busId = false ∨ system.flags.busy = true) :
      ImportMove system order stage none (setLoop system (.importing order (.replying false none)))
  | records (stage_eq : stage = .recording) :
      ImportMove system order stage (some (.recorded order))
        (setLoop (change system fun host => { host with claimed := host.interfaces })
          (.importing order .clearing))
  | marks (stage_eq : stage = .marking) :
      ImportMove system order stage (some (.marked order))
        (setLoop { system with flags := system.flags.setBusy true }
          (.importing order (.replying true none)))
  | stands {accepted : Bool} (stage_eq : stage = .replying accepted none) :
      ImportMove system order stage none
        (setLoop
          (system.standInLine order.reply
            (.send (importReply system.executor order.version accepted).encode)).2
          (.importing order (.replying accepted
            (some (system.standInLine order.reply
              (.send (importReply system.executor order.version accepted).encode)).1))))
  | turns {accepted : Bool} {ticket : Ticket} {socket : Link} {guard : Guard}
      (stage_eq : stage = .replying accepted (some ticket))
      (socket_eq : system.links[order.reply]? = some socket)
      (polled : socket.guard.poll ticket system.now = .advanced guard ∨
        socket.guard.poll ticket system.now = .paused guard) :
      ImportMove system order stage none (system.setGuard order.reply guard)
  | replies {accepted : Bool} {ticket : Ticket} {socket : Link} {guard : Guard}
      {result : Except SendError Unit} (stage_eq : stage = .replying accepted (some ticket))
      (socket_eq : system.links[order.reply]? = some socket)
      (polled : socket.guard.poll ticket system.now = .finished guard result) :
      ImportMove system order stage (some (.replied order accepted result.isOk))
        (setLoop (system.setGuard order.reply guard)
          (.importing order (.afterReply accepted result.isOk)))
  | unmarks (stage_eq : stage = .unmarking) :
      ImportMove system order stage none
        (setLoop { system with flags := system.flags.setBusy false }
          (.importing order .unclaiming))
  | unclaims (stage_eq : stage = .unclaiming) :
      ImportMove system order stage (some (.deed .cleared))
        (setLoop (change system Host.release) (.importing order .settlingBack))
  | confirms {accepted : Bool} (stage_eq : stage = .confirming accepted) :
      ImportMove system order stage none
        (setLoop (system.answer order.confirm (.given accepted)) .idle)

/-- A move with the request in hand. -/
inductive RequestMove (system : System (Host Handle)) :
    Option Note → System (Host Handle) → Prop
  | listStands {version : UInt16} {link : LinkId} {slot : SlotId}
      (loop_eq : system.executor.loop = .listing version link slot none) :
      RequestMove system none
        (setLoop
          (system.standInLine link
            (.send (Reply.listOf version [system.executor.device]).encode)).2
          (.listing version link slot
            (some (system.standInLine link
              (.send (Reply.listOf version [system.executor.device]).encode)).1)))
  | listTurns {version : UInt16} {link : LinkId} {slot : SlotId} {ticket : Ticket} {socket : Link}
      {guard : Guard} (loop_eq : system.executor.loop = .listing version link slot (some ticket))
      (socket_eq : system.links[link]? = some socket)
      (polled : socket.guard.poll ticket system.now = .advanced guard ∨
        socket.guard.poll ticket system.now = .paused guard) :
      RequestMove system none (system.setGuard link guard)
  | lists {version : UInt16} {link : LinkId} {slot : SlotId} {ticket : Ticket} {socket : Link}
      {guard : Guard} {result : Except SendError Unit}
      (loop_eq : system.executor.loop = .listing version link slot (some ticket))
      (socket_eq : system.links[link]? = some socket)
      (polled : socket.guard.poll ticket system.now = .finished guard result) :
      RequestMove system (some (.listed version link slot result.isOk))
        (setLoop (system.setGuard link guard) (.listed slot))
  | listAnswers {slot : SlotId} (loop_eq : system.executor.loop = .listed slot) :
      RequestMove system none (setLoop (system.answer slot (.given true)) .idle)
  | imports {order : ImportOrder} {stage : ImportStage} {note : Option Note}
      {next : System (Host Handle)} (loop_eq : system.executor.loop = .importing order stage)
      (move : ImportMove system order stage note next) : RequestMove system note next

/-- A move of the loop: it takes a request, or it goes on with the one in hand. -/
inductive LoopTurn (system : System (Host Handle)) : Option Note → System (Host Handle) → Prop
  | takesControl {request : ControlRequest} {control : Channel ControlRequest}
      (idle : system.executor.loop = .idle)
      (taken : system.control.take? = some (request, control)) :
      LoopTurn system none (handleControl { system with control } request)
  | takesSubmit {request : SubmitRequest} {data : Channel SubmitRequest}
      (idle : system.executor.loop = .idle) (taken : system.data.take? = some (request, data)) :
      LoopTurn system (some (.deed (.accepted request)))
        (handleSubmit { system with data } request)
  | attends {note : Option Note} {next : System (Host Handle)}
      (move : RequestMove system note next) : LoopTurn system note next

section

variable {system next : System (Host Handle)}

theorem succeeded?_eq {link : LinkId} {ticket : Ticket} {errand : Errand} {succeeded : Bool}
    (served : system.served? link ticket = some (.served errand succeeded)) :
    succeeded? system link ticket = some succeeded := by
  rw [succeeded?, served]

theorem settle_move {order : ImportOrder} {stage free : ImportStage}
    {waiting : JobId → ImportStage} (bid_eq : free.bid = stage.bid)
    (bid_eq' : ∀ job, (waiting job).bid = stage.bid)
    (unplaced : stage.ticket? = none) (unplaced' : free.ticket? = none)
    (unplaced'' : ∀ job, (waiting job).ticket? = none) :
    ImportMove system order stage (stage.deed?.map .deed) (settle system waiting free order) := by
  unfold settle change
  have still : HoldsStill system.executor { system.executor with releasing := none } :=
    ⟨Or.inl ⟨rfl, rfl⟩, ⟨rfl, rfl, rfl⟩, rfl, rfl, rfl, rfl⟩
  cases system.executor.releasing with
  | none => exact .goesOn still bid_eq ⟨unplaced, unplaced'⟩
  | some job => exact .goesOn still (bid_eq' job) ⟨unplaced, unplaced'' job⟩

/-- Most stages of an import make no note of their own. -/
theorem loopNote?_import {order : ImportOrder} {stage : ImportStage} (preference : Preference)
    (loop_eq : system.executor.loop = .importing order stage) (unrecorded : stage ≠ .recording)
    (unmarked : stage ≠ .marking) (unplaced : stage.ticket? = none) :
    loopNote? preference system = stage.deed?.map .deed := by
  unfold loopNote?
  split
  · next eq => simp [eq] at loop_eq
  · next eq =>
      rw [eq] at loop_eq
      cases loop_eq
      exact absurd rfl unrecorded
  · next eq =>
      rw [eq] at loop_eq
      cases loop_eq
      exact absurd rfl unmarked
  · next eq =>
      rw [eq] at loop_eq
      cases loop_eq
      cases unplaced
  · rw [loopDeed?, loop_eq]

theorem moveReply_cases {order : ImportOrder} {accepted : Bool} {ticket : Option Ticket}
    (preference : Preference)
    (loop_eq : system.executor.loop = .importing order (.replying accepted ticket))
    (moved : (moveImport order (.replying accepted ticket) system).next? = some next) :
    ImportMove system order (.replying accepted ticket) (loopNote? preference system) next := by
  cases ticket with
  | none =>
      cases moved
      rw [loopNote?_import preference loop_eq (by simp) (by simp) rfl]
      exact .stands rfl
  | some ticket =>
      simp only [moveImport] at moved
      obtain ⟨socket, guard, socket_eq, ⟨polled, unserved, rfl⟩ |
        ⟨result, done, line, polled, -, served, rfl⟩⟩ := System.pursue_cases moved
      · have quiet : loopNote? preference system = none := by
          simp [loopNote?, loop_eq, succeeded?, unserved]
        rw [quiet]
        exact .turns rfl socket_eq polled
      · have told : loopNote? preference system = some (.replied order accepted result.isOk) := by
          simp [loopNote?, loop_eq, succeeded?_eq served]
        have went :=
          @ImportMove.replies _ system order _ accepted ticket socket guard result rfl socket_eq polled
        rw [told]
        cases accepted <;> cases result <;> exact went

theorem moveImport_cases {order : ImportOrder} {stage : ImportStage} (preference : Preference)
    (loop_eq : system.executor.loop = .importing order stage)
    (moved : (moveImport order stage system).next? = some next) :
    ImportMove system order stage (loopNote? preference system) next := by
  have plain := loopNote?_import preference loop_eq
  have still : HoldsStill system.executor system.executor :=
    ⟨Or.inl ⟨rfl, rfl⟩, ⟨rfl, rfl, rfl⟩, rfl, rfl, rfl, rfl⟩
  cases stage with
  | checking =>
      rw [plain (by simp) (by simp) rfl]
      simp only [moveImport] at moved
      split at moved
      · next free =>
          cases moved
          simp only [Bool.and_eq_true, Bool.not_eq_true'] at free
          exact .passes rfl free.1 free.2
      · next taken =>
          cases moved
          refine .refuses rfl ?_
          simpa [Decidable.or_iff_not_imp_left] using taken
  | settling =>
      cases moved
      rw [plain (by simp) (by simp) rfl]
      exact settle_move rfl (fun _ => rfl) rfl rfl fun _ => rfl
  | awaitingRelease job =>
      simp only [moveImport] at moved
      split at moved <;> cases moved
      rw [plain (by simp) (by simp) rfl]
      exact .goesOn still rfl ⟨rfl, rfl⟩
  | startingClaim =>
      cases moved
      rw [plain (by simp) (by simp) rfl]
      exact .goesOn ⟨Or.inr ⟨.claim, rfl, rfl⟩, ⟨rfl, rfl, rfl⟩, rfl, rfl, rfl, rfl⟩ rfl ⟨rfl, rfl⟩
  | claiming job => cases moved
  | recording =>
      cases moved
      have told : loopNote? preference system = some (.recorded order) := by
        simp [loopNote?, loop_eq]
      rw [told]
      exact .records rfl
  | clearing =>
      cases moved
      rw [plain (by simp) (by simp) rfl]
      exact .goesOn ⟨Or.inl ⟨rfl, rfl⟩, ⟨rfl, rfl, rfl⟩, rfl, rfl, rfl, rfl⟩ rfl ⟨rfl, rfl⟩
  | marking =>
      cases moved
      have told : loopNote? preference system = some (.marked order) := by
        simp [loopNote?, loop_eq]
      rw [told]
      exact .marks rfl
  | replying accepted ticket => exact moveReply_cases preference loop_eq moved
  | unmarking =>
      cases moved
      rw [plain (by simp) (by simp) rfl]
      exact .unmarks rfl
  | unclaiming =>
      cases moved
      rw [plain (by simp) (by simp) rfl]
      exact .unclaims rfl
  | settlingBack =>
      cases moved
      rw [plain (by simp) (by simp) rfl]
      exact settle_move rfl (fun _ => rfl) rfl rfl fun _ => rfl
  | awaitingBack job =>
      simp only [moveImport] at moved
      split at moved <;> cases moved
      rw [plain (by simp) (by simp) rfl]
      exact .goesOn still rfl ⟨rfl, rfl⟩
  | confirming accepted =>
      cases moved
      rw [plain (by simp) (by simp) rfl]
      exact .confirms rfl

theorem moveRequest_cases (preference : Preference)
    (moved : (moveRequest system).next? = some next) :
    RequestMove system (loopNote? preference system) next := by
  unfold moveRequest at moved
  cases loop_eq : system.executor.loop with
  | idle => simp [loop_eq, Move.next?] at moved
  | stopped => simp [loop_eq, Move.next?] at moved
  | listing version link slot ticket =>
      cases ticket with
      | none =>
          simp only [loop_eq, Move.next?, Option.some.injEq] at moved
          subst moved
          have quiet : loopNote? preference system = none := by
            simp [loopNote?, loop_eq, loopDeed?, taken?]
          rw [quiet]
          exact .listStands loop_eq
      | some ticket =>
          simp only [loop_eq] at moved
          obtain ⟨socket, guard, socket_eq, ⟨polled, unserved, rfl⟩ |
            ⟨result, done, line, polled, -, served, rfl⟩⟩ := System.pursue_cases moved
          · have quiet : loopNote? preference system = none := by
              simp [loopNote?, loop_eq, succeeded?, unserved]
            rw [quiet]
            exact .listTurns loop_eq socket_eq polled
          · have told : loopNote? preference system =
                some (.listed version link slot result.isOk) := by
              simp [loopNote?, loop_eq, succeeded?_eq served]
            rw [told]
            exact .lists loop_eq socket_eq polled
  | listed slot =>
      simp only [loop_eq, Move.next?, Option.some.injEq] at moved
      subst moved
      have quiet : loopNote? preference system = none := by
        simp [loopNote?, loop_eq, loopDeed?, taken?]
      rw [quiet]
      exact .listAnswers loop_eq
  | importing order stage =>
      simp only [loop_eq] at moved
      exact .imports loop_eq (moveImport_cases preference loop_eq moved)

/-- Whatever a move of the loop comes to is one of the cases. -/
theorem moveLoop_turn {preference : Preference}
    (moved : (moveLoop preference system).next? = some next) :
    LoopTurn system (loopNote? preference system) next := by
  by_cases idle : system.executor.loop = .idle
  · have told : loopNote? preference system = (loopDeed? preference system).map .deed := by
      simp [loopNote?, idle]
    have move := moveLoop_cases moved
    rw [told]
    generalize loopDeed? preference system = deed at move
    cases move with
    | takesControl _ taken => exact .takesControl idle taken
    | takesSubmit _ taken => exact .takesSubmit idle taken
    | attends working attends => exact absurd idle working
  · refine .attends (moveRequest_cases preference ?_)
    unfold moveLoop at moved
    split at moved
    · next eq => exact absurd eq idle
    · next eq => exact absurd eq idle
    · exact moved

end

end UsbExport.Host

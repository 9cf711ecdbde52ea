import UsbExport.Proofs.Host.Receipts
import UsbExport.Proofs.Host.Turnover

/-!
What decides who has the device: the flag, the claims in the books, the jobs that are going to claim
or release, and the calls that were made. Main statement: every event at a server is one of a few
steps with these.
-/

namespace UsbExport

open Dispatch Socket

/-- The session that is served has begun to clean up and has not released the device yet. -/
def System.isCleaning {Executor : Type} (system : System Executor) : Bool :=
  system.visit.any (·.session.stage.isReleasing)

namespace Host

variable {Handle : Type}

/-! ### Steps -/

/-- What decides who has the device. -/
structure Holding where
  device : DeviceRecord
  interfaces : List UInt8
  busy : Bool
  claimed : List UInt8
  releasing : Option JobId
  /-- The jobs that want the device for themselves. -/
  jobs : List Job
  calls : List Call
  loop : LoopStage
  cleaning : Bool

def holding (system : System (Host (Recorded Handle))) : Holding where
  device := system.executor.device
  interfaces := system.executor.interfaces
  busy := system.flags.busy
  claimed := system.executor.claimed
  releasing := system.executor.releasing
  jobs := exclusive system.executor
  calls := system.executor.handle.calls
  loop := system.executor.loop
  cleaning := system.isCleaning

namespace Holding

/-- Has what is in the books released by a job of this number. -/
def release (holding : Holding) (job : JobId) : Holding :=
  if holding.claimed.isEmpty then holding
  else
    { holding with
      claimed := []
      jobs := holding.jobs ++ [⟨job, .release holding.claimed⟩]
      releasing := some job }

theorem loop_release (holding : Holding) (job : JobId) :
    (holding.release job).loop = holding.loop := by
  unfold release
  split <;> rfl

def drop (holding : Holding) (job : JobId) : Holding :=
  { holding with jobs := holding.jobs.filter (·.id != job) }

theorem drop_only {holding : Holding} {job : JobId} {task : Task}
    (only : holding.jobs = [⟨job, task⟩]) : (holding.drop job).jobs = [] := by
  show holding.jobs.filter (·.id != job) = []
  rw [only]
  simp

/-- No job has this number. -/
def Lacks (holding : Holding) (job : JobId) : Prop := ∀ other ∈ holding.jobs, other.id ≠ job

end Holding

/-- How the loop goes on when a claim has ended. -/
def LoopStage.afterClaim (job : JobId) (success : Bool) : LoopStage → LoopStage
  | .importing order (.claiming id) =>
      .importing order
        (if id = job then if success then .recording else .replying false none else .claiming id)
  | loop => loop

theorem LoopStage.afterClaim_of_claiming {loop : LoopStage} {order : ImportOrder} {job : JobId}
    (loop_eq : loop = .importing order (.claiming job)) (success : Bool) :
    loop.afterClaim job success =
      .importing order (if success then .recording else .replying false none) := by
  rw [loop_eq]
  simp [afterClaim]

def Note.isReply : Note → Bool
  | .replied _ _ _ => true
  | _ => false

/-- A move with an import in hand that is not the end of its reply. -/
inductive ImportStep (holding : Holding) (order : ImportOrder) : ImportStage → Holding → Prop
  | passes (named : holding.device.isNamedBy order.busId = true) (free : holding.busy = false) :
      ImportStep holding order .checking { holding with loop := .importing order .settling }
  | refuses (taken : holding.device.isNamedBy order.busId = false ∨ holding.busy = true) :
      ImportStep holding order .checking
        { holding with loop := .importing order (.replying false none) }
  | settles :
      ImportStep holding order .settling
        { holding with
          releasing := none
          loop := .importing order
            ((holding.releasing.map .awaitingRelease).getD .startingClaim) }
  | waits {job : JobId} (gone : holding.Lacks job) :
      ImportStep holding order (.awaitingRelease job)
        { holding with loop := .importing order .startingClaim }
  | begins {job : JobId} (fresh : holding.Lacks job) :
      ImportStep holding order .startingClaim
        { holding with
          jobs := holding.jobs ++ [⟨job, .claim⟩]
          loop := .importing order (.claiming job) }
  | records :
      ImportStep holding order .recording
        { holding with claimed := holding.interfaces, loop := .importing order .clearing }
  | clears :
      ImportStep holding order .clearing { holding with loop := .importing order .marking }
  | marks :
      ImportStep holding order .marking
        { holding with busy := true, loop := .importing order (.replying true none) }
  | stands {accepted : Bool} (ticket : Ticket) :
      ImportStep holding order (.replying accepted none)
        { holding with loop := .importing order (.replying accepted (some ticket)) }
  | unmarks :
      ImportStep holding order .unmarking
        { holding with busy := false, loop := .importing order .unclaiming }
  | unclaims {job : JobId} (fresh : holding.Lacks job) :
      ImportStep holding order .unclaiming
        { holding.release job with loop := .importing order .settlingBack }
  | settlesBack :
      ImportStep holding order .settlingBack
        { holding with
          releasing := none
          loop := .importing order
            ((holding.releasing.map .awaitingBack).getD (.confirming false)) }
  | returns {job : JobId} (gone : holding.Lacks job) :
      ImportStep holding order (.awaitingBack job)
        { holding with loop := .importing order (.confirming false) }
  | confirms {accepted : Bool} :
      ImportStep holding order (.confirming accepted) { holding with loop := .idle }

/-- What can happen to the device as a whole. -/
inductive HoldingStep (holding : Holding) : Option Note → Holding → Prop
  | aside {note : Option Note} (quiet : ∀ what ∈ note, what.isReply = false) :
      HoldingStep holding note holding
  | resets (link : LinkId) :
      HoldingStep holding (some (.deed (.session link .reset)))
        { holding with busy := false, cleaning := true }
  | cleansUp (link : LinkId) {job : JobId} (fresh : holding.Lacks job) :
      HoldingStep holding (some (.deed (.session link .released)))
        { holding.release job with cleaning := false }
  | elsewhere {note : Option Note} {loop : LoopStage} (apart : holding.loop.order? = none)
      (begins : ∀ order stage, loop = .importing order stage → stage = .checking)
      (quiet : ∀ what ∈ note, what.isReply = false) :
      HoldingStep holding note { holding with loop }
  | attends {note : Option Note} {order : ImportOrder} {stage : ImportStage} {next : Holding}
      (loop_eq : holding.loop = .importing order stage)
      (step : ImportStep holding order stage next)
      (quiet : ∀ what ∈ note, what.isReply = false) : HoldingStep holding note next
  | replies {order : ImportOrder} {accepted : Bool} {ticket : Ticket}
      (loop_eq : holding.loop = .importing order (.replying accepted (some ticket)))
      (succeeded : Bool) :
      HoldingStep holding (some (.replied order accepted succeeded))
        { holding with loop := .importing order (.afterReply accepted succeeded) }
  | claims {job : JobId} {made : List Call} {success : Bool}
      (member : ⟨job, .claim⟩ ∈ holding.jobs) (pass : ClaimPass holding.interfaces made success) :
      HoldingStep holding none
        { holding.drop job with
          calls := holding.calls ++ made
          loop := holding.loop.afterClaim job success }
  | frees {job : JobId} {numbers : List UInt8} (member : ⟨job, .release numbers⟩ ∈ holding.jobs) :
      HoldingStep holding none
        { holding.drop job with calls := holding.calls ++ releasesOf numbers }

/-! ### Every event is one of these steps -/

section

variable {system next : System (Host (Recorded Handle))}

/-- The holding does not change with what is not part of it. -/
theorem SameHold.holding_eq (same : SameHold system.executor next.executor)
    (device_eq : next.executor.device = system.executor.device)
    (loop_eq : next.executor.loop = system.executor.loop)
    (busy_eq : next.flags.busy = system.flags.busy)
    (cleaning_eq : next.isCleaning = system.isCleaning) : holding next = holding system := by
  rw [holding, holding, same.claimed_eq, same.releasing_eq, same.interfaces_eq, same.exclusive_eq,
    same.calls_eq, device_eq, loop_eq, busy_eq, cleaning_eq]

theorem holding_release (system : System (Host (Recorded Handle))) :
    holding (change system Host.release) = (holding system).release system.executor.issued := by
  unfold Holding.release
  by_cases empty : (holding system).claimed.isEmpty = true
  · rw [if_pos empty]
    exact (sameHold_release (List.isEmpty_iff.1 empty)).holding_eq (release_desk _).2.1
      (release_loop _) rfl rfl
  · rw [if_neg empty]
    let forgotten := { system.executor.forgetUrbs with claimed := [] }
    have pool : exclusive (forgotten.addJob (.release system.executor.claimed)).2 =
        exclusive system.executor ++
          [⟨system.executor.issued, .release system.executor.claimed⟩] := exclusive_addJob _ _
    have released : system.executor.release =
        { (forgotten.addJob (.release system.executor.claimed)).2 with
          releasing := some system.executor.issued } := by
      unfold Host.release
      exact if_neg empty
    unfold change
    rw [released]
    exact congrArg (fun jobs : List Job => { holding system with
      claimed := [], jobs, releasing := some system.executor.issued }) pool

/-- A number that was not given out yet is not on the pool. -/
theorem Numbered.lacks (own : Numbered system.executor) :
    (holding system).Lacks system.executor.issued :=
  fun job member => Nat.ne_of_lt (own.numbered job (List.mem_filter.1 member).1)

theorem lacks_of_hasJob {job : JobId} (done : ¬system.executor.hasJob job = true) :
    (holding system).Lacks job := by
  intro other member same
  refine done (List.any_eq_true.2 ⟨other, (List.mem_filter.1 member).1, ?_⟩)
  rw [same]
  exact beq_self_eq_true job

/-- Only the end of a reply makes a note of it. -/
theorem quiet_loopNote? {preference : Preference}
    (unplaced : ∀ order accepted ticket,
      system.executor.loop ≠ .importing order (.replying accepted (some ticket))) :
    ∀ what ∈ loopNote? preference system, what.isReply = false := by
  unfold loopNote?
  split
  · rintro what member
    obtain ⟨succeeded, -, rfl⟩ := Option.map_eq_some_iff.1 member
    rfl
  · simp [Note.isReply]
  · simp [Note.isReply]
  · next loop_eq => exact absurd loop_eq (unplaced _ _ _)
  · simp [Note.isReply]

theorem import_holdingStep {order : ImportOrder} {stage : ImportStage} {preference : Preference}
    (own : Numbered system.executor) (loop_eq : system.executor.loop = .importing order stage)
    (moved : (moveImport order stage system).next? = some next) :
    HoldingStep (holding system) (loopNote? preference system) (holding next) := by
  have quiet (unplaced : stage.ticket? = none) :
      ∀ what ∈ loopNote? preference system, what.isReply = false :=
    quiet_loopNote? fun order' accepted ticket placed => by
      rw [loop_eq] at placed
      cases placed
      cases unplaced
  have attends {next' : Holding} (unplaced : stage.ticket? = none)
      (step : ImportStep (holding system) order stage next') :
      HoldingStep (holding system) (loopNote? preference system) next' :=
    .attends loop_eq step (quiet unplaced)
  cases stage with
  | checking =>
      simp only [moveImport] at moved
      split at moved
      · next free =>
          cases moved
          simp only [Bool.and_eq_true, Bool.not_eq_true'] at free
          exact attends rfl (.passes free.1 free.2)
      · next taken =>
          cases moved
          have taken : system.executor.device.isNamedBy order.busId = false ∨
              system.flags.busy = true := by
            simpa [Decidable.or_iff_not_imp_left] using taken
          exact attends rfl (.refuses taken)
  | settling =>
      cases moved
      exact attends rfl .settles
  | awaitingRelease job =>
      simp only [moveImport] at moved
      split at moved <;> cases moved
      exact attends rfl (.waits (lacks_of_hasJob ‹_›))
  | startingClaim =>
      cases moved
      have pool : exclusive (system.executor.addJob .claim).2 =
          exclusive system.executor ++ [⟨system.executor.issued, .claim⟩] := exclusive_addJob _ _
      have step := attends rfl (.begins own.lacks)
      rw [show (holding system).jobs = exclusive system.executor from rfl, ← pool] at step
      exact step
  | claiming job => cases moved
  | recording =>
      cases moved
      exact attends rfl .records
  | clearing =>
      cases moved
      exact attends rfl .clears
  | marking =>
      cases moved
      exact attends rfl .marks
  | replying accepted ticket =>
      cases ticket with
      | none =>
          simp only [moveImport, Move.next?, Option.some.injEq] at moved
          subst moved
          obtain ⟨links, frame, -⟩ := standInLine_frame system order.reply
            (.send (importReply system.executor order.version accepted).encode)
          rw [frame]
          exact attends rfl (.stands _)
      | some ticket =>
          simp only [moveImport] at moved
          obtain ⟨socket, guard, socket_eq, ⟨polled, unserved, rfl⟩ |
            ⟨result, done, line, polled, -, served, rfl⟩⟩ := System.pursue_cases moved
          · have told : loopNote? preference system = none := by
              simp [loopNote?, loop_eq, succeeded?, unserved]
            rw [told]
            exact .aside (by simp)
          · have told : loopNote? preference system =
                some (.replied order accepted result.isOk) := by
              simp [loopNote?, loop_eq, succeeded?_eq served]
            have step : HoldingStep (holding system) _ _ := .replies loop_eq result.isOk
            rw [told]
            cases accepted <;> cases result <;> exact step
  | unmarking =>
      cases moved
      exact attends rfl .unmarks
  | unclaiming =>
      cases moved
      have step := attends rfl (.unclaims own.lacks)
      rw [← holding_release] at step
      exact step
  | settlingBack =>
      cases moved
      exact attends rfl .settlesBack
  | awaitingBack job =>
      simp only [moveImport] at moved
      split at moved <;> cases moved
      exact attends rfl (.returns (lacks_of_hasJob ‹_›))
  | confirming accepted =>
      cases moved
      exact attends rfl .confirms

theorem request_holdingStep {preference : Preference} (own : Numbered system.executor)
    (working : system.executor.loop ≠ .idle) (moved : (moveRequest system).next? = some next) :
    HoldingStep (holding system) (loopNote? preference system) (holding next) := by
  unfold moveRequest at moved
  cases loop_eq : system.executor.loop with
  | idle => exact absurd loop_eq working
  | stopped => simp [loop_eq, Move.next?] at moved
  | importing order stage =>
      simp only [loop_eq] at moved
      exact import_holdingStep own loop_eq moved
  | listed slot =>
      have apart : (holding system).loop.order? = none := congrArg LoopStage.order? loop_eq
      have quiet : ∀ what ∈ loopNote? preference system, what.isReply = false :=
        quiet_loopNote? (by simp [loop_eq])
      simp only [loop_eq, Move.next?, Option.some.injEq] at moved
      subst moved
      exact .elsewhere apart (fun _ _ begun => by cases begun) quiet
  | listing version link slot ticket =>
      have apart : (holding system).loop.order? = none := congrArg LoopStage.order? loop_eq
      have quiet : ∀ what ∈ loopNote? preference system, what.isReply = false :=
        quiet_loopNote? (by simp [loop_eq])
      cases ticket with
      | none =>
          simp only [loop_eq, Move.next?, Option.some.injEq] at moved
          subst moved
          obtain ⟨links, frame, -⟩ := standInLine_frame system link
            (.send (Reply.listOf version [system.executor.device]).encode)
          rw [frame]
          exact .elsewhere apart (fun _ _ begun => by cases begun) quiet
      | some ticket =>
          simp only [loop_eq] at moved
          obtain ⟨socket, guard, -, ⟨-, -, rfl⟩ | ⟨result, -, -, -, -, -, rfl⟩⟩ :=
            System.pursue_cases moved
          · exact .aside quiet
          · exact .elsewhere apart (fun _ _ begun => by cases begun) quiet

theorem handleControl_holding (idle : system.executor.loop = .idle)
    (control : Channel ControlRequest) (request : ControlRequest) :
    holding (handleControl { system with control } request) =
      { holding system with loop := .ofRequest request } := by
  unfold handleControl LoopStage.ofRequest
  cases request.command with
  | unknown =>
      show holding system = _
      rw [← idle]
      rfl
  | _ => rfl

theorem LoopStage.checking_of_request {request : ControlRequest} {order : ImportOrder}
    {stage : ImportStage} (begun : LoopStage.ofRequest request = .importing order stage) :
    stage = .checking := by
  unfold LoopStage.ofRequest at begun
  split at begun <;> cases begun
  rfl

theorem loop_holdingStep {preference : Preference} (own : Numbered system.executor)
    (moved : (moveLoop preference system).next? = some next) :
    HoldingStep (holding system) (loopNote? preference system) (holding next) := by
  by_cases idle : system.executor.loop = .idle
  · have quiet : ∀ what ∈ loopNote? preference system, what.isReply = false :=
      quiet_loopNote? (by simp [idle])
    have turn := moveLoop_cases moved
    generalize loopDeed? preference system = deed at turn
    cases turn with
    | @takesControl request control idle taken =>
        have apart : (holding system).loop.order? = none := congrArg LoopStage.order? idle
        rw [handleControl_holding idle]
        exact .elsewhere apart (fun _ _ => LoopStage.checking_of_request) quiet
    | @takesSubmit request data idle taken =>
        obtain ⟨same, loop_eq, -⟩ := sameHold_accept system.executor request
        have device_eq := (accept_desk system.executor request).2.1
        have rests : holding (handleSubmit { system with data } request) = holding system :=
          SameHold.holding_eq same device_eq loop_eq (DeviceFlags.busy_markPending _ _) rfl
        rw [rests]
        exact .aside quiet
    | attends working attends => exact absurd idle working
  · refine request_holdingStep own idle ?_
    unfold moveLoop at moved
    split at moved
    · next eq => exact absurd eq idle
    · next eq => exact absurd eq idle
    · exact moved

/-- The session sees to the interfaces only when it cleans up. -/
theorem DeskStep.cleaning {before after : Desk} {note : Option Note}
    (step : DeskStep before note after)
    (unreset : ∀ link, note ≠ some (.deed (.session link .reset)))
    (unreleased : ∀ link, note ≠ some (.deed (.session link .released))) :
    after.visit.any (·.session.stage.isReleasing) =
      before.visit.any (·.session.stage.isReleasing) := by
  have resumed {visit : Visit} (visit_eq : before.visit = some visit) (yes : Bool) :
      (visit.session.resume (.taken yes)).stage.isReleasing =
        before.visit.any (·.session.stage.isReleasing) := by
    rw [visit_eq]
    exact Session.isReleasing_resume_taken _ yes
  cases step with
  | reads visit_eq wants limits arrival =>
      rw [visit_eq]
      exact Session.isReleasing_receive wants limits arrival
  | asks visit_eq | unposted visit_eq | learns visit_eq | misses visit_eq | givesUp visit_eq =>
      exact resumed visit_eq _
  | waits visit_eq =>
      rw [visit_eq]
      rfl
  | @works visit visit_eq working answer note aside =>
      have unreleasing : visit.session.stage.isReleasing = false := by
        cases stage_eq : visit.session.stage <;>
          first | rfl | (rw [stage_eq] at working; cases working)
      rw [visit_eq]
      refine (Session.isReleasing_resume (fun ending stage_eq => ?_) unreleasing).trans
        unreleasing.symm
      rw [stage_eq] at working
      cases working
  | resets => exact absurd rfl (unreset _)
  | releases => exact absurd rfl (unreleased _)
  | @closes visit visit_eq ending stage_eq done result =>
      have unreleasing : visit.session.stage.isReleasing = false := by rw [stage_eq]; rfl
      rw [visit_eq]
      exact (Session.isReleasing_resume (by simp [stage_eq]) unreleasing).trans unreleasing.symm
  | @departs visit visit_eq ending stage_eq =>
      rw [visit_eq]
      show false = visit.session.stage.isReleasing
      rw [stage_eq]
      rfl
  | serves unvisited link =>
      rw [unvisited]
      rfl
  | _ => rfl

theorem quiet_sessionNote? (system : System (Host Handle)) :
    ∀ what ∈ sessionNote? system, what.isReply = false := by
  unfold sessionNote?
  cases system.visit with
  | none => simp
  | some visit =>
      simp only [Option.bind_some]
      split
      · simp [Note.isReply]
      · simp [Note.isReply]
      · split <;> simp [Note.isReply]

theorem deed?_of_sessionNote? {visit : Visit} (visit_eq : system.visit = some visit)
    {link : LinkId} {deed : Session.Deed}
    (said : sessionNote? system = some (.deed (.session link deed))) :
    system.deed? = some deed := by
  have told := sessionNote?_deed system
  rw [said, visit_eq] at told
  obtain ⟨other, deed_eq, same⟩ := Option.map_eq_some_iff.1 told.symm
  cases same
  exact deed_eq

theorem session_holdingStep (own : Numbered system.executor)
    (moved : system.moveSession.next? = some next) :
    HoldingStep (holding system) (sessionNote? system) (holding next) := by
  obtain ⟨visit, visit_eq, move⟩ := System.moveSession_cases moved
  have step := session_deskStep moved
  by_cases reset : system.deed? = some .reset
  · rw [sessionNote?_some visit_eq reset (by simp)]
    rw [reset] at move
    cases move with
    | reset stage_eq =>
        have cleaning : (visit.session.resume .done).stage.isReleasing = true := by
          simp [Session.resume, stage_eq, Session.Stage.isReleasing]
        have step : HoldingStep (holding system) _ _ := .resets visit.link
        rw [← cleaning] at step
        exact step
  by_cases released : system.deed? = some .released
  · rw [sessionNote?_some visit_eq released (by simp)]
    rw [released] at move
    cases move with
    | released stage_eq =>
        have cleaned : (visit.session.resume .done).stage.isReleasing = false := by
          simp [Session.resume, stage_eq, Session.Stage.isReleasing]
        have step := HoldingStep.cleansUp visit.link own.lacks
        rw [← holding_release, ← cleaned] at step
        exact step
  have unreset (link : LinkId) : sessionNote? system ≠ some (.deed (.session link .reset)) :=
    fun said => reset (deed?_of_sessionNote? visit_eq said)
  have unreleased (link : LinkId) : sessionNote? system ≠ some (.deed (.session link .released)) :=
    fun said => released (deed?_of_sessionNote? visit_eq said)
  obtain ⟨⟨urbs, executor_eq⟩, busy_eq⟩ := Elsewhere.of_session move reset released
  have rests : holding next = holding system := by
    refine SameHold.holding_eq ?_ ?_ ?_ busy_eq (step.cleaning unreset unreleased) <;>
      rw [executor_eq]
    exact ⟨rfl, rfl, rfl, rfl, rfl⟩
  rw [rests]
  exact .aside (quiet_sessionNote? system)

theorem acceptor_holding {server next : Server (Host (Recorded Handle))}
    (moved : server.moveAcceptor.next? = some next) :
    holding next.system = holding server.system := by
  have cleaning := (acceptor_deskStep moved).cleaning (by simp) (by simp)
  obtain ⟨-, ⟨_, _, _, _, rfl⟩ | ⟨_, _, _, _, rfl⟩⟩ := Server.moveAcceptor_cases moved <;>
    exact SameHold.holding_eq ⟨rfl, rfl, rfl, rfl, rfl⟩ rfl rfl rfl cleaning

variable [UsbHandle Handle]

theorem runClaim_eq (host : Host (Recorded Handle)) (id : JobId) :
    host.runClaim id =
      { host.dropJob id with
        handle := (claimAll host.handle host.interfaces).1
        loop := host.loop.afterClaim id (claimAll host.handle host.interfaces).2 } := by
  unfold runClaim LoopStage.afterClaim
  generalize claimAll host.handle host.interfaces = answer
  obtain ⟨handle, success⟩ := answer
  show (match host.loop with | .importing order (.claiming job) => _ | _ => _) = _
  split
  · next order job loop_eq =>
      by_cases here : job = id
      · rw [if_pos here, if_pos here]
      · rw [if_neg here, if_neg here, ← loop_eq]
        rfl
  · rfl

theorem job_holdingStep [Yields Handle] {id : JobId} (own : Numbered system.executor)
    (moved : (moveJob id system).next? = some next) :
    HoldingStep (holding system) ((deed? system (.job id)).map .deed) (holding next) := by
  unfold moveJob at moved
  cases found : system.executor.jobs.find? (·.id == id) with
  | none => simp [found, Move.next?] at moved
  | some job =>
      have mem : job ∈ system.executor.jobs := List.mem_of_find?_eq_some found
      obtain rfl : job.id = id := by simpa using List.find?_some found
      have pool (host : Host (Recorded Handle)) : exclusive (host.dropJob job.id) =
          (exclusive host).filter (·.id != job.id) := exclusive_dropJob _ _
      simp only [found] at moved
      cases task_eq : job.task with
      | claim =>
          have quiet : deed? system (.job job.id) = none := by simp [deed?, begun?, found, task_eq]
          have member : ⟨job.id, .claim⟩ ∈ (holding system).jobs :=
            List.mem_filter.2 ⟨task_eq ▸ mem, rfl⟩
          obtain ⟨calls, calls_eq, pass⟩ :=
            claimPass_claimAll system.executor.handle system.executor.interfaces
          simp only [task_eq] at moved
          split at moved <;> cases moved
          rw [quiet]
          have step := HoldingStep.claims member pass
          show HoldingStep _ _ (holding { system with executor := system.executor.runClaim job.id })
          rw [runClaim_eq]
          show HoldingStep _ _ (Holding.mk _ _ _ _ _ (exclusive (system.executor.dropJob job.id))
            (claimAll system.executor.handle system.executor.interfaces).1.calls _ _)
          rw [pool, calls_eq]
          exact step
      | release numbers =>
          have quiet : deed? system (.job job.id) = none := by simp [deed?, begun?, found, task_eq]
          have member : ⟨job.id, .release numbers⟩ ∈ (holding system).jobs :=
            List.mem_filter.2 ⟨task_eq ▸ mem, rfl⟩
          have calls_eq := calls_releaseAll system.executor.handle numbers
          simp only [task_eq] at moved
          split at moved <;> cases moved
          rw [quiet]
          show HoldingStep _ _ (Holding.mk _ _ _ _ _ (exclusive (system.executor.dropJob job.id))
            (releaseAll system.executor.handle numbers).calls _ _)
          rw [pool, calls_eq]
          exact .frees member
      | transfer place =>
          simp only [task_eq] at moved
          cases moved
          obtain ⟨same, loop_eq⟩ := sameHold_beginTransfer own mem task_eq
          have device_eq : (system.executor.beginTransfer job.id place).device =
              system.executor.device := by
            unfold Host.beginTransfer
            dsimp only
            split
            · split <;> rfl
            · rfl
          have rests : holding (change system (·.beginTransfer job.id place)) = holding system :=
            SameHold.holding_eq same device_eq loop_eq rfl rfl
          rw [rests]
          exact .aside (by simp [Note.isReply])

/-- Whatever happens at a server is one step with the device as a whole. -/
theorem step_holdingStep [Yields Handle] {server next : Server (Host (Recorded Handle))}
    {event : Server.Event Party} (own : Numbered server.system.executor)
    (happened : Server.step company server event = some next) :
    HoldingStep (holding server.system) (note? server event) (holding next.system) := by
  have device_eq := (step_deskStep happened).device_eq.1
  cases event with
  | move party =>
      cases party with
      | acceptor =>
          rw [acceptor_holding happened]
          exact .aside (by simp [note?])
      | inner party =>
          obtain ⟨system, moved, rfl⟩ := Server.inner_of_step happened
          cases party with
          | session => exact session_holdingStep own moved
          | loop preference => exact loop_holdingStep own moved
          | worker id =>
              obtain ⟨worker, worker', rest, worker_eq, move, rfl⟩ := moveWorker_cases moved
              obtain ⟨same, loop_eq, busy_eq, -⟩ := move.sameHold
              have cleaning_eq : (putWorker rest id worker').isCleaning =
                  server.system.isCleaning := congrArg (Option.any _) move.frame.2.2
              have rests := same.holding_eq device_eq loop_eq busy_eq cleaning_eq
              show HoldingStep _ _ (holding (putWorker rest id worker'))
              rw [rests]
              exact .aside (by simp [note?, Note.isReply])
          | job id => exact job_holdingStep own moved
          | transfer id =>
              obtain ⟨worker, request, outcome, -, -, rfl⟩ := finishTransfer_cases moved
              exact .aside (by simp [note?, deed?])
  | _ =>
      obtain rfl := Option.some.inj happened
      exact .aside (by simp [note?])

theorem step_numbered [Yields Handle] {server next : Server (Host (Recorded Handle))}
    {event : Server.Event Party} (own : Numbered server.system.executor)
    (happened : Server.step company server event = some next) :
    Numbered next.system.executor := by
  cases event with
  | move party =>
      cases party with
      | acceptor =>
          obtain ⟨-, ⟨_, _, _, _, rfl⟩ | ⟨_, _, _, _, rfl⟩⟩ :=
            Server.moveAcceptor_cases happened <;> exact own
      | inner party =>
          obtain ⟨system, moved, rfl⟩ := Server.inner_of_step happened
          by_cases session : party = .session
          · subst session
            obtain ⟨visit, -, move⟩ := System.moveSession_cases moved
            have grows : PoolGrows server.system.executor system.executor := by
              generalize server.system.deed? = deed at move
              cases move with
              | released => exact .release _
              | @stood errand wanted unset =>
                  obtain ⟨links, frame, -⟩ := standInLine_frame server.system visit.link errand
                  rw [frame]
                  exact Or.inl ⟨rfl, rfl⟩
              | _ => exact Or.inl ⟨rfl, rfl⟩
            exact own.grow grows
          · exact (move_holdMove session moved).numbered own
  | _ =>
      obtain rfl := Option.some.inj happened
      exact own

end

end Host

end UsbExport

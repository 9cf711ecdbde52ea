import UsbExport.Proofs.Host.Hands
import UsbExport.Proofs.Host.StageMoves

/-!
Which URBs reach the device. The handle keeps a record of the transfers that it is asked for, and
that record tells the URBs whose transfers began, in order. A URB that is on its way to the device
begins its transfer unless its worker passes over it: the device is free, the URB was unlinked, or
nothing can be asked of the device for it.
-/

namespace UsbExport.Host

open Dispatch Socket

variable {Handle : Type}

/-! ### The record of transfers -/

/-- A handle that keeps a record of the transfers that it is asked for. -/
structure Logged (Handle : Type) where
  handle : Handle
  transfers : List Transfer := []

namespace Logged

variable [UsbHandle Handle]

/-- What the handle below answers, with the record as it was. -/
def pass (logged : Logged Handle) (answer : Handle × Except UsbError Unit) :
    Logged Handle × Except UsbError Unit :=
  ({ logged with handle := answer.1 }, answer.2)

instance : UsbHandle (Logged Handle) where
  claim logged number := logged.pass (UsbHandle.claim logged.handle number)
  release logged number := logged.pass (UsbHandle.release logged.handle number)
  transfer logged transfer :=
    let (handle, outcome) := UsbHandle.transfer logged.handle transfer
    (⟨handle, logged.transfers ++ [transfer]⟩, outcome)
  mayFinish logged address := UsbHandle.mayFinish logged.handle address

theorem transfers_releaseAll (logged : Logged Handle) (numbers : List UInt8) :
    (releaseAll logged numbers).transfers = logged.transfers := by
  unfold releaseAll
  induction numbers generalizing logged with
  | nil => rfl
  | cons number numbers ih =>
      rw [List.foldl_cons, ih]
      rfl

theorem transfers_claimAll_go (logged : Logged Handle) (done numbers : List UInt8) :
    (claimAll.go logged done numbers).1.transfers = logged.transfers := by
  induction numbers generalizing logged done with
  | nil => rfl
  | cons number numbers ih =>
      unfold claimAll.go
      have same : (UsbHandle.claim logged number).1.transfers = logged.transfers := rfl
      generalize UsbHandle.claim logged number = answer at same ⊢
      obtain ⟨after, granted | refused⟩ := answer
      · exact (transfers_releaseAll after done).trans same
      · exact (ih after (done ++ [number])).trans same

end Logged

/-! ### What is asked of the device -/

/-- The transfer that is asked for a URB, if one can be. -/
def planned? (host : Host Handle) (request : SubmitRequest) : Option Transfer :=
  (host.plan request.submit).toOption

theorem planned?_congr {host host' : Host Handle} (endpoints_eq : host'.endpoints = host.endpoints)
    (bound_eq : host'.maxTransfer = host.maxTransfer) : host'.planned? = host.planned? := by
  funext request
  unfold planned? plan room
  rw [endpoints_eq, bound_eq]

theorem SameRig.planned?_eq {host host' : Host Handle} (same : SameRig host host') :
    host'.planned? = host.planned? :=
  planned?_congr same.endpoints_eq same.bound_eq

theorem sameRig_release (host : Host Handle) : SameRig host host.release := by
  unfold release
  dsimp only
  split <;> exact ⟨rfl, rfl, rfl⟩

theorem sameRig_accept (host : Host Handle) (request : SubmitRequest) :
    SameRig host (host.accept request) := by
  unfold accept enqueue
  dsimp only
  split <;> exact ⟨rfl, rfl, rfl⟩

section

variable {system next : System (Host Handle)}

theorem SessionMove.sameRig {visit : Visit} {deed : Option Session.Deed}
    (move : system.SessionMove visit deed next) : SameRig system.executor next.executor := by
  cases move with
  | @stood errand wanted unset =>
      obtain ⟨links, frame, -⟩ := standInLine_frame system visit.link errand
      rw [frame]
      exact ⟨rfl, rfl, rfl⟩
  | released stage_eq => exact sameRig_release system.executor
  | _ => exact ⟨rfl, rfl, rfl⟩

theorem RequestMove.sameRig {note : Option Note} (move : RequestMove system note next) :
    SameRig system.executor next.executor := by
  cases move with
  | @listStands version link slot loop_eq =>
      obtain ⟨links, frame, -⟩ := standInLine_frame system link
        (.send (Reply.listOf version [system.executor.device]).encode)
      rw [frame]
      exact ⟨rfl, rfl, rfl⟩
  | @imports order stage note next loop_eq move =>
      cases move with
      | goesOn still => exact ⟨still.rig.handle_eq, still.rig.endpoints_eq, still.rig.bound_eq⟩
      | @stands accepted stage_eq =>
          obtain ⟨links, frame, -⟩ := standInLine_frame system order.reply
            (.send (importReply system.executor order.version accepted).encode)
          rw [frame]
          exact ⟨rfl, rfl, rfl⟩
      | unclaims stage_eq =>
          have same := sameRig_release system.executor
          exact ⟨same.handle_eq, same.endpoints_eq, same.bound_eq⟩
      | _ => exact ⟨rfl, rfl, rfl⟩
  | _ => exact ⟨rfl, rfl, rfl⟩

theorem LoopTurn.sameRig {note : Option Note} (turn : LoopTurn system note next) :
    SameRig system.executor next.executor := by
  cases turn with
  | takesControl idle taken =>
      unfold handleControl
      split <;> exact ⟨rfl, rfl, rfl⟩
  | takesSubmit idle taken => exact sameRig_accept system.executor _
  | attends move => exact move.sameRig

theorem WorkerMove.sameRig {rest : System (Host Handle)} {id : WorkerId} {worker worker' : Worker}
    {deed : Option Deed} (move : WorkerMove system id worker deed worker' rest) :
    SameRig system.executor rest.executor := by
  cases move with
  | @stands link completion stage_eq =>
      obtain ⟨links, frame, -⟩ :=
        standInLine_frame system link (.send (Reply.completed completion).encode)
      rw [frame]
      exact ⟨rfl, rfl, rfl⟩
  | _ => exact ⟨rfl, rfl, rfl⟩

end

/-- What a deed asks of the device. -/
def transfersOf (host : Host Handle) (deed : Option Deed) : List Transfer :=
  ((deed.bind Deed.begun?).bind host.planned?).toList

section

variable [UsbHandle Handle]

theorem runClaim_rig (host : Host (Logged Handle)) (id : JobId) :
    (host.runClaim id).handle.transfers = host.handle.transfers ∧
      (host.runClaim id).endpoints = host.endpoints ∧
      (host.runClaim id).maxTransfer = host.maxTransfer := by
  have claimed := Logged.transfers_claimAll_go host.handle [] host.interfaces
  unfold runClaim
  dsimp only
  split
  · split <;> exact ⟨claimed, rfl, rfl⟩
  · exact ⟨claimed, rfl, rfl⟩

theorem JobMove.transfers {system next : System (Host (Logged Handle))} {id : JobId}
    {deed : Option Deed} (move : JobMove system id deed next) :
    next.executor.handle.transfers =
        system.executor.handle.transfers ++ transfersOf system.executor deed ∧
      next.executor.planned? = system.executor.planned? := by
  cases move with
  | claims =>
      obtain ⟨transfers_eq, endpoints_eq, bound_eq⟩ := runClaim_rig system.executor id
      refine ⟨?_, planned?_congr endpoints_eq bound_eq⟩
      show (system.executor.runClaim id).handle.transfers = _
      rw [transfers_eq]
      exact (List.append_nil _).symm
  | releases numbers =>
      refine ⟨?_, planned?_congr rfl rfl⟩
      show (releaseAll system.executor.handle numbers).transfers = _
      rw [Logged.transfers_releaseAll]
      exact (List.append_nil _).symm
  | passes => exact ⟨(List.append_nil _).symm, planned?_congr rfl rfl⟩
  | fails worker_eq stage_eq unplanned => exact ⟨(List.append_nil _).symm, planned?_congr rfl rfl⟩
  | @begins place worker request transfer worker_eq stage_eq planned =>
      refine ⟨?_, planned?_congr rfl rfl⟩
      have found : system.executor.planned? request = some transfer := by
        rw [planned?, planned]
        rfl
      rw [transfersOf, Option.bind_some, Deed.begun?, Option.bind_some, found]
      rfl

theorem step_transfers {server next : Server (Host (Logged Handle))}
    {event : Server.Event Party} (happened : Server.step company server event = some next) :
    next.system.executor.handle.transfers = server.system.executor.handle.transfers ++
        transfersOf server.system.executor (done? server event) ∧
      next.system.executor.planned? = server.system.executor.planned? := by
  have still {host : Host (Logged Handle)} {deed : Option Deed}
      (same : SameRig server.system.executor host) (unbegun : deed.bind Deed.begun? = none) :
      host.handle.transfers =
          server.system.executor.handle.transfers ++ transfersOf server.system.executor deed ∧
        host.planned? = server.system.executor.planned? := by
    refine ⟨?_, same.planned?_eq⟩
    rw [same.handle_eq, transfersOf, unbegun]
    exact (List.append_nil _).symm
  cases event with
  | move party =>
      cases party with
      | acceptor =>
          have executor_eq : next.system.executor = server.system.executor := by
            obtain ⟨-, ⟨_, _, _, _, rfl⟩ | ⟨_, _, _, _, rfl⟩⟩ :=
              Server.moveAcceptor_cases happened <;> rfl
          rw [executor_eq]
          exact still ⟨rfl, rfl, rfl⟩ rfl
      | inner party =>
          obtain ⟨system, moved, rfl⟩ := Server.inner_of_step happened
          cases party with
          | session =>
              obtain ⟨visit, visit_eq, move⟩ := System.moveSession_cases moved
              refine still (SessionMove.sameRig move) ?_
              rw [done?, deed?, visit_eq, Option.bind_some]
              cases server.system.deed? <;> rfl
          | loop preference =>
              refine still (moveLoop_turn moved).sameRig ?_
              show (loopDeed? preference server.system).bind Deed.begun? = none
              unfold loopDeed?
              split
              · next order stage loop_eq => cases stage <;> rfl
              · cases taken? preference server.system <;> rfl
          | worker id =>
              obtain ⟨worker, worker', rest, worker_eq, move, rfl⟩ := moveWorker_cases moved
              have same := move.sameRig
              refine still ⟨same.handle_eq, same.endpoints_eq, same.bound_eq⟩ ?_
              rw [done?, deed?, worker_eq, Option.bind_some]
              generalize workerDeed? server.system worker = deed at move
              cases move <;> rfl
          | job id => exact (moveJob_cases moved).transfers
          | transfer id =>
              obtain ⟨worker, request, outcome, worker_eq, stage_eq, rfl⟩ :=
                finishTransfer_cases moved
              exact still ⟨rfl, rfl, rfl⟩ rfl
  | _ =>
      obtain rfl := Option.some.inj happened
      exact still ⟨rfl, rfl, rfl⟩ rfl

/-- The record tells the URBs whose transfers began, in order. -/
theorem History.transfers {start last : Server (Host (Logged Handle))} {trace : List Deed}
    (history : History start trace last) :
    last.system.executor.handle.transfers = start.system.executor.handle.transfers ++
        (begun trace).filterMap start.system.executor.planned? ∧
      last.system.executor.planned? = start.system.executor.planned? := by
  induction history with
  | start => exact ⟨(List.append_nil _).symm, rfl⟩
  | @step trace server next history event happened ih =>
      obtain ⟨transfers_eq, planned_eq⟩ := ih
      obtain ⟨grown, kept⟩ := step_transfers happened
      refine ⟨?_, kept.trans planned_eq⟩
      rw [grown, transfers_eq, begun_append, List.filterMap_append, transfersOf, planned_eq,
        List.append_assoc]
      cases (done? server event).bind Deed.begun? with
      | none => rfl
      | some request =>
          rw [Option.bind_some, Option.toList_some, List.filterMap_cons, List.filterMap_nil]
          cases start.system.executor.planned? request <;> rfl

end

/-! ### On the way to the device -/

def Work.unbegun (work : Work) : List SubmitRequest := work.stage.unbegun?.toList ++ work.queue

/-- The URBs whose transfers are still to begin, wherever they wait. -/
def Ledger.unbegun (ledger : Ledger) : List SubmitRequest :=
  ledger.waiting ++ ledger.works.flatMap Work.unbegun

/-- Why a URB is passed over. -/
def PassesOver (system : System (Host Handle)) (request : SubmitRequest) : Prop :=
  system.flags.busy = false ∨ request.seqnum ∈ system.executor.urbs.unlinked ∨
    system.executor.planned? request = none

/-- A URB begins its transfer, stays on its way or is passed over. -/
def Advances (system : System (Host Handle)) (deed : Option Deed) (next : System (Host Handle)) :
    Prop :=
  ∃ passed : List SubmitRequest, (∀ request ∈ passed, PassesOver system request) ∧
    ((ledger system).unbegun ++ (deed.bind Deed.posted?).toList).Perm
      (passed ++ (deed.bind Deed.begun?).toList ++ (ledger next).unbegun)

section

variable {system next rest : System (Host Handle)} {deed : Option Deed}

theorem Advances.rests (waiting_eq : next.data.queue = system.data.queue)
    (works_eq : (ledger next).works = (ledger system).works)
    (unposted : deed.bind Deed.posted? = none) (unbegun : deed.bind Deed.begun? = none) :
    Advances system deed next := by
  have same : (ledger next).unbegun = (ledger system).unbegun := by
    rw [Ledger.unbegun, Ledger.unbegun, works_eq]
    exact congrArg (· ++ _) waiting_eq
  refine ⟨[], List.forall_mem_nil _, ?_⟩
  rw [same, unposted, unbegun]
  simp

/-- One worker goes on, and what it does not hold any more was begun or passed over. -/
theorem Advances.works {id : WorkerId} {worker worker' : Worker} (passed : List SubmitRequest)
    (why : ∀ request ∈ passed, PassesOver system request)
    (worker_eq : system.executor.workers[id]? = some worker) (data_eq : rest.data = system.data)
    (workers_eq : rest.executor.workers = system.executor.workers)
    (unposted : deed.bind Deed.posted? = none)
    (kept : worker.work.unbegun = passed ++ (deed.bind Deed.begun?).toList ++ worker'.work.unbegun) :
    Advances system deed (putWorker rest id worker') := by
  obtain ⟨front, back, works_eq, set_eq⟩ := exists_works worker_eq
  have before : (ledger system).unbegun = system.data.queue ++
      (front.flatMap Work.unbegun ++ (worker.work.unbegun ++ back.flatMap Work.unbegun)) := by
    rw [Ledger.unbegun, show (ledger system).works = _ from works_eq, List.flatMap_append,
      List.flatMap_cons]
    rfl
  have after : (ledger (putWorker rest id worker')).unbegun = system.data.queue ++
      (front.flatMap Work.unbegun ++ (worker'.work.unbegun ++ back.flatMap Work.unbegun)) := by
    have put : (ledger (putWorker rest id worker')).works = front ++ worker'.work :: back := by
      rw [← set_eq, ← workers_eq]
      rfl
    rw [Ledger.unbegun, put, List.flatMap_append, List.flatMap_cons, ← data_eq]
    rfl
  refine ⟨passed, why, ?_⟩
  rw [before, after, unposted, kept, List.perm_iff_count]
  intro request
  simp only [List.count_append, Option.toList_none, List.count_nil]
  omega

theorem session_advances {visit : Visit} {deed : Option Session.Deed}
    (move : system.SessionMove visit deed next) :
    Advances system (deed.map (.session visit.link)) next := by
  have works_eq := SessionMove.works_eq move
  cases move with
  | @posted submit data stage_eq posted =>
      refine ⟨[], List.forall_mem_nil _, ?_⟩
      have waits : (ledger ({ system.resume visit (.taken true) with data })).unbegun =
          system.data.queue ++ [⟨submit, visit.link⟩] ++
            (ledger system).works.flatMap Work.unbegun := by
        rw [Ledger.unbegun, works_eq]
        exact congrArg (· ++ _) (Channel.queue_post posted)
      rw [waits, List.perm_iff_count]
      intro request
      simp only [Ledger.unbegun, ledger, Option.map_some, Option.bind_some, Deed.posted?,
        Deed.begun?, Option.toList_some, Option.toList_none, List.count_append, List.count_nil]
      omega
  | @stood errand wanted unset =>
      obtain ⟨links, frame, -⟩ := standInLine_frame system visit.link errand
      refine .rests ?_ works_eq rfl rfl
      rw [frame]
      rfl
  | _ => exact .rests rfl works_eq rfl rfl

/-- A submit that comes to a worker is still on its way. -/
theorem LedgerStep.unbegun_of_accepted {before after : Ledger} {request : SubmitRequest}
    (step : LedgerStep before (some (.accepted request)) after) :
    before.unbegun.Perm after.unbegun := by
  rw [List.perm_iff_count]
  intro other
  cases step with
  | accepts =>
      simp only [Ledger.unbegun, Work.unbegun, List.flatMap_append, List.flatMap_cons,
        List.count_append, List.count_cons, List.count_nil]
      omega
  | employs =>
      simp only [Ledger.unbegun, Work.unbegun, WorkerStage.unbegun?, List.flatMap_append,
        List.flatMap_cons, List.flatMap_nil, List.count_append, List.count_cons, List.count_nil,
        Option.toList_none]
      omega
  | works step => cases step
  | rests quiet => exact (quiet _ rfl).elim

theorem loop_advances (move : LoopMove system deed next) : Advances system deed next := by
  cases move with
  | @takesControl request control idle taken =>
      unfold handleControl
      split <;> exact .rests rfl rfl rfl rfl
  | @takesSubmit request data idle taken =>
      have step := loop_ledgerStep (.takesSubmit idle taken)
      refine ⟨[], List.forall_mem_nil _, ?_⟩
      rw [show (some (Deed.accepted request)).bind Deed.posted? = none from rfl,
        Option.toList_none, List.append_nil]
      exact step.unbegun_of_accepted
  | attends working attends =>
      refine .rests (by rw [attends.data_eq]) attends.works_eq ?_ ?_ <;>
        rcases attends.urbs_eq with ⟨rfl, -⟩ | ⟨rfl, -⟩ <;> rfl

theorem worker_advances {id : WorkerId} {worker worker' : Worker}
    (worker_eq : system.executor.workers[id]? = some worker)
    (move : WorkerMove system id worker deed worker' rest) :
    Advances system deed (putWorker rest id worker') := by
  obtain ⟨workers_eq, data_eq, -⟩ := move.frame
  have put (passed : List SubmitRequest) (why : ∀ request ∈ passed, PassesOver system request)
      (unposted : deed.bind Deed.posted? = none)
      (kept : worker.work.unbegun =
        passed ++ (deed.bind Deed.begun?).toList ++ worker'.work.unbegun) :
      Advances system deed (putWorker rest id worker') :=
    .works passed why worker_eq data_eq workers_eq unposted kept
  cases move with
  | @skips request queue idle queue_eq skip =>
      refine put [request] (fun other member => ?_) rfl ?_
      · obtain rfl := List.mem_singleton.1 member
        exact skip.imp_right Or.inl
      · rw [Worker.work, Work.unbegun, idle, queue_eq]
        rfl
  | takes idle queue_eq busy wanted =>
      refine put [] (List.forall_mem_nil _) rfl ?_
      rw [Worker.work, Work.unbegun, idle, queue_eq]
      rfl
  | stops idle empty dismissed =>
      refine put [] (List.forall_mem_nil _) rfl ?_
      rw [Worker.work, Work.unbegun, idle]
      rfl
  | turns stage_eq socket_eq polled => exact put [] (List.forall_mem_nil _) rfl rfl
  | _ =>
      refine put [] (List.forall_mem_nil _) rfl ?_
      rw [Worker.work, Work.unbegun, ‹worker.stage = _›]
      rfl

theorem transfer_advances {id : WorkerId} {worker : Worker} {request : SubmitRequest}
    {outcome : Except UsbError Transferred}
    (worker_eq : system.executor.workers[id]? = some worker)
    (stage_eq : worker.stage = .transferring request (some outcome)) {stage : WorkerStage}
    (spent : stage.unbegun? = none) :
    Advances system none (putWorker system id { worker with stage }) := by
  refine Advances.works [] (List.forall_mem_nil _) worker_eq rfl rfl rfl ?_
  rw [Worker.work, Worker.work, Work.unbegun, Work.unbegun, stage_eq, spent]
  rfl

theorem job_advances [UsbHandle Handle] {id : JobId} (move : JobMove system id deed next) :
    Advances system deed next := by
  cases move with
  | claims =>
      have attends := runClaim_attends system id
      exact .rests (by rw [attends.data_eq]) attends.works_eq rfl rfl
  | releases numbers => exact .rests rfl rfl rfl rfl
  | passes => exact .rests rfl rfl rfl rfl
  | @fails place worker request error worker_eq stage_eq unplanned =>
      refine Advances.works [request] (fun other member => ?_) worker_eq rfl rfl rfl ?_
      · obtain rfl := List.mem_singleton.1 member
        refine Or.inr (Or.inr ?_)
        rw [planned?, unplanned]
        rfl
      · rw [Worker.work, Work.unbegun, stage_eq]
        rfl
  | @begins place worker request transfer worker_eq stage_eq planned =>
      refine Advances.works [] (List.forall_mem_nil _) worker_eq rfl rfl rfl ?_
      rw [Worker.work, Work.unbegun, stage_eq]
      rfl

end

theorem Happening.advances [UsbHandle Handle] {server next : Server (Host Handle)}
    {deed : Option Deed} (happening : Happening server deed next) :
    Advances server.system deed next.system := by
  cases happening with
  | session visit_eq move => exact session_advances move
  | executor move =>
      cases move with
      | loop move => exact loop_advances move
      | worker worker_eq move => exact worker_advances worker_eq move
      | job move => exact job_advances move
      | transfer worker_eq stage_eq => exact transfer_advances worker_eq stage_eq rfl
  | _ => exact .rests rfl rfl rfl rfl

end UsbExport.Host

import UsbExport.Proofs.Host.Contents
import UsbExport.Proofs.Host.Order
import UsbExport.Proofs.Session.Leaving
import UsbExport.Proofs.Session.Sizes

/-!
How long things get on their way from a client to the device and back. Main statement: under a
configuration that is accepted, whatever clients send, every submit that is handed on is as long as
it declares, nothing is set aside for it or passed to the device beyond the bound on transfers, and
no length or count is cut when it is put into a word.
-/

namespace UsbExport

open Dispatch Socket

/-- The lengths of a submit come out of words of 64 bits as they are. -/
structure SubmitParams.LengthsFit (params : SubmitParams) (header : UrbHeader) : Prop where
  descriptors : params.descriptorWord.toNat = params.descriptorLength
  payload : (params.payloadWord header).toNat = params.payloadLength header
  skipped : (params.skippedWord header).toNat =
    params.payloadLength header + params.descriptorLength
  frame : (params.frameWord header).toNat =
    Submit.fixedSize + params.payloadLength header + params.descriptorLength

namespace Host

variable {Handle : Type}

/-! ### What is passed to the device -/

/-- A transfer is planned with a buffer that is no longer than the submit declares. -/
theorem bufferSize_le_of_planned {host : Host Handle} {submit : Submit} {transfer : Transfer}
    {bound : Nat} (planned : host.plan submit = .ok transfer) (declared : submit.Declared bound) :
    transfer.bufferSize ≤ submit.params.bufferLength.toNat := by
  rw [(bufferSize_of_planned planned).2]
  split
  · exact declared.data_le
  · exact (hasRoom_room host submit).asked

/-- A count within a bound of 32 bits is put into a word as it is. -/
theorem toNat_count {bound count : Nat} (small : bound < UInt32.size) (le : count ≤ bound) :
    count.toUInt32.toNat = count :=
  Nat.mod_eq_of_lt (Nat.lt_of_le_of_lt le small)

/-! ### From stage to stage -/

/-- What the device has moved for a worker, and what the worker reports of it. -/
def WorkerStage.Sized (bound : Nat) : WorkerStage → Prop
  | .transferring _ (some (.ok moved)) => moved.count ≤ bound ∧ moved.data.length ≤ moved.count
  | .retiring _ (some completion) | .replying _ completion _ =>
      completion.actualLength.toNat ≤ bound ∧
        completion.data.length ≤ completion.actualLength.toNat
  | _ => True

theorem sized_of_collected {bound : Nat} {transfer : Transfer} {moved : Transferred}
    (within : transfer.bufferSize ≤ bound) (counted : moved.count ≤ transfer.bufferSize) :
    (transfer.collect moved).count ≤ bound ∧
      (transfer.collect moved).data.length ≤ (transfer.collect moved).count := by
  refine ⟨Nat.le_trans counted within, ?_⟩
  rw [length_collect counted]
  split
  · exact Nat.le_refl _
  · exact Nat.zero_le _

variable [UsbHandle Handle]

theorem StageMove.sized (measured : Measured Handle) {bound : Nat} (small : bound < UInt32.size)
    {system : System (Host Handle)} {before after : WorkerStage}
    (move : StageMove system before after)
    (declared : ∀ request ∈ before.request?, request.submit.Declared bound)
    (sized : before.Sized bound) : after.Sized bound := by
  cases move with
  | fails unplanned => exact ⟨Nat.zero_le _, Nat.zero_le _⟩
  | @begins request transfer planned =>
      have within := Nat.le_trans (bufferSize_le_of_planned planned (declared request rfl))
        (declared request rfl).buffer_le
      cases result : (UsbHandle.transfer system.executor.handle transfer).2 with
      | error error => trivial
      | ok moved => exact sized_of_collected within (measured _ _ _ result)
  | @ends request outcome =>
      cases outcome with
      | error error => exact ⟨Nat.zero_le _, Nat.zero_le _⟩
      | ok moved =>
          obtain ⟨count_le, data_le⟩ := sized
          have count_eq := toNat_count small count_le
          show moved.count.toUInt32.toNat ≤ bound ∧ moved.data.length ≤ moved.count.toUInt32.toNat
          rw [count_eq]
          exact ⟨count_le, data_le⟩
  | reports => exact sized
  | stands => exact sized
  | _ => trivial

/-! ### All along a run -/

/-- The configuration stays, and a session keeps to the bound in it with all that it hands on. -/
structure Heedful (config : Config) (trace : List Deed) (server : Server (Host Handle)) :
    Prop where
  config_eq : server.system.config = config
  sized : ∀ visit, server.system.visit = some visit →
    visit.session.stage.Sized config.maxTransfer
  offered : ∀ link submit taken, .session link (.offered submit taken) ∈ trace →
    submit.Declared config.maxTransfer

theorem Heedful.happening {config : Config} {trace : List Deed} {server next : Server (Host Handle)}
    {deed : Option Deed} (heedful : Heedful config trace server)
    (happening : Happening server deed next) : Heedful config (trace ++ deed.toList) next := by
  have silent (unoffered : ∀ link what, deed ≠ some (.session link what)) (link : LinkId)
      (submit : Submit) (taken : Bool)
      (member : .session link (.offered submit taken) ∈ trace ++ deed.toList) :
      submit.Declared config.maxTransfer := by
    rcases List.mem_append.1 member with earlier | now
    · exact heedful.offered link submit taken earlier
    · exact absurd (Option.mem_toList.1 now) (unoffered _ _)
  cases happening with
  | @session visit deed next visit_eq move =>
      have limits := heedful.config_eq
      obtain ⟨config_eq, -⟩ := move.leavesWith visit_eq
      obtain ⟨⟨visit', visit_eq', sized⟩, offered⟩ :=
        move.sized visit_eq (limits ▸ heedful.sized visit visit_eq)
      rw [limits] at sized offered
      refine ⟨config_eq.trans limits, fun other other_eq => ?_, fun link submit taken member => ?_⟩
      · obtain rfl := Option.some.inj (other_eq.symm.trans visit_eq')
        exact sized
      · rcases List.mem_append.1 member with earlier | now
        · exact heedful.offered link submit taken earlier
        · obtain ⟨what, deed_eq, same⟩ := Option.map_eq_some_iff.1 (Option.mem_toList.1 now)
          cases same
          exact offered submit taken deed_eq
  | executor move =>
      have kept := silent move.ne_session
      rcases move.takes_or_proceeds with ⟨request, control, loop, -, -, rfl, -⟩ | proceeds
      · exact ⟨heedful.config_eq, heedful.sized, kept⟩
      · refine ⟨proceeds.config_eq.trans heedful.config_eq, fun visit visit_eq => ?_, kept⟩
        exact heedful.sized visit (proceeds.visit_eq ▸ visit_eq)
  | departs visit_eq ended isStopped =>
      exact ⟨heedful.config_eq, fun visit visit_eq => absurd visit_eq (by simp), silent (by simp)⟩
  | serves unvisited line_eq =>
      refine ⟨heedful.config_eq, fun visit visit_eq => ?_, silent (by simp)⟩
      obtain rfl := Option.some.inj visit_eq
      exact ⟨trivial, Nat.zero_le _⟩
  | connects guard => exact ⟨heedful.config_eq, heedful.sized, silent (by simp)⟩
  | around length_eq now => exact ⟨heedful.config_eq, heedful.sized, silent (by simp)⟩

namespace History

variable {start server : Server (Host Handle)} {trace : List Deed}

theorem heedful (history : History start trace server) (fresh : Fresh start) :
    Heedful start.system.config trace server := by
  refine history.invariant (Heedful start.system.config) ?_ fun _ _ _ _ => Heedful.happening
  refine ⟨rfl, fun visit visit_eq => ?_, by simp⟩
  rw [fresh.unvisited] at visit_eq
  cases visit_eq

/-- Every URB that the executor holds is one that a session has handed on. -/
theorem declared_of_held (history : History start trace server) (fresh : Fresh start)
    {request : SubmitRequest} (held : request ∈ (ledger server.system).held) :
    request.submit.Declared start.system.config.maxTransfer := by
  obtain ⟨deed, member, found⟩ :=
    List.mem_filterMap.1 (history.mem_posted_of_held fresh held)
  rw [Deed.eq_of_posted? found] at member
  exact (history.heedful fresh).offered _ _ _ member

theorem declared_of_work (history : History start trace server) (fresh : Fresh start)
    {work : Work} (member : work ∈ (ledger server.system).works) :
    ∀ request ∈ work.stage.request?, request.submit.Declared start.system.config.maxTransfer := by
  intro request mem
  refine history.declared_of_held fresh (List.mem_append_right _ ?_)
  exact List.mem_flatMap.2 ⟨work, member, List.mem_append_left _ (Option.mem_toList.2 mem)⟩

theorem works_sized (history : History start trace server) (fresh : Fresh start)
    (measured : Measured Handle) (small : start.system.config.maxTransfer < UInt32.size) :
    ∀ work ∈ (ledger server.system).works,
      work.stage.Sized start.system.config.maxTransfer := by
  induction history with
  | start => simp [fresh.ledger_eq]
  | step history event happened ih =>
      intro work member
      rcases (step_happening happened).cameFrom work member with
        idle | ⟨earlier, found, same | move⟩
      · rw [idle]
        trivial
      · rw [← same]
        exact ih earlier found
      · exact move.sized measured small (history.declared_of_work fresh found) (ih earlier found)

end History

/-- How a run keeps to a bound on transfers. -/
structure Bounded (bound : Nat) (trace : List Deed) (server : Server (Host Handle)) : Prop where
  /-- A submit that is handed on, whether or not there is room for it in the data channel. -/
  offered : ∀ link submit taken, .session link (.offered submit taken) ∈ trace →
    submit.Declared bound ∧ submit.data.length ≤ bound
  /-- What is set aside for a part is enough for what comes in. -/
  collected : ∀ visit part got, server.system.visit = some visit →
    visit.session.stage = .collecting part got →
      got.length ≤ part.size ∧ (part.isDeclared = true → part.size ≤ bound)
  /-- What is left to be read past fits a word. -/
  skipped : ∀ visit left, server.system.visit = some visit →
    visit.session.stage = .skipping left → left < UInt64.size
  /-- The buffer that is made for a transfer before anything is known of its endpoint. -/
  made : ∀ work ∈ (ledger server.system).works, ∀ request,
    work.stage = .transferring request none →
      server.system.executor.room request.submit ≤ request.submit.params.bufferLength.toNat ∧
        request.submit.params.bufferLength.toNat ≤ bound
  /-- The buffer of a call, and what the device may say it has moved. -/
  called : ∀ work ∈ (ledger server.system).works, ∀ request transfer,
    work.stage = .transferring request none →
    server.system.executor.plan request.submit = .ok transfer →
      transfer.bufferSize =
          (if request.submit.header.isOut then request.submit.data.length
            else server.system.executor.room request.submit) ∧
        transfer.bufferSize ≤ bound ∧
        ∀ moved, (UsbHandle.transfer server.system.executor.handle transfer).2 = .ok moved →
          moved.count ≤ transfer.bufferSize ∧ moved.count.toUInt32.toNat = moved.count
  /-- What is kept of a call. -/
  moved : ∀ work ∈ (ledger server.system).works, ∀ request moved,
    work.stage = .transferring request (some (.ok moved)) →
      moved.data.length ≤ moved.count ∧ moved.count ≤ bound ∧
        (completion request.seqnum (.ok moved)).actualLength.toNat = moved.count
  /-- What is reported of it. -/
  reported : ∀ work ∈ (ledger server.system).works, ∀ link completion ticket,
    work.stage = .replying link completion ticket →
      completion.data.length ≤ completion.actualLength.toNat ∧
        completion.actualLength.toNat ≤ bound

/-- Nothing gets longer than the bound, and no length is cut. -/
theorem sizes_within_bounds {start server : Server (Host Handle)} {trace : List Deed}
    (measured : Measured Handle) (fresh : Fresh start)
    (accepted : start.system.config.check = .ok ()) (history : History start trace server) :
    Bounded start.system.config.maxTransfer trace server ∧
      start.system.config.maxTransfer < UInt32.size ∧
      ∀ (params : SubmitParams) (header : UrbHeader), params.LengthsFit header := by
  have small : start.system.config.maxTransfer < UInt32.size :=
    Nat.lt_of_le_of_lt (Config.maxTransfer_le_of_check accepted).2 (by decide)
  have heedful := history.heedful fresh
  have sized := history.works_sized fresh measured small
  refine ⟨⟨?_, ?_, ?_, ?_, ?_, ?_, ?_⟩, small, fun params header => ?_⟩
  · intro link submit taken member
    have declared := heedful.offered link submit taken member
    exact ⟨declared, Nat.le_trans declared.data_le declared.buffer_le⟩
  · intro visit part got visit_eq stage_eq
    have session := heedful.sized visit visit_eq
    rw [stage_eq] at session
    exact ⟨session.2, session.1.size_le⟩
  · intro visit left visit_eq stage_eq
    have session := heedful.sized visit visit_eq
    rw [stage_eq] at session
    exact session
  · intro work member request stage_eq
    have declared := history.declared_of_work fresh member request (by rw [stage_eq]; rfl)
    exact ⟨(hasRoom_room _ _).asked, declared.buffer_le⟩
  · intro work member request transfer stage_eq planned
    have declared := history.declared_of_work fresh member request (by rw [stage_eq]; rfl)
    have within := Nat.le_trans (bufferSize_le_of_planned planned declared) declared.buffer_le
    refine ⟨(bufferSize_of_planned planned).2, within, fun moved result => ?_⟩
    have counted := measured _ _ _ result
    exact ⟨counted, toNat_count small (Nat.le_trans counted within)⟩
  · intro work member request moved stage_eq
    have kept := sized work member
    rw [stage_eq] at kept
    exact ⟨kept.2, kept.1, toNat_count small kept.1⟩
  · intro work member link completion ticket stage_eq
    have kept := sized work member
    rw [stage_eq] at kept
    exact ⟨kept.2, kept.1⟩
  · exact ⟨params.toNat_descriptorWord, params.toNat_payloadWord header,
      params.toNat_skippedWord header, params.toNat_frameWord header⟩

/-- The fixed parts of a submit that declares 2048 bytes and a packet. -/
def twoKilobytes : Bytes :=
  UrbHeader.encode ⟨1, 8, 1, 0, 2⟩ ++ SubmitParams.encode ⟨0, 2048, 0, 1, 0, .zero 8⟩

/-- A client that has the device sends a submit, and then one that is beyond the bound. -/
def shortAndLong : List Deed × Server (Host Placid) :=
  follow placid (firstImport ++ [.arrive 0 (placidSubmit.encode ++ twoKilobytes)] ++
    sessionMoves 8 ++ moves [.loop .data, .worker 0, .job 1])

/-- The first one is with the device; the bytes of the other one are going to be read past. -/
theorem sizes_within_bounds_of_short_and_long :
    posted shortAndLong.1 = [⟨placidSubmit, 0⟩] ∧
      shortAndLong.2.system.visit.map (·.session.stage) = some (.skipping 2064) ∧
      shortAndLong.2.system.executor.workers.map (fun worker => match worker.stage with
        | .transferring request (some (.ok moved)) => some (request.seqnum, moved.count)
        | _ => none) = [some (7, 1)] ∧
      Bounded 1024 shortAndLong.1 shortAndLong.2 := by
  have measured : Measured Placid := by
    rintro handle transfer moved ⟨⟩
    exact Nat.le_refl _
  have accepted : placid.system.config.check = .ok () := by decide
  exact ⟨by decide +kernel, by decide +kernel, by decide +kernel,
    (sizes_within_bounds measured fresh_placid accepted (history_follow placid _)).1⟩

end Host

end UsbExport

import UsbExport.Proofs.Host.Completions

/-!
What the flag of an endpoint number says of the URBs in hand. One flag stands for any number of
them: it is raised when one comes in, and the first one that leaves lowers it. Main statement: a
flag that is up has a URB behind it, and the flags tell who has URBs in hand exactly as long as none
is lowered early.
-/

namespace UsbExport

/-- The endpoint number of a URB, without its direction. -/
def Dispatch.SubmitRequest.endpoint (request : Dispatch.SubmitRequest) : Nat :=
  request.submit.header.endpoint.toNat

namespace Host

open Dispatch Socket

variable {Handle : Type}

/-! ### The flag along a run -/

/-- What a deed makes of the flag of an endpoint number. -/
def Deed.flag (endpoint : Nat) (up : Bool) : Deed → Bool
  | .accepted request => request.endpoint == endpoint || up
  | .retired request => request.endpoint != endpoint && up
  | .session _ .reset => false
  | _ => up

/-- The last deed that concerns the flag decides. -/
def flagAfter (endpoint : Nat) (up : Bool) (trace : List Deed) : Bool :=
  trace.foldl (Deed.flag endpoint) up

def Deed.Raises (endpoint : Nat) : Deed → Prop
  | .accepted request => request.endpoint = endpoint
  | _ => False

def Deed.Lowers (endpoint : Nat) : Deed → Prop
  | .retired request => request.endpoint = endpoint
  | .session _ .reset => True
  | _ => False

theorem flagAfter_append (endpoint : Nat) (up : Bool) (earlier later : List Deed) :
    flagAfter endpoint up (earlier ++ later) =
      flagAfter endpoint (flagAfter endpoint up earlier) later :=
  List.foldl_append

section

variable {endpoint : Nat} {up : Bool} {deed : Deed}

theorem Deed.flag_of_raises (raises : deed.Raises endpoint) : deed.flag endpoint up = true := by
  cases deed with
  | accepted request =>
      have same : request.endpoint = endpoint := raises
      simp [flag, same]
  | _ => exact raises.elim

theorem Deed.flag_of_lowers (lowers : deed.Lowers endpoint) : deed.flag endpoint up = false := by
  cases deed with
  | retired request =>
      have same : request.endpoint = endpoint := lowers
      simp [flag, same]
  | session link what => cases what <;> first | rfl | exact lowers.elim
  | _ => exact lowers.elim

theorem Deed.Lowers.not_raises (lowers : deed.Lowers endpoint) : ¬deed.Raises endpoint := by
  cases deed with
  | accepted request => exact lowers.elim
  | _ => exact not_false

/-- Any other deed leaves the flag as it is. -/
theorem Deed.flag_of_neither (unraised : ¬deed.Raises endpoint)
    (unlowered : ¬deed.Lowers endpoint) : deed.flag endpoint up = up := by
  cases deed with
  | accepted request =>
      have other : request.endpoint ≠ endpoint := unraised
      simp [flag, other]
  | retired request =>
      have other : request.endpoint ≠ endpoint := unlowered
      simp [flag, other]
  | session link what => cases what <;> first | rfl | exact absurd trivial unlowered
  | _ => rfl

theorem flagAfter_of_unraised {trace : List Deed}
    (unraised : ∀ deed ∈ trace, ¬deed.Raises endpoint) :
    flagAfter endpoint false trace = false := by
  induction trace with
  | nil => rfl
  | cons deed trace ih =>
      have here : deed.flag endpoint false = false := by
        by_cases lowers : deed.Lowers endpoint
        · exact Deed.flag_of_lowers lowers
        · exact Deed.flag_of_neither (unraised deed List.mem_cons_self) lowers
      rw [flagAfter, List.foldl_cons, here]
      exact ih fun other member => unraised other (List.mem_cons_of_mem _ member)

/-- Where a flag is down at the end, it was never raised, or it was lowered after that. -/
theorem lowered_of_flagAfter {trace : List Deed} (down : flagAfter endpoint false trace = false) :
    (∀ deed ∈ trace, ¬deed.Raises endpoint) ∨
      ∃ earlier lowering later, trace = earlier ++ lowering :: later ∧ lowering.Lowers endpoint ∧
        ∀ deed ∈ later, ¬deed.Raises endpoint := by
  -- From the end backwards: the last deed raises, lowers, or leaves it to those before.
  induction trace using List.reverseRecOn with
  | nil => exact Or.inl nofun
  | append_singleton trace last ih =>
      rw [flagAfter_append] at down
      have unraised : ¬last.Raises endpoint := fun raises => by
        have up : flagAfter endpoint (flagAfter endpoint false trace) [last] = true :=
          Deed.flag_of_raises raises
        rw [up] at down
        cases down
      by_cases lowers : last.Lowers endpoint
      · exact Or.inr ⟨trace, last, [], rfl, lowers, nofun⟩
      · have down' : flagAfter endpoint false trace = false :=
          (Deed.flag_of_neither unraised lowers).symm.trans down
        rcases ih down' with never | ⟨earlier, lowering, later, rfl, lowers', quiet⟩
        · refine Or.inl fun deed member => ?_
          rcases List.mem_append.1 member with member | member
          · exact never deed member
          · rwa [List.mem_singleton.1 member]
        · refine Or.inr
            ⟨earlier, lowering, later ++ [last], by simp, lowers', fun deed member => ?_⟩
          rcases List.mem_append.1 member with member | member
          · exact quiet deed member
          · rwa [List.mem_singleton.1 member]

end

/-! ### Every event does to the flag what its deed says -/

/-- With a control request in hand no endpoint is marked and none is cleared. -/
theorem RequestMove.flags {system next : System (Host Handle)} {note : Option Note}
    (move : RequestMove system note next) (endpoint : Nat) :
    next.flags.isPending endpoint = system.flags.isPending endpoint ∧
      ∀ up, flagAfter endpoint up (note.bind Note.deed?).toList = up := by
  cases move with
  | @listStands version link slot loop_eq =>
      obtain ⟨links, frame, -⟩ := standInLine_frame system link
        (.send (Reply.listOf version [system.executor.device]).encode)
      rw [frame]
      exact ⟨rfl, fun _ => rfl⟩
  | @imports order stage note next loop_eq move =>
      cases move with
      | goesOn => exact ⟨rfl, fun _ => by cases stage <;> rfl⟩
      | @stands accepted stage_eq =>
          obtain ⟨links, frame, -⟩ := standInLine_frame system order.reply
            (.send (importReply system.executor order.version accepted).encode)
          rw [frame]
          exact ⟨rfl, fun _ => rfl⟩
      | _ => exact ⟨rfl, fun _ => rfl⟩
  | _ => exact ⟨rfl, fun _ => rfl⟩

theorem LoopTurn.flags {system next : System (Host Handle)} {note : Option Note}
    (turn : LoopTurn system note next) {endpoint : Nat} (short : endpoint < endpointCount) :
    next.flags.isPending endpoint =
      flagAfter endpoint (system.flags.isPending endpoint) (note.bind Note.deed?).toList := by
  cases turn with
  | @takesControl request control idle taken =>
      show (handleControl { system with control } request).flags.isPending endpoint = _
      unfold handleControl
      split <;> rfl
  | @takesSubmit request data idle taken =>
      show (system.flags.markPending request.endpoint).isPending endpoint =
        (request.endpoint == endpoint || system.flags.isPending endpoint)
      rw [Bool.eq_iff_iff, DeviceFlags.isPending_markPending, Bool.or_eq_true, beq_iff_eq]
      constructor
      · rintro (⟨-, rfl⟩ | up)
        · exact Or.inl rfl
        · exact Or.inr up
      · rintro (rfl | up)
        · exact Or.inl ⟨short, rfl⟩
        · exact Or.inr up
  | attends move =>
      obtain ⟨same, quiet⟩ := move.flags endpoint
      rw [same, quiet]

theorem WorkerMove.flags {system rest : System (Host Handle)} {id : WorkerId}
    {worker worker' : Worker} {deed : Option Deed}
    (move : WorkerMove system id worker deed worker' rest) (endpoint : Nat) :
    rest.flags.isPending endpoint =
      flagAfter endpoint (system.flags.isPending endpoint) deed.toList := by
  have cleared (request : SubmitRequest) :
      (system.flags.clearPending request.endpoint).isPending endpoint =
        (request.endpoint != endpoint && system.flags.isPending endpoint) := by
    rw [Bool.eq_iff_iff, DeviceFlags.isPending_clearPending, Bool.and_eq_true, bne_iff_ne, and_comm,
      ne_comm]
  cases move with
  | drops => exact cleared _
  | reports => exact cleared _
  | @stands link completion stage_eq =>
      obtain ⟨links, frame, -⟩ :=
        standInLine_frame system link (.send (Reply.completed completion).encode)
      rw [frame]
      rfl
  | _ => rfl

theorem session_flags {system next : System (Host Handle)} {visit : Visit}
    {deed : Option Session.Deed} (move : system.SessionMove visit deed next) (endpoint : Nat) :
    next.flags.isPending endpoint = flagAfter endpoint (system.flags.isPending endpoint)
      (deed.map (Deed.session visit.link)).toList := by
  cases move with
  | @stood errand wanted unset =>
      obtain ⟨links, frame, -⟩ := standInLine_frame system visit.link errand
      rw [frame]
      rfl
  | _ => rfl

theorem JobMove.flags [UsbHandle Handle] {system next : System (Host Handle)} {id : JobId}
    {deed : Option Deed} (move : JobMove system id deed next) (endpoint : Nat) :
    next.flags.isPending endpoint =
      flagAfter endpoint (system.flags.isPending endpoint) deed.toList := by
  cases move <;> rfl

theorem acceptor_flags {server next : Server (Host Handle)}
    (moved : server.moveAcceptor.next? = some next) : next.system.flags = server.system.flags := by
  obtain ⟨-, ⟨_, _, _, _, rfl⟩ | ⟨_, _, _, _, rfl⟩⟩ := Server.moveAcceptor_cases moved <;> rfl

theorem step_flags [UsbHandle Handle] {server next : Server (Host Handle)}
    {event : Server.Event Party} (happened : Server.step company server event = some next)
    {endpoint : Nat} (short : endpoint < endpointCount) :
    next.system.flags.isPending endpoint =
      flagAfter endpoint (server.system.flags.isPending endpoint) (done? server event).toList := by
  cases event with
  | move party =>
      cases party with
      | acceptor => rw [acceptor_flags happened]; rfl
      | inner party =>
          obtain ⟨system, moved, rfl⟩ := Server.inner_of_step happened
          cases party with
          | session =>
              obtain ⟨visit, visit_eq, move⟩ := System.moveSession_cases moved
              rw [done?, deed?, visit_eq]
              exact session_flags move endpoint
          | loop preference =>
              rw [← note?_deed]
              exact (moveLoop_turn moved).flags short
          | worker id =>
              obtain ⟨worker, worker', rest, worker_eq, move, rfl⟩ := moveWorker_cases moved
              rw [done?, deed?, worker_eq]
              exact move.flags endpoint
          | job id => exact (moveJob_cases moved).flags endpoint
          | transfer id =>
              obtain ⟨worker, request, outcome, worker_eq, stage_eq, rfl⟩ :=
                finishTransfer_cases moved
              rfl
  | _ =>
      obtain rfl := Option.some.inj happened
      rfl

/-! ### The flag and the URBs in hand -/

/-- Some URB of the endpoint number was taken in and has not left the books. -/
def InHand (endpoint : Nat) (system : System (Host Handle)) : Prop :=
  ∃ request ∈ (ledger system).employed, request.endpoint = endpoint

/-- How many of the URBs are of an endpoint number. -/
def countOf (endpoint : Nat) (requests : List SubmitRequest) : Nat :=
  requests.countP (·.endpoint == endpoint)

def accepted (trace : List Deed) : List SubmitRequest := trace.filterMap Deed.accepted?

/-- The flag was lowered while more URBs of its number had come than have left to this day, and none
has come since. -/
def LoweredEarly (endpoint : Nat) (trace : List Deed) : Prop :=
  ∃ earlier lowering later, trace = earlier ++ lowering :: later ∧ lowering.Lowers endpoint ∧
    (∀ deed ∈ later, ¬deed.Raises endpoint) ∧
    countOf endpoint (retired trace) < countOf endpoint (accepted earlier)

theorem accepted_append (earlier later : List Deed) :
    accepted (earlier ++ later) = accepted earlier ++ accepted later :=
  List.filterMap_append

theorem countOf_accepted_of_unraised {endpoint : Nat} {trace : List Deed}
    (unraised : ∀ deed ∈ trace, ¬deed.Raises endpoint) : countOf endpoint (accepted trace) = 0 := by
  refine List.countP_eq_zero.2 fun request member => ?_
  obtain ⟨deed, found, eq⟩ := List.mem_filterMap.1 member
  have other := unraised deed found
  cases deed with
  | accepted request' =>
      cases eq
      have other : request.endpoint ≠ endpoint := other
      simpa using other
  | _ => cases eq

theorem countOf_append (endpoint : Nat) (front back : List SubmitRequest) :
    countOf endpoint (front ++ back) = countOf endpoint front + countOf endpoint back :=
  List.countP_append

theorem inHand_iff {endpoint : Nat} {system : System (Host Handle)} :
    InHand endpoint system ↔ 0 < countOf endpoint (ledger system).employed := by
  simp [InHand, countOf]

section

variable [UsbHandle Handle] {start last : Server (Host Handle)} {trace : List Deed} {endpoint : Nat}

/-- What was in hand at the start or taken in since has left the books or is in hand. -/
theorem History.employed_perm (history : History start trace last) :
    ((ledger start.system).employed ++ accepted trace).Perm
      (retired trace ++ (ledger last.system).employed) := by
  refine history.invariant (fun trace server => ((ledger start.system).employed ++
    accepted trace).Perm (retired trace ++ (ledger server.system).employed)) ?_ ?_
  · exact .of_eq (List.append_nil _)
  · intro trace server deed next ih happening
    have step := happening.ledgerStep.employed_perm
    have told : accepted (trace ++ deed.toList) =
        accepted trace ++ (deed.bind Deed.accepted?).toList :=
      filterMap_append_toList Deed.accepted? trace deed
    rw [told, retired_append, List.append_assoc, ← List.append_assoc (ledger start.system).employed]
    calc (ledger start.system).employed ++ accepted trace ++ (deed.bind Deed.accepted?).toList
        |>.Perm (retired trace ++ ((ledger server.system).employed ++
          (deed.bind Deed.accepted?).toList)) := by
          rw [← List.append_assoc]
          exact ih.append_right _
      _ |>.Perm _ := step.append_left _

theorem History.countOf_employed (history : History start trace last)
    (unemployed : (ledger start.system).employed = []) (endpoint : Nat) :
    countOf endpoint (accepted trace) =
      countOf endpoint (retired trace) + countOf endpoint (ledger last.system).employed := by
  have kept := history.employed_perm
  rw [unemployed, List.nil_append] at kept
  rw [countOf, kept.countP_eq]
  exact countOf_append _ _ _

theorem History.flag_eq (history : History start trace last) (short : endpoint < endpointCount) :
    last.system.flags.isPending endpoint =
      flagAfter endpoint (start.system.flags.isPending endpoint) trace := by
  induction history with
  | start => rfl
  | step history event happened ih => rw [step_flags happened short, ih, ← flagAfter_append]

/-- A flag that was down at the start is up for a URB that came in since and is in hand. -/
theorem History.inHand_of_flag (history : History start trace last)
    (up : flagAfter endpoint false trace = true) : InHand endpoint last.system := by
  revert up
  refine history.invariant (fun trace server =>
    flagAfter endpoint false trace = true → InHand endpoint server.system) nofun ?_
  intro trace server deed next ih happening up
  have perm := happening.ledgerStep.employed_perm
  have kept {request : SubmitRequest} (employed : request ∈ (ledger server.system).employed)
      (unretired : request ∉ deed.bind Deed.retired?) :
      request ∈ (ledger next.system).employed := by
    refine (List.mem_append.1 (perm.mem_iff.1 (List.mem_append_left _ employed))).resolve_left ?_
    rwa [Option.mem_toList]
  cases deed with
  | none =>
      obtain ⟨request, employed, same⟩ := ih (by simpa using up)
      exact ⟨request, kept employed nofun, same⟩
  | some what =>
      rw [flagAfter_append] at up
      by_cases raises : what.Raises endpoint
      · cases what with
        | accepted request =>
            have employed : request ∈ (ledger next.system).employed := by
              refine (perm.mem_iff (a := request)).1 ?_
              simp [Deed.accepted?]
            exact ⟨request, employed, raises⟩
        | _ => exact raises.elim
      · have unlowered : ¬what.Lowers endpoint := fun lowers =>
          Bool.false_ne_true ((Deed.flag_of_lowers lowers).symm.trans up)
        obtain ⟨request, employed, same⟩ :=
          ih ((Deed.flag_of_neither raises unlowered).symm.trans up)
        refine ⟨request, kept employed fun gone => unlowered ?_, same⟩
        cases what with
        | retired other =>
            cases gone
            exact same
        | _ => cases gone

/-- A flag that was down at the start and is down has URBs in hand exactly if it was lowered
early. -/
theorem History.inHand_iff_of_down (history : History start trace last)
    (unemployed : (ledger start.system).employed = [])
    (down : flagAfter endpoint false trace = false) :
    InHand endpoint last.system ↔ LoweredEarly endpoint trace := by
  have balance := history.countOf_employed unemployed endpoint
  rw [inHand_iff]
  constructor
  · intro some
    rcases lowered_of_flagAfter down with never | ⟨earlier, lowering, later, rfl, lowers, quiet⟩
    · have none := countOf_accepted_of_unraised never
      omega
    · refine ⟨earlier, lowering, later, rfl, lowers, quiet, ?_⟩
      have none : countOf endpoint (accepted (lowering :: later)) = 0 := by
        refine countOf_accepted_of_unraised fun deed member => ?_
        rcases List.mem_cons.1 member with rfl | member
        · exact lowers.not_raises
        · exact quiet deed member
      rw [accepted_append, countOf_append] at balance
      omega
  · rintro ⟨earlier, lowering, later, rfl, -, -, fewer⟩
    have more : countOf endpoint (accepted (earlier ++ lowering :: later)) =
        countOf endpoint (accepted earlier) + countOf endpoint (accepted (lowering :: later)) := by
      rw [accepted_append, countOf_append]
    omega

/-- From a state with no URBs in hand and the flag of an endpoint number down: the flag is up only
if there is a URB of this number in hand, and it is up exactly if there is, unless it was lowered
early. -/
theorem isPending_exact_iff_not_loweredEarly (history : History start trace last)
    (unemployed : (ledger start.system).employed = [])
    (unset : start.system.flags.isPending endpoint = false) (short : endpoint < endpointCount) :
    (last.system.flags.isPending endpoint = true → InHand endpoint last.system) ∧
      ((last.system.flags.isPending endpoint = true ↔ InHand endpoint last.system) ↔
        ¬LoweredEarly endpoint trace) := by
  rw [history.flag_eq short, unset]
  refine ⟨history.inHand_of_flag, ?_⟩
  cases flag : flagAfter endpoint false trace with
  | true =>
      have inHand := history.inHand_of_flag flag
      have onTime : ¬LoweredEarly endpoint trace := by
        rintro ⟨earlier, lowering, later, rfl, lowers, quiet, -⟩
        have down : flagAfter endpoint false (earlier ++ lowering :: later) = false := by
          rw [flagAfter_append]
          show flagAfter endpoint (lowering.flag endpoint _) later = false
          rw [Deed.flag_of_lowers lowers]
          exact flagAfter_of_unraised quiet
        rw [flag] at down
        cases down
      simp [inHand, onTime]
  | false =>
      rw [← history.inHand_iff_of_down unemployed flag]
      simp

end

/-- Two submits for one endpoint come in, and the first of them is done. -/
def firstOfTwoDone : List (Server.Event Party) :=
  [.arrive 0 (laterSubmit.encode ++ placidSubmit.encode)] ++ sessionMoves 8 ++
    moves [.loop .data, .loop .data, .worker 0] ++ (List.range 4).map (.move <| .inner <| .job ·) ++
    moves [.transfer 0, .worker 0]

def oneOfTwoLeft : List Deed × Server (Host Placid) :=
  follow placid (firstImport ++ firstOfTwoDone)

theorem loweredEarly_of_two_submits :
    oneOfTwoLeft.2.system.flags.isPending 2 = false ∧
      (ledger oneOfTwoLeft.2.system).employed = [⟨placidSubmit, 0⟩] ∧
      LoweredEarly 2 oneOfTwoLeft.1 := by
  have down : oneOfTwoLeft.2.system.flags.isPending 2 = false := by decide +kernel
  have left : (ledger oneOfTwoLeft.2.system).employed = [⟨placidSubmit, 0⟩] := by decide +kernel
  have inHand : InHand 2 oneOfTwoLeft.2.system :=
    ⟨⟨placidSubmit, 0⟩, by rw [left]; exact List.mem_singleton.2 rfl, rfl⟩
  have settled : (oneOfTwoLeft.2.system.flags.isPending 2 = true ↔ InHand 2 oneOfTwoLeft.2.system) ↔
      ¬LoweredEarly 2 oneOfTwoLeft.1 :=
    (isPending_exact_iff_not_loweredEarly
      (history_follow placid (firstImport ++ firstOfTwoDone)) rfl rfl (by decide)).2
  refine ⟨down, left, Classical.not_not.1 fun onTime => ?_⟩
  have up := (settled.2 onTime).2 inHand
  rw [down] at up
  cases up

end Host

end UsbExport

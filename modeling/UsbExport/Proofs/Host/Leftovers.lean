import UsbExport.Proofs.Host.Marks
import UsbExport.Proofs.Host.Transfers

/-!
What clients leave behind in the executor. A client that is gone takes nothing along that is in the
data channel or with a worker, and while a later one has the device all of it is handled like the
URBs of that one. Main statement: what it comes to for the device, the books and the pending flags.
-/

namespace UsbExport.Host

open Dispatch Socket

variable {Handle : Type}

/-! ### While the device is given to a client -/

/-- Somebody takes the device back: a session that cleans up, or an import whose reply failed. -/
def Note.takesBack : Note → Bool
  | .deed (.session _ .reset) | .deed (.session _ .released) | .replied _ true false => true
  | _ => false

/-- The device is given to a client, and no import is about to change that. -/
structure Occupied (desk : Desk) : Prop where
  busy : desk.busy = true
  settled : ∀ order stage, desk.loop = .importing order stage →
    stage.bid ∈ [Bid.asked, .marked, .denied, .granted]

namespace Occupied

variable {before after : Desk} {note : Option Note}

theorem step (occupied : Occupied before) (step : DeskStep before note after)
    (kept : ∀ what ∈ note, what.takesBack = false) : Occupied after := by
  have here {order : ImportOrder} {stage : ImportStage}
      (loop_eq : before.loop = .importing order stage) :
      stage.bid ∈ [Bid.asked, .marked, .denied, .granted] := occupied.settled order stage loop_eq
  cases step with
  | resets visit_eq stage_eq => cases kept _ rfl
  | releases visit_eq stage_eq => cases kept _ rfl
  | @takes request queue idle queue_eq =>
      refine ⟨occupied.busy, fun order stage loop_eq => ?_⟩
      have loop_eq : LoopStage.ofRequest request = .importing order stage := loop_eq
      unfold LoopStage.ofRequest at loop_eq
      split at loop_eq <;> cases loop_eq
      exact List.mem_cons_self
  | listStands loop_eq => exact ⟨occupied.busy, nofun⟩
  | lists loop_eq => exact ⟨occupied.busy, nofun⟩
  | listAnswers loop_eq => exact ⟨occupied.busy, nofun⟩
  | @goesOn order stage stage' loop_eq bid_eq =>
      refine ⟨occupied.busy, fun _ _ eq => ?_⟩
      cases eq
      exact bid_eq ▸ here loop_eq
  | passes loop_eq named free => exact absurd (occupied.busy.symm.trans free) (by decide)
  | refuses loop_eq taken =>
      refine ⟨occupied.busy, fun _ _ eq => ?_⟩
      cases eq
      decide
  | unclaimable loop_eq passed => exact absurd (passed ▸ here loop_eq) (by decide)
  | records loop_eq => exact absurd (here loop_eq) (by decide)
  | marks loop_eq => exact absurd (here loop_eq) (by decide)
  | @replies order accepted ticket loop_eq succeeded =>
      refine ⟨occupied.busy, fun _ _ eq => ?_⟩
      cases eq
      cases accepted with
      | false => cases succeeded <;> decide
      | true =>
          cases succeeded with
          | true => decide
          | false => cases kept _ rfl
  | unmarks loop_eq => exact absurd (here loop_eq) (by decide)
  | unclaims loop_eq => exact absurd (here loop_eq) (by decide)
  | confirms loop_eq => exact ⟨occupied.busy, nofun⟩
  | _ => exact ⟨occupied.busy, occupied.settled⟩

/-- Meanwhile nobody empties the books. -/
theorem uncleared (occupied : Occupied before) (step : DeskStep before note after) :
    note ≠ some (.deed .cleared) := by
  rintro rfl
  generalize told : some (Note.deed .cleared) = note at step
  cases step with
  | @goesOn order stage stage' loop_eq bid_eq =>
      have settled := occupied.settled order stage loop_eq
      cases stage <;> first | exact absurd settled (by decide) | cases told
  | unclaims loop_eq => exact absurd (occupied.settled _ _ loop_eq) (by decide)
  | works visit_eq working answer aside => exact (aside _ told.symm).elim
  | aside aside => exact (aside _ told.symm).elim
  | _ => cases told

theorem spare (occupied : Occupied before) (step : DeskStep before note after)
    (kept : ∀ what ∈ note, what.takesBack = false) :
    ∀ deed ∈ note.bind Note.deed?, deed.IsSpare := by
  intro deed said
  obtain ⟨what, rfl, told⟩ := Option.bind_eq_some_iff.1 said
  cases what with
  | deed what =>
      obtain rfl := Option.some.inj told
      cases what with
      | cleared => exact (occupied.uncleared step rfl).elim
      | session link what => cases what <;> first | trivial | cases kept _ rfl
      | _ => trivial
  | cancelled link target found =>
      obtain rfl := Option.some.inj told
      trivial
  | _ => cases told

end Occupied

/-! ### The books that an import finds -/

theorem Happening.idle_of_accepted [UsbHandle Handle] {server next : Server (Host Handle)}
    {deed : Option Deed} (happening : Happening server deed next) {request : SubmitRequest}
    (said : deed = some (.accepted request)) : server.system.executor.loop = .idle := by
  cases happening with
  | @session visit what next visit_eq move => cases what <;> cases said
  | executor move =>
      cases move with
      | loop move =>
          cases move with
          | takesControl idle taken => exact idle
          | takesSubmit idle taken => exact idle
          | attends working attends =>
              rcases attends.urbs_eq with ⟨rfl, -⟩ | ⟨rfl, -⟩ <;> cases said
      | worker worker_eq move => cases move <;> cases said
      | job move => cases move <;> cases said
      | transfer worker_eq stage_eq => cases said
  | _ => cases said

/-- An import is about to mark the device after it was, or has just emptied the books. -/
theorem DeskStep.of_marking {before after : Desk} {note : Option Note} {order : ImportOrder}
    (step : DeskStep before note after) (loop_eq : after.loop = .importing order .marking) :
    before.loop = .importing order .marking ∨ note = some (.deed .cleared) := by
  cases step with
  | @takes request queue idle queue_eq =>
      have loop_eq : LoopStage.ofRequest request = .importing order .marking := loop_eq
      unfold LoopStage.ofRequest at loop_eq
      split at loop_eq <;> cases loop_eq
  | @goesOn order stage stage' was bid_eq =>
      cases loop_eq
      cases stage with
      | clearing => exact Or.inr rfl
      | marking => exact Or.inl was
      | replying accepted ticket => cases accepted <;> cases bid_eq
      | confirming accepted => cases accepted <;> cases bid_eq
      | _ => cases bid_eq
  | @replies order accepted ticket was succeeded =>
      cases accepted <;> cases succeeded <;> cases loop_eq
  | _ => first | exact Or.inl loop_eq | cases loop_eq

theorem DeskStep.of_marked {before after : Desk} {order : ImportOrder}
    (step : DeskStep before (some (.marked order)) after) :
    before.loop = .importing order .marking ∧
      after.loop = .importing order (.replying true none) ∧ after.busy = true := by
  generalize told : some (Note.marked order) = note at step
  cases step with
  | @goesOn order stage => cases stage <;> cases told
  | marks loop_eq =>
      cases told
      exact ⟨loop_eq, rfl, rfl⟩
  | works visit_eq working answer aside => exact (aside _ told.symm).elim
  | aside aside => exact (aside _ told.symm).elim
  | _ => cases told

theorem booksAfter_empty {deed : Option Deed}
    (unaccepted : ∀ request, deed ≠ some (.accepted request)) :
    booksAfter {} deed.toList = {} := by
  cases deed with
  | none => rfl
  | some what =>
      cases what with
      | accepted request => exact absurd rfl (unaccepted request)
      | session link what => cases what <;> rfl
      | _ => rfl

/-- Only what was cancelled is unlinked. -/
theorem not_unlinked_of_uncancelled {seqnum : UInt32} {trace : List Deed}
    (uncancelled : ∀ other, .session other (.cancelled seqnum) ∉ trace) :
    seqnum ∉ (booksAfter {} trace).unlinked := by
  induction trace using List.reverseRecOn with
  | nil => exact List.not_mem_nil
  | append_singleton trace deed ih =>
      have before := ih fun other member => uncancelled other (List.mem_append_left _ member)
      rw [booksAfter_append]
      intro unlinked
      cases deed with
      | retired request => exact before (Urbs.mem_unlinked_retire.1 unlinked).1
      | cleared => cases unlinked
      | session other what =>
          cases what with
          | cancelled target =>
              rcases Urbs.mem_unlinked_unlink.1 unlinked with ⟨rfl, -⟩ | was
              · exact uncancelled other (by simp)
              · exact before was
          | released => cases unlinked
          | _ => exact before unlinked
      | _ => exact before unlinked

namespace Chronicle

variable [UsbHandle Handle] {start mid last : Server (Host Handle)} {before after notes : List Note}
  {order : ImportOrder}

/-- The books are empty when an import is about to mark the device. -/
theorem unbooked_of_marking (chronicle : Chronicle start notes last) (fresh : Fresh start) :
    ∀ order, last.system.executor.loop = .importing order .marking →
      last.system.executor.urbs = {} := by
  induction chronicle with
  | start =>
      intro order loop_eq
      cases fresh.idle.symm.trans loop_eq
  | @step notes server next chronicle event happened ih =>
      intro order loop_eq
      have happening := step_happening happened
      have made : next.system.executor.urbs =
          booksAfter server.system.executor.urbs (done? server event).toList :=
        happening.ledgerStep.urbs_eq
      rw [made]
      rcases (step_deskStep happened).of_marking loop_eq with marking | cleared
      · rw [ih order marking]
        refine booksAfter_empty fun request said => ?_
        cases (happening.idle_of_accepted said).symm.trans marking
      · rw [← note?_deed, cleared]
        rfl

theorem occupied (occupied : Occupied (desk mid.system)) (since : Chronicle mid notes last)
    (kept : ∀ note ∈ notes, note.takesBack = false) : Occupied (desk last.system) := by
  induction since with
  | start => exact occupied
  | step since event happened ih =>
      have earlier := ih fun note member => kept note (List.mem_append_left _ member)
      refine earlier.step (step_deskStep happened) fun note made => kept note ?_
      exact List.mem_append_right _ (Option.mem_toList.2 made)

theorem spare (occupied : Occupied (desk mid.system)) (since : Chronicle mid notes last)
    (kept : ∀ note ∈ notes, note.takesBack = false) : ∀ deed ∈ deeds notes, deed.IsSpare := by
  induction since with
  | start => exact nofun
  | step since event happened ih =>
      have kept' := fun note member => kept note (List.mem_append_left _ member)
      intro deed member
      rw [deeds_append] at member
      rcases List.mem_append.1 member with member | made
      · exact ih kept' deed member
      · refine (Chronicle.occupied occupied since kept').spare (step_deskStep happened)
          (fun note made => ?_)
          deed (Option.mem_toList.1 made)
        exact kept note (List.mem_append_right _ (Option.mem_toList.2 made))

/-- Once an import has marked the device, it is given to the client, the books are empty, and all
clients before are past. -/
theorem of_marked (fresh : Fresh start) (past : Chronicle start (before ++ [.marked order]) mid) :
    Occupied (desk mid.system) ∧ mid.system.executor.urbs = {} ∧ Past order.reply mid := by
  obtain ⟨server, event, next, earlier, happened, made, silent⟩ := past.cut
  obtain ⟨marking, loop_eq, busy⟩ := (made ▸ step_deskStep happened).of_marked
  have occupied : Occupied (desk next.system) := by
    refine ⟨busy, fun _ _ eq => ?_⟩
    obtain ⟨-, rfl⟩ := LoopStage.importing.inj (loop_eq.symm.trans eq)
    decide
  have unbooked : next.system.executor.urbs = {} := by
    have urbs_eq : next.system.executor.urbs =
        booksAfter server.system.executor.urbs (done? server event).toList :=
      (step_happening happened).ledgerStep.urbs_eq
    rw [urbs_eq, ← note?_deed, made]
    exact earlier.unbooked_of_marking fresh order marking
  have gone : Past order.reply next := by
    have whole := Chronicle.step earlier event happened
    exact (whole.history.inOrder fresh).ordered order
      (congrArg LoopStage.order? (show next.system.executor.loop = _ from loop_eq))
  refine ⟨Chronicle.occupied occupied silent nofun, ?_, silent.past gone⟩
  exact silent.history.urbs_eq.trans unbooked

end Chronicle

/-! ### What becomes of what was left behind -/

theorem WorkStep.mem_held {urbs urbs' : Urbs} {work work' : Work} {deed : Deed}
    (step : WorkStep urbs work (some deed) work' urbs') {request : SubmitRequest}
    (handled : deed.request? = some request) : request ∈ work.held := by
  cases step <;> cases handled <;> simp [Work.held, WorkerStage.request?]

theorem LedgerStep.mem_held {before after : Ledger} {deed : Deed}
    (step : LedgerStep before (some deed) after) {request : SubmitRequest}
    (handled : deed.request? = some request) : request ∈ before.held := by
  cases step with
  | works step =>
      simp [Ledger.held, Ledger.employed, step.mem_held handled]
  | rests quiet =>
      have still := quiet deed rfl
      cases deed <;> first | exact still.elim | cases handled
  | _ => cases handled <;> simp [Ledger.held]

section

variable [UsbHandle Handle] {start last : Server (Host Handle)} {trace : List Deed} {link : LinkId}

/-- Whatever is handled was held at the start or posted since. -/
theorem History.mem_of_handled (history : History start trace last) :
    ∀ deed ∈ trace, ∀ request, deed.request? = some request →
      request ∈ (ledger start.system).held ++ posted trace := by
  induction history with
  | start => simp
  | @step trace server next history event happened ih =>
      intro deed member request handled
      rw [posted_append, ← List.append_assoc, List.mem_append]
      rcases List.mem_append.1 member with earlier | now
      · exact Or.inl (ih deed earlier request handled)
      · have step := (step_happening happened).ledgerStep
        rw [Option.mem_toList.1 now] at step
        exact Or.inl (history.held_perm.mem_iff.2 (List.mem_append_right _ (step.mem_held handled)))

theorem History.count_posted_eq_zero (history : History start trace last) (past : Past link start)
    {request : SubmitRequest} (earlier : request.reply < link) :
    (posted trace).count request = 0 := by
  rw [List.count_eq_zero]
  intro member
  exact absurd (history.le_of_mem_posted past request member) (Nat.not_le.2 earlier)

/-- No transfer begins twice, and none that was not asked for. -/
theorem History.count_begun_le (history : History start trace last) (request : SubmitRequest) :
    (begun trace).count request + (ledger last.system).unbegun.count request ≤
      (ledger start.system).unbegun.count request + (posted trace).count request := by
  refine history.invariant (fun trace server =>
    (begun trace).count request + (ledger server.system).unbegun.count request ≤
      (ledger start.system).unbegun.count request + (posted trace).count request) ?_ ?_
  · simp [begun, posted]
  · intro trace server deed next ih happening
    obtain ⟨passed, -, kept⟩ := happening.advances
    have counted := kept.count_eq request
    rw [begun_append, posted_append]
    simp only [List.count_append] at counted ⊢
    omega

end

section

variable [UsbHandle Handle] {start mid last : Server (Host (Logged Handle))}
  {before after notes : List Note} {order : ImportOrder}

/-- While the device is given to a client, a transfer that can be asked for begins unless its URB is
unlinked. -/
theorem Chronicle.count_begun (occupied : Occupied (desk mid.system))
    (unbooked : mid.system.executor.urbs = {}) (since : Chronicle mid notes last)
    (kept : ∀ note ∈ notes, note.takesBack = false) {request : SubmitRequest}
    (planned : mid.system.executor.planned? request ≠ none)
    (uncancelled : ∀ other, .session other (.cancelled request.seqnum) ∉ deeds notes) :
    (begun (deeds notes)).count request + (ledger last.system).unbegun.count request =
      (ledger mid.system).unbegun.count request + (posted (deeds notes)).count request := by
  induction since with
  | start => simp [deeds, begun, posted]
  | @step notes server next since event happened ih =>
      have kept' := fun note member => kept note (List.mem_append_left _ member)
      have uncancelled' : ∀ other, .session other (.cancelled request.seqnum) ∉ deeds notes := by
        intro other member
        refine uncancelled other ?_
        rw [deeds_append]
        exact List.mem_append_left _ member
      have unlinked : request.seqnum ∉ server.system.executor.urbs.unlinked := by
        rw [since.history.urbs_eq, unbooked]
        exact not_unlinked_of_uncancelled uncancelled'
      obtain ⟨passed, why, advanced⟩ := (step_happening happened).advances
      have unpassed : passed.count request = 0 := by
        rw [List.count_eq_zero]
        intro member
        rcases why request member with free | marked | unplanned
        · cases (Chronicle.occupied occupied since kept').busy.symm.trans free
        · exact unlinked marked
        · exact planned (since.history.transfers.2 ▸ unplanned)
      have counted := advanced.count_eq request
      have earlier := ih kept' uncancelled'
      rw [deeds_append, note?_deed, begun_append, posted_append]
      simp only [List.count_append] at counted ⊢
      omega

/-- What was done, since the import of the client `link` was accepted, with what clients before it
had left behind. -/
structure Inherits (link : LinkId) (mid last : Server (Host (Logged Handle)))
    (notes : List Note) : Prop where
  /-- The device was asked for the transfers of the URBs that began, and for no others. -/
  called : last.system.executor.handle.transfers = mid.system.executor.handle.transfers ++
    (begun (deeds notes)).filterMap mid.system.executor.planned?
  /-- A URB in the data channel comes into the books. -/
  accepted : ∀ request, request.reply < link →
    (accepted (deeds notes)).count request + (ledger last.system).waiting.count request =
      (ledger mid.system).waiting.count request
  /-- A URB whose transfer is still to begin begins it. -/
  begun : ∀ request, request.reply < link → mid.system.executor.planned? request ≠ none →
    (∀ other, .session other (.cancelled request.seqnum) ∉ deeds notes) →
      (begun (deeds notes)).count request + (ledger last.system).unbegun.count request =
        (ledger mid.system).unbegun.count request
  /-- No other one does. -/
  begun_le : ∀ request, request.reply < link →
    (Host.begun (deeds notes)).count request + (ledger last.system).unbegun.count request ≤
      (ledger mid.system).unbegun.count request
  /-- Whatever is held leaves the books. -/
  retired : ∀ request, request.reply < link →
    (retired (deeds notes)).count request + (ledger last.system).held.count request =
      (ledger mid.system).held.count request
  /-- A number stands in the books as the client's own URBs have it until a left-over intrudes. -/
  listed : ∀ seqnum, (∀ sofar server, sofar <+: notes → Chronicle mid sofar server →
    SameStanding seqnum server.system.executor.urbs (booksAfter {} (own link (deeds sofar)))) ↔
      ¬Intrudes SubmitRequest.seqnum seqnum false link (deeds notes)
  /-- A flag is as the client's own URBs have it until a left-over intrudes. -/
  flagged : ∀ endpoint < endpointCount,
    (∀ sofar server, sofar <+: notes → Chronicle mid sofar server →
      server.system.flags.isPending endpoint = markAfter SubmitRequest.endpoint endpoint
        (mid.system.flags.isPending endpoint) (own link (deeds sofar))) ↔
      ¬Intrudes SubmitRequest.endpoint endpoint (mid.system.flags.isPending endpoint) link
        (deeds notes)
  /-- Where nothing was left behind, all is the client's own. -/
  isolated : (∀ request ∈ (ledger mid.system).held, link ≤ request.reply) →
    own link (deeds notes) = deeds notes

/-- What holds at every point of a run is told from the deeds up to there. -/
theorem Chronicle.forall_prefix_iff (since : Chronicle mid notes last)
    (Holds : Server (Host (Logged Handle)) → List Deed → Prop) (Told : List Deed → Prop)
    (told : ∀ sofar server, sofar <+: notes → Chronicle mid sofar server →
      (Holds server (deeds sofar) ↔ Told (deeds sofar))) :
    (∀ sofar server, sofar <+: notes → Chronicle mid sofar server → Holds server (deeds sofar)) ↔
      ∀ trace, trace <+: deeds notes → Told trace := by
  constructor
  · intro holds trace begins
    obtain ⟨sofar, ⟨later, rfl⟩, rfl⟩ := List.prefix_filterMap_iff.1 begins
    obtain ⟨server, upTo, -⟩ := since.split
    have within : sofar <+: sofar ++ later := List.prefix_append _ _
    exact (told sofar server within upTo).1 (holds sofar server within upTo)
  · intro all sofar server within upTo
    exact (told sofar server within upTo).2 (all _ (within.filterMap _))

/-- From when an import is accepted until somebody takes the device back, what earlier clients left
behind comes into the books, begins its transfers and leaves the books like the URBs of the client
itself. -/
theorem leftovers_outlive_import (fresh : Fresh start)
    (past : Chronicle start (before ++ [.marked order]) mid) (since : Chronicle mid after last)
    (kept : ∀ note ∈ after, note.takesBack = false) : Inherits order.reply mid last after := by
  obtain ⟨occupied, unbooked, gone⟩ := Chronicle.of_marked fresh past
  have spare := Chronicle.spare occupied since kept
  have history := since.history
  have unposted {request : SubmitRequest} (earlier : request.reply < order.reply) :
      (posted (deeds after)).count request = 0 := history.count_posted_eq_zero gone earlier
  have left {request : SubmitRequest} (earlier : request.reply < order.reply) :
      (retired (deeds after)).count request + (ledger last.system).held.count request =
        (ledger mid.system).held.count request := by
    have counted := history.held_perm.count_eq request
    have none_new := unposted earlier
    simp only [List.count_append] at counted
    omega
  refine ⟨history.transfers.1, fun request earlier => ?_,
    fun request earlier planned uncancelled => ?_, fun request earlier => ?_,
    fun request earlier => left earlier, fun seqnum => ?_, fun endpoint short => ?_,
    fun nothing => ?_⟩
  · have employed := history.employed_perm.count_eq request
    have held := left earlier
    simp only [Ledger.held, List.count_append] at employed held
    omega
  · have counted := Chronicle.count_begun occupied unbooked since kept planned uncancelled
    rwa [unposted earlier, Nat.add_zero] at counted
  · have counted := history.count_begun_le request
    rwa [unposted earlier, Nat.add_zero] at counted
  · rw [← standings_agree_iff spare]
    refine since.forall_prefix_iff
      (fun server trace => SameStanding seqnum server.system.executor.urbs
        (booksAfter {} (own order.reply trace)))
      (fun trace =>
        SameStanding seqnum (booksAfter {} trace) (booksAfter {} (own order.reply trace)))
      fun sofar server within upTo => ?_
    rw [upTo.history.urbs_eq, unbooked]
  · rw [← marks_agree_iff]
    generalize up_eq : mid.system.flags.isPending endpoint = up
    refine since.forall_prefix_iff
      (fun server trace => server.system.flags.isPending endpoint =
        markAfter SubmitRequest.endpoint endpoint up (own order.reply trace))
      (fun trace => markAfter SubmitRequest.endpoint endpoint up trace =
        markAfter SubmitRequest.endpoint endpoint up (own order.reply trace))
      fun sofar server within upTo => ?_
    have spare' : ∀ deed ∈ deeds sofar, deed.IsSpare := fun deed member =>
      spare deed ((within.filterMap Note.deed?).subset member)
    rw [upTo.history.flag_eq short, flagAfter_eq_markAfter endpoint spare', up_eq]
  · refine List.filter_eq_self.2 fun deed member => ?_
    rw [Bool.not_eq_true', Bool.eq_false_iff]
    intro about
    obtain ⟨request, handled, earlier⟩ := (Option.any_eq_true _ _).1 about
    have earlier := of_decide_eq_true earlier
    rcases List.mem_append.1 (history.mem_of_handled deed member request handled) with held | new
    · exact absurd (nothing request held) (Nat.not_le.2 earlier)
    · exact absurd (history.le_of_mem_posted gone request new) (Nat.not_le.2 earlier)

end

/-- The small server, with a record of the transfers. -/
def watched : Server (Host (Logged Placid)) where
  system :=
    { config := {}
      executor :=
        { device := { busId := "1" }
          endpoints := [(2, .bulk)]
          interfaces := [0]
          maxTransfer := 1024
          handle := { handle := {} } } }

theorem fresh_watched : Fresh watched := ⟨rfl, rfl, ⟨rfl, rfl⟩, rfl, rfl, rfl, rfl, rfl⟩

/-- The loop and the pool go on with the import in hand. -/
def handling (count : Nat) : List (Server.Event Party) :=
  (List.replicate count (moves [.loop .control, .job 0, .job 1, .job 2])).flatten

/-- A client posts a submit and is gone before the executor takes it; the import of the next one has
just been accepted. -/
def takenOver : List Note × Server (Host (Logged Placid)) :=
  retell watched (firstImport ++ [.arrive 0 placidSubmit.encode] ++ sessionMoves 4 ++
    secondImport ++ handling 8)

/-- The next client sends a submit with the same number, which waits behind the one left over. -/
def queuedBehind : List Note × Server (Host (Logged Placid)) :=
  retell takenOver.2 (handling 4 ++ sessionMoves 3 ++ [.arrive 1 placidSubmit.encode] ++
    sessionMoves 4 ++ moves [.loop .control, .loop .control, .worker 0, .job 3, .transfer 0,
      .worker 0])

theorem leftovers_outlive_import_of_two_clients :
    Inherits 1 takenOver.2 queuedBehind.2 queuedBehind.1 ∧
      begun (deeds queuedBehind.1) = [⟨placidSubmit, 0⟩] ∧
      queuedBehind.2.system.executor.handle.transfers = [.streamOut .bulk 2 [170]] ∧
      (ledger queuedBehind.2.system).held = [⟨placidSubmit, 1⟩] ∧
      Intrudes SubmitRequest.seqnum 7 false 1 (deeds queuedBehind.1) ∧
      Intrudes SubmitRequest.endpoint 2 false 1 (deeds queuedBehind.1) := by
  have told : takenOver.1 = takenOver.1.dropLast ++ [.marked ⟨0x0111, .ofString "1", 1, 1⟩] := by
    decide +kernel
  have past := chronicle_retell watched (firstImport ++ [.arrive 0 placidSubmit.encode] ++
    sessionMoves 4 ++ secondImport ++ handling 8)
  have kept : ∀ note ∈ queuedBehind.1, note.takesBack = false := by decide +kernel
  have since : Chronicle takenOver.2 queuedBehind.1 queuedBehind.2 := chronicle_retell _ _
  have inherits := leftovers_outlive_import fresh_watched (told ▸ past) since kept
  have began : begun (deeds queuedBehind.1) = [⟨placidSubmit, 0⟩] := by decide +kernel
  have unlisted : 7 ∉ queuedBehind.2.system.executor.urbs.inFlight := by decide +kernel
  have listed : 7 ∈ (booksAfter {} (own 1 (deeds queuedBehind.1))).inFlight := by decide +kernel
  have down : queuedBehind.2.system.flags.isPending 2 = false := by decide +kernel
  have was_down : takenOver.2.system.flags.isPending 2 = false := by decide +kernel
  have up : markAfter SubmitRequest.endpoint 2 false (own 1 (deeds queuedBehind.1)) = true := by
    decide +kernel
  refine ⟨inherits, began, ?_, by decide +kernel, ?_, ?_⟩
  · rw [inherits.called, began]
    decide +kernel
  · refine Classical.not_not.1 fun unharmed => ?_
    have standing := (inherits.listed 7).2 unharmed queuedBehind.1 queuedBehind.2
      (List.prefix_refl _) since
    exact unlisted (standing.1.2 listed)
  · have flagged := inherits.flagged 2 (by decide)
    rw [was_down] at flagged
    refine Classical.not_not.1 fun unharmed => ?_
    have same := flagged.2 unharmed queuedBehind.1 queuedBehind.2 (List.prefix_refl _) since
    exact absurd (down.symm.trans (same.trans up)) (by decide)

end UsbExport.Host

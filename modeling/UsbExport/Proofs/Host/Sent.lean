import UsbExport.Proofs.Host.Contents
import UsbExport.Proofs.Host.Grants
import UsbExport.Proofs.Host.Service

/-!
What is sent to a client that has the device. Its socket gets the frames that acknowledge its
unlinks, and a frame for every completion that has had its turn. Main statement: whoever reads the
frames in order finds in them just these completions, in the order in which they were given.
-/

namespace UsbExport.Host

open Dispatch Socket

variable {Handle : Type}

/-! ### What a socket was sent -/

/-- The frames of the sends that went well. -/
def sentFrames (outcomes : List (Errand × Bool)) : List Bytes :=
  outcomes.filterMap fun
    | (.send frame, true) => some frame
    | _ => none

theorem mem_sentFrames {outcomes : List (Errand × Bool)} {frame : Bytes}
    (sent : frame ∈ sentFrames outcomes) : (.send frame, true) ∈ outcomes := by
  obtain ⟨outcome, member, same⟩ := List.mem_filterMap.1 sent
  split at same <;> cases same
  exact member

@[simp] theorem sentFrames_append (outcomes more : List (Errand × Bool)) :
    sentFrames (outcomes ++ more) = sentFrames outcomes ++ sentFrames more :=
  List.filterMap_append ..

/-- No send to a client has failed. -/
def Unfailed (host : Host Handle) (link : LinkId) (notes : List Note) : Prop :=
  ∀ frame, (.send frame, false) ∉ outcomesAt host link notes

theorem Unfailed.of_all {host : Host Handle} {link : LinkId} {notes : List Note}
    (succeeded : (outcomesAt host link notes).all (·.2) = true) : Unfailed host link notes := by
  intro frame failed
  cases List.all_eq_true.1 succeeded _ failed

theorem outcomesAt_concat (host : Host Handle) (link : LinkId) (notes more : List Note) :
    outcomesAt host link (notes ++ more) =
      outcomesAt host link notes ++ outcomesAt host link more := by
  simp [outcomesAt]

theorem Unfailed.append {host : Host Handle} {link : LinkId} {notes more : List Note}
    (unfailed : Unfailed host link notes) (after : Unfailed host link more) :
    Unfailed host link (notes ++ more) := by
  intro frame failed
  rw [outcomesAt_concat, List.mem_append] at failed
  exact failed.elim (unfailed frame) (after frame)

theorem Unfailed.of_append {host : Host Handle} {link : LinkId} {notes more : List Note}
    (unfailed : Unfailed host link (notes ++ more)) : Unfailed host link more := by
  intro frame failed
  refine unfailed frame ?_
  rw [outcomesAt_concat]
  exact List.mem_append_right _ failed

theorem sentFrames_deliveries (deliveries : List Delivery) :
    sentFrames (deliveries.map fun delivery => (delivery.errand, delivery.succeeded)) =
      deliveries.filterMap Delivery.sent? := by
  rw [sentFrames, List.filterMap_map]
  congr 1
  funext ⟨errand, taken, succeeded⟩
  cases errand <;> cases succeeded <;> rfl

theorem flatMap_taken {deliveries : List Delivery} (fits : ∀ delivery ∈ deliveries, delivery.Fits)
    (untorn : ∀ delivery ∈ deliveries, ¬delivery.IsTorn) :
    deliveries.flatMap Delivery.taken = (deliveries.filterMap Delivery.sent?).flatten := by
  induction deliveries with
  | nil => rfl
  | cons delivery deliveries ih =>
      have head := (fits delivery (List.mem_cons_self ..)).taken_eq
        (untorn delivery (List.mem_cons_self ..))
      have tail := ih (fun later member => fits later (List.mem_cons_of_mem _ member))
        fun later member => untorn later (List.mem_cons_of_mem _ member)
      rw [List.flatMap_cons, head, tail, List.filterMap_cons]
      cases delivery.sent? <;> rfl

namespace Receipts

variable {notes : List Note} {system : System (Host Handle)} {link : LinkId} {guard : Guard}

/-- Where no send has failed, the wire has the frames that were sent, and what was taken so far of
the frame under way. -/
theorem written_of_unfailed (receipts : Receipts notes system)
    (guard_eq : (guards system)[link]? = some guard)
    (unfailed : Unfailed system.executor link notes) : guard.sink.written =
      (sentFrames (outcomesAt system.executor link notes)).flatten ++ guard.takenSoFar := by
  obtain ⟨timeout, errands, deliveries, serves, eq⟩ := receipts.served link guard guard_eq
  have fits := serves.accounts.fits
  have untorn : ∀ delivery ∈ deliveries, ¬delivery.IsTorn := by
    intro delivery member torn
    obtain ⟨frame, errand_eq, -⟩ := (fits delivery member).two_le_of_isTorn torn
    refine unfailed frame ?_
    rw [← eq]
    exact List.mem_map.2 ⟨delivery, member, by rw [errand_eq, torn.1]⟩
  rw [serves.accounts.written_eq, flatMap_taken fits untorn, ← eq, sentFrames_deliveries]

theorem underway (receipts : Receipts notes system)
    (guard_eq : (guards system)[link]? = some guard) : guard.takenSoFar = [] ∨
      ∃ ticket frame, ⟨ticket, .send frame⟩ ∈ guard.line ∧ guard.takenSoFar <+: frame := by
  obtain ⟨timeout, errands, deliveries, serves, -⟩ := receipts.served link guard guard_eq
  cases current : guard.current with
  | none => exact Or.inl (Guard.takenSoFar_of_current_eq_none current)
  | some sending =>
      obtain ⟨-, ticket, frame, line, standing, frame_eq⟩ :=
        serves.accounts.current_ok sending current
      exact Or.inr ⟨ticket, frame, by simp [standing], sending.rest, frame_eq.symm⟩

end Receipts

theorem Lines.place {system : System (Host Handle)} (lines : Lines system) {link : LinkId}
    {guard : Guard} (guard_eq : (guards system)[link]? = some guard) {waiter : Waiter}
    (standing : waiter ∈ guard.line) : ⟨link, waiter⟩ ∈ places system := by
  have placed := (lines.lined link guard guard_eq).perm.mem_iff.1 standing
  obtain ⟨⟨other, same⟩, member, here⟩ := List.mem_filterMap.1 placed
  obtain ⟨rfl, rfl⟩ : other = link ∧ same = waiter := by simpa using here
  exact member

/-! ### Completions among the frames -/

/-- The number of the URB that is completed at a socket, and whether the frame got through. -/
def completion? : Errand × Bool → Option (Nat × Bool)
  | (.send frame, succeeded) => (completed? frame).map fun seqnum => (seqnum, succeeded)
  | (.close, _) => none

/-- The number of the URB that a delivery completes, and whether the frame got through. -/
def completes? (delivery : Delivery) : Option (Nat × Bool) :=
  completion? (delivery.errand, delivery.succeeded)

/-- The number of the URB that is answered to a client, and whether the answer got through. -/
def Deed.answerTo? (link : LinkId) : Deed → Option (Nat × Bool)
  | .answered other completion succeeded =>
      if other = link then some (completion.header.seqnum.toNat, succeeded) else none
  | _ => none

/-- Where no send has failed, all completions are among the frames that were sent. -/
theorem filterMap_sentFrames {outcomes : List (Errand × Bool)}
    (unfailed : ∀ frame, (.send frame, false) ∉ outcomes) :
    (sentFrames outcomes).filterMap completed? =
      (outcomes.filterMap completion?).map Prod.fst := by
  rw [sentFrames, List.filterMap_filterMap, List.map_filterMap]
  refine List.filterMap_congr fun outcome member => ?_
  obtain ⟨errand, succeeded⟩ := outcome
  cases errand with
  | close => rfl
  | send frame =>
      cases succeeded with
      | false => exact absurd member (unfailed frame)
      | true => cases found : completed? frame <;> simp [completion?, found]

/-- What a worker has to report is the completion of a submit. -/
def WorkerStage.Reports : WorkerStage → Prop
  | .retiring _ (some completion) | .replying _ completion _ =>
      completion.header.command = Command.returnSubmit
  | _ => True

section

variable [UsbHandle Handle] {start mid last : Server (Host Handle)}
  {notes before after : List Note} {link : LinkId}

theorem WorkerStage.Reports.move {was now : WorkerStage} (reports : was.Reports)
    {system : System (Host Handle)} (move : StageMove system was now) : now.Reports := by
  cases move with
  | fails unplanned => rfl
  | @ends request outcome => cases outcome <;> rfl
  | reports => exact reports
  | stands => exact reports
  | _ => trivial

theorem History.reports {trace : List Deed} (history : History start trace last)
    (fresh : Fresh start) : ∀ work ∈ (ledger last.system).works, work.stage.Reports := by
  induction history with
  | start => simp [fresh.ledger_eq]
  | step _ event happened ih =>
      intro work member
      rcases (step_happening happened).cameFrom work member with
        idle | ⟨earlier, found, same | move⟩
      · rw [idle]
        trivial
      · rw [← same]
        exact ih earlier found
      · exact (ih earlier found).move move

namespace Chronicle

theorem command_of_answered (chronicle : Chronicle start notes last) (fresh : Fresh start)
    {completion : Completion} {succeeded : Bool}
    (answered : .deed (.answered link completion succeeded) ∈ notes) :
    completion.header.command = Command.returnSubmit := by
  obtain ⟨front, back, rfl⟩ := List.append_of_mem answered
  obtain ⟨mid, event, next, past, happened, made, -⟩ := chronicle.cut
  have step := (step_happening happened).ledgerStep
  rw [← note?_deed, made] at step
  obtain ⟨work, member, ticket, stage_eq⟩ := step.replying_of_answer rfl
  have reports := past.history.reports fresh work member
  rwa [stage_eq] at reports

/-- A session sends its client nothing but acknowledgements. -/
theorem completed?_of_served (chronicle : Chronicle start notes last) (fresh : Fresh start)
    {frame : Bytes} {succeeded : Bool}
    (served : .deed (.session link (.served (.send frame) succeeded)) ∈ notes) :
    completed? frame = none := by
  obtain ⟨front, back, rfl⟩ := List.append_of_mem served
  obtain ⟨mid, event, next, past, happened, made, -⟩ := chronicle.cut
  have happening := step_happening happened
  rw [← note?_deed, made] at happening
  obtain ⟨visit, -, -, errand, -⟩ := happening.errand_of_served (past.lines fresh) rfl
  cases stage_eq : visit.session.stage with
  | acknowledging seqnum =>
      rw [stage_eq] at errand
      cases errand
      exact completed?_acknowledge seqnum 0
  | _ => simp [stage_eq, Session.Stage.errand?] at errand

/-- A client that has the device is told nothing more by the executor itself. -/
theorem unsaid (past : Chronicle start before mid) (fresh : Fresh start)
    (atWork : AtWork link (desk mid.system)) (since : Chronicle mid after last) :
    ∀ note ∈ after, note.saidTo? ≠ some link := by
  induction since with
  | start => simp
  | step since event happened ih =>
      intro note member
      rcases List.mem_append.1 member with earlier | now
      · exact ih note earlier
      · have told := past.told fresh atWork since
        refine (step_deskStep happened).unsaid (fun answers => told.unasked ?_) note
          (Option.mem_toList.1 now)
        exact List.mem_append_left _ (Option.mem_toList.2 (LoopStage.link?_of_answers? answers))

/-- From when a client has the device, its socket completes just what is answered to it. -/
theorem completions_since (past : Chronicle start before mid) (fresh : Fresh start)
    (atWork : AtWork link (desk mid.system)) (since : Chronicle mid after last)
    (host : Host Handle) :
    (outcomesAt host link after).filterMap completion? =
      (deeds after).filterMap (Deed.answerTo? link) := by
  have whole := past.append since
  have unsaid := past.unsaid fresh atWork since
  rw [outcomesAt, deeds, List.filterMap_filterMap, List.filterMap_filterMap,
    List.filterMap_filterMap]
  refine List.filterMap_congr fun note member => ?_
  have noted : note ∈ before ++ after := List.mem_append_right _ member
  cases note with
  | deed what =>
      cases what with
      | session other what =>
          cases what with
          | served errand succeeded =>
              cases errand with
              | close => by_cases here : other = link <;> simp [Note.outcome?, here, completion?,
                  Note.deed?, Deed.answerTo?]
              | send frame =>
                  by_cases here : other = link
                  · subst here
                    have nothing := whole.completed?_of_served fresh noted
                    simp [Note.outcome?, completion?, nothing, Note.deed?, Deed.answerTo?]
                  · simp [Note.outcome?, here, Note.deed?, Deed.answerTo?]
          | _ => rfl
      | answered other completion succeeded =>
          have completes := Completion.completed?_encode (whole.command_of_answered fresh noted)
          by_cases here : other = link <;>
            simp [Note.outcome?, here, completion?, Reply.encode, completes, Note.deed?,
              Deed.answerTo?]
      | _ => rfl
  | replied order accepted succeeded =>
      have other : order.reply ≠ link := fun same => unsaid _ member (by rw [← same]; rfl)
      simp [Note.outcome?, other, Note.deed?]
  | listed version other slot succeeded =>
      have other : other ≠ link := fun same => unsaid _ member (by rw [← same]; rfl)
      simp [Note.outcome?, other, Note.deed?]
  | _ => rfl

end Chronicle

end

end UsbExport.Host

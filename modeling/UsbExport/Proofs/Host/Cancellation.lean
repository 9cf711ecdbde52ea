import UsbExport.Proofs.Host.Asking

/-!
A URB that was in flight when it was cancelled is not answered any more. The mark in the books keeps
its completion back: while the session has the device nobody empties the books, and only the URB
itself takes the mark out of them.
-/

namespace UsbExport.Host

open Dispatch Socket

variable {Handle : Type}

/-- The completion that a worker sends, and where to. -/
def Deed.answer? : Deed → Option (LinkId × Completion)
  | .answering link completion | .answered link completion _ => some (link, completion)
  | _ => none

/-! ### What a step does to marks and answers -/

/-- A mark goes with its URB or with all the books. -/
theorem LedgerStep.mem_unlinked {before after : Ledger} {deed : Option Deed}
    (step : LedgerStep before deed after) {seqnum : UInt32}
    (marked : seqnum ∈ before.urbs.unlinked) :
    seqnum ∈ after.urbs.unlinked ∨
      (∃ request ∈ deed.bind Deed.retired?, request.seqnum = seqnum) ∨
      deed = some .cleared ∨ ∃ link, deed = some (.session link .released) := by
  have retire (request : SubmitRequest) {urbs : Urbs} (marked : seqnum ∈ urbs.unlinked) :
      seqnum ∈ (urbs.retire request.seqnum).unlinked ∨
        (∃ other ∈ (some (Deed.retired request)).bind Deed.retired?, other.seqnum = seqnum) ∨
        some (Deed.retired request) = some .cleared ∨
        ∃ link, some (Deed.retired request) = some (.session link .released) := by
    by_cases same : request.seqnum = seqnum
    · exact Or.inr (Or.inl ⟨request, rfl, same⟩)
    · exact Or.inl (Urbs.mem_unlinked_retire.2 ⟨marked, Ne.symm same⟩)
  cases step with
  | cancels link target => exact Or.inl (Urbs.mem_unlinked_unlink.2 (Or.inr marked))
  | releases link => exact Or.inr (Or.inr (Or.inr ⟨link, rfl⟩))
  | clears => exact Or.inr (Or.inr (Or.inl rfl))
  | works step =>
      cases step with
      | drops unwanted => exact retire _ marked
      | reports wanted => exact retire _ marked
      | _ => exact Or.inl marked
  | _ => exact Or.inl marked

/-- Who answers after a step answered before, or just took an unmarked URB out of the books. -/
theorem LedgerStep.replying {trace : List Deed} {before after : Ledger} {deed : Option Deed}
    (step : LedgerStep before deed after) (books : Books trace before) {link : LinkId}
    {completion : Completion} {ticket : Option Ticket}
    (replying : ∃ work ∈ after.works, work.stage = .replying link completion ticket) :
    (∃ work ∈ before.works, ∃ ticket, work.stage = .replying link completion ticket) ∨
      ∃ request ∈ before.held, request.reply = link ∧
        request.seqnum = completion.header.seqnum ∧ request.seqnum ∉ before.urbs.unlinked := by
  obtain ⟨later, member, stage_eq⟩ := replying
  have old (found : later ∈ before.works) :
      (∃ work ∈ before.works, ∃ ticket, work.stage = .replying link completion ticket) ∨
      ∃ request ∈ before.held, request.reply = link ∧
        request.seqnum = completion.header.seqnum ∧ request.seqnum ∉ before.urbs.unlinked :=
    Or.inl ⟨later, found, ticket, stage_eq⟩
  cases step with
  | @accepts request waiting front back work urbs =>
      rcases List.mem_append.1 member with member | member
      · exact old (by simp [member])
      · rcases List.mem_cons.1 member with rfl | member
        · exact Or.inl ⟨work, by simp, ticket, stage_eq⟩
        · exact old (by simp [member])
  | employs =>
      rcases List.mem_append.1 member with member | member
      · exact old member
      · rw [List.mem_singleton.1 member] at stage_eq
        cases stage_eq
  | @works waiting front back work work' urbs urbs' deed step =>
      rcases List.mem_append.1 member with member | member
      · exact old (by simp [member])
      · rcases List.mem_cons.1 member with rfl | member
        · cases step with
          | @reports request queue completion wanted =>
              cases stage_eq
              refine Or.inr ⟨request, ?_, rfl, ?_, wanted⟩
              · simp [Ledger.held, Ledger.employed, Work.held, WorkerStage.request?]
              · exact (books.seqnum_eq ⟨queue, _⟩ (by simp) request completion rfl).symm
          | @stands link completion queue ticket =>
              cases stage_eq
              exact Or.inl ⟨⟨queue, _⟩, by simp, none, rfl⟩
          | _ => cases stage_eq
        · exact old (by simp [member])
  | _ => exact old member

/-- Only who is answering sends anything. -/
theorem LedgerStep.replying_of_answer {before after : Ledger} {deed : Deed}
    (step : LedgerStep before (some deed) after) {link : LinkId} {completion : Completion}
    (answers : deed.answer? = some (link, completion)) :
    ∃ work ∈ before.works, ∃ ticket, work.stage = .replying link completion ticket := by
  cases step with
  | works step =>
      cases step with
      | stands ticket =>
          cases answers
          exact ⟨_, List.mem_append_right _ (List.mem_cons_self ..), none, rfl⟩
      | @answers link completion queue ticket succeeded =>
          cases answers
          exact ⟨_, List.mem_append_right _ (List.mem_cons_self ..), some ticket, rfl⟩
      | _ => cases answers
  | rests quiet =>
      have still := quiet deed rfl
      cases deed <;> first | exact still.elim | cases answers
  | _ => cases answers

/-- The books are only emptied for an import. -/
theorem Happening.order_of_cleared [UsbHandle Handle] {server next : Server (Host Handle)}
    {deed : Option Deed} (happening : Happening server deed next) (cleared : deed = some .cleared) :
    server.system.executor.loop.order?.isSome := by
  cases happening with
  | @session visit deed next visit_eq move => cases deed <;> cases cleared
  | executor move =>
      cases move with
      | loop move =>
          cases move with
          | attends working attends =>
              rcases attends.urbs_eq with ⟨rfl, -⟩ | ⟨-, -, order_some⟩
              · cases cleared
              · exact order_some
          | _ => cases cleared
      | worker worker_eq move => cases move <;> cases cleared
      | job move => cases move <;> cases cleared
      | transfer worker_eq stage_eq => cases cleared
  | _ => cases cleared

/-! ### After the cancellation -/

/-- The session on a socket has the device. -/
def Serving (link : LinkId) (system : System (Host Handle)) : Prop :=
  ∃ visit, system.visit = some visit ∧ visit.link = link ∧ visit.session.phase = .busy ∧
    visit.session.stage.hasDevice = true

theorem Serving.session {system next : System (Host Handle)} {visit : Visit}
    {deed : Option Session.Deed} (serving : Serving visit.link system)
    (visit_eq : system.visit = some visit) (move : system.SessionMove visit deed next)
    (unreleased : deed ≠ some .released) : Serving visit.link next := by
  obtain ⟨other, eq, -, busy, has⟩ := serving
  obtain rfl := Option.some.inj (eq.symm.trans visit_eq)
  have resumed {answer : Session.Answer} {wait : Wait}
      (apart : ∀ ending, other.session.stage ≠ .releasing ending)
      (eq : next.visit = some { other with session := other.session.resume answer, wait }) :
      Serving other.link next :=
    ⟨_, eq, rfl, Session.phase_resume busy has answer, Session.hasDevice_resume has apart answer⟩
  cases move with
  | read wants socket_eq brought =>
      exact ⟨_, rfl, rfl, (Session.phase_receive _ _ _).trans busy,
        Session.hasDevice_receive has _ _⟩
  | asked posting posted =>
      refine resumed (fun ending stage_eq => ?_) rfl
      simp [stage_eq, Session.Stage.request?] at posting
  | refused posting unposted =>
      refine resumed (fun ending stage_eq => ?_) rfl
      simp [stage_eq, Session.Stage.request?] at posting
  | answered awaits given =>
      refine resumed (fun ending stage_eq => ?_) rfl
      simp [stage_eq, Session.Stage.awaits] at awaits
  | posted stage_eq posted => exact resumed (by simp [stage_eq]) rfl
  | dropped stage_eq unposted => exact resumed (by simp [stage_eq]) rfl
  | cancelled stage_eq => exact resumed (by simp [stage_eq]) rfl
  | served wanted wait_eq socket_eq polled standing =>
      refine resumed (fun ending stage_eq => ?_) rfl
      simp [stage_eq, Session.Stage.errand?] at wanted
  | reset stage_eq => exact resumed (by simp [stage_eq]) rfl
  | released stage_eq => exact absurd rfl unreleased
  | moved wanted wait_eq socket_eq polled => exact ⟨other, visit_eq, rfl, busy, has⟩
  | _ => exact ⟨_, rfl, rfl, busy, has⟩

theorem Serving.happening [UsbHandle Handle] {server next : Server (Host Handle)} {link : LinkId}
    {deed : Option Deed} (serving : Serving link server.system)
    (happening : Happening server deed next)
    (unreleased : deed ≠ some (.session link .released)) : Serving link next.system := by
  obtain ⟨visit, visit_eq, rfl, busy, has⟩ := serving
  cases happening with
  | @session other deed next other_eq move =>
      obtain rfl := Option.some.inj (visit_eq.symm.trans other_eq)
      refine Serving.session ⟨visit, visit_eq, rfl, busy, has⟩ visit_eq move ?_
      rintro rfl
      exact unreleased rfl
  | executor move =>
      rcases move.takes_or_proceeds with ⟨request, control, loop, -, -, rfl, -⟩ | proceeds
      · exact ⟨visit, visit_eq, rfl, busy, has⟩
      · exact ⟨visit, proceeds.visit_eq.trans visit_eq, rfl, busy, has⟩
  | departs other_eq ended isStopped =>
      obtain rfl := Option.some.inj (visit_eq.symm.trans other_eq)
      rw [ended] at has
      cases has
  | serves unvisited line_eq =>
      rw [visit_eq] at unvisited
      cases unvisited
  | connects guard => exact ⟨visit, visit_eq, rfl, busy, has⟩
  | around length_eq now => exact ⟨visit, visit_eq, rfl, busy, has⟩

/-- A URB is marked and the only one of its number, and nobody answers that number on a socket. -/
structure Silenced (link : LinkId) (seqnum : UInt32) (ledger : Ledger) : Prop where
  single : ledger.held.countP (·.seqnum = seqnum) ≤ 1
  marked : ∀ request ∈ ledger.held, request.seqnum = seqnum → seqnum ∈ ledger.urbs.unlinked
  silent : ∀ work ∈ ledger.works, ∀ completion ticket,
    work.stage = .replying link completion ticket → completion.header.seqnum ≠ seqnum

theorem Silenced.step {trace : List Deed} {before after : Ledger} {deed : Option Deed}
    {link : LinkId} {seqnum : UInt32} (silenced : Silenced link seqnum before)
    (books : Books trace before) (step : LedgerStep before deed after)
    (unposted : ∀ request ∈ deed.bind Deed.posted?, request.seqnum ≠ seqnum)
    (uncleared : deed ≠ some .cleared)
    (unreleased : ∀ link, deed ≠ some (.session link .released)) :
    Silenced link seqnum after := by
  have counted := step.held_perm.countP_eq (·.seqnum = seqnum)
  have none_posted : (deed.bind Deed.posted?).toList.countP (·.seqnum = seqnum) = 0 := by
    rw [List.countP_eq_zero]
    intro request member
    simpa using unposted request (Option.mem_toList.1 member)
  rw [List.countP_append, List.countP_append, none_posted] at counted
  have single := silenced.single
  refine ⟨by omega, fun request held same => ?_, fun work member completion ticket stage_eq => ?_⟩
  · have held_count : 0 < after.held.countP (·.seqnum = seqnum) :=
      List.countP_pos_iff.2 ⟨request, held, by simpa using same⟩
    have marked : seqnum ∈ before.urbs.unlinked := by
      have earlier : 0 < before.held.countP (·.seqnum = seqnum) := by omega
      obtain ⟨other, was_held, same⟩ := List.countP_pos_iff.1 earlier
      exact silenced.marked other was_held (by simpa using same)
    rcases step.mem_unlinked marked with kept | ⟨other, gone, same⟩ | cleared | ⟨socket, released⟩
    · exact kept
    · -- the mark goes with its URB, and there is no second one
      have gone_count : 0 < (deed.bind Deed.retired?).toList.countP (·.seqnum = seqnum) :=
        List.countP_pos_iff.2 ⟨other, Option.mem_toList.2 gone, by simpa using same⟩
      omega
    · exact absurd cleared uncleared
    · exact absurd released (unreleased socket)
  · rcases step.replying books ⟨work, member, stage_eq⟩ with
      ⟨other, was, earlier, stage_eq⟩ | ⟨request, held, -, same, unmarked⟩
    · exact silenced.silent other was completion earlier stage_eq
    · intro again
      rw [again] at same
      exact unmarked (same ▸ silenced.marked request held same)

variable [UsbHandle Handle] {start mid next last server : Server (Host Handle)}
  {before after trace : List Deed}

/-- As long as the session has the device, a silenced number stays silent. -/
theorem History.silenced {link : LinkId} {seqnum : UInt32} (fresh : Fresh start)
    (past : History start before mid) (future : History mid after last)
    (serving : Serving link mid.system) (silenced : Silenced link seqnum (ledger mid.system))
    (unreleased : .session link .released ∉ after)
    (unposted : ∀ request ∈ posted after, request.reply = link → request.seqnum ≠ seqnum) :
    Silenced link seqnum (ledger last.system) ∧
      ∀ deed ∈ after, ∀ completion, deed.answer? = some (link, completion) →
        completion.header.seqnum ≠ seqnum := by
  suffices Serving link last.system ∧ Silenced link seqnum (ledger last.system) ∧
      ∀ deed ∈ after, ∀ completion, deed.answer? = some (link, completion) →
        completion.header.seqnum ≠ seqnum from this.2
  induction future with
  | start => exact ⟨serving, silenced, by simp⟩
  | @step trace server next history event happened ih =>
      obtain ⟨serving, silenced, silent⟩ := ih (fun member => unreleased (by simp [member]))
        fun request member => unposted request (by simp [posted_append, member])
      have whole := past.append history
      have happening := step_happening happened
      have here : ∀ other what, done? server event = some (.session other what) → other = link := by
        intro other what said
        obtain ⟨visit, visit_eq, link_eq⟩ := happening.visit_of_session said
        obtain ⟨served, served_eq, here, -⟩ := serving
        obtain rfl := Option.some.inj (served_eq.symm.trans visit_eq)
        rw [← here, link_eq]
      refine ⟨serving.happening happening fun said => unreleased (by simp [said]), ?_, ?_⟩
      · refine silenced.step (whole.books fresh) happening.ledgerStep ?_ ?_ ?_
        · intro request found
          obtain ⟨what, said, is_post⟩ := Option.bind_eq_some_iff.1 found
          rw [Deed.eq_of_posted? is_post] at said
          refine unposted request ?_ (here _ _ said)
          rw [posted_append, List.mem_append, Option.mem_toList]
          exact Or.inr found
        · intro cleared
          obtain ⟨visit, visit_eq, -, busy, -⟩ := serving
          exact (whole.asks fresh).order_of_busy visit_eq busy (happening.order_of_cleared cleared)
        · intro other said
          obtain rfl := here other _ said
          exact unreleased (by simp [said])
      · intro deed member completion answers
        rcases List.mem_append.1 member with earlier | now
        · exact silent deed earlier completion answers
        · have step := happening.ledgerStep
          rw [Option.mem_toList.1 now] at step
          obtain ⟨work, member, ticket, stage_eq⟩ := step.replying_of_answer answers
          exact silenced.silent work member completion ticket stage_eq

/-- The submits of a number on a socket. -/
def Names (link : LinkId) (seqnum : UInt32) (request : SubmitRequest) : Prop :=
  request.reply = link ∧ request.seqnum = seqnum

instance (link : LinkId) (seqnum : UInt32) : DecidablePred (Names link seqnum) := fun _ =>
  inferInstanceAs (Decidable (_ ∧ _))

theorem LedgerStep.eq_of_cancelled {before after : Ledger} {link : LinkId} {seqnum : UInt32}
    (step : LedgerStep before (some (.session link (.cancelled seqnum))) after) :
    after = { before with urbs := before.urbs.unlink seqnum } := by
  cases step with
  | cancels => rfl
  | works step => cases step
  | rests quiet => exact (quiet _ rfl).elim

/-- When a URB that is in flight is cancelled, its number falls silent. -/
theorem silenced_of_cancelled {link : LinkId} {seqnum : UInt32} (fresh : Fresh start)
    (past : History start before mid)
    (step : LedgerStep (ledger mid.system) (some (.session link (.cancelled seqnum)))
      (ledger next.system))
    (flying : seqnum ∈ mid.system.executor.urbs.inFlight)
    (once : (posted before).countP (Names link seqnum) ≤ 1)
    (own : ∀ request ∈ (ledger mid.system).held, request.seqnum = seqnum → request.reply = link) :
    Silenced link seqnum (ledger next.system) ∧
      (posted before).countP (Names link seqnum) = 1 := by
  have books := past.books fresh
  obtain ⟨request, employed, same⟩ := books.employed_of_mem seqnum flying
  have held : request ∈ (ledger mid.system).held := List.mem_append_right _ employed
  have counted := past.held_perm.countP_eq (Names link seqnum)
  rw [fresh.ledger_eq, List.countP_append, List.countP_append] at counted
  have none_before : (Ledger.mk [] [] {}).held.countP (Names link seqnum) = 0 := rfl
  have held_count : 0 < (ledger mid.system).held.countP (Names link seqnum) :=
    List.countP_pos_iff.2 ⟨request, held, decide_eq_true ⟨own request held same, same⟩⟩
  have only : (ledger mid.system).held.countP (·.seqnum = seqnum) =
      (ledger mid.system).held.countP (Names link seqnum) := by
    refine List.countP_congr fun other member => ?_
    rw [decide_eq_true_iff, decide_eq_true_iff]
    exact ⟨fun same => ⟨own other member same, same⟩, And.right⟩
  rw [step.eq_of_cancelled]
  refine ⟨⟨?_, fun _ _ _ => ?_, fun work member completion ticket stage_eq again => ?_⟩, by omega⟩
  · show (ledger mid.system).held.countP _ ≤ 1
    omega
  · exact Urbs.mem_unlinked_unlink.2 (Or.inl ⟨rfl, flying⟩)
  · -- it would be the answer to a second submit of this number
    obtain ⟨other, gone, reply_eq, number_eq⟩ :=
      books.retired_of_replying work member link completion ticket stage_eq
    have gone_count : 0 < (retired before).countP (Names link seqnum) :=
      List.countP_pos_iff.2 ⟨other, gone, decide_eq_true ⟨reply_eq, number_eq.trans again⟩⟩
    omega

/-- Once a URB in flight was cancelled, no completion of its number is sent to its client any more,
wherever the URB is by then, until the session lets the device go. The number was used once by this
client, and no URB of an earlier client with it is left over. -/
theorem cancelled_unanswered {visit : Visit} {header : UrbHeader} {seqnum : UInt32}
    (fresh : Fresh start) (past : History start before mid)
    (visit_eq : mid.system.visit = some visit)
    (stage_eq : visit.session.stage = .cancelling header seqnum)
    (flying : seqnum ∈ mid.system.executor.urbs.inFlight)
    (own : ∀ request ∈ (ledger mid.system).held, request.seqnum = seqnum →
      request.reply = visit.link)
    (cancelled : Server.step company mid (.move (.inner .session)) = some next)
    (future : History next after last)
    (once : (posted (before ++ after)).countP (Names visit.link seqnum) ≤ 1)
    (unreleased : .session visit.link .released ∉ after) :
    (∀ deed ∈ after, ∀ completion, deed.answer? = some (visit.link, completion) →
      completion.header.seqnum ≠ seqnum) ∧
    ∀ worker ∈ last.system.executor.workers, ∀ completion ticket,
      worker.stage = .replying visit.link completion ticket →
        completion.header.seqnum ≠ seqnum := by
  have said : done? mid (.move (.inner .session)) =
      some (.session visit.link (.cancelled seqnum)) := by
    simp [done?, deed?, System.deed?, visit_eq, stage_eq]
  have happening := step_happening cancelled
  rw [said] at happening
  have first : History mid [.session visit.link (.cancelled seqnum)] next := by
    have history := History.step .start _ cancelled
    rwa [said] at history
  have whole : (posted before).countP (Names visit.link seqnum) +
      (posted after).countP (Names visit.link seqnum) ≤ 1 := by
    rw [← List.countP_append, posted, posted, ← List.filterMap_append]
    exact once
  obtain ⟨silenced, posted_once⟩ :=
    silenced_of_cancelled fresh past happening.ledgerStep flying (by omega) own
  have serving : Serving visit.link next.system := by
    refine Serving.happening ⟨visit, visit_eq, rfl, ?_, ?_⟩ happening (by simp)
    · exact (past.asks fresh).fits visit visit_eq .busy (by rw [stage_eq]; rfl)
    · rw [stage_eq]
      rfl
  obtain ⟨silenced, silent⟩ := (past.append first).silenced fresh future serving silenced
    unreleased fun request member reply_eq number_eq => by
      have again : 0 < (posted after).countP (Names visit.link seqnum) :=
        List.countP_pos_iff.2 ⟨request, member, decide_eq_true ⟨reply_eq, number_eq⟩⟩
      omega
  refine ⟨silent, fun worker member completion ticket stage_eq => ?_⟩
  exact silenced.silent worker.work (List.mem_map_of_mem member) completion ticket stage_eq

def placidUnlink : Bytes := Unlink.encode ⟨⟨2, 8, 1, 0, 0⟩, 7⟩

/-- The transfer of a submit is running, and the session is about to cancel it. -/
def aboutToCancel : List Deed × Server (Host Placid) :=
  follow placid
    (firstImport ++ [.arrive 0 placidSubmit.encode] ++ sessionMoves 4 ++
      moves [.loop .control, .worker 0, .job 1] ++ [.arrive 0 placidUnlink] ++ sessionMoves 2)

theorem cancelled_unanswered_while_transferring :
    7 ∈ aboutToCancel.2.system.executor.urbs.inFlight ∧
      ∃ next, Server.step company aboutToCancel.2 (.move (.inner .session)) = some next ∧
        (follow next (rounds 10)).1 = [.retired ⟨placidSubmit, 0⟩,
          .session 0 (.served (.send (UnlinkReply.acknowledge 8 0).encode) true)] ∧
        ∀ worker ∈ (follow next (rounds 10)).2.system.executor.workers, ∀ completion ticket,
          worker.stage = .replying 0 completion ticket → completion.header.seqnum ≠ 7 := by
  have flying : 7 ∈ aboutToCancel.2.system.executor.urbs.inFlight := by decide +kernel
  have held : (ledger aboutToCancel.2.system).held = [⟨placidSubmit, 0⟩] := by decide +kernel
  have visited : aboutToCancel.2.system.visit.map (fun visit => (visit.link, visit.session.stage)) =
      some (0, .cancelling ⟨2, 8, 1, 0, 0⟩ 7) := by decide +kernel
  have traces : (Server.step company aboutToCancel.2 (.move (.inner .session))).map
      (fun next => (follow next (rounds 10)).1) = some [.retired ⟨placidSubmit, 0⟩,
        .session 0 (.served (.send (UnlinkReply.acknowledge 8 0).encode) true)] := by
    decide +kernel
  have before : posted aboutToCancel.1 = [⟨placidSubmit, 0⟩] := by decide +kernel
  obtain ⟨visit, visit_eq, seen⟩ := Option.map_eq_some_iff.1 visited
  obtain ⟨link_eq, stage_eq⟩ : visit.link = 0 ∧
      visit.session.stage = .cancelling ⟨2, 8, 1, 0, 0⟩ 7 := Prod.mk.inj seen
  obtain ⟨next, step, trace⟩ := Option.map_eq_some_iff.1 traces
  refine ⟨flying, next, step, trace, ?_⟩
  rw [← link_eq]
  refine (cancelled_unanswered fresh_placid (history_follow _ _) visit_eq stage_eq flying ?_ step
    (history_follow next (rounds 10)) ?_ ?_).2
  · intro request member
    have member : request ∈ (ledger aboutToCancel.2.system).held := member
    rw [held, List.mem_singleton] at member
    simp [member, link_eq]
  · show (posted (aboutToCancel.1 ++ (follow next (rounds 10)).1)).countP _ ≤ 1
    rw [trace, posted, List.filterMap_append, ← posted, before, link_eq]
    decide +kernel
  · rw [trace]
    simp

/-! ### Where an answer may still follow -/

/-- A URB is answered after its cancellation was acknowledged. -/
def AnswersAcknowledged (link : LinkId) (trace : List Deed) : Prop :=
  [.session link (.cancelled 7),
    .session link (.served (.send (UnlinkReply.acknowledge 8 0).encode) true),
    .answered link (completion 7 (.ok ⟨1, []⟩)) true].Sublist trace

instance (link : LinkId) (trace : List Deed) : Decidable (AnswersAcknowledged link trace) :=
  inferInstanceAs (Decidable (List.Sublist _ _))

/-- The submit is still in the data channel when it is cancelled. -/
def cancelledEarly : List (Server.Event Party) :=
  firstImport ++ [.arrive 0 (placidSubmit.encode ++ placidUnlink)] ++ sessionMoves 9 ++ rounds 10

/-- The submit has left the books when it is cancelled, and its completion waits to be sent. -/
def cancelledLate : List (Server.Event Party) :=
  firstImport ++ [.arrive 0 placidSubmit.encode] ++ sessionMoves 4 ++
    moves [.loop .control, .worker 0, .job 1, .transfer 0, .worker 0] ++
    [.arrive 0 placidUnlink] ++ sessionMoves 5 ++ rounds 10

/-- Another submit of this number is left over from an earlier client. -/
def cancelledTwice : List (Server.Event Party) :=
  firstImport ++ [.arrive 0 placidSubmit.encode] ++ sessionMoves 4 ++ secondImport ++
    (List.replicate 12 (moves [.loop .control, .job 0, .job 1, .job 2])).flatten ++
    sessionMoves 3 ++ moves [.loop .control] ++
    [.arrive 1 (placidSubmit.encode ++ placidUnlink)] ++ sessionMoves 4 ++
    moves [.loop .control] ++ sessionMoves 5 ++ rounds 10

/-- The session releases the device while the transfer is still running. -/
def cancelledAtEnd : List (Server.Event Party) :=
  firstImport ++ [.arrive 0 placidSubmit.encode] ++ sessionMoves 4 ++
    moves [.loop .control, .worker 0, .job 1] ++ [.arrive 0 placidUnlink] ++ sessionMoves 5 ++
    [.finish 0] ++ sessionMoves 4 ++ moves [.transfer 0, .worker 0, .worker 0, .worker 0, .worker 0]

theorem answered_after_acknowledged :
    Fresh placid ∧
      ∀ run ∈ [(0, cancelledEarly), (0, cancelledLate), (1, cancelledTwice), (0, cancelledAtEnd)],
        History placid (follow placid run.2).1 (follow placid run.2).2 ∧
        (posted (follow placid run.2).1).countP (Names run.1 7) = 1 ∧
        AnswersAcknowledged run.1 (follow placid run.2).1 := by
  have runs : ∀ run ∈ [(0, cancelledEarly), (0, cancelledLate), (1, cancelledTwice),
      (0, cancelledAtEnd)], (posted (follow placid run.2).1).countP (Names run.1 7) = 1 ∧
        AnswersAcknowledged run.1 (follow placid run.2).1 := by decide +kernel
  exact ⟨fresh_placid, fun run member => ⟨history_follow _ _, runs run member⟩⟩

end UsbExport.Host

import Mathlib.Data.List.Nodup
import UsbExport.Proofs.Host.Draining
import UsbExport.Proofs.Host.Sent
import UsbExport.Proofs.Host.Tally

/-!
Completions of the URBs of one session. While the session has the device, every URB with a number of
its own that was not cancelled in flight is answered just once, every other one never, and the books
are empty whenever nothing is left to do.
-/

namespace UsbExport.Host

open Dispatch Socket

variable {Handle : Type}

/-! ### What is skipped while the device is marked busy -/

/-- Who skips a URB while the device is marked busy finds it unlinked. -/
theorem Happening.skips_marked [UsbHandle Handle] {server next : Server (Host Handle)}
    {deed : Option Deed} (happening : Happening server deed next)
    (busy : server.system.flags.busy = true) : ∀ work ∈ (ledger next.system).works, ∀ request,
      work.stage = .retiring request none →
        (∃ earlier ∈ (ledger server.system).works, earlier.stage = .retiring request none) ∨
          request.seqnum ∈ (ledger server.system).urbs.unlinked := by
  intro work member request stage_eq
  have came := happening.cameFrom work member
  rw [stage_eq] at came
  rcases came with idle | ⟨earlier, found, same | move⟩
  · cases idle
  · exact Or.inl ⟨earlier, found, same⟩
  · generalize earlier.stage = was at move
    cases move with
    | skips skip => exact Or.inr (skip.resolve_left (by simp [busy]))

/-! ### The accounts of a session at work -/

/-- Only a session does what a session does. -/
theorem deed?_ne_session [UsbHandle Handle] {system : System (Host Handle)} {party : Party}
    (other : party ≠ .session) (link : LinkId) (what : Session.Deed) :
    deed? system party ≠ some (.session link what) := by
  cases party with
  | session => exact absurd rfl other
  | loop preference =>
      simp only [deed?, loopDeed?]
      split
      · next order stage loop_eq => cases stage <;> simp [ImportStage.deed?]
      · simp
  | worker id =>
      simp only [deed?, ne_eq, Option.bind_eq_some_iff, not_exists, not_and]
      intro worker worker_eq
      unfold workerDeed?
      split
      · simp
      · simp
      · split <;> simp
      · simp
  | job id => simp [deed?]
  | transfer id => simp [deed?]

theorem note?_finds [UsbHandle Handle] (server : Server (Host Handle))
    (event : Server.Event Party) : Note.Finds (ledger server.system) (note? server event) := by
  intro link target said
  rw [note?_deed] at said
  cases event with
  | move party =>
      cases party with
      | acceptor => cases said
      | inner party =>
          by_cases own : party = .session
          · subst own
            obtain ⟨visit, visit_eq, said⟩ := Option.bind_eq_some_iff.1 said
            obtain ⟨what, what_eq, same⟩ := Option.map_eq_some_iff.1 said
            cases same
            show sessionNote? server.system = _
            rw [sessionNote?, visit_eq, Option.bind_some, what_eq]
          · exact absurd said (deed?_ne_session own link _)
  | _ => cases said

/-- What the accounts of a session at work need: nothing is held at the start of it by a worker, and
all URBs have numbers of their own. -/
structure StartsAfresh (system : System (Host Handle)) : Prop where
  unbooked : system.executor.urbs = {}
  idle : ∀ worker ∈ system.executor.workers,
    worker.queue = [] ∧ (worker.stage = .idle ∨ worker.stage = .stopped)

theorem StartsAfresh.tally {system : System (Host Handle)} (afresh : StartsAfresh system) :
    Tally [] (ledger system) := by
  have idle : ∀ work ∈ (ledger system).works, work.queue = [] ∧ work.stage.request? = none ∧
      work.stage.replies? = none := by
    intro work member
    obtain ⟨worker, found, rfl⟩ := List.mem_map.1 member
    obtain ⟨empty, idle | stopped⟩ := afresh.idle worker found
    · exact ⟨empty, by rw [Worker.work, idle]; rfl, by rw [Worker.work, idle]; rfl⟩
    · exact ⟨empty, by rw [Worker.work, stopped]; rfl, by rw [Worker.work, stopped]; rfl⟩
  have unemployed : (ledger system).employed = [] := by
    rw [Ledger.employed, List.flatMap_eq_nil_iff]
    intro work member
    rw [Work.held, (idle work member).1, (idle work member).2.1]
    rfl
  have silent : (ledger system).replies = [] :=
    List.filterMap_eq_nil_iff.2 fun work member => (idle work member).2.2
  have unbooked : (ledger system).urbs = {} := afresh.unbooked
  refine ⟨⟨?_, ?_, ?_⟩, ?_, ?_, ?_, ?_, ?_, ?_, ?_, ?_, ?_⟩
  · simp [unbooked]
  · intro work member request completion stage_eq
    simpa [stage_eq, WorkerStage.request?] using (idle work member).2.1
  · intro work member link completion ticket stage_eq
    simpa [stage_eq, WorkerStage.replies?] using (idle work member).2.2
  · simp [unemployed]
  · simp [unbooked]
  · simp [Struck]
  · intro work member request stage_eq
    simpa [stage_eq, WorkerStage.request?] using (idle work member).2.1
  · simp [deeds, answered, retired, silent]
  · simp [Struck]
  · simp [deeds]
  · simp [deeds]
  · simp

/-- Every URB that is held or comes to be has a number of its own. -/
def Distinct (mid : System (Host Handle)) (notes : List Note) : Prop :=
  (((ledger mid).held ++ posted (deeds notes)).map (·.seqnum)).Nodup

namespace Chronicle

variable [UsbHandle Handle] {start mid last : Server (Host Handle)} {before notes : List Note}
  {link : LinkId}

theorem apart (since : Chronicle mid notes last) (distinct : Distinct mid.system notes) :
    Apart (deeds notes) (ledger last.system) :=
  (since.history.held_perm.map _).nodup_iff.1 distinct

/-- No worker is dismissed while a session has the device. -/
theorem undismissed (past : Chronicle start notes mid) (fresh : Fresh start)
    (atWork : AtWork link (desk mid.system)) {event : Server.Event Party}
    (happened : Server.step company mid event = some last) :
    done? mid event ≠ some .cleared ∧
      ∀ other, done? mid event ≠ some (.session other .released) := by
  refine ⟨fun cleared => ?_, fun other released => ?_⟩
  · obtain ⟨visit, visit_eq, -, busy, -⟩ := atWork
    exact (past.history.asks fresh).order_of_busy visit_eq busy
      ((step_happening happened).order_of_cleared cleared)
  · rw [← note?_deed] at released
    obtain ⟨note, note_eq, same⟩ := Option.bind_eq_some_iff.1 released
    cases note with
    | deed what =>
        obtain rfl := Option.some.inj same
        exact atWork.unreleased (step_deskStep happened) other note_eq
    | _ => cases same

/-- The accounts are kept for as long as the session goes on. -/
theorem tally (past : Chronicle start before mid) (fresh : Fresh start)
    (atWork : AtWork link (desk mid.system)) (afresh : StartsAfresh mid.system)
    (since : Chronicle mid notes last) (unreset : .deed (.session link .reset) ∉ notes)
    (distinct : Distinct mid.system notes) : Tally notes (ledger last.system) := by
  induction since with
  | start => exact afresh.tally
  | @step notes server next since event happened ih =>
      have whole := past.append since
      have unreset' : .deed (.session link .reset) ∉ notes :=
        fun member => unreset (List.mem_append_left _ member)
      have distinct' : Distinct mid.system notes := by
        refine List.Nodup.sublist (List.Sublist.map _ ?_) distinct
        rw [deeds_append, posted_append, ← List.append_assoc]
        exact List.sublist_append_left _ _
      have atWork' := since.atWork atWork unreset'
      have happening := step_happening happened
      obtain ⟨uncleared, unreleased⟩ := whole.undismissed fresh atWork' happened
      obtain ⟨visit, visit_eq, link_eq, busy, going⟩ := atWork'
      have marked : server.system.flags.busy = true :=
        ((whole.grants fresh).kept visit visit_eq busy going).busy
      have step := happening.ledgerStep
      rw [← note?_deed] at step uncleared
      refine (ih unreset' distinct').step (since.apart distinct') (note?_finds server event) step
        uncleared (fun other released => unreleased other ?_) (happening.skips_marked marked)
      rw [← note?_deed, released]

end Chronicle

theorem mem_deeds {notes : List Note} {deed : Deed} (member : .deed deed ∈ notes) :
    deed ∈ deeds notes :=
  List.mem_filterMap.2 ⟨_, member, rfl⟩

/-- What becomes of the URB of a submit, since the session on a socket had the device. Its answers
are those that have had their turn and those that a worker is about to give. -/
structure AnsweredOnce (link : LinkId) (notes : List Note) (system : System (Host Handle))
    (request : SubmitRequest) : Prop where
  once : ¬Struck request.seqnum notes →
    (answered (deeds notes) ++ (ledger system).replies).count request.seqnum =
      if request ∈ (ledger system).held then 0 else 1
  never : Struck request.seqnum notes →
    request.seqnum ∉ answered (deeds notes) ++ (ledger system).replies
  /-- What is cancelled in its queue does not reach the device. -/
  untouched : ∀ other, .cancelled other request.seqnum .queued ∈ notes →
    .deed (.begun request) ∉ notes
  /-- An answer goes to whoever asked. -/
  addressed : ∀ other completion succeeded, .deed (.answered other completion succeeded) ∈ notes →
    completion.header.seqnum = request.seqnum → other = request.reply
  /-- If every frame got through, those that complete the URB are its answers. -/
  completed : request.reply = link → Unfailed system.executor link notes →
    ((sentFrames (outcomesAt system.executor link notes)).filterMap completed?).count
        request.seqnum.toNat = (answered (deeds notes)).count request.seqnum

/-- Where all answers for a number go to one client, it is as often completed there as answered. -/
theorem count_answerTo {link : LinkId} {seqnum : UInt32} {trace : List Deed}
    (addressed : ∀ other completion succeeded, .answered other completion succeeded ∈ trace →
      completion.header.seqnum = seqnum → other = link) :
    ((trace.filterMap (Deed.answerTo? link)).map Prod.fst).count seqnum.toNat =
      (answered trace).count seqnum := by
  rw [answered, List.map_filterMap, List.count_eq_countP, List.count_eq_countP,
    List.countP_filterMap, List.countP_filterMap]
  refine List.countP_congr fun deed member => ?_
  cases deed with
  | answered other completion succeeded =>
      by_cases same : completion.header.seqnum = seqnum
      · obtain rfl := addressed other completion succeeded member same
        simp [Deed.answerTo?, Deed.answered?, same]
      · have other_number : completion.header.seqnum.toNat ≠ seqnum.toNat :=
          fun equal => same (UInt32.toNat_inj.1 equal)
        by_cases here : other = link <;>
          simp [Deed.answerTo?, Deed.answered?, here, same, other_number]
  | _ => simp [Deed.answerTo?, Deed.answered?]

theorem drained_of_load {system : System (Host Handle)} (done : load system = 0) :
    (ledger system).held = [] ∧ (ledger system).replies = [] := by
  obtain ⟨⟨waiting, toil⟩, -⟩ : ((ledger system).waiting.length = 0 ∧
      ((ledger system).works.map Work.toil).sum = 0) ∧
        (system.visit.bind Visit.place?).toList.length = 0 := by
    simp only [load, Ledger.toil] at done
    omega
  have idle (work : Work) (member : work ∈ (ledger system).works) :
      work.held = [] ∧ work.stage.replies? = none := by
    have spent := List.sum_eq_zero_iff_forall_eq_nat.1 toil _ (List.mem_map_of_mem member)
    obtain ⟨queue, stage⟩ := work
    obtain ⟨stage_eq, queue_eq⟩ : stage.toil = 0 ∧ queue.length = 0 := by
      simp only [Work.toil] at spent
      omega
    obtain rfl := List.length_eq_zero_iff.1 queue_eq
    cases stage with
    | idle => exact ⟨rfl, rfl⟩
    | stopped => exact ⟨rfl, rfl⟩
    | transferring request begun => cases begun <;> cases stage_eq
    | retiring request completion => cases stage_eq
    | replying other completion ticket => cases ticket <;> cases stage_eq
  refine ⟨?_, List.filterMap_eq_nil_iff.2 fun work member => (idle work member).2⟩
  rw [Ledger.held, List.length_eq_zero_iff.1 waiting, List.nil_append]
  exact List.flatMap_eq_nil_iff.2 fun work member => (idle work member).1

/-- Where nothing is left to do, nobody stands in line. -/
theorem places_of_load {system : System (Host Handle)} (idle : system.executor.loop = .idle)
    (done : load system = 0) : places system = [] := by
  refine List.eq_nil_iff_forall_not_mem.2 fun place member => ?_
  rcases owner_of_place idle member with
    ⟨visit, visit_eq, -, wait_eq, wanted⟩ | ⟨id, worker, completion, worker_eq, stage_eq⟩
  · have placed : (system.visit.bind Visit.place?).toList.length = 0 := by
      rw [load] at done
      omega
    simp [visit_eq, Visit.place?, wait_eq, wanted] at placed
  · have found : completion.header.seqnum ∈ (ledger system).replies :=
      List.mem_filterMap.2 ⟨worker.work, List.mem_map_of_mem (List.mem_of_getElem? worker_eq),
        by rw [show worker.work.stage = _ from stage_eq]; rfl⟩
    rw [(drained_of_load done).2] at found
    cases found

section

variable [UsbHandle Handle] {start mid last : Server (Host Handle)} {before notes : List Note}
  {link : LinkId}

theorem AnsweredOnce.of_tally (fresh : Fresh start) (past : Chronicle start before mid)
    (atWork : AtWork link (desk mid.system)) (since : Chronicle mid notes last)
    (distinct : Distinct mid.system notes) (tally : Tally notes (ledger last.system))
    {request : SubmitRequest}
    (member : request ∈ (ledger mid.system).held ++ posted (deeds notes)) :
    AnsweredOnce link notes last.system request := by
  have apart := since.apart distinct
  have known := since.history.held_perm.mem_iff.1 member
  have addressed : ∀ other completion succeeded,
      .answered other completion succeeded ∈ deeds notes →
      completion.header.seqnum = request.seqnum → other = request.reply := by
    intro other completion succeeded answered same
    obtain ⟨sender, gone, reply_eq, same'⟩ := tally.addressed other completion succeeded answered
    obtain rfl : sender = request := List.inj_on_of_nodup_map apart
      (List.mem_append_left _ gone) known (same'.trans same)
    exact reply_eq.symm
  refine ⟨fun unstruck => ?_, tally.silent _, fun other cancelled begun => ?_,
    fun other completion succeeded answered =>
      addressed other completion succeeded (mem_deeds answered),
    fun reply_eq unfailed => ?_⟩
  · rw [tally.answers _ unstruck]
    split
    · next held =>
        rw [List.count_eq_zero]
        intro gone
        obtain ⟨other, gone, same⟩ := List.mem_map.1 gone
        exact apart.parts.2.2.2.1 other gone request held same
    · next unheld =>
        have gone := (List.mem_append.1 known).resolve_right unheld
        exact List.count_eq_one_of_mem apart.parts.1 (List.mem_map_of_mem gone)
  · exact (tally.unbegun other _ cancelled).2 request (mem_deeds begun) rfl
  · rw [filterMap_sentFrames unfailed, past.completions_since fresh atWork since]
    exact count_answerTo (reply_eq ▸ addressed)

/-- If no send to the client that has the device has failed, its socket has got the frames from
before that, and then the frames that were sent to it since. -/
theorem Chronicle.exists_written (whole : Chronicle start (before ++ notes) last)
    (fresh : Fresh start) (atWork : AtWork link (desk last.system))
    (unfailed : Unfailed last.system.executor link (before ++ notes)) :
    ∃ socket, last.system.links[link]? = some socket ∧
      socket.guard.sink.written =
        (sentFrames (outcomesAt last.system.executor link before)).flatten ++
        (sentFrames (outcomesAt last.system.executor link notes)).flatten ++
          socket.guard.takenSoFar := by
  obtain ⟨visit, visit_eq, rfl, -⟩ := atWork
  have socket_eq := List.getElem?_eq_getElem (whole.called fresh visit visit_eq).exists_link
  refine ⟨_, socket_eq, ?_⟩
  rw [(whole.receipts fresh).written_of_unfailed (guards_getElem? socket_eq) unfailed,
    outcomesAt_concat, sentFrames_append, List.flatten_append]

/-- The books are empty when nobody holds anything. -/
theorem Tally.urbs_eq {ledger : Ledger} (tally : Tally notes ledger) (drained : ledger.held = []) :
    ledger.urbs = {} := by
  have landed (seqnum : UInt32) : seqnum ∉ ledger.urbs.inFlight := by
    intro flying
    obtain ⟨request, employed, -⟩ := tally.books.employed_of_mem seqnum flying
    have held : request ∈ ledger.held := List.mem_append_right _ employed
    simp [drained] at held
  have linked (seqnum : UInt32) : seqnum ∉ ledger.urbs.unlinked :=
    fun unlinked => landed seqnum ((tally.unlinked_iff seqnum).1 unlinked).1
  show Urbs.mk ledger.urbs.inFlight ledger.urbs.unlinked = {}
  rw [List.eq_nil_iff_forall_not_mem.2 landed, List.eq_nil_iff_forall_not_mem.2 linked]

/-- Cancelling what is not in flight leaves the executor as it is. -/
theorem executor_eq_of_absent {server next : Server (Host Handle)} {event : Server.Event Party}
    (happened : Server.step company server event = some next) {other : LinkId} {target : UInt32}
    (made : note? server event = some (.cancelled other target .absent)) :
    next.system.executor = server.system.executor := by
  have said : done? server event = some (.session other (.cancelled target)) := by
    rw [← note?_deed, made]
    rfl
  have landed : target ∉ server.system.executor.urbs.inFlight := by
    have found := note?_finds server event other target (by rw [made]; rfl)
    rw [made] at found
    simp only [Option.some.injEq, Note.cancelled.injEq, true_and] at found
    exact fun flying => Ledger.find_ne_absent.2 flying found.symm
  have happening := step_happening happened
  rw [said] at happening
  generalize told : some (Deed.session other (.cancelled target)) = deed at happening
  cases happening with
  | @session visit what system visit_eq move =>
      cases move with
      | cancelled stage_eq =>
          cases told
          show { server.system.executor with urbs := server.system.executor.urbs.unlink target } = _
          rw [Urbs.unlink, if_neg landed]
      | _ => cases told
  | executor move => exact absurd told.symm (move.ne_session _ _)
  | _ => cases told

/-! ### At the end -/

/-- What brings everything to its end posts nothing and cancels nothing. -/
theorem posted_of_concluding {rest : List Note} (concluding : ∀ note ∈ rest, note.Concludes link) :
    posted (deeds rest) = [] := by
  refine List.filterMap_eq_nil_iff.2 fun deed member => ?_
  obtain ⟨note, noted, told⟩ := List.mem_filterMap.1 member
  have concludes := concluding note noted
  cases note with
  | deed _ =>
      cases told
      cases deed with
      | session other what =>
          obtain ⟨errand, succeeded, rfl, -⟩ := concludes
          rfl
      | _ => rfl
  | cancelled other target found => exact concludes.elim
  | _ => cases told

theorem struck_of_concluding {rest : List Note} (concluding : ∀ note ∈ rest, note.Concludes link)
    {seqnum : UInt32} : Struck seqnum (notes ++ rest) ↔ Struck seqnum notes := by
  refine ⟨?_, fun struck => struck.later rest⟩
  rintro ⟨other, found, member, present⟩
  rcases List.mem_append.1 member with earlier | later
  · exact ⟨other, found, earlier, present⟩
  · exact (concluding _ later).elim

/-- Everything that is sent to the client that has the device gets through on the way to the end. -/
theorem Chronicle.unfailed_of_concluding (past : Chronicle start before last) (fresh : Fresh start)
    (atWork : AtWork link (desk last.system)) {rest : List Note} {final : Server (Host Handle)}
    (future : Chronicle last rest final) (concluding : ∀ note ∈ rest, note.Concludes link)
    (host : Host Handle) : Unfailed host link rest := by
  intro frame failed
  obtain ⟨note, member, told⟩ := mem_outcomesAt.1 failed
  have unsaid := past.unsaid fresh atWork future note member
  have concludes := concluding note member
  unfold Note.outcome? at told
  split at told <;> cases told
  · obtain ⟨errand, succeeded, same, through⟩ := concludes
    cases same
    cases through rfl
  · cases concludes rfl
  · exact unsaid rfl
  · exact unsaid rfl

/-- From an empty table and idle workers on, and for as long as the session goes on, a URB that is
cancelled in flight is never answered, and every other one is answered once. If no send to the
client fails, its socket gets the frames one behind the other, and just one of them completes the
URB, or none. What is marked as unlinked is in flight; a cancellation that comes too early or too
late changes nothing; and when all queues are drained, nothing is left in the books. They can always
be drained, if the device finishes its transfers and the sockets take what they are offered. -/
theorem answered_once_unless_struck (fresh : Fresh start)
    (unasked : start.system.executor.jobs = []) (past : Chronicle start before mid)
    (atWork : AtWork link (desk mid.system)) (afresh : StartsAfresh mid.system)
    (since : Chronicle mid notes last) (unreset : .deed (.session link .reset) ∉ notes)
    (distinct : Distinct mid.system notes) :
    (∀ seqnum ∈ last.system.executor.urbs.unlinked,
      seqnum ∈ last.system.executor.urbs.inFlight) ∧
    (∀ request ∈ (ledger mid.system).held ++ posted (deeds notes),
      AnsweredOnce link notes last.system request) ∧
    (Unfailed last.system.executor link (before ++ notes) →
      ∃ socket, last.system.links[link]? = some socket ∧
        socket.guard.sink.written =
          (sentFrames (outcomesAt last.system.executor link before)).flatten ++
            (sentFrames (outcomesAt last.system.executor link notes)).flatten ++
              socket.guard.takenSoFar) ∧
    (∀ event next other target, Server.step company last event = some next →
      note? last event = some (.cancelled other target .absent) →
        next.system.executor = last.system.executor) ∧
    ((ledger last.system).held = [] → last.system.executor.urbs = {}) ∧
    (Accepting last.system →
      (∀ (handle : Handle) (address : UInt8), UsbHandle.mayFinish handle address = true) →
        ∃ rest final, Chronicle last rest final ∧ (∀ note ∈ rest, note.Concludes link) ∧
          (ledger final.system).held = [] ∧ final.system.executor.urbs = {} ∧
          (∀ request ∈ (ledger mid.system).held ++ posted (deeds notes),
            (¬Struck request.seqnum notes →
              (answered (deeds (notes ++ rest))).count request.seqnum = 1) ∧
            (Struck request.seqnum notes →
              (answered (deeds (notes ++ rest))).count request.seqnum = 0)) ∧
          (Unfailed last.system.executor link (before ++ notes) →
            ∃ socket frames, final.system.links[link]? = some socket ∧
              frames = sentFrames (outcomesAt last.system.executor link (notes ++ rest)) ∧
              socket.guard.sink.written =
                (sentFrames (outcomesAt last.system.executor link before)).flatten ++
                  frames.flatten ∧
              ∀ request ∈ (ledger mid.system).held ++ posted (deeds notes), request.reply = link →
                (¬Struck request.seqnum notes →
                  (frames.filterMap completed?).count request.seqnum.toNat = 1) ∧
                (Struck request.seqnum notes →
                  (frames.filterMap completed?).count request.seqnum.toNat = 0))) := by
  have tally := past.tally fresh atWork afresh since unreset distinct
  have atWork' := since.atWork atWork unreset
  have soFar := past.append since
  refine ⟨fun seqnum unlinked => ((tally.unlinked_iff seqnum).1 unlinked).1,
    fun request member => .of_tally fresh past atWork since distinct tally member,
    fun unfailed => soFar.exists_written fresh atWork' unfailed,
    fun event next other target happened made => executor_eq_of_absent happened made,
    tally.urbs_eq, fun accepting able => ?_⟩
  obtain ⟨rest, final, future, done, concluding⟩ :=
    soFar.drains fresh unasked atWork' accepting able
  obtain ⟨drained, silent⟩ := drained_of_load done
  have unreset' : .deed (.session link .reset) ∉ notes ++ rest := by
    refine fun member => (List.mem_append.1 member).elim unreset fun later => ?_
    obtain ⟨errand, succeeded, same, -⟩ := concluding _ later
    cases same
  have posted_eq : posted (deeds (notes ++ rest)) = posted (deeds notes) := by
    rw [deeds, List.filterMap_append, posted, List.filterMap_append]
    exact (congrArg _ (posted_of_concluding concluding)).trans (List.append_nil _)
  have distinct' : Distinct mid.system (notes ++ rest) := by
    rw [Distinct, posted_eq]
    exact distinct
  have whole := since.append future
  have tally' := past.tally fresh atWork afresh whole unreset' distinct'
  have outcome (request : SubmitRequest)
      (member : request ∈ (ledger mid.system).held ++ posted (deeds notes)) :
      AnsweredOnce link (notes ++ rest) final.system request :=
    .of_tally fresh past atWork whole distinct' tally' (posted_eq ▸ member)
  have counted (request : SubmitRequest)
      (member : request ∈ (ledger mid.system).held ++ posted (deeds notes)) :
      (¬Struck request.seqnum notes →
        (answered (deeds (notes ++ rest))).count request.seqnum = 1) ∧
      (Struck request.seqnum notes →
        (answered (deeds (notes ++ rest))).count request.seqnum = 0) := by
    have once := (outcome request member).once
    have never := (outcome request member).never
    rw [struck_of_concluding concluding, silent, List.append_nil] at once never
    rw [drained, if_neg List.not_mem_nil] at once
    exact ⟨once, fun struck => List.count_eq_zero.2 (never struck)⟩
  refine ⟨rest, final, future, concluding, drained, tally'.urbs_eq drained, counted,
    fun unfailed => ?_⟩
  have through := soFar.unfailed_of_concluding fresh atWork' future concluding last.system.executor
  have all := past.append whole
  have atWork'' := whole.atWork atWork unreset'
  have same (some : List Note) : outcomesAt final.system.executor link some =
      outcomesAt last.system.executor link some := outcomesAt_congr future.device_eq link some
  obtain ⟨socket, socket_eq, written⟩ := all.exists_written fresh atWork'' (by
    rw [Unfailed, same, ← List.append_assoc]
    exact unfailed.append through)
  -- nobody stands in line any more, so no frame is under way
  have silent : socket.guard.takenSoFar = [] := by
    refine ((all.receipts fresh).underway (guards_getElem? socket_eq)).resolve_right ?_
    rintro ⟨ticket, frame, standing, -⟩
    have placed := (all.lines fresh).place (guards_getElem? socket_eq) standing
    rw [places_of_load (all.idle_of_atWork fresh atWork'') done] at placed
    cases placed
  rw [silent, List.append_nil, same, same] at written
  refine ⟨socket, _, socket_eq, rfl, written, fun request member reply_eq => ?_⟩
  have completed := (outcome request member).completed reply_eq
  rw [Unfailed, same] at completed
  rw [completed (unfailed.of_append.append through)]
  exact counted request member

end

def laterSubmit : Submit := { placidSubmit with header := ⟨1, 9, 1, 0, 2⟩ }

/-- Two submits for one endpoint come in, and the second is cancelled before its turn. -/
def cancelsQueued : List (Server.Event Party) :=
  [.arrive 0 (laterSubmit.encode ++ placidSubmit.encode ++ placidUnlink)] ++ sessionMoves 8 ++
    moves [.loop .data, .loop .data] ++ sessionMoves 4

def secondCancelled : List Note × Server (Host Placid) :=
  retell (retell placid firstImport).2 cancelsQueued

theorem answered_once_of_two_submits :
    secondCancelled.1 = [.deed (.session 0 (.offered laterSubmit true)),
        .deed (.session 0 (.offered placidSubmit true)), .deed (.accepted ⟨laterSubmit, 0⟩),
        .deed (.accepted ⟨placidSubmit, 0⟩), .cancelled 0 7 .queued] ∧
      secondCancelled.2.system.executor.urbs = ⟨[7, 9], [7]⟩ ∧
      ∃ rest final socket, ∃ frames : List Bytes, Chronicle secondCancelled.2 rest final ∧
        (∀ note ∈ rest, note.Concludes 0) ∧ (ledger final.system).held = [] ∧
        (answered (deeds (secondCancelled.1 ++ rest))).count 9 = 1 ∧
        (answered (deeds (secondCancelled.1 ++ rest))).count 7 = 0 ∧
        final.system.links[0]? = some socket ∧
        socket.guard.sink.written =
          (sentFrames (outcomesAt secondCancelled.2.system.executor 0
            (retell placid firstImport).1)).flatten ++ frames.flatten ∧
        (frames.filterMap completed?).count 9 = 1 ∧ (frames.filterMap completed?).count 7 = 0 := by
  have told : secondCancelled.1 = [.deed (.session 0 (.offered laterSubmit true)),
      .deed (.session 0 (.offered placidSubmit true)), .deed (.accepted ⟨laterSubmit, 0⟩),
      .deed (.accepted ⟨placidSubmit, 0⟩), .cancelled 0 7 .queued] := by decide +kernel
  have marked : secondCancelled.2.system.executor.urbs = ⟨[7, 9], [7]⟩ := by decide +kernel
  have modes : (guards secondCancelled.2.system).map (·.sink.mode) = [.accept] := by
    decide +kernel
  have workers : (retell placid firstImport).2.system.executor.workers.length = 0 := by
    decide +kernel
  have held : (ledger (retell placid firstImport).2.system).held = [] := by decide +kernel
  have afresh : StartsAfresh (retell placid firstImport).2.system :=
    ⟨by decide +kernel, by simp [List.length_eq_zero_iff.1 workers]⟩
  have distinct : Distinct (retell placid firstImport).2.system secondCancelled.1 := by
    rw [Distinct, held, told]
    decide +kernel
  have accepting : Accepting secondCancelled.2.system := by
    intro guard member
    have mode := List.mem_map_of_mem (f := fun guard : Guard => guard.sink.mode) member
    rw [modes] at mode
    simpa using mode
  have unfailed : Unfailed secondCancelled.2.system.executor 0
      ((retell placid firstImport).1 ++ secondCancelled.1) := .of_all (by decide +kernel)
  have settled := answered_once_unless_struck fresh_placid rfl (chronicle_retell placid firstImport)
    atWork_firstImport afresh (chronicle_retell _ cancelsQueued)
    (by rw [← secondCancelled, told]; simp) distinct
  rw [← secondCancelled] at settled
  obtain ⟨rest, final, future, concluding, drained, -, outcome, wire⟩ :=
    settled.2.2.2.2.2 accepting fun _ _ => rfl
  obtain ⟨socket, frames, socket_eq, -, written, completed⟩ := wire unfailed
  have later : ⟨laterSubmit, 0⟩ ∈ (ledger (retell placid firstImport).2.system).held ++
      posted (deeds secondCancelled.1) := by
    rw [told]
    simp [deeds, Note.deed?, posted, Deed.posted?]
  have second : ⟨placidSubmit, 0⟩ ∈ (ledger (retell placid firstImport).2.system).held ++
      posted (deeds secondCancelled.1) := by
    rw [told]
    simp [deeds, Note.deed?, posted, Deed.posted?]
  have unstruck : ¬Struck (SubmitRequest.seqnum ⟨laterSubmit, 0⟩) secondCancelled.1 := by
    rintro ⟨other, found, member, -⟩
    rw [told] at member
    simp [SubmitRequest.seqnum, laterSubmit] at member
  have struck : Struck (SubmitRequest.seqnum ⟨placidSubmit, 0⟩) secondCancelled.1 := by
    refine ⟨0, .queued, ?_, by simp⟩
    rw [told]
    simp [SubmitRequest.seqnum, placidSubmit]
  exact ⟨told, marked, rest, final, socket, frames, future, concluding, drained,
    (outcome _ later).1 unstruck, (outcome _ second).2 struck, socket_eq, written,
    (completed _ later rfl).1 unstruck, (completed _ second rfl).2 struck⟩

end UsbExport.Host

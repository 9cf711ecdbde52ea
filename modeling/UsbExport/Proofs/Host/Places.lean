import UsbExport.Proofs.Host.Cancellation
import UsbExport.Proofs.Host.Desk
import UsbExport.Proofs.Socket.Lines

/-!
Who stands in line at the sockets of a server. Session, loop and workers each have at most one place
in one line; the line of a socket holds exactly those who have a place at it, so whoever has a turn
gets what became of its own frame.
-/

namespace UsbExport

open Dispatch Socket

/-- Somebody's place in the line of a socket. -/
structure Place where
  link : LinkId
  waiter : Waiter
deriving DecidableEq

def Visit.place? (visit : Visit) : Option Place :=
  match visit.wait, visit.session.stage.errand? with
  | .turn ticket, some errand => some ⟨visit.link, ticket, errand⟩
  | _, _ => none

/-- Those who have a place in this line. -/
def waitersAt (link : LinkId) (places : List Place) : List Waiter :=
  places.filterMap fun place => if place.link = link then some place.waiter else none

namespace Session

theorem errand?_of_wants {session : Session} {limit : Nat} (wants : session.wants = some limit) :
    session.stage.errand? = none := by
  unfold Session.wants at wants
  split at wants <;> next stage_eq => first | (rw [stage_eq]; rfl) | cases wants

/-- What a read brings does not send a session to the socket. -/
theorem errand?_receive {session : Session} {limit : Nat} (wants : session.wants = some limit)
    (limits : SessionLimits) (arrival : Arrival) :
    (session.receive limits arrival).stage.errand? = none := by
  have follows := followsRead_receive wants limits arrival
  generalize (session.receive limits arrival).stage = stage at follows
  cases stage <;> first | rfl | cases follows

end Session

namespace Host

variable {Handle : Type}

def loopPlace? (host : Host Handle) : Option Place :=
  match host.loop with
  | .listing version link _ (some ticket) =>
      some ⟨link, ticket, .send (Reply.listOf version [host.device]).encode⟩
  | .importing order (.replying accepted (some ticket)) =>
      some ⟨order.reply, ticket, .send (importReply host order.version accepted).encode⟩
  | _ => none

def WorkerStage.place? : WorkerStage → Option Place
  | .replying link completion (some ticket) =>
      some ⟨link, ticket, .send (Reply.completed completion).encode⟩
  | _ => none

def workerPlaces (workers : List Worker) : List Place :=
  workers.filterMap fun worker => worker.stage.place?

def places (system : System (Host Handle)) : List Place :=
  (system.visit.bind Visit.place?).toList ++
    ((loopPlace? system.executor).toList ++ workerPlaces system.executor.workers)

def guards (system : System (Host Handle)) : List Guard := system.links.map Link.guard

/-- The errand whose turn a note tells the end of, and whether it went well. -/
def Note.outcome? (host : Host Handle) : Note → Option (LinkId × Errand × Bool)
  | .deed (.session link (.served errand succeeded)) => some (link, errand, succeeded)
  | .deed (.answered link completion succeeded) =>
      some (link, .send (Reply.completed completion).encode, succeeded)
  | .replied order accepted succeeded =>
      some (order.reply, .send (importReply host order.version accepted).encode, succeeded)
  | .listed version link _ succeeded =>
      some (link, .send (Reply.listOf version [host.device]).encode, succeeded)
  | _ => none

/-- What can happen in the lines of a server: somebody joins one, gets on at its head, or has had
the turn. -/
inductive LineStep (system next : System (Host Handle)) :
    Option (LinkId × Errand × Bool) → Prop
  | rests (places_perm : (places next).Perm (places system))
      (guards_eq : guards next = guards system) : LineStep system next none
  | opens (places_perm : (places next).Perm (places system))
      (guards_eq : guards next = guards system ++ [{ timeout := system.config.sendTimeout }]) :
      LineStep system next none
  | tunes {link : LinkId} {guard : Guard} (guard_eq : (guards system)[link]? = some guard)
      (mode : WriteMode) (places_perm : (places next).Perm (places system))
      (guards_eq : guards next = (guards system).set link (guard.setMode mode)) :
      LineStep system next none
  | stands {link : LinkId} {guard : Guard} (guard_eq : (guards system)[link]? = some guard)
      (errand : Errand)
      (places_perm : (places next).Perm (⟨link, guard.issued, errand⟩ :: places system))
      (guards_eq : guards next = (guards system).set link (guard.request errand).2) :
      LineStep system next none
  | turns {link : LinkId} {guard guard' : Guard} (guard_eq : (guards system)[link]? = some guard)
      {ticket : Ticket} {now : Nat}
      (polled : guard.poll ticket now = .advanced guard' ∨ guard.poll ticket now = .paused guard')
      (places_perm : (places next).Perm (places system))
      (guards_eq : guards next = (guards system).set link guard') : LineStep system next none
  | leaves {link : LinkId} {guard guard' : Guard} (guard_eq : (guards system)[link]? = some guard)
      {ticket : Ticket} {errand : Errand} {now : Nat} {result : Except SendError Unit}
      (polled : guard.poll ticket now = .finished guard' result)
      (places_perm : (places system).Perm (⟨link, ticket, errand⟩ :: places next))
      (guards_eq : guards next = (guards system).set link guard') :
      LineStep system next (some (link, errand, result.isOk))

/-- Every line holds those who have a place in it, and nobody has one elsewhere. -/
structure Lines (system : System (Host Handle)) : Prop where
  lined : ∀ (link : LinkId) (guard : Guard), (guards system)[link]? = some guard →
    guard.Lined (waitersAt link (places system))
  placed : ∀ place ∈ places system, place.link < (guards system).length

theorem waitersAt_cons_self (link : LinkId) (waiter : Waiter) (places : List Place) :
    waitersAt link (⟨link, waiter⟩ :: places) = waiter :: waitersAt link places := by
  simp [waitersAt]

theorem waitersAt_cons_of_ne {link other : LinkId} (apart : other ≠ link) (waiter : Waiter)
    (places : List Place) : waitersAt link (⟨other, waiter⟩ :: places) = waitersAt link places := by
  simp [waitersAt, apart]

namespace Lines

variable {system next : System (Host Handle)}

/-- One line changes, and the others hold whom they held. -/
theorem of_set (lines : Lines system) {link : LinkId} {guard guard' : Guard}
    (guard_eq : (guards system)[link]? = some guard)
    (guards_eq : guards next = (guards system).set link guard')
    (here : guard.Lined (waitersAt link (places system)) →
      guard'.Lined (waitersAt link (places next)))
    (elsewhere : ∀ other, link ≠ other →
      (waitersAt other (places system)).Perm (waitersAt other (places next)))
    (placed : ∀ place ∈ places next, place.link < (guards system).length) : Lines next where
  lined := by
    intro other found found_eq
    rw [guards_eq] at found_eq
    by_cases same : link = other
    · subst same
      rw [List.getElem?_set_self (List.getElem?_eq_some_iff.1 guard_eq).1] at found_eq
      obtain rfl := Option.some.inj found_eq
      exact here (lines.lined link guard guard_eq)
    · rw [List.getElem?_set_ne same] at found_eq
      exact (lines.lined other found found_eq).of_perm (elsewhere other same)
  placed := by
    rw [guards_eq, List.length_set]
    exact placed

theorem step (lines : Lines system) {outcome : Option (LinkId × Errand × Bool)}
    (step : LineStep system next outcome) : Lines next := by
  have same (perm : (places next).Perm (places system)) (link : LinkId) :
      (waitersAt link (places system)).Perm (waitersAt link (places next)) :=
    (perm.filterMap _).symm
  have kept (perm : (places next).Perm (places system)) :
      ∀ place ∈ places next, place.link < (guards system).length :=
    fun place member => lines.placed place (perm.mem_iff.1 member)
  cases step with
  | rests places_perm guards_eq =>
      refine ⟨fun link guard guard_eq => ?_, ?_⟩
      · rw [guards_eq] at guard_eq
        exact (lines.lined link guard guard_eq).of_perm (same places_perm link)
      · rw [guards_eq]
        exact kept places_perm
  | opens places_perm guards_eq =>
      refine ⟨fun link guard guard_eq => ?_, fun place member => ?_⟩
      · rw [guards_eq] at guard_eq
        by_cases old : link < (guards system).length
        · rw [List.getElem?_append_left old] at guard_eq
          exact (lines.lined link guard guard_eq).of_perm (same places_perm link)
        · have nobody : waitersAt link (places next) = [] := by
            refine List.filterMap_eq_nil_iff.2 fun place member => if_neg ?_
            rintro rfl
            exact old (kept places_perm place member)
          rw [List.getElem?_append_right (Nat.le_of_not_lt old), List.getElem?_singleton]
            at guard_eq
          split at guard_eq <;> cases guard_eq
          rw [nobody]
          exact .fresh _
      · rw [guards_eq, List.length_append]
        exact Nat.lt_add_right _ (kept places_perm place member)
  | tunes guard_eq mode places_perm guards_eq =>
      exact lines.of_set guard_eq guards_eq
        (fun lined => (lined.setMode mode).of_perm (same places_perm _))
        (fun other _ => same places_perm other) (kept places_perm)
  | @stands link guard guard_eq errand places_perm guards_eq =>
      refine lines.of_set guard_eq guards_eq (fun lined => ?_) (fun other apart => ?_)
        fun place member => ?_
      · refine (lined.request errand).of_perm ?_
        rw [← waitersAt_cons_self]
        exact (places_perm.filterMap _).symm
      · rw [← waitersAt_cons_of_ne apart ⟨guard.issued, errand⟩]
        exact (places_perm.filterMap _).symm
      · rcases List.mem_cons.1 (places_perm.mem_iff.1 member) with rfl | old
        · exact (List.getElem?_eq_some_iff.1 guard_eq).1
        · exact lines.placed place old
  | turns guard_eq polled places_perm guards_eq =>
      exact lines.of_set guard_eq guards_eq
        (fun lined => (lined.moved polled).of_perm (same places_perm _))
        (fun other _ => same places_perm other) (kept places_perm)
  | @leaves link guard guard' guard_eq ticket errand now result polled places_perm guards_eq =>
      refine lines.of_set guard_eq guards_eq (fun lined => ?_) (fun other apart => ?_)
        fun place member => lines.placed place (places_perm.mem_iff.2 (List.mem_cons_of_mem _ member))
      · have before := lined.of_perm (places_perm.filterMap _)
        rw [← waitersAt, waitersAt_cons_self] at before
        exact (before.finished polled).2
      · rw [← waitersAt_cons_of_ne apart ⟨ticket, errand⟩ (places next)]
        exact places_perm.filterMap _

/-- Whoever has a place is the one whose turn ends when it moves. -/
theorem head (lines : Lines system) {link : LinkId} {ticket : Ticket} {errand : Errand}
    (member : ⟨link, ticket, errand⟩ ∈ places system) {guard guard' : Guard}
    (guard_eq : (guards system)[link]? = some guard) {now : Nat} {result : Except SendError Unit}
    (polled : guard.poll ticket now = .finished guard' result) :
    ∃ line, guard.line = ⟨ticket, errand⟩ :: line := by
  have lined := (lines.lined link guard guard_eq).of_perm
    ((List.perm_cons_erase member).filterMap _)
  rw [← waitersAt, waitersAt_cons_self] at lined
  exact (lined.finished polled).1

end Lines

/-! ### The sockets that are spoken of -/

/-- The socket that the reply to the request in hand goes to. -/
def LoopStage.link? : LoopStage → Option LinkId
  | .listing _ link _ _ => some link
  | .importing order _ => some order.reply
  | _ => none

/-- The sockets that an answer is still to go to: of the request in hand, and of those that wait and
have a slot. -/
def Desk.askers (desk : Desk) : List LinkId :=
  desk.loop.link?.toList ++ (desk.queue.filter (·.command.slot?.isSome)).map (·.reply)

theorem LoopStage.link?_ofRequest {request : ControlRequest} {link : LinkId}
    (mem : link ∈ (ofRequest request).link?) :
    link = request.reply ∧ request.command.slot?.isSome := by
  obtain ⟨header, command, reply⟩ := request
  cases command <;> cases mem <;> exact ⟨rfl, rfl⟩

/-- Only the session that is served asks for anything. -/
theorem DeskStep.askers {before after : Desk} {note : Option Note}
    (step : DeskStep before note after) {link : LinkId} (mem : link ∈ after.askers) :
    link ∈ before.askers ∨ ∃ visit, before.visit = some visit ∧ visit.link = link ∧
      (visit.session.stage.request? before.slots.length).isSome := by
  have same {loop : LoopStage} (loop_eq : loop.link? = before.loop.link?)
      (mem : link ∈ loop.link?.toList ++
        (before.queue.filter (·.command.slot?.isSome)).map (·.reply)) : link ∈ before.askers := by
    rwa [loop_eq] at mem
  have done (mem : link ∈ LoopStage.idle.link?.toList ++
      (before.queue.filter (·.command.slot?.isSome)).map (·.reply)) : link ∈ before.askers :=
    List.mem_append_right _ mem
  cases step with
  | @asks visit visit_eq header command posting =>
      simp only [Desk.askers, List.filter_append, List.map_append, List.mem_append] at mem ⊢
      rcases mem with mem | mem | mem
      · exact Or.inl (Or.inl mem)
      · exact Or.inl (Or.inr mem)
      · obtain ⟨request, member, link_eq⟩ := List.mem_map.1 mem
        rw [List.mem_singleton.1 (List.mem_filter.1 member).1] at link_eq
        exact Or.inr ⟨visit, visit_eq, link_eq, by rw [posting]; rfl⟩
  | @takes request queue idle queue_eq =>
      refine Or.inl (List.mem_append_right _ ?_)
      rw [queue_eq]
      rcases List.mem_append.1 mem with mem | mem
      · obtain ⟨rfl, slotted⟩ := LoopStage.link?_ofRequest (Option.mem_toList.1 mem)
        exact List.mem_map_of_mem (List.mem_filter.2 ⟨List.mem_cons_self .., slotted⟩)
      · exact (((List.sublist_cons_self ..).filter _).map _).subset mem
  | listStands loop_eq => exact Or.inl (same (by rw [loop_eq]; rfl) mem)
  | lists loop_eq => exact Or.inl (done mem)
  | listAnswers loop_eq => exact Or.inl (done mem)
  | goesOn loop_eq => exact Or.inl (same (by rw [loop_eq]; rfl) mem)
  | passes loop_eq => exact Or.inl (same (by rw [loop_eq]; rfl) mem)
  | refuses loop_eq => exact Or.inl (same (by rw [loop_eq]; rfl) mem)
  | unclaimable loop_eq => exact Or.inl (same (by rw [loop_eq]; rfl) mem)
  | records loop_eq => exact Or.inl (same (by rw [loop_eq]; rfl) mem)
  | marks loop_eq => exact Or.inl (same (by rw [loop_eq]; rfl) mem)
  | replies loop_eq => exact Or.inl (same (by rw [loop_eq]; rfl) mem)
  | unmarks loop_eq => exact Or.inl (same (by rw [loop_eq]; rfl) mem)
  | unclaims loop_eq => exact Or.inl (same (by rw [loop_eq]; rfl) mem)
  | confirms loop_eq => exact Or.inl (done mem)
  | _ => exact Or.inl mem

/-- All sockets that anybody has to do with exist. -/
structure Linked (server : Server (Host Handle)) : Prop where
  line_lt : ∀ link ∈ server.line, link < server.system.links.length
  visit_lt : ∀ visit, server.system.visit = some visit → visit.link < server.system.links.length
  askers_lt : ∀ link ∈ (desk server.system).askers, link < server.system.links.length
  held_lt : ∀ request ∈ (ledger server.system).held, request.reply < server.system.links.length
  replying_lt : ∀ work ∈ (ledger server.system).works, ∀ link completion ticket,
    work.stage = .replying link completion ticket → link < server.system.links.length

theorem Happening.length_le [UsbHandle Handle] {server next : Server (Host Handle)}
    {deed : Option Deed} (happening : Happening server deed next) :
    server.system.links.length ≤ next.system.links.length := by
  cases happening with
  | session visit_eq move => exact Nat.le_of_eq (SessionMove.frame visit_eq move).2.1.symm
  | executor move =>
      rcases move.takes_or_proceeds with ⟨request, control, loop, -, -, rfl, -⟩ | proceeds
      · exact Nat.le_refl _
      · exact Nat.le_of_eq proceeds.links_eq.symm
  | connects guard => simp
  | around length_eq now => exact Nat.le_of_eq length_eq.symm
  | _ => exact Nat.le_refl _

/-- What is held afterwards was held before or has just been posted. -/
theorem LedgerStep.held_after {before after : Ledger} {deed : Option Deed}
    (step : LedgerStep before deed after) {request : SubmitRequest} (held : request ∈ after.held) :
    request ∈ before.held ∨ request ∈ deed.bind Deed.posted? := by
  have found := step.held_perm.mem_iff.2 (List.mem_append_right _ held)
  rwa [List.mem_append, Option.mem_toList] at found

theorem Linked.happening [UsbHandle Handle] {server next : Server (Host Handle)}
    {trace : List Deed} {deed : Option Deed} {note : Option Note} (linked : Linked server)
    (happening : Happening server deed next) (books : Books trace (ledger server.system))
    (atDesk : DeskStep (desk server.system) note (desk next.system)) : Linked next := by
  have kept {link : LinkId} (short : link < server.system.links.length) :
      link < next.system.links.length := Nat.lt_of_lt_of_le short happening.length_le
  refine ⟨?_, ?_, fun link mem => ?_, fun request held => ?_, fun work member link completion
    ticket stage_eq => ?_⟩
  · cases happening with
    | serves unvisited line_eq =>
        exact fun link member => linked.line_lt link (by rw [line_eq]; exact .tail _ member)
    | connects guard =>
        intro link member
        rcases List.mem_append.1 member with member | member
        · exact kept (linked.line_lt link member)
        · rw [List.mem_singleton.1 member]
          simp
    | _ => exact fun link member => kept (linked.line_lt link member)
  · cases happening with
    | session visit_eq move =>
        obtain ⟨⟨session, wait, visit_eq'⟩, -⟩ := SessionMove.frame visit_eq move
        have short := linked.visit_lt _ visit_eq
        intro visit eq
        obtain rfl := Option.some.inj (visit_eq'.symm.trans eq)
        exact kept short
    | executor move =>
        rcases move.takes_or_proceeds with ⟨request, control, loop, -, -, rfl, -⟩ | proceeds
        · exact linked.visit_lt
        · intro visit eq
          rw [proceeds.links_eq]
          exact linked.visit_lt visit (proceeds.visit_eq ▸ eq)
    | departs visit_eq ended isStopped => simp
    | @serves link line unvisited line_eq =>
        intro visit eq
        obtain rfl := Option.some.inj eq
        exact linked.line_lt link (by simp [line_eq])
    | _ => exact fun visit eq => kept (linked.visit_lt visit eq)
  · rcases atDesk.askers mem with mem | ⟨visit, visit_eq, rfl, -⟩
    · exact kept (linked.askers_lt link mem)
    · exact kept (linked.visit_lt visit visit_eq)
  · rcases happening.ledgerStep.held_after held with held | posted
    · exact kept (linked.held_lt request held)
    · obtain ⟨what, rfl, found⟩ := Option.bind_eq_some_iff.1 posted
      obtain ⟨visit, visit_eq, link_eq⟩ :=
        happening.visit_of_session (congrArg some (Deed.eq_of_posted? found))
      rw [← link_eq]
      exact kept (linked.visit_lt visit visit_eq)
  · rcases happening.ledgerStep.replying books ⟨work, member, stage_eq⟩ with
      ⟨earlier, member, ticket, stage_eq⟩ | ⟨request, held, rfl, -⟩
    · exact kept (linked.replying_lt earlier member link completion ticket stage_eq)
    · exact kept (linked.held_lt request held)

theorem Chronicle.linked [UsbHandle Handle] {start server : Server (Host Handle)}
    {notes : List Note} (chronicle : Chronicle start notes server) (fresh : Fresh start) :
    Linked server := by
  induction chronicle with
  | start =>
      refine ⟨?_, ?_, ?_, ?_, ?_⟩
      · simp [fresh.unlined]
      · simp [fresh.unvisited]
      · simp [Desk.askers, desk, fresh.idle, fresh.unposted.2, LoopStage.link?]
      · simp [fresh.ledger_eq, Ledger.held, Ledger.employed]
      · simp [fresh.ledger_eq]
  | step chronicle event happened ih =>
      exact ih.happening (step_happening happened) (chronicle.history.books fresh)
        (step_deskStep happened)

/-! ### Every event is one of these steps -/

theorem guards_mapLink (system : System (Host Handle)) (link : LinkId) {change : Link → Link}
    {f : Guard → Guard} (guard_eq : ∀ socket, (change socket).guard = f socket.guard) :
    guards (system.mapLink link change) = (guards system).modify link f := by
  refine List.ext_getElem? fun other => ?_
  simp only [guards, System.mapLink, List.getElem?_map, List.getElem?_modify]
  cases system.links[other]? <;> by_cases same : link = other <;> simp [same, guard_eq]

/-- What arrives at a socket leaves its line alone. -/
theorem guards_of_inbox (system : System (Host Handle)) (link : LinkId) {change : Link → Link}
    (guard_eq : ∀ socket, (change socket).guard = socket.guard) :
    guards (system.mapLink link change) = guards system := by
  have eq := guards_mapLink system link (f := id) guard_eq
  rwa [List.modify_id] at eq

theorem guards_setGuard (system : System (Host Handle)) (link : LinkId) (guard : Guard) :
    guards (system.setGuard link guard) = (guards system).set link guard := by
  rw [System.setGuard, guards_mapLink system link (f := fun _ => guard) fun _ => rfl,
    List.modify_eq_set]

theorem guards_getElem? {system : System (Host Handle)} {link : LinkId} {socket : Link}
    (socket_eq : system.links[link]? = some socket) :
    (guards system)[link]? = some socket.guard := by
  simp [guards, socket_eq]

/-- A release takes nobody out of a line. -/
theorem release_places (host : Host Handle) :
    loopPlace? host.release = loopPlace? host ∧
      workerPlaces host.release.workers = workerPlaces host.workers := by
  unfold release
  dsimp only
  split
  · exact ⟨rfl, by simp only [workerPlaces, forgetUrbs, List.filterMap_map]; rfl⟩
  · exact ⟨rfl, by simp only [workerPlaces, forgetUrbs, addJob, List.filterMap_map]; rfl⟩

/-- A submit that comes to a worker stands in no line. -/
theorem accept_places (host : Host Handle) (request : SubmitRequest) :
    loopPlace? (host.accept request) = loopPlace? host ∧
      workerPlaces (host.accept request).workers = workerPlaces host.workers := by
  unfold accept enqueue
  dsimp only
  split
  · next id found =>
      obtain ⟨short, -⟩ := List.findIdx?_eq_some_iff_getElem.1 found
      obtain ⟨front, back, workers_eq, set_eq⟩ := exists_split (List.getElem?_eq_getElem short)
      refine ⟨rfl, ?_⟩
      rw [List.modify_eq_set, List.getElem?_eq_getElem short]
      simp only [Option.getD_some, set_eq]
      conv_rhs => rw [workers_eq]
      simp [workerPlaces, List.filterMap_cons]
  · exact ⟨rfl, by simp [workerPlaces, WorkerStage.place?]⟩

section

variable {system next : System (Host Handle)}

/-- Nobody's place changes, and no line. -/
theorem LineStep.of_still (visit_eq : next.visit.bind Visit.place? = system.visit.bind Visit.place?)
    (loop_eq : loopPlace? next.executor = loopPlace? system.executor)
    (workers_eq : workerPlaces next.executor.workers = workerPlaces system.executor.workers)
    (guards_eq : guards next = guards system) : LineStep system next none := by
  refine .rests ?_ guards_eq
  rw [places, places, visit_eq, loop_eq, workers_eq]

theorem place?_of_errand? {visit : Visit} (idle : visit.session.stage.errand? = none) :
    visit.place? = none := by
  unfold Visit.place?
  rw [idle]
  split
  · next eq => cases eq
  · rfl

theorem place?_of_wait {visit : Visit} (unset : ∀ ticket, visit.wait ≠ .turn ticket) :
    visit.place? = none := by
  unfold Visit.place?
  split
  · next wait_eq _ => exact absurd wait_eq (unset _)
  · rfl

/-- A session that does nothing at the socket before or after its move. -/
theorem LineStep.of_visit {visit visit' : Visit} (visit_eq : system.visit = some visit)
    (visit_eq' : next.visit = some visit') (before : visit.place? = none)
    (after : visit'.place? = none) (loop_eq : loopPlace? next.executor = loopPlace? system.executor)
    (workers_eq : workerPlaces next.executor.workers = workerPlaces system.executor.workers)
    (guards_eq : guards next = guards system) : LineStep system next none :=
  .of_still (by rw [visit_eq, visit_eq', Option.bind_some, Option.bind_some, before, after])
    loop_eq workers_eq guards_eq

/-- The turn that ends is that of the errand the session came for. -/
theorem Lines.errand_eq (lines : Lines system) {visit : Visit}
    (visit_eq : system.visit = some visit) {errand : Errand}
    (wanted : visit.session.stage.errand? = some errand) {ticket : Ticket}
    (wait_eq : visit.wait = .turn ticket) {socket : Link}
    (socket_eq : system.links[visit.link]? = some socket) {guard : Guard}
    {result : Except SendError Unit} (polled : socket.guard.poll ticket system.now =
      .finished guard result) {done : Errand} {line : List Waiter}
    (standing : socket.guard.line = ⟨ticket, done⟩ :: line) : done = errand := by
  have place_eq : visit.place? = some ⟨visit.link, ticket, errand⟩ := by
    simp [Visit.place?, wait_eq, wanted]
  have member : (⟨visit.link, ticket, errand⟩ : Place) ∈ places system := by
    simp [places, visit_eq, place_eq]
  obtain ⟨others, standing'⟩ := lines.head member (guards_getElem? socket_eq) polled
  simpa [standing] using congrArg List.head? standing'

theorem session_lineStep {visit : Visit} {deed : Option Session.Deed} (lines : Lines system)
    (short : visit.link < system.links.length) (visit_eq : system.visit = some visit)
    (move : system.SessionMove visit deed next) :
    LineStep system next
      ((deed.map fun what => Note.deed (.session visit.link what)).bind
        (Note.outcome? system.executor)) := by
  have quiet {stage : Session.Stage} (stage_eq : visit.session.stage = stage)
      (idle : stage.errand? = none) : visit.place? = none :=
    place?_of_errand? (by rw [stage_eq, idle])
  have resumed (answer : Session.Answer) :
      ({ visit with session := visit.session.resume answer, wait := .nothing } : Visit).place? =
        none := place?_of_wait (by simp)
  have free (awaits : visit.session.stage.awaits = true) : visit.session.stage.errand? = none := by
    rcases Session.Stage.awaits_cases awaits with eq | eq <;> rw [eq] <;> rfl
  have asking {header : ControlHeader} {command : ControlCommand}
      (posting : visit.session.stage.request? system.slots.length = some (header, command)) :
      visit.session.stage.errand? = none := by
    cases stage_eq : visit.session.stage <;>
      first | rfl | simp [stage_eq, Session.Stage.request?] at posting
  cases move with
  | @read limit socket arrival inbox wants socket_eq brought =>
      have idle := Session.errand?_of_wants wants
      refine .of_visit visit_eq rfl (place?_of_errand? idle)
        (place?_of_errand? (Session.errand?_receive wants _ _)) rfl rfl ?_
      exact guards_of_inbox system visit.link fun _ => rfl
  | @asked header command control posting posted =>
      refine .of_visit visit_eq rfl (place?_of_errand? (asking posting)) (place?_of_wait ?_) rfl rfl
        rfl
      intro ticket
      unfold System.waitFor
      split <;> simp
  | refused posting unposted =>
      exact .of_visit visit_eq rfl (place?_of_errand? (asking posting)) (resumed _) rfl rfl rfl
  | looked awaits wait_eq unanswered =>
      exact .of_visit visit_eq rfl (place?_of_errand? (free awaits)) (place?_of_wait (by simp)) rfl
        rfl rfl
  | answered awaits given =>
      exact .of_visit visit_eq rfl (place?_of_errand? (free awaits)) (resumed _) rfl rfl rfl
  | posted stage_eq posted =>
      exact .of_visit visit_eq rfl (quiet stage_eq rfl) (resumed _) rfl rfl rfl
  | dropped stage_eq unposted =>
      exact .of_visit visit_eq rfl (quiet stage_eq rfl) (resumed _) rfl rfl rfl
  | crowded stage_eq unposted unset =>
      exact .of_visit visit_eq rfl (quiet stage_eq rfl) (place?_of_wait (by simp)) rfl rfl rfl
  | cancelled stage_eq =>
      exact .of_visit visit_eq rfl (quiet stage_eq rfl) (resumed _) rfl rfl rfl
  | @stood errand wanted unset =>
      have socket_eq := List.getElem?_eq_getElem short
      rw [System.standInLine_eq socket_eq]
      refine .stands (guards_getElem? socket_eq) errand ?_ (guards_setGuard _ _ _)
      have before : visit.place? = none := place?_of_wait unset
      have after (ticket : Ticket) : ({ visit with wait := .turn ticket } : Visit).place? =
          some ⟨visit.link, ticket, errand⟩ := by simp [Visit.place?, wanted]
      simp [places, visit_eq, before, after, System.setVisit, System.setGuard, System.mapLink]
  | @moved errand ticket socket guard wanted wait_eq socket_eq polled =>
      exact .turns (guards_getElem? socket_eq) polled (.refl _) (guards_setGuard _ _ _)
  | @served errand ticket socket guard result done line wanted wait_eq socket_eq polled standing =>
      have place_eq : visit.place? = some ⟨visit.link, ticket, errand⟩ := by
        simp [Visit.place?, wait_eq, wanted]
      have member : (⟨visit.link, ticket, errand⟩ : Place) ∈ places system := by
        simp [places, visit_eq, place_eq]
      obtain rfl := lines.errand_eq visit_eq wanted wait_eq socket_eq polled standing
      refine .leaves (guards_getElem? socket_eq) polled ?_ (guards_setGuard _ _ _)
      have after := resumed (.ofSend result)
      simp [places, visit_eq, place_eq, System.resume, System.setVisit, after, System.setGuard,
        System.mapLink]
  | reset stage_eq => exact .of_visit visit_eq rfl (quiet stage_eq rfl) (resumed _) rfl rfl rfl
  | released stage_eq =>
      obtain ⟨loop_eq, workers_eq⟩ := release_places system.executor
      exact .of_visit visit_eq rfl (quiet stage_eq rfl) (resumed _) loop_eq workers_eq rfl

theorem import_lineStep {order : ImportOrder} {stage : ImportStage} {note : Option Note}
    (short : order.reply < system.links.length)
    (loop_eq : system.executor.loop = .importing order stage)
    (move : ImportMove system order stage note next) :
    LineStep system next (note.bind (Note.outcome? system.executor)) := by
  have unplaced {host : Host Handle} {stage : ImportStage}
      (loop_eq : host.loop = .importing order stage) (free : stage.ticket? = none) :
      loopPlace? host = none := by
    unfold loopPlace?
    rw [loop_eq]
    cases stage with
    | replying accepted ticket =>
        cases free
        rfl
    | _ => rfl
  cases move with
  | @goesOn host stage' still bid_eq free =>
      have quiet : (stage.deed?.map Note.deed).bind (Note.outcome? system.executor) = none := by
        cases stage <;> rfl
      rw [quiet]
      refine .of_still rfl ?_ ?_ rfl
      · rw [unplaced loop_eq free.1]
        exact unplaced rfl free.2
      · exact congrArg workerPlaces still.workers_eq
  | passes stage_eq named free =>
      subst stage_eq
      exact .of_still rfl (by rw [unplaced loop_eq rfl]; rfl) rfl rfl
  | refuses stage_eq taken =>
      subst stage_eq
      exact .of_still rfl (by rw [unplaced loop_eq rfl]; rfl) rfl rfl
  | records stage_eq =>
      subst stage_eq
      exact .of_still rfl (by rw [unplaced loop_eq rfl]; rfl) rfl rfl
  | marks stage_eq =>
      subst stage_eq
      exact .of_still rfl (by rw [unplaced loop_eq rfl]; rfl) rfl rfl
  | @stands accepted stage_eq =>
      subst stage_eq
      have socket_eq := List.getElem?_eq_getElem short
      rw [System.standInLine_eq socket_eq]
      refine .stands (guards_getElem? socket_eq) _ ?_ (guards_setGuard _ _ _)
      have before := unplaced loop_eq rfl
      have after (ticket : Ticket) : loopPlace? { system.executor with
            loop := .importing order (.replying accepted (some ticket)) } =
          some ⟨order.reply, ticket,
            .send (importReply system.executor order.version accepted).encode⟩ := rfl
      simp [places, before, setLoop, change, after, System.setGuard, System.mapLink]
  | turns stage_eq socket_eq polled =>
      exact .turns (guards_getElem? socket_eq) polled (.refl _) (guards_setGuard _ _ _)
  | @replies accepted ticket socket guard result stage_eq socket_eq polled =>
      subst stage_eq
      have before : loopPlace? system.executor = some ⟨order.reply, ticket,
          .send (importReply system.executor order.version accepted).encode⟩ := by
        rw [loopPlace?, loop_eq]
      have after : loopPlace? { system.executor with
          loop := .importing order (.afterReply accepted result.isOk) } = none :=
        unplaced rfl (by unfold ImportStage.afterReply; split <;> rfl)
      refine .leaves (guards_getElem? socket_eq) polled ?_ (guards_setGuard _ _ _)
      simp [places, before, setLoop, change, after, System.setGuard, System.mapLink]
  | unmarks stage_eq =>
      subst stage_eq
      exact .of_still rfl (by rw [unplaced loop_eq rfl]; rfl) rfl rfl
  | unclaims stage_eq =>
      subst stage_eq
      exact .of_still rfl (by rw [unplaced loop_eq rfl]; rfl) (release_places system.executor).2 rfl
  | confirms stage_eq =>
      subst stage_eq
      exact .of_still rfl (by rw [unplaced loop_eq rfl]; rfl) rfl rfl

theorem loop_lineStep {note : Option Note}
    (short : ∀ link ∈ system.executor.loop.link?, link < system.links.length)
    (turn : LoopTurn system note next) :
    LineStep system next (note.bind (Note.outcome? system.executor)) := by
  cases turn with
  | @takesControl request control idle taken =>
      have before : loopPlace? system.executor = none := by rw [loopPlace?, idle]
      unfold handleControl
      split
      · exact .of_still rfl before.symm rfl rfl
      · exact .of_still rfl before.symm rfl rfl
      · exact .of_still rfl rfl rfl rfl
  | @takesSubmit request data idle taken =>
      obtain ⟨loop_eq, workers_eq⟩ := accept_places system.executor request
      exact .of_still rfl loop_eq workers_eq rfl
  | attends move =>
      cases move with
      | @listStands version link slot loop_eq =>
          have socket_eq := List.getElem?_eq_getElem (short link (by rw [loop_eq]; rfl))
          rw [System.standInLine_eq socket_eq]
          refine .stands (guards_getElem? socket_eq) _ ?_ (guards_setGuard _ _ _)
          have before : loopPlace? system.executor = none := by rw [loopPlace?, loop_eq]
          have after (ticket : Ticket) : loopPlace? { system.executor with
                loop := .listing version link slot (some ticket) } =
              some ⟨link, ticket, .send (Reply.listOf version [system.executor.device]).encode⟩ :=
            rfl
          simp [places, before, setLoop, change, after, System.setGuard, System.mapLink]
      | listTurns loop_eq socket_eq polled =>
          exact .turns (guards_getElem? socket_eq) polled (.refl _) (guards_setGuard _ _ _)
      | @lists version link slot ticket socket guard result loop_eq socket_eq polled =>
          have before : loopPlace? system.executor = some ⟨link, ticket,
              .send (Reply.listOf version [system.executor.device]).encode⟩ := by
            rw [loopPlace?, loop_eq]
          have after : loopPlace? { system.executor with loop := .listed slot } = none := rfl
          refine .leaves (guards_getElem? socket_eq) polled ?_ (guards_setGuard _ _ _)
          simp [places, before, setLoop, change, after, System.setGuard, System.mapLink]
      | listAnswers loop_eq =>
          exact .of_still rfl (by rw [loopPlace?, loopPlace?, loop_eq]; rfl) rfl rfl
      | imports loop_eq move =>
          exact import_lineStep (short _ (by rw [loop_eq]; rfl)) loop_eq move

theorem workerPlaces_split (worker : Worker) (front back : List Worker)
    (visits loops : List Place) :
    (visits ++ (loops ++ workerPlaces (front ++ worker :: back))).Perm
      (worker.stage.place?.toList ++
        (visits ++ (loops ++ (workerPlaces front ++ workerPlaces back)))) := by
  have here : (workerPlaces (front ++ worker :: back)).Perm
      (worker.stage.place?.toList ++ (workerPlaces front ++ workerPlaces back)) := by
    rw [workerPlaces, List.filterMap_append, List.filterMap_cons]
    cases worker.stage.place? with
    | none => exact .refl _
    | some place => exact List.perm_middle
  calc List.Perm _ (visits ++ (loops ++
          (worker.stage.place?.toList ++ (workerPlaces front ++ workerPlaces back)))) :=
        (here.append_left loops).append_left visits
    List.Perm _ (visits ++ (worker.stage.place?.toList ++
          (loops ++ (workerPlaces front ++ workerPlaces back)))) :=
        (List.perm_append_comm_assoc ..).append_left visits
    List.Perm _ (worker.stage.place?.toList ++
          (visits ++ (loops ++ (workerPlaces front ++ workerPlaces back)))) :=
        List.perm_append_comm_assoc ..

/-- A worker's place among those of the others. -/
theorem exists_places {id : WorkerId} {worker : Worker}
    (worker_eq : system.executor.workers[id]? = some worker) :
    ∃ others, (places system).Perm (worker.stage.place?.toList ++ others) ∧
      ∀ (rest : System (Host Handle)) (worker' : Worker), rest.visit = system.visit →
        loopPlace? rest.executor = loopPlace? system.executor →
        rest.executor.workers = system.executor.workers →
        (places (putWorker rest id worker')).Perm (worker'.stage.place?.toList ++ others) := by
  obtain ⟨front, back, workers_eq, set_eq⟩ := exists_split worker_eq
  refine ⟨(system.visit.bind Visit.place?).toList ++ ((loopPlace? system.executor).toList ++
    (workerPlaces front ++ workerPlaces back)), ?_, fun rest worker' visit_eq loop_eq rest_eq => ?_⟩
  · rw [places, workers_eq]
    exact workerPlaces_split worker front back _ _
  · have workers_eq' : (putWorker rest id worker').executor.workers =
        front ++ worker' :: back := by
      rw [← set_eq, ← rest_eq]
      rfl
    have visit_eq' : (putWorker rest id worker').visit = system.visit := visit_eq
    have loop_eq' : loopPlace? (putWorker rest id worker').executor =
        loopPlace? system.executor := loop_eq
    rw [places, visit_eq', loop_eq', workers_eq']
    exact workerPlaces_split worker' front back _ _

/-- A worker that stands in no line before or after its move. -/
theorem LineStep.of_worker {id : WorkerId} {worker worker' : Worker} {rest : System (Host Handle)}
    (worker_eq : system.executor.workers[id]? = some worker) (visit_eq : rest.visit = system.visit)
    (loop_eq : loopPlace? rest.executor = loopPlace? system.executor)
    (workers_eq : rest.executor.workers = system.executor.workers)
    (guards_eq : guards rest = guards system) (before : worker.stage.place? = none)
    (after : worker'.stage.place? = none) : LineStep system (putWorker rest id worker') none := by
  obtain ⟨others, perm, perm'⟩ := exists_places worker_eq
  have perm' := perm' rest worker' visit_eq loop_eq workers_eq
  rw [before] at perm
  rw [after] at perm'
  exact .rests (perm'.trans perm.symm) guards_eq

theorem worker_lineStep {id : WorkerId} {worker worker' : Worker} {rest : System (Host Handle)}
    {deed : Option Deed}
    (short : ∀ link completion ticket, worker.stage = .replying link completion ticket →
      link < system.links.length)
    (worker_eq : system.executor.workers[id]? = some worker)
    (move : WorkerMove system id worker deed worker' rest) :
    LineStep system (putWorker rest id worker')
      ((deed.map .deed).bind (Note.outcome? system.executor)) := by
  obtain ⟨others, before, after⟩ := exists_places worker_eq
  cases move with
  | skips idle queue_eq skip => exact .of_worker worker_eq rfl rfl rfl rfl (by rw [idle]; rfl) rfl
  | takes idle queue_eq busy wanted =>
      exact .of_worker worker_eq rfl rfl rfl rfl (by rw [idle]; rfl) rfl
  | stops idle empty dismissed =>
      exact .of_worker worker_eq rfl rfl rfl rfl (by rw [idle]; rfl) rfl
  | drops stage_eq unwanted =>
      exact .of_worker worker_eq rfl rfl rfl rfl (by rw [stage_eq]; rfl) rfl
  | reports stage_eq wanted =>
      exact .of_worker worker_eq rfl rfl rfl rfl (by rw [stage_eq]; rfl) rfl
  | @stands link completion stage_eq =>
      have socket_eq := List.getElem?_eq_getElem (short link completion none stage_eq)
      rw [System.standInLine_eq socket_eq]
      refine .stands (guards_getElem? socket_eq) _ ?_ (guards_setGuard _ _ _)
      rw [stage_eq] at before
      exact (after _ _ rfl rfl rfl).trans (before.symm.cons _)
  | turns stage_eq socket_eq polled =>
      exact .turns (guards_getElem? socket_eq) polled ((after _ _ rfl rfl rfl).trans before.symm)
        (guards_setGuard _ _ _)
  | @answers link completion ticket socket guard result stage_eq socket_eq polled =>
      refine .leaves (guards_getElem? socket_eq) polled ?_ (guards_setGuard _ _ _)
      rw [stage_eq] at before
      have perm := after (system.setGuard link guard) { worker with stage := .idle } rfl rfl rfl
      exact before.trans (perm.symm.cons _)

theorem job_lineStep [UsbHandle Handle] {id : JobId} {deed : Option Deed}
    (move : JobMove system id deed next) :
    LineStep system next ((deed.map .deed).bind (Note.outcome? system.executor)) := by
  cases move with
  | claims =>
      refine .of_still rfl ?_ ?_ rfl
      · unfold change runClaim
        dsimp only
        split
        · next order job loop_eq =>
            have before : loopPlace? system.executor = none := by
              have loop_eq' : system.executor.loop = .importing order (.claiming job) := loop_eq
              rw [loopPlace?, loop_eq']
            rw [before]
            repeat' split
            all_goals first | rfl | exact before
        · rfl
      · unfold change runClaim
        dsimp only
        repeat' split
        all_goals rfl
  | releases numbers => exact .of_still rfl rfl rfl rfl
  | passes => exact .of_still rfl rfl rfl rfl
  | fails worker_eq stage_eq unplanned =>
      exact .of_worker worker_eq rfl rfl rfl rfl (by rw [stage_eq]; rfl) rfl
  | begins worker_eq stage_eq planned =>
      exact .of_worker worker_eq rfl rfl rfl rfl (by rw [stage_eq]; rfl) rfl

end

/-- Neither a cancellation nor a session that stops waiting ends a turn. -/
theorem sessionNote?_outcome {system : System (Host Handle)} {visit : Visit}
    (visit_eq : system.visit = some visit) (host : Host Handle) :
    (sessionNote? system).bind (Note.outcome? host) =
      (system.deed?.map fun what => Note.deed (.session visit.link what)).bind
        (Note.outcome? host) := by
  rw [sessionNote?, visit_eq, Option.bind_some]
  split
  · next said =>
      rw [said]
      rfl
  · next said =>
      rw [said]
      rfl
  · next said =>
      rw [said]
      split <;> rfl

theorem acceptor_lineStep {server next : Server (Host Handle)}
    (moved : server.moveAcceptor.next? = some next) :
    LineStep server.system next.system none := by
  obtain ⟨-, ⟨visit, ending, visit_eq, stage_eq, rfl⟩ | ⟨link, line, unvisited, line_eq, rfl⟩⟩ :=
    Server.moveAcceptor_cases moved
  · refine .of_still ?_ rfl rfl rfl
    rw [visit_eq, Option.bind_some, place?_of_errand? (by rw [stage_eq]; rfl)]
    rfl
  · refine .of_still ?_ rfl rfl rfl
    rw [unvisited]
    rfl

/-- Whatever happens at a server is one step in its lines. -/
theorem step_lineStep [UsbHandle Handle] {server next : Server (Host Handle)}
    {event : Server.Event Party} (linked : Linked server) (lines : Lines server.system)
    (happened : Server.step company server event = some next) :
    LineStep server.system next.system
      ((note? server event).bind (Note.outcome? server.system.executor)) := by
  cases event with
  | move party =>
      cases party with
      | acceptor => exact acceptor_lineStep happened
      | inner party =>
          obtain ⟨system, moved, rfl⟩ := Server.inner_of_step happened
          cases party with
          | session =>
              obtain ⟨visit, visit_eq, move⟩ := System.moveSession_cases moved
              show LineStep _ _ ((sessionNote? server.system).bind _)
              rw [sessionNote?_outcome visit_eq]
              exact session_lineStep lines (linked.visit_lt visit visit_eq) visit_eq move
          | loop preference =>
              refine loop_lineStep (fun link mem => linked.askers_lt link ?_) (moveLoop_turn moved)
              exact List.mem_append_left _ (Option.mem_toList.2 mem)
          | worker id =>
              obtain ⟨worker, worker', rest, worker_eq, move, rfl⟩ := moveWorker_cases moved
              show LineStep _ _ (((deed? server.system (.worker id)).map Note.deed).bind _)
              rw [deed?, worker_eq, Option.bind_some]
              refine worker_lineStep (fun link completion ticket stage_eq => ?_) worker_eq move
              exact linked.replying_lt worker.work
                (List.mem_map_of_mem (List.mem_of_getElem? worker_eq)) link completion ticket stage_eq
          | job id => exact job_lineStep (moveJob_cases moved)
          | transfer id =>
              obtain ⟨worker, request, outcome, worker_eq, stage_eq, rfl⟩ :=
                finishTransfer_cases moved
              exact .of_worker worker_eq rfl rfl rfl rfl (by rw [stage_eq]; rfl) rfl
  | connect =>
      obtain rfl := Option.some.inj happened
      refine .opens (.refl _) ?_
      simp [guards, Server.connect, System.addLink]
  | pass duration =>
      obtain rfl := Option.some.inj happened
      exact .rests (.refl _) rfl
  | setMode link mode =>
      obtain rfl := Option.some.inj happened
      have eq : guards (server.system.mapLink link fun socket =>
          { socket with guard := socket.guard.setMode mode }) =
            (guards server.system).modify link (·.setMode mode) :=
        guards_mapLink server.system link fun _ => rfl
      rw [List.modify_eq_set] at eq
      cases found : (guards server.system)[link]? with
      | none =>
          have missing := List.getElem?_eq_none_iff.1 found
          exact .rests (.refl _) (eq.trans (List.set_eq_of_length_le missing))
      | some guard => exact .tunes found mode (.refl _) (by rw [found] at eq; exact eq)
  | _ =>
      obtain rfl := Option.some.inj happened
      exact .rests (.refl _) (guards_of_inbox _ _ fun _ => rfl)

end Host

end UsbExport

import UsbExport.Proofs.Host.Completions
import UsbExport.Proofs.Session.Answers
import UsbExport.Proofs.Session.Frames

/-!
How many submits are outstanding. Those in the data channel are at most as many as it is deep, and a
worker has one in hand; all others stand in the queues of the workers, which have no bound. Main
statements: the data channel refuses a submit only while it is full, and as long as the executor
takes submits it is not: whatever a client sends for an endpoint that has a worker is posted and put
into that worker's queue.
-/

namespace UsbExport

open Dispatch Socket

/-! ### The depth of the data channel -/

namespace Dispatch.Channel

variable {α : Type} {depth : Nat} {channel channel' : Channel α} {message : α}

/-- An open channel of a depth, with no more in it than that. -/
structure Keeps (depth : Nat) (channel : Channel α) : Prop where
  capacity_eq : channel.capacity = max depth 1
  isOpen : channel.accepting = true
  fits : channel.queue.length ≤ channel.capacity

theorem keeps_ofDepth (depth : Nat) : Keeps depth (ofDepth depth : Channel α) :=
  ⟨rfl, rfl, Nat.zero_le _⟩

theorem capacity_post (posted : channel.post message = .ok channel') :
    channel'.capacity = channel.capacity := by
  unfold post at posted
  split at posted
  · cases posted
  · split at posted <;> cases posted
    rfl

theorem Keeps.post (keeps : channel.Keeps depth) (posted : channel.post message = .ok channel') :
    channel'.Keeps depth where
  capacity_eq := (capacity_post posted).trans keeps.capacity_eq
  isOpen := (accepting_post posted).trans keeps.isOpen
  fits := length_post_le posted

theorem capacity_take? (taken : channel.take? = some (message, channel')) :
    channel'.capacity = channel.capacity := by
  unfold take? at taken
  split at taken <;> cases taken
  rfl

theorem Keeps.take? (keeps : channel.Keeps depth)
    (taken : channel.take? = some (message, channel')) : channel'.Keeps depth where
  capacity_eq := (capacity_take? taken).trans keeps.capacity_eq
  isOpen := (accepting_take? taken).trans keeps.isOpen
  fits := by
    have fits := keeps.fits
    rw [queue_take? taken, List.length_cons, ← capacity_take? taken] at fits
    exact Nat.le_of_succ_le fits

/-- An open channel refuses what it has no room for. -/
theorem Keeps.full (keeps : channel.Keeps depth) {error : DispatchError}
    (refused : channel.post message = .error error) : channel.queue.length = max depth 1 := by
  have full : channel.capacity ≤ channel.queue.length := by
    unfold Channel.post at refused
    rw [keeps.isOpen] at refused
    by_contra room
    simp [Nat.lt_of_not_le room] at refused
  rw [← keeps.capacity_eq]
  exact Nat.le_antisymm keeps.fits full

end Dispatch.Channel

namespace Host

variable {Handle : Type}

/-- The executor only takes from the data channel. -/
theorem ExecutorMove.data_cases [UsbHandle Handle] {system next : System (Host Handle)}
    {deed : Option Deed} (move : ExecutorMove system deed next) :
    next.data = system.data ∨ ∃ request, system.data.take? = some (request, next.data) := by
  cases move with
  | loop move =>
      cases move with
      | @takesControl request control idle taken =>
          left
          unfold handleControl
          split <;> rfl
      | takesSubmit idle taken => exact .inr ⟨_, taken⟩
      | attends working attends => exact .inl attends.data_eq
  | worker worker_eq move => exact .inl move.frame.2.1
  | job move =>
      left
      cases move with
      | claims => exact (runClaim_attends system _).data_eq
      | _ => rfl
  | transfer worker_eq stage_eq => exact .inl rfl

theorem keeps_session {system next : System (Host Handle)} {visit : Visit}
    {deed : Option Session.Deed} {depth : Nat} (keeps : system.data.Keeps depth)
    (move : system.SessionMove visit deed next) : next.data.Keeps depth := by
  cases move with
  | posted stage_eq posted => exact keeps.post posted
  | @stood errand wanted unset =>
      obtain ⟨links, frame, -⟩ := standInLine_frame system visit.link errand
      rw [frame]
      exact keeps
  | _ => exact keeps

theorem History.keeps [UsbHandle Handle] {start server : Server (Host Handle)} {trace : List Deed}
    {depth : Nat} (history : History start trace server)
    (sized : start.system.data = .ofDepth depth) : server.system.data.Keeps depth := by
  refine history.invariant (fun _ server => server.system.data.Keeps depth) ?_ ?_
  · rw [sized]
    exact Channel.keeps_ofDepth depth
  · intro _ server deed next keeps happening
    cases happening with
    | session visit_eq move => exact keeps_session keeps move
    | executor move =>
        rcases move.data_cases with same | ⟨request, taken⟩
        · exact same ▸ keeps
        · exact keeps.take? taken
    | _ => exact keeps

/-- A submit that the data channel did not take. -/
def Deed.isRefusal : Deed → Bool
  | .session _ (.offered _ false) => true
  | _ => false

/-- A submit is refused where the data channel is full. -/
theorem waiting_of_refused [UsbHandle Handle] {server next : Server (Host Handle)} {depth : Nat}
    {event : Server.Event Party} {deed : Deed} (keeps : server.system.data.Keeps depth)
    (happened : Server.step company server event = some next)
    (told : done? server event = some deed) (refused : deed.isRefusal = true) :
    (ledger server.system).waiting.length = max depth 1 := by
  unfold Deed.isRefusal at refused
  split at refused
  · next link submit =>
    unfold done? at told
    split at told
    · next party =>
      by_cases session : party = .session
      · subst session
        obtain ⟨system, moved, -⟩ := Server.inner_of_step happened
        obtain ⟨visit, visit_eq, move⟩ := System.moveSession_cases moved
        rw [deed?, visit_eq, Option.bind_some] at told
        obtain ⟨what, said, same⟩ := Option.map_eq_some_iff.1 told
        cases same
        rw [said] at move
        cases move with
        | dropped stage_eq unposted => exact keeps.full unposted
      · exact absurd told (deed?_ne_session session link _)
    · cases told
  · cases refused

/-! ### One in hand for each worker -/

theorem Ledger.length_staged_le (ledger : Ledger) :
    ledger.staged.length + ledger.replies.length ≤ ledger.works.length := by
  unfold staged replies
  induction ledger.works with
  | nil => exact Nat.le_refl 0
  | cons work works ih =>
      cases stage_eq : work.stage <;>
        simp only [List.filterMap_cons, List.length_cons, stage_eq, WorkerStage.request?,
          WorkerStage.replies?] at ih ⊢ <;>
        omega

/-- Outstanding are those in the data channel, those in hand and those in the queues of workers. -/
theorem length_posted_eq [UsbHandle Handle] {start server : Server (Host Handle)}
    {trace : List Deed} (fresh : Fresh start) (history : History start trace server) :
    (posted trace).length = (retired trace).length + ((ledger server.system).waiting.length +
      (ledger server.system).staged.length + (ledger server.system).queued.length) := by
  have counted := history.held_perm.length_eq
  have employed := (ledger server.system).employed_perm.length_eq
  rw [fresh.ledger_eq] at counted
  simp only [Ledger.held, Ledger.employed, List.length_append, List.length_nil,
    List.flatMap_nil] at counted employed
  omega

/-! ### Taking in whatever comes -/

/-- New URBs for an address come to a worker that there is. -/
def Serves (host : Host Handle) (address : UInt8) : Prop :=
  ∃ worker ∈ host.workers, worker.isRegistered = true ∧ worker.address = address

/-- Where an endpoint has a worker, a submit for it goes into that worker's queue. -/
theorem accept_of_serves {host : Host Handle} (request : SubmitRequest)
    (serves : Serves host (queueAddress request.submit.header)) :
    ∃ front worker back, host.workers = front ++ worker :: back ∧
      (host.accept request).workers =
        front ++ { worker with queue := worker.queue ++ [request] } :: back := by
  obtain ⟨worker, member, registered, address_eq⟩ := serves
  unfold accept enqueue
  dsimp only
  split
  · next id found =>
    obtain ⟨short, -⟩ := List.findIdx?_eq_some_iff_getElem.1 found
    obtain ⟨front, back, workers_eq, set_eq⟩ := exists_split (List.getElem?_eq_getElem short)
    refine ⟨front, _, back, workers_eq, ?_⟩
    rw [List.modify_eq_set, List.getElem?_eq_getElem short]
    exact set_eq _
  · next none =>
    have unmatched := List.findIdx?_eq_none_iff.1 none worker member
    simp [registered, address_eq] at unmatched

theorem serves_accept {host : Host Handle} {request : SubmitRequest} {address : UInt8}
    (own : Serves host (queueAddress request.submit.header)) (serves : Serves host address) :
    Serves (host.accept request) address := by
  obtain ⟨front, worker, back, before, after⟩ := accept_of_serves request own
  obtain ⟨other, member, registered, address_eq⟩ := serves
  rw [before] at member
  unfold Serves
  rw [after]
  rcases List.mem_append.1 member with member | member
  · exact ⟨other, by simp [member], registered, address_eq⟩
  · rcases List.mem_cons.1 member with rfl | member
    · exact ⟨{ other with queue := other.queue ++ [request] }, by simp, registered, address_eq⟩
    · exact ⟨other, by simp [member], registered, address_eq⟩

/-- An executor that has a worker for each of some submits takes them all into the queues it has. -/
theorem workers_of_accepted (link : LinkId) {host : Host Handle} {submits : List Submit}
    (serves : ∀ submit ∈ submits, Serves host (queueAddress submit.header)) :
    let taken := submits.foldl (fun host submit => host.accept ⟨submit, link⟩) host
    taken.workers.length = host.workers.length ∧
      (taken.workers.flatMap Worker.queue).length =
        (host.workers.flatMap Worker.queue).length + submits.length := by
  induction submits generalizing host with
  | nil => exact ⟨rfl, rfl⟩
  | cons submit submits ih =>
      have own : Serves host (queueAddress submit.header) := serves submit List.mem_cons_self
      obtain ⟨front, worker, back, before, after⟩ := accept_of_serves ⟨submit, link⟩ own
      have later : ∀ other ∈ submits,
          Serves (host.accept ⟨submit, link⟩) (queueAddress other.header) := fun other member =>
        serves_accept own (serves other (List.mem_cons_of_mem _ member))
      obtain ⟨count_eq, queued_eq⟩ := ih later
      rw [after] at count_eq queued_eq
      rw [List.foldl_cons, before]
      refine ⟨count_eq.trans (by simp), queued_eq.trans ?_⟩
      simp only [List.length_append, List.length_cons, List.flatMap_append, List.flatMap_cons,
        List.length_nil]
      omega

/-- A session that has the device at a stage, with bytes ahead that have arrived, while the
executor has no request in hand and no submit waits for it. -/
structure Poised (link : LinkId) (stage : Session.Stage) (ahead : Bytes)
    (server : Server (Host Handle)) : Prop where
  visit : server.system.visit.map (fun visit => (visit.link, visit.session)) =
    some (link, ⟨.busy, stage⟩)
  socket : server.system.links[link]?.map (fun socket => (socket.inbox.bytes, socket.inbox.ended)) =
    some (ahead, false)
  idle : server.system.executor.loop = .idle
  untaken : server.system.data.queue = []
  isOpen : server.system.data.accepting = true
  room : 0 < server.system.data.capacity

/-- What is done with a submit that the executor takes as soon as it is posted. -/
def handedOn (link : LinkId) (submit : Submit) : List Deed :=
  [.session link (.offered submit true), .accepted ⟨submit, link⟩]

section

variable [UsbHandle Handle] {server next : Server (Host Handle)} {link : LinkId}
  {stage : Session.Stage} {bytes ahead : Bytes}

theorem History.of_move (party : Party) {system : System (Host Handle)}
    (moved : company.move party server.system = .went system) :
    History server (done? server (.move (.inner party))).toList { server with system } := by
  have past := (Chronicle.of_move (show (company.move party server.system).next? = some system by
    rw [moved]; rfl) rfl).history
  have told := deeds_append [] (note? server (.move (.inner party)))
  rw [note?_deed, List.nil_append] at told
  rwa [told] at past

/-- A session that reads takes what it wants of what has arrived. -/
theorem Poised.read {wanted : Nat} (poised : Poised link stage (bytes ++ ahead) server)
    (wants : (⟨.busy, stage⟩ : Session).wants = some wanted) (length_eq : bytes.length = wanted)
    (some : bytes ≠ []) :
    ∃ next, History server [] next ∧
      Poised link
        ((⟨.busy, stage⟩ : Session).take server.system.config.sessionLimits bytes).stage ahead
          next ∧
      next.system.executor = server.system.executor ∧
      next.system.config = server.system.config := by
  obtain ⟨visit, socket, idle, untaken, isOpen, room⟩ := poised
  obtain ⟨⟨link, session, wait⟩, visit_eq, same⟩ := Option.map_eq_some_iff.1 visit
  cases same
  obtain ⟨⟨⟨arrived, faults, ended, deadline⟩, guard⟩, socket_eq, same⟩ :=
    Option.map_eq_some_iff.1 socket
  obtain ⟨rfl, rfl⟩ : arrived = bytes ++ ahead ∧ ended = false := Prod.mk.inj same
  have brought (now : Nat) (timeout : Option Nat) :
      (⟨bytes ++ ahead, faults, false, deadline⟩ : Inbox).read wanted now timeout =
        .some (.bytes bytes, ⟨ahead, faults, false, none⟩) := by
    simp [Inbox.read, some, List.take_left' length_eq, List.drop_left' length_eq]
  have moved : server.system.moveSession =
      .went ((server.system.mapLink link fun socket =>
        { socket with inbox := ⟨ahead, faults, false, none⟩ }).setVisit
          ⟨link, (⟨.busy, stage⟩ : Session).take server.system.config.sessionLimits bytes,
            wait⟩) := by
    rw [System.moveSession_of_wants visit_eq wants, System.readInput, socket_eq]
    simp only [brought, Session.receive]
  have silent : done? server (.move (.inner .session)) = none := by
    unfold Session.wants at wants
    split at wants <;> next stage_eq =>
      simp_all [done?, deed?, System.deed?, Session.Stage.request?]
  have past := History.of_move .session moved
  rw [silent] at past
  refine ⟨_, past, ⟨?_, ?_, idle, untaken, isOpen, room⟩, rfl, rfl⟩
  · rw [← Session.Owes.phase_take]
    rfl
  · exact congrArg (Option.map _) (System.getElem?_mapLink socket_eq)

theorem History.posts {visit : Visit} {submit : Submit} {data : Channel SubmitRequest}
    (visit_eq : server.system.visit = some visit)
    (stage_eq : visit.session.stage = .submitting submit)
    (posted : server.system.data.post ⟨submit, visit.link⟩ = .ok data) :
    History server [.session visit.link (.offered submit true)]
      { server with system := { server.system.resume visit (.taken true) with data } } := by
  have moved : server.system.moveSession =
      .went { server.system.resume visit (.taken true) with data } := by
    simp [System.moveSession, visit_eq, stage_eq, System.postSubmit, posted]
  have said : done? server (.move (.inner .session)) =
      some (.session visit.link (.offered submit true)) := by
    simp [done?, deed?, System.deed?, visit_eq, stage_eq, posted]
  have past := History.of_move .session moved
  rwa [said] at past

/-- An executor without a request in hand takes the first submit that waits. -/
theorem History.accepts {request : SubmitRequest} {queue : List SubmitRequest}
    (idle : server.system.executor.loop = .idle)
    (queue_eq : server.system.data.queue = request :: queue) :
    History server [.accepted request]
      { server with
        system := handleSubmit
          { server.system with data := { server.system.data with queue } } request } := by
  have taken : server.system.data.take? =
      some (request, { server.system.data with queue }) := by
    simp [Channel.take?, queue_eq]
  have moved : moveLoop .data server.system =
      .went (handleSubmit { server.system with data := { server.system.data with queue } }
        request) := by
    simp [moveLoop, idle, takeSubmit, taken]
  have said : done? server (.move (.inner (.loop .data))) = some (.accepted request) := by
    simp [done?, deed?, loopDeed?, taken?, idle, queue_eq]
  have past := History.of_move (.loop .data) moved
  rwa [said] at past

/-- A session with a submit posts it, and the executor takes it. -/
theorem Poised.post {submit : Submit} (poised : Poised link (.submitting submit) ahead server) :
    ∃ next, History server (handedOn link submit) next ∧
      Poised link (.atRest .busy) ahead next ∧
      next.system.executor = server.system.executor.accept ⟨submit, link⟩ ∧
      next.system.config = server.system.config := by
  obtain ⟨visit, socket, idle, untaken, isOpen, room⟩ := poised
  obtain ⟨⟨link, session, wait⟩, visit_eq, same⟩ := Option.map_eq_some_iff.1 visit
  cases same
  have posted : server.system.data.post ⟨submit, link⟩ =
      .ok { server.system.data with queue := [⟨submit, link⟩] } := by
    simp [Channel.post, isOpen, untaken, room]
  have offered := History.posts visit_eq rfl posted
  have idle' := (server.system.executor.accept_desk ⟨submit, link⟩).2.2.2.trans idle
  exact ⟨_, offered.append (.accepts idle rfl), ⟨rfl, socket, idle', rfl, isOpen, room⟩, rfl, rfl⟩

/-- More bytes may arrive for a session between two commands. -/
theorem Poised.arrive (poised : Poised link (.atRest .busy) [] server) (bytes : Bytes) :
    ∃ next, History server [] next ∧ Poised link (.atRest .busy) bytes next ∧
      next.system.executor = server.system.executor ∧
      next.system.config = server.system.config := by
  obtain ⟨visit, socket, idle, untaken, isOpen, room⟩ := poised
  obtain ⟨⟨⟨arrived, faults, ended⟩, guard⟩, socket_eq, same⟩ := Option.map_eq_some_iff.1 socket
  obtain ⟨rfl, rfl⟩ : arrived = [] ∧ ended = false := Prod.mk.inj same
  refine ⟨_, .step .start (.arrive link bytes) rfl, ⟨visit, ?_, idle, untaken, isOpen, room⟩,
    rfl, rfl⟩
  exact congrArg (Option.map _) (System.getElem?_mapLink socket_eq)

/-- A session that owes nothing but submits posts them all, and the executor takes them all. -/
theorem Poised.handOn {limits : SessionLimits} {owed : List Effect}
    (owes : Session.Owes limits stage ahead owed) {submits : List Submit}
    (owed_eq : owed = submits.map .offer)
    (limits_eq : server.system.config.sessionLimits = limits)
    (poised : Poised link stage ahead server) :
    ∃ last, History server (submits.flatMap (handedOn link)) last ∧
      last.system.executor = submits.foldl (fun host submit => host.accept ⟨submit, link⟩)
        server.system.executor := by
  -- what the session owes of the bytes ahead, one read or one submit after the other
  induction owes generalizing server submits with
  | done =>
      obtain rfl : submits = [] := by simpa using owed_eq.symm
      exact ⟨server, .start, rfl⟩
  | @collect part got missing ahead owed more size_eq next ih =>
      have length_eq : missing.length = part.size - got.length := by
        rw [List.length_append] at size_eq
        omega
      obtain ⟨next, past, poised', executor_eq, config_eq⟩ := poised.read rfl length_eq more
      have whole : ((⟨.busy, .collecting part got⟩ : Session).take
          server.system.config.sessionLimits missing).stage =
            part.complete limits (got ++ missing) := by
        rw [Session.take]
        dsimp only
        rw [if_neg (by rw [size_eq]; exact Nat.lt_irrefl _), limits_eq]
      rw [whole] at poised'
      obtain ⟨last, future, executor_eq'⟩ := ih owed_eq (by rw [config_eq, limits_eq]) poised'
      exact ⟨last, past.append future, by rw [executor_eq', executor_eq]⟩
  | @skip skipped ahead owed more next ih =>
      obtain ⟨next, past, poised', executor_eq, config_eq⟩ := poised.read rfl rfl more
      have whole : ((⟨.busy, .skipping skipped.length⟩ : Session).take
          server.system.config.sessionLimits skipped).stage = .atRest .busy := by
        simp [Session.take, Session.Stage.skip]
      rw [whole] at poised'
      obtain ⟨last, future, executor_eq'⟩ := ih owed_eq (by rw [config_eq, limits_eq]) poised'
      exact ⟨last, past.append future, by rw [executor_eq', executor_eq]⟩
  | @submit submit ahead owed next ih =>
      obtain ⟨_, later, rfl, same, rest_eq⟩ := List.map_eq_cons_iff.1 owed_eq.symm
      cases same
      obtain ⟨next, past, poised', executor_eq, config_eq⟩ := poised.post
      obtain ⟨last, future, executor_eq'⟩ := ih rest_eq.symm (by rw [config_eq, limits_eq]) poised'
      refine ⟨last, past.append future, ?_⟩
      rw [executor_eq', executor_eq, List.foldl_cons]
  | cancel =>
      -- a cancelled URB is no submit
      obtain ⟨_, _, -, same, -⟩ := List.map_eq_cons_iff.1 owed_eq.symm
      cases same
  | acknowledge =>
      obtain ⟨_, _, -, same, -⟩ := List.map_eq_cons_iff.1 owed_eq.symm
      cases same

end

/-! ### What is outstanding -/

theorem length_works (system : System (Host Handle)) :
    (ledger system).works.length = system.executor.workers.length :=
  List.length_map _

theorem queued_ledger (system : System (Host Handle)) :
    (ledger system).queued = system.executor.workers.flatMap Worker.queue := by
  rw [Ledger.queued, ledger, List.flatMap_map]
  rfl

/-- What was posted and has not left the books waits in the data channel, which holds no more than
it is deep; is in the hand of a worker, one in each; or stands in the queue of a worker, without a
bound. A submit is refused only where the data channel is full. An executor with no other request
in hand takes whatever a client sends for endpoints that have a worker, without one more worker. -/
theorem outstanding_split [UsbHandle Handle] {start server : Server (Host Handle)}
    {trace : List Deed} (fresh : Fresh start)
    (sized : start.system.data = .ofDepth start.system.config.dataDepth)
    (history : History start trace server) :
    let depth := max start.system.config.dataDepth 1
    let outstanding := ledger server.system
    (posted trace).length = (retired trace).length + (outstanding.waiting.length +
        outstanding.staged.length + outstanding.queued.length) ∧
      outstanding.waiting.length ≤ depth ∧
      outstanding.staged.length + outstanding.replies.length ≤ outstanding.works.length ∧
      (∀ event next deed, Server.step company server event = some next →
        done? server event = some deed → deed.isRefusal = true →
          outstanding.waiting.length = depth) ∧
      ∀ (link : LinkId) (frames : List UrbFrame) (submits : List Submit),
        Poised link (.atRest .busy) [] server →
        frames.flatMap (UrbFrame.effects server.system.config.maxTransfer) =
          submits.map .offer →
        (∀ submit ∈ submits, Serves server.system.executor (queueAddress submit.header)) →
        ∃ last, History server (submits.flatMap (handedOn link)) last ∧
          (ledger last.system).works.length = outstanding.works.length ∧
          (ledger last.system).queued.length = outstanding.queued.length + submits.length := by
  intro depth outstanding
  have keeps := history.keeps sized
  refine ⟨length_posted_eq fresh history, ?_, outstanding.length_staged_le,
    fun event next deed happened told refused => waiting_of_refused keeps happened told refused, ?_⟩
  · have fits := keeps.fits
    rwa [keeps.capacity_eq] at fits
  · intro link frames submits poised asked serves
    obtain ⟨arrived, past, poised, executor_eq, config_eq⟩ := poised.arrive
      (frames.flatMap UrbFrame.bytes)
    have owes := Session.Owes.frames server.system.config.sessionLimits frames
    obtain ⟨last, future, executor_eq'⟩ := poised.handOn owes asked (by rw [config_eq])
    obtain ⟨count_eq, queued_eq⟩ := workers_of_accepted link serves
    rw [executor_eq] at executor_eq'
    rw [← executor_eq'] at count_eq queued_eq
    refine ⟨last, past.append future, ?_, ?_⟩
    · rw [length_works, length_works]
      exact count_eq
    · rw [queued_ledger, queued_ledger]
      exact queued_eq

/-! ### A device that is slow -/

/-- A server whose data channel holds one submit. -/
def narrow : Server (Host Placid) where
  system := { config := { dataDepth := 1 }, executor := placid.system.executor }

theorem fresh_narrow : Fresh narrow := ⟨rfl, rfl, ⟨rfl, rfl⟩, rfl, rfl, rfl, rfl, rfl⟩

/-- A client that has the device sends a submit, and the device begins with it. -/
def slowTransfer : List (Server.Event Party) :=
  firstImport ++ [.arrive 0 placidSubmit.encode] ++ sessionMoves 4 ++
    moves [.loop .data, .worker 0, .job 1]

def occupied : List Deed × Server (Host Placid) :=
  follow narrow slowTransfer

def laterFrame : UrbFrame :=
  .submit laterSubmit.header laterSubmit.params rfl ⟨laterSubmit.data, rfl⟩ (.zero 0)

theorem outstanding_split_of_slow_device :
    posted occupied.1 = [⟨placidSubmit, 0⟩] ∧
      retired occupied.1 = [] ∧
      (ledger occupied.2.system).works.length = 1 ∧
      (ledger occupied.2.system).staged.length = 1 ∧
      (ledger occupied.2.system).queued.length = 0 ∧
      ∃ last, History occupied.2 [.session 0 (.offered laterSubmit true),
          .accepted ⟨laterSubmit, 0⟩, .session 0 (.offered laterSubmit true),
          .accepted ⟨laterSubmit, 0⟩] last ∧
        (ledger last.system).works.length = 1 ∧ (ledger last.system).queued.length = 2 := by
  have sent : posted occupied.1 = [⟨placidSubmit, 0⟩] := by decide +kernel
  have unfinished : retired occupied.1 = [] := by decide +kernel
  have untaken : (ledger occupied.2.system).waiting = [] := by decide +kernel
  have inHand : (ledger occupied.2.system).staged.length = 1 := by decide +kernel
  have employed : (ledger occupied.2.system).works.length = 1 := by decide +kernel
  have poised : Poised 0 (.atRest .busy) [] occupied.2 :=
    ⟨by decide +kernel, by decide +kernel, by decide +kernel, by decide +kernel,
      by decide +kernel, by decide +kernel⟩
  have asked : [laterFrame, laterFrame].flatMap
      (UrbFrame.effects occupied.2.system.config.maxTransfer) =
        [laterSubmit, laterSubmit].map .offer := by decide +kernel
  have addresses : occupied.2.system.executor.workers.map (fun worker =>
      (worker.isRegistered, worker.address)) = [(true, queueAddress laterSubmit.header)] := by
    decide +kernel
  have serves : Serves occupied.2.system.executor (queueAddress laterSubmit.header) := by
    obtain ⟨worker, rest, workers_eq, same, -⟩ := List.map_eq_cons_iff.1 addresses
    exact ⟨worker, workers_eq ▸ List.mem_cons_self, congrArg Prod.fst same,
      congrArg Prod.snd same⟩
  obtain ⟨counted, -, -, -, open_ended⟩ :=
    outstanding_split fresh_narrow rfl (history_follow narrow slowTransfer)
  obtain ⟨last, future, employed', queued_eq⟩ :=
    open_ended 0 [laterFrame, laterFrame] [laterSubmit, laterSubmit] poised asked
      (by simpa [occupied] using serves)
  rw [← occupied, sent, unfinished, untaken, inHand] at counted
  have queued : (ledger occupied.2.system).queued.length = 0 := by simpa using counted
  exact ⟨sent, unfinished, employed, inHand, queued, last, future, employed'.trans employed,
    by rw [queued_eq, ← occupied, queued]; rfl⟩

/-- Two more submits come before the device is done with the first. -/
def overloaded : List Deed × Server (Host Placid) :=
  follow narrow (slowTransfer ++
    (List.replicate 2 ([.arrive 0 laterSubmit.encode] ++ sessionMoves 4 ++
      moves [.loop .data])).flatten)

/-- More submits are outstanding than the data channel is deep and workers have in hand, and none
has been refused. -/
theorem outstanding_exceeds_depth :
    Fresh narrow ∧ narrow.system.data = .ofDepth narrow.system.config.dataDepth ∧
      History narrow overloaded.1 overloaded.2 ∧
      (∀ deed ∈ overloaded.1, deed.isRefusal = false) ∧
      (retired overloaded.1).length + (narrow.system.config.dataDepth +
        (ledger overloaded.2.system).works.length) < (posted overloaded.1).length := by
  refine ⟨fresh_narrow, rfl, history_follow _ _, ?_, ?_⟩
  · decide +kernel
  · decide +kernel

end Host

end UsbExport

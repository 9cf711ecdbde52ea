import UsbExport.Proofs.Host.CleaningUp
import UsbExport.Proofs.Server.Restarts
import UsbExport.Proofs.Session.Stay

/-!
Sessions that follow one another. Main statement: whatever clients send, whatever fails and whoever
else is at work, the sessions of a server come one after the other, and each has cleaned up, once
and in order, before the server goes on or stops. A session is struck by the end of its input, by a
read that fails or by an acknowledgement that cannot be sent, and by nothing else.
-/

namespace UsbExport

open Dispatch Socket

namespace System

variable {Executor : Type}

/-- The milestone that the session comes to by its next move. -/
def milestone? (system : System Executor) : Option Milestone :=
  system.visit.bind fun visit =>
    match visit.session.wants with
    | some limit =>
        (system.links[visit.link]?.bind fun socket =>
          socket.inbox.read limit system.now (system.readTimeout visit)).bind
            fun (arrival, _) => visit.session.reads? arrival
    | none => system.answer?.bind visit.session.hears?

/-- Every line is in order, and the session has its place in the one for its socket. -/
structure Placed (system : System Executor) : Prop where
  orderly : ∀ (link : LinkId) (socket : Link), system.links[link]? = some socket →
    socket.guard.Orderly
  stands : ∀ visit, system.visit = some visit →
    ∃ socket, system.links[visit.link]? = some socket ∧ Stands visit socket.guard

/-- What others do while a session is served: they do not touch it, and they leave it its place in
the line for its socket. -/
structure Aside (system next : System Executor) : Prop where
  visit_eq : next.visit = system.visit
  length_le : system.links.length ≤ next.links.length
  placed : Placed system → Placed next

variable {system next : System Executor} {visit : Visit}

theorem Placed.mapLink {link : LinkId} {change : Link → Link} (placed : Placed system)
    (bystep : ∀ (socket : Link) mine, socket.guard.Bystep mine (change socket).guard) :
    Placed (system.mapLink link change) := by
  have changed (other : LinkId) {socket : Link} (socket_eq : system.links[other]? = some socket) :
      ∃ socket', (system.mapLink link change).links[other]? = some socket' ∧
        ∀ mine, socket.guard.Bystep mine socket'.guard := by
    refine ⟨if link = other then change socket else socket, ?_, fun mine => ?_⟩
    · simp [System.mapLink, List.getElem?_modify, socket_eq]
    · split
      · exact bystep socket mine
      · exact .none
  refine ⟨fun other socket' socket_eq' => ?_, fun visit visit_eq => ?_⟩
  · have short : other < system.links.length := by
      simpa [System.mapLink] using (List.getElem?_eq_some_iff.1 socket_eq').1
    have socket_eq := List.getElem?_eq_getElem short
    obtain ⟨found, found_eq, bystep⟩ := changed other socket_eq
    obtain rfl := Option.some.inj (found_eq.symm.trans socket_eq')
    exact (placed.orderly other _ socket_eq).bystep (bystep none)
  · obtain ⟨socket, socket_eq, stands⟩ := placed.stands visit visit_eq
    obtain ⟨socket', socket_eq', bystep⟩ := changed visit.link socket_eq
    exact ⟨socket', socket_eq', stands.bystep (bystep _)⟩

/-- An errand whose turn is over was the one that the session came for. -/
theorem served_of_answered {socket : Link} {errand : Errand} {answer : Session.Answer}
    (socket_eq : system.links[visit.link]? = some socket) (stands : Stands visit socket.guard)
    (wanted : visit.session.stage.errand? = some errand)
    (answered : visit.wait.ticket?.bind (system.answerErrand? visit.link) = some answer) :
    ∃ ticket guard result line, visit.wait = .turn ticket ∧
      socket.guard.poll ticket system.now = .finished guard result ∧
      socket.guard.line = ⟨ticket, errand⟩ :: line ∧ answer = .ofSend result := by
  obtain ⟨ticket, ticket_eq, answered⟩ := Option.bind_eq_some_iff.1 answered
  have wait_eq : visit.wait = .turn ticket := by
    cases wait_eq : visit.wait <;> rw [wait_eq] at ticket_eq <;> cases ticket_eq
    rfl
  unfold answerErrand? at answered
  simp only [socket_eq] at answered
  split at answered
  · next guard result polled =>
      obtain ⟨done, line, standing⟩ := Guard.head_of_finished polled
      obtain ⟨errand', wanted', holds⟩ := stands.turn ticket wait_eq
      obtain rfl := Option.some.inj (wanted.symm.trans wanted')
      obtain rfl : done = errand :=
        holds.only ⟨ticket, done⟩ (by rw [standing]; exact List.mem_cons_self) rfl
      exact ⟨ticket, guard, result, line, wait_eq, polled, standing, (Option.some.inj answered).symm⟩
  · cases answered

section

variable [DeviceExecutor Executor]

/-- A session leaves the sockets of others alone. -/
theorem SessionMove.links_eq {deed : Option Session.Deed} (move : SessionMove system visit deed next)
    {link : LinkId} (other : visit.link ≠ link) : next.links[link]? = system.links[link]? := by
  have mapped (change : Link → Link) :
      (system.mapLink visit.link change).links[link]? = system.links[link]? := by
    simp [mapLink, other]
  cases move with
  | read wants socket_eq brought => exact mapped _
  | @stood errand wanted unset =>
      simp only [setVisit, standInLine]
      split
      · exact mapped _
      · rfl
  | moved wanted wait_eq socket_eq polled => exact mapped _
  | served wanted wait_eq socket_eq polled standing => exact mapped _
  | _ => rfl

theorem SessionMove.length_eq {deed : Option Session.Deed}
    (move : SessionMove system visit deed next) : next.links.length = system.links.length := by
  cases move with
  | read wants socket_eq brought => simp [setVisit, mapLink]
  | @stood errand wanted unset =>
      simp only [setVisit, standInLine]
      split
      · simp [setGuard, mapLink]
      · rfl
  | moved wanted wait_eq socket_eq polled => simp [setGuard, mapLink]
  | served wanted wait_eq socket_eq polled standing => simp [resume, setVisit, setGuard, mapLink]
  | _ => rfl

/-- A move of a session keeps every line in order, and the session in its own. -/
theorem Placed.move (placed : Placed system) (moved : system.moveSession.next? = some next) :
    Placed next ∧ next.links.length = system.links.length := by
  obtain ⟨visit, visit_eq, move⟩ := moveSession_cases moved
  obtain ⟨socket, socket_eq, stands⟩ := placed.stands visit visit_eq
  obtain ⟨after, socket', after_eq, link_eq, socket_eq', stands'⟩ :
      ∃ after socket', next.visit = some after ∧ after.link = visit.link ∧
        next.links[visit.link]? = some socket' ∧ Stands after socket'.guard := by
    cases wants : visit.session.wants with
    | none =>
        obtain ⟨-, after, guard, after_eq, link_eq, socket_eq', stands'⟩ :=
          move.stands wants visit_eq socket_eq stands
        exact ⟨after, _, after_eq, link_eq, socket_eq', stands'⟩
    | some limit =>
        obtain ⟨socket', arrival, inbox, -, -, rfl⟩ := read_of_moved visit_eq wants moved
        exact ⟨_, _, rfl, rfl, getElem?_mapLink socket_eq,
          stands.of_free (stands.free_of_wants wants)⟩
  refine ⟨⟨fun link found found_eq => ?_, fun other other_eq => ?_⟩, move.length_eq⟩
  · by_cases same : visit.link = link
    · subst same
      obtain rfl := Option.some.inj (socket_eq'.symm.trans found_eq)
      exact stands'.orderly
    · rw [move.links_eq same] at found_eq
      exact placed.orderly link found found_eq
  · obtain rfl := Option.some.inj (after_eq.symm.trans other_eq)
    exact ⟨socket', link_eq ▸ socket_eq', stands'⟩

/-- A move of a session brings it to the milestone that was told beforehand. -/
theorem Placed.goesOn (placed : Placed system) (moved : system.moveSession.next? = some next) :
    ∃ visit after, system.visit = some visit ∧ next.visit = some after ∧
      after.link = visit.link ∧ visit.session.GoesOn system.milestone? after.session := by
  obtain ⟨visit, visit_eq, move⟩ := moveSession_cases moved
  obtain ⟨socket, socket_eq, stands⟩ := placed.stands visit visit_eq
  cases wants : visit.session.wants with
  | none =>
      obtain ⟨-, after, guard, after_eq, link_eq, -, -⟩ :=
        move.stands wants visit_eq socket_eq stands
      obtain ⟨after', after_eq', session_eq⟩ := follows_of_moved visit_eq wants moved
      obtain rfl := Option.some.inj (after_eq.symm.trans after_eq')
      have told : system.milestone? = system.answer?.bind visit.session.hears? := by
        simp [milestone?, visit_eq, wants]
      refine ⟨visit, after, visit_eq, after_eq, link_eq, ?_⟩
      rw [told, session_eq]
      cases system.answer? with
      | none => exact fun stay suits => ⟨stay, rfl, suits, (List.append_nil _).symm⟩
      | some answer => exact Session.goesOn_resume visit.session answer
  | some limit =>
      obtain ⟨socket', arrival, inbox, socket_eq', brought, rfl⟩ :=
        read_of_moved visit_eq wants moved
      have told : system.milestone? = visit.session.reads? arrival := by
        simp [milestone?, visit_eq, wants, socket_eq', brought]
      refine ⟨visit, _, visit_eq, rfl, rfl, ?_⟩
      rw [told]
      exact Session.goesOn_receive wants _ arrival

/-- A session that cleans up can go on, unless somebody is before it in the line for its socket. -/
theorem Placed.cleans (placed : Placed system) (visit_eq : system.visit = some visit)
    {ending : Ending} (leaving : visit.session.stage.leaving? = some ending) :
    visit.session.stage = .finished ending ∨ system.moveSession.next?.isSome ∨
      ∃ ticket socket waiter line, visit.wait = .turn ticket ∧
        system.links[visit.link]? = some socket ∧ socket.guard.line = waiter :: line ∧
        waiter.ticket ≠ ticket := by
  obtain ⟨socket, socket_eq, stands⟩ := placed.stands visit visit_eq
  obtain ⟨link, ⟨phase, stage⟩, wait⟩ := visit
  cases stage with
  | resetting ending' => exact Or.inr (Or.inl (by simp [moveSession, visit_eq, Move.next?]))
  | releasing ending' => exact Or.inr (Or.inl (by simp [moveSession, visit_eq, Move.next?]))
  | finished ending' => exact Or.inl (by rw [Option.some.inj leaving])
  | closing ending' =>
      refine Or.inr ?_
      cases wait with
      | turn ticket =>
          obtain ⟨errand, wanted, holds⟩ := stands.turn ticket rfl
          obtain rfl := Option.some.inj wanted
          cases standing : socket.guard.line with
          | nil =>
              have member := holds.stands
              rw [standing] at member
              cases member
          | cons waiter line =>
              by_cases turn : waiter.ticket = ticket
              · obtain ⟨number, errand⟩ := waiter
                obtain rfl : number = ticket := turn
                obtain rfl : errand = .close :=
                  holds.only ⟨number, errand⟩ (by rw [standing]; exact List.mem_cons_self) rfl
                refine Or.inl ?_
                simp [moveSession, visit_eq, runErrand, pursue, socket_eq,
                  Guard.poll_close standing, Move.next?]
              · exact Or.inr ⟨ticket, socket, waiter, line, rfl, socket_eq, standing, turn⟩
      | _ => exact Or.inl (by simp [moveSession, visit_eq, runErrand, Move.next?])
  | _ => cases leaving

end

end System

namespace Server

variable {Executor Inner : Type}

section

variable [DecidableEq Inner]

/-- The milestone that an event brings. -/
def milestone? (driver : Inner) (server : Server Executor) : Event Inner → Option Milestone
  | .move .acceptor =>
      match server.system.visit with
      | some visit => visit.session.ending?.map .over
      | none => server.line.head?.map .begun
  | .move (.inner party) => if party = driver then server.system.milestone? else none
  | _ => none

/-- The runs of a server, with the milestones on the way. -/
inductive Relates (inner : Company (System Executor) Inner) (driver : Inner)
    (start : Server Executor) : List Milestone → Server Executor → Prop
  | start : Relates inner driver start [] start
  | step {milestones : List Milestone} {server next : Server Executor}
      (relates : Relates inner driver start milestones server) (event : Event Inner)
      (happened : step inner server event = some next) :
      Relates inner driver start (milestones ++ (milestone? driver server event).toList) next

end

/-- What a session meets with that ends it, at a socket and at a time. -/
def Meets (visit : Visit) (socket : Link) (now : Nat) : Cause → Prop
  | .inputEnded =>
      visit.session.wants.isSome ∧ socket.inbox.bytes = [] ∧ socket.inbox.ended = true
  | .unread kind =>
      visit.session.wants.isSome ∧ socket.inbox.bytes = [] ∧ socket.inbox.faults.head? = some kind
  | .unsent kind => ∃ seqnum ticket line guard error,
      visit.session.stage = .acknowledging seqnum ∧
        socket.guard.line = ⟨ticket, .send (UnlinkReply.acknowledge seqnum 0).encode⟩ :: line ∧
        socket.guard.poll ticket now = .finished guard (.error error) ∧ error.kind = kind

/-- What an event does that brings a milestone. -/
def Comes [DeviceExecutor Executor] (server next : Server Executor) : Milestone → Prop
  | .begun link =>
      server.system.visit = none ∧ server.isStopped = false ∧ next.system.visit = some { link }
  | .struck phase cause => ∃ visit socket, server.system.visit = some visit ∧
      server.system.links[visit.link]? = some socket ∧ visit.session.phase = phase ∧
        Meets visit socket server.system.now cause
  | .reset => next.system.flags = {}
  | .released => next.system.executor = DeviceExecutor.release server.system.executor
  | .closed => ∃ visit socket guard, server.system.visit = some visit ∧
      server.system.links[visit.link]? = some socket ∧
        next.system.links[visit.link]? = some { socket with guard } ∧ guard.isOpen = false ∧
          guard.sink = if socket.guard.isOpen then socket.guard.sink.shutDown else socket.guard.sink
  | .over ending => next.system.visit = none ∧
      next.isStopped = stopsAt server.system.config.detachPolicy ending ∧
        next.endings = ending :: server.endings

/-- The session is one of the company, and the others step aside for it. -/
structure Hosts [DeviceExecutor Executor] (inner : Company (System Executor) Inner)
    (driver : Inner) (start : Server Executor) : Prop where
  drives : inner.move driver = System.moveSession
  aside : ∀ server party next, Reachable inner start server → party ≠ driver →
    (inner.move party server.system).next? = some next → System.Aside server.system next

/-- A server to which nobody has connected. -/
structure Blank (server : Server Executor) : Prop extends Opening server where
  unlinked : server.system.links = []
  unlined : server.line = []

/-! ### What every run keeps -/

/-- Clients that wait have sockets, and whoever is served has its place in line. -/
structure Kept (server : Server Executor) : Prop where
  placed : System.Placed server.system
  line_lt : ∀ link ∈ server.line, link < server.system.links.length
  unserved : server.isStopped = true → server.system.visit = none

/-- The sessions so far have gone through their stays one after the other, and the one being served
has come as far in its own as its stage tells. -/
inductive InTurn (milestones : List Milestone) (server : Server Executor) : Prop
  | between (stays : List Stay) (unvisited : server.system.visit = none)
      (endings_eq : server.endings = (stays.map Stay.ending).reverse)
      (milestones_eq : milestones = stays.flatMap Stay.course)
  | serving (stays : List Stay) (stay : Stay) (visit : Visit)
      (visit_eq : server.system.visit = some visit) (running : server.isStopped = false)
      (link_eq : visit.link = stay.link) (suits : Session.Suits stay visit.session)
      (endings_eq : server.endings = (stays.map Stay.ending).reverse)
      (milestones_eq : milestones =
        stays.flatMap Stay.course ++ stay.course.take visit.session.stage.progress)

variable {inner : Company (System Executor) Inner} {driver : Inner}
  {start server next : Server Executor} {milestones : List Milestone}

theorem Blank.kept (blank : Blank start) : Kept start where
  placed := ⟨fun link socket socket_eq => by simp [blank.unlinked] at socket_eq,
    fun visit visit_eq => by simp [blank.unvisited] at visit_eq⟩
  line_lt link member := by simp [blank.unlined] at member
  unserved _ := blank.unvisited

theorem Kept.connect (kept : Kept server) : Kept server.connect.2 := by
  have old {link : LinkId} (short : link < server.system.links.length) :
      server.connect.2.system.links[link]? = server.system.links[link]? := by
    simp [Server.connect, System.addLink, List.getElem?_append_left short]
  refine ⟨⟨fun link socket socket_eq => ?_, fun visit visit_eq => ?_⟩, ?_, kept.unserved⟩
  · by_cases short : link < server.system.links.length
    · exact kept.placed.orderly link socket (old short ▸ socket_eq)
    · simp only [Server.connect, System.addLink,
        List.getElem?_append_right (Nat.le_of_not_lt short), List.getElem?_singleton] at socket_eq
      split at socket_eq <;> cases socket_eq
      exact ⟨by simp, by simp⟩
  · obtain ⟨socket, socket_eq, stands⟩ := kept.placed.stands visit visit_eq
    exact ⟨socket, (old (List.getElem?_eq_some_iff.1 socket_eq).1).trans socket_eq, stands⟩
  · intro link member
    have size : server.connect.2.system.links.length = server.system.links.length + 1 := by
      simp [Server.connect, System.addLink]
    rw [size]
    rcases List.mem_append.1 member with waiting | joining
    · exact Nat.lt_succ_of_lt (kept.line_lt link waiting)
    · rw [List.mem_singleton.1 joining]
      exact Nat.lt_succ_self _

theorem Relates.reachable [DecidableEq Inner]
    (relates : Relates inner driver start milestones server) :
    Reachable inner start server := by
  induction relates with
  | start => exact .start
  | step _ event happened ih => exact .step event ih happened

section

variable [DeviceExecutor Executor]

theorem Kept.step (kept : Kept server) (hosts : Hosts inner driver start)
    (reached : Reachable inner start server) {event : Event Inner}
    (happened : Server.step inner server event = some next) : Kept next := by
  cases event with
  | move party =>
      cases party with
      | acceptor =>
          obtain ⟨running, ⟨visit, ending, visit_eq, stage_eq, rfl⟩ |
            ⟨link, line, unvisited, line_eq, rfl⟩⟩ := moveAcceptor_cases happened
          · refine ⟨⟨kept.placed.orderly, fun visit found => ?_⟩, kept.line_lt, fun _ => rfl⟩
            cases found
          · have short := kept.line_lt link (by rw [line_eq]; exact List.mem_cons_self)
            refine ⟨⟨kept.placed.orderly, ?_⟩, fun other member => kept.line_lt other ?_, ?_⟩
            · rintro visit ⟨⟩
              have socket_eq := List.getElem?_eq_getElem short
              refine ⟨_, socket_eq, kept.placed.orderly link _ socket_eq, ?_⟩
              exact fun ticket turn => by cases turn
            · rw [line_eq]
              exact List.mem_cons_of_mem _ member
            · exact fun stopped => by simp [running] at stopped
      | inner party =>
          obtain ⟨system, moved, rfl⟩ := inner_of_step happened
          by_cases own : party = driver
          · subst own
            rw [hosts.drives] at moved
            obtain ⟨placed, length_eq⟩ := kept.placed.move moved
            refine ⟨placed, fun link member => length_eq ▸ kept.line_lt link member, ?_⟩
            intro stopped
            obtain ⟨visit, visit_eq, -⟩ := System.moveSession_cases moved
            rw [kept.unserved stopped] at visit_eq
            cases visit_eq
          · have aside := hosts.aside server party system reached own moved
            exact ⟨aside.placed kept.placed,
              fun link member => Nat.lt_of_lt_of_le (kept.line_lt link member) aside.length_le,
              fun stopped => aside.visit_eq.trans (kept.unserved stopped)⟩
  | connect =>
      obtain rfl := Option.some.inj happened
      exact kept.connect
  | pass duration =>
      obtain rfl := Option.some.inj happened
      exact ⟨⟨kept.placed.orderly, kept.placed.stands⟩, kept.line_lt, kept.unserved⟩
  | setMode link mode =>
      obtain rfl := Option.some.inj happened
      refine ⟨kept.placed.mapLink fun _ _ => .setMode mode, fun link member => ?_, kept.unserved⟩
      simpa [mapSocket, mapSystem, System.mapLink] using kept.line_lt link member
  | _ =>
      obtain rfl := Option.some.inj happened
      refine ⟨kept.placed.mapLink fun _ _ => .none, fun link member => ?_, kept.unserved⟩
      simpa [mapSocket, mapSystem, System.mapLink] using kept.line_lt link member

/-- Whatever happens, a session goes on to the next milestone of its stay, or the server to the next
session. -/
theorem InTurn.step [DecidableEq Inner] (inTurn : InTurn milestones server) (kept : Kept server)
    (hosts : Hosts inner driver start) (reached : Reachable inner start server)
    {event : Event Inner} (happened : Server.step inner server event = some next) :
    InTurn (milestones ++ (milestone? driver server event).toList) next := by
  have still (visit_eq : next.system.visit = server.system.visit)
      (stopped_eq : next.isStopped = server.isStopped) (endings_eq : next.endings = server.endings)
      (silent : milestone? driver server event = none) :
      InTurn (milestones ++ (milestone? driver server event).toList) next := by
    rw [silent, Option.toList_none, List.append_nil]
    cases inTurn with
    | between stays unvisited endings_eq' milestones_eq =>
        exact .between stays (visit_eq.trans unvisited) (endings_eq.trans endings_eq') milestones_eq
    | serving stays stay visit visit_eq' running link_eq suits endings_eq' milestones_eq =>
        exact .serving stays stay visit (visit_eq.trans visit_eq') (stopped_eq.trans running)
          link_eq suits (endings_eq.trans endings_eq') milestones_eq
  cases event with
  | move party =>
      cases party with
      | acceptor =>
          obtain ⟨running, ⟨visit, ending, visit_eq, stage_eq, rfl⟩ |
            ⟨link, line, unvisited, line_eq, rfl⟩⟩ := moveAcceptor_cases happened
          · cases inTurn with
            | between stays unvisited => simp [unvisited] at visit_eq
            | serving stays stay visit' visit_eq' _ link_eq suits endings_eq milestones_eq =>
                obtain rfl := Option.some.inj (visit_eq.symm.trans visit_eq')
                obtain rfl := suits.leaving ending (by rw [stage_eq]; rfl)
                have told : milestone? driver server (.move .acceptor) =
                    some (.over stay.ending) := by
                  simp [milestone?, visit_eq, Session.ending?, stage_eq]
                refine .between (stays ++ [stay]) rfl ?_ ?_
                · simp [endings_eq]
                · rw [told, milestones_eq, stage_eq, List.flatMap_append, List.append_assoc]
                  rfl
          · cases inTurn with
            | between stays _ endings_eq milestones_eq =>
                have told : milestone? driver server (.move .acceptor) = some (.begun link) := by
                  simp [milestone?, unvisited, line_eq]
                refine .serving stays ⟨link, .idle, .inputEnded⟩ { link } rfl running rfl
                  (Session.Stage.IsServing.suits ⟨rfl, rfl⟩ _) endings_eq ?_
                rw [told, milestones_eq]
                rfl
            | serving stays stay visit visit_eq => simp [visit_eq] at unvisited
      | inner party =>
          obtain ⟨system, moved, rfl⟩ := inner_of_step happened
          by_cases own : party = driver
          · subst own
            rw [hosts.drives] at moved
            obtain ⟨visit, after, visit_eq, after_eq, link_eq, goesOn⟩ := kept.placed.goesOn moved
            cases inTurn with
            | between stays unvisited => simp [unvisited] at visit_eq
            | serving stays stay visit' visit_eq' running link_eq' suits endings_eq milestones_eq =>
                obtain rfl := Option.some.inj (visit_eq.symm.trans visit_eq')
                obtain ⟨stay', same, suits', course_eq⟩ := goesOn stay suits
                refine .serving stays stay' after after_eq running
                  (link_eq.trans (link_eq'.trans same.symm)) suits' endings_eq ?_
                rw [milestone?, if_pos rfl, milestones_eq, course_eq, List.append_assoc]
          · have aside := hosts.aside server party system reached own moved
            exact still aside.visit_eq rfl rfl (if_neg own)
  | _ =>
      obtain rfl := Option.some.inj happened
      exact still rfl rfl rfl rfl

/-- A read brings the end of a session only where there is nothing else to read. -/
theorem comes_of_read {system : System Executor} {visit : Visit}
    (visit_eq : server.system.visit = some visit) {limit : Nat}
    (wants : visit.session.wants = some limit)
    (moved : server.system.moveSession.next? = some system) {milestone : Milestone}
    (told : server.system.milestone? = some milestone) :
    Comes server { server with system } milestone := by
  obtain ⟨socket, arrival, inbox, socket_eq, brought, rfl⟩ :=
    System.read_of_moved visit_eq wants moved
  have reads : visit.session.reads? arrival = some milestone := by
    simpa [System.milestone?, visit_eq, wants, socket_eq, brought] using told
  have wanting : visit.session.wants.isSome := by rw [wants]; rfl
  obtain ⟨-, rfl, -⟩ | ⟨empty, kind, faults, faults_eq, rfl, -⟩ | ⟨empty, ended, rfl, -⟩ |
    ⟨-, rfl | rfl, -⟩ := Inbox.read_cases brought
  · cases reads
  · simp only [Session.reads?] at reads
    split at reads
    · cases reads
    · obtain rfl := Option.some.inj reads
      exact ⟨visit, socket, visit_eq, socket_eq, rfl, wanting, empty, by rw [faults_eq]; rfl⟩
  · obtain rfl := Option.some.inj reads
    exact ⟨visit, socket, visit_eq, socket_eq, rfl, wanting, empty, ended⟩
  · cases reads
  · cases reads

theorem Kept.comes_of_answer {system : System Executor} (kept : Kept server) {visit : Visit}
    (visit_eq : server.system.visit = some visit) (silent : visit.session.wants = none)
    (moved : server.system.moveSession.next? = some system) {milestone : Milestone}
    (told : server.system.milestone? = some milestone) :
    Comes server { server with system } milestone := by
  obtain ⟨socket, socket_eq, stands⟩ := kept.placed.stands visit visit_eq
  obtain ⟨answer, answered, hears⟩ : ∃ answer, server.system.answer? = some answer ∧
      visit.session.hears? answer = some milestone := by
    simpa [System.milestone?, visit_eq, silent, Option.bind_eq_some_iff] using told
  unfold Session.hears? at hears
  simp only [System.answer?, visit_eq] at answered
  split at hears
  · next seqnum kind stage_eq =>
      obtain rfl := Option.some.inj hears
      simp only [stage_eq] at answered
      obtain ⟨ticket, guard, result, line, -, polled, standing, failed⟩ :=
        System.served_of_answered socket_eq stands (by rw [stage_eq]; rfl) answered
      cases result with
      | ok => cases failed
      | error error =>
          cases failed
          exact ⟨visit, socket, visit_eq, socket_eq, rfl, seqnum, ticket, line, guard, error,
            stage_eq, standing, polled, rfl⟩
  · next ending stage_eq =>
      obtain rfl := Option.some.inj hears
      simp only [System.moveSession, visit_eq, stage_eq, Move.next?, Option.some.injEq] at moved
      subst moved
      rfl
  · next ending stage_eq =>
      obtain rfl := Option.some.inj hears
      simp only [System.moveSession, visit_eq, stage_eq, Move.next?, Option.some.injEq] at moved
      subst moved
      rfl
  · next ending stage_eq =>
      obtain rfl := Option.some.inj hears
      simp only [stage_eq] at answered
      obtain ⟨ticket, guard, result, line, wait_eq, polled, standing, -⟩ :=
        System.served_of_answered socket_eq stands (by rw [stage_eq]; rfl) answered
      rw [Guard.poll_close standing] at polled
      cases polled
      simp only [System.moveSession, visit_eq, stage_eq, System.runErrand, wait_eq, System.pursue,
        socket_eq, Guard.poll_close standing, Move.next?, Option.some.injEq] at moved
      subst moved
      exact ⟨visit, socket, _, visit_eq, socket_eq, System.getElem?_mapLink socket_eq, rfl, rfl⟩
  · cases hears

theorem Kept.comes [DecidableEq Inner] (kept : Kept server) (hosts : Hosts inner driver start)
    {event : Event Inner} (happened : Server.step inner server event = some next)
    {milestone : Milestone} (told : milestone? driver server event = some milestone) :
    Comes server next milestone := by
  cases event with
  | move party =>
      cases party with
      | acceptor =>
          obtain ⟨running, ⟨visit, ending, visit_eq, stage_eq, rfl⟩ |
            ⟨link, line, unvisited, line_eq, rfl⟩⟩ := moveAcceptor_cases happened
          · obtain rfl : .over ending = milestone := by
              simpa [milestone?, visit_eq, Session.ending?, stage_eq] using told
            exact ⟨rfl, rfl, rfl⟩
          · obtain rfl : .begun link = milestone := by
              simpa [milestone?, unvisited, line_eq] using told
            exact ⟨unvisited, running, rfl⟩
      | inner party =>
          obtain ⟨system, moved, rfl⟩ := inner_of_step happened
          by_cases own : party = driver
          · subst own
            rw [hosts.drives] at moved
            rw [milestone?, if_pos rfl] at told
            obtain ⟨visit, visit_eq, -⟩ := System.moveSession_cases moved
            cases wants : visit.session.wants with
            | none => exact kept.comes_of_answer visit_eq wants moved told
            | some limit => exact comes_of_read visit_eq wants moved told
          · rw [milestone?, if_neg own] at told
            cases told
  | _ => cases told

/-! ### Whole runs -/

variable [DecidableEq Inner]

theorem Relates.kept_inTurn (relates : Relates inner driver start milestones server)
    (hosts : Hosts inner driver start) (blank : Blank start) :
    Kept server ∧ InTurn milestones server := by
  induction relates with
  | start => exact ⟨blank.kept, .between [] blank.unvisited (by simp [blank.unended]) rfl⟩
  | step before event happened ih =>
      obtain ⟨kept, inTurn⟩ := ih
      exact ⟨kept.step hosts before.reachable happened,
        inTurn.step kept hosts before.reachable happened⟩

/-- Sessions are served one after the other. Each of them begins, is struck, resets the flags,
releases the device, closes its socket and is over, in this order and each of it once, before the
next one begins or the server stops; it is struck by the end of its input, by a read that fails or
by an acknowledgement that cannot be sent. A session that cleans up can always go on, or the server
past it, except while somebody else is before it in the line for its socket. -/
theorem sessions_in_turn (hosts : Hosts inner driver start) (blank : Blank start)
    (relates : Relates inner driver start milestones server) :
    InTurn milestones server ∧
      (∀ event next milestone, Server.step inner server event = some next →
        milestone? driver server event = some milestone → Comes server next milestone) ∧
      ∀ visit ending, server.system.visit = some visit →
        visit.session.stage.leaving? = some ending →
          (∃ next, Server.step inner server (.move .acceptor) = some next) ∨
          (∃ next, Server.step inner server (.move (.inner driver)) = some next) ∨
          ∃ ticket socket waiter line, visit.wait = .turn ticket ∧
            server.system.links[visit.link]? = some socket ∧ socket.guard.line = waiter :: line ∧
            waiter.ticket ≠ ticket := by
  obtain ⟨kept, inTurn⟩ := relates.kept_inTurn hosts blank
  refine ⟨inTurn, fun event next milestone happened told => kept.comes hosts happened told,
    fun visit ending visit_eq leaving => ?_⟩
  rcases kept.placed.cleans visit_eq leaving with stage_eq | goes | waits
  · refine Or.inl ?_
    have running : server.isStopped = false := by
      rw [← Bool.not_eq_true]
      intro stopped
      simp [kept.unserved stopped] at visit_eq
    exact ⟨_, by simp [Server.step, company, moveAcceptor, running, visit_eq,
      Session.ending?, stage_eq,
      Move.next?]; rfl⟩
  · obtain ⟨system, moved⟩ := Option.isSome_iff_exists.1 goes
    rw [← hosts.drives] at moved
    exact Or.inr (Or.inl ⟨_, step_inner moved⟩)
  · exact Or.inr (Or.inr waits)

end

/-! ### The company of a host executor -/

open Host in
/-- Loop, workers, jobs and transfers step aside for the session. -/
theorem hosts_company {Handle : Type} [UsbHandle Handle] {start : Server (Host Handle)}
    (fresh : Fresh start) : Hosts Host.company .session start where
  drives := rfl
  aside server party next reached apart moved := by
    have sound : Sound server := reached.invariant (Chronicle.start.sound fresh)
      fun _ _ _ sound happened => sound.step happened
    have happened : Server.step Host.company server (.move (.inner party)) = _ := step_inner moved
    have sound' := sound.step happened
    have visit_eq := visit_eq_of_moved apart moved
    refine ⟨visit_eq, (step_happening happened).length_le, fun placed => ⟨?_, ?_⟩⟩
    · exact fun link socket socket_eq =>
        (sound'.lines.lined link _ (guards_getElem? socket_eq)).orderly
    · intro visit visited
      obtain ⟨socket, socket_eq, stands⟩ := placed.stands visit (visit_eq ▸ visited)
      have socket_eq' := List.getElem?_eq_getElem (sound'.linked.visit_lt visit visited)
      refine ⟨_, socket_eq', (sound'.lines.lined _ _ (guards_getElem? socket_eq')).orderly, ?_⟩
      intro ticket turn
      obtain ⟨errand, wanted, -⟩ := stands.turn ticket turn
      have member : (⟨visit.link, ticket, errand⟩ : Place) ∈ places next := by
        simp [places, visited, Visit.place?, turn, wanted]
      exact ⟨errand, wanted, sound'.lines.holds member (guards_getElem? socket_eq')⟩

/-- Goes along with events, past those that cannot happen, and tells the milestones. -/
def relate [DeviceExecutor Executor] [DecidableEq Inner] (inner : Company (System Executor) Inner)
    (driver : Inner) (server : Server Executor) :
    List (Event Inner) → List Milestone × Server Executor
  | [] => ([], server)
  | event :: events =>
      match step inner server event with
      | none => relate inner driver server events
      | some next =>
          let (milestones, last) := relate inner driver next events
          ((milestone? driver server event).toList ++ milestones, last)

theorem relates_append_relate [DeviceExecutor Executor] [DecidableEq Inner]
    (relates : Relates inner driver start milestones server) (events : List (Event Inner)) :
    Relates inner driver start (milestones ++ (relate inner driver server events).1)
      (relate inner driver server events).2 := by
  induction events generalizing milestones server with
  | nil => rwa [relate, List.append_nil]
  | cons event events ih =>
      rw [relate]
      cases happened : step inner server event with
      | none => exact ih relates
      | some next =>
          have later := ih (relates.step event happened)
          rwa [List.append_assoc] at later

theorem relates_relate [DeviceExecutor Executor] [DecidableEq Inner]
    (inner : Company (System Executor) Inner) (driver : Inner) (server : Server Executor)
    (events : List (Event Inner)) :
    Relates inner driver server (relate inner driver server events).1
      (relate inner driver server events).2 := by
  have relates : Relates inner driver server [] server := .start
  exact relates_append_relate relates events

/-- The first client gets the device and closes. The second one sends what is no command, and its
connection breaks. -/
def oneAfterTheOther : List Milestone × Server (Host Host.Placid) :=
  relate Host.company .session Host.placid
    (Host.firstImport ++ [.finish 0] ++ Host.sessionMoves 20 ++
      [.move .acceptor, .connect, .arrive 1 (List.replicate 20 255),
        .stumble 1 .connectionReset, .move .acceptor] ++ Host.sessionMoves 20 ++
      [.move .acceptor])

theorem sessions_in_turn_of_two :
    InTurn oneAfterTheOther.1 oneAfterTheOther.2 ∧
      oneAfterTheOther.1 = [⟨0, .busy, .inputEnded⟩,
        ⟨1, .idle, .unread .connectionReset⟩].flatMap Stay.course ∧
      oneAfterTheOther.2.endings = [.failed .connectionReset, .detached] := by
  have blank : Blank Host.placid := ⟨⟨rfl, rfl, rfl⟩, rfl, rfl⟩
  have relates : Relates Host.company .session Host.placid oneAfterTheOther.1 oneAfterTheOther.2 :=
    relates_relate _ _ _ _
  exact ⟨(sessions_in_turn (hosts_company Host.fresh_placid) blank relates).1, by decide +kernel,
    by decide +kernel⟩

end Server

end UsbExport

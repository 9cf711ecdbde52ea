import UsbExport.Proofs.Session.Course

/-!
A busy session at work. Its client sends frames in any pieces and then stops, while others take from
the data channel and use the same socket. Main statement: the session does for every frame what the
frame asks for in one piece, in the order of the frames, and then lets the device go.
-/

namespace UsbExport

open Dispatch Socket

namespace System

open Session

variable {Executor : Type}

/-- What the others may do: anything but touch the session, its input and its place in the line for
its socket; of the data channel they only take from the front. -/
structure Spares (visit : Visit) (removed : List SubmitRequest) (before after : System Executor) :
    Prop where
  visit_eq : after.visit = before.visit
  config_eq : after.config = before.config
  data_eq : before.data.queue = removed ++ after.data.queue
  link : ∀ socket, before.links[visit.link]? = some socket →
    ∃ guard, after.links[visit.link]? = some { socket with guard } ∧
      socket.guard.Bystep visit.wait.ticket? guard

/-- Nothing has come that the session could read. -/
def hearsNothing (system : System Executor) : Bool :=
  system.visit.any fun visit => visit.session.wants.isSome &&
    system.links[visit.link]?.any fun socket => socket.inbox.isQuiet

/-- The ways in which a session can go on: its client sends or stops sending, others do something or
time goes by, the session waits for its client or makes another move. -/
inductive Episode [DeviceExecutor Executor] (start : System Executor) (link : LinkId) :
    Record → System Executor → Prop
  | start : Episode start link {} start
  | arrive {record : Record} {system : System Executor} (episode : Episode start link record system)
      (bytes : Bytes) (sending : record.ended = false) :
      Episode start link { record with arrived := record.arrived ++ bytes }
        (system.mapLink link fun socket => { socket with inbox := socket.inbox.arrive bytes })
  | finish {record : Record} {system : System Executor}
      (episode : Episode start link record system) :
      Episode start link { record with ended := true }
        (system.mapLink link fun socket => { socket with inbox := socket.inbox.finish })
  | others {record : Record} {system after : System Executor} {visit : Visit}
      {removed : List SubmitRequest} (episode : Episode start link record system)
      (visit_eq : system.visit = some visit) (spares : Spares visit removed system after) :
      Episode start link { record with removed := record.removed ++ removed } after
  | wait {record : Record} {system next : System Executor}
      (episode : Episode start link record system) (idle : system.hearsNothing = true)
      (moved : system.moveSession.next? = some next) : Episode start link record next
  | move {record : Record} {system next : System Executor}
      (episode : Episode start link record system) (awake : system.hearsNothing = false)
      (moved : system.moveSession.next? = some next) :
      Episode start link (record.after system.deed?) next

/-- What a move does to the surroundings of a session, by what the session is said to do. The
executor is called for a URB that is cancelled and when the device is let go, the data channel
takes a submit that it is said to take, and a frame that was sent stands whole at the end of what
the socket has accepted. -/
structure Shows [DeviceExecutor Executor] (link : LinkId) (deed : Option Deed)
    (system next : System Executor) : Prop where
  executor_eq : next.executor =
    match deed with
    | some (.cancelled target) => DeviceExecutor.unlink system.executor target
    | some .released => DeviceExecutor.release system.executor
    | _ => system.executor
  data_eq : next.data.queue =
    system.data.queue ++ (deed.bind (Deed.accepted? link)).toList
  sent : ∀ frame, deed = some (.served (.send frame) true) →
    ∃ socket earlier, next.links[link]? = some socket ∧
      socket.guard.sink.written = earlier ++ frame

/-- A busy session between two frames, on a socket of which nothing has been read. -/
structure Begins (system : System Executor) (link : LinkId) : Prop where
  visit_eq : system.visit = some { link, session := Session.rest .busy }
  socket : ∃ guard, system.links[link]? = some { guard } ∧ guard.Orderly

/-- How things stand between the session and its client. -/
structure Keeps (start : System Executor) (link : LinkId) (stream : Bytes) (asked : List Effect)
    (record : Record) (system : System Executor) : Prop where
  config_eq : system.config = start.config
  data_eq : record.removed ++ system.data.queue =
    start.data.queue ++ record.deeds.filterMap (Deed.accepted? link)
  course : ∃ visit socket, system.visit = some visit ∧ visit.link = link ∧
    system.links[link]? = some socket ∧
    Course start.config.sessionLimits stream asked record visit socket

namespace Keeps

variable [DeviceExecutor Executor] {start system next : System Executor} {link : LinkId}
  {stream : Bytes} {asked : List Effect} {record : Record} {visit : Visit} {deed : Option Deed}

theorem move (keeps : Keeps start link stream asked record system) (feeds : record.Feeds stream)
    (sent : ∀ errand, deed ≠ some (.served errand false)) (awake : system.hearsNothing = false)
    (visit_eq : system.visit = some visit) (move : SessionMove system visit deed next) :
    Keeps start link stream asked (record.after deed) next := by
  obtain ⟨config_eq, data_eq, visit', socket, visit_eq', rfl, socket_eq, course⟩ := keeps
  obtain rfl : visit = visit' := Option.some.inj (visit_eq.symm.trans visit_eq')
  obtain ⟨_, _, -, due, -⟩ := id course.due
  have untaken {deed : Option Deed} (untaken : deed.bind (Deed.accepted? visit.link) = none) :
      record.removed ++ system.data.queue = start.data.queue ++
        ((record.after deed).deeds).filterMap (Deed.accepted? visit.link) := by
    cases deed with
    | none => simpa [Record.after] using data_eq
    | some deed => simpa [Record.after, show deed.accepted? visit.link = none from untaken]
  have free {deed : Option Deed} {session : Session}
      (due : ∀ ahead owed, Due start.config.sessionLimits record.ended visit.session ahead owed →
        ∃ rest, Due start.config.sessionLimits record.ended session ahead rest ∧
          owed = deed.toList.filterMap Deed.effect? ++ rest)
      (less : ({ visit with session, wait := .nothing } : Visit).toil socket.guard <
        visit.toil socket.guard) :
      Course start.config.sessionLimits stream asked (record.after deed)
        { visit with session, wait := .nothing } socket :=
    course.act course.orderly (by simp) due less
  cases move with
  | read wants socket_eq' brought =>
      obtain rfl := Option.some.inj (socket_eq.symm.trans socket_eq')
      have come : socket.inbox.isQuiet = false := by
        simpa [hearsNothing, visit_eq, wants, socket_eq] using awake
      exact ⟨config_eq, untaken rfl, _, _, rfl, rfl, getElem?_mapLink socket_eq,
        config_eq ▸ course.read feeds wants come brought⟩
  | asked posting posted => simp [due.request?_eq_none] at posting
  | refused posting unposted => simp [due.request?_eq_none] at posting
  | looked awaits => simp [due.awaits_eq_false] at awaits
  | answered awaits => simp [due.awaits_eq_false] at awaits
  | @posted submit data stage_eq posted =>
      refine ⟨config_eq, ?_, _, _, rfl, rfl, socket_eq,
        free (fun ahead owed due => due.submitting stage_eq true) ?_⟩
      · show record.removed ++ data.queue =
          start.data.queue ++ (record.deeds ++ [_]).filterMap (Deed.accepted? visit.link)
        rw [Channel.queue_post posted, ← List.append_assoc, data_eq]
        simp [Deed.accepted?]
      · simp only [Visit.toil, stage_eq, Session.resume, Session.rest]
        cases visit.session.phase <;> simp only [Stage.atRest] <;> split <;> omega
  | dropped stage_eq unposted =>
      refine ⟨config_eq, untaken rfl, _, _, rfl, rfl, socket_eq,
        free (fun ahead owed due => due.submitting stage_eq false) ?_⟩
      simp only [Visit.toil, stage_eq, Session.resume, Session.rest]
      cases visit.session.phase <;> simp only [Stage.atRest] <;> split <;> omega
  | crowded stage_eq unposted unset =>
      refine ⟨config_eq, untaken rfl, _, _, rfl, rfl, socket_eq,
        course.act course.orderly (by simp) (fun ahead owed due => ⟨owed, due, rfl⟩) ?_⟩
      simp only [Visit.toil, stage_eq]
      omega
  | cancelled stage_eq =>
      refine ⟨config_eq, untaken rfl, _, _, rfl, rfl, socket_eq,
        free (fun ahead owed due => due.cancelling stage_eq) ?_⟩
      simp [Visit.toil, stage_eq, Session.resume, Wait.toil, Errand.effort, UnlinkReply.size]
  | stood wanted unset =>
      rw [standInLine_eq socket_eq]
      exact ⟨config_eq, untaken rfl, _, _, rfl, rfl, getElem?_mapLink socket_eq,
        course.stand wanted unset⟩
  | moved wanted wait_eq socket_eq' polled =>
      obtain rfl := Option.some.inj (socket_eq.symm.trans socket_eq')
      refine ⟨config_eq, untaken rfl, visit, _, visit_eq, rfl, getElem?_mapLink socket_eq,
        course.turned wanted wait_eq polled⟩
  | served wanted wait_eq socket_eq' polled standing =>
      obtain rfl := Option.some.inj (socket_eq.symm.trans socket_eq')
      exact ⟨config_eq, untaken rfl, _, _, rfl, rfl, getElem?_mapLink socket_eq,
        course.served (fun fails => sent _ (by rw [fails])) wanted wait_eq polled standing⟩
  | reset stage_eq =>
      refine ⟨config_eq, untaken rfl, _, _, rfl, rfl, socket_eq,
        free (fun ahead owed due => due.cleaning (Or.inl stage_eq)) ?_⟩
      simp [Visit.toil, stage_eq, Session.resume]
  | released stage_eq =>
      refine ⟨config_eq, untaken rfl, _, _, rfl, rfl, socket_eq,
        free (fun ahead owed due => due.cleaning (Or.inr (Or.inl stage_eq))) ?_⟩
      simp [Visit.toil, stage_eq, Session.resume, Wait.toil, Errand.effort]

/-- A read at which nothing has come. -/
theorem wait (keeps : Keeps start link stream asked record system)
    (idle : system.hearsNothing = true) (moved : system.moveSession.next? = some next) :
    Keeps start link stream asked record next := by
  obtain ⟨config_eq, data_eq, visit, socket, visit_eq, rfl, socket_eq, course⟩ := keeps
  obtain ⟨reads, quiet⟩ : visit.session.wants.isSome = true ∧ socket.inbox.isQuiet = true := by
    simpa [hearsNothing, visit_eq, socket_eq] using idle
  obtain ⟨limit, wants⟩ := Option.isSome_iff_exists.1 reads
  obtain ⟨socket', arrival, inbox, socket_eq', brought, rfl⟩ := read_of_moved visit_eq wants moved
  obtain rfl := Option.some.inj (socket_eq.symm.trans socket_eq')
  exact ⟨config_eq, data_eq, _, _, rfl, rfl, getElem?_mapLink socket_eq,
    config_eq ▸ course.waited wants quiet brought⟩

/-- What a session is said to do can be seen around it. -/
theorem shows (keeps : Keeps start link stream asked record system)
    (visit_eq : system.visit = some visit) (move : SessionMove system visit deed next) :
    Shows link deed system next := by
  obtain ⟨-, -, visit', socket, visit_eq', rfl, socket_eq, course⟩ := keeps
  obtain rfl : visit = visit' := Option.some.inj (visit_eq.symm.trans visit_eq')
  obtain ⟨_, _, -, due, -⟩ := id course.due
  have unseen {deed : Option Deed} {next : System Executor}
      (executor_eq : next.executor = system.executor) (data_eq : next.data = system.data)
      (silent : deed = none ∨ (∃ submit, deed = some (.offered submit false)) ∨
        deed = some .reset) : Shows visit.link deed system next := by
    rcases silent with rfl | ⟨submit, rfl⟩ | rfl
    all_goals exact ⟨executor_eq, by simp [data_eq, Deed.accepted?], by simp⟩
  cases move with
  | read wants socket_eq brought => exact unseen rfl rfl (Or.inl rfl)
  | asked posting posted => simp [due.request?_eq_none] at posting
  | refused posting unposted => simp [due.request?_eq_none] at posting
  | looked awaits => simp [due.awaits_eq_false] at awaits
  | answered awaits => simp [due.awaits_eq_false] at awaits
  | posted stage_eq posted =>
      exact ⟨rfl, by simpa [Deed.accepted?] using Channel.queue_post posted, by simp⟩
  | dropped stage_eq unposted => exact unseen rfl rfl (Or.inr (Or.inl ⟨_, rfl⟩))
  | crowded stage_eq unposted unset => exact unseen rfl rfl (Or.inl rfl)
  | cancelled stage_eq =>
      exact ⟨rfl, by simp [System.resume, System.setVisit, Deed.accepted?], by simp⟩
  | stood wanted unset =>
      rw [standInLine_eq socket_eq]
      exact unseen rfl rfl (Or.inl rfl)
  | moved wanted wait_eq socket_eq polled => exact unseen rfl rfl (Or.inl rfl)
  | @served errand ticket _ guard result done line wanted wait_eq socket_eq' polled standing =>
      obtain rfl := Option.some.inj (socket_eq.symm.trans socket_eq')
      have underway := (course.turn ticket wait_eq).1
      refine ⟨by cases done <;> rfl, ?_, ?_⟩
      · cases done <;> simp [System.resume, System.setVisit, System.setGuard, System.mapLink,
          Deed.accepted?]
      · intro frame deed_eq
        obtain ⟨rfl, succeeded⟩ : done = .send frame ∧ result.isOk = true := by
          simpa using deed_eq
        cases result with
        | error error => cases succeeded
        | ok =>
            obtain ⟨earlier, written⟩ := underway.sent standing polled
            exact ⟨_, earlier, getElem?_mapLink socket_eq, written⟩
  | reset stage_eq => exact unseen rfl rfl (Or.inr (Or.inr rfl))
  | released stage_eq =>
      exact ⟨rfl, by simp [System.resume, System.setVisit, Deed.accepted?], by simp⟩

end Keeps

/-! ### A whole episode -/

variable {start system : System Executor} {link : LinkId} {record : Record}

theorem Begins.keeps (begins : Begins start link) (frames : List UrbFrame) :
    Keeps start link (frames.flatMap UrbFrame.bytes)
      (frames.flatMap (UrbFrame.effects start.config.maxTransfer)) {} start := by
  obtain ⟨guard, socket_eq, orderly⟩ := begins.socket
  have due : Due start.config.sessionLimits false (Session.rest .busy)
      (frames.flatMap UrbFrame.bytes)
      (frames.flatMap (UrbFrame.effects start.config.maxTransfer)) :=
    .working (Owes.frames start.config.sessionLimits frames)
  exact {
    config_eq := rfl
    data_eq := by simp
    course := ⟨_, _, begins.visit_eq, rfl, socket_eq, {
      faultless := rfl
      ended_eq := rfl
      orderly := orderly
      turn := by simp
      due := ⟨_, _, rfl, due, rfl, by
        show 0 + 128 * (frames.flatMap UrbFrame.bytes).length + 10 ≤ _
        omega⟩ }⟩ }

theorem Keeps.arrive {stream : Bytes} {asked : List Effect} {bytes : Bytes}
    (keeps : Keeps start link stream asked record system)
    (within : record.arrived ++ bytes <+: stream) :
    Keeps start link stream asked { record with arrived := record.arrived ++ bytes }
      (system.mapLink link fun socket => { socket with inbox := socket.inbox.arrive bytes }) := by
  obtain ⟨config_eq, data_eq, visit, socket, visit_eq, rfl, socket_eq, course⟩ := keeps
  obtain ⟨later, owed, split, due, effects, spent⟩ := course.due
  obtain ⟨rest, rest_eq⟩ := within
  obtain rfl : later = bytes ++ rest := by
    rw [← rest_eq, List.append_assoc] at split
    exact (List.append_cancel_left split).symm
  rw [← List.append_assoc] at due spent
  exact ⟨config_eq, data_eq, visit, _, visit_eq, rfl, getElem?_mapLink socket_eq,
    course.faultless, course.ended_eq, course.orderly, course.turn,
    rest, owed, rest_eq.symm, due, effects, spent⟩

theorem Keeps.finish {stream : Bytes} {asked : List Effect}
    (keeps : Keeps start link stream asked record system) :
    Keeps start link stream asked { record with ended := true }
      (system.mapLink link fun socket => { socket with inbox := socket.inbox.finish }) := by
  obtain ⟨config_eq, data_eq, visit, socket, visit_eq, rfl, socket_eq, course⟩ := keeps
  obtain ⟨later, owed, split, due, effects, spent⟩ := course.due
  refine ⟨config_eq, data_eq, visit, _, visit_eq, rfl, getElem?_mapLink socket_eq,
    course.faultless, rfl, course.orderly, course.turn, later, owed, split, ?_, effects, spent⟩
  change Due _ true visit.session (socket.inbox.bytes ++ later) owed
  generalize visit.session = session at due ⊢
  generalize socket.inbox.bytes ++ later = ahead at due ⊢
  cases due with
  | working owes => exact .working owes
  | leaving stage_eq stopped => exact .leaving stage_eq rfl

theorem Keeps.others {stream : Bytes} {asked : List Effect} {after : System Executor}
    {visit : Visit} {removed : List SubmitRequest}
    (keeps : Keeps start link stream asked record system) (visit_eq : system.visit = some visit)
    (spares : Spares visit removed system after) :
    Keeps start link stream asked { record with removed := record.removed ++ removed } after := by
  obtain ⟨config_eq, data_eq, visit', socket, visit_eq', rfl, socket_eq, course⟩ := keeps
  obtain rfl : visit = visit' := Option.some.inj (visit_eq.symm.trans visit_eq')
  obtain ⟨guard, socket_eq', bystep⟩ := spares.link socket socket_eq
  obtain ⟨later, owed, split, due, effects, spent⟩ := course.due
  refine ⟨spares.config_eq.trans config_eq, ?_, visit, _, spares.visit_eq.trans visit_eq, rfl,
    socket_eq', course.faultless, course.ended_eq, course.orderly.bystep bystep, ?_,
    later, owed, split, due, effects, ?_⟩
  · rw [List.append_assoc, ← spares.data_eq]
    exact data_eq
  · intro ticket turn
    obtain ⟨underway, errand, wanted, holds⟩ := course.turn ticket turn
    rw [turn] at bystep
    exact ⟨underway.bystep course.orderly bystep, errand, wanted,
      holds.bystep course.orderly bystep⟩
  · have toil_eq : visit.toil guard = visit.toil socket.guard := by
      cases turn : visit.wait with
      | turn ticket =>
          obtain ⟨-, errand, wanted, holds⟩ := course.turn ticket turn
          rw [turn] at bystep
          have same := Guard.toil_bystep holds bystep
          obtain ⟨link, ⟨phase, stage⟩, wait⟩ := visit
          obtain rfl : wait = .turn ticket := turn
          cases stage <;> cases wanted <;> simp only [Visit.toil, Wait.toil, same]
      | _ => simp [Visit.toil, Wait.toil, turn]
    rw [toil_eq]
    exact spent

/-- What a session that cannot move waits for. -/
inductive Waits (record : Record) (system : System Executor) (visit : Visit) : Prop
  | client (reads : visit.session.wants ≠ none) (sending : record.ended = false)
  | room {deadline : Nat} (wait_eq : visit.wait = .room deadline)
      (full : system.data.isFull = true) (early : system.now < deadline)
  | turn {ticket : Ticket} {errand : Errand} {socket : Link} (wait_eq : visit.wait = .turn ticket)
      (socket_eq : system.links[visit.link]? = some socket)
      (holds : socket.guard.Holds ticket errand)
      (waiting : socket.guard.poll ticket system.now = .waiting)

theorem waits_of_readInput {limits : SessionLimits} {stream : Bytes} {asked : List Effect}
    {visit : Visit} {socket : Link} {wanted : Nat}
    (course : Course limits stream asked record visit socket)
    (socket_eq : system.links[visit.link]? = some socket)
    (wants : visit.session.wants = some wanted)
    (blocked : (system.readInput visit wanted).next? = none) : Waits record system visit := by
  refine .client (by simp [wants]) ?_
  by_contra stopped
  have ended : socket.inbox.ended = true := by
    rw [course.ended_eq]
    simpa using stopped
  unfold readInput at blocked
  rw [socket_eq] at blocked
  by_cases empty : socket.inbox.bytes.isEmpty = true
  · simp [Inbox.read, empty, course.faultless, ended, Move.next?] at blocked
  · simp [Inbox.read, empty, Move.next?] at blocked

theorem waits_of_runErrand {limits : SessionLimits} {stream : Bytes} {asked : List Effect}
    {visit : Visit} {socket : Link} {errand : Errand}
    (course : Course limits stream asked record visit socket)
    (socket_eq : system.links[visit.link]? = some socket)
    (blocked : (system.runErrand visit errand).next? = none) : Waits record system visit := by
  unfold runErrand at blocked
  split at blocked
  · next ticket wait_eq =>
      obtain ⟨-, errand', -, holds⟩ := course.turn ticket wait_eq
      refine .turn wait_eq socket_eq holds ?_
      unfold pursue at blocked
      rw [socket_eq] at blocked
      cases polled : socket.guard.poll ticket system.now <;>
        simp [polled, Move.next?] at blocked ⊢
  · simp [Move.next?] at blocked

theorem waits_of_postSubmit {visit : Visit} {submit : Submit}
    (blocked : (system.postSubmit visit submit).next? = none) : Waits record system visit := by
  unfold postSubmit at blocked
  cases posted : system.data.post ⟨submit, visit.link⟩ with
  | ok data => simp [posted, Move.next?] at blocked
  | error error =>
      cases error with
      | unavailable => simp [posted, Move.next?] at blocked
      | full =>
          cases wait_eq : visit.wait with
          | room deadline =>
              by_cases late : deadline ≤ system.now
              · simp [posted, wait_eq, late, Move.next?] at blocked
              · exact .room wait_eq (Channel.isFull_iff.2 posted) (Nat.lt_of_not_le late)
          | _ => simp [posted, wait_eq, Move.next?] at blocked

variable [DeviceExecutor Executor]

theorem Episode.keeps {frames : List UrbFrame} (begins : Begins start link)
    (episode : Episode start link record system)
    (feeds : record.Feeds (frames.flatMap UrbFrame.bytes))
    (sent : ∀ errand, .served errand false ∉ record.deeds) :
    Keeps start link (frames.flatMap UrbFrame.bytes)
      (frames.flatMap (UrbFrame.effects start.config.maxTransfer)) record system := by
  induction episode with
  | start => exact begins.keeps frames
  | arrive _ bytes sending ih =>
      have before := (List.prefix_append _ bytes).trans feeds.arrived
      exact (ih ⟨before, by simp [sending]⟩ sent).arrive feeds.arrived
  | finish _ ih => exact (ih ⟨feeds.arrived, fun _ => feeds.ended rfl⟩ sent).finish
  | others _ visit_eq spares ih => exact (ih ⟨feeds.arrived, feeds.ended⟩ sent).others visit_eq spares
  | wait _ idle moved ih => exact (ih feeds sent).wait idle moved
  | @move record system next _ awake moved ih =>
      obtain ⟨visit, visit_eq, move⟩ := moveSession_cases moved
      have sent' : ∀ errand, .served errand false ∉ record.deeds :=
        fun errand mem => sent errand (List.mem_append_left _ mem)
      refine (ih ⟨feeds.arrived, feeds.ended⟩ sent').move ⟨feeds.arrived, feeds.ended⟩ ?_ awake
        visit_eq move
      intro errand deed_eq
      exact sent errand (List.mem_append_right _ (by simp [deed_eq]))

/-- A session that keeps up with its client and cannot move has let the device go, or it waits for
somebody else. -/
theorem Keeps.waits {stream : Bytes} {asked : List Effect}
    (keeps : Keeps start link stream asked record system)
    (blocked : system.moveSession.next? = none) :
    ∃ visit, system.visit = some visit ∧
      (visit.session.stage = .finished .detached ∨ Waits record system visit) := by
  obtain ⟨-, -, visit, socket, visit_eq, rfl, socket_eq, course⟩ := keeps
  refine ⟨visit, visit_eq, ?_⟩
  obtain ⟨_, _, -, due, -⟩ := id course.due
  unfold moveSession at blocked
  rw [visit_eq] at blocked
  cases stage_eq : visit.session.stage with
  | collecting part got =>
      simp only [stage_eq] at blocked
      exact Or.inr (waits_of_readInput course socket_eq (by simp [Session.wants, stage_eq]) blocked)
  | skipping left =>
      simp only [stage_eq] at blocked
      exact Or.inr (waits_of_readInput course socket_eq (by simp [Session.wants, stage_eq]) blocked)
  | submitting submit =>
      simp only [stage_eq] at blocked
      exact Or.inr (waits_of_postSubmit blocked)
  | acknowledging seqnum =>
      simp only [stage_eq] at blocked
      exact Or.inr (waits_of_runErrand course socket_eq blocked)
  | closing ending =>
      simp only [stage_eq] at blocked
      exact Or.inr (waits_of_runErrand course socket_eq blocked)
  | finished ending =>
      have leaving : visit.session.stage.leaving? = some ending := by rw [stage_eq]; rfl
      exact Or.inl (by rw [(due.of_leaving leaving).1])
  | postingList header status cut =>
      have := due.request?_eq_none 0
      simp [stage_eq, Stage.request?] at this
  | postingImport header request =>
      have := due.request?_eq_none 0
      simp [stage_eq, Stage.request?] at this
  | postingUnknown header =>
      have := due.request?_eq_none 0
      simp [stage_eq, Stage.request?] at this
  | awaitingList =>
      have := due.awaits_eq_false
      simp [stage_eq, Stage.awaits] at this
  | awaitingImport =>
      have := due.awaits_eq_false
      simp [stage_eq, Stage.awaits] at this
  | cancelling | resetting | releasing => simp [stage_eq, Move.next?] at blocked

/-- However the stream of a client is cut and whatever others do meanwhile, a busy session does for
every frame what the frame asks for in one piece, in order and nothing else: it never does more than
was asked, makes a bounded number of moves besides waiting for its client, stops for nothing but its
client, room in the data channel or its turn at the socket, and ends when all is done. Whatever it
is said to do next can be seen around it. What the executor finds in the data channel are the
submits that were taken, so one that was dropped is never seen. -/
theorem episode_in_step {frames : List UrbFrame} (begins : Begins start link)
    (episode : Episode start link record system)
    (feeds : record.Feeds (frames.flatMap UrbFrame.bytes))
    (sent : ∀ errand, .served errand false ∉ record.deeds) :
    record.deeds.filterMap Deed.effect? <+:
        frames.flatMap (UrbFrame.effects start.config.maxTransfer) ∧
      record.removed ++ system.data.queue =
        start.data.queue ++ record.deeds.filterMap (Deed.accepted? link) ∧
      record.moves ≤ 128 * (frames.flatMap UrbFrame.bytes).length + 10 ∧
      (∀ next, system.moveSession.next? = some next → Shows link system.deed? system next) ∧
      ∃ visit, system.visit = some visit ∧
        (∀ ending, visit.session.stage.leaving? = some ending →
          ending = .detached ∧ record.ended = true ∧
            record.deeds.filterMap Deed.effect? =
              frames.flatMap (UrbFrame.effects start.config.maxTransfer)) ∧
        (system.moveSession.next? = none →
          visit.session.stage = .finished .detached ∨ Waits record system visit) := by
  have keeps := episode.keeps begins feeds sent
  obtain ⟨-, data_eq, visit, socket, visit_eq, -, -, course⟩ := id keeps
  obtain ⟨later, owed, -, due, effects, spent⟩ := course.due
  refine ⟨⟨owed, effects⟩, data_eq, by omega, fun next moved => ?_, visit, visit_eq, ?_, ?_⟩
  · obtain ⟨visit', visit_eq', move⟩ := moveSession_cases moved
    exact keeps.shows visit_eq' move
  · intro ending leaving
    obtain ⟨detached, stopped, rfl⟩ := due.of_leaving leaving
    exact ⟨detached, stopped, by simpa using effects⟩
  · intro blocked
    obtain ⟨visit', visit_eq', waits⟩ := keeps.waits blocked
    rwa [← Option.some.inj (visit_eq'.symm.trans visit_eq)]

/-- The session moves on alone, as often as it can but at most `count` times. -/
def goOn : (count : Nat) → Record × System Executor → Record × System Executor
  | 0, state => state
  | count + 1, (record, system) =>
      match system.moveSession.next? with
      | some next =>
          goOn count (if system.hearsNothing then record else record.after system.deed?, next)
      | none => (record, system)

theorem Episode.goOn (episode : Episode start link record system) (count : Nat) :
    Episode start link (System.goOn count (record, system)).1
      (System.goOn count (record, system)).2 := by
  induction count generalizing record system with
  | zero => exact episode
  | succ count ih =>
      unfold System.goOn
      split
      · next moved =>
          refine ih ?_
          split
          · next idle => exact episode.wait idle moved
          · next awake => exact episode.move (Bool.eq_false_iff.2 awake) moved
      · exact episode

/-- An executor that only remembers what was cancelled. -/
structure Recorder where
  cancelled : List UInt32 := []
deriving DecidableEq, Repr

instance : DeviceExecutor Recorder where
  unlink recorder seqnum := ⟨recorder.cancelled ++ [seqnum]⟩
  release recorder := recorder

/-- A busy session that is left alone with its client. -/
def lone (inbox : Inbox) : System Recorder where
  config := {}
  links := [{ inbox, guard := { timeout := 10 } }]
  visit := some { link := 0, session := Session.rest .busy }
  executor := {}

def oneByte : Submit := ⟨⟨1, 7, 1, 0, 2⟩, ⟨0, 1, 0, 0, 0, .zero 8⟩, [170], []⟩

/-- A submit with one byte for the device, and the cancelling of another URB. -/
def twoFrames : List UrbFrame :=
  [.submit oneByte.header oneByte.params rfl ⟨[170], rfl⟩ ⟨[], rfl⟩,
    .unlink ⟨2, 8, 1, 0, 0⟩ rfl 4 (.zero 24)]

/-- Both frames arrive in one piece, and nobody is in the way. -/
def twoFramesRun : Record × System Recorder :=
  goOn 40 ({ arrived := twoFrames.flatMap UrbFrame.bytes, ended := true },
    lone { bytes := twoFrames.flatMap UrbFrame.bytes, ended := true })

theorem episode_in_step_of_two_frames :
    Episode (lone {}) 0 twoFramesRun.1 twoFramesRun.2 ∧
      twoFramesRun.1.Feeds (twoFrames.flatMap UrbFrame.bytes) ∧
      twoFramesRun.1.removed ++ twoFramesRun.2.data.queue = [⟨oneByte, 0⟩] ∧
      twoFramesRun.2.executor = ⟨[4]⟩ ∧
      twoFramesRun.1.deeds.filterMap Deed.effect? =
        twoFrames.flatMap (UrbFrame.effects 1024) := by
  have begins : Begins (lone {}) 0 := ⟨rfl, _, rfl, ⟨by simp, fun _ => rfl⟩⟩
  have arrived : Episode (lone {}) 0 { arrived := twoFrames.flatMap UrbFrame.bytes, ended := true }
      (lone { bytes := twoFrames.flatMap UrbFrame.bytes, ended := true }) :=
    (Episode.start.arrive (twoFrames.flatMap UrbFrame.bytes) rfl).finish
  have episode : Episode (lone {}) 0 twoFramesRun.1 twoFramesRun.2 := arrived.goOn 40
  have all : twoFramesRun.1.arrived = twoFrames.flatMap UrbFrame.bytes := by decide +kernel
  have feeds : twoFramesRun.1.Feeds (twoFrames.flatMap UrbFrame.bytes) :=
    ⟨all ▸ List.prefix_rfl, fun _ => all⟩
  have deeds : twoFramesRun.1.deeds =
      [.offered oneByte true, .cancelled 4,
        .served (.send (UnlinkReply.acknowledge 8 0).encode) true, .reset, .released,
        .served .close true] := by decide +kernel
  have stage : twoFramesRun.2.visit.map (fun visit => visit.session.stage.leaving?) =
      some (some .detached) := by decide +kernel
  obtain ⟨-, data_eq, -, -, visit, visit_eq, leaves, -⟩ :=
    episode_in_step begins episode feeds (by simp [deeds])
  have gone : visit.session.stage.leaving? = some .detached := by
    rw [visit_eq] at stage
    exact Option.some.inj stage
  refine ⟨episode, feeds, ?_, by decide +kernel, (leaves _ gone).2.2⟩
  rw [data_eq, deeds]
  rfl

end System

end UsbExport

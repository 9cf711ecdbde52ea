import UsbExport.Proofs.Session.Frames
import UsbExport.Proofs.Session.Leaving

/-!
The course of a busy session: what it has done, what it still owes its client, and how many moves
that takes at most. Main statement: every move either reads a piece of what is ahead or does the
first thing that is owed.
-/

namespace UsbExport

open Dispatch Socket

/-! ### What is asked and what it takes -/

namespace Session

/-- What a deed does for the client. -/
def Deed.effect? : Deed → Option Effect
  | .asked request => some (.ask request)
  | .offered submit _ => some (.offer submit)
  | .cancelled target => some (.cancel target)
  | .served (.send frame) _ => some (.send frame)
  | .served .close _ | .reset | .released => none

def Deed.accepted? (link : LinkId) : Deed → Option SubmitRequest
  | .offered submit true => some ⟨submit, link⟩
  | _ => none

/-- What a session owes its client: what its stage owes while it works, and nothing once it
leaves. -/
inductive Due (limits : SessionLimits) (ended : Bool) : Session → Bytes → List Effect → Prop
  | working {stage : Stage} {ahead : Bytes} {owed : List Effect}
      (owes : Owes limits stage ahead owed) : Due limits ended ⟨.busy, stage⟩ ahead owed
  | leaving {session : Session} (stage_eq : session.stage.leaving? = some .detached)
      (stopped : ended = true) : Due limits ended session [] []

theorem Owes.phase_eq {limits : SessionLimits} {stage : Stage} {ahead : Bytes}
    {owed : List Effect} (owes : Owes limits stage ahead owed) : stage.phase? = some .busy := by
  induction owes with
  | collect more size_eq next ih => exact (Part.phase?_complete limits _ _).symm.trans ih
  | done | skip | submit | cancel | acknowledge => rfl

namespace Due

variable {limits : SessionLimits} {ended : Bool} {session : Session} {ahead : Bytes}
  {owed : List Effect}

theorem request?_eq_none (due : Due limits ended session ahead owed) (slot : SlotId) :
    session.stage.request? slot = none := by
  cases due with
  | working owes => cases owes <;> rfl
  | leaving stage_eq =>
      cases h : session.stage <;> simp_all [Stage.leaving?, Stage.request?]

theorem awaits_eq_false (due : Due limits ended session ahead owed) :
    session.stage.awaits = false := by
  cases due with
  | working owes => cases owes <;> rfl
  | leaving stage_eq =>
      cases h : session.stage <;> simp_all [Stage.leaving?, Stage.awaits]

theorem owes_of_wants {wanted : Nat} (due : Due limits ended session ahead owed)
    (wants : session.wants = some wanted) :
    ∃ stage, session = ⟨.busy, stage⟩ ∧ Owes limits stage ahead owed := by
  cases due with
  | working owes => exact ⟨_, rfl, owes⟩
  | leaving stage_eq =>
      cases h : session.stage <;> simp [Session.wants, Stage.leaving?, h] at wants stage_eq

theorem fits_of_wants {wanted : Nat} (due : Due limits ended session ahead owed)
    (wants : session.wants = some wanted) : session.Fits := by
  obtain ⟨stage, rfl, owes⟩ := due.owes_of_wants wants
  intro phase found
  exact Option.some.inj (owes.phase_eq.symm.trans found)

theorem wants_pos {wanted : Nat} (due : Due limits ended session ahead owed)
    (wants : session.wants = some wanted) : 0 < wanted := by
  obtain ⟨stage, rfl, owes⟩ := due.owes_of_wants wants
  exact owes.wants_pos wants

theorem take {wanted : Nat} {bytes : Bytes} (due : Due limits ended session (bytes ++ ahead) owed)
    (wants : session.wants = some wanted) (some : bytes ≠ []) (within : bytes.length ≤ wanted) :
    Due limits ended (session.take limits bytes) ahead owed := by
  obtain ⟨stage, rfl, owes⟩ := due.owes_of_wants wants
  rw [Owes.phase_take]
  exact .working (owes.take wants some within rfl)

theorem at_end {wanted : Nat} (due : Due limits ended session [] owed)
    (wants : session.wants = some wanted) :
    owed = [] ∧ (session.disturb .inputEnded).stage = .resetting .detached := by
  obtain ⟨stage, rfl, owes⟩ := due.owes_of_wants wants
  obtain ⟨rfl, rfl⟩ := owes.at_end (by rw [wants]; simp)
  exact ⟨rfl, rfl⟩

/-- A submit is offered once, whatever becomes of it. -/
theorem submitting {submit : Submit} (due : Due limits ended session ahead owed)
    (stage_eq : session.stage = .submitting submit) (yes : Bool) :
    ∃ rest, Due limits ended (session.resume (.taken yes)) ahead rest ∧
      owed = [.offer submit] ++ rest := by
  cases due with
  | working owes =>
      cases stage_eq
      cases owes with
      | submit next => exact ⟨_, .working next, rfl⟩
  | leaving leaving => simp [stage_eq, Stage.leaving?] at leaving

theorem cancelling {header : UrbHeader} {target : UInt32}
    (due : Due limits ended session ahead owed)
    (stage_eq : session.stage = .cancelling header target) :
    ∃ rest, Due limits ended (session.resume .done) ahead rest ∧
      owed = [.cancel target] ++ rest := by
  cases due with
  | working owes =>
      cases stage_eq
      cases owes with
      | cancel next => exact ⟨_, .working next, rfl⟩
  | leaving leaving => simp [stage_eq, Stage.leaving?] at leaving

theorem acknowledging {seqnum : UInt32} (due : Due limits ended session ahead owed)
    (stage_eq : session.stage = .acknowledging seqnum) :
    ∃ rest, Due limits ended (session.resume .done) ahead rest ∧
      owed = [.send (acknowledgement seqnum)] ++ rest := by
  cases due with
  | working owes =>
      cases stage_eq
      cases owes with
      | acknowledge next => exact ⟨_, .working next, rfl⟩
  | leaving leaving => simp [stage_eq, Stage.leaving?] at leaving

theorem cleaning {ending : Ending} (due : Due limits ended session ahead owed)
    (stage_eq : session.stage = .resetting ending ∨ session.stage = .releasing ending ∨
      session.stage = .closing ending) :
    ∃ rest, Due limits ended (session.resume .done) ahead rest ∧ owed = [] ++ rest := by
  cases due with
  | working owes =>
      rcases stage_eq with rfl | rfl | rfl
      all_goals cases owes
  | leaving leaving stopped =>
      refine ⟨[], .leaving ?_ stopped, rfl⟩
      rcases stage_eq with stage_eq | stage_eq | stage_eq
      all_goals
        rw [stage_eq] at leaving
        simpa [Session.resume, Stage.leaving?, stage_eq] using leaving

theorem of_leaving {ending : Ending} (due : Due limits ended session ahead owed)
    (leaving : session.stage.leaving? = some ending) :
    ending = .detached ∧ ended = true ∧ owed = [] := by
  cases due with
  | working owes => cases owes <;> cases leaving
  | leaving stage_eq stopped =>
      rw [stage_eq] at leaving
      exact ⟨(Option.some.inj leaving).symm, stopped, rfl⟩

end Due

end Session

/-- Moves that an errand of a session takes at most from now on. -/
def Wait.toil (guard : Guard) (errand : Errand) : Wait → Nat
  | .turn ticket => guard.toil ticket errand
  | _ => errand.effort + 1

theorem Wait.toil_of_free {wait : Wait} (free : ∀ ticket, wait ≠ .turn ticket) (guard : Guard)
    (errand : Errand) : wait.toil guard errand = errand.effort + 1 := by
  cases wait with
  | turn ticket => exact absurd rfl (free ticket)
  | nothing | room | answer => rfl

/-- Moves that a session makes at most before it reads again or has ended. -/
def Visit.toil (visit : Visit) (guard : Guard) : Nat :=
  match visit.session.stage with
  | .submitting _ =>
      match visit.wait with
      | .room _ => 11
      | _ => 12
  | .cancelling _ _ => 111
  | .acknowledging seqnum =>
      10 + visit.wait.toil guard (.send (UnlinkReply.acknowledge seqnum 0).encode)
  | .resetting _ => 6
  | .releasing _ => 5
  | .closing _ => visit.wait.toil guard .close
  | .finished _ => 0
  | _ => 10

namespace System

open Session

/-- What is on record of a session at work. -/
structure Record where
  /-- What the client has sent. -/
  arrived : Bytes := []
  /-- Whether the client has stopped sending. -/
  ended : Bool := false
  /-- What others have taken out of the data channel. -/
  removed : List SubmitRequest := []
  deeds : List Deed := []
  /-- Moves, those apart at which a read found nothing. -/
  moves : Nat := 0

def Record.after (record : Record) (deed : Option Deed) : Record :=
  { record with deeds := record.deeds ++ deed.toList, moves := record.moves + 1 }

/-- The client sends no other bytes, and sends all of them before it stops. -/
structure Record.Feeds (record : Record) (stream : Bytes) : Prop where
  arrived : record.arrived <+: stream
  ended : record.ended = true → record.arrived = stream

/-- What is on record of the session and where it stands, as long as it keeps up with the stream. -/
structure Course (limits : SessionLimits) (stream : Bytes) (asked : List Effect) (record : Record)
    (visit : Visit) (socket : Link) : Prop where
  faultless : socket.inbox.faults = []
  ended_eq : socket.inbox.ended = record.ended
  orderly : socket.guard.Orderly
  turn : ∀ ticket, visit.wait = .turn ticket → socket.guard.Underway ticket ∧
    ∃ errand, visit.session.stage.errand? = some errand ∧ socket.guard.Holds ticket errand
  due : ∃ later owed, stream = record.arrived ++ later ∧
    Due limits record.ended visit.session (socket.inbox.bytes ++ later) owed ∧
    record.deeds.filterMap Deed.effect? ++ owed = asked ∧
    record.moves + 128 * (socket.inbox.bytes ++ later).length + visit.toil socket.guard ≤
      128 * stream.length + 10

/-! ### One move -/

namespace Course

variable {limits : SessionLimits} {stream : Bytes} {asked : List Effect} {record : Record}
  {visit next : Visit} {socket : Link}

theorem act (course : Course limits stream asked record visit socket) {guard : Guard}
    {deed : Option Deed} (orderly : guard.Orderly)
    (turn : ∀ ticket, next.wait = .turn ticket → guard.Underway ticket ∧
      ∃ errand, next.session.stage.errand? = some errand ∧ guard.Holds ticket errand)
    (due : ∀ ahead owed, Due limits record.ended visit.session ahead owed →
      ∃ rest, Due limits record.ended next.session ahead rest ∧
        owed = deed.toList.filterMap Deed.effect? ++ rest)
    (less : next.toil guard < visit.toil socket.guard) :
    Course limits stream asked (record.after deed) next { socket with guard } where
  faultless := course.faultless
  ended_eq := course.ended_eq
  orderly := orderly
  turn := turn
  due := by
    obtain ⟨later, owed, split, owes, effects, spent⟩ := course.due
    obtain ⟨rest, owes', rfl⟩ := due _ owed owes
    refine ⟨later, rest, split, owes', ?_, ?_⟩
    · rw [← effects]
      simp [Record.after]
    · simp only [Record.after]
      omega

theorem toil_of_wants {wanted : Nat} {ended : Bool} {ahead : Bytes} {owed : List Effect}
    (wants : visit.session.wants = some wanted)
    (due : Due limits ended visit.session ahead owed) (guard : Guard) : visit.toil guard = 10 := by
  obtain ⟨stage, session_eq, -⟩ := due.owes_of_wants wants
  rw [session_eq] at wants
  unfold Visit.toil
  rw [session_eq]
  cases stage <;> simp_all [Session.wants]

theorem toil_le_of_free {guard : Guard} (free : ∀ ticket, visit.wait ≠ .turn ticket) :
    visit.toil guard ≤ 111 := by
  have effort := Wait.toil_of_free free guard
  unfold Visit.toil
  cases visit.session.stage with
  | submitting =>
      dsimp only
      split <;> omega
  | acknowledging =>
      simp only [effort]
      simp [Errand.effort, UnlinkReply.size]
  | closing =>
      simp only [effort]
      simp [Errand.effort]
  | _ => simp

theorem free_of_wants (course : Course limits stream asked record visit socket) {wanted : Nat}
    (wants : visit.session.wants = some wanted) (ticket : Ticket) : visit.wait ≠ .turn ticket := by
  intro wait_eq
  obtain ⟨-, errand, errand_eq, -⟩ := course.turn ticket wait_eq
  revert wants errand_eq
  cases stage_eq : visit.session.stage <;> simp [Session.wants, Stage.errand?, stage_eq]

/-- What a read brings is a piece of what is ahead. -/
theorem taken (course : Course limits stream asked record visit socket) {wanted : Nat}
    (wants : visit.session.wants = some wanted) (filled : socket.inbox.bytes ≠ []) :
    Course limits stream asked (record.after none)
      { visit with session := visit.session.take limits (socket.inbox.bytes.take wanted) }
      { socket with
        inbox :=
          { socket.inbox with bytes := socket.inbox.bytes.drop wanted, deadline := none } } := by
  have free := course.free_of_wants wants
  obtain ⟨later, owed, split, due, effects, spent⟩ := course.due
  have pos := due.wants_pos wants
  have cut : socket.inbox.bytes ++ later =
      socket.inbox.bytes.take wanted ++ (socket.inbox.bytes.drop wanted ++ later) := by
    rw [← List.append_assoc, List.take_append_drop]
  have piece : 0 < (socket.inbox.bytes.take wanted).length := by
    have := List.length_pos_iff.2 filled
    rw [List.length_take]
    omega
  refine ⟨course.faultless, course.ended_eq, course.orderly, ?_, later, owed, split, ?_,
    by simpa [Record.after] using effects, ?_⟩
  · exact fun ticket turn => absurd turn (free ticket)
  · rw [cut] at due
    exact due.take wants (List.length_pos_iff.1 piece) (by rw [List.length_take]; omega)
  · have shorter := (congrArg List.length cut).trans List.length_append
    have before := toil_of_wants wants due socket.guard
    have after : ({ visit with
        session := visit.session.take limits (socket.inbox.bytes.take wanted) } : Visit).toil
          socket.guard ≤ 111 := toil_le_of_free free
    simp only [Record.after]
    omega

theorem stopped (course : Course limits stream asked record visit socket) {wanted : Nat}
    (feeds : record.Feeds stream) (wants : visit.session.wants = some wanted)
    (empty : socket.inbox.bytes = []) (ended : socket.inbox.ended = true) :
    Course limits stream asked (record.after none)
      { visit with session := visit.session.disturb .inputEnded }
      { socket with inbox := { socket.inbox with deadline := none } } := by
  have free := course.free_of_wants wants
  obtain ⟨later, owed, split, due, effects, spent⟩ := course.due
  have closed : record.ended = true := course.ended_eq ▸ ended
  obtain rfl : later = [] := by
    rw [feeds.ended closed] at split
    exact List.self_eq_append_right.1 split
  have before := toil_of_wants wants due socket.guard
  rw [empty] at due
  obtain ⟨rfl, leaves⟩ := due.at_end wants
  refine ⟨course.faultless, course.ended_eq, course.orderly, ?_, [], [], split, ?_,
    by simpa [Record.after] using effects, ?_⟩
  · exact fun ticket turn => absurd turn (free ticket)
  · rw [empty]
    exact .leaving (by rw [leaves]; rfl) closed
  · simp only [Record.after, Visit.toil, leaves]
    omega

/-- A read takes a piece of what is ahead, or meets its end, if anything has come. -/
theorem read (course : Course limits stream asked record visit socket) {wanted now : Nat}
    {timeout : Option Nat} {arrival : Arrival} {inbox : Inbox} (feeds : record.Feeds stream)
    (wants : visit.session.wants = some wanted) (come : socket.inbox.isQuiet = false)
    (brought : socket.inbox.read wanted now timeout = some (arrival, inbox)) :
    Course limits stream asked (record.after none)
      { visit with session := visit.session.receive limits arrival } { socket with inbox } := by
  obtain ⟨filled, rfl, rfl⟩ | ⟨-, kind, faults, faults_eq, -⟩ | ⟨empty, ended, rfl, rfl⟩ |
    ⟨quiet, -⟩ := Inbox.read_cases brought
  · exact course.taken wants filled
  · rw [course.faultless] at faults_eq
    contradiction
  · exact course.stopped feeds wants empty ended
  · rw [come] at quiet
    contradiction

theorem waited (course : Course limits stream asked record visit socket) {wanted now : Nat}
    {timeout : Option Nat} {arrival : Arrival} {inbox : Inbox}
    (wants : visit.session.wants = some wanted) (quiet : socket.inbox.isQuiet = true)
    (brought : socket.inbox.read wanted now timeout = some (arrival, inbox)) :
    Course limits stream asked record
      { visit with session := visit.session.receive limits arrival } { socket with inbox } := by
  obtain ⟨_, _, -, due, -⟩ := id course.due
  have same : visit.session.elapse = visit.session := elapse_eq (due.fits_of_wants wants)
  obtain ⟨filled, -⟩ | ⟨-, kind, faults, faults_eq, -⟩ | ⟨-, ended, -⟩ |
    ⟨-, rfl | rfl, deadline, rfl⟩ := Inbox.read_cases brought
  · simp [Inbox.isQuiet, filled] at quiet
  · simp [Inbox.isQuiet, faults_eq] at quiet
  · simp [Inbox.isQuiet, ended] at quiet
  · exact ⟨course.faultless, course.ended_eq, course.orderly, course.turn, course.due⟩
  · have kept : visit.session.receive limits (.disturbance .silence) = visit.session := same
    rw [kept]
    exact ⟨course.faultless, course.ended_eq, course.orderly, course.turn, course.due⟩

theorem stand (course : Course limits stream asked record visit socket) {errand : Errand}
    (wanted : visit.session.stage.errand? = some errand)
    (unset : ∀ ticket, visit.wait ≠ .turn ticket) :
    Course limits stream asked (record.after none)
      { visit with wait := .turn (socket.guard.request errand).1 }
      { socket with guard := (socket.guard.request errand).2 } := by
  refine course.act (course.orderly.request errand) ?_ ?_ ?_
  · rintro _ ⟨⟩
    exact ⟨.request course.orderly errand, errand, wanted, .request course.orderly errand⟩
  · exact fun ahead owed due => ⟨owed, due, rfl⟩
  · have before := Wait.toil_of_free unset socket.guard errand
    have after := Guard.toil_request course.orderly errand
    obtain ⟨link, ⟨phase, stage⟩, wait⟩ := visit
    cases stage <;> cases wanted <;>
      simp only [Visit.toil, Wait.toil] at before ⊢ <;> omega

theorem turned (course : Course limits stream asked record visit socket) {errand : Errand}
    {ticket : Ticket} {now : Nat} {guard : Guard}
    (wanted : visit.session.stage.errand? = some errand) (wait_eq : visit.wait = .turn ticket)
    (moved : socket.guard.poll ticket now = .advanced guard ∨
      socket.guard.poll ticket now = .paused guard) :
    Course limits stream asked (record.after none) visit { socket with guard } := by
  obtain ⟨underway, errand', wanted', holds⟩ := course.turn ticket wait_eq
  obtain rfl : errand = errand' := Option.some.inj (wanted.symm.trans wanted')
  have kept := Guard.kept_of_moved moved
  refine course.act (course.orderly.moved moved) ?_ ?_ ?_
  · intro other turn
    obtain rfl : ticket = other := Wait.turn.inj (wait_eq.symm.trans turn)
    exact ⟨underway.moved moved, errand, wanted, holds.of_line_eq kept.1⟩
  · exact fun ahead owed due => ⟨owed, due, rfl⟩
  · have less := Guard.toil_moved_lt holds moved
    obtain ⟨link, ⟨phase, stage⟩, wait⟩ := visit
    obtain rfl : wait = .turn ticket := wait_eq
    cases stage <;> cases wanted <;> simp only [Visit.toil, Wait.toil] <;> omega

theorem served (course : Course limits stream asked record visit socket) {errand done : Errand}
    {ticket : Ticket} {now : Nat} {guard : Guard} {result : Except SendError Unit}
    {line : List Waiter} (sent : result.isOk ≠ false)
    (wanted : visit.session.stage.errand? = some errand) (wait_eq : visit.wait = .turn ticket)
    (polled : socket.guard.poll ticket now = .finished guard result)
    (standing : socket.guard.line = ⟨ticket, done⟩ :: line) :
    Course limits stream asked (record.after (some (.served done result.isOk)))
      { visit with session := visit.session.resume (.ofSend result), wait := .nothing }
      { socket with guard } := by
  obtain ⟨-, errand', wanted', holds⟩ := course.turn ticket wait_eq
  obtain rfl : errand = errand' := Option.some.inj (wanted.symm.trans wanted')
  obtain rfl : done = errand :=
    holds.only ⟨ticket, done⟩ (by rw [standing]; exact List.mem_cons_self) rfl
  cases result with
  | error error => exact absurd rfl sent
  | ok =>
      have pos := socket.guard.toil_pos ticket done
      refine course.act (course.orderly.finished polled) (by simp) ?_ ?_
      · intro ahead owed due
        cases stage_eq : visit.session.stage with
        | acknowledging seqnum =>
            rw [stage_eq] at wanted
            obtain rfl := Option.some.inj wanted
            rw [UnlinkReply.encode_acknowledge]
            exact due.acknowledging stage_eq
        | closing ending =>
            rw [stage_eq] at wanted
            obtain rfl := Option.some.inj wanted
            exact due.cleaning (Or.inr (Or.inr stage_eq))
        | _ => simp [stage_eq, Stage.errand?] at wanted
      · obtain ⟨link, ⟨phase, stage⟩, wait⟩ := visit
        obtain rfl : wait = .turn ticket := wait_eq
        cases stage <;> cases wanted
        · cases phase <;>
            simp only [Visit.toil, Wait.toil, Answer.ofSend, Session.resume, Session.rest,
              Stage.atRest] <;> omega
        · simp only [Visit.toil, Wait.toil, Answer.ofSend, Session.resume]
          omega

end Course

end System

end UsbExport

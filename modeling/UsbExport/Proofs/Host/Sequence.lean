import UsbExport.Proofs.Host.Aftermath
import UsbExport.Proofs.Host.Completions
import UsbExport.Proofs.Host.Grants
import UsbExport.Proofs.Host.Lanes

/-!
The order of the URBs of one client along a run. Main statement: for every endpoint, in the order in
which the client has submitted them, the transfers begin, one at a time, and the completions get to
its socket.
-/

namespace UsbExport.Host

open Dispatch Socket
open scoped List

variable {Handle : Type}

/-! ### Steps of all workers -/

theorem WorkStep.unposted {urbs urbs' : Urbs} {work work' : Work} {deed : Option Deed}
    (step : WorkStep urbs work deed work' urbs') : deed.bind Deed.posted? = none := by
  cases step <;> rfl

/-- The answers that have had their turn, told with the URBs they are for. -/
structure Attributed (trace : List Deed) (crew : Crew) (roll : List Hand)
    (answers : List Answer) : Prop where
  workers_eq : roll.map Hand.worker = crew.workers
  fits : ∀ hand ∈ roll, hand.Fits
  told : answers.map Answer.deed = trace.filter Deed.isAnswer
  genuine : ∀ answer ∈ answers, answer.Fits

/-- The URBs of a client are with the workers of their endpoints, in order. -/
structure InLine (link : LinkId) (trace : List Deed) (crew : Crew) (roll : List Hand)
    (answers : List Answer) : Prop where
  assigned : Assigned link roll
  queued : ∀ address, Queued link address (lane link address (posted trace))
    (lane link address (retired trace)) (lane link address (begun trace))
    (lane link address (answers.map Answer.request)) (lane link address crew.waiting) roll

/-- Nothing of a client is taken up any more. -/
def WindsUp (link : LinkId) (trace : List Deed) (roll : List Hand) (answers : List Answer) :
    Prop :=
  ∀ address, Winding link address (lane link address (posted trace))
    (lane link address (begun trace)) (lane link address (answers.map Answer.request)) roll

namespace Attributed

variable {trace : List Deed} {crew : Crew} {roll : List Hand} {answers : List Answer}

theorem split (attributed : Attributed trace crew roll answers) {id : WorkerId} {worker : Worker}
    (worker_eq : crew.workers[id]? = some worker) :
    ∃ front owed back, roll = front ++ ⟨worker, owed⟩ :: back ∧
      ∀ hand : Hand, (front ++ hand :: back).map Hand.worker = crew.workers.set id hand.worker := by
  obtain ⟨earlier, later, workers_eq, set_eq⟩ := exists_split worker_eq
  have roll_eq := attributed.workers_eq.trans workers_eq
  obtain ⟨front, rest, rfl, front_eq, rest_eq⟩ := List.map_eq_append_iff.1 roll_eq
  obtain ⟨hand, back, rfl, rfl, back_eq⟩ := List.map_eq_cons_iff.1 rest_eq
  refine ⟨front, hand.owed, back, rfl, fun hand' => ?_⟩
  rw [set_eq, ← front_eq, ← back_eq, List.map_append, List.map_cons]

/-- What is no answer is not told among the answers. -/
theorem told_of_aside (attributed : Attributed trace crew roll answers) {deed : Option Deed}
    (aside : ∀ what ∈ deed, what.isAnswer = false) :
    answers.map Answer.deed = (trace ++ deed.toList).filter Deed.isAnswer := by
  rw [attributed.told, List.filter_append]
  cases deed with
  | none => simp
  | some what => simp [aside what rfl]

end Attributed

/-- A deed that moves no URB along leaves the accounts of the run as they are. -/
structure Silent (deed : Option Deed) : Prop where
  posted : deed.bind Deed.posted? = none
  retired : deed.bind Deed.retired? = none
  begun : deed.bind Deed.begun? = none
  answer : ∀ what ∈ deed, what.isAnswer = false

theorem silent_of_aside {deed : Option Deed} (aside : ∀ what ∈ deed, what.isProgress = false) :
    Silent deed := by
  cases deed with
  | none => exact ⟨rfl, rfl, rfl, nofun⟩
  | some what =>
      have aside := aside what rfl
      cases what with
      | session link deed =>
          cases deed with
          | offered submit taken =>
              cases taken with
              | true => cases aside
              | false => exact ⟨rfl, rfl, rfl, by simp [Deed.isAnswer]⟩
          | _ => exact ⟨rfl, rfl, rfl, by simp [Deed.isAnswer]⟩
      | cleared => exact ⟨rfl, rfl, rfl, by simp [Deed.isAnswer]⟩
      | answering link completion => exact ⟨rfl, rfl, rfl, by simp [Deed.isAnswer]⟩
      | _ => cases aside

section

variable {link : LinkId} {trace : List Deed} {crew : Crew} {roll : List Hand}
  {answers : List Answer} {deed : Option Deed}

theorem InLine.silent (inLine : InLine link trace crew roll answers) (silent : Silent deed) :
    InLine link (trace ++ deed.toList) crew roll answers := by
  refine ⟨inLine.assigned, fun address => ?_⟩
  rw [posted_append, retired_append, begun_append, silent.posted, silent.retired, silent.begun]
  simpa using inLine.queued address

theorem WindsUp.silent (windsUp : WindsUp link trace roll answers) (silent : Silent deed) :
    WindsUp link (trace ++ deed.toList) roll answers := by
  intro address
  rw [posted_append, begun_append, silent.posted, silent.begun]
  simpa using windsUp address

/-- A client that has submitted nothing has nothing to do with any worker. -/
theorem InLine.unconcerned (inLine : InLine link trace crew roll answers)
    (unposted : ∀ request ∈ posted trace, request.reply ≠ link) {hand : Hand}
    (member : hand ∈ roll) {request : SubmitRequest} (concerned : request ∈ hand.concerns) :
    request.reply ≠ link := by
  intro here
  have nothing : lane link request.address (posted trace) = [] :=
    lane_eq_nil fun other member reply_eq => absurd reply_eq (unposted other member)
  obtain ⟨order, -, answered_le⟩ := inLine.queued request.address
  rw [nothing] at order
  obtain ⟨retired_eq, held_eq, -⟩ : lane link request.address (retired trace) = [] ∧
      laneOf link request.address Hand.held roll = [] ∧ _ := by
    simpa using order.symm
  have staged_eq : laneOf link request.address Hand.staged roll = [] := by
    refine List.sublist_nil.1 ?_
    rw [← held_eq]
    exact laneOf_sublist fun hand _ => hand.staged_sublist_held
  rw [retired_eq, staged_eq] at answered_le
  have owing_eq := (List.append_eq_nil_iff.1 (List.sublist_nil.1 answered_le)).2
  have mem_laneOf {part : Hand → List SubmitRequest} (found : request ∈ part hand) :
      request ∈ laneOf link request.address part roll :=
    mem_lane.2 ⟨List.mem_flatMap.2 ⟨hand, member, found⟩, here, rfl⟩
  rcases List.mem_append.1 concerned with found | found
  · have found := mem_laneOf found
    rw [held_eq] at found
    cases found
  · have found := mem_laneOf found
    rw [owing_eq] at found
    cases found

end

/-- The hands and the answers after a step, with what they keep for every client. -/
structure Onward (busy : Bool) (trace : List Deed) (deed : Option Deed) (crew : Crew)
    (roll : List Hand) (answers : List Answer) (crew' : Crew) (roll' : List Hand)
    (answers' : List Answer) : Prop where
  attributed : Attributed (trace ++ deed.toList) crew' roll' answers'
  inLine : ∀ link, InLine link trace crew roll answers →
    ((∃ what ∈ deed, what.Dismisses) → ∀ request ∈ posted trace, request.reply ≠ link) →
    InLine link (trace ++ deed.toList) crew' roll' answers'
  windsUp : busy = false → ∀ link, WindsUp link trace roll answers →
    WindsUp link (trace ++ deed.toList) roll' answers'

section

variable {busy : Bool} {trace : List Deed} {crew crew' : Crew} {roll : List Hand}
  {answers : List Answer} {deed : Option Deed}

theorem Attributed.works (attributed : Attributed trace crew roll answers) {id : WorkerId}
    {worker worker' : Worker} (worker_eq : crew.workers[id]? = some worker)
    (address_eq : worker'.address = worker.address)
    (registered_eq : worker'.isRegistered = worker.isRegistered) {urbs urbs' : Urbs}
    (step : WorkStep urbs worker.work deed worker'.work urbs')
    (awake : ∀ request, worker'.stage = .transferring request none → busy = true) :
    ∃ roll' answers', Onward busy trace deed crew roll answers
      { crew with workers := crew.workers.set id worker' } roll' answers' := by
  obtain ⟨front, owed, back, rfl, workers_eq⟩ := attributed.split worker_eq
  have fits := attributed.fits
  rw [List.forall_mem_append, List.forall_mem_cons] at fits
  have unposted := step.unposted
  have fits_here : Hand.Fits ⟨worker, owed⟩ := fits.2.1
  obtain ⟨owed', fresh, fits', handStep⟩ := WorkStep.handStep fits_here step
  refine ⟨front ++ ⟨worker', owed'⟩ :: back, answers ++ fresh, ?_, fun link inLine _ => ?_,
    fun resting link windsUp => ?_⟩
  · refine ⟨workers_eq ⟨worker', owed'⟩, ?_, ?_, ?_⟩
    · rw [List.forall_mem_append, List.forall_mem_cons]
      exact ⟨fits.1, fits', fits.2.2⟩
    · rw [List.map_append, List.filter_append, attributed.told]
      cases handStep with
      | takes => rfl
      | goesOn held_eq staged_le unbegun_le owing_le told => rw [told]
    · refine List.forall_mem_append.2 ⟨attributed.genuine, ?_⟩
      cases handStep with
      | takes => nofun
      | goesOn held_eq staged_le unbegun_le owing_le told genuine => exact genuine
  · refine ⟨inLine.assigned.set address_eq registered_eq fun request member =>
      Or.inl (handStep.concerns_subset member), fun address => ?_⟩
    rw [posted_append, retired_append, begun_append, unposted, List.map_append]
    simpa using (inLine.queued address).works inLine.assigned handStep
  · intro address
    rw [posted_append, begun_append, unposted, List.map_append]
    simpa using (windsUp address).works attributed.fits handStep fun request stage_eq => by
      rw [awake request stage_eq] at resting
      cases resting

/-- Where nothing is begun or answered, the hands keep what they have. -/
theorem Attributed.silent (attributed : Attributed trace crew roll answers)
    (silent : Silent deed) {roll' : List Hand} (workers_eq : roll'.map Hand.worker = crew'.workers)
    (fits : ∀ hand ∈ roll', hand.Fits) :
    Attributed (trace ++ deed.toList) crew' roll' answers :=
  ⟨workers_eq, fits, attributed.told_of_aside silent.answer, attributed.genuine⟩

theorem Attributed.posts (attributed : Attributed trace crew roll answers) (link : LinkId)
    (submit : Submit) :
    Onward busy trace (some (.session link (.offered submit true))) crew roll answers
      { crew with waiting := crew.waiting ++ [⟨submit, link⟩] } roll answers := by
  refine ⟨?_, fun other inLine _ => ?_, fun _ other windsUp address => ?_⟩
  · exact ⟨attributed.workers_eq, attributed.fits,
      attributed.told_of_aside (by simp [Deed.isAnswer]), attributed.genuine⟩
  · refine ⟨inLine.assigned, fun address => ?_⟩
    rw [posted_append, retired_append, begun_append]
    simpa [Deed.posted?, Deed.retired?, Deed.begun?] using
      (inLine.queued address).post (lane other address [⟨submit, link⟩])
  · rw [posted_append, begun_append, lane_append, lane_append]
    simpa [Deed.begun?] using (windsUp address).still (List.sublist_append_left _ _) rfl rfl

theorem silent_accepted (request : SubmitRequest) : Silent (some (.accepted request)) :=
  ⟨rfl, rfl, rfl, by simp [Deed.isAnswer]⟩

/-- The URB joins the queue of its worker. -/
theorem Attributed.accepts (attributed : Attributed trace crew roll answers)
    {request : SubmitRequest} {waiting : List SubmitRequest} {id : WorkerId} {worker : Worker}
    (waiting_eq : crew.waiting = request :: waiting) (worker_eq : crew.workers[id]? = some worker)
    (registered : worker.isRegistered = true) (address_eq : worker.address = request.address) :
    ∃ roll', Onward busy trace (some (.accepted request)) crew roll answers
      ⟨waiting, crew.workers.set id { worker with queue := worker.queue ++ [request] }⟩ roll'
      answers := by
  obtain ⟨front, owed, back, rfl, workers_eq⟩ := attributed.split worker_eq
  have fits := attributed.fits
  rw [List.forall_mem_append, List.forall_mem_cons] at fits
  have silent := silent_accepted request
  let hand : Hand := ⟨{ worker with queue := worker.queue ++ [request] }, owed⟩
  refine ⟨front ++ hand :: back, ?_, fun link inLine _ => ?_, fun _ link windsUp => ?_⟩
  · refine attributed.silent silent (workers_eq hand) ?_
    rw [List.forall_mem_append, List.forall_mem_cons]
    exact ⟨fits.1, fits.2.1, fits.2.2⟩
  · refine InLine.silent ⟨?_, fun address => ?_⟩ silent
    · refine inLine.assigned.set rfl rfl fun other member => ?_
      simp only [Hand.concerns, Hand.held, Hand.staged, Hand.owing, hand, List.mem_append,
        List.mem_singleton] at member ⊢
      rcases member with (staged | queued | rfl) | owing
      · exact Or.inl (Or.inl (Or.inl staged))
      · exact Or.inl (Or.inl (Or.inr queued))
      · exact Or.inr ⟨address_eq.symm, registered⟩
      · exact Or.inl (Or.inr owing)
    · have queued := inLine.queued address
      rw [waiting_eq] at queued
      exact queued.accept inLine.assigned registered address_eq
        (List.append_assoc _ _ _).symm rfl rfl rfl
  · refine WindsUp.silent (fun address => ?_) silent
    exact (windsUp address).still (.refl _) (laneOf_exchange rfl) (laneOf_exchange rfl)

/-- A worker comes for the URB. -/
theorem Attributed.employs (attributed : Attributed trace crew roll answers)
    {request : SubmitRequest} {waiting : List SubmitRequest}
    (waiting_eq : crew.waiting = request :: waiting)
    (nobody : ∀ worker ∈ crew.workers, worker.isRegistered = true →
      worker.address ≠ request.address) :
    ∃ roll', Onward busy trace (some (.accepted request)) crew roll answers
      ⟨waiting, crew.workers ++ [{ address := request.address, queue := [request] }]⟩ roll'
      answers := by
  have silent := silent_accepted request
  let hand : Hand := ⟨{ address := request.address, queue := [request] }, none⟩
  refine ⟨roll ++ [hand], ?_, fun link inLine _ => ?_, fun _ link windsUp => ?_⟩
  · refine attributed.silent silent ?_ ?_
    · rw [List.map_append, attributed.workers_eq]
      rfl
    · rw [List.forall_mem_append, List.forall_mem_singleton]
      exact ⟨attributed.fits, rfl⟩
  · refine InLine.silent ⟨?_, fun address => ?_⟩ silent
    · refine inLine.assigned.employ (fun other member => ?_) rfl fun other member => ?_
      · refine nobody other.worker ?_
        rw [← attributed.workers_eq]
        exact List.mem_map_of_mem member
      · rw [List.mem_singleton.1 member]
    · have queued := inLine.queued address
      rw [waiting_eq] at queued
      exact queued.employ rfl rfl rfl rfl
  · refine WindsUp.silent (fun address => ?_) silent
    exact (windsUp address).still (.refl _) (laneOf_employ rfl) (laneOf_employ rfl)

theorem Attributed.dismisses (attributed : Attributed trace crew roll answers) {what : Deed}
    (dismisses : what.Dismisses) :
    Onward busy trace (some what) crew roll answers
      { crew with workers := crew.workers.map Worker.dismiss } (roll.map Hand.dismiss) answers := by
  have silent : Silent (some what) := silent_of_aside (by
    rcases dismisses with rfl | ⟨link, rfl⟩ <;> simp [Deed.isProgress])
  refine ⟨?_, fun link inLine unposted => ?_, fun _ link windsUp => ?_⟩
  · refine attributed.silent silent ?_ (List.forall_mem_map.2 attributed.fits)
    rw [← attributed.workers_eq, List.map_map, List.map_map]
    rfl
  · refine InLine.silent ⟨?_, fun address => (inLine.queued address).dismiss⟩ silent
    exact inLine.assigned.dismiss fun hand member request concerned =>
      inLine.unconcerned (unposted ⟨what, rfl, dismisses⟩) member concerned
  · refine WindsUp.silent (fun address => ?_) silent
    exact (windsUp address).still (.refl _) (laneOf_dismiss fun _ => rfl)
      (laneOf_dismiss fun _ => rfl)

theorem Attributed.step (attributed : Attributed trace crew roll answers)
    (step : CrewStep busy crew deed crew') :
    ∃ roll' answers', Onward busy trace deed crew roll answers crew' roll' answers' := by
  cases step with
  | posts link submit => exact ⟨roll, answers, attributed.posts link submit⟩
  | accepts waiting_eq worker_eq registered address_eq =>
      obtain ⟨roll', onward⟩ := attributed.accepts waiting_eq worker_eq registered address_eq
      exact ⟨roll', answers, onward⟩
  | employs waiting_eq nobody =>
      obtain ⟨roll', onward⟩ := attributed.employs waiting_eq nobody
      exact ⟨roll', answers, onward⟩
  | dismisses dismisses => exact ⟨_, answers, attributed.dismisses dismisses⟩
  | works worker_eq address_eq registered_eq step awake =>
      obtain ⟨urbs, urbs', step⟩ := step
      exact attributed.works worker_eq address_eq registered_eq step awake
  | rests aside =>
      have silent := silent_of_aside aside
      exact ⟨roll, answers, attributed.silent silent attributed.workers_eq attributed.fits,
        fun link inLine _ => inLine.silent silent, fun _ link windsUp => windsUp.silent silent⟩

end

/-! ### A session in order -/

theorem DeskStep.free_of_unmarked {before after : Desk} {note : Option Note}
    (step : DeskStep before note after) (free : before.busy = false)
    (unmarked : ∀ order, note ≠ some (.marked order)) : after.busy = false := by
  cases step with
  | resets => rfl
  | @marks order => exact absurd rfl (unmarked order)
  | unmarks => rfl
  | _ => exact free

/-- The URBs of a client stand in line until its session resets the flags. Then the device is free,
and nothing of the client is taken up any more. -/
inductive Orderly (link : LinkId) (notes : List Note) (system : System (Host Handle))
    (roll : List Hand) (answers : List Answer) : Prop
  | serving (unreset : .deed (.session link .reset) ∉ notes)
      (inLine : InLine link (deeds notes) (crew system) roll answers)
  | leaving (reset : .deed (.session link .reset) ∈ notes) (free : system.flags.busy = false)
      (windsUp : WindsUp link (deeds notes) roll answers)

theorem InLine.windsUp {link : LinkId} {trace : List Deed} {crew : Crew} {roll : List Hand}
    {answers : List Answer} (inLine : InLine link trace crew roll answers) :
    WindsUp link trace roll answers :=
  fun address => (inLine.queued address).winding inLine.assigned

theorem Orderly.windsUp {link : LinkId} {notes : List Note} {system : System (Host Handle)}
    {roll : List Hand} {answers : List Answer} (orderly : Orderly link notes system roll answers) :
    WindsUp link (deeds notes) roll answers := by
  cases orderly with
  | serving unreset inLine => exact inLine.windsUp
  | leaving reset free windsUp => exact windsUp

namespace Chronicle

variable [UsbHandle Handle] {start server : Server (Host Handle)} {notes : List Note}
  {link : LinkId}

/-- Who has submitted anything has the device until its session resets the flags. -/
theorem atWork_of_posted (chronicle : Chronicle start notes server) (fresh : Fresh start)
    (unreset : .deed (.session link .reset) ∉ notes) {request : SubmitRequest}
    (member : request ∈ posted (deeds notes)) (reply_eq : request.reply = link) :
    AtWork link (desk server.system) := by
  induction chronicle with
  | start => cases member
  | @step notes server next past event happened ih =>
      have atWork : AtWork link (desk server.system) := by
        rw [deeds_append, note?_deed, posted_append, List.mem_append, Option.mem_toList] at member
        rcases member with earlier | now
        · exact ih (fun reset => unreset (List.mem_append_left _ reset)) earlier
        · obtain ⟨what, said, found⟩ := Option.bind_eq_some_iff.1 now
          have happening := step_happening happened
          rw [said, Deed.eq_of_posted? found, reply_eq] at happening
          exact happening.busy_of_urb rfl (past.history.asks fresh)
      exact atWork.step (step_deskStep happened) fun said => unreset (by simp [said])

/-- Until the device is marked for somebody after its session, a client has its URBs in order. -/
theorem orderly (chronicle : Chronicle start notes server) (fresh : Fresh start)
    (unmarked : ∀ order, ¬[.deed (.session link .reset), .marked order] <+ notes) :
    ∃ roll answers, Attributed (deeds notes) (crew server.system) roll answers ∧
      Orderly link notes server.system roll answers := by
  induction chronicle with
  | start =>
      refine ⟨[], [], ⟨?_, by simp, rfl, by simp⟩, .serving (by simp) ⟨?_, fun address => ?_⟩⟩
      · rw [crew, fresh.unemployed]
        rfl
      · exact ⟨by simp, .nil, by simp⟩
      · rw [crew, fresh.unposted.1]
        exact ⟨rfl, .refl _, .refl _⟩
  | @step notes server next past event happened ih =>
      obtain ⟨roll, answers, attributed, orderly⟩ :=
        ih fun order marked => unmarked order (marked.trans (List.sublist_append_left _ _))
      obtain ⟨roll', answers', kept⟩ := attributed.step (step_crewStep happened)
      have moved := step_deskStep happened
      rw [deeds_append, note?_deed]
      refine ⟨roll', answers', kept.attributed, ?_⟩
      cases orderly with
      | serving unreset inLine =>
          -- whoever has URBs with a worker has the device, so the worker stays
          have inLine' := kept.inLine link inLine (by
            rintro ⟨what, said, dismisses⟩ request member reply_eq
            have atWork := past.atWork_of_posted fresh unreset member reply_eq
            obtain ⟨uncleared, unreleased⟩ := past.undismissed fresh atWork happened
            rcases dismisses with rfl | ⟨other, rfl⟩
            · exact uncleared said
            · exact unreleased other said)
          rw [← note?_deed, ← deeds_append] at inLine'
          -- from the reset on nothing is taken up, so only what is begun or owed has to be in order
          by_cases resets : note? server event = some (.deed (.session link .reset))
          · rw [resets] at moved
            exact .leaving (by simp [resets]) moved.busy_of_reset inLine'.windsUp
          · refine .serving (fun reset => ?_) inLine'
            rcases List.mem_append.1 reset with earlier | now
            · exact unreset earlier
            · exact resets (Option.mem_toList.1 now)
      | leaving reset free windsUp =>
          have windsUp' := kept.windsUp free link windsUp
          rw [← note?_deed, ← deeds_append] at windsUp'
          refine .leaving (List.mem_append_left _ reset) ?_ windsUp'
          exact moved.free_of_unmarked free fun order marked =>
            unmarked order (pair_sublist_append.2 (Or.inr ⟨reset, marked⟩))

end Chronicle

/-- The URBs whose transfers are under way. -/
def transferring (system : System (Host Handle)) : List SubmitRequest :=
  system.executor.workers.filterMap fun worker => worker.stage.underway?

theorem Attributed.transferring_eq {system : System (Host Handle)} {trace : List Deed}
    {roll : List Hand} {answers : List Answer}
    (attributed : Attributed trace (crew system) roll answers) :
    transferring system = roll.flatMap Hand.underway := by
  have workers_eq : system.executor.workers = roll.map Hand.worker := attributed.workers_eq.symm
  rw [transferring, workers_eq, List.filterMap_map, List.filterMap_eq_flatMap_toList]
  rfl

/-! ### One session -/

theorem DeskStep.importing_of_marked {before after : Desk} {order : ImportOrder}
    (step : DeskStep before (some (.marked order)) after) :
    before.loop = .importing order .marking := by
  generalize told : some (Note.marked order) = note at step
  cases step with
  | marks loop_eq =>
      cases told
      exact loop_eq
  | @goesOn order' stage => cases stage <;> cases told
  | works visit_eq working answer aside => exact (aside _ told.symm).elim
  | aside aside => exact (aside _ told.symm).elim
  | _ => cases told

/-- Who is given the device was served before. -/
theorem Chronicle.past_of_marked [UsbHandle Handle] {start mid : Server (Host Handle)}
    {before : List Note} {order : ImportOrder} (chronicle : Chronicle start before mid)
    (fresh : Fresh start) (marked : .marked order ∈ before) : Past order.reply mid := by
  obtain ⟨front, back, rfl⟩ := List.append_of_mem marked
  obtain ⟨server, event, next, earlier, happened, made, onward⟩ := chronicle.cut
  have step := step_deskStep happened
  rw [made] at step
  have loop_eq := step.importing_of_marked
  obtain ⟨request, asked, handles⟩ := (earlier.provenance fresh).handled order.confirm
    (by rw [loop_eq]; rfl)
  rw [loop_eq] at handles
  obtain ⟨header, body, -, -, rfl⟩ := handles
  exact onward.past ((earlier.past_of_asked fresh asked).happening (step_happening happened))

/-- Once a session has reset the flags, only somebody who came after it is given the device. -/
theorem Chronicle.unmarked [UsbHandle Handle] {start mid last : Server (Host Handle)}
    {before after : List Note} {link : LinkId} (past : Chronicle start before mid)
    (fresh : Fresh start) (atWork : AtWork link (desk mid.system))
    (since : Chronicle mid after last)
    (latest : ∀ order, .marked order ∈ after → order.reply ≤ link)
    (order : ImportOrder) : ¬[.deed (.session link .reset), .marked order] <+ before ++ after := by
  intro marked
  have reset_or : .deed (.session link .reset) ∈ before ∨ .marked order ∈ after := by
    obtain ⟨front, back, split, front_le, back_le⟩ := List.sublist_append_iff.1 marked
    cases front with
    | nil => exact Or.inr (back_le.subset (by simp [← show _ = back from split]))
    | cons first rest =>
        obtain rfl := (List.cons.inj split).1
        exact Or.inl (front_le.subset List.mem_cons_self)
  rcases reset_or with reset | marked
  · obtain ⟨visit, visit_eq, link_eq, -, going⟩ := atWork
    have parted := past.parted_of_reset fresh reset
    exact Bool.false_ne_true (going.symm.trans (parted.isReset visit visit_eq link_eq))
  · obtain ⟨front, back, rfl⟩ := List.append_of_mem marked
    obtain ⟨server, event, next, during, happened, made, -⟩ := since.cut
    have step := step_deskStep happened
    rw [made] at step
    have loop_eq := step.importing_of_marked
    -- only somebody who came later can be waiting for an answer
    have asks : order.reply ∈ (desk server.system).askers := by
      refine List.mem_append_left _ (Option.mem_toList.2 ?_)
      rw [loop_eq]
      rfl
    have earliest := latest order (List.mem_append_right _ List.mem_cons_self)
    exact Nat.not_lt_of_le earliest (past.lt_of_asker fresh atWork during order.reply asks)

/-! ### Answers that get through -/

/-- An answer got through to a client. -/
def Deed.reaches (link : LinkId) : Deed → Bool
  | .answered other _ succeeded => other == link && succeeded
  | _ => false

theorem Deed.eq_of_reaches {link : LinkId} {deed : Deed} (reached : deed.reaches link = true) :
    ∃ completion, deed = .answered link completion true := by
  cases deed with
  | answered other completion succeeded =>
      obtain ⟨rfl, rfl⟩ : other = link ∧ succeeded = true := by simpa [reaches] using reached
      exact ⟨completion, rfl⟩
  | _ => cases reached

/-- The answers that got through to a client are for its URBs, in the order of each endpoint. -/
def SentInOrder (link : LinkId) (trace : List Deed) : Prop :=
  ∃ answers : List Answer, answers.map Answer.deed = trace.filter (Deed.reaches link) ∧
    (∀ answer ∈ answers, answer.Fits) ∧
    ∀ address, lane link address (answers.map Answer.request) <+ lane link address (posted trace)

theorem SentInOrder.aside {link : LinkId} {trace : List Deed} (inOrder : SentInOrder link trace)
    {deed : Option Deed} (aside : ∀ what ∈ deed, what.reaches link = false) :
    SentInOrder link (trace ++ deed.toList) := by
  obtain ⟨answers, told, fits, lanes⟩ := inOrder
  refine ⟨answers, ?_, fits, fun address => ?_⟩
  · rw [told, List.filter_append]
    cases deed with
    | none => simp
    | some what => simp [aside what rfl]
  · rw [posted_append, lane_append]
    exact (lanes address).trans (List.sublist_append_left _ _)

theorem Attributed.sentInOrder {link : LinkId} {trace : List Deed} {crew : Crew} {roll : List Hand}
    {answers : List Answer} (attributed : Attributed trace crew roll answers)
    (windsUp : WindsUp link trace roll answers) : SentInOrder link trace := by
  refine ⟨answers.filter (Deed.reaches link ∘ Answer.deed), ?_, fun answer member => ?_,
    fun address => ?_⟩
  · calc (answers.filter (Deed.reaches link ∘ Answer.deed)).map Answer.deed
      _ = (answers.map Answer.deed).filter (Deed.reaches link) := List.filter_map.symm
      _ = (trace.filter Deed.isAnswer).filter (Deed.reaches link) := by rw [attributed.told]
      _ = trace.filter (Deed.reaches link) := by
        rw [List.filter_filter]
        refine List.filter_congr fun deed _ => ?_
        cases deed <;> simp [Deed.reaches, Deed.isAnswer]
  · exact attributed.genuine answer (List.mem_filter.1 member).1
  · have fewer : (answers.filter (Deed.reaches link ∘ Answer.deed)).map Answer.request <+
        answers.map Answer.request := List.filter_sublist.map _
    exact (lane_sublist link address fewer).trans
      ((List.sublist_append_left _ _).trans (windsUp address).answered_le)

/-- From when a session has the device, the answers to its client are in order, whoever comes after
it: once a later client has been served, the socket is closed and no answer gets through. -/
theorem Chronicle.sent_in_order [UsbHandle Handle] {start mid last : Server (Host Handle)}
    {before after : List Note} {link : LinkId} (past : Chronicle start before mid)
    (fresh : Fresh start) (atWork : AtWork link (desk mid.system))
    (since : Chronicle mid after last) : SentInOrder link (deeds (before ++ after)) := by
  have upTo {after : List Note} {last : Server (Host Handle)} (since : Chronicle mid after last)
      (latest : ∀ order, .marked order ∈ after → order.reply ≤ link) :
      SentInOrder link (deeds (before ++ after)) := by
    obtain ⟨roll, answers, attributed, orderly⟩ :=
      (past.append since).orderly fresh (past.unmarked fresh atWork since latest)
    exact attributed.sentInOrder orderly.windsUp
  induction since with
  | start => exact upTo .start fun order marked => by cases marked
  | @step after server next since event happened ih =>
      have whole := past.append since
      by_cases reached : ∃ completion,
          note? server event = some (.deed (.answered link completion true))
      · -- the socket is still open, so nobody after the session has been served
        obtain ⟨completion, made⟩ := reached
        refine upTo (.step since event happened) fun order marked => ?_
        rcases List.mem_append.1 marked with earlier | now
        · have past := whole.past_of_marked fresh (List.mem_append_right _ earlier)
          exact whole.le_of_sent fresh past happened (by rw [made]; rfl)
        · rw [made] at now
          cases List.mem_singleton.1 now
      · rw [← List.append_assoc, deeds_append]
        refine ih.aside fun what said => ?_
        rw [Bool.eq_false_iff]
        intro reaches
        obtain ⟨completion, rfl⟩ := Deed.eq_of_reaches reaches
        obtain ⟨note, made, told⟩ := Option.bind_eq_some_iff.1 said
        cases note with
        | deed deed =>
            cases told
            exact reached ⟨completion, made⟩
        | _ => cases told

/-! ### Answers at the socket -/

/-- The completions that got through are those of the answers that did, in order. -/
theorem filterMap_answerTo {link : LinkId} {trace : List Deed} {answers : List Answer}
    (fits : ∀ answer ∈ answers, answer.Fits)
    (told : answers.map Answer.deed = trace.filter (Deed.reaches link)) :
    (trace.filterMap (Deed.answerTo? link)).filter (·.2) =
      answers.map fun answer => (answer.request.seqnum.toNat, true) := by
  have told_only : (trace.filterMap (Deed.answerTo? link)).filter (·.2) =
      (trace.filter (Deed.reaches link)).filterMap (Deed.answerTo? link) := by
    rw [List.filter_filterMap, List.filterMap_filter]
    refine List.filterMap_congr fun deed _ => ?_
    cases deed with
    | answered other completion succeeded =>
        by_cases here : other = link <;> cases succeeded <;>
          simp [Deed.answerTo?, Deed.reaches, here]
    | _ => rfl
  rw [told_only, ← told, List.filterMap_map, ← List.filterMap_eq_map]
  refine List.filterMap_congr fun answer member => ?_
  have reached : answer.deed.reaches link = true := by
    have known := List.mem_map_of_mem (f := Answer.deed) member
    rw [told] at known
    exact (List.mem_filter.1 known).2
  obtain ⟨here, succeeded⟩ : answer.request.reply = link ∧ answer.succeeded = true := by
    simpa [Answer.deed, Deed.reaches] using reached
  have same : answer.completion.header.seqnum = answer.request.seqnum := fits answer member
  simp [Answer.deed, Deed.answerTo?, here, same, succeeded]

/-- **URBs of one endpoint keep their order.** No URB is handled twice. In a run of a session, which
may follow others and goes on after its end as long as nobody who came later is given the device,
the transfers of its URBs for one endpoint begin in the order in which they were submitted, and one
at a time. Its socket is brought their completions in this order whoever comes later: who reads what
got through to it since the session had the device finds the numbers of the URBs that were answered,
and no others. -/
theorem urbs_keep_order [UsbHandle Handle] {start mid last : Server (Host Handle)}
    {before after : List Note} {link : LinkId} (fresh : Fresh start)
    (past : Chronicle start before mid) (atWork : AtWork link (desk mid.system))
    (since : Chronicle mid after last) :
    (posted (deeds (before ++ after))).Perm
      (retired (deeds (before ++ after)) ++ (ledger last.system).held) ∧
    ((∀ order, .marked order ∈ after → order.reply ≤ link) → ∀ address,
      lane link address (begun (deeds (before ++ after))) <+
        lane link address (posted (deeds (before ++ after))) ∧
      (lane link address (transferring last.system)).length ≤ 1) ∧
    ∃ earlier answers : List Answer,
      earlier.map Answer.deed = (deeds before).filter (Deed.reaches link) ∧
      answers.map Answer.deed = (deeds after).filter (Deed.reaches link) ∧
      (∀ answer ∈ earlier ++ answers, answer.Fits) ∧
      (∀ address, lane link address ((earlier ++ answers).map Answer.request) <+
        lane link address (posted (deeds (before ++ after)))) ∧
      ∃ (socket : Link) (front back : List Delivery),
        last.system.links[link]? = some socket ∧
        socket.guard.sink.written =
          (front ++ back).flatMap Delivery.taken ++ socket.guard.takenSoFar ∧
        (∀ delivery ∈ front ++ back, delivery.Fits) ∧
        front.map (fun delivery => (delivery.errand, delivery.succeeded)) =
          outcomesAt last.system.executor link before ∧
        (back.filterMap completes?).filter (·.2) =
          answers.map fun answer => (answer.request.seqnum.toNat, true) := by
  have whole := past.append since
  refine ⟨?_, fun latest address => ?_, ?_⟩
  · have held_perm := whole.history.held_perm
    rwa [fresh.ledger_eq] at held_perm
  · obtain ⟨roll, all, attributed, orderly⟩ :=
      whole.orderly fresh (past.unmarked fresh atWork since latest)
    have windsUp := orderly.windsUp address
    refine ⟨(List.sublist_append_left _ _).trans windsUp.begun_le, ?_⟩
    rw [attributed.transferring_eq]
    refine Nat.le_trans (laneOf_sublist fun hand member => ?_).length_le windsUp.one
    exact (List.sublist_append_right _ _).trans
      (Hand.transfer_sublist_owing (attributed.fits hand member))
  · obtain ⟨all, told, fits, lanes⟩ := past.sent_in_order fresh atWork since
    rw [deeds, List.filterMap_append, List.filter_append] at told
    obtain ⟨earlier, answers, rfl, earlier_told, answers_told⟩ := List.map_eq_append_iff.1 told
    refine ⟨earlier, answers, earlier_told, answers_told, fits, lanes, ?_⟩
    have called : Called link last := by
      rcases (past.told fresh atWork since).served with ⟨visit, visit_eq, rfl, -⟩ | parted
      · exact whole.called fresh visit visit_eq
      · exact parted.called
    have socket_eq := List.getElem?_eq_getElem called.exists_link
    obtain ⟨timeout, errands, deliveries, serves, outcomes_eq⟩ :=
      (whole.receipts fresh).served link _ (guards_getElem? socket_eq)
    rw [outcomesAt_concat] at outcomes_eq
    obtain ⟨front, back, rfl, front_eq, back_eq⟩ := List.map_eq_append_iff.1 outcomes_eq
    refine ⟨_, front, back, socket_eq, serves.accounts.written_eq,
      serves.accounts.fits, front_eq, ?_⟩
    have completed : back.filterMap completes? =
        (outcomesAt last.system.executor link after).filterMap completion? := by
      rw [← back_eq, List.filterMap_map]
      rfl
    rw [completed, past.completions_since fresh atWork since]
    exact filterMap_answerTo (fun answer member => fits answer (List.mem_append_right _ member))
      answers_told

/-- Two URBs for one endpoint come in before the first is taken up, and the client goes when both
are answered. -/
def twoInTurn : List Note × Server (Host Placid) :=
  retell (retell placid firstImport).2
    ([.arrive 0 (laterSubmit.encode ++ placidSubmit.encode)] ++ sessionMoves 8 ++ rounds 10 ++
      [.finish 0] ++ sessionMoves 8)

/-- The client that is given the device. -/
def Note.marks? : Note → Option LinkId
  | .marked order => some order.reply
  | _ => none

theorem order_of_two_submits :
    posted (deeds ((retell placid firstImport).1 ++ twoInTurn.1)) =
        [⟨laterSubmit, 0⟩, ⟨placidSubmit, 0⟩] ∧
      begun (deeds ((retell placid firstImport).1 ++ twoInTurn.1)) =
        [⟨laterSubmit, 0⟩, ⟨placidSubmit, 0⟩] ∧
      .deed (.session 0 .reset) ∈ twoInTurn.1 ∧
      (∀ order, .marked order ∈ twoInTurn.1 → order.reply ≤ 0) ∧
      ∃ (socket : Link) (front back : List Delivery), twoInTurn.2.system.links[0]? = some socket ∧
        socket.guard.sink.written =
          (front ++ back).flatMap Delivery.taken ++ socket.guard.takenSoFar ∧
        (∀ delivery ∈ front ++ back, delivery.Fits) ∧
        front.map (fun delivery => (delivery.errand, delivery.succeeded)) =
          outcomesAt twoInTurn.2.system.executor 0 (retell placid firstImport).1 ∧
        (back.filterMap completes?).filter (·.2) = [(9, true), (7, true)] := by
  have posted_eq : posted (deeds ((retell placid firstImport).1 ++ twoInTurn.1)) =
      [⟨laterSubmit, 0⟩, ⟨placidSubmit, 0⟩] := by decide +kernel
  have begun_eq : begun (deeds ((retell placid firstImport).1 ++ twoInTurn.1)) =
      [⟨laterSubmit, 0⟩, ⟨placidSubmit, 0⟩] := by decide +kernel
  have reset : .deed (.session 0 .reset) ∈ twoInTurn.1 := by decide +kernel
  have answered_eq : (deeds twoInTurn.1).filterMap (Deed.answerTo? 0) = [(9, true), (7, true)] := by
    decide +kernel
  have unmarked : twoInTurn.1.filterMap Note.marks? = [] := by decide +kernel
  have latest (order : ImportOrder) (marked : .marked order ∈ twoInTurn.1) : order.reply ≤ 0 := by
    have found : order.reply ∈ twoInTurn.1.filterMap Note.marks? :=
      List.mem_filterMap.2 ⟨_, marked, rfl⟩
    rw [unmarked] at found
    cases found
  obtain ⟨-, -, earlier, answers, -, told, fits, -, socket, front, back, socket_eq, written, fitting,
    front_eq, completed⟩ := urbs_keep_order fresh_placid (chronicle_retell placid firstImport)
      atWork_firstImport (chronicle_retell _ _)
  refine ⟨posted_eq, begun_eq, reset, latest, socket, front, back, socket_eq, written, fitting,
    front_eq, ?_⟩
  rw [completed, ← filterMap_answerTo
    (fun answer member => fits answer (List.mem_append_right _ member)) told]
  exact (congrArg (List.filter (·.2)) answered_eq).trans rfl

end UsbExport.Host

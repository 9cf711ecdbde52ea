import UsbExport.Proofs.Host.Order
import UsbExport.Proofs.Session.Phases

/-!
A session that has the device waits for nothing, and the executor has nothing to answer: requests
are answered in order, each into a slot of its own, and the session that is served asked last.
-/

namespace UsbExport.Host

open Dispatch Socket

variable {Handle : Type}

/-- The slots of the requests that the executor has in hand or that wait for it, in order. -/
def pending (system : System (Host Handle)) : List SlotId :=
  system.executor.loop.slot?.toList ++ system.control.queue.filterMap (·.command.slot?)

/-- Nothing waits for an answer twice or after it was given, and a session waits for the last
one. -/
structure Asks (system : System (Host Handle)) : Prop where
  nodup : (pending system).Nodup
  unanswered : ∀ slot ∈ pending system, system.slots[slot]? = some .open
  fits : ∀ visit, system.visit = some visit → visit.session.Fits
  settled : ∀ visit, system.visit = some visit → visit.session.phase = .busy →
    pending system = []
  asked_last : ∀ visit, system.visit = some visit → ∀ slot deadline,
    visit.wait = .answer slot deadline →
      pending system = [] ∨ (pending system).getLast? = some slot

namespace Asks

variable {system next : System (Host Handle)} {visit : Visit}

/-- The session goes on, and no request comes or goes. -/
theorem goOn (asks : Asks system) (visit_eq : system.visit = some visit) {visit' : Visit}
    (visit_eq' : next.visit = some visit') (pending_eq : pending next = pending system)
    (slots_eq : next.slots = system.slots) (fits : visit'.session.Fits)
    (busy : visit'.session.phase = .busy → visit.session.phase = .busy ∨ pending system = [])
    (wait : ∀ slot deadline, visit'.wait = .answer slot deadline →
      ∃ deadline', visit.wait = .answer slot deadline') : Asks next where
  nodup := by
    rw [pending_eq]
    exact asks.nodup
  unanswered := by
    rw [pending_eq, slots_eq]
    exact asks.unanswered
  fits := by
    intro other eq
    obtain rfl := Option.some.inj (visit_eq'.symm.trans eq)
    exact fits
  settled := by
    intro other eq busy'
    obtain rfl := Option.some.inj (visit_eq'.symm.trans eq)
    rw [pending_eq]
    exact (busy busy').elim (asks.settled visit visit_eq) id
  asked_last := by
    intro other eq slot deadline waits
    obtain rfl := Option.some.inj (visit_eq'.symm.trans eq)
    obtain ⟨deadline', waited⟩ := wait slot deadline waits
    rw [pending_eq]
    exact asks.asked_last visit visit_eq slot deadline' waited

/-- The session goes on with an answer that is not the confirmation of an import. -/
theorem resume (asks : Asks system) (visit_eq : system.visit = some visit)
    {answer : Session.Answer} (unconfirmed : visit.session.stage ≠ .awaitingImport)
    (visit_eq' : next.visit =
      some { visit with session := visit.session.resume answer, wait := .nothing })
    (pending_eq : pending next = pending system) (slots_eq : next.slots = system.slots) :
    Asks next := by
  refine asks.goOn visit_eq visit_eq' pending_eq slots_eq
    ((asks.fits visit visit_eq).resume answer) (fun busy => ?_) (by simp)
  rcases Session.phase_of_resume busy with was | confirmed
  · exact Or.inl was
  · exact absurd confirmed.1 unconfirmed

/-- The session asks for something and waits for the answer in a new slot. -/
theorem postSlot (asks : Asks system) (visit_eq : system.visit = some visit)
    (idle : visit.session.stage.phase? = some .idle)
    (unconfirmed : visit.session.stage ≠ .awaitingImport) {answer : Session.Answer} {wait : Wait}
    (visit_eq' : next.visit = some { visit with session := visit.session.resume answer, wait })
    (wait_eq : wait = .answer system.slots.length none)
    (pending_eq : pending next = pending system ++ [system.slots.length])
    (slots_eq : next.slots = system.slots ++ [.open]) : Asks next := by
  have short (slot : SlotId) (member : slot ∈ pending system) : slot < system.slots.length :=
    (List.getElem?_eq_some_iff.1 (asks.unanswered slot member)).1
  have was_idle : visit.session.phase = .idle := asks.fits visit visit_eq _ idle
  refine ⟨?_, ?_, ?_, ?_, ?_⟩
  · rw [pending_eq]
    refine List.nodup_append.2 ⟨asks.nodup, by simp, fun slot member other last => ?_⟩
    rw [List.mem_singleton.1 last]
    exact Nat.ne_of_lt (short slot member)
  · rw [pending_eq, slots_eq]
    intro slot member
    rcases List.mem_append.1 member with old | new
    · rw [List.getElem?_append_left (short slot old)]
      exact asks.unanswered slot old
    · rw [List.mem_singleton.1 new]
      exact List.getElem?_concat_length
  · intro other eq
    obtain rfl := Option.some.inj (visit_eq'.symm.trans eq)
    exact (asks.fits visit visit_eq).resume answer
  · intro other eq busy
    obtain rfl := Option.some.inj (visit_eq'.symm.trans eq)
    rcases Session.phase_of_resume busy with was | confirmed
    · rw [was_idle] at was
      cases was
    · exact absurd confirmed.1 unconfirmed
  · intro other eq slot deadline waits
    obtain rfl := Option.some.inj (visit_eq'.symm.trans eq)
    obtain ⟨rfl, -⟩ : system.slots.length = slot ∧ none = deadline := by
      simpa [wait_eq] using waits
    rw [pending_eq]
    exact Or.inr List.getLast?_concat

theorem session {deed : Option Session.Deed} (asks : Asks system)
    (visit_eq : system.visit = some visit) (move : system.SessionMove visit deed next) :
    Asks next := by
  have fits := asks.fits visit visit_eq
  cases move with
  | read wants socket_eq brought =>
      exact asks.goOn visit_eq rfl rfl rfl (fits.receive _ _)
        (fun busy => Or.inl (by rwa [Session.phase_receive] at busy)) fun _ _ eq => ⟨_, eq⟩
  | @asked header command control posting posted =>
      obtain ⟨idle, slot_eq⟩ := Session.Stage.phase_of_request? posting
      have unconfirmed : visit.session.stage ≠ .awaitingImport := by
        intro stage_eq
        simp [stage_eq, Session.Stage.request?] at posting
      have pending_eq :
          pending { system with control } = pending system ++ command.slot?.toList := by
        rw [pending, pending, Channel.queue_post posted, List.filterMap_append, List.append_assoc]
        cases found : command.slot? <;> simp [found]
      rcases slot_eq with slot_eq | slot_eq
      · have visit_eq' : some { visit with
              session := visit.session.resume (.taken true), wait := System.waitFor command } =
            some { visit with session := visit.session.resume (.taken true), wait := .nothing } := by
          rw [System.waitFor, slot_eq]
        rw [slot_eq]
        refine asks.resume visit_eq unconfirmed visit_eq' ?_ (List.append_nil _)
        rw [slot_eq] at pending_eq
        exact pending_eq.trans (List.append_nil _)
      · exact asks.postSlot visit_eq idle unconfirmed rfl (by simp [System.waitFor, slot_eq])
          (by rw [slot_eq] at pending_eq; exact pending_eq) (by rw [slot_eq]; rfl)
  | refused posting unposted =>
      refine asks.resume visit_eq ?_ rfl rfl rfl
      intro stage_eq
      simp [stage_eq, Session.Stage.request?] at posting
  | @looked slot awaits wait_eq unanswered =>
      refine asks.goOn visit_eq rfl rfl rfl fits Or.inl fun slot' deadline eq => ⟨none, ?_⟩
      cases eq
      exact wait_eq
  | @answered yes awaits given =>
      refine asks.goOn visit_eq rfl rfl rfl (fits.resume _) (fun busy => ?_) (by simp)
      rcases Session.phase_of_resume busy with was | ⟨-, confirmed⟩
      · exact Or.inl was
      · obtain ⟨slot, deadline, wait_eq, answer_eq⟩ := given (by simpa using confirmed)
        refine Or.inr ((asks.asked_last visit visit_eq slot deadline wait_eq).resolve_right ?_)
        intro last
        have unanswered := asks.unanswered slot (List.mem_of_getLast? last)
        rw [System.slot, unanswered] at answer_eq
        cases answer_eq
  | posted stage_eq posted => exact asks.resume visit_eq (by simp [stage_eq]) rfl rfl rfl
  | dropped stage_eq unposted => exact asks.resume visit_eq (by simp [stage_eq]) rfl rfl rfl
  | crowded stage_eq unposted unset =>
      exact asks.goOn visit_eq rfl rfl rfl fits Or.inl (by simp)
  | cancelled stage_eq => exact asks.resume visit_eq (by simp [stage_eq]) rfl rfl rfl
  | @stood errand wanted unset =>
      obtain ⟨links, frame, -⟩ := standInLine_frame system visit.link errand
      rw [frame]
      exact asks.goOn visit_eq rfl rfl rfl fits Or.inl (by simp)
  | moved wanted wait_eq socket_eq polled =>
      exact asks.goOn visit_eq visit_eq rfl rfl fits Or.inl fun _ _ eq => ⟨_, eq⟩
  | served wanted wait_eq socket_eq polled standing =>
      refine asks.resume visit_eq ?_ rfl rfl rfl
      intro stage_eq
      simp [stage_eq, Session.Stage.errand?] at wanted
  | reset stage_eq => exact asks.resume visit_eq (by simp [stage_eq]) rfl rfl rfl
  | released stage_eq =>
      refine asks.resume visit_eq (by simp [stage_eq]) rfl ?_ rfl
      show system.executor.release.loop.slot?.toList ++ _ = _
      rw [release_loop]
      rfl

/-- Nothing changes for the session or for those that wait. -/
theorem stay (asks : Asks system) (visit_eq : next.visit = system.visit)
    (pending_eq : pending next = pending system) (slots_eq : next.slots = system.slots) :
    Asks next where
  nodup := pending_eq ▸ asks.nodup
  unanswered := by
    rw [pending_eq, slots_eq]
    exact asks.unanswered
  fits := visit_eq ▸ asks.fits
  settled := by
    rw [visit_eq, pending_eq]
    exact asks.settled
  asked_last := by
    rw [visit_eq, pending_eq]
    exact asks.asked_last

theorem proceed (asks : Asks system) (proceeds : Proceeds system next) : Asks next := by
  rcases proceeds.slot_eq with ⟨slot_eq, slots_eq⟩ | ⟨idle, slot, yes, slot_eq, slots_eq⟩
  · refine asks.stay proceeds.visit_eq ?_ slots_eq
    rw [pending, pending, slot_eq, proceeds.control_eq]
  · -- the first of those that wait has its answer
    have pending_eq : pending system = slot :: pending next := by
      rw [pending, pending, slot_eq, idle, proceeds.control_eq]
      rfl
    have others := List.nodup_cons.1 (pending_eq ▸ asks.nodup)
    refine ⟨others.2, fun other member => ?_, ?_, fun visit eq busy => ?_,
      fun visit eq other deadline waits => ?_⟩
    · have unanswered := asks.unanswered other (by rw [pending_eq]; simp [member])
      have apart : slot ≠ other := fun same => others.1 (same ▸ member)
      rw [slots_eq]
      exact (List.getElem?_modify_ne _ _ apart).trans unanswered
    · rw [proceeds.visit_eq]
      exact asks.fits
    · rw [proceeds.visit_eq] at eq
      have none_left := asks.settled visit eq busy
      rw [pending_eq] at none_left
      cases none_left
    · rw [proceeds.visit_eq] at eq
      rcases asks.asked_last visit eq other deadline waits with none_left | last
      · rw [pending_eq] at none_left
        cases none_left
      · rw [pending_eq] at last
        cases rest : pending next with
        | nil => exact Or.inl rfl
        | cons second others =>
            rw [rest, List.getLast?_cons_cons] at last
            exact Or.inr last

theorem happening [UsbHandle Handle] {server next : Server (Host Handle)} {deed : Option Deed}
    (asks : Asks server.system) (happening : Happening server deed next) : Asks next.system := by
  cases happening with
  | session visit_eq move => exact asks.session visit_eq move
  | executor move =>
      rcases move.takes_or_proceeds with
        ⟨request, control, loop, idle, taken, rfl, -, slot_eq⟩ | proceeds
      · refine asks.stay rfl ?_ rfl
        rw [pending, pending, idle, Channel.queue_take? taken]
        show loop.slot?.toList ++ _ = _
        rw [slot_eq]
        cases found : request.command.slot? <;> simp [found, LoopStage.slot?, setLoop, change]
      · exact asks.proceed proceeds
  | departs visit_eq ended isStopped =>
      exact ⟨asks.nodup, asks.unanswered, by simp, by simp, by simp⟩
  | @serves link line unvisited line_eq =>
      refine ⟨asks.nodup, asks.unanswered, fun visit eq => ?_, fun visit eq busy => ?_,
        fun visit eq slot deadline waits => ?_⟩
      · obtain rfl := Option.some.inj eq
        exact Session.fits_rest .idle
      · obtain rfl := Option.some.inj eq
        cases busy
      · obtain rfl := Option.some.inj eq
        cases waits
  | connects guard => exact asks.stay rfl rfl rfl
  | around length_eq now => exact asks.stay rfl rfl rfl

/-- While a session has the device no import is handled. -/
theorem order_of_busy (asks : Asks system) (visit_eq : system.visit = some visit)
    (busy : visit.session.phase = .busy) : ¬system.executor.loop.order?.isSome := by
  have none_left := asks.settled visit visit_eq busy
  rw [pending] at none_left
  cases loop_eq : system.executor.loop with
  | importing order stage => simp [loop_eq, LoopStage.slot?] at none_left
  | _ => simp [LoopStage.order?]

end Asks

theorem History.asks [UsbHandle Handle] {start server : Server (Host Handle)} {trace : List Deed}
    (history : History start trace server) (fresh : Fresh start) : Asks server.system := by
  refine history.invariant (fun _ server => Asks server.system) ?_
    fun _ _ _ _ asks happening => Asks.happening asks happening
  have none_left : pending start.system = [] := by
    simp [pending, fresh.idle, LoopStage.slot?, fresh.unposted.2]
  refine ⟨?_, ?_, ?_, ?_, ?_⟩
  · simp [none_left]
  · simp [none_left]
  · simp [fresh.unvisited]
  · simp [fresh.unvisited]
  · simp [fresh.unvisited]

end UsbExport.Host

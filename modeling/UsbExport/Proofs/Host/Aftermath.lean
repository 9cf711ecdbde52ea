import Mathlib.Data.List.Basic
import UsbExport.Proofs.Host.Departures
import UsbExport.Proofs.Host.Provenance

/-!
What is left of a session when it is over. An import that it no longer waits for can be accepted
while it cleans up: the acceptance is taken back only if the reply does not get through. So the
device stays taken exactly if the reply was sent after the flags were reset, before the socket was
closed.
-/

namespace UsbExport.Host

open Dispatch Socket

variable {Handle : Type}

/-- An import came this far and was replied to with success. -/
def Took (mark : ImportOrder → Note) (notes : List Note) : Prop :=
  ∃ order, [mark order, .replied order true true].Sublist notes

theorem pair_sublist_append {first second : Note} {notes : List Note} {note : Option Note} :
    [first, second].Sublist (notes ++ note.toList) ↔
      [first, second].Sublist notes ∨ first ∈ notes ∧ note = some second := by
  cases note with
  | none => simp
  | some last =>
      rw [Option.toList_some, List.sublist_append_iff]
      constructor
      · rintro ⟨front, back, split, front_sublist, back_sublist⟩
        rcases List.sublist_singleton.1 back_sublist with rfl | rfl
        · rw [List.append_nil] at split
          exact Or.inl (split ▸ front_sublist)
        · obtain ⟨rfl, same⟩ :=
          List.append_inj' (show [first] ++ [second] = front ++ [last] from split)
            rfl
          refine Or.inr ⟨List.singleton_sublist.1 front_sublist, ?_⟩
          rw [List.singleton_inj.1 same]
      · rintro (early | ⟨member, same⟩)
        · exact ⟨_, [], by simp, early, List.nil_sublist _⟩
        · obtain rfl := Option.some.inj same
          exact ⟨[first], [last], rfl, List.singleton_sublist.2 member, .refl _⟩

theorem took_append (mark : ImportOrder → Note) (notes : List Note) (note : Option Note) :
    Took mark (notes ++ note.toList) ↔ Took mark notes ∨
      ∃ order, mark order ∈ notes ∧ note = some (.replied order true true) := by
  simp only [Took, pair_sublist_append, exists_or]

theorem took_of_unreplied (mark : ImportOrder → Note) (notes : List Note) {note : Option Note}
    (unreplied : ∀ order, note ≠ some (.replied order true true)) :
    Took mark (notes ++ note.toList) ↔ Took mark notes := by
  rw [took_append]
  exact or_iff_left fun ⟨order, _, replied⟩ => unreplied order replied

/-! ### What imports take -/

/-- How that which imports take, the flag or the claims, stands while one is in hand. -/
inductive Hold
  /-- As the imports before left it. -/
  | settled
  | free
  /-- Taken by the import in hand, unless it was let go since. -/
  | taken
  /-- To be let go, for the reply did not get through. -/
  | doomed

/-- What a hold tells of a value, by the notes since it was last let go. -/
def Hold.Tells {α : Type} (mark : ImportOrder → Note) (notes : List Note)
    (inHand : Option ImportOrder) (free taken value : α) : Hold → Prop
  | .settled => (Took mark notes → value = taken) ∧ (¬Took mark notes → value = free)
  | .free => value = free ∧ ¬Took mark notes
  | .taken =>
      ((∃ order ∈ inHand, mark order ∈ notes) → value = taken) ∧
        ((¬∃ order ∈ inHand, mark order ∈ notes) → value = free) ∧ ¬Took mark notes
  | .doomed => ¬Took mark notes

namespace Hold

variable {α : Type} {mark : ImportOrder → Note} {notes : List Note}
  {inHand inHand' : Option ImportOrder} {order : ImportOrder} {free taken value : α}
  {note : Option Note} {hold : Hold}

theorem tells_start (hold : Hold) : hold.Tells mark [] inHand free taken free := by
  cases hold <;> simp [Tells, Took]

theorem Tells.later (tells : hold.Tells mark notes inHand free taken value)
    (unreplied : ∀ order, note ≠ some (.replied order true true))
    (unmarked : ∀ order, note ≠ some (mark order)) :
    hold.Tells mark (notes ++ note.toList) inHand free taken value := by
  have took_iff := took_of_unreplied mark notes unreplied
  have mem_iff (order : ImportOrder) : mark order ∈ notes ++ note.toList ↔ mark order ∈ notes := by
    rw [List.mem_append, Option.mem_toList]
    exact or_iff_left (unmarked order)
  cases hold with
  | settled => rwa [Tells, took_iff]
  | free => rwa [Tells, took_iff]
  | taken => simpa only [Tells, took_iff, mem_iff] using tells
  | doomed => rwa [Tells, took_iff]

/-- Nothing else than a taken hold tells of the import in hand. -/
theorem Tells.forget (tells : hold.Tells mark notes inHand free taken value)
    (apart : hold ≠ .taken) : hold.Tells mark notes inHand' free taken value := by
  cases hold with
  | taken => exact absurd rfl apart
  | _ => exact tells

theorem Tells.settle (tells : Hold.free.Tells mark notes inHand free taken value) :
    Hold.settled.Tells mark notes inHand' free taken value :=
  ⟨fun took => absurd took tells.2, fun _ => tells.1⟩

theorem Tells.take (tells : Hold.free.Tells mark notes inHand free taken value)
    (unreplied : ∀ other, mark order ≠ .replied other true true) :
    Hold.taken.Tells mark (notes ++ [mark order]) (some order) free taken taken := by
  have took_iff : Took mark (notes ++ [mark order]) ↔ Took mark notes :=
    took_of_unreplied mark notes fun other eq => unreplied other (Option.some.inj eq)
  refine ⟨fun _ => rfl, fun unmarked => ?_, fun took => tells.2 (took_iff.1 took)⟩
  exact absurd ⟨order, rfl, by simp⟩ unmarked

theorem Tells.reply (tells : Hold.taken.Tells mark notes (some order) free taken value) :
    Hold.settled.Tells mark (notes ++ [.replied order true true]) inHand' free taken value := by
  have took_iff : Took mark (notes ++ [.replied order true true]) ↔ mark order ∈ notes := by
    refine (took_append mark notes (some (.replied order true true))).trans ?_
    rw [or_iff_right tells.2.2]
    constructor
    · rintro ⟨other, marked, same⟩
      cases same
      exact marked
    · exact fun marked => ⟨order, marked, rfl⟩
  rw [Tells, took_iff]
  simpa using And.intro tells.1 tells.2.1

end Hold

def Bid.flag : Bid → Hold
  | .asked | .denied | .granted => .settled
  | .passed | .recorded | .unmarked => .free
  | .marked => .taken
  | .failed => .doomed

def Bid.claims : Bid → Hold
  | .asked | .denied | .granted => .settled
  | .passed => .free
  | .recorded | .marked => .taken
  | .failed | .unmarked => .doomed

def LoopStage.hold (hold : Bid → Hold) : LoopStage → Hold
  | .importing _ stage => hold stage.bid
  | _ => .settled

theorem LoopStage.hold_ofRequest {hold : Bid → Hold} (asked : hold .asked = .settled)
    (request : ControlRequest) : (ofRequest request).hold hold = .settled := by
  unfold ofRequest
  split
  · rfl
  · exact asked
  · rfl

theorem LoopStage.hold_of_order? {loop : LoopStage} (settled : loop.order? = none)
    (hold : Bid → Hold) : loop.hold hold = .settled := by
  cases loop with
  | importing order stage => cases settled
  | _ => rfl

/-- A note of something aside neither marks nor replies to an import. -/
theorem Note.unmarked_of_aside {note : Option Note} (aside : ∀ what ∈ note, what.IsAside) :
    (∀ order, note ≠ some (.replied order true true)) ∧
      (∀ order, note ≠ some (.marked order)) ∧ ∀ order, note ≠ some (.recorded order) := by
  refine ⟨?_, ?_, ?_⟩ <;>
    · rintro order rfl
      exact aside _ rfl

/-- What the flag says, by the notes since it was last reset. -/
def FlagSince (notes : List Note) (desk : Desk) : Prop :=
  (desk.loop.hold Bid.flag).Tells .marked notes desk.loop.order? false true desk.busy

theorem FlagSince.start {desk : Desk} (free : desk.busy = false) : FlagSince [] desk := by
  rw [FlagSince, free]
  exact Hold.tells_start _

theorem FlagSince.step {notes : List Note} {before after : Desk} {note : Option Note}
    (flag : FlagSince notes before) (step : DeskStep before note after)
    (unreset : ∀ link, note ≠ some (.deed (.session link .reset))) :
    FlagSince (notes ++ note.toList) after := by
  unfold FlagSince at flag ⊢
  cases step with
  | resets visit_eq stage_eq => exact absurd rfl (unreset _)
  | @takes request queue idle queue_eq =>
      rw [idle] at flag
      show ((LoopStage.ofRequest request).hold Bid.flag).Tells _ _ _ _ _ _
      rw [LoopStage.hold_ofRequest rfl]
      exact (flag.forget Hold.noConfusion).later (by simp) (by simp)
  | listStands loop_eq ticket =>
      rw [loop_eq] at flag
      exact flag.later (by simp) (by simp)
  | lists loop_eq succeeded =>
      rw [loop_eq] at flag
      exact flag.later (by simp) (by simp)
  | listAnswers loop_eq =>
      rw [loop_eq] at flag
      exact flag.later (by simp) (by simp)
  | @goesOn order stage stage' loop_eq bid_eq =>
      rw [loop_eq, LoopStage.hold, ← bid_eq] at flag
      refine flag.later ?_ ?_ <;> cases stage <;> simp [ImportStage.deed?]
  | @passes order loop_eq named free =>
      -- whoever had taken the device would be busy
      rw [loop_eq, free] at flag
      have freed : Hold.free.Tells .marked notes (some order) false true before.busy :=
        ⟨free, fun took => Bool.noConfusion (flag.1 took)⟩
      exact freed.later (by simp) (by simp)
  | refuses loop_eq taken =>
      rw [loop_eq] at flag
      exact Hold.Tells.later flag (by simp) (by simp)
  | unclaimable loop_eq passed =>
      rw [loop_eq, LoopStage.hold, passed] at flag
      exact flag.settle.later (by simp) (by simp)
  | records loop_eq =>
      rw [loop_eq] at flag
      exact flag.later (by simp) (by simp)
  | marks loop_eq =>
      rw [loop_eq] at flag
      exact flag.take (by simp)
  | @replies order accepted ticket loop_eq succeeded =>
      rw [loop_eq] at flag
      cases accepted with
      | false => exact flag.later (by simp) (by simp)
      | true =>
          cases succeeded with
          | true => exact flag.reply
          | false =>
              have doomed : Hold.doomed.Tells .marked notes (some order) false true before.busy :=
                flag.2.2
              exact doomed.later (by simp) (by simp)
  | @unmarks order loop_eq =>
      rw [loop_eq] at flag
      have freed : Hold.free.Tells .marked notes (some order) false true false := ⟨rfl, flag⟩
      exact freed.later (by simp) (by simp)
  | unclaims loop_eq =>
      rw [loop_eq] at flag
      exact flag.settle.later (by simp) (by simp)
  | @confirms order accepted loop_eq =>
      rw [loop_eq] at flag
      cases accepted <;> exact flag.later (by simp) (by simp)
  | works visit_eq working answer aside =>
      obtain ⟨unreplied, unmarked, -⟩ := Note.unmarked_of_aside aside
      exact flag.later unreplied unmarked
  | aside aside =>
      obtain ⟨unreplied, unmarked, -⟩ := Note.unmarked_of_aside aside
      exact flag.later unreplied unmarked
  | _ => exact flag.later (by simp) (by simp)

/-- What the claims are, by the notes since they were last released. Who took them has marked the
device, too. -/
structure ClaimsSince (notes : List Note) (desk : Desk) : Prop where
  claims : (desk.loop.hold Bid.claims).Tells .recorded notes desk.loop.order? [] desk.interfaces
    desk.claimed
  took : Took .recorded notes → desk.busy = true
  marked : ∀ order stage, desk.loop = .importing order stage → stage.bid = .marked →
    .recorded order ∈ notes → desk.busy = true

namespace ClaimsSince

variable {notes : List Note} {before after : Desk} {note : Option Note}

theorem start {desk : Desk} (free : desk.claimed = []) : ClaimsSince [] desk := by
  refine ⟨?_, by simp [Took], by simp⟩
  rw [free]
  exact Hold.tells_start _

/-- Nothing is recorded or replied to, and the device is not let go. -/
theorem later
    (claims : (after.loop.hold Bid.claims).Tells .recorded notes after.loop.order? []
      after.interfaces after.claimed)
    (unreplied : ∀ order, note ≠ some (.replied order true true))
    (unrecorded : ∀ order, note ≠ some (.recorded order))
    (took : Took .recorded notes → after.busy = true)
    (marked : ∀ order stage, after.loop = .importing order stage → stage.bid = .marked →
      .recorded order ∈ notes → after.busy = true) : ClaimsSince (notes ++ note.toList) after where
  claims := claims.later unreplied unrecorded
  took := by rwa [took_of_unreplied _ _ unreplied]
  marked := by
    intro order stage loop_eq bid_eq recorded
    refine marked order stage loop_eq bid_eq ?_
    rw [List.mem_append, Option.mem_toList] at recorded
    exact recorded.resolve_right (unrecorded order)

theorem step (since : ClaimsSince notes before) (step : DeskStep before note after)
    (unreset : ∀ link, note ≠ some (.deed (.session link .reset)))
    (unreleased : ∀ link, note ≠ some (.deed (.session link .released))) :
    ClaimsSince (notes ++ note.toList) after := by
  obtain ⟨claims, took, marked⟩ := since
  cases step with
  | resets visit_eq stage_eq => exact absurd rfl (unreset _)
  | releases visit_eq stage_eq => exact absurd rfl (unreleased _)
  | @takes request queue idle queue_eq =>
      rw [idle] at claims
      refine later ?_ (by simp) (by simp) took fun order stage loop_eq bid_eq => ?_
      · show ((LoopStage.ofRequest request).hold Bid.claims).Tells _ _ _ _ _ _
        rw [LoopStage.hold_ofRequest rfl]
        exact claims.forget Hold.noConfusion
      · have loop_eq : LoopStage.ofRequest request = .importing order stage := loop_eq
        unfold LoopStage.ofRequest at loop_eq
        split at loop_eq <;> cases loop_eq
        cases bid_eq
  | listStands loop_eq ticket =>
      rw [loop_eq] at claims
      exact later claims (by simp) (by simp) took (by simp)
  | lists loop_eq succeeded =>
      rw [loop_eq] at claims
      exact later claims (by simp) (by simp) took (by simp)
  | listAnswers loop_eq =>
      rw [loop_eq] at claims
      exact later claims (by simp) (by simp) took (by simp)
  | @goesOn order stage stage' loop_eq bid_eq =>
      rw [loop_eq, LoopStage.hold, ← bid_eq] at claims
      refine later claims ?_ ?_ took fun order stage eq marked_eq => ?_
      · cases stage <;> simp [ImportStage.deed?]
      · cases stage <;> simp [ImportStage.deed?]
      · cases eq
        exact marked _ _ loop_eq (bid_eq ▸ marked_eq)
  | @passes order loop_eq named free =>
      rw [loop_eq] at claims
      have untaken : ¬Took .recorded notes := fun taken => by simp [free] at took; exact took taken
      have freed : Hold.free.Tells .recorded notes (some order) [] before.interfaces
          before.claimed := ⟨claims.2 untaken, untaken⟩
      exact later freed (by simp) (by simp) took (by simp [ImportStage.bid])
  | refuses loop_eq taken =>
      rw [loop_eq] at claims
      exact later claims (by simp) (by simp) took (by simp [ImportStage.bid])
  | unclaimable loop_eq passed =>
      rw [loop_eq, LoopStage.hold, passed] at claims
      exact later claims.settle (by simp) (by simp) took (by simp [ImportStage.bid])
  | @records order loop_eq =>
      rw [loop_eq] at claims
      refine ⟨claims.take (by simp), ?_, by simp [ImportStage.bid]⟩
      rwa [took_of_unreplied _ _ (by simp)]
  | marks loop_eq =>
      rw [loop_eq] at claims
      exact later claims (by simp) (by simp) (fun _ => rfl) fun _ _ _ _ _ => rfl
  | @replies order accepted ticket loop_eq succeeded =>
      rw [loop_eq] at claims
      cases accepted with
      | false =>
          exact later claims (by simp) (by simp) took
            (by simp [ImportStage.afterReply, ImportStage.bid])
      | true =>
          cases succeeded with
          | true =>
              refine ⟨claims.reply, fun taken => ?_,
                by simp [ImportStage.afterReply, ImportStage.bid]⟩
              rcases (took_append ..).1 taken with earlier | ⟨other, recorded, same⟩
              · exact took earlier
              · cases same
                exact marked _ _ loop_eq rfl recorded
          | false =>
              have doomed : Hold.doomed.Tells .recorded notes (some order) [] before.interfaces
                  before.claimed := claims.2.2
              exact later doomed (by simp) (by simp) took
                (by simp [ImportStage.afterReply, ImportStage.bid])
  | @unmarks order loop_eq =>
      rw [loop_eq] at claims
      exact later claims (by simp) (by simp) (fun taken => absurd taken claims)
        (by simp [ImportStage.bid])
  | @unclaims order loop_eq =>
      rw [loop_eq] at claims
      have freed : Hold.free.Tells .recorded notes (some order) [] before.interfaces [] :=
        ⟨rfl, claims⟩
      exact later freed.settle (by simp) (by simp) took (by simp [ImportStage.bid])
  | @confirms order accepted loop_eq =>
      rw [loop_eq] at claims
      cases accepted <;> exact later claims (by simp) (by simp) took (by simp)
  | works visit_eq working answer aside =>
      obtain ⟨unreplied, -, unrecorded⟩ := Note.unmarked_of_aside aside
      exact later claims unreplied unrecorded took marked
  | aside aside =>
      obtain ⟨unreplied, -, unrecorded⟩ := Note.unmarked_of_aside aside
      exact later claims unreplied unrecorded took marked
  | _ => exact later claims (by simp) (by simp) took marked

end ClaimsSince

/-! ### After a clean-up -/

theorem DeskStep.busy_of_reset {before after : Desk} {link : LinkId}
    (step : DeskStep before (some (.deed (.session link .reset))) after) : after.busy = false := by
  generalize told : some (Note.deed (.session link .reset)) = note at step
  cases step with
  | resets visit_eq stage_eq => rfl
  | @goesOn order stage => cases stage <;> cases told
  | works visit_eq working answer aside => exact (aside _ told.symm).elim
  | aside aside => exact (aside _ told.symm).elim
  | _ => cases told

theorem DeskStep.claimed_of_released {before after : Desk} {link : LinkId}
    (step : DeskStep before (some (.deed (.session link .released))) after) :
    after.claimed = [] := by
  generalize told : some (Note.deed (.session link .released)) = note at step
  cases step with
  | releases visit_eq stage_eq => rfl
  | @goesOn order stage => cases stage <;> cases told
  | works visit_eq working answer aside => exact (aside _ told.symm).elim
  | aside aside => exact (aside _ told.symm).elim
  | _ => cases told

theorem DeskStep.order_of_replied {before after : Desk} {order : ImportOrder}
    {accepted succeeded : Bool}
    (step : DeskStep before (some (.replied order accepted succeeded)) after) :
    ∃ ticket, before.loop = .importing order (.replying accepted (some ticket)) := by
  generalize told : some (Note.replied order accepted succeeded) = note at step
  cases step with
  | replies loop_eq =>
      cases told
      exact ⟨_, loop_eq⟩
  | @goesOn order stage => cases stage <;> cases told
  | works visit_eq working answer aside => exact (aside _ told.symm).elim
  | aside aside => exact (aside _ told.symm).elim
  | _ => cases told

/-- What was sent was sent to an open socket. -/
theorem LineStep.isOpen_of_sent {system next : System (Host Handle)} {link : LinkId} {frame : Bytes}
    (step : LineStep system next (some (link, .send frame, true))) (lines : Lines system) :
    ∃ guard, (guards system)[link]? = some guard ∧ guard.isOpen = true := by
  generalize told : some (link, Errand.send frame, true) = outcome at step
  cases step with
  | leaves guard_eq polled places_perm guards_eq =>
      obtain ⟨rfl, rfl, sent⟩ : link = _ ∧ Errand.send frame = _ ∧ true = _ := by simpa using told
      obtain ⟨line, standing⟩ := lines.head
        (places_perm.mem_iff.2 (List.mem_cons_self ..)) guard_eq polled
      exact ⟨_, guard_eq, Guard.isOpen_of_sent standing polled sent.symm⟩
  | _ => cases told

variable [UsbHandle Handle] {start mid last : Server (Host Handle)}
  {before during since after : List Note} {link : LinkId}

/-- Who has asked for anything is being served or past. -/
theorem Chronicle.past_of_asked {request : ControlRequest}
    (chronicle : Chronicle start before mid) (fresh : Fresh start)
    (asked : Asked before request) : Past request.reply mid := by
  obtain ⟨front, back, rfl⟩ := List.append_of_mem asked
  obtain ⟨server, event, next, earlier, happened, made, onward⟩ := chronicle.cut
  have past := (earlier.visited fresh happened made).1
  exact onward.past (past.happening (step_happening happened))

/-- The sockets of the clients before one that was served are closed, so nothing is sent to them. -/
theorem Chronicle.le_of_sent {event : Server.Event Party} {other : LinkId} {frame : Bytes}
    (chronicle : Chronicle start before mid) (fresh : Fresh start) (past : Past other mid)
    (happened : Server.step company mid event = some last)
    (sent : (note? mid event).bind (Note.outcome? mid.system.executor) =
      some (link, .send frame, true)) : other ≤ link := by
  have lineStep := step_lineStep (chronicle.linked fresh) (chronicle.lines fresh) happened
  rw [sent] at lineStep
  obtain ⟨guard, guard_eq, isOpen⟩ := lineStep.isOpen_of_sent (chronicle.lines fresh)
  by_contra before_other
  have gone : Gone link mid := by
    refine ⟨?_, fun member => before_other (past.line_le _ member), fun visit eq link_eq => ?_⟩
    · simpa [guards] using (List.getElem?_eq_some_iff.1 guard_eq).1
    · rw [← link_eq] at before_other
      exact absurd (past.visit_le visit eq) before_other
  obtain ⟨succeeded, closed⟩ := chronicle.shut fresh link gone
  exact ((chronicle.receipts fresh).isOpen_iff guard_eq).1 isOpen succeeded closed

/-- When a session has reset the flags and nobody has asked for anything since, an import that is
accepted is its own. -/
theorem reply_eq_of_replied {order : ImportOrder} (fresh : Fresh start)
    (chronicle : Chronicle start (before ++ .deed (.session link .reset) :: since) last)
    (unasked : ∀ request, .ofAsked request ∉ since) (replied : .replied order true true ∈ since) :
    order.reply = link := by
  obtain ⟨between, rest, rfl⟩ := List.append_of_mem replied
  rw [← List.cons_append, ← List.append_assoc] at chronicle
  obtain ⟨mid, event, next, past, happened, made, -⟩ := chronicle.cut
  obtain ⟨resetting, event', cleaned, early, happened', made', onward⟩ := past.cut
  obtain ⟨later, visit, visit_eq, link_eq⟩ := early.visited fresh happened' made'
  have later := onward.past (later.happening (step_happening happened'))
  have step := step_deskStep happened
  rw [made] at step
  obtain ⟨ticket, loop_eq⟩ := step.order_of_replied
  refine Nat.le_antisymm ?_ ?_
  · -- it was asked for before the reset
    obtain ⟨request, asked, handles⟩ :=
      (past.provenance fresh).handled order.confirm (by rw [loop_eq]; rfl)
    rw [loop_eq] at handles
    obtain ⟨header, body, -, -, rfl⟩ := handles
    have early_asked : Note.ofAsked ⟨header, .importDevice body order.confirm, order.reply⟩ ∈
        before := by
      rcases List.mem_append.1 asked with asked | asked
      · exact asked
      · rcases List.mem_cons.1 asked with same | asked
        · cases same
        · exact absurd (List.mem_append_left _ asked) (unasked _)
    rw [← link_eq]
    exact (early.past_of_asked fresh early_asked).visit_le visit visit_eq
  · exact past.le_of_sent fresh later happened (by rw [made]; rfl)

theorem Chronicle.flagSince (chronicle : Chronicle mid since last)
    (flag : FlagSince [] (desk mid.system))
    (unreset : ∀ link, .deed (.session link .reset) ∉ since) :
    FlagSince since (desk last.system) := by
  induction chronicle with
  | start => exact flag
  | step chronicle event happened ih =>
      refine (ih fun link member => unreset link (List.mem_append_left _ member)).step
        (step_deskStep happened) fun link made => unreset link ?_
      simp [made]

theorem Chronicle.claimsSince (chronicle : Chronicle mid since last)
    (claims : ClaimsSince [] (desk mid.system))
    (unreset : ∀ link, .deed (.session link .reset) ∉ since)
    (unreleased : ∀ link, .deed (.session link .released) ∉ since) :
    ClaimsSince since (desk last.system) := by
  induction chronicle with
  | start => exact claims
  | step chronicle event happened ih =>
      refine (ih (fun link member => unreset link (List.mem_append_left _ member))
        fun link member => unreleased link (List.mem_append_left _ member)).step
          (step_deskStep happened) (fun link made => unreset link ?_)
          fun link made => unreleased link ?_
      · simp [made]
      · simp [made]

/-- A session asks for something or cleans up. -/
def Note.stirs : Note → Bool
  | .deed (.session _ (.asked _)) | .deed (.session _ .reset) | .deed (.session _ .released) => true
  | _ => false

/-- An import of the session on a socket came this far and was replied to with success. -/
def TookBy (link : LinkId) (mark : ImportOrder → Note) (notes : List Note) : Prop :=
  ∃ order, order.reply = link ∧ [mark order, .replied order true true].Sublist notes

theorem tookBy_iff {mark : ImportOrder → Note} {notes : List Note}
    (own : ∀ order, .replied order true true ∈ notes → order.reply = link) :
    TookBy link mark notes ↔ Took mark notes := by
  constructor
  · rintro ⟨order, -, sublist⟩
    exact ⟨order, sublist⟩
  · rintro ⟨order, sublist⟩
    exact ⟨order, own order (sublist.subset (by simp)), sublist⟩

/-- When a session has cleaned up, nobody has asked for anything since, and no import is being
handled, then the device is still marked busy exactly if an import of this session was marked after
it reset the flags and replied to with success; the interfaces are still claimed exactly if one was
recorded after the release and replied to with success; and an import that names the device is
refused exactly if it is marked. -/
theorem taken_iff_replied_after_reset (fresh : Fresh start)
    (chronicle : Chronicle start (before ++ .deed (.session link .reset) ::
      (during ++ .deed (.session link .released) :: after)) last)
    (quiet : ∀ note ∈ during ++ after, note.stirs = false)
    (settled : last.system.executor.loop.order? = none) :
    (last.system.flags.busy = true ↔
      TookBy link .marked (during ++ .deed (.session link .released) :: after)) ∧
    (TookBy link .recorded after →
      last.system.executor.claimed = last.system.executor.interfaces) ∧
    (¬TookBy link .recorded after → last.system.executor.claimed = []) ∧
    ∀ order, last.system.executor.device.isNamedBy order.busId = true →
      ((moveImport order .checking last.system).next? =
          some (setLoop last.system (.importing order (.replying false none))) ↔
        TookBy link .marked (during ++ .deed (.session link .released) :: after)) := by
  have silent {what : Session.Deed} {other : LinkId}
      (stirs : (Note.deed (.session other what)).stirs)
      (apart : what ≠ .released) :
      .deed (.session other what) ∉ during ++ .deed (.session link .released) :: after := by
    intro member
    rw [List.mem_append, List.mem_cons] at member
    have quiet := quiet (.deed (.session other what))
    rw [List.mem_append, stirs] at quiet
    rcases member with member | same | member
    · cases quiet (Or.inl member)
    · cases same
      exact apart rfl
    · cases quiet (Or.inr member)
  have own (order : ImportOrder) (replied : .replied order true true ∈
      during ++ .deed (.session link .released) :: after) : order.reply = link :=
    reply_eq_of_replied fresh chronicle (fun request => silent rfl (by simp)) replied
  obtain ⟨resetting, event, reset, -, happened, made, future⟩ := chronicle.cut
  have busy_step := step_deskStep happened
  rw [made] at busy_step
  have flag := future.flagSince (.start busy_step.busy_of_reset) fun link => silent rfl (by simp)
  obtain ⟨releasing, event', released, -, happened', made', onward⟩ := future.cut
  have claims_step := step_deskStep happened'
  rw [made'] at claims_step
  have claims := onward.claimsSince (.start claims_step.claimed_of_released)
    (fun other member =>
      silent rfl (by simp) (List.mem_append_right _ (List.mem_cons_of_mem _ member)))
    fun other member => by cases quiet _ (List.mem_append_right _ member)
  have own' (order : ImportOrder) (replied : .replied order true true ∈ after) :
      order.reply = link := own order (by simp [replied])
  rw [tookBy_iff own, tookBy_iff own']
  have idle : (desk last.system).loop.order? = none := settled
  have busy_iff : last.system.flags.busy = true ↔
      Took .marked (during ++ .deed (.session link .released) :: after) := by
    rw [FlagSince, LoopStage.hold_of_order? idle] at flag
    obtain ⟨taken, free⟩ := flag
    refine ⟨fun busy => ?_, taken⟩
    by_contra untaken
    cases busy.symm.trans (free untaken)
  have claims := claims.claims
  rw [LoopStage.hold_of_order? idle] at claims
  obtain ⟨taken, free⟩ := claims
  refine ⟨busy_iff, taken, free, fun order named => ?_⟩
  rw [← busy_iff]
  cases busy_eq : last.system.flags.busy <;>
    simp [moveImport, named, busy_eq, setLoop, change, Move.next?]

/-- A client asks for the device and leaves; the session waits for its import in vain and cleans up,
and only then the import is accepted, while the socket is still open. -/
def leavesTaken : List (Server.Event Party) :=
  [.connect, .arrive 0 placidImport, .finish 0, .move .acceptor] ++ sessionMoves 4 ++
    [.pass 100000] ++ sessionMoves 4 ++
    (List.replicate 12 (moves [.loop .control, .job 0, .job 1])).flatten ++ sessionMoves 5 ++
    [.move .acceptor]

def placidOrder : ImportOrder := ⟨0x0111, .ofString "1", 0, 0⟩

theorem taken_by_departed_client :
    (retell placid leavesTaken).1 =
        [.ofAsked ⟨⟨0x0111, Command.requestImport⟩, .importDevice ⟨0, .ofString "1"⟩ 0, 0⟩,
          .gaveUp 0] ++ .deed (.session 0 .reset) :: ([] ++ .deed (.session 0 .released) ::
          [.recorded placidOrder, .deed .cleared, .marked placidOrder,
            .replied placidOrder true true, .deed (.session 0 (.served .close true))]) ∧
      (retell placid leavesTaken).2.system.visit.isNone ∧
      (retell placid leavesTaken).2.system.flags.busy = true ∧
      (retell placid leavesTaken).2.system.executor.claimed =
        (retell placid leavesTaken).2.system.executor.interfaces ∧
      ∀ order, (retell placid leavesTaken).2.system.executor.device.isNamedBy order.busId = true →
        (moveImport order .checking (retell placid leavesTaken).2.system).next? =
          some (setLoop (retell placid leavesTaken).2.system
            (.importing order (.replying false none))) := by
  have told : (retell placid leavesTaken).1 =
      [.ofAsked ⟨⟨0x0111, Command.requestImport⟩, .importDevice ⟨0, .ofString "1"⟩ 0, 0⟩,
        .gaveUp 0] ++ .deed (.session 0 .reset) :: ([] ++ .deed (.session 0 .released) ::
        [.recorded placidOrder, .deed .cleared, .marked placidOrder,
          .replied placidOrder true true, .deed (.session 0 (.served .close true))]) := by
    decide +kernel
  have departed : (retell placid leavesTaken).2.system.visit.isNone := by decide +kernel
  have settled : (retell placid leavesTaken).2.system.executor.loop.order? = none := by
    decide +kernel
  have chronicle := chronicle_retell placid leavesTaken
  rw [told] at chronicle
  obtain ⟨busy_iff, claimed, -, refused_iff⟩ :=
    taken_iff_replied_after_reset fresh_placid chronicle (by decide +kernel) settled
  have marked : TookBy 0 .marked ([] ++ .deed (.session 0 .released) ::
      [.recorded placidOrder, .deed .cleared, .marked placidOrder,
        .replied placidOrder true true, .deed (.session 0 (.served .close true))]) :=
    ⟨placidOrder, rfl, by decide +kernel⟩
  have recorded : TookBy 0 .recorded [.recorded placidOrder, .deed .cleared, .marked placidOrder,
      .replied placidOrder true true, .deed (.session 0 (.served .close true))] :=
    ⟨placidOrder, rfl, by decide +kernel⟩
  exact ⟨told, departed, busy_iff.2 marked, claimed recorded,
    fun order named => (refused_iff order named).2 marked⟩

end UsbExport.Host

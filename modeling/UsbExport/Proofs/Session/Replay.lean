import UsbExport.Proofs.Session.Stages

/-!
A session against its input as a whole. What it asks of its surroundings and how it is answered are
its acts; `replay` works them out from the stream and the answers alone, reading byte by byte. Main
statements: one read of many bytes is as many reads of one byte, and two sessions on one stream do
the same until an answer differs.
-/

namespace UsbExport

open Dispatch Socket

namespace Session

/-! ### What is asked and answered -/

/-- What a session asks of its surroundings, without the slot that an answer goes into. -/
inductive Ask
  | list (header : ControlHeader) (status : UInt32)
  | importDevice (header : ControlHeader) (request : ImportRequest)
  | unknown (header : ControlHeader)
  /-- Whether a list was sent, or an import confirmed. -/
  | confirmation
  | submit (submit : Submit)
  | cancel (target : UInt32)
  | send (frame : Bytes)
  | reset
  | release
  | close
deriving DecidableEq, Repr

/-- Who answers: a channel, the executor behind a slot, the socket, or nobody but the session. -/
inductive Ask.Kind
  | post
  | wait
  | send
  | own
deriving DecidableEq, Repr

def Ask.kind : Ask → Kind
  | list _ _ | importDevice _ _ | unknown _ | submit _ => .post
  | confirmation => .wait
  | send _ => .send
  | cancel _ | reset | release | close => .own

/-- What a stage asks for, if it does not read. -/
def Stage.ask? : Stage → Option Ask
  | .collecting _ _ | .skipping _ | .finished _ => none
  | .postingList header status _ => some (.list header status)
  | .postingImport header request => some (.importDevice header request)
  | .postingUnknown header => some (.unknown header)
  | .awaitingList | .awaitingImport => some .confirmation
  | .submitting submit => some (.submit submit)
  | .cancelling _ target => some (.cancel target)
  | .acknowledging seqnum => some (.send (UnlinkReply.acknowledge seqnum 0).encode)
  | .resetting _ => some .reset
  | .releasing _ => some .release
  | .closing _ => some .close

/-- Something a session asked for in a phase, and the answer with which it went on. -/
structure Act where
  phase : Phase
  ask : Ask
  answer : Answer
deriving DecidableEq, Repr

/-- What was asked for failed. -/
def Act.Fails (act : Act) : Prop := ∃ kind, act.answer = .failed kind

/-- The answers of one kind, in order. -/
def answersTo (kind : Ask.Kind) (acts : List Act) : List Answer :=
  (acts.filter fun act => act.ask.kind = kind).map Act.answer

/-! ### Reading -/

/-- Reads byte by byte up to the next thing to ask for. A session that still reads when nothing is
left meets the end of its input. -/
def hear (limits : SessionLimits) (session : Session) : Bytes → Session × Bytes
  | [] => (session.disturb .inputEnded, [])
  | byte :: ahead =>
      match session.wants with
      | some _ => hear limits (session.take limits [byte]) ahead
      | none => (session, byte :: ahead)

/-- What a session that is given these answers asks for, and where it stands then. -/
def replay (limits : SessionLimits) (session : Session) (ahead : Bytes) :
    List Answer → List Act × Session × Bytes
  | [] => ([], hear limits session ahead)
  | answer :: answers =>
      match hear limits session ahead with
      | (session, ahead) =>
          match session.stage.ask? with
          | none => ([], session, ahead)
          | some ask =>
              match replay limits (session.resume answer) ahead answers with
              | (acts, last) => (⟨session.phase, ask, answer⟩ :: acts, last)

theorem wants_of_ask? {session : Session} {ask : Ask} (asks : session.stage.ask? = some ask) :
    session.wants = none := by
  unfold wants
  split
  · next stage_eq => rw [stage_eq] at asks; cases asks
  · next stage_eq => rw [stage_eq] at asks; cases asks
  · rfl

/-- Who does not read does not notice the end. -/
theorem disturb_inputEnded_of_wants {session : Session} (silent : session.wants = none) :
    session.disturb .inputEnded = session := by
  unfold wants at silent
  unfold disturb
  split <;> first | rfl | simp_all

/-- A transient fault is borne, except while reading past bytes. -/
theorem disturb_fault_eq {session : Session} {kind : FaultKind} (transient : kind.isTransient = true)
    (reading : ∀ left, session.stage ≠ .skipping left) :
    session.disturb (.fault kind) = session := by
  obtain ⟨phase, stage⟩ := session
  cases stage with
  | collecting part got => exact if_pos transient
  | skipping left => exact absurd rfl (reading left)
  | _ => rfl

theorem wants_disturb_inputEnded (session : Session) :
    (session.disturb .inputEnded).wants = none := by
  obtain ⟨phase, stage⟩ := session
  cases stage with
  | collecting part got => cases part <;> rfl
  | _ => rfl

theorem hear_of_wants {limits : SessionLimits} {session : Session} (silent : session.wants = none)
    (ahead : Bytes) : hear limits session ahead = (session, ahead) := by
  cases ahead with
  | nil => rw [hear, disturb_inputEnded_of_wants silent]
  | cons byte ahead => rw [hear, silent]

/-- Who has heard on asks for something or is done. -/
theorem wants_hear (limits : SessionLimits) (session : Session) (ahead : Bytes) :
    (hear limits session ahead).1.wants = none := by
  induction ahead generalizing session with
  | nil => exact wants_disturb_inputEnded session
  | cons byte ahead ih =>
      unfold hear
      split
      · exact ih _
      · assumption

/-! ### One read is many reads of one byte -/

/-- A session that reads has something to read. -/
def Stage.Hungry : Stage → Prop
  | .collecting part got => got.length < part.size
  | .skipping left => 0 < left
  | _ => True

theorem Stage.Hungry.pos {session : Session} {limit : Nat} (hungry : session.stage.Hungry)
    (wants : session.wants = some limit) : 0 < limit := by
  unfold Session.wants at wants
  split at wants
  · next stage_eq =>
      rw [stage_eq] at hungry
      cases wants
      exact Nat.sub_pos_of_lt hungry
  · next stage_eq =>
      rw [stage_eq] at hungry
      cases wants
      exact hungry
  · cases wants

theorem Stage.hungry_atRest (phase : Phase) : (Stage.atRest phase).Hungry := by
  cases phase <;> show 0 < _ <;> decide

theorem Stage.hungry_skip (count : Nat) : (Stage.skip count).Hungry := by
  unfold Stage.skip
  split
  · exact hungry_atRest _
  · next some => exact Nat.pos_of_ne_zero some

theorem Stage.hungry_collectDescriptors (header : UrbHeader) (params : SubmitParams)
    (data : Bytes) : (Stage.collectDescriptors header params data).Hungry := by
  unfold Stage.collectDescriptors
  split
  · trivial
  · next some => exact Nat.pos_of_ne_zero some

theorem Stage.hungry_collectPayload (header : UrbHeader) (params : SubmitParams) :
    (Stage.collectPayload header params).Hungry := by
  unfold Stage.collectPayload
  split
  · exact hungry_collectDescriptors _ _ _
  · next some => exact Nat.pos_of_ne_zero some

theorem Part.hungry_complete (limits : SessionLimits) (bytes : Bytes) (part : Part) :
    (part.complete limits bytes).Hungry := by
  have list : 0 < listStatusSize := by decide
  have request : 0 < ImportRequest.size := by decide
  have params : 0 < SubmitParams.size := by decide
  have target : 0 < UnlinkParams.size := by decide
  cases part with
  | payload header params => exact Stage.hungry_collectDescriptors _ _ _
  | _ =>
      simp only [complete, Stage.afterControlHeader, Stage.afterUrbHeader, Stage.afterParams]
      repeat' split
      all_goals first
        | exact Stage.hungry_atRest _
        | exact Stage.hungry_skip _
        | exact Stage.hungry_collectPayload _ _
        | trivial

theorem hungry_receive {session : Session} (hungry : session.stage.Hungry)
    (limits : SessionLimits) (arrival : Arrival) :
    (session.receive limits arrival).stage.Hungry := by
  cases arrival with
  | bytes bytes =>
      simp only [receive, take]
      split
      · split
        · assumption
        · exact Part.hungry_complete _ _ _
      · exact Stage.hungry_skip _
      · exact hungry
  | disturbance what =>
      have waited : session.elapse.stage.Hungry := by
        obtain same | ⟨-, -, rested⟩ := elapse_cases session
        · rwa [same]
        · rw [rested]
          exact Stage.hungry_atRest _
      simp only [receive, disturb]
      repeat' split
      all_goals first | exact hungry | exact waited | trivial
  | nothing => exact hungry

theorem hungry_resume {session : Session} (hungry : session.stage.Hungry) (answer : Answer) :
    (session.resume answer).stage.Hungry := by
  have rested (phase : Phase) : (rest phase).stage.Hungry := Stage.hungry_atRest phase
  unfold resume
  split
  all_goals first
    | exact hungry
    | exact rested _
    | trivial

/-- Reading one byte of several that are wanted leaves the others wanted. -/
theorem take_cons {session : Session} {limit : Nat} (wants : session.wants = some limit)
    (more : 1 < limit) (limits : SessionLimits) (byte : UInt8) :
    (session.take limits [byte]).wants = some (limit - 1) ∧
      ∀ bytes, (session.take limits [byte]).take limits bytes =
        session.take limits (byte :: bytes) := by
  obtain ⟨phase, stage⟩ := session
  cases stage with
  | collecting part got =>
      obtain rfl : part.size - got.length = limit := Option.some.inj wants
      have unfilled : (got ++ [byte]).length < part.size := by
        rw [List.length_append, List.length_singleton]
        omega
      have kept : (⟨phase, .collecting part got⟩ : Session).take limits [byte] =
          ⟨phase, .collecting part (got ++ [byte])⟩ := by
        simp only [take, if_pos unfilled]
      rw [kept]
      refine ⟨?_, fun bytes => ?_⟩
      · simp only [Session.wants, List.length_append, List.length_singleton, Nat.sub_sub]
      · simp only [take, List.append_assoc, List.singleton_append]
  | skipping left =>
      obtain rfl : left = limit := Option.some.inj wants
      have unskipped : left - 1 ≠ 0 := by omega
      have kept : (⟨phase, .skipping left⟩ : Session).take limits [byte] =
          ⟨phase, .skipping (left - 1)⟩ := by
        simp only [take, List.length_singleton, Stage.skip, if_neg unskipped]
      rw [kept]
      refine ⟨rfl, fun bytes => ?_⟩
      simp only [take, List.length_cons, Nat.sub_sub, Nat.add_comm 1]
  | _ => cases wants

/-- A read brings the session no further than reading the same bytes one by one. -/
theorem hear_append (limits : SessionLimits) {session : Session} {limit : Nat} {bytes : Bytes}
    (wants : session.wants = some limit) (some : bytes ≠ []) (within : bytes.length ≤ limit)
    (ahead : Bytes) :
    hear limits session (bytes ++ ahead) = hear limits (session.take limits bytes) ahead := by
  induction bytes generalizing session limit with
  | nil => exact absurd rfl some
  | cons byte bytes ih =>
      rw [List.cons_append, hear, wants]
      dsimp only
      cases bytes with
      | nil => rfl
      | cons second bytes =>
          rw [List.length_cons, List.length_cons] at within
          obtain ⟨rest, together⟩ := take_cons wants (by omega) limits byte
          have shorter : (second :: bytes).length ≤ limit - 1 := by
            rw [List.length_cons]
            omega
          rw [← together (second :: bytes)]
          exact ih rest (List.cons_ne_nil _ _) shorter

/-! ### One stream and two lists of answers -/

theorem hear_hear (limits : SessionLimits) (session : Session) (ahead : Bytes) :
    hear limits (hear limits session ahead).1 (hear limits session ahead).2 =
      hear limits session ahead :=
  hear_of_wants (wants_hear limits session ahead) _

/-- Having heard on makes no difference to what comes then. -/
theorem replay_hear (limits : SessionLimits) (session : Session) (ahead : Bytes)
    (answers : List Answer) :
    replay limits (hear limits session ahead).1 (hear limits session ahead).2 answers =
      replay limits session ahead answers := by
  cases answers <;> simp only [replay, hear_hear]

/-- Who asks for nothing takes no answer. -/
theorem replay_of_ask?_eq_none {limits : SessionLimits} {session : Session}
    (silent : session.wants = none) (asks : session.stage.ask? = none) (ahead : Bytes)
    (answers : List Answer) : replay limits session ahead answers = ([], session, ahead) := by
  cases answers with
  | nil => rw [replay, hear_of_wants silent]
  | cons answer answers => simp only [replay, hear_of_wants silent, asks]

/-- More answers take up where the first ones have led. -/
theorem replay_append (limits : SessionLimits) (session : Session) (ahead : Bytes)
    (answers more : List Answer) :
    replay limits session ahead (answers ++ more) =
      ((replay limits session ahead answers).1 ++
          (replay limits (replay limits session ahead answers).2.1
            (replay limits session ahead answers).2.2 more).1,
        (replay limits (replay limits session ahead answers).2.1
          (replay limits session ahead answers).2.2 more).2) := by
  induction answers generalizing session ahead with
  | nil => simp only [List.nil_append, replay, replay_hear]
  | cons answer answers ih =>
      simp only [List.cons_append, replay]
      cases asks : (hear limits session ahead).1.stage.ask? with
      | none =>
          have stays : replay limits (hear limits session ahead).1 (hear limits session ahead).2
              more = ([], hear limits session ahead) :=
            replay_of_ask?_eq_none (wants_hear limits session ahead) asks _ more
          simp only [stays, List.append_nil]
      | some ask => simp only [ih, List.cons_append]

/-- One more answer is one more act. -/
theorem replay_concat {limits : SessionLimits} {session last : Session} {ahead left : Bytes}
    {answers : List Answer} {acts : List Act} {ask : Ask}
    (played : replay limits session ahead answers = (acts, last, left))
    (asks : last.stage.ask? = some ask) (answer : Answer) :
    replay limits session ahead (answers ++ [answer]) =
      (acts ++ [⟨last.phase, ask, answer⟩], hear limits (last.resume answer) left) := by
  rw [replay_append, played]
  simp only [replay, hear_of_wants (wants_of_ask? asks), asks]

/-- Where one record of acts goes on, the shorter one has stopped at what is asked for next. -/
theorem replay_longer {limits : SessionLimits} {session last : Session} {ahead left : Bytes}
    {acts rest : List Act} {final : Session × Bytes}
    (played : replay limits session ahead (acts.map Act.answer) = (acts, last, left))
    (longer : replay limits session ahead ((acts ++ rest).map Act.answer) = (acts ++ rest, final)) :
    replay limits last left (rest.map Act.answer) = (rest, final) := by
  rw [List.map_append, replay_append, played, Prod.mk.injEq] at longer
  exact Prod.ext (List.append_cancel_left longer.1) longer.2

/-- Two sessions did the same up to some place, and there the same that both asked for in the same
phase was answered differently. -/
def Parted (one other : List Act) (ask : Ask) : Prop :=
  ∃ before phase answer answer', answer ≠ answer' ∧
    before ++ [⟨phase, ask, answer⟩] <+: one ∧ before ++ [⟨phase, ask, answer'⟩] <+: other

/-- As far as both have one, the answers of a kind are the same, one by one. -/
def Agree (kind : Ask.Kind) (one other : List Act) : Prop :=
  answersTo kind one <+: answersTo kind other ∨ answersTo kind other <+: answersTo kind one

/-- Who parts disagrees on what was asked for last. -/
theorem Parted.not_agree {one other : List Act} {ask : Ask} (parted : Parted one other ask) :
    ¬ Agree ask.kind one other := by
  obtain ⟨before, phase, answer, answer', differ, ⟨rest, rfl⟩, rest', rfl⟩ := parted
  have split (answer : Answer) (rest : List Act) :
      answersTo ask.kind (before ++ [⟨phase, ask, answer⟩] ++ rest) =
        answersTo ask.kind before ++ answer :: answersTo ask.kind rest := by
    simp [answersTo]
  rw [Agree, split, split]
  rintro (shorter | shorter)
  · exact differ ((List.cons_prefix_cons.1 ((List.prefix_append_right_inj _).1 shorter)).1)
  · exact differ ((List.cons_prefix_cons.1 ((List.prefix_append_right_inj _).1 shorter)).1).symm

theorem Parted.cons {one other : List Act} {ask : Ask} (parted : Parted one other ask)
    (act : Act) : Parted (act :: one) (act :: other) ask := by
  obtain ⟨before, phase, answer, answer', differ, first, second⟩ := parted
  exact ⟨act :: before, phase, answer, answer', differ, List.prefix_cons_inj act |>.2 first,
    List.prefix_cons_inj act |>.2 second⟩

/-- On one stream sessions do the same as long as they are answered the same. -/
theorem replay_alike (limits : SessionLimits) (session : Session) (ahead : Bytes)
    (answers answers' : List Answer) :
    (∃ ask, Parted (replay limits session ahead answers).1
        (replay limits session ahead answers').1 ask) ∨
      (replay limits session ahead answers).1 <+: (replay limits session ahead answers').1 ∨
      (replay limits session ahead answers').1 <+: (replay limits session ahead answers).1 := by
  induction answers generalizing session ahead answers' with
  | nil => exact Or.inr (Or.inl List.nil_prefix)
  | cons answer answers ih =>
      cases answers' with
      | nil => exact Or.inr (Or.inr List.nil_prefix)
      | cons answer' answers' =>
          simp only [replay]
          cases asked : (hear limits session ahead).1.stage.ask? with
          | none => exact Or.inr (Or.inl List.nil_prefix)
          | some ask =>
              by_cases same : answer = answer'
              · subst same
                obtain ⟨ask, parted⟩ | shorter | longer :=
                  ih ((hear limits session ahead).1.resume answer)
                    (hear limits session ahead).2 answers'
                · exact Or.inl ⟨ask, parted.cons _⟩
                · exact Or.inr (Or.inl ((List.prefix_cons_inj _).2 shorter))
                · exact Or.inr (Or.inr ((List.prefix_cons_inj _).2 longer))
              · exact Or.inl ⟨ask, [], _, answer, answer', same,
                  (List.prefix_cons_inj _).2 List.nil_prefix,
                  (List.prefix_cons_inj _).2 List.nil_prefix⟩

end Session

end UsbExport

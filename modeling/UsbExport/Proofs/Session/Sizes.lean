import UsbExport.Proofs.Session.Deeds
import UsbExport.Proofs.Wire.SubmitCodec

/-!
How long things get in a session. The lengths that a client declares come out of words of 64 bits
without wrapping around; of what is taken in, a payload and a block of descriptors are as long as
declared and within the bound, because nothing is set aside before the bound was checked.
-/

namespace UsbExport

open Dispatch Socket

/-! ### Lengths in words of 64 bits -/

namespace SubmitParams

/-- The product of the packet count and the size of a descriptor, in a word that wraps around. -/
def descriptorWord (params : SubmitParams) : UInt64 :=
  if params.packetCount = 0 ∨ params.packetCount = 0xFFFFFFFF then 0
  else params.packetCount.toUInt64 * 16

def payloadWord (params : SubmitParams) (header : UrbHeader) : UInt64 :=
  if header.isOut then params.bufferLength.toUInt64 else 0

/-- So much is read past when a submit is dropped. -/
def skippedWord (params : SubmitParams) (header : UrbHeader) : UInt64 :=
  params.payloadWord header + params.descriptorWord

/-- So much is expected of a frame that is decoded in one piece. -/
def frameWord (params : SubmitParams) (header : UrbHeader) : UInt64 :=
  48 + params.payloadWord header + params.descriptorWord

variable (params : SubmitParams) (header : UrbHeader)

theorem payloadLength_le : params.payloadLength header ≤ params.bufferLength.toNat := by
  unfold payloadLength
  split
  · exact Nat.le_refl _
  · exact Nat.zero_le _

theorem descriptorLength_le : params.descriptorLength ≤ params.packetCount.toNat * 16 := by
  rw [descriptorLength_eq]
  split <;> omega

/-- A frame that declares the most is far shorter than what a word can tell. -/
theorem frameLength_lt :
    48 + params.payloadLength header + params.descriptorLength < UInt64.size := by
  have payload := params.payloadLength_le header
  have descriptors := params.descriptorLength_le
  have declared : params.bufferLength.toNat < 4294967296 := params.bufferLength.toNat_lt
  have counted : params.packetCount.toNat < 4294967296 := params.packetCount.toNat_lt
  show _ < 18446744073709551616
  omega

theorem toNat_descriptorWord : params.descriptorWord.toNat = params.descriptorLength := by
  have bounded := params.packetCount.toNat_lt
  unfold descriptorWord descriptorLength
  split
  · rfl
  · rw [UInt64.toNat_mul, UInt32.toNat_toUInt64]
    exact Nat.mod_eq_of_lt (show params.packetCount.toNat * 16 < 2 ^ 64 by omega)

theorem toNat_payloadWord : (params.payloadWord header).toNat = params.payloadLength header := by
  unfold payloadWord payloadLength
  split
  · exact UInt32.toNat_toUInt64 _
  · rfl

theorem toNat_skippedWord : (params.skippedWord header).toNat =
    params.payloadLength header + params.descriptorLength := by
  have small := params.frameLength_lt header
  rw [skippedWord, UInt64.toNat_add, toNat_payloadWord, toNat_descriptorWord]
  exact Nat.mod_eq_of_lt (Nat.lt_of_le_of_lt (by omega) small)

theorem toNat_frameWord : (params.frameWord header).toNat =
    Submit.fixedSize + params.payloadLength header + params.descriptorLength := by
  have small := params.frameLength_lt header
  have sum : (48 + params.payloadWord header).toNat =
      48 + params.payloadLength header := by
    rw [UInt64.toNat_add, toNat_payloadWord]
    exact Nat.mod_eq_of_lt (Nat.lt_of_le_of_lt (Nat.le_add_right ..) small)
  rw [frameWord, UInt64.toNat_add, sum, toNat_descriptorWord]
  exact Nat.mod_eq_of_lt small

/-- Neither the buffer nor the descriptors that are declared exceed the bound. -/
structure Within (params : SubmitParams) (bound : Nat) : Prop where
  buffer_le : params.bufferLength.toNat ≤ bound
  descriptors_le : params.descriptorLength ≤ bound

theorem within_of_checkBounds {params : SubmitParams} {bound : Nat}
    (checked : params.checkBounds bound = .ok ()) : params.Within bound := by
  unfold checkBounds at checked
  split at checked
  · cases checked
  · split at checked
    · cases checked
    · exact ⟨by omega, by omega⟩

end SubmitParams

theorem Submit.declared_of_within {header : UrbHeader} {params : SubmitParams}
    {data descriptors : Bytes} {bound : Nat} (within : params.Within bound)
    (data_length : data.length = params.payloadLength header)
    (descriptors_length : descriptors.length = params.descriptorLength) :
    Submit.Declared ⟨header, params, data, descriptors⟩ bound where
  data_length := by rw [data_length, SubmitParams.payloadLength_eq]
  descriptors_length := by rw [descriptors_length, SubmitParams.descriptorLength_eq]
  buffer_le := within.buffer_le
  descriptors_le := by
    show descriptors.length ≤ bound
    rw [descriptors_length]
    exact within.descriptors_le

theorem Submit.Declared.data_le {submit : Submit} {bound : Nat} (declared : submit.Declared bound) :
    submit.data.length ≤ submit.params.bufferLength.toNat := by
  rw [declared.data_length]
  split
  · exact Nat.le_refl _
  · exact Nat.zero_le _

namespace Session

/-! ### What a session takes in -/

/-- Whether the client says how long the part is. -/
def Part.isDeclared : Part → Bool
  | .payload .. | .descriptors .. => true
  | _ => false

/-- What was checked before the part was begun, and what was taken in by then. -/
def Part.Sized (bound : Nat) : Part → Prop
  | .payload _ params => params.Within bound
  | .descriptors header params data =>
      params.Within bound ∧ data.length = params.payloadLength header
  | _ => True

theorem Part.Sized.size_le {bound : Nat} {part : Part} (sized : part.Sized bound)
    (declared : part.isDeclared = true) : part.size ≤ bound := by
  cases part with
  | payload header params =>
      exact Nat.le_trans (params.payloadLength_le header) (SubmitParams.Within.buffer_le sized)
  | descriptors header params data => exact sized.1.descriptors_le
  | _ => cases declared

/-- Nothing is longer than it may be. -/
def Stage.Sized (bound : Nat) : Stage → Prop
  | .collecting part got => part.Sized bound ∧ got.length ≤ part.size
  | .skipping left => left < UInt64.size
  | .submitting submit => submit.Declared bound
  | _ => True

variable {bound : Nat}

theorem Stage.sized_atRest (phase : Phase) : (Stage.atRest phase).Sized bound := by
  cases phase <;> exact ⟨trivial, Nat.zero_le _⟩

theorem Stage.sized_skip {count : Nat} (small : count < UInt64.size) :
    (Stage.skip count).Sized bound := by
  unfold skip
  split
  · exact sized_atRest .busy
  · exact small

theorem Stage.sized_collectDescriptors {header : UrbHeader} {params : SubmitParams} {data : Bytes}
    (within : params.Within bound) (length_eq : data.length = params.payloadLength header) :
    (Stage.collectDescriptors header params data).Sized bound := by
  unfold collectDescriptors
  split
  · next none => exact Submit.declared_of_within within length_eq none.symm
  · exact ⟨⟨within, length_eq⟩, Nat.zero_le _⟩

theorem Stage.sized_collectPayload {header : UrbHeader} {params : SubmitParams}
    (within : params.Within bound) : (Stage.collectPayload header params).Sized bound := by
  unfold collectPayload
  split
  · next none => exact sized_collectDescriptors within none.symm
  · exact ⟨within, Nat.zero_le _⟩

/-- What is collected next was checked, and what is read past fits a word. -/
theorem Stage.sized_afterParams (header : UrbHeader) (params : SubmitParams) :
    (Stage.afterParams header params bound).Sized bound := by
  unfold afterParams
  split
  · next checked => exact sized_collectPayload (SubmitParams.within_of_checkBounds checked)
  · refine sized_skip ?_
    rw [← params.toNat_skippedWord header]
    exact UInt64.toNat_lt _

theorem Part.sized_complete {limits : SessionLimits} {part : Part} {bytes : Bytes}
    (sized : part.Sized limits.maxTransfer) (whole : bytes.length = part.size) :
    (part.complete limits bytes).Sized limits.maxTransfer := by
  cases part with
  | submitParams header =>
      simp only [complete]
      split
      · exact Stage.sized_afterParams header _
      · exact Stage.sized_atRest .busy
  | payload header params => exact Stage.sized_collectDescriptors sized whole
  | descriptors header params data => exact Submit.declared_of_within sized.1 sized.2 whole
  | _ =>
      simp only [complete, Stage.afterControlHeader, Stage.afterUrbHeader]
      repeat' split
      all_goals first
        | exact Stage.sized_atRest _
        | exact ⟨trivial, Nat.zero_le _⟩
        | trivial

theorem sized_take {limits : SessionLimits} {session : Session} {limit : Nat} {bytes : Bytes}
    (wants : session.wants = some limit) (few : bytes.length ≤ limit)
    (sized : session.stage.Sized limits.maxTransfer) :
    (session.take limits bytes).stage.Sized limits.maxTransfer := by
  obtain ⟨phase, stage⟩ := session
  cases stage with
  | collecting part got =>
      obtain rfl := Option.some.inj wants
      obtain ⟨part_sized, within⟩ := sized
      have length_eq : (got ++ bytes).length = got.length + bytes.length := List.length_append
      simp only [take]
      split
      · next partial_ => exact ⟨part_sized, Nat.le_of_lt partial_⟩
      · next whole => exact Part.sized_complete part_sized (by omega)
  | skipping left => exact Stage.sized_skip (Nat.lt_of_le_of_lt (Nat.sub_le ..) sized)
  | _ => exact sized

theorem length_le_of_read {inbox next : Inbox} {limit now : Nat} {timeout : Option Nat}
    {bytes : Bytes} (brought : inbox.read limit now timeout = some (.bytes bytes, next)) :
    bytes.length ≤ limit := by
  obtain ⟨-, bytes_eq, -⟩ | ⟨-, _, _, -, none, -⟩ | ⟨-, -, none, -⟩ | ⟨-, none | none, -⟩ :=
    Inbox.read_cases brought
  · rw [Arrival.bytes.inj bytes_eq]
    exact List.length_take_le _ _
  all_goals contradiction

theorem sized_disturb {session : Session} (sized : session.stage.Sized bound)
    (what : Disturbance) : (session.disturb what).stage.Sized bound := by
  have waited : session.elapse.stage.Sized bound := by
    obtain same | ⟨-, -, rested⟩ := elapse_cases session
    · rwa [same]
    · rw [rested]
      exact Stage.sized_atRest _
  unfold disturb
  repeat' split
  all_goals first | exact sized | exact waited | trivial

theorem sized_receive {limits : SessionLimits} {session : Session} {limit now : Nat}
    {timeout : Option Nat} {inbox next : Inbox} {arrival : Arrival}
    (wants : session.wants = some limit)
    (brought : inbox.read limit now timeout = some (arrival, next))
    (sized : session.stage.Sized limits.maxTransfer) :
    (session.receive limits arrival).stage.Sized limits.maxTransfer := by
  cases arrival with
  | bytes bytes => exact sized_take wants (length_le_of_read brought) sized
  | disturbance what => exact sized_disturb sized what
  | nothing => exact sized

theorem sized_resume {session : Session} (answer : Answer) (sized : session.stage.Sized bound) :
    (session.resume answer).stage.Sized bound := by
  unfold resume
  split
  all_goals first
    | exact Stage.sized_atRest _
    | exact sized
    | trivial

end Session

namespace System

variable {Executor : Type} [DeviceExecutor Executor] {system next : System Executor}
  {visit : Visit} {deed : Option Session.Deed}

/-- A move of a session keeps everything within the bound, what it hands on included. -/
theorem SessionMove.sized (visit_eq : system.visit = some visit)
    (move : system.SessionMove visit deed next)
    (sized : visit.session.stage.Sized system.config.maxTransfer) :
    (∃ visit', next.visit = some visit' ∧
        visit'.session.stage.Sized system.config.maxTransfer) ∧
      ∀ submit taken, deed = some (.offered submit taken) →
        submit.Declared system.config.maxTransfer := by
  have resumed (answer : Session.Answer) := Session.sized_resume answer sized
  cases move with
  | read wants socket_eq brought =>
      have sized : visit.session.stage.Sized system.config.sessionLimits.maxTransfer := sized
      exact ⟨⟨_, rfl, Session.sized_receive wants brought sized⟩, by simp⟩
  | looked awaits wait_eq unanswered => exact ⟨⟨_, rfl, sized⟩, by simp⟩
  | crowded stage_eq unposted unset => exact ⟨⟨_, rfl, sized⟩, by simp⟩
  | stood wanted unset => exact ⟨⟨_, rfl, sized⟩, by simp⟩
  | moved wanted wait_eq socket_eq polled => exact ⟨⟨_, visit_eq, sized⟩, by simp⟩
  | posted stage_eq posted =>
      rw [stage_eq] at sized
      refine ⟨⟨_, rfl, resumed _⟩, fun submit taken same => ?_⟩
      cases same
      exact sized
  | dropped stage_eq unposted =>
      rw [stage_eq] at sized
      refine ⟨⟨_, rfl, resumed _⟩, fun submit taken same => ?_⟩
      cases same
      exact sized
  | _ => exact ⟨⟨_, rfl, resumed _⟩, by simp⟩

end System

end UsbExport

import Mathlib.Data.List.Nodup
import UsbExport.Host.Worker

/-!
The calls with which interfaces are claimed and released, kept on record by the handle. Main
statements: claiming all interfaces of a device none of which is held holds all of them or none, and
releasing those that are held releases each once; on the way every call is due. A claim that is
refused releases those before it, whatever was held.
-/

namespace UsbExport.Host

variable {Handle : Type}

inductive CallKind
  | claim
  | release
deriving DecidableEq, Repr

/-- A call about one interface. -/
structure Call where
  kind : CallKind
  number : UInt8
  succeeded : Bool
deriving DecidableEq, Repr

def Call.isClaim (call : Call) : Bool := call.kind == .claim

def Call.isRelease (call : Call) : Bool := call.kind == .release

/-- A handle that keeps a record of the claims and releases that it is asked for. -/
structure Recorded (Handle : Type) where
  handle : Handle
  calls : List Call := []

namespace Recorded

variable [UsbHandle Handle]

/-- The record after one more call, and what the call came to. -/
def note (recorded : Recorded Handle) (kind : CallKind) (number : UInt8)
    (answer : Handle × Except UsbError Unit) : Recorded Handle × Except UsbError Unit :=
  (⟨answer.1, recorded.calls ++ [⟨kind, number, answer.2.isOk⟩]⟩, answer.2)

instance : UsbHandle (Recorded Handle) where
  claim recorded number := recorded.note .claim number (UsbHandle.claim recorded.handle number)
  release recorded number :=
    recorded.note .release number (UsbHandle.release recorded.handle number)
  transfer recorded transfer :=
    let (handle, outcome) := UsbHandle.transfer recorded.handle transfer
    ({ recorded with handle }, outcome)
  mayFinish recorded address := UsbHandle.mayFinish recorded.handle address

end Recorded

/-- A device that lets go of whatever it is asked to. -/
class Yields (Handle : Type) [UsbHandle Handle] : Prop where
  release_ok : ∀ (handle : Handle) (number : UInt8),
    (UsbHandle.release handle number).2 = .ok ()

/-! ### What is held -/

/-- Whether an interface is held after some calls: the last one on it that succeeded was a claim. -/
def holds (calls : List Call) (number : UInt8) : Bool :=
  calls.foldl
    (fun held call => if call.number = number ∧ call.succeeded then call.isClaim else held) false

theorem holds_concat (calls : List Call) (call : Call) (number : UInt8) :
    holds (calls ++ [call]) number =
      if call.number = number ∧ call.succeeded then call.isClaim else holds calls number := by
  simp [holds]

/-- A claim is due if the interface is not held, a release if it is. -/
def Call.IsDue (before : List Call) (call : Call) : Prop :=
  holds before call.number = call.isRelease

/-- Every call was due. -/
def Alternate (calls : List Call) : Prop :=
  ∀ before call, before ++ [call] <+: calls → call.IsDue before

theorem alternate_nil : Alternate [] := by
  intro before call none
  simp at none

theorem Alternate.concat {calls : List Call} {call : Call} (alternate : Alternate calls)
    (due : call.IsDue calls) : Alternate (calls ++ [call]) := by
  intro before other within
  rcases List.prefix_concat_iff.1 within with whole | part
  · obtain ⟨rfl, same⟩ := List.append_inj' whole rfl
    cases same
    exact due
  · exact alternate before other part

/-- What is held and then is not has been released. -/
theorem release_mem_of_holds {calls more : List Call} {number : UInt8}
    (held : holds calls number = true) (gone : holds (calls ++ more) number = false) :
    ⟨.release, number, true⟩ ∈ more := by
  induction more generalizing calls with
  | nil =>
      rw [List.append_nil, held] at gone
      cases gone
  | cons first rest ih =>
      rw [List.append_cons] at gone
      cases still : holds (calls ++ [first]) number with
      | true => exact List.mem_cons_of_mem _ (ih still gone)
      | false =>
          rw [holds_concat] at still
          split at still
          · next here =>
              obtain ⟨kind, number', succeeded⟩ := first
              obtain ⟨rfl, rfl⟩ := here
              cases kind
              · cases still
              · exact List.mem_cons_self
          · rw [held] at still
            cases still

/-- What is not held is claimed before it is released. -/
theorem takeWhile_release_of_free {calls more : List Call} {number : UInt8}
    (alternate : Alternate (calls ++ more)) (free : holds calls number = false) :
    (more.filter (·.number = number)).takeWhile Call.isRelease = [] := by
  induction more generalizing calls with
  | nil => rfl
  | cons first rest ih =>
      rw [List.append_cons] at alternate
      by_cases here : first.number = number
      · have due := alternate calls first (List.prefix_append _ _)
        rw [Call.IsDue, here, free] at due
        simp [here, ← due]
      · have free' : holds (calls ++ [first]) number = false := by
          rw [holds_concat, if_neg (fun both => here both.1), free]
        simpa [here] using ih alternate free'

/-- What is held is released once before it is claimed again. -/
theorem takeWhile_release_of_held {calls more : List Call} {number : UInt8}
    (alternate : Alternate (calls ++ more)) (held : holds calls number = true)
    (yielded : ∀ call ∈ more, call.isRelease = true → call.succeeded = true)
    (concerned : ∃ call ∈ more, call.number = number) :
    (more.filter (·.number = number)).takeWhile Call.isRelease =
      [⟨.release, number, true⟩] := by
  induction more generalizing calls with
  | nil => simp at concerned
  | cons first rest ih =>
      rw [List.append_cons] at alternate
      by_cases here : first.number = number
      · have due := alternate calls first (List.prefix_append _ _)
        rw [Call.IsDue, here, held] at due
        have succeeded := yielded first List.mem_cons_self due.symm
        have first_eq : first = ⟨.release, number, true⟩ := by
          obtain ⟨kind, number', succeeded'⟩ := first
          cases kind
          · cases due
          · rw [← here, ← succeeded]
        have free : holds (calls ++ [first]) number = false := by
          rw [holds_concat, if_pos ⟨here, succeeded⟩, first_eq]
          rfl
        have rest_eq := takeWhile_release_of_free alternate free
        rw [List.filter_cons_of_pos (by simpa using here), List.takeWhile_cons_of_pos due.symm,
          rest_eq, first_eq]
      · have held' : holds (calls ++ [first]) number = true := by
          rw [holds_concat, if_neg (fun both => here both.1), held]
        have concerned' : ∃ call ∈ rest, call.number = number := by simpa [here] using concerned
        have rest_eq := ih alternate held'
          (fun call mem => yielded call (List.mem_cons_of_mem _ mem)) concerned'
        rwa [List.filter_cons_of_neg (by simpa using here)]

/-! ### Passes over several interfaces -/

section Passes

variable [UsbHandle Handle]

theorem calls_claim (recorded : Recorded Handle) (number : UInt8) :
    (UsbHandle.claim recorded number).1.calls =
      recorded.calls ++ [⟨.claim, number, (UsbHandle.claim recorded number).2.isOk⟩] := rfl

theorem calls_release [Yields Handle] (recorded : Recorded Handle) (number : UInt8) :
    (UsbHandle.release recorded number).1.calls =
      recorded.calls ++ [⟨.release, number, true⟩] := by
  have yields := Yields.release_ok recorded.handle number
  show recorded.calls ++ [⟨.release, number, (UsbHandle.release recorded.handle number).2.isOk⟩] = _
  rw [yields]
  rfl

/-- Releases are made in order, one for each number. -/
theorem calls_releaseAll [Yields Handle] (recorded : Recorded Handle) (numbers : List UInt8) :
    (releaseAll recorded numbers).calls =
      recorded.calls ++ numbers.map (fun number => ⟨.release, number, true⟩) := by
  induction numbers generalizing recorded with
  | nil => simp [releaseAll]
  | cons first rest ih =>
      show (releaseAll (UsbHandle.release recorded first).1 rest).calls = _
      rw [ih, calls_release]
      simp

/-- Releasing held interfaces, each named once, lets go of them and of nothing else. -/
theorem release_pass [Yields Handle] {numbers : List UInt8} (nodup : numbers.Nodup)
    {recorded : Recorded Handle} (alternate : Alternate recorded.calls)
    (held : ∀ number ∈ numbers, holds recorded.calls number = true) :
    Alternate (releaseAll recorded numbers).calls ∧
      ∀ number, holds (releaseAll recorded numbers).calls number =
        (holds recorded.calls number && !decide (number ∈ numbers)) := by
  induction numbers generalizing recorded with
  | nil => exact ⟨alternate, by simp [releaseAll]⟩
  | cons first rest ih =>
      rw [List.nodup_cons] at nodup
      have released := calls_release recorded first
      have due : Call.IsDue recorded.calls ⟨.release, first, true⟩ := held first List.mem_cons_self
      have alternate' := alternate.concat due
      rw [← released] at alternate'
      have held' : ∀ number ∈ rest,
          holds (UsbHandle.release recorded first).1.calls number = true := by
        intro number mem
        have apart : first ≠ number := fun same => nodup.1 (same ▸ mem)
        rw [released, holds_concat, if_neg (fun same => apart same.1)]
        exact held number (List.mem_cons_of_mem _ mem)
      obtain ⟨alternates, holds_eq⟩ := ih nodup.2 alternate' held'
      refine ⟨alternates, fun number => ?_⟩
      show holds (releaseAll (UsbHandle.release recorded first).1 rest).calls number = _
      rw [holds_eq, released, holds_concat]
      by_cases here : first = number
      · simp [here, Call.isClaim]
      · simp [here, Ne.symm here]

theorem calls_claimAll_go [Yields Handle] (handle : Recorded Handle) (done numbers : List UInt8) :
    ∃ calls, (claimAll.go handle done numbers).1.calls = handle.calls ++ calls ∧
      ∀ call ∈ calls, call.isRelease = true → call.succeeded = true := by
  induction numbers generalizing handle done with
  | nil => exact ⟨[], (List.append_nil _).symm, nofun⟩
  | cons first rest ih =>
      have claimed := calls_claim handle first
      unfold claimAll.go
      generalize UsbHandle.claim handle first = answer at claimed
      obtain ⟨next, outcome⟩ := answer
      have claimed : next.calls = handle.calls ++ [⟨.claim, first, outcome.isOk⟩] := claimed
      cases outcome with
      | ok =>
          obtain ⟨calls, calls_eq, yielded⟩ := ih next (done ++ [first])
          refine ⟨⟨.claim, first, true⟩ :: calls, ?_, ?_⟩
          · rw [calls_eq, claimed, List.append_assoc]
            rfl
          · simpa [Call.isRelease] using yielded
      | error error =>
          refine ⟨⟨.claim, first, false⟩ :: done.map fun number => ⟨.release, number, true⟩, ?_, ?_⟩
          · show (releaseAll next done).calls = _
            rw [calls_releaseAll, claimed, List.append_assoc]
            rfl
          · simp [Call.isRelease]

/-- A claim adds to the record, and what it takes back it takes back. -/
theorem calls_claimAll [Yields Handle] (handle : Recorded Handle) (numbers : List UInt8) :
    ∃ calls, (claimAll handle numbers).1.calls = handle.calls ++ calls ∧
      ∀ call ∈ calls, call.isRelease = true → call.succeeded = true :=
  calls_claimAll_go handle [] numbers

/-- What a claim of several interfaces keeps: those done are held, and no others. -/
theorem claim_pass_go [Yields Handle] {handle : Recorded Handle} {done numbers : List UInt8}
    (nodup : (done ++ numbers).Nodup) (alternate : Alternate handle.calls)
    (held : ∀ number, holds handle.calls number = decide (number ∈ done)) :
    Alternate (claimAll.go handle done numbers).1.calls ∧
      ∀ number, holds (claimAll.go handle done numbers).1.calls number =
        ((claimAll.go handle done numbers).2 && decide (number ∈ done ++ numbers)) := by
  induction numbers generalizing handle done with
  | nil => exact ⟨alternate, by simpa [claimAll.go] using held⟩
  | cons first rest ih =>
      have fresh : first ∉ done := by
        rw [List.nodup_append] at nodup
        exact fun mem => nodup.2.2 first mem first List.mem_cons_self rfl
      have claimed := calls_claim handle first
      have due (succeeded : Bool) : Call.IsDue handle.calls ⟨.claim, first, succeeded⟩ := by
        rw [Call.IsDue, held]
        simp [fresh, Call.isRelease]
      have alternate' := alternate.concat (due (UsbHandle.claim handle first).2.isOk)
      rw [← claimed] at alternate'
      unfold claimAll.go
      generalize UsbHandle.claim handle first = answer at claimed alternate'
      obtain ⟨next, outcome⟩ := answer
      cases outcome with
      | ok =>
          have held' : ∀ number, holds next.calls number = decide (number ∈ done ++ [first]) := by
            intro number
            rw [show next.calls = _ from claimed, holds_concat, held]
            by_cases here : first = number
            · simp [here, Except.isOk, Except.toBool, Call.isClaim]
            · simp [here, Ne.symm here]
          obtain ⟨alternates, holds_eq⟩ := ih (by simpa using nodup) alternate' held'
          exact ⟨alternates, by simpa using holds_eq⟩
      | error error =>
          have held' : ∀ number, holds next.calls number = decide (number ∈ done) := by
            intro number
            rw [show next.calls = _ from claimed, holds_concat, held]
            simp [Except.isOk, Except.toBool]
          obtain ⟨alternates, holds_eq⟩ := release_pass
            (List.nodup_append.1 nodup).1 alternate' (fun number mem => by simp [held', mem])
          refine ⟨alternates, fun number => ?_⟩
          show holds (releaseAll next done).calls number = _
          rw [holds_eq, held']
          simp

/-- Claiming all interfaces of a device that holds none ends with all of them or none held. -/
theorem claim_pass [Yields Handle] {numbers : List UInt8} (nodup : numbers.Nodup)
    {handle : Recorded Handle} (alternate : Alternate handle.calls)
    (free : ∀ number, holds handle.calls number = false) :
    Alternate (claimAll handle numbers).1.calls ∧
      ∀ number, holds (claimAll handle numbers).1.calls number =
        ((claimAll handle numbers).2 && decide (number ∈ numbers)) :=
  claim_pass_go nodup alternate (by simpa using free)

end Passes

/-! ### What a claim of all interfaces comes to -/

def claimsOf (numbers : List UInt8) : List Call :=
  numbers.map fun number => ⟨.claim, number, true⟩

def releasesOf (numbers : List UInt8) : List Call :=
  numbers.map fun number => ⟨.release, number, true⟩

/-- The calls of one claim: every interface is claimed, or one is refused and those before it are
released again. -/
inductive ClaimPass (numbers : List UInt8) : List Call → Bool → Prop
  | all : ClaimPass numbers (claimsOf numbers) true
  | refused {front back : List UInt8} {number : UInt8} (split : numbers = front ++ number :: back) :
      ClaimPass numbers (claimsOf front ++ ⟨.claim, number, false⟩ :: releasesOf front) false

theorem claimPass_claimAll_go [UsbHandle Handle] [Yields Handle] (handle : Recorded Handle)
    (done numbers : List UInt8) :
    ∃ calls, (claimAll.go handle done numbers).1.calls = handle.calls ++ calls ∧
      ClaimPass (done ++ numbers) (claimsOf done ++ calls) (claimAll.go handle done numbers).2 := by
  induction numbers generalizing handle done with
  | nil =>
      refine ⟨[], (List.append_nil _).symm, ?_⟩
      rw [List.append_nil, List.append_nil]
      exact .all
  | cons first rest ih =>
      have claimed := calls_claim handle first
      unfold claimAll.go
      generalize UsbHandle.claim handle first = answer at claimed
      obtain ⟨next, outcome⟩ := answer
      have claimed : next.calls = handle.calls ++ [⟨.claim, first, outcome.isOk⟩] := claimed
      cases outcome with
      | ok =>
          obtain ⟨calls, calls_eq, pass⟩ := ih next (done ++ [first])
          refine ⟨⟨.claim, first, true⟩ :: calls, ?_, ?_⟩
          · rw [calls_eq, claimed, List.append_assoc]
            rfl
          · simpa [claimsOf] using pass
      | error error =>
          refine ⟨⟨.claim, first, false⟩ :: releasesOf done, ?_, .refused rfl⟩
          show (releaseAll next done).calls = _
          rw [calls_releaseAll, claimed, List.append_assoc]
          rfl

theorem claimPass_claimAll [UsbHandle Handle] [Yields Handle] (handle : Recorded Handle)
    (numbers : List UInt8) :
    ∃ calls, (claimAll handle numbers).1.calls = handle.calls ++ calls ∧
      ClaimPass numbers calls (claimAll handle numbers).2 :=
  claimPass_claimAll_go handle [] numbers

theorem holds_claimsOf (calls : List Call) (numbers : List UInt8) (number : UInt8) :
    holds (calls ++ claimsOf numbers) number =
      (holds calls number || decide (number ∈ numbers)) := by
  induction numbers generalizing calls with
  | nil => simp [claimsOf]
  | cons first rest ih =>
      show holds (calls ++ ⟨.claim, first, true⟩ :: claimsOf rest) number = _
      rw [List.append_cons, ih, holds_concat]
      by_cases here : first = number
      · simp [here, Call.isClaim]
      · simp [here, Ne.symm here]

theorem holds_releasesOf (calls : List Call) (numbers : List UInt8) (number : UInt8) :
    holds (calls ++ releasesOf numbers) number =
      (holds calls number && !decide (number ∈ numbers)) := by
  induction numbers generalizing calls with
  | nil => simp [releasesOf]
  | cons first rest ih =>
      show holds (calls ++ ⟨.release, first, true⟩ :: releasesOf rest) number = _
      rw [List.append_cons, ih, holds_concat]
      by_cases here : first = number
      · simp [here, Call.isClaim]
      · simp [here, Ne.symm here]

/-- What is claimed and released again is not held. -/
theorem holds_taken_back (calls : List Call) (numbers : List UInt8) (number : UInt8) :
    holds (calls ++ (claimsOf numbers ++ releasesOf numbers)) number =
      (holds calls number && !decide (number ∈ numbers)) := by
  rw [← List.append_assoc, holds_releasesOf, holds_claimsOf]
  by_cases here : number ∈ numbers <;> simp [here]

/-- A claim that was refused leaves nothing held that was not held before. -/
theorem ClaimPass.holds_refused {numbers : List UInt8} {made : List Call}
    (pass : ClaimPass numbers made false) {calls : List Call} {number : UInt8}
    (held : holds (calls ++ made) number = true) : holds calls number = true := by
  cases pass with
  | @refused front back refused split =>
      rw [List.append_cons, ← List.append_assoc, holds_releasesOf, ← List.append_assoc,
        holds_concat, holds_claimsOf] at held
      by_cases here : number ∈ front <;> simp_all

theorem getElem?_claimsOf {numbers : List UInt8} {place : Nat} {number : UInt8} :
    (claimsOf numbers)[place]? ≠ some ⟨.claim, number, false⟩ := by
  simp [claimsOf]

theorem getElem?_releasesOf {numbers : List UInt8} {place : Nat} {number : UInt8} :
    (releasesOf numbers)[place]? ≠ some ⟨.claim, number, false⟩ := by
  simp [releasesOf]

/-- The place of the claim that was refused is that of its interface, and those before it are
released, each once. -/
theorem ClaimPass.of_refused {numbers : List UInt8} {made : List Call} {success : Bool}
    (pass : ClaimPass numbers made success) {place : Nat} {number : UInt8}
    (refused : made[place]? = some ⟨.claim, number, false⟩) :
    numbers[place]? = some number ∧
      made = claimsOf (numbers.take place) ++
        ⟨.claim, number, false⟩ :: releasesOf (numbers.take place) := by
  cases pass with
  | all => exact absurd refused getElem?_claimsOf
  | @refused front back first split =>
      have length_eq : (claimsOf front).length = front.length := List.length_map _
      by_cases early : place < front.length
      · rw [List.getElem?_append_left (length_eq ▸ early)] at refused
        exact absurd refused getElem?_claimsOf
      · rw [List.getElem?_append_right (by omega)] at refused
        cases offset : place - (claimsOf front).length with
        | zero =>
            obtain rfl : place = front.length := by omega
            rw [offset, List.getElem?_cons_zero] at refused
            cases refused
            rw [split]
            simp
        | succ later =>
            rw [offset, List.getElem?_cons_succ] at refused
            exact absurd refused getElem?_releasesOf

end UsbExport.Host

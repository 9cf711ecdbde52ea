import UsbExport.Session.Basic

/-!
The reading side of a socket: bytes that have arrived, faults that reads will meet when the bytes
are used up, and whether the client has stopped sending. A read that finds none of these waits, and
gives up if it was given a time.
-/

namespace UsbExport.Socket

structure Inbox where
  bytes : Bytes := []
  faults : List FaultKind := []
  ended : Bool := false
  /-- When the read that is waiting gives up. -/
  deadline : Option Nat := none
deriving Repr, Inhabited

/-- What a read brings. -/
inductive Arrival
  | bytes (taken : Bytes)
  | disturbance (what : Session.Disturbance)
  /-- Nothing; the time that the read is given begins. -/
  | nothing

namespace Inbox

def arrive (inbox : Inbox) (bytes : Bytes) : Inbox := { inbox with bytes := inbox.bytes ++ bytes }

def finish (inbox : Inbox) : Inbox := { inbox with ended := true }

def stumble (inbox : Inbox) (kind : FaultKind) : Inbox :=
  { inbox with faults := inbox.faults ++ [kind] }

/-- Whether a read finds nothing: no bytes, no fault and no end. -/
def isQuiet (inbox : Inbox) : Bool :=
  inbox.bytes.isEmpty && inbox.faults.isEmpty && !inbox.ended

/-- Waits while the client may still send, no longer than the given time. -/
def await (inbox : Inbox) (now : Nat) (timeout : Option Nat) : Option (Arrival × Inbox) :=
  match timeout, inbox.deadline with
  | none, _ => none
  | some timeout, none => some (.nothing, { inbox with deadline := some (now + timeout) })
  | some _, some deadline =>
      if deadline ≤ now then some (.disturbance .silence, { inbox with deadline := none }) else none

/-- Reads at most `limit` bytes. -/
def read (inbox : Inbox) (limit now : Nat) (timeout : Option Nat) : Option (Arrival × Inbox) :=
  let rest := { inbox with deadline := none }
  if inbox.bytes.isEmpty then
    match inbox.faults with
    | kind :: faults => some (.disturbance (.fault kind), { rest with faults })
    | [] =>
        if inbox.ended then some (.disturbance .inputEnded, rest) else inbox.await now timeout
  else some (.bytes (inbox.bytes.take limit), { rest with bytes := inbox.bytes.drop limit })

/-- What a read can bring, and what it leaves. -/
theorem read_cases {inbox next : Inbox} {limit now : Nat} {timeout : Option Nat}
    {arrival : Arrival} (brought : inbox.read limit now timeout = some (arrival, next)) :
    inbox.bytes ≠ [] ∧ arrival = .bytes (inbox.bytes.take limit) ∧
        next = { inbox with bytes := inbox.bytes.drop limit, deadline := none } ∨
      inbox.bytes = [] ∧ (∃ kind faults, inbox.faults = kind :: faults ∧
        arrival = .disturbance (.fault kind) ∧ next = { inbox with faults, deadline := none }) ∨
      inbox.bytes = [] ∧ inbox.ended = true ∧ arrival = .disturbance .inputEnded ∧
        next = { inbox with deadline := none } ∨
      inbox.isQuiet = true ∧ (arrival = .nothing ∨ arrival = .disturbance .silence) ∧
        ∃ deadline, next = { inbox with deadline } := by
  unfold read at brought
  split at brought
  · next empty =>
      rw [List.isEmpty_iff] at empty
      split at brought
      · next kind faults faults_eq =>
          cases brought
          exact Or.inr (Or.inl ⟨empty, kind, faults, faults_eq, rfl, rfl⟩)
      · next faultless =>
          split at brought
          · next ended =>
              cases brought
              exact Or.inr (Or.inr (Or.inl ⟨empty, ended, rfl, rfl⟩))
          · next sending =>
              have quiet : inbox.isQuiet = true := by simp [isQuiet, empty, faultless, sending]
              unfold await at brought
              repeat' split at brought
              all_goals cases brought
              · exact Or.inr (Or.inr (Or.inr ⟨quiet, Or.inl rfl, _, rfl⟩))
              · exact Or.inr (Or.inr (Or.inr ⟨quiet, Or.inr rfl, _, rfl⟩))
  · next filled =>
      cases brought
      exact Or.inl ⟨fun empty => filled (by rw [empty]; rfl), rfl, rfl⟩

end Inbox

end UsbExport.Socket

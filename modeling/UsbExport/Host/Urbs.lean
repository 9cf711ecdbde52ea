/-!
The URBs an executor has in hand: those that are in flight, and those of them that were unlinked,
whose completion is not reported.
-/

namespace UsbExport.Host

structure Urbs where
  inFlight : List UInt32 := []
  unlinked : List UInt32 := []
deriving DecidableEq, Repr, Inhabited

namespace Urbs

def submit (urbs : Urbs) (seqnum : UInt32) : Urbs :=
  { urbs with inFlight := urbs.inFlight.insert seqnum }

/-- A URB that is not in flight cannot be unlinked, and the wish is forgotten. -/
def unlink (urbs : Urbs) (seqnum : UInt32) : Urbs :=
  if seqnum ∈ urbs.inFlight then { urbs with unlinked := urbs.unlinked.insert seqnum } else urbs

def isUnlinked (urbs : Urbs) (seqnum : UInt32) : Bool := urbs.unlinked.contains seqnum

/-- Takes a URB out of both lists. -/
def retire (urbs : Urbs) (seqnum : UInt32) : Urbs where
  inFlight := urbs.inFlight.filter (· != seqnum)
  unlinked := urbs.unlinked.filter (· != seqnum)

theorem mem_inFlight_submit {urbs : Urbs} {seqnum other : UInt32} :
    other ∈ (urbs.submit seqnum).inFlight ↔ other = seqnum ∨ other ∈ urbs.inFlight := by
  simp [submit]

theorem mem_inFlight_retire {urbs : Urbs} {seqnum other : UInt32} :
    other ∈ (urbs.retire seqnum).inFlight ↔ other ∈ urbs.inFlight ∧ other ≠ seqnum := by
  simp [retire]

theorem mem_unlinked_retire {urbs : Urbs} {seqnum other : UInt32} :
    other ∈ (urbs.retire seqnum).unlinked ↔ other ∈ urbs.unlinked ∧ other ≠ seqnum := by
  simp [retire]

theorem mem_unlinked_unlink {urbs : Urbs} {seqnum other : UInt32} :
    other ∈ (urbs.unlink seqnum).unlinked ↔
      other = seqnum ∧ seqnum ∈ urbs.inFlight ∨ other ∈ urbs.unlinked := by
  unfold unlink
  split <;> rename_i h <;> simp [h]

end Urbs

end UsbExport.Host

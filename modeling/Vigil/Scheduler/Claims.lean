import Std.Data.ExtTreeSet
import Vigil.Uuid

/-!
# Claims

A check of an item runs only while its dispatch holds the claim on the item. The
claims are the set of items that are claimed; no item is claimed twice.
-/

namespace Vigil

/-- The items with a dispatch in flight. -/
structure Claims where
  ids : Std.ExtTreeSet Uuid

namespace Claims

def empty : Claims := ⟨∅⟩

instance : Inhabited Claims := ⟨empty⟩

def holds (c : Claims) (id : Uuid) : Bool := c.ids.contains id

/-- Claims an item, unless it is claimed already. -/
def claim? (c : Claims) (id : Uuid) : Option Claims :=
  if c.holds id then none else some ⟨c.ids.insert id⟩

/-- Gives the claim on an item back. -/
def release (c : Claims) (id : Uuid) : Claims := ⟨c.ids.erase id⟩

def count (c : Claims) : Nat := c.ids.size

theorem claim?_eq_none_iff {c : Claims} {id : Uuid} : c.claim? id = none ↔ c.holds id = true := by
  simp [claim?]

theorem holds_of_claim? {c d : Claims} {id other : Uuid} (h : c.claim? id = some d) :
    d.holds other = (decide (id = other) || c.holds other) := by
  unfold claim? at h
  split at h
  · simp at h
  · simp only [Option.some.injEq] at h
    subst h
    simp [holds, Std.ExtTreeSet.contains_insert, Uuid.compare_beq_eq]

theorem holds_release (c : Claims) (id other : Uuid) :
    (c.release id).holds other = (!decide (id = other) && c.holds other) := by
  simp [holds, release, Std.ExtTreeSet.contains_erase, bne, Uuid.compare_beq_eq]

end Claims

end Vigil

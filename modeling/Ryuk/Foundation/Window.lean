import Mathlib.Tactic

/-!
# The last elements of a list

A history that is cut to its last elements after each append holds the last elements of all
that was ever appended.
-/

namespace Ryuk
namespace Foundation

variable {α β : Type}

/-- `items[-bound:]`, what `del items[:-bound]` leaves. -/
def lastOf (bound : Nat) (items : List α) : List α := items.drop (items.length - bound)

@[simp] theorem length_lastOf (bound : Nat) (items : List α) :
    (lastOf bound items).length = min bound items.length := by
  unfold lastOf
  rw [List.length_drop]
  omega

theorem lastOf_map (bound : Nat) (f : α → β) (items : List α) :
    lastOf bound (items.map f) = (lastOf bound items).map f := by
  unfold lastOf
  rw [List.length_map, List.map_drop]

/-- **Window rule.**  Cutting before an append does not show after the next cut. -/
theorem lastOf_append_lastOf (bound : Nat) (items : List α) (item : α) :
    lastOf bound (lastOf bound items ++ [item]) = lastOf bound (items ++ [item]) := by
  unfold lastOf
  -- the first cut drops `items.length - bound` elements, the second one the rest
  rw [← List.drop_append_of_le_length (by omega), List.drop_drop]
  congr 1
  simp only [List.length_drop, List.length_append, List.length_singleton]
  omega

end Foundation
end Ryuk

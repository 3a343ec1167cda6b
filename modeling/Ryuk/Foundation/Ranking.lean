import Mathlib.Data.List.Sort
import Mathlib.Tactic

/-!
# Ranking by a key

A stable sort by a key.  Where the key tells the items apart, the sorted list depends only
on which items there are: not on their order before (`sortBy_of_perm`), and not on which other
items were ranked with them (`sortBy_sublist`).
-/

namespace Ryuk
namespace Foundation
namespace Ranking

variable {α κ : Type} [LinearOrder κ] {key other : α → κ} {items rest : List α}

/-- `items.sort(key=key)`: a stable sort. -/
def sortBy (key : α → κ) (items : List α) : List α :=
  items.mergeSort fun first second => decide (key first ≤ key second)

/-- The items are in the order of their keys. -/
def Ranked (key : α → κ) (items : List α) : Prop :=
  items.Pairwise fun first second => key first ≤ key second

/-- The key tells the items apart. -/
def Separates (key : α → κ) (items : List α) : Prop :=
  ∀ first ∈ items, ∀ second ∈ items, key first = key second → first = second

theorem sortBy_perm (key : α → κ) (items : List α) : (sortBy key items).Perm items :=
  List.mergeSort_perm ..

@[simp] theorem mem_sortBy {item : α} : item ∈ sortBy key items ↔ item ∈ items :=
  (sortBy_perm key items).mem_iff

@[simp] theorem length_sortBy : (sortBy key items).length = items.length :=
  (sortBy_perm key items).length_eq

theorem sortBy_ranked (key : α → κ) (items : List α) : Ranked key (sortBy key items) := by
  have hsorted : (sortBy key items).Pairwise fun first second =>
      decide (key first ≤ key second) = true := by
    apply List.pairwise_mergeSort
    · intro first second third hfirst hsecond
      rw [decide_eq_true_eq] at hfirst hsecond ⊢
      exact hfirst.trans hsecond
    · intro first second
      rw [Bool.or_eq_true, decide_eq_true_eq, decide_eq_true_eq]
      exact le_total _ _
  exact hsorted.imp fun h => of_decide_eq_true h

/-- Keys that agree on the items rank them alike. -/
theorem Ranked.congr (h : Ranked other items) (hsame : ∀ item ∈ items, other item = key item) :
    Ranked key items := by
  refine List.Pairwise.imp_of_mem (fun hfirst hsecond hle => ?_) h
  rw [← hsame _ hfirst, ← hsame _ hsecond]
  exact hle

/-- There is one ranked arrangement of items that the key tells apart. -/
theorem eq_of_ranked (hperm : rest.Perm items) (hseparates : Separates key items)
    (hrest : Ranked key rest) (hitems : Ranked key items) : rest = items := by
  refine hperm.eq_of_pairwise (fun first second hfirst hsecond hle hge => ?_) hrest hitems
  exact hseparates first (hperm.subset hfirst) second hsecond (le_antisymm hle hge)

/-- **Removing items.**  Items that were ranked with fewer others keep their order. -/
theorem sortBy_sublist (hseparates : Separates key items)
    (hsame : ∀ item ∈ rest, other item = key item) (h : List.Subperm rest items) :
    (sortBy other rest).Sublist (sortBy key items) := by
  -- the items of `rest`, in the order in which they stand in the longer ranking
  obtain ⟨middle, hmiddle, hsub⟩ :=
    (((sortBy_perm other rest).subperm).trans h).trans (sortBy_perm key items).symm.subperm
  have hrest : Ranked key (sortBy other rest) :=
    (sortBy_ranked other rest).congr fun item hitem => hsame item (mem_sortBy.mp hitem)
  have hkept : Ranked key middle := (sortBy_ranked key items).sublist hsub
  have hrestricted : Separates key (sortBy other rest) := by
    intro first hfirst second hsecond hkey
    have hmem : ∀ item ∈ sortBy other rest, item ∈ items := fun item hitem =>
      mem_sortBy.mp (hsub.subset (hmiddle.symm.subset hitem))
    exact hseparates first (hmem first hfirst) second (hmem second hsecond) hkey
  rw [← eq_of_ranked hmiddle hrestricted hkept hrest]
  exact hsub

/-- **Reordering items.**  The ranking does not depend on the order before. -/
theorem sortBy_of_perm (hseparates : Separates key items)
    (hsame : ∀ item ∈ rest, other item = key item) (h : rest.Perm items) :
    sortBy other rest = sortBy key items := by
  refine (sortBy_sublist hseparates hsame h.subperm).eq_of_length ?_
  rw [length_sortBy, length_sortBy, h.length_eq]

/-- What is taken from some of the items is among what is taken from all of them. -/
theorem subperm_map {β : Type} (f : α → β) (h : List.Subperm rest items) :
    List.Subperm (rest.map f) (items.map f) := by
  obtain ⟨middle, hperm, hsub⟩ := h
  exact ⟨middle.map f, hperm.map f, hsub.map f⟩

theorem nodup_map_of_subperm {β : Type} {f : α → β} (h : List.Subperm rest items)
    (hnodup : (items.map f).Nodup) : (rest.map f).Nodup := by
  obtain ⟨middle, hperm, hsub⟩ := h
  exact (hperm.map f).nodup_iff.mp (hnodup.sublist (hsub.map f))

end Ranking
end Foundation
end Ryuk

import Ryuk.Foundation.Raises

/-!
# Canonical orders

Items are put into canonical order by sorting them by a key.  Items with distinct keys have
one canonical order, so that what is computed of it says nothing about the order in which they
were given; and what a traversal computes says what was traversed as far as its steps do.
-/

namespace Ryuk
namespace Foundation
namespace Canonical

section Orders

variable {α β κ : Type} {le : κ → κ → Bool} {key : α → κ} {items others : List α}

/-- The items in the order of their keys. -/
def inOrder (le : κ → κ → Bool) (key : α → κ) (items : List α) : List α :=
  items.mergeSort fun left right => le (key left) (key right)

theorem inOrder_perm : (inOrder le key items).Perm items := List.mergeSort_perm _ _

theorem mem_inOrder {item : α} : item ∈ inOrder le key items ↔ item ∈ items :=
  inOrder_perm.mem_iff

theorem inOrder_keys : ((inOrder le key items).map key).Perm (items.map key) :=
  inOrder_perm.map key

variable [LinearOrder κ]

/-- Keys that increase strictly leave one order of the items. -/
theorem eq_of_increasing (hperm : items.Perm others)
    (hitems : (items.map key).Pairwise (· < ·)) (hothers : (others.map key).Pairwise (· < ·)) :
    items = others := by
  rw [List.pairwise_map] at hitems hothers
  apply List.Perm.eq_of_pairwise _ hitems hothers hperm
  intro left right _ _ hlt hgt
  exact absurd (hlt.trans hgt) (lt_irrefl _)

section Decided

variable (hle : ∀ left right, le left right = true ↔ left ≤ right)

include hle

theorem inOrder_pairwise :
    (inOrder le key items).Pairwise fun left right => key left ≤ key right := by
  have hsorted : (inOrder le key items).Pairwise fun left right =>
      le (key left) (key right) = true := by
    apply List.pairwise_mergeSort
    · intro first second third hfirst hsecond
      rw [hle] at hfirst hsecond ⊢
      exact hfirst.trans hsecond
    · intro first second
      rw [Bool.or_eq_true, hle, hle]
      exact le_total _ _
  exact hsorted.imp fun h => (hle _ _).mp h

/-- Distinct keys increase strictly. -/
theorem inOrder_increasing (hnodup : (items.map key).Nodup) :
    ((inOrder le key items).map key).Pairwise (· < ·) := by
  have hdistinct := (@inOrder_keys _ _ le key items).nodup_iff.mpr hnodup
  rw [List.Nodup, List.pairwise_map] at hdistinct
  rw [List.pairwise_map]
  exact (inOrder_pairwise hle).imp₂ (fun left right hboth hne => lt_of_le_of_ne hboth hne) hdistinct

/-- Items that are described alike, in any order, are in canonical order described alike. -/
theorem inOrder_described {describe : α → β} {name : β → κ} (hname : ∀ item, name (describe item) =
    key item) (hnodup : (items.map key).Nodup)
    (hperm : (items.map describe).Perm (others.map describe)) :
    (inOrder le key items).map describe = (inOrder le key others).map describe := by
  have hkeys : ∀ found : List α, (found.map describe).map name = found.map key := by
    intro found
    rw [List.map_map]
    exact List.map_congr_left fun item _ => hname item
  have hothers : (others.map key).Nodup := by
    rw [← hkeys others, ← (hperm.map name).nodup_iff, hkeys items]
    exact hnodup
  apply @eq_of_increasing _ _ name
  · exact (inOrder_perm.map describe).trans (hperm.trans (inOrder_perm.map describe).symm)
  · rw [hkeys]
    exact inOrder_increasing hle hnodup
  · rw [hkeys]
    exact inOrder_increasing hle hothers

end Decided

end Orders

section Traversals

variable {ε α β γ : Type} {f g : α → Except ε γ} {describe : α → β} {items others : List α}

/-- Items that are described alike are traversed alike, when the steps are. -/
theorem mapM_described (hstep : ∀ item other, describe item = describe other → f item = f other)
    (hsame : items.map describe = others.map describe) : items.mapM f = others.mapM f := by
  induction items generalizing others with
  | nil =>
      rw [List.map_nil] at hsame
      rw [List.map_eq_nil_iff.mp hsame.symm]
  | cons item rest ih =>
      cases others with
      | nil => cases hsame
      | cons other rest' =>
          rw [List.map_cons, List.map_cons, List.cons.injEq] at hsame
          rw [List.mapM_cons, List.mapM_cons, hstep item other hsame.1, ih hsame.2]

/-- What two traversals both return tells that the items are described alike, when what two
steps both return does. -/
theorem described_of_mapM (hstep : ∀ item other result, f item = .ok result →
    g other = .ok result → describe item = describe other) {results : List γ}
    (hitems : items.mapM f = .ok results) (hothers : others.mapM g = .ok results) :
    items.map describe = others.map describe := by
  have hfirst := mapM_eq_ok.mp hitems
  have hsecond := mapM_eq_ok.mp hothers
  clear hitems hothers
  induction hfirst generalizing others with
  | nil =>
      cases hsecond
      rfl
  | @cons item result rest results hitem _ ih =>
      cases hsecond with
      | @cons other _ rest' _ hother hrest =>
          rw [List.map_cons, List.map_cons, hstep item other result hitem hother, ih hrest]

/-- What is told of the results, when a step tells it of its own. -/
theorem told_of_mapM {tell : γ → β} (hstep : ∀ item result, f item = .ok result →
    tell result = describe item) {results : List γ} (h : items.mapM f = .ok results) :
    results.map tell = items.map describe := by
  have hsteps := mapM_eq_ok.mp h
  clear h
  induction hsteps with
  | nil => rfl
  | @cons item result rest results hitem _ ih =>
      rw [List.map_cons, List.map_cons, hstep item result hitem, ih]

/-- Every item has its result. -/
theorem result_of_mapM {results : List γ} (h : items.mapM f = .ok results) :
    ∀ item ∈ items, ∃ result ∈ results, f item = .ok result := by
  have hsteps := mapM_eq_ok.mp h
  clear h
  induction hsteps with
  | nil =>
      intro item hitem
      cases hitem
  | @cons first result rest results hfirst _ ih =>
      intro item hitem
      rcases List.mem_cons.mp hitem with rfl | hmem
      · exact ⟨result, List.mem_cons_self, hfirst⟩
      · obtain ⟨found, hfound, hstep⟩ := ih item hmem
        exact ⟨found, List.mem_cons_of_mem _ hfound, hstep⟩

end Traversals

end Canonical
end Foundation
end Ryuk

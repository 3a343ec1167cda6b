import Mathlib.Data.List.Forall2
import Mathlib.Tactic

/-!
# Numbered logs

A log whose entries carry the numbers `1, 2, …` in the order they were appended.
A writer that takes the largest number and adds one keeps the numbering, and a
reader that sorts by number and keeps the largest ones reads the end of the log.
-/

namespace Ryuk
namespace Foundation
namespace Numbering

variable {α β : Type} {number : α → Int} {entries : List α}

/-- The entries are numbered from one, without gaps or repeats, in this order. -/
def Numbered (number : α → Int) (entries : List α) : Prop :=
  entries.map number = (List.range entries.length).map fun i : Nat => (i : Int) + 1

theorem numbered_nil : Numbered number [] := rfl

/-- Numbered: the entry at each place has the number of the place. -/
theorem numbered_iff : Numbered number entries ↔
    ∀ (i : Nat) (hi : i < entries.length), number entries[i] = (i : Int) + 1 := by
  unfold Numbered
  constructor
  · intro h i hi
    have hget := congrArg (fun numbers => numbers[i]?) h
    simpa [hi] using hget
  · intro h
    apply List.ext_getElem
    · simp
    · intro i hi hi'
      simpa using h i (by simpa using hi)

theorem Numbered.append (h : Numbered number entries) {entry : α}
    (hentry : number entry = (entries.length : Int) + 1) : Numbered number (entries ++ [entry]) := by
  unfold Numbered at h ⊢
  rw [List.map_append, h, List.length_append, List.length_singleton, List.range_succ,
    List.map_append, List.map_singleton, List.map_singleton, hentry]

/-- Numbers grow along the log. -/
theorem Numbered.pairwise (h : Numbered number entries) :
    entries.Pairwise fun first second => number first < number second := by
  rw [List.pairwise_iff_getElem]
  intro i j hi hj hlt
  rw [numbered_iff.mp h i hi, numbered_iff.mp h j hj]
  omega

/-- The largest number and one: the number of the next entry. -/
theorem Numbered.next (h : Numbered number entries) :
    (entries.map number).max?.getD 0 + 1 = (entries.length : Int) + 1 := by
  rcases List.eq_nil_or_concat entries with rfl | ⟨earlier, last, rfl⟩
  · rfl
  · rw [List.concat_eq_append] at h ⊢
    have hlast : number last = ((earlier ++ [last]).length : Int) := by
      have hget := numbered_iff.mp h earlier.length (by simp)
      simpa using hget
    have hmax : ((earlier ++ [last]).map number).max? = some (number last) := by
      rw [List.max?_eq_some_iff]
      refine ⟨List.mem_map_of_mem (by simp), fun other hother => ?_⟩
      obtain ⟨entry, hentry, rfl⟩ := List.mem_map.mp hother
      obtain ⟨i, hi, rfl⟩ := List.getElem_of_mem hentry
      rw [numbered_iff.mp h i hi, hlast]
      omega
    rw [hmax, Option.getD_some, hlast]

/-- Sorted by number, the largest first, the log is read backwards. -/
theorem Numbered.newest_first (h : Numbered number entries) :
    entries.mergeSort (fun first second => decide (number second ≤ number first)) =
      entries.reverse := by
  have hsorted : (entries.mergeSort fun first second =>
      decide (number second ≤ number first)).Pairwise fun first second =>
        decide (number second ≤ number first) = true := by
    apply List.pairwise_mergeSort
    · intro first second third hle hle'
      rw [decide_eq_true_eq] at hle hle' ⊢
      omega
    · intro first second
      rw [Bool.or_eq_true, decide_eq_true_eq, decide_eq_true_eq]
      omega
  have hreversed : entries.reverse.Pairwise fun first second =>
      decide (number second ≤ number first) = true := by
    rw [List.pairwise_reverse]
    refine h.pairwise.imp fun hlt => ?_
    rw [decide_eq_true_eq]
    omega
  apply List.Perm.eq_of_pairwise _ hsorted hreversed
  · exact (List.mergeSort_perm _ _).trans entries.reverse_perm.symm
  · intro first second hfirst hsecond hle hge
    -- two entries with one number are one entry
    obtain ⟨i, hi, rfl⟩ := List.getElem_of_mem ((List.mergeSort_perm _ _).mem_iff.mp hfirst)
    obtain ⟨j, hj, rfl⟩ := List.getElem_of_mem (List.mem_reverse.mp hsecond)
    rw [decide_eq_true_eq, numbered_iff.mp h i hi, numbered_iff.mp h j hj] at hle hge
    have hsame : i = j := by omega
    subst hsame
    rfl

/-! ### Reading the end of a log -/

/-- A look-up that finds something for every entry, entry by entry. -/
theorem forall₂_filterMap {find : α → Option β} (h : ∀ entry ∈ entries, ∃ row, find entry = some row) :
    List.Forall₂ (fun entry row => find entry = some row) entries (entries.filterMap find) := by
  induction entries with
  | nil => exact List.Forall₂.nil
  | cons entry rest ih =>
      obtain ⟨row, hrow⟩ := h entry (List.mem_cons_self ..)
      rw [List.filterMap_cons_some hrow]
      exact List.Forall₂.cons hrow (ih fun other hother => h other (List.mem_cons_of_mem _ hother))

/-- The newest entries that a reader takes, put back into the order of the log. -/
theorem newest_reversed {find : α → Option β} (n : Nat) :
    ((entries.reverse.filterMap find).take n).reverse =
      (entries.filterMap find).drop ((entries.filterMap find).length - n) := by
  rw [List.filterMap_reverse, List.take_reverse, List.reverse_reverse]

end Numbering
end Foundation
end Ryuk

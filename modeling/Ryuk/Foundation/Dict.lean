import Mathlib.Tactic

/-!
# Dictionaries in insertion order

A dictionary as the list of its entries, in the order in which the keys were first set.
Setting a key that is there keeps its place.
-/

namespace Ryuk
namespace Foundation

/-- Entries with distinct keys. -/
structure Dict (κ ν : Type) where
  entries : List (κ × ν)
  distinct : (entries.map Prod.fst).Nodup

namespace Dict

variable {κ ν : Type} [DecidableEq κ]

/-- `{}`. -/
def empty : Dict κ ν := ⟨[], List.nodup_nil⟩

/-- `dict.get(key)`. -/
def get? (dict : Dict κ ν) (key : κ) : Option ν :=
  (dict.entries.find? fun entry => decide (entry.1 = key)).map Prod.snd

def keys (dict : Dict κ ν) : List κ := dict.entries.map Prod.fst

def values (dict : Dict κ ν) : List ν := dict.entries.map Prod.snd

/-- The entries after an assignment. -/
def assigned (key : κ) (value : ν) : List (κ × ν) → List (κ × ν)
  | [] => [(key, value)]
  | entry :: rest =>
      if entry.1 = key then (key, value) :: rest else entry :: assigned key value rest

theorem keys_assigned (key : κ) (value : ν) (entries : List (κ × ν)) :
    (assigned key value entries).map Prod.fst =
      if key ∈ entries.map Prod.fst then entries.map Prod.fst
      else entries.map Prod.fst ++ [key] := by
  induction entries with
  | nil => simp [assigned]
  | cons entry rest ih =>
      rw [assigned]
      by_cases hkey : entry.1 = key
      · simp [hkey]
      · rw [if_neg hkey, List.map_cons, ih, List.map_cons]
        by_cases hmem : key ∈ rest.map Prod.fst
        · rw [if_pos hmem, if_pos (List.mem_cons_of_mem _ hmem)]
        · have hnot : key ∉ entry.1 :: rest.map Prod.fst := by
            rw [List.mem_cons, not_or]
            exact ⟨Ne.symm hkey, hmem⟩
          rw [if_neg hmem, if_neg hnot, List.cons_append]

/-- `dict[key] = value`. -/
def set (dict : Dict κ ν) (key : κ) (value : ν) : Dict κ ν where
  entries := assigned key value dict.entries
  distinct := by
    rw [keys_assigned]
    split
    · exact dict.distinct
    · rename_i hmem
      rw [List.nodup_append]
      refine ⟨dict.distinct, List.nodup_singleton key, fun first hfirst second hsecond heq => ?_⟩
      rw [List.mem_singleton] at hsecond
      subst hsecond heq
      exact hmem hfirst

variable {dict : Dict κ ν} {key other : κ} {value : ν}

theorem find?_assigned (entries : List (κ × ν)) :
    (assigned key value entries).find? (fun entry => decide (entry.1 = other)) =
      if key = other then some (key, value)
      else entries.find? fun entry => decide (entry.1 = other) := by
  induction entries with
  | nil =>
      by_cases hkey : key = other
      · simp [assigned, hkey]
      · simp [assigned, hkey]
  | cons entry rest ih =>
      rw [assigned]
      by_cases hentry : entry.1 = key
      · rw [if_pos hentry]
        by_cases hkey : key = other
        · rw [if_pos hkey, List.find?_cons_of_pos (by simp [hkey])]
        · rw [if_neg hkey, List.find?_cons_of_neg (by simp [hkey]),
            List.find?_cons_of_neg (by simp [hentry, hkey])]
      · rw [if_neg hentry]
        by_cases hother : entry.1 = other
        · have hkey : key ≠ other := fun h => hentry (hother.trans h.symm)
          rw [if_neg hkey, List.find?_cons_of_pos (by simp [hother]),
            List.find?_cons_of_pos (by simp [hother])]
        · rw [List.find?_cons_of_neg (by simp [hother]), ih,
            List.find?_cons_of_neg (by simp [hother])]

@[simp] theorem get?_set_self : (dict.set key value).get? key = some value := by
  unfold get? set
  rw [find?_assigned, if_pos rfl]
  rfl

theorem get?_set_other (h : key ≠ other) : (dict.set key value).get? other = dict.get? other := by
  unfold get? set
  rw [find?_assigned, if_neg h]

theorem keys_set : (dict.set key value).keys =
    if key ∈ dict.keys then dict.keys else dict.keys ++ [key] :=
  keys_assigned key value dict.entries

theorem get?_isSome_iff : (dict.get? key).isSome = true ↔ key ∈ dict.keys := by
  unfold get? keys
  rw [Option.isSome_map, List.find?_isSome, List.mem_map]
  simp only [decide_eq_true_eq]

theorem get?_of_mem {entry : κ × ν} (h : entry ∈ dict.entries) :
    dict.get? entry.1 = some entry.2 := by
  have hsome : (dict.get? entry.1).isSome = true :=
    get?_isSome_iff.mpr (List.mem_map_of_mem h)
  unfold get? at hsome ⊢
  cases hfind : dict.entries.find? fun found => decide (found.1 = entry.1) with
  | none =>
      rw [hfind] at hsome
      cases hsome
  | some found =>
      have hkey : found.1 = entry.1 := by simpa using List.find?_some hfind
      have hsame : found = entry :=
        List.inj_on_of_nodup_map dict.distinct (List.mem_of_find?_eq_some hfind) h hkey
      rw [hsame]
      rfl

theorem mem_of_get? (h : dict.get? key = some value) : (key, value) ∈ dict.entries := by
  unfold get? at h
  obtain ⟨found, hfound, rfl⟩ := Option.map_eq_some_iff.mp h
  have hkey : found.1 = key := by simpa using List.find?_some hfound
  rw [← hkey]
  exact List.mem_of_find?_eq_some hfound

theorem get?_iff_mem : dict.get? key = some value ↔ (key, value) ∈ dict.entries :=
  ⟨mem_of_get?, fun h => get?_of_mem h⟩

/-- The entries after an assignment: the new one, and the old ones of the other keys. -/
theorem mem_set {entry : κ × ν} : entry ∈ (dict.set key value).entries ↔
    entry = (key, value) ∨ (entry.1 ≠ key ∧ entry ∈ dict.entries) := by
  obtain ⟨found, given⟩ := entry
  rw [← get?_iff_mem, ← get?_iff_mem]
  by_cases hkey : key = found
  · subst hkey
    rw [get?_set_self, Option.some.injEq]
    constructor
    · rintro rfl
      exact Or.inl rfl
    · rintro (h | ⟨h, -⟩)
      · exact (Prod.mk.inj h).2.symm
      · exact absurd rfl h
  · rw [get?_set_other hkey]
    constructor
    · exact fun h => Or.inr ⟨Ne.symm hkey, h⟩
    · rintro (h | ⟨-, h⟩)
      · exact absurd (Prod.mk.inj h).1.symm hkey
      · exact h

theorem assigned_of_not_mem {entries : List (κ × ν)} (h : key ∉ entries.map Prod.fst) :
    assigned key value entries = entries ++ [(key, value)] := by
  induction entries with
  | nil => rfl
  | cons entry rest ih =>
      rw [List.map_cons, List.mem_cons, not_or] at h
      rw [assigned, if_neg (Ne.symm h.1), ih h.2, List.cons_append]

/-- A fresh key is put last. -/
theorem entries_set_of_not_mem (h : key ∉ dict.keys) :
    (dict.set key value).entries = dict.entries ++ [(key, value)] :=
  assigned_of_not_mem h

end Dict
end Foundation
end Ryuk

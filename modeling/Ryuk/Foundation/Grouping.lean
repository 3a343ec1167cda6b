import Ryuk.Foundation.Dict

/-!
# Items in groups

Items collected under their keys: the group of a key is the items that have it, in
the order they came.
-/

namespace Ryuk
namespace Foundation

variable {α κ : Type} [DecidableEq κ] {key : α → κ}

/-- `groups.setdefault(key(item), []).append(item)` for one item. -/
def addToGroup (key : α → κ) (groups : Dict κ (List α)) (item : α) : Dict κ (List α) :=
  groups.set (key item) ((groups.get? (key item)).getD [] ++ [item])

/-- The groups of a list of items. -/
def groupBy (key : α → κ) (items : List α) : Dict κ (List α) :=
  items.foldl (addToGroup key) Dict.empty

theorem groupBy_append_singleton (items : List α) (item : α) :
    groupBy key (items ++ [item]) = addToGroup key (groupBy key items) item := by
  unfold groupBy
  rw [List.foldl_append]
  rfl

/-- **Lookup.** -/
theorem get?_groupBy (items : List α) (k : κ) :
    (groupBy key items).get? k =
      if k ∈ items.map key then some (items.filter fun item => decide (key item = k)) else none := by
  induction items using List.reverseRecOn with
  | nil => rfl
  | append_singleton items item ih =>
      rw [groupBy_append_singleton, List.map_append, List.filter_append, List.map_singleton]
      unfold addToGroup
      by_cases hkey : key item = k
      · subst hkey
        rw [Dict.get?_set_self, ih, if_pos (List.mem_append_right _ (List.mem_singleton_self _)),
          List.filter_singleton, decide_eq_true rfl]
        -- a key that is new has no items yet
        split_ifs with hmem
        · rfl
        · have hempty : items.filter (fun other => decide (key other = key item)) = [] := by
            rw [List.filter_eq_nil_iff]
            intro other hother hsame
            exact hmem (of_decide_eq_true hsame ▸ List.mem_map_of_mem hother)
          rw [hempty]
          rfl
      · rw [Dict.get?_set_other hkey, ih, List.filter_singleton, decide_eq_false hkey]
        have hmem : k ∈ items.map key ++ [key item] ↔ k ∈ items.map key := by
          rw [List.mem_append, List.mem_singleton]
          exact or_iff_left fun hsame => hkey hsame.symm
        simp only [hmem, cond_false, List.append_nil]

theorem exists_group {items : List α} {k : κ} (h : k ∈ items.map key) :
    (k, items.filter fun item => decide (key item = k)) ∈ (groupBy key items).entries := by
  apply Dict.mem_of_get?
  rw [get?_groupBy, if_pos h]

end Foundation
end Ryuk

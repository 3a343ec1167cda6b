import Ryuk.Foundation.Dict

/-!
# Counting by keys

A dictionary of counters: the counter of a key is how often it was counted, and all
counters together are how often anything was.  The items with a property are those of
each key, taken together.
-/

namespace Ryuk
namespace Foundation

variable {α κ : Type} [DecidableEq κ]

namespace Dict

/-- `counters[key] = counters.get(key, 0) + 1`. -/
def increment (counters : Dict κ Nat) (key : κ) : Dict κ Nat :=
  counters.set key ((counters.get? key).getD 0 + 1)

/-- What is counted under a key. -/
def counted (counters : Dict κ Nat) (key : κ) : Nat := (counters.get? key).getD 0

variable {counters : Dict κ Nat} {key other : κ}

theorem counted_increment :
    (counters.increment key).counted other =
      counters.counted other + if key = other then 1 else 0 := by
  unfold counted increment
  by_cases hkey : key = other
  · subst hkey
    rw [get?_set_self, if_pos rfl]
    rfl
  · rw [get?_set_other hkey, if_neg hkey, Nat.add_zero]

theorem sum_assigned {entries : List (κ × Nat)} (hdistinct : (entries.map Prod.fst).Nodup)
    (value : Nat) :
    ((assigned key value entries).map Prod.snd).sum +
        (((entries.find? fun entry => decide (entry.1 = key)).map Prod.snd).getD 0) =
      (entries.map Prod.snd).sum + value := by
  induction entries with
  | nil => simp [assigned]
  | cons entry rest ih =>
      rw [List.map_cons, List.nodup_cons] at hdistinct
      rw [assigned]
      by_cases hkey : entry.1 = key
      · rw [if_pos hkey, List.find?_cons_of_pos (by simp [hkey])]
        simp only [List.map_cons, List.sum_cons, Option.map_some, Option.getD_some]
        omega
      · rw [if_neg hkey, List.find?_cons_of_neg (by simp [hkey])]
        have hrest := ih hdistinct.2
        simp only [List.map_cons, List.sum_cons]
        omega

theorem sum_increment : (counters.increment key).values.sum = counters.values.sum + 1 := by
  have hsum := @sum_assigned _ _ key counters.entries counters.distinct
    ((counters.get? key).getD 0 + 1)
  show ((assigned key _ counters.entries).map Prod.snd).sum = (counters.entries.map Prod.snd).sum + 1
  have hold : (((counters.entries.find? fun entry => decide (entry.1 = key)).map Prod.snd).getD 0) =
      (counters.get? key).getD 0 := rfl
  omega

end Dict

/-! ### Items by key -/

theorem sum_indicator {keys : List κ} (hdistinct : keys.Nodup) {key : κ} (hkey : key ∈ keys) :
    (keys.map fun other => if key = other then 1 else 0).sum = 1 := by
  induction keys with
  | nil => cases hkey
  | cons first rest ih =>
      rw [List.nodup_cons] at hdistinct
      rw [List.map_cons, List.sum_cons]
      by_cases hfirst : key = first
      · subst hfirst
        have hothers : (rest.map fun other => if key = other then 1 else 0).sum = 0 := by
          apply List.sum_eq_zero
          intro value hvalue
          obtain ⟨other, hother, rfl⟩ := List.mem_map.mp hvalue
          have hne : key ≠ other := fun hsame => hdistinct.1 (hsame ▸ hother)
          exact if_neg hne
        rw [if_pos rfl, hothers]
      · rw [if_neg hfirst, ih hdistinct.2 ((List.mem_cons.mp hkey).resolve_left hfirst)]

/-- **Partition.**  What is counted in a list is counted in its groups. -/
theorem countP_eq_sum {keys : List κ} (hdistinct : keys.Nodup) {key : α → κ} {items : List α}
    (hkeys : ∀ item ∈ items, key item ∈ keys) (test : α → Bool) :
    items.countP test =
      (keys.map fun k => (items.filter fun item => decide (key item = k)).countP test).sum := by
  induction items with
  | nil => simp
  | cons item rest ih =>
      have hrest := ih fun other hother => hkeys other (List.mem_cons_of_mem _ hother)
      -- the first item is counted in one group, if at all
      have hstep : ∀ k, ((item :: rest).filter fun item => decide (key item = k)).countP test =
          (rest.filter fun item => decide (key item = k)).countP test +
            (if key item = k then 1 else 0) * (if test item then 1 else 0) := by
        intro k
        by_cases hkey : key item = k
        · rw [List.filter_cons_of_pos (by simp [hkey]), List.countP_cons, if_pos hkey, one_mul]
        · rw [List.filter_cons_of_neg (by simp [hkey]), if_neg hkey, zero_mul, Nat.add_zero]
      simp only [hstep]
      rw [List.sum_map_add, ← hrest, List.countP_cons, List.sum_map_mul_right,
        sum_indicator hdistinct (hkeys item List.mem_cons_self), one_mul]

end Foundation
end Ryuk

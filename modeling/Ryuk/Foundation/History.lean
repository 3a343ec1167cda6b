import Mathlib.Tactic

/-!
# Histories of assignments

A log of assignments to named cells, replayed one entry at a time.  `Justified`
says that every entry of a log is allowed by what was replayed before it; the
rules take a justified log apart and put justified logs together.
-/

namespace Ryuk
namespace Foundation
namespace History

variable {ι α : Type} [DecidableEq ι]

/-- The cells after an assignment. -/
def assign (cells : ι → Option α) (entry : ι × α) : ι → Option α :=
  Function.update cells entry.1 (some entry.2)

/-- The cells after a log, oldest entry first. -/
def replay (cells : ι → Option α) (log : List (ι × α)) : ι → Option α := log.foldl assign cells

@[simp] theorem replay_nil (cells : ι → Option α) : replay cells [] = cells := rfl

@[simp] theorem replay_cons (cells : ι → Option α) (entry : ι × α) (log : List (ι × α)) :
    replay cells (entry :: log) = replay (assign cells entry) log := rfl

theorem replay_append (cells : ι → Option α) (first second : List (ι × α)) :
    replay cells (first ++ second) = replay (replay cells first) second :=
  List.foldl_append ..

theorem assign_self (cells : ι → Option α) (name : ι) (value : α) :
    assign cells (name, value) name = some value :=
  Function.update_self ..

theorem assign_other {name other : ι} (h : other ≠ name) (cells : ι → Option α) (value : α) :
    assign cells (name, value) other = cells other :=
  Function.update_of_ne h ..

/-- A cell that a log does not name keeps its value. -/
theorem replay_of_not_mem {name : ι} {log : List (ι × α)} (h : name ∉ log.map Prod.fst)
    (cells : ι → Option α) : replay cells log name = cells name := by
  induction log generalizing cells with
  | nil => rfl
  | cons entry rest ih =>
      rw [List.map_cons, List.mem_cons, not_or] at h
      rw [replay_cons, ih h.2]
      exact assign_other h.1 cells entry.2

/-- A log that names every cell at most once leaves what it says. -/
theorem replay_of_mem {log : List (ι × α)} (hnodup : (log.map Prod.fst).Nodup) {name : ι}
    {value : α} (h : (name, value) ∈ log) (cells : ι → Option α) :
    replay cells log name = some value := by
  induction log generalizing cells with
  | nil => cases h
  | cons entry rest ih =>
      rw [List.map_cons, List.nodup_cons] at hnodup
      rw [replay_cons]
      rcases List.mem_cons.mp h with rfl | hrest
      · rw [replay_of_not_mem hnodup.1, assign_self]
      · exact ih hnodup.2 hrest _

/-! ### Justified logs -/

variable (allows : (ι → Option α) → ι × α → Prop)

/-- Every entry is allowed by the cells it is written into. -/
def Justified (cells : ι → Option α) : List (ι × α) → Prop
  | [] => True
  | entry :: rest => allows cells entry ∧ Justified (assign cells entry) rest

variable {allows} {cells : ι → Option α}

theorem justified_append {first second : List (ι × α)} :
    Justified allows cells (first ++ second) ↔
      Justified allows cells first ∧ Justified allows (replay cells first) second := by
  induction first generalizing cells with
  | nil => simp [Justified]
  | cons entry rest ih =>
      rw [List.cons_append, Justified, Justified, replay_cons, ih, and_assoc]

/-- The entries of a justified log are the ones every prefix allows. -/
theorem justified_iff {log : List (ι × α)} :
    Justified allows cells log ↔ ∀ before entry later, log = before ++ entry :: later →
      allows (replay cells before) entry := by
  constructor
  · rintro h before entry later rfl
    exact (justified_append.mp h).2.1
  · intro h
    induction log generalizing cells with
    | nil => trivial
    | cons entry rest ih =>
        refine ⟨h [] entry rest rfl, ih fun before other later hsplit => ?_⟩
        exact h (entry :: before) other later (by rw [hsplit, List.cons_append])

end History
end Foundation
end Ryuk

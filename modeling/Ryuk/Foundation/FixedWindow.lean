import Mathlib.Algebra.Order.Group.Defs
import Mathlib.Algebra.BigOperators.Group.List.Basic
import Mathlib.Tactic

/-!
# Fixed windows

A counter that starts again after each window of a fixed length bounds what it
grants in one window.  A window need not start where the last one ended: the next
one may start at any later time.  Any interval as long as a window meets at most
two of them, so it holds at most twice the bound; `Windowed` carries this along a
history, one grant or one new window at a time.
-/

namespace Ryuk
namespace Foundation
namespace FixedWindow

variable {τ : Type} [LinearOrder τ]

/-- What was granted in a half-open interval.  An entry of the log is a time with
the amount granted then. -/
def spent (log : List (τ × Int)) (start stop : τ) : Int :=
  ((log.filter fun entry => decide (start ≤ entry.1 ∧ entry.1 < stop)).map Prod.snd).sum

variable {log : List (τ × Int)} {start middle stop : τ}

@[simp] theorem spent_nil : spent [] start stop = 0 := rfl

theorem spent_append (earlier later : List (τ × Int)) :
    spent (earlier ++ later) start stop = spent earlier start stop + spent later start stop := by
  unfold spent
  rw [List.filter_append, List.map_append, List.sum_append]

theorem spent_cons (entry : τ × Int) :
    spent (entry :: log) start stop =
      (if start ≤ entry.1 ∧ entry.1 < stop then entry.2 else 0) + spent log start stop := by
  unfold spent
  by_cases hin : start ≤ entry.1 ∧ entry.1 < stop
  · rw [List.filter_cons_of_pos (by simpa using hin), if_pos hin, List.map_cons, List.sum_cons]
  · rw [List.filter_cons_of_neg (by simpa using hin), if_neg hin, Int.zero_add]

theorem spent_concat (entry : τ × Int) :
    spent (log ++ [entry]) start stop =
      spent log start stop + (if start ≤ entry.1 ∧ entry.1 < stop then entry.2 else 0) := by
  rw [spent_append, spent_cons, spent_nil, Int.add_zero]

theorem spent_nonneg (hlog : ∀ entry ∈ log, 0 ≤ entry.2) : 0 ≤ spent log start stop := by
  apply List.sum_nonneg
  intro amount hamount
  obtain ⟨entry, hentry, rfl⟩ := List.mem_map.mp hamount
  exact hlog entry (List.mem_of_mem_filter hentry)

/-- An interval without entries. -/
theorem spent_eq_zero (h : ∀ entry ∈ log, start ≤ entry.1 → stop ≤ entry.1) :
    spent log start stop = 0 := by
  induction log with
  | nil => rfl
  | cons entry rest ih =>
      have hout : ¬ (start ≤ entry.1 ∧ entry.1 < stop) := fun hin =>
        absurd hin.2 (not_lt_of_ge (h entry List.mem_cons_self hin.1))
      rw [spent_cons, if_neg hout, ih fun other hother => h other (List.mem_cons_of_mem _ hother)]
      rfl

/-- An interval in two parts. -/
theorem spent_split (hstart : start ≤ middle) (hstop : middle ≤ stop) :
    spent log start stop = spent log start middle + spent log middle stop := by
  induction log with
  | nil => rfl
  | cons entry rest ih =>
      rw [spent_cons, spent_cons, spent_cons, ih]
      -- the entry lies in one of the parts, or in neither
      rcases lt_or_ge entry.1 middle with hbefore | hafter
      · have hleft : (start ≤ entry.1 ∧ entry.1 < stop) ↔
            (start ≤ entry.1 ∧ entry.1 < middle) :=
          ⟨fun hin => ⟨hin.1, hbefore⟩, fun hin => ⟨hin.1, hbefore.trans_le hstop⟩⟩
        have hright : ¬ (middle ≤ entry.1 ∧ entry.1 < stop) := fun hin =>
          absurd hin.1 (not_le_of_gt hbefore)
        rw [if_neg hright, if_congr hleft rfl rfl]
        omega
      · have hleft : ¬ (start ≤ entry.1 ∧ entry.1 < middle) := fun hin =>
          absurd hin.2 (not_lt_of_ge hafter)
        have hright : (start ≤ entry.1 ∧ entry.1 < stop) ↔
            (middle ≤ entry.1 ∧ entry.1 < stop) :=
          ⟨fun hin => ⟨hafter, hin.2⟩, fun hin => ⟨hstart.trans hafter, hin.2⟩⟩
        rw [if_neg hleft, if_congr hright rfl rfl]
        omega

/-- An interval whose entries all lie in another one. -/
theorem spent_le {start' stop' : τ} (hlog : ∀ entry ∈ log, 0 ≤ entry.2)
    (h : ∀ entry ∈ log, start ≤ entry.1 → entry.1 < stop → start' ≤ entry.1 ∧ entry.1 < stop') :
    spent log start stop ≤ spent log start' stop' := by
  induction log with
  | nil => exact Int.le_refl 0
  | cons entry rest ih =>
      have hrest := ih (fun other hother => hlog other (List.mem_cons_of_mem _ hother))
        fun other hother => h other (List.mem_cons_of_mem _ hother)
      have hamount := hlog entry List.mem_cons_self
      rw [spent_cons, spent_cons]
      by_cases hin : start ≤ entry.1 ∧ entry.1 < stop
      · rw [if_pos hin, if_pos (h entry List.mem_cons_self hin.1 hin.2)]
        omega
      · rw [if_neg hin]
        split_ifs <;> omega

section Windows

variable [AddCommGroup τ] {length started now : τ} {cap count amount : Int}

/-- The current window started at `started` and has granted `count`, no more than
`cap`; nor did the window before it, and no interval as long as a window holds more
than twice as much. -/
structure Windowed (length : τ) (cap : Int) (started : τ) (count : Int)
    (log : List (τ × Int)) : Prop where
  positive : 0 < length
  amounts : ∀ entry ∈ log, 0 ≤ entry.2
  inside : ∀ entry ∈ log, entry.1 < started + length
  current : spent log started (started + length) = count
  within : count ≤ cap
  previous : ∀ start, started < start + length → start ≤ started → spent log start started ≤ cap
  sliding : ∀ start, spent log start (start + length) ≤ 2 * cap

namespace Windowed

/-- Nothing was granted yet. -/
theorem nil (hlength : 0 < length) (hcap : 0 ≤ cap) (started : τ) :
    Windowed length cap started 0 [] := by
  refine ⟨hlength, ?_, ?_, rfl, hcap, fun _ _ _ => hcap, fun start => ?_⟩
  · intro entry hentry
    cases hentry
  · intro entry hentry
    cases hentry
  · show (0 : Int) ≤ 2 * cap
    omega

theorem count_nonneg (h : Windowed length cap started count log) : 0 ≤ count := by
  rw [← h.current]
  exact spent_nonneg h.amounts

/-- A new window may start as soon as the current one is over. -/
theorem restart [IsOrderedAddMonoid τ] (h : Windowed length cap started count log) (hover : started + length ≤ now) :
    Windowed length cap now 0 log := by
  have hcap : 0 ≤ cap := h.count_nonneg.trans h.within
  have hbefore : ∀ entry ∈ log, entry.1 < now := fun entry hentry =>
    (h.inside entry hentry).trans_le hover
  refine ⟨h.positive, h.amounts, fun entry hentry => ?_, ?_, hcap, ?_, h.sliding⟩
  · exact (hbefore entry hentry).trans (lt_add_of_pos_right now h.positive)
  · apply spent_eq_zero
    intro entry hentry hlate
    exact absurd hlate (not_le_of_gt (hbefore entry hentry))
  · -- what reaches less than a window back from `now` lies in the window that is over
    intro start hrecent hstart
    have hinside : started ≤ start := by
      have := hover.trans_lt hrecent
      exact (lt_of_add_lt_add_right this).le
    have hnone : spent log (started + length) now = 0 := by
      apply spent_eq_zero
      intro entry hentry hlate
      exact absurd hlate (not_le_of_gt (h.inside entry hentry))
    have hlong : started ≤ started + length := (lt_add_of_pos_right started h.positive).le
    calc spent log start now ≤ spent log started now := spent_le h.amounts fun entry _ hstart hstop => ⟨hinside.trans hstart, hstop⟩
      _ = spent log started (started + length) + spent log (started + length) now :=
          spent_split hlong hover
      _ = count := by
          rw [h.current, hnone, Int.add_zero]
      _ ≤ cap := h.within

/-- After the first window the next one may start early, if all grants came before. -/
theorem restart_first [IsOrderedAddMonoid τ] (h : Windowed length cap started count log)
    (hfirst : ∀ entry ∈ log, started ≤ entry.1) (hbefore : ∀ entry ∈ log, entry.1 < now) :
    Windowed length cap now 0 log := by
  have hcap : 0 ≤ cap := h.count_nonneg.trans h.within
  refine ⟨h.positive, h.amounts, fun entry hentry => ?_, ?_, hcap, ?_, h.sliding⟩
  · exact (hbefore entry hentry).trans (lt_add_of_pos_right now h.positive)
  · apply spent_eq_zero
    intro entry hentry hlate
    exact absurd hlate (not_le_of_gt (hbefore entry hentry))
  · -- all that was granted lies in the one window
    intro start _ _
    calc spent log start now ≤ spent log started (started + length) :=
          spent_le h.amounts fun entry hentry _ _ => ⟨hfirst entry hentry, h.inside entry hentry⟩
      _ = count := h.current
      _ ≤ cap := h.within

/-- A grant in the current window, within its bound. -/
theorem grant (h : Windowed length cap started count log) (hstarted : started ≤ now)
    (hnow : now < started + length) (hamount : 0 ≤ amount) (hcap : count + amount ≤ cap) :
    Windowed length cap started (count + amount) (log ++ [(now, amount)]) := by
  have hamounts : ∀ entry ∈ log ++ [(now, amount)], 0 ≤ entry.2 := by
    intro entry hentry
    rcases List.mem_append.mp hentry with hold | hlast
    · exact h.amounts entry hold
    · rw [List.mem_singleton.mp hlast]
      exact hamount
  have hcurrent : spent (log ++ [(now, amount)]) started (started + length) = count + amount := by
    rw [spent_concat, if_pos ⟨hstarted, hnow⟩, h.current]
  have hprevious : ∀ start, started < start + length → start ≤ started →
      spent (log ++ [(now, amount)]) start started ≤ cap := by
    intro start hrecent hstart
    rw [spent_concat, if_neg fun hin => absurd hin.2 (not_lt_of_ge hstarted), Int.add_zero]
    exact h.previous start hrecent hstart
  have hinside : ∀ entry ∈ log ++ [(now, amount)], entry.1 < started + length := by
    intro entry hentry
    rcases List.mem_append.mp hentry with hold | hlast
    · exact h.inside entry hold
    · rw [List.mem_singleton.mp hlast]
      exact hnow
  refine ⟨h.positive, hamounts, hinside, hcurrent, hcap, hprevious, fun start => ?_⟩
  · rcases le_or_gt (start + length) started with hold | hmeets
    · -- the interval ends before the current window
      rw [spent_concat, if_neg fun hin => absurd (hin.2.trans_le hold) (not_lt_of_ge hstarted),
        Int.add_zero]
      exact h.sliding start
    · -- the interval meets the current window, and at most the one before it
      have hshort : ∀ first, started ≤ first →
          spent (log ++ [(now, amount)]) first (start + length) ≤ cap := by
        intro first hfirst
        have hle : spent (log ++ [(now, amount)]) first (start + length) ≤
            spent (log ++ [(now, amount)]) started (started + length) :=
          spent_le hamounts fun entry hentry hlate _ =>
            ⟨hfirst.trans hlate, hinside entry hentry⟩
        omega
      rcases le_total start started with hstart | hstart
      · rw [spent_split hstart hmeets.le]
        have hleft := hprevious start hmeets hstart
        have hright := hshort started le_rfl
        omega
      · have := hshort start hstart
        have hpositive := h.count_nonneg.trans h.within
        omega

end Windowed

end Windows

end FixedWindow
end Foundation
end Ryuk

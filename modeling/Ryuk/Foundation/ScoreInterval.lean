import Mathlib.Analysis.Real.Sqrt
import Mathlib.Tactic

/-!
# The score interval of a proportion

The bounds of the score interval around a proportion `p` are the solutions `x` of
`(x - p) ^ 2 = a * x * (1 - x)`, where `a` is the squared quantile over the number of
trials.  They enclose the proportion, stay between zero and one, mirror each other
under `p ↦ 1 - p`, and grow with the proportion.
-/

namespace Ryuk
namespace Foundation
namespace ScoreInterval

-- one fact behind every numeral of the definitions over the reals
scoped instance atLeastTwo_two : Nat.AtLeastTwo 2 := ⟨le_rfl⟩

scoped instance atLeastTwo_four : Nat.AtLeastTwo 4 := ⟨by omega⟩

/-- Half the distance of the two solutions, before it is scaled. -/
noncomputable def spread (a p : ℝ) : ℝ := Real.sqrt (a * (p * (1 - p)) + a ^ 2 / 4)

noncomputable def lower (a p : ℝ) : ℝ := (p + a / 2 - spread a p) / (1 + a)

noncomputable def upper (a p : ℝ) : ℝ := (p + a / 2 + spread a p) / (1 + a)

section Bounds

variable {a p q : ℝ}

theorem variance_nonneg (hp : 0 ≤ p) (hp' : p ≤ 1) : 0 ≤ p * (1 - p) :=
  mul_nonneg hp (sub_nonneg.mpr hp')

theorem radicand_nonneg (ha : 0 < a) (hp : 0 ≤ p) (hp' : p ≤ 1) :
    0 ≤ a * (p * (1 - p)) + a ^ 2 / 4 := by
  have hvariance := variance_nonneg hp hp'
  positivity

theorem spread_nonneg (a p : ℝ) : 0 ≤ spread a p := Real.sqrt_nonneg _

theorem sq_spread (ha : 0 < a) (hp : 0 ≤ p) (hp' : p ≤ 1) :
    spread a p ^ 2 = a * (p * (1 - p)) + a ^ 2 / 4 :=
  Real.sq_sqrt (radicand_nonneg ha hp hp')

theorem spread_mirror (a p : ℝ) : spread a (1 - p) = spread a p := by
  unfold spread
  congr 1
  ring

/-- The upper bound is the lower bound of the failures. -/
theorem upper_mirror (ha : 0 < a) (p : ℝ) : upper a p = 1 - lower a (1 - p) := by
  unfold upper lower
  rw [spread_mirror]
  field_simp
  ring

/-- The solutions lie on the two sides of the proportion: their centre is pulled
towards one half by less than their spread. -/
theorem pull_le_spread (ha : 0 < a) (hp : 0 ≤ p) (hp' : p ≤ 1) :
    a * (1 / 2 - p) ≤ spread a p := by
  apply Real.le_sqrt_of_sq_le
  have hvariance := mul_nonneg ha.le (variance_nonneg hp hp')
  have hscaled := mul_nonneg ha.le hvariance
  nlinarith

theorem lower_le (ha : 0 < a) (hp : 0 ≤ p) (hp' : p ≤ 1) : lower a p ≤ p := by
  have hpull := pull_le_spread ha hp hp'
  unfold lower
  rw [div_le_iff₀ (by linarith)]
  linarith

theorem lower_nonneg (ha : 0 < a) (hp : 0 ≤ p) : 0 ≤ lower a p := by
  have hspread : spread a p ≤ p + a / 2 := by
    apply Real.sqrt_le_iff.mpr
    constructor
    · linarith
    · -- the two squares differ by the square of the proportion, and its multiple
      have hsquare := mul_nonneg ha.le (mul_self_nonneg p)
      nlinarith [mul_self_nonneg p]
  unfold lower
  apply div_nonneg
  · linarith
  · linarith

theorem le_upper (ha : 0 < a) (hp : 0 ≤ p) (hp' : p ≤ 1) : p ≤ upper a p := by
  have hlower := @lower_le a (1 - p) ha (by linarith) (by linarith)
  rw [upper_mirror ha]
  linarith

/-- The spread grows by less than the proportion does. -/
theorem spread_le_add (ha : 0 < a) (hp : 0 ≤ p) (hpq : p ≤ q) (hq : q ≤ 1) :
    spread a q ≤ spread a p + (q - p) := by
  have hnonneg := spread_nonneg a p
  apply Real.sqrt_le_iff.mpr
  constructor
  · linarith
  · have hsquare := sq_spread ha hp (hpq.trans hq)
    have hpull := pull_le_spread ha hp (hpq.trans hq)
    -- the radicands differ by `a * (q - p) * (1 - p - q)`
    have hproduct : (q - p) * (a * (1 / 2 - p)) ≤ (q - p) * spread a p :=
      mul_le_mul_of_nonneg_left hpull (sub_nonneg.mpr hpq)
    have hgap := mul_nonneg ha.le (mul_self_nonneg (q - p))
    nlinarith [mul_self_nonneg (q - p)]

/-- **Monotonicity.**  More successes never lower the bound. -/
theorem lower_mono (ha : 0 < a) (hp : 0 ≤ p) (hpq : p ≤ q) (hq : q ≤ 1) :
    lower a p ≤ lower a q := by
  have hspread := spread_le_add ha hp hpq hq
  unfold lower
  apply div_le_div_of_nonneg_right
  · linarith
  · linarith

end Bounds

end ScoreInterval
end Foundation
end Ryuk

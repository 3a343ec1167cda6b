import Ryuk.Foundation.ScoreInterval

/-!
# Statistical gates

The interval for the difference of two paired proportions, in exact real arithmetic.
Division and square root raise where Python's do, so that an interval that is
returned has met no zero divisor and no negative radicand.
-/

namespace Ryuk
namespace Evaluation

open Foundation
open scoped Foundation.ScoreInterval

/-! ### Arithmetic that raises -/

inductive CalcError where
  | valueError (message : String)
  | zeroDivisionError
  | mathDomainError
  deriving DecidableEq

/-- `x / y`. -/
noncomputable def divide (x y : ℝ) : Except CalcError ℝ :=
  if y = 0 then .error .zeroDivisionError else .ok (x / y)

/-- `math.sqrt(x)`. -/
noncomputable def squareRoot (x : ℝ) : Except CalcError ℝ :=
  if x < 0 then .error .mathDomainError else .ok (Real.sqrt x)

theorem divide_ok {x y : ℝ} (hy : y ≠ 0) : divide x y = .ok (x / y) := if_neg hy

theorem squareRoot_ok {x : ℝ} (hx : 0 ≤ x) : squareRoot x = .ok (Real.sqrt x) :=
  if_neg (not_lt.mpr hx)

theorem ok_bind {ε α β : Type} (value : α) (next : α → Except ε β) :
    ((Except.ok value : Except ε α) >>= next) = next value := rfl

/-! ### The interval of one proportion -/

/-- `_wilson_bounds`. -/
noncomputable def wilsonBounds (z : ℝ) (successes total : Int) : Except CalcError (ℝ × ℝ) := do
  let proportion ← divide successes total
  let ratio ← divide (z * z) total
  let denominator := 1 + ratio
  let half ← divide (z * z) (2 * total)
  let center ← divide (proportion + half) denominator
  let variance ← divide (proportion * (1 - proportion)) total
  let correction ← divide (z * z) (4 * total * total)
  let root ← squareRoot (variance + correction)
  let radius := z * root
  let offset ← divide radius denominator
  pure (center - offset, center + offset)

/-- The bounds are those of the score interval at the squared quantile per trial. -/
theorem wilsonBounds_ok {z : ℝ} (hz : 0 < z) {successes total : Int} (hsuccesses : 0 ≤ successes)
    (hle : successes ≤ total) (htotal : 1 ≤ total) :
    wilsonBounds z successes total =
      .ok (ScoreInterval.lower (z * z / total) (successes / total),
        ScoreInterval.upper (z * z / total) (successes / total)) := by
  have hn : (0 : ℝ) < total := by
    have hcast : (1 : ℝ) ≤ total := by exact_mod_cast htotal
    linarith
  have hs : (0 : ℝ) ≤ successes := by exact_mod_cast hsuccesses
  have hs' : (successes : ℝ) ≤ total := by exact_mod_cast hle
  have hp : (0 : ℝ) ≤ (successes : ℝ) / total := by positivity
  have hp' : (successes : ℝ) / total ≤ 1 := (div_le_one hn).mpr hs'
  have hratio : 0 < z * z / (total : ℝ) := by positivity
  have hradicand : (0 : ℝ) ≤ (successes : ℝ) / total * (1 - (successes : ℝ) / total) / total +
      z * z / (4 * total * total) := by
    have hvariance := ScoreInterval.variance_nonneg hp hp'
    positivity
  -- the radius is the spread: the quantile goes under the root
  have hspread : z * Real.sqrt ((successes : ℝ) / total * (1 - (successes : ℝ) / total) / total +
      z * z / (4 * total * total)) =
        ScoreInterval.spread (z * z / total) ((successes : ℝ) / total) := by
    unfold ScoreInterval.spread
    rw [← Real.sqrt_sq hz.le, ← Real.sqrt_mul (sq_nonneg _), Real.sqrt_sq hz.le]
    congr 1
    field_simp
  have hhalf : z * z / (2 * (total : ℝ)) = z * z / total / 2 := by
    field_simp
  unfold wilsonBounds
  rw [divide_ok hn.ne', ok_bind, divide_ok hn.ne', ok_bind]
  dsimp only
  rw [divide_ok (by positivity), ok_bind, divide_ok (by positivity), ok_bind, divide_ok hn.ne',
    ok_bind, divide_ok (by positivity), ok_bind, squareRoot_ok hradicand, ok_bind, hspread,
    divide_ok (by positivity), ok_bind, hhalf]
  unfold ScoreInterval.lower ScoreInterval.upper
  rw [← sub_div, ← add_div]
  rfl

/-! ### The interval of a difference -/

/-- `PairedInterval`. -/
structure PairedInterval where
  bothPass : Int
  allocationOnly : Int
  baselineOnly : Int
  bothFail : Int
  total : Int
  difference : ℝ
  confidenceLevel : ℝ
  lower : ℝ
  upper : ℝ
  method : String

/-- `_count`. -/
def count (value : Int) (name : String) : Except CalcError Int :=
  if value < 0 then .error (.valueError s!"{name} must be a nonnegative integer") else .ok value

/-- The estimate of the correlation, adjusted for continuity where it is positive. -/
noncomputable def correlation (e f g h : Int) : Except CalcError ℝ := do
  let denominator ← squareRoot (((e + f) * (g + h) * (e + g) * (f + h) : Int) : ℝ)
  let rawNumerator : Int := e * h - f * g
  if denominator = 0 then pure 0
  else if 0 < rawNumerator then do
    let half ← divide ((e + f + g + h : Int) : ℝ) 2
    divide (max ((rawNumerator : ℝ) - half) 0) denominator
  else divide rawNumerator denominator

/-- How far a bound of the difference is from it. -/
noncomputable def distance (correlation first second : ℝ) : Except CalcError ℝ :=
  squareRoot (first ^ 2 - 2 * correlation * first * second + second ^ 2)

/-- `newcombe_paired_interval`, over the inverse of the normal distribution. -/
noncomputable def newcombePairedInterval (invCdf : ℝ → ℝ)
    (bothPass allocationOnly baselineOnly bothFail : Int) (confidenceLevel : ℝ) :
    Except CalcError PairedInterval := do
  let e ← count bothPass "both_pass"
  let f ← count allocationOnly "allocation_only"
  let g ← count baselineOnly "baseline_only"
  let h ← count bothFail "both_fail"
  if ¬ (0 < confidenceLevel ∧ confidenceLevel < 1) then
    .error (.valueError "confidence_level must be a float between zero and one")
  else
  let total := e + f + g + h
  if total = 0 then .error (.valueError "at least one pair is required")
  else
  let allocationRate ← divide ((e + f : Int) : ℝ) total
  let baselineRate ← divide ((e + g : Int) : ℝ) total
  let difference := allocationRate - baselineRate
  let z := invCdf (0.5 + confidenceLevel / 2)
  let (allocationLower, allocationUpper) ← wilsonBounds z (e + f) total
  let (baselineLower, baselineUpper) ← wilsonBounds z (e + g) total
  let correlation ← correlation e f g h
  let allocationLowerGap := allocationRate - allocationLower
  let allocationUpperGap := allocationUpper - allocationRate
  let baselineLowerGap := baselineRate - baselineLower
  let baselineUpperGap := baselineUpper - baselineRate
  let lowerDistance ← distance correlation allocationLowerGap baselineUpperGap
  let upperDistance ← distance correlation allocationUpperGap baselineLowerGap
  pure {
    bothPass := e
    allocationOnly := f
    baselineOnly := g
    bothFail := h
    total := total
    difference := difference
    confidenceLevel := confidenceLevel
    lower := max (-1) (difference - lowerDistance)
    upper := min 1 (difference + upperDistance)
    method := "Newcombe method 10 score interval for paired proportions" }

/-! ### The domain of the roots -/

/-- The determinant of a table is at most the root of the product of its margins. -/
theorem determinant_sq_le {e f g h : ℝ} (he : 0 ≤ e) (hf : 0 ≤ f) (hg : 0 ≤ g) (hh : 0 ≤ h) :
    (e * h - f * g) ^ 2 ≤ (e + f) * (g + h) * (e + g) * (f + h) := by
  have hdiagonal : 0 ≤ e * h * (f * g) := by positivity
  have hrows : 0 ≤ (e * h + f * g) * (e * g + f * h + e * f + g * h) := by positivity
  have hcross : 0 ≤ (e * g + f * h) * (e * f + g * h) := by positivity
  -- both factors are the sum of the two diagonals and two more products
  have hfactors : (e + f) * (g + h) * (e + g) * (f + h) =
      (e * h + f * g) ^ 2 + (e * h + f * g) * (e * g + f * h + e * f + g * h) +
        (e * g + f * h) * (e * f + g * h) := by
    ring
  rw [hfactors]
  nlinarith

/-- The correlation term lies between minus one and one, whatever margins are empty. -/
theorem correlation_ok {e f g h : Int} (he : 0 ≤ e) (hf : 0 ≤ f) (hg : 0 ≤ g) (hh : 0 ≤ h) :
    ∃ value, correlation e f g h = .ok value ∧ -1 ≤ value ∧ value ≤ 1 := by
  have hproduct : (0 : ℝ) ≤ (((e + f) * (g + h) * (e + g) * (f + h) : Int) : ℝ) := by
    exact_mod_cast (by positivity : 0 ≤ (e + f) * (g + h) * (e + g) * (f + h))
  have hraw : |(((e * h - f * g : Int)) : ℝ)| ≤
      Real.sqrt (((e + f) * (g + h) * (e + g) * (f + h) : Int) : ℝ) := by
    apply Real.abs_le_sqrt
    push_cast
    apply determinant_sq_le
    · exact_mod_cast he
    · exact_mod_cast hf
    · exact_mod_cast hg
    · exact_mod_cast hh
  unfold correlation
  rw [squareRoot_ok hproduct, ok_bind]
  dsimp only
  generalize hdenominator : Real.sqrt (((e + f) * (g + h) * (e + g) * (f + h) : Int) : ℝ) = d at hraw
  have hd : 0 ≤ d := by
    rw [← hdenominator]
    exact Real.sqrt_nonneg _
  obtain ⟨hbelow, habove⟩ := abs_le.mp hraw
  split_ifs with hzero hpositive
  · exact ⟨0, rfl, by norm_num, by norm_num⟩
  · have hpos : 0 < d := lt_of_le_of_ne hd (Ne.symm hzero)
    have htotal : (0 : ℝ) ≤ ((e + f + g + h : Int) : ℝ) / 2 := by
      have hsum : (0 : ℝ) ≤ ((e + f + g + h : Int) : ℝ) := by exact_mod_cast (by positivity)
      positivity
    have hnumerator : (0 : ℝ) < ((e * h - f * g : Int) : ℝ) := by exact_mod_cast hpositive
    rw [divide_ok (by norm_num), ok_bind, divide_ok hzero]
    -- the adjustment only lowers the numerator, and not below zero
    have hadjusted : max ((((e * h - f * g : Int)) : ℝ) - ((e + f + g + h : Int) : ℝ) / 2) 0 ≤ d := by
      apply max_le
      · linarith
      · exact hd
    refine ⟨_, rfl, ?_, ?_⟩
    · have hnonneg : 0 ≤ max ((((e * h - f * g : Int)) : ℝ) -
          ((e + f + g + h : Int) : ℝ) / 2) 0 / d := div_nonneg (le_max_right _ _) hd
      linarith
    · exact (div_le_one hpos).mpr hadjusted
  · have hpos : 0 < d := lt_of_le_of_ne hd (Ne.symm hzero)
    rw [divide_ok hzero]
    refine ⟨_, rfl, ?_, ?_⟩
    · rw [le_div_iff₀ hpos]
      linarith
    · exact (div_le_one hpos).mpr habove

/-- The correlation does not tell the two arms apart. -/
theorem correlation_swap (e f g h : Int) : correlation e g f h = correlation e f g h := by
  unfold correlation
  have hproduct : (e + g) * (f + h) * (e + f) * (g + h) = (e + f) * (g + h) * (e + g) * (f + h) := by
    ring
  have hnumerator : e * h - g * f = e * h - f * g := by ring
  have htotal : e + g + f + h = e + f + g + h := by ring
  rw [hproduct, hnumerator, htotal]

/-- With a correlation of at most one two gaps have a distance. -/
theorem distance_ok {value first second : ℝ} (hvalue : value ≤ 1) (hfirst : 0 ≤ first)
    (hsecond : 0 ≤ second) : ∃ apart, 0 ≤ apart ∧ distance value first second = .ok apart ∧
      distance value second first = .ok apart := by
  have hproduct : 0 ≤ (1 - value) * (first * second) := by
    have hgap : 0 ≤ 1 - value := by linarith
    positivity
  have hradicand : 0 ≤ first ^ 2 - 2 * value * first * second + second ^ 2 := by
    nlinarith [sq_nonneg (first - second)]
  refine ⟨_, Real.sqrt_nonneg _, squareRoot_ok hradicand, ?_⟩
  have hsymmetric : second ^ 2 - 2 * value * second * first + first ^ 2 =
      first ^ 2 - 2 * value * first * second + second ^ 2 := by
    ring
  unfold distance
  rw [hsymmetric, squareRoot_ok hradicand]

/-! ### The interval of a table -/

theorem count_ok {value : Int} (hvalue : 0 ≤ value) (name : String) :
    count value name = .ok value := if_neg (not_lt.mpr hvalue)

/-- The interval that is returned, from its two distances. -/
noncomputable def intervalOf (e f g h : Int) (confidenceLevel lowerDistance upperDistance : ℝ) :
    PairedInterval :=
  let total := e + f + g + h
  let difference := ((e + f : Int) : ℝ) / total - ((e + g : Int) : ℝ) / total
  { bothPass := e
    allocationOnly := f
    baselineOnly := g
    bothFail := h
    total := total
    difference := difference
    confidenceLevel := confidenceLevel
    lower := max (-1) (difference - lowerDistance)
    upper := min 1 (difference + upperDistance)
    method := "Newcombe method 10 score interval for paired proportions" }

/-- The interval of a table exists, and that of the swapped table is made from the same
two distances. -/
theorem newcombePairedInterval_ok {invCdf : ℝ → ℝ} {e f g h : Int} {confidenceLevel : ℝ}
    (he : 0 ≤ e) (hf : 0 ≤ f) (hg : 0 ≤ g) (hh : 0 ≤ h) (htotal : 1 ≤ e + f + g + h)
    (hlevel : 0 < confidenceLevel ∧ confidenceLevel < 1)
    (hz : 0 < invCdf (0.5 + confidenceLevel / 2)) :
    ∃ lowerDistance upperDistance, 0 ≤ lowerDistance ∧ 0 ≤ upperDistance ∧
      newcombePairedInterval invCdf e f g h confidenceLevel =
        .ok (intervalOf e f g h confidenceLevel lowerDistance upperDistance) ∧
      newcombePairedInterval invCdf e g f h confidenceLevel =
        .ok (intervalOf e g f h confidenceLevel upperDistance lowerDistance) := by
  have hn : (0 : ℝ) < ((e + f + g + h : Int) : ℝ) := by
    exact_mod_cast (by omega : 0 < e + f + g + h)
  have hswapped : e + g + f + h = e + f + g + h := by ring
  obtain ⟨value, hcorrelation, -, hvalue⟩ := correlation_ok he hf hg hh
  have hratio : 0 < invCdf (0.5 + confidenceLevel / 2) * invCdf (0.5 + confidenceLevel / 2) /
      ((e + f + g + h : Int) : ℝ) := by positivity
  -- both arms have at most as many successes as there are pairs
  have hrate : ∀ successes : Int, 0 ≤ successes → successes ≤ e + f + g + h →
      (0 : ℝ) ≤ (successes : ℝ) / ((e + f + g + h : Int) : ℝ) ∧
        (successes : ℝ) / ((e + f + g + h : Int) : ℝ) ≤ 1 := by
    intro successes hnonneg hle
    constructor
    · have hcast : (0 : ℝ) ≤ successes := by exact_mod_cast hnonneg
      positivity
    · rw [div_le_one hn]
      exact_mod_cast hle
  obtain ⟨hallocation, hallocation'⟩ := hrate (e + f) (by omega) (by omega)
  obtain ⟨hbaseline, hbaseline'⟩ := hrate (e + g) (by omega) (by omega)
  have hbounds := wilsonBounds_ok hz (by omega : 0 ≤ e + f) (by omega) htotal
  have hbounds' := wilsonBounds_ok hz (by omega : 0 ≤ e + g) (by omega) htotal
  have hlower := ScoreInterval.lower_le hratio hallocation hallocation'
  have hupper := ScoreInterval.le_upper hratio hallocation hallocation'
  have hlower' := ScoreInterval.lower_le hratio hbaseline hbaseline'
  have hupper' := ScoreInterval.le_upper hratio hbaseline hbaseline'
  obtain ⟨low, hlow, hlowDistance, hlowDistance'⟩ :=
    distance_ok hvalue (sub_nonneg.mpr hlower) (sub_nonneg.mpr hupper')
  obtain ⟨high, hhigh, hhighDistance, hhighDistance'⟩ :=
    distance_ok hvalue (sub_nonneg.mpr hupper) (sub_nonneg.mpr hlower')
  refine ⟨low, high, hlow, hhigh, ?_, ?_⟩
  · unfold newcombePairedInterval
    rw [count_ok he, ok_bind, count_ok hf, ok_bind, count_ok hg, ok_bind, count_ok hh, ok_bind,
      if_neg (not_not.mpr hlevel)]
    dsimp only
    rw [if_neg (by omega), divide_ok hn.ne', ok_bind, divide_ok hn.ne', ok_bind, hbounds, ok_bind]
    dsimp only
    rw [hbounds', ok_bind]
    dsimp only
    rw [hcorrelation, ok_bind, hlowDistance, ok_bind, hhighDistance, ok_bind]
    rfl
  · unfold newcombePairedInterval
    rw [count_ok he, ok_bind, count_ok hg, ok_bind, count_ok hf, ok_bind, count_ok hh, ok_bind,
      if_neg (not_not.mpr hlevel)]
    dsimp only
    rw [hswapped, if_neg (by omega), divide_ok hn.ne', ok_bind, divide_ok hn.ne', ok_bind, hbounds',
      ok_bind]
    dsimp only
    rw [hbounds, ok_bind]
    dsimp only
    rw [correlation_swap, hcorrelation, ok_bind, hhighDistance', ok_bind, hlowDistance', ok_bind]
    unfold intervalOf
    rw [hswapped]
    rfl

/-- The interval of the swapped table mirrors the interval. -/
theorem intervalOf_swap (e f g h : Int) (confidenceLevel low high : ℝ) :
    (intervalOf e g f h confidenceLevel high low).difference =
        -(intervalOf e f g h confidenceLevel low high).difference ∧
      (intervalOf e g f h confidenceLevel high low).lower =
        -(intervalOf e f g h confidenceLevel low high).upper ∧
      (intervalOf e g f h confidenceLevel high low).upper =
        -(intervalOf e f g h confidenceLevel low high).lower := by
  have hswapped : e + g + f + h = e + f + g + h := by ring
  have hdifference : (intervalOf e g f h confidenceLevel high low).difference =
      -(intervalOf e f g h confidenceLevel low high).difference := by
    show ((e + g : Int) : ℝ) / ((e + g + f + h : Int) : ℝ) -
      ((e + f : Int) : ℝ) / ((e + g + f + h : Int) : ℝ) = _
    rw [hswapped, ← neg_sub]
    rfl
  refine ⟨hdifference, ?_, ?_⟩
  · show max (-1) ((intervalOf e g f h confidenceLevel high low).difference - high) =
      -min 1 ((intervalOf e f g h confidenceLevel low high).difference + high)
    rw [hdifference, ← max_neg_neg, neg_add]
    rfl
  · show min 1 ((intervalOf e g f h confidenceLevel high low).difference + low) =
      -max (-1) ((intervalOf e f g h confidenceLevel low high).difference - low)
    rw [hdifference, ← min_neg_neg, neg_neg, neg_sub, neg_add_eq_sub]

/-- The difference of two rates lies between minus one and one. -/
theorem difference_bounds {e f g h : Int} (he : 0 ≤ e) (hf : 0 ≤ f) (hg : 0 ≤ g) (hh : 0 ≤ h)
    (htotal : 1 ≤ e + f + g + h) (confidenceLevel low high : ℝ) :
    -1 ≤ (intervalOf e f g h confidenceLevel low high).difference ∧
      (intervalOf e f g h confidenceLevel low high).difference ≤ 1 := by
  have hn : (0 : ℝ) < ((e + f + g + h : Int) : ℝ) := by
    exact_mod_cast (by omega : 0 < e + f + g + h)
  show -1 ≤ ((e + f : Int) : ℝ) / ((e + f + g + h : Int) : ℝ) -
      ((e + g : Int) : ℝ) / ((e + f + g + h : Int) : ℝ) ∧ _
  show _ ∧ ((e + f : Int) : ℝ) / ((e + f + g + h : Int) : ℝ) -
      ((e + g : Int) : ℝ) / ((e + f + g + h : Int) : ℝ) ≤ 1
  rw [← sub_div, le_div_iff₀ hn, div_le_one hn]
  constructor
  · exact_mod_cast (by omega : -1 * (e + f + g + h) ≤ e + f - (e + g))
  · exact_mod_cast (by omega : e + f - (e + g) ≤ e + f + g + h)

/-- An interval encloses the difference within minus one and one. -/
structure PairedInterval.Encloses (interval : PairedInterval) : Prop where
  least : -1 ≤ interval.lower
  lower : interval.lower ≤ interval.difference
  upper : interval.difference ≤ interval.upper
  greatest : interval.upper ≤ 1

/-- The second interval is the first seen from the other arm. -/
structure PairedInterval.Mirrors (interval swapped : PairedInterval) : Prop where
  difference : swapped.difference = -interval.difference
  lower : swapped.lower = -interval.upper
  upper : swapped.upper = -interval.lower

/-- **The paired interval is well defined and symmetric.**  For every table with a pair
in it and every positive quantile nothing is divided by zero and no root is taken of a
negative number; the correlation term lies between minus one and one; the interval
encloses the difference; and the table with the arms swapped has the mirrored
interval. -/
theorem newcombePairedInterval_sound (invCdf : ℝ → ℝ) (e f g h : Int) (confidenceLevel : ℝ)
    (he : 0 ≤ e) (hf : 0 ≤ f) (hg : 0 ≤ g) (hh : 0 ≤ h) (htotal : 0 < e + f + g + h)
    (hlevel : 0 < confidenceLevel ∧ confidenceLevel < 1)
    (hz : 0 < invCdf (0.5 + confidenceLevel / 2)) :
    ∃ interval swapped value,
      newcombePairedInterval invCdf e f g h confidenceLevel = .ok interval ∧
      newcombePairedInterval invCdf e g f h confidenceLevel = .ok swapped ∧
      correlation e f g h = .ok value ∧ -1 ≤ value ∧ value ≤ 1 ∧
      interval.Encloses ∧ interval.Mirrors swapped := by
  obtain ⟨value, hcorrelation, hleast, hgreatest⟩ := correlation_ok he hf hg hh
  obtain ⟨low, high, hlow, hhigh, hinterval, hswapped⟩ :=
    newcombePairedInterval_ok he hf hg hh htotal hlevel hz
  obtain ⟨hbelow, habove⟩ := difference_bounds he hf hg hh htotal confidenceLevel low high
  obtain ⟨hdifference, hlower, hupper⟩ := intervalOf_swap e f g h confidenceLevel low high
  refine ⟨_, _, value, hinterval, hswapped, hcorrelation, hleast, hgreatest,
    ⟨le_max_left _ _, ?_, ?_, min_le_left _ _⟩, ⟨hdifference, hlower, hupper⟩⟩
  · apply max_le hbelow
    show (intervalOf e f g h confidenceLevel low high).difference - low ≤
      (intervalOf e f g h confidenceLevel low high).difference
    linarith
  · apply le_min habove
    show (intervalOf e f g h confidenceLevel low high).difference ≤
      (intervalOf e f g h confidenceLevel low high).difference + high
    linarith

/-- The table of a hundred pairs, at the quantile of ninety-five per cent. -/
theorem newcombePairedInterval_hundred :
    ∃ interval swapped value,
      newcombePairedInterval (fun _ => 1.959963984540054) 90 5 3 2 0.95 = .ok interval ∧
      newcombePairedInterval (fun _ => 1.959963984540054) 90 3 5 2 0.95 = .ok swapped ∧
      correlation 90 5 3 2 = .ok value ∧ -1 ≤ value ∧ value ≤ 1 ∧
      interval.Encloses ∧ interval.Mirrors swapped :=
  newcombePairedInterval_sound (fun _ => 1.959963984540054) 90 5 3 2 0.95 (by decide) (by decide)
    (by decide) (by decide) (by decide) (by norm_num) (by norm_num)

end Evaluation
end Ryuk

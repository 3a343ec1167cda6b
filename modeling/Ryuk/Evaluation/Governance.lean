import Ryuk.Evaluation.Statistics

/-!
# The pass-count gate

Governance asks for a lower confidence bound above a target, and fixes the least number
of passes that reaches it; the grader compares passes with that number.  The search
for the number stops at the first count that reaches the target, so the two agree
because the bound never falls when there are more passes.
-/

namespace Ryuk
namespace Evaluation

open Foundation
open scoped Foundation.ScoreInterval

/-- `wilson_lower`. -/
noncomputable def wilsonLower (passed total : Int) : Except CalcError ℝ := do
  let z : ℝ := 1.959963984540054
  let proportion ← divide passed total
  let ratio ← divide (z * z) total
  let denominator := 1 + ratio
  let half ← divide (z * z) (2 * total)
  let center ← divide (proportion + half) denominator
  let variance ← divide (proportion * (1 - proportion)) total
  let correction ← divide (z * z) (4 * total * total)
  let root ← squareRoot (variance + correction)
  let radius := z * root
  let offset ← divide radius denominator
  pure (max 0 (center - offset))

/-- The first count of a list that satisfies the bound. -/
noncomputable def firstPassing (total : Int) (target : ℝ) : List Int → Except CalcError Int
  | [] => .error (.valueError "No passing count can satisfy the requested lower bound")
  | passed :: rest => do
      let bound ← wilsonLower passed total
      if target < bound then pure passed else firstPassing total target rest

/-- `range(total + 1)`. -/
def passCounts (total : Int) : List Int := (List.range (total + 1).toNat).map Int.ofNat

/-- `minimum_passes`. -/
noncomputable def minimumPasses (total : Int) (target : ℝ) : Except CalcError Int :=
  firstPassing total target (passCounts total)

/-! ### The bound -/

/-- The bound is the lower one of the two that the interval has. -/
theorem wilsonLower_eq (passed total : Int) :
    wilsonLower passed total =
      wilsonBounds 1.959963984540054 passed total >>= fun bounds => pure (max 0 bounds.1) := by
  unfold wilsonLower wilsonBounds
  simp only [bind_assoc, pure_bind]

/-- The bound as a number: the score bound, which is never negative. -/
noncomputable def lowerBound (passed total : Int) : ℝ :=
  ScoreInterval.lower ((1.959963984540054 * 1.959963984540054 : ℝ) / total) (passed / total)

section Bound

variable {passed later total : Int}

theorem rate_bounds (hpassed : 0 ≤ passed) (hle : passed ≤ total) (htotal : 1 ≤ total) :
    (0 : ℝ) ≤ passed / total ∧ (passed : ℝ) / total ≤ 1 := by
  have hn : (0 : ℝ) < total := by exact_mod_cast (by omega : 0 < total)
  have hs : (0 : ℝ) ≤ passed := by exact_mod_cast hpassed
  constructor
  · positivity
  · rw [div_le_one hn]
    exact_mod_cast hle

theorem ratio_pos (htotal : 1 ≤ total) :
    (0 : ℝ) < (1.959963984540054 * 1.959963984540054 : ℝ) / total := by
  have hn : (0 : ℝ) < total := by exact_mod_cast (by omega : 0 < total)
  positivity

theorem wilsonLower_ok (hpassed : 0 ≤ passed) (hle : passed ≤ total) (htotal : 1 ≤ total) :
    wilsonLower passed total = .ok (lowerBound passed total) := by
  have hrate := (rate_bounds hpassed hle htotal).1
  rw [wilsonLower_eq, wilsonBounds_ok (by norm_num) hpassed hle htotal, ok_bind]
  show Except.ok (max 0 (lowerBound passed total)) = _
  rw [max_eq_right]
  exact ScoreInterval.lower_nonneg (ratio_pos htotal) hrate

theorem lowerBound_bounds (hpassed : 0 ≤ passed) (hle : passed ≤ total) (htotal : 1 ≤ total) :
    0 ≤ lowerBound passed total ∧ lowerBound passed total ≤ (passed : ℝ) / total := by
  obtain ⟨hrate, hrate'⟩ := rate_bounds hpassed hle htotal
  exact ⟨ScoreInterval.lower_nonneg (ratio_pos htotal) hrate,
    ScoreInterval.lower_le (ratio_pos htotal) hrate hrate'⟩

theorem lowerBound_mono (hpassed : 0 ≤ passed) (hlater : passed ≤ later) (hle : later ≤ total)
    (htotal : 1 ≤ total) : lowerBound passed total ≤ lowerBound later total := by
  have hn : (0 : ℝ) < total := by exact_mod_cast (by omega : 0 < total)
  have hcast : (passed : ℝ) ≤ later := by exact_mod_cast hlater
  apply ScoreInterval.lower_mono (ratio_pos htotal)
  · exact (rate_bounds hpassed (hlater.trans hle) htotal).1
  · exact div_le_div_of_nonneg_right hcast hn.le
  · exact (rate_bounds (hpassed.trans hlater) hle htotal).2

end Bound

/-! ### The search -/

theorem mem_passCounts {passed total : Int} :
    passed ∈ passCounts total ↔ 0 ≤ passed ∧ passed ≤ total := by
  unfold passCounts
  rw [List.mem_map]
  constructor
  · rintro ⟨count, hcount, rfl⟩
    rw [List.mem_range] at hcount
    show (0 : Int) ≤ (count : Int) ∧ (count : Int) ≤ total
    omega
  · rintro ⟨hnonneg, hle⟩
    refine ⟨passed.toNat, ?_, ?_⟩
    · rw [List.mem_range]
      omega
    · show ((passed.toNat : Nat) : Int) = passed
      omega

theorem passCounts_sorted (total : Int) : (passCounts total).Pairwise (· < ·) := by
  unfold passCounts
  rw [List.pairwise_map]
  exact List.pairwise_lt_range.imp fun hlt => by
    show ((_ : Nat) : Int) < ((_ : Nat) : Int)
    exact_mod_cast hlt

/-- **Search lemma.**  Over counts in increasing order the search finds the least one
that reaches the target, or there is none. -/
theorem firstPassing_spec {total : Int} {target : ℝ} (htotal : 1 ≤ total) {counts : List Int}
    (hcounts : ∀ passed ∈ counts, 0 ≤ passed ∧ passed ≤ total)
    (hsorted : counts.Pairwise (· < ·)) :
    (∃ minimum ∈ counts, firstPassing total target counts = .ok minimum ∧
      target < lowerBound minimum total ∧
      ∀ passed ∈ counts, passed < minimum → lowerBound passed total ≤ target) ∨
    ((∃ error, firstPassing total target counts = .error error) ∧
      ∀ passed ∈ counts, lowerBound passed total ≤ target) := by
  induction counts with
  | nil => exact Or.inr ⟨⟨_, rfl⟩, fun passed hpassed => absurd hpassed List.not_mem_nil⟩
  | cons first rest ih =>
      obtain ⟨hnonneg, hle⟩ := hcounts first (List.mem_cons_self ..)
      rw [List.pairwise_cons] at hsorted
      have hih := ih (fun passed hpassed => hcounts passed (List.mem_cons_of_mem _ hpassed))
        hsorted.2
      rw [firstPassing, wilsonLower_ok hnonneg hle htotal, ok_bind]
      by_cases hreaches : target < lowerBound first total
      · rw [if_pos hreaches]
        refine Or.inl ⟨first, List.mem_cons_self .., rfl, hreaches, fun passed hpassed hless => ?_⟩
        -- the first count is the least one of the list
        rcases List.mem_cons.mp hpassed with rfl | hrest
        · exact absurd hless (lt_irrefl _)
        · exact absurd (hsorted.1 passed hrest) (not_lt.mpr hless.le)
      · rw [if_neg hreaches]
        rcases hih with ⟨minimum, hmem, hfound, htarget, hleast⟩ | ⟨hraised, hnone⟩
        · refine Or.inl ⟨minimum, List.mem_cons_of_mem _ hmem, hfound, htarget,
            fun passed hpassed hless => ?_⟩
          rcases List.mem_cons.mp hpassed with rfl | hrest
          · exact not_lt.mp hreaches
          · exact hleast passed hrest hless
        · refine Or.inr ⟨hraised, fun passed hpassed => ?_⟩
          rcases List.mem_cons.mp hpassed with rfl | hrest
          · exact not_lt.mp hreaches
          · exact hnone passed hrest

/-! ### The gate -/

/-- **The pass-count gate is the Wilson gate.**  For at least one call and every target,
the bound of a count is a number between zero and the rate that never falls with more
passes; the search raises exactly when no count reaches the target, and the counts
from the least one on are exactly those whose bound is above it. -/
theorem minimumPasses_gate (total : Int) (target : ℝ) (htotal : 1 ≤ total) :
    (∀ passed, 0 ≤ passed → passed ≤ total → ∃ bound, wilsonLower passed total = .ok bound ∧
      0 ≤ bound ∧ bound ≤ (passed : ℝ) / total) ∧
    (∀ passed later bound bound', 0 ≤ passed → passed ≤ later → later ≤ total →
      wilsonLower passed total = .ok bound → wilsonLower later total = .ok bound' →
        bound ≤ bound') ∧
    ((∃ error, minimumPasses total target = .error error) ↔
      ¬ ∃ passed bound, 0 ≤ passed ∧ passed ≤ total ∧ wilsonLower passed total = .ok bound ∧
        target < bound) ∧
    ∀ minimum, minimumPasses total target = .ok minimum →
      ∀ passed, 0 ≤ passed → passed ≤ total →
        (minimum ≤ passed ↔ ∃ bound, wilsonLower passed total = .ok bound ∧ target < bound) := by
  have hreaches : ∀ passed, 0 ≤ passed → passed ≤ total →
      ((∃ bound, wilsonLower passed total = .ok bound ∧ target < bound) ↔
        target < lowerBound passed total) := by
    intro passed hpassed hle
    rw [wilsonLower_ok hpassed hle htotal]
    constructor
    · rintro ⟨bound, hbound, htarget⟩
      obtain rfl := Except.ok.inj hbound
      exact htarget
    · exact fun htarget => ⟨_, rfl, htarget⟩
  have hsearch := @firstPassing_spec total target htotal (passCounts total)
    (fun passed hpassed => mem_passCounts.mp hpassed) (passCounts_sorted total)
  refine ⟨fun passed hpassed hle => ?_, fun passed later bound bound' hpassed hlater hle hbound
    hbound' => ?_, ?_, fun minimum hminimum passed hpassed hle => ?_⟩
  · exact ⟨_, wilsonLower_ok hpassed hle htotal, lowerBound_bounds hpassed hle htotal⟩
  · rw [wilsonLower_ok hpassed (hlater.trans hle) htotal] at hbound
    rw [wilsonLower_ok (hpassed.trans hlater) hle htotal] at hbound'
    rw [← Except.ok.inj hbound, ← Except.ok.inj hbound']
    exact lowerBound_mono hpassed hlater hle htotal
  · unfold minimumPasses
    rcases hsearch with ⟨minimum, hmem, hfound, htarget, -⟩ | ⟨hraised, hnone⟩
    · obtain ⟨hnonneg, hle⟩ := mem_passCounts.mp hmem
      constructor
      · rintro ⟨error, herror⟩
        rw [hfound] at herror
        cases herror
      · intro hnever
        exact absurd ⟨minimum, _, hnonneg, hle, wilsonLower_ok hnonneg hle htotal, htarget⟩ hnever
    · refine ⟨fun _ => ?_, fun _ => hraised⟩
      rintro ⟨passed, bound, hpassed, hle, hbound, htarget⟩
      have hreached := (hreaches passed hpassed hle).mp ⟨bound, hbound, htarget⟩
      exact absurd hreached (not_lt.mpr (hnone passed (mem_passCounts.mpr ⟨hpassed, hle⟩)))
  · rw [hreaches passed hpassed hle]
    unfold minimumPasses at hminimum
    rcases hsearch with ⟨least, hmem, hfound, htarget, hleast⟩ | ⟨⟨error, herror⟩, -⟩
    · rw [hfound, Except.ok.injEq] at hminimum
      subst hminimum
      obtain ⟨hnonneg, -⟩ := mem_passCounts.mp hmem
      constructor
      · intro hless
        exact htarget.trans_le (lowerBound_mono hnonneg hless hle htotal)
      · intro hreached
        by_contra hless
        have hbelow := hleast passed (mem_passCounts.mpr ⟨hpassed, hle⟩) (not_le.mp hless)
        exact absurd hreached (not_lt.mpr hbelow)
    · rw [herror] at hminimum
      cases hminimum

/-- The gate over a hundred calls, with a target of 0.87. -/
theorem minimumPasses_hundred :
    (∃ error, minimumPasses 100 0.87 = .error error) ↔
      ¬ ∃ passed bound, 0 ≤ passed ∧ passed ≤ 100 ∧ wilsonLower passed 100 = .ok bound ∧
        0.87 < bound :=
  (minimumPasses_gate 100 0.87 (by decide)).2.2.1

end Evaluation
end Ryuk

import Ryuk.Evaluation.Grading
import Ryuk.Evaluation.Manifest
import Ryuk.Foundation.Raises

/-!
# Consistency of the paired summary

For the results of a manifest that passes its checks with two arms, the counts of the
summary add up, the table of outcomes has the passes of the arms as its margins, and the
gate is open only on what it asks for.
-/

namespace Ryuk
namespace Evaluation

open Foundation Foundation.Json
open scoped Foundation.ScoreInterval

/-! ### Results of a manifest -/

/-- The results of the tasks of a comparison, in their order. -/
def ResultsOf (tasks : List ComparisonTask) (results : List Row) : Prop :=
  List.Forall₂ (fun task row => row.caseId = task.caseId ∧ row.arm = task.arm) tasks results

theorem ResultsOf.arms {tasks : List ComparisonTask} {results : List Row}
    (h : ResultsOf tasks results) (caseId : String) :
    results.map Row.caseId = tasks.map ComparisonTask.caseId ∧
      (results.filter fun row => decide (row.caseId = caseId)).map Row.arm =
        (tasks.filter fun task => decide (task.caseId = caseId)).map ComparisonTask.arm := by
  induction h with
  | nil => exact ⟨rfl, rfl⟩
  | cons hrow hrest ih =>
      obtain ⟨hcase, harm⟩ := hrow
      refine ⟨by rw [List.map_cons, List.map_cons, hcase, ih.1], ?_⟩
      rw [List.filter_cons, List.filter_cons, hcase]
      split_ifs
      · rw [List.map_cons, List.map_cons, harm, ih.2]
      · exact ih.2

theorem pairedResults_of_matched {allocation baseline : String} {tasks : List ComparisonTask}
    {results : List Row} (h : ResultsOf tasks results)
    (hmatched : Matched [allocation, baseline] tasks) :
    PairedResults allocation baseline results := by
  intro caseId hcase
  obtain ⟨hcases, harms⟩ := h.arms caseId
  rw [hcases] at hcase
  rw [harms]
  exact hmatched caseId hcase

theorem get?_byArm {results : List Row} {arms : List String} {arm : String} (h : arm ∈ arms) :
    (byArm results arms).get? arm = some (summarizeArm results arm) := by
  unfold byArm
  induction arms using List.reverseRecOn with
  | nil => cases h
  | append_singleton arms last ih =>
      rw [List.foldl_append, List.foldl_cons, List.foldl_nil]
      by_cases hlast : last = arm
      · rw [hlast]
        exact Dict.get?_set_self
      · rw [Dict.get?_set_other hlast]
        have hold : arm ∈ arms := by
          rcases List.mem_append.mp h with hold | hnew
          · exact hold
          · exact absurd (List.mem_singleton.mp hnew).symm hlast
        exact ih hold

/-! ### What is returned -/

section Returning

variable {invCdf : ℝ → ℝ} {results : List Row} {limits : Threshold} {summary final : Summary}
  {allocation baseline : String} {margin : ℝ} {minimumAllocationPasses : Option Int}

/-- The counts of a summary before the comparison. -/
structure RowCounts (results : List Row) (summary : Summary) : Prop where
  planned : summary.planned = results.length
  passed : summary.passed = countGrade "pass" results
  failed : summary.failed = countGrade "fail" results
  invalid : summary.invalidTasks = countGrade "invalid_task" results
  unrun : summary.unrun = results.countP Row.unrun
  complete : summary.complete = decide (summary.unrun = 0)

/-- The counts of a summary that differs in other fields. -/
theorem RowCounts.congr (h : RowCounts results summary) (hplanned : final.planned = summary.planned)
    (hpassed : final.passed = summary.passed) (hfailed : final.failed = summary.failed)
    (hinvalid : final.invalidTasks = summary.invalidTasks) (hunrun : final.unrun = summary.unrun)
    (hcomplete : final.complete = summary.complete) : RowCounts results final where
  planned := hplanned.trans h.planned
  passed := hpassed.trans h.passed
  failed := hfailed.trans h.failed
  invalid := hinvalid.trans h.invalid
  unrun := hunrun.trans h.unrun
  complete := by rw [hcomplete, hunrun, h.complete]

theorem summarizeRows_counts (h : summarizeRows results limits = .ok summary) :
    RowCounts results summary := by
  unfold summarizeRows at h
  simp only [bind_eq_ok] at h
  obtain ⟨strata, -, interval, -, h⟩ := h
  obtain rfl := Except.ok.inj h
  exact ⟨rfl, rfl, rfl, rfl, rfl, rfl⟩

theorem wilson_total {passed total : Int} (hpassed : 0 ≤ passed) (hle : passed ≤ total) :
    ∃ interval, wilson passed total = .ok interval := by
  unfold wilson
  split_ifs with htotal
  · exact ⟨none, rfl⟩
  · rw [wilsonBounds_ok (by norm_num) hpassed hle (by omega)]
    exact ⟨_, rfl⟩

/-- The counts never raise. -/
theorem summarizeRows_total (results : List Row) (limits : Threshold) :
    ∃ summary, summarizeRows results limits = .ok summary := by
  obtain ⟨strata, hstrata⟩ : ∃ strata,
      (sortedSet (results.map Row.model)).mapM (summarizeModel results) = .ok strata := by
    apply mapM_total
    intro model _
    obtain ⟨interval, hinterval⟩ := @wilson_total
      (countGrade "pass" (results.filter fun row => decide (row.model = model)))
      (countGrade "pass" (results.filter fun row => decide (row.model = model)) +
        countGrade "fail" (results.filter fun row => decide (row.model = model))) (by omega) (by omega)
    unfold summarizeModel
    simp only [hinterval]
    exact ⟨_, rfl⟩
  obtain ⟨interval, hinterval⟩ := @wilson_total (countGrade "pass" results)
    (countGrade "pass" results + countGrade "fail" results) (by omega) (by omega)
  unfold summarizeRows
  simp only [hstrata, hinterval]
  exact ⟨_, rfl⟩

end Returning

/-! ### Consistency -/

/-- What a passed gate rests on. -/
structure Approved (results : List Row) (limits : Threshold) (allocation : String)
    (margin : ℝ) (minimumAllocationPasses : Option Int) (summary : Summary)
    (arms : Dict String ArmSummary) (paired : Paired) : Prop where
  graded : ∀ row ∈ results, row.grade = "pass" ∨ row.grade = "fail"
  complete : paired.incompletePairs = 0
  critical : summary.criticalFailures ≤ limits.criticalFailuresAllowed
  minimum : ∃ least ∈ minimumAllocationPasses, ∃ first, arms.get? allocation = some first ∧
    least ≤ first.passed
  noninferior : ∃ verdict ∈ paired.noninferiority, verdict.passed ∧
    pairedNoninferiority verdict.interval margin = .ok verdict

/-- The summary of a matched comparison of two arms agrees with its results. -/
structure Consistent (invCdf : ℝ → ℝ) (results : List Row) (limits : Threshold)
    (allocation baseline : String) (noninferiorityMargin : Option ℝ)
    (minimumAllocationPasses : Option Int) (summary : Summary) (arms : Dict String ArmSummary)
    (paired : Paired) : Prop where
  rows : RowCounts results summary
  counts : summary.passed + summary.failed + summary.invalidTasks + summary.unrun = summary.planned
  byArm : summary.byArm = some arms
  matched : summary.matchedComparison = some paired
  pairs : paired.completePairs + paired.incompletePairs = (results.map Row.caseId).dedup.length
  outcomes : paired.outcomes.values.sum = paired.completePairs
  cells : cell paired allocation baseline "pass" "pass" + cell paired allocation baseline "pass" "fail" +
    cell paired allocation baseline "fail" "pass" + cell paired allocation baseline "fail" "fail" =
      paired.completePairs
  marginals : paired.incompletePairs = 0 → ∃ first second,
    arms.get? allocation = some first ∧ arms.get? baseline = some second ∧
      cell paired allocation baseline "pass" "pass" + cell paired allocation baseline "pass" "fail" =
        first.passed ∧
      cell paired allocation baseline "pass" "pass" + cell paired allocation baseline "fail" "pass" =
        second.passed
  /-- The interval of a verdict is that of the four cells. -/
  interval : ∀ verdict ∈ paired.noninferiority,
    newcombePairedInterval invCdf (cell paired allocation baseline "pass" "pass")
      (cell paired allocation baseline "pass" "fail") (cell paired allocation baseline "fail" "pass")
      (cell paired allocation baseline "fail" "fail") 0.95 = .ok verdict.interval
  gate : ∀ margin ∈ noninferiorityMargin, summary.pilotGatePassed →
    Approved results limits allocation margin minimumAllocationPasses summary arms paired

section Consistency

variable {invCdf : ℝ → ℝ} {results : List Row} {limits : Threshold} {summary final : Summary}
  {allocation baseline : String} {margin : ℝ} {minimumAllocationPasses : Option Int}
  {arms : Dict String ArmSummary} {paired : Paired}

/-- The gate of a matched comparison, where it is computed. -/
theorem matchedGate_ok
    (h : matchedGate invCdf summary limits [allocation, baseline] arms paired margin
      minimumAllocationPasses = .ok final) :
    ∃ verdict least, minimumAllocationPasses = some least ∧
      newcombePairedInterval invCdf (cell paired allocation baseline "pass" "pass")
        (cell paired allocation baseline "pass" "fail") (cell paired allocation baseline "fail" "pass")
        (cell paired allocation baseline "fail" "fail") 0.95 = .ok verdict.interval ∧
      pairedNoninferiority verdict.interval margin = .ok verdict ∧
      final = { summary with
        matchedComparison := some { paired with noninferiority := some verdict }
        matchedQualityGatePassed := final.matchedQualityGatePassed
        pilotGatePassed := final.pilotGatePassed } ∧
      (final.pilotGatePassed → summary.complete = true ∧ summary.invalidTasks = 0 ∧
        summary.criticalFailures ≤ limits.criticalFailuresAllowed ∧ paired.incompletePairs = 0 ∧
        least ≤ (((arms.get? allocation).map ArmSummary.passed).getD 0 : Nat) ∧ verdict.passed) := by
  unfold matchedGate at h
  simp only [bind_eq_ok] at h
  obtain ⟨interval, hinterval, verdict, hverdict, h⟩ := h
  have hsame : verdict.interval = interval := by
    unfold pairedNoninferiority at hverdict
    split_ifs at hverdict
    rw [← Except.ok.inj hverdict]
  cases minimumAllocationPasses with
  | none => cases h
  | some least =>
      obtain rfl := Except.ok.inj h
      refine ⟨verdict, least, rfl, hsame ▸ hinterval, hsame ▸ hverdict, rfl, ?_⟩
      rintro ⟨hcomplete, -, hinvalid, hcritical, hpairs, hminimum, hpassed⟩
      exact ⟨hcomplete, hinvalid, hcritical, hpairs, hminimum, hpassed⟩

/-- **Cases.**  A summary of a matched comparison has the counts of the rows and the pairs,
and its gate is open only where it was computed. -/
theorem summarize_cases {threshold : Option Threshold} {noninferiorityMargin : Option ℝ}
    (h : summarize invCdf results threshold (some [allocation, baseline]) noninferiorityMargin
      minimumAllocationPasses = .ok final) :
    ∃ summary, RowCounts results summary ∧ RowCounts results final ∧
      final.byArm = some (byArm results [allocation, baseline]) ∧
      ((final.matchedComparison = some (pairCases results [allocation, baseline]) ∧
          (noninferiorityMargin.isSome = true → ¬ final.pilotGatePassed)) ∨
        ∃ margin, noninferiorityMargin = some margin ∧
          matchedGate invCdf
            { summary with
              byArm := some (byArm results [allocation, baseline])
              matchedComparison := some (pairCases results [allocation, baseline])
              matchedQualityGatePassed := some False
              pilotGatePassed := False }
            (threshold.getD defaultThreshold) [allocation, baseline]
            (byArm results [allocation, baseline]) (pairCases results [allocation, baseline]) margin
            minimumAllocationPasses = .ok final) := by
  unfold summarize at h
  rw [bind_eq_ok] at h
  obtain ⟨summary, hsummary, h⟩ := h
  have hcounts := summarizeRows_counts hsummary
  refine ⟨summary, hcounts, ?_⟩
  cases noninferiorityMargin with
  | none =>
      obtain rfl := Except.ok.inj h
      exact ⟨hcounts.congr rfl rfl rfl rfl rfl rfl, rfl,
        Or.inl ⟨rfl, fun hsome => by cases hsome⟩⟩
  | some margin =>
      dsimp only at h
      split_ifs at h with hcomplete
      · obtain ⟨verdict, least, -, -, -, hfinal, -⟩ := matchedGate_ok h
        rw [hfinal] at h ⊢
        exact ⟨hcounts.congr rfl rfl rfl rfl rfl rfl, rfl, Or.inr ⟨margin, rfl, h⟩⟩
      · obtain rfl := Except.ok.inj h
        exact ⟨hcounts.congr rfl rfl rfl rfl rfl rfl, rfl, Or.inl ⟨rfl, fun _ hopen => hopen⟩⟩

/-- The pairs of a matched comparison agree with its rows. -/
theorem pairs_consistent (hne : allocation ≠ baseline)
    (hpaired : PairedResults allocation baseline results)
    (hverdict : ∀ verdict ∈ paired.noninferiority,
      newcombePairedInterval invCdf (cell paired allocation baseline "pass" "pass")
        (cell paired allocation baseline "pass" "fail") (cell paired allocation baseline "fail" "pass")
        (cell paired allocation baseline "fail" "fail") 0.95 = .ok verdict.interval)
    (hpairs : paired = { pairCases results [allocation, baseline] with
      noninferiority := paired.noninferiority })
    {noninferiorityMargin : Option ℝ}
    (hcounts : RowCounts results final)
    (harms : final.byArm = some (byArm results [allocation, baseline]))
    (hmatched : final.matchedComparison = some paired)
    (hgate : ∀ margin ∈ noninferiorityMargin, final.pilotGatePassed →
      Approved results limits allocation margin minimumAllocationPasses final
        (byArm results [allocation, baseline]) paired) :
    Consistent invCdf results limits allocation baseline noninferiorityMargin
      minimumAllocationPasses final (byArm results [allocation, baseline]) paired := by
  have hloop := pairOutcomes_counts ((sortedSet (results.map Row.caseId)).map
    (outcomeOf results [allocation, baseline]))
  rw [← pairCases_eq] at hloop
  refine ⟨hcounts, ?_, harms, hmatched, ?_, ?_, ?_, fun hcomplete => ?_, hverdict, hgate⟩
  · rw [hcounts.passed, hcounts.failed, hcounts.invalid, hcounts.unrun, hcounts.planned]
    exact grades_partition results
  · rw [hpairs, ← length_sortedSet, ← List.length_map (outcomeOf results [allocation, baseline])]
    exact hloop.cases
  · rw [hpairs]
    exact hloop.total
  · rw [hpairs]
    exact cells_sum hne hpaired
  · rw [hpairs] at hcomplete ⊢
    obtain ⟨hfirst, hsecond⟩ := cells_marginals hne hpaired hcomplete
    exact ⟨_, _, get?_byArm List.mem_cons_self, get?_byArm (List.mem_cons_of_mem _ List.mem_cons_self),
      hfirst, hsecond⟩

/-- **Soundness.** -/
theorem summarize_sound {threshold : Option Threshold} {noninferiorityMargin : Option ℝ}
    (hne : allocation ≠ baseline) (hpaired : PairedResults allocation baseline results)
    (h : summarize invCdf results threshold (some [allocation, baseline]) noninferiorityMargin
      minimumAllocationPasses = .ok final) :
    ∃ arms paired, Consistent invCdf results (threshold.getD defaultThreshold) allocation baseline
      noninferiorityMargin minimumAllocationPasses final arms paired := by
  obtain ⟨summary, hcounts, hfinal, harms, ⟨hmatched, hclosed⟩ | ⟨margin, hmargin, hgate⟩⟩ :=
    summarize_cases h
  · have hnone : (pairCases results [allocation, baseline]).noninferiority = none := by
      rw [pairCases_eq]
      exact (pairOutcomes_counts _).noninferiority
    refine ⟨_, _, pairs_consistent hne hpaired (fun verdict hverdict => ?_) rfl hfinal harms hmatched
      fun margin hmargin hopen => ?_⟩
    · rw [hnone] at hverdict
      cases hverdict
    · exact absurd hopen (hclosed (Option.isSome_of_mem hmargin))
  · obtain ⟨verdict, least, hminimum, hinterval, hjudged, hsame, hopen⟩ := matchedGate_ok hgate
    refine ⟨_, { pairCases results [allocation, baseline] with noninferiority := some verdict },
      pairs_consistent hne hpaired (fun found hfound => ?_) rfl hfinal harms
      (congrArg Summary.matchedComparison hsame) fun asked hasked hpilot => ?_⟩
    · obtain rfl := Option.some.inj hfound
      exact hinterval
    · obtain rfl := Option.some.inj (hmargin.symm.trans hasked)
      obtain ⟨hdone, hvalid, hcritical, hpairs, hleast, hverdict⟩ := hopen hpilot
      have hungraded : results.countP Row.unrun = 0 := by
        rw [← hcounts.unrun]
        exact of_decide_eq_true (hcounts.complete ▸ hdone)
      have hrows := all_graded (hcounts.invalid.symm.trans hvalid) hungraded
      refine ⟨fun row hrow => (graded_iff row).mp (hrows row hrow), hpairs, ?_, ?_, ?_⟩
      · rw [congrArg Summary.criticalFailures hsame]
        exact hcritical
      · rw [get?_byArm List.mem_cons_self] at hleast
        exact ⟨least, hminimum, _, get?_byArm List.mem_cons_self, hleast⟩
      · exact ⟨verdict, rfl, hverdict, hjudged⟩

/-- A summary is returned, unless a margin is given that is none, without a least number
of passes, or with a quantile that is not positive. -/
theorem summarize_total {threshold : Option Threshold} {noninferiorityMargin : Option ℝ}
    (hne : allocation ≠ baseline) (hpaired : PairedResults allocation baseline results)
    (hquantile : 0 < invCdf (0.5 + 0.95 / 2))
    (hmargin : ∀ margin ∈ noninferiorityMargin,
      0 ≤ margin ∧ margin < 1 ∧ minimumAllocationPasses.isSome = true) :
    ∃ final, summarize invCdf results threshold (some [allocation, baseline]) noninferiorityMargin
      minimumAllocationPasses = .ok final := by
  obtain ⟨summary, hsummary⟩ := summarizeRows_total results (threshold.getD defaultThreshold)
  unfold summarize
  simp only [hsummary, ok_bind]
  cases noninferiorityMargin with
  | none => exact ⟨_, rfl⟩
  | some margin =>
      obtain ⟨hnonneg, hsmall, hleast⟩ := hmargin margin rfl
      obtain ⟨least, rfl⟩ := Option.isSome_iff_exists.mp hleast
      dsimp only
      split_ifs with hcomplete
      · -- there is a pair, so the table is not empty
        have hcells := cells_sum hne hpaired
        obtain ⟨lowerDistance, upperDistance, -, -, hinterval, -⟩ := @newcombePairedInterval_ok invCdf
          (cell (pairCases results [allocation, baseline]) allocation baseline "pass" "pass")
          (cell (pairCases results [allocation, baseline]) allocation baseline "pass" "fail")
          (cell (pairCases results [allocation, baseline]) allocation baseline "fail" "pass")
          (cell (pairCases results [allocation, baseline]) allocation baseline "fail" "fail") 0.95
          (by omega) (by omega) (by omega) (by omega) (by omega) (by norm_num) hquantile
        unfold matchedGate pairedNoninferiority
        simp only [hinterval, ok_bind, not_and, hnonneg, hsmall, not_true_eq_false, forall_const,
          if_false]
        exact ⟨_, rfl⟩
      · exact ⟨_, rfl⟩

end Consistency

/-- Every summary of the results of a manifest that passes `validate_manifest` with two
arms is consistent, and one is returned unless the margin or its companions are wrong. -/
def SummariesConsistent (invCdf : ℝ → ℝ) (manifest : List (String × Json)) : Prop :=
  ∀ comparison allocation baseline results threshold noninferiorityMargin minimumAllocationPasses,
    validateManifest manifest = .ok (some comparison) → comparison.arms = [allocation, baseline] →
    ResultsOf comparison.tasks results →
    (∀ summary, summarize invCdf results threshold (some comparison.arms) noninferiorityMargin
        minimumAllocationPasses = .ok summary →
      ∃ arms paired, Consistent invCdf results (threshold.getD defaultThreshold) allocation baseline
        noninferiorityMargin minimumAllocationPasses summary arms paired) ∧
    (0 < invCdf (0.5 + 0.95 / 2) →
      (∀ margin ∈ noninferiorityMargin,
        0 ≤ margin ∧ margin < 1 ∧ minimumAllocationPasses.isSome = true) →
      ∃ summary, summarize invCdf results threshold (some comparison.arms) noninferiorityMargin
        minimumAllocationPasses = .ok summary)

/-- **Consistency of the paired summary.** -/
theorem summaries_consistent : ∀ invCdf manifest, SummariesConsistent invCdf manifest := by
  intro invCdf manifest comparison allocation baseline results threshold noninferiorityMargin
    minimumAllocationPasses hvalid harms hresults
  obtain ⟨hnodup, hmatched⟩ := validateManifest_matched hvalid
  rw [harms] at hnodup hmatched
  rw [harms]
  have hne : allocation ≠ baseline := by
    rw [List.nodup_cons, List.mem_singleton] at hnodup
    exact hnodup.1
  exact ⟨fun summary hsummary =>
    summarize_sound hne (pairedResults_of_matched hresults hmatched) hsummary,
    summarize_total hne (pairedResults_of_matched hresults hmatched)⟩

end Evaluation
end Ryuk

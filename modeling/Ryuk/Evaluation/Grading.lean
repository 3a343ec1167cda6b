import Ryuk.Evaluation.Statistics
import Ryuk.Foundation.Tally

/-!
# The summary of graded results

What `summarize` computes of a list of graded tasks: counts, the pairs of a matched
comparison with their outcomes, and the gates.  The accounting of tokens beside them is
left out; it reads other columns and decides nothing.
-/

namespace Ryuk
namespace Evaluation

open Foundation
open scoped Foundation.ScoreInterval

/-! ### Counts -/

/-- A graded task.  `critical_task` is what a failure adds to the critical failures, a
boolean as an integer. -/
structure Row where
  model : String
  criticalTask : Int
  caseId : String
  arm : String
  grade : String
  deriving DecidableEq

/-- `row["grade"] in ("pass", "fail")`. -/
def Row.graded (row : Row) : Bool := decide (row.grade = "pass") || decide (row.grade = "fail")

/-- `row["grade"] not in ("pass", "fail", "invalid_task")`. -/
def Row.unrun (row : Row) : Bool := !(row.graded || decide (row.grade = "invalid_task"))

/-- `sum(row["grade"] == grade for row in rows)`. -/
def countGrade (grade : String) (rows : List Row) : Nat :=
  rows.countP fun row => decide (row.grade = grade)

/-- `threshold`. -/
structure Threshold where
  plannedTasks : Int
  minimumFirstPass : Int
  criticalFailuresAllowed : Int

def defaultThreshold : Threshold := ⟨26, 23, 0⟩

/-- `sorted({...})`. -/
def sortedSet (values : List String) : List String :=
  values.dedup.mergeSort fun first second => decide (first ≤ second)

/-- `wilson`. -/
noncomputable def wilson (passed total : Int) : Except CalcError (Option (ℝ × ℝ)) :=
  if total = 0 then .ok none
  else do
    let bounds ← wilsonBounds 1.959963984540054 passed total
    pure (some (max 0 bounds.1, min 1 bounds.2))

/-- `p / (p + f) if p + f else None`. -/
noncomputable def observedRate (passed failed : Nat) : Option ℝ :=
  if passed + failed = 0 then none else some ((passed : ℝ) / (passed + failed))

/-- An entry of `by_model`. -/
structure ModelSummary where
  planned : Nat
  passed : Nat
  failed : Nat
  ungraded : Nat
  observedRate : Option ℝ
  wilson95Interval : Option (ℝ × ℝ)

/-- The rows of one model. -/
noncomputable def summarizeModel (results : List Row) (model : String) :
    Except CalcError (String × ModelSummary) := do
  let subset := results.filter fun row => decide (row.model = model)
  let passed := countGrade "pass" subset
  let failed := countGrade "fail" subset
  let interval ← wilson passed (passed + failed)
  pure (model, ⟨subset.length, passed, failed, subset.countP fun row => !row.graded,
    Evaluation.observedRate passed failed, interval⟩)

/-! ### Arms and pairs -/

/-- An entry of `by_arm`. -/
structure ArmSummary where
  planned : Nat
  passed : Nat
  failed : Nat
  ungraded : Nat
  deriving DecidableEq

def summarizeArm (results : List Row) (arm : String) : ArmSummary :=
  let subset := results.filter fun row => decide (row.arm = arm)
  ⟨subset.length, countGrade "pass" subset, countGrade "fail" subset,
    subset.countP fun row => !row.graded⟩

/-- `by_arm`. -/
def byArm (results : List Row) (arms : List String) : Dict String ArmSummary :=
  arms.foldl (fun summaries arm => summaries.set arm (summarizeArm results arm)) Dict.empty

/-- `{row["arm"]: row for row in rows}`. -/
def armRows (rows : List Row) : Dict String Row :=
  rows.foldl (fun found row => found.set row.arm row) Dict.empty

/-- `f"{arm}:{grade}"` for every arm, joined. -/
def outcomeKey (arms : List String) (grade : String → String) : String :=
  "/".intercalate (arms.map fun arm => arm ++ ":" ++ grade arm)

/-- The outcome of a case; `none` when the pair is incomplete. -/
def outcomeOf (results : List Row) (arms : List String) (caseId : String) : Option String :=
  let found := armRows (results.filter fun row => decide (row.caseId = caseId))
  if (found.keys.all fun arm => decide (arm ∈ arms)) &&
      (arms.all fun arm => (found.get? arm).any Row.graded) then
    some (outcomeKey arms fun arm => (found.get? arm).elim "" Row.grade)
  else none

/-- The verdict of `paired_noninferiority`. -/
structure Noninferiority where
  margin : ℝ
  requiredLowerBoundAbove : ℝ
  passed : Prop
  interval : PairedInterval

/-- `paired_noninferiority`. -/
noncomputable def pairedNoninferiority (interval : PairedInterval) (margin : ℝ) :
    Except CalcError Noninferiority :=
  if ¬ (0 ≤ margin ∧ margin < 1) then
    .error (.valueError "margin must be a float from zero up to, but not including, one")
  else .ok ⟨margin, -margin, -margin < interval.lower, interval⟩

/-- `matched_comparison`. -/
structure Paired where
  completePairs : Nat
  incompletePairs : Nat
  outcomes : Dict String Nat
  noninferiority : Option Noninferiority

def Paired.empty : Paired := ⟨0, 0, Dict.empty, none⟩

/-- One case of the loop over the cases. -/
def Paired.add (paired : Paired) : Option String → Paired
  | none => { paired with incompletePairs := paired.incompletePairs + 1 }
  | some key =>
      { paired with
        completePairs := paired.completePairs + 1
        outcomes := paired.outcomes.increment key }

/-- The loop over the cases. -/
def pairCases (results : List Row) (arms : List String) : Paired :=
  (sortedSet (results.map Row.caseId)).foldl
    (fun paired caseId => paired.add (outcomeOf results arms caseId)) Paired.empty

/-! ### The summary -/

/-- The summary without the accounting of tokens. -/
structure Summary where
  planned : Nat
  passed : Nat
  failed : Nat
  invalidTasks : Nat
  unrun : Nat
  ungraded : Nat
  complete : Bool
  criticalFailures : Int
  validScoredTasks : Nat
  observedRate : Option ℝ
  pilotGatePassed : Prop
  wilson95Interval : Option (ℝ × ℝ)
  lowerBoundExceeds87Percent : Prop
  byModel : List (String × ModelSummary)
  byArm : Option (Dict String ArmSummary)
  matchedComparison : Option Paired
  matchedQualityGatePassed : Option Prop

/-- The summary before the comparison. -/
noncomputable def summarizeRows (results : List Row) (threshold : Threshold) :
    Except CalcError Summary := do
  let passed := countGrade "pass" results
  let failed := countGrade "fail" results
  let critical := ((results.filter fun row => decide (row.grade = "fail")).map Row.criticalTask).sum
  let invalid := countGrade "invalid_task" results
  let unrun := results.countP Row.unrun
  let complete := decide (unrun = 0)
  let strata ← (sortedSet (results.map Row.model)).mapM (summarizeModel results)
  let interval ← wilson passed (passed + failed)
  pure {
    planned := results.length
    passed := passed
    failed := failed
    invalidTasks := invalid
    unrun := unrun
    ungraded := invalid + unrun
    complete := complete
    criticalFailures := critical
    validScoredTasks := passed + failed
    observedRate := Evaluation.observedRate passed failed
    pilotGatePassed := complete = true ∧ (results.length : Int) = threshold.plannedTasks ∧
      invalid = 0 ∧ threshold.minimumFirstPass ≤ passed ∧
      critical ≤ threshold.criticalFailuresAllowed
    wilson95Interval := interval
    lowerBoundExceeds87Percent := complete = true ∧ invalid = 0 ∧ ∃ bounds ∈ interval, 0.87 < bounds.1
    byModel := strata
    byArm := none
    matchedComparison := none
    matchedQualityGatePassed := none }

/-- The key of a pair of outcomes. -/
def pairKey (allocation baseline first second : String) : String :=
  allocation ++ ":" ++ first ++ "/" ++ baseline ++ ":" ++ second

/-- The cells of the table, by the grades of the first arm and of the second. -/
def cell (paired : Paired) (allocation baseline first second : String) : Nat :=
  paired.outcomes.counted (pairKey allocation baseline first second)

/-- The gate of a matched comparison without incomplete pairs. -/
noncomputable def matchedGate (invCdf : ℝ → ℝ) (summary : Summary) (threshold : Threshold)
    (arms : List String) (arm : Dict String ArmSummary) (paired : Paired) (margin : ℝ)
    (minimumAllocationPasses : Option Int) : Except CalcError Summary :=
  match arms with
  | [allocation, baseline] => do
      let interval ← newcombePairedInterval invCdf
        (cell paired allocation baseline "pass" "pass")
        (cell paired allocation baseline "pass" "fail")
        (cell paired allocation baseline "fail" "pass")
        (cell paired allocation baseline "fail" "fail") 0.95
      let noninferiority ← pairedNoninferiority interval margin
      match minimumAllocationPasses with
      | none => .error (.valueError "A matched minimum pass count is required with a margin")
      | some minimum => do
          let passes := ((arm.get? allocation).map ArmSummary.passed).getD 0
          let gate := summary.complete = true ∧ (summary.planned : Int) = threshold.plannedTasks ∧
            summary.invalidTasks = 0 ∧
            summary.criticalFailures ≤ threshold.criticalFailuresAllowed ∧
            paired.incompletePairs = 0 ∧ minimum ≤ passes ∧ noninferiority.passed
          pure { summary with
            matchedComparison := some { paired with noninferiority := some noninferiority }
            matchedQualityGatePassed := some gate
            pilotGatePassed := gate }
  | _ => .error (.valueError "too many values to unpack (expected 2)")

/-- `summarize`; of the comparison it reads the arms. -/
noncomputable def summarize (invCdf : ℝ → ℝ) (results : List Row) (threshold : Option Threshold)
    (comparison : Option (List String)) (noninferiorityMargin : Option ℝ)
    (minimumAllocationPasses : Option Int) : Except CalcError Summary := do
  let limits := threshold.getD defaultThreshold
  let summary ← summarizeRows results limits
  match comparison with
  | none => pure summary
  | some arms =>
      let arm := byArm results arms
      let paired := pairCases results arms
      let matched := { summary with byArm := some arm, matchedComparison := some paired }
      match noninferiorityMargin with
      | none => pure matched
      | some margin =>
          let closed := { matched with
            matchedQualityGatePassed := some False
            pilotGatePassed := False }
          if paired.incompletePairs = 0 ∧ 0 < paired.completePairs then
            matchedGate invCdf closed limits arms arm paired margin minimumAllocationPasses
          else pure closed

/-! ### Counts add up -/

section Counting

variable {results : List Row}

/-- A grade is one of the four kinds. -/
theorem row_partition (row : Row) :
    (if decide (row.grade = "pass") then 1 else 0) + (if decide (row.grade = "fail") then 1 else 0) +
      (if decide (row.grade = "invalid_task") then 1 else 0) + (if row.unrun then 1 else 0) = 1 := by
  unfold Row.unrun Row.graded
  by_cases hpass : row.grade = "pass"
  · simp [hpass]
  · by_cases hfail : row.grade = "fail"
    · simp [hfail]
    · by_cases hinvalid : row.grade = "invalid_task"
      · simp [hinvalid]
      · simp [hpass, hfail, hinvalid]

/-- Every grade is counted once. -/
theorem grades_partition (results : List Row) :
    countGrade "pass" results + countGrade "fail" results + countGrade "invalid_task" results +
      results.countP Row.unrun = results.length := by
  unfold countGrade
  induction results with
  | nil => rfl
  | cons row rest ih =>
      have hrow := row_partition row
      simp only [List.countP_cons, List.length_cons]
      omega

theorem graded_iff (row : Row) : row.graded = true ↔ row.grade = "pass" ∨ row.grade = "fail" := by
  unfold Row.graded
  rw [Bool.or_eq_true, decide_eq_true_eq, decide_eq_true_eq]

/-- Nothing is left ungraded when there is nothing unrun and nothing invalid. -/
theorem all_graded (hinvalid : countGrade "invalid_task" results = 0)
    (hunrun : results.countP Row.unrun = 0) :
    ∀ row ∈ results, row.graded = true := by
  intro row hrow
  unfold countGrade at hinvalid
  rw [List.countP_eq_zero] at hinvalid hunrun
  have hvalid := hinvalid row hrow
  have hrun := hunrun row hrow
  rw [decide_eq_true_eq] at hvalid
  rw [Row.unrun, Bool.not_eq_true', Bool.not_eq_false, Bool.or_eq_true, decide_eq_true_eq] at hrun
  exact hrun.resolve_right hvalid

/-! ### The loop over the cases -/

/-- The cases by their outcomes. -/
def pairOutcomes (outcomes : List (Option String)) : Paired :=
  outcomes.foldl Paired.add Paired.empty

theorem pairCases_eq (results : List Row) (arms : List String) :
    pairCases results arms =
      pairOutcomes ((sortedSet (results.map Row.caseId)).map (outcomeOf results arms)) := by
  unfold pairCases pairOutcomes
  rw [List.foldl_map]

/-- What one case adds. -/
structure Paired.Adds (paired later : Paired) (outcome : Option String) : Prop where
  complete : later.completePairs = paired.completePairs + if outcome.isSome then 1 else 0
  incomplete : later.incompletePairs = paired.incompletePairs + if outcome.isSome then 0 else 1
  total : later.outcomes.values.sum = paired.outcomes.values.sum + if outcome.isSome then 1 else 0
  counted : ∀ key, later.outcomes.counted key =
    paired.outcomes.counted key + if outcome = some key then 1 else 0
  noninferiority : later.noninferiority = paired.noninferiority

/-- **Step lemma.** -/
theorem Paired.add_adds (paired : Paired) (outcome : Option String) :
    paired.Adds (paired.add outcome) outcome := by
  cases outcome with
  | none =>
      refine ⟨rfl, rfl, rfl, fun key => ?_, rfl⟩
      rw [if_neg (Option.some_ne_none key).symm]
      rfl
  | some found =>
      refine ⟨rfl, rfl, Dict.sum_increment, fun key => ?_, rfl⟩
      simp only [Option.some.injEq]
      exact Dict.counted_increment

/-- What the loop has counted. -/
structure Paired.Counts (paired : Paired) (outcomes : List (Option String)) : Prop where
  cases : paired.completePairs + paired.incompletePairs = outcomes.length
  complete : paired.completePairs =
    (outcomes.map fun outcome => if outcome.isSome then 1 else 0).sum
  incomplete : paired.incompletePairs = outcomes.countP Option.isNone
  total : paired.outcomes.values.sum = paired.completePairs
  counted : ∀ key, paired.outcomes.counted key =
    (outcomes.map fun outcome => if outcome = some key then 1 else 0).sum
  noninferiority : paired.noninferiority = none

/-- **Run lemma.** -/
theorem pairOutcomes_counts (outcomes : List (Option String)) :
    (pairOutcomes outcomes).Counts outcomes := by
  induction outcomes using List.reverseRecOn with
  | nil => exact ⟨rfl, rfl, rfl, rfl, fun _ => rfl, rfl⟩
  | append_singleton outcomes outcome ih =>
      have hlast : pairOutcomes (outcomes ++ [outcome]) = (pairOutcomes outcomes).add outcome := by
        unfold pairOutcomes
        rw [List.foldl_append]
        rfl
      rw [hlast]
      have hadds := (pairOutcomes outcomes).add_adds outcome
      refine ⟨?_, ?_, ?_, ?_, fun key => ?_, hadds.noninferiority.trans ih.noninferiority⟩
      · have hcases := ih.cases
        rw [hadds.complete, hadds.incomplete, List.length_append, List.length_singleton]
        split_ifs
        · omega
        · omega
      · rw [hadds.complete, ih.complete, List.map_append, List.sum_append, List.map_singleton,
          List.sum_singleton]
      · rw [hadds.incomplete, ih.incomplete, List.countP_append, List.countP_singleton]
        cases outcome with
        | none => rfl
        | some key => rfl
      · rw [hadds.total, hadds.complete, ih.total]
      · rw [hadds.counted, ih.counted, List.map_append, List.sum_append, List.map_singleton,
          List.sum_singleton]

theorem sortedSet_perm (values : List String) : (sortedSet values).Perm values.dedup :=
  List.mergeSort_perm _ _

theorem mem_sortedSet {values : List String} {value : String} :
    value ∈ sortedSet values ↔ value ∈ values := by
  rw [(sortedSet_perm values).mem_iff, List.mem_dedup]

theorem sortedSet_nodup (values : List String) : (sortedSet values).Nodup :=
  (sortedSet_perm values).nodup_iff.mpr values.nodup_dedup

theorem length_sortedSet (values : List String) : (sortedSet values).length = values.dedup.length :=
  (sortedSet_perm values).length_eq

end Counting

/-! ### Pairs -/

section Pairs

variable {results : List Row} {allocation baseline caseId : String}

/-- The last row of an arm is the only one when no arm is there twice. -/
theorem get?_armRows {rows : List Row} (hdistinct : (rows.map Row.arm).Nodup) :
    (∀ row ∈ rows, (armRows rows).get? row.arm = some row) ∧
      ∀ arm, arm ∈ (armRows rows).keys ↔ arm ∈ rows.map Row.arm := by
  unfold armRows
  induction rows using List.reverseRecOn with
  | nil => exact ⟨fun row hrow => (List.not_mem_nil hrow).elim, fun arm => Iff.rfl⟩
  | append_singleton rows row ih =>
      rw [List.map_append, List.map_singleton, List.nodup_append] at hdistinct
      obtain ⟨hrows, -, hfresh⟩ := hdistinct
      obtain ⟨hfound, hkeys⟩ := ih hrows
      rw [List.foldl_append, List.foldl_cons, List.foldl_nil]
      refine ⟨fun other hother => ?_, fun arm => ?_⟩
      · rcases List.mem_append.mp hother with hold | hnew
        · have hne : row.arm ≠ other.arm := fun hsame =>
            hfresh _ (List.mem_map_of_mem hold) _ (List.mem_singleton_self _) hsame.symm
          rw [Dict.get?_set_other hne]
          exact hfound other hold
        · obtain rfl := List.mem_singleton.mp hnew
          exact Dict.get?_set_self
      · have hnot : row.arm ∉ (rows.foldl (fun found row => found.set row.arm row)
            Dict.empty).keys := by
          rw [hkeys]
          exact fun hmem => hfresh _ hmem _ (List.mem_singleton_self _) rfl
        rw [Dict.keys_set, if_neg hnot, List.mem_append, hkeys, List.map_append, List.mem_append,
          List.map_singleton]

/-- Every case has one row under each of the two arms. -/
def PairedResults (allocation baseline : String) (results : List Row) : Prop :=
  ∀ caseId ∈ results.map Row.caseId, [allocation, baseline].Perm
    ((results.filter fun row => decide (row.caseId = caseId)).map Row.arm)

/-- The two rows of a case. -/
structure CasePair (results : List Row) (allocation baseline caseId : String)
    (first second : Row) : Prop where
  first_arm : first.arm = allocation
  second_arm : second.arm = baseline
  rows : [first, second].Perm (results.filter fun row => decide (row.caseId = caseId))

theorem perm_pair {first second left right : String} (h : [first, second].Perm [left, right]) :
    left = first ∧ right = second ∨ right = first ∧ left = second := by
  rcases List.mem_cons.mp (h.mem_iff.mp List.mem_cons_self) with hleft | hright
  · subst hleft
    have hrest := List.singleton_perm_singleton.mp ((List.perm_cons first).mp h)
    exact Or.inl ⟨rfl, hrest.symm⟩
  · obtain rfl := List.mem_singleton.mp hright
    have hrest := (List.perm_cons first).mp (h.trans (List.Perm.swap first left []))
    exact Or.inr ⟨rfl, (List.singleton_perm_singleton.mp hrest).symm⟩

theorem exists_casePair (h : PairedResults allocation baseline results)
    (hcase : caseId ∈ results.map Row.caseId) :
    ∃ first second, CasePair results allocation baseline caseId first second := by
  have hperm := h caseId hcase
  generalize hrows : (results.filter fun row => decide (row.caseId = caseId)) = rows at hperm
  have hlength := hperm.length_eq
  rw [List.length_map] at hlength
  match rows, hlength with
  | [row, other], _ =>
      rcases perm_pair hperm with ⟨hfirst, hsecond⟩ | ⟨hfirst, hsecond⟩
      · exact ⟨row, other, hfirst, hsecond, hrows ▸ List.Perm.refl _⟩
      · exact ⟨other, row, hfirst, hsecond, hrows ▸ List.Perm.swap row other []⟩

theorem outcomeKey_pair (grade : String → String) :
    outcomeKey [allocation, baseline] grade =
      pairKey allocation baseline (grade allocation) (grade baseline) := by
  show allocation ++ ":" ++ grade allocation ++ "/" ++ (baseline ++ ":" ++ grade baseline) = _
  rw [← String.append_assoc, ← String.append_assoc]
  rfl

/-- Keys tell grades apart. -/
theorem pairKey_iff {first second first' second' : String}
    (hlength : first.toList.length = first'.toList.length) :
    pairKey allocation baseline first second = pairKey allocation baseline first' second' ↔
      first = first' ∧ second = second' := by
  constructor
  · intro h
    have hchars := congrArg String.toList h
    simp only [pairKey, String.toList_append, List.append_assoc] at hchars
    have hgrades := List.append_cancel_left (List.append_cancel_left hchars)
    obtain ⟨hfirst, hrest⟩ := List.append_inj hgrades hlength
    have hsecond := List.append_cancel_left (List.append_cancel_left (List.append_cancel_left hrest))
    exact ⟨String.toList_inj.mp hfirst, String.toList_inj.mp hsecond⟩
  · rintro ⟨rfl, rfl⟩
    rfl

/-- **The outcome of a pair.** -/
theorem outcomeOf_pair {first second : Row} (hne : allocation ≠ baseline)
    (h : CasePair results allocation baseline caseId first second) :
    outcomeOf results [allocation, baseline] caseId =
      if first.graded ∧ second.graded then
        some (pairKey allocation baseline first.grade second.grade)
      else none := by
  have harms : ((results.filter fun row => decide (row.caseId = caseId)).map Row.arm).Perm
      [allocation, baseline] := by
    have hmapped := (h.rows.map Row.arm).symm
    rwa [List.map_cons, List.map_singleton, h.first_arm, h.second_arm] at hmapped
  have hdistinct : ((results.filter fun row => decide (row.caseId = caseId)).map Row.arm).Nodup := by
    rw [harms.nodup_iff, List.nodup_cons, List.mem_singleton]
    exact ⟨hne, List.nodup_singleton baseline⟩
  obtain ⟨hfound, hkeys⟩ := get?_armRows hdistinct
  have hfirst := hfound first (h.rows.mem_iff.mp List.mem_cons_self)
  have hsecond := hfound second (h.rows.mem_iff.mp (List.mem_cons_of_mem _ List.mem_cons_self))
  rw [h.first_arm] at hfirst
  rw [h.second_arm] at hsecond
  have hall : ((armRows (results.filter fun row => decide (row.caseId = caseId))).keys.all fun arm =>
      decide (arm ∈ [allocation, baseline])) = true := by
    rw [List.all_eq_true]
    intro arm harm
    rw [decide_eq_true_eq, ← harms.mem_iff, ← hkeys]
    exact harm
  unfold outcomeOf
  simp only [hall, Bool.true_and, List.all_cons, List.all_nil, Bool.and_true, hfirst, hsecond,
    Option.any_some, Bool.and_eq_true, outcomeKey_pair, Option.elim_some]

/-- The passes of an arm, case by case. -/
theorem passed_eq_sum (results : List Row) (arm : String) :
    (summarizeArm results arm).passed =
      ((sortedSet (results.map Row.caseId)).map fun caseId =>
        (results.filter fun row => decide (row.caseId = caseId)).countP fun row =>
          decide (row.grade = "pass") && decide (row.arm = arm)).sum := by
  show (results.filter fun row => decide (row.arm = arm)).countP
    (fun row => decide (row.grade = "pass")) = _
  rw [List.countP_filter]
  apply countP_eq_sum (sortedSet_nodup _)
  intro row hrow
  exact mem_sortedSet.mpr (List.mem_map_of_mem hrow)

/-- A pair counts in the margin of an arm when that arm passed. -/
theorem CasePair.counts {first second : Row} (hne : allocation ≠ baseline)
    (h : CasePair results allocation baseline caseId first second) :
    ((results.filter fun row => decide (row.caseId = caseId)).countP fun row =>
        decide (row.grade = "pass") && decide (row.arm = allocation)) =
          (if first.grade = "pass" then 1 else 0) ∧
      ((results.filter fun row => decide (row.caseId = caseId)).countP fun row =>
        decide (row.grade = "pass") && decide (row.arm = baseline)) =
          (if second.grade = "pass" then 1 else 0) := by
  have hne' : ¬ baseline = allocation := fun hsame => hne hsame.symm
  rw [← h.rows.countP_eq, ← h.rows.countP_eq]
  simp [List.countP_cons, h.first_arm, h.second_arm, hne, hne']

/-- The cells of a complete pair. -/
theorem cells_of_graded {first second : Row} (hfirst : first.graded = true)
    (hsecond : second.graded = true) :
    (if pairKey allocation baseline first.grade second.grade = pairKey allocation baseline "pass" "pass"
        then 1 else 0) +
      (if pairKey allocation baseline first.grade second.grade =
        pairKey allocation baseline "pass" "fail" then 1 else 0) =
          (if first.grade = "pass" then 1 else 0) ∧
    (if pairKey allocation baseline first.grade second.grade = pairKey allocation baseline "pass" "pass"
        then 1 else 0) +
      (if pairKey allocation baseline first.grade second.grade =
        pairKey allocation baseline "fail" "pass" then 1 else 0) =
          (if second.grade = "pass" then 1 else 0) := by
  rcases (graded_iff first).mp hfirst with h | h
  · rcases (graded_iff second).mp hsecond with h' | h'
    · simp [h, h', pairKey_iff]
    · simp [h, h', pairKey_iff]
  · rcases (graded_iff second).mp hsecond with h' | h'
    · simp [h, h', pairKey_iff]
    · simp [h, h', pairKey_iff]

/-- Every complete pair is in one of the four cells. -/
theorem cells_of_outcome {first second : Row} :
    (if first.graded ∧ second.graded then
        some (pairKey allocation baseline first.grade second.grade)
      else none).elim 0 (fun key =>
        (if key = pairKey allocation baseline "pass" "pass" then 1 else 0) +
          (if key = pairKey allocation baseline "pass" "fail" then 1 else 0) +
          (if key = pairKey allocation baseline "fail" "pass" then 1 else 0) +
          (if key = pairKey allocation baseline "fail" "fail" then 1 else 0)) =
      if first.graded ∧ second.graded then 1 else 0 := by
  by_cases hgraded : first.graded ∧ second.graded
  · rw [if_pos hgraded, if_pos hgraded, Option.elim_some]
    rcases (graded_iff first).mp hgraded.1 with h | h
    · rcases (graded_iff second).mp hgraded.2 with h' | h'
      · simp [h, h', pairKey_iff]
      · simp [h, h', pairKey_iff]
    · rcases (graded_iff second).mp hgraded.2 with h' | h'
      · simp [h, h', pairKey_iff]
      · simp [h, h', pairKey_iff]
  · rw [if_neg hgraded, if_neg hgraded, Option.elim_none]

/-- **Cells.**  The four cells are the complete pairs. -/
theorem cells_sum (hne : allocation ≠ baseline)
    (hpaired : PairedResults allocation baseline results) :
    cell (pairCases results [allocation, baseline]) allocation baseline "pass" "pass" +
        cell (pairCases results [allocation, baseline]) allocation baseline "pass" "fail" +
        cell (pairCases results [allocation, baseline]) allocation baseline "fail" "pass" +
        cell (pairCases results [allocation, baseline]) allocation baseline "fail" "fail" =
      (pairCases results [allocation, baseline]).completePairs := by
  have hcounts := pairOutcomes_counts ((sortedSet (results.map Row.caseId)).map
    (outcomeOf results [allocation, baseline]))
  rw [← pairCases_eq] at hcounts
  unfold cell
  simp only [hcounts.counted, hcounts.complete, List.map_map, ← List.sum_map_add]
  congr 1
  apply List.map_congr_left
  intro caseId hmem
  obtain ⟨first, second, hpair⟩ := exists_casePair hpaired (mem_sortedSet.mp hmem)
  have hcells := @cells_of_outcome allocation baseline first second
  simp only [Function.comp, outcomeOf_pair hne hpair]
  by_cases hgraded : first.graded ∧ second.graded
  · simp only [if_pos hgraded, Option.elim_some, Option.some.injEq, Option.isSome_some, if_true]
      at hcells ⊢
    exact hcells
  · simp [if_neg hgraded]

/-- **Marginals.**  When no pair is incomplete, the margins of the table are the passes of
the arms. -/
theorem cells_marginals (hne : allocation ≠ baseline)
    (hpaired : PairedResults allocation baseline results)
    (hcomplete : (pairCases results [allocation, baseline]).incompletePairs = 0) :
    cell (pairCases results [allocation, baseline]) allocation baseline "pass" "pass" +
        cell (pairCases results [allocation, baseline]) allocation baseline "pass" "fail" =
          (summarizeArm results allocation).passed ∧
      cell (pairCases results [allocation, baseline]) allocation baseline "pass" "pass" +
        cell (pairCases results [allocation, baseline]) allocation baseline "fail" "pass" =
          (summarizeArm results baseline).passed := by
  rw [pairCases_eq] at hcomplete ⊢
  have hcounts := pairOutcomes_counts ((sortedSet (results.map Row.caseId)).map
    (outcomeOf results [allocation, baseline]))
  rw [hcounts.incomplete, List.countP_eq_zero] at hcomplete
  have hcase : ∀ caseId ∈ sortedSet (results.map Row.caseId), ∃ first second,
      CasePair results allocation baseline caseId first second ∧ first.graded = true ∧
        second.graded = true ∧ outcomeOf results [allocation, baseline] caseId =
          some (pairKey allocation baseline first.grade second.grade) := by
    intro caseId hmem
    obtain ⟨first, second, hpair⟩ := exists_casePair hpaired (mem_sortedSet.mp hmem)
    have houtcome := outcomeOf_pair hne hpair
    have hsome := hcomplete _ (List.mem_map_of_mem hmem)
    rw [houtcome] at hsome ⊢
    by_cases hgraded : first.graded ∧ second.graded
    · rw [if_pos hgraded]
      exact ⟨first, second, hpair, hgraded.1, hgraded.2, rfl⟩
    · rw [if_neg hgraded] at hsome
      exact absurd rfl hsome
  unfold cell
  simp only [hcounts.counted, List.map_map, passed_eq_sum, ← List.sum_map_add]
  -- both margins are compared case by case
  constructor
  · congr 1
    apply List.map_congr_left
    intro caseId hmem
    obtain ⟨first, second, hpair, hfirst, hsecond, houtcome⟩ := hcase caseId hmem
    rw [(hpair.counts hne).1, ← (@cells_of_graded allocation baseline _ _ hfirst hsecond).1]
    simp only [Function.comp, houtcome, Option.some.injEq]
  · congr 1
    apply List.map_congr_left
    intro caseId hmem
    obtain ⟨first, second, hpair, hfirst, hsecond, houtcome⟩ := hcase caseId hmem
    rw [(hpair.counts hne).2, ← (@cells_of_graded allocation baseline _ _ hfirst hsecond).2]
    simp only [Function.comp, houtcome, Option.some.injEq]

end Pairs

end Evaluation
end Ryuk

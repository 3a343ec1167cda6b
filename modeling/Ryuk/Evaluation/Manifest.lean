import Ryuk.Foundation.Grouping
import Ryuk.Foundation.Text
import Ryuk.Workflows.Contracts

/-!
# Manifests of matched comparisons

What `validate_manifest` checks of a manifest that declares comparison arms.  A
manifest that passes lists every case once under every arm.
-/

namespace Ryuk
namespace Evaluation

open Foundation Foundation.Json Foundation.Text Workflows

/-! ### Checks -/

/-- `comparison.get("arms")`, as unique nonblank strings. -/
def comparisonArms (comparison : List (String × Json)) : Except PyError (List String) :=
  match lookup "arms" comparison with
  | some (.arr items) =>
      match items.mapM asString with
      | some arms => do
          ensure (decide (2 ≤ arms.length) && arms.all fun arm => !isBlank arm)
            (.valueError "Comparison arms must be unique nonblank strings")
          ensure (decide arms.Nodup)
            (.valueError "Comparison arms must be unique nonblank strings")
          pure arms
      | none => throw (.valueError "Comparison arms must be unique nonblank strings")
  | _ => throw (.valueError "Comparison arms must be unique nonblank strings")

/-- A task of a comparison: its id, its case, its arm and all its fields. -/
structure ComparisonTask where
  id : String
  caseId : String
  arm : String
  fields : List (String × Json)

/-- One task, with the ids of those before it. -/
def comparisonTask (arms taskIds : List String) (task : Json) : Except PyError ComparisonTask :=
  match task with
  | .obj fields =>
      match lookup "case_id" fields, lookup "arm" fields with
      | some (.str caseId), some (.str arm) => do
          ensure (!isBlank caseId && decide (arm ∈ arms))
            (.valueError "Every comparison task needs a valid case_id and arm")
          match lookup "id" fields with
          | some (.str taskId) => do
              ensure (!isBlank taskId && decide (taskId ∉ taskIds))
                (.valueError "Comparison task IDs must be unique nonblank strings")
              pure ⟨taskId, caseId, arm, fields⟩
          | _ => throw (.valueError "Comparison task IDs must be unique nonblank strings")
      | _, _ => throw (.valueError "Every comparison task needs a valid case_id and arm")
  | _ => throw .attributeError

/-- The tasks of a comparison. -/
def comparisonTasks (arms : List String) :
    List String → List Json → Except PyError (List ComparisonTask)
  | _, [] => pure []
  | taskIds, task :: rest => do
      let read ← comparisonTask arms taskIds task
      let others ← comparisonTasks arms (read.id :: taskIds) rest
      pure (read :: others)

/-- The fields that do not depend on the arm. -/
def matchedFields : List String :=
  ["prompt", "expected", "checks", "review_criteria", "critical", "category", "stratum", "source"]

/-- `task.get(field) != reference.get(field)`. -/
def differs (reference task : ComparisonTask) (field : String) : Bool :=
  !pyEq ((lookup field task.fields).getD .null) ((lookup field reference.fields).getD .null)

/-- `for field in (...)` on one task. -/
def checkMatched (caseId : String) (reference task : ComparisonTask) : Except PyError Unit :=
  match matchedFields.find? (differs reference task) with
  | some field =>
      throw (.valueError s!"Case {caseId} differs across arms for field {field}")
  | none => pure ()

/-- One case: its tasks have the declared arms, one each, and agree otherwise. -/
def checkCase (arms : List String) (group : String × List ComparisonTask) : Except PyError Unit := do
  let names := group.2.map ComparisonTask.arm
  ensure ((names.all fun arm => decide (arm ∈ arms)) && (arms.all fun arm => decide (arm ∈ names)) &&
      decide (names.length = arms.length))
    (.valueError s!"Case {group.1} must occur exactly once in every arm")
  match group.2 with
  | [] => throw (.valueError "list index out of range")
  | reference :: rest => rest.forM (checkMatched group.1 reference)

/-- The comparison of a manifest, with its arms and its tasks. -/
structure Comparison where
  arms : List String
  tasks : List ComparisonTask

/-- The part of `validate_manifest` behind `if comparison is None`. -/
def validateComparison (manifest comparison : List (String × Json)) :
    Except PyError Comparison := do
  let arms ← comparisonArms comparison
  ensure (decide (lookup "require_complete_pairs" comparison = some (.bool true)))
    (.valueError "Matched comparison must require complete pairs")
  match lookup "baseline_arm" comparison with
  | some (.str baseline) => do
      ensure (decide (baseline ∈ arms))
        (.valueError "Comparison baseline_arm must name a declared arm")
      let listed ← subscript (.obj manifest) "tasks"
      let items ← tupleOf listed
      let tasks ← comparisonTasks arms [] items
      (groupBy ComparisonTask.caseId tasks).entries.forM (checkCase arms)
      pure ⟨arms, tasks⟩
  | _ => throw (.valueError "Comparison baseline_arm must name a declared arm")

/-- `validate_manifest`; what it read of the comparison, if there is one. -/
def validateManifest (manifest : List (String × Json)) : Except PyError (Option Comparison) :=
  match lookup "comparison" manifest with
  | none | some .null => pure none
  | some (.obj comparison) => some <$> validateComparison manifest comparison
  | some _ => throw (.valueError "Comparison configuration must be an object")

/-! ### What passes -/

/-- Every case of the tasks occurs once under every arm. -/
def Matched (arms : List String) (tasks : List ComparisonTask) : Prop :=
  ∀ caseId ∈ tasks.map ComparisonTask.caseId,
    arms.Perm ((tasks.filter fun task => decide (task.caseId = caseId)).map ComparisonTask.arm)

theorem comparisonArms_nodup {comparison : List (String × Json)} {arms : List String}
    (h : comparisonArms comparison = .ok arms) : arms.Nodup := by
  unfold comparisonArms at h
  split at h
  · split at h
    · simp only [ensure_bind_ok, decide_eq_true_eq] at h
      obtain ⟨-, hnodup, hsame⟩ := h
      rw [← Except.ok.inj hsame]
      exact hnodup
    · cases h
  · cases h

/-- A case that passes has the arms, in some order. -/
theorem checkCase_perm {arms : List String} {group : String × List ComparisonTask}
    (hnodup : arms.Nodup) (h : checkCase arms group = .ok ()) :
    arms.Perm (group.2.map ComparisonTask.arm) := by
  unfold checkCase at h
  simp only [ensure_bind_ok, Bool.and_eq_true, List.all_eq_true, decide_eq_true_eq] at h
  obtain ⟨⟨⟨-, hsubset⟩, hlength⟩, -⟩ := h
  exact (List.subperm_of_subset hnodup hsubset).perm_of_length_le (Nat.le_of_eq hlength)

theorem forM_ok {α : Type} {check : α → Except PyError Unit} {items : List α}
    (h : items.forM check = .ok ()) : ∀ item ∈ items, check item = .ok () := by
  induction items with
  | nil => exact fun _ hitem => (List.not_mem_nil hitem).elim
  | cons first rest ih =>
      change (check first >>= fun _ => rest.forM check) = .ok () at h
      rw [except_bind_ok] at h
      obtain ⟨_, hfirst, hrest⟩ := h
      intro item hitem
      rcases List.mem_cons.mp hitem with rfl | hitem
      · exact hfirst
      · exact ih hrest item hitem

/-- **Validation.**  What passes has distinct arms and lists every case once under each. -/
theorem validateManifest_matched {manifest : List (String × Json)} {comparison : Comparison}
    (h : validateManifest manifest = .ok (some comparison)) :
    comparison.arms.Nodup ∧ Matched comparison.arms comparison.tasks := by
  unfold validateManifest at h
  split at h
  · cases h
  · cases h
  · rename_i declared _
    obtain ⟨found, hfound, hsame⟩ : ∃ found, validateComparison manifest declared = .ok found ∧
        some found = some comparison := by
      cases hvalidated : validateComparison manifest declared with
      | error error =>
          rw [hvalidated] at h
          cases h
      | ok found =>
          rw [hvalidated] at h
          exact ⟨found, rfl, Except.ok.inj h⟩
    obtain rfl := Option.some.inj hsame
    unfold validateComparison at hfound
    simp only [except_bind_ok] at hfound
    obtain ⟨arms, harms, _, -, hfound⟩ := hfound
    split at hfound
    · simp only [except_bind_ok] at hfound
      obtain ⟨_, -, listed, -, items, -, tasks, -, _, hcases, hcomparison⟩ := hfound
      obtain rfl := Except.ok.inj hcomparison
      have hnodup := comparisonArms_nodup harms
      refine ⟨hnodup, fun caseId hcase => ?_⟩
      exact checkCase_perm hnodup (forM_ok hcases _ (exists_group hcase))
    · cases hfound
  · cases h

end Evaluation
end Ryuk

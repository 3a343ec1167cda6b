import Ryuk.Workflows.Invariants

/-!
# Guarantees for single-task workflows

At most once: a workflow is claimed, dispatched, answered and decided at most
once, and what ended stays as it ended.  Acceptance: a workflow is succeeded or
rejected exactly when its one report says so, the report is bound to its one
artifact and to the bound policy, and no later validation changes it.
-/

namespace Ryuk
namespace Workflows

open Foundation Foundation.Json Foundation.Transaction Audit

variable {platform : Platform} {tables : Tables} {workflowId : String} {view : View}
  {row : WorkflowRow}

/-! ### At most once -/

/-- A call that claims a workflow, and returns. -/
def claims (platform : Platform) (workflowId : String) (tables : Tables) (call : Call) : Bool :=
  match call with
  | .claim _ target _ _ _ =>
      decide (target = workflowId) && ((store platform).answer tables call).isOk
  | _ => false

/-- A workflow that was started or ended. -/
def Started (workflowId : String) (tables : Tables) : Prop :=
  ∃ row, (tables.view workflowId).row = some row ∧ row.state ≠ .ready

/-- A claim that returns started a ready workflow. -/
theorem claims_started {call : Call} (h : claims platform workflowId tables call = true) :
    (∃ row, (tables.view workflowId).row = some row ∧ row.state = .ready) ∧
      Started workflowId ((store platform).next tables call) := by
  cases call with
  | claim tenant target owner leaseSeconds now =>
      simp only [claims, Bool.and_eq_true, decide_eq_true_eq] at h
      obtain ⟨rfl, hok⟩ := h
      obtain ⟨answer, hanswer⟩ := isOk_iff.mp hok
      obtain ⟨fence, hclaim, -⟩ := map_ok.mp (body_of_answer hanswer)
      obtain ⟨row, expiry, hrow, -, hstate, -, hmoves⟩ := claim_ok hclaim
      refine ⟨⟨row, hrow, hstate⟩, row.claimed owner expiry, ?_, ?_⟩
      · rw [hmoves.self]
        rfl
      · change WorkflowState.running ≠ .ready
        decide
  | create _ _ _ _ _ | beginDispatch _ _ _ _ _ _ | recordOutcome _ _ _ _ _ _ _
  | complete _ _ _ _ _ _ _ _ | reconcileUncertain _ _ _ | validate _ _ _ | cancel _ _
  | recoverExpired _ _ | recoverStartup _ _ _ => cases h

theorem started_next (tables : Tables) (call : Call) (h : AllValid platform tables)
    (hstarted : Started workflowId tables) :
    Started workflowId ((store platform).next tables call) := by
  obtain ⟨row, hrow, hstate⟩ := hstarted
  obtain ⟨row', hrow', hadvance⟩ := (next_advances tables call h workflowId).row row hrow
  exact ⟨row', hrow', hadvance.started hstate⟩

/-- A workflow is claimed at most once in a run. -/
theorem claims_le_one (h : AllValid platform tables) (workflowId : String) (calls : List Call) :
    (store platform).count (claims platform workflowId) tables calls ≤ 1 := by
  have hspent : ∀ state call, AllValid platform state → Started workflowId state →
      Started workflowId ((store platform).next state call) := started_next
  refine Machine.count_le_one next_valid hspent ?_ ?_ h calls
  · intro state call _ hstarted
    by_contra hclaims
    obtain ⟨⟨row, hrow, hready⟩, -⟩ := claims_started (by simpa using hclaims)
    obtain ⟨row', hrow', hstate⟩ := hstarted
    rw [hrow, Option.some.injEq] at hrow'
    exact hstate (hrow' ▸ hready)
  · intro state call _ hclaims
    exact (claims_started hclaims).2

theorem Valid.artifacts_length (h : Valid platform workflowId view) : view.artifacts.length ≤ 1 := by
  cases hrow : view.row with
  | none =>
      rw [h.absent hrow]
      exact Nat.zero_le 1
  | some row =>
      rcases h.bare_or_committed hrow with hbare | ⟨succeeded, artifact, hcommitted⟩
      · rw [hbare.1]
        exact Nat.zero_le 1
      · rw [hcommitted.only]
        exact Nat.le_refl 1

/-- What a later row keeps of an earlier one of the same workflow. -/
structure Kept (tables later : Tables) (workflowId : String) (row row' : WorkflowRow) : Prop where
  fence : row.fence ≤ row'.fence
  started : row.state ≠ .ready → row'.state ≠ .ready
  ended : Final row.state → row'.state = row.state ∧ row'.fence = row.fence ∧
    row'.resultArtifactId = row.resultArtifactId ∧
    later.dispatches.find workflowId = tables.dispatches.find workflowId ∧
    later.validations.find workflowId = tables.validations.find workflowId

/-- **At most once.**  In every run of the store from empty tables, every
workflow is claimed at most once and has at most one journal row, artifact and
report; and whatever the store does next, its fence does not decrease, it is not
made ready again, and once it has ended nothing about its end changes. -/
theorem single_task_at_most_once (platform : Platform) (workflowId : String)
    (calls later : List Call) :
    let tables := (store platform).after Tables.empty calls
    let final := (store platform).after tables later
    (store platform).count (claims platform workflowId) Tables.empty calls ≤ 1 ∧
      (tables.dispatches.select fun row => decide (row.workflowId = workflowId)).length ≤ 1 ∧
      (tables.artifacts.select fun row => decide (row.workflowId = workflowId)).length ≤ 1 ∧
      (tables.validations.select fun row => decide (row.workflowId = workflowId)).length ≤ 1 ∧
      ∀ row, tables.workflows.find workflowId = some row →
        ∃ row', final.workflows.find workflowId = some row' ∧
          Kept tables final workflowId row row' := by
  intro tables final
  have hvalid : AllValid platform tables := reachable_valid ⟨calls, rfl⟩
  refine ⟨claims_le_one empty_valid workflowId calls,
    Table.select_key_length_le_one tables.dispatches workflowId,
    (hvalid workflowId).artifacts_length,
    Table.select_key_length_le_one tables.validations workflowId, ?_⟩
  intro row hrow
  obtain ⟨row', hrow', hadvance⟩ := (after_advances hvalid later workflowId).row row hrow
  refine ⟨row', hrow', hadvance.fence, hadvance.started, fun hfinal => ?_⟩
  obtain ⟨hstate, hfence, hartifact, hvalidation, hdispatch⟩ := hadvance.final hfinal
  exact ⟨hstate, hfence, hartifact, hdispatch, hvalidation⟩

/-! ### Acceptance -/

/-- The report stored for a workflow. -/
def Reported (tables : Tables) (workflowId : String) (report : Json) : Prop :=
  ∃ row, tables.validations.find workflowId = some row ∧ loads row.reportJson = some report

/-- What a report says about the one artifact and the policy of a workflow. -/
structure Bound (platform : Platform) (tables : Tables) (workflowId : String) (row : WorkflowRow)
    (report : Json) (artifact : ArtifactRow) : Prop where
  only : (tables.artifacts.select fun row => decide (row.workflowId = workflowId)) = [artifact]
  named : row.resultArtifactId = some artifact.id
  names : report.get? "artifact" = some (artifactDict artifact.id artifact.sha256)
  digest : platform.sha256 artifact.contentJson = artifact.sha256
  policy : ∀ bound, tables.bindings.find workflowId = some bound →
    ∃ snapshot, bound.Policy snapshot ∧ report.get? "policy" = some snapshot

/-- A decided workflow has the report of its decision. -/
theorem Decided.reported {artifact : ArtifactRow} {accepted : Bool} {snapshot : Json}
    {findings : List Json} {reportJson : String}
    (hcommitted : Committed platform (tables.view workflowId) row true artifact)
    (h : Decided (tables.view workflowId) row artifact accepted snapshot findings reportJson) :
    ∃ report, Reported tables workflowId report ∧
      report.get? "decision" = some (.str (if accepted then "accepted" else "rejected")) ∧
      Bound platform tables workflowId row report artifact := by
  obtain ⟨fields, hfields, hnodup, hdecision, hartifact, hpolicy⟩ :=
    reportDict_keys_nodup artifact.ref snapshot findings
  have hprinted := h.printed
  rw [hfields] at hprinted
  refine ⟨canon (.obj fields), ⟨_, h.report, loads_dumps hprinted⟩, ?_, hcommitted.only,
    hcommitted.named, ?_, hcommitted.digest.symm, fun bound hbound => ⟨snapshot, ?_, ?_⟩⟩
  · rw [get?_canon hnodup, hdecision, h.decision]
    rfl
  · rw [get?_canon hnodup, hartifact]
    exact congrArg some (artifactDict_canonical _ _)
  · exact h.bound bound hbound
  · rw [get?_canon hnodup, hpolicy]
    exact congrArg some h.canonical

/-- A workflow with a report is decided. -/
theorem Valid.decided (h : Valid platform workflowId (tables.view workflowId))
    (hrow : (tables.view workflowId).row = some row)
    (hreport : (tables.view workflowId).validation ≠ none) :
    ∃ (accepted : Bool) (artifact : ArtifactRow) (snapshot : Json) (findings : List Json)
      (reportJson : String), row.state = (if accepted then .succeeded else .rejected) ∧
      Committed platform (tables.view workflowId) row true artifact ∧
      Decided (tables.view workflowId) row artifact accepted snapshot findings reportJson := by
  have hstage := h.stage row hrow
  unfold Stage at hstage
  cases hstate : row.state with
  | ready | running =>
      rw [hstate] at hstage
      exact absurd hstage.2.2.2.2.1 hreport
  | uncertain =>
      rw [hstate] at hstage
      exact absurd hstage.2.2.2.1 hreport
  | awaitingValidation | failed | cancelled =>
      rw [hstate] at hstage
      exact absurd hstage.2.2.1 hreport
  | succeeded =>
      rw [hstate] at hstage
      obtain ⟨-, -, artifact, snapshot, findings, reportJson, hcommitted, hdecided⟩ := hstage
      exact ⟨true, artifact, snapshot, findings, reportJson, rfl, hcommitted, hdecided⟩
  | rejected =>
      rw [hstate] at hstage
      obtain ⟨-, -, artifact, snapshot, findings, reportJson, hcommitted, hdecided⟩ := hstage
      exact ⟨false, artifact, snapshot, findings, reportJson, rfl, hcommitted, hdecided⟩

/-- A report belongs to a workflow decided the way it says. -/
theorem decided_of_reported (h : AllValid platform tables) {report : Json}
    (hreported : Reported tables workflowId report) :
    ∃ (accepted : Bool) (row : WorkflowRow) (artifact : ArtifactRow),
      tables.workflows.find workflowId = some row ∧
      (tables.workflows.find workflowId).map WorkflowRow.state =
        some (if accepted then .succeeded else .rejected) ∧
      report.get? "decision" = some (.str (if accepted then "accepted" else "rejected")) ∧
      Bound platform tables workflowId row report artifact := by
  obtain ⟨recorded, hrecorded, hloads⟩ := hreported
  have hsome : (tables.view workflowId).validation ≠ none := by
    change tables.validations.find workflowId ≠ none
    rw [hrecorded]
    exact Option.some_ne_none _
  cases hrow : tables.workflows.find workflowId with
  | none =>
      have habsent := (h workflowId).absent hrow
      rw [habsent] at hsome
      exact absurd rfl hsome
  | some row =>
      obtain ⟨accepted, artifact, snapshot, findings, reportJson, hstate, hcommitted, hdecided⟩ :=
        (h workflowId).decided hrow hsome
      obtain ⟨found, ⟨recorded', hrecorded', hloads'⟩, hdecision, hbound⟩ :=
        hdecided.reported hcommitted
      rw [hrecorded, Option.some.injEq] at hrecorded'
      subst hrecorded'
      obtain rfl : report = found := Option.some.inj (hloads.symm.trans hloads')
      exact ⟨accepted, row, artifact, rfl, congrArg some hstate, hdecision, hbound⟩

/-- A decided workflow has a report that says so. -/
theorem reported_of_decided (h : AllValid platform tables) {accepted : Bool}
    (hstate : (tables.workflows.find workflowId).map WorkflowRow.state =
      some (if accepted then .succeeded else .rejected)) :
    ∃ report, Reported tables workflowId report ∧
      report.get? "decision" = some (.str (if accepted then "accepted" else "rejected")) := by
  obtain ⟨row, hrow, hrowstate⟩ := Option.map_eq_some_iff.mp hstate
  have hstage := (h workflowId).stage row hrow
  unfold Stage at hstage
  rw [hrowstate] at hstage
  cases accepted with
  | true =>
      obtain ⟨-, -, artifact, _, _, _, hcommitted, hdecided⟩ := hstage
      obtain ⟨report, hreported, hdecision, -⟩ := hdecided.reported hcommitted
      exact ⟨report, hreported, hdecision⟩
  | false =>
      obtain ⟨-, -, artifact, _, _, _, hcommitted, hdecided⟩ := hstage
      obtain ⟨report, hreported, hdecision, -⟩ := hdecided.reported hcommitted
      exact ⟨report, hreported, hdecision⟩

/-- What a validation call did to a reported workflow: it repeated the report or
raised, and changed nothing. -/
def Repeats (platform : Platform) (tables : Tables) (call : Call) (report : Json) : Prop :=
  (store platform).next tables call = tables ∧
    ((store platform).answer tables call = .ok (.report report) ∨
      ∃ error, (store platform).answer tables call = .error error)

theorem validate_repeats (h : AllValid platform tables) {report : Json}
    (hreported : Reported tables workflowId report) (tenant : String)
    (policy : Option ValidationPolicy) :
    Repeats platform tables (.validate tenant workflowId policy) report := by
  obtain ⟨recorded, hrecorded, hloads⟩ := hreported
  have hview : (tables.view workflowId).validation = some recorded := hrecorded
  cases hanswer : (store platform).answer tables (.validate tenant workflowId policy) with
  | error error => exact ⟨next_of_error hanswer, Or.inr ⟨error, hanswer⟩⟩
  | ok answer =>
      obtain ⟨found, hvalidate, rfl⟩ := map_ok.mp (body_of_answer hanswer)
      rcases validate_ok hvalidate with ⟨hsame, previous, hprevious, hfound⟩ | ⟨row, artifact,
        snapshot, findings, reportJson, hrow, -, hstate, -⟩
      · rw [hview, Option.some.injEq] at hprevious
        subst hprevious
        have hreport : found = report := by
          unfold loadsJson at hfound
          rw [hloads] at hfound
          exact (Except.ok.inj hfound).symm
        exact ⟨hsame, Or.inl (by rw [hanswer, hreport])⟩
      · -- a workflow that awaits validation has no report
        obtain ⟨-, -, hnone, -⟩ := (h workflowId).stage_of hrow hstate
        rw [hview] at hnone
        cases hnone

/-- **Acceptance integrity.**  In every reachable store, a workflow is succeeded
or rejected exactly when its report says accepted or rejected; the report names
the one artifact of the workflow, its true digest and the bound policy; and
whatever the store does next, a validation repeats that report or raises, and
changes nothing. -/
theorem acceptance_integrity (platform : Platform) (workflowId : String) (calls : List Call) :
    let tables := (store platform).after Tables.empty calls
    let state := (tables.workflows.find workflowId).map WorkflowRow.state
    (state = some .succeeded ↔
      ∃ report, Reported tables workflowId report ∧
        report.get? "decision" = some (.str "accepted")) ∧
    (state = some .rejected ↔
      ∃ report, Reported tables workflowId report ∧
        report.get? "decision" = some (.str "rejected")) ∧
    ∀ report, Reported tables workflowId report →
      (∃ row artifact, tables.workflows.find workflowId = some row ∧
        Bound platform tables workflowId row report artifact) ∧
      ∀ later tenant policy,
        let final := (store platform).after tables later
        Reported final workflowId report ∧
          Repeats platform final (.validate tenant workflowId policy) report := by
  intro tables state
  have hvalid : AllValid platform tables := reachable_valid ⟨calls, rfl⟩
  have hdecided : ∀ report, Reported tables workflowId report →
      ∃ (accepted : Bool) (row : WorkflowRow) (artifact : ArtifactRow),
        tables.workflows.find workflowId = some row ∧
        state = some (if accepted then .succeeded else .rejected) ∧
        report.get? "decision" = some (.str (if accepted then "accepted" else "rejected")) ∧
        Bound platform tables workflowId row report artifact :=
    fun report hreported => decided_of_reported hvalid hreported
  have hreported : ∀ accepted : Bool,
      state = some (if accepted then .succeeded else .rejected) →
        ∃ report, Reported tables workflowId report ∧
          report.get? "decision" = some (.str (if accepted then "accepted" else "rejected")) :=
    fun accepted hstate => reported_of_decided hvalid hstate
  refine ⟨⟨hreported true, ?_⟩, ⟨hreported false, ?_⟩, fun report hreport => ⟨?_, ?_⟩⟩
  · rintro ⟨report, hreport, haccepted⟩
    obtain ⟨accepted, -, -, -, hstate, hdecision, -⟩ := hdecided report hreport
    cases accepted with
    | true => exact hstate
    | false =>
        rw [haccepted] at hdecision
        exact absurd hdecision (by decide)
  · rintro ⟨report, hreport, hrejected⟩
    obtain ⟨accepted, -, -, -, hstate, hdecision, -⟩ := hdecided report hreport
    cases accepted with
    | false => exact hstate
    | true =>
        rw [hrejected] at hdecision
        exact absurd hdecision (by decide)
  · obtain ⟨_, row, artifact, hrow, -, -, hbound⟩ := hdecided report hreport
    exact ⟨row, artifact, hrow, hbound⟩
  · intro later tenant policy final
    obtain ⟨recorded, hrecorded, hloads⟩ := hreport
    have hkept : Reported final workflowId report :=
      ⟨recorded, (after_advances hvalid later workflowId).validation recorded hrecorded, hloads⟩
    have hfinal : AllValid platform final :=
      Machine.after_invariant next_valid hvalid later
    exact ⟨hkept, validate_repeats hfinal hkept tenant policy⟩

end Workflows
end Ryuk

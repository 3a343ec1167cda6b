import Ryuk.Workflows.Refinement

/-!
# The recovery loops

The two loops of recovery (expire the lapsed leases, settle the uncertain
workflows) as functions of the views: `expireSelected_spec` and `settleAll_spec`
say what every view is afterwards, whatever the order of the rows.
-/

namespace Ryuk
namespace Workflows

open Foundation Foundation.Json Foundation.Datetime Foundation.Transaction

variable {platform : Platform} {tables next final : Tables} {tenant workflowId : String}

/-! ### Views after a recovery step -/

/-- The view after an expiry of the rows a condition selects. -/
def View.lapsed (selected : WorkflowRow → Bool) (view : View) : View :=
  match view.row with
  | none => view
  | some row => if selected row then view.moved row.expired (.state .uncertain) else view

/-- What recovery finds in the journal of an uncertain workflow: an outcome to
commit, or why there is none. -/
def View.verdict (platform : Platform) (view : View) (row : WorkflowRow) :
    (String × Bool) ⊕ Unresolved :=
  match view.dispatch.filter fun journal => decide (journal.tenant = row.tenant) with
  | none => .inr .outcomeUnknown
  | some journal =>
      match journal.outcomeJson with
      | none => .inr .outcomeUnknown
      | some encoded =>
          if validEvidence platform journal encoded row.fence then
            .inl (encoded, decide (journal.succeeded = some 1))
          else .inr .invalidOutcomeEvidence

/-- The view after a commit. -/
def View.withResult (platform : Platform) (view : View) (row : WorkflowRow) (encoded : String)
    (succeeded : Bool) (artifactId : String) : View :=
  { view.moved (row.committed encoded succeeded artifactId) (.state (resultState succeeded)) with
    artifacts := view.artifacts ++ [row.artifact platform encoded artifactId] }

/-- The view after a verdict was acted on. -/
def View.settled (platform : Platform) (uuid4 : String) (view : View) (row : WorkflowRow) : View :=
  match view.verdict platform row with
  | .inl (encoded, succeeded) => view.withResult platform row encoded succeeded uuid4
  | .inr _ => view

/-- The view after a reconciliation, which only acts on an uncertain workflow. -/
def View.resolved (platform : Platform) (uuid4 : String) (view : View) : View :=
  match view.row with
  | none => view
  | some row => if row.state = .uncertain then view.settled platform uuid4 row else view

/-- The result a reconciliation loop reports for a verdict. -/
def View.resolution (platform : Platform) (view : View) (row : WorkflowRow) :
    WorkflowState ⊕ Unresolved :=
  (view.verdict platform row).map (fun outcome => resultState outcome.2) id

/-- The result a reconciliation loop reports for a view. -/
def View.outcome (platform : Platform) (view : View) : WorkflowState ⊕ Unresolved :=
  match view.row with
  | none => .inr .invalidOutcomeEvidence
  | some row => view.resolution platform row

/-! ### The expiry loop -/

theorem mem_select_workflows {condition : WorkflowRow → Bool} {row : WorkflowRow} :
    row ∈ tables.workflows.select condition ↔
      (tables.view row.id).row = some row ∧ condition row = true := by
  unfold Table.select
  rw [List.mem_filter]
  constructor
  · rintro ⟨hmem, hcondition⟩
    exact ⟨Table.find_of_mem hmem, hcondition⟩
  · rintro ⟨hfind, hcondition⟩
    exact ⟨Table.mem_of_find hfind, hcondition⟩

theorem select_ids_nodup (tables : Tables) (condition : WorkflowRow → Bool) :
    ((tables.workflows.select condition).map WorkflowRow.id).Nodup :=
  tables.workflows.unique.sublist (List.filter_sublist.map WorkflowRow.id)

theorem expire_moves {row : WorkflowRow} (hrow : (tables.view row.id).row = some row) :
    ∃ next, expire row tables = .ok ((), next) ∧ next.artifacts = tables.artifacts ∧
      Moves tables next row.id ((tables.view row.id).moved row.expired (.state .uncertain)) := by
  refine ⟨_, rfl, rfl, view_moved hrow rfl rfl rfl rfl rfl, fun other hother => ?_⟩
  exact view_moved_other hother

/-- The loop moves exactly the listed rows. -/
theorem expireAll_spec {rows : List WorkflowRow} (hnodup : (rows.map WorkflowRow.id).Nodup)
    (hrows : ∀ row ∈ rows, (tables.view row.id).row = some row) :
    ∃ final, expireAll rows tables = .ok ((), final) ∧ final.artifacts = tables.artifacts ∧
      (∀ row ∈ rows, final.view row.id =
        (tables.view row.id).moved row.expired (.state .uncertain)) ∧
      ∀ other, other ∉ rows.map WorkflowRow.id → final.view other = tables.view other := by
  induction rows generalizing tables with
  | nil =>
      refine ⟨tables, rfl, rfl, ?_, fun _ _ => rfl⟩
      intro row hrow
      cases hrow
  | cons row rest ih =>
      rw [List.map_cons, List.nodup_cons] at hnodup
      obtain ⟨next, hexpire, hartifacts, hself, hothers⟩ :=
        expire_moves (hrows row (List.mem_cons_self ..))
      have hne : ∀ other ∈ rest, other.id ≠ row.id := by
        intro other hother heq
        exact hnodup.1 (heq ▸ List.mem_map_of_mem hother)
      -- the rows that are left are still the rows of the table
      have hrest : ∀ other ∈ rest, (next.view other.id).row = some other := by
        intro other hother
        rw [hothers other.id (hne other hother)]
        exact hrows other (List.mem_cons_of_mem _ hother)
      obtain ⟨final, hall, hartifacts', hmoved, hkept⟩ := ih hnodup.2 hrest
      refine ⟨final, ?_, hartifacts'.trans hartifacts, ?_, ?_⟩
      · rw [expireAll, bind_ok]
        exact ⟨(), next, hexpire, hall⟩
      · intro other hother
        rcases List.mem_cons.mp hother with rfl | hother
        · rw [hkept other.id hnodup.1, hself]
        · rw [hmoved other hother, hothers other.id (hne other hother)]
      · intro other hother
        rw [List.map_cons, List.mem_cons, not_or] at hother
        rw [hkept other hother.2, hothers other hother.1]

/-- Expiring the selected rows lapses every view. -/
theorem expireSelected_spec (tables : Tables) (selected : WorkflowRow → Bool) :
    ∃ final, expireAll (tables.workflows.select selected) tables = .ok ((), final) ∧
      final.artifacts = tables.artifacts ∧
      ∀ workflowId, final.view workflowId = (tables.view workflowId).lapsed selected := by
  obtain ⟨final, hall, hartifacts, hmoved, hkept⟩ := expireAll_spec
    (select_ids_nodup tables selected) fun row hrow => (mem_select_workflows.mp hrow).1
  refine ⟨final, hall, hartifacts, fun workflowId => ?_⟩
  unfold View.lapsed
  cases hrow : (tables.view workflowId).row with
  | none =>
      refine hkept workflowId fun hmem => ?_
      obtain ⟨row, hselected, hid⟩ := List.mem_map.mp hmem
      have hfound := (mem_select_workflows.mp hselected).1
      rw [hid, hrow] at hfound
      cases hfound
  | some row =>
      have hid : row.id = workflowId := Table.find_key hrow
      subst hid
      by_cases hselected : selected row = true
      · simp only [hselected, if_true]
        exact hmoved row (mem_select_workflows.mpr ⟨hrow, hselected⟩)
      · simp only [hselected, Bool.false_eq_true, if_false]
        refine hkept row.id fun hmem => ?_
        obtain ⟨other, hother, hid⟩ := List.mem_map.mp hmem
        obtain ⟨hfound, htrue⟩ := mem_select_workflows.mp hother
        rw [hid, hrow, Option.some.injEq] at hfound
        exact hselected (hfound ▸ htrue)

/-- `recover_expired` lapses the tenant's views. -/
theorem recoverExpired_spec {now : DateTime} {current : Instant}
    (hnow : utcNow now = .ok current) (tables : Tables) (tenant : String) :
    ∃ count final, recoverExpired tenant now tables = .ok (count, final) ∧
      final.artifacts = tables.artifacts ∧
      ∀ workflowId, final.view workflowId = (tables.view workflowId).lapsed fun row =>
        decide (row.tenant = tenant) && expiredAt current.isoformat row := by
  obtain ⟨final, hall, hartifacts, hviews⟩ := expireSelected_spec tables fun row =>
    decide (row.tenant = tenant) && expiredAt current.isoformat row
  refine ⟨(tables.workflows.select fun row =>
    decide (row.tenant = tenant) && expiredAt current.isoformat row).length, final, ?_,
    hartifacts, hviews⟩
  unfold recoverExpired
  simp only [lift_bind_ok, query_bind_ok]
  refine ⟨current, hnow, ?_⟩
  rw [bind_ok]
  exact ⟨(), final, hall, pure_ok.mpr ⟨rfl, rfl⟩⟩

/-- An expiry that returns lapsed the tenant's views. -/
theorem recoverExpired_ok {now : DateTime} {count : Nat}
    (h : recoverExpired tenant now tables = .ok (count, final)) :
    ∃ current : Instant, ∀ workflowId, final.view workflowId =
      (tables.view workflowId).lapsed fun row =>
        decide (row.tenant = tenant) && expiredAt current.isoformat row := by
  have hnow : ∃ current, utcNow now = .ok current := by
    unfold recoverExpired at h
    simp only [lift_bind_ok] at h
    obtain ⟨current, hnow, -⟩ := h
    exact ⟨current, hnow⟩
  obtain ⟨current, hnow⟩ := hnow
  obtain ⟨_, next, hspec, -, hviews⟩ := recoverExpired_spec hnow tables tenant
  rw [h, Except.ok.injEq, Prod.mk.injEq] at hspec
  obtain ⟨-, rfl⟩ := hspec
  exact ⟨current, hviews⟩

/-! ### The reconciliation loop -/

/-- Storing a result succeeds when the artifact id is free. -/
theorem commitResult_total {fence : Int} {encoded uuid4 : String} {succeeded : Bool}
    (hfree : tables.artifacts.find uuid4 = none) :
    ∃ ref final, commitResult platform tenant workflowId fence encoded succeeded uuid4 tables =
      .ok (ref, final) ∧ ∀ other, other ≠ uuid4 →
        final.artifacts.find other = tables.artifacts.find other := by
  have hadd : ∃ artifacts, tables.artifacts.insert
      ⟨uuid4, workflowId, tenant, 1, platform.sha256 encoded, encoded.utf8ByteSize, encoded⟩ =
        some artifacts := Table.insert_of_fresh hfree
  obtain ⟨artifacts, hinsert⟩ := hadd
  unfold commitResult updateWorkflow event
  simp only [attempt_bind_ok, write_bind_ok, pure_ok, Tables.addArtifact, hinsert, Option.map_some,
    Option.some.injEq]
  refine ⟨_, _, ⟨_, rfl, rfl, rfl⟩, fun other hother => ?_⟩
  change artifacts.find other = _
  rw [Table.find_insert hinsert]
  simp only [Ne.symm hother, if_false]

/-- A workflow that waits for its verdict. -/
def Waiting (tables : Tables) (candidate : WorkflowRow) : Prop :=
  ∃ row, (tables.view candidate.id).row = some row ∧ row.tenant = candidate.tenant ∧
    row.state = .uncertain

theorem Waiting.select {candidate row : WorkflowRow}
    (hrow : (tables.view candidate.id).row = some row) (htenant : row.tenant = candidate.tenant) :
    tables.workflows.fetchone (ownedBy candidate.tenant candidate.id) = some row := by
  have hid : row.id = candidate.id := Table.find_key hrow
  have hfixed : ∀ row : WorkflowRow, ownedBy candidate.tenant candidate.id row = true →
      row.id = candidate.id := by
    intro row hrow
    simp only [ownedBy, Bool.and_eq_true, decide_eq_true_eq] at hrow
    exact hrow.2
  rw [Table.fetchone_of_key hfixed, Option.filter_eq_some_iff]
  exact ⟨hrow, by simp [ownedBy, htenant, hid]⟩

/-- One candidate: its view is resolved and the result reported; without a
verdict nothing is written. -/
theorem settle_ok {uuid4 : String → String} {candidate : WorkflowRow}
    {result : WorkflowState ⊕ Unresolved} (hwaiting : Waiting tables candidate)
    (h : settle platform uuid4 candidate tables = .ok (result, final)) :
    result = (tables.view candidate.id).outcome platform ∧
      Moves tables final candidate.id
        ((tables.view candidate.id).resolved platform (uuid4 candidate.id)) ∧
      (result.isRight = true → final = tables) := by
  obtain ⟨row, hrow, htenant, hstate⟩ := hwaiting
  have hid : row.id = candidate.id := Table.find_key hrow
  have hselect := Waiting.select hrow htenant
  unfold settle selectWorkflow selectDispatch at h
  simp only [query_bind_ok] at h
  rw [hselect, fetchone_journal, ← htenant] at h
  unfold View.resolved View.outcome
  simp only [hrow, hstate, if_true]
  unfold View.resolution View.settled View.verdict
  cases hfound : (tables.view candidate.id).dispatch.filter fun journal =>
      decide (journal.tenant = row.tenant) with
  | none =>
      simp only [hfound, pure_ok] at h
      obtain ⟨rfl, rfl⟩ := h
      exact ⟨rfl, ⟨rfl, fun _ _ => rfl⟩, fun _ => rfl⟩
  | some journal =>
      simp only [hfound] at h ⊢
      cases houtcome : journal.outcomeJson with
      | none =>
          simp only [houtcome, pure_ok] at h
          obtain ⟨rfl, rfl⟩ := h
          exact ⟨rfl, ⟨rfl, fun _ _ => rfl⟩, fun _ => rfl⟩
      | some encoded =>
          simp only [houtcome] at h ⊢
          by_cases hvalid : validEvidence platform journal encoded row.fence = true
          · simp only [hvalid, if_true] at h ⊢
            rw [bind_ok] at h
            obtain ⟨ref, middle, hcommit, h⟩ := h
            obtain ⟨rfl, rfl⟩ := pure_ok.mp h
            obtain ⟨-, hmoves⟩ := commitResult_ok hcommit hrow rfl hid rfl
            exact ⟨rfl, hmoves, fun hcontra => by cases hcontra⟩
          · simp only [hvalid, Bool.false_eq_true, if_false, pure_ok] at h ⊢
            obtain ⟨rfl, rfl⟩ := h
            exact ⟨rfl, ⟨rfl, fun _ _ => rfl⟩, fun _ => rfl⟩

/-- One candidate is settled without a failure when its artifact id is free. -/
theorem settle_total {uuid4 : String → String} {candidate : WorkflowRow}
    (hwaiting : Waiting tables candidate)
    (hfree : tables.artifacts.find (uuid4 candidate.id) = none) :
    ∃ result final, settle platform uuid4 candidate tables = .ok (result, final) ∧
      ∀ other, other ≠ uuid4 candidate.id →
        final.artifacts.find other = tables.artifacts.find other := by
  obtain ⟨row, hrow, htenant, -⟩ := hwaiting
  have hselect := Waiting.select hrow htenant
  unfold settle selectWorkflow selectDispatch
  simp only [query_bind_ok]
  rw [hselect]
  cases hjournal : tables.dispatches.fetchone (journalOf candidate.tenant candidate.id) with
  | none => exact ⟨_, tables, pure_ok.mpr ⟨rfl, rfl⟩, fun _ _ => rfl⟩
  | some journal =>
      simp only
      cases houtcome : journal.outcomeJson with
      | none => exact ⟨_, tables, pure_ok.mpr ⟨rfl, rfl⟩, fun _ _ => rfl⟩
      | some encoded =>
          simp only
          by_cases hvalid : validEvidence platform journal encoded row.fence = true
          · obtain ⟨ref, final, hcommit, hother⟩ := commitResult_total hfree
            rw [if_pos hvalid]
            refine ⟨resultState (decide (journal.succeeded = some 1)) |> .inl, final, ?_, hother⟩
            rw [bind_ok]
            exact ⟨ref, final, hcommit, pure_ok.mpr ⟨rfl, rfl⟩⟩
          · rw [if_neg hvalid]
            exact ⟨_, tables, pure_ok.mpr ⟨rfl, rfl⟩, fun _ _ => rfl⟩

/-- A candidate keeps waiting while other workflows move. -/
theorem Waiting.of_view {candidate : WorkflowRow} (h : Waiting tables candidate)
    (hview : final.view candidate.id = tables.view candidate.id) : Waiting final candidate := by
  obtain ⟨row, hrow, htenant, hstate⟩ := h
  exact ⟨row, by rw [hview, hrow], htenant, hstate⟩

/-- The name and the result the loop reports for a candidate. -/
def namedOutcome (platform : Platform) (tables : Tables) (candidate : WorkflowRow) :
    WorkflowName × (WorkflowState ⊕ Unresolved) :=
  (⟨candidate.tenant, candidate.id⟩, (tables.view candidate.id).outcome platform)

/-- The loop resolves exactly the candidates. -/
theorem settleAll_ok {uuid4 : String → String} {candidates : List WorkflowRow}
    {results : List (WorkflowName × (WorkflowState ⊕ Unresolved))}
    (hnodup : (candidates.map WorkflowRow.id).Nodup)
    (hwaiting : ∀ candidate ∈ candidates, Waiting tables candidate)
    (h : settleAll platform uuid4 candidates tables = .ok (results, final)) :
    results = candidates.map (namedOutcome platform tables) ∧
      (∀ candidate ∈ candidates, final.view candidate.id =
        (tables.view candidate.id).resolved platform (uuid4 candidate.id)) ∧
      (∀ other, other ∉ candidates.map WorkflowRow.id → final.view other = tables.view other) ∧
      ((∀ result ∈ results, result.2.isRight = true) → final = tables) := by
  induction candidates generalizing tables results with
  | nil =>
      obtain ⟨rfl, rfl⟩ := pure_ok.mp h
      refine ⟨rfl, ?_, fun _ _ => rfl, fun _ => rfl⟩
      intro candidate hcandidate
      cases hcandidate
  | cons candidate rest ih =>
      rw [List.map_cons, List.nodup_cons] at hnodup
      rw [settleAll, bind_ok] at h
      obtain ⟨result, next, hsettle, h⟩ := h
      rw [bind_ok] at h
      obtain ⟨others, middle, hall, h⟩ := h
      obtain ⟨rfl, rfl⟩ := pure_ok.mp h
      obtain ⟨hresult, hmoves, hkept⟩ :=
        settle_ok (hwaiting candidate (List.mem_cons_self ..)) hsettle
      have hne : ∀ other ∈ rest, other.id ≠ candidate.id := by
        intro other hother heq
        exact hnodup.1 (heq ▸ List.mem_map_of_mem hother)
      have hsame : ∀ other ∈ rest, next.view other.id = tables.view other.id :=
        fun other hother => hmoves.others other.id (hne other hother)
      obtain ⟨hresults, hresolved, hothers, hquiet⟩ := ih hnodup.2 (fun other hother =>
        (hwaiting other (List.mem_cons_of_mem _ hother)).of_view (hsame other hother)) hall
      refine ⟨?_, ?_, ?_, ?_⟩
      · rw [hresults, hresult, List.map_cons]
        congr 1
        refine List.map_congr_left fun other hother => ?_
        rw [namedOutcome, namedOutcome, hsame other hother]
      · intro other hother
        rcases List.mem_cons.mp hother with rfl | hother
        · rw [hothers other.id hnodup.1, hmoves.self]
        · rw [hresolved other hother, hsame other hother]
      · intro other hother
        rw [List.map_cons, List.mem_cons, not_or] at hother
        rw [hothers other hother.2, hmoves.others other hother.1]
      · intro hall
        have hhead := hkept (hall _ (List.mem_cons_self ..))
        rw [hquiet fun result hresult => hall result (List.mem_cons_of_mem _ hresult), hhead]

/-- The loop does not fail when the artifact ids are free and distinct. -/
theorem settleAll_total {uuid4 : String → String} {candidates : List WorkflowRow}
    (hnodup : (candidates.map WorkflowRow.id).Nodup)
    (hwaiting : ∀ candidate ∈ candidates, Waiting tables candidate)
    (hdistinct : (candidates.map fun candidate => uuid4 candidate.id).Nodup)
    (hfree : ∀ candidate ∈ candidates, tables.artifacts.find (uuid4 candidate.id) = none) :
    ∃ results final, settleAll platform uuid4 candidates tables = .ok (results, final) := by
  induction candidates generalizing tables with
  | nil => exact ⟨[], tables, pure_ok.mpr ⟨rfl, rfl⟩⟩
  | cons candidate rest ih =>
      rw [List.map_cons, List.nodup_cons] at hnodup hdistinct
      obtain ⟨result, next, hsettle, hartifacts⟩ :=
        settle_total (hwaiting candidate (List.mem_cons_self ..))
          (hfree candidate (List.mem_cons_self ..))
      obtain ⟨-, hmoves, -⟩ := settle_ok (hwaiting candidate (List.mem_cons_self ..)) hsettle
      have hne : ∀ other ∈ rest, other.id ≠ candidate.id := by
        intro other hother heq
        exact hnodup.1 (heq ▸ List.mem_map_of_mem hother)
      have hfresh : ∀ other ∈ rest, next.artifacts.find (uuid4 other.id) = none := by
        intro other hother
        have hother' : uuid4 other.id ≠ uuid4 candidate.id := by
          intro heq
          exact hdistinct.1 (List.mem_map.mpr ⟨other, hother, heq⟩)
        rw [hartifacts _ hother']
        exact hfree other (List.mem_cons_of_mem _ hother)
      obtain ⟨results, final, hall⟩ := ih hnodup.2 (fun other hother =>
        (hwaiting other (List.mem_cons_of_mem _ hother)).of_view
          (hmoves.others other.id (hne other hother))) hdistinct.2 hfresh
      refine ⟨(⟨candidate.tenant, candidate.id⟩, result) :: results, final, ?_⟩
      rw [settleAll, bind_ok]
      refine ⟨result, next, hsettle, ?_⟩
      rw [bind_ok]
      exact ⟨results, final, hall, pure_ok.mpr ⟨rfl, rfl⟩⟩

/-! ### Startup recovery -/

/-- The candidates of a startup recovery at a time. -/
def candidatesAt (tables : Tables) (current : Instant) : List WorkflowRow :=
  tables.workflows.select (isCandidate current.isoformat)

/-- The running candidates are the expired rows. -/
theorem candidates_running (tables : Tables) (current : Instant) :
    ((tables.workflows.select (isCandidate current.isoformat)).filter fun row =>
        decide (row.state = .running)) =
      tables.workflows.select (expiredAt current.isoformat) := by
  unfold Table.select
  rw [List.filter_filter]
  refine List.filter_congr fun row _ => ?_
  unfold isCandidate expiredAt
  by_cases hrunning : row.state = .running
  · simp [hrunning]
  · simp [hrunning]

theorem take_of_length_le {α : Type} {rows : List α} {limit : Int} (hlimit : 1 ≤ limit)
    (h : ((rows.take (limit + 1).toNat).length : Int) ≤ limit) :
    rows.take (limit + 1).toNat = rows ∧ (rows.length : Int) ≤ limit := by
  rw [List.length_take] at h
  have hlength : (rows.length : Int) ≤ limit := by omega
  exact ⟨List.take_of_length_le (by omega), hlength⟩

/-- After the expiry loop every candidate waits for its verdict. -/
theorem waiting_of_lapsed {current : Instant}
    (hviews : ∀ workflowId, next.view workflowId =
      (tables.view workflowId).lapsed (expiredAt current.isoformat))
    {candidate : WorkflowRow} (hcandidate : candidate ∈ candidatesAt tables current) :
    Waiting next candidate := by
  obtain ⟨hrow, hcondition⟩ := mem_select_workflows.mp hcandidate
  unfold Waiting
  rw [hviews candidate.id]
  unfold View.lapsed
  simp only [hrow]
  by_cases hexpired : expiredAt current.isoformat candidate = true
  · rw [if_pos hexpired]
    exact ⟨candidate.expired, rfl, rfl, rfl⟩
  · rw [if_neg hexpired]
    refine ⟨candidate, hrow, rfl, ?_⟩
    simpa [isCandidate, hexpired] using hcondition

/-- The view a startup recovery leaves. -/
def View.recovered (platform : Platform) (current : Instant) (uuid4 : String) (view : View) :
    View :=
  (view.lapsed (expiredAt current.isoformat)).resolved platform uuid4

/-- A workflow that is no candidate keeps its lease. -/
theorem lapsed_of_not_candidate {current : Instant}
    (h : workflowId ∉ (candidatesAt tables current).map WorkflowRow.id) :
    (tables.view workflowId).lapsed (expiredAt current.isoformat) = tables.view workflowId := by
  unfold View.lapsed
  cases hrow : (tables.view workflowId).row with
  | none => rfl
  | some row =>
      have hid : row.id = workflowId := Table.find_key hrow
      subst hid
      have hexpired : ¬ expiredAt current.isoformat row = true := by
        intro hexpired
        refine h (List.mem_map_of_mem (mem_select_workflows.mpr ⟨hrow, ?_⟩))
        simp [isCandidate, hexpired]
      simp only [hexpired, Bool.false_eq_true, if_false]

/-- A workflow that is no candidate is not recovered. -/
theorem recovered_of_not_candidate {current : Instant} {uuid4 : String}
    (h : workflowId ∉ (candidatesAt tables current).map WorkflowRow.id) :
    (tables.view workflowId).recovered platform current uuid4 = tables.view workflowId := by
  unfold View.recovered
  rw [lapsed_of_not_candidate h]
  unfold View.resolved
  cases hrow : (tables.view workflowId).row with
  | none => rfl
  | some row =>
      have hid : row.id = workflowId := Table.find_key hrow
      subst hid
      have huncertain : ¬ row.state = .uncertain := by
        intro huncertain
        refine h (List.mem_map_of_mem (mem_select_workflows.mpr ⟨hrow, ?_⟩))
        simp [isCandidate, huncertain]
      simp only [huncertain, if_false]

/-- What the loop reports for a candidate, in terms of the tables before. -/
def recoveredOutcome (platform : Platform) (tables : Tables) (current : Instant)
    (candidate : WorkflowRow) : WorkflowName × (WorkflowState ⊕ Unresolved) :=
  (⟨candidate.tenant, candidate.id⟩,
    ((tables.view candidate.id).lapsed (expiredAt current.isoformat)).outcome platform)

/-- The report of a startup recovery, in terms of the tables before. -/
def reportAt (platform : Platform) (tables : Tables) (current : Instant) : RecoveryReport where
  scanned := (candidatesAt tables current).length
  expired := (tables.workflows.select (expiredAt current.isoformat)).map fun row =>
    ⟨row.tenant, row.id⟩
  reconciled :=
    reconciledOf ((candidatesAt tables current).map (recoveredOutcome platform tables current))
  unresolved :=
    unresolvedOf ((candidatesAt tables current).map (recoveredOutcome platform tables current))

/-- A startup recovery that returns recovered every view. -/
theorem recoverStartup_ok {limit : Int} {now : DateTime} {uuid4 : String → String}
    {report : RecoveryReport}
    (h : recoverStartup platform limit now uuid4 tables = .ok (report, final)) :
    ∃ current, utcNow now = .ok current ∧ 1 ≤ limit ∧ limit ≤ 100000 ∧
      ((candidatesAt tables current).length : Int) ≤ limit ∧
      report = reportAt platform tables current ∧
      (∀ workflowId, final.view workflowId =
        (tables.view workflowId).recovered platform current (uuid4 workflowId)) ∧
      (report.expired = [] → report.reconciled = [] → final = tables) := by
  unfold recoverStartup at h
  simp only [require_bind_ok, lift_bind_ok, query_bind_ok, Bool.and_eq_true,
    decide_eq_true_eq] at h
  obtain ⟨⟨hlow, hhigh⟩, current, hnow, hbounded, h⟩ := h
  obtain ⟨htake, hlength⟩ := take_of_length_le hlow hbounded
  simp only [htake, candidates_running] at h
  rw [bind_ok] at h
  obtain ⟨_, middle, hexpire, h⟩ := h
  obtain ⟨next, hall, -, hviews⟩ := expireSelected_spec tables (expiredAt current.isoformat)
  rw [hall, Except.ok.injEq, Prod.mk.injEq] at hexpire
  obtain ⟨-, rfl⟩ := hexpire
  rw [bind_ok] at h
  obtain ⟨results, settled, hsettle, h⟩ := h
  obtain ⟨rfl, rfl⟩ := pure_ok.mp h
  obtain ⟨hresults, hresolved, hothers, hquiet⟩ := settleAll_ok
    (select_ids_nodup tables (isCandidate current.isoformat))
    (fun candidate hcandidate => waiting_of_lapsed hviews hcandidate) hsettle
  have hnamed : results =
      (candidatesAt tables current).map (recoveredOutcome platform tables current) := by
    rw [hresults]
    refine List.map_congr_left fun candidate _ => ?_
    rw [namedOutcome, hviews candidate.id]
    rfl
  refine ⟨current, hnow, hlow, hhigh, hlength, ?_, ?_, ?_⟩
  · rw [reportAt, ← hnamed]
    rfl
  · intro workflowId
    by_cases hmem : workflowId ∈ (candidatesAt tables current).map WorkflowRow.id
    · obtain ⟨candidate, hcandidate, rfl⟩ := List.mem_map.mp hmem
      rw [hresolved candidate hcandidate, hviews candidate.id]
      rfl
    · rw [hothers workflowId hmem, hviews workflowId, recovered_of_not_candidate hmem,
        lapsed_of_not_candidate hmem]
  · intro hexpired hreconciled
    have hnone : tables.workflows.select (expiredAt current.isoformat) = [] :=
      List.map_eq_nil_iff.mp hexpired
    rw [hnone] at hall
    obtain ⟨-, rfl⟩ := pure_ok.mp hall
    refine hquiet fun result hresult => ?_
    cases hside : result.2 with
    | inr reason => rfl
    | inl state =>
        have : (result.1, state) ∈ reconciledOf results :=
          List.mem_filterMap.mpr ⟨result, hresult, by rw [hside]; rfl⟩
        rw [show reconciledOf results = [] from hreconciled] at this
        cases this

/-- A startup recovery returns when its limit is in range and not exceeded and
its artifact ids are free and distinct. -/
theorem recoverStartup_total {limit : Int} {now : DateTime} {uuid4 : String → String}
    {current : Instant} (hnow : utcNow now = .ok current) (hlow : 1 ≤ limit)
    (hhigh : limit ≤ 100000)
    (hlength : ((candidatesAt tables current).length : Int) ≤ limit)
    (hdistinct : ((candidatesAt tables current).map fun row => uuid4 row.id).Nodup)
    (hfree : ∀ row ∈ candidatesAt tables current, tables.artifacts.find (uuid4 row.id) = none) :
    ∃ report final, recoverStartup platform limit now uuid4 tables = .ok (report, final) := by
  have htake : (tables.workflows.select (isCandidate current.isoformat)).take (limit + 1).toNat =
      tables.workflows.select (isCandidate current.isoformat) := by
    refine List.take_of_length_le ?_
    have : ((tables.workflows.select (isCandidate current.isoformat)).length : Int) ≤ limit :=
      hlength
    omega
  obtain ⟨next, hall, hartifacts, hviews⟩ :=
    expireSelected_spec tables (expiredAt current.isoformat)
  have hsettled : ∃ results final, settleAll platform uuid4 (candidatesAt tables current) next =
      .ok (results, final) :=
    settleAll_total (select_ids_nodup tables (isCandidate current.isoformat))
      (fun candidate hcandidate => waiting_of_lapsed hviews hcandidate) hdistinct
      (fun candidate hcandidate => by rw [hartifacts]; exact hfree candidate hcandidate)
  obtain ⟨results, final, hsettle⟩ := hsettled
  refine ⟨⟨(candidatesAt tables current).length,
    (tables.workflows.select (expiredAt current.isoformat)).map fun row => ⟨row.tenant, row.id⟩,
    reconciledOf results, unresolvedOf results⟩, final, ?_⟩
  unfold recoverStartup
  simp only [require_bind_ok, lift_bind_ok, query_bind_ok, Bool.and_eq_true, decide_eq_true_eq]
  refine ⟨⟨hlow, hhigh⟩, current, hnow, ?_⟩
  simp only [htake, candidates_running]
  refine ⟨hlength, ?_⟩
  rw [bind_ok]
  refine ⟨(), next, hall, ?_⟩
  rw [bind_ok]
  exact ⟨results, final, hsettle, pure_ok.mpr ⟨rfl, rfl⟩⟩

end Workflows
end Ryuk

import Ryuk.Workflows.Invariants

/-!
# Batch recovery against recovery step by step

`recover_startup` expires and reconciles every candidate in one transaction.  The
same can be done with one `recover_expired` for each tenant and then one
`reconcile_uncertain` for each workflow that is uncertain by then.  The two leave
every workflow the same up to the generated artifact ids.
-/

namespace Ryuk
namespace Workflows

open Foundation Foundation.Json Foundation.Datetime Foundation.Transaction

variable {platform : Platform} {tables final : Tables} {tenant workflowId : String} {view : View}
  {current : Instant} {now : DateTime}

/-! ### Agreement up to artifact ids -/

def WorkflowRow.anonymous (row : WorkflowRow) : WorkflowRow :=
  { row with resultArtifactId := row.resultArtifactId.map fun _ => "" }

def ArtifactRow.anonymous (artifact : ArtifactRow) : ArtifactRow := { artifact with id := "" }

/-- Two views that differ in artifact ids at most. -/
structure Agree (first second : View) : Prop where
  row : first.row.map WorkflowRow.anonymous = second.row.map WorkflowRow.anonymous
  events : first.events = second.events
  artifacts : first.artifacts.map ArtifactRow.anonymous =
    second.artifacts.map ArtifactRow.anonymous
  validation : first.validation = second.validation
  dispatch : first.dispatch = second.dispatch
  binding : first.binding = second.binding

theorem Agree.refl (view : View) : Agree view view := ⟨rfl, rfl, rfl, rfl, rfl, rfl⟩

/-- The artifact id is all that a reconciliation takes from outside. -/
theorem resolved_agree (first second : String) (view : View) :
    Agree (view.resolved platform first) (view.resolved platform second) := by
  unfold View.resolved
  cases hrow : view.row with
  | none => exact Agree.refl view
  | some row =>
      by_cases hstate : row.state = .uncertain
      · simp only [hstate, if_true]
        unfold View.settled
        cases view.verdict platform row with
        | inr reason => exact Agree.refl view
        | inl outcome =>
            refine ⟨rfl, rfl, ?_, rfl, rfl, rfl⟩
            simp only [View.withResult, List.map_append]
            rfl
      · simp only [hstate, if_false]
        exact Agree.refl view

/-! ### Verdicts -/

/-- A verdict to commit is exactly evidence in the journal. -/
theorem verdict_inl_iff {row : WorkflowRow} {encoded : String} {succeeded : Bool} :
    view.verdict platform row = .inl (encoded, succeeded) ↔
      ∃ journal, view.dispatch = some journal ∧ journal.tenant = row.tenant ∧
        Evidence platform journal encoded row.fence ∧
        succeeded = decide (journal.succeeded = some 1) := by
  constructor
  · exact verdict_evidence
  · rintro ⟨journal, hjournal, htenant, hevidence, rfl⟩
    unfold View.verdict
    simp only [hjournal, Option.filter, htenant, decide_true, if_true, hevidence.outcome,
      (validEvidence_iff hevidence.outcome).mpr hevidence]

/-- A row that a recovery leaves is not running on a lease that has run out. -/
theorem recovered_not_expired {uuid4 : String} {row : WorkflowRow}
    (hrow : (view.recovered platform current uuid4).row = some row) :
    expiredAt current.isoformat row = false := by
  have hnot : ∀ {row : WorkflowRow}, row.state ≠ .running →
      expiredAt current.isoformat row = false := by
    intro row hstate
    simp [expiredAt, hstate]
  unfold View.recovered View.resolved at hrow
  cases hlapsed : (view.lapsed (expiredAt current.isoformat)).row with
  | none => simp [hlapsed] at hrow
  | some middle =>
      simp only [hlapsed] at hrow
      by_cases hstate : middle.state = .uncertain
      · simp only [hstate, if_true] at hrow
        unfold View.settled at hrow
        cases hverdict : (view.lapsed (expiredAt current.isoformat)).verdict platform middle with
        | inr reason =>
            simp only [hverdict, hlapsed, Option.some.injEq] at hrow
            exact hnot (by rw [← hrow, hstate]; decide)
        | inl outcome =>
            simp only [hverdict, View.withResult, View.moved, Option.some.injEq] at hrow
            refine hnot ?_
            rw [← hrow]
            change resultState outcome.2 ≠ .running
            cases outcome.2 <;> decide
      · simp only [hstate, if_false, hlapsed, Option.some.injEq] at hrow
        subst hrow
        unfold View.lapsed at hlapsed
        cases hview : view.row with
        | none => simp [hview] at hlapsed
        | some before =>
            simp only [hview] at hlapsed
            by_cases hexpired : expiredAt current.isoformat before = true
            · rw [if_pos hexpired] at hlapsed
              obtain rfl := Option.some.inj hlapsed
              exact absurd rfl hstate
            · rw [if_neg hexpired, hview, Option.some.injEq] at hlapsed
              rw [← hlapsed]
              simpa using hexpired

/-- What a reconciliation leaves uncertain has no verdict to commit. -/
theorem resolved_uncertain {uuid4 : String} {row : WorkflowRow}
    (hrow : (view.resolved platform uuid4).row = some row) (hstate : row.state = .uncertain) :
    view.resolved platform uuid4 = view ∧ view.row = some row ∧
      ∃ reason, view.verdict platform row = .inr reason := by
  unfold View.resolved at hrow ⊢
  cases hview : view.row with
  | none => simp [hview] at hrow
  | some before =>
      simp only [hview] at hrow ⊢
      by_cases hbefore : before.state = .uncertain
      · simp only [hbefore, if_true] at hrow ⊢
        unfold View.settled at hrow ⊢
        cases hverdict : view.verdict platform before with
        | inr reason =>
            simp only [hverdict, hview, Option.some.injEq] at hrow
            subst hrow
            exact ⟨rfl, rfl, reason, hverdict⟩
        | inl outcome =>
            simp only [hverdict, View.withResult, View.moved, Option.some.injEq] at hrow
            have hresult : row.state = resultState outcome.2 := by rw [← hrow]; rfl
            rw [hstate] at hresult
            cases hflag : outcome.2 <;> simp [hflag, resultState] at hresult
      · simp only [hbefore, if_false, hview, Option.some.injEq] at hrow
        exact absurd (hrow ▸ hstate) hbefore

/-! ### A second recovery -/

/-- A recovery right after a recovery changes nothing, whatever its limit. -/
theorem recovered_settled {uuid4 later : String → String} {limit : Int}
    (hnow : utcNow now = .ok current)
    (hviews : ∀ workflowId, final.view workflowId =
      (tables.view workflowId).recovered platform current (uuid4 workflowId)) :
    (store platform).next final (.recoverStartup limit now later) = final := by
  cases hanswer : (store platform).answer final (.recoverStartup limit now later) with
  | error error => exact next_of_error hanswer
  | ok answer =>
      obtain ⟨report, hrecover, -⟩ := map_ok.mp (body_of_answer hanswer)
      obtain ⟨found, hfound, -, -, -, hreport, -, hquiet⟩ := recoverStartup_ok hrecover
      obtain rfl : current = found := Except.ok.inj (hnow.symm.trans hfound)
      have hlapsed : final.workflows.select (expiredAt current.isoformat) = [] := by
        refine List.filter_eq_nil_iff.mpr fun row hmem hexpired => ?_
        have hrow : (final.view row.id).row = some row := Table.find_of_mem hmem
        rw [hviews row.id] at hrow
        rw [recovered_not_expired hrow] at hexpired
        cases hexpired
      refine hquiet ?_ ?_
      · rw [hreport, reportAt, hlapsed]
        rfl
      · rw [hreport]
        refine List.filterMap_eq_nil_iff.mpr fun result hresult => ?_
        obtain ⟨candidate, hcandidate, rfl⟩ := List.mem_map.mp hresult
        obtain ⟨hrow, hcondition⟩ := mem_select_workflows.mp hcandidate
        have hrecovered := hrow
        rw [hviews candidate.id] at hrecovered
        have hexpired := recovered_not_expired hrecovered
        have hstate : candidate.state = .uncertain := by
          simpa [isCandidate, hexpired] using hcondition
        obtain ⟨hsame, -, reason, hverdict⟩ := resolved_uncertain hrecovered hstate
        have hkept : (final.view candidate.id).lapsed (expiredAt current.isoformat) =
            final.view candidate.id := by
          unfold View.lapsed
          simp only [hrow, hexpired, Bool.false_eq_true, if_false]
        have hreason : (final.view candidate.id).verdict platform candidate = .inr reason := by
          rw [hviews candidate.id]
          unfold View.recovered
          rw [hsame]
          exact hverdict
        unfold recoveredOutcome
        rw [hkept]
        unfold View.outcome View.resolution
        simp only [hrow, hreason]
        rfl

/-! ### Step by step -/

/-- A workflow of a tenant that is in a state. -/
def Held (tables : Tables) (name : WorkflowName) (state : WorkflowState) : Prop :=
  ∃ row, tables.workflows.find name.workflowId = some row ∧ row.tenant = name.tenant ∧
    row.state = state

/-- One expiry for each tenant. -/
def expiries (tenants : List String) (now : DateTime) : List Call :=
  tenants.map fun tenant => .recoverExpired tenant now

/-- One reconciliation for each name. -/
def reconciliations (uuid4 : String → String) (names : List WorkflowName) : List Call :=
  names.map fun name => .reconcileUncertain name.tenant name.workflowId (uuid4 name.workflowId)

/-- Expiring some rows and then others is expiring all of them: an expired row is
not selected again. -/
theorem lapsed_lapsed {first second : WorkflowRow → Bool}
    (hsecond : ∀ row, second row = true → row.state = .running) (view : View) :
    (view.lapsed first).lapsed second = view.lapsed fun row => first row || second row := by
  have hexpired : ∀ row : WorkflowRow, second row.expired = false := by
    intro row
    by_contra hselected
    have hstate := hsecond row.expired (by simpa using hselected)
    cases hstate
  unfold View.lapsed
  cases hrow : view.row with
  | none => simp only [hrow]
  | some row =>
      by_cases hfirst : first row = true
      · simp [hfirst, View.moved, hexpired]
      · simp [hfirst, hrow]

/-- The tenants' expiries together lapse the views of all their workflows. -/
theorem expiries_views (hnow : utcNow now = .ok current) (tenants : List String)
    (tables : Tables) :
    ((store platform).after tables (expiries tenants now)).artifacts = tables.artifacts ∧
      ∀ workflowId, ((store platform).after tables (expiries tenants now)).view workflowId =
        (tables.view workflowId).lapsed fun row =>
          decide (row.tenant ∈ tenants) && expiredAt current.isoformat row := by
  induction tenants generalizing tables with
  | nil =>
      refine ⟨rfl, fun workflowId => ?_⟩
      unfold View.lapsed
      cases hrow : (tables.view workflowId).row with
      | none => rfl
      | some row => rfl
  | cons tenant rest ih =>
      obtain ⟨count, next, hrecover, hartifacts, hviews⟩ :=
        recoverExpired_spec hnow tables tenant
      have hnext : (store platform).next tables (.recoverExpired tenant now) = next := by
        have hbody : (Call.recoverExpired tenant now).body platform tables =
            .ok (.expired count, next) := map_ok.mpr ⟨count, hrecover, rfl⟩
        exact congrArg Prod.snd (commit_of_ok hbody)
      obtain ⟨hrest, hlapsed⟩ := ih next
      rw [expiries, List.map_cons, Machine.after_cons, hnext]
      refine ⟨hrest.trans hartifacts, fun workflowId => ?_⟩
      refine (hlapsed workflowId).trans ?_
      rw [hviews workflowId, lapsed_lapsed fun row hrow =>
        expiredAt_running (Bool.and_eq_true_iff.mp hrow).2]
      congr 1
      funext row
      by_cases htenant : row.tenant = tenant
      · simp [htenant]
      · simp [htenant]

/-- A reconciliation of recorded evidence returns when its artifact id is free. -/
theorem reconcileUncertain_total {uuid4 : String} {row : WorkflowRow} {encoded : String}
    {succeeded : Bool} (hrow : (tables.view workflowId).row = some row)
    (htenant : row.tenant = tenant) (hstate : row.state = .uncertain)
    (hverdict : (tables.view workflowId).verdict platform row = .inl (encoded, succeeded))
    (hfree : tables.artifacts.find uuid4 = none) :
    ∃ answer final, reconcileUncertain platform tenant workflowId uuid4 tables =
      .ok (answer, final) ∧ ∀ other, other ≠ uuid4 →
        final.artifacts.find other = tables.artifacts.find other := by
  obtain ⟨journal, hjournal, hjtenant, hevidence, -⟩ := verdict_inl_iff.mp hverdict
  have hid : row.id = workflowId := Table.find_key hrow
  subst hid htenant
  have hcommitted : ∃ ref final, commitResult platform row.tenant row.id row.fence encoded
      (decide (journal.succeeded = some 1)) uuid4 tables = .ok (ref, final) ∧
      ∀ other, other ≠ uuid4 → final.artifacts.find other = tables.artifacts.find other :=
    commitResult_total hfree
  obtain ⟨ref, final, hcommit, hartifacts⟩ := hcommitted
  refine ⟨resultState (decide (journal.succeeded = some 1)), final, ?_, hartifacts⟩
  have hselect : tables.workflows.fetchone (ownedBy row.tenant row.id) = some row :=
    Waiting.select hrow rfl
  unfold reconcileUncertain selectWorkflow selectDispatch
  simp only [query_bind_ok]
  rw [hselect]
  simp only [hstate, ne_eq, not_true_eq_false, if_false, query_bind_ok]
  rw [fetchone_journal, hjournal]
  simp only [Option.filter, hjtenant, decide_true, if_true, hevidence.outcome, lift_bind_ok,
    require_bind_ok]
  refine ⟨true, (outcomeEvidence_iff hevidence.outcome).mpr hevidence, rfl, ?_⟩
  rw [bind_ok]
  exact ⟨ref, final, hcommit, pure_ok.mpr ⟨rfl, rfl⟩⟩

/-- **Step lemma.**  A reconciliation of an uncertain workflow resolves its view,
whether it commits, finds nothing or raises. -/
theorem reconcile_next (platform : Platform) {uuid4 : String} {name : WorkflowName}
    (hheld : Held tables name .uncertain) (hfree : tables.artifacts.find uuid4 = none) :
    let next := (store platform).next tables
      (.reconcileUncertain name.tenant name.workflowId uuid4)
    Moves tables next name.workflowId
        ((tables.view name.workflowId).resolved platform uuid4) ∧
      ∀ other, other ≠ uuid4 → next.artifacts.find other = tables.artifacts.find other := by
  intro next
  obtain ⟨row, hrow, htenant, hstate⟩ := hheld
  have hview : (tables.view name.workflowId).row = some row := hrow
  have hresolved : (tables.view name.workflowId).resolved platform uuid4 =
      (tables.view name.workflowId).settled platform uuid4 row := by
    unfold View.resolved
    simp only [hview, hstate, if_true]
  rw [hresolved]
  unfold View.settled
  cases hverdict : (tables.view name.workflowId).verdict platform row with
  | inl outcome =>
      obtain ⟨answer, final, hreconcile, hartifacts⟩ :=
        reconcileUncertain_total hview htenant hstate hverdict hfree
      have hbody : (Call.reconcileUncertain name.tenant name.workflowId uuid4).body platform
          tables = .ok (.state answer, final) := map_ok.mpr ⟨answer, hreconcile, rfl⟩
      obtain rfl : next = final := congrArg Prod.snd (commit_of_ok hbody)
      refine ⟨?_, hartifacts⟩
      obtain ⟨journal, hjournal, hjtenant, hevidence, hflag⟩ := verdict_inl_iff.mp hverdict
      obtain ⟨row', hrow', -, hcase⟩ := reconcileUncertain_ok hreconcile
      rw [hview, Option.some.injEq] at hrow'
      subst hrow'
      rcases hcase with ⟨-, -, hopen⟩ | ⟨journal', encoded, -, hjournal', -, hevidence', -, hmoves⟩
      · have hnone := hopen hstate journal hjournal (hjtenant.trans htenant)
        rw [hevidence.outcome] at hnone
        cases hnone
      · rw [hjournal, Option.some.injEq] at hjournal'
        subst hjournal'
        obtain rfl : outcome.1 = encoded :=
          Option.some.inj (hevidence.outcome.symm.trans hevidence'.outcome)
        rw [← hflag] at hmoves
        exact hmoves
  | inr reason =>
      have hsame : next = tables := by
        cases hanswer : (store platform).answer tables
            (.reconcileUncertain name.tenant name.workflowId uuid4) with
        | error error => exact next_of_error hanswer
        | ok answer =>
            obtain ⟨state, hreconcile, -⟩ := map_ok.mp (body_of_answer hanswer)
            obtain ⟨row', hrow', htenant', hcase⟩ := reconcileUncertain_ok hreconcile
            rw [hview, Option.some.injEq] at hrow'
            subst hrow'
            rcases hcase with ⟨hsame, -⟩ | ⟨journal, encoded, -, hjournal, hjtenant, hevidence, -⟩
            · exact hsame
            · have hcontra := verdict_inl_iff.mpr
                ⟨journal, hjournal, hjtenant.trans htenant'.symm, hevidence, rfl⟩
              rw [hverdict] at hcontra
              cases hcontra
      rw [hsame]
      exact ⟨⟨rfl, fun _ _ => rfl⟩, fun _ _ => rfl⟩

/-- A workflow stays held while others move. -/
theorem Held.of_view {name : WorkflowName} {state : WorkflowState} (h : Held tables name state)
    (hview : final.view name.workflowId = tables.view name.workflowId) :
    Held final name state := by
  obtain ⟨row, hrow, htenant, hstate⟩ := h
  exact ⟨row, (congrArg View.row hview).trans hrow, htenant, hstate⟩

/-- **Run lemma.**  Reconciling the named workflows one by one resolves exactly
their views. -/
theorem reconciliations_views (platform : Platform) (uuid4 : String → String) {names : List WorkflowName}
    (hnodup : (names.map WorkflowName.workflowId).Nodup)
    (hheld : ∀ name ∈ names, Held tables name .uncertain)
    (hdistinct : (names.map fun name => uuid4 name.workflowId).Nodup)
    (hfree : ∀ name ∈ names, tables.artifacts.find (uuid4 name.workflowId) = none) :
    let final := (store platform).after tables (reconciliations uuid4 names)
    (∀ name ∈ names, final.view name.workflowId =
        (tables.view name.workflowId).resolved platform (uuid4 name.workflowId)) ∧
      ∀ other, other ∉ names.map WorkflowName.workflowId →
        final.view other = tables.view other := by
  induction names generalizing tables with
  | nil =>
      refine ⟨?_, fun _ _ => rfl⟩
      intro name hname
      cases hname
  | cons name rest ih =>
      rw [List.map_cons, List.nodup_cons] at hnodup hdistinct
      obtain ⟨hmoves, hartifacts⟩ := reconcile_next platform
        (hheld name (List.mem_cons_self ..)) (hfree name (List.mem_cons_self ..))
      have hne : ∀ other ∈ rest, other.workflowId ≠ name.workflowId := by
        intro other hother heq
        exact hnodup.1 (heq ▸ List.mem_map_of_mem hother)
      obtain ⟨hresolved, hothers⟩ := ih hnodup.2
        (fun other hother => (hheld other (List.mem_cons_of_mem _ hother)).of_view
          (hmoves.others _ (hne other hother)))
        hdistinct.2
        (fun other hother => by
          rw [hartifacts _ fun heq => hdistinct.1 (List.mem_map.mpr ⟨other, hother, heq⟩)]
          exact hfree other (List.mem_cons_of_mem _ hother))
      rw [reconciliations, List.map_cons, Machine.after_cons]
      refine ⟨?_, ?_⟩
      · intro other hother
        rcases List.mem_cons.mp hother with rfl | hother
        · exact (hothers other.workflowId hnodup.1).trans hmoves.self
        · refine (hresolved other hother).trans ?_
          rw [hmoves.others _ (hne other hother)]
      · intro other hother
        rw [List.map_cons, List.mem_cons, not_or] at hother
        exact (hothers other hother.2).trans (hmoves.others other hother.1)

/-! ### The two ways agree -/

/-- The name of the workflow a row is about. -/
def WorkflowRow.name (row : WorkflowRow) : WorkflowName := ⟨row.tenant, row.id⟩

/-- Identifiers a generator may give to the artifacts of the candidates: new and
pairwise distinct. -/
structure Fresh (tables : Tables) (current : Instant) (uuid4 : String → String) : Prop where
  distinct : ∀ first ∈ candidatesAt tables current, ∀ second ∈ candidatesAt tables current,
    uuid4 first.id = uuid4 second.id → first.id = second.id
  free : ∀ row ∈ candidatesAt tables current, tables.artifacts.find (uuid4 row.id) = none

theorem lapsed_congr {first second : WorkflowRow → Bool}
    (h : ∀ row, view.row = some row → first row = second row) :
    view.lapsed first = view.lapsed second := by
  unfold View.lapsed
  cases hrow : view.row with
  | none => rfl
  | some row => simp only [h row hrow]

theorem Held.row {name : WorkflowName} {state : WorkflowState} (h : Held tables name state) :
    ∃ row, (tables.view name.workflowId).row = some row ∧ row.name = name ∧
      row.state = state := by
  obtain ⟨row, hrow, htenant, hstate⟩ := h
  refine ⟨row, hrow, ?_, hstate⟩
  cases name
  exact WorkflowName.mk.injEq .. |>.mpr ⟨htenant, Table.find_key hrow⟩

theorem held_of_row {row : WorkflowRow} (hrow : (tables.view workflowId).row = some row) :
    Held tables row.name row.state := by
  have hid : row.id = workflowId := Table.find_key hrow
  exact ⟨row, by rw [← hid] at hrow; exact hrow, rfl, rfl⟩

section Phases

variable {middle : Tables}
  (hviews : ∀ workflowId, middle.view workflowId =
    (tables.view workflowId).lapsed (expiredAt current.isoformat))

include hviews

/-- After the expiries the uncertain workflows are the candidates. -/
theorem held_uncertain_iff {name : WorkflowName} :
    Held middle name .uncertain ↔ ∃ row ∈ candidatesAt tables current, row.name = name := by
  constructor
  · intro hheld
    obtain ⟨row, hrow, hname, hstate⟩ := hheld.row
    rw [hviews] at hrow
    unfold View.lapsed at hrow
    cases hbefore : (tables.view name.workflowId).row with
    | none => simp [hbefore] at hrow
    | some before =>
        have hfind : (tables.view before.id).row = some before := by
          rw [show before.id = name.workflowId from Table.find_key hbefore]
          exact hbefore
        simp only [hbefore] at hrow
        by_cases hexpired : expiredAt current.isoformat before = true
        · rw [if_pos hexpired] at hrow
          obtain rfl := Option.some.inj hrow
          exact ⟨before, mem_select_workflows.mpr ⟨hfind, by simp [isCandidate, hexpired]⟩, hname⟩
        · rw [if_neg hexpired, hbefore, Option.some.injEq] at hrow
          subst hrow
          exact ⟨before, mem_select_workflows.mpr ⟨hfind, by simp [isCandidate, hstate]⟩, hname⟩
  · rintro ⟨row, hrow, rfl⟩
    exact waiting_of_lapsed hviews hrow

/-- The expired rows are those the expiries made uncertain. -/
theorem mem_expired_iff {name : WorkflowName} :
    name ∈ (tables.workflows.select (expiredAt current.isoformat)).map WorkflowRow.name ↔
      Held tables name .running ∧ Held middle name .uncertain := by
  constructor
  · intro hmem
    obtain ⟨row, hselected, rfl⟩ := List.mem_map.mp hmem
    obtain ⟨hrow, hexpired⟩ := mem_select_workflows.mp hselected
    refine ⟨?_, (held_uncertain_iff hviews).mpr ⟨row, ?_, rfl⟩⟩
    · exact ⟨row, hrow, rfl, expiredAt_running hexpired⟩
    · exact mem_select_workflows.mpr ⟨hrow, by simp [isCandidate, hexpired]⟩
  · rintro ⟨hrunning, huncertain⟩
    obtain ⟨row, hrow, -, hstate⟩ := hrunning.row
    obtain ⟨candidate, hcandidate, rfl⟩ := (held_uncertain_iff hviews).mp huncertain
    obtain ⟨hfound, hcondition⟩ := mem_select_workflows.mp hcandidate
    obtain rfl : candidate = row := Option.some.inj (hfound.symm.trans hrow)
    refine List.mem_map_of_mem (mem_select_workflows.mpr ⟨hfound, ?_⟩)
    simpa [isCandidate, hstate] using hcondition

end Phases

/-- A reconciliation commits a state exactly when the loop reports it. -/
theorem outcome_inl_iff {uuid4 : String} {row : WorkflowRow} {state : WorkflowState}
    (hrow : view.row = some row) (hstate : row.state = .uncertain) :
    view.outcome platform = .inl state ↔
      (∃ row', (view.resolved platform uuid4).row = some row' ∧ row'.tenant = row.tenant ∧
        row'.state = state) ∧ state ≠ .uncertain := by
  unfold View.outcome View.resolution View.resolved View.settled
  simp only [hrow, hstate, if_true]
  cases hverdict : view.verdict platform row with
  | inr reason =>
      simp only [hrow, Sum.map_inr, reduceCtorEq, false_iff]
      rintro ⟨⟨row', hrow', -, rfl⟩, hne⟩
      obtain rfl := Option.some.inj hrow'
      exact hne hstate
  | inl outcome =>
      simp only [Sum.map_inl, Sum.inl.injEq]
      constructor
      · rintro rfl
        refine ⟨⟨_, rfl, rfl, rfl⟩, ?_⟩
        cases outcome.2 <;> decide
      · rintro ⟨⟨row', hrow', -, rfl⟩, -⟩
        obtain rfl := Option.some.inj hrow'
        rfl

/-- A reconciliation leaves a workflow uncertain exactly when the loop reports a
reason. -/
theorem outcome_inr_iff {uuid4 : String} {row : WorkflowRow}
    (hrow : view.row = some row) (hstate : row.state = .uncertain) :
    (∃ reason, view.outcome platform = .inr reason) ↔
      ∃ row', (view.resolved platform uuid4).row = some row' ∧ row'.tenant = row.tenant ∧
        row'.state = .uncertain := by
  unfold View.outcome View.resolution View.resolved View.settled
  simp only [hrow, hstate, if_true]
  cases hverdict : view.verdict platform row with
  | inr reason =>
      refine ⟨fun _ => ⟨row, hrow, rfl, hstate⟩, fun _ => ⟨reason, rfl⟩⟩
  | inl outcome =>
      constructor
      · rintro ⟨reason, hreason⟩
        cases hreason
      · rintro ⟨row', hrow', -, huncertain⟩
        obtain rfl := Option.some.inj hrow'
        have hresult : resultState outcome.2 = .uncertain := huncertain
        cases hflag : outcome.2 <;> simp [hflag, resultState] at hresult

/-- What the two ways leave, and what the report of the batch says about it. -/
structure BatchAgrees (tables middle step batch : Tables) (report : RecoveryReport) : Prop where
  views : ∀ workflowId, Agree (batch.view workflowId) (step.view workflowId)
  expired : ∀ name, name ∈ report.expired ↔
    Held tables name .running ∧ Held middle name .uncertain
  reconciled : ∀ name state, (name, state) ∈ report.reconciled ↔
    Held middle name .uncertain ∧ Held step name state ∧ state ≠ .uncertain
  unresolved : ∀ name, (∃ reason, (name, reason) ∈ report.unresolved) ↔
    Held step name .uncertain

/-- The batch recovery returns and agrees with the expiries of all tenants and the
reconciliations of all workflows that are uncertain then, in any order; and a
second batch recovery changes nothing. -/
def RecoveryAgrees (platform : Platform) (tables : Tables) (now : DateTime) (current : Instant)
    (limit : Int) : Prop :=
  ∀ (batchIds stepIds : String → String) (tenants : List String) (names : List WorkflowName),
    Fresh tables current batchIds → Fresh tables current stepIds →
    (∀ row ∈ tables.workflows.rows, row.tenant ∈ tenants) →
    let middle := (store platform).after tables (expiries tenants now)
    let step := (store platform).after middle (reconciliations stepIds names)
    let batch := (store platform).next tables (.recoverStartup limit now batchIds)
    names.Nodup → (∀ name, name ∈ names ↔ Held middle name .uncertain) →
    (∃ report, (store platform).answer tables (.recoverStartup limit now batchIds) =
        .ok (.recovery report) ∧ BatchAgrees tables middle step batch report) ∧
      ∀ limit' later,
        (store platform).next batch (.recoverStartup limit' now later) = batch

/-- A call that raised and changed nothing. -/
def Refused (platform : Platform) (tables : Tables) (call : Call) : Prop :=
  (∃ error, (store platform).answer tables call = .error error) ∧
    (store platform).next tables call = tables

/-- What the names of the loop's results are, in terms of the views after the
expiries. -/
theorem mem_results_iff {middle : Tables} {name : WorkflowName}
    {result : WorkflowState ⊕ Unresolved}
    (hviews : ∀ workflowId, middle.view workflowId =
      (tables.view workflowId).lapsed (expiredAt current.isoformat)) :
    (name, result) ∈ (candidatesAt tables current).map (recoveredOutcome platform tables current) ↔
      Held middle name .uncertain ∧ (middle.view name.workflowId).outcome platform = result := by
  rw [held_uncertain_iff hviews, List.mem_map]
  constructor
  · rintro ⟨row, hrow, heq⟩
    obtain ⟨rfl, rfl⟩ := Prod.mk.inj heq
    exact ⟨⟨row, hrow, rfl⟩, congrArg (View.outcome platform) (hviews row.id)⟩
  · rintro ⟨⟨row, hrow, rfl⟩, rfl⟩
    refine ⟨row, hrow, ?_⟩
    rw [hviews]
    rfl

theorem mem_reconciledOf {results : List (WorkflowName × (WorkflowState ⊕ Unresolved))}
    {name : WorkflowName} {state : WorkflowState} :
    (name, state) ∈ reconciledOf results ↔ (name, .inl state) ∈ results := by
  unfold reconciledOf
  rw [List.mem_filterMap]
  constructor
  · rintro ⟨⟨found, result⟩, hmem, heq⟩
    cases result with
    | inl value => simp_all
    | inr reason => simp at heq
  · intro hmem
    exact ⟨_, hmem, rfl⟩

theorem mem_unresolvedOf {results : List (WorkflowName × (WorkflowState ⊕ Unresolved))}
    {name : WorkflowName} {reason : Unresolved} :
    (name, reason) ∈ unresolvedOf results ↔ (name, .inr reason) ∈ results := by
  unfold unresolvedOf
  rw [List.mem_filterMap]
  constructor
  · rintro ⟨⟨found, result⟩, hmem, heq⟩
    cases result with
    | inl value => simp at heq
    | inr value => simp_all
  · intro hmem
    exact ⟨_, hmem, rfl⟩

/-- The views after the reconciliations of all uncertain workflows. -/
theorem stepwise_views {middle : Tables} {stepIds : String → String} {names : List WorkflowName}
    (hartifacts : middle.artifacts = tables.artifacts)
    (hviews : ∀ workflowId, middle.view workflowId =
      (tables.view workflowId).lapsed (expiredAt current.isoformat))
    (hfresh : Fresh tables current stepIds) (hnodup : names.Nodup)
    (hnames : ∀ name, name ∈ names ↔ Held middle name .uncertain) (workflowId : String) :
    ((store platform).after middle (reconciliations stepIds names)).view workflowId =
      (middle.view workflowId).resolved platform (stepIds workflowId) := by
  have hcandidate : ∀ name ∈ names, ∃ row ∈ candidatesAt tables current, row.name = name :=
    fun name hname => (held_uncertain_iff hviews).mp ((hnames name).mp hname)
  -- a workflow belongs to one tenant, so its id determines its name
  have hinj : ∀ first ∈ names, ∀ second ∈ names, first.workflowId = second.workflowId →
      first = second := by
    intro first hfirst second hsecond heq
    obtain ⟨row, hrow, rfl, -⟩ := ((hnames first).mp hfirst).row
    obtain ⟨row', hrow', rfl, -⟩ := ((hnames second).mp hsecond).row
    rw [← heq, hrow, Option.some.injEq] at hrow'
    rw [hrow']
  obtain ⟨hresolved, hothers⟩ := reconciliations_views platform stepIds
    (hnodup.map_on hinj) (fun name hname => (hnames name).mp hname)
    (hnodup.map_on fun first hfirst second hsecond heq => by
      obtain ⟨row, hrow, rfl⟩ := hcandidate first hfirst
      obtain ⟨row', hrow', rfl⟩ := hcandidate second hsecond
      exact hinj _ hfirst _ hsecond (hfresh.distinct row hrow row' hrow' heq))
    (fun name hname => by
      obtain ⟨row, hrow, rfl⟩ := hcandidate name hname
      rw [hartifacts]
      exact hfresh.free row hrow)
  by_cases hmem : workflowId ∈ names.map WorkflowName.workflowId
  · obtain ⟨name, hname, rfl⟩ := List.mem_map.mp hmem
    exact hresolved name hname
  · rw [hothers workflowId hmem]
    unfold View.resolved
    cases hrow : (middle.view workflowId).row with
    | none => rfl
    | some row =>
        have huncertain : ¬ row.state = .uncertain := by
          intro hstate
          have hheld := held_of_row hrow
          rw [hstate] at hheld
          refine hmem (List.mem_map.mpr ⟨row.name, (hnames _).mpr hheld, ?_⟩)
          exact (Table.find_key hrow : row.id = workflowId)
        simp only [huncertain, if_false]

/-- **Batch recovery.**  Within its limit the batch recovery agrees with the
recovery step by step. -/
theorem recoverStartup_agrees {limit : Int} (hnow : utcNow now = .ok current)
    (hlow : 1 ≤ limit) (hhigh : limit ≤ 100000)
    (hlength : ((candidatesAt tables current).length : Int) ≤ limit) :
    RecoveryAgrees platform tables now current limit := by
  intro batchIds stepIds tenants names hbatch hstep hcovers middle step batch hnodup hnames
  have hdistinct : ((candidatesAt tables current).map fun row => batchIds row.id).Nodup := by
    have hrows : (candidatesAt tables current).Nodup :=
      (select_ids_nodup tables (isCandidate current.isoformat)).of_map _
    refine hrows.map_on fun first hfirst second hsecond heq => ?_
    have hid := hbatch.distinct first hfirst second hsecond heq
    have hfound := (mem_select_workflows.mp hfirst).1
    rw [hid, (mem_select_workflows.mp hsecond).1, Option.some.injEq] at hfound
    exact hfound.symm
  have htotal : ∃ report final, recoverStartup platform limit now batchIds tables =
      .ok (report, final) := recoverStartup_total hnow hlow hhigh hlength hdistinct hbatch.free
  obtain ⟨report, final, hrecover⟩ := htotal
  have hbody : (Call.recoverStartup limit now batchIds).body platform tables =
      .ok (.recovery report, final) := map_ok.mpr ⟨report, hrecover, rfl⟩
  obtain rfl : batch = final := congrArg Prod.snd (commit_of_ok hbody)
  have hanswer : (store platform).answer tables (.recoverStartup limit now batchIds) =
      .ok (.recovery report) := congrArg Prod.fst (commit_of_ok hbody)
  obtain ⟨found, hfound, -, -, -, hreport, hbatchViews, -⟩ := recoverStartup_ok hrecover
  obtain rfl : current = found := Except.ok.inj (hnow.symm.trans hfound)
  -- the expiries of all tenants are the expiry of the batch
  obtain ⟨hartifacts, hlapsed⟩ := expiries_views hnow tenants tables
  have hviews : ∀ workflowId, middle.view workflowId =
      (tables.view workflowId).lapsed (expiredAt current.isoformat) := by
    intro workflowId
    refine (hlapsed workflowId).trans (lapsed_congr fun row hrow => ?_)
    simp [hcovers row (Table.mem_of_find hrow)]
  have hstepViews : ∀ workflowId, step.view workflowId =
      (middle.view workflowId).resolved platform (stepIds workflowId) :=
    stepwise_views hartifacts hviews hstep hnodup hnames
  have hheld : ∀ {name : WorkflowName} {row : WorkflowRow} {state : WorkflowState},
      row.name = name → (Held step name state ↔
        ∃ row', ((middle.view name.workflowId).resolved platform (stepIds name.workflowId)).row =
          some row' ∧ row'.tenant = row.tenant ∧ row'.state = state) := by
    rintro _ row state rfl
    rw [← hstepViews row.name.workflowId]
    rfl
  refine ⟨⟨report, hanswer, ?_, ?_, ?_, ?_⟩, fun limit' later => ?_⟩
  · intro workflowId
    rw [hbatchViews workflowId, hstepViews workflowId, hviews workflowId]
    exact resolved_agree ..
  · intro name
    rw [hreport]
    exact mem_expired_iff hviews
  · intro name state
    rw [hreport]
    refine mem_reconciledOf.trans ((mem_results_iff hviews).trans ?_)
    refine and_congr_right fun huncertain => ?_
    obtain ⟨row, hrow, hname, hstate⟩ := huncertain.row
    rw [hheld hname]
    exact outcome_inl_iff hrow hstate
  · intro name
    have hresults : (∃ reason, (name, reason) ∈ report.unresolved) ↔
        Held middle name .uncertain ∧
          ∃ reason, (middle.view name.workflowId).outcome platform = .inr reason := by
      rw [hreport, ← exists_and_left]
      exact exists_congr fun reason => mem_unresolvedOf.trans (mem_results_iff hviews)
    rw [hresults]
    constructor
    · rintro ⟨huncertain, hreason⟩
      obtain ⟨row, hrow, hname, hstate⟩ := huncertain.row
      rw [hheld hname]
      exact (outcome_inr_iff hrow hstate).mp hreason
    · intro hleft
      obtain ⟨row, hrow, hname, hstate⟩ := hleft.row
      rw [hstepViews] at hrow
      obtain ⟨-, hmiddle, -⟩ := resolved_uncertain hrow hstate
      refine ⟨⟨row, hmiddle, by rw [← hname]; rfl, hstate⟩, ?_⟩
      exact (outcome_inr_iff hmiddle hstate).mpr ⟨row, hrow, rfl, hstate⟩
  · exact recovered_settled hnow hbatchViews

/-- A batch recovery over its limit is refused. -/
theorem recoverStartup_exceeded {limit : Int} (hnow : utcNow now = .ok current)
    (hexceeds : limit < (candidatesAt tables current).length)
    (uuid4 : String → String) :
    Refused platform tables (.recoverStartup limit now uuid4) := by
  cases hanswer : (store platform).answer tables (.recoverStartup limit now uuid4) with
  | error error => exact ⟨⟨error, hanswer⟩, next_of_error hanswer⟩
  | ok answer =>
      obtain ⟨report, hrecover, -⟩ := map_ok.mp (body_of_answer hanswer)
      obtain ⟨found, hfound, -, -, hlength, -⟩ := recoverStartup_ok hrecover
      obtain rfl : current = found := Except.ok.inj (hnow.symm.trans hfound)
      omega

/-- A batch recovery with a limit out of range, or at a time that has no UTC
reading, is refused. -/
theorem recoverStartup_guarded {limit : Int}
    (h : ¬ (1 ≤ limit ∧ limit ≤ 100000) ∨ ∀ current, utcNow now ≠ .ok current)
    (uuid4 : String → String) :
    Refused platform tables (.recoverStartup limit now uuid4) := by
  cases hanswer : (store platform).answer tables (.recoverStartup limit now uuid4) with
  | error error => exact ⟨⟨error, hanswer⟩, next_of_error hanswer⟩
  | ok answer =>
      obtain ⟨report, hrecover, -⟩ := map_ok.mp (body_of_answer hanswer)
      obtain ⟨current, hnow, hlow, hhigh, -⟩ := recoverStartup_ok hrecover
      rcases h with hrange | hnone
      · exact absurd ⟨hlow, hhigh⟩ hrange
      · exact absurd hnow (hnone current)

/-- **Batch recovery agrees with recovery step by step.**  At every time and for
every limit from 1 to 100000, the two agree when the candidates are within the
limit, and the batch is refused when they are not; with any other limit or time it
is refused. -/
theorem startup_recovery_agrees (platform : Platform) (tables : Tables) (now : DateTime)
    (limit : Int) :
    (∀ current, utcNow now = .ok current → 1 ≤ limit → limit ≤ 100000 →
      (((candidatesAt tables current).length : Int) ≤ limit →
        RecoveryAgrees platform tables now current limit) ∧
      (limit < (candidatesAt tables current).length →
        ∀ uuid4, Refused platform tables (.recoverStartup limit now uuid4))) ∧
    (¬ (1 ≤ limit ∧ limit ≤ 100000) ∨ (∀ current, utcNow now ≠ .ok current) →
      ∀ uuid4, Refused platform tables (.recoverStartup limit now uuid4)) := by
  refine ⟨fun current hnow hlow hhigh => ⟨?_, ?_⟩, fun h => recoverStartup_guarded h⟩
  · exact recoverStartup_agrees hnow hlow hhigh
  · exact recoverStartup_exceeded hnow

/-- A limit that is larger than the range is refused, even over no candidates. -/
theorem startup_recovery_limit_out_of_range :
    ¬ ∀ (platform : Platform) (calls : List Call) (now : DateTime) (current : Instant)
      (limit : Int), utcNow now = .ok current →
        ((candidatesAt ((store platform).after Tables.empty calls) current).length : Int) ≤ limit →
        RecoveryAgrees platform ((store platform).after Tables.empty calls) now current limit := by
  intro hclaim
  let platform : Platform := ⟨id, id, fun _ => true⟩
  let current : Instant := ⟨0, by decide⟩
  have hnow : utcNow current.utc = .ok current := by
    simp [utcNow, Instant.utc]
  have hfresh : Fresh Tables.empty current id := by
    refine ⟨fun row hrow => ?_, fun row hrow => ?_⟩ <;> cases hrow
  have hagrees := hclaim platform [] current.utc current 100001 hnow (by decide)
  obtain ⟨⟨report, hanswer, -⟩, -⟩ := hagrees id id [] [] hfresh hfresh
    (fun row hrow => by cases hrow) List.nodup_nil (fun name => by
      constructor
      · intro hmem
        cases hmem
      · rintro ⟨row, hrow, -⟩
        cases hrow)
  have hrefused : Refused platform Tables.empty (.recoverStartup 100001 current.utc id) :=
    recoverStartup_guarded (Or.inl (by decide)) id
  obtain ⟨⟨error, herror⟩, -⟩ := hrefused
  have hcontra : (store platform).answer Tables.empty (.recoverStartup 100001 current.utc id) =
      .ok (.recovery report) := hanswer
  rw [herror] at hcontra
  cases hcontra

end Workflows
end Ryuk

import Ryuk.Foundation.Confinement
import Ryuk.Workflows.StoreReads

/-!
# The tasks of a tenant

Every operation on single-task workflows is confined to the tenant that calls it.
Two statements name a workflow without its tenant; both come after one that found
the workflow among those of the tenant.
-/

namespace Ryuk
namespace Workflows

open Foundation Foundation.Json Foundation.Datetime Foundation.Transaction Audit

/-! ### The part of a tenant -/

/-- The rows of one tenant. -/
def Tables.only (tenant : String) (tables : Tables) : Tables where
  workflows := tables.workflows.restrict fun row => decide (row.tenant = tenant)
  events := tables.events.filter fun row => decide (row.tenant = tenant)
  artifacts := tables.artifacts.restrict fun row => decide (row.tenant = tenant)
  validations := tables.validations.restrict fun row => decide (row.tenant = tenant)
  dispatches := tables.dispatches.restrict fun row => decide (row.tenant = tenant)
  bindings := tables.bindings.restrict fun row => decide (row.tenant = tenant)

/-- The tenant has a workflow with this identifier. -/
def Tables.Has (tables : Tables) (tenant workflowId : String) : Prop :=
  ∃ row ∈ tables.workflows.rows, row.id = workflowId ∧ row.tenant = tenant

/-- What is recorded of a workflow is recorded for its tenant. -/
structure Tables.Owned (tables : Tables) : Prop where
  validations : ∀ row ∈ tables.validations.rows, tables.Has row.tenant row.workflowId
  dispatches : ∀ row ∈ tables.dispatches.rows, tables.Has row.tenant row.workflowId
  bindings : ∀ row ∈ tables.bindings.rows, tables.Has row.tenant row.workflowId

/-- A generated identifier is not in use. -/
structure Tables.Unused (tables : Tables) (uuid4 : String) : Prop where
  workflows : ∀ row ∈ tables.workflows.rows, row.id ≠ uuid4
  artifacts : ∀ row ∈ tables.artifacts.rows, row.id ≠ uuid4

theorem Tables.empty_owned : Tables.empty.Owned where
  validations _ h := (List.not_mem_nil h).elim
  dispatches _ h := (List.not_mem_nil h).elim
  bindings _ h := (List.not_mem_nil h).elim

section Statements

variable {α : Type} {tables next : Tables} {tenant other workflowId : String}
  {condition before after : Tables → Prop}

/-- A workflow has one tenant. -/
theorem Tables.Has.unique (h : tables.Has tenant workflowId) (h' : tables.Has other workflowId) :
    other = tenant := by
  obtain ⟨row, hrow, hid, rfl⟩ := h
  obtain ⟨row', hrow', hid', rfl⟩ := h'
  have hfound := Table.find_of_mem hrow
  have hfound' := Table.find_of_mem hrow'
  rw [hid] at hfound
  rw [hid', hfound] at hfound'
  rw [Option.some.inj hfound']

theorem selectWorkflow_has {row : WorkflowRow}
    (h : tables.workflows.fetchone (ownedBy tenant workflowId) = some row) :
    tables.Has tenant workflowId := by
  have howned := List.find?_some h
  unfold ownedBy at howned
  rw [Bool.and_eq_true, decide_eq_true_eq, decide_eq_true_eq] at howned
  exact ⟨row, List.mem_of_find?_eq_some h, howned.2, howned.1⟩

theorem and_tenant {ρ : Type} {tenantOf : ρ → String} {rest : ρ → Bool} (row : ρ)
    (h : (decide (tenantOf row = tenant) && rest row) = true) :
    decide (tenantOf row = tenant) = true := by
  rw [Bool.and_eq_true] at h
  exact h.1

theorem selectWorkflow_confined :
    Confined Tables.only tenant condition condition (selectWorkflow tenant workflowId) :=
  Confined.query fun _ _ => Table.fetchone_restrict and_tenant

theorem selectDispatch_confined :
    Confined Tables.only tenant condition condition (selectDispatch tenant workflowId) :=
  Confined.query fun _ _ => Table.fetchone_restrict and_tenant

/-! ### Writes -/

theorem shows_workflows : ShowsTable Tables.only (fun tenant row => decide (row.tenant = tenant))
    Tables.workflows fun tables workflows => { tables with workflows } where
  get_view _ _ := rfl
  set_view _ _ _ := rfl
  set_get _ := rfl

theorem shows_artifacts : ShowsTable Tables.only (fun tenant row => decide (row.tenant = tenant))
    Tables.artifacts fun tables artifacts => { tables with artifacts } where
  get_view _ _ := rfl
  set_view _ _ _ := rfl
  set_get _ := rfl

theorem shows_validations : ShowsTable Tables.only (fun tenant row => decide (row.tenant = tenant))
    Tables.validations fun tables validations => { tables with validations } where
  get_view _ _ := rfl
  set_view _ _ _ := rfl
  set_get _ := rfl

theorem shows_dispatches : ShowsTable Tables.only (fun tenant row => decide (row.tenant = tenant))
    Tables.dispatches fun tables dispatches => { tables with dispatches } where
  get_view _ _ := rfl
  set_view _ _ _ := rfl
  set_get _ := rfl

theorem shows_bindings : ShowsTable Tables.only (fun tenant row => decide (row.tenant = tenant))
    Tables.bindings fun tables bindings => { tables with bindings } where
  get_view _ _ := rfl
  set_view _ _ _ := rfl
  set_get _ := rfl

/-- More workflows own what is recorded. -/
theorem Tables.Owned.mono (h : tables.Owned) (hvalidations : next.validations = tables.validations)
    (hdispatches : next.dispatches = tables.dispatches) (hbindings : next.bindings = tables.bindings)
    (hhas : ∀ tenant workflowId, tables.Has tenant workflowId → next.Has tenant workflowId) :
    next.Owned where
  validations row hrow := hhas _ _ (h.validations row (hvalidations ▸ hrow))
  dispatches row hrow := hhas _ _ (h.dispatches row (hdispatches ▸ hrow))
  bindings row hrow := hhas _ _ (h.bindings row (hbindings ▸ hrow))

/-- `UPDATE workflows SET ... WHERE tenant=? AND id=?`. -/
theorem updateWorkflow_confined {change : WorkflowRow → WorkflowRow}
    {hkey : ∀ row, (change row).id = row.id} (htenant : ∀ row, (change row).tenant = row.tenant) :
    Confined Tables.only tenant Tables.Owned Tables.Owned
      (updateWorkflow tenant workflowId change hkey) := by
  apply shows_workflows.update
  · intro state _ row _ hrow other hother
    unfold ownedBy at hrow
    rw [Bool.and_eq_true, decide_eq_true_eq] at hrow
    rw [hrow.1]
    exact decide_eq_false hother.symm
  · intro other row
    rw [htenant]
  · intro state howned
    refine howned.mono rfl rfl rfl fun owner id hhas => ?_
    obtain ⟨row, hrow, rfl, rfl⟩ := hhas
    refine ⟨_, List.mem_map_of_mem hrow, ?_, ?_⟩
    · split_ifs
      · exact hkey row
      · rfl
    · split_ifs
      · exact htenant row
      · rfl

/-- `UPDATE workflow_dispatches SET ... WHERE tenant=? AND workflow_id=?`. -/
theorem setDispatch_confined {change : DispatchRow → DispatchRow}
    {hkey : ∀ row, (change row).workflowId = row.workflowId}
    (htenant : ∀ row, (change row).tenant = row.tenant) :
    Confined Tables.only tenant Tables.Owned Tables.Owned
      (write (Tables.setDispatch tenant workflowId change hkey) : Tx Unit) := by
  apply shows_dispatches.update
  · intro state _ row _ hrow other hother
    unfold journalOf at hrow
    rw [Bool.and_eq_true, decide_eq_true_eq] at hrow
    rw [hrow.1]
    exact decide_eq_false hother.symm
  · intro other row
    rw [htenant]
  · intro state howned
    refine ⟨howned.validations, fun row hrow => ?_, howned.bindings⟩
    obtain ⟨old, hold, rfl⟩ := List.mem_map.mp hrow
    have hhas := howned.dispatches old hold
    split_ifs
    · rw [htenant, hkey]
      exact hhas
    · exact hhas

theorem event_confined {label : EventLabel} {fence : Int} :
    Confined Tables.only tenant Tables.Owned Tables.Owned
      (event tenant workflowId label fence) := by
  have hlog : ∀ (other : String) (state : Tables),
      (state.log tenant workflowId label fence).only other =
        { state.only other with
          events := (state.only other).events ++
            if tenant = other then [⟨workflowId, tenant, label, fence⟩] else [] } := by
    intro other state
    unfold Tables.log Tables.only
    simp only [Tables.mk.injEq, and_true, true_and, List.filter_append, List.filter_singleton]
    split_ifs with hsame
    · rw [decide_eq_true hsame]
      rfl
    · rw [decide_eq_false hsame]
      rfl
  apply Confined.write
  · intro state _
    rw [hlog, if_pos rfl]
    rfl
  · intro other hother state _
    rw [hlog, if_neg hother.symm, List.append_nil]
  · intro state howned
    exact ⟨howned.validations, howned.dispatches, howned.bindings⟩

/-! ### Insertions -/

/-- What an insertion that depends on a workflow of the tenant starts from. -/
def Tables.OwnedWith (tenant workflowId : String) (tables : Tables) : Prop :=
  tables.Owned ∧ tables.Has tenant workflowId

theorem addWorkflow_confined {row : WorkflowRow} {error : PyError} (hrow : row.tenant = tenant)
    (hid : row.id = workflowId) :
    Confined Tables.only tenant (fun tables => tables.Owned ∧ tables.Unused workflowId)
      (Tables.OwnedWith tenant workflowId) (attempt (Tables.addWorkflow row) error : Tx Unit) := by
  apply shows_workflows.insert
  · exact decide_eq_true hrow
  · intro other hother
    exact decide_eq_false (hrow ▸ hother.symm)
  · intro state hstate taken htaken hkey
    exact (hstate.2.workflows taken htaken (hkey.trans hid)).elim
  · intro state table hstate hinsert
    refine ⟨hstate.1.mono rfl rfl rfl fun owner id hhas => ?_, row,
      (Table.mem_insert hinsert).mpr (Or.inr rfl), hid, hrow⟩
    obtain ⟨old, hold, hold'⟩ := hhas
    exact ⟨old, (Table.mem_insert hinsert).mpr (Or.inl hold), hold'⟩

theorem addArtifact_confined {row : ArtifactRow} {error : PyError} {uuid4 : String}
    (hrow : row.tenant = tenant) (hid : row.id = uuid4) :
    Confined Tables.only tenant (fun tables => tables.Owned ∧ tables.Unused uuid4) Tables.Owned
      (attempt (Tables.addArtifact row) error : Tx Unit) := by
  apply shows_artifacts.insert
  · exact decide_eq_true hrow
  · intro other hother
    exact decide_eq_false (hrow ▸ hother.symm)
  · intro state hstate taken htaken hkey
    exact (hstate.2.artifacts taken htaken (hkey.trans hid)).elim
  · intro state table hstate hinsert
    exact hstate.1.mono rfl rfl rfl fun _ _ hhas => hhas

theorem addValidation_confined {row : ValidationRow} {error : PyError}
    (hrow : row.tenant = tenant) (hid : row.workflowId = workflowId) :
    Confined Tables.only tenant (Tables.OwnedWith tenant workflowId) Tables.Owned
      (attempt (Tables.addValidation row) error : Tx Unit) := by
  apply shows_validations.insert
  · exact decide_eq_true hrow
  · intro other hother
    exact decide_eq_false (hrow ▸ hother.symm)
  · intro state hstate taken htaken hkey
    have hhas := hstate.1.validations taken htaken
    rw [hkey, hid] at hhas
    exact decide_eq_true (hstate.2.unique hhas)
  · intro state table hstate hinsert
    refine ⟨fun taken htaken => ?_, hstate.1.dispatches, hstate.1.bindings⟩
    rcases (Table.mem_insert hinsert).mp htaken with hold | rfl
    · exact hstate.1.validations taken hold
    · rw [hrow, hid]
      exact hstate.2

theorem addDispatch_confined {row : DispatchRow} {error : PyError} (hrow : row.tenant = tenant)
    (hid : row.workflowId = workflowId) :
    Confined Tables.only tenant (Tables.OwnedWith tenant workflowId) Tables.Owned
      (attempt (Tables.addDispatch row) error : Tx Unit) := by
  apply shows_dispatches.insert
  · exact decide_eq_true hrow
  · intro other hother
    exact decide_eq_false (hrow ▸ hother.symm)
  · intro state hstate taken htaken hkey
    have hhas := hstate.1.dispatches taken htaken
    rw [hkey, hid] at hhas
    exact decide_eq_true (hstate.2.unique hhas)
  · intro state table hstate hinsert
    refine ⟨hstate.1.validations, fun taken htaken => ?_, hstate.1.bindings⟩
    rcases (Table.mem_insert hinsert).mp htaken with hold | rfl
    · exact hstate.1.dispatches taken hold
    · rw [hrow, hid]
      exact hstate.2

theorem insertBinding_confined {row : Option BindingRow}
    (hrow : ∀ bound, row = some bound → bound.tenant = tenant ∧ bound.workflowId = workflowId) :
    Confined Tables.only tenant (Tables.OwnedWith tenant workflowId) Tables.Owned
      (insertBinding row) := by
  cases row with
  | none => exact Confined.pure.weaken (fun _ h => h.1) fun _ h => h
  | some row =>
      obtain ⟨htenant, hid⟩ := hrow row rfl
      apply shows_bindings.insert
      · exact decide_eq_true htenant
      · intro other hother
        exact decide_eq_false (htenant ▸ hother.symm)
      · intro state hstate taken htaken hkey
        have hhas := hstate.1.bindings taken htaken
        rw [hkey, hid] at hhas
        exact decide_eq_true (hstate.2.unique hhas)
      · intro state table hstate hinsert
        refine ⟨hstate.1.validations, hstate.1.dispatches, fun taken htaken => ?_⟩
        rcases (Table.mem_insert hinsert).mp htaken with hold | rfl
        · exact hstate.1.bindings taken hold
        · rw [htenant, hid]
          exact hstate.2

/-! ### Operations -/

variable {platform : Platform} {owner uuid4 : String} {fence : Int} {now : DateTime}

theorem identifier_confined {value : String} :
    Confined Tables.only tenant condition condition (identifier value) :=
  Confined.require

theorem create_confined {key : String} {packet : TaskPacket}
    {binding : Option (List (String × Json))} :
    Confined Tables.only tenant (fun tables => tables.Owned ∧ tables.Unused uuid4) Tables.Owned
      (create platform tenant key packet binding uuid4) := by
  unfold create
  apply Confined.bind identifier_confined
  intro _
  apply Confined.bind identifier_confined
  intro _
  apply Confined.bind Confined.lift
  intro dict
  apply Confined.bind Confined.lift
  intro validated
  apply Confined.bind Confined.lift
  intro value
  apply Confined.bind Confined.lift
  intro encoded
  apply Confined.bind Confined.lift
  intro bound
  apply Confined.bind Confined.lift
  intro hashed
  apply Confined.bind (Confined.query fun _ _ => Table.fetchone_restrict and_tenant)
  intro existing
  cases existing with
  | some row =>
      exact (Confined.bind Confined.require fun _ => Confined.pure).weaken (fun _ h => h)
        fun _ h => h.1
  | none =>
      apply Confined.bind
      · exact addWorkflow_confined rfl rfl
      · intro _
        refine Confined.bind (insertBinding_confined fun row hrow => ?_) fun _ =>
          Confined.bind event_confined fun _ => Confined.pure
        obtain ⟨text, -, rfl⟩ := Option.map_eq_some_iff.mp hrow
        exact ⟨rfl, rfl⟩

theorem claim_confined {leaseSeconds : Int} :
    Confined Tables.only tenant Tables.Owned Tables.Owned
      (claim tenant workflowId owner leaseSeconds now) := by
  unfold claim
  apply Confined.bind identifier_confined
  intro _
  apply Confined.bind Confined.require
  intro _
  apply Confined.bind Confined.lift
  intro current
  apply Confined.bind Confined.lift
  intro expiry
  apply Confined.bind selectWorkflow_confined
  intro row
  cases row with
  | none => exact Confined.fail
  | some row =>
      apply Confined.bind Confined.require
      intro _
      apply Confined.bind Confined.lift
      intro packet
      apply Confined.bind Confined.lift
      intro _
      exact Confined.bind (updateWorkflow_confined fun _ => rfl) fun _ =>
        Confined.bind event_confined fun _ => Confined.pure

/-- A lease is on a workflow of the tenant. -/
theorem requireLease_confined :
    Confined Tables.only tenant condition
      (fun tables => condition tables ∧ tables.Has tenant workflowId)
      (requireLease tenant workflowId owner fence now) := by
  have hlease : Confined Tables.only tenant condition condition
      (requireLease tenant workflowId owner fence now) := by
    unfold requireLease
    apply Confined.bind selectWorkflow_confined
    intro row
    cases row with
    | none => exact Confined.fail
    | some row =>
        exact Confined.bind Confined.require fun _ => Confined.bind Confined.lift fun _ =>
          Confined.require
  apply hlease.learn
  intro state _ final _ h
  unfold requireLease selectWorkflow at h
  rw [query_bind_ok] at h
  generalize hfound : state.workflows.fetchone (ownedBy tenant workflowId) = found at h
  cases found with
  | none => exact (fail_ok.mp h).elim
  | some row =>
      simp only [require_bind_ok, lift_bind_ok, require_ok] at h
      obtain ⟨-, expired, -, -, rfl⟩ := h
      exact selectWorkflow_has hfound

/-- The check on any journal comes after the one on the lease. -/
theorem recorded_local {tables : Tables} (h : tables.OwnedWith tenant workflowId) :
    ((tables.only tenant).dispatches.fetchone fun row => decide (row.workflowId = workflowId)) =
      tables.dispatches.fetchone fun row => decide (row.workflowId = workflowId) := by
  have hselect : (tables.only tenant).dispatches.rows.filter
        (fun row => decide (row.workflowId = workflowId)) =
      tables.dispatches.rows.filter fun row => decide (row.workflowId = workflowId) := by
    show List.filter _ (List.filter _ tables.dispatches.rows) = _
    rw [List.filter_filter]
    apply List.filter_congr
    intro row hrow
    by_cases hid : row.workflowId = workflowId
    · have htenant : row.tenant = tenant := h.2.unique (hid ▸ h.1.dispatches row hrow)
      rw [decide_eq_true htenant, Bool.and_true]
    · rw [decide_eq_false hid, Bool.false_and]
  unfold Table.fetchone
  rw [← List.head?_filter, ← List.head?_filter, hselect]

theorem beginDispatch_confined {budget : List (String × Json)} :
    Confined Tables.only tenant Tables.Owned Tables.Owned
      (beginDispatch tenant workflowId owner fence budget now) := by
  unfold beginDispatch
  apply Confined.bind Confined.lift
  intro encoded
  apply Confined.bind requireLease_confined
  intro _
  apply Confined.bind (Confined.query fun _ h => recorded_local h)
  intro recorded
  apply Confined.bind Confined.require
  intro _
  apply Confined.bind
  · exact addDispatch_confined rfl rfl
  · intro _
    exact event_confined

theorem recordOutcome_confined {result : List (String × Json)} {succeeded : Bool} :
    Confined Tables.only tenant Tables.Owned Tables.Owned
      (recordOutcome platform tenant workflowId owner fence result succeeded now) := by
  unfold recordOutcome
  apply Confined.bind Confined.lift
  intro encoded
  apply Confined.bind (requireLease_confined.weaken (fun _ h => h) fun _ h => h.1)
  intro _
  apply Confined.bind selectDispatch_confined
  intro row
  cases row with
  | none => exact Confined.fail
  | some row =>
      apply Confined.bind Confined.require
      intro _
      cases row.outcomeJson with
      | some outcome => exact Confined.require
      | none => exact Confined.bind (setDispatch_confined fun _ => rfl) fun _ => event_confined

theorem commitResult_confined {encoded : String} {succeeded : Bool} :
    Confined Tables.only tenant (fun tables => tables.Owned ∧ tables.Unused uuid4) Tables.Owned
      (commitResult platform tenant workflowId fence encoded succeeded uuid4) := by
  unfold commitResult
  apply Confined.bind
  · exact addArtifact_confined rfl rfl
  · intro _
    exact Confined.bind (updateWorkflow_confined fun _ => rfl) fun _ =>
      Confined.bind event_confined fun _ => Confined.pure

theorem complete_confined {result : List (String × Json)} {succeeded : Bool} :
    Confined Tables.only tenant (fun tables => tables.Owned ∧ tables.Unused uuid4) Tables.Owned
      (complete platform tenant workflowId owner fence result succeeded now uuid4) := by
  unfold complete
  apply Confined.bind Confined.lift
  intro encoded
  apply Confined.bind (requireLease_confined.weaken (fun _ h => h) fun _ h => h.1)
  intro _
  apply Confined.bind selectDispatch_confined
  intro journal
  cases journal with
  | none => exact commitResult_confined
  | some journal => exact Confined.bind Confined.require fun _ => commitResult_confined

theorem reconcileUncertain_confined :
    Confined Tables.only tenant (fun tables => tables.Owned ∧ tables.Unused uuid4) Tables.Owned
      (reconcileUncertain platform tenant workflowId uuid4) := by
  have hreturn : ∀ state : WorkflowState,
      Confined Tables.only tenant (fun tables => tables.Owned ∧ tables.Unused uuid4) Tables.Owned
        (pure state : Tx WorkflowState) :=
    fun state => Confined.pure.weaken (fun _ h => h.1) fun _ h => h
  unfold reconcileUncertain
  apply Confined.bind selectWorkflow_confined
  intro row
  cases row with
  | none => exact Confined.fail
  | some row =>
      simp only
      split_ifs
      · exact hreturn row.state
      · apply Confined.bind selectDispatch_confined
        intro journal
        cases journal with
        | none => exact hreturn .uncertain
        | some journal =>
            simp only
            cases journal.outcomeJson with
            | none => exact hreturn .uncertain
            | some encoded =>
                apply Confined.bind Confined.lift
                intro valid
                apply Confined.bind Confined.require
                intro _
                exact Confined.bind commitResult_confined fun _ => Confined.pure

theorem cancel_confined :
    Confined Tables.only tenant Tables.Owned Tables.Owned (cancel tenant workflowId) := by
  unfold cancel
  apply Confined.bind selectWorkflow_confined
  intro row
  cases row with
  | none => exact Confined.pure
  | some row =>
      have hcancel : Confined Tables.only tenant Tables.Owned Tables.Owned (do
          updateWorkflow tenant workflowId (fun found =>
            { found with state := .cancelled, fence := row.fence + 1, owner := none,
                         leaseUntil := none }) fun _ => rfl
          event tenant workflowId (.state .cancelled) (row.fence + 1)
          pure true) :=
        Confined.bind (updateWorkflow_confined fun _ => rfl) fun _ =>
          Confined.bind event_confined fun _ => Confined.pure
      simp only
      cases row.state with
      | ready | running | awaitingValidation => exact hcancel
      | cancelled | uncertain | failed | succeeded | rejected => exact Confined.pure

theorem expireAll_confined {rows : List WorkflowRow} (h : ∀ row ∈ rows, row.tenant = tenant) :
    Confined Tables.only tenant Tables.Owned Tables.Owned (expireAll rows) := by
  induction rows with
  | nil => exact Confined.pure
  | cons row rest ih =>
      obtain rfl := h row (List.mem_cons_self ..)
      apply Confined.bind
      · exact Confined.bind (updateWorkflow_confined fun _ => rfl) fun _ => event_confined
      · intro _
        exact ih fun other hother => h other (List.mem_cons_of_mem _ hother)

theorem recoverExpired_confined :
    Confined Tables.only tenant Tables.Owned Tables.Owned (recoverExpired tenant now) := by
  unfold recoverExpired
  apply Confined.bind Confined.lift
  intro current
  apply Confined.read fun _ _ => Table.select_restrict and_tenant
  rintro rows ⟨state, -, rfl⟩
  have hrows : ∀ row ∈ state.workflows.select (fun row =>
      decide (row.tenant = tenant) && expiredAt current.isoformat row), row.tenant = tenant := by
    intro row hrow
    have hselected := (Table.mem_select.mp hrow).2
    rw [Bool.and_eq_true, decide_eq_true_eq] at hselected
    exact hselected.1
  exact (Confined.bind (expireAll_confined hrows) fun _ => Confined.pure).weaken (fun _ h => h.1)
    fun _ h => h

/-! ### Validation -/

theorem getArtifact_confined {artifactId : Option String} :
    Confined Tables.only tenant condition condition
      (getArtifact platform tenant workflowId artifactId) := by
  unfold getArtifact selectArtifact
  apply Confined.bind
  · apply Confined.query
    intro state _
    apply Table.fetchone_restrict
    intro row hrow
    rw [Bool.and_eq_true, Bool.and_eq_true] at hrow
    exact hrow.1.1
  · intro row
    cases row with
    | none => exact Confined.pure
    | some row => exact Confined.bind Confined.lift fun _ => Confined.pure

theorem getBinding_confined :
    Confined Tables.only tenant condition condition (getBinding tenant workflowId) := by
  unfold getBinding
  apply Confined.bind (Confined.query fun _ _ => Table.fetchone_restrict and_tenant)
  intro row
  cases row with
  | none => exact Confined.pure
  | some row => exact Confined.bind Confined.lift fun _ => Confined.pure

/-- What a validation does once it has read the workflow. -/
theorem validate_confined {policy : Option ValidationPolicy} :
    Confined Tables.only tenant Tables.Owned Tables.Owned
      (validate platform tenant workflowId policy) := by
  unfold validate selectWorkflow
  apply Confined.bind getBinding_confined
  intro binding
  apply Confined.bind Confined.lift
  intro snapshot
  apply Confined.read fun _ _ => Table.fetchone_restrict and_tenant
  rintro found -
  cases found with
  | none => exact Confined.fail
  | some row =>
      have hhas : ∀ state : Tables, (state.Owned ∧
          state.workflows.fetchone (ownedBy tenant workflowId) = some row) →
            state.OwnedWith tenant workflowId :=
        fun state h => ⟨h.1, selectWorkflow_has h.2⟩
      refine Confined.weaken ?_ hhas fun _ h => h
      apply Confined.bind (Confined.query fun _ _ => Table.fetchone_restrict and_tenant)
      intro previous
      apply Confined.bind getArtifact_confined
      intro artifact
      cases artifact with
      | none => exact Confined.fail
      | some artifact =>
          cases previous with
          | some previous =>
              apply Confined.bind Confined.lift
              intro report
              apply Confined.bind Confined.lift
              intro same
              exact (Confined.bind Confined.require fun _ => Confined.pure).weaken (fun _ h => h)
                fun _ h => h.1
          | none =>
              apply Confined.bind Confined.require
              intro _
              apply Confined.bind Confined.lift
              intro report
              apply Confined.bind Confined.lift
              intro decision
              apply Confined.bind Confined.lift
              intro reportJson
              apply Confined.bind
              · exact addValidation_confined rfl rfl
              · intro _
                exact Confined.bind (updateWorkflow_confined fun _ => rfl) fun _ =>
                  Confined.bind event_confined fun _ => Confined.pure

/-! ### Reads -/

open SQLiteWorkflowStore

theorem get_confined :
    Confined Tables.only tenant condition condition
      (SQLiteWorkflowStore.get platform tenant workflowId) := by
  unfold SQLiteWorkflowStore.get
  apply Confined.bind selectWorkflow_confined
  intro row
  cases row with
  | none => exact Confined.pure
  | some row =>
      apply Confined.bind Confined.lift
      intro packet
      apply Confined.bind Confined.lift
      intro stored
      apply Confined.bind
      · show Confined Tables.only tenant condition condition
          (recordResult platform tenant workflowId stored row.resultArtifactId)
        cases row.resultArtifactId with
        | none => exact Confined.pure
        | some artifactId =>
            apply Confined.bind getArtifact_confined
            intro artifact
            cases artifact with
            | none => exact Confined.fail
            | some artifact => exact Confined.pure
      · intro result
        apply Confined.bind (Confined.query fun _ _ => Table.fetchone_restrict and_tenant)
        intro report
        exact Confined.bind Confined.lift fun _ => Confined.pure

theorem getPacket_confined :
    Confined Tables.only tenant condition condition (getPacket platform tenant workflowId) := by
  unfold getPacket
  apply Confined.bind get_confined
  intro workflow
  cases workflow with
  | none => exact Confined.pure
  | some workflow => exact Confined.bind Confined.lift fun _ => Confined.pure

/-- An event without its place among those of all tenants. -/
def EventRecord.unnumbered (record : EventRecord) : EventRecord := { record with sequence := 0 }

theorem events_confined :
    Confined Tables.only tenant condition condition
      (List.map EventRecord.unnumbered <$> events tenant workflowId) := by
  have hevents : ∀ tables : Tables, ((sequenced tables.events fun row =>
      decide (row.tenant = tenant) && decide (row.workflowId = workflowId)).map fun entry =>
        (⟨entry.1, entry.2.label, entry.2.fence⟩ : EventRecord)).map EventRecord.unnumbered =
      (tables.events.filter fun row => decide (row.tenant = tenant) &&
        decide (row.workflowId = workflowId)).map fun row => ⟨0, row.label, row.fence⟩ := by
    intro tables
    rw [← sequenced_rows, List.map_map, List.map_map]
    rfl
  have hquery : (List.map EventRecord.unnumbered <$> events tenant workflowId) =
      (query fun tables => (tables.events.filter fun row => decide (row.tenant = tenant) &&
        decide (row.workflowId = workflowId)).map fun row => ⟨0, row.label, row.fence⟩) := by
    funext tables
    show Except.ok (_, tables) = Except.ok (_, tables)
    rw [hevents]
  rw [hquery]
  apply Confined.query
  intro state _
  show List.map _ (List.filter _ (List.filter _ state.events)) = _
  rw [List.filter_filter]
  congr 1
  apply List.filter_congr
  intro row _
  cases decide (row.tenant = tenant) with
  | false => rw [Bool.false_and, Bool.and_false]
  | true => rw [Bool.true_and, Bool.and_true]

end Statements

/-! ### Requests -/

/-- What a tenant may ask about its single tasks. -/
inductive TaskRequest where
  | create (key : String) (packet : TaskPacket) (binding : Option (List (String × Json)))
      (uuid4 : String)
  | claim (workflowId owner : String) (leaseSeconds : Int) (now : DateTime)
  | beginDispatch (workflowId owner : String) (fence : Int) (budget : List (String × Json))
      (now : DateTime)
  | recordOutcome (workflowId owner : String) (fence : Int) (result : List (String × Json))
      (succeeded : Bool) (now : DateTime)
  | complete (workflowId owner : String) (fence : Int) (result : List (String × Json))
      (succeeded : Bool) (now : DateTime) (uuid4 : String)
  | reconcileUncertain (workflowId uuid4 : String)
  | validate (workflowId : String) (policy : Option ValidationPolicy)
  | cancel (workflowId : String)
  | recoverExpired (now : DateTime)
  | get (workflowId : String)
  | getPacket (workflowId : String)
  | getBinding (workflowId : String)
  | getArtifact (workflowId artifactId : String)
  | events (workflowId : String)

/-- What a request returns. -/
inductive TaskReply (platform : Platform) where
  | answer (answer : Answer)
  | record (record : Option SQLiteWorkflowStore.WorkflowRecord)
  | packet (packet : Option TaskPacket)
  | binding (binding : Option Json)
  | artifact (artifact : Option (StoredArtifact platform))
  | events (events : List SQLiteWorkflowStore.EventRecord)

/-- The transaction of a request by a tenant. -/
def TaskRequest.body (platform : Platform) (tenant : String) :
    TaskRequest → Tx (TaskReply platform)
  | .create key packet binding uuid4 =>
      .answer <$> (Call.create tenant key packet binding uuid4).body platform
  | .claim workflowId owner leaseSeconds now =>
      .answer <$> (Call.claim tenant workflowId owner leaseSeconds now).body platform
  | .beginDispatch workflowId owner fence budget now =>
      .answer <$> (Call.beginDispatch tenant workflowId owner fence budget now).body platform
  | .recordOutcome workflowId owner fence result succeeded now =>
      .answer <$>
        (Call.recordOutcome tenant workflowId owner fence result succeeded now).body platform
  | .complete workflowId owner fence result succeeded now uuid4 =>
      .answer <$>
        (Call.complete tenant workflowId owner fence result succeeded now uuid4).body platform
  | .reconcileUncertain workflowId uuid4 =>
      .answer <$> (Call.reconcileUncertain tenant workflowId uuid4).body platform
  | .validate workflowId policy => .answer <$> (Call.validate tenant workflowId policy).body platform
  | .cancel workflowId => .answer <$> (Call.cancel tenant workflowId).body platform
  | .recoverExpired now => .answer <$> (Call.recoverExpired tenant now).body platform
  | .get workflowId => .record <$> SQLiteWorkflowStore.get platform tenant workflowId
  | .getPacket workflowId => .packet <$> SQLiteWorkflowStore.getPacket platform tenant workflowId
  | .getBinding workflowId => .binding <$> Workflows.getBinding tenant workflowId
  | .getArtifact workflowId artifactId =>
      .artifact <$> Workflows.getArtifact platform tenant workflowId (some artifactId)
  | .events workflowId => .events <$> SQLiteWorkflowStore.events tenant workflowId

/-- The identifier that is generated for a request, if it needs one. -/
def TaskRequest.generated : TaskRequest → Option String
  | .create _ _ _ uuid4 | .complete _ _ _ _ _ _ uuid4 | .reconcileUncertain _ uuid4 => some uuid4
  | .claim _ _ _ _ | .beginDispatch _ _ _ _ _ | .recordOutcome _ _ _ _ _ _ | .validate _ _
  | .cancel _ | .recoverExpired _ | .get _ | .getPacket _ | .getBinding _ | .getArtifact _ _
  | .events _ => none

/-- A reply without the sequence numbers of events. -/
def TaskReply.unnumbered {platform : Platform} : TaskReply platform → TaskReply platform
  | .events records => .events (records.map EventRecord.unnumbered)
  | reply => reply

/-- **Confinement.**  Every request is confined to its tenant, but for the sequence
numbers of events. -/
theorem taskRequest_confined (platform : Platform) (tenant : String) (request : TaskRequest) :
    Confined Tables.only tenant
      (fun tables => tables.Owned ∧ ∀ uuid4 ∈ request.generated, tables.Unused uuid4) Tables.Owned
      (TaskReply.unnumbered <$> request.body platform tenant) := by
  have hanswer : ∀ (before : Tables → Prop) (call : Call),
      Confined Tables.only tenant before Tables.Owned (call.body platform) →
      Confined Tables.only tenant before Tables.Owned
        (TaskReply.unnumbered <$> (TaskReply.answer <$> call.body platform :
          Tx (TaskReply platform))) :=
    fun before call h => Confined.map (Confined.map h)
  have hread : ∀ (body : Tx (TaskReply platform)),
      Confined Tables.only tenant Tables.Owned Tables.Owned body →
      Confined Tables.only tenant
        (fun tables => tables.Owned ∧ ∀ uuid4 ∈ request.generated, tables.Unused uuid4)
        Tables.Owned body :=
    fun body h => h.weaken (fun _ h => h.1) fun _ h => h
  have hfresh : ∀ (uuid4 : String) (body : Tx (TaskReply platform)),
      request.generated = some uuid4 →
      Confined Tables.only tenant (fun tables => tables.Owned ∧ tables.Unused uuid4) Tables.Owned
        body →
      Confined Tables.only tenant
        (fun tables => tables.Owned ∧ ∀ uuid4 ∈ request.generated, tables.Unused uuid4)
        Tables.Owned body :=
    fun uuid4 body hgenerated h => h.weaken (fun _ h => ⟨h.1, h.2 uuid4 hgenerated⟩) fun _ h => h
  cases request with
  | create key packet binding uuid4 =>
      exact hfresh uuid4 _ rfl (hanswer _ _ (Confined.map create_confined))
  | claim workflowId owner leaseSeconds now =>
      exact hread _ (hanswer _ _ (Confined.map claim_confined))
  | beginDispatch workflowId owner fence budget now =>
      exact hread _ (hanswer _ _ (Confined.map beginDispatch_confined))
  | recordOutcome workflowId owner fence result succeeded now =>
      exact hread _ (hanswer _ _ (Confined.map recordOutcome_confined))
  | complete workflowId owner fence result succeeded now uuid4 =>
      exact hfresh uuid4 _ rfl (hanswer _ _ (Confined.map complete_confined))
  | reconcileUncertain workflowId uuid4 =>
      exact hfresh uuid4 _ rfl (hanswer _ _ (Confined.map reconcileUncertain_confined))
  | validate workflowId policy =>
      exact hread _ (hanswer _ _ (Confined.map validate_confined))
  | cancel workflowId => exact hread _ (hanswer _ _ (Confined.map cancel_confined))
  | recoverExpired now => exact hread _ (hanswer _ _ (Confined.map recoverExpired_confined))
  | get workflowId => exact hread _ (Confined.map (Confined.map get_confined))
  | getPacket workflowId => exact hread _ (Confined.map (Confined.map getPacket_confined))
  | getBinding workflowId => exact hread _ (Confined.map (Confined.map getBinding_confined))
  | getArtifact workflowId artifactId =>
      exact hread _ (Confined.map (Confined.map getArtifact_confined))
  | events workflowId =>
      apply hread
      have hrecords : Confined Tables.only tenant Tables.Owned Tables.Owned
          ((TaskReply.events <$> (List.map EventRecord.unnumbered <$>
            SQLiteWorkflowStore.events tenant workflowId) : Tx (TaskReply platform))) :=
        Confined.map events_confined
      exact hrecords

end Workflows
end Ryuk

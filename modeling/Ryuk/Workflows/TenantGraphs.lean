import Ryuk.Foundation.Confinement
import Ryuk.Workflows.StoreReads

/-!
# The graphs of a tenant

Every operation on workflow graphs is confined to the tenant that calls it.  The
statements that join an artifact by its identifier alone find one of the tenant,
because a node only names artifacts of its own tenant.
-/

namespace Ryuk
namespace Workflows

open Foundation Foundation.Json Foundation.Datetime Foundation.Transaction Audit

/-! ### The part of a tenant -/

/-- The rows of one tenant. -/
def GraphTables.only (tenant : String) (tables : GraphTables) : GraphTables where
  graphs := tables.graphs.restrict fun row => decide (row.tenant = tenant)
  nodes := tables.nodes.restrict fun row => decide (row.tenant = tenant)
  events := tables.events.filter fun row => decide (row.tenant = tenant)
  budgets := tables.budgets.restrict fun row => decide (row.tenant = tenant)
  artifacts := tables.artifacts.restrict fun row => decide (row.tenant = tenant)

/-- The tenant has a graph with this identifier. -/
def GraphTables.Has (tables : GraphTables) (tenant graphId : String) : Prop :=
  ∃ row ∈ tables.graphs.rows, row.id = graphId ∧ row.tenant = tenant

/-- The tenant has an artifact with this identifier. -/
def HasArtifact (tenant artifactId : String)
    (artifacts : Table GraphArtifactRow String GraphArtifactRow.id) : Prop :=
  ∃ row ∈ artifacts.rows, row.id = artifactId ∧ row.tenant = tenant

/-- What belongs to a graph belongs to its tenant. -/
structure GraphTables.Owned (tables : GraphTables) : Prop where
  nodes : ∀ row ∈ tables.nodes.rows, tables.Has row.tenant row.graphId
  budgets : ∀ row ∈ tables.budgets.rows, tables.Has row.tenant row.graphId
  named : ∀ row ∈ tables.nodes.rows, ∀ artifactId, row.resultArtifactId = some artifactId →
    HasArtifact row.tenant artifactId tables.artifacts

/-- A generated identifier is not in use. -/
structure GraphTables.Unused (tables : GraphTables) (uuid4 : String) : Prop where
  graphs : ∀ row ∈ tables.graphs.rows, row.id ≠ uuid4
  artifacts : ∀ row ∈ tables.artifacts.rows, row.id ≠ uuid4

theorem GraphTables.empty_owned : GraphTables.empty.Owned where
  nodes _ h := (List.not_mem_nil h).elim
  budgets _ h := (List.not_mem_nil h).elim
  named _ h := (List.not_mem_nil h).elim

/-- What operations on nodes start from and leave: the rest of the condition is about
the artifacts. -/
def GraphTables.OwnedAnd (extra : Table GraphArtifactRow String GraphArtifactRow.id → Prop)
    (tables : GraphTables) : Prop :=
  tables.Owned ∧ extra tables.artifacts

section Statements

variable {tables next : GraphTables} {tenant other graphId nodeId : String}
  {condition before after : GraphTables → Prop}
  {extra : Table GraphArtifactRow String GraphArtifactRow.id → Prop}

/-- A graph has one tenant. -/
theorem GraphTables.Has.unique (h : tables.Has tenant graphId) (h' : tables.Has other graphId) :
    other = tenant := by
  obtain ⟨row, hrow, hid, rfl⟩ := h
  obtain ⟨row', hrow', hid', rfl⟩ := h'
  have hfound := Table.find_of_mem hrow
  have hfound' := Table.find_of_mem hrow'
  rw [hid] at hfound
  rw [hid', hfound] at hfound'
  rw [Option.some.inj hfound']

theorem HasArtifact.tenant_of_mem {artifactId : String}
    {artifacts : Table GraphArtifactRow String GraphArtifactRow.id} {row : GraphArtifactRow}
    (h : HasArtifact tenant artifactId artifacts) (hrow : row ∈ artifacts.rows)
    (hid : row.id = artifactId) : row.tenant = tenant := by
  obtain ⟨found, hfound, hid', htenant⟩ := h
  have hfind := Table.find_of_mem hrow
  have hfind' := Table.find_of_mem hfound
  rw [hid] at hfind
  rw [hid', hfind] at hfind'
  rw [← htenant, Option.some.inj hfind']

/-! ### Reads -/

theorem and_owner {ρ : Type} {tenantOf : ρ → String} {rest : ρ → Bool} (row : ρ)
    (h : (decide (tenantOf row = tenant) && rest row) = true) :
    decide (tenantOf row = tenant) = true := by
  rw [Bool.and_eq_true] at h
  exact h.1

theorem nodeOf_owner (row : NodeRow) (h : nodeOf tenant graphId nodeId row = true) :
    decide (row.tenant = tenant) = true := by
  unfold nodeOf at h
  rw [Bool.and_eq_true, Bool.and_eq_true] at h
  exact h.1.1

theorem selectNode_confined :
    Confined GraphTables.only tenant condition condition (selectNode tenant graphId nodeId) :=
  Confined.query fun _ _ => Table.fetchone_restrict nodeOf_owner

theorem selectBudget_confined :
    Confined GraphTables.only tenant condition condition (selectBudget tenant graphId) :=
  Confined.query fun _ _ => Table.fetchone_restrict and_owner

theorem getGraphState_confined :
    Confined GraphTables.only tenant condition condition (getGraphState tenant graphId) := by
  unfold getGraphState
  apply Confined.bind (Confined.query fun _ _ => Table.fetchone_restrict and_owner)
  intro row
  cases row with
  | none => exact Confined.pure
  | some row =>
      apply Confined.bind Confined.lift
      intro value
      apply Confined.bind Confined.lift
      intro graph
      apply Confined.bind (Confined.query fun _ _ => Table.select_restrict and_owner)
      intro rows
      exact Confined.bind Confined.lift fun _ => Confined.pure

/-! ### Writes -/

theorem shows_graphs : ShowsTable GraphTables.only (fun tenant row => decide (row.tenant = tenant))
    GraphTables.graphs fun tables graphs => { tables with graphs } where
  get_view _ _ := rfl
  set_view _ _ _ := rfl
  set_get _ := rfl

theorem shows_nodes : ShowsTable GraphTables.only (fun tenant row => decide (row.tenant = tenant))
    GraphTables.nodes fun tables nodes => { tables with nodes } where
  get_view _ _ := rfl
  set_view _ _ _ := rfl
  set_get _ := rfl

theorem shows_budgets : ShowsTable GraphTables.only
    (fun tenant row => decide (row.tenant = tenant)) GraphTables.budgets
    fun tables budgets => { tables with budgets } where
  get_view _ _ := rfl
  set_view _ _ _ := rfl
  set_get _ := rfl

theorem shows_graph_artifacts : ShowsTable GraphTables.only
    (fun tenant row => decide (row.tenant = tenant)) GraphTables.artifacts
    fun tables artifacts => { tables with artifacts } where
  get_view _ _ := rfl
  set_view _ _ _ := rfl
  set_get _ := rfl

/-- An update of nodes of the tenant, which name no artifact they did not name, or one
of the tenant. -/
theorem updateNodes_confined {test : NodeRow → Bool} {change : NodeRow → NodeRow}
    {hkey : ∀ row, (change row).key = row.key}
    (htest : ∀ row, test row = true → decide (row.tenant = tenant) = true)
    (htenant : ∀ row, (change row).tenant = row.tenant)
    (hnamed : ∀ artifacts, extra artifacts → ∀ row artifactId,
      (change row).resultArtifactId = some artifactId →
        row.resultArtifactId = some artifactId ∨ HasArtifact tenant artifactId artifacts) :
    Confined GraphTables.only tenant (GraphTables.OwnedAnd extra) (GraphTables.OwnedAnd extra)
      (updateNodes test change hkey) := by
  unfold updateNodes
  apply Confined.bind
  · apply Confined.query
    intro state _
    exact congrArg List.length (Table.select_restrict htest)
  intro rowcount
  apply Confined.bind _ fun _ => Confined.pure
  apply shows_nodes.update
  · intro state _ row _ hrow owner howner
    rw [of_decide_eq_true (htest row hrow)]
    exact decide_eq_false howner.symm
  · intro owner row
    rw [htenant]
  · intro state hstate
    obtain ⟨howned, hextra⟩ := hstate
    refine ⟨⟨fun row hrow => ?_, howned.budgets, fun row hrow artifactId hname => ?_⟩, hextra⟩
    · obtain ⟨old, hold, rfl⟩ := List.mem_map.mp hrow
      split_ifs
      · have hid : (change old).graphId = old.graphId := congrArg Prod.fst (hkey old)
        rw [htenant, hid]
        exact howned.nodes old hold
      · exact howned.nodes old hold
    · obtain ⟨old, hold, rfl⟩ := List.mem_map.mp hrow
      by_cases hcondition : test old = true
      · rw [if_pos hcondition] at hname ⊢
        rw [htenant]
        rcases hnamed _ hextra old artifactId hname with hsame | hnew
        · exact howned.named old hold artifactId hsame
        · rw [of_decide_eq_true (htest old hcondition)]
          exact hnew
      · rw [if_neg hcondition] at hname ⊢
        exact howned.named old hold artifactId hname

theorem log_confined {state : NodeState}
    (hkept : ∀ tables, condition tables → condition (tables.log tenant graphId nodeId state)) :
    Confined GraphTables.only tenant condition condition
      (graphEvent tenant graphId nodeId state) := by
  have hlog : ∀ (owner : String) (tables : GraphTables),
      (tables.log tenant graphId nodeId state).only owner =
        { tables.only owner with
          events := (tables.only owner).events ++
            if tenant = owner then [⟨graphId, nodeId, tenant, state⟩] else [] } := by
    intro owner tables
    unfold GraphTables.log GraphTables.only
    simp only [GraphTables.mk.injEq, and_true, true_and, List.filter_append, List.filter_singleton]
    split_ifs with hsame
    · rw [decide_eq_true hsame]
      rfl
    · rw [decide_eq_false hsame]
      rfl
  apply Confined.write
  · intro tables _
    rw [hlog, if_pos rfl]
    rfl
  · intro owner howner tables _
    rw [hlog, if_neg howner.symm, List.append_nil]
  · exact hkept

theorem graphEvent_confined {state : NodeState} :
    Confined GraphTables.only tenant (GraphTables.OwnedAnd extra) (GraphTables.OwnedAnd extra)
      (graphEvent tenant graphId nodeId state) :=
  log_confined fun _ h => ⟨⟨h.1.nodes, h.1.budgets, h.1.named⟩, h.2⟩

/-! ### Transitions -/

theorem writeStates_confined {old new : States} {nodeIds : List String} :
    Confined GraphTables.only tenant (GraphTables.OwnedAnd extra) (GraphTables.OwnedAnd extra)
      (writeStates tenant graphId old new nodeIds) := by
  induction nodeIds with
  | nil => exact Confined.pure
  | cons nodeId rest ih =>
      unfold writeStates
      apply Confined.bind Confined.lift
      intro state
      apply Confined.bind Confined.lift
      intro current
      apply Confined.bind
      · apply updateNodes_confined
        · intro row hrow
          rw [Bool.and_eq_true] at hrow
          exact nodeOf_owner row hrow.1
        · intro row
          rfl
        · intro artifacts _ row artifactId hname
          exact Or.inl hname
      · intro rowcount
        apply Confined.bind Confined.require
        intro _
        exact Confined.bind graphEvent_confined fun _ => ih

theorem transitionGraphNode_confined {target : NodeState} :
    Confined GraphTables.only tenant (GraphTables.OwnedAnd extra) (GraphTables.OwnedAnd extra)
      (transitionGraphNode tenant graphId nodeId target) := by
  unfold transitionGraphNode
  apply Confined.bind getGraphState_confined
  intro current
  cases current with
  | none => exact Confined.fail
  | some current =>
      apply Confined.bind Confined.lift
      intro updated
      apply Confined.bind Confined.lift
      intro ordered
      exact Confined.bind writeStates_confined fun _ => Confined.pure

theorem fenceNode_confined :
    Confined GraphTables.only tenant (GraphTables.OwnedAnd extra) (GraphTables.OwnedAnd extra)
      (fenceNode tenant graphId nodeId) := by
  unfold fenceNode
  apply Confined.bind
  · apply updateNodes_confined nodeOf_owner
    · intro row
      rfl
    · intro artifacts _ row artifactId hname
      exact Or.inl hname
  · intro _
    exact Confined.pure

theorem cancelNodes_confined {nodeStates : List (String × NodeState)} :
    Confined GraphTables.only tenant (GraphTables.OwnedAnd extra) (GraphTables.OwnedAnd extra)
      (cancelNodes tenant graphId nodeStates) := by
  induction nodeStates with
  | nil => exact Confined.pure
  | cons pair rest ih =>
      obtain ⟨nodeId, listed⟩ := pair
      unfold cancelNodes
      split_ifs
      · apply Confined.bind getGraphState_confined
        intro state
        cases state with
        | none => exact Confined.fail
        | some state =>
            apply Confined.bind Confined.lift
            intro current
            split_ifs
            · apply Confined.bind transitionGraphNode_confined
              intro _
              exact Confined.bind fenceNode_confined fun _ => ih
            · exact ih
      · exact ih

theorem cancelGraph_confined :
    Confined GraphTables.only tenant (GraphTables.OwnedAnd extra) (GraphTables.OwnedAnd extra)
      (cancelGraph tenant graphId) := by
  unfold cancelGraph
  apply Confined.bind getGraphState_confined
  intro state
  cases state with
  | none => exact Confined.fail
  | some state =>
      apply Confined.bind cancelNodes_confined
      intro _
      apply Confined.bind getGraphState_confined
      intro last
      cases last with
      | none => exact Confined.fail
      | some last => exact Confined.pure

/-! ### Creation -/

/-- What an insertion that depends on a graph of the tenant starts from. -/
def GraphTables.OwnedWith (tenant graphId : String) (tables : GraphTables) : Prop :=
  tables.Owned ∧ tables.Has tenant graphId

theorem addGraph_confined {row : GraphRow} {error : PyError} (hrow : row.tenant = tenant)
    (hid : row.id = graphId) :
    Confined GraphTables.only tenant (fun tables => tables.Owned ∧ tables.Unused graphId)
      (GraphTables.OwnedWith tenant graphId)
      (attempt (GraphTables.addGraph row) error : GraphTx Unit) := by
  apply shows_graphs.insert
  · exact decide_eq_true hrow
  · intro owner howner
    exact decide_eq_false (hrow ▸ howner.symm)
  · intro state hstate taken htaken hkey
    exact (hstate.2.graphs taken htaken (hkey.trans hid)).elim
  · intro state table hstate hinsert
    obtain ⟨howned, -⟩ := hstate
    have hhas : ∀ owner id, state.Has owner id →
        GraphTables.Has { state with graphs := table } owner id := by
      rintro owner id ⟨old, hold, hold'⟩
      exact ⟨old, (Table.mem_insert hinsert).mpr (Or.inl hold), hold'⟩
    refine ⟨⟨fun node hnode => hhas _ _ (howned.nodes node hnode), fun budget hbudget =>
      hhas _ _ (howned.budgets budget hbudget), howned.named⟩, row, ?_, hid, hrow⟩
    exact (Table.mem_insert hinsert).mpr (Or.inr rfl)

theorem addNode_confined {row : NodeRow} {error : PyError} (hrow : row.tenant = tenant)
    (hid : row.graphId = graphId) (hbare : row.resultArtifactId = none) :
    Confined GraphTables.only tenant (GraphTables.OwnedWith tenant graphId)
      (GraphTables.OwnedWith tenant graphId)
      (attempt (GraphTables.addNode row) error : GraphTx Unit) := by
  apply shows_nodes.insert
  · exact decide_eq_true hrow
  · intro owner howner
    exact decide_eq_false (hrow ▸ howner.symm)
  · intro state hstate taken htaken hkey
    have hgraph : taken.graphId = graphId := (congrArg Prod.fst hkey).trans hid
    have hhas := hstate.1.nodes taken htaken
    rw [hgraph] at hhas
    exact decide_eq_true (hstate.2.unique hhas)
  · intro state table hstate hinsert
    obtain ⟨howned, hhas⟩ := hstate
    refine ⟨⟨fun node hnode => ?_, howned.budgets, fun node hnode artifactId hname => ?_⟩, hhas⟩
    · rcases (Table.mem_insert hinsert).mp hnode with hold | rfl
      · exact howned.nodes node hold
      · rw [hrow, hid]
        exact hhas
    · rcases (Table.mem_insert hinsert).mp hnode with hold | rfl
      · exact howned.named node hold artifactId hname
      · rw [hbare] at hname
        cases hname

theorem insertBudgetRow_confined {row : GraphBudgetRow} (hrow : row.tenant = tenant)
    (hid : row.graphId = graphId) :
    Confined GraphTables.only tenant (GraphTables.OwnedWith tenant graphId) GraphTables.Owned
      (insertBudgetRow row) := by
  apply Confined.bind Confined.require
  intro _
  apply shows_budgets.insert
  · exact decide_eq_true hrow
  · intro owner howner
    exact decide_eq_false (hrow ▸ howner.symm)
  · intro state hstate taken htaken hkey
    have hgraph : taken.graphId = graphId := Eq.trans hkey hid
    have hhas := hstate.1.budgets taken htaken
    rw [hgraph] at hhas
    exact decide_eq_true (hstate.2.unique hhas)
  · intro state table hstate hinsert
    obtain ⟨howned, hhas⟩ := hstate
    refine ⟨howned.nodes, fun budget hbudget => ?_, howned.named⟩
    rcases (Table.mem_insert hinsert).mp hbudget with hold | rfl
    · exact howned.budgets budget hold
    · rw [hrow, hid]
      exact hhas

theorem insertNodes_confined {nodeStates : List (String × NodeState)} :
    Confined GraphTables.only tenant (GraphTables.OwnedWith tenant graphId)
      (GraphTables.OwnedWith tenant graphId) (insertNodes tenant graphId nodeStates) := by
  induction nodeStates with
  | nil => exact Confined.pure
  | cons pair rest ih =>
      obtain ⟨nodeId, state⟩ := pair
      unfold insertNodes
      apply Confined.bind
      · exact addNode_confined rfl rfl rfl
      · intro _
        exact Confined.bind
          (log_confined fun _ h => ⟨⟨h.1.nodes, h.1.budgets, h.1.named⟩, h.2⟩) fun _ => ih

variable {platform : Platform} {owner uuid4 : String} {fence : Int} {now : DateTime}

theorem createGraph_confined {key : String} {graph : WorkflowGraph} {budget : Option GraphBudget}
    {binding : Option (List (String × Json))} :
    Confined GraphTables.only tenant (fun tables => tables.Owned ∧ tables.Unused uuid4)
      GraphTables.Owned (createGraph platform tenant key graph budget binding now uuid4) := by
  unfold createGraph
  apply Confined.bind Confined.require
  intro _
  apply Confined.bind Confined.require
  intro _
  apply Confined.bind Confined.lift
  intro dict
  apply Confined.bind Confined.lift
  intro validated
  apply Confined.bind Confined.lift
  intro value
  apply Confined.bind Confined.lift
  intro encoded
  apply Confined.bind Confined.lift
  intro bound
  apply Confined.bind Confined.lift
  intro hashed
  apply Confined.bind Confined.lift
  intro initial
  apply Confined.bind (Confined.query fun _ _ => Table.fetchone_restrict and_owner)
  intro existing
  cases existing with
  | some row =>
      exact (Confined.bind Confined.require fun _ => Confined.pure).weaken (fun _ h => h)
        fun _ h => h.1
  | none =>
      apply Confined.bind
      · exact addGraph_confined rfl rfl
      · intro _
        apply Confined.bind insertNodes_confined
        intro _
        cases budget with
        | none =>
            exact (Confined.bind Confined.pure fun _ => Confined.pure).weaken (fun _ h => h)
              fun _ h => h.1
        | some budget =>
            apply Confined.bind _ fun _ => Confined.pure
            apply Confined.bind Confined.lift
            intro deadline
            exact insertBudgetRow_confined rfl rfl

/-! ### Budgets -/

/-- A graph whose state is read is one of the tenant. -/
theorem getGraphState_has {state : Option GraphState} {final : GraphTables}
    (h : getGraphState tenant graphId tables = .ok (state, final)) :
    state.isSome = true → final.Has tenant graphId := by
  have hbound : (getGraphState tenant graphId >>= pure) tables = .ok (state, final) := by
    rwa [bind_pure]
  obtain ⟨_, -, hpure⟩ := getGraphState_bind_ok hbound
  obtain ⟨-, rfl⟩ := pure_ok.mp hpure
  intro hsome
  unfold getGraphState at h
  rw [query_bind_ok] at h
  generalize hfound : tables.graphs.fetchone (fun row =>
    decide (row.tenant = tenant) && decide (row.id = graphId)) = found at h
  cases found with
  | none =>
      rw [← (pure_ok.mp h).1] at hsome
      cases hsome
  | some row =>
      have howned := List.find?_some hfound
      rw [Bool.and_eq_true, decide_eq_true_eq, decide_eq_true_eq] at howned
      exact ⟨row, List.mem_of_find?_eq_some hfound, howned.2, howned.1⟩

theorem bindGraphBudget_confined {budget : GraphBudget} :
    Confined GraphTables.only tenant GraphTables.Owned GraphTables.Owned
      (bindGraphBudget tenant graphId budget now) := by
  unfold bindGraphBudget
  apply Confined.bind Confined.lift
  intro _
  apply Confined.bind Confined.lift
  intro deadline
  apply Confined.bindLearn getGraphState_confined fun _ _ _ _ h => getGraphState_has h
  intro state
  cases state with
  | none => exact Confined.fail
  | some state =>
      have hhas : ∀ tables : GraphTables, (tables.Owned ∧
          ((some state).isSome = true → tables.Has tenant graphId)) →
            tables.OwnedWith tenant graphId :=
        fun _ h => ⟨h.1, h.2 rfl⟩
      refine Confined.weaken ?_ hhas fun _ h => h
      apply Confined.bind Confined.require
      intro _
      apply Confined.bind selectBudget_confined
      intro existing
      cases existing with
      | some row =>
          exact (Confined.bind Confined.require fun _ => Confined.pure).weaken (fun _ h => h)
            fun _ h => h.1
      | none =>
          apply Confined.bind _ fun _ => Confined.pure
          exact insertBudgetRow_confined rfl rfl

/-- `UPDATE workflow_graph_budgets SET ... WHERE tenant=? AND graph_id=?`. -/
theorem setBudget_confined {change : GraphBudgetRow → GraphBudgetRow}
    {hkey : ∀ row, (change row).graphId = row.graphId}
    (htenant : ∀ row, (change row).tenant = row.tenant) :
    Confined GraphTables.only tenant GraphTables.Owned GraphTables.Owned
      (write (GraphTables.setBudget tenant graphId change hkey) : GraphTx Unit) := by
  apply shows_budgets.update
  · intro state _ row _ hrow owner howner
    rw [(budgetOf_iff.mp hrow).1]
    exact decide_eq_false howner.symm
  · intro owner row
    rw [htenant]
  · intro state howned
    refine ⟨howned.nodes, fun row hrow => ?_, howned.named⟩
    obtain ⟨old, hold, rfl⟩ := List.mem_map.mp hrow
    have hhas := howned.budgets old hold
    split_ifs
    · rw [htenant, hkey]
      exact hhas
    · exact hhas

theorem reserveGraphAttempt_confined :
    Confined GraphTables.only tenant GraphTables.Owned GraphTables.Owned
      (reserveGraphAttempt tenant graphId now) := by
  unfold reserveGraphAttempt
  apply Confined.bind selectBudget_confined
  intro row
  cases row with
  | none => exact Confined.fail
  | some row =>
      apply Confined.bind Confined.lift
      intro passed
      split_ifs
      · exact Confined.pure
      · exact Confined.bind (setBudget_confined fun _ => rfl) fun _ => Confined.pure

theorem recordGraphOutputTokens_confined {count : Option Int} :
    Confined GraphTables.only tenant GraphTables.Owned GraphTables.Owned
      (recordGraphOutputTokens tenant graphId count) := by
  cases count with
  | none => exact Confined.pure
  | some count =>
      unfold recordGraphOutputTokens
      apply Confined.bind Confined.require
      intro _
      apply Confined.bind selectBudget_confined
      intro row
      cases row with
      | none => exact Confined.fail
      | some row =>
          simp only
          split_ifs
          · exact Confined.pure
          · apply Confined.bind Confined.lift
            intro bound
            exact Confined.bind (setBudget_confined fun _ => rfl) fun _ => Confined.pure

/-! ### Execution -/

/-- Operations on nodes that say nothing of the artifacts. -/
theorem ownedAnd_true {α : Type} {body : GraphTx α}
    (h : Confined GraphTables.only tenant (GraphTables.OwnedAnd fun _ => True)
      (GraphTables.OwnedAnd fun _ => True) body) :
    Confined GraphTables.only tenant GraphTables.Owned GraphTables.Owned body :=
  h.weaken (fun _ h => ⟨h, trivial⟩) fun _ h => h.1

theorem claimGraphNode_confined {leaseSeconds : Int} :
    Confined GraphTables.only tenant GraphTables.Owned GraphTables.Owned
      (claimGraphNode tenant graphId nodeId owner leaseSeconds now) := by
  apply ownedAnd_true
  unfold claimGraphNode
  apply Confined.bind Confined.require
  intro _
  apply Confined.bind Confined.require
  intro _
  apply Confined.bind selectBudget_confined
  intro budget
  apply Confined.bind Confined.lift
  intro current
  cases budget with
  | none => exact Confined.fail
  | some budget =>
      apply Confined.bind Confined.lift
      intro reached
      apply Confined.bind Confined.require
      intro _
      apply Confined.bind selectNode_confined
      intro row
      cases row with
      | none => exact Confined.fail
      | some row =>
          apply Confined.bind Confined.require
          intro _
          apply Confined.bind Confined.lift
          intro expiry
          apply Confined.bind
          · apply updateNodes_confined
            · intro found hfound
              rw [Bool.and_eq_true, Bool.and_eq_true] at hfound
              exact nodeOf_owner found hfound.1.1
            · intro found
              rfl
            · intro artifacts _ found artifactId hname
              exact Or.inl hname
          · intro rowcount
            apply Confined.bind Confined.require
            intro _
            exact Confined.bind graphEvent_confined fun _ => Confined.pure

theorem requireGraphLease_confined :
    Confined GraphTables.only tenant condition condition
      (requireGraphLease tenant graphId nodeId owner fence now) := by
  unfold requireGraphLease
  apply Confined.bind selectNode_confined
  intro row
  cases row with
  | none => exact Confined.fail
  | some row =>
      exact Confined.bind Confined.require fun _ => Confined.bind Confined.lift fun _ =>
        Confined.require

theorem addArtifact_named {row : GraphArtifactRow} {error : PyError} (hrow : row.tenant = tenant)
    (hid : row.id = uuid4) :
    Confined GraphTables.only tenant (fun tables => tables.Owned ∧ tables.Unused uuid4)
      (GraphTables.OwnedAnd (HasArtifact tenant uuid4))
      (attempt (GraphTables.addArtifact row) error : GraphTx Unit) := by
  apply shows_graph_artifacts.insert
  · exact decide_eq_true hrow
  · intro other hother
    exact decide_eq_false (hrow ▸ hother.symm)
  · intro state hstate taken htaken hkey
    exact (hstate.2.artifacts taken htaken (hkey.trans hid)).elim
  · intro state table hstate hinsert
    obtain ⟨howned, -⟩ := hstate
    refine ⟨⟨howned.nodes, howned.budgets, fun node hnode artifactId hname => ?_⟩, row,
      (Table.mem_insert hinsert).mpr (Or.inr rfl), hid, hrow⟩
    obtain ⟨old, hold, hold'⟩ := howned.named node hnode artifactId hname
    exact ⟨old, (Table.mem_insert hinsert).mpr (Or.inl hold), hold'⟩

theorem completeGraphNode_confined {result : List (String × Json)} {succeeded : Bool} :
    Confined GraphTables.only tenant (fun tables => tables.Owned ∧ tables.Unused uuid4)
      GraphTables.Owned (completeGraphNode platform tenant graphId nodeId owner fence result
        succeeded now uuid4) := by
  unfold completeGraphNode
  apply Confined.bind Confined.lift
  intro encoded
  apply Confined.bind requireGraphLease_confined
  intro _
  apply Confined.bind
  · exact addArtifact_named rfl rfl
  · intro _
    apply Confined.bind transitionGraphNode_confined
    intro _
    apply Confined.bind
    · apply updateNodes_confined nodeOf_owner
      · intro row
        rfl
      · intro artifacts hnew row artifactId hname
        obtain rfl : uuid4 = artifactId := Option.some.inj hname
        exact Or.inr hnew
    · intro _
      exact Confined.pure.weaken (fun _ h => h) fun _ h => h.1

/-! ### Results -/

/-- An artifact that a node of the tenant names is found among those of the tenant. -/
theorem resultOf_local (h : tables.Owned) {row : NodeRow} (hrow : row ∈ tables.nodes.rows)
    (htenant : row.tenant = tenant) :
    (tables.only tenant).resultOf row = tables.resultOf row := by
  unfold GraphTables.resultOf
  cases hname : row.resultArtifactId with
  | none => rfl
  | some artifactId =>
      show (tables.artifacts.restrict _).find artifactId = tables.artifacts.find artifactId
      obtain ⟨artifact, hartifact, rfl, howner⟩ := htenant ▸ h.named row hrow artifactId hname
      have hkept : artifact ∈ (tables.artifacts.restrict fun row =>
          decide (row.tenant = tenant)).rows :=
        Table.mem_restrict.mpr ⟨hartifact, decide_eq_true howner⟩
      rw [Table.find_of_mem hartifact, Table.find_of_mem hkept]

/-- The join of a node of the tenant with the artifact it names. -/
theorem resultOf_fetched_local (h : tables.Owned) :
    ((tables.only tenant).nodes.fetchone (nodeOf tenant graphId nodeId)).bind
        (tables.only tenant).resultOf =
      (tables.nodes.fetchone (nodeOf tenant graphId nodeId)).bind tables.resultOf := by
  have hfetch : (tables.only tenant).nodes.fetchone (nodeOf tenant graphId nodeId) =
      tables.nodes.fetchone (nodeOf tenant graphId nodeId) :=
    Table.fetchone_restrict nodeOf_owner
  rw [hfetch]
  cases hfound : tables.nodes.fetchone (nodeOf tenant graphId nodeId) with
  | none => rfl
  | some row =>
      exact resultOf_local h (List.mem_of_find?_eq_some hfound)
        (of_decide_eq_true (nodeOf_owner row (List.find?_some hfound)))

/-- `UPDATE workflow_graph_artifacts SET ... WHERE id=?`, for an artifact of the tenant. -/
theorem setValidation_confined {artifactId text : String} {accepted : Int}
    {fact : GraphTables → Prop}
    (hfact : ∀ tables, fact tables → HasArtifact tenant artifactId tables.artifacts) :
    Confined GraphTables.only tenant (fun tables => tables.Owned ∧ fact tables)
      (GraphTables.OwnedAnd fun _ => True)
      (write (GraphTables.setValidation artifactId accepted text) : GraphTx Unit) := by
  apply shows_graph_artifacts.update
  · intro state hstate row hrow hid other hother
    rw [(hfact state hstate.2).tenant_of_mem hrow (of_decide_eq_true hid)]
    exact decide_eq_false hother.symm
  · intro other row
    rfl
  · intro state hstate
    obtain ⟨howned, -⟩ := hstate
    refine ⟨⟨howned.nodes, howned.budgets, fun row hrow name hname => ?_⟩, trivial⟩
    obtain ⟨artifact, hartifact, hid, htenant⟩ := howned.named row hrow name hname
    refine ⟨_, List.mem_map_of_mem hartifact, ?_, ?_⟩
    · split_ifs
      · exact hid
      · exact hid
    · split_ifs
      · exact htenant
      · exact htenant

theorem validateGraphNode_confined {policy : ValidationPolicy} :
    Confined GraphTables.only tenant GraphTables.Owned GraphTables.Owned
      (validateGraphNode platform tenant graphId nodeId policy) := by
  have hjoin : ∀ tables : GraphTables, tables.Owned →
      (((tables.only tenant).nodes.fetchone (nodeOf tenant graphId nodeId)).bind fun node =>
        ((tables.only tenant).resultOf node).map fun artifact => (node.state, artifact)) =
      (tables.nodes.fetchone (nodeOf tenant graphId nodeId)).bind fun node =>
        (tables.resultOf node).map fun artifact => (node.state, artifact) := by
    intro tables h
    have hfetch : (tables.only tenant).nodes.fetchone (nodeOf tenant graphId nodeId) =
        tables.nodes.fetchone (nodeOf tenant graphId nodeId) :=
      Table.fetchone_restrict nodeOf_owner
    rw [hfetch]
    cases hfound : tables.nodes.fetchone (nodeOf tenant graphId nodeId) with
    | none => rfl
    | some row =>
        show ((tables.only tenant).resultOf row).map _ = (tables.resultOf row).map _
        rw [resultOf_local h (List.mem_of_find?_eq_some hfound)
          (of_decide_eq_true (nodeOf_owner row (List.find?_some hfound)))]
  -- the artifact that is joined is one of the tenant
  have hartifact : ∀ (state : NodeState) (artifact : GraphArtifactRow) (tables : GraphTables),
      (tables.Owned ∧ ((tables.nodes.fetchone (nodeOf tenant graphId nodeId)).bind fun node =>
        (tables.resultOf node).map fun artifact => (node.state, artifact)) =
          some (state, artifact)) →
      tables.Owned ∧ HasArtifact tenant artifact.id tables.artifacts := by
    rintro state artifact tables ⟨howned, hfound⟩
    obtain ⟨node, hnode, hmapped⟩ := Option.bind_eq_some_iff.mp hfound
    obtain ⟨found, hresult, hpair⟩ := Option.map_eq_some_iff.mp hmapped
    obtain ⟨-, rfl⟩ := Prod.mk.inj hpair
    obtain ⟨artifactId, hname, hfind⟩ := Option.bind_eq_some_iff.mp hresult
    have htenant : node.tenant = tenant :=
      of_decide_eq_true (nodeOf_owner node (List.find?_some hnode))
    obtain rfl : found.id = artifactId := Table.find_key hfind
    exact ⟨howned, htenant ▸ howned.named node (List.mem_of_find?_eq_some hnode) _ hname⟩
  unfold validateGraphNode
  apply Confined.bind Confined.lift
  intro snapshot
  apply Confined.read hjoin
  rintro found -
  cases found with
  | none => exact Confined.fail
  | some pair =>
      obtain ⟨state, row⟩ := pair
      refine Confined.weaken ?_ (hartifact state row) fun _ h => h
      apply Confined.bind Confined.lift
      intro artifact
      cases row.validationJson with
      | some text =>
          apply Confined.bind Confined.lift
          intro report
          apply Confined.bind Confined.lift
          intro recorded
          exact (Confined.bind Confined.require fun _ => Confined.pure).weaken (fun _ h => h)
            fun _ h => h.1
      | none =>
          apply Confined.bind Confined.require
          intro _
          apply Confined.bind Confined.lift
          intro report
          apply Confined.bind Confined.lift
          intro decision
          apply Confined.bind Confined.lift
          intro reportJson
          apply Confined.bind
          · exact setValidation_confined fun _ h => h
          · intro _
            apply Confined.bind transitionGraphNode_confined
            intro _
            exact Confined.pure.weaken (fun _ h => h) fun _ h => h.1

/-! ### Reads -/

theorem dependencyArtifacts_confined {state : GraphState} {dependencies : List String} :
    Confined GraphTables.only tenant GraphTables.Owned GraphTables.Owned
      (dependencyArtifacts platform tenant graphId state dependencies) := by
  induction dependencies with
  | nil => exact Confined.pure
  | cons dependency rest ih =>
      unfold dependencyArtifacts
      apply Confined.bind Confined.lift
      intro current
      apply Confined.bind Confined.require
      intro _
      apply Confined.bind
      · apply Confined.query
        intro tables howned
        rw [resultOf_fetched_local howned]
      · intro row
        cases row with
        | none => exact Confined.fail
        | some row =>
            exact Confined.bind Confined.lift fun _ => Confined.bind ih fun _ => Confined.pure

theorem acceptedDependencyArtifacts_confined :
    Confined GraphTables.only tenant GraphTables.Owned GraphTables.Owned
      (acceptedDependencyArtifacts platform tenant graphId nodeId) := by
  unfold acceptedDependencyArtifacts
  apply Confined.bind getGraphState_confined
  intro state
  cases state with
  | none => exact Confined.fail
  | some state =>
      simp only
      cases state.graph.nodes.find? fun node => decide (node.nodeId = nodeId) with
      | none => exact Confined.fail
      | some node => exact dependencyArtifacts_confined

theorem sinkResults_confined {sinks : List String} :
    Confined GraphTables.only tenant condition condition
      (sinkResults platform tenant graphId sinks) := by
  induction sinks with
  | nil => exact Confined.pure
  | cons sink rest ih =>
      unfold sinkResults
      apply Confined.bind
      · apply Confined.query
        intro tables _
        apply Table.fetchone_restrict
        intro row hrow
        rw [Bool.and_eq_true, Bool.and_eq_true, Bool.and_eq_true] at hrow
        exact hrow.1.1.1
      · intro row
        cases row.bind fun artifact => artifact.validationJson.map fun text => (artifact, text) with
        | none => exact Confined.fail
        | some pair =>
            apply Confined.bind Confined.lift
            intro artifact
            apply Confined.bind Confined.lift
            intro report
            exact Confined.bind ih fun _ => Confined.pure

theorem acceptedGraphResults_confined :
    Confined GraphTables.only tenant condition condition
      (acceptedGraphResults platform tenant graphId) := by
  unfold acceptedGraphResults
  apply Confined.bind getGraphState_confined
  intro state
  cases state with
  | none => exact Confined.fail
  | some state =>
      apply Confined.bind Confined.lift
      intro unaccepted
      exact Confined.bind Confined.require fun _ => sinkResults_confined

open SQLiteWorkflowStore

theorem getGraphBinding_confined :
    Confined GraphTables.only tenant condition condition (getGraphBinding tenant graphId) := by
  unfold getGraphBinding
  apply Confined.bind (Confined.query fun _ _ => Table.fetchone_restrict and_owner)
  intro row
  exact Confined.lift

theorem getGraphNodePacket_confined :
    Confined GraphTables.only tenant condition condition
      (getGraphNodePacket tenant graphId nodeId) := by
  unfold getGraphNodePacket
  apply Confined.bind getGraphState_confined
  intro state
  cases state with
  | none => exact Confined.pure
  | some state => exact Confined.pure

theorem graphNodeRecords_confined :
    Confined GraphTables.only tenant condition condition (graphNodeRecords tenant graphId) := by
  unfold graphNodeRecords
  apply Confined.bind getGraphState_confined
  intro state
  cases state with
  | none => exact Confined.pure
  | some state =>
      apply Confined.bind
      · apply Confined.query
        intro tables _
        exact Table.select_restrict and_owner
      · intro rows
        exact Confined.pure

/-- Any node that names an artifact of the tenant is one of the tenant. -/
theorem getGraphArtifact_confined :
    Confined GraphTables.only tenant GraphTables.Owned GraphTables.Owned
      (getGraphArtifact platform tenant graphId nodeId) := by
  unfold getGraphArtifact
  apply Confined.bind
  · apply Confined.query
    intro tables howned
    have hselect : (tables.only tenant).artifacts.rows.filter (fun artifact =>
          (decide (artifact.tenant = tenant) && decide (artifact.graphId = graphId) &&
            decide (artifact.nodeId = nodeId)) &&
            (tables.only tenant).nodes.rows.any fun node =>
              decide (node.resultArtifactId = some artifact.id)) =
        tables.artifacts.rows.filter fun artifact =>
          (decide (artifact.tenant = tenant) && decide (artifact.graphId = graphId) &&
            decide (artifact.nodeId = nodeId)) &&
            tables.nodes.rows.any fun node => decide (node.resultArtifactId = some artifact.id) := by
      show List.filter _ (List.filter _ tables.artifacts.rows) = _
      rw [List.filter_filter]
      apply List.filter_congr
      intro artifact hartifact
      by_cases htenant : artifact.tenant = tenant
      · have hany : ((tables.only tenant).nodes.rows.any fun node =>
            decide (node.resultArtifactId = some artifact.id)) =
            tables.nodes.rows.any fun node => decide (node.resultArtifactId = some artifact.id) := by
          rw [Bool.eq_iff_iff, List.any_eq_true, List.any_eq_true]
          constructor
          · rintro ⟨node, hnode, hname⟩
            exact ⟨node, (Table.mem_restrict.mp hnode).1, hname⟩
          · rintro ⟨node, hnode, hname⟩
            have howner := (howned.named node hnode _ (of_decide_eq_true hname)).tenant_of_mem
              hartifact rfl
            exact ⟨node, Table.mem_restrict.mpr ⟨hnode, decide_eq_true (howner ▸ htenant)⟩, hname⟩
        rw [hany, decide_eq_true htenant, Bool.and_true]
      · rw [decide_eq_false htenant, Bool.and_false, Bool.false_and, Bool.false_and, Bool.false_and]
    unfold Table.fetchone
    rw [← List.head?_filter, ← List.head?_filter, hselect]
  · intro row
    cases row with
    | none => exact Confined.pure
    | some row => exact Confined.bind Confined.lift fun _ => Confined.pure

/-- An event without its place among those of all tenants. -/
def GraphEventRecord.unnumbered (record : GraphEventRecord) : GraphEventRecord :=
  { record with sequence := 0 }

theorem graphEvents_confined :
    Confined GraphTables.only tenant condition condition
      (List.map GraphEventRecord.unnumbered <$> SQLiteWorkflowStore.graphEvents tenant graphId) := by
  have hevents : ∀ tables : GraphTables, ((sequenced tables.events fun row =>
      decide (row.tenant = tenant) && decide (row.graphId = graphId)).map fun entry =>
        (⟨entry.1, entry.2.nodeId, entry.2.state⟩ : GraphEventRecord)).map
          GraphEventRecord.unnumbered =
      (tables.events.filter fun row => decide (row.tenant = tenant) &&
        decide (row.graphId = graphId)).map fun row => ⟨0, row.nodeId, row.state⟩ := by
    intro tables
    rw [← sequenced_rows, List.map_map, List.map_map]
    rfl
  have hquery : (List.map GraphEventRecord.unnumbered <$>
        SQLiteWorkflowStore.graphEvents tenant graphId) =
      (query fun tables => (tables.events.filter fun row => decide (row.tenant = tenant) &&
        decide (row.graphId = graphId)).map fun row => ⟨0, row.nodeId, row.state⟩) := by
    funext tables
    show Except.ok (_, tables) = Except.ok (_, tables)
    rw [hevents]
  rw [hquery]
  apply Confined.query
  intro state _
  show List.map _ (List.filter _ (List.filter _ state.events)) = _
  rw [List.filter_filter]
  congr 1
  apply List.filter_congr
  intro row _
  cases decide (row.tenant = tenant) with
  | false => rw [Bool.false_and, Bool.and_false]
  | true => rw [Bool.true_and, Bool.and_true]

end Statements

/-! ### Requests -/

/-- What a tenant may ask about its graphs. -/
inductive GraphRequest where
  | createGraph (key : String) (graph : WorkflowGraph) (budget : Option GraphBudget)
      (binding : Option (List (String × Json))) (now : DateTime) (uuid4 : String)
  | bindGraphBudget (graphId : String) (budget : GraphBudget) (now : DateTime)
  | reserveGraphAttempt (graphId : String) (now : DateTime)
  | recordGraphOutputTokens (graphId : String) (count : Option Int)
  | transitionGraphNode (graphId nodeId : String) (target : NodeState)
  | claimGraphNode (graphId nodeId owner : String) (leaseSeconds : Int) (now : DateTime)
  | completeGraphNode (graphId nodeId owner : String) (fence : Int) (result : List (String × Json))
      (succeeded : Bool) (now : DateTime) (uuid4 : String)
  | validateGraphNode (graphId nodeId : String) (policy : ValidationPolicy)
  | cancelGraph (graphId : String)
  | getGraphState (graphId : String)
  | getGraphBudget (graphId : String)
  | getGraphBinding (graphId : String)
  | getGraphNodePacket (graphId nodeId : String)
  | getGraphArtifact (graphId nodeId : String)
  | acceptedDependencyArtifacts (graphId nodeId : String)
  | acceptedGraphResults (graphId : String)
  | graphNodeRecords (graphId : String)
  | graphEvents (graphId : String)

/-- What a request returns. -/
inductive GraphReply (platform : Platform) where
  | answer (answer : GraphAnswer)
  | granted (granted : Bool)
  | state (state : Option GraphState)
  | budget (row : Option GraphBudgetRow)
  | binding (binding : Option Json)
  | packet (packet : Option TaskPacket)
  | artifact (artifact : Option (StoredArtifact platform))
  | dependencies (artifacts : List (String × StoredArtifact platform))
  | results (results : List (GraphResult platform))
  | nodes (records : List SQLiteWorkflowStore.GraphNodeRecord)
  | events (events : List SQLiteWorkflowStore.GraphEventRecord)

/-- The transaction of a request by a tenant. -/
def GraphRequest.body (platform : Platform) (tenant : String) :
    GraphRequest → GraphTx (GraphReply platform)
  | .createGraph key graph budget binding now uuid4 =>
      .answer <$> (GraphCall.createGraph tenant key graph budget binding now uuid4).body platform
  | .bindGraphBudget graphId budget now =>
      .answer <$> (GraphCall.bindGraphBudget tenant graphId budget now).body platform
  | .reserveGraphAttempt graphId now =>
      .granted <$> Workflows.reserveGraphAttempt tenant graphId now
  | .recordGraphOutputTokens graphId count =>
      .granted <$> Workflows.recordGraphOutputTokens tenant graphId count
  | .transitionGraphNode graphId nodeId target =>
      .answer <$> (GraphOperation.transitionGraphNode tenant graphId nodeId target).body platform
  | .claimGraphNode graphId nodeId owner leaseSeconds now =>
      .answer <$> (GraphCall.claimGraphNode tenant graphId nodeId owner leaseSeconds now).body
        platform
  | .completeGraphNode graphId nodeId owner fence result succeeded now uuid4 =>
      .answer <$> (GraphCall.completeGraphNode tenant graphId nodeId owner fence result succeeded
        now uuid4).body platform
  | .validateGraphNode graphId nodeId policy =>
      .answer <$> (GraphCall.validateGraphNode tenant graphId nodeId policy).body platform
  | .cancelGraph graphId => .answer <$> (GraphCall.cancelGraph tenant graphId).body platform
  | .getGraphState graphId => .state <$> Workflows.getGraphState tenant graphId
  | .getGraphBudget graphId => .budget <$> Workflows.getGraphBudget tenant graphId
  | .getGraphBinding graphId => .binding <$> SQLiteWorkflowStore.getGraphBinding tenant graphId
  | .getGraphNodePacket graphId nodeId =>
      .packet <$> SQLiteWorkflowStore.getGraphNodePacket tenant graphId nodeId
  | .getGraphArtifact graphId nodeId =>
      .artifact <$> SQLiteWorkflowStore.getGraphArtifact platform tenant graphId nodeId
  | .acceptedDependencyArtifacts graphId nodeId =>
      .dependencies <$> Workflows.acceptedDependencyArtifacts platform tenant graphId nodeId
  | .acceptedGraphResults graphId =>
      .results <$> Workflows.acceptedGraphResults platform tenant graphId
  | .graphNodeRecords graphId => .nodes <$> SQLiteWorkflowStore.graphNodeRecords tenant graphId
  | .graphEvents graphId => .events <$> SQLiteWorkflowStore.graphEvents tenant graphId

/-- The identifier that is generated for a request, if it needs one. -/
def GraphRequest.generated : GraphRequest → Option String
  | .createGraph _ _ _ _ _ uuid4 | .completeGraphNode _ _ _ _ _ _ _ uuid4 => some uuid4
  | .bindGraphBudget _ _ _ | .reserveGraphAttempt _ _ | .recordGraphOutputTokens _ _
  | .transitionGraphNode _ _ _ | .claimGraphNode _ _ _ _ _ | .validateGraphNode _ _ _
  | .cancelGraph _ | .getGraphState _ | .getGraphBudget _ | .getGraphBinding _
  | .getGraphNodePacket _ _ | .getGraphArtifact _ _ | .acceptedDependencyArtifacts _ _
  | .acceptedGraphResults _ | .graphNodeRecords _ | .graphEvents _ => none

/-- A reply without the sequence numbers of events. -/
def GraphReply.unnumbered {platform : Platform} : GraphReply platform → GraphReply platform
  | .events records => .events (records.map GraphEventRecord.unnumbered)
  | reply => reply

/-- **Confinement.**  Every request is confined to its tenant, but for the sequence
numbers of events. -/
theorem graphRequest_confined (platform : Platform) (tenant : String) (request : GraphRequest) :
    Confined GraphTables.only tenant
      (fun tables => tables.Owned ∧ ∀ uuid4 ∈ request.generated, tables.Unused uuid4)
      GraphTables.Owned (GraphReply.unnumbered <$> request.body platform tenant) := by
  have hread : ∀ (body : GraphTx (GraphReply platform)),
      Confined GraphTables.only tenant GraphTables.Owned GraphTables.Owned body →
      Confined GraphTables.only tenant
        (fun tables => tables.Owned ∧ ∀ uuid4 ∈ request.generated, tables.Unused uuid4)
        GraphTables.Owned body :=
    fun body h => h.weaken (fun _ h => h.1) fun _ h => h
  have hfresh : ∀ (uuid4 : String) (body : GraphTx (GraphReply platform)),
      request.generated = some uuid4 →
      Confined GraphTables.only tenant (fun tables => tables.Owned ∧ tables.Unused uuid4)
        GraphTables.Owned body →
      Confined GraphTables.only tenant
        (fun tables => tables.Owned ∧ ∀ uuid4 ∈ request.generated, tables.Unused uuid4)
        GraphTables.Owned body :=
    fun uuid4 body hgenerated h => h.weaken (fun _ h => ⟨h.1, h.2 uuid4 hgenerated⟩) fun _ h => h
  cases request with
  | createGraph key graph budget binding now uuid4 =>
      exact hfresh uuid4 _ rfl (Confined.map (Confined.map (Confined.map createGraph_confined)))
  | bindGraphBudget graphId budget now =>
      exact hread _ (Confined.map (Confined.map (Confined.map bindGraphBudget_confined)))
  | reserveGraphAttempt graphId now =>
      exact hread _ (Confined.map (Confined.map reserveGraphAttempt_confined))
  | recordGraphOutputTokens graphId count =>
      exact hread _ (Confined.map (Confined.map recordGraphOutputTokens_confined))
  | transitionGraphNode graphId nodeId target =>
      exact hread _ (Confined.map (Confined.map (Confined.map
        (ownedAnd_true transitionGraphNode_confined))))
  | claimGraphNode graphId nodeId owner leaseSeconds now =>
      exact hread _ (Confined.map (Confined.map (Confined.map claimGraphNode_confined)))
  | completeGraphNode graphId nodeId owner fence result succeeded now uuid4 =>
      exact hfresh uuid4 _ rfl
        (Confined.map (Confined.map (Confined.map completeGraphNode_confined)))
  | validateGraphNode graphId nodeId policy =>
      exact hread _ (Confined.map (Confined.map (Confined.map validateGraphNode_confined)))
  | cancelGraph graphId =>
      exact hread _ (Confined.map (Confined.map (Confined.map
        (ownedAnd_true cancelGraph_confined))))
  | getGraphState graphId => exact hread _ (Confined.map (Confined.map getGraphState_confined))
  | getGraphBudget graphId => exact hread _ (Confined.map (Confined.map selectBudget_confined))
  | getGraphBinding graphId => exact hread _ (Confined.map (Confined.map getGraphBinding_confined))
  | getGraphNodePacket graphId nodeId =>
      exact hread _ (Confined.map (Confined.map getGraphNodePacket_confined))
  | getGraphArtifact graphId nodeId =>
      exact hread _ (Confined.map (Confined.map getGraphArtifact_confined))
  | acceptedDependencyArtifacts graphId nodeId =>
      exact hread _ (Confined.map (Confined.map acceptedDependencyArtifacts_confined))
  | acceptedGraphResults graphId =>
      exact hread _ (Confined.map (Confined.map acceptedGraphResults_confined))
  | graphNodeRecords graphId =>
      exact hread _ (Confined.map (Confined.map graphNodeRecords_confined))
  | graphEvents graphId =>
      apply hread
      have hrecords : Confined GraphTables.only tenant GraphTables.Owned GraphTables.Owned
          ((GraphReply.events <$> (List.map GraphEventRecord.unnumbered <$>
            SQLiteWorkflowStore.graphEvents tenant graphId) : GraphTx (GraphReply platform))) :=
        Confined.map graphEvents_confined
      exact hrecords

end Workflows
end Ryuk

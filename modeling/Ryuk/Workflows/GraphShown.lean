import Ryuk.Workflows.GraphCancellation
import Ryuk.Workflows.GraphIdempotency
import Ryuk.Workflows.GraphProgress
import Ryuk.Workflows.GraphResults
import Ryuk.Workflows.StoreReads

/-!
# What the service shows of graphs

The service creates, claims, completes, validates, cancels and recovers, and its executors
count on the budgets; no part of it requests a transition by itself.  A graph of which no
node is ready, running or waiting for validation is then frozen: nothing that is read of it
changes any more.
-/

namespace Ryuk
namespace Workflows

open Foundation Foundation.Json Foundation.Transaction Foundation.Registry Foundation.Dependency
open Relation

/-! ### The store in service -/

/-- What the service does to graphs. -/
inductive GraphInput where
  | call (call : GraphCall)
  | budget (handle : DurableGraphBudget) (call : BudgetCall)

/-- As an input of the store with all its operations. -/
def GraphInput.input : GraphInput → BudgetInput
  | .call made => .operation (.call made)
  | .budget handle made => .call handle made

/-- The store of graphs in service. -/
def graphService (platform : Platform) :
    Machine GraphTables GraphInput (Except PyError BudgetAnswer) where
  step tables input := (budgetStore platform).step tables input.input

/-- What others may do to the graphs. -/
def GraphsEvolve (platform : Platform) (tables later : GraphTables) : Prop :=
  (graphService platform).Reachable tables later

variable {platform : Platform} {tables later final : GraphTables}
  {tenant graphId nodeId : String} {state : GraphState}

/-- A call of the store is one of its moves. -/
theorem graphCall_evolves {call : GraphCall} {answer : GraphAnswer}
    (h : call.body platform tables = .ok (answer, final)) : GraphsEvolve platform tables final := by
  refine ⟨[.call call], ?_⟩
  show (commit (BudgetAnswer.operation <$> call.body platform) tables).2 = final
  rw [commit_map, commit_of_ok h]

/-- A move is a call, or it changes the budgets only. -/
theorem graphService_cases (tables : GraphTables) (input : GraphInput) :
    (∃ call, input = .call call ∧
      (graphService platform).next tables input = (graphStore platform).next tables call) ∨
    ∃ budgets, (graphService platform).next tables input = { tables with budgets } := by
  cases input with
  | call call =>
      refine Or.inl ⟨call, rfl, ?_⟩
      show (commit (BudgetAnswer.operation <$> call.body platform) tables).2 = _
      rw [commit_map]
      rfl
  | budget handle made =>
      refine Or.inr ?_
      show ∃ budgets, (commit (BudgetAnswer.granted <$> handle.call made) tables).2 = _
      rw [commit_map]
      rcases commit_cases (handle.call made) tables with ⟨granted, -, hok⟩ | ⟨-, hsame⟩
      · rcases call_cases hok with hfinal | hfinal | ⟨count, -, hfinal⟩
        · exact ⟨tables.budgets, hfinal⟩
        · exact ⟨_, hfinal⟩
        · exact ⟨_, hfinal⟩
      · exact ⟨tables.budgets, hsame⟩

/-! ### Rows of graphs -/

section Rows

/-- Statements on nodes and events leave the graphs alone. -/
theorem graphs_blind : BlindTo tenant GraphTables.graphs where
  setNodes _ _ _ _ _ _ := rfl
  log _ _ _ _ := rfl
  addNode tables row next _ hadd := by
    obtain ⟨nodes, -, rfl⟩ := Option.map_eq_some_iff.mp hadd
    rfl

theorem insertBudget_graphs {budget : Option GraphBudget} {now : Datetime.DateTime} :
    Keeps GraphTables.graphs (insertBudget tenant graphId now budget) := by
  cases budget with
  | none => exact Keeps.pure
  | some budget =>
      apply Keeps.bind Keeps.lift
      intro deadline
      apply insertBudgetRow_keeps
      intro state next hadd
      obtain ⟨budgets, -, rfl⟩ := Option.map_eq_some_iff.mp hadd
      rfl

/-- A creation that returns finds its graph or adds its row. -/
theorem registerGraph_adds {key hashed uuid4 id : String}
    {request : String × Option String × Option String} {nodeStates : List (String × NodeState)}
    {budget : Option GraphBudget} {now : Datetime.DateTime}
    (h : registerGraph platform tenant key request hashed nodeStates budget now uuid4 tables =
      .ok (id, final)) :
    final = tables ∨ (id = uuid4 ∧ tables.graphs.insert ⟨uuid4, tenant, key,
      platform.sha256 hashed, request.1, request.2.2⟩ = some final.graphs) := by
  unfold registerGraph at h
  rw [query_bind_ok] at h
  cases hfound : tables.graphs.fetchone (fun row =>
      decide (row.tenant = tenant) && decide (row.idempotencyKey = key)) with
  | some row =>
      simp only [hfound, require_bind_ok, pure_ok] at h
      exact Or.inl h.2.2.symm
  | none =>
      simp only [hfound, attempt_bind_ok] at h
      obtain ⟨added, hadd, h⟩ := h
      rw [bind_ok] at h
      obtain ⟨_, inserted, hinserted, h⟩ := h
      rw [bind_ok] at h
      obtain ⟨_, budgeted, hbudgeted, h⟩ := h
      obtain ⟨rfl, rfl⟩ := pure_ok.mp h
      obtain ⟨graphs, hinsert, rfl⟩ := Option.map_eq_some_iff.mp hadd
      refine Or.inr ⟨rfl, ?_⟩
      rw [insertBudget_graphs _ _ _ hbudgeted, insertNodes_keeps graphs_blind _ _ _ hinserted]
      exact hinsert

/-- The binding of every graph is the text of a dictionary. -/
def GraphTables.Bound (tables : GraphTables) : Prop :=
  ∀ row ∈ tables.graphs.rows, ∀ text ∈ row.bindingJson, DictText text

/-- A call that adds no graph keeps the rows of the graphs. -/
theorem graphRows_kept (hquiet : GraphQuiet tables final)
    (hrequests : final.requests = tables.requests) {row : GraphRow}
    (hrow : row ∈ final.graphs.rows) : row ∈ tables.graphs.rows := by
  have hentry : row.registration ∈ tables.requests := by
    rw [← hrequests]
    exact List.mem_map_of_mem hrow
  obtain ⟨earlier, hearlier, hsame⟩ := List.mem_map.mp hentry
  have hid : earlier.id = row.id := congrArg Registration.identity hsame
  have htenant : earlier.tenant = row.tenant :=
    congrArg (fun entry : Registration (String × String) String String => entry.key.1) hsame
  have hbefore : (tables.graphView row.tenant row.id).row = some earlier := by
    show tables.graphRow row.tenant row.id = some earlier
    rw [graphRow_eq, ← hid, Table.find_of_mem hearlier, Option.filter_some]
    simp [htenant]
  have hafter : (final.graphView row.tenant row.id).row = some row := by
    show final.graphRow row.tenant row.id = some row
    rw [graphRow_eq, Table.find_of_mem hrow, Option.filter_some]
    simp
  rw [hquiet.row hbefore, Option.some.injEq] at hafter
  exact hafter ▸ hearlier

/-- What holds of the row of every creation holds of every row. -/
theorem graphNext_rows {good : GraphRow → Prop} (hmade : ∀ tenant key graph budget binding request
      hashed uuid4, graphRequest graph budget binding = .ok request →
      graphText request = .ok hashed →
      good ⟨uuid4, tenant, key, platform.sha256 hashed, request.1, request.2.2⟩)
    (hvalid : AllGraphsValid tables) (h : ∀ row ∈ tables.graphs.rows, good row) (call : GraphCall) :
    ∀ row ∈ ((graphStore platform).next tables call).graphs.rows, good row := by
  show ∀ row ∈ (commit (call.body platform) tables).2.graphs.rows, good row
  apply @commit_preserves _ _ _ _ (fun final : GraphTables => ∀ row ∈ final.graphs.rows, good row)
    _ h
  intro answer final hok
  have hquiet := @graphBody_quiet platform tables final (.call call) answer hvalid hok
  by_cases hcreation : ∃ tenant key graph budget binding now uuid4,
      call = .createGraph tenant key graph budget binding now uuid4
  · obtain ⟨tenant, key, graph, budget, binding, now, uuid4, rfl⟩ := hcreation
    obtain ⟨id, hcreate, -⟩ := map_ok.mp hok
    obtain ⟨-, -, request, hashed, nodeStates, hrequest, hhashed, hregister⟩ :=
      createGraph_request hcreate
    rcases registerGraph_adds hregister with rfl | ⟨-, hinsert⟩
    · exact h
    · intro row hrow
      rcases (Table.mem_insert hinsert).mp hrow with hold | rfl
      · exact h row hold
      · exact hmade tenant key graph budget binding request hashed uuid4 hrequest hhashed
  · intro row hrow
    apply h row
    apply graphRows_kept hquiet _ hrow
    have hkeeps : Keeps GraphTables.requests
        ((GraphInput.call call).input.body platform) := by
      apply body_requests
      intro tenant key graph budget binding now uuid4 hsame
      exact hcreation ⟨tenant, key, graph, budget, binding, now, uuid4,
        GraphOperation.call.inj (BudgetInput.operation.inj hsame)⟩
    exact hkeeps _ _ _ (map_ok.mpr ⟨answer, hok, rfl⟩)

/-- The row of a graph holds the texts that its digest covers. -/
def GraphTables.Digested (platform : Platform) (tables : GraphTables) : Prop :=
  ∀ row ∈ tables.graphs.rows, ∃ graph budget binding request hashed,
    graphRequest graph budget binding = .ok request ∧ graphText request = .ok hashed ∧
      row.graphJson = request.1 ∧ row.bindingJson = request.2.2 ∧
      row.requestHash = platform.sha256 hashed

/-- Every call keeps the bindings readable. -/
theorem graphNext_bound (hvalid : AllGraphsValid tables) (h : tables.Bound) (call : GraphCall) :
    ((graphStore platform).next tables call).Bound := by
  refine graphNext_rows ?_ hvalid h call
  intro tenant key graph budget binding request hashed uuid4 hrequest hhashed text htext
  exact (graphRequest_object hrequest).2 ("binding", request.2.2)
    (List.mem_cons_of_mem _ (List.mem_singleton_self _)) text htext

theorem graphNext_digested (hvalid : AllGraphsValid tables) (h : tables.Digested platform)
    (call : GraphCall) : ((graphStore platform).next tables call).Digested platform :=
  graphNext_rows (fun _ _ graph budget binding request hashed _ hrequest hhashed =>
    ⟨graph, budget, binding, request, hashed, hrequest, hhashed, rfl, rfl, rfl⟩) hvalid h call

end Rows

/-! ### Reachable stores -/

/-- What holds of every store the service reaches. -/
structure GraphTables.Stored (platform : Platform) (tables : GraphTables) : Prop where
  nodes : AllNodesValid tables
  graphs : GraphsSound tables
  artifacts : ArtifactsSound platform tables
  bound : tables.Bound
  keys : (tables.requests.map Registration.key).Nodup
  digested : tables.Digested platform

theorem GraphTables.Stored.next (h : tables.Stored platform) (input : GraphInput) :
    ((graphService platform).next tables input).Stored platform := by
  rcases @graphService_cases platform tables input with ⟨call, rfl, hnext⟩ | ⟨budgets, hnext⟩
  · have hstep : (graphStore platform).next tables call =
        (graphOperations platform).next tables (.call call) := rfl
    have hgraphs := @graphOperations_sound platform tables (.call call) h.graphs
    have hartifacts : ArtifactsSound platform ((graphOperations platform).next tables
        (.call call)) :=
      commit_preserves h.artifacts fun _ _ hok =>
        graphBody_artifactsSound h.graphs.rows h.artifacts hok
    have hkeys := (budgetStore_registers platform tables (GraphInput.call call).input).nodup h.keys
    rw [hnext]
    refine ⟨graphNext_valid tables call h.nodes, hstep ▸ hgraphs, hstep ▸ hartifacts,
      graphNext_bound h.graphs.valid h.bound call, ?_,
      graphNext_digested h.graphs.valid h.digested call⟩
    rw [← hnext]
    exact hkeys
  · rw [hnext]
    exact ⟨h.nodes, ⟨h.graphs.valid, ⟨h.graphs.rows.owned, h.graphs.rows.named⟩⟩,
      ⟨h.artifacts.intact, h.artifacts.owned⟩, h.bound, h.keys, h.digested⟩

theorem GraphTables.Stored.evolves (h : tables.Stored platform)
    (hlater : GraphsEvolve platform tables later) : later.Stored platform :=
  hlater.invariant (fun _ input hstored => hstored.next input) h

theorem graphEmpty_stored : GraphTables.empty.Stored platform :=
  ⟨graphEmpty_valid, graphsSound_empty, artifactsSound_empty,
    fun _ hrow => (List.not_mem_nil hrow).elim, empty_graphRequests,
    fun _ hrow => (List.not_mem_nil hrow).elim⟩

theorem graphReachable_stored (h : GraphsEvolve platform GraphTables.empty tables) :
    tables.Stored platform := graphEmpty_stored.evolves h

/-- A relation that holds over every move holds over every run. -/
theorem evolves_related {related : GraphTables → GraphTables → Prop}
    (hrefl : ∀ tables, related tables tables)
    (htrans : ∀ first second third, related first second → related second third →
      related first third)
    (hcall : ∀ tables call, tables.Stored platform →
      related tables ((graphStore platform).next tables call))
    (hbudget : ∀ tables budgets, related tables { tables with budgets })
    (h : tables.Stored platform) (hlater : GraphsEvolve platform tables later) :
    related tables later := by
  obtain ⟨inputs, rfl⟩ := hlater
  apply Machine.after_related (fun _ input hstored => hstored.next input) hrefl htrans _ h
  intro tables input hstored
  rcases @graphService_cases platform tables input with ⟨call, -, hnext⟩ | ⟨budgets, hnext⟩
  · rw [hnext]
    exact hcall tables call hstored
  · rw [hnext]
    exact hbudget tables budgets

/-- Every graph makes a chain of transitions. -/
theorem GraphsEvolve.quiet (h : tables.Stored platform)
    (hlater : GraphsEvolve platform tables later) : GraphQuiet tables later :=
  evolves_related GraphQuiet.refl (fun _ _ _ => GraphQuiet.trans)
    (fun tables call hstored => @graphOperations_quiet platform tables (.call call)
      hstored.graphs.valid)
    (fun tables _ => GraphQuiet.refl tables) h hlater

/-- Every node makes a chain of transitions. -/
theorem GraphsEvolve.chain (h : tables.Stored platform)
    (hlater : GraphsEvolve platform tables later) (key : String × String) :
    ReflTransGen (NodeStep key) (tables.view key) (later.view key) :=
  @evolves_related platform tables later
    (fun tables later => ReflTransGen (NodeStep key) (tables.view key) (later.view key))
    (fun _ => ReflTransGen.refl) (fun _ _ _ => ReflTransGen.trans)
    (fun _ call hstored => graphNext_chain hstored.nodes call key)
    (fun _ _ => ReflTransGen.refl) h hlater

/-! ### What is shown -/

/-- The binding a tenant sees of a graph. -/
def GraphTables.Shows (tables : GraphTables) (tenant graphId : String) (binding : Json) : Prop :=
  ∃ row text, (tables.graphView tenant graphId).row = some row ∧ row.bindingJson = some text ∧
    loads text = some binding

/-- The state that is stored of a graph of a tenant. -/
structure GraphTables.Holds (tables : GraphTables) (tenant graphId : String) (state : GraphState) :
    Prop where
  stored : ∃ row, (tables.graphView tenant graphId).row = some row ∧ row.Stores state.graph
  listed : (tables.graphView tenant graphId).states = state.nodeStates

theorem GraphTables.Holds.read (h : tables.Holds tenant graphId state) :
    getGraphState tenant graphId tables = .ok (some state, tables) := by
  obtain ⟨row, hrow, hstored⟩ := h.stored
  exact getGraphState_valid hrow hstored h.listed

theorem GraphTables.Holds.unique {state' : GraphState} (h : tables.Holds tenant graphId state)
    (h' : tables.Holds tenant graphId state') : state' = state := by
  have hread := h'.read
  rw [h.read] at hread
  exact (Option.some.inj (Prod.mk.inj (Except.ok.inj hread)).1).symm

theorem GraphTables.Shows.holds {binding : Json} (h : tables.Stored platform)
    (hshows : tables.Shows tenant graphId binding) : ∃ state, tables.Holds tenant graphId state := by
  obtain ⟨row, _, hrow, -, -⟩ := hshows
  obtain ⟨state, hstored, hlisted, -⟩ := (h.graphs.valid tenant graphId).stored row hrow
  exact ⟨state, ⟨row, hrow, hstored⟩, hlisted⟩

theorem GraphTables.Shows.evolves {binding : Json} (h : tables.Stored platform)
    (hshows : tables.Shows tenant graphId binding) (hlater : GraphsEvolve platform tables later) :
    later.Shows tenant graphId binding := by
  obtain ⟨row, text, hrow, htext, hloads⟩ := hshows
  exact ⟨row, text, (hlater.quiet h).row hrow, htext, hloads⟩

/-- A graph is shown to one tenant. -/
theorem GraphTables.Shows.own {binding binding' : Json} {other : String}
    (h : tables.Shows tenant graphId binding) (h' : tables.Shows other graphId binding') :
    other = tenant := by
  obtain ⟨row, _, hrow, -, -⟩ := h
  obtain ⟨row', _, hrow', -, -⟩ := h'
  apply graphView_tenant
  · rw [hrow']
    rfl
  · rw [hrow]
    rfl

/-- `get_graph_binding` returns what is shown, or nothing. -/
theorem getGraphBinding_stored (h : tables.Stored platform) (tenant graphId : String) :
    (∃ binding, tables.Shows tenant graphId binding ∧
      SQLiteWorkflowStore.getGraphBinding tenant graphId tables = .ok (some binding, tables)) ∨
    ((∀ binding, ¬ tables.Shows tenant graphId binding) ∧
      SQLiteWorkflowStore.getGraphBinding tenant graphId tables = .ok (none, tables)) := by
  have hread : SQLiteWorkflowStore.getGraphBinding tenant graphId tables =
      (lift (SQLiteWorkflowStore.loadsOptional
        ((tables.graphView tenant graphId).row.bind GraphRow.bindingJson)) : GraphTx _) tables := rfl
  rw [hread]
  cases hrow : (tables.graphView tenant graphId).row with
  | none =>
      refine Or.inr ⟨?_, rfl⟩
      rintro binding ⟨row, _, hfound, -, -⟩
      rw [hrow] at hfound
      cases hfound
  | some row =>
      rw [Option.bind_some]
      cases htext : row.bindingJson with
      | none =>
          refine Or.inr ⟨?_, rfl⟩
          rintro binding ⟨found, text, hfound, hbound, -⟩
          rw [hrow, Option.some.injEq] at hfound
          rw [← hfound, htext] at hbound
          cases hbound
      | some text =>
          have hmem : row ∈ tables.graphs.rows := List.mem_of_find?_eq_some hrow
          obtain ⟨fields, hfields⟩ := h.bound row hmem text htext
          have hloads := loads_dumps (canonicalJson_ok hfields)
          refine Or.inl ⟨_, ⟨row, text, hrow, htext, hloads⟩, ?_⟩
          show (lift ((loadsJson text).map some) : GraphTx _) tables = _
          rw [loadsJson_canonicalJson hfields]
          rfl

/-- The graph of a tenant stays the same graph. -/
theorem GraphTables.Holds.evolves (h : tables.Stored platform)
    (hholds : tables.Holds tenant graphId state) (hlater : GraphsEvolve platform tables later) :
    ∃ state', later.Holds tenant graphId state' ∧ state'.graph = state.graph := by
  obtain ⟨row, hrow, hstored⟩ := hholds.stored
  have hrow' := (hlater.quiet h).row hrow
  obtain ⟨state', hstored', hlisted', -⟩ :=
    ((h.evolves hlater).graphs.valid tenant graphId).stored row hrow'
  exact ⟨state', ⟨⟨row, hrow', hstored'⟩, hlisted'⟩, hstored'.unique hstored⟩

/-! ### Frozen graphs -/

/-- No node is ready, running or waiting for validation. -/
def GraphState.Settled (state : GraphState) : Prop :=
  ∀ pair ∈ state.nodeStates, pair.2.isCancellable = false

theorem GraphState.settled_of_terminal (h : state.terminal = true) : state.Settled := by
  intro pair hpair
  have hended := List.all_eq_true.mp h pair hpair
  rw [decide_eq_true_eq] at hended
  cases hstate : pair.2 <;> simp_all [terminalNodeStates, NodeState.isCancellable]

/-- A node that neither waits for others nor is cancellable makes no step. -/
theorem NodeStep.not_resting {key : String × String} {view next : NodeView} {row : NodeRow}
    (hstep : NodeStep key view next) (hrow : view.row = some row) (hblocked : row.state ≠ .blocked) :
    row.state.isCancellable = true := by
  have hsame : ∀ {found : NodeRow}, view.row = some found → found = row := fun hfound =>
    Option.some.inj (hfound.symm.trans hrow)
  cases hstep with
  | claim owner expiry hfound hstate =>
      rw [← hsame hfound, hstate]
      rfl
  | quiet hquiet =>
      cases hquiet with
      | create _ habsent _ _ _ _ _ _ =>
          rw [hrow] at habsent
          cases habsent
      | release _ hfound hwaiting _ => exact absurd (hsame hfound ▸ hwaiting) hblocked
      | complete _ _ hfound hstate _ _ _ =>
          rw [← hsame hfound, hstate]
          rfl
      | validate _ _ hfound hstate _ _ _ =>
          rw [← hsame hfound, hstate]
          rfl
      | cancel hfound hstate => rw [← hsame hfound, hstate]
      | recover hfound hstate =>
          rw [← hsame hfound, hstate]
          rfl

/-- A node that rests is left as it is. -/
theorem chain_resting {key : String × String} {view next : NodeView} {row : NodeRow}
    (hchain : ReflTransGen (NodeStep key) view next) (hrow : view.row = some row)
    (hblocked : row.state ≠ .blocked) (hrest : row.state.isCancellable = false) : next = view := by
  rcases ReflTransGen.cases_head hchain with hsame | ⟨middle, hstep, -⟩
  · exact hsame.symm
  · rw [hstep.not_resting hrow hblocked] at hrest
    cases hrest

/-- The nodes that wait are determined by those that do not. -/
theorem GraphState.eq_of_resting {state' : GraphState} (hgraph : state'.graph = state.graph)
    (hsame : ∀ nodeId own, statesOf state.nodeStates nodeId = some own → own ≠ .blocked →
      statesOf state'.nodeStates nodeId = some own) : state' = state := by
  have hall : ∀ nodeId own, statesOf state.nodeStates nodeId = some own →
      statesOf state'.nodeStates nodeId = some own := by
    intro nodeId
    -- by induction on the dependencies
    induction nodeId using state.graph.dependsOn_wellFounded.induction with
    | _ nodeId ih =>
        intro own hown
        by_cases hblocked : own = .blocked
        · have hmem : nodeId ∈ state.graph.nodes.map GraphNode.nodeId :=
            (state.statesOf_isSome nodeId).mp ⟨own, hown⟩
          obtain ⟨node, hnode, rfl⟩ := List.mem_map.mp hmem
          have hnode' : node ∈ state'.graph.nodes := hgraph ▸ hnode
          obtain ⟨found, hchecked⟩ := state.node hnode
          obtain ⟨found', hchecked'⟩ := state'.node hnode'
          obtain rfl : own = found := Option.some.inj (hown.symm.trans hchecked.own)
          obtain ⟨⟨waited, hwaited, hopen⟩, hnone⟩ := hchecked.blocked hblocked
          have hdependency : ∀ dependency ∈ node.dependsOn, ∀ value,
              statesOf state.nodeStates dependency = some value →
              statesOf state'.nodeStates dependency = some value := by
            intro dependency hmem value hvalue
            exact ih dependency ⟨node, hnode, rfl, hmem⟩ value hvalue
          have hblocked' : found' = .blocked := by
            by_contra hother
            cases hscheduled : found'.isScheduled with
            | true =>
                obtain ⟨value, hvalue⟩ := hchecked.known waited hwaited
                have hsucceeded := hchecked'.scheduled hscheduled waited hwaited
                rw [hdependency waited hwaited value hvalue] at hsucceeded
                exact hopen (hvalue.trans hsucceeded)
            | false =>
                have hskipped : found' = .skipped := by
                  cases found' <;> simp_all [NodeState.isScheduled]
                obtain ⟨failed, hfailed, value, hvalue, hunsuccessful⟩ :=
                  hchecked'.skipped hskipped
                obtain ⟨before, hbefore⟩ := hchecked.known failed hfailed
                have hafter := hdependency failed hfailed before hbefore
                rw [hvalue, Option.some.injEq] at hafter
                exact hnone failed hfailed before hbefore (hafter ▸ hunsuccessful)
          rw [hchecked'.own, hblocked', hblocked]
        · exact hsame nodeId own hown hblocked
  apply GraphState.ext_of_statesOf hgraph
  intro nodeId
  cases hown : statesOf state.nodeStates nodeId with
  | some own => exact hall nodeId own hown
  | none =>
      cases hfound : statesOf state'.nodeStates nodeId with
      | none => rfl
      | some found =>
          have hmem := (state'.statesOf_isSome nodeId).mp ⟨found, hfound⟩
          rw [hgraph] at hmem
          obtain ⟨own, hown'⟩ := (state.statesOf_isSome nodeId).mpr hmem
          rw [hown] at hown'
          cases hown'

/-- **Frozen.**  Nothing that is read of a settled graph changes. -/
theorem GraphTables.Holds.frozen (h : tables.Stored platform)
    (hholds : tables.Holds tenant graphId state) (hsettled : state.Settled)
    (hlater : GraphsEvolve platform tables later) :
    later.Holds tenant graphId state ∧
      ∀ nodeId own, statesOf state.nodeStates nodeId = some own → own ≠ .blocked →
        later.view (graphId, nodeId) = tables.view (graphId, nodeId) := by
  have hkept : ∀ nodeId own, statesOf state.nodeStates nodeId = some own → own ≠ .blocked →
      later.view (graphId, nodeId) = tables.view (graphId, nodeId) := by
    intro nodeId own hown hblocked
    have hpair := state.statesOf_iff.mp hown
    obtain ⟨row, hrow, -, rfl⟩ := row_of_listed (hholds.listed ▸ hpair)
    exact chain_resting (hlater.chain h (graphId, nodeId)) hrow hblocked (hsettled _ hpair)
  obtain ⟨state', hholds', hgraph⟩ := hholds.evolves h hlater
  have hsame : state' = state := by
    apply GraphState.eq_of_resting hgraph
    intro nodeId own hown hblocked
    obtain ⟨row, hrow, howned, rfl⟩ := row_of_listed
      (hholds.listed ▸ state.statesOf_iff.mp hown)
    rw [← hkept nodeId row.state hown hblocked] at hrow
    apply state'.statesOf_iff.mpr
    rw [← hholds'.listed]
    exact mem_nodeStates hrow howned
  exact ⟨hsame ▸ hholds', hkept⟩

/-! ### Cancellations -/

/-- The loop of a cancellation comes to its end. -/
theorem cancelNodes_total (hholds : tables.Holds tenant graphId state)
    {nodeStates : List (String × NodeState)}
    (hlisted : ∀ pair ∈ nodeStates, pair.1 ∈ state.graph.nodes.map GraphNode.nodeId) :
    ∃ state' final, cancelNodes tenant graphId nodeStates tables = .ok ((), final) ∧
      final.Holds tenant graphId state' := by
  induction nodeStates generalizing tables state with
  | nil => exact ⟨state, tables, rfl, hholds⟩
  | cons pair rest ih =>
      obtain ⟨nodeId, listed⟩ := pair
      have hrest : ∀ pair ∈ rest, pair.1 ∈ state.graph.nodes.map GraphNode.nodeId :=
        fun pair hpair => hlisted pair (List.mem_cons_of_mem _ hpair)
      unfold cancelNodes
      cases hactive : listed.isCancellable with
      | false => exact ih hholds hrest
      | true =>
          obtain ⟨current, hcurrent⟩ :=
            (state.statesOf_isSome nodeId).mpr (hlisted _ (List.mem_cons_self ..))
          rw [if_pos rfl, bind_of_ok hholds.read]
          dsimp only
          rw [state.stateOf_ok.mpr hcurrent, lift_ok_bind]
          cases hcancellable : current.isCancellable with
          | false => exact ih hholds hrest
          | true =>
              rw [if_pos rfl]
              have hlegal : state.Legal nodeId .cancelled := by
                refine ⟨current, state.stateOf_ok.mpr hcurrent, ?_⟩
                cases current <;> simp_all [NodeState.isCancellable, allowedTransitions]
              obtain ⟨_, _, updated, -, -, -, hmove, -⟩ := hlegal.transition
              obtain ⟨row, hrow, hstored⟩ := hholds.stored
              obtain ⟨moved, hmoved, hrow', hlisted'⟩ :=
                transitionGraphNode_total hrow hstored hholds.listed hmove
              have hgraph : updated.graph = state.graph := (transition_ok hmove).choose_spec.2.2.1
              rw [bind_of_ok hmoved]
              -- the fence changes other columns
              have hsame : SameGraphs moved (moved.setNodes (nodeOf tenant graphId nodeId)
                  (fun row => { row with fence := row.fence + 1, owner := none, leaseUntil := none })
                  fun _ => rfl) := sameGraphs_setNodes (fun _ => rfl) fun _ => rfl
              have hafter : GraphTables.Holds (moved.setNodes (nodeOf tenant graphId nodeId)
                  (fun row => { row with fence := row.fence + 1, owner := none, leaseUntil := none })
                  fun _ => rfl) tenant graphId updated := by
                refine ⟨⟨row, ?_, hgraph ▸ hstored⟩, ?_⟩
                · rw [hsame tenant graphId]
                  exact hrow'
                · rw [hsame tenant graphId]
                  exact hlisted'
              exact ih hafter (hgraph ▸ hrest)

/-- A cancellation always returns, with the settled state it leaves. -/
theorem cancelGraph_settles (h : tables.Stored platform)
    (hholds : tables.Holds tenant graphId state) :
    ∃ ended final, cancelGraph tenant graphId tables = .ok (ended, final) ∧
      GraphsEvolve platform tables final ∧ final.Holds tenant graphId ended ∧ ended.Settled := by
  have hlisted : ∀ pair ∈ state.nodeStates, pair.1 ∈ state.graph.nodes.map GraphNode.nodeId := by
    intro pair hpair
    rw [← state.keys]
    exact List.mem_map_of_mem hpair
  obtain ⟨ended, final, hloop, hended⟩ := cancelNodes_total hholds hlisted
  have hcancel : cancelGraph tenant graphId tables = .ok (ended, final) := by
    unfold cancelGraph
    rw [bind_of_ok hholds.read]
    dsimp only
    rw [bind_of_ok hloop, bind_of_ok hended.read]
    rfl
  refine ⟨ended, final, hcancel, ?_, hended, ?_⟩
  · apply @graphCall_evolves platform tables final (.cancelGraph tenant graphId) (.state ended)
    exact map_ok.mpr ⟨ended, hcancel, rfl⟩
  · intro pair hpair
    cases hcancellable : pair.2.isCancellable with
    | false => rfl
    | true =>
        have hnone : ¬ Cancellable (final.graphView tenant graphId) pair.1 :=
          cancelGraph_ends h.graphs.valid hcancel
        refine absurd ⟨pair.2, ?_, hcancellable⟩ hnone
        rw [hended.listed]
        exact hpair

/-! ### Results -/

/-- The evidence of a node is that of its view. -/
theorem GraphEvidence.unique {key : String × String} {artifact artifact' : GraphArtifactRow}
    {stored stored' : StoredArtifact platform} {report report' : Json}
    (h : GraphEvidence platform tables tenant key artifact stored report)
    (h' : GraphEvidence platform later tenant key artifact' stored' report')
    (hview : later.view key = tables.view key) : stored' = stored ∧ report' = report := by
  have honly : [artifact'] = [artifact] := by
    rw [← h.only, ← h'.only]
    exact congrArg NodeView.artifacts hview
  obtain rfl : artifact' = artifact := List.singleton_injective honly
  obtain ⟨text, htext, hreport⟩ := h.reported
  obtain ⟨text', htext', hreport'⟩ := h'.reported
  refine ⟨Except.ok.inj (h'.read.symm.trans h.read), ?_⟩
  rw [htext, Option.some.injEq] at htext'
  subst htext'
  exact Option.some.inj (hreport'.symm.trans hreport)

/-- Lists with the same keys whose entries are determined by their keys. -/
theorem eq_of_keys {α β : Type} {first second : List (α × β)}
    (hkeys : second.map Prod.fst = first.map Prod.fst)
    (hsame : ∀ entry ∈ first, ∀ other ∈ second, other.1 = entry.1 → other = entry) :
    second = first := by
  induction first generalizing second with
  | nil => exact List.map_eq_nil_iff.mp hkeys
  | cons entry rest ih =>
      cases second with
      | nil => cases hkeys
      | cons other others =>
          obtain ⟨hhead, htail⟩ := List.cons.inj hkeys
          rw [hsame entry (List.mem_cons_self ..) other (List.mem_cons_self ..) hhead,
            ih htail fun entry hentry other hother =>
              hsame entry (List.mem_cons_of_mem _ hentry) other (List.mem_cons_of_mem _ hother)]

/-- The results of a graph, or why there are none. -/
def GraphTables.published (platform : Platform) (tables : GraphTables) (tenant graphId : String) :
    Except PyError (List (GraphResult platform)) :=
  (acceptedGraphResults platform tenant graphId tables).map Prod.fst

/-- What is read of the results changes nothing, and of a settled graph it is always the same. -/
theorem published_frozen (h : tables.Stored platform) (hholds : tables.Holds tenant graphId state)
    (hsettled : state.Settled) (hlater : GraphsEvolve platform tables later) :
    acceptedGraphResults platform tenant graphId later =
      (tables.published platform tenant graphId).map fun results => (results, later) := by
  have hlaterStored := h.evolves hlater
  obtain ⟨hkept, hviews⟩ := hholds.frozen h hsettled hlater
  have hbefore := acceptedGraphResults_outcome h.nodes h.graphs h.artifacts tenant graphId
  have hafter := acceptedGraphResults_outcome hlaterStored.nodes hlaterStored.graphs
    hlaterStored.artifacts tenant graphId
  have hread : ∀ {found}, getGraphState tenant graphId tables = .ok (found, tables) →
      found = some state := fun hget =>
    (Prod.mk.inj (Except.ok.inj (hget.symm.trans hholds.read))).1
  have hread' : ∀ {found}, getGraphState tenant graphId later = .ok (found, later) →
      found = some state := fun hget =>
    (Prod.mk.inj (Except.ok.inj (hget.symm.trans hkept.read))).1
  unfold GraphTables.published
  generalize acceptedGraphResults platform tenant graphId tables = outcome at hbefore ⊢
  generalize acceptedGraphResults platform tenant graphId later = outcome' at hafter ⊢
  cases hbefore with
  | missing hget => cases hread hget
  | unaccepted hget hopen =>
      cases hafter with
      | missing hget' => cases hread' hget'
      | unaccepted hget' hopen' => rfl
      | published hget' hsucceeded _ _ =>
          obtain rfl := Option.some.inj (hread hget)
          obtain rfl := Option.some.inj (hread' hget')
          exact absurd hsucceeded hopen
  | @published found results hget hsucceeded hkeys hevidence =>
      obtain rfl := Option.some.inj (hread hget)
      cases hafter with
      | missing hget' => cases hread' hget'
      | unaccepted hget' hopen' =>
          obtain rfl := Option.some.inj (hread' hget')
          exact absurd hsucceeded hopen'
      | @published found' results' hget' hsucceeded' hkeys' hevidence' =>
          obtain rfl := Option.some.inj (hread' hget')
          have hsame : results' = results := by
            apply eq_of_keys (hkeys'.trans hkeys.symm)
            rintro ⟨nodeId, stored, report⟩ hresult ⟨other, stored', report'⟩ hresult' hid
            obtain rfl : other = nodeId := hid
            obtain ⟨artifact, hfound⟩ := hevidence _ hresult
            obtain ⟨artifact', hfound'⟩ := hevidence' _ hresult'
            have hmem : other ∈ found'.graph.sinks := by
              rw [← hkeys]
              exact List.mem_map_of_mem hresult
            have hstate := hsucceeded.statesOf (mem_sinks.mp hmem).1
            obtain ⟨hstored, hreport⟩ := hfound.unique hfound'
              (hviews other .succeeded hstate (by decide))
            exact congrArg (Prod.mk other) (Prod.ext hstored hreport)
          rw [hsame]
          rfl

end Workflows
end Ryuk

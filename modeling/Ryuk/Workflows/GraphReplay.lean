import Ryuk.Workflows.GraphCodec
import Ryuk.Workflows.GraphHistory
import Ryuk.Workflows.GraphRefinement

/-!
# The graph store refines the histories of its graphs

A view collects what the tables hold about one graph of one tenant: its row, the
states of its nodes and its events.  `GraphStep` lists the ways the view can
change, `GraphValid` says that the stored states are those of a checked graph
state and that the events are a justified history of them.
-/

namespace Ryuk
namespace Workflows

open Foundation Foundation.Json Foundation.Text Foundation.Datetime Foundation.Transaction
open Foundation.Decimal Foundation.History Audit Relation

/-! ### The view of one graph -/

/-- What the tables hold about one graph. -/
structure GraphView where
  row : Option GraphRow
  states : List (String × NodeState)
  events : List (String × NodeState)

/-- `WHERE tenant=? AND graph_id=?` on nodes. -/
def nodeOfGraph (tenant graphId : String) (row : NodeRow) : Bool :=
  decide (row.tenant = tenant) && decide (row.graphId = graphId)

/-- `graph_events`, without the sequence numbers: their order is kept. -/
def GraphTables.graphEvents (tables : GraphTables) (tenant graphId : String) :
    List (String × NodeState) :=
  (tables.events.filter fun event =>
    decide (event.tenant = tenant) && decide (event.graphId = graphId)).map fun event =>
      (event.nodeId, event.state)

/-- The stored states of the nodes of a graph. -/
def GraphTables.nodeStates (tables : GraphTables) (tenant graphId : String) :
    List (String × NodeState) :=
  (tables.nodes.select (nodeOfGraph tenant graphId)).map fun row => (row.nodeId, row.state)

/-- The row of a graph. -/
def GraphTables.graphRow (tables : GraphTables) (tenant graphId : String) : Option GraphRow :=
  tables.graphs.fetchone fun row => decide (row.tenant = tenant) && decide (row.id = graphId)

def GraphTables.graphView (tables : GraphTables) (tenant graphId : String) : GraphView where
  row := tables.graphRow tenant graphId
  states := tables.nodeStates tenant graphId
  events := tables.graphEvents tenant graphId

/-- The row stores a graph. -/
def GraphRow.Stores (row : GraphRow) (graph : WorkflowGraph) : Prop :=
  ∃ value, loadsJson row.graphJson = .ok value ∧ WorkflowGraph.fromDict value = .ok graph

/-- A transition of a graph. -/
inductive GraphStep : GraphView → GraphView → Prop
  | create {view : GraphView} (row : GraphRow) (state : GraphState) (habsent : view.row = none)
      (hstored : row.Stores state.graph) (hinitial : state.graph.initialState = .ok state) :
      GraphStep view
        ⟨some row, view.states ++ state.nodeStates, view.events ++ state.nodeStates⟩
  | move {view : GraphView} {row : GraphRow} {state updated : GraphState} {nodeId : String}
      {target : NodeState} {ordered : List String} (hrow : view.row = some row)
      (hstored : row.Stores state.graph) (hstates : view.states = state.nodeStates)
      (hmove : state.transition nodeId target = .ok updated)
      (hordered : OrderedAs state.graph
        (derivedNodes (statesOf state.nodeStates) updated nodeId) ordered) :
      GraphStep view
        ⟨view.row, updated.nodeStates,
          view.events ++ eventsOf (statesOf updated.nodeStates) (nodeId :: ordered)⟩

/-- No node has a state yet. -/
def States.none : States := fun _ => Option.none

/-- The invariant of a view: the stored states are those of a checked graph state,
and the events are a justified history that replays to them. -/
structure GraphValid (view : GraphView) : Prop where
  absent : view.row = none → view.states = [] ∧ view.events = []
  stored : ∀ row, view.row = some row → ∃ state : GraphState, row.Stores state.graph ∧
    view.states = state.nodeStates ∧
    Justified (EventAllowed state.graph) States.none view.events ∧
    replay States.none view.events = statesOf state.nodeStates

theorem GraphRow.Stores.unique {row : GraphRow} {first second : WorkflowGraph}
    (hfirst : row.Stores first) (hsecond : row.Stores second) : first = second := by
  obtain ⟨value, hvalue, hgraph⟩ := hfirst
  obtain ⟨value', hvalue', hgraph'⟩ := hsecond
  rw [hvalue, Except.ok.injEq] at hvalue'
  rw [← hvalue', hgraph, Except.ok.injEq] at hgraph'
  exact hgraph'

/-- A new graph: one event for each node, which finds no earlier one. -/
theorem created_justified (graph : WorkflowGraph) {cells : States} {nodes : List GraphNode}
    (hnodes : ∀ node ∈ nodes, node ∈ graph.nodes) (hnodup : (nodes.map GraphNode.nodeId).Nodup)
    (habsent : ∀ node ∈ nodes, cells node.nodeId = none) :
    Justified (EventAllowed graph) cells
      (nodes.map fun node => (node.nodeId, node.initialState)) := by
  induction nodes generalizing cells with
  | nil => exact trivial
  | cons node rest ih =>
      rw [List.map_cons, List.nodup_cons] at hnodup
      refine ⟨EventAllowed.created (hnodes node (List.mem_cons_self ..))
        (habsent node (List.mem_cons_self ..)), ?_⟩
      refine ih (fun other hother => hnodes other (List.mem_cons_of_mem _ hother)) hnodup.2 ?_
      intro other hother
      have hne : other.nodeId ≠ node.nodeId := by
        intro heq
        exact hnodup.1 (heq ▸ List.mem_map_of_mem hother)
      rw [assign_other hne]
      exact habsent other (List.mem_cons_of_mem _ hother)

/-- Replaying the states of a graph gives them back. -/
theorem replay_nodeStates {nodeStates : List (String × NodeState)}
    (hnodup : (nodeStates.map Prod.fst).Nodup) :
    replay States.none nodeStates = statesOf nodeStates := by
  funext nodeId
  cases hstate : statesOf nodeStates nodeId with
  | some state => exact replay_of_mem hnodup ((statesOf_iff hnodup).mp hstate) States.none
  | none =>
      apply replay_of_not_mem
      intro hmem
      obtain ⟨⟨key, state⟩, hpair, rfl⟩ := List.mem_map.mp hmem
      rw [(statesOf_iff hnodup).mpr hpair] at hstate
      cases hstate

theorem GraphState.nodup (state : GraphState) : (state.nodeStates.map Prod.fst).Nodup := by
  rw [state.keys]
  exact state.graph.accepted.nodup

/-- **Step lemma.**  Every transition of a graph keeps the invariant. -/
theorem GraphStep.valid {view later : GraphView} (hstep : GraphStep view later)
    (h : GraphValid view) : GraphValid later := by
  cases hstep with
  | create row state habsent hstored hinitial =>
      refine ⟨fun hnone => (Option.some_ne_none _ hnone).elim, fun row' hrow' => ?_⟩
      obtain rfl := Option.some.inj hrow'
      obtain ⟨hstates, hevents⟩ := h.absent habsent
      obtain ⟨-, hnodes⟩ := GraphState.new_ok hinitial
      have hlist : state.nodeStates =
          state.graph.nodes.map fun node => (node.nodeId, node.initialState) := hnodes
      refine ⟨state, hstored, by rw [hstates, List.nil_append], ?_, ?_⟩
      · rw [hevents, List.nil_append, hlist]
        exact created_justified state.graph (fun _ hnode => hnode) state.graph.accepted.nodup
          fun _ _ => rfl
      · rw [hevents, List.nil_append]
        exact replay_nodeStates state.nodup
  | @move row state updated nodeId target ordered hrow hstored hstates hmove hordered =>
      refine ⟨fun hnone => (Option.some_ne_none row (hrow.symm.trans hnone)).elim,
        fun row' hrow' => ?_⟩
      obtain ⟨state', hstored', hstates', hjustified, hreplay⟩ := h.stored row' hrow'
      rw [hrow, Option.some.injEq] at hrow'
      subst hrow'
      obtain ⟨-, -, -, hgraph, -⟩ := transition_ok hmove
      have hsame : state'.graph = state.graph := hstored'.unique hstored
      rw [← hstates', hstates] at hreplay
      obtain ⟨hlater, hfinal⟩ := transition_history hmove hordered
      refine ⟨updated, by rw [hgraph]; exact hstored, rfl, ?_, ?_⟩
      · rw [justified_append, hreplay, hgraph]
        exact ⟨hsame ▸ hjustified, hlater⟩
      · rw [replay_append, hreplay, hfinal]

theorem graph_chain_valid {view later : GraphView} (hchain : ReflTransGen GraphStep view later)
    (h : GraphValid view) : GraphValid later := by
  induction hchain with
  | refl => exact h
  | tail _ hstep ih => exact hstep.valid ih

/-! ### Reading the state of a graph -/

section Reading

variable {tables next final : GraphTables} {tenant graphId nodeId : String}

/-- Every graph of the tables is valid. -/
def AllGraphsValid (tables : GraphTables) : Prop :=
  ∀ tenant graphId, GraphValid (tables.graphView tenant graphId)

theorem graph_empty_valid : AllGraphsValid GraphTables.empty := fun _ _ =>
  ⟨fun _ => ⟨rfl, rfl⟩, fun _ hrow => (Option.some_ne_none _ hrow.symm).elim⟩

/-- The stored states are already in the order of the query. -/
theorem sorted_rows (state : GraphState) {rows : List NodeRow}
    (hstates : rows.map (fun row => (row.nodeId, row.state)) = state.nodeStates) :
    rows.mergeSort (fun left right => decide (left.nodeId ≤ right.nodeId)) = rows := by
  have hids : rows.map NodeRow.nodeId = state.graph.nodes.map GraphNode.nodeId := by
    rw [← state.keys, ← hstates, List.map_map]
    rfl
  have hsorted : isSorted (rows.map NodeRow.nodeId) = true := by
    have hchecked := state.graph.checked
    unfold WorkflowGraph.check at hchecked
    simp only [ensure_bind_ok] at hchecked
    rw [hids]
    exact hchecked.2.2.2.1
  unfold isSorted at hsorted
  rw [decide_eq_true_eq] at hsorted
  have hpairwise : (rows.map NodeRow.nodeId).Pairwise fun left right =>
      decide (left ≤ right) = true := by
    rw [← hsorted]
    apply List.pairwise_mergeSort
    · intro first second third hfirst hsecond
      rw [decide_eq_true_eq] at hfirst hsecond ⊢
      exact hfirst.trans hsecond
    · intro first second
      rw [Bool.or_eq_true, decide_eq_true_eq, decide_eq_true_eq]
      exact le_total first second
  exact List.mergeSort_of_pairwise (List.pairwise_map.mp hpairwise)

/-- **Read lemma.**  The state of a valid graph is read back. -/
theorem getGraphState_valid {row : GraphRow} {state : GraphState}
    (hrow : (tables.graphView tenant graphId).row = some row) (hstored : row.Stores state.graph)
    (hstates : (tables.graphView tenant graphId).states = state.nodeStates) :
    getGraphState tenant graphId tables = .ok (some state, tables) := by
  obtain ⟨value, hvalue, hgraph⟩ := hstored
  have hrows : tables.graphs.fetchone (fun row =>
      decide (row.tenant = tenant) && decide (row.id = graphId)) = some row := hrow
  have hsorted := sorted_rows state hstates
  have hselect : (((tables.nodes.select fun row =>
      decide (row.tenant = tenant) && decide (row.graphId = graphId)).mergeSort
        fun left right => decide (left.nodeId ≤ right.nodeId)).map fun row =>
          (row.nodeId, row.state)) = state.nodeStates := by
    have hnodes : (tables.nodes.select fun row =>
        decide (row.tenant = tenant) && decide (row.graphId = graphId)) =
        tables.nodes.select (nodeOfGraph tenant graphId) := rfl
    rw [hnodes, hsorted]
    exact hstates
  have hnew : GraphState.new state.graph state.nodeStates = .ok state := by
    unfold GraphState.new
    split
    · rfl
    · rename_i error herror
      rw [state.checked] at herror
      cases herror
  unfold getGraphState
  simp only [query_bind_ok, hrows, lift_bind_ok, pure_ok, hselect]
  exact ⟨value, hvalue, state.graph, hgraph, state, by rw [hnew], rfl, trivial⟩

/-- A graph that is read is the valid one. -/
theorem getGraphState_stored (hvalid : AllGraphsValid tables) {state : GraphState}
    (h : getGraphState tenant graphId tables = .ok (some state, next)) :
    ∃ row, (tables.graphView tenant graphId).row = some row ∧ row.Stores state.graph ∧
      (tables.graphView tenant graphId).states = state.nodeStates := by
  cases hrow : (tables.graphView tenant graphId).row with
  | none =>
      have hrows : tables.graphs.fetchone (fun row =>
          decide (row.tenant = tenant) && decide (row.id = graphId)) = none := hrow
      unfold getGraphState at h
      simp only [query_bind_ok, hrows, pure_ok] at h
      exact absurd h.1.symm (Option.some_ne_none _)
  | some row =>
      obtain ⟨state', hstored, hstates, -⟩ := (hvalid tenant graphId).stored row hrow
      rw [getGraphState_valid hrow hstored hstates] at h
      obtain ⟨hsame, -⟩ := Prod.mk.inj (Except.ok.inj h)
      rw [← Option.some.inj hsame]
      exact ⟨row, rfl, hstored, hstates⟩

end Reading

/-! ### Writing the states of a graph -/

section Writing

variable {tables next final : GraphTables} {tenant graphId nodeId : String}

/-- The views of every graph are the same. -/
def SameGraphs (tables final : GraphTables) : Prop :=
  ∀ tenant graphId, final.graphView tenant graphId = tables.graphView tenant graphId

/-- A change that leaves what the views read alone. -/
theorem SameGraphs.of_rows (hgraphs : final.graphs = tables.graphs)
    (hnodes : final.nodes.rows = tables.nodes.rows) (hevents : final.events = tables.events) :
    SameGraphs tables final := by
  intro tenant graphId
  unfold GraphTables.graphView GraphTables.graphRow GraphTables.nodeStates GraphTables.graphEvents
    Table.select
  rw [hgraphs, hnodes, hevents]

/-- An update of other columns of nodes. -/
theorem sameGraphs_setNodes {condition : NodeRow → Bool} {change : NodeRow → NodeRow}
    {hkey : ∀ row, (change row).key = row.key} (htenant : ∀ row, (change row).tenant = row.tenant)
    (hstate : ∀ row, (change row).state = row.state) :
    SameGraphs tables (tables.setNodes condition change hkey) := by
  intro tenant graphId
  have htest : ∀ row, nodeOfGraph tenant graphId (change row) = nodeOfGraph tenant graphId row := by
    intro row
    unfold nodeOfGraph
    rw [htenant, (Prod.mk.inj (hkey row)).1]
  have hselect := @Table.select_update _ _ _ tables.nodes condition change hkey
    (nodeOfGraph tenant graphId) htest
  unfold GraphTables.graphView GraphTables.nodeStates GraphTables.setNodes
  simp only [hselect, List.map_map]
  congr 1
  refine List.map_congr_left fun row _ => ?_
  simp only [Function.comp]
  split_ifs
  · rw [hstate, (Prod.mk.inj (hkey row)).2]
  · rfl

/-- The states after a list of nodes was written. -/
def withStates (after : States) (nodeIds : List String) (states : List (String × NodeState)) :
    List (String × NodeState) :=
  states.map fun pair =>
    if pair.1 ∈ nodeIds then (pair.1, (after pair.1).getD pair.2) else pair

/-- The view after one node was set to a state and the event was written. -/
def GraphView.written (view : GraphView) (nodeId : String) (state : NodeState) : GraphView :=
  { view with
    states := view.states.map fun pair => if pair.1 = nodeId then (nodeId, state) else pair
    events := view.events ++ [(nodeId, state)] }

/-- One update of a state, and its event. -/
theorem graphView_written {condition : NodeRow → Bool} {change : NodeRow → NodeRow}
    {hkey : ∀ row, (change row).key = row.key} {state : NodeState}
    (htenant : ∀ row, (change row).tenant = row.tenant)
    (hstate : ∀ row, (change row).state = state)
    (hcondition : ∀ row, condition row = true → nodeOf tenant graphId nodeId row = true)
    (hone : (tables.nodes.select condition).length = 1) :
    let final := (tables.setNodes condition change hkey).log tenant graphId nodeId state
    final.graphView tenant graphId = (tables.graphView tenant graphId).written nodeId state ∧
      ∀ otherTenant otherGraph, (otherTenant, otherGraph) ≠ (tenant, graphId) →
        final.graphView otherTenant otherGraph = tables.graphView otherTenant otherGraph := by
  intro final
  obtain ⟨row, hselect⟩ := List.length_eq_one_iff.mp hone
  obtain ⟨hmem, hrow⟩ := List.mem_filter.mp (hselect ▸ List.mem_singleton_self row)
  -- a row with this key meets the condition: it is the one row
  have hiff : ∀ other ∈ tables.nodes.rows, condition other = true ↔
      nodeOf tenant graphId nodeId other = true := by
    intro other hother
    refine ⟨hcondition other, fun hnode => ?_⟩
    have hkeys : other.key = row.key := by
      rw [(nodeOf_iff.mp hnode).2, (nodeOf_iff.mp (hcondition row hrow)).2]
    obtain rfl : other = row :=
      List.inj_on_of_nodup_map tables.nodes.unique hother hmem hkeys
    exact hrow
  have htest : ∀ otherTenant otherGraph row,
      nodeOfGraph otherTenant otherGraph (change row) = nodeOfGraph otherTenant otherGraph row := by
    intro otherTenant otherGraph row
    unfold nodeOfGraph
    rw [htenant, (Prod.mk.inj (hkey row)).1]
  have hnodes : ∀ otherTenant otherGraph, final.nodeStates otherTenant otherGraph =
      (tables.nodes.select (nodeOfGraph otherTenant otherGraph)).map fun row =>
        if nodeOf tenant graphId nodeId row = true then (row.nodeId, state)
        else (row.nodeId, row.state) := by
    intro otherTenant otherGraph
    have hupdate := @Table.select_update _ _ _ tables.nodes condition change hkey
      (nodeOfGraph otherTenant otherGraph) (htest otherTenant otherGraph)
    change ((tables.nodes.update condition change hkey).select _).map _ = _
    rw [hupdate, List.map_map]
    refine List.map_congr_left fun row hrow => ?_
    simp only [Function.comp, hiff row (List.mem_filter.mp hrow).1]
    split_ifs
    · rw [hstate, (Prod.mk.inj (hkey row)).2]
    · rfl
  refine ⟨?_, fun otherTenant otherGraph hother => ?_⟩
  · unfold GraphTables.graphView GraphView.written
    congr 1
    · rw [hnodes]
      simp only [GraphTables.nodeStates, List.map_map]
      refine List.map_congr_left fun row hrow => ?_
      have hgraph := (List.mem_filter.mp hrow).2
      unfold nodeOfGraph at hgraph
      simp only [Function.comp, nodeOf, hgraph, Bool.true_and, decide_eq_true_eq]
      split_ifs with hid
      · rw [hid]
      · rfl
    · change (List.filter _ (tables.events ++ [_])).map _ = _
      rw [List.filter_append, List.map_append]
      simp [GraphTables.graphEvents]
  · unfold GraphTables.graphView
    congr 1
    · rw [hnodes]
      refine List.map_congr_left fun row hrow => if_neg fun hnode => hother ?_
      have hgraph := (List.mem_filter.mp hrow).2
      unfold nodeOfGraph at hgraph
      rw [Bool.and_eq_true, decide_eq_true_eq, decide_eq_true_eq] at hgraph
      obtain ⟨htenant', hkey'⟩ := nodeOf_iff.mp hnode
      rw [← hgraph.1, ← hgraph.2, htenant', (Prod.mk.inj hkey').1]
    · change (List.filter _ (tables.events ++ [_])).map _ = _
      have hskip : (decide (tenant = otherTenant) && decide (graphId = otherGraph)) = false := by
        rw [Bool.and_eq_false_iff, decide_eq_false_iff_not, decide_eq_false_iff_not]
        by_contra hnot
        rw [not_or, not_not, not_not] at hnot
        exact hother (by rw [hnot.1, hnot.2])
      rw [List.filter_append, List.filter_singleton, hskip]
      simp [GraphTables.graphEvents]

/-- **Write lemma.**  The listed nodes have their new states, each with its event. -/
theorem writeStates_view {before after : States} {nodeIds : List String}
    (h : writeStates tenant graphId before after nodeIds tables = .ok ((), final)) :
    final.graphView tenant graphId =
      { tables.graphView tenant graphId with
        states := withStates after nodeIds (tables.graphView tenant graphId).states
        events := (tables.graphView tenant graphId).events ++ eventsOf after nodeIds } ∧
      ∀ otherTenant otherGraph, (otherTenant, otherGraph) ≠ (tenant, graphId) →
        final.graphView otherTenant otherGraph = tables.graphView otherTenant otherGraph := by
  induction nodeIds generalizing tables with
  | nil =>
      obtain rfl := (pure_ok.mp h).2
      refine ⟨?_, fun _ _ _ => rfl⟩
      have hsame : ∀ states, withStates after [] states = states := by
        intro states
        unfold withStates
        simp
      rw [hsame]
      simp [eventsOf]
  | cons nodeId rest ih =>
      unfold writeStates updateNodes graphEvent at h
      simp only [lift_bind_ok, bind_assoc, query_bind_ok, write_bind_ok, pure_bind,
        require_bind_ok, decide_eq_true_eq] at h
      obtain ⟨state, hafter, old, -, hone, h⟩ := h
      rw [States.get_ok] at hafter
      obtain ⟨hself, hothers⟩ := @graphView_written tables tenant graphId nodeId
        (fun row => nodeOf tenant graphId nodeId row && decide (row.state = old))
        (fun row => { row with state := state }) (fun _ => rfl) state (fun _ => rfl) (fun _ => rfl)
        (fun row hrow => (Bool.and_eq_true_iff.mp hrow).1) hone
      obtain ⟨hview, hkept⟩ := ih h
      refine ⟨?_, fun otherTenant otherGraph hother => ?_⟩
      · rw [hview, hself]
        unfold GraphView.written withStates
        simp only [GraphView.mk.injEq, List.map_map, true_and]
        refine ⟨List.map_congr_left fun pair _ => ?_, ?_⟩
        · simp only [Function.comp, List.mem_cons]
          by_cases hid : pair.1 = nodeId
          · simp only [hid, if_true, true_or, hafter, Option.getD_some, ite_self]
          · simp only [hid, if_false, false_or]
        · rw [eventsOf_cons hafter, List.append_assoc, List.singleton_append]
      · rw [hkept otherTenant otherGraph hother]
        exact hothers otherTenant otherGraph hother

/-- Writing the moved node and the derived ones gives the new states. -/
theorem withStates_transition {state updated : GraphState} {target : NodeState}
    {ordered : List String} (hmove : state.transition nodeId target = .ok updated)
    (hordered : OrderedAs state.graph
      (derivedNodes (statesOf state.nodeStates) updated nodeId) ordered) :
    withStates (statesOf updated.nodeStates) (nodeId :: ordered) state.nodeStates =
      updated.nodeStates := by
  obtain ⟨own, -, -, hgraph, -⟩ := transition_ok hmove
  have hkeys : (withStates (statesOf updated.nodeStates) (nodeId :: ordered)
      state.nodeStates).map Prod.fst = updated.nodeStates.map Prod.fst := by
    rw [updated.keys, hgraph, ← state.keys]
    unfold withStates
    rw [List.map_map]
    refine List.map_congr_left fun pair _ => ?_
    simp only [Function.comp]
    split_ifs <;> rfl
  refine nodeStates_ext hkeys (hkeys ▸ updated.nodup) fun other => ?_
  have hnodup : ((withStates (statesOf updated.nodeStates) (nodeId :: ordered)
      state.nodeStates).map Prod.fst).Nodup := hkeys ▸ updated.nodup
  cases hother : statesOf updated.nodeStates other with
  | some value =>
      rw [statesOf_iff hnodup]
      unfold withStates
      obtain ⟨old, hold⟩ := (state.statesOf_isSome other).mpr
        (hgraph ▸ (updated.statesOf_isSome other).mp ⟨value, hother⟩)
      refine List.mem_map.mpr ⟨(other, old), state.statesOf_iff.mp hold, ?_⟩
      split_ifs with hlisted
      · simp only [hother, Option.getD_some]
      · rw [List.mem_cons, not_or] at hlisted
        have hkept := kept_of_not_derived hmove hlisted.1 fun hderived =>
          hlisted.2 ((hordered.mem other).mpr hderived)
        rw [hother, hold, Option.some.injEq] at hkept
        rw [hkept]
  | none =>
      by_contra hnone
      obtain ⟨value, hvalue⟩ := Option.ne_none_iff_exists'.mp hnone
      have hmem : other ∈ updated.nodeStates.map Prod.fst := by
        rw [← hkeys]
        exact List.mem_map_of_mem ((statesOf_iff hnodup).mp hvalue)
      rw [updated.keys] at hmem
      obtain ⟨own', hown'⟩ := (updated.statesOf_isSome other).mpr hmem
      rw [hother] at hown'
      cases hown'

end Writing

/-! ### Transitions of a graph -/

section Moves

variable {platform : Platform} {tables next final : GraphTables} {tenant graphId nodeId : String}

/-- What a transition of one node did to its graph, and to no other one. -/
structure GraphMove (tenant graphId nodeId : String) (target : NodeState)
    (tables final : GraphTables) (row : GraphRow) (state updated : GraphState)
    (ordered : List String) : Prop where
  found : (tables.graphView tenant graphId).row = some row
  stored : row.Stores state.graph
  listed : (tables.graphView tenant graphId).states = state.nodeStates
  move : state.transition nodeId target = .ok updated
  order : OrderedAs state.graph
    (derivedNodes (statesOf state.nodeStates) updated nodeId) ordered
  self : final.graphView tenant graphId =
    ⟨some row, updated.nodeStates, (tables.graphView tenant graphId).events ++
      eventsOf (statesOf updated.nodeStates) (nodeId :: ordered)⟩
  others : ∀ otherTenant otherGraph, (otherTenant, otherGraph) ≠ (tenant, graphId) →
    final.graphView otherTenant otherGraph = tables.graphView otherTenant otherGraph

/-- A transition of some node to this target. -/
def MovedTo (tenant graphId nodeId : String) (target : NodeState) (tables final : GraphTables) :
    Prop :=
  ∃ row state updated ordered,
    GraphMove tenant graphId nodeId target tables final row state updated ordered

theorem MovedTo.after {target : NodeState} (hsame : SameGraphs tables next)
    (h : MovedTo tenant graphId nodeId target next final) :
    MovedTo tenant graphId nodeId target tables final := by
  obtain ⟨row, state, updated, ordered, hmove⟩ := h
  refine ⟨row, state, updated, ordered, ?_, hmove.stored, ?_, hmove.move, hmove.order, ?_, ?_⟩
  · rw [← hsame tenant graphId]
    exact hmove.found
  · rw [← hsame tenant graphId]
    exact hmove.listed
  · rw [hmove.self, hsame tenant graphId]
  · intro otherTenant otherGraph hother
    rw [hmove.others otherTenant otherGraph hother, hsame otherTenant otherGraph]

theorem MovedTo.before {target : NodeState} (h : MovedTo tenant graphId nodeId target tables next)
    (hsame : SameGraphs next final) : MovedTo tenant graphId nodeId target tables final := by
  obtain ⟨row, state, updated, ordered, hmove⟩ := h
  refine ⟨row, state, updated, ordered, hmove.found, hmove.stored, hmove.listed, hmove.move,
    hmove.order, ?_, ?_⟩
  · rw [hsame tenant graphId, hmove.self]
  · intro otherTenant otherGraph hother
    rw [hsame otherTenant otherGraph, hmove.others otherTenant otherGraph hother]

/-- Every graph makes a chain of transitions. -/
def GraphQuiet (tables final : GraphTables) : Prop :=
  ∀ tenant graphId,
    ReflTransGen GraphStep (tables.graphView tenant graphId) (final.graphView tenant graphId)

theorem GraphQuiet.refl (tables : GraphTables) : GraphQuiet tables tables :=
  fun _ _ => ReflTransGen.refl

theorem GraphQuiet.trans (hfirst : GraphQuiet tables next) (hsecond : GraphQuiet next final) :
    GraphQuiet tables final := fun tenant graphId =>
  (hfirst tenant graphId).trans (hsecond tenant graphId)

theorem SameGraphs.quiet (h : SameGraphs tables final) : GraphQuiet tables final := by
  intro tenant graphId
  rw [h tenant graphId]

theorem GraphQuiet.valid (h : GraphQuiet tables final) (hvalid : AllGraphsValid tables) :
    AllGraphsValid final := fun tenant graphId =>
  graph_chain_valid (h tenant graphId) (hvalid tenant graphId)

theorem MovedTo.quiet {target : NodeState} (h : MovedTo tenant graphId nodeId target tables final) :
    GraphQuiet tables final := by
  obtain ⟨row, state, updated, ordered, hmove⟩ := h
  intro otherTenant otherGraph
  by_cases hother : (otherTenant, otherGraph) = (tenant, graphId)
  · obtain ⟨rfl, rfl⟩ := Prod.mk.inj hother
    rw [hmove.self, ← hmove.found]
    exact ReflTransGen.single
      (GraphStep.move hmove.found hmove.stored hmove.listed hmove.move hmove.order)
  · rw [hmove.others otherTenant otherGraph hother]

/-- The transition loop in the words of the history. -/
theorem transitionGraphNode_bind {target : NodeState} {updated : GraphState}
    (h : transitionGraphNode tenant graphId nodeId target tables = .ok (updated, final)) :
    ∃ state ordered, getGraphState tenant graphId tables = .ok (some state, tables) ∧
      state.transition nodeId target = .ok updated ∧
      orderDerived updated.graph.nodes
        (derivedNodes (statesOf state.nodeStates) updated nodeId).length
        (derivedNodes (statesOf state.nodeStates) updated nodeId) = .ok ordered ∧
      writeStates tenant graphId (statesOf state.nodeStates) (statesOf updated.nodeStates)
        (((changedNodes (statesOf state.nodeStates) updated).filter fun changed =>
          decide (changed = nodeId)) ++ ordered) tables = .ok ((), final) := by
  unfold transitionGraphNode at h
  obtain ⟨current, hcurrent, h⟩ := getGraphState_bind_ok h
  cases current with
  | none => simp only [fail_ok] at h
  | some current =>
      simp only [lift_bind_ok] at h
      obtain ⟨found, hfound, ordered, hordered, h⟩ := h
      rw [bind_ok] at h
      obtain ⟨_, written, hwrite, h⟩ := h
      obtain ⟨rfl, rfl⟩ := pure_ok.mp h
      refine ⟨current, ordered, hcurrent, ?_, hordered, hwrite⟩
      split at hfound
      · rename_i hok
        rw [hok, ← Except.ok.inj hfound]
      · split_ifs at hfound

/-- **Transition lemma** of the store, for the history. -/
theorem transitionGraphNode_moved (hvalid : AllGraphsValid tables) {target : NodeState}
    {updated : GraphState}
    (h : transitionGraphNode tenant graphId nodeId target tables = .ok (updated, final)) :
    MovedTo tenant graphId nodeId target tables final := by
  obtain ⟨state, ordered, hstate, hmove, horder, hwrite⟩ := transitionGraphNode_bind h
  obtain ⟨row, hrow, hstored, hstates⟩ := getGraphState_stored hvalid hstate
  obtain ⟨ordered', horder', hordered⟩ := derivedNodes_ordered hmove
  obtain rfl : ordered = ordered' := Except.ok.inj (horder.symm.trans horder')
  obtain ⟨own, hown, hallowed, -, htarget, -⟩ := transition_ok hmove
  -- the moved node is among the changed ones
  have hchanged : nodeId ∈ changedNodes (statesOf state.nodeStates) updated := by
    refine mem_changedNodes.mpr ⟨target, htarget, fun hsame => ?_⟩
    rw [hown, Option.some.injEq] at hsame
    exact (allowed_ne_blocked hallowed).2 hsame.symm
  have hfirst := changedNodes_first hchanged
  rw [hfirst, List.singleton_append] at hwrite
  obtain ⟨hself, hothers⟩ := writeStates_view hwrite
  refine ⟨row, state, updated, ordered, hrow, hstored, hstates, hmove, hordered, ?_, hothers⟩
  rw [hself, hstates, withStates_transition hmove hordered, ← hrow]

end Moves

/-! ### The operations -/

section Operations

variable {platform : Platform} {tables next final : GraphTables} {tenant graphId nodeId : String}

/-- A node row of a tenant is listed in the view of its graph. -/
theorem mem_nodeStates {row : NodeRow} (hrow : (tables.view (graphId, nodeId)).row = some row)
    (howned : row.tenant = tenant) :
    (nodeId, row.state) ∈ (tables.graphView tenant graphId).states := by
  have hkey : row.key = (graphId, nodeId) := Table.find_key hrow
  obtain ⟨hgraph, hnode⟩ := Prod.mk.inj hkey
  refine List.mem_map.mpr ⟨row, List.mem_filter.mpr ⟨Table.mem_of_find hrow, ?_⟩, by rw [hnode]⟩
  simp [nodeOfGraph, howned, hgraph]

/-- **Claim lemma.**  A claim is the transition of a ready node to running. -/
theorem claimGraphNode_moved (hvalid : AllGraphsValid tables) {owner : String}
    {leaseSeconds fence : Int} {now : DateTime}
    (h : claimGraphNode tenant graphId nodeId owner leaseSeconds now tables = .ok (fence, final)) :
    MovedTo tenant graphId nodeId .running tables final := by
  obtain ⟨row, current, expiry, hclaim⟩ := claimGraphNode_ok h
  unfold claimGraphNode selectBudget at h
  simp only [require_bind_ok, query_bind_ok, lift_bind_ok] at h
  obtain ⟨-, -, reading, -, h⟩ := h
  cases hbudget : tables.budgets.fetchone (fun row =>
      decide (row.tenant = tenant) && decide (row.graphId = graphId)) with
  | none => simp only [hbudget, fail_ok] at h
  | some budget =>
      unfold selectNode at h
      simp only [hbudget, lift_bind_ok, require_bind_ok, query_bind_ok] at h
      obtain ⟨-, -, -, h⟩ := h
      cases hfound : tables.nodes.fetchone (nodeOf tenant graphId nodeId) with
      | none => simp only [hfound, fail_ok] at h
      | some found =>
          unfold updateNodes graphEvent at h
          simp only [hfound, require_bind_ok, lift_bind_ok, bind_assoc, query_bind_ok,
            write_bind_ok, pure_bind, pure_ok, decide_eq_true_eq] at h
          obtain ⟨-, lease, -, hone, -, rfl⟩ := h
          obtain ⟨hself, hothers⟩ := @graphView_written tables tenant graphId nodeId
            (fun row => nodeOf tenant graphId nodeId row && decide (row.state = .ready) &&
              decide (row.fence = found.fence))
            (fun row => { row with
              state := .running
              fence := found.fence + 1
              owner := some owner
              leaseUntil := some lease.isoformat }) (fun _ => rfl) .running (fun _ => rfl)
            (fun _ => rfl)
            (fun row hrow => (Bool.and_eq_true_iff.mp (Bool.and_eq_true_iff.mp hrow).1).1) hone
          have hmem := mem_nodeStates hclaim.found hclaim.owned
          rw [hclaim.ready] at hmem
          -- the node has a state, so the graph is there
          cases hrow : (tables.graphView tenant graphId).row with
          | none =>
              rw [((hvalid tenant graphId).absent hrow).1] at hmem
              cases hmem
          | some graph =>
              obtain ⟨state, hstored, hstates, -⟩ := (hvalid tenant graphId).stored graph hrow
              rw [hstates] at hmem
              obtain ⟨updated, hmove, hkept, horder⟩ :=
                running_transition (state.statesOf_iff.mpr hmem)
              obtain ⟨-, -, -, -, htarget, -⟩ := transition_ok hmove
              have hwritten := withStates_transition hmove horder
              refine ⟨graph, state, updated, [], hrow, hstored, hstates, hmove, horder, ?_,
                hothers⟩
              rw [hself]
              unfold GraphView.written
              rw [eventsOf_cons htarget, ← hrow, ← hwritten, hstates]
              simp only [GraphView.mk.injEq, true_and]
              refine ⟨List.map_congr_left fun pair _ => ?_, rfl⟩
              simp only [List.mem_singleton]
              split_ifs with hid
              · rw [hid, htarget]
                rfl
              · rfl

/-- Artifacts are no part of the history. -/
theorem sameGraphs_addArtifact {artifact : GraphArtifactRow}
    (h : tables.addArtifact artifact = some next) : SameGraphs tables next := by
  unfold GraphTables.addArtifact at h
  obtain ⟨artifacts, -, rfl⟩ := Option.map_eq_some_iff.mp h
  exact fun _ _ => rfl

theorem sameGraphs_addBudget {row : GraphBudgetRow} (h : tables.addBudget row = some next) :
    SameGraphs tables next := by
  unfold GraphTables.addBudget at h
  obtain ⟨budgets, -, rfl⟩ := Option.map_eq_some_iff.mp h
  exact fun _ _ => rfl

/-- The target of a completion. -/
theorem completeGraphNode_moved (hvalid : AllGraphsValid tables) {owner uuid4 : String}
    {fence : Int} {result : List (String × Json)} {succeeded : Bool} {now : DateTime}
    {ref : ArtifactRef}
    (h : completeGraphNode platform tenant graphId nodeId owner fence result succeeded now uuid4
      tables = .ok (ref, final)) :
    MovedTo tenant graphId nodeId (nodeResultState succeeded) tables final := by
  unfold completeGraphNode at h
  simp only [lift_bind_ok] at h
  obtain ⟨encoded, -, h⟩ := h
  obtain ⟨-, -, -, -, -, -, -, h⟩ := requireGraphLease_bind_ok h
  simp only [attempt_bind_ok] at h
  obtain ⟨next, hadd, h⟩ := h
  rw [bind_ok] at h
  obtain ⟨updated, middle, hmove, h⟩ := h
  unfold updateNodes at h
  simp only [bind_assoc, query_bind_ok, write_bind_ok, pure_bind, pure_ok] at h
  obtain ⟨-, rfl⟩ := h
  have hsame := sameGraphs_addArtifact hadd
  have hmoved := (transitionGraphNode_moved (hsame.quiet.valid hvalid) hmove).after hsame
  exact hmoved.before (sameGraphs_setNodes (fun _ => rfl) fun _ => rfl)

/-- A validation changes nothing, or decides a node that awaits it and has a
result. -/
theorem validateGraphNode_cases {policy : ValidationPolicy} {report : Json}
    (h : validateGraphNode platform tenant graphId nodeId policy tables = .ok (report, final)) :
    final = tables ∨ ∃ row artifactId accepted reportJson updated,
      (tables.view (graphId, nodeId)).row = some row ∧ row.tenant = tenant ∧
      row.state = .awaitingValidation ∧ row.resultArtifactId = some artifactId ∧
      transitionGraphNode tenant graphId nodeId (decidedState accepted)
        (tables.setValidation artifactId (intOfBool accepted) reportJson) = .ok (updated, final) := by
  unfold validateGraphNode at h
  simp only [lift_bind_ok, query_bind_ok] at h
  obtain ⟨snapshot, -, h⟩ := h
  cases hfound : (tables.nodes.fetchone (nodeOf tenant graphId nodeId)).bind
      fun node => (tables.resultOf node).map fun artifact => (node.state, artifact) with
  | none => simp only [hfound, fail_ok] at h
  | some found =>
      obtain ⟨state, artifact⟩ := found
      obtain ⟨row, hfetch, hresult⟩ := Option.bind_eq_some_iff.mp hfound
      obtain ⟨artifact', hartifact, hpair⟩ := Option.map_eq_some_iff.mp hresult
      obtain ⟨rfl, rfl⟩ := Prod.mk.inj hpair
      obtain ⟨hrow, howned⟩ := fetchone_node hfetch
      simp only [hfound, lift_bind_ok] at h
      obtain ⟨stored, -, h⟩ := h
      cases hreport : artifact'.validationJson with
      | some text =>
          simp only [hreport, lift_bind_ok, require_bind_ok, pure_ok] at h
          obtain ⟨-, -, -, -, -, -, rfl⟩ := h
          exact Or.inl rfl
      | none =>
          simp only [hreport, require_bind_ok, lift_bind_ok, write_bind_ok, decide_eq_true_eq] at h
          obtain ⟨hstate, report', -, decision, -, reportJson, -, h⟩ := h
          rw [bind_ok] at h
          obtain ⟨updated, middle, hmove, h⟩ := h
          obtain ⟨-, rfl⟩ := pure_ok.mp h
          have hnamed : row.resultArtifactId = some artifact'.id := by
            unfold GraphTables.resultOf at hartifact
            obtain ⟨artifactId, hnamed, hfind⟩ := Option.bind_eq_some_iff.mp hartifact
            rw [hnamed, Table.find_key hfind]
          refine Or.inr ⟨row, artifact'.id, decide (decision = .str "accepted"), reportJson, updated,
            hrow, howned, hstate, hnamed, ?_⟩
          simpa only [decidedState, decide_eq_true_eq] using hmove

theorem validateGraphNode_moved (hvalid : AllGraphsValid tables) {policy : ValidationPolicy}
    {report : Json}
    (h : validateGraphNode platform tenant graphId nodeId policy tables = .ok (report, final)) :
    final = tables ∨ ∃ row accepted, (tables.view (graphId, nodeId)).row = some row ∧
      row.tenant = tenant ∧ row.state = .awaitingValidation ∧ row.resultArtifactId.isSome = true ∧
      MovedTo tenant graphId nodeId (decidedState accepted) tables final := by
  rcases validateGraphNode_cases h with hsame | ⟨row, artifactId, accepted, reportJson, updated,
    hrow, howned, hstate, hnamed, hmove⟩
  · exact Or.inl hsame
  · have hsame : SameGraphs tables
        (tables.setValidation artifactId (intOfBool accepted) reportJson) := fun _ _ => rfl
    refine Or.inr ⟨row, accepted, hrow, howned, hstate, by rw [hnamed]; rfl, ?_⟩
    exact (transitionGraphNode_moved (hsame.quiet.valid hvalid) hmove).after hsame

/-- A transition and the fence that follows it. -/
theorem fencedTransition_moved (hvalid : AllGraphsValid tables) {target : NodeState} {α : Type}
    {rest : GraphTx α} {result : α}
    (h : ((do
      let _ ← transitionGraphNode tenant graphId nodeId target
      fenceNode tenant graphId nodeId
      rest) : GraphTx α) tables = .ok (result, final)) :
    ∃ next, MovedTo tenant graphId nodeId target tables next ∧ rest next = .ok (result, final) := by
  rw [bind_ok] at h
  obtain ⟨updated, middle, hmove, h⟩ := h
  unfold fenceNode updateNodes at h
  simp only [bind_assoc, query_bind_ok, write_bind_ok, pure_bind] at h
  refine ⟨_, (transitionGraphNode_moved hvalid hmove).before ?_, h⟩
  exact sameGraphs_setNodes (fun _ => rfl) fun _ => rfl

/-- Transitions to one target, one after another. -/
def MovesTo (target : NodeState) : GraphTables → GraphTables → Prop :=
  ReflTransGen fun tables final => AllGraphsValid tables ∧ ∃ tenant graphId nodeId,
    MovedTo tenant graphId nodeId target tables final

theorem MovesTo.quiet {target : NodeState} (h : MovesTo target tables final) :
    GraphQuiet tables final := by
  induction h with
  | refl => exact GraphQuiet.refl tables
  | tail _ hstep ih =>
      obtain ⟨-, tenant, graphId, nodeId, hmoved⟩ := hstep
      exact ih.trans hmoved.quiet

/-- **Cancellation loop.**  It makes transitions to `cancelled`. -/
theorem cancelNodes_moves (hvalid : AllGraphsValid tables)
    {nodeStates : List (String × NodeState)}
    (h : cancelNodes tenant graphId nodeStates tables = .ok ((), final)) :
    MovesTo .cancelled tables final := by
  induction nodeStates generalizing tables with
  | nil =>
      obtain rfl := (pure_ok.mp h).2
      exact ReflTransGen.refl
  | cons pair rest ih =>
      obtain ⟨nodeId, listed⟩ := pair
      unfold cancelNodes at h
      split_ifs at h with hlisted
      · obtain ⟨state, -, h⟩ := getGraphState_bind_ok h
        cases state with
        | none => simp only [fail_ok] at h
        | some state =>
            simp only [lift_bind_ok] at h
            obtain ⟨current, -, h⟩ := h
            split_ifs at h with hactive
            · obtain ⟨next, hmoved, h⟩ := fencedTransition_moved hvalid h
              exact ReflTransGen.head ⟨hvalid, tenant, graphId, nodeId, hmoved⟩
                (ih (hmoved.quiet.valid hvalid) h)
            · exact ih hvalid h
      · exact ih hvalid h

theorem cancelGraph_moves (hvalid : AllGraphsValid tables) {answer : GraphState}
    (h : cancelGraph tenant graphId tables = .ok (answer, final)) :
    MovesTo .cancelled tables final := by
  unfold cancelGraph at h
  obtain ⟨state, -, h⟩ := getGraphState_bind_ok h
  cases state with
  | none => simp only [fail_ok] at h
  | some state =>
      simp only at h
      rw [bind_ok] at h
      obtain ⟨_, cancelled, hcancel, h⟩ := h
      obtain ⟨last, -, h⟩ := getGraphState_bind_ok h
      cases last with
      | none => simp only [fail_ok] at h
      | some last =>
          obtain ⟨-, rfl⟩ := pure_ok.mp h
          exact cancelNodes_moves hvalid hcancel

/-- **Recovery loop.**  It makes transitions to `uncertain`. -/
theorem recoverNodes_moves (hvalid : AllGraphsValid tables) {rows : List NodeRow}
    (h : recoverNodes rows tables = .ok ((), final)) : MovesTo .uncertain tables final := by
  induction rows generalizing tables with
  | nil =>
      obtain rfl := (pure_ok.mp h).2
      exact ReflTransGen.refl
  | cons row rest ih =>
      unfold recoverNodes at h
      obtain ⟨next, hmoved, h⟩ := fencedTransition_moved hvalid h
      exact ReflTransGen.head ⟨hvalid, row.tenant, row.graphId, row.nodeId, hmoved⟩
        (ih (hmoved.quiet.valid hvalid) h)

theorem recoverGraphNodesStartup_moves (hvalid : AllGraphsValid tables) {limit : Int}
    {now : DateTime} {names : List NodeName}
    (h : recoverGraphNodesStartup limit now tables = .ok (names, final)) :
    MovesTo .uncertain tables final := by
  unfold recoverGraphNodesStartup at h
  simp only [require_bind_ok, lift_bind_ok, query_bind_ok] at h
  obtain ⟨-, current, -, -, h⟩ := h
  rw [bind_ok] at h
  obtain ⟨_, recovered, hrecover, h⟩ := h
  obtain ⟨-, rfl⟩ := pure_ok.mp h
  exact recoverNodes_moves hvalid hrecover

theorem bindGraphBudget_same {budget : GraphBudget} {now : DateTime} {answer : GraphBudgetRow}
    (h : bindGraphBudget tenant graphId budget now tables = .ok (answer, final)) :
    SameGraphs tables final := by
  unfold bindGraphBudget at h
  simp only [lift_bind_ok] at h
  obtain ⟨-, -, deadline, -, h⟩ := h
  obtain ⟨state, -, h⟩ := getGraphState_bind_ok h
  unfold selectBudget at h
  simp only [require_bind_ok, query_bind_ok] at h
  obtain ⟨-, h⟩ := h
  cases hexisting : tables.budgets.fetchone (fun row =>
      decide (row.tenant = tenant) && decide (row.graphId = graphId)) with
  | some row =>
      simp only [hexisting, require_bind_ok, pure_ok] at h
      obtain ⟨-, -, rfl⟩ := h
      exact fun _ _ => rfl
  | none =>
      simp only [hexisting, insertBudgetRow_bind_ok, pure_ok] at h
      obtain ⟨-, next, hadd, -, rfl⟩ := h
      exact sameGraphs_addBudget hadd

end Operations

/-! ### Creation -/

section Creation

variable {platform : Platform} {tables next final : GraphTables} {tenant graphId nodeId : String}

/-- The graph row a tenant finds under an id. -/
theorem graphRow_eq (tables : GraphTables) (tenant graphId : String) :
    tables.graphRow tenant graphId =
      (tables.graphs.find graphId).filter fun row =>
        decide (row.tenant = tenant) && decide (row.id = graphId) := by
  apply Table.fetchone_of_key
  intro row hrow
  rw [Bool.and_eq_true, decide_eq_true_eq, decide_eq_true_eq] at hrow
  exact hrow.2

/-- A new graph row is found by its tenant, and nothing else changes. -/
theorem graphView_addGraph {row : GraphRow} (h : tables.addGraph row = some next) :
    (tables.graphView row.tenant row.id).row = none ∧
      next.graphView row.tenant row.id =
        { tables.graphView row.tenant row.id with row := some row } ∧
      ∀ tenant graphId, (tenant, graphId) ≠ (row.tenant, row.id) →
        next.graphView tenant graphId = tables.graphView tenant graphId := by
  unfold GraphTables.addGraph at h
  obtain ⟨graphs, hinsert, rfl⟩ := Option.map_eq_some_iff.mp h
  have hfresh : tables.graphs.find row.id = none := Table.insert_fresh hinsert
  have hfind : ∀ id, graphs.find id = if row.id = id then some row else tables.graphs.find id :=
    Table.find_insert hinsert
  refine ⟨?_, ?_, fun tenant graphId hother => ?_⟩
  · change tables.graphRow row.tenant row.id = none
    rw [graphRow_eq, hfresh]
    rfl
  · unfold GraphTables.graphView
    congr 1
    rw [graphRow_eq]
    simp [hfind, Option.filter]
  · unfold GraphTables.graphView
    congr 1
    rw [graphRow_eq, graphRow_eq]
    simp only [hfind]
    split_ifs with hid
    · subst hid
      have htenant : row.tenant ≠ tenant := fun hsame => hother (by rw [hsame])
      rw [hfresh]
      simp [Option.filter, htenant]
    · rfl

/-- The nodes of a new graph, each with its event. -/
theorem insertNodes_view {nodeStates : List (String × NodeState)}
    (h : insertNodes tenant graphId nodeStates tables = .ok ((), final)) :
    final.graphView tenant graphId =
        { tables.graphView tenant graphId with
          states := (tables.graphView tenant graphId).states ++ nodeStates
          events := (tables.graphView tenant graphId).events ++ nodeStates } ∧
      ∀ otherTenant otherGraph, (otherTenant, otherGraph) ≠ (tenant, graphId) →
        final.graphView otherTenant otherGraph = tables.graphView otherTenant otherGraph := by
  induction nodeStates generalizing tables with
  | nil =>
      obtain rfl := (pure_ok.mp h).2
      refine ⟨?_, fun _ _ _ => rfl⟩
      rw [List.append_nil, List.append_nil]
  | cons pair rest ih =>
      obtain ⟨nodeId, state⟩ := pair
      unfold insertNodes graphEvent at h
      simp only [attempt_bind_ok, write_bind_ok] at h
      obtain ⟨added, hadd, h⟩ := h
      unfold GraphTables.addNode at hadd
      obtain ⟨nodes, hinsert, rfl⟩ := Option.map_eq_some_iff.mp hadd
      obtain ⟨hself, hothers⟩ := ih h
      have hselect := Table.select_insert hinsert
      refine ⟨?_, fun otherTenant otherGraph hother => ?_⟩
      · rw [hself]
        unfold GraphTables.graphView GraphTables.nodeStates GraphTables.graphEvents
          GraphTables.graphRow GraphTables.log
        simp [hselect, nodeOfGraph]
      · rw [hothers otherTenant otherGraph hother]
        have hskip : (decide (tenant = otherTenant) && decide (graphId = otherGraph)) = false := by
          rw [Bool.and_eq_false_iff, decide_eq_false_iff_not, decide_eq_false_iff_not]
          by_contra hnot
          rw [not_or, not_not, not_not] at hnot
          exact hother (by rw [hnot.1, hnot.2])
        unfold GraphTables.graphView GraphTables.nodeStates GraphTables.graphEvents
          GraphTables.graphRow GraphTables.log
        simp [hselect, nodeOfGraph, hskip]

/-- **Creation lemma.**  A creation returns an existing graph, or stores one that is
read back, in its initial state and with one event for each node. -/
theorem createGraph_quiet {idempotencyKey uuid4 answer : String} {graph : WorkflowGraph}
    {budget : Option GraphBudget} {binding : Option (List (String × Json))} {now : DateTime}
    (h : createGraph platform tenant idempotencyKey graph budget binding now uuid4 tables =
      .ok (answer, final)) : GraphQuiet tables final := by
  unfold createGraph at h
  simp only [require_bind_ok, lift_bind_ok, query_bind_ok] at h
  obtain ⟨-, -, dict, hdict, validated, hvalidated, value, hvalue, encoded, hencoded, bound, -,
    hashed, -, initial, hinitial, h⟩ := h
  cases hexisting : tables.graphs.fetchone (fun row =>
      decide (row.tenant = tenant) && decide (row.idempotencyKey = idempotencyKey)) with
  | some row =>
      simp only [hexisting, require_bind_ok, pure_ok] at h
      obtain ⟨-, -, rfl⟩ := h
      exact GraphQuiet.refl _
  | none =>
      simp only [hexisting, attempt_bind_ok] at h
      obtain ⟨added, hadd, h⟩ := h
      rw [bind_ok] at h
      obtain ⟨_, inserted, hinsert, h⟩ := h
      rw [bind_ok] at h
      obtain ⟨_, budgeted, hbudget, h⟩ := h
      obtain ⟨-, rfl⟩ := pure_ok.mp h
      have hsame : SameGraphs inserted budgeted := by
        cases budget with
        | none =>
            obtain rfl := (pure_ok.mp hbudget).2
            exact fun _ _ => rfl
        | some budget =>
            unfold insertBudget at hbudget
            simp only [lift_bind_ok, insertBudgetRow_ok] at hbudget
            obtain ⟨deadline, -, -, hbudget⟩ := hbudget
            exact sameGraphs_addBudget hbudget
      obtain ⟨habsent, hself, hothers⟩ := graphView_addGraph hadd
      obtain ⟨hself', hothers'⟩ := insertNodes_view hinsert
      obtain ⟨hgraph, -⟩ := GraphState.new_ok hinitial
      intro otherTenant otherGraph
      rw [hsame otherTenant otherGraph]
      by_cases hother : (otherTenant, otherGraph) = (tenant, uuid4)
      · obtain ⟨rfl, rfl⟩ := Prod.mk.inj hother
        rw [hself', hself]
        refine ReflTransGen.single (GraphStep.create _ initial habsent ?_ ?_)
        · rw [hgraph]
          exact WorkflowGraph.fromDict_stored
            (WorkflowGraph.stable_of_fromDict hdict hvalidated) hvalue hencoded
        · rw [hgraph]
          exact hinitial
      · rw [hothers' otherTenant otherGraph hother, hothers otherTenant otherGraph hother]

end Creation

end Workflows
end Ryuk

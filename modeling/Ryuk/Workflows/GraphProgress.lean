import Ryuk.Workflows.GraphCancellation
import Ryuk.Workflows.Progress

/-!
# What the graph store does not refuse

A graph of storable packets is created under a fresh key, and a transition that
the state of a graph allows is made by the store.
-/

namespace Ryuk
namespace Workflows

open Foundation Foundation.Json Foundation.Text Foundation.Datetime Foundation.Transaction

section Transitions

variable {tables next final : GraphTables} {tenant graphId nodeId : String}

/-- **Write loop.**  Distinct nodes that have the states that were read are
written. -/
theorem writeStates_total {before after : States} {nodeIds : List String}
    (hnodup : nodeIds.Nodup)
    (hnodes : ∀ nodeId ∈ nodeIds, ∃ row state, (tables.view (graphId, nodeId)).row = some row ∧
      row.tenant = tenant ∧ before nodeId = some row.state ∧ after nodeId = some state) :
    ∃ final, writeStates tenant graphId before after nodeIds tables = .ok ((), final) := by
  induction nodeIds generalizing tables with
  | nil => exact ⟨tables, rfl⟩
  | cons nodeId rest ih =>
      obtain ⟨row, state, hrow, howned, hbefore, hafter⟩ := hnodes nodeId (List.mem_cons_self ..)
      have hfixed : ∀ other : NodeRow,
          (nodeOf tenant graphId nodeId other && decide (other.state = row.state)) = true →
            other.key = (graphId, nodeId) := by
        intro other hother
        rw [Bool.and_eq_true, nodeOf_iff] at hother
        exact hother.1.2
      have hone : (tables.nodes.select fun other =>
          nodeOf tenant graphId nodeId other && decide (other.state = row.state)).length = 1 := by
        refine Table.select_length_eq_one hfixed hrow ?_
        rw [Bool.and_eq_true, nodeOf_iff, decide_eq_true_eq]
        exact ⟨⟨howned, Table.find_key hrow⟩, rfl⟩
      obtain ⟨-, hothers⟩ := @writeState_ok tables tenant graphId nodeId row.state state hone
      -- the nodes that come later were not touched
      obtain ⟨final, hfinal⟩ := ih (List.nodup_cons.mp hnodup).2 fun other hother => by
        have hne : (graphId, other) ≠ (graphId, nodeId) := by
          intro hsame
          exact (List.nodup_cons.mp hnodup).1 ((Prod.mk.inj hsame).2 ▸ hother)
        rw [hothers _ hne]
        exact hnodes other (List.mem_cons_of_mem _ hother)
      refine ⟨final, ?_⟩
      unfold writeStates updateNodes graphEvent
      simp only [lift_bind_ok, bind_assoc, query_bind_ok, write_bind_ok, pure_bind,
        require_bind_ok, decide_eq_true_eq]
      exact ⟨state, States.get_ok.mpr hafter, row.state, States.get_ok.mpr hbefore, hone, hfinal⟩

/-- **Transition.**  The store makes every transition that the stored state
allows. -/
theorem transitionGraphNode_total {row : GraphRow} {state updated : GraphState}
    {target : NodeState} (hrow : (tables.graphView tenant graphId).row = some row)
    (hstored : row.Stores state.graph)
    (hlisted : (tables.graphView tenant graphId).states = state.nodeStates)
    (hmove : state.transition nodeId target = .ok updated) :
    ∃ final, transitionGraphNode tenant graphId nodeId target tables = .ok (updated, final) ∧
      (final.graphView tenant graphId).row = some row ∧
      (final.graphView tenant graphId).states = updated.nodeStates := by
  have hstate := getGraphState_valid hrow hstored hlisted
  obtain ⟨ordered, horder, hordered⟩ := derivedNodes_ordered hmove
  obtain ⟨own, hown, hallowed, -, htarget, -⟩ := transition_ok hmove
  have hchanged : nodeId ∈ changedNodes (statesOf state.nodeStates) updated := by
    refine mem_changedNodes.mpr ⟨target, htarget, fun hsame => ?_⟩
    rw [hown, Option.some.injEq] at hsame
    exact (allowed_ne_blocked hallowed).2 hsame.symm
  have hderived : ∀ other ∈ ordered, other ≠ nodeId ∧
      other ∈ changedNodes (statesOf state.nodeStates) updated := by
    intro other hother
    have hmem := List.mem_filter.mp ((hordered.mem other).mp hother)
    exact ⟨of_decide_eq_true hmem.2, hmem.1⟩
  have hnodup : (nodeId :: ordered).Nodup :=
    List.nodup_cons.mpr ⟨fun hmem => (hderived nodeId hmem).1 rfl, hordered.nodup⟩
  obtain ⟨final, hwrite⟩ : ∃ final, writeStates tenant graphId (statesOf state.nodeStates)
      (statesOf updated.nodeStates) (nodeId :: ordered) tables = .ok ((), final) := by
    refine writeStates_total hnodup fun other hother => ?_
    have hmem : other ∈ changedNodes (statesOf state.nodeStates) updated := by
      rcases List.mem_cons.mp hother with rfl | hlater
      · exact hchanged
      · exact (hderived other hlater).2
    obtain ⟨after, hafter, -⟩ := mem_changedNodes.mp hmem
    have hgraph : updated.graph = state.graph := (transition_ok hmove).choose_spec.2.2.1
    obtain ⟨before, hbefore⟩ : ∃ before, statesOf state.nodeStates other = some before := by
      rw [state.statesOf_isSome, ← hgraph]
      exact (updated.statesOf_isSome other).mp ⟨after, hafter⟩
    obtain ⟨found, hfound, howned, rfl⟩ : ∃ found, (tables.view (graphId, other)).row = some found ∧
        found.tenant = tenant ∧ found.state = before := by
      apply row_of_listed
      rw [hlisted]
      exact state.statesOf_iff.mp hbefore
    exact ⟨found, after, hfound, howned, hbefore, hafter⟩
  obtain ⟨hself, -⟩ := writeStates_view hwrite
  refine ⟨final, ?_, ?_, ?_⟩
  · unfold transitionGraphNode
    rw [bind_ok]
    refine ⟨some state, tables, hstate, ?_⟩
    have hfirst := changedNodes_first hchanged
    simp only [lift_bind_ok]
    refine ⟨updated, by rw [hmove], ordered, horder, ?_⟩
    rw [bind_ok]
    refine ⟨(), final, ?_, rfl⟩
    unfold changedNodes at hfirst
    rw [hfirst]
    exact hwrite
  · rw [hself, hrow]
  · rw [hself]
    show withStates (statesOf updated.nodeStates) (nodeId :: ordered)
      (tables.graphView tenant graphId).states = updated.nodeStates
    rw [hlisted]
    exact withStates_transition hmove hordered

/-- A cancellation with nothing to end changes nothing. -/
theorem cancelNodes_none {nodeStates : List (String × NodeState)}
    (h : ∀ pair ∈ nodeStates, pair.2.isCancellable = false) :
    cancelNodes tenant graphId nodeStates tables = .ok ((), tables) := by
  induction nodeStates with
  | nil => rfl
  | cons pair rest ih =>
      obtain ⟨nodeId, listed⟩ := pair
      have hlisted : listed.isCancellable = false := h _ (List.mem_cons_self ..)
      unfold cancelNodes
      rw [hlisted]
      exact ih fun other hother => h other (List.mem_cons_of_mem _ hother)

theorem cancelGraph_none {row : GraphRow} {state : GraphState}
    (hrow : (tables.graphView tenant graphId).row = some row) (hstored : row.Stores state.graph)
    (hlisted : (tables.graphView tenant graphId).states = state.nodeStates)
    (h : ∀ pair ∈ state.nodeStates, pair.2.isCancellable = false) :
    cancelGraph tenant graphId tables = .ok (state, tables) := by
  have hstate := getGraphState_valid hrow hstored hlisted
  unfold cancelGraph
  rw [bind_ok]
  refine ⟨some state, tables, hstate, ?_⟩
  simp only
  rw [bind_ok]
  refine ⟨(), tables, cancelNodes_none h, ?_⟩
  rw [bind_ok]
  exact ⟨some state, tables, hstate, rfl⟩

end Transitions

/-! ### Creation -/

section Creation

variable {platform : Platform} {tables final : GraphTables} {tenant graphId : String}
  {graph : WorkflowGraph}

/-- The dictionary of a graph of storable packets has a text. -/
theorem WorkflowGraph.toDict_total (hpackets : ∀ node ∈ graph.nodes, node.packet.Storable) :
    ∃ dict, graph.toDict = .ok dict ∧ printable dict = true := by
  obtain ⟨items, hitems, hprintable⟩ : ∃ items, graph.nodes.mapM GraphNode.toDict = .ok items ∧
      printableItems items = true := by
    generalize graph.nodes = nodes at hpackets
    induction nodes with
    | nil => exact ⟨[], rfl, rfl⟩
    | cons node rest ih =>
        obtain ⟨items, hitems, hprintable⟩ := ih fun other hother =>
          hpackets other (List.mem_cons_of_mem _ hother)
        obtain ⟨value, hvalue⟩ := (hpackets node (List.mem_cons_self ..)).written
        have hnode : node.toDict = .ok (.obj [("node_id", .str node.nodeId),
            ("depends_on", .arr (node.dependsOn.map Json.str)), ("packet", value)]) := by
          unfold GraphNode.toDict
          rw [hvalue]
          rfl
        have htexts : ∀ texts : List String, printableItems (texts.map Json.str) = true := by
          intro texts
          induction texts with
          | nil => rfl
          | cons text rest ih => exact ih
        refine ⟨.obj [("node_id", .str node.nodeId),
          ("depends_on", .arr (node.dependsOn.map Json.str)), ("packet", value)] :: items, ?_, ?_⟩
        · rw [List.mapM_cons, hnode, hitems]
          rfl
        · simp only [printableItems, printable, printableFields, htexts, hprintable,
            TaskPacket.toDict_printable hvalue, Bool.and_self]
  have hversion : printable (.int graph.schemaVersion) = true := by
    have hchecked := graph.checked
    unfold WorkflowGraph.check at hchecked
    rw [ensure_bind_ok, decide_eq_true_eq] at hchecked
    rw [hchecked.1]
    rfl
  refine ⟨.obj [("schema_version", .int graph.schemaVersion), ("nodes", .arr items)], ?_, ?_⟩
  · unfold WorkflowGraph.toDict
    rw [hitems]
    rfl
  · simp only [printable, printableFields, hprintable, Bool.and_self, Bool.and_true]
    exact hversion

/-- The stable nodes of a graph of storable packets. -/
theorem WorkflowGraph.stable_of_storable (hpackets : ∀ node ∈ graph.nodes, node.packet.Storable) :
    ∀ node ∈ graph.nodes, node.Stable :=
  fun node hnode _ hvalue => TaskPacket.fromDict_toDict (hpackets node hnode).utc hvalue

/-- A stable node is read back from its dictionary. -/
theorem GraphNode.decode_toDict {node : GraphNode} {item : Json} (hstable : node.Stable)
    (h : node.toDict = .ok item) : GraphNode.decode item = .ok node := by
  unfold GraphNode.toDict at h
  rw [except_bind_ok] at h
  obtain ⟨value, hvalue, h⟩ := h
  obtain rfl := Except.ok.inj h
  unfold GraphNode.decode
  simp only [except_bind_ok]
  exact ⟨.str node.nodeId, rfl, .arr (node.dependsOn.map Json.str), rfl, _, rfl, value, rfl,
    node.packet, hstable value hvalue, node.nodeId, rfl, node.dependsOn,
    asId_all _ node.dependsOn, node.new_self⟩

/-- A graph with stable nodes is read back from its dictionary. -/
theorem WorkflowGraph.fromDict_toDict {dict : Json} (hstable : ∀ node ∈ graph.nodes, node.Stable)
    (hdict : graph.toDict = .ok dict) (hprintable : printable dict = true) :
    WorkflowGraph.fromDict dict = .ok graph := by
  obtain ⟨encoded, hencoded⟩ := canonicalJson_printable hprintable
  have hvalue := hdict
  unfold WorkflowGraph.toDict at hdict
  rw [except_bind_ok] at hdict
  obtain ⟨items, hitems, hdict⟩ := hdict
  obtain rfl := Except.ok.inj hdict
  have hnodes : items.mapM GraphNode.decode = .ok graph.nodes := by
    rw [mapM_eq_ok] at hitems ⊢
    clear hvalue hencoded hprintable hdict
    generalize graph.nodes = nodes at hitems hstable ⊢
    induction hitems with
    | nil => exact List.Forall₂.nil
    | @cons node item nodes items hnode hrest ih =>
        exact List.Forall₂.cons (GraphNode.decode_toDict (hstable node (List.mem_cons_self ..)) hnode)
          (ih fun other hother => hstable other (List.mem_cons_of_mem _ hother))
  have hdecode : WorkflowGraph.decode
      (.obj [("schema_version", .int graph.schemaVersion), ("nodes", .arr items)]) = .ok graph := by
    unfold WorkflowGraph.decode
    simp only [except_bind_ok]
    refine ⟨(), rfl, .arr items, rfl, items, rfl, graph.nodes, hnodes, .int graph.schemaVersion, rfl,
      ?_⟩
    simp only [except_bind_ok]
    refine ⟨graph, graph.new_self, _, hvalue, encoded, hencoded, encoded, hencoded, (), ?_, rfl⟩
    rw [ensure_ok, decide_eq_true_eq]
  unfold WorkflowGraph.fromDict
  rw [hdecode]

/-- Fresh nodes are inserted one after another. -/
theorem insertNodes_total {nodeStates : List (String × NodeState)}
    (hnodup : (nodeStates.map Prod.fst).Nodup)
    (hfresh : ∀ nodeId ∈ nodeStates.map Prod.fst, tables.nodes.find (graphId, nodeId) = none) :
    ∃ final, insertNodes tenant graphId nodeStates tables = .ok ((), final) := by
  induction nodeStates generalizing tables with
  | nil => exact ⟨tables, rfl⟩
  | cons pair rest ih =>
      obtain ⟨nodeId, state⟩ := pair
      rw [List.map_cons, List.nodup_cons] at hnodup
      obtain ⟨nodes, hinsert⟩ : ∃ nodes, tables.nodes.insert
          ⟨graphId, nodeId, tenant, state, 0, none, none, none⟩ = some nodes :=
        Table.insert_of_fresh (hfresh nodeId (List.mem_cons_self ..))
      obtain ⟨final, hfinal⟩ := @ih (({ tables with nodes } : GraphTables).log tenant graphId nodeId
          state) hnodup.2 fun other hother => by
        show nodes.find (graphId, other) = none
        rw [Table.find_insert hinsert, if_neg]
        · exact hfresh other (List.mem_cons_of_mem _ hother)
        · intro hsame
          have hname : nodeId = other := (Prod.mk.inj hsame).2
          exact hnodup.1 (hname ▸ hother)
      refine ⟨final, ?_⟩
      unfold insertNodes graphEvent
      simp only [attempt_bind_ok, write_bind_ok]
      refine ⟨{ tables with nodes }, ?_, hfinal⟩
      unfold GraphTables.addNode
      rw [hinsert]
      rfl

/-- **Creation.**  A graph of storable packets under a fresh key and a fresh id is
stored in its initial state. -/
theorem createGraph_fresh {key uuid4 : String} {initial : GraphState} {now : DateTime}
    (hsound : GraphsSound tables) (htenant : isCanonicalId tenant = true)
    (hkey : isCanonicalId key = true)
    (hpackets : ∀ node ∈ graph.nodes, node.packet.Storable)
    (hinitial : graph.initialState = .ok initial)
    (hnew : ∀ row ∈ tables.graphs.rows, ¬ (row.tenant = tenant ∧ row.idempotencyKey = key))
    (hid : tables.graphs.find uuid4 = none) :
    ∃ row final, createGraph platform tenant key graph none none now uuid4 tables =
        .ok (uuid4, final) ∧ (final.graphView tenant uuid4).row = some row ∧ row.Stores graph ∧
      (final.graphView tenant uuid4).states = initial.nodeStates := by
  obtain ⟨dict, hdict, hprintable⟩ := WorkflowGraph.toDict_total hpackets
  obtain ⟨encoded, hencoded⟩ := canonicalJson_printable hprintable
  have hstable := WorkflowGraph.stable_of_storable hpackets
  obtain ⟨hgraph, -⟩ := GraphState.new_ok hinitial
  have hdecode : WorkflowGraph.fromDict dict = .ok graph :=
    WorkflowGraph.fromDict_toDict hstable hdict hprintable
  have habsent : tables.graphs.fetchone (fun row =>
      decide (row.tenant = tenant) && decide (row.idempotencyKey = key)) = none := by
    unfold Table.fetchone
    rw [List.find?_eq_none]
    intro row hrow hmatch
    rw [Bool.and_eq_true, decide_eq_true_eq, decide_eq_true_eq] at hmatch
    exact hnew row hrow hmatch
  -- no node is stored under the fresh id
  have hnodes : ∀ nodeId, tables.nodes.find (uuid4, nodeId) = none := by
    intro nodeId
    cases hfound : tables.nodes.find (uuid4, nodeId) with
    | none => rfl
    | some row =>
        have howned := hsound.rows.owned (uuid4, nodeId) row hfound
        have hnone : (tables.graphView row.tenant uuid4).row = none := by
          show tables.graphRow row.tenant uuid4 = none
          rw [graphRow_eq, hid]
          rfl
        rw [hnone] at howned
        cases howned
  let row : GraphRow := ⟨uuid4, tenant, key, platform.sha256 encoded, encoded, none⟩
  obtain ⟨graphs, hinsert⟩ : ∃ graphs, tables.graphs.insert row = some graphs :=
    Table.insert_of_fresh hid
  have hadded : tables.addGraph row = some { tables with graphs } := by
    unfold GraphTables.addGraph
    rw [hinsert]
    rfl
  obtain ⟨final, hinserted⟩ : ∃ final, insertNodes tenant uuid4 initial.nodeStates
      { tables with graphs } = .ok ((), final) :=
    insertNodes_total initial.nodup fun nodeId _ => hnodes nodeId
  have hcreate : createGraph platform tenant key graph none none now uuid4 tables =
      .ok (uuid4, final) := by
    unfold createGraph
    simp only [require_bind_ok, lift_bind_ok, query_bind_ok]
    refine ⟨htenant, hkey, dict, hdict, graph, hdecode, dict, hdict, encoded, hencoded, none, rfl,
      encoded, rfl, initial, hinitial, ?_⟩
    rw [habsent]
    simp only [attempt_bind_ok]
    refine ⟨_, hadded, ?_⟩
    rw [bind_ok]
    refine ⟨(), final, hinserted, ?_⟩
    rw [bind_ok]
    exact ⟨(), final, rfl, rfl⟩
  obtain ⟨hself, -⟩ := insertNodes_view hinserted
  obtain ⟨hnone, hadded', -⟩ := graphView_addGraph hadded
  obtain ⟨hstates, -⟩ := (hsound.valid tenant uuid4).absent hnone
  refine ⟨row, final, hcreate, ?_, ?_, ?_⟩
  · rw [hself, hadded']
  · exact WorkflowGraph.fromDict_stored hstable hdict hencoded
  · rw [hself, hadded']
    show (tables.graphView tenant uuid4).states ++ initial.nodeStates = initial.nodeStates
    rw [hstates, List.nil_append]

end Creation

/-- Strictly increasing names are in the order of the query. -/
theorem isSorted_of_pairwise {names : List String} (h : names.Pairwise (· < ·)) :
    isSorted names = true := by
  unfold isSorted
  rw [decide_eq_true_eq]
  apply List.mergeSort_of_pairwise
  exact h.imp fun hlt => decide_eq_true (le_of_lt hlt)

theorem first_check : GraphNode.check "a" [] = .ok () := by
  have hsorted : isSorted [] = true := isSorted_of_pairwise List.Pairwise.nil
  unfold GraphNode.check
  simp only [ensure_bind_ok, ensure_ok, hsorted]
  decide

theorem second_check : GraphNode.check "b" ["a"] = .ok () := by
  have hsorted : isSorted ["a"] = true := isSorted_of_pairwise (List.pairwise_singleton ..)
  unfold GraphNode.check
  simp only [ensure_bind_ok, ensure_ok, hsorted]
  decide

/-- Two nodes, the second after the first. -/
theorem chain_check (first second : TaskPacket) : WorkflowGraph.check
    [⟨"a", first, [], first_check⟩, ⟨"b", second, ["a"], second_check⟩] 1 = .ok () := by
  have hsorted : isSorted ["a", "b"] = true := isSorted_of_pairwise (by decide)
  unfold WorkflowGraph.check
  simp only [ensure_bind_ok, List.map_cons, List.map_nil, hsorted, true_and]
  exact ⟨rfl, rfl, by decide, rfl⟩

/-- The graph of two packets, the second run after the first. -/
def WorkflowGraph.pair (first second : TaskPacket) : WorkflowGraph where
  nodes := [⟨"a", first, [], first_check⟩, ⟨"b", second, ["a"], second_check⟩]
  schemaVersion := 1
  checked := chain_check first second

/-- States of the two nodes that the checks allow. -/
def PairStates (a b : NodeState) : Prop :=
  (b = .blocked ∧ a ∈ [.ready, .running, .awaitingValidation, .uncertain]) ∨
    (b = .ready ∧ a = .succeeded)

theorem pair_check (first second : TaskPacket) {a b : NodeState} (h : PairStates a b) :
    GraphState.check (WorkflowGraph.pair first second) [("a", a), ("b", b)] = .ok () := by
  rcases h with ⟨rfl, ha⟩ | ⟨rfl, rfl⟩
  · fin_cases ha
    · rfl
    · rfl
    · rfl
    · rfl
  · rfl

def GraphState.pair (first second : TaskPacket) (a b : NodeState) (h : PairStates a b) :
    GraphState where
  graph := WorkflowGraph.pair first second
  nodeStates := [("a", a), ("b", b)]
  checked := pair_check first second h

theorem pair_initial (first second : TaskPacket) : (WorkflowGraph.pair first second).initialState =
    .ok (GraphState.pair first second .ready .blocked (Or.inl ⟨rfl, by simp⟩)) := rfl

/-! ### An operator's success -/

section Operator

variable {platform : Platform} {tables : GraphTables} {packet : TaskPacket}

/-- The graph of the pair is stored under the id `g`, in these states. -/
def HoldsPair (packet : TaskPacket) (a b : NodeState) (tables : GraphTables) : Prop :=
  ∃ (row : GraphRow) (h : PairStates a b), (tables.graphView "t" "g").row = some row ∧
    row.Stores (WorkflowGraph.pair packet packet) ∧
    (tables.graphView "t" "g").states = (GraphState.pair packet packet a b h).nodeStates

/-- One transition of the first node. -/
theorem HoldsPair.move {a b a' b' : NodeState} (h : HoldsPair packet a b tables)
    (hstates : PairStates a' b')
    (hmove : ∀ h : PairStates a b, (GraphState.pair packet packet a b h).transition "a" a' =
      .ok (GraphState.pair packet packet a' b' hstates)) :
    HoldsPair packet a' b' ((graphOperations platform).next tables
      (.transitionGraphNode "t" "g" "a" a')) := by
  obtain ⟨row, hpair, hrow, hstored, hlisted⟩ := h
  obtain ⟨final, htransition, hrow', hlisted'⟩ :=
    transitionGraphNode_total hrow hstored hlisted (hmove hpair)
  have hbody : (GraphOperation.transitionGraphNode "t" "g" "a" a').body platform tables =
      .ok (.state (GraphState.pair packet packet a' b' hstates), final) :=
    map_ok.mpr ⟨_, htransition, rfl⟩
  have hnext : (graphOperations platform).next tables (.transitionGraphNode "t" "g" "a" a') =
      final := Machine.next_of_step (commit_of_ok hbody)
  rw [hnext]
  exact ⟨row, hstates, hrow', hstored, hlisted'⟩

/-- A node that was left uncertain is settled with success after the graph was
cancelled: its dependent becomes ready. -/
theorem cancellation_undone :
    ¬ ∀ platform : Platform, CancellationFinal platform fun _ _ _ _ => false := by
  intro h
  obtain ⟨platform⟩ : Nonempty Platform := ⟨⟨id, id, fun _ => true⟩⟩
  obtain ⟨packet, hpacket⟩ : ∃ packet : TaskPacket, packet.Storable :=
    ⟨TaskPacket.short, TaskPacket.short_storable⟩
  obtain ⟨now⟩ : Nonempty DateTime := ⟨⟨⟨0, by decide⟩, none⟩⟩
  -- the first node is started and lost
  obtain ⟨row, created, hcreate, hrow, hstored, hlisted⟩ :=
    @createGraph_fresh platform GraphTables.empty "t" (WorkflowGraph.pair packet packet) "k" "g" _
      now graphsSound_empty (by decide) (by decide) (fun node hnode => by
        fin_cases hnode
        · exact hpacket
        · exact hpacket) (pair_initial packet packet) (fun row hrow => by cases hrow) rfl
  have hnext : (graphOperations platform).next GraphTables.empty (.call (.createGraph "t" "k"
      (WorkflowGraph.pair packet packet) none none now "g")) = created :=
    Machine.next_of_step (commit_of_ok (map_ok.mpr ⟨"g", hcreate, rfl⟩))
  have hready : HoldsPair packet .ready .blocked created :=
    ⟨row, Or.inl ⟨rfl, by simp⟩, hrow, hstored, hlisted⟩
  have hrunning := @HoldsPair.move platform _ _ _ _ .running .blocked hready
    (Or.inl ⟨rfl, by simp⟩) fun _ => rfl
  have huncertain := @HoldsPair.move platform _ _ _ _ .uncertain .blocked hrunning
    (Or.inl ⟨rfl, by simp⟩) fun _ => rfl
  generalize hstart : (graphOperations platform).next ((graphOperations platform).next created
    (.transitionGraphNode "t" "g" "a" .running)) (.transitionGraphNode "t" "g" "a" .uncertain) =
      start at huncertain
  have hreach : (graphOperations platform).Reachable GraphTables.empty start := by
    have hcreated : (graphOperations platform).Reachable GraphTables.empty created :=
      ⟨[.call (.createGraph "t" "k" (WorkflowGraph.pair packet packet) none none now "g")], hnext⟩
    rw [← hstart]
    exact (hcreated.next _).next _
  -- a cancellation finds nothing to end
  obtain ⟨row', hpair, hrow', hstored', hlisted'⟩ := huncertain
  have hcancel : cancelGraph "t" "g" start =
      .ok (GraphState.pair packet packet .uncertain .blocked hpair, start) :=
    cancelGraph_none hrow' hstored' hlisted' (by
      intro pair hpair
      fin_cases hpair
      · rfl
      · rfl)
  have hbody : (GraphOperation.call (.cancelGraph "t" "g")).body platform start =
      .ok (.state (GraphState.pair packet packet .uncertain .blocked hpair), start) :=
    map_ok.mpr ⟨_, hcancel, rfl⟩
  have hstep : (graphOperations platform).step start (.call (.cancelGraph "t" "g")) =
      (.ok (.state (GraphState.pair packet packet .uncertain .blocked hpair)), start) :=
    commit_of_ok hbody
  have hfinal := h platform start "t" "g" _ [.transitionGraphNode "t" "g" "a" .awaitingValidation,
    .transitionGraphNode "t" "g" "a" .succeeded] hreach (Machine.answer_of_step hstep) rfl
  rw [Machine.next_of_step hstep] at hfinal
  replace hfinal := hfinal.1
  -- the operator settles the lost node with success
  have hwaiting := @HoldsPair.move platform _ _ _ _ .awaitingValidation .blocked
    ⟨row', hpair, hrow', hstored', hlisted'⟩ (Or.inl ⟨rfl, by simp⟩) fun _ => rfl
  have hsucceeded := @HoldsPair.move platform _ _ _ _ .succeeded .ready hwaiting
    (Or.inr ⟨rfl, rfl⟩) fun _ => rfl
  generalize hlater : (graphOperations platform).after start
    [.transitionGraphNode "t" "g" "a" .awaitingValidation,
      .transitionGraphNode "t" "g" "a" .succeeded] = last at hfinal
  replace hsucceeded : HoldsPair packet .succeeded .ready last := hlater ▸ hsucceeded
  obtain ⟨row', hpair, hrow', hstored', hlast⟩ := hsucceeded
  have hmem : ("b", NodeState.ready) ∈ (last.graphView "t" "g").states := by
    rw [hlast]
    exact List.mem_cons_of_mem _ (List.mem_cons_self ..)
  obtain ⟨found, hfound, -, hstate⟩ := row_of_listed hmem
  have hkey : found.key = ("g", "b") := Table.find_key hfound
  exact (hfinal found (Table.mem_of_find hfound) (Prod.mk.inj hkey).1).1 hstate

end Operator

end Workflows
end Ryuk

import Ryuk.Workflows.Graph

/-!
# What the states of a graph mean

The check of a graph state compares every node with its direct dependencies only.
The graph is acyclic, so this already settles how every node stands to all its
transitive dependencies, and there is always a node to work on until all nodes
have ended.
-/

namespace Ryuk
namespace Workflows

open Foundation Foundation.Json Foundation.Dependency Relation

/-! ### Accepted graphs -/

/-- The node depends directly on the other. -/
def WorkflowGraph.DependsOn (graph : WorkflowGraph) (nodeId other : String) : Prop :=
  ∃ node ∈ graph.nodes, node.nodeId = nodeId ∧ other ∈ node.dependsOn

theorem requireKnown_ok {known : List String} {nodes : List GraphNode}
    (h : requireKnown known nodes = .ok ()) :
    ∀ node ∈ nodes, ∀ dependency ∈ node.dependsOn, dependency ∈ known := by
  induction nodes with
  | nil =>
      intro node hnode
      cases hnode
  | cons first rest ih =>
      simp only [requireKnown, ensure_bind_ok] at h
      obtain ⟨-, hknown, hrest⟩ := h
      intro node hnode dependency hdependency
      rcases List.mem_cons.mp hnode with rfl | hnode
      · simpa using List.all_eq_true.mp hknown dependency hdependency
      · exact ih hrest node hnode dependency hdependency

/-- What the check of a graph says. -/
structure WorkflowGraph.Accepted (nodes : List GraphNode) : Prop where
  nodup : (nodes.map GraphNode.nodeId).Nodup
  known : ∀ node ∈ nodes, ∀ dependency ∈ node.dependsOn,
    dependency ∈ nodes.map GraphNode.nodeId
  ranked : Ranked (dependenciesOf nodes) (nodes.map GraphNode.nodeId)

theorem WorkflowGraph.accepted (graph : WorkflowGraph) :
    WorkflowGraph.Accepted graph.nodes := by
  have h := graph.checked
  unfold WorkflowGraph.check requireAcyclic at h
  simp only [ensure_bind_ok, decide_eq_true_eq] at h
  obtain ⟨-, -, hnodup, -, h⟩ := h
  simp only [except_bind_ok, ensure_ok] at h
  obtain ⟨_, hknown, hpeel⟩ := h
  exact ⟨hnodup, requireKnown_ok hknown, ranked_of_peel hpeel⟩

/-- An id belongs to one node. -/
theorem WorkflowGraph.unique (graph : WorkflowGraph) {first second : GraphNode}
    (hfirst : first ∈ graph.nodes) (hsecond : second ∈ graph.nodes)
    (hid : first.nodeId = second.nodeId) : first = second :=
  List.inj_on_of_nodup_map graph.accepted.nodup hfirst hsecond hid

/-- In a list of nodes with distinct ids, an id finds its node. -/
theorem dependenciesOf_mem {nodes : List GraphNode} (hnodup : (nodes.map GraphNode.nodeId).Nodup)
    {node : GraphNode} (hnode : node ∈ nodes) :
    dependenciesOf nodes node.nodeId = node.dependsOn := by
  induction nodes with
  | nil => cases hnode
  | cons first rest ih =>
      rw [List.map_cons, List.nodup_cons] at hnodup
      unfold dependenciesOf
      rcases List.mem_cons.mp hnode with rfl | hrest
      · simp
      · have hne : first.nodeId ≠ node.nodeId := by
          intro heq
          exact hnodup.1 (heq ▸ List.mem_map_of_mem hrest)
        rw [List.find?_cons_of_neg (by simpa using hne)]
        exact ih hnodup.2 hrest

/-- Nobody depends on itself, however indirectly. -/
theorem WorkflowGraph.dependsOn_wellFounded (graph : WorkflowGraph) :
    WellFounded (flip graph.DependsOn) := by
  obtain ⟨hnodup, hknown, rank, hrank⟩ := graph.accepted
  refine wellFounded_of_rank rank ?_
  rintro nodeId other ⟨node, hnode, rfl, hother⟩
  apply hrank node.nodeId (List.mem_map_of_mem hnode) other
  · rw [dependenciesOf_mem hnodup hnode]
    exact hother
  · exact hknown node hnode other hother

/-! ### Checked states -/

theorem States.get_ok {states : States} {nodeId : String} {state : NodeState} :
    states.get nodeId = .ok state ↔ states nodeId = some state := by
  unfold States.get
  cases states nodeId with
  | none => simp
  | some found => simp

theorem dependencyStates_ok {states : States} {dependencies : List String}
    {values : List NodeState} (h : dependencyStates states dependencies = .ok values) :
    (∀ dependency ∈ dependencies, ∃ value ∈ values, states dependency = some value) ∧
      ∀ value ∈ values, ∃ dependency ∈ dependencies, states dependency = some value := by
  induction dependencies generalizing values with
  | nil =>
      obtain rfl := Except.ok.inj h
      exact ⟨by simp, by simp⟩
  | cons dependency rest ih =>
      simp only [dependencyStates, except_bind_ok] at h
      obtain ⟨state, hstate, others, hothers, h⟩ := h
      obtain rfl := Except.ok.inj h
      obtain ⟨hforward, hbackward⟩ := ih hothers
      rw [States.get_ok] at hstate
      refine ⟨fun other hother => ?_, fun value hvalue => ?_⟩
      · rcases List.mem_cons.mp hother with rfl | hother
        · exact ⟨state, List.mem_cons_self .., hstate⟩
        · obtain ⟨value, hvalue, hfound⟩ := hforward other hother
          exact ⟨value, List.mem_cons_of_mem _ hvalue, hfound⟩
      · rcases List.mem_cons.mp hvalue with rfl | hvalue
        · exact ⟨dependency, List.mem_cons_self .., hstate⟩
        · obtain ⟨other, hother, hfound⟩ := hbackward value hvalue
          exact ⟨other, List.mem_cons_of_mem _ hother, hfound⟩

/-- What the check of a node says about its direct dependencies. -/
structure NodeChecked (states : States) (node : GraphNode) (state : NodeState) : Prop where
  own : states node.nodeId = some state
  known : ∀ dependency ∈ node.dependsOn, ∃ value, states dependency = some value
  blocked : state = .blocked →
    (∃ dependency ∈ node.dependsOn, states dependency ≠ some .succeeded) ∧
      ∀ dependency ∈ node.dependsOn, ∀ value, states dependency = some value →
        value ∉ unsuccessfulNodeStates
  scheduled : state.isScheduled = true →
    ∀ dependency ∈ node.dependsOn, states dependency = some .succeeded
  skipped : state = .skipped → ∃ dependency ∈ node.dependsOn, ∃ value,
    states dependency = some value ∧ value ∈ unsuccessfulNodeStates

theorem checkNode_ok {states : States} {node : GraphNode} (h : checkNode states node = .ok ()) :
    ∃ state, NodeChecked states node state := by
  rw [checkNode, except_bind_ok] at h
  obtain ⟨state, hstate, h⟩ := h
  rw [except_bind_ok] at h
  obtain ⟨values, hvalues, h⟩ := h
  simp only [ensure_bind_ok, ensure_ok] at h
  obtain ⟨hblocked, hscheduled, hskipped⟩ := h
  obtain ⟨hforward, hbackward⟩ := dependencyStates_ok hvalues
  rw [States.get_ok] at hstate
  refine ⟨state, hstate, ?_, ?_, ?_, ?_⟩
  · intro dependency hdependency
    obtain ⟨value, -, hfound⟩ := hforward dependency hdependency
    exact ⟨value, hfound⟩
  · intro hstate
    simp only [hstate, decide_true, Bool.true_and, Bool.not_eq_true', Bool.or_eq_false_iff,
      List.any_eq_false, decide_eq_true_eq] at hblocked
    obtain ⟨⟨-, hall⟩, hany⟩ := hblocked
    refine ⟨?_, ?_⟩
    · rw [List.all_eq_false] at hall
      obtain ⟨value, hvalue, hne⟩ := hall
      obtain ⟨dependency, hdependency, hfound⟩ := hbackward value hvalue
      refine ⟨dependency, hdependency, fun hsucceeded => hne ?_⟩
      rw [hfound] at hsucceeded
      simpa using hsucceeded
    · intro dependency hdependency value hfound hunsuccessful
      obtain ⟨value', hvalue', hfound'⟩ := hforward dependency hdependency
      obtain rfl : value = value' := Option.some.inj (hfound.symm.trans hfound')
      exact hany value hvalue' hunsuccessful
  · intro hstate dependency hdependency
    simp only [hstate, Bool.true_and, Bool.not_eq_true', List.any_eq_false, decide_eq_true_eq,
      not_not] at hscheduled
    obtain ⟨value, hvalue, hfound⟩ := hforward dependency hdependency
    rw [hfound, hscheduled value hvalue]
  · intro hstate
    simp only [hstate, decide_true, Bool.true_and, Bool.not_not, List.any_eq_true,
      decide_eq_true_eq] at hskipped
    obtain ⟨value, hvalue, hunsuccessful⟩ := hskipped
    obtain ⟨dependency, hdependency, hfound⟩ := hbackward value hvalue
    exact ⟨dependency, hdependency, value, hfound, hunsuccessful⟩

theorem checkNodes_ok {states : States} {nodes : List GraphNode}
    (h : checkNodes states nodes = .ok ()) :
    ∀ node ∈ nodes, ∃ state, NodeChecked states node state := by
  induction nodes with
  | nil =>
      intro node hnode
      cases hnode
  | cons first rest ih =>
      simp only [checkNodes, except_bind_ok] at h
      obtain ⟨_, hfirst, hrest⟩ := h
      intro node hnode
      rcases List.mem_cons.mp hnode with rfl | hnode
      · exact checkNode_ok hfirst
      · exact ih hrest node hnode

theorem GraphState.keys (state : GraphState) :
    state.nodeStates.map Prod.fst = state.graph.nodes.map GraphNode.nodeId := by
  have h := state.checked
  simp only [GraphState.check, ensure_bind_ok, decide_eq_true_eq] at h
  exact h.1

theorem GraphState.node (state : GraphState) {node : GraphNode}
    (hnode : node ∈ state.graph.nodes) :
    ∃ own, NodeChecked (statesOf state.nodeStates) node own := by
  have h := state.checked
  simp only [GraphState.check, ensure_bind_ok] at h
  exact checkNodes_ok h.2 node hnode

/-- Distinct keys: the dictionary holds exactly the pairs. -/
theorem statesOf_iff {nodeStates : List (String × NodeState)}
    (hnodup : (nodeStates.map Prod.fst).Nodup) {nodeId : String} {state : NodeState} :
    statesOf nodeStates nodeId = some state ↔ (nodeId, state) ∈ nodeStates := by
  induction nodeStates with
  | nil => simp [statesOf]
  | cons pair rest ih =>
      obtain ⟨key, value⟩ := pair
      rw [List.map_cons, List.nodup_cons] at hnodup
      unfold statesOf
      by_cases hkey : key = nodeId
      · subst hkey
        have habsent : ∀ other, (key, other) ∉ rest := by
          intro other hmem
          exact hnodup.1 (List.mem_map.mpr ⟨(key, other), hmem, rfl⟩)
        simp [habsent, eq_comm]
      · rw [List.find?_cons_of_neg (by simpa using hkey)]
        simp only [List.mem_cons, Prod.mk.injEq, Ne.symm hkey, false_and, false_or]
        exact ih hnodup.2

/-- Lists with the same keys, each once, are given by their dictionaries. -/
theorem nodeStates_ext {first second : List (String × NodeState)}
    (hkeys : first.map Prod.fst = second.map Prod.fst) (hnodup : (first.map Prod.fst).Nodup)
    (hsame : ∀ nodeId, statesOf first nodeId = statesOf second nodeId) : first = second := by
  have hnodup' : (second.map Prod.fst).Nodup := hkeys ▸ hnodup
  refine List.ext_getElem (by simpa using congrArg List.length hkeys) fun i hi hi' => ?_
  have hkey : first[i].1 = second[i].1 := by
    have := congrArg (fun keys => keys[i]?) hkeys
    simpa [hi, hi'] using this
  have hfirst : statesOf first first[i].1 = some first[i].2 :=
    (statesOf_iff hnodup).mpr (List.getElem_mem hi)
  have hsecond : statesOf second second[i].1 = some second[i].2 :=
    (statesOf_iff hnodup').mpr (List.getElem_mem hi')
  rw [hsame, hkey, hsecond, Option.some.injEq] at hfirst
  exact Prod.ext hkey hfirst.symm

theorem GraphState.statesOf_iff (state : GraphState) {nodeId : String} {own : NodeState} :
    statesOf state.nodeStates nodeId = some own ↔ (nodeId, own) ∈ state.nodeStates :=
  Workflows.statesOf_iff (by rw [state.keys]; exact state.graph.accepted.nodup)

theorem GraphState.stateOf_ok (state : GraphState) {nodeId : String} {own : NodeState} :
    state.stateOf nodeId = .ok own ↔ statesOf state.nodeStates nodeId = some own := by
  unfold GraphState.stateOf
  cases statesOf state.nodeStates nodeId with
  | none => simp
  | some found => simp

/-! ### Transitive dependencies -/

/-- How a node state stands for the nodes that depend on it. -/
def NodeState.standing : NodeState → Standing
  | .blocked => .blocked
  | .ready | .running | .awaitingValidation | .uncertain => .active
  | .succeeded => .succeeded
  | .failed | .rejected | .cancelled => .failed
  | .skipped => .skipped

/-- How a node id stands; what is no node has nothing to wait for. -/
def GraphState.standing (state : GraphState) (nodeId : String) : Standing :=
  match statesOf state.nodeStates nodeId with
  | some own => own.standing
  | none => .active

theorem mem_unsuccessful_iff {state : NodeState} :
    state ∈ unsuccessfulNodeStates ↔ state.standing = .failed ∨ state.standing = .skipped := by
  cases state <;> decide

theorem standing_succeeded_iff {state : NodeState} :
    state.standing = .succeeded ↔ state = .succeeded := by
  cases state <;> decide

theorem standing_blocked_iff {state : NodeState} : state.standing = .blocked ↔ state = .blocked := by
  cases state <;> decide

theorem standing_skipped_iff {state : NodeState} : state.standing = .skipped ↔ state = .skipped := by
  cases state <;> decide

theorem isScheduled_iff {state : NodeState} :
    state.isScheduled = true ↔ state.standing ≠ .blocked ∧ state.standing ≠ .skipped := by
  cases state <;> decide

theorem GraphState.standing_eq (state : GraphState) {nodeId : String} {own : NodeState}
    (h : statesOf state.nodeStates nodeId = some own) : state.standing nodeId = own.standing := by
  unfold GraphState.standing
  rw [h]

/-- The check of a graph state is local consistency. -/
theorem GraphState.consistent (state : GraphState) :
    Consistent state.graph.DependsOn state.standing := by
  -- a node that is blocked or skipped is a node of the graph
  have hnode : ∀ nodeId, state.standing nodeId ≠ .active →
      ∃ node ∈ state.graph.nodes, node.nodeId = nodeId := by
    intro nodeId hstanding
    unfold GraphState.standing at hstanding
    cases hfound : statesOf state.nodeStates nodeId with
    | none =>
        rw [hfound] at hstanding
        exact absurd rfl hstanding
    | some own =>
        have hmem : nodeId ∈ state.nodeStates.map Prod.fst :=
          List.mem_map_of_mem (state.statesOf_iff.mp hfound)
        rw [state.keys] at hmem
        exact List.mem_map.mp hmem
  refine ⟨?_, ?_, ?_⟩
  · intro nodeId hblocked
    obtain ⟨node, hmem, rfl⟩ := hnode nodeId (by rw [hblocked]; decide)
    obtain ⟨own, hchecked⟩ := state.node hmem
    rw [state.standing_eq hchecked.own, standing_blocked_iff] at hblocked
    obtain ⟨⟨dependency, hdependency, hunfinished⟩, hnone⟩ := hchecked.blocked hblocked
    refine ⟨⟨dependency, ⟨node, hmem, rfl, hdependency⟩, fun hsucceeded => ?_⟩, ?_⟩
    · obtain ⟨value, hvalue⟩ := hchecked.known dependency hdependency
      rw [state.standing_eq hvalue, standing_succeeded_iff] at hsucceeded
      rw [hvalue, hsucceeded] at hunfinished
      exact hunfinished rfl
    · rintro other ⟨node', hmem', hid, hother⟩
      obtain rfl : node' = node := state.graph.unique hmem' hmem hid
      obtain ⟨value, hvalue⟩ := hchecked.known other hother
      have hnot := hnone other hother value hvalue
      rw [mem_unsuccessful_iff, not_or] at hnot
      rw [state.standing_eq hvalue]
      exact hnot
  · intro nodeId hskipped
    obtain ⟨node, hmem, rfl⟩ := hnode nodeId (by rw [hskipped]; decide)
    obtain ⟨own, hchecked⟩ := state.node hmem
    rw [state.standing_eq hchecked.own, standing_skipped_iff] at hskipped
    obtain ⟨dependency, hdependency, value, hvalue, hunsuccessful⟩ := hchecked.skipped hskipped
    refine ⟨dependency, ⟨node, hmem, rfl, hdependency⟩, ?_⟩
    rw [state.standing_eq hvalue]
    exact mem_unsuccessful_iff.mp hunsuccessful
  · rintro nodeId hblocked hskipped other ⟨node, hmem, rfl, hother⟩
    obtain ⟨own, hchecked⟩ := state.node hmem
    rw [state.standing_eq hchecked.own] at hblocked hskipped
    have hsucceeded := hchecked.scheduled (isScheduled_iff.mpr ⟨hblocked, hskipped⟩) other hother
    rw [state.standing_eq hsucceeded]
    rfl

/-- A node that failed, was rejected or was cancelled. -/
def GraphState.IsFailed (state : GraphState) (nodeId : String) : Prop :=
  ∃ own, state.stateOf nodeId = .ok own ∧ (own = .failed ∨ own = .rejected ∨ own = .cancelled)

/-- A node that is ready, runs, awaits its validation or has an uncertain outcome. -/
def GraphState.IsActive (state : GraphState) (nodeId : String) : Prop :=
  ∃ own, state.stateOf nodeId = .ok own ∧
    (own = .ready ∨ own = .running ∨ own = .awaitingValidation ∨ own = .uncertain)

theorem GraphState.isFailed_iff (state : GraphState) {nodeId : String} :
    state.IsFailed nodeId ↔ state.standing nodeId = .failed := by
  unfold GraphState.IsFailed GraphState.standing
  simp only [state.stateOf_ok]
  cases statesOf state.nodeStates nodeId with
  | none => simp
  | some own => cases own <;> simp [NodeState.standing]

/-- A node of the graph is active when it stands so. -/
theorem GraphState.isActive_iff (state : GraphState) {nodeId : String} {own : NodeState}
    (hown : statesOf state.nodeStates nodeId = some own) :
    state.IsActive nodeId ↔ state.standing nodeId = .active := by
  unfold GraphState.IsActive
  simp only [state.stateOf_ok, hown, state.standing_eq hown]
  cases own <;> simp [NodeState.standing]

/-- What a node depends on, however indirectly, has a state. -/
theorem GraphState.dependency_known (state : GraphState) {nodeId other : String}
    (hpath : TransGen state.graph.DependsOn nodeId other) :
    ∃ own, statesOf state.nodeStates other = some own := by
  have hdirect : ∀ nodeId, state.graph.DependsOn nodeId other →
      ∃ own, statesOf state.nodeStates other = some own := by
    rintro nodeId ⟨node, hnode, -, hother⟩
    obtain ⟨own, hchecked⟩ := state.node hnode
    exact hchecked.known other hother
  cases hpath with
  | single hstep => exact hdirect _ hstep
  | tail _ hstep => exact hdirect _ hstep

/-- **Transitive dependencies.**  In every graph state the constructor accepts, so
in every one that transitions reach, a node is skipped exactly when some
transitive dependency failed; it is blocked exactly when none failed and some is
active; in every other state all of them succeeded.  While some node has not
ended, some node is active. -/
theorem node_states_determined (state : GraphState) :
    (∀ nodeId own, state.stateOf nodeId = .ok own →
      (own = .skipped ↔
        ∃ other, TransGen state.graph.DependsOn nodeId other ∧ state.IsFailed other) ∧
      (own = .blocked ↔
        (¬ ∃ other, TransGen state.graph.DependsOn nodeId other ∧ state.IsFailed other) ∧
          ∃ other, TransGen state.graph.DependsOn nodeId other ∧ state.IsActive other) ∧
      (own ≠ .skipped → own ≠ .blocked →
        ∀ other, TransGen state.graph.DependsOn nodeId other →
          state.stateOf other = .ok .succeeded)) ∧
    (state.terminal = false → ∃ nodeId, state.IsActive nodeId) := by
  have hconsistent := state.consistent
  have hwf := state.graph.dependsOn_wellFounded
  have hfailed : ∀ nodeId, (∃ other, TransGen state.graph.DependsOn nodeId other ∧
      state.IsFailed other) ↔ ∃ other, TransGen state.graph.DependsOn nodeId other ∧
        state.standing other = .failed :=
    fun nodeId => exists_congr fun other => and_congr_right fun _ => state.isFailed_iff
  have hactive : ∀ nodeId, (∃ other, TransGen state.graph.DependsOn nodeId other ∧
      state.IsActive other) ↔ ∃ other, TransGen state.graph.DependsOn nodeId other ∧
        state.standing other = .active := by
    refine fun nodeId => exists_congr fun other => and_congr_right fun hpath => ?_
    obtain ⟨own, hown⟩ := state.dependency_known hpath
    exact state.isActive_iff hown
  refine ⟨fun nodeId own hstate => ⟨?_, ?_, ?_⟩, ?_⟩
  · have hown := state.stateOf_ok.mp hstate
    rw [hfailed, ← hconsistent.skipped_iff hwf, state.standing_eq hown, standing_skipped_iff]
  · have hown := state.stateOf_ok.mp hstate
    rw [hfailed, hactive, ← hconsistent.blocked_iff hwf, state.standing_eq hown,
      standing_blocked_iff]
  · intro hskipped hblocked other hpath
    have hown := state.stateOf_ok.mp hstate
    have hsucceeded : state.standing other = .succeeded := by
      apply hconsistent.scheduled_succeeded _ _ hpath
      · rwa [state.standing_eq hown, ne_eq, standing_blocked_iff]
      · rwa [state.standing_eq hown, ne_eq, standing_skipped_iff]
    obtain ⟨value, hvalue⟩ := state.dependency_known hpath
    rw [state.standing_eq hvalue, standing_succeeded_iff] at hsucceeded
    rw [state.stateOf_ok, hvalue, hsucceeded]
  · intro hterminal
    simp only [GraphState.terminal, List.all_eq_false, decide_eq_true_eq] at hterminal
    obtain ⟨⟨nodeId, own⟩, hmem, hunfinished⟩ := hterminal
    have hown := state.statesOf_iff.mpr hmem
    by_cases hstanding : state.standing nodeId = .active
    · exact ⟨nodeId, (state.isActive_iff hown).mpr hstanding⟩
    · -- what has not ended and is not active is blocked, and waits for something active
      have hblocked : state.standing nodeId = .blocked := by
        rw [state.standing_eq hown] at hstanding ⊢
        cases own <;> simp_all [NodeState.standing, terminalNodeStates]
      obtain ⟨other, hpath, hother⟩ := hconsistent.active_of_blocked hwf nodeId hblocked
      obtain ⟨value, hvalue⟩ := state.dependency_known hpath
      exact ⟨other, (state.isActive_iff hvalue).mpr hother⟩

end Workflows
end Ryuk

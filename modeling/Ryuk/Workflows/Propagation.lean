import Ryuk.Workflows.Refreshing

/-!
# Transitions end in checked states

`transition` sets the state of one node, lets `_refresh_waiting_nodes` release or
skip the nodes that waited for it and builds a new `GraphState`, whose constructor
checks every node again.  The loop keeps what the check says about the nodes that
are not blocked, and when it has settled the check of the blocked nodes holds too:
a legal transition never fails.

The checked states leave no choice either.  The state of a waiting node is
determined by those of its dependencies, so the outcomes of two nodes lead to the
same states in both orders.
-/

namespace Ryuk
namespace Workflows

open Foundation Foundation.Json Foundation.Dependency Relation

/-! ### Checks that pass -/

/-- The converse of `checkNode_ok`. -/
theorem checkNode_of_checked {states : States} {node : GraphNode} {state : NodeState}
    (h : NodeChecked states node state) : checkNode states node = .ok () := by
  obtain ⟨values, hvalues⟩ := dependencyStates_total h.known
  rw [checkNode, except_bind_ok]
  refine ⟨state, States.get_ok.mpr h.own, ?_⟩
  rw [except_bind_ok]
  refine ⟨values, hvalues, ?_⟩
  rw [ensure_bind_ok, ensure_bind_ok, ensure_ok]
  simp only [Bool.not_eq_true', Bool.and_eq_false_iff, Bool.or_eq_false_iff,
    decide_eq_false_iff_not, Bool.not_eq_false']
  refine ⟨?_, ?_, ?_⟩
  · by_cases hstate : state = .blocked
    · right
      obtain ⟨⟨dependency, hdependency, hunfinished⟩, hnone⟩ := h.blocked hstate
      have hall : ¬ values.all (fun value => decide (value = .succeeded)) = true := by
        rw [all_succeeded hvalues]
        exact fun hall => hunfinished (hall dependency hdependency)
      have hany : ¬ values.any (fun value => decide (value ∈ unsuccessfulNodeStates)) = true := by
        rw [any_dependencyStates hvalues]
        rintro ⟨other, hother, value, hvalue, hunsuccessful⟩
        exact hnone other hother value hvalue (of_decide_eq_true hunsuccessful)
      have hempty : values.isEmpty = false := by
        cases values with
        | nil => exact absurd rfl hall
        | cons value rest => rfl
      exact ⟨⟨hempty, eq_false_of_ne_true hall⟩, eq_false_of_ne_true hany⟩
    · exact Or.inl hstate
  · by_cases hstate : state.isScheduled = true
    · right
      have hany : ¬ values.any (fun value => decide (value ≠ .succeeded)) = true := by
        rw [any_dependencyStates hvalues]
        rintro ⟨other, hother, value, hvalue, hpending⟩
        rw [h.scheduled hstate other hother, Option.some.injEq] at hvalue
        exact of_decide_eq_true hpending hvalue.symm
      exact eq_false_of_ne_true hany
    · exact Or.inl (by simpa using hstate)
  · by_cases hstate : state = .skipped
    · right
      rw [any_dependencyStates hvalues]
      obtain ⟨dependency, hdependency, value, hvalue, hunsuccessful⟩ := h.skipped hstate
      exact ⟨dependency, hdependency, value, hvalue, decide_eq_true hunsuccessful⟩
    · exact Or.inl hstate

theorem checkNodes_of_checked {states : States} {nodes : List GraphNode}
    (h : ∀ node ∈ nodes, ∃ state, NodeChecked states node state) :
    checkNodes states nodes = .ok () := by
  induction nodes with
  | nil => rfl
  | cons node rest ih =>
      obtain ⟨state, hchecked⟩ := h node (List.mem_cons_self ..)
      rw [checkNodes, checkNode_of_checked hchecked]
      exact ih fun other hother => h other (List.mem_cons_of_mem _ hother)

/-- The check of a node reads its own state and those of its dependencies. -/
theorem NodeChecked.congr {states later : States} {node : GraphNode} {state : NodeState}
    (h : NodeChecked states node state) (hown : later node.nodeId = states node.nodeId)
    (hdependencies : ∀ dependency ∈ node.dependsOn, later dependency = states dependency) :
    NodeChecked later node state := by
  refine ⟨hown.trans h.own, fun dependency hdependency => ?_, fun hblocked => ⟨?_, ?_⟩,
    fun hscheduled dependency hdependency => ?_, fun hskipped => ?_⟩
  · rw [hdependencies dependency hdependency]
    exact h.known dependency hdependency
  · obtain ⟨dependency, hdependency, hunfinished⟩ := (h.blocked hblocked).1
    exact ⟨dependency, hdependency, by rwa [hdependencies dependency hdependency]⟩
  · intro dependency hdependency value hvalue
    rw [hdependencies dependency hdependency] at hvalue
    exact (h.blocked hblocked).2 dependency hdependency value hvalue
  · rw [hdependencies dependency hdependency]
    exact h.scheduled hscheduled dependency hdependency
  · obtain ⟨dependency, hdependency, value, hvalue, hunsuccessful⟩ := h.skipped hskipped
    exact ⟨dependency, hdependency, value, (hdependencies dependency hdependency).trans hvalue,
      hunsuccessful⟩

/-! ### The loop -/

/-- What the check says about a node that is not blocked. -/
structure NodeSound (states : States) (node : GraphNode) : Prop where
  own : ∃ state, states node.nodeId = some state
  known : ∀ dependency ∈ node.dependsOn, ∃ value, states dependency = some value
  scheduled : ∀ state, states node.nodeId = some state → state.isScheduled = true →
    ∀ dependency ∈ node.dependsOn, states dependency = some .succeeded
  skipped : states node.nodeId = some .skipped → ∃ dependency ∈ node.dependsOn, ∃ value,
    states dependency = some value ∧ value ∈ unsuccessfulNodeStates

theorem NodeChecked.sound {states : States} {node : GraphNode} {state : NodeState}
    (h : NodeChecked states node state) : NodeSound states node := by
  refine ⟨⟨state, h.own⟩, h.known, fun own hown hscheduled => ?_, fun hskipped => ?_⟩
  · obtain rfl : state = own := Option.some.inj (h.own.symm.trans hown)
    exact h.scheduled hscheduled
  · exact h.skipped (Option.some.inj (h.own.symm.trans hskipped))

theorem NodeSound.checked {states : States} {node : GraphNode} (h : NodeSound states node)
    (hwaits : states node.nodeId = some .blocked → NodeWaits states node) :
    ∃ state, NodeChecked states node state := by
  obtain ⟨state, hstate⟩ := h.own
  refine ⟨state, hstate, h.known, fun hblocked => ?_, h.scheduled state hstate, fun hskipped => ?_⟩
  · obtain ⟨hpending, hhopeful⟩ := hwaits (hblocked ▸ hstate)
    exact ⟨hpending, hhopeful⟩
  · exact h.skipped (hskipped ▸ hstate)

/-- The outcome of a node is not decided yet. -/
def Undecided (states : States) (nodeId : String) : Prop :=
  ∃ own, states nodeId = some own ∧ own ≠ .succeeded ∧ own ∉ unsuccessfulNodeStates

/-- Decided outcomes survive when an undecided node is set. -/
theorem Undecided.set_decided {states : States} {nodeId other : String} {state value : NodeState}
    (h : Undecided states nodeId) (hvalue : states other = some value)
    (hdecided : value = .succeeded ∨ value ∈ unsuccessfulNodeStates) :
    (states.set nodeId state) other = some value := by
  obtain ⟨own, hown, hsucceeded, hhopeful⟩ := h
  have hne : other ≠ nodeId := by
    rintro rfl
    obtain rfl : own = value := Option.some.inj (hown.symm.trans hvalue)
    exact hdecided.elim hsucceeded hhopeful
  unfold States.set
  rw [Function.update_of_ne hne, hvalue]

/-- Setting an undecided node leaves the other nodes sound. -/
theorem NodeSound.set_other {states : States} {node : GraphNode} {nodeId : String}
    {state : NodeState} (h : NodeSound states node) (hother : node.nodeId ≠ nodeId)
    (hundecided : Undecided states nodeId) : NodeSound (states.set nodeId state) node := by
  refine ⟨States.set_known h.own, fun dependency hdependency =>
    States.set_known (h.known dependency hdependency), fun found hfound hscheduled dependency
    hdependency => ?_, fun hskipped => ?_⟩
  · rw [states.set_other state hother] at hfound
    exact hundecided.set_decided (h.scheduled found hfound hscheduled dependency hdependency)
      (Or.inl rfl)
  · rw [states.set_other state hother] at hskipped
    obtain ⟨dependency, hdependency, value, hvalue, hunsuccessful⟩ := h.skipped hskipped
    exact ⟨dependency, hdependency, value,
      hundecided.set_decided hvalue (Or.inr hunsuccessful), hunsuccessful⟩

/-- Setting an undecided node as its dependencies allow leaves it sound. -/
theorem NodeSound.set_self {states : States} {node : GraphNode} {state : NodeState}
    (h : NodeSound states node) (hundecided : Undecided states node.nodeId)
    (hscheduled : state.isScheduled = true →
      ∀ dependency ∈ node.dependsOn, states dependency = some .succeeded)
    (hskipped : state = .skipped → ∃ dependency ∈ node.dependsOn, ∃ value,
      states dependency = some value ∧ value ∈ unsuccessfulNodeStates) :
    NodeSound (states.set node.nodeId state) node := by
  have hself := states.set_self node.nodeId state
  refine ⟨⟨state, hself⟩, fun dependency hdependency =>
    States.set_known (h.known dependency hdependency), fun found hfound hfoundScheduled
    dependency hdependency => ?_, fun hfoundSkipped => ?_⟩
  · obtain rfl : state = found := Option.some.inj (hself.symm.trans hfound)
    exact hundecided.set_decided (hscheduled hfoundScheduled dependency hdependency) (Or.inl rfl)
  · obtain ⟨dependency, hdependency, value, hvalue, hunsuccessful⟩ :=
      hskipped (Option.some.inj (hself.symm.trans hfoundSkipped))
    exact ⟨dependency, hdependency, value,
      hundecided.set_decided hvalue (Or.inr hunsuccessful), hunsuccessful⟩

section Loop

variable {graph : WorkflowGraph}

/-- An undecided node of the graph is set as its dependencies allow: the nodes stay
sound. -/
theorem sound_set {states : States} {node : GraphNode} {state : NodeState}
    (hsound : ∀ other ∈ graph.nodes, NodeSound states other) (hnode : node ∈ graph.nodes)
    (hundecided : Undecided states node.nodeId)
    (hscheduled : state.isScheduled = true →
      ∀ dependency ∈ node.dependsOn, states dependency = some .succeeded)
    (hskipped : state = .skipped → ∃ dependency ∈ node.dependsOn, ∃ value,
      states dependency = some value ∧ value ∈ unsuccessfulNodeStates) :
    ∀ other ∈ graph.nodes, NodeSound (states.set node.nodeId state) other := by
  intro other hother
  by_cases hid : other.nodeId = node.nodeId
  · obtain rfl := graph.unique hother hnode hid
    exact (hsound other hother).set_self hundecided hscheduled hskipped
  · exact (hsound other hother).set_other hid hundecided

/-- A firing of the rules keeps the nodes sound. -/
theorem sound_step {states later : States} (hstep : graph.refreshRules.Step states later)
    (hsound : ∀ node ∈ graph.nodes, NodeSound states node) :
    ∀ node ∈ graph.nodes, NodeSound later node := by
  obtain ⟨_, _, hwaiting, ⟨node, hnode, rfl, hresolves⟩, rfl⟩ := hstep
  have hundecided : Undecided states node.nodeId := ⟨.blocked, hwaiting, by decide, by decide⟩
  rcases hresolves with ⟨hfailing, rfl⟩ | ⟨hcomplete, rfl⟩
  · exact sound_set hsound hnode hundecided (fun hscheduled => by cases hscheduled)
      fun _ => hfailing
  · exact sound_set hsound hnode hundecided (fun _ => hcomplete)
      fun hskipped => by cases hskipped

theorem sound_run {states later : States}
    (hrun : ReflTransGen graph.refreshRules.Step states later)
    (hsound : ∀ node ∈ graph.nodes, NodeSound states node) :
    ∀ node ∈ graph.nodes, NodeSound later node := by
  induction hrun with
  | refl => exact hsound
  | tail _ hstep ih => exact sound_step hstep ih

/-- **Propagation.**  With a pass for every blocked node and one more, the loop
returns states that pass the check of every node. -/
theorem refreshWaitingNodes_total {fuel : Nat} {states : States}
    (hfuel : blockedCount states graph.nodes < fuel)
    (hsound : ∀ node ∈ graph.nodes, NodeSound states node) :
    ∃ final, refreshWaitingNodes graph.nodes fuel states = .ok final ∧
      ∀ node ∈ graph.nodes, ∃ state, NodeChecked final node state := by
  obtain ⟨passes, final, hpasses, hrefreshes, hrun, hwaits⟩ :=
    refreshes_total (List.Perm.refl _) fun node hnode => (hsound node hnode).own
  refine ⟨final, hrefreshes.run (by omega), fun node hnode => ?_⟩
  exact (sound_run hrun hsound node hnode).checked (hwaits node hnode)

end Loop

/-! ### Legal transitions -/

/-- The node is in the graph and its state may change to the target. -/
def GraphState.Legal (state : GraphState) (nodeId : String) (target : NodeState) : Prop :=
  ∃ current, state.stateOf nodeId = .ok current ∧ target ∈ allowedTransitions current

theorem allowed_scheduled {current target : NodeState} (h : target ∈ allowedTransitions current) :
    current.standing = .active ∧ target.isScheduled = true := by
  cases current <;> cases target <;> simp_all [allowedTransitions, NodeState.standing,
    NodeState.isScheduled]

theorem undecided_of_active {states : States} {nodeId : String} {own : NodeState}
    (hown : states nodeId = some own) (hactive : own.standing = .active) :
    Undecided states nodeId := by
  refine ⟨own, hown, ?_, ?_⟩
  · rintro rfl
    cases hactive
  · rw [mem_unsuccessful_iff, hactive]
    rintro (h | h) <;> cases h

theorem GraphState.new_of_checked {graph : WorkflowGraph} {nodeStates : List (String × NodeState)}
    (h : GraphState.check graph nodeStates = .ok ()) :
    GraphState.new graph nodeStates = .ok ⟨graph, nodeStates, h⟩ := by
  unfold GraphState.new
  split
  · rfl
  · rename_i error herror
    rw [h] at herror
    cases herror

section Legal

variable {state : GraphState} {nodeId : String} {target : NodeState}

/-- After a legal move every node but a blocked one is sound still. -/
theorem GraphState.Legal.sound (h : state.Legal nodeId target) :
    ∀ node ∈ state.graph.nodes,
      NodeSound ((statesOf state.nodeStates).set nodeId target) node := by
  obtain ⟨current, hcurrent, hallowed⟩ := h
  rw [state.stateOf_ok] at hcurrent
  obtain ⟨hactive, htarget⟩ := allowed_scheduled hallowed
  obtain ⟨node, hnode, rfl⟩ := List.mem_map.mp
    ((state.statesOf_isSome nodeId).mp ⟨current, hcurrent⟩)
  obtain ⟨own, hchecked⟩ := state.node hnode
  obtain rfl : current = own := Option.some.inj (hcurrent.symm.trans hchecked.own)
  refine sound_set (fun other hother => ?_) hnode (undecided_of_active hcurrent hactive)
    (fun _ => ?_) fun hskipped => ?_
  · obtain ⟨_, hother⟩ := state.node hother
    exact hother.sound
  · -- the node was scheduled before
    apply hchecked.scheduled
    rw [isScheduled_iff, hactive]
    exact ⟨by simp, by simp⟩
  · rw [hskipped] at htarget
    cases htarget

/-- A blocked node rightly waits still when the target ends nothing. -/
theorem GraphState.Legal.waits (h : state.Legal nodeId target)
    (hopen : target ∉ terminalNodeStates) {node : GraphNode} (hnode : node ∈ state.graph.nodes)
    (hblocked : ((statesOf state.nodeStates).set nodeId target) node.nodeId = some .blocked) :
    NodeWaits ((statesOf state.nodeStates).set nodeId target) node := by
  obtain ⟨current, hcurrent, hallowed⟩ := h
  obtain ⟨-, htarget⟩ := allowed_scheduled hallowed
  have hother : node.nodeId ≠ nodeId := by
    intro hself
    rw [hself, States.set_self, Option.some.injEq] at hblocked
    rw [hblocked] at htarget
    cases htarget
  rw [States.set_other _ _ hother] at hblocked
  obtain ⟨own, hchecked⟩ := state.node hnode
  obtain rfl : NodeState.blocked = own := Option.some.inj (hblocked.symm.trans hchecked.own)
  obtain ⟨⟨dependency, hdependency, hunfinished⟩, hhopeful⟩ := hchecked.blocked rfl
  refine ⟨⟨dependency, hdependency, ?_⟩, fun other hdependency value hvalue hunsuccessful => ?_⟩
  · by_cases hself : dependency = nodeId
    · rw [hself, States.set_self]
      rintro ⟨⟩
      exact hopen (by decide)
    · rw [States.set_other _ _ hself]
      exact hunfinished
  · by_cases hself : other = nodeId
    · rw [hself, States.set_self, Option.some.injEq] at hvalue
      rw [← hvalue] at hunsuccessful
      exact hopen (List.mem_of_mem_filter hunsuccessful)
    · rw [States.set_other _ _ hself] at hvalue
      exact hhopeful other hdependency value hvalue hunsuccessful

/-- The states after a legal move pass the check of every node. -/
theorem GraphState.Legal.moved (h : state.Legal nodeId target) :
    ∃ states, state.moved nodeId target = .ok states ∧
      ∀ node ∈ state.graph.nodes, ∃ own, NodeChecked states node own := by
  unfold GraphState.moved
  by_cases hterminal : target ∈ terminalNodeStates
  · rw [if_pos hterminal]
    refine refreshWaitingNodes_total ?_ h.sound
    have hle : blockedCount ((statesOf state.nodeStates).set nodeId target) state.graph.nodes ≤
        state.graph.nodes.length := List.countP_le_length
    omega
  · rw [if_neg hterminal]
    exact ⟨_, rfl, fun node hnode => (h.sound node hnode).checked (h.waits hterminal hnode)⟩

/-- **A legal transition succeeds**: the collected states pass every check of the
constructor. -/
theorem GraphState.Legal.transition (h : state.Legal nodeId target) :
    ∃ states nodeStates updated, state.moved nodeId target = .ok states ∧
      collectStates states state.graph.nodes = .ok nodeStates ∧
      GraphState.check state.graph nodeStates = .ok () ∧
      state.transition nodeId target = .ok updated ∧ updated.nodeStates = nodeStates := by
  obtain ⟨states, hmoved, hchecked⟩ := h.moved
  have hsome : ∀ node ∈ state.graph.nodes, ∃ own, states node.nodeId = some own :=
    fun node hnode => (hchecked node hnode).imp fun _ hown => hown.own
  obtain ⟨nodeStates, hcollect, hkeys⟩ := collectStates_total hsome
  have hnodup : (nodeStates.map Prod.fst).Nodup := by
    rw [hkeys]
    exact state.graph.accepted.nodup
  -- on the nodes of the graph, and so on their dependencies, nothing was lost
  have hsame : ∀ other ∈ state.graph.nodes.map GraphNode.nodeId,
      statesOf nodeStates other = states other := by
    intro other hother
    obtain ⟨node, hnode, rfl⟩ := List.mem_map.mp hother
    obtain ⟨own, hown⟩ := hchecked node hnode
    rw [hown.own]
    exact (Workflows.statesOf_iff hnodup).mpr ((collectStates_ok hcollect _ own).mpr ⟨hother, hown.own⟩)
  have hcheck : GraphState.check state.graph nodeStates = .ok () := by
    rw [GraphState.check, ensure_bind_ok, decide_eq_true_eq]
    refine ⟨hkeys, checkNodes_of_checked fun node hnode => ?_⟩
    obtain ⟨own, hown⟩ := hchecked node hnode
    exact ⟨own, hown.congr (hsame _ (List.mem_map_of_mem hnode)) fun dependency hdependency =>
      hsame dependency (state.graph.accepted.known node hnode dependency hdependency)⟩
  refine ⟨states, nodeStates, ⟨state.graph, nodeStates, hcheck⟩, hmoved, hcollect, hcheck, ?_, rfl⟩
  obtain ⟨current, hcurrent, hallowed⟩ := h
  rw [GraphState.transition, hcurrent, except_ok_bind, except_bind_ok]
  refine ⟨(), ?_, ?_⟩
  · rw [ensure_ok, decide_eq_true hallowed]
  · rw [hmoved, except_ok_bind, hcollect, except_ok_bind]
    exact GraphState.new_of_checked hcheck

end Legal

theorem GraphState.legal_of_ok {state updated : GraphState} {nodeId : String}
    {target : NodeState} (h : state.transition nodeId target = .ok updated) :
    state.Legal nodeId target := by
  obtain ⟨current, hcurrent, hallowed, -⟩ := transition_ok h
  exact ⟨current, state.stateOf_ok.mpr hcurrent, hallowed⟩

/-- A move is refused for an unknown node or an edge that is not there. -/
theorem GraphState.not_legal_iff (state : GraphState) (nodeId : String) (target : NodeState) :
    ¬ state.Legal nodeId target ↔
      nodeId ∉ state.graph.nodes.map GraphNode.nodeId ∨
        ∃ current, state.stateOf nodeId = .ok current ∧ target ∉ allowedTransitions current := by
  unfold GraphState.Legal
  simp only [state.stateOf_ok, ← state.statesOf_isSome nodeId]
  cases statesOf state.nodeStates nodeId with
  | none => simp
  | some own => simp

/-- What a transition leaves behind: the node has its target, the others keep their
state unless they were blocked, and a blocked node that changed is ready or
skipped. -/
structure GraphState.Outcome (state updated : GraphState) (nodeId : String) (target : NodeState) :
    Prop where
  graph : updated.graph = state.graph
  moved : updated.stateOf nodeId = .ok target
  kept : ∀ other own, other ≠ nodeId → own ≠ .blocked → state.stateOf other = .ok own →
    updated.stateOf other = .ok own
  released : ∀ other own, other ≠ nodeId → state.stateOf other = .ok .blocked →
    updated.stateOf other = .ok own → own ≠ .blocked → own = .ready ∨ own = .skipped

theorem GraphState.outcome {state updated : GraphState} {nodeId : String} {target : NodeState}
    (h : state.transition nodeId target = .ok updated) : state.Outcome updated nodeId target := by
  obtain ⟨-, -, -, hgraph, hmoved, hothers⟩ := transition_ok h
  refine ⟨hgraph, updated.stateOf_ok.mpr hmoved, fun other own hother hblocked hown => ?_,
    fun other own hother hown hnew hchanged => ?_⟩
  · rw [state.stateOf_ok] at hown
    rw [updated.stateOf_ok]
    rcases hothers other hother with hsame | ⟨hwaiting, -⟩
    · rw [hsame, hown]
    · rw [hown, Option.some.injEq] at hwaiting
      exact absurd hwaiting hblocked
  · rw [state.stateOf_ok] at hown
    rw [updated.stateOf_ok] at hnew
    rcases hothers other hother with hsame | ⟨-, hready | hskipped⟩
    · rw [hsame, hown, Option.some.injEq] at hnew
      exact absurd hnew.symm hchanged
    · exact Or.inl (Option.some.inj (hnew.symm.trans hready))
    · exact Or.inr (Option.some.inj (hnew.symm.trans hskipped))

/-- **Totality of transitions.**  A transition raises exactly when the node is
unknown or the target is not allowed for its state.  In all other cases the
propagation restores every condition of the constructor, which accepts the new
states; nodes that are neither moved nor blocked keep their state, and a blocked
node that changed is ready or skipped. -/
theorem transition_total (state : GraphState) (nodeId : String) (target : NodeState) :
    ((∃ error, state.transition nodeId target = .error error) ↔
      nodeId ∉ state.graph.nodes.map GraphNode.nodeId ∨
        ∃ current, state.stateOf nodeId = .ok current ∧ target ∉ allowedTransitions current) ∧
    (state.Legal nodeId target → ∃ states nodeStates updated,
      state.moved nodeId target = .ok states ∧
      collectStates states state.graph.nodes = .ok nodeStates ∧
      GraphState.check state.graph nodeStates = .ok () ∧
      state.transition nodeId target = .ok updated ∧ updated.nodeStates = nodeStates ∧
      state.Outcome updated nodeId target) := by
  refine ⟨?_, fun hlegal => ?_⟩
  · rw [← state.not_legal_iff]
    constructor
    · rintro ⟨error, herror⟩ hlegal
      obtain ⟨_, _, updated, -, -, -, hmove, -⟩ := hlegal.transition
      rw [hmove] at herror
      cases herror
    · intro hlegal
      cases hmove : state.transition nodeId target with
      | error error => exact ⟨error, rfl⟩
      | ok updated => exact absurd (GraphState.legal_of_ok hmove) hlegal
  · obtain ⟨states, nodeStates, updated, hmoved, hcollect, hcheck, hmove, hlist⟩ :=
      hlegal.transition
    exact ⟨states, nodeStates, updated, hmoved, hcollect, hcheck, hmove, hlist,
      GraphState.outcome hmove⟩

/-! ### Two outcomes -/

/-- The states of a graph are given by the state of every node. -/
theorem GraphState.ext_of_statesOf {first second : GraphState} (hgraph : first.graph = second.graph)
    (hsame : ∀ nodeId, statesOf first.nodeStates nodeId = statesOf second.nodeStates nodeId) :
    first = second := by
  have hkeys : first.nodeStates.map Prod.fst = second.nodeStates.map Prod.fst := by
    rw [first.keys, second.keys, hgraph]
  have hnodup : (first.nodeStates.map Prod.fst).Nodup := by
    rw [first.keys]
    exact first.graph.accepted.nodup
  have hlist := nodeStates_ext hkeys hnodup hsame
  obtain ⟨graph, nodeStates, hchecked⟩ := first
  obtain ⟨graph', nodeStates', hchecked'⟩ := second
  cases hgraph
  cases hlist
  rfl

/-- A node that waited: blocked, ready or skipped now. -/
def Waited (own : Option NodeState) : Prop :=
  own = some .blocked ∨ own = some .ready ∨ own = some .skipped

theorem Waited.open_standing {state : GraphState} {nodeId : String}
    (h : Waited (statesOf state.nodeStates nodeId)) : (state.standing nodeId).Open := by
  unfold GraphState.standing
  rcases h with h | h | h
  · rw [h]
    exact Or.inl rfl
  · rw [h]
    exact Or.inr (Or.inl rfl)
  · rw [h]
    exact Or.inr (Or.inr rfl)

/-- The three states of a node that waited differ in their standing. -/
theorem Waited.eq_of_standing {first second : GraphState} {nodeId : String}
    (h : Waited (statesOf first.nodeStates nodeId))
    (h' : Waited (statesOf second.nodeStates nodeId))
    (hstanding : first.standing nodeId = second.standing nodeId) :
    statesOf first.nodeStates nodeId = statesOf second.nodeStates nodeId := by
  unfold GraphState.standing at hstanding
  unfold Waited at h h'
  generalize statesOf first.nodeStates nodeId = own at h hstanding
  generalize statesOf second.nodeStates nodeId = own' at h' hstanding
  rcases h with rfl | rfl | rfl <;> rcases h' with rfl | rfl | rfl <;>
    simp_all [NodeState.standing]

section Pair

variable {state afterFirst final : GraphState} {first second : String}
  {target other : NodeState}

/-- After two transitions the two nodes have their targets; any other node keeps its
state, or it was blocked and has waited. -/
theorem two_transitions (hdistinct : first ≠ second)
    (hfirst : state.transition first target = .ok afterFirst)
    (hsecond : afterFirst.transition second other = .ok final) :
    final.graph = state.graph ∧ statesOf final.nodeStates first = some target ∧
      statesOf final.nodeStates second = some other ∧
      ∀ nodeId, nodeId ≠ first → nodeId ≠ second →
        statesOf final.nodeStates nodeId = statesOf state.nodeStates nodeId ∨
          (statesOf state.nodeStates nodeId = some .blocked ∧
            Waited (statesOf final.nodeStates nodeId)) := by
  obtain ⟨_, -, hallowed, hgraph, hmoved, hothers⟩ := transition_ok hfirst
  obtain ⟨_, -, -, hgraph', hmoved', hothers'⟩ := transition_ok hsecond
  refine ⟨hgraph'.trans hgraph, ?_, hmoved', fun nodeId hne hne' => ?_⟩
  · rcases hothers' first hdistinct with hsame | ⟨hblocked, -⟩
    · rw [hsame, hmoved]
    · rw [hmoved, Option.some.injEq] at hblocked
      exact absurd hblocked (allowed_ne_blocked hallowed).1
  · rcases hothers nodeId hne with hsame | ⟨hblocked, hreleased⟩
    · rcases hothers' nodeId hne' with hsame' | ⟨hblocked', hreleased'⟩
      · exact Or.inl (hsame'.trans hsame)
      · exact Or.inr ⟨hsame ▸ hblocked', Or.inr hreleased'⟩
    · right
      refine ⟨hblocked, ?_⟩
      rcases hothers' nodeId hne' with hsame' | ⟨hblocked', -⟩
      · rw [hsame']
        exact Or.inr hreleased
      · rw [hblocked'] at hreleased
        rcases hreleased with hready | hskipped
        · cases hready
        · cases hskipped

/-- A legal move stays legal when another node moves. -/
theorem GraphState.Legal.after (h : state.Legal second other) (hdistinct : second ≠ first)
    (hmove : state.transition first target = .ok afterFirst) : afterFirst.Legal second other := by
  obtain ⟨current, hcurrent, hallowed⟩ := h
  refine ⟨current, (GraphState.outcome hmove).kept second current hdistinct ?_ hcurrent, hallowed⟩
  rintro rfl
  cases hallowed

end Pair

/-- The outcomes of two distinct nodes commute. -/
def GraphState.Confluent (state : GraphState) : Prop :=
  ∀ first second target other afterFirst afterSecond, first ≠ second →
    state.transition first target = .ok afterFirst →
    state.transition second other = .ok afterSecond →
    ∃ final, afterFirst.transition second other = .ok final ∧
      afterSecond.transition first target = .ok final

/-- **Confluence.**  Two legal moves of distinct nodes may be made in either order,
with the same states in the end: outcomes may be reported in any order. -/
theorem outcomes_commute (state : GraphState) : state.Confluent := by
  intro first second target other afterFirst afterSecond hdistinct hfirst hsecond
  obtain ⟨-, -, final, -, -, -, hfinal, -⟩ :=
    ((GraphState.legal_of_ok hsecond).after hdistinct.symm hfirst).transition
  obtain ⟨-, -, final', -, -, -, hfinal', -⟩ :=
    ((GraphState.legal_of_ok hfirst).after hdistinct hsecond).transition
  obtain ⟨hgraph, hself, hother, hrest⟩ := two_transitions hdistinct hfirst hfinal
  obtain ⟨hgraph', hother', hself', hrest'⟩ := two_transitions hdistinct.symm hsecond hfinal'
  -- the same state, or a node that waited, in both orders
  have hcases : ∀ nodeId, statesOf final.nodeStates nodeId = statesOf final'.nodeStates nodeId ∨
      (Waited (statesOf final.nodeStates nodeId) ∧
        Waited (statesOf final'.nodeStates nodeId)) := by
    intro nodeId
    by_cases hne : nodeId = first
    · subst hne
      exact Or.inl (hself.trans hself'.symm)
    · by_cases hne' : nodeId = second
      · subst hne'
        exact Or.inl (hother.trans hother'.symm)
      · rcases hrest nodeId hne hne' with hsame | ⟨hblocked, hwaited⟩
        · rcases hrest' nodeId hne' hne with hsame' | ⟨hblocked', hwaited'⟩
          · exact Or.inl (hsame.trans hsame'.symm)
          · exact Or.inr ⟨Or.inl (hsame.trans hblocked'), hwaited'⟩
        · rcases hrest' nodeId hne' hne with hsame' | ⟨-, hwaited'⟩
          · exact Or.inr ⟨hwaited, Or.inl (hsame'.trans hblocked)⟩
          · exact Or.inr ⟨hwaited, hwaited'⟩
  -- the dependencies leave a node that waited one standing
  have hstanding : final.standing = final'.standing := by
    have hconsistent' := final'.consistent
    rw [hgraph', ← hgraph] at hconsistent'
    refine final.consistent.unique hconsistent' final.graph.dependsOn_wellFounded fun nodeId => ?_
    rcases hcases nodeId with hsame | ⟨hwaited, hwaited'⟩
    · left
      unfold GraphState.standing
      rw [hsame]
    · exact Or.inr ⟨hwaited.open_standing, hwaited'.open_standing⟩
  have hsame : final = final' := by
    refine GraphState.ext_of_statesOf (hgraph.trans hgraph'.symm) fun nodeId => ?_
    rcases hcases nodeId with hsame | ⟨hwaited, hwaited'⟩
    · exact hsame
    · exact hwaited.eq_of_standing hwaited' (congrFun hstanding nodeId)
  exact ⟨final, hfinal, hsame ▸ hfinal'⟩

end Workflows
end Ryuk

import Ryuk.Foundation.Saturation
import Ryuk.Workflows.Transition

/-!
# The loop over the waiting nodes

`_refresh_waiting_nodes` visits the nodes in the order of the graph and changes the
dictionary while it goes, so a node sees what the same pass did to the nodes before
it.  The two rules, skip a node with an unsuccessful dependency and release one
whose dependencies all succeeded, are stable: a state that is not `BLOCKED` is never
changed again.  So the visiting order decides how many passes the loop takes, and
nothing else.
-/

namespace Ryuk
namespace Workflows

open Foundation Foundation.Json Foundation.Dependency Foundation.Saturation

/-! ### Dictionaries of states -/

theorem States.set_self (states : States) (nodeId : String) (state : NodeState) :
    (states.set nodeId state) nodeId = some state := by
  unfold States.set
  rw [Function.update_self]

theorem States.set_other (states : States) {nodeId other : String} (state : NodeState)
    (hother : other ≠ nodeId) : (states.set nodeId state) other = states other := by
  unfold States.set
  rw [Function.update_of_ne hother]

theorem States.set_known {states : States} {nodeId other : String} {state : NodeState}
    (h : ∃ value, states other = some value) :
    ∃ value, (states.set nodeId state) other = some value := by
  by_cases hother : other = nodeId
  · subst hother
    exact ⟨state, states.set_self other state⟩
  · rw [states.set_other state hother]
    exact h

theorem dependencyStates_total {states : States} {dependencies : List String}
    (h : ∀ dependency ∈ dependencies, ∃ value, states dependency = some value) :
    ∃ values, dependencyStates states dependencies = .ok values := by
  induction dependencies with
  | nil => exact ⟨[], rfl⟩
  | cons dependency rest ih =>
      obtain ⟨value, hvalue⟩ := h dependency (List.mem_cons_self ..)
      obtain ⟨others, hothers⟩ := ih fun other hother => h other (List.mem_cons_of_mem _ hother)
      refine ⟨value :: others, ?_⟩
      rw [dependencyStates, States.get_ok.mpr hvalue, hothers]
      rfl

/-- The dependencies read from the states, tested one by one. -/
theorem any_dependencyStates {states : States} {dependencies : List String}
    {values : List NodeState} (h : dependencyStates states dependencies = .ok values)
    {test : NodeState → Bool} :
    values.any test = true ↔
      ∃ dependency ∈ dependencies, ∃ value, states dependency = some value ∧ test value = true := by
  obtain ⟨hforward, hbackward⟩ := dependencyStates_ok h
  rw [List.any_eq_true]
  constructor
  · rintro ⟨value, hvalue, htest⟩
    obtain ⟨dependency, hdependency, hfound⟩ := hbackward value hvalue
    exact ⟨dependency, hdependency, value, hfound, htest⟩
  · rintro ⟨dependency, hdependency, value, hfound, htest⟩
    obtain ⟨value', hvalue', hfound'⟩ := hforward dependency hdependency
    obtain rfl : value = value' := Option.some.inj (hfound.symm.trans hfound')
    exact ⟨value, hvalue', htest⟩

/-- All dependencies succeeded. -/
theorem all_succeeded {states : States} {dependencies : List String}
    {values : List NodeState} (h : dependencyStates states dependencies = .ok values) :
    values.all (fun value => decide (value = .succeeded)) = true ↔
      ∀ dependency ∈ dependencies, states dependency = some .succeeded := by
  obtain ⟨hforward, hbackward⟩ := dependencyStates_ok h
  simp only [List.all_eq_true, decide_eq_true_eq]
  constructor
  · intro hall dependency hdependency
    obtain ⟨value, hvalue, hfound⟩ := hforward dependency hdependency
    rw [hfound, hall value hvalue]
  · intro hall value hvalue
    obtain ⟨dependency, hdependency, hfound⟩ := hbackward value hvalue
    rw [hall dependency hdependency, Option.some.injEq] at hfound
    exact hfound.symm

/-- A blocked node rightly waits: some dependency is still to come, and none failed. -/
structure NodeWaits (states : States) (node : GraphNode) : Prop where
  pending : ∃ dependency ∈ node.dependsOn, states dependency ≠ some .succeeded
  hopeful : ∀ dependency ∈ node.dependsOn, ∀ value, states dependency = some value →
    value ∉ unsuccessfulNodeStates

/-! ### The two rules -/

/-- Some dependency ended without success. -/
def Failing (states : States) (dependencies : List String) : Prop :=
  ∃ dependency ∈ dependencies, ∃ value, states dependency = some value ∧
    value ∈ unsuccessfulNodeStates

/-- Every dependency succeeded. -/
def Complete (states : States) (dependencies : List String) : Prop :=
  ∀ dependency ∈ dependencies, states dependency = some .succeeded

theorem Failing.not_complete {states : States} {dependencies : List String}
    (h : Failing states dependencies) : ¬ Complete states dependencies := by
  obtain ⟨dependency, hdependency, value, hvalue, hunsuccessful⟩ := h
  intro hcomplete
  rw [hcomplete dependency hdependency, Option.some.injEq] at hvalue
  subst hvalue
  cases (by decide : NodeState.succeeded ∉ unsuccessfulNodeStates) hunsuccessful

/-- A node waits when neither rule applies to it. -/
theorem nodeWaits_iff {states : States} {node : GraphNode} :
    NodeWaits states node ↔
      ¬ Failing states node.dependsOn ∧ ¬ Complete states node.dependsOn := by
  unfold Failing Complete
  push Not
  exact ⟨fun h => ⟨h.hopeful, h.pending⟩, fun h => ⟨h.2, h.1⟩⟩

/-- The rules read the states of the dependencies only. -/
theorem Failing.congr {states later : States} {dependencies : List String}
    (hsame : ∀ dependency ∈ dependencies, later dependency = states dependency)
    (h : Failing states dependencies) : Failing later dependencies := by
  obtain ⟨dependency, hdependency, value, hvalue, hunsuccessful⟩ := h
  exact ⟨dependency, hdependency, value, (hsame dependency hdependency).trans hvalue,
    hunsuccessful⟩

theorem Complete.congr {states later : States} {dependencies : List String}
    (hsame : ∀ dependency ∈ dependencies, later dependency = states dependency)
    (h : Complete states dependencies) : Complete later dependencies :=
  fun dependency hdependency => (hsame dependency hdependency).trans (h dependency hdependency)

/-- The decided states stay, so a rule that applies keeps applying. -/
theorem Failing.refines {before after : States} {dependencies : List String}
    (hrefines : Refines (some NodeState.blocked) before after)
    (h : Failing before dependencies) : Failing after dependencies := by
  obtain ⟨dependency, hdependency, value, hvalue, hunsuccessful⟩ := h
  refine ⟨dependency, hdependency, value, ?_, hunsuccessful⟩
  rw [hrefines dependency, hvalue]
  rw [hvalue, ne_eq, Option.some.injEq]
  rintro rfl
  cases (by decide : NodeState.blocked ∉ unsuccessfulNodeStates) hunsuccessful

theorem Complete.refines {before after : States} {dependencies : List String}
    (hrefines : Refines (some NodeState.blocked) before after)
    (h : Complete before dependencies) : Complete after dependencies := by
  intro dependency hdependency
  have hvalue := h dependency hdependency
  rw [hrefines dependency, hvalue]
  rw [hvalue, ne_eq, Option.some.injEq]
  exact NodeState.noConfusion

/-- What the loop does with a node: skip it after a failed dependency, release it
when all dependencies succeeded. -/
def Resolves (states : States) (node : GraphNode) (label : Option NodeState) : Prop :=
  (Failing states node.dependsOn ∧ label = some .skipped) ∨
    (Complete states node.dependsOn ∧ label = some .ready)

/-- The rules of `_refresh_waiting_nodes`. -/
def WorkflowGraph.refreshRules (graph : WorkflowGraph) : Rules String (Option NodeState) where
  waiting := some .blocked
  fires states nodeId label := ∃ node ∈ graph.nodes, node.nodeId = nodeId ∧
    Resolves states node label
  labels := by
    rintro _ _ _ ⟨node, -, -, ⟨-, rfl⟩ | ⟨-, rfl⟩⟩ <;> decide
  stable := by
    rintro before after _ _ hrefines ⟨node, hnode, hid, ⟨hfailing, hlabel⟩ | ⟨hcomplete, hlabel⟩⟩
    · exact ⟨node, hnode, hid, Or.inl ⟨hfailing.refines hrefines, hlabel⟩⟩
    · exact ⟨node, hnode, hid, Or.inr ⟨hcomplete.refines hrefines, hlabel⟩⟩
  deterministic := by
    rintro states _ _ _ ⟨node, hnode, rfl, hlabel⟩ ⟨node', hnode', hid, hother⟩
    obtain rfl := graph.unique hnode' hnode hid
    rcases hlabel with ⟨hfailing, rfl⟩ | ⟨hcomplete, rfl⟩
    · rcases hother with ⟨-, rfl⟩ | ⟨hcomplete, -⟩
      · rfl
      · exact absurd hcomplete hfailing.not_complete
    · rcases hother with ⟨hfailing, -⟩ | ⟨-, rfl⟩
      · exact absurd hcomplete hfailing.not_complete
      · rfl

theorem refreshRules_settled {graph : WorkflowGraph} {states : States}
    (h : ∀ node ∈ graph.nodes, states node.nodeId = some .blocked → NodeWaits states node) :
    graph.refreshRules.Settled states := by
  rintro _ hwaiting label ⟨node, hnode, rfl, hresolves⟩
  obtain ⟨hfailing, hcomplete⟩ := nodeWaits_iff.mp (h node hnode hwaiting)
  rcases hresolves with ⟨hfails, -⟩ | ⟨hcompletes, -⟩
  · exact hfailing hfails
  · exact hcomplete hcompletes

/-! ### A pass -/

/-- Every node of the graph has a state. -/
def Covers (graph : WorkflowGraph) (states : States) : Prop :=
  ∀ node ∈ graph.nodes, ∃ own, states node.nodeId = some own

section Loop

variable {graph : WorkflowGraph}

theorem Covers.known {states : States} (h : Covers graph states) {node : GraphNode}
    (hnode : node ∈ graph.nodes) :
    ∀ dependency ∈ node.dependsOn, ∃ value, states dependency = some value := by
  intro dependency hdependency
  obtain ⟨other, hother, rfl⟩ := List.mem_map.mp
    (graph.accepted.known node hnode dependency hdependency)
  exact h other hother

theorem Covers.set {states : States} (h : Covers graph states) (nodeId : String)
    (state : NodeState) : Covers graph (states.set nodeId state) :=
  fun node hnode => States.set_known (h node hnode)

/-- **Pass lemma.**  Whatever nodes of the graph a pass visits, and in whatever order,
it only fires rules; when it changed nothing, every blocked node it visited rightly
waits. -/
theorem refreshPass_run {states : States} (changed : Bool) {nodes : List GraphNode}
    (hnodes : ∀ node ∈ nodes, node ∈ graph.nodes) (hcovers : Covers graph states) :
    ∃ final result, refreshPass states changed nodes = .ok (final, result) ∧
      Relation.ReflTransGen graph.refreshRules.Step states final ∧ Covers graph final ∧
      (changed = true → result = true) ∧
      (result = false → final = states ∧
        ∀ node ∈ nodes, states node.nodeId = some .blocked → NodeWaits states node) := by
  induction nodes generalizing states changed with
  | nil =>
      exact ⟨states, changed, rfl, .refl, hcovers, fun hchanged => hchanged, fun _ =>
        ⟨rfl, fun node hnode => absurd hnode List.not_mem_nil⟩⟩
  | cons node rest ih =>
      have hnode := hnodes node (List.mem_cons_self ..)
      have hrest : ∀ other ∈ rest, other ∈ graph.nodes := fun other hother =>
        hnodes other (List.mem_cons_of_mem _ hother)
      obtain ⟨state, hstate⟩ := hcovers node hnode
      rw [refreshPass, States.get_ok.mpr hstate, except_ok_bind]
      -- a node that stays as it is leaves the rest of the pass alone
      have hkept : (states node.nodeId = some .blocked → NodeWaits states node) →
          ∃ final result, refreshPass states changed rest = .ok (final, result) ∧
            Relation.ReflTransGen graph.refreshRules.Step states final ∧ Covers graph final ∧
            (changed = true → result = true) ∧
            (result = false → final = states ∧
              ∀ other ∈ node :: rest, states other.nodeId = some .blocked →
                NodeWaits states other) := by
        intro hwaits
        obtain ⟨final, result, hpass, hrun, hfinal, hchanged, hsettled⟩ :=
          ih changed hrest hcovers
        refine ⟨final, result, hpass, hrun, hfinal, hchanged, fun hfalse => ?_⟩
        obtain ⟨hsame, hothers⟩ := hsettled hfalse
        refine ⟨hsame, fun other hother => ?_⟩
        rcases List.mem_cons.mp hother with rfl | hother
        · exact hwaits
        · exact hothers other hother
      by_cases hblocked : state = .blocked
      · subst hblocked
        obtain ⟨values, hvalues⟩ := dependencyStates_total (hcovers.known hnode)
        rw [if_neg (by simp), hvalues, except_ok_bind]
        -- a resolved node is one firing, and the pass reports the change
        have hfired : ∀ state, Resolves states node (some state) →
            ∃ final result,
              refreshPass (states.set node.nodeId state) true rest = .ok (final, result) ∧
              Relation.ReflTransGen graph.refreshRules.Step states final ∧ Covers graph final ∧
              (changed = true → result = true) ∧
              (result = false → final = states ∧
                ∀ other ∈ node :: rest, states other.nodeId = some .blocked →
                  NodeWaits states other) := by
          intro state hresolves
          obtain ⟨final, result, hpass, hrun, hfinal, hchanged, -⟩ := ih true hrest
            (hcovers.set node.nodeId state)
          have hstep : graph.refreshRules.Step states (states.set node.nodeId state) :=
            ⟨node.nodeId, some state, hstate, ⟨node, hnode, rfl, hresolves⟩, rfl⟩
          refine ⟨final, result, hpass, .head hstep hrun, hfinal, fun _ => hchanged rfl,
            fun hfalse => ?_⟩
          rw [hchanged rfl] at hfalse
          cases hfalse
        have hfailing : values.any (fun value => decide (value ∈ unsuccessfulNodeStates)) = true ↔
            Failing states node.dependsOn := by
          rw [any_dependencyStates hvalues]
          simp only [decide_eq_true_eq, Failing]
        by_cases hany : values.any (fun value => decide (value ∈ unsuccessfulNodeStates)) = true
        · rw [if_pos hany]
          exact hfired .skipped (Or.inl ⟨hfailing.mp hany, rfl⟩)
        · rw [if_neg hany]
          by_cases hall : values.all (fun value => decide (value = .succeeded)) = true
          · rw [if_pos hall]
            exact hfired .ready (Or.inr ⟨(all_succeeded hvalues).mp hall, rfl⟩)
          · rw [if_neg hall]
            refine hkept fun _ => nodeWaits_iff.mpr ⟨fun hfails => hany (hfailing.mpr hfails), ?_⟩
            exact fun hcomplete => hall ((all_succeeded hvalues).mpr hcomplete)
      · rw [if_pos hblocked]
        apply hkept
        intro hwaiting
        rw [hstate, Option.some.injEq] at hwaiting
        exact absurd hwaiting hblocked

/-! ### The loop -/

/-- `while changed`: the loop over the nodes ends with the given number of passes. -/
inductive Refreshes (nodes : List GraphNode) : Nat → States → States → Prop where
  | last {states final : States} :
      refreshPass states false nodes = .ok (final, false) → Refreshes nodes 1 states final
  | again {passes : Nat} {states middle final : States} :
      refreshPass states false nodes = .ok (middle, true) →
      Refreshes nodes passes middle final → Refreshes nodes (passes + 1) states final

/-- A loop that ends returns its states, however many more passes it is given. -/
theorem Refreshes.run {nodes : List GraphNode} {passes : Nat} {states final : States}
    (h : Refreshes nodes passes states final) {fuel : Nat} (hfuel : passes ≤ fuel) :
    refreshWaitingNodes nodes fuel states = .ok final := by
  induction h generalizing fuel with
  | last hpass =>
      obtain ⟨fuel, rfl⟩ := Nat.exists_eq_succ_of_ne_zero (by omega : fuel ≠ 0)
      rw [refreshWaitingNodes, hpass, except_ok_bind]
      rfl
  | again hpass _ ih =>
      obtain ⟨fuel, rfl⟩ := Nat.exists_eq_succ_of_ne_zero (by omega : fuel ≠ 0)
      rw [refreshWaitingNodes, hpass, except_ok_bind]
      exact ih (by omega)

/-- **Termination.**  Over any order of the nodes the loop ends, with at most one pass
for every blocked node and one more, in a run of the rules that leaves none of them
to fire. -/
theorem refreshes_total {nodes : List GraphNode} {states : States}
    (hperm : nodes.Perm graph.nodes) (hcovers : Covers graph states) :
    ∃ passes final, passes ≤ blockedCount states graph.nodes + 1 ∧
      Refreshes nodes passes states final ∧
      Relation.ReflTransGen graph.refreshRules.Step states final ∧
      ∀ node ∈ graph.nodes, final node.nodeId = some .blocked → NodeWaits final node := by
  -- each pass that changes something leaves a blocked node fewer
  induction hcount : blockedCount states graph.nodes using Nat.strong_induction_on
    generalizing states with
  | h count ih =>
      obtain ⟨middle, changed, hpass, hrun, hmiddle, -, hsettled⟩ :=
        refreshPass_run false (fun node hnode => hperm.mem_iff.mp hnode) hcovers
      cases changed with
      | false =>
          obtain ⟨rfl, hwaits⟩ := hsettled rfl
          exact ⟨1, middle, by omega, .last hpass, hrun, fun node hnode =>
            hwaits node (hperm.mem_iff.mpr hnode)⟩
      | true =>
          have hlt : blockedCount middle graph.nodes < count := by
            rcases (refreshPass_ok hpass).2 graph.nodes
              (fun _ hnode => hperm.mem_iff.mp hnode) rfl with hfalse | hlt
            · cases hfalse
            · omega
          obtain ⟨passes, final, hpasses, hrefreshes, hrest, hwaits⟩ := ih _ hlt hmiddle rfl
          exact ⟨passes + 1, final, by omega, .again hpass hrefreshes, hrun.trans hrest, hwaits⟩

end Loop

/-! ### What the loop leaves behind -/

/-- An assignment of states: a dictionary whose keys are the nodes of the graph. -/
structure Assignment (graph : WorkflowGraph) where
  states : States
  keys : ∀ nodeId, (∃ own, states nodeId = some own) ↔ nodeId ∈ graph.nodes.map GraphNode.nodeId

theorem Assignment.covers {graph : WorkflowGraph} (start : Assignment graph) :
    Covers graph start.states :=
  fun node hnode => (start.keys node.nodeId).mpr (List.mem_map_of_mem hnode)

/-- Only blocked nodes changed, each by the rule that applies to it, and no blocked
node is left with an unsuccessful dependency or with all dependencies succeeded. -/
structure Refreshed (graph : WorkflowGraph) (before after : States) : Prop where
  kept : ∀ nodeId, before nodeId ≠ some .blocked → after nodeId = before nodeId
  resolved : ∀ node ∈ graph.nodes, before node.nodeId = some .blocked →
    after node.nodeId ≠ some .blocked → Resolves after node (after node.nodeId)
  settled : ∀ node ∈ graph.nodes, after node.nodeId = some .blocked →
    ¬ Failing after node.dependsOn ∧ ¬ Complete after node.dependsOn

/-- Only blocked nodes changed, and each has the state that the rules ask for. -/
structure Complies (graph : WorkflowGraph) (before after : States) : Prop where
  kept : ∀ nodeId, before nodeId ≠ some .blocked → after nodeId = before nodeId
  skipped : ∀ node ∈ graph.nodes, before node.nodeId = some .blocked →
    Failing after node.dependsOn → after node.nodeId = some .skipped
  ready : ∀ node ∈ graph.nodes, before node.nodeId = some .blocked →
    Complete after node.dependsOn → after node.nodeId = some .ready

section Least

variable {graph : WorkflowGraph} {start : Assignment graph} {before after : States}

theorem Refreshed.settles (h : Refreshed graph before after) :
    graph.refreshRules.Settled after :=
  refreshRules_settled fun node hnode hwaiting => nodeWaits_iff.mpr (h.settled node hnode hwaiting)

theorem Refreshed.justified (h : Refreshed graph start.states after) :
    graph.refreshRules.Justified start.states after := by
  refine ⟨h.kept, fun nodeId hwaiting hlabelled => ?_⟩
  obtain ⟨node, hnode, rfl⟩ := List.mem_map.mp ((start.keys nodeId).mp ⟨_, hwaiting⟩)
  exact ⟨node, hnode, rfl, h.resolved node hnode hwaiting hlabelled⟩

theorem refreshed_of_justified (h : graph.refreshRules.Justified before after)
    (hwaits : ∀ node ∈ graph.nodes, after node.nodeId = some .blocked → NodeWaits after node) :
    Refreshed graph before after := by
  refine ⟨h.1, fun node hnode hwaiting hlabelled => ?_, fun node hnode hwaiting =>
    nodeWaits_iff.mp (hwaits node hnode hwaiting)⟩
  obtain ⟨found, hfound, hid, hresolves⟩ := h.2 node.nodeId hwaiting hlabelled
  obtain rfl := graph.unique hfound hnode hid
  exact hresolves

theorem Complies.obeys (h : Complies graph before after) :
    graph.refreshRules.Obeys before after := by
  refine ⟨h.kept, ?_⟩
  rintro _ hwaiting label ⟨node, hnode, rfl, ⟨hfailing, rfl⟩ | ⟨hcomplete, rfl⟩⟩
  · exact h.skipped node hnode hwaiting hfailing
  · exact h.ready node hnode hwaiting hcomplete

/-- The dependencies are well founded, so there is one way to refresh. -/
theorem Refreshed.unique {other : States} (h : Refreshed graph start.states after)
    (h' : Refreshed graph start.states other) : after = other := by
  refine Rules.Justified.unique graph.dependsOn_wellFounded ?_ h.justified h.settles
    h'.justified h'.settles
  rintro labels labels' _ label hsame ⟨node, hnode, rfl, hresolves⟩
  have hsame' : ∀ dependency ∈ node.dependsOn, labels' dependency = labels dependency :=
    fun dependency hdependency => (hsame dependency ⟨node, hnode, rfl, hdependency⟩).symm
  refine ⟨node, hnode, rfl, ?_⟩
  rcases hresolves with ⟨hfailing, hlabel⟩ | ⟨hcomplete, hlabel⟩
  · exact Or.inl ⟨hfailing.congr hsame', hlabel⟩
  · exact Or.inr ⟨hcomplete.congr hsame', hlabel⟩

end Least

/-! ### Renamed graphs -/

/-- The second graph is the first under new node ids, in its own canonical order. -/
structure Renames (rename : String → String) (graph renamed : WorkflowGraph) : Prop where
  ids : (renamed.nodes.map GraphNode.nodeId).Perm
    (graph.nodes.map fun node => rename node.nodeId)
  dependencies : ∀ node ∈ graph.nodes, ∀ node' ∈ renamed.nodes,
    node'.nodeId = rename node.nodeId → node'.dependsOn.Perm (node.dependsOn.map rename)

section Renaming

variable {rename : String → String} {graph renamed : WorkflowGraph} {states : States}

theorem Renames.node (h : Renames rename graph renamed) {node : GraphNode}
    (hnode : node ∈ graph.nodes) :
    ∃ node' ∈ renamed.nodes, node'.nodeId = rename node.nodeId := by
  have hmem : rename node.nodeId ∈ graph.nodes.map fun node => rename node.nodeId :=
    List.mem_map_of_mem hnode
  exact List.mem_map.mp (h.ids.mem_iff.mpr hmem)

/-- The states of the first graph, read through the new names. -/
def readThrough (rename : String → String) (graph : WorkflowGraph) (states : States) : States :=
  fun nodeId => if nodeId ∈ graph.nodes.map GraphNode.nodeId then states (rename nodeId) else none

theorem readThrough_node {node : GraphNode} (hnode : node ∈ graph.nodes) :
    readThrough rename graph states node.nodeId = states (rename node.nodeId) :=
  if_pos (List.mem_map_of_mem hnode)

theorem readThrough_dependency {node : GraphNode} (hnode : node ∈ graph.nodes) :
    ∀ dependency ∈ node.dependsOn,
      readThrough rename graph states dependency = states (rename dependency) :=
  fun dependency hdependency => if_pos (graph.accepted.known node hnode dependency hdependency)

/-- Both rules apply to a node exactly when they apply to it under its new name. -/
theorem Renames.resolves (h : Renames rename graph renamed) {node node' : GraphNode}
    (hnode : node ∈ graph.nodes) (hnode' : node' ∈ renamed.nodes)
    (hid : node'.nodeId = rename node.nodeId) :
    (Failing (readThrough rename graph states) node.dependsOn ↔ Failing states node'.dependsOn) ∧
      (Complete (readThrough rename graph states) node.dependsOn ↔
        Complete states node'.dependsOn) := by
  have hmem : ∀ dependency, dependency ∈ node'.dependsOn ↔
      ∃ own ∈ node.dependsOn, rename own = dependency := fun dependency => by
    rw [(h.dependencies node hnode node' hnode' hid).mem_iff, List.mem_map]
  have hread := @readThrough_dependency rename graph states node hnode
  constructor
  · constructor
    · rintro ⟨own, hown, value, hvalue, hunsuccessful⟩
      rw [hread own hown] at hvalue
      exact ⟨rename own, (hmem _).mpr ⟨own, hown, rfl⟩, value, hvalue, hunsuccessful⟩
    · rintro ⟨dependency, hdependency, value, hvalue, hunsuccessful⟩
      obtain ⟨own, hown, rfl⟩ := (hmem dependency).mp hdependency
      exact ⟨own, hown, value, (hread own hown).trans hvalue, hunsuccessful⟩
  · constructor
    · intro hcomplete dependency hdependency
      obtain ⟨own, hown, rfl⟩ := (hmem dependency).mp hdependency
      rw [← hread own hown]
      exact hcomplete own hown
    · intro hcomplete own hown
      rw [hread own hown]
      exact hcomplete (rename own) ((hmem _).mpr ⟨own, hown, rfl⟩)

/-- What refreshes the renamed graph refreshes the graph. -/
theorem Renames.refreshed (h : Renames rename graph renamed) {start : Assignment graph}
    {start' : Assignment renamed}
    (hstart : ∀ node ∈ graph.nodes, start'.states (rename node.nodeId) = start.states node.nodeId)
    (hrefreshed : Refreshed renamed start'.states states) :
    Refreshed graph start.states (readThrough rename graph states) := by
  refine ⟨fun nodeId hnot => ?_, fun node hnode hwaiting hlabelled => ?_,
    fun node hnode hwaiting => ?_⟩
  · by_cases hmem : nodeId ∈ graph.nodes.map GraphNode.nodeId
    · obtain ⟨node, hnode, rfl⟩ := List.mem_map.mp hmem
      rw [readThrough_node hnode, ← hstart node hnode]
      apply hrefreshed.kept
      rwa [hstart node hnode]
    · -- a name that is not a node has no state, before or after
      rw [readThrough, if_neg hmem]
      cases hown : start.states nodeId with
      | none => rfl
      | some own => exact absurd ((start.keys nodeId).mp ⟨own, hown⟩) hmem
  · obtain ⟨node', hnode', hid⟩ := h.node hnode
    obtain ⟨hfailing, hcomplete⟩ := @Renames.resolves rename graph renamed states h _ _ hnode hnode' hid
    rw [readThrough_node hnode, ← hid] at hlabelled ⊢
    have hbefore : start'.states node'.nodeId = some .blocked := by
      rw [hid, hstart node hnode, hwaiting]
    rcases hrefreshed.resolved node' hnode' hbefore hlabelled with ⟨hfails, hlabel⟩ | ⟨hall, hlabel⟩
    · exact Or.inl ⟨hfailing.mpr hfails, hlabel⟩
    · exact Or.inr ⟨hcomplete.mpr hall, hlabel⟩
  · obtain ⟨node', hnode', hid⟩ := h.node hnode
    obtain ⟨hfailing, hcomplete⟩ := @Renames.resolves rename graph renamed states h _ _ hnode hnode' hid
    rw [readThrough_node hnode, ← hid] at hwaiting
    rw [hfailing, hcomplete]
    exact hrefreshed.settled node' hnode' hwaiting

end Renaming

/-! ### Order independence -/

/-- Over any order of the nodes the loop ends in the same refreshed states, which are
below all states that comply with the rules. -/
theorem refreshes_refreshed {graph : WorkflowGraph} (start : Assignment graph)
    {nodes : List GraphNode} (hperm : nodes.Perm graph.nodes) :
    ∃ passes final, passes ≤ blockedCount start.states graph.nodes + 1 ∧
      Refreshes nodes passes start.states final ∧ Refreshed graph start.states final ∧
      ∀ other, Complies graph start.states other →
        Refines (some NodeState.blocked) final other := by
  obtain ⟨passes, final, hpasses, hrefreshes, hrun, hwaits⟩ :=
    refreshes_total hperm start.covers
  have hleast := (Rules.run_least hrun (refreshRules_settled hwaits)).2
  exact ⟨passes, final, hpasses, hrefreshes,
    refreshed_of_justified (Rules.run_justified hrun) hwaits, fun other hother =>
      hleast other hother.obeys⟩

/-- **The loop is confluent.**  For every accepted graph and every assignment of
states there is one result: the only states that the rules justify and that leave
nothing to do, and the least that comply with the rules.  The loop reaches it over
every order of the nodes, in at most one pass for every blocked node and one more,
and so it does under every renaming of the nodes. -/
theorem refresh_order_independent (graph : WorkflowGraph) (start : Assignment graph) :
    ∃ final,
      (∀ order : List GraphNode, order.Perm graph.nodes →
        ∃ passes ≤ blockedCount start.states graph.nodes + 1,
          Refreshes order passes start.states final ∧
          ∀ fuel ≥ passes, refreshWaitingNodes order fuel start.states = .ok final) ∧
      Refreshed graph start.states final ∧
      (∀ other, Refreshed graph start.states other → other = final) ∧
      Complies graph start.states final ∧
      (∀ other, Complies graph start.states other →
        Refines (some NodeState.blocked) final other) ∧
      ∀ (rename : String → String) (renamed : WorkflowGraph) (start' : Assignment renamed),
        Renames rename graph renamed →
        (∀ node ∈ graph.nodes,
          start'.states (rename node.nodeId) = start.states node.nodeId) →
        ∃ passes ≤ blockedCount start'.states renamed.nodes + 1, ∃ final',
          Refreshes renamed.nodes passes start'.states final' ∧
          ∀ node ∈ graph.nodes, final' (rename node.nodeId) = final node.nodeId := by
  obtain ⟨-, final, -, -, hrefreshed, hleast⟩ := refreshes_refreshed start (List.Perm.refl _)
  have hobeys := hrefreshed.justified.obeys hrefreshed.settles
  refine ⟨final, fun order hperm => ?_, hrefreshed, fun other hother => hother.unique hrefreshed,
    ⟨hrefreshed.kept, fun node hnode hwaiting hfailing => ?_,
      fun node hnode hwaiting hcomplete => ?_⟩, hleast,
    fun rename renamed start' hrenames hstart => ?_⟩
  · obtain ⟨passes, other, hpasses, hrefreshes, hother, -⟩ := refreshes_refreshed start hperm
    obtain rfl := hother.unique hrefreshed
    exact ⟨passes, hpasses, hrefreshes, fun fuel hfuel => hrefreshes.run hfuel⟩
  · exact hobeys.2 node.nodeId hwaiting _ ⟨node, hnode, rfl, Or.inl ⟨hfailing, rfl⟩⟩
  · exact hobeys.2 node.nodeId hwaiting _ ⟨node, hnode, rfl, Or.inr ⟨hcomplete, rfl⟩⟩
  · obtain ⟨passes, final', hpasses, hrefreshes, hrefreshed', -⟩ :=
      refreshes_refreshed start' (List.Perm.refl _)
    refine ⟨passes, hpasses, final', hrefreshes, fun node hnode => ?_⟩
    have hsame := (hrenames.refreshed hstart hrefreshed').unique hrefreshed
    rw [← hsame, readThrough_node hnode]

end Workflows
end Ryuk

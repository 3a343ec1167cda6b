import Ryuk.Foundation.History
import Ryuk.Workflows.GraphStore
import Ryuk.Workflows.Transition

/-!
# The history of a graph

A transition of one node may release or skip others, and the store writes one
event for each change.  `EventAllowed` says which event may follow a history;
the order in which the derived changes are written puts every reason before what
it explains.
-/

namespace Ryuk
namespace Workflows

open Foundation Foundation.Json Foundation.Dependency Foundation.History Relation

/-! ### Events -/

/-- The state of a node in a new graph. -/
def GraphNode.initialState (node : GraphNode) : NodeState :=
  if node.dependsOn.isEmpty then .ready else .blocked

/-- Which event may follow a history that replays to these states: the first
event of a node, an allowed transition of a node, or the release or the skip of a
blocked node whose direct dependencies give the reason. -/
inductive EventAllowed (graph : WorkflowGraph) (states : States) : String × NodeState → Prop
  | created {node : GraphNode} (hnode : node ∈ graph.nodes) (habsent : states node.nodeId = none) :
      EventAllowed graph states (node.nodeId, node.initialState)
  | moved {nodeId : String} {own target : NodeState} (hown : states nodeId = some own)
      (hallowed : target ∈ allowedTransitions own) : EventAllowed graph states (nodeId, target)
  | released {node : GraphNode} (hnode : node ∈ graph.nodes)
      (hblocked : states node.nodeId = some .blocked)
      (hdependencies : ∀ dependency ∈ node.dependsOn, states dependency = some .succeeded) :
      EventAllowed graph states (node.nodeId, .ready)
  | skipped {node : GraphNode} {dependency : String} {value : NodeState}
      (hnode : node ∈ graph.nodes) (hblocked : states node.nodeId = some .blocked)
      (hdependency : dependency ∈ node.dependsOn) (hvalue : states dependency = some value)
      (hunsuccessful : value ∈ unsuccessfulNodeStates) :
      EventAllowed graph states (node.nodeId, .skipped)

/-! ### The order of derived events -/

/-- A list in which every node comes after the listed nodes it depends on. -/
def Ordered (graph : WorkflowGraph) (ordered : List String) : Prop :=
  ∀ before nodeId later, ordered = before ++ nodeId :: later →
    ∀ other, graph.DependsOn nodeId other → other ∈ ordered → other ∈ before

/-- Among nodes of a graph there is one without a dependency among them. -/
theorem exists_eligible (graph : WorkflowGraph) {pending : List String} (hpending : pending ≠ [])
    (hnodes : ∀ nodeId ∈ pending, nodeId ∈ graph.nodes.map GraphNode.nodeId) :
    ∃ node ∈ graph.nodes, node.nodeId ∈ pending ∧
      ∀ dependency ∈ node.dependsOn, dependency ∉ pending := by
  obtain ⟨first, hfirst⟩ := List.exists_mem_of_ne_nil pending hpending
  obtain ⟨least, hleast, hmin⟩ := graph.dependsOn_wellFounded.has_min
    {nodeId | nodeId ∈ pending} ⟨first, hfirst⟩
  obtain ⟨node, hnode, rfl⟩ := List.mem_map.mp (hnodes least hleast)
  refine ⟨node, hnode, hleast, fun dependency hdependency hmem => ?_⟩
  exact hmin dependency hmem ⟨node, hnode, rfl, hdependency⟩

/-- The nodes one round of the ordering takes. -/
def eligibleNodes (nodes : List GraphNode) (pending : List String) : List String :=
  (nodes.filter fun node => decide (node.nodeId ∈ pending) &&
    node.dependsOn.all fun dependency => decide (dependency ∉ pending)).map GraphNode.nodeId

theorem mem_eligibleNodes {nodes : List GraphNode} {pending : List String} {nodeId : String} :
    nodeId ∈ eligibleNodes nodes pending ↔ nodeId ∈ pending ∧ ∃ node ∈ nodes,
      node.nodeId = nodeId ∧ ∀ dependency ∈ node.dependsOn, dependency ∉ pending := by
  unfold eligibleNodes
  simp only [List.mem_map, List.mem_filter, Bool.and_eq_true, decide_eq_true_eq, List.all_eq_true]
  constructor
  · rintro ⟨node, ⟨hnode, hpending, hall⟩, rfl⟩
    exact ⟨hpending, node, hnode, rfl, hall⟩
  · rintro ⟨hpending, node, hnode, rfl, hall⟩
    exact ⟨node, ⟨hnode, hpending, hall⟩, rfl⟩

/-- What the ordering returns: the pending nodes, each once and after those it
depends on. -/
structure OrderedAs (graph : WorkflowGraph) (pending ordered : List String) : Prop where
  mem : ∀ nodeId, nodeId ∈ ordered ↔ nodeId ∈ pending
  nodup : ordered.Nodup
  ordered : Ordered graph ordered

/-- A round in front of an ordered rest. -/
theorem OrderedAs.round {graph : WorkflowGraph} {pending rest : List String}
    (h : OrderedAs graph (pending.filter fun nodeId =>
      decide (nodeId ∉ eligibleNodes graph.nodes pending)) rest) :
    OrderedAs graph pending (eligibleNodes graph.nodes pending ++ rest) := by
  have hrest : ∀ nodeId, nodeId ∈ rest ↔
      nodeId ∈ pending ∧ nodeId ∉ eligibleNodes graph.nodes pending := by
    intro nodeId
    rw [h.mem, List.mem_filter, decide_eq_true_eq]
  have hmem : ∀ nodeId, nodeId ∈ eligibleNodes graph.nodes pending ++ rest ↔ nodeId ∈ pending := by
    intro nodeId
    rw [List.mem_append, hrest]
    constructor
    · rintro (heligible | hlater)
      · exact (mem_eligibleNodes.mp heligible).1
      · exact hlater.1
    · intro hpending
      by_cases heligible : nodeId ∈ eligibleNodes graph.nodes pending
      · exact Or.inl heligible
      · exact Or.inr ⟨hpending, heligible⟩
  refine ⟨hmem, ?_, ?_⟩
  · refine List.nodup_append.mpr ⟨?_, h.nodup, ?_⟩
    · exact (List.filter_sublist.map GraphNode.nodeId).nodup graph.accepted.nodup
    · rintro nodeId heligible other hother rfl
      exact ((hrest nodeId).mp hother).2 heligible
  · intro before nodeId later hsplit other hdepends hother
    rw [hmem] at hother
    rcases List.append_eq_append_iff.mp hsplit with ⟨middle, hbefore, hlater⟩ |
      ⟨middle, heligible, hlater⟩
    · -- the node comes from the rest
      subst hbefore
      by_cases hround : other ∈ eligibleNodes graph.nodes pending
      · exact List.mem_append_left _ hround
      · apply List.mem_append_right
        exact h.ordered middle nodeId later hlater other hdepends ((hrest other).mpr ⟨hother, hround⟩)
    · cases middle with
      | nil =>
          rw [List.append_nil] at heligible
          rw [List.nil_append] at hlater
          by_cases hround : other ∈ eligibleNodes graph.nodes pending
          · exact heligible ▸ hround
          · have hfirst := h.ordered [] nodeId later hlater.symm other hdepends
              ((hrest other).mpr ⟨hother, hround⟩)
            exact absurd hfirst List.not_mem_nil
      | cons first middle =>
          -- the node comes from the round, where nothing it depends on is pending
          rw [List.cons_append, List.cons.injEq] at hlater
          obtain ⟨rfl, -⟩ := hlater
          have hround : nodeId ∈ eligibleNodes graph.nodes pending := by
            rw [heligible]
            exact List.mem_append_right _ (List.mem_cons_self ..)
          obtain ⟨-, node, hnode, hid, hall⟩ := mem_eligibleNodes.mp hround
          obtain ⟨node', hnode', hid', hdependency⟩ := hdepends
          obtain rfl : node' = node := graph.unique hnode' hnode (hid'.trans hid.symm)
          exact absurd hother (hall other hdependency)

/-- **Ordering lemma.**  Pending nodes of a graph can always be ordered: the
defensive error of the loop is unreachable. -/
theorem orderDerived_total (graph : WorkflowGraph) {fuel : Nat} {pending : List String}
    (hfuel : pending.length ≤ fuel)
    (hnodes : ∀ nodeId ∈ pending, nodeId ∈ graph.nodes.map GraphNode.nodeId) :
    ∃ ordered, orderDerived graph.nodes fuel pending = .ok ordered ∧
      OrderedAs graph pending ordered := by
  induction fuel generalizing pending with
  | zero =>
      obtain rfl := List.length_eq_zero_iff.mp (Nat.le_zero.mp hfuel)
      refine ⟨[], rfl, fun _ => Iff.rfl, List.nodup_nil, ?_⟩
      intro before nodeId later hsplit
      simp at hsplit
  | succ fuel ih =>
      rw [orderDerived]
      by_cases hempty : pending = []
      · subst hempty
        refine ⟨[], rfl, fun _ => Iff.rfl, List.nodup_nil, ?_⟩
        intro before nodeId later hsplit
        simp at hsplit
      · rw [if_neg (by simpa using hempty)]
        change ∃ ordered, (if (eligibleNodes graph.nodes pending).isEmpty then _ else _) = _ ∧ _
        obtain ⟨node, hnode, hpending, hall⟩ := exists_eligible graph hempty hnodes
        have heligible : node.nodeId ∈ eligibleNodes graph.nodes pending :=
          mem_eligibleNodes.mpr ⟨hpending, node, hnode, rfl, hall⟩
        have hsome : ¬ (eligibleNodes graph.nodes pending).isEmpty = true := by
          rw [List.isEmpty_iff]
          exact List.ne_nil_of_mem heligible
        have hshorter : (pending.filter fun nodeId =>
            decide (nodeId ∉ eligibleNodes graph.nodes pending)).length ≤ fuel := by
          have hlt : (pending.filter fun nodeId =>
              decide (nodeId ∉ eligibleNodes graph.nodes pending)).length < pending.length :=
            List.length_filter_lt_length_iff_exists.mpr
              ⟨node.nodeId, hpending, by simpa using heligible⟩
          omega
        obtain ⟨rest, hrest, hordered⟩ := ih hshorter
          (fun nodeId hmem => hnodes nodeId (List.mem_filter.mp hmem).1)
        refine ⟨eligibleNodes graph.nodes pending ++ rest, ?_, hordered.round⟩
        rw [if_neg hsome]
        unfold eligibleNodes at hrest ⊢
        rw [hrest]
        rfl

/-! ### The events of a transition -/

/-- The events that record the states of a list of nodes. -/
def eventsOf (states : States) (nodeIds : List String) : List (String × NodeState) :=
  nodeIds.filterMap fun nodeId => (states nodeId).map fun state => (nodeId, state)

theorem eventsOf_cons {states : States} {nodeId : String} {state : NodeState}
    (h : states nodeId = some state) (rest : List String) :
    eventsOf states (nodeId :: rest) = (nodeId, state) :: eventsOf states rest := by
  unfold eventsOf
  rw [List.filterMap_cons, h]
  rfl

theorem mem_eventsOf {states : States} {nodeIds : List String} {nodeId : String}
    {state : NodeState} :
    (nodeId, state) ∈ eventsOf states nodeIds ↔ nodeId ∈ nodeIds ∧ states nodeId = some state := by
  unfold eventsOf
  simp only [List.mem_filterMap, Option.map_eq_some_iff, Prod.mk.injEq]
  constructor
  · rintro ⟨other, hmem, found, hfound, rfl, rfl⟩
    exact ⟨hmem, hfound⟩
  · rintro ⟨hmem, hstate⟩
    exact ⟨nodeId, hmem, state, hstate, rfl, rfl⟩

theorem eventsOf_keys_sublist (states : States) (nodeIds : List String) :
    ((eventsOf states nodeIds).map Prod.fst).Sublist nodeIds := by
  induction nodeIds with
  | nil => exact List.Sublist.refl _
  | cons nodeId rest ih =>
      unfold eventsOf at ih ⊢
      rw [List.filterMap_cons]
      cases states nodeId with
      | none => exact ih.cons nodeId
      | some state => exact ih.cons_cons nodeId

/-- Replaying the events of a list of nodes writes exactly those nodes. -/
theorem replay_eventsOf {states start : States} {nodeIds : List String} (hnodup : nodeIds.Nodup)
    (hsome : ∀ nodeId ∈ nodeIds, ∃ state, states nodeId = some state) (nodeId : String) :
    replay start (eventsOf states nodeIds) nodeId =
      if nodeId ∈ nodeIds then states nodeId else start nodeId := by
  have hsublist := eventsOf_keys_sublist states nodeIds
  split_ifs with hmem
  · obtain ⟨state, hstate⟩ := hsome nodeId hmem
    rw [hstate]
    exact replay_of_mem (hsublist.nodup hnodup) (mem_eventsOf.mpr ⟨hmem, hstate⟩) start
  · exact replay_of_not_mem (fun hkey => hmem (hsublist.subset hkey)) start

/-- The nodes whose state differs. -/
def changedNodes (before : States) (updated : GraphState) : List String :=
  (updated.nodeStates.filter fun pair => decide (before pair.1 ≠ some pair.2)).map Prod.fst

theorem mem_changedNodes {before : States} {updated : GraphState} {nodeId : String} :
    nodeId ∈ changedNodes before updated ↔
      ∃ state, statesOf updated.nodeStates nodeId = some state ∧ before nodeId ≠ some state := by
  unfold changedNodes
  simp only [List.mem_map, List.mem_filter, decide_eq_true_eq]
  constructor
  · rintro ⟨⟨other, state⟩, ⟨hmem, hne⟩, rfl⟩
    exact ⟨state, updated.statesOf_iff.mpr hmem, hne⟩
  · rintro ⟨state, hstate, hne⟩
    exact ⟨(nodeId, state), ⟨updated.statesOf_iff.mp hstate, hne⟩, rfl⟩

theorem changedNodes_nodup (before : States) (updated : GraphState) :
    (changedNodes before updated).Nodup := by
  have hkeys : (updated.nodeStates.map Prod.fst).Nodup := by
    rw [updated.keys]
    exact updated.graph.accepted.nodup
  exact (List.filter_sublist.map Prod.fst).nodup hkeys

/-- The changed nodes other than the moved one. -/
def derivedNodes (before : States) (updated : GraphState) (nodeId : String) : List String :=
  (changedNodes before updated).filter fun changed => decide (changed ≠ nodeId)

/-- The moved node comes first. -/
theorem changedNodes_first {before : States} {updated : GraphState} {nodeId : String}
    (h : nodeId ∈ changedNodes before updated) :
    ((changedNodes before updated).filter fun changed => decide (changed = nodeId)) = [nodeId] := by
  have hcount : (changedNodes before updated).count nodeId = 1 :=
    List.count_eq_one_of_mem (changedNodes_nodup before updated) h
  have hfilter := List.filter_beq nodeId (l := changedNodes before updated)
  rw [hcount, List.replicate_one] at hfilter
  rw [← hfilter]
  exact List.filter_congr fun changed _ => (beq_eq_decide changed nodeId).symm

section Transition

variable {state updated : GraphState} {nodeId : String} {target : NodeState}

/-- The order of the derived events of a transition. -/
theorem derivedNodes_ordered (h : state.transition nodeId target = .ok updated) :
    ∃ ordered, orderDerived updated.graph.nodes
        (derivedNodes (statesOf state.nodeStates) updated nodeId).length
        (derivedNodes (statesOf state.nodeStates) updated nodeId) = .ok ordered ∧
      OrderedAs state.graph (derivedNodes (statesOf state.nodeStates) updated nodeId) ordered := by
  obtain ⟨-, -, -, hgraph, -⟩ := transition_ok h
  rw [← hgraph]
  refine orderDerived_total updated.graph (Nat.le_refl _) fun other hother => ?_
  obtain ⟨own, hown, -⟩ := mem_changedNodes.mp (List.mem_filter.mp hother).1
  exact (updated.statesOf_isSome other).mp ⟨own, hown⟩

/-- What the derived nodes of a transition are: blocked before, ready or skipped
after. -/
theorem mem_derivedNodes (h : state.transition nodeId target = .ok updated) {other : String} :
    other ∈ derivedNodes (statesOf state.nodeStates) updated nodeId ↔
      other ≠ nodeId ∧ statesOf state.nodeStates other = some .blocked ∧
        (statesOf updated.nodeStates other = some .ready ∨
          statesOf updated.nodeStates other = some .skipped) := by
  obtain ⟨-, -, -, -, -, hothers⟩ := transition_ok h
  unfold derivedNodes
  rw [List.mem_filter, decide_eq_true_eq, mem_changedNodes]
  constructor
  · rintro ⟨⟨own, hown, hne⟩, hother⟩
    rcases hothers other hother with hsame | hreleased
    · rw [hown] at hsame
      exact absurd hsame.symm hne
    · exact ⟨hother, hreleased⟩
  · rintro ⟨hother, hblocked, hready | hskipped⟩
    · exact ⟨⟨.ready, hready, by rw [hblocked]; simp⟩, hother⟩
    · exact ⟨⟨.skipped, hskipped, by rw [hblocked]; simp⟩, hother⟩

/-- A node that is neither moved nor derived keeps its state. -/
theorem kept_of_not_derived (h : state.transition nodeId target = .ok updated) {other : String}
    (hother : other ≠ nodeId)
    (hderived : other ∉ derivedNodes (statesOf state.nodeStates) updated nodeId) :
    statesOf updated.nodeStates other = statesOf state.nodeStates other := by
  obtain ⟨-, -, -, -, -, hothers⟩ := transition_ok h
  rcases hothers other hother with hsame | hreleased
  · exact hsame
  · exact absurd ((mem_derivedNodes h).mpr ⟨hother, hreleased⟩) hderived

/-- **Derived events.**  In the order of the loop, every derived event finds its
reason among the events before it. -/
theorem derived_justified (h : state.transition nodeId target = .ok updated)
    {ordered : List String}
    (hordered : OrderedAs state.graph
      (derivedNodes (statesOf state.nodeStates) updated nodeId) ordered)
    {done rest : List String} (hsplit : ordered = done ++ rest) :
    Justified (EventAllowed state.graph)
      (replay (assign (statesOf state.nodeStates) (nodeId, target))
        (eventsOf (statesOf updated.nodeStates) done))
      (eventsOf (statesOf updated.nodeStates) rest) := by
  obtain ⟨-, -, -, hgraph, htarget, -⟩ := transition_ok h
  have hsome : ∀ other ∈ ordered, ∃ own, statesOf updated.nodeStates other = some own := by
    intro other hother
    obtain ⟨-, -, hready | hskipped⟩ := (mem_derivedNodes h).mp ((hordered.mem other).mp hother)
    · exact ⟨_, hready⟩
    · exact ⟨_, hskipped⟩
  -- the cells hold the new state of everything that is not still to come
  have hcells : ∀ done rest : List String, ordered = done ++ rest → ∀ other,
      replay (assign (statesOf state.nodeStates) (nodeId, target))
          (eventsOf (statesOf updated.nodeStates) done) other =
        if other ∈ rest then statesOf state.nodeStates other
        else statesOf updated.nodeStates other := by
    intro done rest hsplit other
    have hnodup := hordered.nodup
    rw [hsplit, List.nodup_append] at hnodup
    rw [replay_eventsOf hnodup.1 fun other hother => hsome other (by
      rw [hsplit]; exact List.mem_append_left _ hother)]
    by_cases hdone : other ∈ done
    · rw [if_pos hdone, if_neg fun hrest => hnodup.2.2 other hdone other hrest rfl]
    · rw [if_neg hdone]
      by_cases hself : other = nodeId
      · subst hself
        have hnot : other ∉ rest := by
          intro hrest
          have hderived := (hordered.mem other).mp (by
            rw [hsplit]; exact List.mem_append_right _ hrest)
          exact ((mem_derivedNodes h).mp hderived).1 rfl
        rw [if_neg hnot, assign_self, htarget]
      · rw [assign_other hself]
        split_ifs with hrest
        · rfl
        · refine (kept_of_not_derived h hself fun hderived => ?_).symm
          have hmem := (hordered.mem other).mpr hderived
          rw [hsplit, List.mem_append] at hmem
          exact hmem.elim hdone hrest
  induction rest generalizing done with
  | nil => exact trivial
  | cons other rest ih =>
      have hmem : other ∈ ordered := by
        rw [hsplit]
        exact List.mem_append_right _ (List.mem_cons_self ..)
      obtain ⟨hself, hblocked, hcase⟩ := (mem_derivedNodes h).mp ((hordered.mem other).mp hmem)
      obtain ⟨own, hown⟩ := hsome other hmem
      have hnext : ordered = (done ++ [other]) ++ rest := by
        rw [hsplit, List.append_assoc, List.singleton_append]
      rw [eventsOf_cons hown]
      refine ⟨?_, ?_⟩
      · -- the check of the updated state names the reason
        obtain ⟨node, hnode, rfl⟩ := List.mem_map.mp
          ((updated.statesOf_isSome other).mp ⟨own, hown⟩)
        obtain ⟨own', hchecked⟩ := updated.node hnode
        obtain rfl : own = own' := Option.some.inj (hown.symm.trans hchecked.own)
        have hnode' : node ∈ state.graph.nodes := hgraph ▸ hnode
        have hcell : replay (assign (statesOf state.nodeStates) (nodeId, target))
            (eventsOf (statesOf updated.nodeStates) done) node.nodeId = some .blocked := by
          rw [hcells done _ hsplit, if_pos (List.mem_cons_self ..), hblocked]
        rw [hown, Option.some.injEq, Option.some.injEq] at hcase
        rcases hcase with rfl | rfl
        · refine EventAllowed.released hnode' hcell fun dependency hdependency => ?_
          have hsucceeded := hchecked.scheduled rfl dependency hdependency
          rw [hcells done _ hsplit, if_neg ?_, hsucceeded]
          -- what succeeded was not derived
          intro hlater
          obtain ⟨-, -, hready | hskipped⟩ := (mem_derivedNodes h).mp
            ((hordered.mem dependency).mp (by rw [hsplit]; exact List.mem_append_right _ hlater))
          · rw [hsucceeded] at hready
            cases hready
          · rw [hsucceeded] at hskipped
            cases hskipped
        · obtain ⟨dependency, hdependency, value, hvalue, hunsuccessful⟩ := hchecked.skipped rfl
          refine EventAllowed.skipped hnode' hcell hdependency ?_ hunsuccessful
          rw [hcells done _ hsplit, if_neg ?_, hvalue]
          -- a derived dependency comes earlier in the order
          intro hlater
          have hmem' : dependency ∈ ordered := by
            rw [hsplit]
            exact List.mem_append_right _ hlater
          have hdone := hordered.ordered done node.nodeId rest hsplit dependency
            ⟨node, hnode', rfl, hdependency⟩ hmem'
          have hnodup := hordered.nodup
          rw [hsplit, List.nodup_append] at hnodup
          exact hnodup.2.2 dependency hdone dependency hlater rfl
      · have hrest := ih hnext
        have hlog : replay (assign (statesOf state.nodeStates) (nodeId, target))
            (eventsOf (statesOf updated.nodeStates) (done ++ [other])) =
            assign (replay (assign (statesOf state.nodeStates) (nodeId, target))
              (eventsOf (statesOf updated.nodeStates) done)) (other, own) := by
          unfold eventsOf
          rw [List.filterMap_append, replay_append, List.filterMap_cons, hown]
          rfl
        rw [hlog] at hrest
        exact hrest

/-- **Events of a transition.**  The moved node first, then the derived nodes in
order: a justified continuation of the history, which replays to the new
states. -/
theorem transition_history (h : state.transition nodeId target = .ok updated)
    {ordered : List String}
    (hordered : OrderedAs state.graph
      (derivedNodes (statesOf state.nodeStates) updated nodeId) ordered) :
    Justified (EventAllowed state.graph) (statesOf state.nodeStates)
        (eventsOf (statesOf updated.nodeStates) (nodeId :: ordered)) ∧
      replay (statesOf state.nodeStates)
        (eventsOf (statesOf updated.nodeStates) (nodeId :: ordered)) =
          statesOf updated.nodeStates := by
  obtain ⟨own, hown, hallowed, -, htarget, -⟩ := transition_ok h
  rw [eventsOf_cons htarget]
  refine ⟨⟨EventAllowed.moved hown hallowed, derived_justified h hordered (List.nil_append ordered).symm⟩, ?_⟩
  funext other
  rw [replay_cons, replay_eventsOf hordered.nodup ?_]
  · split_ifs with hmem
    · rfl
    · by_cases hself : other = nodeId
      · subst hself
        rw [assign_self, htarget]
      · rw [assign_other hself]
        exact (kept_of_not_derived h hself fun hderived =>
          hmem ((hordered.mem other).mpr hderived)).symm
  · intro other hother
    obtain ⟨-, -, hready | hskipped⟩ := (mem_derivedNodes h).mp ((hordered.mem other).mp hother)
    · exact ⟨_, hready⟩
    · exact ⟨_, hskipped⟩

end Transition

/-! ### Standing -/

/-- The node has the same standing in both dictionaries. -/
def SameStanding (states later : States) : Prop :=
  ∀ nodeId, (later nodeId).map NodeState.standing = (states nodeId).map NodeState.standing

theorem SameStanding.get {states later : States} (h : SameStanding states later)
    {nodeId : String} {state : NodeState} (hstate : states.get nodeId = .ok state) :
    ∃ state', later.get nodeId = .ok state' ∧ state'.standing = state.standing := by
  have hsame := h nodeId
  rw [States.get_ok] at hstate
  rw [hstate, Option.map_some, Option.map_eq_some_iff] at hsame
  obtain ⟨state', hfound, hstanding⟩ := hsame
  exact ⟨state', States.get_ok.mpr hfound, hstanding⟩

theorem SameStanding.dependencies {states later : States} (h : SameStanding states later)
    {dependencies : List String} {values : List NodeState}
    (hvalues : dependencyStates states dependencies = .ok values) :
    ∃ values', dependencyStates later dependencies = .ok values' ∧
      values'.map NodeState.standing = values.map NodeState.standing := by
  induction dependencies generalizing values with
  | nil =>
      obtain rfl := Except.ok.inj hvalues
      exact ⟨[], rfl, rfl⟩
  | cons dependency rest ih =>
      rw [dependencyStates, except_bind_ok] at hvalues
      obtain ⟨state, hstate, hvalues⟩ := hvalues
      rw [except_bind_ok] at hvalues
      obtain ⟨others, hothers, hvalues⟩ := hvalues
      obtain rfl := Except.ok.inj hvalues
      obtain ⟨state', hstate', hstanding⟩ := h.get hstate
      obtain ⟨others', hothers', hstandings⟩ := ih hothers
      refine ⟨state' :: others', ?_, ?_⟩
      · rw [dependencyStates, hstate', hothers']
        rfl
      · rw [List.map_cons, List.map_cons, hstanding, hstandings]

/-- A test of a state that looks at its standing only. -/
theorem any_standing {first second : List NodeState}
    (h : second.map NodeState.standing = first.map NodeState.standing) {test : NodeState → Bool}
    (onStanding : Standing → Bool) (htest : ∀ state, test state = onStanding state.standing) :
    second.any test = first.any test := by
  have hmap : ∀ values : List NodeState,
      values.any test = (values.map NodeState.standing).any onStanding := by
    intro values
    rw [List.any_map]
    exact congrArg values.any (funext htest)
  rw [hmap, hmap, h]

/-- The check of a node looks at standings only. -/
theorem SameStanding.checkNode {states later : States} (h : SameStanding states later)
    {node : GraphNode} (hchecked : checkNode states node = .ok ()) :
    checkNode later node = .ok () := by
  rw [Workflows.checkNode, except_bind_ok] at hchecked
  obtain ⟨state, hstate, hchecked⟩ := hchecked
  rw [except_bind_ok] at hchecked
  obtain ⟨values, hvalues, hchecked⟩ := hchecked
  obtain ⟨state', hstate', hstanding⟩ := h.get hstate
  obtain ⟨values', hvalues', hstandings⟩ := h.dependencies hvalues
  have hblocked : decide (state' = .blocked) = decide (state = .blocked) := by
    rw [decide_eq_decide, ← standing_blocked_iff, ← standing_blocked_iff, hstanding]
  have hskipped : decide (state' = .skipped) = decide (state = .skipped) := by
    rw [decide_eq_decide, ← standing_skipped_iff, ← standing_skipped_iff, hstanding]
  have hscheduled : state'.isScheduled = state.isScheduled := by
    rw [Bool.eq_iff_iff, isScheduled_iff, isScheduled_iff, hstanding]
  have hempty : values'.isEmpty = values.isEmpty := by
    have hlength := congrArg List.length hstandings
    rw [List.length_map, List.length_map] at hlength
    rw [Bool.eq_iff_iff, List.isEmpty_iff, List.isEmpty_iff, ← List.length_eq_zero_iff, hlength,
      List.length_eq_zero_iff]
  have hpending : values'.any (fun value => decide (value ≠ .succeeded)) =
      values.any fun value => decide (value ≠ .succeeded) :=
    any_standing hstandings (fun standing => decide (standing ≠ .succeeded))
      fun state => by cases state <;> rfl
  have hunsuccessful : values'.any (fun value => decide (value ∈ unsuccessfulNodeStates)) =
      values.any fun value => decide (value ∈ unsuccessfulNodeStates) :=
    any_standing hstandings
      (fun standing => decide (standing = .failed) || decide (standing = .skipped))
      fun state => by cases state <;> rfl
  have hall : values'.all (fun value => decide (value = .succeeded)) =
      values.all fun value => decide (value = .succeeded) := by
    have hnot : ∀ values : List NodeState, values.all (fun value => decide (value = .succeeded)) =
        !values.any fun value => decide (value ≠ .succeeded) := by
      intro values
      rw [List.not_any_eq_all_not]
      refine congrArg values.all (funext fun value => ?_)
      simp
    rw [hnot, hnot, hpending]
  rw [Workflows.checkNode, except_bind_ok]
  refine ⟨state', hstate', ?_⟩
  rw [except_bind_ok]
  refine ⟨values', hvalues', ?_⟩
  simp only [hblocked, hskipped, hscheduled, hempty, hpending, hunsuccessful, hall]
  exact hchecked

theorem SameStanding.checkNodes {states later : States} (h : SameStanding states later)
    {nodes : List GraphNode} (hchecked : checkNodes states nodes = .ok ()) :
    checkNodes later nodes = .ok () := by
  induction nodes with
  | nil => rfl
  | cons node rest ih =>
      rw [Workflows.checkNodes, except_bind_ok] at hchecked
      obtain ⟨_, hnode, hrest⟩ := hchecked
      rw [Workflows.checkNodes, h.checkNode hnode]
      exact ih hrest

/-! ### Claims -/

/-- A ready node may always start to run, and nothing follows from it. -/
theorem running_transition {state : GraphState} {nodeId : String}
    (hready : statesOf state.nodeStates nodeId = some .ready) :
    ∃ updated, state.transition nodeId .running = .ok updated ∧
      (∀ other, other ≠ nodeId →
        statesOf updated.nodeStates other = statesOf state.nodeStates other) ∧
      OrderedAs state.graph (derivedNodes (statesOf state.nodeStates) updated nodeId) [] := by
  have hset : ∀ other, ((statesOf state.nodeStates).set nodeId .running) other =
      if other = nodeId then some .running else statesOf state.nodeStates other := by
    intro other
    unfold States.set
    rw [Function.update_apply]
  have hsome : ∀ other ∈ state.graph.nodes.map GraphNode.nodeId,
      ∃ own, ((statesOf state.nodeStates).set nodeId .running) other = some own := by
    intro other hother
    rw [hset]
    split_ifs
    · exact ⟨_, rfl⟩
    · exact (state.statesOf_isSome other).mpr hother
  obtain ⟨nodeStates, hcollect, hkeys⟩ := collectStates_total fun node hnode =>
    hsome node.nodeId (List.mem_map_of_mem hnode)
  have hnodup : (nodeStates.map Prod.fst).Nodup := by
    rw [hkeys]
    exact state.graph.accepted.nodup
  -- the collected states are the set ones: other ids have no state at all
  have hstates : statesOf nodeStates = (statesOf state.nodeStates).set nodeId .running := by
    funext other
    by_cases hmem : other ∈ state.graph.nodes.map GraphNode.nodeId
    · obtain ⟨own, hown⟩ := hsome other hmem
      rw [hown, statesOf_iff hnodup]
      exact (collectStates_ok hcollect other own).mpr ⟨hmem, hown⟩
    · have hother : other ≠ nodeId := by
        rintro rfl
        exact hmem ((state.statesOf_isSome other).mp ⟨_, hready⟩)
      rw [hset, if_neg hother]
      have habsent : statesOf state.nodeStates other = none := by
        by_contra hfound
        exact hmem ((state.statesOf_isSome other).mp (Option.ne_none_iff_exists'.mp hfound))
      rw [habsent]
      by_contra hfound
      obtain ⟨own, hown⟩ := Option.ne_none_iff_exists'.mp hfound
      exact hmem ((collectStates_ok hcollect other own).mp ((statesOf_iff hnodup).mp hown)).1
  have hstanding : SameStanding (statesOf state.nodeStates) (statesOf nodeStates) := by
    intro other
    rw [hstates, hset]
    split_ifs with hself
    · subst hself
      rw [hready]
      rfl
    · rfl
  have hcheck : GraphState.check state.graph nodeStates = .ok () := by
    have hchecked := state.checked
    unfold GraphState.check at hchecked ⊢
    simp only [ensure_bind_ok, decide_eq_true_eq] at hchecked ⊢
    exact ⟨hkeys, hstanding.checkNodes hchecked.2⟩
  have hnew : GraphState.new state.graph nodeStates = .ok ⟨state.graph, nodeStates, hcheck⟩ := by
    unfold GraphState.new
    split
    · rfl
    · rename_i error herror
      rw [hcheck] at herror
      cases herror
  have hmove : state.transition nodeId .running = .ok ⟨state.graph, nodeStates, hcheck⟩ := by
    have hallowed : (NodeState.running ∈ allowedTransitions .ready) := by decide
    have hterminal : NodeState.running ∉ terminalNodeStates := by decide
    unfold GraphState.transition GraphState.moved
    rw [except_bind_ok]
    refine ⟨.ready, state.stateOf_ok.mpr hready, ?_⟩
    rw [ensure_bind_ok, if_neg hterminal]
    refine ⟨by simpa using hallowed, ?_⟩
    rw [except_bind_ok]
    refine ⟨_, rfl, ?_⟩
    rw [except_bind_ok]
    exact ⟨nodeStates, hcollect, hnew⟩
  have hothers : ∀ other, other ≠ nodeId →
      statesOf nodeStates other = statesOf state.nodeStates other := by
    intro other hother
    rw [hstates, hset, if_neg hother]
  refine ⟨_, hmove, hothers, fun other => ⟨fun hmem => absurd hmem List.not_mem_nil, ?_⟩,
    List.nodup_nil, fun before other later hsplit => by simp at hsplit⟩
  intro hderived
  obtain ⟨hother, hblocked, hcase⟩ := (mem_derivedNodes hmove).mp hderived
  rw [hothers other hother, hblocked] at hcase
  rcases hcase with hcase | hcase
  · cases hcase
  · cases hcase

end Workflows
end Ryuk

import Ryuk.Foundation.Peeling
import Ryuk.Workflows.GraphProgress
import Ryuk.Workflows.Scheduling

/-!
# Which graphs are accepted

The constructor of a graph accepts a list of nodes exactly when it is a dependency graph in
canonical order: there are nodes, their ids increase strictly, every dependency is one of
them, and nothing depends on itself through others.  The peeling loop decides the last
point, in at most one round for each node.
-/

namespace Ryuk
namespace Workflows

open Foundation Foundation.Dependency Relation

variable {nodes : List GraphNode}

/-- One id of a list of nodes depends directly on another. -/
def DependsOn (nodes : List GraphNode) (nodeId other : String) : Prop :=
  ∃ node ∈ nodes, node.nodeId = nodeId ∧ other ∈ node.dependsOn

/-- A dependency graph in canonical order. -/
structure ValidGraph (nodes : List GraphNode) : Prop where
  nonempty : nodes ≠ []
  increasing : (nodes.map GraphNode.nodeId).Pairwise (· < ·)
  known : ∀ node ∈ nodes, ∀ dependency ∈ node.dependsOn,
    dependency ∈ nodes.map GraphNode.nodeId
  acyclic : ∀ nodeId, ¬ TransGen (DependsOn nodes) nodeId nodeId

/-- The ids can be listed with every node after all its dependencies. -/
def Listed (nodes : List GraphNode) : Prop :=
  ∃ order : List String, order.Perm (nodes.map GraphNode.nodeId) ∧
    ∀ before nodeId after, order = before ++ nodeId :: after →
      ∀ dependency, DependsOn nodes nodeId dependency → dependency ∈ before

/-! ### The checks -/

theorem requireKnown_iff {known : List String} :
    requireKnown known nodes = .ok () ↔
      ∀ node ∈ nodes, node.nodeId ∉ node.dependsOn ∧
        ∀ dependency ∈ node.dependsOn, dependency ∈ known := by
  induction nodes with
  | nil =>
      constructor
      · intro _ node hnode
        cases hnode
      · intro _
        rfl
  | cons first rest ih =>
      simp only [requireKnown, ensure_bind_ok, decide_eq_true_eq, List.all_eq_true, ih,
        List.forall_mem_cons, and_assoc]

/-- Sorted ids without repetition increase strictly. -/
theorem increasing_iff {names : List String} :
    (names.Nodup ∧ isSorted names = true) ↔ names.Pairwise (· < ·) := by
  constructor
  · rintro ⟨hnodup, hsorted⟩
    have hequal : names.mergeSort (fun left right => decide (left ≤ right)) = names := by
      simpa [isSorted] using hsorted
    have hle : names.Pairwise fun left right => decide (left ≤ right) = true := by
      rw [← hequal]
      apply List.pairwise_mergeSort
      · intro first second third hfirst hsecond
        rw [decide_eq_true_eq] at hfirst hsecond ⊢
        exact hfirst.trans hsecond
      · intro first second
        rw [Bool.or_eq_true, decide_eq_true_eq, decide_eq_true_eq]
        exact le_total first second
    exact hle.imp₂ (fun left right hboth hne => lt_of_le_of_ne (of_decide_eq_true hboth) hne)
      hnodup
  · intro h
    exact ⟨h.imp fun hlt => ne_of_lt hlt, isSorted_of_pairwise h⟩

/-- Among distinct ids, the dependencies of an id are those of its node. -/
theorem dependsOn_iff (hnodup : (nodes.map GraphNode.nodeId).Nodup) {nodeId other : String} :
    DependsOn nodes nodeId other ↔
      nodeId ∈ nodes.map GraphNode.nodeId ∧ other ∈ dependenciesOf nodes nodeId := by
  constructor
  · rintro ⟨node, hnode, rfl, hother⟩
    rw [dependenciesOf_mem hnodup hnode]
    exact ⟨List.mem_map_of_mem hnode, hother⟩
  · rintro ⟨hid, hother⟩
    obtain ⟨node, hnode, rfl⟩ := List.mem_map.mp hid
    rw [dependenciesOf_mem hnodup hnode] at hother
    exact ⟨node, hnode, rfl, hother⟩

section Distinct

variable (hnodup : (nodes.map GraphNode.nodeId).Nodup)
  (hknown : ∀ node ∈ nodes, ∀ dependency ∈ node.dependsOn,
    dependency ∈ nodes.map GraphNode.nodeId)

include hnodup hknown

/-- The relation the loop peels is the dependency relation. -/
theorem within_eq : Within (dependenciesOf nodes) (nodes.map GraphNode.nodeId) =
    DependsOn nodes := by
  ext nodeId other
  rw [dependsOn_iff hnodup]
  constructor
  · rintro ⟨hid, -, hother⟩
    exact ⟨hid, hother⟩
  · rintro ⟨hid, hother⟩
    obtain ⟨node, hnode, rfl⟩ := List.mem_map.mp hid
    have hdepends := hother
    rw [dependenciesOf_mem hnodup hnode] at hdepends
    exact ⟨hid, hknown node hnode other hdepends, hother⟩

theorem requireAcyclic_iff :
    requireAcyclic nodes = .ok () ↔ ∀ nodeId, ¬ TransGen (DependsOn nodes) nodeId nodeId := by
  unfold requireAcyclic
  rw [ensure_ok, peel_iff_acyclic (by rw [List.length_map]), Acyclic, within_eq hnodup hknown]

theorem listed_iff :
    Listed nodes ↔ ∀ nodeId, ¬ TransGen (DependsOn nodes) nodeId nodeId := by
  rw [← within_eq hnodup hknown]
  show _ ↔ Acyclic _ _
  rw [← ordered_iff_acyclic]
  constructor
  · rintro ⟨order, hperm, horder⟩
    refine ⟨order, hperm, fun before nodeId after hsplit dependency hdependency hmem => ?_⟩
    have hid : nodeId ∈ nodes.map GraphNode.nodeId := by
      apply hperm.mem_iff.mp
      rw [hsplit]
      simp
    exact horder before nodeId after hsplit dependency
      ((dependsOn_iff hnodup).mpr ⟨hid, hdependency⟩)
  · rintro ⟨order, hperm, horder⟩
    refine ⟨order, hperm, fun before nodeId after hsplit dependency hdepends => ?_⟩
    have hstep := hdepends
    rw [← within_eq hnodup hknown] at hstep
    exact horder before nodeId after hsplit dependency hstep.2.2 hstep.2.1

end Distinct

/-! ### Acceptance -/

theorem check_of_new {schemaVersion : Int} :
    (∃ graph, WorkflowGraph.new nodes schemaVersion = .ok graph) ↔
      WorkflowGraph.check nodes schemaVersion = .ok () := by
  unfold WorkflowGraph.new
  constructor
  · rintro ⟨graph, h⟩
    split at h
    · assumption
    · cases h
  · intro h
    split
    · exact ⟨_, rfl⟩
    · rename_i herror
      rw [h] at herror
      cases herror

theorem check_iff {schemaVersion : Int} :
    WorkflowGraph.check nodes schemaVersion = .ok () ↔
      schemaVersion = 1 ∧ (1 ≤ nodes.length ∧ nodes.length ≤ maxGraphNodes) ∧
        ((nodes.map GraphNode.nodeId).Nodup ∧ isSorted (nodes.map GraphNode.nodeId) = true) ∧
        requireKnown (nodes.map GraphNode.nodeId) nodes = .ok () ∧
        requireAcyclic nodes = .ok () := by
  unfold WorkflowGraph.check
  simp only [ensure_bind_ok, Bool.and_eq_true, decide_eq_true_eq, and_assoc]
  rw [except_bind_ok]
  simp only [Unique.exists_iff, PUnit.default_eq_unit]

/-- A tuple of at most a hundred nodes is accepted exactly when it is a valid graph. -/
def AcceptsExactly (nodes : List GraphNode) : Prop :=
  nodes.length ≤ maxGraphNodes →
    ((∃ graph, WorkflowGraph.new nodes 1 = .ok graph) ↔ ValidGraph nodes)

/-- For nodes in canonical order, having no cycle is having a list with every node after its
dependencies. -/
def CyclesMatchOrders (nodes : List GraphNode) : Prop :=
  (nodes.map GraphNode.nodeId).Pairwise (· < ·) →
    (∀ node ∈ nodes, ∀ dependency ∈ node.dependsOn, dependency ∈ nodes.map GraphNode.nodeId) →
    ((∀ nodeId, ¬ TransGen (DependsOn nodes) nodeId nodeId) ↔ Listed nodes)

/-- The peeling loop of some nodes ends in at most one round for each node, and its result
is what the check reports. -/
def LoopEnds (nodes : List GraphNode) : Prop :=
  ∃ rounds result, rounds ≤ nodes.length ∧
    Loop (dependenciesOf nodes) (nodes.map GraphNode.nodeId) rounds result ∧
    requireAcyclic nodes = ensure result (.valueError "Workflow graph must be acyclic")

/-- **Accepted graphs.**  For every list of nodes: up to the size limit it is accepted exactly
when it is a valid dependency graph, cycles are what keeps it from being listed in
dependency order, and the loop that looks for them ends. -/
theorem accepts_exactly (nodes : List GraphNode) :
    AcceptsExactly nodes ∧ CyclesMatchOrders nodes ∧ LoopEnds nodes := by
  refine ⟨fun hsize => ?_, fun hincreasing hknown => ?_, ?_⟩
  · rw [check_of_new, check_iff, increasing_iff]
    constructor
    · rintro ⟨-, ⟨hsome, -⟩, hincreasing, hrequired, hacyclic⟩
      have hknown := fun node hnode => (requireKnown_iff.mp hrequired node hnode).2
      have hnodup := (increasing_iff.mpr hincreasing).1
      refine ⟨fun hnil => ?_, hincreasing, hknown, (requireAcyclic_iff hnodup hknown).mp hacyclic⟩
      rw [hnil] at hsome
      simp at hsome
    · intro h
      have hnodup := (increasing_iff.mpr h.increasing).1
      refine ⟨rfl, ⟨List.length_pos_of_ne_nil h.nonempty, hsize⟩, h.increasing, ?_,
        (requireAcyclic_iff hnodup h.known).mpr h.acyclic⟩
      -- a node that depends on itself is a cycle of length one
      refine requireKnown_iff.mpr fun node hnode => ⟨fun hself => ?_, h.known node hnode⟩
      exact h.acyclic node.nodeId (TransGen.single ⟨node, hnode, rfl, hself⟩)
  · exact (listed_iff (increasing_iff.mpr hincreasing).1 hknown).symm
  · obtain ⟨rounds, result, hrounds, hloop, hpeel⟩ :=
      loop_terminates (dependenciesOf nodes) (nodes.map GraphNode.nodeId)
    rw [List.length_map] at hrounds hpeel
    refine ⟨rounds, result, hrounds, hloop, ?_⟩
    unfold requireAcyclic
    rw [hpeel nodes.length (Nat.le_refl _)]

end Workflows
end Ryuk

import Ryuk.Api.GraphRoutes
import Ryuk.Api.WorkflowRuns
import Ryuk.Foundation.Canonical
import Ryuk.Workflows.GraphAcceptance

/-!
# What a request for a graph describes

A request lists its nodes, and a node its dependencies, in any order.  The nodes the route
builds are the same exactly when the requests describe the same nodes, and they are a graph
exactly when the description is one: distinct ids, known dependencies and no cycle.
-/

namespace Ryuk
namespace Api

open Foundation Foundation.Json Foundation.Canonical Relation
open Workflows (GraphNode TaskPacket WorkflowGraph)

/-- What a node of a request says, with its dependencies in no order. -/
structure NodeDescription where
  nodeId : String
  prompt : String
  model : String
  maxTokens : Int
  temperature : Decimal.Finite
  dependsOn : Multiset String

def CreateGraphNodeRequest.description (node : CreateGraphNodeRequest) : NodeDescription where
  nodeId := node.nodeId
  prompt := node.prompt
  model := node.model
  maxTokens := node.maxTokens
  temperature := node.temperature
  dependsOn := node.dependsOn

/-- Requests of one key that describe the same nodes, in any order. -/
structure CreateWorkflowGraphRequest.Same (payload other : CreateWorkflowGraphRequest) : Prop where
  key : other.idempotencyKey = payload.idempotencyKey
  nodes : (other.nodes.map CreateGraphNodeRequest.description).Perm
    (payload.nodes.map CreateGraphNodeRequest.description)

/-- One id of a request depends directly on another. -/
def CreateWorkflowGraphRequest.DependsOn (payload : CreateWorkflowGraphRequest)
    (nodeId other : String) : Prop :=
  ∃ node ∈ payload.nodes, node.nodeId = nodeId ∧ other ∈ node.dependsOn

/-- A request that describes a graph. -/
structure CreateWorkflowGraphRequest.Valid (payload : CreateWorkflowGraphRequest) : Prop where
  distinct : (payload.nodes.map CreateGraphNodeRequest.nodeId).Nodup
  known : ∀ node ∈ payload.nodes, ∀ dependency ∈ node.dependsOn,
    dependency ∈ payload.nodes.map CreateGraphNodeRequest.nodeId
  acyclic : ∀ nodeId, ¬ TransGen payload.DependsOn nodeId nodeId

/-- The order of `sorted` on strings. -/
theorem stringOrder (left right : String) : decide (left ≤ right) = true ↔ left ≤ right :=
  decide_eq_true_iff

/-! ### Nodes -/

section Nodes

variable {tenant key : String} {uuid5 : String → Inference.Text} {node other : CreateGraphNodeRequest}
  {made : GraphNode}

theorem dependencyIds_perm : node.dependencyIds.Perm node.dependsOn := List.mergeSort_perm _ _

/-- Dependencies in canonical order do not tell in which order they were given. -/
theorem dependencyIds_iff : node.dependencyIds = other.dependencyIds ↔
    (node.dependsOn : Multiset String) = other.dependsOn := by
  rw [Multiset.coe_eq_coe]
  constructor
  · intro hsame
    have hperm := @dependencyIds_perm node
    rw [hsame] at hperm
    exact hperm.symm.trans dependencyIds_perm
  · intro hperm
    have hdescribed := @inOrder_described _ _ _ (fun left right => decide (left ≤ right)) id
      node.dependsOn other.dependsOn _ stringOrder id id (fun _ => rfl)
      (by rw [List.map_id]; exact node.dependencies.2.2) (by rwa [List.map_id, List.map_id])
    rw [List.map_id, List.map_id] at hdescribed
    exact hdescribed

/-- The checks of a node pass. -/
theorem graphNode_checked (node : CreateGraphNodeRequest) :
    GraphNode.check node.nodeId node.dependencyIds = .ok () := by
  have hcanonical : node.dependencyIds.all Workflows.isCanonicalId = true := by
    rw [List.all_eq_true]
    intro dependency hdependency
    exact List.all_eq_true.mp node.dependencies.2.1 dependency
      (dependencyIds_perm.mem_iff.mp hdependency)
  have hnodup : node.dependencyIds.Nodup := dependencyIds_perm.nodup_iff.mpr node.dependencies.2.2
  have hsorted : Workflows.isSorted node.dependencyIds = true := by
    apply Workflows.isSorted_of_pairwise
    have hincreasing := @inOrder_increasing _ _ (fun left right => decide (left ≤ right)) id
      node.dependsOn _ stringOrder (by rw [List.map_id]; exact node.dependencies.2.2)
    rwa [List.map_id] at hincreasing
  unfold GraphNode.check
  simp only [ensure_bind_ok, ensure_ok, decide_eq_true_eq]
  exact ⟨node.idText.2, hcanonical, hnodup, hsorted⟩

/-- The node the route builds of a node of a request. -/
structure Builds (node : CreateGraphNodeRequest) (made : GraphNode) : Prop where
  nodeId : made.nodeId = node.nodeId
  dependsOn : made.dependsOn = node.dependencyIds
  storable : made.packet.Storable
  text : WorkflowRoutes.HoldsText node.prompt node.model node.maxTokens node.temperature made.packet

/-- Every node can be built. -/
theorem graphNode_total (tenant key : String) (uuid5 : String → Inference.Text)
    (node : CreateGraphNodeRequest) :
    ∃ made, node.graphNode tenant key uuid5 = .ok made ∧ Builds node made := by
  obtain ⟨name, hname⟩ := @Workflows.canonicalJson_printable
    (.arr [.str tenant, .str key, .str node.nodeId]) rfl
  obtain ⟨packet, hpacket, hstorable, htext⟩ := WorkflowRoutes.textPacket_total (uuid5 name)
    node.promptText.2 node.modelText.2 node.tokens node.bounds
  refine ⟨⟨node.nodeId, packet, node.dependencyIds, graphNode_checked node⟩, ?_,
    ⟨rfl, rfl, hstorable, htext⟩⟩
  unfold CreateGraphNodeRequest.graphNode
  rw [hname, except_ok_bind, hpacket, except_ok_bind]
  exact GraphNode.new_self ⟨node.nodeId, packet, node.dependencyIds, graphNode_checked node⟩

theorem graphNode_builds (h : node.graphNode tenant key uuid5 = .ok made) : Builds node made := by
  obtain ⟨found, hfound, hbuilds⟩ := graphNode_total tenant key uuid5 node
  rw [Except.ok.inj (h.symm.trans hfound)]
  exact hbuilds

theorem Builds.dependsOn_iff (h : Builds node made) {dependency : String} :
    dependency ∈ made.dependsOn ↔ dependency ∈ node.dependsOn := by
  rw [h.dependsOn]
  exact dependencyIds_perm.mem_iff

/-- A node of a graph tells what was described. -/
theorem description_of_builds (h : Builds node made) (h' : Builds other made) :
    node.description = other.description := by
  obtain ⟨text, hinput, hprompt⟩ := h.text.prompt
  obtain ⟨text', hinput', hprompt'⟩ := h'.text.prompt
  have hsame : text = text' := by
    rw [hinput] at hinput'
    cases hinput'
    rfl
  have hmodel := h.text.model.symm.trans h'.text.model
  have htokens := h.text.maxTokens.symm.trans h'.text.maxTokens
  have htemperature := h.text.temperature.symm.trans h'.text.temperature
  unfold CreateGraphNodeRequest.description
  rw [NodeDescription.mk.injEq]
  refine ⟨h.nodeId.symm.trans h'.nodeId, ?_, Option.some.inj hmodel, Option.some.inj htokens, ?_,
    dependencyIds_iff.mp (h.dependsOn.symm.trans h'.dependsOn)⟩
  · rw [← hprompt, ← hprompt', hsame]
  · exact Decimal.Float.finite.inj (Inference.Temperature.float.inj htemperature)

/-- Nodes that are described alike are built alike. -/
theorem graphNode_described (h : node.description = other.description) :
    node.graphNode tenant key uuid5 = other.graphNode tenant key uuid5 := by
  unfold CreateGraphNodeRequest.description at h
  rw [NodeDescription.mk.injEq] at h
  obtain ⟨hid, hprompt, hmodel, htokens, htemperature, hdepends⟩ := h
  unfold CreateGraphNodeRequest.graphNode
  rw [hid, hprompt, hmodel, htokens, htemperature, dependencyIds_iff.mpr hdepends]

end Nodes

/-! ### Lists of nodes -/

section Lists

variable {tenant : String} {uuid5 : String → Inference.Text}
  {payload other : CreateWorkflowGraphRequest} {nodes : List GraphNode}

theorem sortedNodes_eq : payload.sortedNodes =
    inOrder (fun left right => decide (left ≤ right)) CreateGraphNodeRequest.nodeId payload.nodes :=
  rfl

theorem mem_sortedNodes {node : CreateGraphNodeRequest} :
    node ∈ payload.sortedNodes ↔ node ∈ payload.nodes := by
  rw [sortedNodes_eq, mem_inOrder]

/-- The nodes of a request can be built. -/
theorem graphNodes_total (tenant : String) (uuid5 : String → Inference.Text)
    (payload : CreateWorkflowGraphRequest) :
    ∃ nodes, payload.graphNodes tenant uuid5 = .ok nodes :=
  mapM_total fun node _ =>
    (graphNode_total tenant payload.idempotencyKey uuid5 node).imp fun _ h => h.1

theorem graphNodes_builds (h : payload.graphNodes tenant uuid5 = .ok nodes) :
    List.Forall₂ Builds payload.sortedNodes nodes :=
  (mapM_eq_ok.mp h).imp fun _ _ hmade => graphNode_builds hmade

/-- **Descriptions decide.**  Requests of one key build the same nodes exactly when they describe
the same nodes. -/
theorem graphNodes_iff (hdistinct : (payload.nodes.map CreateGraphNodeRequest.nodeId).Nodup)
    (hkey : other.idempotencyKey = payload.idempotencyKey)
    (hnodes : payload.graphNodes tenant uuid5 = .ok nodes) :
    other.graphNodes tenant uuid5 = .ok nodes ↔ payload.Same other := by
  constructor
  · intro hother
    have hdescribed := described_of_mapM (fun item item' made hitem hitem' =>
      description_of_builds (graphNode_builds hitem) (graphNode_builds hitem')) hother hnodes
    refine ⟨hkey, ?_⟩
    have hgiven : ∀ request : CreateWorkflowGraphRequest,
        (request.sortedNodes.map CreateGraphNodeRequest.description).Perm
          (request.nodes.map CreateGraphNodeRequest.description) := by
      intro request
      rw [sortedNodes_eq]
      exact inOrder_perm.map CreateGraphNodeRequest.description
    have hperm := hgiven other
    rw [hdescribed] at hperm
    exact hperm.symm.trans (hgiven payload)
  · intro hsame
    rw [← hnodes]
    unfold CreateWorkflowGraphRequest.graphNodes
    rw [hkey]
    apply mapM_described (fun item item' h => graphNode_described h)
    have hname : ∀ item : CreateGraphNodeRequest, item.description.nodeId = item.nodeId :=
      fun _ => rfl
    exact (inOrder_described stringOrder hname hdistinct hsame.nodes.symm).symm

/-! ### Graphs -/

section Built

variable (h : payload.graphNodes tenant uuid5 = .ok nodes)

include h

/-- The ids of the nodes are those of the request, in order. -/
theorem built_nodeIds : nodes.map GraphNode.nodeId =
    payload.sortedNodes.map CreateGraphNodeRequest.nodeId :=
  told_of_mapM (fun _ _ hmade => (graphNode_builds hmade).nodeId) h

theorem mem_built_nodeIds {nodeId : String} : nodeId ∈ nodes.map GraphNode.nodeId ↔
    nodeId ∈ payload.nodes.map CreateGraphNodeRequest.nodeId := by
  rw [built_nodeIds h, sortedNodes_eq]
  exact inOrder_keys.mem_iff

theorem built_from {made : GraphNode} (hmade : made ∈ nodes) :
    ∃ node ∈ payload.nodes, Builds node made := by
  obtain ⟨node, hnode, hstep⟩ := mem_of_mapM h made hmade
  exact ⟨node, mem_sortedNodes.mp hnode, graphNode_builds hstep⟩

theorem built_of {node : CreateGraphNodeRequest} (hnode : node ∈ payload.nodes) :
    ∃ made ∈ nodes, Builds node made := by
  obtain ⟨made, hmade, hstep⟩ := result_of_mapM h node (mem_sortedNodes.mpr hnode)
  exact ⟨made, hmade, graphNode_builds hstep⟩

/-- The nodes depend on one another as the request says. -/
theorem built_edges : Workflows.DependsOn nodes = payload.DependsOn := by
  ext nodeId other
  constructor
  · rintro ⟨made, hmade, rfl, hother⟩
    obtain ⟨node, hnode, hbuilds⟩ := built_from h hmade
    exact ⟨node, hnode, hbuilds.nodeId.symm, hbuilds.dependsOn_iff.mp hother⟩
  · rintro ⟨node, hnode, rfl, hother⟩
    obtain ⟨made, hmade, hbuilds⟩ := built_of h hnode
    exact ⟨made, hmade, hbuilds.nodeId, hbuilds.dependsOn_iff.mpr hother⟩

/-- The nodes are a graph exactly when the request describes one. -/
theorem built_valid : Workflows.ValidGraph nodes ↔ payload.Valid := by
  constructor
  · intro hvalid
    refine ⟨?_, ?_, ?_⟩
    · have hdistinct := (Workflows.increasing_iff.mpr hvalid.increasing).1
      rw [built_nodeIds h, sortedNodes_eq] at hdistinct
      exact inOrder_keys.nodup_iff.mp hdistinct
    · intro node hnode dependency hdependency
      obtain ⟨made, hmade, hbuilds⟩ := built_of h hnode
      exact (mem_built_nodeIds h).mp
        (hvalid.known made hmade dependency (hbuilds.dependsOn_iff.mpr hdependency))
    · rw [← built_edges h]
      exact hvalid.acyclic
  · intro hvalid
    refine ⟨?_, ?_, ?_, ?_⟩
    · rintro rfl
      have hlength := congrArg List.length (built_nodeIds h)
      have hsize := payload.sized.1
      rw [List.map_nil, List.length_nil, List.length_map, sortedNodes_eq,
        inOrder_perm.length_eq] at hlength
      omega
    · rw [built_nodeIds h, sortedNodes_eq]
      exact inOrder_increasing stringOrder hvalid.distinct
    · intro made hmade dependency hdependency
      obtain ⟨node, hnode, hbuilds⟩ := built_from h hmade
      exact (mem_built_nodeIds h).mpr
        (hvalid.known node hnode dependency (hbuilds.dependsOn_iff.mp hdependency))
    · rw [built_edges h]
      exact hvalid.acyclic

end Built

/-- The check of a graph raises nothing but a `ValueError`. -/
theorem graphCheck_raises (nodes : List GraphNode) :
    Raises (fun error : PyError => error.isValueError = true) (WorkflowGraph.check nodes 1) := by
  have hensure : ∀ (condition : Bool) (message : String),
      Raises (fun error : PyError => error.isValueError = true)
        (ensure condition (.valueError message)) := by
    intro condition message
    unfold ensure
    exact Raises.ite (raises_ok _) (raises_error rfl)
  have hknown : ∀ (known : List String) (nodes : List GraphNode),
      Raises (fun error : PyError => error.isValueError = true)
        (Workflows.requireKnown known nodes) := by
    intro known nodes
    induction nodes with
    | nil => exact raises_pure _
    | cons node rest ih =>
        exact (hensure _ _).bind fun _ => (hensure _ _).bind fun _ => ih
  exact (hensure _ _).bind fun _ => (hensure _ _).bind fun _ => (hensure _ _).bind fun _ =>
    (hensure _ _).bind fun _ => (hknown _ _).bind fun _ => hensure _ _

/-- The check of at most a hundred nodes passes exactly for a valid graph. -/
theorem graphCheck_iff (hsize : nodes.length ≤ Workflows.maxGraphNodes) :
    WorkflowGraph.check nodes 1 = .ok () ↔ Workflows.ValidGraph nodes := by
  rw [Workflows.check_iff, Workflows.increasing_iff, Workflows.requireKnown_iff]
  constructor
  · rintro ⟨-, ⟨hsome, -⟩, hincreasing, hrequired, hacyclic⟩
    have hknown := fun node hnode => (hrequired node hnode).2
    rw [Workflows.requireAcyclic_iff (Workflows.increasing_iff.mpr hincreasing).1 hknown] at hacyclic
    exact ⟨List.ne_nil_of_length_pos hsome, hincreasing, hknown, hacyclic⟩
  · intro h
    refine ⟨rfl, ⟨List.length_pos_of_ne_nil h.nonempty, hsize⟩, h.increasing, ?_,
      (Workflows.requireAcyclic_iff (Workflows.increasing_iff.mpr h.increasing).1 h.known).mpr
        h.acyclic⟩
    intro node hnode
    exact ⟨fun hself => h.acyclic node.nodeId (TransGen.single ⟨node, hnode, rfl, hself⟩),
      h.known node hnode⟩

/-- **Graphs.**  The nodes of a request become a graph exactly when it describes one, and else
the request is refused. -/
theorem graphOf_cases (h : payload.graphNodes tenant uuid5 = .ok nodes) :
    (payload.Valid ∧ ∃ graph, GraphRoutes.graphOf nodes = .ok graph ∧ graph.nodes = nodes ∧
        ∀ node ∈ graph.nodes, node.packet.Storable) ∨
      (¬ payload.Valid ∧ GraphRoutes.graphOf nodes = .error (.control GraphRoutes.invalidGraph)) := by
  have hsize : nodes.length ≤ Workflows.maxGraphNodes := by
    have hlength := congrArg List.length (built_nodeIds h)
    rw [List.length_map, List.length_map, sortedNodes_eq, inOrder_perm.length_eq] at hlength
    rw [hlength]
    exact payload.sized.2
  have hcheck := graphCheck_iff hsize
  rw [built_valid h] at hcheck
  unfold GraphRoutes.graphOf
  cases hnew : WorkflowGraph.new nodes 1 with
  | ok graph =>
      have hnodes := (WorkflowGraph.new_ok hnew).1
      refine Or.inl ⟨hcheck.mp (Workflows.check_of_new.mp ⟨graph, hnew⟩), graph, rfl, hnodes, ?_⟩
      intro made hmade
      rw [hnodes] at hmade
      obtain ⟨node, -, hbuilds⟩ := built_from h hmade
      exact hbuilds.storable
  | error error =>
      refine Or.inr ⟨fun hvalid => ?_, ?_⟩
      · obtain ⟨graph, hgraph⟩ := Workflows.check_of_new.mpr (hcheck.mpr hvalid)
        rw [hnew] at hgraph
        cases hgraph
      · have hvalue : error.isValueError = true := by
          apply graphCheck_raises nodes
          unfold WorkflowGraph.new at hnew
          split at hnew
          · cases hnew
          · rename_i found hfound
            rw [hfound, Except.error.inj hnew]
        dsimp only
        rw [if_pos hvalue]

end Lists

end Api
end Ryuk

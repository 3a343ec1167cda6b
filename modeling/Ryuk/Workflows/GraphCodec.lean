import Ryuk.Foundation.Raises
import Ryuk.Workflows.Transition

/-!
# Graphs survive storage

A graph is stored as canonical JSON and decoded again by every operation.  What
`fromDict` accepted once is a fixed point of that: the text it is stored under
decodes to the same graph.
-/

namespace Ryuk
namespace Workflows

open Foundation Foundation.Json Foundation.Text

/-! ### Canonical texts -/

/-- The canonical form has the same text. -/
theorem dumps_canon {value : Json} {text : String} (h : dumps value = some text) :
    dumps (canon value) = some text := by
  unfold dumps at h ⊢
  split_ifs at h with hprintable
  rw [if_pos (printable_canon value hprintable), canon_canon]
  exact h

theorem canonicalJson_canon {value : Json} {text : String} (h : canonicalJson value = .ok text) :
    canonicalJson (canon value) = .ok text := by
  unfold canonicalJson
  rw [dumps_canon (canonicalJson_ok h)]

/-! ### Packets -/

theorem TaskPacket.toDict_canonical {packet : TaskPacket} {value : Json}
    (h : packet.toDict = .ok value) : Canonical value := by
  unfold TaskPacket.toDict at h
  simp only [except_bind_ok] at h
  obtain ⟨deadline, -, text, htext, h⟩ := h
  rw [loadsJson_canonicalJson htext] at h
  rw [← Except.ok.inj h]
  exact canon_canonical _

theorem TaskPacket.decode_of_fromDict {packet : TaskPacket} {value : Json}
    (h : TaskPacket.fromDict value = .ok packet) : TaskPacket.decode value = .ok packet := by
  unfold TaskPacket.fromDict at h
  split at h
  · rename_i found hfound
    rw [hfound, Except.ok.inj h]
  · cases h
  · cases h

/-- The last check of a decoded packet: it is written under the text that was given. -/
theorem TaskPacket.exact {packet : TaskPacket} {value : Json}
    (h : TaskPacket.fromDict value = .ok packet) :
    ∃ dict text, packet.toDict = .ok dict ∧ canonicalJson dict = .ok text ∧
      canonicalJson value = .ok text := by
  have hdecode := TaskPacket.decode_of_fromDict h
  unfold TaskPacket.decode at hdecode
  simp only [except_bind_ok] at hdecode
  obtain ⟨_, -, ⟨version, _⟩, -, ⟨_, _⟩, -, _, -, ⟨_, _⟩, -, _, -, _, -, ⟨_, _⟩, -, ⟨_, _⟩, -, _, -,
    ⟨_, _⟩, -, _, -, ⟨_, _⟩, -, _, -, _, -, h⟩ := hdecode
  split_ifs at h
  rw [except_bind_ok] at h
  obtain ⟨task, -, h⟩ := h
  cases version with
  | int version =>
      simp only [except_bind_ok] at h
      obtain ⟨built, -, dict, hdict, written, hwritten, given, hgiven, h⟩ := h
      split_ifs at h with hsame
      obtain rfl := Except.ok.inj h
      exact ⟨dict, written, hdict, hwritten, hsame ▸ hgiven⟩
  | null | bool _ | float _ | str _ | arr _ | obj _ => cases h

/-- A decoded packet is written in the canonical form of what it was read from. -/
theorem TaskPacket.toDict_of_fromDict {packet : TaskPacket} {value : Json}
    (h : TaskPacket.fromDict value = .ok packet) : packet.toDict = .ok (canon value) := by
  obtain ⟨dict, text, hdict, hwritten, hgiven⟩ := TaskPacket.exact h
  have hcanon : canon dict = canon value :=
    dumps_injective (canonicalJson_ok hwritten) (canonicalJson_ok hgiven)
  rw [canon_of_canonical dict (TaskPacket.toDict_canonical hdict)] at hcanon
  rw [hdict, hcanon]

/-! ### Nodes -/

/-- The packet of the node is read back from what it is written as. -/
def GraphNode.Stable (node : GraphNode) : Prop :=
  ∀ value, node.packet.toDict = .ok value → TaskPacket.fromDict value = .ok node.packet

theorem GraphNode.new_ok {nodeId : String} {packet : TaskPacket} {dependsOn : List String}
    {node : GraphNode} (h : GraphNode.new nodeId packet dependsOn = .ok node) :
    node.nodeId = nodeId ∧ node.packet = packet ∧ node.dependsOn = dependsOn := by
  unfold GraphNode.new at h
  split at h
  · obtain rfl := Except.ok.inj h
    exact ⟨rfl, rfl, rfl⟩
  · cases h

theorem GraphNode.new_self (node : GraphNode) :
    GraphNode.new node.nodeId node.packet node.dependsOn = .ok node := by
  unfold GraphNode.new
  split
  · rfl
  · rename_i error herror
    rw [node.checked] at herror
    cases herror

/-- A node that is decoded from a written node is stable. -/
theorem GraphNode.stable_of_decode {original node : GraphNode} {item : Json}
    (hwritten : original.toDict = .ok item) (h : GraphNode.decode item = .ok node) :
    node.Stable := by
  unfold GraphNode.toDict at hwritten
  rw [except_bind_ok] at hwritten
  obtain ⟨value, hvalue, hwritten⟩ := hwritten
  obtain rfl := Except.ok.inj hwritten
  unfold GraphNode.decode at h
  simp only [except_bind_ok] at h
  obtain ⟨_, -, _, -, _, -, value', hvalue', packet, hpacket, _, -, _, -, h⟩ := h
  obtain rfl : value = value' := Except.ok.inj hvalue'
  obtain ⟨-, rfl, -⟩ := GraphNode.new_ok h
  intro again hagain
  rw [TaskPacket.toDict_of_fromDict hpacket,
    canon_of_canonical value (TaskPacket.toDict_canonical hvalue), Except.ok.injEq] at hagain
  rw [← hagain]
  exact hpacket

theorem canonItems_str (texts : List String) :
    canonItems (texts.map Json.str) = texts.map Json.str := by
  induction texts with
  | nil => rfl
  | cons text rest ih =>
      rw [List.map_cons, canonItems, ih]
      rfl

theorem asId_all (message : String) (texts : List String) :
    (texts.map Json.str).mapM (asId message) = .ok texts := by
  rw [mapM_eq_ok, List.forall₂_map_left_iff]
  exact List.forall₂_same.mpr fun _ _ => rfl

/-- A stable node is read back from its canonical form. -/
theorem GraphNode.decode_canon {node : GraphNode} {item : Json} (hstable : node.Stable)
    (h : node.toDict = .ok item) : GraphNode.decode (canon item) = .ok node := by
  unfold GraphNode.toDict at h
  rw [except_bind_ok] at h
  obtain ⟨value, hvalue, h⟩ := h
  obtain rfl := Except.ok.inj h
  have hcanon : canon (.obj [("node_id", .str node.nodeId),
      ("depends_on", .arr (node.dependsOn.map Json.str)), ("packet", value)]) =
      .obj [("depends_on", .arr (node.dependsOn.map Json.str)), ("node_id", .str node.nodeId),
        ("packet", value)] := by
    have hfirst : ¬ "node_id" < "depends_on" := by decide
    have hsecond : "depends_on" < "node_id" := by decide
    have hthird : ¬ "packet" < "depends_on" := by decide
    have hfourth : ¬ "packet" < "node_id" := by decide
    simp only [canon, canonFields, canonItems_str, sortFields, List.foldl_cons, List.foldl_nil,
      insertField, hsecond, hthird, hfourth, if_true, if_false, String.reduceEq,
      canon_of_canonical value (TaskPacket.toDict_canonical hvalue)]
  rw [hcanon]
  unfold GraphNode.decode
  simp only [except_bind_ok]
  exact ⟨.str node.nodeId, rfl, .arr (node.dependsOn.map Json.str), rfl, _, rfl, value, rfl,
    node.packet, hstable value hvalue, node.nodeId, rfl, node.dependsOn,
    asId_all _ node.dependsOn, node.new_self⟩

/-! ### Graphs -/

theorem WorkflowGraph.new_self (graph : WorkflowGraph) :
    WorkflowGraph.new graph.nodes graph.schemaVersion = .ok graph := by
  unfold WorkflowGraph.new
  split
  · rfl
  · rename_i error herror
    rw [graph.checked] at herror
    cases herror

theorem WorkflowGraph.new_ok {nodes : List GraphNode} {schemaVersion : Int} {graph : WorkflowGraph}
    (h : WorkflowGraph.new nodes schemaVersion = .ok graph) :
    graph.nodes = nodes ∧ graph.schemaVersion = schemaVersion := by
  unfold WorkflowGraph.new at h
  split at h
  · obtain rfl := Except.ok.inj h
    exact ⟨rfl, rfl⟩
  · cases h

theorem WorkflowGraph.decode_of_fromDict {graph : WorkflowGraph} {value : Json}
    (h : WorkflowGraph.fromDict value = .ok graph) : WorkflowGraph.decode value = .ok graph := by
  unfold WorkflowGraph.fromDict at h
  split at h
  · rename_i found hfound
    rw [hfound, Except.ok.inj h]
  · cases h
  · cases h

/-- The nodes of a graph that is decoded from a written graph are stable. -/
theorem WorkflowGraph.stable_of_fromDict {original graph : WorkflowGraph} {dict : Json}
    (hwritten : original.toDict = .ok dict) (h : WorkflowGraph.fromDict dict = .ok graph) :
    ∀ node ∈ graph.nodes, node.Stable := by
  unfold WorkflowGraph.toDict at hwritten
  rw [except_bind_ok] at hwritten
  obtain ⟨items, hitems, hwritten⟩ := hwritten
  obtain rfl := Except.ok.inj hwritten
  have hdecode := WorkflowGraph.decode_of_fromDict h
  unfold WorkflowGraph.decode at hdecode
  simp only [except_bind_ok] at hdecode
  obtain ⟨_, -, list, hlist, items', hitems', nodes, hnodes, version, hversion, hdecode⟩ := hdecode
  obtain rfl : Json.arr items = list := Except.ok.inj hlist
  obtain rfl : items = items' := Except.ok.inj hitems'
  obtain rfl : Json.int original.schemaVersion = version := Except.ok.inj hversion
  simp only [except_bind_ok] at hdecode
  obtain ⟨built, hbuilt, _, -, _, -, _, -, _, -, hbuilt'⟩ := hdecode
  obtain rfl : built = graph := Except.ok.inj hbuilt'
  rw [(WorkflowGraph.new_ok hbuilt).1]
  -- every node was decoded from a written one
  have hwritten := mapM_eq_ok.mp hitems
  have hdecoded := mapM_eq_ok.mp hnodes
  intro node hnode
  obtain ⟨i, hi, rfl⟩ := List.getElem_of_mem hnode
  have hlength := hdecoded.length_eq
  have hlength' := hwritten.length_eq
  have hitem := hdecoded.get (show i < items.length by omega) hi
  have horiginal := hwritten.get (show i < original.nodes.length by omega)
    (show i < items.length by omega)
  exact GraphNode.stable_of_decode horiginal hitem

/-- **Round trip.**  A graph with stable nodes is read back from the text it is
stored under. -/
theorem WorkflowGraph.fromDict_stored {graph : WorkflowGraph} {value : Json} {encoded : String}
    (hstable : ∀ node ∈ graph.nodes, node.Stable) (hvalue : graph.toDict = .ok value)
    (hencoded : canonicalJson value = .ok encoded) :
    ∃ stored, loadsJson encoded = .ok stored ∧ WorkflowGraph.fromDict stored = .ok graph := by
  refine ⟨canon value, loadsJson_canonicalJson hencoded, ?_⟩
  have hdict := hvalue
  unfold WorkflowGraph.toDict at hdict
  rw [except_bind_ok] at hdict
  obtain ⟨items, hitems, hdict⟩ := hdict
  obtain rfl := Except.ok.inj hdict
  have hcanon : canon (.obj [("schema_version", .int graph.schemaVersion), ("nodes", .arr items)]) =
      .obj [("nodes", .arr (canonItems items)), ("schema_version", .int graph.schemaVersion)] := by
    have hlt : "nodes" < "schema_version" := by decide
    simp only [canon, canonFields, sortFields, List.foldl_cons, List.foldl_nil, insertField, hlt,
      if_true]
  have hnodes : (canonItems items).mapM GraphNode.decode = .ok graph.nodes := by
    rw [mapM_eq_ok] at hitems ⊢
    clear hcanon hvalue hencoded hdict
    generalize graph.nodes = nodes at hitems hstable ⊢
    induction hitems with
    | nil => exact List.Forall₂.nil
    | @cons node item nodes items hnode hrest ih =>
        refine List.Forall₂.cons ?_ (ih fun other hother =>
          hstable other (List.mem_cons_of_mem _ hother))
        exact GraphNode.decode_canon (hstable node (List.mem_cons_self ..)) hnode
  have hdecode : WorkflowGraph.decode
      (canon (.obj [("schema_version", .int graph.schemaVersion), ("nodes", .arr items)])) =
      .ok graph := by
    have htext := canonicalJson_canon hencoded
    rw [hcanon] at htext ⊢
    unfold WorkflowGraph.decode
    simp only [except_bind_ok]
    refine ⟨(), rfl, .arr (canonItems items), rfl, canonItems items, rfl, graph.nodes, hnodes,
      .int graph.schemaVersion, rfl, ?_⟩
    simp only [except_bind_ok]
    refine ⟨graph, graph.new_self, _, hvalue, encoded, hencoded, encoded, htext, (), ?_, rfl⟩
    rw [ensure_ok, decide_eq_true_eq]
  unfold WorkflowGraph.fromDict
  rw [hdecode]

end Workflows
end Ryuk

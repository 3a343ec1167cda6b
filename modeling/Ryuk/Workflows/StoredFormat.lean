import Ryuk.Workflows.GraphProgress

/-!
# The stored format

A packet is written with its deadline in UTC, and read back as the packet it was,
deadlines compared as instants; a dictionary that is accepted has the text of what
was read from it.  The same holds of graphs.  An integer with more than 4300 digits
has no text, so a packet that counts so many tokens is not written at all.
-/

namespace Ryuk
namespace Workflows

open Foundation Foundation.Json Foundation.Decimal Foundation.Datetime Inference

/-! ### Equal packets -/

/-- The instant of an aware datetime, in microseconds. -/
def instantOf (deadline : DateTime) : Option Int :=
  deadline.utcoffset.map fun offset => deadline.reading.micros - offset

/-- Equal packets; their deadlines are the same instant. -/
structure TaskPacket.Equals (packet other : TaskPacket) : Prop where
  schemaVersion : packet.schemaVersion = other.schemaVersion
  input : packet.task.input = other.task.input
  generation : packet.task.generation = other.task.generation
  requirements : packet.task.requirements = other.task.requirements
  trace : packet.task.trace = other.task.trace
  deadline : packet.task.deadlineAt.map instantOf = other.task.deadlineAt.map instantOf

/-- The deadline has a UTC reading, and the token counts have a text. -/
structure TaskPacket.Writable (packet : TaskPacket) : Prop where
  deadline : ∀ deadline ∈ packet.task.deadlineAt,
    (DateTime.astimezoneUtc deadline.reading (deadline.utcoffset.getD 0)).isSome = true
  outputTokens : ∀ tokens ∈ packet.task.generation.maxOutputTokens,
    tokens.natAbs < 10 ^ maxIntDigits
  contextTokens : ∀ tokens ∈ packet.task.requirements.requiredContextTokens,
    tokens.natAbs < 10 ^ maxIntDigits

/-- An integer has a text unless it has too many digits. -/
theorem printable_int_iff {value : Int} :
    printable (.int value) = true ↔ value.natAbs < 10 ^ maxIntDigits := by
  unfold printable
  rw [decide_eq_true_eq]
  exact Nat.length_toDigits_le_iff (by norm_num) (by decide)

/-- `deadline_at.astimezone(UTC)`. -/
def deadlineUtc (deadline : Option DateTime) : Option Instant :=
  deadline.bind fun found => DateTime.astimezoneUtc found.reading (found.utcoffset.getD 0)

/-- A packet with its deadline in UTC. -/
def TaskPacket.inUtc (packet : TaskPacket) : TaskPacket where
  task :=
    { packet.task with
      deadlineAt := (deadlineUtc packet.task.deadlineAt).map Instant.utc
      aware := by
        intro found hfound
        obtain ⟨instant, -, rfl⟩ := Option.map_eq_some_iff.mp hfound
        rfl }
  schemaVersion := packet.schemaVersion
  supported := packet.supported

/-- A deadline with a UTC reading is written like that reading, and is the same instant. -/
theorem deadlineUtc_spec {deadline : Option DateTime}
    (haware : ∀ found ∈ deadline, found.utcoffset.isSome = true)
    (hutc : ∀ found ∈ deadline,
      (DateTime.astimezoneUtc found.reading (found.utcoffset.getD 0)).isSome = true) :
    deadlineJson ((deadlineUtc deadline).map Instant.utc) = deadlineJson deadline ∧
      ((deadlineUtc deadline).map Instant.utc).map instantOf = deadline.map instantOf := by
  cases deadline with
  | none => exact ⟨rfl, rfl⟩
  | some found =>
      obtain ⟨offset, hoffset⟩ := Option.isSome_iff_exists.mp (haware found rfl)
      have hsome := hutc found rfl
      rw [hoffset, Option.getD_some] at hsome
      obtain ⟨instant, hinstant⟩ := Option.isSome_iff_exists.mp hsome
      have hdeadline : deadlineUtc (some found) = some instant := by
        unfold deadlineUtc
        rw [Option.bind_some, hoffset, Option.getD_some, hinstant]
      rw [hdeadline]
      constructor
      · rw [Option.map_some, deadlineJson_utc rfl]
        unfold deadlineJson
        simp only [hoffset, Option.getD_some, hinstant]
        rfl
      · have hmicros := Instant.ofMicros_micros hinstant
        simp only [Option.map_some, instantOf, hoffset, Instant.utc]
        rw [hmicros, Int.sub_zero]

section Packets

variable {packet : TaskPacket}

theorem TaskPacket.Writable.equals (h : packet.Writable) : packet.inUtc.Equals packet :=
  ⟨rfl, rfl, rfl, rfl, rfl, (deadlineUtc_spec packet.task.aware h.deadline).2⟩

theorem TaskPacket.Writable.storable (h : packet.Writable) : packet.inUtc.Storable := by
  apply TaskPacket.storable
  · intro found hfound
    obtain ⟨instant, -, rfl⟩ := Option.map_eq_some_iff.mp hfound
    rfl
  · intro tokens htokens
    exact printable_int_iff.mpr (h.outputTokens tokens htokens)
  · intro tokens htokens
    exact printable_int_iff.mpr (h.contextTokens tokens htokens)

theorem TaskPacket.Writable.toDict (h : packet.Writable) :
    packet.inUtc.toDict = packet.toDict := by
  unfold TaskPacket.toDict
  rw [show deadlineJson packet.inUtc.task.deadlineAt = deadlineJson packet.task.deadlineAt from
    (deadlineUtc_spec packet.task.aware h.deadline).1]
  rfl

/-- A writable packet is read back as an equal one. -/
theorem TaskPacket.Writable.round_trip (h : packet.Writable) :
    ∃ value other, packet.toDict = .ok value ∧ TaskPacket.fromDict value = .ok other ∧
      other.Equals packet := by
  obtain ⟨value, hvalue⟩ := h.storable.written
  exact ⟨value, packet.inUtc, h.toDict ▸ hvalue,
    TaskPacket.fromDict_toDict h.storable.utc hvalue, h.equals⟩

/-- A packet that is written is writable. -/
theorem TaskPacket.writable_of_toDict {value : Json} (h : packet.toDict = .ok value) :
    packet.Writable := by
  unfold TaskPacket.toDict at h
  simp only [except_bind_ok] at h
  obtain ⟨deadline, hdeadline, text, htext, -⟩ := h
  have hprintable := printable_of_canonicalJson htext
  simp only [printable, printableFields, Bool.and_eq_true] at hprintable
  have hgeneration : printable (generationDict packet.task.generation) = true :=
    hprintable.2.1.2.1
  have hrequirements : printable (requirementsDict packet.task.requirements) = true :=
    hprintable.2.1.2.2.1
  simp only [generationDict, printable, printableFields, Bool.and_eq_true] at hgeneration
  simp only [requirementsDict, printable, printableFields, Bool.and_eq_true] at hrequirements
  refine ⟨fun found hfound => ?_, fun tokens htokens => ?_, fun tokens htokens => ?_⟩
  · rw [Option.mem_def.mp hfound] at hdeadline
    cases hinstant : DateTime.astimezoneUtc found.reading (found.utcoffset.getD 0) with
    | some instant => rfl
    | none =>
        simp only [deadlineJson, hinstant] at hdeadline
        cases hdeadline
  · have hcount := hgeneration.1
    rw [Option.mem_def.mp htokens] at hcount
    exact printable_int_iff.mp hcount
  · have hcount := hrequirements.2.2.1
    rw [Option.mem_def.mp htokens] at hcount
    exact printable_int_iff.mp hcount

end Packets

/-! ### Accepted dictionaries -/

/-- What is accepted has the text of what was read from it. -/
theorem WorkflowGraph.exact {graph : WorkflowGraph} {value : Json}
    (h : WorkflowGraph.fromDict value = .ok graph) :
    ∃ dict text, graph.toDict = .ok dict ∧ canonicalJson dict = .ok text ∧
      canonicalJson value = .ok text := by
  have hdecode := WorkflowGraph.decode_of_fromDict h
  unfold WorkflowGraph.decode at hdecode
  cases value with
  | obj fields =>
      simp only [except_bind_ok] at hdecode
      obtain ⟨_, -, _, -, _, -, nodes, -, version, -, hdecode⟩ := hdecode
      cases version with
      | int version =>
          simp only [except_bind_ok] at hdecode
          obtain ⟨built, -, dict, hdict, written, hwritten, given, hgiven, _, hsame, hbuilt⟩ :=
            hdecode
          obtain rfl := Except.ok.inj hbuilt
          rw [ensure_ok, decide_eq_true_eq] at hsame
          exact ⟨dict, written, hdict, hwritten, hsame ▸ hgiven⟩
      | null | bool _ | float _ | str _ | arr _ | obj _ => cases hdecode
  | null | bool _ | int _ | float _ | str _ | arr _ => cases hdecode

/-! ### Graphs -/

/-- Equal graphs: node by node, deadlines compared as instants. -/
structure WorkflowGraph.Equals (graph other : WorkflowGraph) : Prop where
  schemaVersion : graph.schemaVersion = other.schemaVersion
  nodes : List.Forall₂ (fun node node' : GraphNode =>
    node.nodeId = node'.nodeId ∧ node.dependsOn = node'.dependsOn ∧
      node.packet.Equals node'.packet) graph.nodes other.nodes

section Replacing

variable {change : GraphNode → GraphNode}

theorem requireKnown_map (hid : ∀ node, (change node).nodeId = node.nodeId)
    (hdepends : ∀ node, (change node).dependsOn = node.dependsOn) (known : List String)
    (nodes : List GraphNode) : requireKnown known (nodes.map change) = requireKnown known nodes := by
  induction nodes with
  | nil => rfl
  | cons node rest ih =>
      rw [List.map_cons, requireKnown, requireKnown, hid, hdepends, ih]

/-- The checks of a graph read the ids of its nodes and what they depend on. -/
theorem WorkflowGraph.check_map (hid : ∀ node, (change node).nodeId = node.nodeId)
    (hdepends : ∀ node, (change node).dependsOn = node.dependsOn) (nodes : List GraphNode)
    (schemaVersion : Int) :
    WorkflowGraph.check (nodes.map change) schemaVersion =
      WorkflowGraph.check nodes schemaVersion := by
  have hids : (nodes.map change).map GraphNode.nodeId = nodes.map GraphNode.nodeId := by
    rw [List.map_map]
    exact List.map_congr_left fun node _ => hid node
  have hdependencies : dependenciesOf (nodes.map change) = dependenciesOf nodes := by
    funext nodeId
    unfold dependenciesOf
    induction nodes with
    | nil => rfl
    | cons node rest ih =>
        rw [List.map_cons, List.find?_cons, List.find?_cons, hid]
        cases decide (node.nodeId = nodeId) with
        | true => exact hdepends node
        | false => exact ih (List.cons.inj hids).2
  unfold WorkflowGraph.check requireAcyclic
  rw [hids, List.length_map, requireKnown_map hid hdepends, hdependencies]

end Replacing

/-- A node with the deadline of its packet in UTC. -/
def GraphNode.inUtc (node : GraphNode) : GraphNode := { node with packet := node.packet.inUtc }

/-- A graph with all deadlines in UTC. -/
def WorkflowGraph.inUtc (graph : WorkflowGraph) : WorkflowGraph where
  nodes := graph.nodes.map GraphNode.inUtc
  schemaVersion := graph.schemaVersion
  checked := by
    rw [@WorkflowGraph.check_map GraphNode.inUtc (fun _ => rfl) fun _ => rfl]
    exact graph.checked

/-- A graph of writable packets is read back as an equal one. -/
theorem WorkflowGraph.round_trip {graph : WorkflowGraph}
    (h : ∀ node ∈ graph.nodes, node.packet.Writable) :
    ∃ value other, graph.toDict = .ok value ∧ WorkflowGraph.fromDict value = .ok other ∧
      other.Equals graph := by
  have hstorable : ∀ node ∈ graph.inUtc.nodes, node.packet.Storable := by
    intro node hnode
    obtain ⟨original, horiginal, rfl⟩ := List.mem_map.mp hnode
    exact (h original horiginal).storable
  obtain ⟨value, hvalue, hprintable⟩ := WorkflowGraph.toDict_total hstorable
  have hread : WorkflowGraph.fromDict value = .ok graph.inUtc :=
    WorkflowGraph.fromDict_toDict (WorkflowGraph.stable_of_storable hstorable) hvalue hprintable
  -- the nodes are written alike
  have hnodes : (graph.nodes.map GraphNode.inUtc).mapM GraphNode.toDict =
      graph.nodes.mapM GraphNode.toDict := by
    generalize graph.nodes = nodes at h
    induction nodes with
    | nil => rfl
    | cons node rest ih =>
        have hnode : node.inUtc.toDict = node.toDict := by
          unfold GraphNode.toDict
          rw [show node.inUtc.packet.toDict = node.packet.toDict from
            (h node List.mem_cons_self).toDict]
          rfl
        rw [List.map_cons, List.mapM_cons, List.mapM_cons, hnode,
          ih fun other hother => h other (List.mem_cons_of_mem _ hother)]
  have hdict : graph.inUtc.toDict = graph.toDict := by
    unfold WorkflowGraph.toDict
    rw [show graph.inUtc.nodes.mapM GraphNode.toDict = graph.nodes.mapM GraphNode.toDict from hnodes]
    rfl
  refine ⟨value, graph.inUtc, hdict ▸ hvalue, hread, rfl, ?_⟩
  show List.Forall₂ _ (graph.nodes.map GraphNode.inUtc) graph.nodes
  rw [List.forall₂_map_left_iff, List.forall₂_same]
  intro node hnode
  exact ⟨rfl, rfl, (h node hnode).equals⟩

/-! ### Exactness -/

/-- The stored format of packets and graphs is exact. -/
structure FormatExact : Prop where
  /-- A packet is written when it is writable. -/
  written : ∀ packet : TaskPacket, (∃ value, packet.toDict = .ok value) ↔ packet.Writable
  /-- A writable packet is read back as an equal one. -/
  packet : ∀ packet : TaskPacket, packet.Writable →
    ∃ value other, packet.toDict = .ok value ∧ TaskPacket.fromDict value = .ok other ∧
      other.Equals packet
  /-- What is accepted as a packet has the text of what was read from it. -/
  packetText : ∀ (value : Json) (packet : TaskPacket), TaskPacket.fromDict value = .ok packet →
    ∃ dict text, packet.toDict = .ok dict ∧ canonicalJson dict = .ok text ∧
      canonicalJson value = .ok text
  /-- A graph of writable packets is read back as an equal one. -/
  graph : ∀ graph : WorkflowGraph, (∀ node ∈ graph.nodes, node.packet.Writable) →
    ∃ value other, graph.toDict = .ok value ∧ WorkflowGraph.fromDict value = .ok other ∧
      other.Equals graph
  /-- What is accepted as a graph has the text of what was read from it. -/
  graphText : ∀ (value : Json) (graph : WorkflowGraph), WorkflowGraph.fromDict value = .ok graph →
    ∃ dict text, graph.toDict = .ok dict ∧ canonicalJson dict = .ok text ∧
      canonicalJson value = .ok text

/-- **Exact format.** -/
theorem format_exact : FormatExact where
  written _ := ⟨fun ⟨_, h⟩ => TaskPacket.writable_of_toDict h,
    fun h => let ⟨value, _, hvalue, _⟩ := h.round_trip; ⟨value, hvalue⟩⟩
  packet _ h := h.round_trip
  packetText _ _ h := TaskPacket.exact h
  graph _ h := WorkflowGraph.round_trip h
  graphText _ _ h := WorkflowGraph.exact h

/-- A packet that asks for `10 ^ 4300` tokens, and has no deadline. -/
def TaskPacket.unwritable : TaskPacket :=
  { TaskPacket.short with
    task :=
      { TaskPacket.short.task with
        generation := ⟨some (10 ^ maxIntDigits), .int 0, by
          intro tokens htokens
          rw [← Option.some.inj htokens]
          exact Int.pow_pos (by norm_num), zero_inRange⟩ } }

theorem pow_not_lt (digits : Nat) : ¬ (10 ^ digits : Int).natAbs < 10 ^ digits := by
  rw [Int.natAbs_pow]
  exact Nat.lt_irrefl _

/-- An integer of 4301 digits has no text, so its packet is not written. -/
theorem long_count_not_written :
    TaskPacket.unwritable.task.deadlineAt = none ∧
      ¬ ∃ value, TaskPacket.unwritable.toDict = .ok value := by
  refine ⟨rfl, ?_⟩
  rintro ⟨value, hvalue⟩
  exact pow_not_lt _ ((TaskPacket.writable_of_toDict hvalue).outputTokens _ rfl)

end Workflows
end Ryuk

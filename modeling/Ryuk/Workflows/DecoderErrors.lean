import Ryuk.Foundation.Raises
import Ryuk.Workflows.Graph
import Ryuk.Workflows.PacketCodec

/-!
# What the decoders raise

The decoders of packets and graphs translate four classes of exception into `ValueError`.
Here they run over any reader of dates, since a deadline may have any form the reader of the
standard library accepts; with the reader of the extended form they are the decoders of
`Contracts` and `Graph`.

Following every part of a value to the exception it produces, only one class escapes the
translation: a deadline whose UTC instant is outside the calendar overflows when the packet
is written back for comparison (`decodeWith_overflow`).
-/

namespace Ryuk
namespace Workflows

open Foundation Foundation.Json Foundation.Text Foundation.Datetime Inference

/-- A reader of dates: `datetime.fromisoformat`. -/
abbrev DateReader := String → Option DateTime

/-! ### The decoders over a reader -/

/-- `except (TypeError, KeyError, AttributeError, ValueError)`. -/
def isTranslated : PyError → Bool
  | .typeError | .keyError | .attributeError | .valueError _ | .workflowConflict _ => true
  | .overflowError | .integrityError | .assertionError | .recursionError => false

/-- `raise ValueError(message) from exc`. -/
def translate {α : Type} (message : String) : Except PyError α → Except PyError α
  | .ok value => .ok value
  | .error error => if isTranslated error then .error (.valueError message) else .error error

/-- `datetime.fromisoformat(deadline) if deadline is not None else None`. -/
def decodeDeadlineWith (reader : DateReader) (value : Json) : Except PyError (Option DateTime) :=
  match value with
  | .null => .ok none
  | .str text =>
      match reader text with
      | some deadline => .ok (some deadline)
      | none => .error (.valueError "Invalid isoformat string")
  | _ => .error .typeError

/-- The packet that is built from a version and a task. -/
def TaskPacket.build (task : InferenceTask) : Json → Except PyError TaskPacket
  | .int version => TaskPacket.new task version
  | _ => .error (.valueError "Unsupported task packet version")

/-- `canonical_json(packet.to_dict()) != canonical_json(value)`. -/
def TaskPacket.compare (packet : TaskPacket) (value : Json) : Except PyError TaskPacket := do
  let dict ← packet.toDict
  let written ← canonicalJson dict
  let given ← canonicalJson value
  if written = given then pure packet
  else throw (.valueError "Noncanonical task packet")

/-- The body of `TaskPacket.from_dict`. -/
def TaskPacket.decodeWith (reader : DateReader) (value : Json) : Except PyError TaskPacket := do
  let fields ← keywords value ["schema_version", "task"]
  let (version, _) ← pop "schema_version" fields
  let (task, _) ← pop "task" fields
  let task ← pyDict task
  let (input, task) ← pop "input" task
  let content ← pyDict input
  let inputValue ← decodeInput content
  let (deadline, task) ← pop "deadline_at" task
  let (generation, task) ← pop "generation" task
  let generation ← decodeGeneration generation
  let (requirements, task) ← pop "requirements" task
  let requirements ← decodeRequirements requirements
  let (trace, task) ← pop "trace" task
  let trace ← decodeTrace trace
  let deadline ← decodeDeadlineWith reader deadline
  if task = [] then
    let task ← InferenceTask.new inputValue generation requirements trace deadline
    let packet ← TaskPacket.build task version
    packet.compare value
  else throw .typeError

/-- `TaskPacket.from_dict(value)`. -/
def TaskPacket.fromDictWith (reader : DateReader) (value : Json) : Except PyError TaskPacket :=
  translate "Invalid workflow task packet" (TaskPacket.decodeWith reader value)

/-- One node of a decoded graph. -/
def GraphNode.decodeWith (reader : DateReader) (value : Json) : Except PyError GraphNode := do
  let nodeId ← subscript value "node_id"
  let dependsOn ← subscript value "depends_on"
  let dependsOn ← tupleOf dependsOn
  let packet ← subscript value "packet"
  let packet ← TaskPacket.fromDictWith reader packet
  let nodeId ← asId "Graph node IDs must be nonempty without outer whitespace" nodeId
  let dependsOn ← dependsOn.mapM
    (asId "Graph dependencies must contain canonical node IDs")
  GraphNode.new nodeId packet dependsOn

/-- The graph that is built from a version and its nodes. -/
def WorkflowGraph.build (nodes : List GraphNode) : Json → Except PyError WorkflowGraph
  | .int schemaVersion => WorkflowGraph.new nodes schemaVersion
  | _ => .error (.valueError "Unsupported workflow graph version")

/-- `canonical_json(graph.to_dict()) != canonical_json(value)`. -/
def WorkflowGraph.compare (graph : WorkflowGraph) (value : Json) :
    Except PyError WorkflowGraph := do
  let dict ← graph.toDict
  let written ← canonicalJson dict
  let given ← canonicalJson value
  ensure (decide (written = given)) (.valueError "Noncanonical workflow graph")
  pure graph

/-- The body of `WorkflowGraph.from_dict`. -/
def WorkflowGraph.decodeWith (reader : DateReader) (value : Json) :
    Except PyError WorkflowGraph :=
  match value with
  | .obj fields => do
      ensure (keysAre fields ["schema_version", "nodes"])
        (.valueError "Invalid workflow graph fields")
      let nodes ← subscript value "nodes"
      let nodes ← tupleOf nodes
      let nodes ← nodes.mapM (GraphNode.decodeWith reader)
      let schemaVersion ← subscript value "schema_version"
      let graph ← WorkflowGraph.build nodes schemaVersion
      graph.compare value
  | _ => throw .typeError

/-- `WorkflowGraph.from_dict(value)`. -/
def WorkflowGraph.fromDictWith (reader : DateReader) (value : Json) :
    Except PyError WorkflowGraph :=
  translate "Invalid workflow graph" (WorkflowGraph.decodeWith reader value)

/-! ### The exceptions of the parts -/

/-- Only exceptions that are translated. -/
abbrev Translated {α : Type} (x : Except PyError α) : Prop :=
  Raises (fun error => isTranslated error = true) x

theorem keywords_translated (value : Json) (names : List String) :
    Translated (keywords value names) := by
  unfold keywords
  split
  · exact (raises_ok _).ite (raises_error rfl)
  · exact raises_error rfl

theorem pop_translated (key : String) (fields : List (String × Json)) :
    Translated (pop key fields) := by
  unfold pop
  split
  · exact raises_ok _
  · exact raises_error rfl

theorem pairOf_translated (value : Json) : Translated (pairOf value) := by
  unfold pairOf
  split
  · exact raises_ok _
  · split
    · exact raises_ok _
    · exact raises_error rfl
  · exact raises_ok _
  · exact raises_error rfl
  · exact raises_error rfl
  · exact raises_error rfl
  · exact raises_error rfl
  · exact raises_error rfl
  · exact raises_error rfl
  · exact raises_error rfl

theorem pyDict_translated (value : Json) : Translated (pyDict value) := by
  cases value with
  | obj fields => exact raises_ok _
  | arr items => exact (Raises.mapM pairOf_translated items).map _
  | str text => exact (raises_ok _).ite (raises_error rfl)
  | null | bool _ | int _ | float _ => exact raises_error rfl

theorem asText_translated (value : Json) : Translated (asText value) := by
  cases value with
  | str text => exact raises_ok _
  | null | bool _ | int _ | float _ | arr _ | obj _ => exact raises_error rfl

theorem asOptionalText_translated (value : Json) : Translated (asOptionalText value) := by
  cases value with
  | null => exact raises_ok _
  | str text => exact raises_ok _
  | bool _ | int _ | float _ | arr _ | obj _ => exact raises_error rfl

theorem asOptionalInt_translated (value : Json) : Translated (asOptionalInt value) := by
  cases value with
  | null => exact raises_ok _
  | int number => exact raises_ok _
  | bool _ | float _ | str _ | arr _ | obj _ => exact raises_error rfl

theorem asFlag_translated (value : Json) : Translated (asFlag value) := by
  cases value with
  | bool flag => exact raises_ok _
  | null | int _ | float _ | str _ | arr _ | obj _ => exact raises_error rfl

theorem asTemperature_translated (value : Json) : Translated (asTemperature value) := by
  cases value with
  | int number => exact raises_ok _
  | float number => exact raises_ok _
  | null | bool _ | str _ | arr _ | obj _ => exact raises_error rfl

theorem requireText_translated (value fieldName : String) :
    Translated (requireText value fieldName) := by
  unfold requireText
  exact Raises.dite (fun _ => raises_ok _) fun _ => raises_error rfl

theorem optionalText_translated (value : Option String) (fieldName : String) :
    Translated (optionalText value fieldName) := by
  cases value with
  | none => exact raises_ok _
  | some text => exact (requireText_translated text fieldName).map _

theorem ofValue_translated (value : String) : Translated (ChatRole.ofValue value) := by
  unfold ChatRole.ofValue
  exact (raises_ok _).ite ((raises_ok _).ite ((raises_ok _).ite (raises_error rfl)))

theorem decodeMessage_translated (message : Json) : Translated (decodeMessage message) := by
  cases message with
  | obj fields =>
      refine (pop_translated _ _).bind fun role => ?_
      refine (asText_translated _).bind fun text => ?_
      refine (ofValue_translated _).bind fun role => ?_
      refine (pop_translated _ _).bind fun content => ?_
      refine (asText_translated _).bind fun text => ?_
      refine ((requireText_translated _ _).map _).bind fun decoded => ?_
      exact (raises_ok _).ite (raises_throw rfl)
  | null | bool _ | int _ | float _ | str _ | arr _ => exact raises_throw rfl

theorem decodeInput_translated (content : List (String × Json)) :
    Translated (decodeInput content) := by
  refine (pop_translated _ _).bind fun kind => Raises.ite ?_ (Raises.ite ?_ (raises_throw rfl))
  · refine (keywords_translated _ _).bind fun arguments => ?_
    refine (pop_translated _ _).bind fun text => ?_
    refine (asText_translated _).bind fun text => ?_
    exact ((requireText_translated _ _).map _).bind fun input => raises_ok _
  · split
    · refine (Raises.mapM decodeMessage_translated _).bind fun messages => ?_
      refine Raises.bind ?_ fun input => raises_ok _
      exact Raises.dite (fun _ => raises_ok _) fun _ => raises_error rfl
    · exact raises_throw rfl

theorem decodeGeneration_translated (value : Json) : Translated (decodeGeneration value) := by
  refine (keywords_translated _ _).bind fun arguments => ?_
  refine (asOptionalInt_translated _).bind fun tokens => ?_
  refine (asTemperature_translated _).bind fun temperature => ?_
  exact Raises.dite
    (fun _ => Raises.dite (fun _ => raises_ok _) fun _ => raises_error rfl)
    fun _ => raises_error rfl

theorem decodeRequirements_translated (value : Json) : Translated (decodeRequirements value) := by
  refine (keywords_translated _ _).bind fun arguments => ?_
  refine (asOptionalText_translated _).bind fun requestedModel => ?_
  refine (asOptionalText_translated _).bind fun requiredModel => ?_
  refine (asOptionalInt_translated _).bind fun tokens => ?_
  refine (asFlag_translated _).bind fun structured => ?_
  refine (asFlag_translated _).bind fun streaming => ?_
  refine (asOptionalText_translated _).bind fun accelerator => ?_
  refine (asOptionalText_translated _).bind fun topology => ?_
  refine (asOptionalText_translated _).bind fun location => ?_
  refine (asFlag_translated _).bind fun production => ?_
  -- the checks of the constructor
  refine (optionalText_translated _ _).bind fun requested => ?_
  refine (optionalText_translated _ _).bind fun required => ?_
  refine Raises.dite (fun _ => ?_) fun _ => raises_throw rfl
  refine (optionalText_translated _ _).bind fun accelerator => ?_
  refine (optionalText_translated _ _).bind fun topology => ?_
  exact (optionalText_translated _ _).bind fun location => raises_ok _

theorem decodeTrace_translated (value : Json) : Translated (decodeTrace value) := by
  refine (keywords_translated _ _).bind fun arguments => ?_
  refine (pop_translated _ _).bind fun requestId => ?_
  refine (asText_translated _).bind fun text => ?_
  refine (asOptionalText_translated _).bind fun traceparent => ?_
  exact (requireText_translated _ _).map _

theorem decodeDeadlineWith_translated (reader : DateReader) (value : Json) :
    Translated (decodeDeadlineWith reader value) := by
  cases value with
  | null => exact raises_ok _
  | str text =>
      unfold decodeDeadlineWith
      dsimp only
      split
      · exact raises_ok _
      · exact raises_error rfl
  | bool _ | int _ | float _ | arr _ | obj _ => exact raises_error rfl

theorem inferenceTask_translated (input : TaskInput) (generation : GenerationConfig)
    (requirements : RoutingRequirements) (trace : TraceContext) (deadline : Option DateTime) :
    Translated (InferenceTask.new input generation requirements trace deadline) := by
  unfold InferenceTask.new
  exact Raises.dite (fun _ => raises_ok _) fun _ => raises_error rfl

theorem build_translated (task : InferenceTask) (version : Json) :
    Translated (TaskPacket.build task version) := by
  cases version with
  | int number => exact Raises.dite (fun _ => raises_ok _) fun _ => raises_error rfl
  | null | bool _ | float _ | str _ | arr _ | obj _ => exact raises_error rfl

theorem canonicalJson_translated (value : Json) : Translated (canonicalJson value) := by
  unfold canonicalJson
  split
  · exact raises_ok _
  · exact raises_error rfl

theorem loadsJson_translated (text : String) : Translated (loadsJson text) := by
  unfold loadsJson
  split
  · exact raises_ok _
  · exact raises_error rfl

/-! ### The exception that escapes -/

/-- The UTC instant of a deadline is outside the calendar. -/
def OverflowingDeadline (deadline : DateTime) : Prop :=
  ∃ offset, deadline.utcoffset = some offset ∧
    DateTime.astimezoneUtc deadline.reading offset = none

theorem toDict_overflow (packet : TaskPacket) :
    packet.toDict = .error .overflowError ↔
      ∃ deadline, packet.task.deadlineAt = some deadline ∧ OverflowingDeadline deadline := by
  have hrest : ∀ deadline, Translated (do
      let task := Json.obj
        [("input", inputDict packet.task.input),
          ("generation", generationDict packet.task.generation),
          ("requirements", requirementsDict packet.task.requirements),
          ("trace", traceDict packet.task.trace),
          ("deadline_at", deadline)]
      let text ← canonicalJson
        (.obj [("schema_version", .int packet.schemaVersion), ("task", task)])
      loadsJson text) := fun deadline =>
    (canonicalJson_translated _).bind fun text => loadsJson_translated text
  have hdeadline : packet.toDict = .error .overflowError ↔
      deadlineJson packet.task.deadlineAt = .error .overflowError := by
    unfold TaskPacket.toDict
    rw [bind_eq_error]
    constructor
    · rintro (h | ⟨deadline, -, h⟩)
      · exact h
      · exact absurd (hrest deadline _ h) (by decide)
    · exact Or.inl
  rw [hdeadline]
  unfold deadlineJson OverflowingDeadline
  cases hfound : packet.task.deadlineAt with
  | none =>
      constructor
      · intro h
        cases h
      · rintro ⟨deadline, h, -⟩
        cases h
  | some deadline =>
      -- the constructor of the task admits aware deadlines only
      obtain ⟨offset, hoffset⟩ :=
        Option.isSome_iff_exists.mp (packet.task.aware deadline hfound)
      dsimp only
      rw [hoffset, Option.getD_some]
      constructor
      · intro h
        refine ⟨deadline, rfl, offset, hoffset, ?_⟩
        split at h
        · cases h
        · assumption
      · rintro ⟨found, heq, offset', hoffset', h⟩
        cases heq
        rw [hoffset] at hoffset'
        cases hoffset'
        rw [h]

theorem toDict_raises (packet : TaskPacket) :
    Raises (fun error => isTranslated error = true ∨ error = .overflowError) packet.toDict := by
  unfold TaskPacket.toDict
  refine Raises.bind ?_ fun deadline => ?_
  · intro error h
    unfold deadlineJson at h
    split at h
    · cases h
    · split at h
      · cases h
      · cases h
        exact Or.inr rfl
  · refine Raises.mono ?_ fun error h => Or.inl h
    exact (canonicalJson_translated _).bind fun text => loadsJson_translated text

/-- A task all of whose parts are accepted, and whose deadline overflows. -/
structure OverflowingTask (reader : DateReader) (task : List (String × Json)) : Prop where
  names : ∀ key ∈ keys task,
    key ∈ ["input", "deadline_at", "generation", "requirements", "trace"]
  input : ∃ value content input, lookup "input" task = some value ∧
    pyDict value = .ok content ∧ decodeInput content = .ok input
  generation : ∃ value generation, lookup "generation" task = some value ∧
    decodeGeneration value = .ok generation
  requirements : ∃ value requirements, lookup "requirements" task = some value ∧
    decodeRequirements value = .ok requirements
  trace : ∃ value trace, lookup "trace" task = some value ∧ decodeTrace value = .ok trace
  deadline : ∃ text deadline, lookup "deadline_at" task = some (.str text) ∧
    reader text = some deadline ∧ OverflowingDeadline deadline

/-- A packet of version one with such a task. -/
def OverflowingPacket (reader : DateReader) (value : Json) : Prop :=
  ∃ fields found task, keywords value ["schema_version", "task"] = .ok fields ∧
    lookup "schema_version" fields = some (.int 1) ∧ lookup "task" fields = some found ∧
    pyDict found = .ok task ∧ OverflowingTask reader task

/-- A first part that raises only translated exceptions does not overflow. -/
theorem overflow_bind {α β : Type} {x : Except PyError α} {f : α → Except PyError β}
    (h : Translated x) : (x >>= f) = .error .overflowError ↔
      ∃ value, x = .ok value ∧ f value = .error .overflowError :=
  bind_eq_error_of_raises h (by decide)

theorem pop_eq_ok {key : String} {fields : List (String × Json)}
    {popped : Json × List (String × Json)} :
    pop key fields = .ok popped ↔ lookup key fields = some popped.1 ∧
      popped.2 = fields.filter fun field => decide (field.1 ≠ key) := by
  unfold pop
  obtain ⟨value, rest⟩ := popped
  cases lookup key fields with
  | none =>
      constructor
      · intro h
        cases h
      · rintro ⟨h, -⟩
        cases h
  | some found =>
      constructor
      · intro h
        cases h
        exact ⟨rfl, rfl⟩
      · rintro ⟨h, rfl⟩
        cases h
        rfl

/-- Popping one key leaves what the others find. -/
theorem lookup_filter_ne {key other : String} (hne : key ≠ other)
    (fields : List (String × Json)) :
    lookup key (fields.filter fun field => decide (field.1 ≠ other)) = lookup key fields := by
  induction fields with
  | nil => rfl
  | cons field rest ih =>
      obtain ⟨name, value⟩ := field
      by_cases hname : name = other
      · rw [List.filter_cons_of_neg (by simp [hname]), ih, lookup, if_neg]
        rw [hname]
        exact hne.symm
      · rw [List.filter_cons_of_pos (by simp [hname]), lookup, lookup, ih]

/-- Popping the five known keys leaves nothing exactly when there is no other key. -/
theorem filter_eq_nil_iff {task : List (String × Json)} :
    ((((((task.filter fun field => decide (field.1 ≠ "input")).filter
      fun field => decide (field.1 ≠ "deadline_at")).filter
      fun field => decide (field.1 ≠ "generation")).filter
      fun field => decide (field.1 ≠ "requirements")).filter
      fun field => decide (field.1 ≠ "trace")) = []) ↔
      ∀ key ∈ keys task,
        key ∈ ["input", "deadline_at", "generation", "requirements", "trace"] := by
  simp only [List.filter_filter, List.filter_eq_nil_iff, keys, List.mem_map,
    forall_exists_index, and_imp, forall_apply_eq_imp_iff₂, List.mem_cons, List.not_mem_nil,
    or_false, Bool.and_eq_true, decide_eq_true_eq]
  apply forall_congr'
  intro field
  apply imp_congr_right
  intro _
  tauto

/-- The comparison with the written form overflows exactly when the deadline does. -/
theorem compare_overflow (packet : TaskPacket) (value : Json) :
    packet.compare value = .error .overflowError ↔ packet.toDict = .error .overflowError := by
  unfold TaskPacket.compare
  rw [bind_eq_error]
  constructor
  · rintro (h | ⟨dict, -, h⟩)
    · exact h
    · have hrest : Translated (do
          let written ← canonicalJson dict
          let given ← canonicalJson value
          if written = given then pure packet
          else throw (PyError.valueError "Noncanonical task packet")) :=
        (canonicalJson_translated _).bind fun written =>
          (canonicalJson_translated _).bind fun given => (raises_pure _).ite (raises_throw rfl)
      exact absurd (hrest _ h) (by decide)
  · exact Or.inl

theorem decodeDeadlineWith_iff {reader : DateReader} {value : Json} {deadline : DateTime} :
    decodeDeadlineWith reader value = .ok (some deadline) ↔
      ∃ text, value = .str text ∧ reader text = some deadline := by
  cases value with
  | str text =>
      unfold decodeDeadlineWith
      dsimp only
      constructor
      · intro h
        split at h
        · rename_i found hfound
          cases h
          exact ⟨text, rfl, hfound⟩
        · cases h
      · rintro ⟨found, heq, h⟩
        cases heq
        rw [h]
  | null | bool _ | int _ | float _ | arr _ | obj _ =>
      constructor
      · intro h
        cases h
      · rintro ⟨text, h, -⟩
        cases h

/-- What is built from a task and a version overflows with the deadline of the task. -/
theorem build_overflow {input : TaskInput} {generation : GenerationConfig}
    {requirements : RoutingRequirements} {trace : TraceContext} {deadline : Option DateTime}
    {version value : Json} :
    (do
      let task ← InferenceTask.new input generation requirements trace deadline
      let packet ← TaskPacket.build task version
      packet.compare value) = .error .overflowError ↔
      version = .int 1 ∧ ∃ found, deadline = some found ∧ OverflowingDeadline found := by
  rw [overflow_bind (inferenceTask_translated _ _ _ _ _)]
  constructor
  · rintro ⟨task, htask, h⟩
    rw [overflow_bind (build_translated _ _)] at h
    obtain ⟨packet, hpacket, h⟩ := h
    rw [compare_overflow, toDict_overflow] at h
    obtain ⟨found, hfound, hoverflow⟩ := h
    cases version with
    | int number =>
        change TaskPacket.new task number = .ok packet at hpacket
        unfold TaskPacket.new at hpacket
        split_ifs at hpacket with hversion
        cases hpacket
        unfold InferenceTask.new at htask
        split_ifs at htask
        cases htask
        exact ⟨by rw [hversion], found, hfound, hoverflow⟩
    | null | bool _ | float _ | str _ | arr _ | obj _ => cases hpacket
  · rintro ⟨rfl, found, rfl, hoverflow⟩
    obtain ⟨offset, hoffset, hnone⟩ := hoverflow
    have haware : ∀ deadline ∈ some found, deadline.utcoffset.isSome = true := by
      rintro deadline ⟨⟩
      rw [hoffset]
      rfl
    refine ⟨⟨input, generation, requirements, trace, some found, haware⟩, dif_pos haware, ?_⟩
    rw [overflow_bind (build_translated _ _)]
    refine ⟨⟨_, 1, rfl⟩, rfl, ?_⟩
    rw [compare_overflow, toDict_overflow]
    exact ⟨found, rfl, offset, hoffset, hnone⟩

/-- **What escapes.**  Decoding a packet overflows exactly when the packet is one of version
one whose parts are accepted and whose deadline overflows. -/
theorem decodeWith_overflow (reader : DateReader) (value : Json) :
    TaskPacket.decodeWith reader value = .error .overflowError ↔
      OverflowingPacket reader value := by
  -- the fields are popped in this order, so each is looked up past the earlier ones
  have hdeadline : "deadline_at" ≠ "input" := by decide
  have hgeneration : "generation" ≠ "deadline_at" := by decide
  have hgeneration' : "generation" ≠ "input" := by decide
  have hrequirements : "requirements" ≠ "generation" := by decide
  have hrequirements' : "requirements" ≠ "deadline_at" := by decide
  have hrequirements'' : "requirements" ≠ "input" := by decide
  have htrace : "trace" ≠ "requirements" := by decide
  have htrace' : "trace" ≠ "generation" := by decide
  have htrace'' : "trace" ≠ "deadline_at" := by decide
  have hinput : "trace" ≠ "input" := by decide
  unfold TaskPacket.decodeWith
  constructor
  · intro h
    obtain ⟨fields, hfields, h⟩ := (overflow_bind (keywords_translated _ _)).mp h
    obtain ⟨⟨version, _⟩, hversion, h⟩ := (overflow_bind (pop_translated _ _)).mp h
    obtain ⟨⟨found, _⟩, hfound, h⟩ := (overflow_bind (pop_translated _ _)).mp h
    obtain ⟨task, htask, h⟩ := (overflow_bind (pyDict_translated _)).mp h
    obtain ⟨⟨given, task₁⟩, hgiven, h⟩ := (overflow_bind (pop_translated _ _)).mp h
    obtain ⟨content, hcontent, h⟩ := (overflow_bind (pyDict_translated _)).mp h
    obtain ⟨input, hdecoded, h⟩ := (overflow_bind (decodeInput_translated _)).mp h
    obtain ⟨⟨due, task₂⟩, hdue, h⟩ := (overflow_bind (pop_translated _ _)).mp h
    obtain ⟨⟨config, task₃⟩, hconfig, h⟩ := (overflow_bind (pop_translated _ _)).mp h
    obtain ⟨generation, hgenerated, h⟩ := (overflow_bind (decodeGeneration_translated _)).mp h
    obtain ⟨⟨needs, task₄⟩, hneeds, h⟩ := (overflow_bind (pop_translated _ _)).mp h
    obtain ⟨requirements, hrequired, h⟩ := (overflow_bind (decodeRequirements_translated _)).mp h
    obtain ⟨⟨context, task₅⟩, hcontext, h⟩ := (overflow_bind (pop_translated _ _)).mp h
    obtain ⟨trace, htraced, h⟩ := (overflow_bind (decodeTrace_translated _)).mp h
    obtain ⟨deadline, hread, h⟩ := (overflow_bind (decodeDeadlineWith_translated _ _)).mp h
    split_ifs at h with hnil
    · obtain ⟨rfl, due', rfl, hoverflow⟩ := build_overflow.mp h
      rw [pop_eq_ok] at hversion hfound hgiven hdue hconfig hneeds hcontext
      dsimp only at hversion hfound hgiven hdue hconfig hneeds hcontext
      obtain ⟨hgiven, rfl⟩ := hgiven
      obtain ⟨hdue, rfl⟩ := hdue
      obtain ⟨hconfig, rfl⟩ := hconfig
      obtain ⟨hneeds, rfl⟩ := hneeds
      obtain ⟨hcontext, rfl⟩ := hcontext
      rw [lookup_filter_ne hdeadline] at hdue
      rw [lookup_filter_ne hgeneration, lookup_filter_ne hgeneration'] at hconfig
      rw [lookup_filter_ne hrequirements, lookup_filter_ne hrequirements',
        lookup_filter_ne hrequirements''] at hneeds
      rw [lookup_filter_ne htrace, lookup_filter_ne htrace', lookup_filter_ne htrace'',
        lookup_filter_ne hinput] at hcontext
      obtain ⟨text, rfl, hreader⟩ := decodeDeadlineWith_iff.mp hread
      exact ⟨fields, found, task, hfields, hversion.1, hfound.1, htask,
        { names := filter_eq_nil_iff.mp hnil
          input := ⟨given, content, input, hgiven, hcontent, hdecoded⟩
          generation := ⟨config, generation, hconfig, hgenerated⟩
          requirements := ⟨needs, requirements, hneeds, hrequired⟩
          trace := ⟨context, trace, hcontext, htraced⟩
          deadline := ⟨text, due', hdue, hreader, hoverflow⟩ }⟩
    · cases h
  · rintro ⟨fields, found, task, hfields, hversion, hfound, htask, hparts⟩
    obtain ⟨given, content, input, hgiven, hcontent, hdecoded⟩ := hparts.input
    obtain ⟨config, generation, hconfig, hgenerated⟩ := hparts.generation
    obtain ⟨needs, requirements, hneeds, hrequired⟩ := hparts.requirements
    obtain ⟨context, trace, hcontext, htraced⟩ := hparts.trace
    obtain ⟨text, due, hdue, hreader, hoverflow⟩ := hparts.deadline
    have hread := decodeDeadlineWith_iff.mpr ⟨text, rfl, hreader⟩
    rw [hfields, except_ok_bind, pop_of_lookup hversion, except_ok_bind]
    dsimp only
    rw [pop_of_lookup hfound, except_ok_bind]
    dsimp only
    rw [htask, except_ok_bind, pop_of_lookup hgiven, except_ok_bind]
    dsimp only
    rw [hcontent, except_ok_bind, hdecoded, except_ok_bind,
      pop_of_lookup ((lookup_filter_ne hdeadline _).trans hdue), except_ok_bind]
    dsimp only
    rw [pop_of_lookup ((lookup_filter_ne hgeneration _).trans
      ((lookup_filter_ne hgeneration' _).trans hconfig)), except_ok_bind]
    dsimp only
    rw [hgenerated, except_ok_bind, pop_of_lookup ((lookup_filter_ne hrequirements _).trans
      ((lookup_filter_ne hrequirements' _).trans
        ((lookup_filter_ne hrequirements'' _).trans hneeds))), except_ok_bind]
    dsimp only
    rw [hrequired, except_ok_bind, pop_of_lookup ((lookup_filter_ne htrace _).trans
      ((lookup_filter_ne htrace' _).trans ((lookup_filter_ne htrace'' _).trans
        ((lookup_filter_ne hinput _).trans hcontext)))), except_ok_bind]
    dsimp only
    rw [htraced, except_ok_bind, hread, except_ok_bind, if_pos (filter_eq_nil_iff.mpr hparts.names)]
    exact build_overflow.mpr ⟨rfl, due, rfl, hoverflow⟩

/-! ### The decoders of packets -/

/-- Only `ValueError` is raised. -/
def OnlyValueError {α : Type} (x : Except PyError α) : Prop :=
  Raises (fun error => ∃ message, error = .valueError message) x

/-- Only exceptions that are translated, and the overflow. -/
abbrev Foreseen {α : Type} (x : Except PyError α) : Prop :=
  Raises (fun error => isTranslated error = true ∨ error = .overflowError) x

theorem foreseen_of_translated {α : Type} {x : Except PyError α} (h : Translated x) :
    Foreseen x :=
  h.mono fun _ herror => Or.inl herror

theorem onlyValueError_translate {α : Type} (message : String) (x : Except PyError α) :
    OnlyValueError (translate message x) ↔ Translated x := by
  cases x with
  | ok value =>
      constructor
      · intro _
        exact raises_ok value
      · intro _
        exact raises_ok value
  | error found =>
      have htranslate : translate message (.error found : Except PyError α) =
          if isTranslated found then .error (.valueError message) else .error found := rfl
      rw [htranslate]
      cases hfound : isTranslated found with
      | true =>
          rw [if_pos rfl]
          constructor
          · intro _
            exact raises_error hfound
          · intro _
            exact raises_error ⟨message, rfl⟩
      | false =>
          rw [if_neg Bool.false_ne_true]
          constructor
          · intro h
            obtain ⟨text, rfl⟩ := h found rfl
            cases hfound
          · intro h
            have htrue : isTranslated found = true := h found rfl
            rw [hfound] at htrue
            cases htrue

/-- What raises foreseen exceptions raises translated ones unless it overflows. -/
theorem translated_iff {α : Type} {x : Except PyError α} (h : Foreseen x) :
    Translated x ↔ ¬ x = .error .overflowError := by
  constructor
  · intro htranslated hoverflow
    exact absurd (htranslated _ hoverflow) (by decide)
  · intro hnever error herror
    rcases h error herror with htranslated | rfl
    · exact htranslated
    · exact absurd herror hnever

theorem compare_foreseen (packet : TaskPacket) (value : Json) :
    Foreseen (packet.compare value) := by
  refine (toDict_raises packet).bind fun dict => foreseen_of_translated ?_
  refine (canonicalJson_translated _).bind fun written => ?_
  exact (canonicalJson_translated _).bind fun given => (raises_pure _).ite (raises_throw rfl)

/-- The decoder raises nothing but the four translated classes and the overflow. -/
theorem decodeWith_foreseen (reader : DateReader) (value : Json) :
    Foreseen (TaskPacket.decodeWith reader value) := by
  refine (foreseen_of_translated (keywords_translated _ _)).bind fun fields => ?_
  refine (foreseen_of_translated (pop_translated _ _)).bind fun version => ?_
  refine (foreseen_of_translated (pop_translated _ _)).bind fun task => ?_
  refine (foreseen_of_translated (pyDict_translated _)).bind fun entries => ?_
  refine (foreseen_of_translated (pop_translated _ _)).bind fun input => ?_
  refine (foreseen_of_translated (pyDict_translated _)).bind fun content => ?_
  refine (foreseen_of_translated (decodeInput_translated _)).bind fun inputValue => ?_
  refine (foreseen_of_translated (pop_translated _ _)).bind fun deadline => ?_
  refine (foreseen_of_translated (pop_translated _ _)).bind fun config => ?_
  refine (foreseen_of_translated (decodeGeneration_translated _)).bind fun generation => ?_
  refine (foreseen_of_translated (pop_translated _ _)).bind fun needs => ?_
  refine (foreseen_of_translated (decodeRequirements_translated _)).bind fun required => ?_
  refine (foreseen_of_translated (pop_translated _ _)).bind fun context => ?_
  refine (foreseen_of_translated (decodeTrace_translated _)).bind fun trace => ?_
  refine (foreseen_of_translated (decodeDeadlineWith_translated _ _)).bind fun due => ?_
  refine Raises.ite ?_ (raises_throw (Or.inl rfl))
  refine (foreseen_of_translated (inferenceTask_translated _ _ _ _ _)).bind fun task => ?_
  refine (foreseen_of_translated (build_translated _ _)).bind fun packet => ?_
  exact compare_foreseen packet value

/-- Decoding a packet fails with `ValueError` only, unless the packet overflows. -/
theorem onlyValueError_fromDictWith (reader : DateReader) (value : Json) :
    OnlyValueError (TaskPacket.fromDictWith reader value) ↔ ¬ OverflowingPacket reader value := by
  unfold TaskPacket.fromDictWith
  rw [onlyValueError_translate, translated_iff (decodeWith_foreseen reader value),
    decodeWith_overflow]

theorem fromDictWith_foreseen (reader : DateReader) (value : Json) :
    Foreseen (TaskPacket.fromDictWith reader value) := by
  intro error h
  unfold TaskPacket.fromDictWith translate at h
  split at h
  · cases h
  · rename_i found hfound
    split_ifs at h
    · cases h
      exact Or.inl rfl
    · cases h
      exact decodeWith_foreseen reader value error hfound

theorem fromDictWith_overflow (reader : DateReader) (value : Json) :
    TaskPacket.fromDictWith reader value = .error .overflowError ↔
      OverflowingPacket reader value := by
  rw [← decodeWith_overflow]
  unfold TaskPacket.fromDictWith translate
  cases TaskPacket.decodeWith reader value with
  | ok packet => simp
  | error found => cases found <;> simp [isTranslated]

/-- What the comparison returns can be written. -/
theorem compare_returns (packet : TaskPacket) (value : Json) :
    Returns (fun found => ∃ dict, found.toDict = .ok dict) (packet.compare value) := by
  refine Returns.bind fun dict hdict => Returns.bind fun written _ => Returns.bind fun given _ => ?_
  exact (returns_pure ⟨dict, hdict⟩).ite (returns_throw _)

/-- A packet that was decoded can be written. -/
theorem decodeWith_returns (reader : DateReader) (value : Json) :
    Returns (fun found => ∃ dict, found.toDict = .ok dict)
      (TaskPacket.decodeWith reader value) := by
  refine Returns.bind fun fields _ => Returns.bind fun version _ => Returns.bind fun task _ => ?_
  refine Returns.bind fun entries _ => Returns.bind fun input _ => Returns.bind fun content _ => ?_
  refine Returns.bind fun inputValue _ => Returns.bind fun deadline _ => ?_
  refine Returns.bind fun config _ => Returns.bind fun generation _ => ?_
  refine Returns.bind fun needs _ => Returns.bind fun required _ => ?_
  refine Returns.bind fun context _ => Returns.bind fun trace _ => Returns.bind fun due _ => ?_
  refine Returns.ite ?_ (returns_throw _)
  exact Returns.bind fun task _ => Returns.bind fun packet _ => compare_returns packet value

theorem fromDictWith_returns (reader : DateReader) (value : Json) :
    Returns (fun found => ∃ dict, found.toDict = .ok dict)
      (TaskPacket.fromDictWith reader value) := by
  intro packet h
  unfold TaskPacket.fromDictWith translate at h
  split at h
  · rename_i found hfound
    cases h
    exact decodeWith_returns reader value packet hfound
  · split_ifs at h

/-! ### The decoders of graphs -/

/-- A node record whose packet overflows, after the fields that are read before it. -/
structure OverflowingNode (reader : DateReader) (value : Json) : Prop where
  nodeId : ∃ nodeId, subscript value "node_id" = .ok nodeId
  dependsOn : ∃ dependsOn items, subscript value "depends_on" = .ok dependsOn ∧
    tupleOf dependsOn = .ok items
  packet : ∃ packet, subscript value "packet" = .ok packet ∧ OverflowingPacket reader packet

/-- A graph whose first node record that is not accepted overflows. -/
def OverflowingGraph (reader : DateReader) (value : Json) : Prop :=
  ∃ fields nodes items before node after, value = .obj fields ∧
    keysAre fields ["schema_version", "nodes"] = true ∧ subscript value "nodes" = .ok nodes ∧
    tupleOf nodes = .ok items ∧ items = before ++ node :: after ∧
    (∀ earlier ∈ before, ∃ found, GraphNode.decodeWith reader earlier = .ok found) ∧
    OverflowingNode reader node

theorem subscript_translated (value : Json) (key : String) : Translated (subscript value key) := by
  unfold subscript
  split
  · split
    · exact raises_ok _
    · exact raises_error rfl
  · exact raises_error rfl

theorem tupleOf_translated (value : Json) : Translated (tupleOf value) := by
  cases value with
  | arr items => exact raises_ok _
  | str text => exact raises_ok _
  | obj fields => exact raises_ok _
  | null | bool _ | int _ | float _ => exact raises_error rfl

theorem asId_translated (message : String) (value : Json) : Translated (asId message value) := by
  cases value with
  | str text => exact raises_ok _
  | null | bool _ | int _ | float _ | arr _ | obj _ => exact raises_error rfl

theorem ensure_translated {condition : Bool} {message : String} :
    Translated (ensure condition (.valueError message)) := by
  unfold ensure
  exact (raises_ok _).ite (raises_error rfl)

theorem requireKnown_translated (known : List String) (nodes : List GraphNode) :
    Translated (requireKnown known nodes) := by
  induction nodes with
  | nil => exact raises_pure ()
  | cons node rest ih =>
      refine ensure_translated.bind fun _ => ?_
      exact ensure_translated.bind fun _ => ih

theorem nodeNew_translated (nodeId : String) (packet : TaskPacket) (dependsOn : List String) :
    Translated (GraphNode.new nodeId packet dependsOn) := by
  have hcheck : Translated (GraphNode.check nodeId dependsOn) := by
    refine ensure_translated.bind fun _ => ensure_translated.bind fun _ => ?_
    exact ensure_translated.bind fun _ => ensure_translated
  intro error h
  unfold GraphNode.new at h
  split at h
  · cases h
  · rename_i found hfound
    cases h
    exact hcheck error hfound

theorem graphNew_translated (nodes : List GraphNode) (schemaVersion : Int) :
    Translated (WorkflowGraph.new nodes schemaVersion) := by
  have hcheck : Translated (WorkflowGraph.check nodes schemaVersion) := by
    refine ensure_translated.bind fun _ => ensure_translated.bind fun _ => ?_
    refine ensure_translated.bind fun _ => ensure_translated.bind fun _ => ?_
    exact (requireKnown_translated _ _).bind fun _ => ensure_translated
  intro error h
  unfold WorkflowGraph.new at h
  split at h
  · cases h
  · rename_i found hfound
    cases h
    exact hcheck error hfound

theorem graphBuild_translated (nodes : List GraphNode) (version : Json) :
    Translated (WorkflowGraph.build nodes version) := by
  cases version with
  | int number => exact graphNew_translated nodes number
  | null | bool _ | float _ | str _ | arr _ | obj _ => exact raises_error rfl

/-- What is built from nodes has these nodes. -/
theorem graphBuild_returns (nodes : List GraphNode) (version : Json) :
    Returns (fun graph => graph.nodes = nodes) (WorkflowGraph.build nodes version) := by
  intro graph h
  cases version with
  | int number =>
      change WorkflowGraph.new nodes number = .ok graph at h
      unfold WorkflowGraph.new at h
      split at h
      · cases h
        rfl
      · cases h
  | null | bool _ | float _ | str _ | arr _ | obj _ => cases h

/-- What follows the packet in the decoder of a node. -/
theorem nodeRest_translated (packet : TaskPacket) (nodeId : Json) (items : List Json) :
    Translated (do
      let nodeId ← asId "Graph node IDs must be nonempty without outer whitespace" nodeId
      let dependsOn ← items.mapM (asId "Graph dependencies must contain canonical node IDs")
      GraphNode.new nodeId packet dependsOn) := by
  refine (asId_translated _ _).bind fun id => ?_
  refine (Raises.mapM (asId_translated _) _).bind fun dependsOn => ?_
  exact nodeNew_translated _ _ _

theorem nodeDecodeWith_overflow (reader : DateReader) (value : Json) :
    GraphNode.decodeWith reader value = .error .overflowError ↔ OverflowingNode reader value := by
  unfold GraphNode.decodeWith
  constructor
  · intro h
    obtain ⟨nodeId, hnodeId, h⟩ := (overflow_bind (subscript_translated _ _)).mp h
    obtain ⟨dependsOn, hdependsOn, h⟩ := (overflow_bind (subscript_translated _ _)).mp h
    obtain ⟨items, hitems, h⟩ := (overflow_bind (tupleOf_translated _)).mp h
    obtain ⟨packet, hpacket, h⟩ := (overflow_bind (subscript_translated _ _)).mp h
    rcases bind_eq_error.mp h with h | ⟨decoded, -, h⟩
    · exact ⟨⟨nodeId, hnodeId⟩, ⟨dependsOn, items, hdependsOn, hitems⟩,
        ⟨packet, hpacket, (fromDictWith_overflow reader packet).mp h⟩⟩
    · exact absurd (nodeRest_translated decoded nodeId items _ h) (by decide)
  · intro h
    obtain ⟨nodeId, hnodeId⟩ := h.nodeId
    obtain ⟨dependsOn, items, hdependsOn, hitems⟩ := h.dependsOn
    obtain ⟨packet, hpacket, hoverflow⟩ := h.packet
    rw [hnodeId, except_ok_bind, hdependsOn, except_ok_bind, hitems, except_ok_bind, hpacket,
      except_ok_bind, (fromDictWith_overflow reader packet).mpr hoverflow, except_error_bind]

theorem nodeDecodeWith_foreseen (reader : DateReader) (value : Json) :
    Foreseen (GraphNode.decodeWith reader value) := by
  refine (foreseen_of_translated (subscript_translated _ _)).bind fun nodeId => ?_
  refine (foreseen_of_translated (subscript_translated _ _)).bind fun dependsOn => ?_
  refine (foreseen_of_translated (tupleOf_translated _)).bind fun items => ?_
  refine (foreseen_of_translated (subscript_translated _ _)).bind fun packet => ?_
  refine (fromDictWith_foreseen reader packet).bind fun decoded => ?_
  exact foreseen_of_translated (nodeRest_translated decoded nodeId items)

/-- A node that was decoded can be written. -/
theorem nodeDecodeWith_returns (reader : DateReader) (value : Json) :
    Returns (fun node => ∃ dict, GraphNode.toDict node = .ok dict)
      (GraphNode.decodeWith reader value) := by
  refine Returns.bind fun nodeId _ => Returns.bind fun dependsOn _ => ?_
  refine Returns.bind fun items _ => Returns.bind fun packet _ => ?_
  refine Returns.bind fun decoded hdecoded => ?_
  refine Returns.bind fun id _ => Returns.bind fun ids _ => ?_
  intro node hnode
  obtain ⟨dict, hdict⟩ := fromDictWith_returns reader packet decoded hdecoded
  have hpacket : node.packet = decoded := by
    unfold GraphNode.new at hnode
    split at hnode
    · cases hnode
      rfl
    · cases hnode
  unfold GraphNode.toDict
  rw [hpacket, hdict]
  exact ⟨_, rfl⟩

/-- The comparison of a graph whose nodes can be written does not overflow. -/
theorem graphCompare_translated {graph : WorkflowGraph} (value : Json)
    (hnodes : ∀ node ∈ graph.nodes, ∃ dict, GraphNode.toDict node = .ok dict) :
    Translated (graph.compare value) := by
  obtain ⟨dicts, hdicts⟩ : ∃ dicts, graph.nodes.mapM GraphNode.toDict = .ok dicts := by
    cases hmap : graph.nodes.mapM GraphNode.toDict with
    | ok dicts => exact ⟨dicts, rfl⟩
    | error error =>
        obtain ⟨before, node, after, hsplit, -, hnode⟩ := mapM_eq_error.mp hmap
        obtain ⟨dict, hdict⟩ := hnodes node (by simp [hsplit])
        rw [hdict] at hnode
        cases hnode
  unfold WorkflowGraph.compare WorkflowGraph.toDict
  rw [hdicts, except_ok_bind]
  refine (raises_pure _).bind fun dict => (canonicalJson_translated _).bind fun written => ?_
  refine (canonicalJson_translated _).bind fun given => ensure_translated.bind fun _ => ?_
  exact raises_pure graph

/-- What follows the nodes in the decoder of a graph. -/
theorem graphRest_translated (reader : DateReader) (value : Json) (items : List Json)
    {nodes : List GraphNode} (h : items.mapM (GraphNode.decodeWith reader) = .ok nodes) :
    Translated (do
      let schemaVersion ← subscript value "schema_version"
      let graph ← WorkflowGraph.build nodes schemaVersion
      graph.compare value) := by
  have hnodes := Returns.mapM (nodeDecodeWith_returns reader) items nodes h
  refine (subscript_translated _ _).bind fun version => ?_
  intro error herror
  rcases bind_eq_error.mp herror with hbuild | ⟨graph, hgraph, hcompare⟩
  · exact graphBuild_translated _ _ error hbuild
  · have hsame : graph.nodes = nodes := graphBuild_returns nodes version graph hgraph
    refine graphCompare_translated value ?_ error hcompare
    rw [hsame]
    exact hnodes

/-- Decoding a graph overflows exactly when its first unaccepted node record does. -/
theorem graphDecodeWith_overflow (reader : DateReader) (value : Json) :
    WorkflowGraph.decodeWith reader value = .error .overflowError ↔
      OverflowingGraph reader value := by
  cases value with
  | obj fields =>
      unfold WorkflowGraph.decodeWith
      constructor
      · intro h
        obtain ⟨_, hkeys, h⟩ := (overflow_bind ensure_translated).mp h
        obtain ⟨nodes, hnodes, h⟩ := (overflow_bind (subscript_translated _ _)).mp h
        obtain ⟨items, hitems, h⟩ := (overflow_bind (tupleOf_translated _)).mp h
        rcases bind_eq_error.mp h with h | ⟨decoded, hdecoded, h⟩
        · obtain ⟨before, node, after, hsplit, hbefore, hnode⟩ := mapM_eq_error.mp h
          exact ⟨fields, nodes, items, before, node, after, rfl, ensure_ok.mp hkeys, hnodes,
            hitems, hsplit, hbefore, (nodeDecodeWith_overflow reader node).mp hnode⟩
        · exact absurd (graphRest_translated reader _ items hdecoded _ h) (by decide)
      · rintro ⟨fields', nodes, items, before, node, after, heq, hkeys, hnodes, hitems, hsplit,
          hbefore, hnode⟩
        cases heq
        have hmap : items.mapM (GraphNode.decodeWith reader) = .error .overflowError :=
          mapM_eq_error.mpr ⟨before, node, after, hsplit, hbefore,
            (nodeDecodeWith_overflow reader node).mpr hnode⟩
        have hfields : ensure (keysAre fields ["schema_version", "nodes"])
            (.valueError "Invalid workflow graph fields") = .ok () := ensure_ok.mpr hkeys
        dsimp only
        rw [hfields, except_ok_bind, hnodes, except_ok_bind, hitems, except_ok_bind,
          hmap, except_error_bind]
  | null | bool _ | int _ | float _ | str _ | arr _ =>
      constructor
      · intro h
        cases h
      · rintro ⟨fields, nodes, items, before, node, after, h, -⟩
        cases h

theorem graphDecodeWith_foreseen (reader : DateReader) (value : Json) :
    Foreseen (WorkflowGraph.decodeWith reader value) := by
  cases value with
  | obj fields =>
      refine (foreseen_of_translated ensure_translated).bind fun _ => ?_
      refine (foreseen_of_translated (subscript_translated _ _)).bind fun nodes => ?_
      refine (foreseen_of_translated (tupleOf_translated _)).bind fun items => ?_
      intro error h
      rcases bind_eq_error.mp h with h | ⟨decoded, hdecoded, h⟩
      · exact Raises.mapM (nodeDecodeWith_foreseen reader) items error h
      · exact Or.inl (graphRest_translated reader _ items hdecoded error h)
  | null | bool _ | int _ | float _ | str _ | arr _ => exact raises_throw (Or.inl rfl)

/-- Decoding a graph fails with `ValueError` only, unless the graph overflows. -/
theorem onlyValueError_graphFromDictWith (reader : DateReader) (value : Json) :
    OnlyValueError (WorkflowGraph.fromDictWith reader value) ↔
      ¬ OverflowingGraph reader value := by
  unfold WorkflowGraph.fromDictWith
  rw [onlyValueError_translate, translated_iff (graphDecodeWith_foreseen reader value),
    graphDecodeWith_overflow]

/-! ### The decoders of the extended form -/

theorem decodeDeadlineWith_fromisoformat (value : Json) :
    decodeDeadlineWith fromisoformat value = decodeDeadline value := by
  cases value <;> rfl

theorem decodeWith_fromisoformat (value : Json) :
    TaskPacket.decodeWith fromisoformat value = TaskPacket.decode value := by
  unfold TaskPacket.decodeWith TaskPacket.decode
  refine bind_congr fun fields => bind_congr fun version => bind_congr fun found => ?_
  refine bind_congr fun task => bind_congr fun given => bind_congr fun content => ?_
  refine bind_congr fun input => bind_congr fun due => bind_congr fun config => ?_
  refine bind_congr fun generation => bind_congr fun needs => bind_congr fun required => ?_
  refine bind_congr fun context => bind_congr fun trace => ?_
  rw [decodeDeadlineWith_fromisoformat]
  refine bind_congr fun deadline => ?_
  split_ifs
  · -- only an integer version goes on
    refine bind_congr fun task => ?_
    obtain ⟨version, rest⟩ := version
    cases version <;> rfl
  · rfl

/-- With the reader of the extended form, the decoder is the one of `Contracts`. -/
theorem fromDictWith_fromisoformat (value : Json) :
    TaskPacket.fromDictWith fromisoformat value = TaskPacket.fromDict value := by
  have hforeseen := decodeWith_foreseen fromisoformat value
  unfold TaskPacket.fromDictWith TaskPacket.fromDict
  rw [decodeWith_fromisoformat] at hforeseen ⊢
  cases hdecode : TaskPacket.decode value with
  | ok packet => rfl
  | error error =>
      rcases hforeseen error hdecode with htranslated | rfl
      · cases error with
        | overflowError => cases htranslated
        | integrityError => cases htranslated
        | assertionError => cases htranslated
        | recursionError => cases htranslated
        | typeError | keyError | attributeError | valueError _ | workflowConflict _ => rfl
      · rfl

theorem nodeDecodeWith_fromisoformat (value : Json) :
    GraphNode.decodeWith fromisoformat value = GraphNode.decode value := by
  unfold GraphNode.decodeWith GraphNode.decode
  simp only [fromDictWith_fromisoformat]

theorem graphDecodeWith_fromisoformat (value : Json) :
    WorkflowGraph.decodeWith fromisoformat value = WorkflowGraph.decode value := by
  have hnode : GraphNode.decodeWith fromisoformat = GraphNode.decode := by
    ext1 node
    exact nodeDecodeWith_fromisoformat node
  unfold WorkflowGraph.decodeWith WorkflowGraph.decode
  rw [hnode]
  cases value with
  | obj fields =>
      refine bind_congr fun _ => bind_congr fun nodes => bind_congr fun items => ?_
      refine bind_congr fun decoded => bind_congr fun version => ?_
      cases version <;> rfl
  | null | bool _ | int _ | float _ | str _ | arr _ => rfl

/-- With the reader of the extended form, the decoder is the one of `Graph`. -/
theorem graphFromDictWith_fromisoformat (value : Json) :
    WorkflowGraph.fromDictWith fromisoformat value = WorkflowGraph.fromDict value := by
  have hforeseen := graphDecodeWith_foreseen fromisoformat value
  unfold WorkflowGraph.fromDictWith WorkflowGraph.fromDict
  rw [graphDecodeWith_fromisoformat] at hforeseen ⊢
  cases hdecode : WorkflowGraph.decode value with
  | ok graph => rfl
  | error error =>
      rcases hforeseen error hdecode with htranslated | rfl
      · cases error with
        | overflowError => cases htranslated
        | integrityError => cases htranslated
        | assertionError => cases htranslated
        | recursionError => cases htranslated
        | typeError | keyError | attributeError | valueError _ | workflowConflict _ => rfl
      · rfl

/-! ### The result -/

/-- Both decoders fail with `ValueError` only. -/
def DecodersFailClosed (reader : DateReader) (value : Json) : Prop :=
  OnlyValueError (TaskPacket.fromDictWith reader value) ∧
    OnlyValueError (WorkflowGraph.fromDictWith reader value)

/-- **When the decoders fail closed.**  Whatever strings the reader of dates accepts, both
decoders return or raise `ValueError` on a value exactly when it is neither a packet nor a
graph whose deadline leaves the calendar. -/
theorem decoders_fail_closed_iff (reader : DateReader) (value : Json) :
    DecodersFailClosed reader value ↔
      ¬ OverflowingPacket reader value ∧ ¬ OverflowingGraph reader value :=
  and_congr (onlyValueError_fromDictWith reader value)
    (onlyValueError_graphFromDictWith reader value)

/-- A packet whose deadline is the first minute of the calendar, one minute east of UTC. -/
def firstMinutePacket : Json :=
  .obj
    [("schema_version", .int 1),
      ("task", .obj
        [("input", .obj [("kind", .str "text"), ("text", .str "a")]),
          ("generation", .obj []),
          ("requirements", .obj []),
          ("trace", .obj [("request_id", .str "r")]),
          ("deadline_at", .str "0001-01-01T00:00:00+00:01")])]

/-- The overflow of such a deadline escapes the decoder. -/
theorem deadline_overflow_escapes :
    ¬ ∀ reader value, DecodersFailClosed reader value := by
  intro h
  obtain ⟨message, hmessage⟩ :=
    (h fromisoformat firstMinutePacket).1 .overflowError (by decide +kernel)
  cases hmessage

end Workflows
end Ryuk

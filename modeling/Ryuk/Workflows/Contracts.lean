import Ryuk.Foundation.JsonRoundTrip
import Ryuk.Inference.Contracts

/-!
# Workflow packets and artifacts

A task packet wraps an inference task for storage.  `toDict` detaches it into a
canonical JSON value, `fromDict` reads such a value back and refuses every shape
that is not the canonical form of the packet it decodes to.  An artifact is a
reference with the content it names; its constructor checks that they agree.
-/

namespace Ryuk
namespace Workflows

open Foundation Foundation.Json Foundation.Datetime Inference

/-- `canonical_json`. -/
def canonicalJson (value : Json) : Except PyError String :=
  match dumps value with
  | some text => .ok text
  | none => .error (.valueError "Out of range float values are not JSON compliant")

/-- `json.loads(text)`. -/
def loadsJson (text : String) : Except PyError Json :=
  match loads text with
  | some value => .ok value
  | none => .error (.valueError "Expecting value")

theorem canonicalJson_ok {value : Json} {text : String} (h : canonicalJson value = .ok text) :
    dumps value = some text := by
  unfold canonicalJson at h
  cases hdumps : dumps value with
  | none => simp [hdumps] at h
  | some found =>
      simp only [hdumps, Except.ok.injEq] at h
      rw [h]

/-- Reading a canonical text gives the canonical form. -/
theorem loadsJson_canonicalJson {value : Json} {text : String}
    (h : canonicalJson value = .ok text) : loadsJson text = .ok (canon value) := by
  unfold loadsJson
  rw [loads_dumps (canonicalJson_ok h)]

/-! ### Decoding helpers -/

/-- The pair of one element of a sequence given to `dict`.  A mapping of two keys is the pair
of its keys. -/
def pairOf : Json → Except PyError (String × Json)
  | .arr [.str key, value] => .ok (key, value)
  | .str text =>
      match text.toList with
      | [key, value] => .ok (String.singleton key, .str (String.singleton value))
      | _ => .error (.valueError "dictionary update sequence element has the wrong length")
  | .obj [(key, _), (value, _)] => .ok (key, .str value)
  | .arr [_, _] => .error .typeError
  | .arr _ | .obj _ => .error (.valueError "dictionary update sequence element has the wrong length")
  | .null | .bool _ | .int _ | .float _ => .error .typeError

/-- `dict(value)`: a mapping, or a sequence of pairs. -/
def pyDict : Json → Except PyError (List (String × Json))
  | .obj fields => .ok fields
  | .arr items => (items.mapM pairOf).map dictOf
  | .str text =>
      if text = "" then .ok []
      else .error (.valueError "dictionary update sequence element #0 has the wrong length")
  | .null | .bool _ | .int _ | .float _ => .error .typeError

/-- `fields.pop(key)`. -/
def pop (key : String) (fields : List (String × Json)) :
    Except PyError (Json × List (String × Json)) :=
  match lookup key fields with
  | some value => .ok (value, fields.filter fun field => decide (field.1 ≠ key))
  | none => .error .keyError

/-- `set(fields) == names`. -/
def keysAre (fields : List (String × Json)) (names : List String) : Bool :=
  (keys fields).all names.contains && names.all (keys fields).contains

/-- The keyword arguments `**value`; a name the callee does not have is refused. -/
def keywords (value : Json) (names : List String) : Except PyError (List (String × Json)) :=
  match value with
  | .obj fields => if (keys fields).all names.contains then .ok fields else .error .typeError
  | _ => .error .typeError

/-- A keyword argument with its default. -/
def keyword (fields : List (String × Json)) (name : String) (default : Json) : Json :=
  (lookup name fields).getD default

/-- `value[key]`. -/
def subscript (value : Json) (key : String) : Except PyError Json :=
  match value with
  | .obj fields =>
      match lookup key fields with
      | some field => .ok field
      | none => .error .keyError
  | _ => .error .typeError

/-- `tuple(value)`. -/
def tupleOf : Json → Except PyError (List Json)
  | .arr items => .ok items
  | .str text => .ok (text.toList.map fun c => .str (String.singleton c))
  | .obj fields => .ok ((keys fields).map .str)
  | .null | .bool _ | .int _ | .float _ => .error .typeError

def asText : Json → Except PyError String
  | .str text => .ok text
  | _ => .error .attributeError

def asOptionalText : Json → Except PyError (Option String)
  | .null => .ok none
  | .str text => .ok (some text)
  | _ => .error (.valueError "Requirement identifiers must be strings")

def asOptionalInt : Json → Except PyError (Option Int)
  | .null => .ok none
  | .int value => .ok (some value)
  | _ => .error (.valueError "Token limits must be integers")

def asFlag : Json → Except PyError Bool
  | .bool value => .ok value
  | _ => .error (.valueError "Requirements flags must be booleans")

def asTemperature : Json → Except PyError Temperature
  | .int value => .ok (.int value)
  | .float value => .ok (.float value)
  | _ => .error (.valueError "Temperature must be numeric")

/-! ### Task packets -/

structure TaskPacket where
  task : InferenceTask
  schemaVersion : Int
  supported : schemaVersion = 1
  deriving DecidableEq

def TaskPacket.new (task : InferenceTask) (schemaVersion : Int) : Except PyError TaskPacket :=
  if h : schemaVersion = 1 then .ok ⟨task, schemaVersion, h⟩
  else .error (.valueError "Unsupported task packet version")

/-- A string or `null`. -/
def optionalStr : Option String → Json
  | none => .null
  | some text => .str text

/-- An integer or `null`. -/
def optionalInt : Option Int → Json
  | none => .null
  | some value => .int value

/-- The input with its kind. -/
def inputDict : TaskInput → Json
  | .text input => .obj [("text", .str input.text), ("kind", .str "text")]
  | .chat input => .obj
      [("messages", .arr (input.messages.map fun message =>
          .obj [("role", .str message.role.value), ("content", .str message.content)])),
        ("kind", .str "chat")]

def temperatureJson : Temperature → Json
  | .int value => .int value
  | .float value => .float value

def generationDict (generation : GenerationConfig) : Json :=
  .obj
    [("max_output_tokens", optionalInt generation.maxOutputTokens),
      ("temperature", temperatureJson generation.temperature)]

def requirementsDict (requirements : RoutingRequirements) : Json :=
  .obj
    [("requested_model", optionalStr (requirements.requestedModel.map (·.1))),
      ("required_model", optionalStr (requirements.requiredModel.map (·.1))),
      ("required_context_tokens", optionalInt requirements.requiredContextTokens),
      ("requires_structured_output", .bool requirements.requiresStructuredOutput),
      ("requires_streaming", .bool requirements.requiresStreaming),
      ("required_accelerator", optionalStr (requirements.requiredAccelerator.map (·.1))),
      ("required_topology", optionalStr (requirements.requiredTopology.map (·.1))),
      ("required_data_location", optionalStr (requirements.requiredDataLocation.map (·.1))),
      ("production_only", .bool requirements.productionOnly)]

def traceDict (trace : TraceContext) : Json :=
  .obj [("request_id", .str trace.requestId), ("traceparent", optionalStr trace.traceparent)]

/-- `deadline_at.astimezone(UTC).isoformat()`, or `null`. -/
def deadlineJson : Option DateTime → Except PyError Json
  | none => .ok .null
  | some deadline =>
      match DateTime.astimezoneUtc deadline.reading (deadline.utcoffset.getD 0) with
      | some instant => .ok (.str instant.isoformat)
      | none => .error .overflowError

/-- `packet.to_dict()`. -/
def TaskPacket.toDict (packet : TaskPacket) : Except PyError Json := do
  let deadline ← deadlineJson packet.task.deadlineAt
  let task := Json.obj
    [("input", inputDict packet.task.input),
      ("generation", generationDict packet.task.generation),
      ("requirements", requirementsDict packet.task.requirements),
      ("trace", traceDict packet.task.trace),
      ("deadline_at", deadline)]
  let text ← canonicalJson (.obj [("schema_version", .int packet.schemaVersion), ("task", task)])
  loadsJson text

/-- One message of a chat input. -/
def decodeMessage (message : Json) : Except PyError ChatMessage :=
  match message with
  | .obj fields => do
      let (role, _) ← pop "role" fields
      let role ← asText role
      let role ← ChatRole.ofValue role
      let (content, _) ← pop "content" fields
      let content ← asText content
      let decoded ← ChatMessage.new role content
      if keysAre fields ["role", "content"] then pure decoded
      else throw (.valueError "Invalid message fields")
  | _ => throw .typeError

def decodeInput (content : List (String × Json)) : Except PyError TaskInput := do
  let (kind, content) ← pop "kind" content
  if kind = .str "text" then
    let arguments ← keywords (.obj content) ["text"]
    let (text, _) ← pop "text" arguments
    let text ← asText text
    let input ← TextInput.new text
    pure (.text input)
  else if kind = .str "chat" ∧ keysAre content ["messages"] = true then
    match lookup "messages" content with
    | some (.arr messages) => do
        let messages ← messages.mapM decodeMessage
        let input ← ChatInput.new messages
        pure (.chat input)
    | _ => throw .typeError
  else throw (.valueError "Unsupported packet input")

def decodeGeneration (value : Json) : Except PyError GenerationConfig := do
  let arguments ← keywords value ["max_output_tokens", "temperature"]
  let tokens ← asOptionalInt (keyword arguments "max_output_tokens" .null)
  let temperature ← asTemperature (keyword arguments "temperature"
    (.float (Decimal.ofLiteral false ['0'] ['7'] 0)))
  GenerationConfig.new tokens temperature

def decodeRequirements (value : Json) : Except PyError RoutingRequirements := do
  let arguments ← keywords value
    ["requested_model", "required_model", "required_context_tokens",
      "requires_structured_output", "requires_streaming", "required_accelerator",
      "required_topology", "required_data_location", "production_only"]
  let requestedModel ← asOptionalText (keyword arguments "requested_model" .null)
  let requiredModel ← asOptionalText (keyword arguments "required_model" .null)
  let tokens ← asOptionalInt (keyword arguments "required_context_tokens" .null)
  let structured ← asFlag (keyword arguments "requires_structured_output" (.bool false))
  let streaming ← asFlag (keyword arguments "requires_streaming" (.bool false))
  let accelerator ← asOptionalText (keyword arguments "required_accelerator" .null)
  let topology ← asOptionalText (keyword arguments "required_topology" .null)
  let location ← asOptionalText (keyword arguments "required_data_location" .null)
  let production ← asFlag (keyword arguments "production_only" (.bool false))
  RoutingRequirements.new
    { requestedModel, requiredModel
      requiredContextTokens := tokens
      requiresStructuredOutput := structured
      requiresStreaming := streaming
      requiredAccelerator := accelerator
      requiredTopology := topology
      requiredDataLocation := location
      productionOnly := production }

def decodeTrace (value : Json) : Except PyError TraceContext := do
  let arguments ← keywords value ["request_id", "traceparent"]
  let (requestId, _) ← pop "request_id" arguments
  let requestId ← asText requestId
  let traceparent ← asOptionalText (keyword arguments "traceparent" .null)
  TraceContext.new requestId traceparent

/-- `datetime.fromisoformat(deadline) if deadline is not None else None`. -/
def decodeDeadline (value : Json) : Except PyError (Option DateTime) :=
  match value with
  | .null => .ok none
  | .str text =>
      match fromisoformat text with
      | some deadline => .ok (some deadline)
      | none => .error (.valueError "Invalid isoformat string")
  | _ => .error .typeError

/-- The body of `from_dict`, before its exceptions are translated. -/
def TaskPacket.decode (value : Json) : Except PyError TaskPacket := do
  let fields ← keywords value ["schema_version", "task"]
  let (version, _) ← pop "schema_version" fields
  let (task, _) ← pop "task" fields
  let task ← pyDict task
  let (input, task) ← pop "input" task
  let content ← pyDict input
  let inputValue ← decodeInput content
  let (deadline, task) ← pop "deadline_at" task
  let (generation, task) ← pop "generation" task
  let generation ← decodeGeneration generation
  let (requirements, task) ← pop "requirements" task
  let requirements ← decodeRequirements requirements
  let (trace, task) ← pop "trace" task
  let trace ← decodeTrace trace
  let deadline ← decodeDeadline deadline
  if task = [] then
    let task ← InferenceTask.new inputValue generation requirements trace deadline
    match version with
    | .int version => do
        let packet ← TaskPacket.new task version
        let dict ← packet.toDict
        let written ← canonicalJson dict
        let given ← canonicalJson value
        if written = given then pure packet
        else throw (.valueError "Noncanonical task packet")
    | _ => throw (.valueError "Unsupported task packet version")
  else throw .typeError

/-- `TaskPacket.from_dict(value)`. -/
def TaskPacket.fromDict (value : Json) : Except PyError TaskPacket :=
  match TaskPacket.decode value with
  | .ok packet => .ok packet
  | .error .overflowError => .error .overflowError
  | .error _ => .error (.valueError "Invalid workflow task packet")

/-! ### Artifacts -/

structure ArtifactRef where
  artifactId : String
  workflowId : String
  sha256 : String
  sizeBytes : Nat
  schemaVersion : Int
  mediaType : String
  deriving DecidableEq

/-- A reference and the content it names. -/
structure StoredArtifact (platform : Platform) where
  ref : ArtifactRef
  contentJson : String
  content : List (String × Json)
  version : ref.schemaVersion = 1
  media : ref.mediaType = "application/json"
  size : contentJson.utf8ByteSize = ref.sizeBytes
  digest : platform.sha256 contentJson = ref.sha256
  loaded : loads contentJson = some (.obj content)

/-- `StoredArtifact(ref, content_json)`. -/
def StoredArtifact.new (platform : Platform) (ref : ArtifactRef) (contentJson : String) :
    Except PyError (StoredArtifact platform) :=
  if h : ref.schemaVersion = 1 ∧ ref.mediaType = "application/json" ∧
      contentJson.utf8ByteSize = ref.sizeBytes ∧ platform.sha256 contentJson = ref.sha256 then
    match hloads : loads contentJson with
    | some (.obj content) =>
        .ok ⟨ref, contentJson, content, h.1, h.2.1, h.2.2.1, h.2.2.2, hloads⟩
    | some _ => .error (.valueError "Artifact must contain a JSON object")
    | none => .error (.valueError "Expecting value")
  else .error (.valueError "Workflow artifact integrity check failed")

/-- `artifact.payload()`. -/
def StoredArtifact.payload {platform : Platform} (artifact : StoredArtifact platform) : Json :=
  .obj artifact.content

end Workflows
end Ryuk

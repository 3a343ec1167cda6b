import Ryuk.Inference.Upstream

/-!
# The adapters

What the three adapters make of an answer of their upstream: whether it is available, which
model it serves, and what it generated.  An adapter that checks a value before it hands it to a
validating dataclass hands on only what passes; one that does not raises what the dataclass
raises.
-/

namespace Ryuk
namespace Inference

open Foundation Foundation.Json Foundation.Text Foundation.Datetime

/-! ### What the dataclasses check -/

/-- `value < 0` on a decoded value. -/
def isNegative : Json → Except PyError Bool
  | .int value => .ok (decide (value < 0))
  | .bool _ => .ok false
  | .float value => .ok value.isNegative
  | .null | .str _ | .arr _ | .obj _ => .error .typeError

/-- The check of `TokenUsage` and `InferenceTiming` on a field of any type. -/
def requireNonnegative (value : Json) (fieldName : String) : Except PyError Unit :=
  if value = .null then .ok ()
  else do
    let negative ← isNegative value
    if negative then throw (.valueError (fieldName ++ " cannot be negative.")) else pure ()

/-- `ModelIdentityObservation(model, observed_at, source)`. -/
def ModelIdentityObservation.new (model : ModelRef) (observedAt : DateTime) (source : String) :
    Except PyError ModelIdentityObservation := do
  let source ← requireIdentifier source "source"
  if haware : observedAt.utcoffset.isSome = true then
    pure ⟨model, observedAt, source, false, haware⟩
  else throw (.valueError "observed_at must include timezone information.")

/-- `IdentityDiscovery(ModelIdentityObservation(ModelRef(...), datetime.now(UTC), source), ...)`. -/
def identityOf (artifactId : String) (revision servedName : Option String) (now : Instant)
    (source : String) (metadata : List (String × Json)) : Except PyError IdentityDiscovery := do
  let model ← ModelRef.new artifactId revision servedName
  let observation ← ModelIdentityObservation.new model now.utc source
  pure ⟨observation, metadata⟩

/-- What a validating dataclass raises inside an adapter, which does not catch it. -/
def unguarded {α : Type} (value : Except PyError α) : Except Interruption α :=
  value.mapError .raised

/-- `FinishReason(value)`; `none` where it raises a `ValueError`. -/
def FinishReason.ofValue (value : String) : Option FinishReason :=
  if value = "stop" then some .stop
  else if value = "length" then some .length
  else if value = "cancelled" then some .cancelled
  else if value = "error" then some .error
  else if value = "unknown" then some .unknown
  else none

/-- The finish reason of an answer; a value of another type is no member either. -/
def finishReasonOf : Option Json → FinishReason
  | some (.str value) => (FinishReason.ofValue value).getD .unknown
  | _ => .unknown

/-! ### The vLLM worker -/

structure VLLMWorkerEngine where
  maxResponseBytes : Int

/-- `AdapterInferenceResult` with the counts and the latency as the worker gave them; a falsy
latency is replaced by the milliseconds measured. -/
structure WorkerResult where
  output : String
  finishReason : FinishReason
  inputTokens : Json
  outputTokens : Json
  totalMs : Json ⊕ ℚ≥0
  adapterMetadata : List (String × Json)

namespace VLLMWorkerEngine

variable (engine : VLLMWorkerEngine) (reader : JsonReader)

/-- `_protocol`. -/
def protocol : Interruption :=
  failureWith .upstreamProtocol (protocolContext "generation" "invalid_schema")

/-- The statuses `_json` refuses. -/
def raiseForStatus (operation : String) (status : Nat) : Except Interruption Unit :=
  if status ∈ [429, 503] then
    .error (failureWith .capacityExceeded (statusContext operation status))
  else if status ∈ [408, 504] then
    .error (failureWith .deadlineExceeded (statusContext operation status))
  else if 500 ≤ status then
    .error (failureWith .generation (statusContext operation status))
  else if isSuccess status then .ok ()
  else .error (failureWith .upstreamProtocol (statusContext operation status))

/-- `_json`. -/
def json (operation : String) (exchange : Exchange) :
    Except Interruption (List (String × Json)) := do
  let (_, body) ← stream engine.maxResponseBytes operation
    (failureWith .upstreamProtocol (protocolContext operation "response_too_large"))
    (raiseForStatus operation) exchange
  match reader.loads body with
  | .error _ => throw protocol
  | .ok (.obj fields) => pure fields
  | .ok _ => throw protocol

/-- `is_available`. -/
def isAvailable (exchange : Exchange) : Except Interruption Bool :=
  match exchange with
  | .unanswered _ => .ok false
  | .answered _ _ (some _) => .ok false
  | .answered status chunks none =>
      if status = 200 then
        match reader.loads chunks.flatten with
        | .error _ => .ok false
        | .ok (.obj fields) => .ok (decide (lookup "ready" fields = some (.bool true)))
        -- only a dictionary has `get`
        | .ok _ => .error (.raised .attributeError)
      else .ok false

/-- The schema failure of `discover_model_identity`. -/
def invalidIdentity : Interruption :=
  failureWith .upstreamProtocol (protocolContext "identity" "invalid_schema")

/-- The identity in a decoded answer. -/
def readIdentity (now : Instant) (result : List (String × Json)) :
    Except Interruption IdentityDiscovery :=
  match lookup "model_artifact_id" result with
  | some (.str artifact) =>
      if artifact = "" then throw invalidIdentity
      else
        match lookup "model_revision" result with
        | none | some .null =>
            unguarded (identityOf artifact none none now "vllm-worker:/ryuk/v1/identity"
              [("worker_identity", .obj result)])
        | some (.str revision) =>
            unguarded (identityOf artifact (some revision) none now
              "vllm-worker:/ryuk/v1/identity" [("worker_identity", .obj result)])
        | some _ => throw invalidIdentity
  | _ => throw invalidIdentity

/-- `discover_model_identity`. -/
def discoverModelIdentity (now : Instant) (exchange : Exchange) :
    Except Interruption IdentityDiscovery := do
  let result ← engine.json reader "identity" exchange
  readIdentity now result

/-- `AdapterInferenceResult(...)`, from the text and the usage of an answer. -/
def resultOf (result : List (String × Json)) (text : String) (usage : List (String × Json))
    (elapsedMs : ℚ≥0) : Except PyError WorkerResult := do
  let inputTokens := (lookup "input_tokens" usage).getD .null
  let outputTokens := (lookup "output_tokens" usage).getD .null
  requireNonnegative inputTokens "input_tokens"
  requireNonnegative outputTokens "output_tokens"
  let latency := (lookup "latency_ms" result).getD .null
  let answer : WorkerResult :=
    { output := text
      finishReason := finishReasonOf (lookup "finish_reason" result)
      inputTokens, outputTokens
      totalMs := if latency.truthy then .inl latency else .inr elapsedMs
      adapterMetadata := [("vllm_worker", (lookup "metadata" result).getD (.obj []))] }
  if latency.truthy then do
    requireNonnegative latency "total_ms"
    pure answer
  else pure answer

/-- The result of a decoded answer. -/
def readGeneration (result : List (String × Json)) (elapsedMs : ℚ≥0) :
    Except Interruption WorkerResult :=
  match lookup "text" result, (lookup "usage" result).getD (.obj []) with
  | some (.str text), .obj usage => unguarded (resultOf result text usage elapsedMs)
  | _, _ => throw protocol

/-- `generate_task`, when it is not cancelled. -/
def generateTask (elapsedMs : ℚ≥0) (exchange : Exchange) : Except Interruption WorkerResult := do
  let result ← engine.json reader "generation" exchange
  readGeneration result elapsedMs

/-- What takes the place of the cancellation of `generate_task`: the worker is told of it, and
a fault of that request is raised by the `raise` in the `finally` clause. -/
def cancel (deletion : Exchange) : Option TransportFault := deletion.fault

end VLLMWorkerEngine

/-! ### Managed servers -/

/-- `ManagedHTTPInferenceEngine`; the name and the path of the models are those of a subclass,
and the translations a subclass may replace are its own. -/
structure ManagedHTTPInferenceEngine where
  name : String
  modelsPath : String
  model : String
  maxResponseBytes : Int
  required : isBlank model = false
  positive : 1 ≤ maxResponseBytes

namespace ManagedHTTPInferenceEngine

variable (engine : ManagedHTTPInferenceEngine) (reader : JsonReader)

/-- `ManagedHTTPInferenceEngine(base_url, model=..., max_response_bytes=...)`. -/
def new (name modelsPath model : String) (maxResponseBytes : Int) :
    Except PyError ManagedHTTPInferenceEngine :=
  if hmodel : isBlank model = false then
    if hbytes : 1 ≤ maxResponseBytes then
      .ok ⟨name, modelsPath, model, maxResponseBytes, hmodel, hbytes⟩
    else .error (.valueError "max_response_bytes must be positive.")
  else .error (.valueError "A served model is required.")

/-- `_protocol`. -/
def protocol (operation reason : String) : Interruption :=
  failureWith .upstreamProtocol (protocolContext operation reason)

/-- `_raise_for_status`. -/
def raiseForStatus (operation : String) (status : Nat) : Except Interruption Unit :=
  if isSuccess status then .ok ()
  else if status ∈ [429, 503] then
    .error (failureWith .capacityExceeded (statusContext operation status))
  else if status ∈ [408, 504] then
    .error (failureWith .deadlineExceeded (statusContext operation status))
  else if 500 ≤ status then
    .error (failureWith .generation (statusContext operation status))
  else .error (failureWith .upstreamProtocol (statusContext operation status))

/-- The failure of an answer with status 202. -/
def pending (operation : String) (requestIdPresent responseJsonValid : Bool) : Interruption :=
  failureWith .asynchronousResultPending
    (statusContext operation 202 ++
      [("request_id_present", .bool requestIdPresent),
        ("response_json_valid", .bool responseJsonValid)])

/-- Whether the answer names its request. -/
def hasRequestId (result : Json) : Bool :=
  match result.get? "requestId" with
  | some (.str requestId) => decide (requestId ≠ "")
  | _ => false

/-- `_json`. -/
def json (operation : String) (exchange : Exchange) :
    Except Interruption (List (String × Json)) := do
  let (status, body) ← stream engine.maxResponseBytes operation
    (protocol operation "response_too_large") (raiseForStatus operation) exchange
  match reader.loads body with
  | .error _ =>
      if status = 202 then throw (pending operation false false)
      else throw (protocol operation "invalid_json")
  | .ok result =>
      if status = 202 then throw (pending operation (hasRequestId result) true)
      else
        match result with
        | .obj fields => pure fields
        | _ => throw (protocol operation "non_object_json")

/-- `is_available`. -/
def isAvailable (exchange : Exchange) : Except Interruption Bool :=
  match exchange with
  | .unanswered _ => .ok false
  | .answered _ _ (some _) => .ok false
  | .answered status _ none => .ok (isSuccess status)

/-- The ids of the models a server lists. -/
def modelIds (data : List Json) : List Json :=
  (data.filter Json.isObject).map fun item => (item.get? "id").getD .null

/-- `source`. -/
def source : String := engine.name ++ ":" ++ engine.modelsPath

/-- The identity in a decoded answer. -/
def readIdentity (now : Instant) (result : List (String × Json)) :
    Except Interruption IdentityDiscovery :=
  match lookup "data" result with
  | some (.arr data) =>
      if Json.str engine.model ∈ modelIds data then
        unguarded (identityOf engine.model none (some engine.model) now engine.source
          [("served_model_ids", .arr (modelIds data))])
      else throw (protocol "identity" "configured_model_not_served")
  | _ => throw (protocol "identity" "invalid_models_schema")

/-- `discover_model_identity`. -/
def discoverModelIdentity (now : Instant) (exchange : Exchange) :
    Except Interruption IdentityDiscovery := do
  let result ← engine.json reader "identity" exchange
  engine.readIdentity now result

/-- `_optional_count`. -/
def optionalCount : Option Json → Option Int
  | some (.int value) => if 0 ≤ value then some value else none
  | _ => none

/-- The text of a choice. -/
def choiceText (task : InferenceTask) (choice : List (String × Json)) : Option Json :=
  match task.input with
  | .chat _ => (lookup "message" choice).bind fun message => message.get? "content"
  | .text _ => lookup "text" choice

/-- `_response_metadata`. -/
def responseMetadata (result : List (String × Json)) : Json :=
  .obj [("response_id", (lookup "id" result).getD .null),
    ("served_model", (lookup "model" result).getD .null)]

/-- `result.get("usage") or {}`. -/
def usageOf (result : List (String × Json)) : Json :=
  let usage := (lookup "usage" result).getD .null
  if usage.truthy then usage else .obj []

/-- `AdapterInferenceResult(...)`, from the text and the usage of an answer. -/
def resultOf (result choice : List (String × Json)) (text : String)
    (usage : List (String × Json)) (elapsedMs : ℚ≥0) : Except PyError AdapterInferenceResult := do
  let counts ← TokenUsage.new (optionalCount (lookup "prompt_tokens" usage))
    (optionalCount (lookup "completion_tokens" usage))
  let timing ← InferenceTiming.new (some elapsedMs)
  pure
    { output := text
      finishReason := finishReasonOf (lookup "finish_reason" choice)
      usage := counts
      timing
      adapterMetadata := [(engine.name, responseMetadata result)]
      reasoning := none }

/-- The result of a decoded answer. -/
def readGeneration (task : InferenceTask) (result : List (String × Json)) (elapsedMs : ℚ≥0) :
    Except Interruption AdapterInferenceResult :=
  match lookup "choices" result with
  | some (.arr (.obj choice :: _)) =>
      match choiceText task choice with
      | some (.str text) =>
          match usageOf result with
          | .obj usage => unguarded (engine.resultOf result choice text usage elapsedMs)
          | _ => throw (protocol "generation" "invalid_usage")
      | _ => throw (protocol "generation" "invalid_text")
  | _ => throw (protocol "generation" "invalid_choices")

/-- `generate_task`. -/
def generateTask (task : InferenceTask) (elapsedMs : ℚ≥0) (exchange : Exchange) :
    Except Interruption AdapterInferenceResult := do
  let result ← engine.json reader "generation" exchange
  engine.readGeneration task result elapsedMs

end ManagedHTTPInferenceEngine

/-! ### SGLang -/

/-- `SGLangEngine`. -/
structure SGLangEngine where
  maxResponseBytes : Int
  positive : 1 ≤ maxResponseBytes

namespace SGLangEngine

variable (engine : SGLangEngine) (reader : JsonReader)

/-- `SGLangEngine(base_url, max_response_bytes=...)`. -/
def new (maxResponseBytes : Int) : Except PyError SGLangEngine :=
  if hbytes : 1 ≤ maxResponseBytes then .ok ⟨maxResponseBytes, hbytes⟩
  else .error (.valueError "max_response_bytes must be positive.")

/-- `SGLangIdentityDiscoveryError`, which inherits all of its class. -/
def identityDiscoveryError (context : List (String × Json)) : Interruption :=
  failureWith .upstreamProtocol context

/-- `_schema_failure`. -/
def schemaFailure : Interruption :=
  failureWith .upstreamProtocol (protocolContext "generation" "invalid_schema")

/-- `_raise_for_status`. -/
def raiseForStatus (operation : String) (status : Nat) : Except Interruption Unit :=
  if isSuccess status then .ok ()
  else if operation = "identity" then
    if status ∈ [429, 503] then
      .error (failureWith .deploymentUnavailable (statusContext operation status))
    else .error (identityDiscoveryError (statusContext operation status))
  else if status ∈ [429, 503] then
    .error (failureWith .capacityExceeded (statusContext operation status))
  else if status ∈ [408, 504] then
    .error (failureWith .deadlineExceeded (statusContext operation status))
  else if 500 ≤ status then
    .error (failureWith .generation (statusContext operation status))
  else .error (failureWith .upstreamProtocol (statusContext operation status))

/-- The failure of a body that is no JSON object. -/
def unreadable (operation reason : String) : Interruption :=
  if operation = "generation" then
    failureWith .upstreamProtocol (protocolContext operation reason)
  else identityDiscoveryError (protocolContext operation reason)

/-- `_request_json`. -/
def requestJson (operation : String) (exchange : Exchange) :
    Except Interruption (List (String × Json)) := do
  let (_, body) ← stream engine.maxResponseBytes operation
    (failureWith .upstreamProtocol (protocolContext operation "response_too_large"))
    (raiseForStatus operation) exchange
  match reader.loadsText body with
  -- `except (json.JSONDecodeError, UnicodeError)` does not catch other value errors
  | .error (.valueError message) => throw (.raised (.valueError message))
  | .error _ => throw (unreadable operation "invalid_json")
  | .ok (.obj fields) => pure fields
  | .ok _ => throw (unreadable operation "non_object_json")

/-- `is_available`. -/
def isAvailable (exchange : Exchange) : Except Interruption Bool :=
  match exchange with
  | .unanswered _ => .ok false
  | .answered _ _ (some _) => .ok false
  | .answered status _ none => .ok (isSuccess status)

/-- `_optional_model_info_string`. -/
def optionalModelInfoString (result : List (String × Json)) (fieldName : String) :
    Except Interruption (Option String) :=
  match lookup fieldName result with
  | none | some .null => .ok none
  | some (.str value) =>
      if isIdentifier value then .ok (some value)
      else .error (identityDiscoveryError
        (protocolContext "identity" "invalid_field" ++ [("field", .str fieldName)]))
  | some _ =>
      .error (identityDiscoveryError
        (protocolContext "identity" "invalid_field" ++ [("field", .str fieldName)]))

/-- The identity in a decoded answer. -/
def readIdentity (useWeightVersionAsRevision : Bool) (now : Instant)
    (result : List (String × Json)) : Except Interruption IdentityDiscovery := do
  let modelPath ← optionalModelInfoString result "model_path"
  match modelPath with
  | none => throw (identityDiscoveryError (protocolContext "identity" "missing_model_path"))
  | some modelPath =>
      let servedName ← optionalModelInfoString result "served_model_name"
      let revision ← optionalModelInfoString result "weight_version"
      unguarded (identityOf modelPath (if useWeightVersionAsRevision then revision else none)
        servedName now "sglang:/model_info" [("model_info", .obj result)])

/-- `discover_model_identity`. -/
def discoverModelIdentity (useWeightVersionAsRevision : Bool) (now : Instant)
    (exchange : Exchange) : Except Interruption IdentityDiscovery := do
  let result ← engine.requestJson reader "identity" exchange
  readIdentity useWeightVersionAsRevision now result

/-- `_optional_nonnegative_int`. -/
def optionalNonnegativeInt (info : List (String × Json)) (field : String) :
    Except Interruption (Option Int) :=
  match lookup field info with
  | none | some .null => .ok none
  | some (.int value) => if value < 0 then .error schemaFailure else .ok (some value)
  | some _ => .error schemaFailure

/-- The finish reason of an answer, which is a text or none. -/
def optionalFinishReason (info : List (String × Json)) : Except Interruption Json :=
  match lookup "finish_reason" info with
  | none | some .null => .ok .null
  | some (.str reason) => .ok (.str reason)
  | some _ => .error schemaFailure

/-- The response of a decoded answer. -/
def readGeneration (model : String) (result : List (String × Json)) (elapsedMs : ℚ≥0) :
    Except Interruption InferenceResponse :=
  match lookup "text" result, (lookup "meta_info" result).getD (.obj []) with
  | some (.str text), .obj info => do
      let inputTokens ← optionalNonnegativeInt info "prompt_tokens"
      let outputTokens ← optionalNonnegativeInt info "completion_tokens"
      let finishReason ← optionalFinishReason info
      pure
        { text
          model := some model
          engine := "sglang"
          latencyMs := some elapsedMs
          inputTokens, outputTokens
          metadata := [("sglang_meta", .obj info), ("sglang_finish_reason", finishReason)] }
  | _, _ => throw schemaFailure

/-- `generate`, for a request of a model. -/
def generate (model : String) (elapsedMs : ℚ≥0) (exchange : Exchange) :
    Except Interruption InferenceResponse := do
  let result ← engine.requestJson reader "generation" exchange
  readGeneration model result elapsedMs

end SGLangEngine

/-! ### Any of them -/

inductive Adapter where
  | vllmWorker (engine : VLLMWorkerEngine)
  | managedHttp (engine : ManagedHTTPInferenceEngine)
  | sglang (engine : SGLangEngine)

/-- What was generated, under the contract of the adapter. -/
inductive Generated where
  | worker (result : WorkerResult)
  | typed (result : AdapterInferenceResult)
  | legacy (response : InferenceResponse)

namespace Adapter

variable (reader : JsonReader)

/-- `is_available`. -/
def isAvailable (adapter : Adapter) (exchange : Exchange) : Except Interruption Bool :=
  match adapter with
  | .vllmWorker _ => VLLMWorkerEngine.isAvailable reader exchange
  | .managedHttp _ => ManagedHTTPInferenceEngine.isAvailable exchange
  | .sglang _ => SGLangEngine.isAvailable exchange

/-- `discover_model_identity`; only SGLang has the option. -/
def discoverModelIdentity (adapter : Adapter) (useWeightVersionAsRevision : Bool) (now : Instant)
    (exchange : Exchange) : Except Interruption IdentityDiscovery :=
  match adapter with
  | .vllmWorker engine => engine.discoverModelIdentity reader now exchange
  | .managedHttp engine => engine.discoverModelIdentity reader now exchange
  | .sglang engine =>
      engine.discoverModelIdentity reader useWeightVersionAsRevision now exchange

/-- `generate_task`, and `generate` for a request of a model. -/
def generate (adapter : Adapter) (task : InferenceTask) (model : String) (elapsedMs : ℚ≥0)
    (exchange : Exchange) : Except Interruption Generated :=
  match adapter with
  | .vllmWorker engine => (engine.generateTask reader elapsedMs exchange).map .worker
  | .managedHttp engine => (engine.generateTask reader task elapsedMs exchange).map .typed
  | .sglang engine => (engine.generate reader model elapsedMs exchange).map .legacy

end Adapter

end Inference
end Ryuk

import Ryuk.Platform
import Ryuk.Foundation.Datetime
import Ryuk.Foundation.Text

/-!
# Inference contracts

The domain objects of one inference request.  Each has a field for every check
its constructor makes, so that a value is one the constructor accepted, and a
`new` that makes the checks in the source's order and raises its errors.
-/

namespace Ryuk
namespace Inference

open Foundation Foundation.Text Foundation.Datetime

/-- Text with something besides white space. -/
abbrev Text := { value : String // isBlank value = false }

/-- `_require_text`. -/
def requireText (value fieldName : String) : Except PyError Text :=
  if h : isBlank value = false then .ok ⟨value, h⟩
  else .error (.valueError (fieldName ++ " must contain non-whitespace text."))

/-- `_require_text` of a field that may be absent. -/
def optionalText (value : Option String) (fieldName : String) : Except PyError (Option Text) :=
  match value with
  | none => .ok none
  | some text => (requireText text fieldName).map some

/-! ### Input -/

inductive ChatRole where
  | system
  | user
  | assistant
  deriving DecidableEq

/-- The value of a role. -/
def ChatRole.value : ChatRole → String
  | .system => "system"
  | .user => "user"
  | .assistant => "assistant"

/-- `ChatRole(value)`. -/
def ChatRole.ofValue (value : String) : Except PyError ChatRole :=
  if value = "system" then .ok .system
  else if value = "user" then .ok .user
  else if value = "assistant" then .ok .assistant
  else .error (.valueError (value ++ " is not a valid ChatRole"))

structure TextInput where
  text : Text
  deriving DecidableEq

def TextInput.new (text : String) : Except PyError TextInput :=
  (requireText text "text").map TextInput.mk

structure ChatMessage where
  role : ChatRole
  content : Text
  deriving DecidableEq

def ChatMessage.new (role : ChatRole) (content : String) : Except PyError ChatMessage :=
  (requireText content "content").map (ChatMessage.mk role)

structure ChatInput where
  messages : List ChatMessage
  nonempty : messages ≠ []
  deriving DecidableEq

def ChatInput.new (messages : List ChatMessage) : Except PyError ChatInput :=
  if h : messages ≠ [] then .ok ⟨messages, h⟩
  else .error (.valueError "Chat input must contain at least one message.")

/-- What a task asks the model. -/
inductive TaskInput where
  | text (input : TextInput)
  | chat (input : ChatInput)
  deriving DecidableEq

/-! ### Generation -/

/-- A temperature: `type(temperature) in (int, float)`. -/
inductive Temperature where
  | int (value : Int)
  | float (value : Decimal.Float)
  deriving DecidableEq

/-- `0.0 <= temperature <= 2.0`; a not-a-number is in no range. -/
def Temperature.inRange : Temperature → Bool
  | .int value => decide (0 ≤ value) && decide (value ≤ 2)
  | .float .nan => false
  | .float (.infinity _) => false
  | .float (.finite value) => decide (0 ≤ value.toRat) && decide (value.toRat ≤ 2)

structure GenerationConfig where
  maxOutputTokens : Option Int
  temperature : Temperature
  positive : ∀ tokens ∈ maxOutputTokens, 1 ≤ tokens
  bounded : temperature.inRange = true
  deriving DecidableEq

theorem zero_inRange : (Temperature.int 0).inRange = true := by decide

theorem noTokens_positive : ∀ tokens ∈ (none : Option Int), 1 ≤ tokens := by simp

def GenerationConfig.new (maxOutputTokens : Option Int) (temperature : Temperature) :
    Except PyError GenerationConfig :=
  if hpositive : ∀ tokens ∈ maxOutputTokens, 1 ≤ tokens then
    if hbounded : temperature.inRange = true then
      .ok ⟨maxOutputTokens, temperature, hpositive, hbounded⟩
    else .error (.valueError "temperature must be between 0.0 and 2.0.")
  else .error (.valueError "max_output_tokens must be positive when provided.")

/-! ### Requirements -/

/-- The fields of `RoutingRequirements` before they are checked. -/
structure RawRequirements where
  requestedModel : Option String
  requiredModel : Option String
  requiredContextTokens : Option Int
  requiresStructuredOutput : Bool
  requiresStreaming : Bool
  requiredAccelerator : Option String
  requiredTopology : Option String
  requiredDataLocation : Option String
  productionOnly : Bool
  deriving DecidableEq

/-- `RoutingRequirements()`. -/
def RawRequirements.default : RawRequirements where
  requestedModel := none
  requiredModel := none
  requiredContextTokens := none
  requiresStructuredOutput := false
  requiresStreaming := false
  requiredAccelerator := none
  requiredTopology := none
  requiredDataLocation := none
  productionOnly := false

structure RoutingRequirements where
  requestedModel : Option Text
  requiredModel : Option Text
  requiredContextTokens : Option Int
  requiresStructuredOutput : Bool
  requiresStreaming : Bool
  requiredAccelerator : Option Text
  requiredTopology : Option Text
  requiredDataLocation : Option Text
  productionOnly : Bool
  positive : ∀ tokens ∈ requiredContextTokens, 1 ≤ tokens
  deriving DecidableEq

/-- `RoutingRequirements(...)`, also called `TaskRequirements`. -/
def RoutingRequirements.new (raw : RawRequirements) : Except PyError RoutingRequirements := do
  let requestedModel ← optionalText raw.requestedModel "requested_model"
  let requiredModel ← optionalText raw.requiredModel "required_model"
  if hpositive : ∀ tokens ∈ raw.requiredContextTokens, 1 ≤ tokens then
    let requiredAccelerator ← optionalText raw.requiredAccelerator "required_accelerator"
    let requiredTopology ← optionalText raw.requiredTopology "required_topology"
    let requiredDataLocation ← optionalText raw.requiredDataLocation "required_data_location"
    pure
      { requestedModel, requiredModel
        requiredContextTokens := raw.requiredContextTokens
        requiresStructuredOutput := raw.requiresStructuredOutput
        requiresStreaming := raw.requiresStreaming
        requiredAccelerator, requiredTopology, requiredDataLocation
        productionOnly := raw.productionOnly
        positive := hpositive }
  else throw (.valueError "required_context_tokens must be positive.")

/-! ### The task -/

structure TraceContext where
  requestId : Text
  traceparent : Option String
  deriving DecidableEq

def TraceContext.new (requestId : String) (traceparent : Option String) :
    Except PyError TraceContext :=
  (requireText requestId "request_id").map fun id => ⟨id, traceparent⟩

structure InferenceTask where
  input : TaskInput
  generation : GenerationConfig
  requirements : RoutingRequirements
  trace : TraceContext
  deadlineAt : Option DateTime
  aware : ∀ deadline ∈ deadlineAt, deadline.utcoffset.isSome = true
  deriving DecidableEq

def InferenceTask.new (input : TaskInput) (generation : GenerationConfig)
    (requirements : RoutingRequirements) (trace : TraceContext) (deadlineAt : Option DateTime) :
    Except PyError InferenceTask :=
  if haware : ∀ deadline ∈ deadlineAt, deadline.utcoffset.isSome = true then
    .ok ⟨input, generation, requirements, trace, deadlineAt, haware⟩
  else .error (.valueError "deadline_at must include timezone information.")

/-! ### When the constructors accept -/

theorem requireText_ok_iff {value fieldName : String} {text : Text} :
    requireText value fieldName = .ok text ↔ text.1 = value := by
  unfold requireText
  obtain ⟨found, hfound⟩ := text
  split_ifs with h
  · simp only [Except.ok.injEq, Subtype.mk.injEq]
    exact eq_comm
  · simp only [false_iff]
    rintro rfl
    exact h hfound

end Inference
end Ryuk

import Ryuk.Control.AdmissionLimits
import Ryuk.Inference.Execution

/-!
# The inference endpoints

`inference_generate` and `inference_chat`: a permit is taken, the task is built from the request,
the router executes it, and at the end the permit is given back and a terminal record is
written.  The task is built between the first and the last of these, outside of any `try`.
-/

namespace Ryuk

/-! ### Permits that are held -/

namespace Control
namespace AdmissionController

/-- `usage.concurrent` of a tenant, nothing without any usage. -/
def held (controller : AdmissionController) (tenantId : String) : Int :=
  ((controller.usage tenantId).map TenantUsage.concurrent).getD 0

variable {controller : AdmissionController} {tenantId other : String} {estimatedTokens : Int}
  {current : Rat}

theorem held_store (usage : TenantUsage) :
    (controller.store tenantId usage).held other =
      if other = tenantId then usage.concurrent else controller.held other := by
  unfold held
  split_ifs with h
  · rw [h, store_usage]
    rfl
  · rw [store_usage_of_ne controller usage h]

/-- The usage a request finds holds as much as the controller says. -/
theorem concurrent_found : (((controller.usage tenantId).getD (.new current)).renewed
    current).concurrent = controller.held tenantId := by
  have hrenewed : ∀ usage : TenantUsage, (usage.renewed current).concurrent = usage.concurrent := by
    intro usage
    unfold TenantUsage.renewed
    split_ifs
    · rfl
    · rfl
  unfold held
  rw [hrenewed]
  cases controller.usage tenantId with
  | none => rfl
  | some usage => rfl

/-- A grant holds one permit more, a refusal none. -/
theorem held_admitRequest {granted : Bool} {after : AdmissionController}
    (h : controller.admitRequest tenantId estimatedTokens current = (granted, after)) :
    after.held other =
      controller.held other + if granted = true ∧ other = tenantId then 1 else 0 := by
  unfold admitRequest at h
  cases hpolicy : controller.policies tenantId with
  | none =>
      rw [hpolicy] at h
      cases h
      simp
  | some policy =>
      rw [hpolicy] at h
      dsimp only at h
      split_ifs at h with hnegative hrefuses
      · cases h
        simp
      · cases h
        rw [held_store, concurrent_found]
        by_cases hother : other = tenantId
        · simp [hother]
        · simp [hother]
      · cases h
        rw [held_store]
        show (if other = tenantId then (((controller.usage tenantId).getD (.new current)).renewed
          current).concurrent + 1 else _) = _
        rw [concurrent_found]
        by_cases hother : other = tenantId
        · simp [hother]
        · simp [hother]

/-- A release gives one permit back, if any is held. -/
theorem held_release (hheld : 0 ≤ controller.held tenantId) :
    (controller.release tenantId).held other =
      if other = tenantId then max 0 (controller.held tenantId - 1) else controller.held other := by
  split_ifs with hother
  · rw [hother]
    unfold held at hheld ⊢
    rw [release_usage]
    cases hfound : controller.usage tenantId with
    | none => simp
    | some usage =>
        rw [hfound] at hheld
        simp only [Option.map_some, Option.getD_some] at hheld ⊢
        split_ifs with hpositive
        · show usage.concurrent - 1 = _
          omega
        · omega
  · unfold held
    rw [release_usage_of_ne controller hother]

end AdmissionController

/-- A permit that is granted is held, and it is one of the tenant that was not given back. -/
theorem held_admitPermit {controller after : AdmissionController} {tenantId other : String}
    {estimatedTokens : Int} {current : Rat} {result : Except ControlPlaneFailure AdmissionPermit}
    (h : admitPermit controller tenantId estimatedTokens current = (result, after)) :
    after.held other =
      controller.held other + if result.isOk = true ∧ other = tenantId then 1 else 0 := by
  unfold admitPermit at h
  cases hadmitted : controller.admitRequest tenantId estimatedTokens current with
  | mk granted admission =>
      rw [hadmitted] at h
      have hheld := @AdmissionController.held_admitRequest _ _ other _ _ _ _ hadmitted
      cases granted with
      | true =>
          cases h
          exact hheld
      | false =>
          cases h
          exact hheld

theorem permit_of_admitPermit {controller after : AdmissionController} {tenantId : String}
    {estimatedTokens : Int} {current : Rat} {permit : AdmissionPermit}
    (h : admitPermit controller tenantId estimatedTokens current = (.ok permit, after)) :
    permit = .new tenantId := by
  unfold admitPermit at h
  split at h
  · cases h
  · cases h
    rfl

end Control

namespace Api

open Foundation Foundation.Datetime
open Control (AdmissionController AdmissionPermit ControlPlaneFailure admitPermit)
open Inference (ChatInput ChatMessage ChatRole DeploymentProvenance Ending ExecutionAttempt
  FinishReason GenerationConfig InferenceFailure InferenceResult InferenceTask Interruption
  RawRequirements RoutingRequirements TaskInput TextInput TraceContext)

/-! ### Requests -/

/-- The limits among the settings, and whether the environment is the production one. -/
structure Settings where
  maxPromptChars : Nat
  maxGenerationTokens : Nat
  isProduction : Bool
  promptChars : 1 ≤ maxPromptChars
  generationTokens : 1 ≤ maxGenerationTokens

/-- `Field(ge=0.0, le=2.0)` of a float: a not-a-number is not on the right side of a bound. -/
def withinBounds : Decimal.Float → Bool
  | .nan | .infinity _ => false
  | .finite value => decide (0 ≤ value.toRat) && decide (value.toRat ≤ 2)

/-- `Field(min_length=1)` of a text that may be absent. -/
def NotEmpty (value : Option String) : Prop := ∀ text ∈ value, text ≠ ""

/-- The fields the two request bodies share, with what their validators check. -/
structure RequestOptions (settings : Settings) where
  preferredEngine : Option String
  maxTokens : Option Int
  temperature : Decimal.Float
  deadlineAt : Option DateTime
  requiredModel : Option String
  requiredContextTokens : Option Int
  requiresStructuredOutput : Bool
  requiresStreaming : Bool
  requiredAccelerator : Option String
  requiredTopology : Option String
  requiredDataLocation : Option String
  productionOnly : Bool
  tokens : ∀ count ∈ maxTokens, 1 ≤ count ∧ count ≤ settings.maxGenerationTokens
  bounds : withinBounds temperature = true
  aware : ∀ deadline ∈ deadlineAt, deadline.utcoffset.isSome = true
  model : NotEmpty requiredModel
  context : ∀ count ∈ requiredContextTokens, 1 ≤ count
  accelerator : NotEmpty requiredAccelerator
  topology : NotEmpty requiredTopology
  location : NotEmpty requiredDataLocation

/-- A body of `GenerateRequest` that passed its validators. -/
structure GenerateRequest (settings : Settings) extends RequestOptions settings where
  prompt : String
  requestedModel : String
  promptText : prompt ≠ "" ∧ prompt.length ≤ settings.maxPromptChars
  requestedText : requestedModel ≠ ""

/-- `ChatMessageRequest`. -/
structure ChatMessageRequest where
  role : ChatRole
  content : String
  written : Text.isBlank content = false

/-- A body of `ChatGenerateRequest` that passed its validators. -/
structure ChatGenerateRequest (settings : Settings) extends RequestOptions settings where
  messages : List ChatMessageRequest
  requestedModel : Option String
  nonempty : messages ≠ []
  requestedText : NotEmpty requestedModel

/-- What the middleware attaches to a request; the id is the client's, if it is a plain word, or
a fresh one. -/
structure HttpRequest where
  requestId : Inference.Text
  traceparent : Option String

/-! ### Tasks -/

variable {settings : Settings}

/-- The arguments of `TaskRequirements`. -/
def RequestOptions.requirements (options : RequestOptions settings)
    (requestedModel : Option String) : RawRequirements where
  requestedModel := requestedModel
  requiredModel := options.requiredModel
  requiredContextTokens := options.requiredContextTokens
  requiresStructuredOutput := options.requiresStructuredOutput
  requiresStreaming := options.requiresStreaming
  requiredAccelerator := options.requiredAccelerator
  requiredTopology := options.requiredTopology
  requiredDataLocation := options.requiredDataLocation
  productionOnly := options.productionOnly || settings.isProduction

/-- The task of a request, built in the order of the source. -/
def RequestOptions.buildTask (options : RequestOptions settings)
    (input : Except PyError TaskInput) (requestedModel : Option String) (request : HttpRequest) :
    Except PyError InferenceTask := do
  let input ← input
  let generation ← GenerationConfig.new options.maxTokens (.float options.temperature)
  let requirements ← RoutingRequirements.new (options.requirements requestedModel)
  let trace ← TraceContext.new request.requestId.1 request.traceparent
  InferenceTask.new input generation requirements trace options.deadlineAt

/-- The task of `inference_generate`. -/
def GenerateRequest.task (payload : GenerateRequest settings) (request : HttpRequest) :
    Except PyError InferenceTask :=
  payload.buildTask ((TextInput.new payload.prompt).map .text) (some payload.requestedModel)
    request

/-- The input of `inference_chat`. -/
def ChatGenerateRequest.input (payload : ChatGenerateRequest settings) :
    Except PyError TaskInput := do
  let messages ← payload.messages.mapM fun message =>
    ChatMessage.new message.role message.content
  let input ← ChatInput.new messages
  pure (.chat input)

/-- The task of `inference_chat`. -/
def ChatGenerateRequest.task (payload : ChatGenerateRequest settings) (request : HttpRequest) :
    Except PyError InferenceTask :=
  payload.buildTask payload.input payload.requestedModel request

/-- `payload.max_tokens or settings.max_generation_tokens`. -/
def RequestOptions.estimatedTokens (options : RequestOptions settings) : Int :=
  options.maxTokens.getD settings.maxGenerationTokens

/-! ### The state of the service -/

/-- What a terminal record says of a request beyond its status. -/
inductive TerminalDetails where
  | nothing
  | rejected (failureCode : String)
  | failed (failureCode : String) (attempts : List ExecutionAttempt)
  | accepted (deploymentId : String) (modelArtifactId : Option String)
      (finishReason : FinishReason) (provenance : DeploymentProvenance)
      (attempts : List ExecutionAttempt)

/-- An `ExecutionRecord` of the control plane. -/
structure TerminalRecord where
  requestId : String
  tenantId : String
  operation : String
  status : String
  details : TerminalDetails

/-- The admission controller, and what the endpoints did: the tenants whose permits were given
back and the records that were attempted, in order. -/
structure ApiState where
  admission : AdmissionController
  releases : List String
  recorded : List TerminalRecord
  sound : ∀ tenantId, 0 ≤ admission.held tenantId

/-- What an endpoint raises. -/
inductive ApiError where
  | control (failure : ControlPlaneFailure)
  | inference (failure : InferenceFailure)
  | escaped (interruption : Interruption)
  | raised (error : PyError)

/-- `record_terminal`: the record is attempted, and an accepted request whose record is not
stored fails. -/
def recordTerminal (record : TerminalRecord) (stored : Bool) (state : ApiState) :
    Except ControlPlaneFailure Unit × ApiState :=
  let state := { state with recorded := state.recorded ++ [record] }
  if stored = false ∧ record.status = "accepted" then
    (.error ⟨503, "record_unavailable",
      "Execution history could not be committed; execution may have occurred."⟩, state)
  else (.ok (), state)

theorem sound_admitted {state : ApiState} {tenantId : String} {estimatedTokens : Int}
    {current : Rat} {result : Except ControlPlaneFailure AdmissionPermit}
    {after : AdmissionController}
    (h : admitPermit state.admission tenantId estimatedTokens current = (result, after))
    (other : String) : 0 ≤ after.held other := by
  rw [Control.held_admitPermit h]
  have hsound := state.sound other
  split_ifs
  · omega
  · omega

theorem sound_released {state : ApiState} {tenantId : String} (other : String) :
    0 ≤ (state.admission.release tenantId).held other := by
  rw [AdmissionController.held_release (state.sound tenantId)]
  split_ifs
  · exact le_max_left _ _
  · exact state.sound other

/-- What a call of an endpoint meets: the request, the tenant of the principal, the reading of
the clock in the admission, whether the record is stored, and the router. -/
structure Circumstances where
  request : HttpRequest
  tenantId : String
  current : Rat
  stored : Bool
  router : InferenceTask → Ending

namespace Circumstances

variable (given : Circumstances) (operation : String) (state : ApiState)

/-- A terminal record of the request. -/
def terminal (status : String) (details : TerminalDetails) : TerminalRecord :=
  ⟨given.request.requestId.1, given.tenantId, operation, status, details⟩

/-- `admit_request`. -/
def admitRequest (estimatedTokens : Int) :
    Except ControlPlaneFailure AdmissionPermit × ApiState :=
  match h : admitPermit state.admission given.tenantId estimatedTokens given.current with
  | (.ok permit, admission) =>
      (.ok permit, { state with admission, sound := sound_admitted h })
  | (.error failure, admission) =>
      let refused := { state with admission, sound := sound_admitted h }
      (.error failure, (recordTerminal
        (given.terminal operation "rejected" (.rejected failure.code)) given.stored refused).2)

/-- `permit.release()`. -/
def release (permit : AdmissionPermit) : ApiState :=
  if permit.released = false then
    { state with
      admission := state.admission.release permit.tenantId
      releases := state.releases ++ [permit.tenantId]
      sound := sound_released }
  else state

/-- Status and payload of the terminal record, after the router. -/
def terminalOf : Ending → TerminalRecord
  | .returned result =>
      given.terminal operation "accepted" (.accepted result.provenance.deploymentId
        result.provenance.modelArtifactId result.finishReason result.provenance result.attempts)
  | .failed failure =>
      given.terminal operation "failed" (.failed failure.cls.code failure.attempts)
  | .escaped _ => given.terminal operation "failed" .nothing

/-- The answer of an endpoint: the result of the router, or what it raised. -/
def answerOf : Ending → Except ApiError InferenceResult
  | .returned result => .ok result
  | .failed failure => .error (.inference failure)
  | .escaped interruption => .error (.escaped interruption)

/-- An endpoint: permit, task, router, release and terminal record. -/
def serve (estimatedTokens : Int) (task : Except PyError InferenceTask) :
    Except ApiError InferenceResult × ApiState :=
  match given.admitRequest operation state estimatedTokens with
  | (.error failure, state) => (.error (.control failure), state)
  | (.ok permit, state) =>
      match task with
      | .error error => (.error (.raised error), state)
      | .ok task =>
          let ending := given.router task
          -- `finally`: the permit is given back before the record is written
          match recordTerminal (given.terminalOf operation ending) given.stored
              (release state permit) with
          | (.error failure, state) => (.error (.control failure), state)
          | (.ok (), state) => (answerOf ending, state)

end Circumstances

/-- `inference_generate`. -/
def inferenceGenerate (payload : GenerateRequest settings) (given : Circumstances)
    (state : ApiState) : Except ApiError InferenceResult × ApiState :=
  given.serve "inference.generate" state payload.estimatedTokens (payload.task given.request)

/-- `inference_chat`. -/
def inferenceChat (payload : ChatGenerateRequest settings) (given : Circumstances)
    (state : ApiState) : Except ApiError InferenceResult × ApiState :=
  given.serve "inference.chat" state payload.estimatedTokens (payload.task given.request)

end Api
end Ryuk

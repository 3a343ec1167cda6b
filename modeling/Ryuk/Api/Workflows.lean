import Ryuk.Api.Operations
import Ryuk.Workflows.StoreReads

/-!
# The workflow routes

Creation, status, cancellation and result of single-task workflows, over the store.
A workflow is shown only to the tenant that created it through a policy: the binding of
the policy is looked up first.
-/

namespace Ryuk
namespace Workflows

open Foundation Foundation.Json Foundation.Text
open Inference (GenerationConfig InferenceTask RawRequirements RoutingRequirements TextInput
  TraceContext)

/-! ### Configuration -/

/-- `AcceptanceRules`, with what its validators check. -/
structure AcceptanceRules where
  requiredSections : List String
  forbiddenPhrases : List String
  requireCitations : Bool
  minimumChars : Int
  maximumChars : Int
  language : Option String
  sections : requiredSections.length ≤ 32
  phrases : forbiddenPhrases.length ≤ 32
  limited : 1 ≤ maximumChars ∧ maximumChars ≤ 100000
  bounded : 0 ≤ minimumChars ∧ minimumChars ≤ maximumChars
  ascii : language = none ∨ language = some "ascii"
  written : ((requiredSections ++ forbiddenPhrases).all fun item => !isBlank item) = true

/-- `policy`. -/
def AcceptanceRules.policy (rules : AcceptanceRules) : Audit.ValidationPolicy where
  requiredSections := rules.requiredSections
  requireCitations := rules.requireCitations
  minimumChars := rules.minimumChars
  maximumChars := rules.maximumChars
  language := rules.language
  forbiddenPhrases := rules.forbiddenPhrases
  outputSchema := none
  bounded := rules.bounded

/-- `WorkflowLimits`. -/
structure WorkflowLimits where
  deadlineSeconds : Decimal.Finite
  maxAttempts : Int
  maxOutputTokens : Int
  deadline : 0 < deadlineSeconds.toRat ∧ deadlineSeconds.toRat ≤ 3600
  attempts : 1 ≤ maxAttempts ∧ maxAttempts ≤ 10
  outputTokens : 1 ≤ maxOutputTokens ∧ maxOutputTokens ≤ 32768

/-- `model_dump`. -/
def WorkflowLimits.toDict (limits : WorkflowLimits) : Json :=
  .obj
    [("deadline_seconds", .float (.finite limits.deadlineSeconds)),
      ("max_attempts", .int limits.maxAttempts),
      ("max_output_tokens", .int limits.maxOutputTokens)]

structure WorkflowPolicy where
  version : String
  acceptance : AcceptanceRules
  budget : WorkflowLimits
  versionText : version ≠ "" ∧ version.length ≤ 128

/-- `binding`. -/
def WorkflowPolicy.binding (policy : WorkflowPolicy) : Except PyError (List (String × Json)) := do
  let snapshot ← policySnapshot policy.acceptance.policy
  pure [("version", .str policy.version), ("policy", snapshot), ("budget", policy.budget.toDict)]

/-! ### Requests -/

/-- The packet the routes build of a prompt. -/
def textPacket (prompt model : String) (maxTokens : Int) (temperature : Decimal.Finite)
    (traceId : Inference.Text) : Except PyError TaskPacket := do
  let input ← TextInput.new prompt
  let generation ← GenerationConfig.new (some maxTokens) (.float (.finite temperature))
  let requirements ← RoutingRequirements.new
    { RawRequirements.default with requestedModel := some model }
  let trace ← TraceContext.new traceId.1 none
  let task ← InferenceTask.new (.text input) generation requirements trace none
  TaskPacket.new task 1

/-- A body of `CreateWorkflowRequest` that passed its validators. -/
structure CreateWorkflowRequest where
  idempotencyKey : String
  prompt : String
  model : String
  maxTokens : Int
  temperature : Decimal.Finite
  keyText : idempotencyKey.length ≤ 128 ∧ isBlank idempotencyKey = false ∧
    idempotencyKey = strip idempotencyKey
  promptText : prompt.length ≤ 100000 ∧ isBlank prompt = false
  modelText : model.length ≤ 256 ∧ isBlank model = false
  tokens : 1 ≤ maxTokens ∧ maxTokens ≤ 32768
  bounds : 0 ≤ temperature.toRat ∧ temperature.toRat ≤ 2

/-- The packet of a request. -/
def CreateWorkflowRequest.packet (payload : CreateWorkflowRequest) (traceId : Inference.Text) :
    Except PyError TaskPacket :=
  textPacket payload.prompt payload.model payload.maxTokens payload.temperature traceId

end Workflows

namespace Api
namespace WorkflowRoutes

open Foundation Foundation.Json
open Control (ControlPlaneFailure)
open Workflows (CreateWorkflowRequest Tables WorkflowPolicy WorkflowState canonicalJson subscript)
open Workflows.SQLiteWorkflowStore (WorkflowRecord)

/-- What the routes make of exceptions. -/
def failures : FailureMap where
  conflict := ⟨409, "workflow_conflict", "Workflow operation conflicts with saved state."⟩
  unverified := ⟨503, "workflow_store_unavailable", "Workflow state could not be verified."⟩

def notFound : ControlPlaneFailure := ⟨404, "workflow_not_found", "Workflow not found."⟩

def policyRequired : ControlPlaneFailure :=
  ⟨403, "workflow_policy_required", "No authorized workflow policy."⟩

def limitExceeded : ControlPlaneFailure :=
  ⟨422, "workflow_limit_exceeded", "Workflow input exceeds configured limits."⟩

/-- What `summary` returns. -/
structure Summary where
  workflowId : String
  state : WorkflowState
  policyVersion : Json
  resultAvailable : Bool

/-- What `result` returns. -/
structure Served where
  summary : Summary
  result : Option Json
  validation : Json

/-- The limits of the service: characters of a prompt and tokens of an answer. -/
structure InputLimits where
  promptChars : Nat
  generationTokens : Nat

variable (platform : Platform) (tenant workflowId : String)

/-- `saved_workflow`. -/
def savedWorkflow : Route Tables WorkflowRecord := do
  let binding ← Route.transact (Workflows.getBinding tenant workflowId)
  match binding with
  | none => Route.refuse notFound
  | some _ => do
      let row ← Route.transact (Workflows.SQLiteWorkflowStore.get platform tenant workflowId)
      match row with
      | none => Route.refuse notFound
      | some row => pure row

/-- `summary`. -/
def summary (row : WorkflowRecord) : Route Tables Summary := do
  let binding ← Route.transact (Workflows.getBinding tenant row.id)
  match binding with
  | none => Route.compute (.error .assertionError)
  | some binding => do
      let version ← Route.compute (subscript binding "version")
      pure ⟨row.id, row.state, version, decide (row.state = .succeeded)⟩

/-- `status`. -/
def status : Route Tables Summary := do
  let row ← savedWorkflow platform tenant workflowId
  summary tenant row

/-- `raise WorkflowConflict(...)`. -/
def conflict {α : Type} (message : String) : Route Tables α :=
  Route.compute (.error (.workflowConflict message))

/-- `cancel`. -/
def cancel : Route Tables Summary := do
  let _ ← savedWorkflow platform tenant workflowId
  let cancelled ← Route.transact (Workflows.cancel tenant workflowId)
  if cancelled then do
    let row ← savedWorkflow platform tenant workflowId
    summary tenant row
  else conflict "Workflow cannot be cancelled"

/-- `result`. -/
def result : Route Tables Served := do
  let row ← savedWorkflow platform tenant workflowId
  if row.state ≠ .succeeded ∨ row.validation = none then
    conflict "Workflow has no accepted result"
  else do
    -- the recorded decision is checked again against the bound policy
    let report ← Route.transact (Workflows.validate platform tenant workflowId none)
    let decision ← Route.compute (subscript report "decision")
    if decision ≠ .str "accepted" then conflict "Workflow result is not accepted"
    else do
      let summary ← summary tenant row
      pure ⟨summary, row.result, report⟩

/-- The estimate of a creation: nothing without a policy. -/
def estimatedTokens (policy : Option WorkflowPolicy) (payload : CreateWorkflowRequest) : Int :=
  (policy.map fun policy => payload.maxTokens * policy.budget.maxAttempts).getD 0

/-- `create`.  The trace id is `uuid5` of the tenant and the key, `uuid4` is the identifier
the store makes if it needs a new one. -/
def create (uuid5 : String → Inference.Text) (policy : Option WorkflowPolicy)
    (limits : InputLimits) (payload : CreateWorkflowRequest) (uuid4 : String) :
    Route Tables Summary :=
  match policy with
  | none => Route.refuse policyRequired
  | some policy =>
      if limits.promptChars < payload.prompt.length ∨
          min policy.budget.maxOutputTokens limits.generationTokens < payload.maxTokens then
        Route.refuse limitExceeded
      else do
        let name ← Route.compute
          (canonicalJson (.arr [.str tenant, .str payload.idempotencyKey]))
        let packet ← Route.compute (payload.packet (uuid5 name))
        let binding ← Route.compute policy.binding
        let workflowId ← Route.transact
          (Workflows.create platform tenant payload.idempotencyKey packet (some binding) uuid4)
        let row ← savedWorkflow platform tenant workflowId
        summary tenant row

end WorkflowRoutes
end Api
end Ryuk

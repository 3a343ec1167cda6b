import Ryuk.Inference.Capabilities

/-!
# Attempts, results and failures

One execution attempt, the result an adapter returns, the result the router
returns, and a failure with the history it carries.
-/

namespace Ryuk
namespace Inference

open Foundation Foundation.Json

/-! ### Attempts -/

/-- `AttemptOutcome`. -/
inductive AttemptOutcome where
  | succeeded
  | failed
  deriving DecidableEq

/-- An `ExecutionAttempt` of schema version 2; times are seconds. -/
structure ExecutionAttempt where
  attemptId : String
  sequence : Nat
  startedAt : ℚ
  finishedAt : ℚ
  durationMs : ℚ
  outcome : AttemptOutcome
  failureCode : Option String
  retryClassification : Option RetryClassification
  configuredDeployment : DeploymentRef
  deriving DecidableEq

/-- The id of the deployment an attempt ran on. -/
def ExecutionAttempt.deploymentId (attempt : ExecutionAttempt) : String :=
  attempt.configuredDeployment.deploymentId.1

/-! ### Usage and results -/

/-- `FinishReason`. -/
inductive FinishReason where
  | stop
  | length
  | cancelled
  | error
  | unknown
  deriving DecidableEq

structure TokenUsage where
  inputTokens : Option Int
  outputTokens : Option Int
  input : ∀ count ∈ inputTokens, 0 ≤ count
  output : ∀ count ∈ outputTokens, 0 ≤ count
  deriving DecidableEq

/-- `TokenUsage(input_tokens, output_tokens)`. -/
def TokenUsage.new (inputTokens outputTokens : Option Int) : Except PyError TokenUsage :=
  if hinput : ∀ count ∈ inputTokens, 0 ≤ count then
    if houtput : ∀ count ∈ outputTokens, 0 ≤ count then
      .ok ⟨inputTokens, outputTokens, hinput, houtput⟩
    else .error (.valueError "output_tokens cannot be negative.")
  else .error (.valueError "input_tokens cannot be negative.")

/-- `InferenceTiming`; milliseconds. -/
structure InferenceTiming where
  totalMs : Option ℚ
  positive : ∀ total ∈ totalMs, 0 ≤ total
  deriving DecidableEq

/-- `InferenceTiming(total_ms)`. -/
def InferenceTiming.new (totalMs : Option ℚ) : Except PyError InferenceTiming :=
  if hpositive : ∀ total ∈ totalMs, 0 ≤ total then .ok ⟨totalMs, hpositive⟩
  else .error (.valueError "total_ms cannot be negative.")

structure AdapterInferenceResult where
  output : String
  finishReason : FinishReason
  usage : TokenUsage
  timing : InferenceTiming
  adapterMetadata : List (String × Json)
  reasoning : Option Text

/-- `InferenceResponse`, what an adapter of the older contract returns. -/
structure InferenceResponse where
  text : String
  model : Option String
  engine : String
  latencyMs : Option ℚ
  inputTokens : Option Int
  outputTokens : Option Int
  metadata : List (String × Json)

structure DeploymentProvenance where
  deploymentId : String
  engineName : String
  modelArtifactId : Option String
  modelRevision : Option String
  modelVerification : IdentityVerification
  engineVersion : Option String
  servingRuntime : Option String
  deriving DecidableEq

structure RoutingScore where
  deploymentId : String
  total : Int
  components : List (String × Int)
  explanation : List String
  deriving DecidableEq

structure RoutingDecision where
  policyVersion : String
  orderedDeploymentIds : List String
  candidates : List RoutingScore
  deriving DecidableEq

structure InferenceResult where
  output : String
  finishReason : FinishReason
  usage : TokenUsage
  timing : InferenceTiming
  provenance : DeploymentProvenance
  adapterMetadata : List (String × Json)
  reasoning : Option Text
  attempts : List ExecutionAttempt
  routingDecision : Option RoutingDecision

/-! ### Failures -/

/-- The context of a failure: what the router puts there, and what an adapter
did. -/
structure FailureContext where
  executionAttempts : Option (List ExecutionAttempt)
  routingDecision : Option RoutingDecision
  budgetAttempts : Option Nat
  budgetOutputTokens : Option Int
  rejections : List (String × ConstraintRejection)
  details : List (String × Json)

/-- `{}`. -/
def FailureContext.empty : FailureContext := ⟨none, none, none, none, [], []⟩

/-- An `InferenceFailure`. -/
structure InferenceFailure where
  cls : FailureClass
  deploymentId : Option String
  attemptId : Option String
  context : FailureContext

/-- A failure with nothing but its class. -/
def InferenceFailure.bare (cls : FailureClass) : InferenceFailure :=
  ⟨cls, none, none, FailureContext.empty⟩

/-- `failure.context["execution_attempts"] = ...` and
`failure.context["routing_decision"] = ...`. -/
def InferenceFailure.carrying (failure : InferenceFailure) (attempts : List ExecutionAttempt)
    (decision : RoutingDecision) : InferenceFailure :=
  { failure with
    context := { failure.context with
      executionAttempts := some attempts
      routingDecision := some decision } }

/-- `failure.context.get("execution_attempts", ())`. -/
def InferenceFailure.attempts (failure : InferenceFailure) : List ExecutionAttempt :=
  failure.context.executionAttempts.getD []

end Inference
end Ryuk

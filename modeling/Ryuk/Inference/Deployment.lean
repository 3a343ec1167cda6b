import Ryuk.Foundation.Json
import Ryuk.Inference.Contracts

/-!
# Deployments and their identity

The configured and the observed identity of a deployment, and the comparison of
the two.  The classes of inference failures stand here too: identity discovery
raises one of them.
-/

namespace Ryuk
namespace Inference

open Foundation Foundation.Json Foundation.Text Foundation.Datetime

/-! ### Failures -/

/-- `RetryClassification`. -/
inductive RetryClassification where
  | never
  | sameDeployment
  | otherDeployment
  deriving DecidableEq

/-- The class attributes of an inference failure. -/
structure FailureClass where
  code : String
  publicMessage : String
  httpStatus : Nat
  retry : RetryClassification
  deriving DecidableEq

namespace FailureClass

def identityMismatch : FailureClass :=
  ⟨"identity_mismatch", "The deployment model identity does not match configuration.", 503,
    .otherDeployment⟩

/-- Also the class of `NoAvailableEngineError`. -/
def deploymentUnavailable : FailureClass :=
  ⟨"deployment_unavailable", "No inference deployment is currently available.", 503,
    .otherDeployment⟩

/-- Also the class of `LegacyAdapterUnsupportedTaskError`. -/
def unsupportedTask : FailureClass :=
  ⟨"unsupported_task", "The selected deployment does not support this task.", 422, .never⟩

def capabilityMismatch : FailureClass :=
  ⟨"capability_mismatch", "No deployment satisfies the task requirements.", 422, .never⟩

def capacityExceeded : FailureClass :=
  ⟨"capacity_exceeded", "The inference deployment has no available capacity.", 503,
    .otherDeployment⟩

def deadlineExceeded : FailureClass :=
  ⟨"deadline_exceeded", "The inference deadline was exceeded.", 504, .otherDeployment⟩

def asynchronousResultPending : FailureClass :=
  ⟨"asynchronous_result_pending", "Inference was accepted asynchronously and remains pending.",
    503, .never⟩

def workflowBudgetExceeded : FailureClass :=
  ⟨"workflow_budget_exceeded", "The workflow execution budget was exceeded.", 504,
    .otherDeployment⟩

/-- Also the class of `IdentityDiscoveryFailure`. -/
def upstreamProtocol : FailureClass :=
  ⟨"upstream_protocol_failure", "The inference deployment returned an invalid response.", 502,
    .otherDeployment⟩

def generation : FailureClass :=
  ⟨"generation_failure", "The inference deployment failed to generate a result.", 502,
    .otherDeployment⟩

def cancelled : FailureClass := ⟨"cancelled", "Inference was cancelled.", 499, .never⟩

def unknownEnginePreference : FailureClass :=
  ⟨"unknown_engine_preference", "The requested inference engine is not registered.", 400, .never⟩

end FailureClass

/-! ### Identifiers -/

/-- `not value or value != value.strip()`, negated. -/
def isIdentifier (value : String) : Bool := decide (value ≠ "") && decide (value = strip value)

/-- Text without outer white space, and some of it. -/
abbrev Identifier := { value : String // isIdentifier value = true }

/-- `_require_identifier`. -/
def requireIdentifier (value fieldName : String) : Except PyError Identifier :=
  if h : isIdentifier value = true then .ok ⟨value, h⟩
  else .error (.valueError (fieldName ++ " must be non-empty without outer whitespace."))

/-- `_validate_optional_identifier`. -/
def validateOptionalIdentifier (value : Option String) (fieldName : String) :
    Except PyError (Option Identifier) :=
  match value with
  | none => .ok none
  | some text => (requireIdentifier text fieldName).map some

theorem requireIdentifier_ok {value fieldName : String} :
    (∃ found, requireIdentifier value fieldName = .ok found) ↔ isIdentifier value = true := by
  unfold requireIdentifier
  split_ifs with h
  · simp [h]
  · simp [h]

/-! ### Identity -/

/-- `IdentityVerification`. -/
inductive IdentityVerification where
  | verified
  | observed
  | configuredOnly
  | unverified
  | mismatch
  deriving DecidableEq

structure ModelRef where
  artifactId : Identifier
  revision : Option Identifier
  servedName : Option Identifier
  deriving DecidableEq

/-- `ModelRef(artifact_id, revision, served_name)`. -/
def ModelRef.new (artifactId : String) (revision servedName : Option String) :
    Except PyError ModelRef := do
  let artifactId ← requireIdentifier artifactId "artifact_id"
  let revision ← validateOptionalIdentifier revision "revision"
  let servedName ← validateOptionalIdentifier servedName "served_name"
  pure ⟨artifactId, revision, servedName⟩

structure DeploymentRef where
  deploymentId : Identifier
  model : Option ModelRef
  engineName : Identifier
  endpointId : Identifier
  engineVersion : Option Identifier
  servingRuntime : Option Identifier
  deriving DecidableEq

structure ModelIdentityObservation where
  model : ModelRef
  observedAt : DateTime
  source : Identifier
  catalogOnly : Bool
  aware : observedAt.utcoffset.isSome = true
  deriving DecidableEq

structure IdentityDiscovery where
  observation : ModelIdentityObservation
  adapterMetadata : List (String × Json)

structure IdentityAssessment where
  status : IdentityVerification
  expected : Option ModelRef
  observed : Option ModelIdentityObservation
  mismatchedFields : List String
  checked : status = .mismatch ↔ mismatchedFields ≠ []

structure IdentityInspection where
  assessment : IdentityAssessment
  discoveryError : Option String

/-- The three identity fields of a model, by name. -/
def ModelRef.identityFields (model : ModelRef) : List (String × Option Identifier) :=
  [("artifact_id", some model.artifactId), ("revision", model.revision),
    ("served_name", model.servedName)]

/-- The fields in which an observed model contradicts the expected one. -/
def mismatches (expected observed : ModelRef) : List String :=
  ((expected.identityFields.zip observed.identityFields).filter fun pair =>
    match pair.1.2, pair.2.2 with
    | some expected, some observed => decide (observed ≠ expected)
    | _, _ => false).map fun pair => pair.1.1

/-- Whether an expected field was not observed. -/
def missingEvidence (expected observed : ModelRef) : Bool :=
  (expected.identityFields.zip observed.identityFields).any fun pair =>
    pair.1.2.isSome && pair.2.2.isNone

/-- `assess_model_identity`. -/
def assessModelIdentity (expected : Option ModelRef)
    (observed : Option ModelIdentityObservation) : IdentityAssessment :=
  match expected, observed with
  | none, observed => ⟨.unverified, none, observed, [], by simp⟩
  | some expected, none => ⟨.configuredOnly, some expected, none, [], by simp⟩
  | some expected, some observation =>
      match h : mismatches expected observation.model with
      | field :: rest => ⟨.mismatch, some expected, some observation, field :: rest, by simp⟩
      | [] =>
          if missingEvidence expected observation.model then
            ⟨.configuredOnly, some expected, some observation, [], by simp⟩
          else if observation.catalogOnly then
            ⟨.observed, some expected, some observation, [], by simp⟩
          else ⟨.verified, some expected, some observation, [], by simp⟩

end Inference
end Ryuk

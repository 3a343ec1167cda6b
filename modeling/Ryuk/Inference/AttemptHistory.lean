import Ryuk.Foundation.JsonHooks
import Ryuk.Inference.Results
import Ryuk.Workflows.Contracts

/-!
# Attempt history

Execution attempts of both schema versions, as they are written to payloads and read back.
The numbers are those of the language: an integer of any size, or a float.  An argument of the
attempt itself is read at the type it is declared with.
-/

namespace Ryuk
namespace Inference

open Foundation Foundation.Json Foundation.Text Foundation.Datetime
open Foundation.Decimal (Number)
open Workflows (pyDict keywords keyword)

/-! ### Attempts -/

/-- A duration in a payload. -/
def durationJson : Number → Json
  | .int value => .int value
  | .float value => .float value

/-- `duration < 0`. -/
def isNegativeDuration : Number → Bool
  | .int value => decide (value < 0)
  | .float value => value.isNegative

/-- `duration == duration`. -/
def isComparable : Number → Bool
  | .float .nan => false
  | _ => true

/-- `left == right`. -/
def durationsEqual (left right : Number) : Bool :=
  isComparable left && isComparable right && pyEq (durationJson left) (durationJson right)

/-- `AttemptOutcome(value).value`. -/
def AttemptOutcome.value : AttemptOutcome → String
  | .succeeded => "succeeded"
  | .failed => "failed"

/-- The arguments of `ExecutionAttempt`. -/
structure AttemptFields where
  attemptId : String
  sequence : Int
  deploymentId : String
  startedAt : DateTime
  finishedAt : DateTime
  durationMs : Number
  outcome : AttemptOutcome
  failureCode : Option String
  retryClassification : Option String
  schemaVersion : Int
  configuredDeployment : Option DeploymentRef

/-- `value.utcoffset() is not None`; the call refuses an offset of a day or more. -/
def isAware (value : DateTime) : Bool :=
  match value.utcoffset with
  | some utcoffset => decide (utcoffset.natAbs < microsPerDay)
  | none => false

/-- The first check of `__post_init__` that fails. -/
def AttemptFields.problem (fields : AttemptFields) : Option String :=
  if isBlank fields.attemptId = true then some "attempt_id must contain non-whitespace text."
  else if isBlank fields.deploymentId = true then
    some "deployment_id must contain non-whitespace text."
  else if fields.schemaVersion ≠ 1 ∧ fields.schemaVersion ≠ 2 then
    some "Unsupported execution-attempt schema version."
  else if fields.schemaVersion = 2 ∧ fields.configuredDeployment.isNone = true then
    some "Version 2 attempts require a configured deployment."
  else if (fields.configuredDeployment.any fun deployment =>
      decide (deployment.deploymentId.1 ≠ fields.deploymentId)) = true then
    some "Attempt snapshot deployment ID must match."
  else if fields.sequence < 1 then some "sequence must be positive."
  else if isNegativeDuration fields.durationMs = true then some "duration_ms cannot be negative."
  else if isAware fields.startedAt = false ∨ isAware fields.finishedAt = false then
    some "attempt timestamps must include timezone information."
  else if fields.outcome = .succeeded ∧ fields.failureCode.isSome = true then
    some "A successful attempt cannot contain a failure code."
  else if fields.outcome = .failed ∧ fields.failureCode.isNone = true then
    some "A failed attempt must contain a failure code."
  else none

/-- An `ExecutionAttempt` of either schema version. -/
abbrev VersionedAttempt := { fields : AttemptFields // fields.problem = none }

/-- `ExecutionAttempt(...)`. -/
def VersionedAttempt.new (fields : AttemptFields) : Except PyError VersionedAttempt :=
  match h : fields.problem with
  | none => .ok ⟨fields, h⟩
  | some message => .error (.valueError message)

/-- The moment an aware datetime names. -/
def instantOf (value : DateTime) : Int := value.reading.micros - value.utcoffset.getD 0

/-- `left == right`. -/
def VersionedAttempt.equals (left right : VersionedAttempt) : Bool :=
  decide (left.1.attemptId = right.1.attemptId) && decide (left.1.sequence = right.1.sequence) &&
    decide (left.1.deploymentId = right.1.deploymentId) &&
    decide (instantOf left.1.startedAt = instantOf right.1.startedAt) &&
    decide (instantOf left.1.finishedAt = instantOf right.1.finishedAt) &&
    durationsEqual left.1.durationMs right.1.durationMs && decide (left.1.outcome = right.1.outcome) &&
    decide (left.1.failureCode = right.1.failureCode) &&
    decide (left.1.retryClassification = right.1.retryClassification) &&
    decide (left.1.schemaVersion = right.1.schemaVersion) &&
    decide (left.1.configuredDeployment = right.1.configuredDeployment)

/-! ### Writing -/

end Inference
end Ryuk

import Ryuk.Inference.Deployment

/-!
# Capabilities

What a deployment claims to support, and whether that covers what a task
requires.  A claim that is absent or has expired counts as unknown.
-/

namespace Ryuk
namespace Inference

open Foundation Foundation.Datetime

/-- The seconds of an aware datetime since the first day of the calendar. -/
def secondsOf (moment : DateTime) : ℚ :=
  (((moment.reading.micros : Int) - moment.utcoffset.getD 0 : Int) : ℚ) / 1000000

/-- `TaskKind`. -/
inductive TaskKind where
  | text
  | chat
  deriving DecidableEq

/-- `RejectionReason`. -/
inductive RejectionReason where
  | unknown
  | unsupported
  | mismatch
  | insufficient
  deriving DecidableEq

/-- The parts of a `CapabilityClaim` that the decisions read. -/
structure CapabilityClaim (α : Type) where
  value : α
  expiresAt : Option DateTime

structure DeploymentCapabilities where
  taskKinds : Option (CapabilityClaim (List TaskKind))
  servedModels : Option (CapabilityClaim (List String))
  maxContextTokens : Option (CapabilityClaim Int)
  structuredOutput : Option (CapabilityClaim Bool)
  streaming : Option (CapabilityClaim Bool)
  accelerators : Option (CapabilityClaim (List String))
  topologies : Option (CapabilityClaim (List String))
  dataLocations : Option (CapabilityClaim (List String))
  productionEligible : Option (CapabilityClaim Bool)

structure ConstraintRejection where
  code : String
  requirement : String
  reason : RejectionReason
  deriving DecidableEq

structure EligibilityDecision where
  eligible : Bool
  rejections : List ConstraintRejection
  deriving DecidableEq

/-- `TaskKind.TEXT if isinstance(task.input, TextInput) else TaskKind.CHAT`. -/
def TaskInput.kind : TaskInput → TaskKind
  | .text _ => .text
  | .chat _ => .chat

/-- `_current`. -/
def CapabilityClaim.current {α : Type} (now : ℚ) (claim : CapabilityClaim α) : Bool :=
  match claim.expiresAt with
  | none => true
  | some expiry => decide (now < secondsOf expiry)

/-- A claim that is there and has not expired. -/
def currentClaim {α : Type} (now : ℚ) (claim : Option (CapabilityClaim α)) :
    Option (CapabilityClaim α) :=
  claim.filter (CapabilityClaim.current now)

/-- `_unknown`. -/
def unknownRejection (requirement : String) : ConstraintRejection :=
  ⟨"unknown_" ++ requirement, requirement, .unknown⟩

/-- `_require_member`. -/
def requireMember {α : Type} [DecidableEq α] (now : ℚ) (requirement : String) (required : α)
    (claim : Option (CapabilityClaim (List α))) (mismatch : Bool) : List ConstraintRejection :=
  match currentClaim now claim with
  | none => [unknownRejection requirement]
  | some claim =>
      if required ∈ claim.value then []
      else if mismatch then [⟨"mismatched_" ++ requirement, requirement, .mismatch⟩]
      else [⟨"unsupported_" ++ requirement, requirement, .unsupported⟩]

/-- `_require_member` of an optional requirement. -/
def requireOptional (now : ℚ) (requirement : String) (required : Option Text)
    (claim : Option (CapabilityClaim (List String))) (mismatch : Bool) :
    List ConstraintRejection :=
  match required with
  | none => []
  | some required => requireMember now requirement required.1 claim mismatch

/-- `_require_bool`. -/
def requireBool (now : ℚ) (requirement : String) (required : Bool)
    (claim : Option (CapabilityClaim Bool)) : List ConstraintRejection :=
  if required then
    match currentClaim now claim with
    | none => [unknownRejection requirement]
    | some claim =>
        if claim.value then []
        else [⟨"unsupported_" ++ requirement, requirement, .unsupported⟩]
  else []

/-- The check of the context capacity. -/
def requireContext (now : ℚ) (required : Option Int) (claim : Option (CapabilityClaim Int)) :
    List ConstraintRejection :=
  match required with
  | none => []
  | some required =>
      match currentClaim now claim with
      | none => [unknownRejection "context_capacity"]
      | some claim =>
          if claim.value < required then
            [⟨"insufficient_context_capacity", "context_capacity", .insufficient⟩]
          else []

/-- `evaluate_capabilities`. -/
def evaluateCapabilities (now : ℚ) (task : InferenceTask) (capabilities : DeploymentCapabilities) :
    EligibilityDecision :=
  let requirements := task.requirements
  let rejections :=
    requireMember now "task_kind" task.input.kind capabilities.taskKinds false ++
    requireOptional now "served_model" requirements.requiredModel capabilities.servedModels true ++
    requireContext now requirements.requiredContextTokens capabilities.maxContextTokens ++
    requireBool now "structured_output" requirements.requiresStructuredOutput
      capabilities.structuredOutput ++
    requireBool now "streaming" requirements.requiresStreaming capabilities.streaming ++
    requireOptional now "accelerator" requirements.requiredAccelerator capabilities.accelerators
      false ++
    requireOptional now "topology" requirements.requiredTopology capabilities.topologies false ++
    requireOptional now "data_location" requirements.requiredDataLocation
      capabilities.dataLocations false ++
    requireBool now "production_eligible" requirements.productionOnly
      capabilities.productionEligible
  ⟨rejections.isEmpty, rejections⟩

end Inference
end Ryuk

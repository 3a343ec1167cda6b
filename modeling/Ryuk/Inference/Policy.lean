import Ryuk.Foundation.Ranking
import Ryuk.Foundation.Rounding
import Ryuk.Inference.Results

/-!
# The routing policy

A candidate is scored by nine components that read the task and the candidate only, and the
candidates are ranked by their total and, on ties, by their place in the registration.
-/

namespace Ryuk
namespace Inference

open Foundation Foundation.Ranking

/-! ### Profiles -/

/-- `str.lower`: lowering a lowered text changes nothing. -/
structure Lowercase where
  lower : String → String
  idempotent : ∀ text, lower (lower text) = lower text

inductive CostClass where
  | unknown
  | high
  | medium
  | low
  deriving DecidableEq

inductive LatencyClass where
  | unknown
  | high
  | medium
  | low
  deriving DecidableEq

structure RoutingPolicyProfile where
  costClass : CostClass
  latencyClass : LatencyClass
  textSuitability : Int
  chatSuitability : Int
  text : -10 ≤ textSuitability ∧ textSuitability ≤ 10
  chat : -10 ≤ chatSuitability ∧ chatSuitability ≤ 10

/-- `RoutingPolicyProfile(...)`. -/
def RoutingPolicyProfile.new (costClass : CostClass) (latencyClass : LatencyClass)
    (textSuitability chatSuitability : Int) : Except PyError RoutingPolicyProfile :=
  if htext : -10 ≤ textSuitability ∧ textSuitability ≤ 10 then
    if hchat : -10 ≤ chatSuitability ∧ chatSuitability ≤ 10 then
      .ok ⟨costClass, latencyClass, textSuitability, chatSuitability, htext, hchat⟩
    else .error (.valueError "Suitability must be between -10 and 10.")
  else .error (.valueError "Suitability must be between -10 and 10.")

/-- `RoutingPolicyProfile()`. -/
def RoutingPolicyProfile.default : RoutingPolicyProfile :=
  ⟨.unknown, .unknown, 0, 0, by decide, by decide⟩

/-! ### Candidates -/

structure PolicyRuntime where
  routable : Bool
  fresh : Bool
  recentFailureRate : Option Double
  capacityAvailable : Bool

structure PolicyCandidate where
  deploymentId : String
  engineName : String
  registrationIndex : Int
  capabilities : DeploymentCapabilities
  profile : RoutingPolicyProfile
  runtime : Option PolicyRuntime

/-! ### Scores -/

/-- `round(value)`. -/
def roundDouble : Double → Except PyError Int
  | .nan => .error (.valueError "cannot convert float NaN to integer")
  | .infinite _ => .error .overflowError
  | .finite value => .ok (Decimal.roundHalfEven value)

/-- `round(20 * (1 - runtime.recent_failure_rate))`, where there is a rate. -/
def reliabilityScore (rounding : Rounding) (runtime : Option PolicyRuntime) :
    Except PyError Int :=
  match runtime.bind PolicyRuntime.recentFailureRate with
  | none => .ok 0
  | some rate => roundDouble (rounding.scale 20 (rounding.subFrom 1 rate))

/-- Whether an engine has the preferred name. -/
def isPreferred (lowercase : Lowercase) (preferredEngine : Option String) (engineName : String) :
    Bool :=
  match preferredEngine with
  | none => false
  | some preferred => decide (lowercase.lower engineName = lowercase.lower preferred)

/-- `_context_score`. -/
def contextScore (task : InferenceTask) (capabilities : DeploymentCapabilities) : Int :=
  match task.requirements.requiredContextTokens, capabilities.maxContextTokens with
  | some required, some claim => if required * 2 ≤ claim.value then 10 else 5
  | _, _ => 0

def costScore : CostClass → Int
  | .low => 10
  | .medium => 5
  | .unknown | .high => 0

def latencyScore : LatencyClass → Int
  | .low => 10
  | .medium => 5
  | .unknown | .high => 0

/-- The suitability for the kind of the task. -/
def suitabilityScore (task : InferenceTask) (profile : RoutingPolicyProfile) : Int :=
  match task.input.kind with
  | .text => profile.textSuitability
  | .chat => profile.chatSuitability

/-- A component that counts when a property of the runtime holds. -/
def runtimeScore (runtime : Option PolicyRuntime) (property : PolicyRuntime → Bool)
    (value : Int) : Int :=
  if runtime.any property then value else 0

/-- The components of a score, in the order in which they are added. -/
def scoreComponents (lowercase : Lowercase) (task : InferenceTask) (candidate : PolicyCandidate)
    (preferredEngine : Option String) (reliability : Int) : List (String × Int) :=
  [("preference",
      if isPreferred lowercase preferredEngine candidate.engineName then 100 else 0),
    ("readiness", runtimeScore candidate.runtime PolicyRuntime.routable 20),
    ("freshness", runtimeScore candidate.runtime PolicyRuntime.fresh 5),
    ("reliability", reliability),
    ("capacity", runtimeScore candidate.runtime PolicyRuntime.capacityAvailable 10),
    ("context_headroom", contextScore task candidate.capabilities),
    ("cost", costScore candidate.profile.costClass),
    ("latency", latencyScore candidate.profile.latencyClass),
    ("task_suitability", suitabilityScore task candidate.profile)]

/-- The score with these components. -/
def RoutingScore.ofComponents (deploymentId : String) (components : List (String × Int)) :
    RoutingScore where
  deploymentId := deploymentId
  total := (components.map Prod.snd).sum
  components := components
  explanation := components.map fun component => component.1 ++ "=" ++ toString component.2

/-- `_score`. -/
def score (lowercase : Lowercase) (rounding : Rounding) (task : InferenceTask)
    (preferredEngine : Option String) (candidate : PolicyCandidate) :
    Except PyError RoutingScore := do
  let reliability ← reliabilityScore rounding candidate.runtime
  pure (RoutingScore.ofComponents candidate.deploymentId
    (scoreComponents lowercase task candidate preferredEngine reliability))

/-! ### Ranking -/

/-- `POLICY_VERSION`. -/
def policyVersion : String := "ryuk-deterministic-v1"

/-- `by_id[deployment_id]`; the last candidate of an id is in the dictionary. -/
def candidateOf (candidates : List PolicyCandidate) (deploymentId : String) :
    Option PolicyCandidate :=
  candidates.reverse.find? fun candidate => decide (candidate.deploymentId = deploymentId)

/-- The sort key: first the total, downwards, then the registration index, upwards. -/
def rankKey (candidates : List PolicyCandidate) (scored : RoutingScore) : ℤ ×ₗ ℤ :=
  toLex (-scored.total,
    ((candidateOf candidates scored.deploymentId).map PolicyCandidate.registrationIndex).getD 0)

/-- `rank_candidates`. -/
def rankCandidates (lowercase : Lowercase) (rounding : Rounding) (task : InferenceTask)
    (candidates : List PolicyCandidate) (preferredEngine : Option String) :
    Except PyError RoutingDecision := do
  let scored ← candidates.mapM (score lowercase rounding task preferredEngine)
  let ordered := sortBy (rankKey candidates) scored
  pure ⟨policyVersion, ordered.map RoutingScore.deploymentId, ordered⟩

end Inference
end Ryuk

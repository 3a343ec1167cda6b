import Ryuk.Foundation.Dict
import Ryuk.Foundation.Rounding
import Ryuk.Inference.Results

/-!
# Runtime states

What is known of a deployment while it serves: the last probe, and a summary of the last
twenty attempts.  The store keeps the states and, beside them, the outcomes the summaries are
made of.  Instants are seconds of the UTC clock.
-/

namespace Ryuk
namespace Inference

open Foundation

/-! ### States -/

inductive Liveness where
  | unknown
  | up
  | down
  deriving DecidableEq

inductive Readiness where
  | unknown
  | ready
  | notReady
  deriving DecidableEq

inductive AdmissionState where
  | unknown
  | accepting
  | rejecting
  deriving DecidableEq

inductive CapacityState where
  | unknown
  | available
  | exhausted
  deriving DecidableEq

structure RuntimeSummary where
  attemptCount : Nat
  failureCount : Nat
  recentFailureRate : Option Double
  lastAttemptLatencyMs : Option Double
  lastFailureCode : Option String
  deriving DecidableEq

/-- `RuntimeSummary()`. -/
def RuntimeSummary.initial : RuntimeSummary := ⟨0, 0, none, none, none⟩

structure DeploymentRuntimeState where
  deploymentId : String
  liveness : Liveness
  readiness : Readiness
  admission : AdmissionState
  capacity : CapacityState
  observedAt : Option ℚ
  expiresAt : Option ℚ
  probeLatencyMs : Option Double
  probeError : Option String
  summary : RuntimeSummary
  deriving DecidableEq

/-- `DeploymentRuntimeState(deployment_id)`. -/
def DeploymentRuntimeState.initial (deploymentId : String) : DeploymentRuntimeState :=
  ⟨deploymentId, .unknown, .unknown, .unknown, .unknown, none, none, none, none, .initial⟩

/-- `is_stale(now)`. -/
def DeploymentRuntimeState.isStale (state : DeploymentRuntimeState) (now : ℚ) : Bool :=
  match state.expiresAt with
  | none => true
  | some expiry => decide (expiry ≤ now)

/-- `is_routable(now)`. -/
def DeploymentRuntimeState.isRoutable (state : DeploymentRuntimeState) (now : ℚ) : Bool :=
  !state.isStale now && decide (state.liveness = .up) && decide (state.readiness = .ready) &&
    decide (state.admission = .accepting) && decide (state.capacity ≠ .exhausted)

/-! ### The store -/

/-- What `record_attempt` reads of an attempt. -/
structure AttemptFeedback where
  deploymentId : String
  outcome : AttemptOutcome
  failureCode : Option String
  durationMs : Double

def ExecutionAttempt.feedback (attempt : ExecutionAttempt) : AttemptFeedback :=
  ⟨attempt.deploymentId, attempt.outcome, attempt.failureCode, .finite attempt.durationMs⟩

/-- `RuntimeStateStore`: every state is stored under its own id. -/
structure RuntimeStateStore where
  states : Dict String DeploymentRuntimeState
  attemptHistory : Dict String (List Bool)
  keyed : ∀ entry ∈ states.entries, entry.1 = entry.2.deploymentId

namespace RuntimeStateStore

/-- `get`. -/
def get (store : RuntimeStateStore) (deploymentId : String) : DeploymentRuntimeState :=
  (store.states.get? deploymentId).getD (.initial deploymentId)

/-- `all()`. -/
def all (store : RuntimeStateStore) : List DeploymentRuntimeState := store.states.values

/-- `put`. -/
def put (store : RuntimeStateStore) (state : DeploymentRuntimeState) : RuntimeStateStore where
  states := store.states.set state.deploymentId state
  attemptHistory := store.attemptHistory
  keyed := by
    intro entry hentry
    rcases Dict.mem_set.mp hentry with rfl | ⟨-, hold⟩
    · rfl
    · exact store.keyed entry hold

/-- The store without states. -/
def empty : RuntimeStateStore where
  states := Dict.empty
  attemptHistory := Dict.empty
  keyed := by
    intro entry hentry
    cases hentry

/-- One more deployment, in its initial state and without attempts. -/
def track (store : RuntimeStateStore) (deploymentId : String) : RuntimeStateStore :=
  { store.put (.initial deploymentId) with
    attemptHistory := store.attemptHistory.set deploymentId [] }

/-- `RuntimeStateStore(deployment_ids)`. -/
def new (deploymentIds : List String) : RuntimeStateStore := deploymentIds.foldl track empty

/-- `_attempt_history.setdefault(deployment_id, [])`. -/
def history (store : RuntimeStateStore) (deploymentId : String) : List Bool :=
  (store.attemptHistory.get? deploymentId).getD []

end RuntimeStateStore

/-- `history.append(outcome)` and `del history[:-20]`. -/
def recentOutcomes (history : List Bool) (failed : Bool) : List Bool :=
  let longer := history ++ [failed]
  longer.drop (longer.length - 20)

/-- `RuntimeSummary(...)` of a history that is not empty. -/
def RuntimeSummary.of (rounding : Rounding) (history : List Bool) (attempt : AttemptFeedback) :
    RuntimeSummary where
  attemptCount := history.length
  failureCount := history.count true
  recentFailureRate := some (rounding.ofExact ((history.count true : ℚ) / history.length))
  lastAttemptLatencyMs := some attempt.durationMs
  lastFailureCode := if attempt.outcome = .failed then attempt.failureCode else none

/-- The effect of an outcome on the four properties of a state. -/
def DeploymentRuntimeState.after (state : DeploymentRuntimeState) (attempt : AttemptFeedback) :
    DeploymentRuntimeState :=
  if attempt.outcome = .succeeded then
    { state with admission := .accepting, capacity := .available }
  else if attempt.failureCode = some "capacity_exceeded" then
    { state with admission := .rejecting, capacity := .exhausted }
  else if attempt.failureCode = some "deployment_unavailable" then
    { state with liveness := .down, readiness := .notReady, admission := .rejecting }
  else state

/-- `record_attempt`. -/
def RuntimeStateStore.recordAttempt (rounding : Rounding) (store : RuntimeStateStore)
    (attempt : AttemptFeedback) : RuntimeStateStore :=
  let state := store.get attempt.deploymentId
  let history :=
    recentOutcomes (store.history attempt.deploymentId) (decide (attempt.outcome = .failed))
  { store.put { state.after attempt with summary := .of rounding history attempt } with
    attemptHistory := store.attemptHistory.set attempt.deploymentId history }

/-! ### The collector -/

/-- The end of a probe: when it started, what it found and what it measured. -/
structure ProbeResult where
  deploymentId : String
  observedAt : ℚ
  expiresAt : ℚ
  available : Bool
  latencyMs : Double
  error : Option String

/-- `_probe`, from the end of the wait on: the summary is read and the state put at once. -/
def RuntimeStateStore.probed (store : RuntimeStateStore) (probe : ProbeResult) :
    RuntimeStateStore :=
  let previous := store.get probe.deploymentId
  store.put
    { deploymentId := probe.deploymentId
      liveness := if probe.available then .up else .down
      readiness := if probe.available then .ready else .notReady
      admission := if probe.available then .accepting else .rejecting
      capacity := .unknown
      observedAt := some probe.observedAt
      expiresAt := some probe.expiresAt
      probeLatencyMs := some probe.latencyMs
      probeError := probe.error
      summary := previous.summary }

namespace RuntimeStateStore

variable {store : RuntimeStateStore} {state : DeploymentRuntimeState} {deploymentId : String}

theorem get_put_self : (store.put state).get state.deploymentId = state := by
  unfold get put
  rw [Dict.get?_set_self, Option.getD_some]

theorem get_put_other (h : state.deploymentId ≠ deploymentId) :
    (store.put state).get deploymentId = store.get deploymentId := by
  unfold get put
  rw [Dict.get?_set_other h]

/-- What is looked up carries the id under which it is looked up. -/
theorem get_deploymentId (store : RuntimeStateStore) (deploymentId : String) :
    (store.get deploymentId).deploymentId = deploymentId := by
  unfold get
  cases hfound : store.states.get? deploymentId with
  | none => rfl
  | some found => exact (store.keyed _ (Dict.mem_of_get? hfound)).symm

end RuntimeStateStore

end Inference
end Ryuk

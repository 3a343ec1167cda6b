import Ryuk.Foundation.Machine
import Ryuk.Inference.Registry
import Ryuk.Inference.RuntimeState

/-!
# The runtime state collector

A collector starts a probe of every registered deployment and stores what each of them found,
while attempts are recorded from the other side.  A probe waits between its start and its end,
so probes are kept with the state and end one at a time, in any order.
-/

namespace Ryuk
namespace Inference

open Foundation

variable {lowercase : Lowercase}

/-- An attempt as the router records it: a failed one, and no other, has a failure code. -/
structure RecordedAttempt extends AttemptFeedback where
  coded : failureCode.isSome = decide (outcome = .failed)

/-- A probe that waits for the answer of its engine. -/
structure PendingProbe where
  deploymentId : String
  observedAt : ℚ

/-- `RuntimeStateCollector`, with the probes under way. -/
structure RuntimeStateCollector where
  store : RuntimeStateStore
  pending : List PendingProbe

/-- What happens to a collector.  The answer of an engine is its availability, or the name of
what it raised; a cancelled probe stores nothing. -/
inductive CollectorEvent where
  | refresh (observedAt : String → ℚ)
  | answered (position : Nat) (answer : Except String Bool) (latencyMs : Double)
  | cancelled (position : Nat)
  | attempted (attempt : RecordedAttempt)

/-- Whether a deployment runs in this process. -/
def RegisteredDeployment.inProcess (deployment : RegisteredDeployment lowercase) : Bool :=
  decide (deployment.ref.servingRuntime.map Subtype.val = some "in_process")

/-- The state a deployment of this process starts in. -/
def inProcessState (now ttlSeconds : ℚ) (deploymentId : String) : DeploymentRuntimeState :=
  { DeploymentRuntimeState.initial deploymentId with
    liveness := .up
    readiness := .ready
    admission := .accepting
    observedAt := some now
    expiresAt := some (now + ttlSeconds) }

/-- One step of the loop of the constructor. -/
def RuntimeStateStore.startInProcess (now ttlSeconds : ℚ) (store : RuntimeStateStore)
    (deployment : RegisteredDeployment lowercase) : RuntimeStateStore :=
  if deployment.inProcess then store.put (inProcessState now ttlSeconds deployment.id) else store

/-- `RuntimeStateCollector(registry, ttl_seconds=...)`. -/
def RuntimeStateCollector.new (registry : DeploymentRegistry lowercase) (now ttlSeconds : ℚ) :
    RuntimeStateCollector where
  store := registry.all.foldl (RuntimeStateStore.startInProcess now ttlSeconds)
    (RuntimeStateStore.new registry.ids)
  pending := []

/-- The end of a probe. -/
def PendingProbe.result (probe : PendingProbe) (ttlSeconds : ℚ) (answer : Except String Bool)
    (latencyMs : Double) : ProbeResult where
  deploymentId := probe.deploymentId
  observedAt := probe.observedAt
  expiresAt := probe.observedAt + ttlSeconds
  available := answer.toOption.getD false
  latencyMs := latencyMs
  error :=
    match answer with
    | .ok _ => none
    | .error name => some name

/-- The collector after an event. -/
def RuntimeStateCollector.next (rounding : Rounding) (ttlSeconds : ℚ)
    (registry : DeploymentRegistry lowercase) (collector : RuntimeStateCollector) :
    CollectorEvent → RuntimeStateCollector
  | .refresh observedAt =>
      { collector with
        pending := collector.pending ++
          registry.all.map fun deployment => ⟨deployment.id, observedAt deployment.id⟩ }
  | .answered position answer latencyMs =>
      match collector.pending[position]? with
      | none => collector
      | some probe =>
          { store := collector.store.probed (probe.result ttlSeconds answer latencyMs)
            pending := collector.pending.eraseIdx position }
  | .cancelled position => { collector with pending := collector.pending.eraseIdx position }
  | .attempted attempt =>
      { collector with
        store := collector.store.recordAttempt rounding attempt.toAttemptFeedback }

/-- A collector under events. -/
def collectorMachine (rounding : Rounding) (ttlSeconds : ℚ)
    (registry : DeploymentRegistry lowercase) :
    Machine RuntimeStateCollector CollectorEvent Unit where
  step collector event := ((), collector.next rounding ttlSeconds registry event)

/-- The attempts among the events. -/
def attemptsOf (events : List CollectorEvent) : List RecordedAttempt :=
  events.filterMap fun event =>
    match event with
    | .attempted attempt => some attempt
    | _ => none

theorem attemptsOf_cons (event : CollectorEvent) (events : List CollectorEvent) :
    attemptsOf (event :: events) = attemptsOf [event] ++ attemptsOf events := by
  unfold attemptsOf
  rw [← List.filterMap_append, List.singleton_append]

/-! ### What the operations change -/

@[simp] theorem DeploymentRuntimeState.after_deploymentId (state : DeploymentRuntimeState)
    (attempt : AttemptFeedback) : (state.after attempt).deploymentId = state.deploymentId := by
  unfold DeploymentRuntimeState.after
  split_ifs
  all_goals rfl

namespace RuntimeStateStore

variable {rounding : Rounding} {store : RuntimeStateStore} {attempt : AttemptFeedback}
  {state : DeploymentRuntimeState} {probe : ProbeResult} {deploymentId : String}

/-- A state is found under its id, and nothing else changes. -/
theorem get_put : (store.put state).get deploymentId =
    if state.deploymentId = deploymentId then state else store.get deploymentId := by
  split_ifs with hid
  · rw [← hid, get_put_self]
  · exact get_put_other hid

theorem history_put : (store.put state).history deploymentId = store.history deploymentId := rfl

theorem history_set (histories : Dict String (List Bool)) (key : String) (history : List Bool) :
    ({ store with attemptHistory := histories.set key history } : RuntimeStateStore).history
      deploymentId =
      if key = deploymentId then history else (histories.get? deploymentId).getD [] := by
  unfold RuntimeStateStore.history
  split_ifs with hid
  · rw [← hid, Dict.get?_set_self, Option.getD_some]
  · rw [Dict.get?_set_other hid]

/-- A recorded attempt replaces the state of its deployment. -/
theorem get_recordAttempt_self :
    (store.recordAttempt rounding attempt).get attempt.deploymentId =
      { (store.get attempt.deploymentId).after attempt with
        summary := .of rounding (recentOutcomes (store.history attempt.deploymentId)
          (decide (attempt.outcome = .failed))) attempt } := by
  show (RuntimeStateStore.put store _).get attempt.deploymentId = _
  rw [get_put, if_pos]
  rw [DeploymentRuntimeState.after_deploymentId, get_deploymentId]

/-- **Recording for one deployment changes no other deployment's state.** -/
theorem get_recordAttempt_other (h : attempt.deploymentId ≠ deploymentId) :
    (store.recordAttempt rounding attempt).get deploymentId = store.get deploymentId := by
  show (RuntimeStateStore.put store _).get deploymentId = _
  apply get_put_other
  show ((store.get attempt.deploymentId).after attempt).deploymentId ≠ deploymentId
  rw [DeploymentRuntimeState.after_deploymentId, get_deploymentId]
  exact h

theorem history_recordAttempt : (store.recordAttempt rounding attempt).history deploymentId =
    if attempt.deploymentId = deploymentId then
      recentOutcomes (store.history attempt.deploymentId) (decide (attempt.outcome = .failed))
    else store.history deploymentId :=
  history_set ..

/-- A probe keeps every summary: it copies the one it finds when it ends. -/
theorem summary_probed : ((store.probed probe).get deploymentId).summary =
    (store.get deploymentId).summary := by
  show ((store.put _).get deploymentId).summary = _
  by_cases hid : probe.deploymentId = deploymentId
  · rw [get_put, if_pos hid, hid]
  · rw [get_put, if_neg hid]

end RuntimeStateStore

/-- An answer ends a probe under way, or nothing. -/
theorem RuntimeStateCollector.next_answered (rounding : Rounding) (ttlSeconds : ℚ)
    (registry : DeploymentRegistry lowercase) (collector : RuntimeStateCollector) (position : Nat)
    (answer : Except String Bool) (latencyMs : Double) :
    collector.next rounding ttlSeconds registry (.answered position answer latencyMs) = collector ∨
      ∃ probe ∈ collector.pending,
        collector.next rounding ttlSeconds registry (.answered position answer latencyMs) =
          { store := collector.store.probed (probe.result ttlSeconds answer latencyMs)
            pending := collector.pending.eraseIdx position } := by
  cases hfound : collector.pending[position]? with
  | none =>
      left
      simp only [next, hfound]
  | some probe =>
      right
      apply Exists.intro probe
      constructor
      · exact List.mem_of_getElem? hfound
      · simp only [next, hfound]

end Inference
end Ryuk

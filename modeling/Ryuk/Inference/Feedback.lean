import Ryuk.Foundation.Window
import Ryuk.Inference.Collector

/-!
# Runtime feedback

The summary of a deployment is always the summary of its last twenty attempts, however
attempts and probes follow one another.
-/

namespace Ryuk
namespace Inference

open Foundation

variable {lowercase : Lowercase} {rounding : Rounding} {ttlSeconds : ℚ}

/-- Whether an attempt failed. -/
def RecordedAttempt.failed (attempt : RecordedAttempt) : Bool :=
  decide (attempt.outcome = .failed)

/-- The attempts on one deployment. -/
def onDeployment (deploymentId : String) (attempts : List RecordedAttempt) :
    List RecordedAttempt :=
  attempts.filter fun attempt => decide (attempt.deploymentId = deploymentId)

/-- The failures among the last twenty attempts. -/
def recentFailures (attempts : List RecordedAttempt) : Nat :=
  (lastOf 20 attempts).countP RecordedAttempt.failed

/-- A summary of attempts on one deployment, the latest one last. -/
structure Summarises (rounding : Rounding) (attempts : List RecordedAttempt)
    (summary : RuntimeSummary) : Prop where
  attemptCount : summary.attemptCount = min 20 attempts.length
  failureCount : summary.failureCount = recentFailures attempts
  recentFailureRate : summary.recentFailureRate =
    if attempts = [] then none
    else some (rounding.ofExact
      ((recentFailures attempts : ℚ) / (min 20 attempts.length : Nat)))
  lastAttemptLatencyMs : summary.lastAttemptLatencyMs =
    attempts.getLast?.map fun attempt => attempt.durationMs
  lastFailureCode : summary.lastFailureCode =
    attempts.getLast?.bind fun attempt => attempt.failureCode

/-- What the store holds after attempts: per deployment the outcomes of its last twenty, and
their summary. -/
structure Recorded (rounding : Rounding) (attempts : List RecordedAttempt)
    (store : RuntimeStateStore) : Prop where
  histories : ∀ deploymentId, store.history deploymentId =
    lastOf 20 ((onDeployment deploymentId attempts).map RecordedAttempt.failed)
  summaries : ∀ deploymentId, Summarises rounding (onDeployment deploymentId attempts)
    (store.get deploymentId).summary

/-! ### The start -/

theorem summarises_nil : Summarises rounding [] RuntimeSummary.initial where
  attemptCount := rfl
  failureCount := rfl
  recentFailureRate := rfl
  lastAttemptLatencyMs := rfl
  lastFailureCode := rfl

/-- A store in which nothing was recorded. -/
def Unrecorded (store : RuntimeStateStore) : Prop :=
  ∀ deploymentId, store.history deploymentId = [] ∧
    (store.get deploymentId).summary = RuntimeSummary.initial

namespace Unrecorded

theorem empty : Unrecorded RuntimeStateStore.empty := fun _ => ⟨rfl, rfl⟩

/-- A fresh state does not record anything. -/
theorem put {store : RuntimeStateStore} {state : DeploymentRuntimeState} (h : Unrecorded store)
    (hstate : state.summary = RuntimeSummary.initial) : Unrecorded (store.put state) := by
  intro deploymentId
  rw [RuntimeStateStore.history_put, RuntimeStateStore.get_put]
  split_ifs
  · exact ⟨(h deploymentId).1, hstate⟩
  · exact h deploymentId

theorem track {store : RuntimeStateStore} (h : Unrecorded store) (tracked : String) :
    Unrecorded (store.track tracked) := by
  intro deploymentId
  constructor
  · show RuntimeStateStore.history { store.put (.initial tracked) with
        attemptHistory := store.attemptHistory.set tracked [] } deploymentId = []
    rw [RuntimeStateStore.history_set]
    split_ifs
    · rfl
    · exact (h deploymentId).1
  · have hput : Unrecorded (store.put (.initial tracked)) := h.put rfl
    exact (hput deploymentId).2

theorem tracked {store : RuntimeStateStore} (h : Unrecorded store) (deploymentIds : List String) :
    Unrecorded (deploymentIds.foldl RuntimeStateStore.track store) := by
  induction deploymentIds generalizing store with
  | nil => exact h
  | cons deploymentId rest ih => exact ih (h.track deploymentId)

theorem startInProcess {store : RuntimeStateStore} (h : Unrecorded store) (now : ℚ)
    (deployments : List (RegisteredDeployment lowercase)) :
    Unrecorded (deployments.foldl (RuntimeStateStore.startInProcess now ttlSeconds) store) := by
  induction deployments generalizing store with
  | nil => exact h
  | cons deployment rest ih =>
      apply ih
      unfold RuntimeStateStore.startInProcess
      split_ifs
      · exact h.put rfl
      · exact h

theorem recorded {store : RuntimeStateStore} (h : Unrecorded store) :
    Recorded rounding [] store where
  histories deploymentId := (h deploymentId).1
  summaries deploymentId := by
    rw [(h deploymentId).2]
    exact summarises_nil

end Unrecorded

/-- A new collector has recorded nothing. -/
theorem recorded_new (registry : DeploymentRegistry lowercase) (now ttlSeconds : ℚ) :
    Recorded rounding [] (RuntimeStateCollector.new registry now ttlSeconds).store :=
  ((Unrecorded.empty.tracked registry.ids).startInProcess now registry.all).recorded

/-! ### One event -/

theorem onDeployment_append (deploymentId : String) (attempts : List RecordedAttempt)
    (attempt : RecordedAttempt) : onDeployment deploymentId (attempts ++ [attempt]) =
      if attempt.deploymentId = deploymentId then onDeployment deploymentId attempts ++ [attempt]
      else onDeployment deploymentId attempts := by
  unfold onDeployment
  rw [List.filter_append]
  split_ifs with hid
  · simp [hid]
  · simp [hid]

/-- Recording cuts the history to the last twenty outcomes. -/
theorem recentOutcomes_lastOf (attempts : List RecordedAttempt) (attempt : RecordedAttempt) :
    recentOutcomes (lastOf 20 (attempts.map RecordedAttempt.failed)) attempt.failed =
      lastOf 20 ((attempts ++ [attempt]).map RecordedAttempt.failed) := by
  show lastOf 20 (lastOf 20 (attempts.map RecordedAttempt.failed) ++ [attempt.failed]) = _
  rw [lastOf_append_lastOf, List.map_append, List.map_singleton]

theorem count_lastOf (attempts : List RecordedAttempt) :
    (lastOf 20 (attempts.map RecordedAttempt.failed)).count true = recentFailures attempts := by
  unfold recentFailures
  rw [lastOf_map, List.count, List.countP_map]
  congr 1
  funext attempt
  simp

/-- The summary that `record_attempt` makes of the cut history. -/
theorem summarises_of (attempts : List RecordedAttempt) (attempt : RecordedAttempt) :
    Summarises rounding (attempts ++ [attempt])
      (.of rounding (lastOf 20 ((attempts ++ [attempt]).map RecordedAttempt.failed))
        attempt.toAttemptFeedback) where
  attemptCount := by
    show (lastOf 20 ((attempts ++ [attempt]).map RecordedAttempt.failed)).length = _
    rw [length_lastOf, List.length_map]
  failureCount := count_lastOf _
  recentFailureRate := by
    rw [if_neg (List.append_ne_nil_of_right_ne_nil _ (List.cons_ne_nil _ _))]
    show some (rounding.ofExact _) = _
    rw [count_lastOf, length_lastOf, List.length_map]
  lastAttemptLatencyMs := by
    rw [List.getLast?_concat]
    rfl
  lastFailureCode := by
    rw [List.getLast?_concat]
    show (if attempt.outcome = .failed then attempt.failureCode else none) = attempt.failureCode
    split_ifs with houtcome
    · rfl
    · -- an attempt that did not fail has no failure code
      have hcoded := attempt.coded
      rw [decide_eq_false houtcome, Option.isSome_eq_false_iff, Option.isNone_iff_eq_none] at hcoded
      exact hcoded.symm

namespace Recorded

variable {attempts : List RecordedAttempt} {store : RuntimeStateStore}

/-- One more attempt is one more in the history of its deployment, and in no other. -/
theorem recordAttempt (h : Recorded rounding attempts store) (attempt : RecordedAttempt) :
    Recorded rounding (attempts ++ [attempt])
      (store.recordAttempt rounding attempt.toAttemptFeedback) where
  histories deploymentId := by
    rw [RuntimeStateStore.history_recordAttempt, onDeployment_append]
    split_ifs with hid
    · rw [hid, h.histories]
      exact recentOutcomes_lastOf ..
    · exact h.histories deploymentId
  summaries deploymentId := by
    rw [onDeployment_append]
    split_ifs with hid
    · subst hid
      rw [RuntimeStateStore.get_recordAttempt_self, h.histories]
      show Summarises rounding _ (.of rounding (recentOutcomes _ attempt.failed) _)
      rw [recentOutcomes_lastOf]
      exact summarises_of ..
    · rw [RuntimeStateStore.get_recordAttempt_other hid]
      exact h.summaries deploymentId

/-- The end of a probe records nothing and loses nothing. -/
theorem probed (h : Recorded rounding attempts store) (probe : ProbeResult) :
    Recorded rounding attempts (store.probed probe) where
  histories := h.histories
  summaries deploymentId := by
    rw [RuntimeStateStore.summary_probed]
    exact h.summaries deploymentId

/-- **What one event preserves.** -/
theorem next {collector : RuntimeStateCollector} (h : Recorded rounding attempts collector.store)
    (registry : DeploymentRegistry lowercase) (event : CollectorEvent) :
    Recorded rounding (attempts ++ attemptsOf [event])
      (collector.next rounding ttlSeconds registry event).store := by
  cases event with
  | refresh observedAt =>
      rw [show attemptsOf [.refresh observedAt] = [] from rfl, List.append_nil]
      exact h
  | answered position answer latencyMs =>
      rw [show attemptsOf [.answered position answer latencyMs] = [] from rfl, List.append_nil]
      rcases collector.next_answered rounding ttlSeconds registry position answer latencyMs with
        hnext | ⟨probe, -, hnext⟩
      · rw [hnext]
        exact h
      · rw [hnext]
        exact h.probed _
  | cancelled position =>
      rw [show attemptsOf [.cancelled position] = [] from rfl, List.append_nil]
      exact h
  | attempted attempt => exact h.recordAttempt attempt

end Recorded

/-! ### Runs -/

/-- **What a run preserves.** -/
theorem Recorded.after {attempts : List RecordedAttempt} {collector : RuntimeStateCollector}
    (h : Recorded rounding attempts collector.store) (registry : DeploymentRegistry lowercase)
    (events : List CollectorEvent) :
    Recorded rounding (attempts ++ attemptsOf events)
      ((collectorMachine rounding ttlSeconds registry).after collector events).store := by
  induction events generalizing attempts collector with
  | nil =>
      rw [show attemptsOf [] = [] from rfl, List.append_nil]
      exact h
  | cons event rest ih =>
      rw [attemptsOf_cons, ← List.append_assoc]
      exact ih (h.next registry event)

/-- The state of a store is not touched by an attempt on another deployment. -/
def Untouched (rounding : Rounding) (store : RuntimeStateStore) : Prop :=
  ∀ (attempt : RecordedAttempt) (deploymentId : String), attempt.deploymentId ≠ deploymentId →
    (store.recordAttempt rounding attempt.toAttemptFeedback).get deploymentId =
      store.get deploymentId

/-- **Feedback is neither lost nor stale.**  After any attempts and probes, in any order, the
summary of each deployment is the one of its last twenty attempts, and an attempt on one
deployment leaves the states of the others alone. -/
theorem feedback_is_current (rounding : Rounding) (registry : DeploymentRegistry lowercase)
    (now ttlSeconds : ℚ) (events : List CollectorEvent) :
    let store := ((collectorMachine rounding ttlSeconds registry).after
      (.new registry now ttlSeconds) events).store
    (∀ deploymentId, Summarises rounding (onDeployment deploymentId (attemptsOf events))
      (store.get deploymentId).summary) ∧ Untouched rounding store := by
  intro store
  have hrecorded : Recorded rounding ([] ++ attemptsOf events) store :=
    (recorded_new registry now ttlSeconds).after registry events
  exact ⟨hrecorded.summaries, fun _ _ h => RuntimeStateStore.get_recordAttempt_other h⟩

end Inference
end Ryuk

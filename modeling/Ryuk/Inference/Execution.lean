import Ryuk.Foundation.Halting
import Ryuk.Inference.Ordering
import Ryuk.Workflows.Budget

/-!
# Executing a task

The router tries the deployments of the ranking one after another.  A call is a machine: each
step is the stretch from one decision of the loop to the next, with at most one wait in it.
What the step meets from outside is its event: how long the wait takes and what it gives, what
the clocks say, and what other tasks do to the shared budget and the shared runtime states in
the meantime.  Readings of the monotonic clock are exact seconds.
-/

namespace Ryuk

/-! ### The budget on a monotonic clock -/

namespace Workflows

/-- `budget.remaining_seconds()` at a reading in seconds. -/
def WorkflowBudget.remainingAt (budget : WorkflowBudget) (now : ℚ) : ℚ :=
  max 0 (budget.deadlineSeconds - (now - (budget.started.micros : ℚ) / 1000000))

/-- `budget.reserve_attempt()` at a reading in seconds: the budget after it, where it returns
`True`. -/
def WorkflowBudget.reserveAt (budget : WorkflowBudget) (now : ℚ) : Option WorkflowBudget :=
  if budget.remainingAt now ≤ 0 ∨ budget.maxAttempts ≤ budget.attempts then none
  else some { budget with attempts := budget.attempts + 1 }

theorem remainingSeconds_eq_remainingAt (budget : WorkflowBudget)
    (clock : Foundation.Datetime.Instant) :
    budget.remainingSeconds clock = budget.remainingAt ((clock.micros : ℚ) / 1000000) := by
  unfold WorkflowBudget.remainingSeconds WorkflowBudget.remainingAt
  rw [sub_div]

/-- On whole microseconds a reservation is that of the budget. -/
theorem reserveAttempt_eq_reserveAt (budget : WorkflowBudget)
    (clock : Foundation.Datetime.Instant) :
    budget.reserveAttempt clock =
      (.ok (budget.reserveAt ((clock.micros : ℚ) / 1000000)).isSome,
        (budget.reserveAt ((clock.micros : ℚ) / 1000000)).getD budget) := by
  unfold WorkflowBudget.reserveAttempt WorkflowBudget.reserveAt
  rw [remainingSeconds_eq_remainingAt]
  split_ifs
  · rfl
  · rfl

end Workflows

namespace Inference

open Foundation Foundation.Json
open Workflows (WorkflowBudget)

/-! ### The router -/

structure ExecutionPolicy where
  maxAttempts : Int
  defaultDeadlineSeconds : ℚ
  backoffSeconds : List ℚ
  attempts : 1 ≤ maxAttempts
  deadline : 0 < defaultDeadlineSeconds
  delays : ∀ delay ∈ backoffSeconds, 0 ≤ delay

/-- `ExecutionPolicy(max_attempts, default_deadline_seconds, backoff_seconds)`. -/
def ExecutionPolicy.new (maxAttempts : Int) (defaultDeadlineSeconds : ℚ)
    (backoffSeconds : List ℚ) : Except PyError ExecutionPolicy :=
  if hattempts : 1 ≤ maxAttempts then
    if hdeadline : 0 < defaultDeadlineSeconds then
      if hdelays : ∀ delay ∈ backoffSeconds, 0 ≤ delay then
        .ok ⟨maxAttempts, defaultDeadlineSeconds, backoffSeconds, hattempts, hdeadline, hdelays⟩
      else .error (.valueError "backoff_seconds cannot contain negative values.")
    else .error (.valueError "default_deadline_seconds must be positive.")
  else .error (.valueError "max_attempts must be positive.")

/-- The delay after an attempt: the last delay of the policy goes on for ever. -/
def ExecutionPolicy.delayAfter (policy : ExecutionPolicy) (attempts : Nat) : Option ℚ :=
  policy.backoffSeconds[min (attempts - 1) (policy.backoffSeconds.length - 1)]?

/-- `InferenceRouter`; the runtime states are shared with others and are part of the state. -/
structure InferenceRouter (lowercase : Lowercase) where
  registry : DeploymentRegistry lowercase
  policy : ExecutionPolicy
  circuitOpenDeploymentIds : List String

/-! ### What comes from outside -/

/-- What an awaited operation raises. -/
inductive Interruption where
  | timeout
  | cancelled
  | failure (failure : InferenceFailure)
  | raised (error : PyError)

/-- What the engine of a deployment does when it is asked for its identity. -/
inductive IdentityAnswer where
  | unsupported
  | discovered (answer : Except Interruption IdentityDiscovery)

/-- What the engine does with a task, under the typed contract or the older one. -/
inductive GenerationAnswer where
  | typed (answer : Except Interruption AdapterInferenceResult)
  | legacy (answer : Except Interruption InferenceResponse)

/-- What other tasks do while one waits. -/
structure Elsewhere where
  attempts : Int → Int
  outputTokens : Int → Int
  states : RuntimeStateStore → RuntimeStateStore

/-- Nothing. -/
def Elsewhere.quiet : Elsewhere := ⟨id, id, id⟩

/-- All that a step may meet.  `idle` seconds pass before the step, `elapsed` seconds would pass
in its wait; `wall` is the reading of the wall clock in `is_routable`. -/
structure Event where
  idle : ℚ≥0
  wall : ℚ
  elapsed : ℚ≥0
  elsewhere : Elsewhere
  available : Except Interruption Bool
  identity : IdentityAnswer
  generation : GenerationAnswer
  attemptId : String
  startedAt : ℚ
  finishedAt : ℚ
  cancelledAfter : Option ℚ≥0

/-! ### One execution -/

/-- `inspect_identity`. -/
def inspectIdentity (ref : DeploymentRef) : IdentityAnswer → Except Interruption IdentityInspection
  | .unsupported =>
      .ok ⟨assessModelIdentity ref.model none, some "identity_discovery_not_supported"⟩
  | .discovered (.ok discovery) =>
      .ok ⟨assessModelIdentity ref.model (some discovery.observation), none⟩
  | .discovered (.error (.failure _)) =>
      .ok ⟨assessModelIdentity ref.model none, some "identity_discovery_failed"⟩
  | .discovered (.error interruption) => .error interruption

/-- `IdentityMismatchFailure(deployment_id=..., context={"mismatched_fields": ...})`. -/
def identityMismatchOf (ref : DeploymentRef) (assessment : IdentityAssessment) :
    InferenceFailure :=
  { InferenceFailure.bare .identityMismatch with
    deploymentId := some ref.deploymentId.1
    context := { FailureContext.empty with
      details := [("mismatched_fields", .arr (assessment.mismatchedFields.map .str))] } }

/-- The refusal of `task_to_legacy_request`; the request itself only the adapter reads. -/
def taskToLegacyRequest (task : InferenceTask) : Except Interruption Unit :=
  match task.input with
  | .text _ => .ok ()
  | .chat _ => .error (.failure (InferenceFailure.bare .unsupportedTask))

/-- The finish reason an adapter of the older contract left in the metadata. -/
def legacyFinishReason (metadata : List (String × Json)) : FinishReason :=
  match lookup "sglang_finish_reason" metadata with
  | some (.str reason) =>
      if reason = "stop" then .stop
      else if reason = "length" then .length
      else if reason = "cancelled" then .cancelled
      else if reason = "abort" then .cancelled
      else .unknown
  | _ => .unknown

/-- `_normalize_legacy_response`. -/
def normalizeLegacyResponse (response : InferenceResponse) :
    Except PyError AdapterInferenceResult := do
  let usage ← TokenUsage.new response.inputTokens response.outputTokens
  let timing ← InferenceTiming.new response.latencyMs
  pure
    { output := response.text
      finishReason := legacyFinishReason response.metadata
      usage, timing
      adapterMetadata := response.metadata
      reasoning := none }

/-- The result of the engine, under either contract. -/
def generateWith (task : InferenceTask) :
    GenerationAnswer → Except Interruption AdapterInferenceResult
  | .typed answer => answer
  | .legacy answer => do
      taskToLegacyRequest task
      let response ← answer
      (normalizeLegacyResponse response).mapError .raised

/-- `_execute_task`. -/
def executeTask (ref : DeploymentRef) (task : InferenceTask) (identity : IdentityAnswer)
    (generation : GenerationAnswer) :
    Except Interruption (AdapterInferenceResult × IdentityAssessment) := do
  let inspection ← inspectIdentity ref identity
  if inspection.assessment.status = .mismatch then
    throw (.failure (identityMismatchOf ref inspection.assessment))
  else
    let result ← generateWith task generation
    pure (result, inspection.assessment)

/-- `_build_provenance`. -/
def buildProvenance (ref : DeploymentRef) (identity : IdentityAssessment) :
    DeploymentProvenance :=
  let effectiveModel := (identity.observed.map ModelIdentityObservation.model).or ref.model
  { deploymentId := ref.deploymentId.1
    engineName := ref.engineName.1
    engineVersion := ref.engineVersion.map Subtype.val
    servingRuntime := ref.servingRuntime.map Subtype.val
    modelArtifactId := effectiveModel.map fun model => model.artifactId.1
    modelRevision := effectiveModel.bind fun model => model.revision.map Subtype.val
    modelVerification := identity.status }

/-! ### The state of a call -/

/-- How a call ends: with a result, with a failure it raises, or with what an awaited operation
raised and the call does not catch. -/
inductive Ending where
  | returned (result : InferenceResult)
  | failed (failure : InferenceFailure)
  | escaped (interruption : Interruption)

/-- Where a call stands between two steps. -/
inductive Phase (lowercase : Lowercase) where
  | selecting
  | executing (deployment : RegisteredDeployment lowercase)
  | backingOff
  | finished (ending : Ending)

/-- What a call waits for. -/
inductive WaitKind where
  | availability
  | generation
  | backoff
  deriving DecidableEq

/-- A wait, from its start to its end. -/
structure Wait where
  kind : WaitKind
  started : ℚ
  ended : ℚ
  deriving DecidableEq

/-- The local variables of `generate_task`, the budget and the runtime states, and a record of
the reservations the call was granted and of its waits. -/
structure Execution (lowercase : Lowercase) where
  phase : Phase lowercase
  deploymentIndex : Nat
  attempts : List ExecutionAttempt
  lastFailure : Option InferenceFailure
  now : ℚ
  budget : Option WorkflowBudget
  states : Option RuntimeStateStore
  reservations : Nat
  waits : List Wait

variable {lowercase : Lowercase}

namespace Execution

/-- The state in which the loop starts. -/
def start (now : ℚ) (budget : Option WorkflowBudget) (states : Option RuntimeStateStore) :
    Execution lowercase where
  phase := .selecting
  deploymentIndex := 0
  attempts := []
  lastFailure := none
  now := now
  budget := budget
  states := states
  reservations := 0
  waits := []

/-- Time passes between two steps. -/
def idle (state : Execution lowercase) (seconds : ℚ≥0) : Execution lowercase :=
  { state with now := state.now + seconds }

/-- A wait, while others use the budget and the runtime states. -/
def wait (state : Execution lowercase) (kind : WaitKind) (seconds : ℚ) (elsewhere : Elsewhere) :
    Execution lowercase :=
  { state with
    now := state.now + seconds
    budget := state.budget.map fun budget =>
      { budget with
        attempts := elsewhere.attempts budget.attempts
        outputTokens := elsewhere.outputTokens budget.outputTokens }
    states := state.states.map elsewhere.states
    waits := state.waits ++ [⟨kind, state.now, state.now + seconds⟩] }

/-- `deployment_index += 1`. -/
def skip (state : Execution lowercase) : Execution lowercase :=
  { state with phase := .selecting, deploymentIndex := state.deploymentIndex + 1 }

def finish (state : Execution lowercase) (ending : Ending) : Execution lowercase :=
  { state with phase := .finished ending }

/-- `attempts.append(attempt)` and `_record_attempt(attempt)`. -/
def record (rounding : Rounding) (state : Execution lowercase) (attempt : ExecutionAttempt) :
    Execution lowercase :=
  { state with
    attempts := state.attempts ++ [attempt]
    states := state.states.map fun store => store.recordAttempt rounding attempt.feedback }

end Execution

/-- `_within_budget(awaitable, remaining)`: what it gives and how long it takes. -/
def withinBudget {α : Type} (remaining : ℚ) (elapsed : ℚ≥0) (answer : Except Interruption α) :
    Except Interruption α × ℚ :=
  if remaining ≤ 0 then (.error .timeout, 0)
  else if (elapsed : ℚ) ≤ remaining then (answer, elapsed)
  else (.error .timeout, remaining)

/-! ### The loop -/

/-- What does not change during a call. -/
structure Call (lowercase : Lowercase) where
  rounding : Rounding
  router : InferenceRouter lowercase
  task : InferenceTask
  deployments : List (RegisteredDeployment lowercase)
  routingDecision : RoutingDecision
  monotonicDeadline : ℚ

namespace Call

variable (call : Call lowercase) (state : Execution lowercase) (event : Event)
  (deployment : RegisteredDeployment lowercase)

/-- `remaining`: the rest until the deadline of the task or, with a budget, until the earlier of
the two deadlines. -/
def remaining : ℚ :=
  match state.budget with
  | none => call.monotonicDeadline - state.now
  | some budget => min (call.monotonicDeadline - state.now) (budget.remainingAt state.now)

/-- A failure of the router with the history and the ranking. -/
def failureOf (cls : FailureClass) : InferenceFailure :=
  (InferenceFailure.bare cls).carrying state.attempts call.routingDecision

/-- After the loop. -/
def exhausted : Execution lowercase :=
  let terminal := state.lastFailure.getD (InferenceFailure.bare .deploymentUnavailable)
  state.finish (.failed (terminal.carrying state.attempts call.routingDecision))

/-- The reservation of an attempt, and the attempt on the deployment. -/
def reserve : Execution lowercase :=
  match state.budget with
  | none => { state with phase := .executing deployment }
  | some budget =>
      match budget.reserveAt state.now with
      | some reserved =>
          { state with
            phase := .executing deployment
            budget := some reserved
            reservations := state.reservations + 1 }
      | none =>
          let failure := call.failureOf state .workflowBudgetExceeded
          state.finish (.failed
            { failure with
              context := { failure.context with
                budgetAttempts := some budget.attempts.toNat } })

/-- The availability check of a deployment without runtime states. -/
def probe : Execution lowercase :=
  if call.remaining state ≤ 0 then
    state.finish (.failed (call.failureOf state .deadlineExceeded))
  else
    let outcome := withinBudget (call.remaining state) event.elapsed event.available
    let waited := state.wait .availability outcome.2 event.elsewhere
    match outcome.1 with
    | .ok true => call.reserve waited deployment
    | .ok false => waited.skip
    | .error .timeout => waited.finish (.failed (call.failureOf waited .deadlineExceeded))
    | .error interruption => waited.finish (.escaped interruption)

/-- The head of the loop, up to the attempt. -/
def select : Execution lowercase :=
  match call.deployments[state.deploymentIndex]? with
  | none => call.exhausted state
  | some deployment =>
      if call.router.policy.maxAttempts ≤ state.attempts.length then call.exhausted state
      else if deployment.id ∈ call.router.circuitOpenDeploymentIds then state.skip
      else
        match state.states with
        | some store =>
            if (store.get deployment.id).isRoutable event.wall then call.reserve state deployment
            else state.skip
        | none => call.probe state event deployment

/-- An attempt that started at a reading of the clock and ends now. -/
def attempt (started : ℚ) (outcome : AttemptOutcome) (failure : Option FailureClass) :
    ExecutionAttempt where
  attemptId := event.attemptId
  sequence := state.attempts.length + 1
  startedAt := event.startedAt
  finishedAt := event.finishedAt
  durationMs := (state.now - started) * 1000
  outcome := outcome
  failureCode := failure.map FailureClass.code
  retryClassification := failure.map FailureClass.retry
  configuredDeployment := deployment.ref

/-- The attempt failed: it is appended and recorded. -/
def failedAttempt (started : ℚ) (failure : FailureClass) : Execution lowercase :=
  state.record call.rounding (attempt state event deployment started .failed (some failure))

/-- A timeout or a cancellation ends the call. -/
def abort (started : ℚ) (failure : FailureClass) : Execution lowercase :=
  let recorded := call.failedAttempt state event deployment started failure
  recorded.finish (.failed
    { call.failureOf recorded failure with
      deploymentId := some deployment.id
      attemptId := some event.attemptId })

/-- An inference failure of the attempt: its class says where to go on. -/
def fail (started : ℚ) (failure : InferenceFailure) : Execution lowercase :=
  -- `failure.deployment_id or ...`: an empty text counts as none
  let failure : InferenceFailure :=
    { failure with
      deploymentId := (failure.deploymentId.filter (· ≠ "")).or (some deployment.id)
      attemptId := (failure.attemptId.filter (· ≠ "")).or (some event.attemptId) }
  let recorded := { call.failedAttempt state event deployment started failure.cls with
    lastFailure := some failure }
  match failure.cls.retry with
  | .sameDeployment => { recorded with phase := .backingOff }
  | .otherDeployment =>
      { recorded with phase := .backingOff, deploymentIndex := recorded.deploymentIndex + 1 }
  | .never =>
      recorded.finish (.failed (failure.carrying recorded.attempts call.routingDecision))

/-- The result of the call. -/
def resultOf (adapter : AdapterInferenceResult) (identity : IdentityAssessment) :
    InferenceResult where
  output := adapter.output
  finishReason := adapter.finishReason
  usage := adapter.usage
  timing := adapter.timing
  provenance := buildProvenance deployment.ref identity
  adapterMetadata := adapter.adapterMetadata
  reasoning := adapter.reasoning
  attempts := state.attempts
  routingDecision := some call.routingDecision

/-- The tokens of a result are recorded, and the result is returned if they fit. -/
def settle (adapter : AdapterInferenceResult) (identity : IdentityAssessment) :
    Execution lowercase :=
  let returned := Ending.returned (call.resultOf state deployment adapter identity)
  match state.budget with
  | none => state.finish returned
  | some budget =>
      let outcome := budget.recordOutputTokens adapter.usage.outputTokens
      let state := { state with budget := some outcome.2 }
      match outcome.1 with
      | .ok true => state.finish returned
      | .ok false =>
          let failure := call.failureOf state .workflowBudgetExceeded
          state.finish (.failed
            { failure with
              context := { failure.context with
                budgetOutputTokens := some outcome.2.outputTokens } })
      | .error error => state.finish (.escaped (.raised error))

/-- The attempt and what becomes of it. -/
def execute : Execution lowercase :=
  let outcome := withinBudget (call.remaining state) event.elapsed
    (executeTask deployment.ref call.task event.identity event.generation)
  let waited := state.wait .generation outcome.2 event.elsewhere
  match outcome.1 with
  | .error .timeout => call.abort waited event deployment state.now .deadlineExceeded
  | .error .cancelled => call.abort waited event deployment state.now .cancelled
  | .error (.failure failure) => call.fail waited event deployment state.now failure
  | .error (.raised error) => waited.finish (.escaped (.raised error))
  | .ok (adapter, identity) =>
      let recorded := waited.record call.rounding
        (attempt waited event deployment state.now .succeeded none)
      call.settle recorded deployment adapter identity

/-- `asyncio.sleep(delay)`; the task may be cancelled while it sleeps. -/
def sleep (delay : ℚ) : Execution lowercase :=
  match event.cancelledAfter with
  | some seconds =>
      if (seconds : ℚ) < delay then
        (state.wait .backoff seconds event.elsewhere).finish (.escaped .cancelled)
      else { state.wait .backoff delay event.elsewhere with phase := .selecting }
  | none => { state.wait .backoff delay event.elsewhere with phase := .selecting }

/-- `_backoff`. -/
def backOff : Execution lowercase :=
  match call.router.policy.delayAfter state.attempts.length with
  | none => { state with phase := .selecting }
  | some delay =>
      if call.monotonicDeadline - state.now ≤ delay then
        state.finish (.failed (call.failureOf state .deadlineExceeded))
      else if delay = 0 then { state with phase := .selecting }
      else sleep state event delay

/-- One step of a call. -/
def step : Execution lowercase :=
  match state.phase with
  | .selecting => call.select (state.idle event.idle) event
  | .executing deployment => call.execute (state.idle event.idle) event deployment
  | .backingOff => call.backOff (state.idle event.idle) event
  | .finished _ => state

/-- A call as a machine. -/
def machine : Machine (Execution lowercase) Event Unit where
  step state event := ((), call.step state event)

@[simp] theorem machine_next : call.machine.next state event = call.step state event := rfl

/-- The number of steps after which a call has finished. -/
def bound : Nat :=
  3 * (call.deployments.length + call.router.policy.maxAttempts.toNat) + 3

end Call

/-! ### The call -/

/-- `_monotonic_deadline`, from a reading of each of the two clocks. -/
def monotonicDeadline (policy : ExecutionPolicy) (task : InferenceTask) (now wall : ℚ) : ℚ :=
  match task.deadlineAt with
  | none => now + policy.defaultDeadlineSeconds
  | some deadline => now + max (secondsOf deadline - wall) 0

/-- What a call starts with: the readings of the clocks, the budget and the runtime states. -/
structure Circumstances where
  clock : Clock
  now : ℚ
  wall : ℚ
  budget : Option WorkflowBudget
  states : Option RuntimeStateStore

/-- The ranking and the deadline of a call. -/
def prepare (rounding : Rounding) (router : InferenceRouter lowercase) (task : InferenceTask)
    (preferredEngine : Option String) (outset : Circumstances) :
    Except RouterError (Call lowercase) := do
  let (deployments, decision) ← orderedDeployments rounding outset.clock router.registry
    outset.states task preferredEngine
  pure
    { rounding, router, task, deployments
      routingDecision := decision
      monotonicDeadline := monotonicDeadline router.policy task outset.now outset.wall }

/-- `generate_task`, as the state it leaves. -/
def generateTask (rounding : Rounding) (router : InferenceRouter lowercase) (task : InferenceTask)
    (preferredEngine : Option String) (outset : Circumstances) (events : Nat → Event) :
    Execution lowercase :=
  let start := Execution.start outset.now outset.budget outset.states
  match prepare rounding router task preferredEngine outset with
  | .error (.failure failure) => start.finish (.failed failure)
  | .error (.raised error) => start.finish (.escaped (.raised error))
  | .ok call => call.machine.after start ((List.range call.bound).map events)

end Inference
end Ryuk

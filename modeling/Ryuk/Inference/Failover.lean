import Ryuk.Inference.AdapterErrors
import Ryuk.Inference.ExecutionHistory

/-!
# Answers of an upstream and the router

The conditions under which no answer of an upstream makes an adapter raise anything but an
`InferenceFailure`, and what follows for a call of the router: an attempt on any deployment is
recorded, and nothing but a cancellation in a pause escapes the call.
-/

namespace Ryuk
namespace Inference

open Foundation Foundation.Json Foundation.Text Foundation.Datetime

variable {lowercase : Lowercase}

/-! ### Answers an adapter can take -/

namespace Adapter

/-- A vLLM worker that is healthy by its status says so in a JSON object, if in JSON at all. -/
def HealthReadable (reader : JsonReader) (adapter : Adapter) (exchange : Exchange) : Prop :=
  match adapter with
  | .vllmWorker _ => ∀ chunks value, exchange = .answered 200 chunks none →
      reader.loads chunks.flatten = .ok value → value.isObject = true
  | .managedHttp _ | .sglang _ => True

/-- The body has no number that is too long to be read, where other errors are not caught. -/
def NumbersReadable (reader : JsonReader) (engine : SGLangEngine) (exchange : Exchange) : Prop :=
  ∀ status body message, exchange.Delivers engine.maxResponseBytes status body →
    reader.loadsText body ≠ .error (.valueError message)

/-- The identity a server gives is one that the dataclasses take. -/
def IdentityReadable (reader : JsonReader) (adapter : Adapter) (exchange : Exchange) : Prop :=
  match adapter with
  | .vllmWorker engine => ∀ status body fields,
      exchange.Delivers engine.maxResponseBytes status body →
      reader.loads body = .ok (.obj fields) → VLLMWorkerEngine.IdentityFits fields
  | .managedHttp engine => ∀ status body fields,
      exchange.Delivers engine.maxResponseBytes status body → status ≠ 202 →
      reader.loads body = .ok (.obj fields) → engine.IdentityFits fields
  | .sglang engine => NumbersReadable reader engine exchange

/-- The counts and the latency a worker gives are ones that the dataclasses take. -/
def GenerationReadable (reader : JsonReader) (adapter : Adapter) (exchange : Exchange) : Prop :=
  match adapter with
  | .vllmWorker engine => ∀ status body fields,
      exchange.Delivers engine.maxResponseBytes status body →
      reader.loads body = .ok (.obj fields) → VLLMWorkerEngine.GenerationFits fields
  | .managedHttp _ => True
  | .sglang engine => NumbersReadable reader engine exchange

variable {reader : JsonReader} {adapter : Adapter} {exchange : Exchange}

theorem isAvailable_iff :
    (∃ ready, adapter.isAvailable reader exchange = .ok ready) ↔
      adapter.HealthReadable reader exchange := by
  cases adapter with
  | vllmWorker engine => exact VLLMWorkerEngine.isAvailable_iff
  | managedHttp engine =>
      exact ⟨fun _ => trivial, fun _ => ManagedHTTPInferenceEngine.isAvailable_total exchange⟩
  | sglang engine => exact ⟨fun _ => trivial, fun _ => SGLangEngine.isAvailable_total exchange⟩

theorem discoverModelIdentity_iff {asRevision : Bool} {now : Instant} :
    Raises IsFailure (adapter.discoverModelIdentity reader asRevision now exchange) ↔
      adapter.IdentityReadable reader exchange := by
  cases adapter with
  | vllmWorker engine => exact VLLMWorkerEngine.discoverModelIdentity_iff
  | managedHttp engine => exact ManagedHTTPInferenceEngine.discoverModelIdentity_iff
  | sglang engine => exact SGLangEngine.discoverModelIdentity_iff

theorem generate_iff {task : InferenceTask} {model : String} {elapsedMs : ℚ≥0} :
    Raises IsFailure (adapter.generate reader task model elapsedMs exchange) ↔
      adapter.GenerationReadable reader exchange := by
  cases adapter with
  | vllmWorker engine => exact raises_map.trans VLLMWorkerEngine.generateTask_iff
  | managedHttp engine =>
      refine raises_map.trans ⟨fun _ => trivial, fun _ => ?_⟩
      exact ManagedHTTPInferenceEngine.generateTask_failures
  | sglang engine => exact raises_map.trans SGLangEngine.generate_iff

end Adapter

/-! ### Answers in a call of the router -/

/-- A count of a worker as the router keeps it.  A float is no whole number: it stands for any
count where nothing is added to it, and a budget adds the count of the output. -/
def CountedAs (added : Bool) : Json → Option Int → Prop
  | .null, found => found = none
  | .int value, found => found = some value
  | .bool value, found => found = some (if value then 1 else 0)
  | .float _, _ => added = false
  | .str _, _ | .arr _, _ | .obj _, _ => False

/-- A latency as the router keeps it; the clock's own milliseconds are exact. -/
def MeasuredAs : Json ⊕ ℚ≥0 → Option ℚ → Prop
  | .inr elapsedMs, found => found = some (elapsedMs : ℚ)
  | .inl (.int value), found => found = some (value : ℚ)
  | .inl _, found => found.isSome = true

/-- The result of a worker as the result the router goes on with. -/
structure WorkerResult.ShownAs (budgeted : Bool) (result : WorkerResult)
    (shown : AdapterInferenceResult) : Prop where
  output : shown.output = result.output
  finishReason : shown.finishReason = result.finishReason
  input : CountedAs false result.inputTokens shown.usage.inputTokens
  outputTokens : CountedAs budgeted result.outputTokens shown.usage.outputTokens
  timing : MeasuredAs result.totalMs shown.timing.totalMs
  metadata : shown.adapterMetadata = result.adapterMetadata
  reasoning : shown.reasoning = none

/-- What a worker does with a task, as the router sees it. -/
def WorkerShown (budgeted : Bool) :
    Except Interruption WorkerResult → Except Interruption AdapterInferenceResult → Prop
  | .error error, shown => shown = .error error
  | .ok result, shown => ∃ found, shown = .ok found ∧ result.ShownAs budgeted found

/-- The upstream of the deployment of one step, and its answers. -/
structure Upstream where
  adapter : Adapter
  health : Exchange
  identity : Exchange
  generation : Exchange
  deletion : Exchange
  now : Instant
  model : String
  elapsedMs : ℚ≥0

namespace Upstream

variable (reader : JsonReader) (task : InferenceTask) (budgeted : Bool) (upstream : Upstream)

/-- What the engine does with the task, under the contract of its adapter. -/
def Generates (answer : GenerationAnswer) : Prop :=
  match upstream.adapter with
  | .vllmWorker engine => ∃ shown, answer = .typed shown ∧
      WorkerShown budgeted
        (engine.generateTask reader upstream.elapsedMs upstream.generation) shown
  | .managedHttp engine =>
      answer = .typed (engine.generateTask reader task upstream.elapsedMs upstream.generation)
  | .sglang engine =>
      answer = .legacy
        (engine.generate reader upstream.model upstream.elapsedMs upstream.generation)

/-- An event in which the engine of the deployment does what its adapter makes of the answers.
A step that is cut off by its deadline ends with the timeout only if the request by which a
vLLM worker is told of it gets an answer. -/
structure Shown (event : Event) : Prop where
  available : event.available = upstream.adapter.isAvailable reader upstream.health
  identity : event.identity =
    .discovered (upstream.adapter.discoverModelIdentity reader false upstream.now upstream.identity)
  generation : upstream.Generates reader task budgeted event.generation
  deletion : ∀ engine, upstream.adapter = .vllmWorker engine →
    VLLMWorkerEngine.cancel upstream.deletion = none

/-- The adapter can take every answer. -/
structure Readable : Prop where
  health : upstream.adapter.HealthReadable reader upstream.health
  identity : upstream.adapter.IdentityReadable reader upstream.identity
  generation : upstream.adapter.GenerationReadable reader upstream.generation

end Upstream

/-! ### One attempt -/

section Attempt

variable {reader : JsonReader} {task : InferenceTask} {budgeted : Bool} {upstream : Upstream}
  {event : Event}

/-- A response whose counts were checked is normalized. -/
theorem normalizeLegacyResponse_total {engine : SGLangEngine} {model : String} {elapsedMs : ℚ≥0}
    {exchange : Exchange} {response : InferenceResponse}
    (h : engine.generate reader model elapsedMs exchange = .ok response) :
    ∃ result, normalizeLegacyResponse response = .ok result := by
  unfold SGLangEngine.generate at h
  obtain ⟨fields, -, hread⟩ := bind_eq_ok.mp h
  unfold SGLangEngine.readGeneration at hread
  split at hread
  · obtain ⟨inputTokens, hinput, hread⟩ := bind_eq_ok.mp hread
    obtain ⟨outputTokens, houtput, hread⟩ := bind_eq_ok.mp hread
    obtain ⟨finishReason, -, hread⟩ := bind_eq_ok.mp hread
    cases hread
    unfold normalizeLegacyResponse TokenUsage.new InferenceTiming.new
    have htotal : ∀ total ∈ some (elapsedMs : ℚ), 0 ≤ total := by simp
    rw [dif_pos (SGLangEngine.optionalNonnegativeInt_nonneg hinput),
      dif_pos (SGLangEngine.optionalNonnegativeInt_nonneg houtput), dif_pos htotal]
    exact ⟨_, rfl⟩
  · cases hread

/-- Under either contract the engine raises nothing but failures. -/
theorem generateWith_failures {requested : InferenceTask} {answer : GenerationAnswer}
    (hgenerates : upstream.Generates reader task budgeted answer)
    (hreadable : upstream.adapter.GenerationReadable reader upstream.generation) :
    Raises IsFailure (generateWith requested answer) := by
  unfold Upstream.Generates at hgenerates
  cases hadapter : upstream.adapter with
  | vllmWorker engine =>
      rw [hadapter] at hgenerates hreadable
      obtain ⟨shown, rfl, hshown⟩ := hgenerates
      have hraises : Raises IsFailure
          (engine.generateTask reader upstream.elapsedMs upstream.generation) :=
        VLLMWorkerEngine.generateTask_iff.mpr hreadable
      -- the router sees the errors of the worker as they are
      intro error herror
      cases hresult : engine.generateTask reader upstream.elapsedMs upstream.generation with
      | error found =>
          rw [hresult] at hshown
          obtain rfl : shown = .error found := hshown
          cases herror
          exact hraises error hresult
      | ok result =>
          rw [hresult] at hshown
          obtain ⟨found, rfl, -⟩ := hshown
          cases herror
  | managedHttp engine =>
      rw [hadapter] at hgenerates
      obtain rfl := hgenerates
      exact ManagedHTTPInferenceEngine.generateTask_failures
  | sglang engine =>
      rw [hadapter] at hgenerates hreadable
      obtain rfl := hgenerates
      have hraises : Raises IsFailure
          (engine.generate reader upstream.model upstream.elapsedMs upstream.generation) :=
        SGLangEngine.generate_iff.mpr hreadable
      have hrequest : Raises IsFailure (taskToLegacyRequest requested) := by
        unfold taskToLegacyRequest
        split
        · exact raises_ok ()
        · exact raises_error trivial
      show Raises IsFailure (taskToLegacyRequest requested >>= fun _ => _)
      apply hrequest.bind
      intro _
      rw [raises_bind_iff hraises]
      intro response hresponse
      exact unguarded_failures.mpr (normalizeLegacyResponse_total hresponse)

theorem inspectIdentity_failures {ref : DeploymentRef}
    {answer : Except Interruption IdentityDiscovery} (h : Raises IsFailure answer) :
    Raises IsFailure (inspectIdentity ref (.discovered answer)) := by
  cases answer with
  | ok discovery => exact raises_ok _
  | error error =>
      -- a failure to find the identity is noted, not raised
      cases error with
      | failure failure => exact raises_ok _
      | timeout => exact absurd (h _ rfl) id
      | cancelled => exact absurd (h _ rfl) id
      | raised error => exact absurd (h _ rfl) id

theorem executeTask_failures {ref : DeploymentRef} {requested : InferenceTask}
    (hshown : upstream.Shown reader task budgeted event) (hreadable : upstream.Readable reader) :
    Raises IsFailure (executeTask ref requested event.identity event.generation) := by
  rw [hshown.identity]
  unfold executeTask
  apply (inspectIdentity_failures (Adapter.discoverModelIdentity_iff.mpr hreadable.identity)).bind
  intro inspection
  apply Raises.ite
  · exact raises_throw trivial
  · apply (generateWith_failures hshown.generation hreadable.generation).bind
    intro result
    exact raises_pure _

/-- A wait ends with its answer or with a timeout. -/
theorem withinBudget_cases {α : Type} (remaining : ℚ) (elapsed : ℚ≥0)
    (answer : Except Interruption α) :
    (withinBudget remaining elapsed answer).1 = .error .timeout ∨
      (withinBudget remaining elapsed answer).1 = answer := by
  unfold withinBudget
  split_ifs
  · exact Or.inl rfl
  · exact Or.inr rfl
  · exact Or.inl rfl

end Attempt

/-! ### A whole call -/

namespace Call

variable {call : Call lowercase} {state : Execution lowercase} {event : Event}
  {deployment : RegisteredDeployment lowercase}

/-- Nothing has escaped but a cancellation. -/
def Contained (state : Execution lowercase) : Prop :=
  ∀ interruption, state.phase = .finished (.escaped interruption) → interruption = .cancelled

theorem contained_failed {failure : InferenceFailure} :
    Contained (state.finish (.failed failure)) := by
  intro interruption h
  cases h

theorem contained_returned {result : InferenceResult} :
    Contained (state.finish (.returned result)) := by
  intro interruption h
  cases h

theorem contained_skip : Contained state.skip := by
  intro interruption h
  cases h

theorem contained_reserve : Contained (call.reserve state deployment) := by
  unfold reserve
  cases state.budget with
  | none =>
      intro interruption h
      cases h
  | some budget =>
      dsimp only
      cases budget.reserveAt state.now with
      | none => exact contained_failed
      | some reserved =>
          intro interruption h
          cases h

theorem contained_probe (havailable : ∃ ready, event.available = .ok ready) :
    Contained (call.probe state event deployment) := by
  obtain ⟨ready, hready⟩ := havailable
  unfold probe
  split_ifs
  · exact contained_failed
  · dsimp only
    rcases withinBudget_cases (call.remaining state) event.elapsed event.available with
      houtcome | houtcome
    · rw [houtcome]
      exact contained_failed
    · rw [houtcome, hready]
      cases ready with
      | true => exact contained_reserve
      | false => exact contained_skip

theorem contained_select (havailable : ∃ ready, event.available = .ok ready) :
    Contained (call.select state event) := by
  unfold select
  cases call.deployments[state.deploymentIndex]? with
  | none => exact contained_failed
  | some deployment =>
      dsimp only
      split_ifs
      · exact contained_failed
      · exact contained_skip
      · cases state.states with
        | none => exact contained_probe havailable
        | some store =>
            dsimp only
            split_ifs
            · exact contained_reserve
            · exact contained_skip

theorem contained_backOff : Contained (call.backOff state event) := by
  unfold backOff
  cases call.router.policy.delayAfter state.attempts.length with
  | none =>
      intro interruption h
      cases h
  | some delay =>
      dsimp only
      split_ifs
      · exact contained_failed
      · intro interruption h
        cases h
      · unfold sleep
        cases event.cancelledAfter with
        | none =>
            intro interruption h
            cases h
        | some seconds =>
            dsimp only
            split_ifs
            · intro interruption h
              cases h
              rfl
            · intro interruption h
              cases h

/-- The counts of a result are none that a budget refuses with an error. -/
theorem contained_settle {adapter : AdapterInferenceResult} {identity : IdentityAssessment} :
    Contained (call.settle state deployment adapter identity) := by
  unfold settle
  dsimp only
  cases state.budget with
  | none => exact contained_returned
  | some budget =>
      dsimp only
      cases houtcome : (budget.recordOutputTokens adapter.usage.outputTokens).1 with
      | ok fits =>
          cases fits with
          | true => exact contained_returned
          | false => exact contained_failed
      | error error =>
          unfold Workflows.WorkflowBudget.recordOutputTokens at houtcome
          cases hcount : adapter.usage.outputTokens with
          | none =>
              rw [hcount] at houtcome
              cases houtcome
          | some count =>
              have hnonneg := adapter.usage.output count hcount
              rw [hcount] at houtcome
              dsimp only at houtcome
              rw [if_neg (not_lt.mpr hnonneg)] at houtcome
              split_ifs at houtcome

theorem contained_fail {started : ℚ} {failure : InferenceFailure} :
    Contained (call.fail state event deployment started failure) ∧
      ∃ attempt, (call.fail state event deployment started failure).attempts =
        state.attempts ++ [attempt] := by
  unfold fail
  dsimp only
  cases failure.cls.retry with
  | never => exact ⟨contained_failed, _, rfl⟩
  | sameDeployment =>
      refine ⟨?_, _, rfl⟩
      intro interruption h
      cases h
  | otherDeployment =>
      refine ⟨?_, _, rfl⟩
      intro interruption h
      cases h

/-- Whatever becomes of an attempt, it is recorded. -/
theorem contained_execute (hfailures : Raises IsFailure
      (executeTask deployment.ref call.task event.identity event.generation)) :
    Contained (call.execute state event deployment) ∧
      ∃ attempt, (call.execute state event deployment).attempts = state.attempts ++ [attempt] := by
  unfold execute
  dsimp only
  rcases withinBudget_cases (call.remaining state) event.elapsed
      (executeTask deployment.ref call.task event.identity event.generation) with
    houtcome | houtcome
  · rw [houtcome]
    exact ⟨contained_failed, _, rfl⟩
  · rw [houtcome]
    cases hresult : executeTask deployment.ref call.task event.identity event.generation with
    | error interruption =>
        cases interruption with
        | failure failure => exact contained_fail
        | timeout => exact absurd (hfailures _ hresult) id
        | cancelled => exact absurd (hfailures _ hresult) id
        | raised error => exact absurd (hfailures _ hresult) id
    | ok result =>
        obtain ⟨adapter, identity⟩ := result
        dsimp only
        exact ⟨contained_settle, _, settle_attempts⟩

section Run

variable {reader : JsonReader} {task : InferenceTask} {budgeted : Bool} {upstream : Upstream}

/-- **Step lemma.**  A step whose answers the adapter can take lets nothing escape, and if it is
an attempt, the attempt is recorded. -/
theorem step_contained (hshown : upstream.Shown reader task budgeted event)
    (hreadable : upstream.Readable reader) (h : Contained state) :
    Contained (call.step state event) ∧
      ∀ deployment, state.phase = .executing deployment →
        ∃ attempt, (call.step state event).attempts = state.attempts ++ [attempt] := by
  have havailable : ∃ ready, event.available = .ok ready := by
    rw [hshown.available]
    exact Adapter.isAvailable_iff.mpr hreadable.health
  unfold step
  cases hphase : state.phase with
  | selecting =>
      refine ⟨contained_select havailable, ?_⟩
      intro deployment hexecuting
      cases hexecuting
  | executing deployment =>
      have hexecuted := @contained_execute _ call (state.idle event.idle) event deployment
        (executeTask_failures hshown hreadable)
      refine ⟨hexecuted.1, ?_⟩
      intro _ _
      exact hexecuted.2
  | backingOff =>
      refine ⟨contained_backOff, ?_⟩
      intro deployment hexecuting
      cases hexecuting
  | finished ending =>
      refine ⟨h, ?_⟩
      intro deployment hexecuting
      cases hexecuting

end Run

/-- What answers that the adapters can take leave of a call: nothing but a cancellation in a
pause escapes, at no time, and every attempt that is begun is recorded. -/
structure Unaborted (call : Call lowercase) (start : Execution lowercase) (events : Nat → Event) :
    Prop where
  contained : ∀ steps, Contained (call.machine.after start ((List.range steps).map events))
  recorded : ∀ steps deployment,
    (call.machine.after start ((List.range steps).map events)).phase = .executing deployment →
      ∃ attempt, (call.machine.after start ((List.range (steps + 1)).map events)).attempts =
        (call.machine.after start ((List.range steps).map events)).attempts ++ [attempt]

/-- **Run lemma.** -/
theorem unaborted {reader : JsonReader} {task : InferenceTask} {budgeted : Bool}
    {upstreams : Nat → Upstream} {start : Execution lowercase} {events : Nat → Event}
    (hstart : Contained start)
    (hshown : ∀ place, (upstreams place).Shown reader task budgeted (events place))
    (hreadable : ∀ place, (upstreams place).Readable reader) :
    call.Unaborted start events := by
  have hstep : ∀ steps, call.machine.after start ((List.range (steps + 1)).map events) =
      call.step (call.machine.after start ((List.range steps).map events)) (events steps) := by
    intro steps
    rw [List.range_succ, List.map_append, Machine.after_append]
    rfl
  have hcontained : ∀ steps,
      Contained (call.machine.after start ((List.range steps).map events)) := by
    intro steps
    induction steps with
    | zero => exact hstart
    | succ steps ih =>
        rw [hstep]
        exact (step_contained (hshown steps) (hreadable steps) ih).1
  refine ⟨hcontained, ?_⟩
  intro steps deployment hexecuting
  rw [hstep]
  exact (step_contained (hshown steps) (hreadable steps) (hcontained steps)).2 deployment hexecuting

end Call

/-! ### Every answer -/

/-- An adapter returns or raises an `InferenceFailure` on exactly the answers it can take, and in
every call of the router that meets only such answers no answer ends the call unrecorded. -/
structure AnswersHandled (reader : JsonReader) : Prop where
  available : ∀ (adapter : Adapter) exchange,
    (∃ ready, adapter.isAvailable reader exchange = .ok ready) ↔
      adapter.HealthReadable reader exchange
  identity : ∀ (adapter : Adapter) asRevision now exchange,
    Raises IsFailure (adapter.discoverModelIdentity reader asRevision now exchange) ↔
      adapter.IdentityReadable reader exchange
  generation : ∀ (adapter : Adapter) task model elapsedMs exchange,
    Raises IsFailure (adapter.generate reader task model elapsedMs exchange) ↔
      adapter.GenerationReadable reader exchange
  routed : ∀ {lowercase : Lowercase} rounding (router : InferenceRouter lowercase) task
    preferredEngine outset call (upstreams : Nat → Upstream) events,
    prepare rounding router task preferredEngine outset = .ok call →
    (∀ place, (upstreams place).Shown reader task outset.budget.isSome (events place)) →
    (∀ place, (upstreams place).Readable reader) →
      call.Unaborted (Execution.start outset.now outset.budget outset.states) events

/-- **Upstream answers.** -/
theorem answers_handled : ∀ reader, AnswersHandled reader := by
  intro reader
  constructor
  · intro adapter exchange
    exact Adapter.isAvailable_iff
  · intro adapter asRevision now exchange
    exact Adapter.discoverModelIdentity_iff
  · intro adapter task model elapsedMs exchange
    exact Adapter.generate_iff
  · intro lowercase rounding router task preferredEngine outset call upstreams events _ hshown
      hreadable
    apply Call.unaborted _ hshown hreadable
    intro interruption h
    cases h

/-- The bytes of a text in ASCII. -/
def asciiBytes (text : String) : List UInt8 := text.toList.map fun character =>
  UInt8.ofNat character.toNat

/-- A reader on two documents: a list, and an object whose count is negative. -/
def sampleReader : JsonReader where
  loads body :=
    if body = asciiBytes "[]" then .ok (.arr [])
    else if body = asciiBytes
        "\x7b\"text\":\"a\",\"usage\":\x7b\"output_tokens\":-1\x7d\x7d" then
      .ok (.obj [("text", .str "a"), ("usage", .obj [("output_tokens", .int (-1))])])
    else .error .jsonDecodeError
  loadsText _ := .error .jsonDecodeError

/-- Both documents make the adapter of a worker raise an error of the language. -/
theorem worker_escapes :
    (¬ ∃ ready, VLLMWorkerEngine.isAvailable sampleReader
      (.answered 200 [asciiBytes "[]"] none) = .ok ready) ∧
    ¬ Raises IsFailure ((VLLMWorkerEngine.mk 16777216).generateTask sampleReader 1
      (.answered 200 [asciiBytes
        "\x7b\"text\":\"a\",\"usage\":\x7b\"output_tokens\":-1\x7d\x7d"] none)) := by
  constructor
  · have hraised : VLLMWorkerEngine.isAvailable sampleReader
        (.answered 200 [asciiBytes "[]"] none) = .error (.raised .attributeError) := rfl
    rw [hraised]
    rintro ⟨ready, h⟩
    cases h
  · intro h
    exact not_isFailure_raised (.valueError "output_tokens cannot be negative.") (h _ rfl)

end Inference
end Ryuk

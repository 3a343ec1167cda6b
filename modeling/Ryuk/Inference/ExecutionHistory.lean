import Ryuk.Inference.Execution

/-!
# The history of a call

However the engines behave, the attempts of a call are numbered from one, follow the ranking
without going back, and stay on a deployment only after a failure that asks for it.
-/

namespace Ryuk
namespace Inference

open Foundation
open Workflows (WorkflowBudget)

variable {lowercase : Lowercase}

/-- The history an ending carries. -/
def Ending.history : Ending → Option (List ExecutionAttempt)
  | .returned result => some result.attempts
  | .failed failure => failure.context.executionAttempts
  | .escaped _ => none

/-! ### Attempts and their places in the ranking -/

/-- An attempt at a place of the ranking lets the call go on at a place: it failed, and the place
is a later one, or the same one if the failure is to be tried again there. -/
def Leads (entry : Nat × ExecutionAttempt) (place : Nat) : Prop :=
  entry.2.outcome = .failed ∧
    (entry.2.retryClassification = some .sameDeployment ∧ entry.1 ≤ place ∨
      entry.2.retryClassification = some .otherDeployment ∧ entry.1 < place)

theorem Leads.mono {entry : Nat × ExecutionAttempt} {place later : Nat} (h : Leads entry place)
    (hle : place ≤ later) : Leads entry later := by
  obtain ⟨hfailed, ⟨hsame, hplace⟩ | ⟨hother, hplace⟩⟩ := h
  · exact ⟨hfailed, Or.inl ⟨hsame, hplace.trans hle⟩⟩
  · exact ⟨hfailed, Or.inr ⟨hother, hplace.trans_le hle⟩⟩

theorem Leads.le {entry : Nat × ExecutionAttempt} {place : Nat} (h : Leads entry place) :
    entry.1 ≤ place := by
  obtain ⟨-, ⟨-, hplace⟩ | ⟨-, hplace⟩⟩ := h
  · exact hplace
  · exact hplace.le

namespace Call

variable (call : Call lowercase)

/-- The deployment at a place of the ranking was attempted, and its circuit is not open. -/
def Attempted (entry : Nat × ExecutionAttempt) : Prop :=
  ∃ deployment, call.deployments[entry.1]? = some deployment ∧
    deployment.id ∉ call.router.circuitOpenDeploymentIds ∧
    entry.2.configuredDeployment = deployment.ref

/-- A history of attempts with their places in the ranking. -/
structure Logged (attempts : List ExecutionAttempt) (tried : List (Nat × ExecutionAttempt)) :
    Prop where
  entries : tried.map Prod.snd = attempts
  follows : tried.IsChain fun earlier later => Leads earlier later.1
  attempted : ∀ entry ∈ tried, call.Attempted entry
  numbered : attempts.map ExecutionAttempt.sequence = List.range' 1 attempts.length
  bounded : (attempts.length : Int) ≤ call.router.policy.maxAttempts

variable {call}

/-- One more attempt, at a place the last one leads to. -/
theorem Logged.append {attempts : List ExecutionAttempt} {tried : List (Nat × ExecutionAttempt)}
    {place : Nat} {deployment : RegisteredDeployment lowercase} {attempt : ExecutionAttempt}
    (h : call.Logged attempts tried) (hlast : ∀ last ∈ tried.getLast?, Leads last place)
    (hplace : call.deployments[place]? = some deployment)
    (hclosed : deployment.id ∉ call.router.circuitOpenDeploymentIds)
    (hroom : (attempts.length : Int) < call.router.policy.maxAttempts)
    (href : attempt.configuredDeployment = deployment.ref)
    (hsequence : attempt.sequence = attempts.length + 1) :
    call.Logged (attempts ++ [attempt]) (tried ++ [(place, attempt)]) where
  entries := by
    rw [List.map_append, h.entries]
    rfl
  follows := by
    rw [List.isChain_append]
    refine ⟨h.follows, List.IsChain.singleton _, ?_⟩
    intro last hmem entry hentry
    obtain rfl := Option.some.inj hentry
    exact hlast last hmem
  attempted := by
    intro entry hentry
    rcases List.mem_append.mp hentry with hold | hnew
    · exact h.attempted entry hold
    · rw [List.mem_singleton.mp hnew]
      exact ⟨deployment, hplace, hclosed, href⟩
  numbered := by
    rw [List.map_append, h.numbered, List.length_append, List.length_singleton,
      List.range'_1_concat, List.map_singleton, hsequence, Nat.add_comm 1]
  bounded := by
    rw [List.length_append, List.length_singleton]
    push_cast
    omega

/-! ### The invariant -/

/-- With a budget, the call was granted a reservation for each attempt and some more. -/
def Counted (budgeted : Bool) (state : Execution lowercase) (more : Nat) : Prop :=
  state.budget.isSome = budgeted ∧
    (budgeted = true → state.reservations = state.attempts.length + more)

/-- The history of a state, the last attempt of which leads to its place in the ranking. -/
def Resumable (call : Call lowercase) (state : Execution lowercase) : Prop :=
  ∃ tried, call.Logged state.attempts tried ∧
    ∀ last ∈ tried.getLast?, Leads last state.deploymentIndex

/-- The next attempt is to be on a deployment. -/
structure Chosen (call : Call lowercase) (state : Execution lowercase)
    (deployment : RegisteredDeployment lowercase) : Prop where
  place : call.deployments[state.deploymentIndex]? = some deployment
  closed : deployment.id ∉ call.router.circuitOpenDeploymentIds
  room : (state.attempts.length : Int) < call.router.policy.maxAttempts
  resumable : call.Resumable state

/-- A history the call ends with, and the reservations it was granted. -/
structure Complete (call : Call lowercase) (budgeted : Bool) (state : Execution lowercase) : Prop where
  logged : ∃ tried, call.Logged state.attempts tried
  counted : Counted budgeted state 0

/-- The result names the deployment of the last attempt, the only one that succeeded. -/
def Succeeded (attempts : List ExecutionAttempt) (result : InferenceResult) : Prop :=
  ∃ before last, attempts = before ++ [last] ∧
    (∀ attempt ∈ before, attempt.outcome = .failed) ∧ last.outcome = .succeeded ∧
    result.provenance.deploymentId = last.deploymentId ∧
    result.provenance.modelVerification ≠ .mismatch

/-- What an ending after the ranking says of the attempts.  A result and a failure carry all of
them, one for each reservation; what escapes carries none, and may leave the reservation of an
attempt that raised without its attempt. -/
def Carries (budgeted : Bool) (decision : RoutingDecision) (state : Execution lowercase) :
    Ending → Prop
  | .returned result => result.attempts = state.attempts ∧
      result.routingDecision = some decision ∧
      (budgeted = true → state.reservations = state.attempts.length)
  | .failed failure => failure.context.executionAttempts = some state.attempts ∧
      failure.context.routingDecision = some decision ∧
      (budgeted = true → state.reservations = state.attempts.length)
  | .escaped interruption => interruption ≠ .timeout ∧
      (budgeted = true → state.attempts.length ≤ state.reservations ∧
        state.reservations ≤ state.attempts.length + 1)

/-- What holds of a call that has finished. -/
structure Closed (call : Call lowercase) (budgeted : Bool) (state : Execution lowercase)
    (ending : Ending) : Prop where
  logged : ∃ tried, call.Logged state.attempts tried
  carries : Carries budgeted call.routingDecision state ending
  returned : ∀ result, ending = .returned result → Succeeded state.attempts result

/-- What holds of a call between two steps. -/
def Sound (call : Call lowercase) (budgeted : Bool) (state : Execution lowercase) : Prop :=
  match state.phase with
  | .selecting => call.Resumable state ∧ Counted budgeted state 0
  | .executing deployment => call.Chosen state deployment ∧ Counted budgeted state 1
  | .backingOff => call.Resumable state ∧ Counted budgeted state 0
  | .finished ending => call.Closed budgeted state ending

section Steps

variable {budgeted : Bool} {state waited : Execution lowercase} {event : Event}
  {deployment : RegisteredDeployment lowercase} {ending : Ending}

theorem Counted.wait {more : Nat} {kind : WaitKind} {seconds : ℚ} {elsewhere : Elsewhere}
    (h : Counted budgeted state more) :
    Counted budgeted (state.wait kind seconds elsewhere) more := by
  refine ⟨?_, h.2⟩
  rw [← h.1]
  exact Option.isSome_map

theorem Resumable.logged (h : call.Resumable state) : ∃ tried, call.Logged state.attempts tried :=
  h.imp fun _ htried => htried.1

theorem Resumable.complete (h : call.Resumable state) (hcounted : Counted budgeted state 0) :
    call.Complete budgeted state :=
  ⟨h.logged, hcounted⟩

theorem Resumable.skip (h : call.Resumable state) : call.Resumable state.skip := by
  obtain ⟨tried, hlogged, hlast⟩ := h
  exact ⟨tried, hlogged, fun last hmem => (hlast last hmem).mono (Nat.le_succ _)⟩

/-- The failures of the router carry the history of the state. -/
theorem sound_failed {failure : InferenceFailure} (h : call.Complete budgeted state)
    (hattempts : failure.context.executionAttempts = some state.attempts)
    (hdecision : failure.context.routingDecision = some call.routingDecision) :
    call.Sound budgeted (state.finish (.failed failure)) where
  logged := h.logged
  carries := ⟨hattempts, hdecision, h.counted.2⟩
  returned result hresult := by cases hresult

/-- So does a result. -/
theorem sound_returned {result : InferenceResult} (h : call.Complete budgeted state)
    (hattempts : result.attempts = state.attempts)
    (hdecision : result.routingDecision = some call.routingDecision)
    (hsucceeded : Succeeded state.attempts result) :
    call.Sound budgeted (state.finish (.returned result)) where
  logged := h.logged
  carries := ⟨hattempts, hdecision, h.counted.2⟩
  returned other hother := by
    cases hother
    exact hsucceeded

/-- What the call does not catch carries no history. -/
theorem sound_escaped {interruption : Interruption} {more : Nat} (hraised : interruption ≠ .timeout)
    (hlogged : ∃ tried, call.Logged state.attempts tried) (hcounted : Counted budgeted state more)
    (hmore : more ≤ 1) : call.Sound budgeted (state.finish (.escaped interruption)) where
  logged := hlogged
  carries := by
    refine ⟨hraised, fun hbudget => ?_⟩
    have hreserved := hcounted.2 hbudget
    show state.attempts.length ≤ state.reservations ∧
      state.reservations ≤ state.attempts.length + 1
    omega
  returned result hresult := by cases hresult

theorem sound_skip (h : call.Resumable state) (hcounted : Counted budgeted state 0) :
    call.Sound budgeted state.skip :=
  ⟨h.skip, hcounted⟩

theorem sound_exhausted (h : call.Resumable state) (hcounted : Counted budgeted state 0) :
    call.Sound budgeted (call.exhausted state) :=
  sound_failed (h.complete hcounted) rfl rfl

theorem sound_reserve (h : call.Chosen state deployment) (hcounted : Counted budgeted state 0) :
    call.Sound budgeted (call.reserve state deployment) := by
  unfold reserve
  cases hbudget : state.budget with
  | none =>
      have hnone : false = budgeted := by
        rw [← hcounted.1, hbudget]
        rfl
      refine ⟨⟨h.place, h.closed, h.room, h.resumable⟩, hnone, fun hsome => ?_⟩
      rw [← hnone] at hsome
      cases hsome
  | some budget =>
      dsimp only
      cases hreserved : budget.reserveAt state.now with
      | none => exact sound_failed (h.resumable.complete hcounted) rfl rfl
      | some reserved =>
          -- the reservation is the one the attempt will have used
          have hsome : true = budgeted := by
            rw [← hcounted.1, hbudget]
            rfl
          refine ⟨⟨h.place, h.closed, h.room, h.resumable⟩, hsome, fun htrue => ?_⟩
          show state.reservations + 1 = state.attempts.length + 1
          rw [hcounted.2 htrue]

theorem sound_probe (h : call.Chosen state deployment) (hcounted : Counted budgeted state 0) :
    call.Sound budgeted (call.probe state event deployment) := by
  unfold probe
  split_ifs
  · exact sound_failed (h.resumable.complete hcounted) rfl rfl
  · dsimp only
    generalize withinBudget (call.remaining state) event.elapsed event.available = outcome
    obtain ⟨answer, seconds⟩ := outcome
    have hwaited : call.Chosen (state.wait .availability seconds event.elsewhere) deployment :=
      ⟨h.place, h.closed, h.room, h.resumable⟩
    cases answer with
    | ok available =>
        cases available with
        | true => exact sound_reserve hwaited hcounted.wait
        | false => exact sound_skip hwaited.resumable hcounted.wait
    | error interruption =>
        cases interruption with
        | timeout => exact sound_failed (hwaited.resumable.complete hcounted.wait) rfl rfl
        | cancelled | failure failure | raised error =>
            exact sound_escaped (by simp) hwaited.resumable.logged hcounted.wait (by omega)

theorem sound_select (h : call.Resumable state) (hcounted : Counted budgeted state 0) :
    call.Sound budgeted (call.select state event) := by
  unfold select
  cases hplace : call.deployments[state.deploymentIndex]? with
  | none => exact sound_exhausted h hcounted
  | some deployment =>
      dsimp only
      split_ifs with hfull hopen
      · exact sound_exhausted h hcounted
      · exact sound_skip h hcounted
      · have hchosen : call.Chosen state deployment :=
          ⟨hplace, hopen, not_le.mp hfull, h⟩
        cases state.states with
        | none => exact sound_probe hchosen hcounted
        | some store =>
            dsimp only
            split_ifs
            · exact sound_reserve hchosen hcounted
            · exact sound_skip h hcounted

/-- What holds after an attempt was recorded: it is the last one, at the place of the state. -/
structure Latest (call : Call lowercase) (budgeted : Bool) (state : Execution lowercase)
    (attempt : ExecutionAttempt) : Prop where
  logged : ∃ tried, call.Logged state.attempts (tried ++ [(state.deploymentIndex, attempt)])
  counted : Counted budgeted state 0

theorem Latest.complete {attempt : ExecutionAttempt} (h : call.Latest budgeted state attempt) :
    call.Complete budgeted state := by
  obtain ⟨tried, hlogged⟩ := h.logged
  exact ⟨⟨_, hlogged⟩, h.counted⟩

/-- The reservation is used up by the attempt. -/
theorem Chosen.record {started : ℚ} {outcome : AttemptOutcome} {failure : Option FailureClass}
    (h : call.Chosen state deployment) (hcounted : Counted budgeted state 1) :
    call.Latest budgeted (state.record call.rounding
        (attempt state event deployment started outcome failure))
      (attempt state event deployment started outcome failure) := by
  obtain ⟨tried, hlogged, hlast⟩ := h.resumable
  refine ⟨⟨tried, hlogged.append hlast h.place h.closed h.room rfl rfl⟩, hcounted.1, ?_⟩
  intro hbudget
  show state.reservations = (state.attempts ++ [_]).length + 0
  rw [hcounted.2 hbudget, List.length_append, List.length_singleton]

/-- The last attempt of a log leads on, if it failed in a way that allows it. -/
theorem Latest.resumable {attempt : ExecutionAttempt} {place : Nat}
    (h : call.Latest budgeted state attempt) (hleads : Leads (state.deploymentIndex, attempt) place) :
    ∃ tried, call.Logged state.attempts tried ∧ ∀ last ∈ tried.getLast?, Leads last place := by
  obtain ⟨tried, hlogged⟩ := h.logged
  refine ⟨_, hlogged, fun last hmem => ?_⟩
  rw [List.getLast?_concat] at hmem
  obtain rfl := Option.some.inj hmem
  exact hleads

theorem sound_abort {started : ℚ} {failure : FailureClass} (h : call.Chosen state deployment)
    (hcounted : Counted budgeted state 1) :
    call.Sound budgeted (call.abort state event deployment started failure) :=
  sound_failed (h.record hcounted).complete rfl rfl

theorem sound_fail {started : ℚ} {failure : InferenceFailure} (h : call.Chosen state deployment)
    (hcounted : Counted budgeted state 1) :
    call.Sound budgeted (call.fail state event deployment started failure) := by
  have hlatest : call.Latest budgeted (call.failedAttempt state event deployment started failure.cls)
      (attempt state event deployment started .failed (some failure.cls)) := h.record hcounted
  unfold fail
  dsimp only
  cases hretry : failure.cls.retry with
  | never => exact sound_failed ⟨hlatest.complete.logged, hlatest.counted⟩ rfl rfl
  | sameDeployment =>
      have hsame : (attempt state event deployment started .failed
          (some failure.cls)).retryClassification = some .sameDeployment := congrArg some hretry
      exact ⟨hlatest.resumable ⟨rfl, Or.inl ⟨hsame, le_rfl⟩⟩, hlatest.counted⟩
  | otherDeployment =>
      have hother : (attempt state event deployment started .failed
          (some failure.cls)).retryClassification = some .otherDeployment := congrArg some hretry
      exact ⟨hlatest.resumable ⟨rfl, Or.inr ⟨hother, Nat.lt_succ_self _⟩⟩, hlatest.counted⟩

/-- A result within the budget is one of the awaited operation. -/
theorem withinBudget_ok {α : Type} {remaining : ℚ} {elapsed : ℚ≥0}
    {answer : Except Interruption α} {value : α}
    (h : (withinBudget remaining elapsed answer).1 = .ok value) : answer = .ok value := by
  unfold withinBudget at h
  split_ifs at h
  · exact h

/-- A task is executed only on a deployment whose identity does not contradict the
configuration. -/
theorem executeTask_ok {ref : DeploymentRef} {task : InferenceTask} {identity : IdentityAnswer}
    {generation : GenerationAnswer} {adapter : AdapterInferenceResult}
    {assessment : IdentityAssessment}
    (h : executeTask ref task identity generation = .ok (adapter, assessment)) :
    assessment.status ≠ .mismatch := by
  unfold executeTask at h
  cases hinspection : inspectIdentity ref identity with
  | error interruption =>
      rw [hinspection] at h
      cases h
  | ok inspection =>
      rw [hinspection] at h
      change (if inspection.assessment.status = .mismatch then _ else _) = _ at h
      split_ifs at h with hmismatch
      cases hgenerated : generateWith task generation with
      | error interruption =>
          rw [hgenerated] at h
          cases h
      | ok result =>
          rw [hgenerated] at h
          cases h
          exact hmismatch

/-- The attempts before the last one of a log failed. -/
theorem Logged.failed {attempts : List ExecutionAttempt} {tried : List (Nat × ExecutionAttempt)}
    {entry : Nat × ExecutionAttempt} (h : call.Logged attempts (tried ++ [entry])) :
    attempts = tried.map Prod.snd ++ [entry.2] ∧
      ∀ attempt ∈ tried.map Prod.snd, attempt.outcome = .failed := by
  constructor
  · rw [← h.entries, List.map_append]
    rfl
  · intro attempt hattempt
    obtain ⟨earlier, hmem, rfl⟩ := List.mem_map.mp hattempt
    obtain ⟨first, second, rfl⟩ := List.append_of_mem hmem
    -- some attempt comes right after it
    have hfollows := h.follows
    rw [List.append_assoc, List.cons_append, List.isChain_append] at hfollows
    cases second with
    | nil => exact (List.isChain_cons_cons.mp hfollows.2.1).1.1
    | cons next rest => exact (List.isChain_cons_cons.mp hfollows.2.1).1.1

theorem settle_attempts {adapter : AdapterInferenceResult} {identity : IdentityAssessment} :
    (call.settle state deployment adapter identity).attempts = state.attempts := by
  unfold settle
  dsimp only
  cases state.budget with
  | none => rfl
  | some budget =>
      dsimp only
      cases (budget.recordOutputTokens adapter.usage.outputTokens).1 with
      | ok fits =>
          cases fits with
          | true => rfl
          | false => rfl
      | error error => rfl

theorem sound_settle {started : ℚ} {adapter : AdapterInferenceResult}
    {identity : IdentityAssessment}
    (h : call.Latest budgeted state (attempt waited event deployment started .succeeded none))
    (hidentity : identity.status ≠ .mismatch) :
    call.Sound budgeted (call.settle state deployment adapter identity) := by
  obtain ⟨tried, hlogged⟩ := h.logged
  obtain ⟨hattempts, hfailed⟩ := hlogged.failed
  have hreturned : Succeeded state.attempts
      (call.resultOf state deployment adapter identity) :=
    ⟨_, _, hattempts, hfailed, rfl, rfl, hidentity⟩
  unfold settle
  dsimp only
  cases hbudget : state.budget with
  | none => exact sound_returned h.complete rfl rfl hreturned
  | some budget =>
      dsimp only
      have hcounted : ∀ spent : WorkflowBudget,
          Counted budgeted { state with budget := some spent } 0 :=
        fun spent => ⟨by rw [← h.counted.1, hbudget]; rfl, h.counted.2⟩
      cases (budget.recordOutputTokens adapter.usage.outputTokens).1 with
      | error error => exact sound_escaped (by simp) ⟨_, hlogged⟩ (hcounted _) (by omega)
      | ok fits =>
          cases fits with
          | true => exact sound_returned ⟨⟨_, hlogged⟩, hcounted _⟩ rfl rfl hreturned
          | false => exact sound_failed ⟨⟨_, hlogged⟩, hcounted _⟩ rfl rfl

theorem sound_execute (h : call.Chosen state deployment) (hcounted : Counted budgeted state 1) :
    call.Sound budgeted (call.execute state event deployment) := by
  unfold execute
  dsimp only
  cases houtcome : (withinBudget (call.remaining state) event.elapsed
      (executeTask deployment.ref call.task event.identity event.generation)).1 with
  | error interruption =>
      cases interruption with
      | timeout => exact sound_abort ⟨h.place, h.closed, h.room, h.resumable⟩ hcounted.wait
      | cancelled => exact sound_abort ⟨h.place, h.closed, h.room, h.resumable⟩ hcounted.wait
      | failure failure => exact sound_fail ⟨h.place, h.closed, h.room, h.resumable⟩ hcounted.wait
      | raised error =>
          -- the reservation of the attempt is not followed by its record
          exact sound_escaped (by simp) h.resumable.logged hcounted.wait (by omega)
  | ok result =>
      have hidentity := executeTask_ok (withinBudget_ok houtcome)
      exact sound_settle (Chosen.record ⟨h.place, h.closed, h.room, h.resumable⟩ hcounted.wait)
        hidentity

theorem sound_backOff (h : call.Resumable state) (hcounted : Counted budgeted state 0) :
    call.Sound budgeted (call.backOff state event) := by
  unfold backOff
  cases call.router.policy.delayAfter state.attempts.length with
  | none => exact ⟨h, hcounted⟩
  | some delay =>
      dsimp only
      split_ifs
      · exact sound_failed (h.complete hcounted) rfl rfl
      · exact ⟨h, hcounted⟩
      · have hslept : Counted budgeted (state.wait .backoff delay event.elsewhere) 0 := hcounted.wait
        unfold sleep
        cases event.cancelledAfter with
        | none => exact ⟨h, hslept⟩
        | some seconds =>
            dsimp only
            split_ifs
            · exact sound_escaped (by simp) h.logged hcounted.wait (by omega)
            · exact ⟨h, hslept⟩

/-- **Step lemma.** -/
theorem sound_step (h : call.Sound budgeted state) : call.Sound budgeted (call.step state event) := by
  unfold Sound at h
  unfold step
  cases hphase : state.phase with
  | selecting =>
      rw [hphase] at h
      exact sound_select h.1 h.2
  | executing deployment =>
      rw [hphase] at h
      exact sound_execute ⟨h.1.place, h.1.closed, h.1.room, h.1.resumable⟩ h.2
  | backingOff =>
      rw [hphase] at h
      exact sound_backOff h.1 h.2
  | finished ending =>
      dsimp only
      unfold Sound
      rw [hphase] at h ⊢
      exact h

end Steps

/-- The places of the ranking and the attempts that are left. -/
def left (call : Call lowercase) (state : Execution lowercase) : Nat :=
  (call.deployments.length - state.deploymentIndex) +
    (call.router.policy.maxAttempts.toNat - state.attempts.length)

/-- An upper bound for the steps to the end of the call. -/
def measure (call : Call lowercase) (state : Execution lowercase) : Nat :=
  match state.phase with
  | .selecting => 3 * call.left state + 2
  | .executing _ => 3 * call.left state + 1
  | .backingOff => 3 * call.left state + 3
  | .finished _ => 0

/-- The call has finished. -/
def Finished (state : Execution lowercase) : Prop := ∃ ending, state.phase = .finished ending

section Halting

variable {budgeted : Bool} {state : Execution lowercase} {event : Event}
  {deployment : RegisteredDeployment lowercase}

end Halting

end Call

/-! ### The call as a whole -/

section Whole

variable {rounding : Rounding} {router : InferenceRouter lowercase} {task : InferenceTask}
  {preferredEngine : Option String} {outset : Circumstances}

/-- How a call ends that fails before it ranks the deployments. -/
def RouterError.ending : RouterError → Ending
  | .failure found => .failed found
  | .raised found => .escaped (.raised found)

/-- The call is made for the ranking. -/
theorem prepare_ok {call : Call lowercase}
    (h : prepare rounding router task preferredEngine outset = .ok call) :
    call.router = router ∧ call.task = task ∧
      orderedDeployments rounding outset.clock router.registry outset.states task
        preferredEngine = .ok (call.deployments, call.routingDecision) := by
  unfold prepare at h
  cases hordered : orderedDeployments rounding outset.clock router.registry outset.states task
      preferredEngine with
  | error error =>
      rw [hordered] at h
      cases h
  | ok ranked =>
      rw [hordered] at h
      cases h
      exact ⟨rfl, rfl, rfl⟩

end Whole

end Inference
end Ryuk

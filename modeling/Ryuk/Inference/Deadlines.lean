import Ryuk.Inference.ExecutionHistory
import Ryuk.Inference.Tracking

/-!
# The shared deadline

A call under a budget is to end every wait by the deadline of the task and by that of the
budget.  Availability checks and attempts do; a pause between attempts is checked against the
deadline of the task only, so it ends in time exactly when what is left of the budget happens
to cover it.
-/

namespace Ryuk

namespace Workflows

/-- The reading of the clock at which nothing remains of a budget. -/
def WorkflowBudget.endsAt (budget : WorkflowBudget) : ℚ :=
  (budget.started.micros : ℚ) / 1000000 + budget.deadlineSeconds

theorem remainingAt_eq (budget : WorkflowBudget) (now : ℚ) :
    budget.remainingAt now = max 0 (budget.endsAt - now) := by
  unfold WorkflowBudget.remainingAt WorkflowBudget.endsAt
  congr 1
  ring

end Workflows

namespace Inference

open Foundation
open Workflows (WorkflowBudget)

variable {lowercase : Lowercase}

/-- A wait that starts before a limit ends by it. -/
def Wait.EndsBy (limit : ℚ) (wait : Wait) : Prop := wait.started < limit → wait.ended ≤ limit

namespace Call

variable {call : Call lowercase} {state : Execution lowercase} {event : Event}
  {deployment : RegisteredDeployment lowercase}

/-- The earlier of the deadline of the task and that of the budget. -/
def limit (call : Call lowercase) (budgetEnd : ℚ) : ℚ := min call.monotonicDeadline budgetEnd

/-- The state has a budget with a given end. -/
def EndsAt (budgetEnd : ℚ) (state : Execution lowercase) : Prop :=
  state.budget.map WorkflowBudget.endsAt = some budgetEnd

/-- How long a pause lasts: the delay of the policy, or less if the task is cancelled in it. -/
def pause (delay : ℚ) (event : Event) : ℚ :=
  match event.cancelledAfter with
  | none => delay
  | some seconds => min seconds delay

/-- What is left of the budget covers the pause that a call is about to make, if it makes one
and something is left. -/
def Covered (call : Call lowercase) (state : Execution lowercase) (event : Event) : Prop :=
  ∀ delay budget, call.router.policy.delayAfter state.attempts.length = some delay →
    delay < call.monotonicDeadline - state.now → state.budget = some budget →
    0 < budget.remainingAt state.now → pause delay event ≤ budget.remainingAt state.now

/-- A step covers its pause, when it is one that pauses. -/
def CoveredStep (call : Call lowercase) (state : Execution lowercase) (event : Event) : Prop :=
  match state.phase with
  | .backingOff => call.Covered (state.idle event.idle) event
  | _ => True

/-- All pauses of a run are covered. -/
def CoveredRun (call : Call lowercase) (state : Execution lowercase) (events : List Event) :
    Prop :=
  ∀ before event later, events = before ++ event :: later →
    call.CoveredStep (call.machine.after state before) event

/-! ### The end of the budget -/

section BudgetEnd

variable {budgetEnd : ℚ}

theorem EndsAt.wait {kind : WaitKind} {seconds : ℚ} {elsewhere : Elsewhere}
    (h : EndsAt budgetEnd state) : EndsAt budgetEnd (state.wait kind seconds elsewhere) := by
  unfold EndsAt at h ⊢
  show (state.budget.map _).map WorkflowBudget.endsAt = _
  rw [Option.map_map, ← h]
  rfl

theorem EndsAt.reserve (h : EndsAt budgetEnd state) :
    EndsAt budgetEnd (call.reserve state deployment) := by
  unfold EndsAt at h
  unfold Call.reserve
  cases hbudget : state.budget with
  | none =>
      rw [hbudget] at h
      cases h
  | some budget =>
      rw [hbudget] at h
      dsimp only
      cases hreserved : budget.reserveAt state.now with
      | none =>
          show state.budget.map WorkflowBudget.endsAt = _
          rw [hbudget]
          exact h
      | some reserved =>
          unfold WorkflowBudget.reserveAt at hreserved
          split_ifs at hreserved
          cases hreserved
          exact h

theorem EndsAt.settle {adapter : AdapterInferenceResult} {identity : IdentityAssessment}
    (h : EndsAt budgetEnd state) :
    EndsAt budgetEnd (call.settle state deployment adapter identity) := by
  unfold EndsAt at h
  unfold Call.settle
  dsimp only
  cases hbudget : state.budget with
  | none =>
      rw [hbudget] at h
      cases h
  | some budget =>
      rw [hbudget] at h
      -- recording tokens changes their count only
      have hends : ∀ count, (budget.recordOutputTokens count).2.endsAt = budget.endsAt := by
        intro count
        unfold WorkflowBudget.recordOutputTokens
        cases count with
        | none => rfl
        | some tokens =>
            dsimp only
            split_ifs
            · rfl
            · rfl
            · rfl
      have hspent : some (budget.recordOutputTokens adapter.usage.outputTokens).2.endsAt =
          some budgetEnd := by
        rw [hends]
        exact h
      dsimp only
      cases (budget.recordOutputTokens adapter.usage.outputTokens).1 with
      | error error => exact hspent
      | ok fits =>
          cases fits with
          | true => exact hspent
          | false => exact hspent

end BudgetEnd

/-! ### The waits of one step -/

section Waits

variable {budgetEnd : ℚ} {next : Execution lowercase} {fits : Prop}

/-- A step adds waits, which all end by a limit exactly when a condition holds. -/
def AddsWaits (limit : ℚ) (state next : Execution lowercase) (fits : Prop) : Prop :=
  ∃ added, next.waits = state.waits ++ added ∧ ((∀ wait ∈ added, wait.EndsBy limit) ↔ fits)

theorem addsWaits_none {limit : ℚ} (h : next.waits = state.waits) (hfits : fits) :
    AddsWaits limit state next fits := by
  refine ⟨[], ?_, ?_⟩
  · rw [h, List.append_nil]
  · exact ⟨fun _ => hfits, fun _ _ hmem => (List.not_mem_nil hmem).elim⟩

theorem addsWaits_one {limit : ℚ} {wait : Wait} (h : next.waits = state.waits ++ [wait])
    (hfits : wait.EndsBy limit ↔ fits) : AddsWaits limit state next fits := by
  refine ⟨[wait], h, ?_⟩
  rw [← hfits]
  simp

theorem withinBudget_le {α : Type} {remaining : ℚ} {elapsed : ℚ≥0}
    {answer : Except Interruption α} :
    (withinBudget remaining elapsed answer).2 ≤ max 0 remaining := by
  unfold withinBudget
  split_ifs with hnone hintime
  · exact le_max_left _ _
  · exact le_max_of_le_right hintime
  · exact le_max_right _ _

/-- A wait that is no longer than what remains ends by the earlier deadline. -/
theorem endsBy_of_remaining {kind : WaitKind} {seconds : ℚ} (hends : EndsAt budgetEnd state)
    (hseconds : seconds ≤ max 0 (call.remaining state)) :
    Wait.EndsBy (call.limit budgetEnd) ⟨kind, state.now, state.now + seconds⟩ := by
  obtain ⟨budget, hbudget, hend⟩ := Option.map_eq_some_iff.mp hends
  intro hstarted
  obtain ⟨htask, hshared⟩ := lt_min_iff.mp hstarted
  dsimp only at htask hshared ⊢
  -- before both deadlines what remains is the distance to the earlier one
  have hremaining : call.remaining state =
      min (call.monotonicDeadline - state.now) (budgetEnd - state.now) := by
    unfold remaining
    rw [hbudget]
    dsimp only
    rw [Workflows.remainingAt_eq, hend, max_eq_right (by linarith)]
  have hpositive : 0 ≤ call.remaining state := by
    rw [hremaining]
    exact le_min (by linarith) (by linarith)
  rw [max_eq_right hpositive, hremaining] at hseconds
  have hleft := min_le_left (call.monotonicDeadline - state.now) (budgetEnd - state.now)
  have hright := min_le_right (call.monotonicDeadline - state.now) (budgetEnd - state.now)
  unfold limit
  exact le_min (by linarith) (by linarith)

theorem reserve_waits : (call.reserve state deployment).waits = state.waits := by
  unfold reserve
  cases state.budget with
  | none => rfl
  | some budget =>
      dsimp only
      cases budget.reserveAt state.now with
      | none => rfl
      | some reserved => rfl

theorem settle_waits {adapter : AdapterInferenceResult} {identity : IdentityAssessment} :
    (call.settle state deployment adapter identity).waits = state.waits := by
  unfold settle
  dsimp only
  cases state.budget with
  | none => rfl
  | some budget =>
      dsimp only
      cases (budget.recordOutputTokens adapter.usage.outputTokens).1 with
      | error error => rfl
      | ok fits =>
          cases fits with
          | true => rfl
          | false => rfl

theorem fail_waits {started : ℚ} {failure : InferenceFailure} :
    (call.fail state event deployment started failure).waits = state.waits := by
  unfold fail
  dsimp only
  cases failure.cls.retry with
  | never => rfl
  | sameDeployment => rfl
  | otherDeployment => rfl

/-- Availability checks end in time. -/
theorem probe_addsWaits (h : EndsAt budgetEnd state) :
    AddsWaits (call.limit budgetEnd) state (call.probe state event deployment) True := by
  unfold probe
  split_ifs
  · exact addsWaits_none rfl trivial
  · have hends : Wait.EndsBy (call.limit budgetEnd) ⟨.availability, state.now, state.now +
        (withinBudget (call.remaining state) event.elapsed event.available).2⟩ :=
      endsBy_of_remaining h withinBudget_le
    apply addsWaits_one _ (iff_true_intro hends)
    dsimp only
    cases (withinBudget (call.remaining state) event.elapsed event.available).1 with
    | ok available =>
        cases available with
        | true => exact reserve_waits
        | false => rfl
    | error interruption =>
        cases interruption with
        | timeout => rfl
        | cancelled => rfl
        | failure failure => rfl
        | raised error => rfl

theorem select_addsWaits (h : EndsAt budgetEnd state) :
    AddsWaits (call.limit budgetEnd) state (call.select state event) True := by
  unfold select
  cases call.deployments[state.deploymentIndex]? with
  | none => exact addsWaits_none rfl trivial
  | some deployment =>
      dsimp only
      split_ifs
      · exact addsWaits_none rfl trivial
      · exact addsWaits_none rfl trivial
      · cases state.states with
        | none => exact probe_addsWaits h
        | some store =>
            dsimp only
            split_ifs
            · exact addsWaits_none reserve_waits trivial
            · exact addsWaits_none rfl trivial

/-- Attempts end in time. -/
theorem execute_addsWaits (h : EndsAt budgetEnd state) :
    AddsWaits (call.limit budgetEnd) state (call.execute state event deployment) True := by
  have hends : Wait.EndsBy (call.limit budgetEnd) ⟨.generation, state.now, state.now +
      (withinBudget (call.remaining state) event.elapsed
        (executeTask deployment.ref call.task event.identity event.generation)).2⟩ :=
    endsBy_of_remaining h withinBudget_le
  apply addsWaits_one _ (iff_true_intro hends)
  unfold execute
  dsimp only
  cases (withinBudget (call.remaining state) event.elapsed
      (executeTask deployment.ref call.task event.identity event.generation)).1 with
  | error interruption =>
      cases interruption with
      | timeout => rfl
      | cancelled => rfl
      | failure failure => exact fail_waits
      | raised error => rfl
  | ok result => exact settle_waits

theorem sleep_waits {delay : ℚ} : (sleep state event delay).waits =
    state.waits ++ [⟨.backoff, state.now, state.now + pause delay event⟩] := by
  unfold sleep pause
  cases event.cancelledAfter with
  | none => rfl
  | some seconds =>
      dsimp only
      split_ifs with hshort
      · rw [min_eq_left hshort.le]
        rfl
      · rw [min_eq_right (not_lt.mp hshort)]
        rfl

theorem pause_le (delay : ℚ) (event : Event) : pause delay event ≤ delay := by
  unfold pause
  cases event.cancelledAfter with
  | none => exact le_rfl
  | some seconds => exact min_le_right _ _

/-- **Pauses.**  A pause ends in time exactly when it is covered. -/
theorem backOff_addsWaits (h : EndsAt budgetEnd state) :
    AddsWaits (call.limit budgetEnd) state (call.backOff state event)
      (call.Covered state event) := by
  obtain ⟨budget, hbudget, hend⟩ := Option.map_eq_some_iff.mp h
  unfold backOff
  cases hdelay : call.router.policy.delayAfter state.attempts.length with
  | none =>
      apply addsWaits_none rfl
      intro delay found hfound
      rw [hdelay] at hfound
      cases hfound
  | some delay =>
      dsimp only
      split_ifs with hlate hzero
      · -- the call fails without a pause
        apply addsWaits_none rfl
        intro other found hother hless
        rw [hdelay] at hother
        cases hother
        exact absurd hless (not_lt.mpr hlate)
      · apply addsWaits_none rfl
        intro other found hother _ _ hpositive
        rw [hdelay] at hother
        cases hother
        rw [hzero]
        exact (pause_le 0 event).trans hpositive.le
      · apply addsWaits_one sleep_waits
        have hpause := pause_le delay event
        have hin := not_le.mp hlate
        have hdelays : 0 ≤ delay := by
          unfold ExecutionPolicy.delayAfter at hdelay
          exact call.router.policy.delays delay (List.mem_of_getElem? hdelay)
        constructor
        · intro hends other found hother _ hfound hpositive
          rw [hdelay] at hother
          cases hother
          rw [hbudget] at hfound
          cases hfound
          rw [Workflows.remainingAt_eq, hend] at hpositive ⊢
          have hleft : 0 < budgetEnd - state.now := by
            rcases lt_max_iff.mp hpositive with hfalse | hpos
            · exact absurd hfalse (lt_irrefl 0)
            · exact hpos
          have hended := hends (lt_min (by dsimp only; linarith) (by dsimp only; linarith))
          apply le_max_of_le_right
          have hright := hended.trans (min_le_right _ _)
          dsimp only at hright
          linarith
        · intro hcovered hstarted
          obtain ⟨-, hshared⟩ := lt_min_iff.mp hstarted
          dsimp only at hshared ⊢
          have hpositive : 0 < budgetEnd - state.now := by linarith
          have hcover := hcovered delay budget hdelay hin hbudget (by
            rw [Workflows.remainingAt_eq, hend]
            exact lt_max_of_lt_right hpositive)
          rw [Workflows.remainingAt_eq, hend, max_eq_right hpositive.le] at hcover
          exact le_min (by linarith) (by linarith)

end Waits

/-! ### Runs -/

section Runs

variable {budgetEnd : ℚ}

theorem EndsAt.probe (h : EndsAt budgetEnd state) :
    EndsAt budgetEnd (call.probe state event deployment) := by
  unfold Call.probe
  split_ifs
  · exact h
  · dsimp only
    generalize withinBudget (call.remaining state) event.elapsed event.available = outcome
    obtain ⟨answer, seconds⟩ := outcome
    have hwaited : EndsAt budgetEnd (state.wait .availability seconds event.elsewhere) := h.wait
    cases answer with
    | ok available =>
        cases available with
        | true => exact hwaited.reserve
        | false => exact hwaited
    | error interruption =>
        cases interruption with
        | timeout => exact hwaited
        | cancelled => exact hwaited
        | failure failure => exact hwaited
        | raised error => exact hwaited

theorem EndsAt.select (h : EndsAt budgetEnd state) :
    EndsAt budgetEnd (call.select state event) := by
  unfold Call.select
  cases call.deployments[state.deploymentIndex]? with
  | none => exact h
  | some deployment =>
      dsimp only
      split_ifs
      · exact h
      · exact h
      · cases state.states with
        | none => exact h.probe
        | some store =>
            dsimp only
            split_ifs
            · exact h.reserve
            · exact h

theorem EndsAt.fail {started : ℚ} {failure : InferenceFailure} (h : EndsAt budgetEnd state) :
    EndsAt budgetEnd (call.fail state event deployment started failure) := by
  unfold Call.fail
  dsimp only
  cases failure.cls.retry with
  | never => exact h
  | sameDeployment => exact h
  | otherDeployment => exact h

theorem EndsAt.execute (h : EndsAt budgetEnd state) :
    EndsAt budgetEnd (call.execute state event deployment) := by
  unfold Call.execute
  dsimp only
  generalize withinBudget (call.remaining state) event.elapsed
    (executeTask deployment.ref call.task event.identity event.generation) = outcome
  obtain ⟨answer, seconds⟩ := outcome
  have hwaited : EndsAt budgetEnd (state.wait .generation seconds event.elsewhere) := h.wait
  cases answer with
  | error interruption =>
      cases interruption with
      | timeout => exact hwaited
      | cancelled => exact hwaited
      | failure failure => exact hwaited.fail
      | raised error => exact hwaited
  | ok result =>
      have hrecorded : EndsAt budgetEnd ((state.wait .generation seconds event.elsewhere).record
          call.rounding (attempt (state.wait .generation seconds event.elsewhere) event deployment
            state.now .succeeded none)) := hwaited
      exact hrecorded.settle

theorem EndsAt.backOff (h : EndsAt budgetEnd state) :
    EndsAt budgetEnd (call.backOff state event) := by
  have hslept : ∀ seconds, EndsAt budgetEnd (state.wait .backoff seconds event.elsewhere) :=
    fun _ => h.wait
  unfold Call.backOff
  cases call.router.policy.delayAfter state.attempts.length with
  | none => exact h
  | some delay =>
      dsimp only
      split_ifs
      · exact h
      · exact h
      · unfold sleep
        cases event.cancelledAfter with
        | none => exact hslept delay
        | some seconds =>
            dsimp only
            split_ifs
            · exact hslept seconds
            · exact hslept delay

/-- The end of the budget does not move. -/
theorem EndsAt.step (h : EndsAt budgetEnd state) : EndsAt budgetEnd (call.step state event) := by
  have hidle : EndsAt budgetEnd (state.idle event.idle) := h
  unfold Call.step
  cases state.phase with
  | selecting => exact hidle.select
  | executing deployment => exact hidle.execute
  | backingOff => exact hidle.backOff
  | finished ending => exact h

/-- **Step lemma.**  The waits of a step end in time exactly when it covers its pause. -/
theorem step_addsWaits (h : EndsAt budgetEnd state) :
    AddsWaits (call.limit budgetEnd) state (call.step state event)
      (call.CoveredStep state event) := by
  have hidle : EndsAt budgetEnd (state.idle event.idle) := h
  unfold step CoveredStep
  cases state.phase with
  | selecting => exact select_addsWaits hidle
  | executing deployment => exact execute_addsWaits hidle
  | backingOff => exact backOff_addsWaits hidle
  | finished ending => exact addsWaits_none rfl trivial

theorem coveredRun_cons {rest : List Event} :
    call.CoveredRun state (event :: rest) ↔
      call.CoveredStep state event ∧ call.CoveredRun (call.step state event) rest := by
  constructor
  · intro h
    refine ⟨h [] event rest rfl, ?_⟩
    rintro before next later rfl
    exact h (event :: before) next later rfl
  · rintro ⟨hfirst, hrest⟩ before next later hsplit
    cases before with
    | nil =>
        cases hsplit
        exact hfirst
    | cons first others =>
        cases hsplit
        exact hrest others next later rfl

/-- **Run lemma.**  The waits of a run end in time exactly when all its pauses are covered. -/
theorem after_endsBy_iff (h : EndsAt budgetEnd state) (events : List Event) :
    (∀ wait ∈ (call.machine.after state events).waits, wait.EndsBy (call.limit budgetEnd)) ↔
      (∀ wait ∈ state.waits, wait.EndsBy (call.limit budgetEnd)) ∧
        call.CoveredRun state events := by
  induction events generalizing state with
  | nil =>
      constructor
      · intro hwaits
        refine ⟨hwaits, fun before event later hsplit => ?_⟩
        exact absurd hsplit.symm (List.append_ne_nil_of_right_ne_nil _ (List.cons_ne_nil _ _))
      · exact And.left
  | cons event rest ih =>
      have hadds : AddsWaits (call.limit budgetEnd) state (call.step state event)
          (call.CoveredStep state event) := step_addsWaits h
      obtain ⟨added, hadded, hfits⟩ := hadds
      have hsplit : (∀ wait ∈ (call.step state event).waits,
          wait.EndsBy (call.limit budgetEnd)) ↔
          (∀ wait ∈ state.waits, wait.EndsBy (call.limit budgetEnd)) ∧
            call.CoveredStep state event := by
        rw [hadded, List.forall_mem_append, hfits]
      rw [Machine.after_cons, machine_next, ih h.step, hsplit, coveredRun_cons, and_assoc]

end Runs

end Call

/-! ### The call as a whole -/

/-- The deadline of a prepared call is that of its task. -/
theorem prepare_deadline {rounding : Rounding} {router : InferenceRouter lowercase}
    {task : InferenceTask} {preferredEngine : Option String} {outset : Circumstances}
    {call : Call lowercase} (h : prepare rounding router task preferredEngine outset = .ok call) :
    call.monotonicDeadline = monotonicDeadline router.policy task outset.now outset.wall := by
  unfold prepare at h
  obtain ⟨ranked, hranked⟩ : ∃ ranked, orderedDeployments rounding outset.clock router.registry
      outset.states task preferredEngine = .ok ranked := by
    cases hordered : orderedDeployments rounding outset.clock router.registry outset.states task
        preferredEngine with
    | ok ranked => exact ⟨ranked, rfl⟩
    | error error =>
        rw [hordered] at h
        cases h
  rw [hranked] at h
  cases h
  rfl

/-- **The shared deadline.**  Every wait of a call under a budget that starts before both
deadlines ends by the earlier one, exactly when what is left of the budget covers every pause
between attempts. -/
theorem generateTask_endsBy_iff (rounding : Rounding) (router : InferenceRouter lowercase)
    (task : InferenceTask) (preferredEngine : Option String) (outset : Circumstances)
    (budget : WorkflowBudget) (events : Nat → Event) :
    (∀ wait ∈ (generateTask rounding router task preferredEngine
        { outset with budget := some budget } events).waits,
      wait.EndsBy (min (monotonicDeadline router.policy task outset.now outset.wall)
        budget.endsAt)) ↔
    ∀ call, prepare rounding router task preferredEngine { outset with budget := some budget } =
        .ok call →
      call.CoveredRun (Execution.start outset.now (some budget) outset.states)
        ((List.range call.bound).map events) := by
  unfold generateTask
  cases hprepare : prepare rounding router task preferredEngine
      { outset with budget := some budget } with
  | error error =>
      constructor
      · intro _ call hcall
        cases hcall
      · intro _ wait hwait
        cases error with
        | failure failure => exact (List.not_mem_nil hwait).elim
        | raised error => exact (List.not_mem_nil hwait).elim
  | ok call =>
      have hstart : Call.EndsAt budget.endsAt
          (Execution.start outset.now (some budget) outset.states : Execution lowercase) := rfl
      rw [← prepare_deadline hprepare]
      apply (Call.after_endsBy_iff hstart ((List.range call.bound).map events)).trans
      constructor
      · rintro ⟨-, hcovered⟩ other hother
        cases hother
        exact hcovered
      · intro hcovered
        exact ⟨fun _ hwait => (List.not_mem_nil hwait).elim, hcovered call rfl⟩

/-! ### A pause beyond the budget -/

/-- A deployment that supports text. -/
def textMock : RegisteredDeployment asciiLowercase :=
  { mockOne with
    capabilities := ⟨some ⟨[.text], none⟩, none, none, none, none, none, none, none, none⟩ }

theorem noDeadline : ∀ deadline ∈ (none : Option Datetime.DateTime),
    deadline.utcoffset.isSome = true := by simp

theorem hello_notBlank : Foundation.Text.isBlank "hello" = false := by decide

theorem requestOne_notBlank : Foundation.Text.isBlank "request-1" = false := by decide

/-- A task without requirements and without a deadline. -/
def greeting : InferenceTask where
  input := .text ⟨⟨"hello", hello_notBlank⟩⟩
  generation := ⟨none, .int 0, noTokens_positive, zero_inRange⟩
  requirements := ⟨none, none, none, false, false, none, none, none, false, noTokens_positive⟩
  trace := ⟨⟨"request-1", requestOne_notBlank⟩, none⟩
  deadlineAt := none
  aware := noDeadline

/-- Three attempts, two minutes, and pauses of five seconds. -/
def patientPolicy : ExecutionPolicy where
  maxAttempts := 3
  defaultDeadlineSeconds := 120
  backoffSeconds := [5]
  attempts := by norm_num
  deadline := by norm_num
  delays := by norm_num

/-- One second in all. -/
def secondBudget : WorkflowBudget where
  deadlineSeconds := 1
  maxAttempts := 3
  maxOutputTokens := none
  started := ⟨0, by decide⟩
  attempts := 0
  outputTokens := 0
  checked := rfl

/-- The engine is available and fails at once, in a way that lets others be tried. -/
def failingEvent : Event where
  idle := 0
  wall := 0
  elapsed := 0
  elsewhere := Elsewhere.quiet
  available := .ok true
  identity := .unsupported
  generation := .typed (.error (.failure (InferenceFailure.bare .generation)))
  attemptId := "attempt-1"
  startedAt := 0
  finishedAt := 0
  cancelledAfter := none

def textRegistry : DeploymentRegistry asciiLowercase where
  deployments := Dict.empty.set textMock.key textMock
  keyed := by
    intro entry hentry
    rcases Dict.mem_set.mp hentry with rfl | ⟨-, hold⟩
    · rfl
    · cases hold

/-- A call under a budget of one second that pauses for five. -/
def longPause : Execution asciiLowercase :=
  generateTask Rounding.exact ⟨textRegistry, patientPolicy, []⟩ greeting none
    ⟨⟨fun _ => 0, fun _ => 0, fun _ => 0⟩, 0, 0, some secondBudget, none⟩ fun _ => failingEvent

theorem longPause_waits :
    longPause.waits = [⟨.availability, 0, 0⟩, ⟨.generation, 0, 0⟩, ⟨.backoff, 0, 5⟩] := by
  decide +kernel

/-- The pause starts before both deadlines and ends four seconds after that of the budget. -/
theorem longPause_late :
    ¬ ∀ wait ∈ longPause.waits,
      wait.EndsBy (min (monotonicDeadline patientPolicy greeting 0 0) secondBudget.endsAt) := by
  intro hwaits
  have hmem : (⟨.backoff, 0, 5⟩ : Wait) ∈ longPause.waits := by
    rw [longPause_waits]
    simp
  have hlimit : min (monotonicDeadline patientPolicy greeting 0 0) secondBudget.endsAt = 1 := by
    decide +kernel
  have hlate := hwaits _ hmem
  rw [hlimit] at hlate
  have hended : (5 : ℚ) ≤ 1 := hlate (by norm_num)
  norm_num at hended

end Inference
end Ryuk

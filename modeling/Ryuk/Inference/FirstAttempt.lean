import Ryuk.Inference.ExecutionHistory
import Ryuk.Inference.Preference

/-!
# The first attempt

`firstTried` says which deployment of an order is tried first; here it is shown of the loop of
`generate_task`.  As long as nothing has been attempted, every deployment before the one whose
turn it is was passed over, and the shared runtime states are those the call began with.  So
the first attempt of a call is on the deployment `firstTried` names (`generateTask_first`),
which is one of the preferred engine while one of its deployments can be tried
(`generateTask_first_preferred`).
-/

namespace Ryuk
namespace Inference

open Foundation
open Workflows (WorkflowBudget)

variable {lowercase : Lowercase}

namespace Call

variable (call : Call lowercase) (states : Option RatedStore) (now : ℚ)
  (available : RegisteredDeployment lowercase → Bool)

/-- What a step reads while nothing changes: the wall clock shows one instant, and the
deployment whose turn it is says whether it is available. -/
structure ReadsAt (state : Execution lowercase) (event : Event) : Prop where
  wall : event.wall = now
  answer : ∀ deployment, call.deployments[state.deploymentIndex]? = some deployment →
    event.available = .ok (available deployment)

/-- The deployment that is tried first. -/
def first : Option (RegisteredDeployment lowercase) :=
  firstTried call.router.circuitOpenDeploymentIds states now available call.deployments

/-- Every deployment before the one whose turn it is was passed over. -/
structure Skipped (state : Execution lowercase) : Prop where
  unchanged : state.states = states.map RatedStore.store
  before : ∀ deployment ∈ call.deployments.take state.deploymentIndex,
    isReady call.router.circuitOpenDeploymentIds states now available deployment = false

/-- A call before its first attempt. -/
def Opening (state : Execution lowercase) : Prop :=
  match state.phase with
  | .selecting => call.Skipped states now available state
  | .executing deployment => call.first states now available = some deployment
  | .backingOff => False
  | .finished _ => True

/-- The first attempt of a call, once there is one, is on the deployment that is tried first. -/
def Begins (state : Execution lowercase) : Prop :=
  match state.attempts with
  | [] => call.Opening states now available state
  | attempt :: _ => ∃ chosen, call.first states now available = some chosen ∧
      attempt.configuredDeployment = chosen.ref

section Steps

variable {call : Call lowercase} {states : Option RatedStore} {now : ℚ}
  {available : RegisteredDeployment lowercase → Bool} {state : Execution lowercase} {event : Event}
  {deployment : RegisteredDeployment lowercase}

/-! ### Attempts are appended -/

theorem reserve_attempts : (call.reserve state deployment).attempts = state.attempts := by
  unfold reserve
  cases state.budget with
  | none => rfl
  | some budget =>
      dsimp only
      cases budget.reserveAt state.now with
      | none => rfl
      | some reserved => rfl

theorem probe_attempts : (call.probe state event deployment).attempts = state.attempts := by
  unfold probe
  split_ifs
  · rfl
  · dsimp only
    split
    · exact reserve_attempts
    · rfl
    · rfl
    · rfl

theorem select_attempts : (call.select state event).attempts = state.attempts := by
  unfold select
  split
  · rfl
  · split_ifs
    · rfl
    · rfl
    · split
      · split_ifs
        · exact reserve_attempts
        · rfl
      · exact probe_attempts

theorem backOff_attempts : (call.backOff state event).attempts = state.attempts := by
  unfold backOff
  split
  · rfl
  · split_ifs
    · rfl
    · rfl
    · unfold sleep
      split
      · split_ifs
        · rfl
        · rfl
      · rfl

/-- An execution appends an attempt on its deployment, or ends the call without one. -/
theorem execute_attempts :
    ((call.execute state event deployment).attempts = state.attempts ∧
        Finished (call.execute state event deployment)) ∨
      ∃ attempt, (call.execute state event deployment).attempts = state.attempts ++ [attempt] ∧
        attempt.configuredDeployment = deployment.ref := by
  unfold execute
  dsimp only
  split
  · exact Or.inr ⟨_, rfl, rfl⟩
  · exact Or.inr ⟨_, rfl, rfl⟩
  · rename_i failure _
    right
    unfold fail
    dsimp only
    cases failure.cls.retry with
    | never => exact ⟨_, rfl, rfl⟩
    | sameDeployment => exact ⟨_, rfl, rfl⟩
    | otherDeployment => exact ⟨_, rfl, rfl⟩
  · exact Or.inl ⟨rfl, _, rfl⟩
  · exact Or.inr ⟨_, settle_attempts, rfl⟩

/-- A step keeps the attempts there are. -/
theorem step_attempts : ∃ more, (call.step state event).attempts = state.attempts ++ more := by
  unfold step
  split
  · exact ⟨[], by rw [select_attempts, List.append_nil]; rfl⟩
  · rcases @execute_attempts _ call (state.idle event.idle) event _ with ⟨hsame, -⟩ | ⟨attempt, hmore, -⟩
    · exact ⟨[], by rw [hsame, List.append_nil]; rfl⟩
    · exact ⟨[attempt], hmore⟩
  · exact ⟨[], by rw [backOff_attempts, List.append_nil]; rfl⟩
  · exact ⟨[], (List.append_nil _).symm⟩

/-! ### Deployments that are passed over -/

theorem Skipped.pass (h : call.Skipped states now available state)
    (hplace : call.deployments[state.deploymentIndex]? = some deployment)
    (hready : isReady call.router.circuitOpenDeploymentIds states now available deployment =
      false) : call.Opening states now available state.skip := by
  refine ⟨h.unchanged, fun other hother => ?_⟩
  have htake : call.deployments.take (state.deploymentIndex + 1) =
      call.deployments.take state.deploymentIndex ++ [deployment] := by
    rw [List.take_add_one, hplace]
    rfl
  rcases List.mem_append.mp (htake ▸ hother) with hearlier | hlast
  · exact h.before other hearlier
  · rw [List.mem_singleton.mp hlast]
    exact hready

/-- The first deployment that is not passed over is the one that is tried first. -/
theorem Skipped.first (h : call.Skipped states now available state)
    (hplace : call.deployments[state.deploymentIndex]? = some deployment)
    (hready : isReady call.router.circuitOpenDeploymentIds states now available deployment =
      true) : call.first states now available = some deployment := by
  obtain ⟨hindex, hget⟩ := List.getElem?_eq_some_iff.mp hplace
  unfold Call.first firstTried
  rw [List.find?_eq_some_iff_append]
  refine ⟨hready, call.deployments.take state.deploymentIndex,
    call.deployments.drop (state.deploymentIndex + 1), ?_, fun other hother => ?_⟩
  · rw [← hget, List.getElem_cons_drop, List.take_append_drop]
  · rw [h.before other hother]
    rfl

theorem opening_reserve (h : call.first states now available = some deployment) :
    call.Opening states now available (call.reserve state deployment) := by
  unfold reserve
  cases state.budget with
  | none => exact h
  | some budget =>
      dsimp only
      cases budget.reserveAt state.now with
      | none => trivial
      | some reserved => exact h

/-- Without runtime states the deployment is asked. -/
theorem opening_probe (h : call.Skipped none now available state)
    (hplace : call.deployments[state.deploymentIndex]? = some deployment)
    (hclosed : deployment.id ∉ call.router.circuitOpenDeploymentIds)
    (hreads : event.available = .ok (available deployment)) :
    call.Opening none now available (call.probe state event deployment) := by
  have hready : isReady call.router.circuitOpenDeploymentIds none now available deployment =
      available deployment := by
    unfold isReady
    rw [decide_eq_true hclosed, Bool.true_and]
  unfold probe
  split_ifs
  · trivial
  · rw [hreads]
    unfold withinBudget
    split_ifs
    · cases hanswer : available deployment with
      | true =>
          exact opening_reserve (h.first hplace (hready.trans hanswer))
      | false =>
          have hpassed : call.Skipped none now available state.skip :=
            h.pass hplace (hready.trans hanswer)
          refine ⟨?_, hpassed.before⟩
          show state.states.map event.elsewhere.states = none
          rw [h.unchanged]
          rfl
    · trivial

theorem opening_select (h : call.Skipped states now available state)
    (hreads : call.ReadsAt now available state event) :
    call.Opening states now available (call.select state event) := by
  unfold select
  cases hplace : call.deployments[state.deploymentIndex]? with
  | none => trivial
  | some deployment =>
      dsimp only
      split_ifs with hfull hopen
      · trivial
      · -- an open circuit is not ready
        apply h.pass hplace
        unfold isReady
        rw [decide_eq_false (not_not_intro hopen), Bool.false_and]
      · rw [h.unchanged]
        cases states with
        | none => exact opening_probe h hplace hopen (hreads.answer deployment hplace)
        | some states =>
            have hready : isReady call.router.circuitOpenDeploymentIds (some states) now available
                deployment = (states.store.get deployment.id).isRoutable now := by
              unfold isReady
              rw [decide_eq_true hopen, Bool.true_and]
            rw [Option.map_some]
            dsimp only
            rw [hreads.wall]
            split_ifs with hroutable
            · exact opening_reserve (h.first hplace (hready.trans hroutable))
            · rw [Bool.not_eq_true] at hroutable
              exact h.pass hplace (hready.trans hroutable)

theorem begins_nil (hnone : state.attempts = []) :
    call.Begins states now available state ↔ call.Opening states now available state := by
  unfold Begins
  rw [hnone]

theorem opening_finished (h : Finished state) : call.Opening states now available state := by
  obtain ⟨ending, hphase⟩ := h
  unfold Opening
  rw [hphase]
  trivial

theorem begins_execute (hnone : state.attempts = [])
    (h : call.first states now available = some deployment) :
    call.Begins states now available (call.execute state event deployment) := by
  rcases @execute_attempts _ call state event deployment with
    ⟨hsame, hfinished⟩ | ⟨attempt, hmore, href⟩
  · exact (begins_nil (hsame.trans hnone)).mpr (opening_finished hfinished)
  · unfold Begins
    rw [hmore, hnone]
    exact ⟨deployment, h, href⟩

/-- A step keeps how the call begins. -/
theorem begins_step (h : call.Begins states now available state)
    (hreads : call.ReadsAt now available state event) :
    call.Begins states now available (call.step state event) := by
  cases hattempts : state.attempts with
  | cons attempt rest =>
      obtain ⟨more, hmore⟩ := @step_attempts _ call state event
      unfold Begins at h ⊢
      rw [hattempts] at h
      rw [hmore, hattempts]
      exact h
  | nil =>
      rw [begins_nil hattempts] at h
      unfold Opening at h
      unfold step
      cases hphase : state.phase with
      | selecting =>
          rw [hphase] at h
          have hidle : call.Skipped states now available (state.idle event.idle) :=
            ⟨h.unchanged, h.before⟩
          have hnone : (call.select (state.idle event.idle) event).attempts = [] :=
            select_attempts.trans hattempts
          exact (begins_nil hnone).mpr (opening_select hidle ⟨hreads.wall, hreads.answer⟩)
      | executing deployment =>
          rw [hphase] at h
          exact begins_execute hattempts h
      | backingOff =>
          rw [hphase] at h
          exact h.elim
      | finished ending =>
          exact (begins_nil hattempts).mpr (opening_finished ⟨ending, hphase⟩)

end Steps
end Call

/-! ### The call -/

section Whole

variable {rounding : Rounding} {router : InferenceRouter lowercase} {task : InferenceTask}
  {preferredEngine : Option String} {outset : Circumstances} {states : Option RatedStore}
  {now : ℚ} {available : RegisteredDeployment lowercase → Bool} {events : Nat → Event}

/-- Every step of a call reads one instant. -/
def ReadsThroughout (call : Call lowercase) (outset : Circumstances) (now : ℚ)
    (available : RegisteredDeployment lowercase → Bool) (events : Nat → Event) : Prop :=
  ∀ step, call.ReadsAt now available
    (call.machine.after (Execution.start outset.now outset.budget outset.states)
      ((List.range step).map events)) (events step)

/-- **The first attempt.**  Whatever the engines answer and however the clocks and the budget go
on, the first attempt of a call is on the deployment that is tried first. -/
theorem generateTask_first {call : Call lowercase}
    (hprepare : prepare rounding router task preferredEngine outset = .ok call)
    (hstates : outset.states = states.map RatedStore.store)
    (hreads : ReadsThroughout call outset now available events) {attempt : ExecutionAttempt}
    {rest : List ExecutionAttempt}
    (hattempts : (generateTask rounding router task preferredEngine outset events).attempts =
      attempt :: rest) :
    ∃ chosen, firstTried router.circuitOpenDeploymentIds states now available call.deployments =
        some chosen ∧ attempt.configuredDeployment = chosen.ref := by
  obtain ⟨rfl, -, -⟩ := prepare_ok hprepare
  have hcall : generateTask rounding call.router task preferredEngine outset events =
      call.machine.after (Execution.start outset.now outset.budget outset.states)
        ((List.range call.bound).map events) := by
    unfold generateTask
    rw [hprepare]
  have hstart : call.Begins states now available
      (Execution.start outset.now outset.budget outset.states) :=
    ⟨hstates, fun deployment hmem => (List.not_mem_nil hmem).elim⟩
  have hstep : ∀ state event, call.Begins states now available state →
      call.ReadsAt now available state event →
      call.Begins states now available (call.machine.next state event) :=
    fun _ _ hbegins hread => Call.begins_step hbegins hread
  have hend := Machine.after_range hstep hstart events hreads call.bound
  rw [hcall] at hattempts
  unfold Call.Begins at hend
  rw [hattempts] at hend
  exact hend

/-- **The preferred engine is tried first.**  While an eligible deployment of the preferred
engine can be tried, the first attempt of a call is on a deployment of that engine. -/
theorem generateTask_first_preferred {call : Call lowercase} {name : String}
    {capability : String → ℚ} {favoured : RegisteredDeployment lowercase}
    (hprepare : prepare rounding router task (some name) outset = .ok call)
    (hclock : outset.clock = Clock.at capability now)
    (hstates : outset.states = states.map RatedStore.store)
    (hreads : ReadsThroughout call outset now available events)
    (hfavoured : favoured ∈ eligibleOf (Clock.at capability now) task router.registry)
    (hpreferred : isPreferred lowercase (some name) favoured.engineName = true)
    (hready : isReady router.circuitOpenDeploymentIds states now available favoured = true)
    {attempt : ExecutionAttempt} {rest : List ExecutionAttempt}
    (hattempts : (generateTask rounding router task (some name) outset events).attempts =
      attempt :: rest) :
    ∃ chosen : RegisteredDeployment lowercase,
      isPreferred lowercase (some name) chosen.engineName = true ∧
        attempt.configuredDeployment = chosen.ref := by
  obtain ⟨-, -, hordered⟩ := prepare_ok hprepare
  rw [hclock, hstates] at hordered
  obtain ⟨chosen, hchosen, href⟩ := generateTask_first hprepare hstates hreads hattempts
  obtain ⟨found, hfound, hwins⟩ := (preferenceWins_of_ordered hordered).tried
    router.circuitOpenDeploymentIds available favoured hfavoured hpreferred hready
  rw [hchosen] at hfound
  obtain rfl := Option.some.inj hfound
  exact ⟨chosen, hwins, href⟩

end Whole

end Inference
end Ryuk

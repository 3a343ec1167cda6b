import Ryuk.Inference.Ordering

/-!
# Routing scenarios

The evaluation of the routing policy on a recorded scenario: the candidates that are eligible
are ranked, the ranking is followed against the recorded outcomes, and it is compared with
the ranking of the reversed list and with those that leave one candidate out.
-/

namespace Ryuk
namespace Evaluation

open Foundation Inference

/-! ### Scenarios -/

/-- The recorded outcome of a deployment. -/
structure ScenarioOutcome where
  completed : Bool
  deadlineMet : Option Bool
  cost : Option Double
  latencyMs : Option Double

/-- A candidate of a scenario, before its place is known. -/
structure ScenarioCandidate where
  deploymentId : String
  engineName : String
  capabilities : DeploymentCapabilities
  profile : RoutingPolicyProfile
  runtime : Option PolicyRuntime
  outcome : Option ScenarioOutcome

structure Scenario where
  id : String
  task : InferenceTask
  candidates : List ScenarioCandidate
  preferredEngine : Option String
  expectedEligible : List String
  expectedSelected : Option String

structure ScenarioResult where
  scenarioId : String
  expectedEligible : List String
  actualEligible : List String
  expectedSelected : Option String
  selected : Option String
  attemptPlan : List String
  completed : Option Bool
  deadlineMet : Option Bool
  acceptedCost : Option Double
  latencyMs : Option Double
  failoverRecovered : Option Bool
  stable : Bool
  counterfactualSelections : List (String × Option String)

/-! ### Evaluation -/

/-- `_candidate(item, index)`. -/
def ScenarioCandidate.candidate (place : ScenarioCandidate × Nat) : PolicyCandidate where
  deploymentId := place.1.deploymentId
  engineName := place.1.engineName
  registrationIndex := place.2
  capabilities := place.1.capabilities
  profile := place.1.profile
  runtime := place.1.runtime

/-- The candidates that are eligible; the clock is read for each place. -/
def Scenario.eligible (scenario : Scenario) (clock : Int → ℚ) : List PolicyCandidate :=
  (scenario.candidates.zipIdx.map ScenarioCandidate.candidate).filter fun candidate =>
    (evaluateCapabilities (clock candidate.registrationIndex) scenario.task
      candidate.capabilities).eligible

/-- `outcomes[deployment_id]`; the last candidate of an id is in the dictionary. -/
def Scenario.outcomeOf (scenario : Scenario) (deploymentId : String) : Option ScenarioOutcome :=
  (scenario.candidates.reverse.find? fun item =>
    decide (item.deploymentId = deploymentId)).bind ScenarioCandidate.outcome

/-- What following a ranking against the outcomes leads to. -/
structure Followed where
  attemptPlan : List String
  completed : Option Bool
  deadlineMet : Option Bool
  cost : Option Double
  latencyMs : Option Double

/-- The loop over the ranking: deployments without an outcome are passed over, and the first
one that completed ends it. -/
def follow (outcomeOf : String → Option ScenarioOutcome) : List String → Followed
  | [] => ⟨[], none, none, none, none⟩
  | deploymentId :: rest =>
      match outcomeOf deploymentId with
      | none => follow outcomeOf rest
      | some outcome =>
          if outcome.completed then
            ⟨[deploymentId], some true, outcome.deadlineMet, outcome.cost, outcome.latencyMs⟩
          else
            let later := follow outcomeOf rest
            { later with
              attemptPlan := deploymentId :: later.attemptPlan
              completed := some (later.completed.getD false) }

/-- The selection without one candidate. -/
def counterfactual (lowercase : Lowercase) (rounding : Rounding) (scenario : Scenario)
    (eligible : List PolicyCandidate) (removed : PolicyCandidate) :
    Except PyError (String × Option String) := do
  -- every candidate is an object of its own, told apart by its place
  let remaining := eligible.filter fun item =>
    decide (item.registrationIndex ≠ removed.registrationIndex)
  let replay ← rankCandidates lowercase rounding scenario.task remaining scenario.preferredEngine
  pure (removed.deploymentId, replay.orderedDeploymentIds.head?)

/-- `_evaluate_scenario`. -/
def evaluateScenario (lowercase : Lowercase) (rounding : Rounding) (clock : Int → ℚ)
    (scenario : Scenario) : Except PyError ScenarioResult := do
  let eligible := scenario.eligible clock
  let decision ← rankCandidates lowercase rounding scenario.task eligible scenario.preferredEngine
  let followed := follow scenario.outcomeOf decision.orderedDeploymentIds
  let replay ← rankCandidates lowercase rounding scenario.task eligible.reverse
    scenario.preferredEngine
  let counterfactuals ← eligible.mapM (counterfactual lowercase rounding scenario eligible)
  pure
    { scenarioId := scenario.id
      expectedEligible := scenario.expectedEligible
      actualEligible := eligible.map PolicyCandidate.deploymentId
      expectedSelected := scenario.expectedSelected
      selected := decision.orderedDeploymentIds.head?
      attemptPlan := followed.attemptPlan
      completed := followed.completed
      deadlineMet := followed.deadlineMet
      acceptedCost := followed.cost
      latencyMs := followed.latencyMs
      failoverRecovered :=
        if 1 < followed.attemptPlan.length then some (decide (followed.completed = some true))
        else none
      stable := decide (replay.orderedDeploymentIds = decision.orderedDeploymentIds)
      counterfactualSelections := counterfactuals }

/-! ### The order of two scores -/

/-- One score stands before another: a larger total, or an equal one and a smaller
registration index. -/
def InOrder (candidates : List PolicyCandidate) (first second : RoutingScore) : Prop :=
  second.total < first.total ∨ (second.total = first.total ∧
    ∃ earlier ∈ candidates, ∃ later ∈ candidates, earlier.deploymentId = first.deploymentId ∧
      later.deploymentId = second.deploymentId ∧
      earlier.registrationIndex < later.registrationIndex)

section Slates

variable {lowercase : Lowercase} {rounding : Rounding} {task : InferenceTask}
  {preferred : Option String} {slate : Slate rounding}

/-- The ranking of a slate is in order, without ties. -/
theorem ranking_inOrder :
    (slate.ranking lowercase task preferred).Pairwise (InOrder slate.candidates) := by
  have hids : ((slate.ranking lowercase task preferred).map RoutingScore.deploymentId).Nodup :=
    slate.ranking_perm.nodup_iff.mpr slate.ids
  have hdistinct := List.pairwise_map.mp hids
  have hranked := Ranking.sortBy_ranked (rankKey slate.candidates)
    (slate.scores lowercase task preferred)
  refine List.Pairwise.imp_of_mem (fun {first second} hfirst hsecond hboth => ?_)
    (hranked.and hdistinct)
  obtain ⟨hkey, hne⟩ := hboth
  obtain ⟨earlier, hearlier, rfl⟩ := Slate.mem_ranking.mp hfirst
  obtain ⟨later, hlater, rfl⟩ := Slate.mem_ranking.mp hsecond
  rw [rankKey_scoreOf slate.ids hearlier, rankKey_scoreOf slate.ids hlater,
    Slate.candidateKey_le_iff] at hkey
  rcases hkey with hless | ⟨hequal, hindex⟩
  · exact Or.inl hless
  · refine Or.inr ⟨hequal, earlier, hearlier, later, hlater, rfl, rfl, ?_⟩
    apply lt_of_le_of_ne hindex
    intro hsame
    have hcandidates : earlier = later :=
      List.inj_on_of_nodup_map slate.indexes hearlier hlater hsame
    exact hne (by rw [hcandidates])

/-- The ranking of one slate: every candidate once and in order, whatever the order of the
list, and the same order among any of them. -/
structure StableOn (lowercase : Lowercase) (task : InferenceTask) (preferred : Option String)
    (slate : Slate rounding) : Prop where
  returns : ∃ decision,
    rankCandidates lowercase rounding task slate.candidates preferred = .ok decision ∧
    decision.orderedDeploymentIds = decision.candidates.map RoutingScore.deploymentId ∧
    decision.orderedDeploymentIds.Perm
      (slate.candidates.map PolicyCandidate.deploymentId) ∧
    (∀ scored ∈ decision.candidates, ∃ candidate ∈ slate.candidates,
      score lowercase rounding task preferred candidate = .ok scored) ∧
    decision.candidates.Pairwise (InOrder slate.candidates)
  reordered : ∀ others, List.Perm others slate.candidates →
    rankCandidates lowercase rounding task others preferred =
      rankCandidates lowercase rounding task slate.candidates preferred
  removed : ∀ rest, List.Subperm rest slate.candidates → ∃ decision shorter,
    rankCandidates lowercase rounding task slate.candidates preferred = .ok decision ∧
    rankCandidates lowercase rounding task rest preferred = .ok shorter ∧
    shorter.orderedDeploymentIds.Sublist decision.orderedDeploymentIds

theorem rankCandidates_of_perm {others : List PolicyCandidate}
    (h : others.Perm slate.candidates) :
    rankCandidates lowercase rounding task others preferred =
      rankCandidates lowercase rounding task slate.candidates preferred := by
  have hothers := Slate.rankCandidates_eq lowercase task preferred
    (slate.restrict others h.subperm)
  rw [Slate.ranking_of_perm h] at hothers
  rw [slate.rankCandidates_eq lowercase task preferred]
  exact hothers

theorem stableOn (lowercase : Lowercase) (task : InferenceTask) (preferred : Option String)
    (slate : Slate rounding) : StableOn lowercase task preferred slate := by
  have hrank := slate.rankCandidates_eq lowercase task preferred
  refine ⟨⟨_, hrank, rfl, slate.ranking_perm, ?_, ranking_inOrder⟩,
    fun others h => rankCandidates_of_perm h, ?_⟩
  · intro scored hscored
    obtain ⟨candidate, hmem, rfl⟩ := Slate.mem_ranking.mp hscored
    exact ⟨candidate, hmem, score_eq (slate.scorable candidate hmem)⟩
  · intro rest h
    exact ⟨_, _, hrank, Slate.rankCandidates_eq lowercase task preferred (slate.restrict rest h),
      (Slate.ranking_restrict h).map _⟩

/-- On a scenario whose eligible candidates are a slate the evaluation is stable. -/
theorem evaluateScenario_stable {scenario : Scenario} {clock : Int → ℚ}
    (h : slate.candidates = scenario.eligible clock) :
    ∃ result, evaluateScenario lowercase rounding clock scenario = .ok result ∧
      result.stable = true := by
  have hrank := slate.rankCandidates_eq lowercase scenario.task scenario.preferredEngine
  have hreplay : rankCandidates lowercase rounding scenario.task slate.candidates.reverse
      scenario.preferredEngine = _ :=
    (rankCandidates_of_perm (List.reverse_perm slate.candidates)).trans hrank
  have hcounterfactuals : ∀ removed ∈ slate.candidates, ∃ result,
      counterfactual lowercase rounding scenario slate.candidates removed = .ok result := by
    intro removed _
    have hsub : List.Subperm (slate.candidates.filter fun item =>
        decide (item.registrationIndex ≠ removed.registrationIndex)) slate.candidates :=
      List.filter_sublist.subperm
    obtain ⟨decision, hrest⟩ : ∃ decision, rankCandidates lowercase rounding scenario.task
        (slate.candidates.filter fun item =>
          decide (item.registrationIndex ≠ removed.registrationIndex))
        scenario.preferredEngine = .ok decision :=
      ⟨_, Slate.rankCandidates_eq lowercase scenario.task scenario.preferredEngine
        (slate.restrict _ hsub)⟩
    unfold counterfactual
    dsimp only
    rw [hrest]
    exact ⟨_, rfl⟩
  obtain ⟨counterfactuals, hmap⟩ := mapM_total hcounterfactuals
  unfold evaluateScenario
  rw [← h]
  dsimp only
  rw [hrank, except_ok_bind, hreplay, except_ok_bind, hmap, except_ok_bind]
  exact ⟨_, rfl, decide_eq_true rfl⟩

end Slates

/-! ### The result -/

/-- Ranking is a stable total order, and so are the two places that use it. -/
structure RankingIsStable (lowercase : Lowercase) (rounding : Rounding) : Prop where
  ranking : ∀ task preferred (slate : Slate rounding), StableOn lowercase task preferred slate
  scenarios : ∀ scenario clock (slate : Slate rounding),
    slate.candidates = scenario.eligible clock →
    ∃ result, evaluateScenario lowercase rounding clock scenario = .ok result ∧
      result.stable = true
  deployments : ∀ clock (registry : DeploymentRegistry lowercase) states task preferred ordered
    decision, orderedDeployments rounding clock registry states task preferred =
      .ok (ordered, decision) →
    ordered.Perm (eligibleOf clock task registry) ∧ ordered.Nodup

/-- **The ranking is stable.**  Candidates with distinct ids and indexes that can all be scored
are ranked in one total order, which neither the order of the list nor leaving candidates out
changes; a scenario with such candidates is stable, and every eligible deployment is ordered
once. -/
theorem ranking_is_stable (lowercase : Lowercase) (rounding : Rounding) :
    RankingIsStable lowercase rounding where
  ranking task preferred slate := stableOn lowercase task preferred slate
  scenarios _ _ _ h := evaluateScenario_stable h
  deployments _ _ _ _ _ _ _ h := orderedDeployments_perm h

theorem noDeadline_aware :
    ∀ deadline ∈ (none : Option Datetime.DateTime), deadline.utcoffset.isSome = true := by simp

/-- A task that asks for nothing but a text. -/
def plainTask : InferenceTask where
  input := .text ⟨⟨"a", by decide⟩⟩
  generation := ⟨none, .int 0, noTokens_positive, zero_inRange⟩
  requirements := ⟨none, none, none, false, false, none, none, none, false, noTokens_positive⟩
  trace := ⟨⟨"r", by decide⟩, none⟩
  deadlineAt := none
  aware := noDeadline_aware

/-- A candidate whose failure rate is not a number. -/
def unratedCandidate : PolicyCandidate where
  deploymentId := "a"
  engineName := "mock"
  registrationIndex := 0
  capabilities := ⟨none, none, none, none, none, none, none, none, none⟩
  profile := RoutingPolicyProfile.default
  runtime := some ⟨true, true, some .nan, true⟩

/-- A candidate whose failure rate is not a number cannot be ranked: `round` raises. -/
theorem unrated_candidate_raises :
    ¬ ∀ (lowercase : Lowercase) (rounding : Rounding) (task : InferenceTask)
      (preferred : Option String) (candidates : List PolicyCandidate),
      (candidates.map PolicyCandidate.deploymentId).Nodup →
      (candidates.map PolicyCandidate.registrationIndex).Nodup →
      ∃ decision, rankCandidates lowercase rounding task candidates preferred = .ok decision := by
  intro h
  obtain ⟨decision, hdecision⟩ := h ⟨id, fun _ => rfl⟩ Rounding.exact plainTask none
    [unratedCandidate] (List.nodup_singleton _) (List.nodup_singleton _)
  cases hdecision

end Evaluation
end Ryuk

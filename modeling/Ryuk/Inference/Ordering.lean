import Ryuk.Foundation.Raises
import Ryuk.Inference.PolicyOrder
import Ryuk.Inference.Registry
import Ryuk.Inference.RuntimeState

/-!
# The order of the deployments

The router asks which registered deployments are eligible for a task, turns them into
candidates of the policy, with what the runtime store knows of them, and tries them in the
order of the ranking.
-/

namespace Ryuk
namespace Inference

open Foundation Foundation.Json Foundation.Ranking

/-- What ordering the deployments raises: a failure of inference, or an exception. -/
inductive RouterError where
  | failure (failure : InferenceFailure)
  | raised (error : PyError)

/-- The readings of the clock, for each deployment: one in the evaluation of its
capabilities, one in `is_routable` and one in `is_stale`. -/
structure Clock where
  capability : String → ℚ
  routable : String → ℚ
  stale : String → ℚ

variable {lowercase : Lowercase}

/-! ### Candidates -/

/-- `PolicyRuntime(...)` of the state a store holds. -/
def policyRuntime (clock : Clock) (store : RuntimeStateStore) (deploymentId : String) :
    PolicyRuntime :=
  let state := store.get deploymentId
  { routable := state.isRoutable (clock.routable deploymentId)
    fresh := !state.isStale (clock.stale deploymentId)
    recentFailureRate := state.summary.recentFailureRate
    capacityAvailable := decide (state.capacity = .available) }

/-- `PolicyCandidate(...)` of an eligible deployment and its place. -/
def policyCandidate (clock : Clock) (states : Option RuntimeStateStore)
    (place : RegisteredDeployment lowercase × Nat) : PolicyCandidate where
  deploymentId := place.1.id
  engineName := place.1.engineName
  registrationIndex := place.2
  capabilities := place.1.capabilities
  profile := place.1.policyProfile
  runtime := states.map fun store => policyRuntime clock store place.1.id

/-- The candidates of the eligible deployments, in their order. -/
def policyCandidates (clock : Clock) (states : Option RuntimeStateStore)
    (eligible : List (RegisteredDeployment lowercase)) : List PolicyCandidate :=
  eligible.zipIdx.map (policyCandidate clock states)

/-! ### The order -/

/-- `UnknownEnginePreferenceFailure(context={"preferred_engine": preferred_engine})`. -/
def unknownPreference (preferredEngine : String) : InferenceFailure :=
  { InferenceFailure.bare .unknownEnginePreference with
    context := { FailureContext.empty with
      details := [("preferred_engine", .str preferredEngine)] } }

/-- The registered deployments, those of the preferred engine first. -/
def preferredFirst (registry : DeploymentRegistry lowercase) (preferredEngine : Option String) :
    Except RouterError (List (RegisteredDeployment lowercase)) :=
  match preferredEngine with
  | none => .ok registry.all
  | some name =>
      let preferred := registry.all.filter fun item =>
        isPreferred lowercase (some name) item.engineName
      if preferred.isEmpty then .error (.failure (unknownPreference name))
      else
        -- deployments with the same ref are the same registered deployment
        .ok (preferred ++ registry.all.filter fun item =>
          preferred.all fun other => decide (other.ref ≠ item.ref))

/-- `evaluate_capabilities(task, deployment.capabilities)`. -/
def decisionFor (clock : Clock) (task : InferenceTask)
    (deployment : RegisteredDeployment lowercase) : EligibilityDecision :=
  evaluateCapabilities (clock.capability deployment.id) task deployment.capabilities

/-- Whether a deployment is eligible for a task. -/
def isEligible (clock : Clock) (task : InferenceTask)
    (deployment : RegisteredDeployment lowercase) : Bool :=
  (decisionFor clock task deployment).eligible

/-- `CapabilityMismatchFailure(...)` with the rejections of every deployment. -/
def capabilityMismatchFor (clock : Clock) (task : InferenceTask)
    (deployments : List (RegisteredDeployment lowercase)) : InferenceFailure :=
  { InferenceFailure.bare .capabilityMismatch with
    context := { FailureContext.empty with
      rejections := deployments.flatMap fun deployment =>
        (decisionFor clock task deployment).rejections.map fun rejection =>
          (deployment.id, rejection) } }

/-- `by_id[deployment_id]` among the eligible deployments. -/
def deploymentOf (eligible : List (RegisteredDeployment lowercase)) (deploymentId : String) :
    Except RouterError (RegisteredDeployment lowercase) :=
  match eligible.reverse.find? fun item => decide (item.id = deploymentId) with
  | some deployment => .ok deployment
  | none => .error (.raised .keyError)

/-- What the policy makes of the eligible deployments. -/
def rankEligible (rounding : Rounding) (clock : Clock) (task : InferenceTask)
    (preferredEngine : Option String) (states : Option RuntimeStateStore)
    (eligible : List (RegisteredDeployment lowercase)) :
    Except RouterError (List (RegisteredDeployment lowercase) × RoutingDecision) :=
  match rankCandidates lowercase rounding task (policyCandidates clock states eligible)
      preferredEngine with
  | .error error => .error (.raised error)
  | .ok decision => do
      let ordered ← decision.orderedDeploymentIds.mapM (deploymentOf eligible)
      pure (ordered, decision)

/-- `_ordered_deployments`. -/
def orderedDeployments (rounding : Rounding) (clock : Clock)
    (registry : DeploymentRegistry lowercase) (states : Option RuntimeStateStore)
    (task : InferenceTask) (preferredEngine : Option String) :
    Except RouterError (List (RegisteredDeployment lowercase) × RoutingDecision) := do
  let deployments ← preferredFirst registry preferredEngine
  let eligible := deployments.filter (isEligible clock task)
  if eligible.isEmpty then throw (.failure (capabilityMismatchFor clock task deployments))
  else rankEligible rounding clock task preferredEngine states eligible

/-! ### Every eligible deployment once -/

section Once

variable {rounding : Rounding} {clock : Clock} {registry : DeploymentRegistry lowercase}
  {states : Option RuntimeStateStore} {task : InferenceTask} {preferred : Option String}
  {deployments eligible ordered : List (RegisteredDeployment lowercase)}
  {decision : RoutingDecision}

/-- Putting the preferred deployments first only reorders them. -/
theorem preferredFirst_perm (h : preferredFirst registry preferred = .ok deployments) :
    deployments.Perm registry.all := by
  unfold preferredFirst at h
  cases preferred with
  | none =>
      cases h
      exact List.Perm.refl _
  | some name =>
      dsimp only at h
      split_ifs at h
      cases h
      have hrest : (registry.all.filter fun item =>
          (registry.all.filter fun other =>
            isPreferred lowercase (some name) other.engineName).all fun other =>
              decide (other.ref ≠ item.ref)) =
          registry.all.filter fun item => !isPreferred lowercase (some name) item.engineName := by
        apply List.filter_congr
        intro item hitem
        cases hpreferred : isPreferred lowercase (some name) item.engineName with
        | true =>
            -- the deployment itself is among the preferred ones
            rw [Bool.not_true, List.all_eq_false]
            exact ⟨item, List.mem_filter.mpr ⟨hitem, hpreferred⟩, by simp⟩
        | false =>
            rw [Bool.not_false, List.all_eq_true]
            intro other hother
            obtain ⟨hmem, htrue⟩ := List.mem_filter.mp hother
            rw [decide_eq_true_eq]
            intro href
            have hsame : other = item :=
              List.inj_on_of_nodup_map registry.ids_nodup hmem hitem
                (congrArg (fun ref : DeploymentRef => ref.deploymentId.1) href)
            rw [hsame, hpreferred] at htrue
            cases htrue
      rw [hrest]
      exact List.filter_append_perm _ _

theorem deploymentOf_ok {deploymentId : String} {deployment : RegisteredDeployment lowercase}
    (h : deploymentOf eligible deploymentId = .ok deployment) :
    deployment.id = deploymentId ∧ deployment ∈ eligible := by
  unfold deploymentOf at h
  split at h
  · rename_i found hfound
    cases h
    exact ⟨by simpa using List.find?_some hfound,
      List.mem_reverse.mp (List.mem_of_find?_eq_some hfound)⟩
  · cases h

theorem policyCandidates_ids :
    (policyCandidates clock states eligible).map PolicyCandidate.deploymentId =
      eligible.map RegisteredDeployment.id := by
  unfold policyCandidates
  rw [List.map_map]
  have hcomp : (PolicyCandidate.deploymentId ∘ policyCandidate clock states :
      RegisteredDeployment lowercase × Nat → String) = RegisteredDeployment.id ∘ Prod.fst := rfl
  rw [hcomp, ← List.map_map, List.zipIdx_map_fst]

theorem policyCandidates_indexes :
    ((policyCandidates clock states eligible).map PolicyCandidate.registrationIndex).Nodup := by
  unfold policyCandidates
  rw [List.map_map]
  have hcomp : (PolicyCandidate.registrationIndex ∘ policyCandidate clock states :
      RegisteredDeployment lowercase × Nat → Int) = Nat.cast ∘ Prod.snd := rfl
  rw [hcomp, ← List.map_map, List.zipIdx_map_snd]
  exact List.Nodup.map Nat.cast_injective List.nodup_range'

theorem mem_policyCandidates {candidate : PolicyCandidate} :
    candidate ∈ policyCandidates clock states eligible ↔
      ∃ place ∈ eligible.zipIdx, policyCandidate clock states place = candidate :=
  List.mem_map

/-- **One ranking.**  What the policy makes of eligible deployments with distinct ids is the
ranking of a slate, deployment by deployment. -/
theorem rankEligible_ok (hids : (eligible.map RegisteredDeployment.id).Nodup)
    (h : rankEligible rounding clock task preferred states eligible = .ok (ordered, decision)) :
    ∃ slate : Slate rounding, slate.candidates = policyCandidates clock states eligible ∧
      ordered.map RegisteredDeployment.id =
        (slate.ranking lowercase task preferred).map RoutingScore.deploymentId ∧
      ∀ deployment ∈ ordered, deployment ∈ eligible := by
  unfold rankEligible at h
  cases hrank : rankCandidates lowercase rounding task (policyCandidates clock states eligible)
      preferred with
  | error error =>
      rw [hrank] at h
      cases h
  | ok found =>
      rw [hrank] at h
      dsimp only at h
      cases hlookup : found.orderedDeploymentIds.mapM (deploymentOf eligible) with
      | error error =>
          rw [hlookup] at h
          cases h
      | ok deployments =>
          rw [hlookup] at h
          cases h
          -- every candidate was scored, so the candidates are a slate
          have hscored : ∀ candidate ∈ policyCandidates clock states eligible, ∃ value,
              reliabilityScore rounding candidate.runtime = .ok value := by
            intro candidate hmem
            unfold rankCandidates at hrank
            obtain ⟨scores, hscores, -⟩ := except_bind_ok.mp hrank
            obtain ⟨scored, hscore⟩ := mapM_returned hscores candidate hmem
            obtain ⟨value, hvalue, -⟩ := except_bind_ok.mp hscore
            exact ⟨value, hvalue⟩
          refine ⟨⟨policyCandidates clock states eligible, ?_, policyCandidates_indexes, hscored⟩,
            rfl, ?_, ?_⟩
          · rw [policyCandidates_ids]
            exact hids
          · have heq := Slate.rankCandidates_eq lowercase task preferred
              ⟨policyCandidates clock states eligible, by rwa [policyCandidates_ids],
                policyCandidates_indexes, hscored⟩
            rw [hrank] at heq
            cases heq
            exact map_of_mapM (fun _ _ hfound => (deploymentOf_ok hfound).1) hlookup
          · intro deployment hmem
            obtain ⟨deploymentId, -, hfound⟩ := mem_of_mapM hlookup deployment hmem
            exact (deploymentOf_ok hfound).2

theorem deploymentOf_of_mem {deployment : RegisteredDeployment lowercase}
    (h : deployment ∈ eligible) : ∃ found, deploymentOf eligible deployment.id = .ok found := by
  unfold deploymentOf
  cases hfind : eligible.reverse.find? fun item => decide (item.id = deployment.id) with
  | some found => exact ⟨found, rfl⟩
  | none =>
      have hnone := List.find?_eq_none.mp hfind deployment (List.mem_reverse.mpr h)
      simp at hnone

/-- Eligible deployments whose candidates can all be scored are ranked. -/
theorem rankEligible_returns (hids : (eligible.map RegisteredDeployment.id).Nodup)
    (hscorable : ∀ candidate ∈ policyCandidates clock states eligible, ∃ value,
      reliabilityScore rounding candidate.runtime = .ok value) :
    ∃ result, rankEligible rounding clock task preferred states eligible = .ok result := by
  have hcandidateIds : ((policyCandidates clock states eligible).map
      PolicyCandidate.deploymentId).Nodup := by
    rw [policyCandidates_ids]
    exact hids
  let slate : Slate rounding := ⟨policyCandidates clock states eligible, hcandidateIds,
    policyCandidates_indexes, hscorable⟩
  have hrank := slate.rankCandidates_eq lowercase task preferred
  have hfound : ∀ deploymentId ∈
      (slate.ranking lowercase task preferred).map RoutingScore.deploymentId,
      ∃ found, deploymentOf eligible deploymentId = .ok found := by
    intro deploymentId hmem
    have hin : deploymentId ∈ eligible.map RegisteredDeployment.id := by
      rw [← policyCandidates_ids]
      exact slate.ranking_perm.mem_iff.mp hmem
    obtain ⟨deployment, hdeployment, rfl⟩ := List.mem_map.mp hin
    exact deploymentOf_of_mem hdeployment
  obtain ⟨ordered, hordered⟩ := mapM_total hfound
  unfold rankEligible
  rw [show rankCandidates lowercase rounding task (policyCandidates clock states eligible)
    preferred = _ from hrank]
  dsimp only
  rw [hordered]
  exact ⟨_, rfl⟩

theorem ids_nodup_of_perm {others : List (RegisteredDeployment lowercase)}
    (hperm : deployments.Perm registry.all) (hsub : others.Sublist deployments) :
    (others.map RegisteredDeployment.id).Nodup := by
  have hall : (deployments.map RegisteredDeployment.id).Nodup :=
    (hperm.map _).nodup_iff.mpr registry.ids_nodup
  exact hall.sublist (hsub.map _)

/-- The eligible deployments of a registry. -/
def eligibleOf (clock : Clock) (task : InferenceTask) (registry : DeploymentRegistry lowercase) :
    List (RegisteredDeployment lowercase) :=
  registry.all.filter (isEligible clock task)

/-- Ordering the deployments ranks the eligible ones, in an order of their own. -/
theorem orderedDeployments_ok
    (h : orderedDeployments rounding clock registry states task preferred =
      .ok (ordered, decision)) :
    ∃ eligible, eligible.Perm (eligibleOf clock task registry) ∧
      (eligible.map RegisteredDeployment.id).Nodup ∧
      rankEligible rounding clock task preferred states eligible = .ok (ordered, decision) := by
  unfold orderedDeployments at h
  cases hfirst : preferredFirst registry preferred with
  | error error =>
      rw [hfirst] at h
      cases h
  | ok deployments =>
      rw [hfirst] at h
      change (if (deployments.filter (isEligible clock task)).isEmpty = true then _ else _) = _ at h
      split_ifs at h
      have hperm := preferredFirst_perm hfirst
      exact ⟨deployments.filter (isEligible clock task), hperm.filter _,
        ids_nodup_of_perm hperm List.filter_sublist, h⟩

/-- **Each once.**  The order lists every eligible deployment exactly once. -/
theorem orderedDeployments_perm
    (h : orderedDeployments rounding clock registry states task preferred =
      .ok (ordered, decision)) :
    ordered.Perm (eligibleOf clock task registry) ∧ ordered.Nodup := by
  obtain ⟨eligible, hperm, hids, hrank⟩ := orderedDeployments_ok h
  obtain ⟨slate, hcandidates, hmap, hmem⟩ := rankEligible_ok hids hrank
  have hcandidateIds : eligible.map RegisteredDeployment.id =
      slate.candidates.map PolicyCandidate.deploymentId := by
    rw [hcandidates, policyCandidates_ids]
  have hidsPerm : (ordered.map RegisteredDeployment.id).Perm
      (eligible.map RegisteredDeployment.id) := by
    rw [hmap, hcandidateIds]
    exact slate.ranking_perm
  have hnodup : ordered.Nodup := List.Nodup.of_map _ (hidsPerm.nodup_iff.mpr hids)
  refine ⟨List.Perm.trans ?_ hperm, hnodup⟩
  rw [List.perm_ext_iff_of_nodup hnodup (List.Nodup.of_map _ hids)]
  intro deployment
  constructor
  · exact hmem deployment
  · intro heligible
    obtain ⟨other, hother, hid⟩ := List.mem_map.mp
      (hidsPerm.mem_iff.mpr (List.mem_map_of_mem heligible))
    have hsame : other = deployment :=
      List.inj_on_of_nodup_map hids (hmem other hother) heligible hid
    rw [← hsame]
    exact hother

end Once

end Inference
end Ryuk

import Ryuk.Inference.Ordering

/-!
# The preference

A preferred engine is only a bonus among the components of a score.  It decides all the same:
a candidate that is preferred and routable scores at least 115, and one of another engine at
most 95; without a runtime store the bounds are 90 and 40.  Every runtime predicate is read
at one instant, at which a routable deployment is also fresh.
-/

namespace Ryuk
namespace Inference

open Foundation Foundation.Ranking

/-! ### The components -/

section Components

variable {lowercase : Lowercase} {rounding : Rounding} {task : InferenceTask}
  {preferred : Option String} {candidate : PolicyCandidate}

/-- A component between two bounds. -/
def Between (low high value : Int) : Prop := low ≤ value ∧ value ≤ high

theorem contextScore_between (task : InferenceTask) (capabilities : DeploymentCapabilities) :
    Between 0 10 (contextScore task capabilities) := by
  unfold contextScore
  split
  · split_ifs
    · exact ⟨by omega, by omega⟩
    · exact ⟨by omega, by omega⟩
  · exact ⟨by omega, by omega⟩

theorem costScore_between (costClass : CostClass) : Between 0 10 (costScore costClass) := by
  cases costClass <;> exact ⟨by decide, by decide⟩

theorem latencyScore_between (latencyClass : LatencyClass) :
    Between 0 10 (latencyScore latencyClass) := by
  cases latencyClass <;> exact ⟨by decide, by decide⟩

theorem suitabilityScore_between (task : InferenceTask) (profile : RoutingPolicyProfile) :
    Between (-10) 10 (suitabilityScore task profile) := by
  unfold suitabilityScore
  split
  · exact profile.text
  · exact profile.chat

theorem runtimeScore_between {runtime : Option PolicyRuntime} {property : PolicyRuntime → Bool}
    {value : Int} (hvalue : 0 ≤ value) : Between 0 value (runtimeScore runtime property value) := by
  unfold runtimeScore
  split_ifs
  · exact ⟨hvalue, le_refl _⟩
  · exact ⟨le_refl _, hvalue⟩

/-- The reliability component of a runtime, or zero. -/
def reliabilityOf (rounding : Rounding) (runtime : Option PolicyRuntime) : Int :=
  (reliabilityScore rounding runtime).toOption.getD 0

/-- A failure rate between 0 and 1 counts between 0 and 20. -/
theorem reliabilityScore_between {runtime : Option PolicyRuntime}
    (h : ∀ rate ∈ runtime.bind PolicyRuntime.recentFailureRate, rate.Within 0 1) :
    ∃ value, reliabilityScore rounding runtime = .ok value ∧ Between 0 20 value := by
  unfold reliabilityScore
  cases hrate : runtime.bind PolicyRuntime.recentFailureRate with
  | none => exact ⟨0, rfl, by omega, by omega⟩
  | some rate =>
      obtain ⟨failing, rfl, hlow, hhigh⟩ := h rate hrate
      push_cast at hlow hhigh
      -- both roundings stay within the integers around the exact value
      obtain ⟨serving, hserving, hserving0, hserving1⟩ :=
        rounding.ofExact_within 0 1 (1 - failing) (by norm_num) (by norm_num)
          (by push_cast; linarith) (by push_cast; linarith)
      push_cast at hserving0 hserving1
      obtain ⟨scaled, hscaled, hscaled0, hscaled20⟩ :=
        rounding.ofExact_within 0 20 (20 * serving) (by norm_num) (by norm_num)
          (by push_cast; linarith) (by push_cast; linarith)
      refine ⟨Decimal.roundHalfEven scaled, ?_, le_roundHalfEven hscaled0, roundHalfEven_le hscaled20⟩
      show roundDouble (rounding.scale 20 (rounding.ofExact (1 - failing))) = _
      rw [hserving]
      show roundDouble (rounding.ofExact (20 * serving)) = _
      rw [hscaled]
      rfl

theorem reliabilityOf_between {runtime : Option PolicyRuntime}
    (h : ∀ rate ∈ runtime.bind PolicyRuntime.recentFailureRate, rate.Within 0 1) :
    Between 0 20 (reliabilityOf rounding runtime) := by
  have hscore : ∃ value, reliabilityScore rounding runtime = .ok value ∧ Between 0 20 value :=
    reliabilityScore_between h
  obtain ⟨value, hvalue, hbetween⟩ := hscore
  unfold reliabilityOf
  rw [hvalue]
  exact hbetween

/-! ### The totals -/

theorem scoreOf_total : (scoreOf lowercase rounding task preferred candidate).total =
    (if isPreferred lowercase preferred candidate.engineName then 100 else 0) +
      (runtimeScore candidate.runtime PolicyRuntime.routable 20 +
      (runtimeScore candidate.runtime PolicyRuntime.fresh 5 +
      (reliabilityOf rounding candidate.runtime +
      (runtimeScore candidate.runtime PolicyRuntime.capacityAvailable 10 +
      (contextScore task candidate.capabilities +
      (costScore candidate.profile.costClass +
      (latencyScore candidate.profile.latencyClass +
      suitabilityScore task candidate.profile))))))) := by
  unfold scoreOf RoutingScore.ofComponents scoreComponents reliabilityOf
  simp only [List.map_cons, List.map_nil, List.sum_cons, List.sum_nil, add_zero]

/-- The rates of a candidate are between 0 and 1. -/
def RateBounded (candidate : PolicyCandidate) : Prop :=
  ∀ rate ∈ candidate.runtime.bind PolicyRuntime.recentFailureRate, rate.Within 0 1

/-- What a candidate of another engine scores at most. -/
theorem total_le_of_other (hrate : RateBounded candidate)
    (hother : isPreferred lowercase preferred candidate.engineName = false) :
    (scoreOf lowercase rounding task preferred candidate).total ≤
      if candidate.runtime.isSome then 95 else 40 := by
  obtain ⟨-, hcontext⟩ := contextScore_between task candidate.capabilities
  obtain ⟨-, hcost⟩ := costScore_between candidate.profile.costClass
  obtain ⟨-, hlatency⟩ := latencyScore_between candidate.profile.latencyClass
  obtain ⟨-, hsuitability⟩ := suitabilityScore_between task candidate.profile
  have hreliability : Between 0 20 (reliabilityOf rounding candidate.runtime) :=
    reliabilityOf_between hrate
  rw [scoreOf_total, hother, if_neg Bool.false_ne_true]
  cases hruntime : candidate.runtime with
  | none =>
      -- without a runtime the four components that read it are zero
      have hzero : ∀ (property : PolicyRuntime → Bool) (value : Int),
          runtimeScore none property value = 0 := fun _ _ => rfl
      have hnone : reliabilityOf rounding none = 0 := rfl
      rw [hzero, hzero, hzero, hnone, Option.isSome_none, if_neg Bool.false_ne_true]
      omega
  | some runtime =>
      rw [hruntime] at hreliability
      obtain ⟨-, hreliability⟩ := hreliability
      have hbound : ∀ (property : PolicyRuntime → Bool) (value : Int), 0 ≤ value →
          runtimeScore (some runtime) property value ≤ value :=
        fun _ _ hvalue => (runtimeScore_between hvalue).2
      have hroutable := hbound PolicyRuntime.routable 20 (by omega)
      have hfresh := hbound PolicyRuntime.fresh 5 (by omega)
      have hcapacity := hbound PolicyRuntime.capacityAvailable 10 (by omega)
      rw [Option.isSome_some, if_pos rfl]
      omega

/-- What a preferred candidate scores at least, when a runtime makes it routable and fresh. -/
theorem le_total_of_preferred (hrate : RateBounded candidate)
    (hpreferred : isPreferred lowercase preferred candidate.engineName = true)
    (hruntime : ∀ runtime ∈ candidate.runtime, runtime.routable = true ∧ runtime.fresh = true) :
    (if candidate.runtime.isSome then 115 else 90) ≤
      (scoreOf lowercase rounding task preferred candidate).total := by
  obtain ⟨hcontext, -⟩ := contextScore_between task candidate.capabilities
  obtain ⟨hcost, -⟩ := costScore_between candidate.profile.costClass
  obtain ⟨hlatency, -⟩ := latencyScore_between candidate.profile.latencyClass
  obtain ⟨hsuitability, -⟩ := suitabilityScore_between task candidate.profile
  have hreliability : Between 0 20 (reliabilityOf rounding candidate.runtime) :=
    reliabilityOf_between hrate
  obtain ⟨hreliability, -⟩ := hreliability
  have hcapacity : 0 ≤ runtimeScore candidate.runtime PolicyRuntime.capacityAvailable 10 :=
    (runtimeScore_between (by omega)).1
  rw [scoreOf_total, hpreferred, if_pos rfl]
  cases hfound : candidate.runtime with
  | none =>
      have hzero : ∀ (property : PolicyRuntime → Bool) (value : Int),
          runtimeScore none property value = 0 := fun _ _ => rfl
      have hnone : reliabilityOf rounding none = 0 := rfl
      rw [hzero, hzero, hzero, hnone, Option.isSome_none, if_neg Bool.false_ne_true]
      omega
  | some runtime =>
      rw [hfound] at hreliability hcapacity
      obtain ⟨hroutable, hfresh⟩ := hruntime runtime hfound
      have hready : runtimeScore (some runtime) PolicyRuntime.routable 20 = 20 := by
        unfold runtimeScore
        rw [Option.any_some, hroutable, if_pos rfl]
      have hcurrent : runtimeScore (some runtime) PolicyRuntime.fresh 5 = 5 := by
        unfold runtimeScore
        rw [Option.any_some, hfresh, if_pos rfl]
      rw [hready, hcurrent, Option.isSome_some, if_pos rfl]
      omega

/-- **The bonus decides.**  A candidate whose key is not behind that of a preferred, routable
and fresh one is preferred itself, when there is a runtime for both or for none. -/
theorem preferred_of_key_le {earlier later : PolicyCandidate} (hearlier : RateBounded earlier)
    (hlater : RateBounded later) (hruntimes : earlier.runtime.isSome = later.runtime.isSome)
    (hkey : candidateKey lowercase rounding task preferred earlier ≤
      candidateKey lowercase rounding task preferred later)
    (hpreferred : isPreferred lowercase preferred later.engineName = true)
    (hruntime : ∀ runtime ∈ later.runtime, runtime.routable = true ∧ runtime.fresh = true) :
    isPreferred lowercase preferred earlier.engineName = true := by
  by_contra hother
  rw [Bool.not_eq_true] at hother
  have hlow : (scoreOf lowercase rounding task preferred earlier).total ≤
      if earlier.runtime.isSome then 95 else 40 := total_le_of_other hearlier hother
  have hhigh : (if later.runtime.isSome then 115 else 90) ≤
      (scoreOf lowercase rounding task preferred later).total :=
    le_total_of_preferred hlater hpreferred hruntime
  rw [Slate.candidateKey_le_iff] at hkey
  have hle : (scoreOf lowercase rounding task preferred later).total ≤
      (scoreOf lowercase rounding task preferred earlier).total := by
    rcases hkey with h | ⟨h, -⟩
    · exact h.le
    · exact h.le
  rw [hruntimes] at hlow
  split_ifs at hlow hhigh
  · omega
  · omega

end Components

/-! ### The order -/

/-- A runtime store all of whose failure rates are between 0 and 1. -/
structure RatedStore where
  store : RuntimeStateStore
  rated : ∀ state ∈ store.all, ∀ rate ∈ state.summary.recentFailureRate, rate.Within 0 1

/-- Every runtime predicate is read at one instant. -/
def Clock.at (capability : String → ℚ) (now : ℚ) : Clock :=
  ⟨capability, fun _ => now, fun _ => now⟩

variable {lowercase : Lowercase} {rounding : Rounding} {task : InferenceTask}
  {capability : String → ℚ} {now : ℚ}

/-- Whether a deployment is routable; without a runtime store every one counts. -/
def isUsable (states : Option RatedStore) (now : ℚ) (deployment : RegisteredDeployment lowercase) :
    Bool :=
  match states with
  | none => true
  | some states => (states.store.get deployment.id).isRoutable now

theorem get_rated (states : RatedStore) (deploymentId : String) :
    ∀ rate ∈ (states.store.get deploymentId).summary.recentFailureRate, rate.Within 0 1 := by
  unfold RuntimeStateStore.get
  cases hfound : states.store.states.get? deploymentId with
  | none =>
      intro rate hrate
      cases hrate
  | some state =>
      exact states.rated state (List.mem_map.mpr ⟨_, Dict.mem_of_get? hfound, rfl⟩)

theorem rateBounded_policyCandidate (clock : Clock) (states : Option RatedStore)
    (place : RegisteredDeployment lowercase × Nat) :
    RateBounded (policyCandidate clock (states.map RatedStore.store) place) := by
  cases states with
  | none =>
      intro rate hrate
      cases hrate
  | some states => exact get_rated states place.1.id

/-- A routable state is not stale at the same instant. -/
theorem fresh_of_routable {state : DeploymentRuntimeState} (h : state.isRoutable now = true) :
    (!state.isStale now) = true := by
  unfold DeploymentRuntimeState.isRoutable at h
  simp only [Bool.and_eq_true] at h
  exact h.1.1.1.1

/-- The candidate of a usable deployment is routable and fresh, where there is a runtime. -/
theorem usable_runtime {states : Option RatedStore} {place : RegisteredDeployment lowercase × Nat}
    (h : isUsable states now place.1 = true) :
    ∀ runtime ∈ (policyCandidate (Clock.at capability now) (states.map RatedStore.store)
      place).runtime, runtime.routable = true ∧ runtime.fresh = true := by
  cases states with
  | none =>
      intro runtime hruntime
      cases hruntime
  | some states =>
      rintro runtime ⟨⟩
      exact ⟨h, fresh_of_routable h⟩

/-- In the order, what stands before a preferred and usable deployment is preferred. -/
theorem order_preferred {registry : DeploymentRegistry lowercase} {states : Option RatedStore}
    {name : String} {ordered : List (RegisteredDeployment lowercase)} {decision : RoutingDecision}
    (h : orderedDeployments rounding (Clock.at capability now) registry
      (states.map RatedStore.store) task (some name) = .ok (ordered, decision)) :
    ordered.Pairwise fun earlier later =>
      isPreferred lowercase (some name) later.engineName = true →
      isUsable states now later = true →
      isPreferred lowercase (some name) earlier.engineName = true := by
  obtain ⟨eligible, -, hids, hrank⟩ := orderedDeployments_ok h
  obtain ⟨slate, hcandidates, hmap, hmem⟩ := rankEligible_ok hids hrank
  -- the candidate of a deployment of the order
  have hcandidate : ∀ scored ∈ slate.ranking lowercase task (some name),
      ∀ deployment ∈ ordered, deployment.id = scored.deploymentId →
      ∃ place : RegisteredDeployment lowercase × Nat, place.1 = deployment ∧
        policyCandidate (Clock.at capability now) (states.map RatedStore.store) place ∈
          slate.candidates ∧
        scoreOf lowercase rounding task (some name)
          (policyCandidate (Clock.at capability now) (states.map RatedStore.store) place) =
            scored := by
    intro scored hscored deployment hdeployment hid
    obtain ⟨candidate, hin, rfl⟩ := Slate.mem_ranking.mp hscored
    have hplaces := hin
    rw [hcandidates] at hplaces
    obtain ⟨place, hplace, rfl⟩ := mem_policyCandidates.mp hplaces
    have heligible : place.1 ∈ eligible := by
      rw [← List.zipIdx_map_fst 0 eligible]
      exact List.mem_map_of_mem hplace
    have hsame : place.1 = deployment :=
      List.inj_on_of_nodup_map hids heligible (hmem deployment hdeployment) hid.symm
    exact ⟨place, hsame, hin, rfl⟩
  have hranked : (slate.ranking lowercase task (some name)).Pairwise fun first second =>
      ∀ earlier ∈ ordered, ∀ later ∈ ordered, earlier.id = first.deploymentId →
        later.id = second.deploymentId →
        isPreferred lowercase (some name) later.engineName = true →
        isUsable states now later = true →
        isPreferred lowercase (some name) earlier.engineName = true := by
    refine List.Pairwise.imp_of_mem (fun {first second} hfirst hsecond hkey => ?_)
      (sortBy_ranked (rankKey slate.candidates) (slate.scores lowercase task (some name)))
    intro earlier hearlier later hlater hid hid' hpreferred husable
    obtain ⟨place, rfl, hin, rfl⟩ := hcandidate first hfirst earlier hearlier hid
    obtain ⟨place', rfl, hin', rfl⟩ := hcandidate second hsecond later hlater hid'
    rw [rankKey_scoreOf slate.ids hin, rankKey_scoreOf slate.ids hin'] at hkey
    refine preferred_of_key_le (rateBounded_policyCandidate _ states place)
      (rateBounded_policyCandidate _ states place') ?_ hkey hpreferred (usable_runtime husable)
    cases states <;> rfl
  -- the ids of the order are those of the ranking
  have hdeployments : (ordered.map RegisteredDeployment.id).Pairwise fun first second =>
      ∀ earlier ∈ ordered, ∀ later ∈ ordered, earlier.id = first → later.id = second →
        isPreferred lowercase (some name) later.engineName = true →
        isUsable states now later = true →
        isPreferred lowercase (some name) earlier.engineName = true := by
    rw [hmap, List.pairwise_map]
    exact hranked
  rw [List.pairwise_map] at hdeployments
  exact List.Pairwise.imp_of_mem
    (fun hearlier hlater hpair => hpair _ hearlier _ hlater rfl rfl) hdeployments

/-! ### What is tried first -/

/-- Whether the loop of `generate_task` goes on to try a deployment: its circuit is not open,
and it is routable or, without a runtime store, answers that it is available. -/
def isReady (circuitOpen : List String) (states : Option RatedStore) (now : ℚ)
    (available : RegisteredDeployment lowercase → Bool)
    (deployment : RegisteredDeployment lowercase) : Bool :=
  decide (deployment.id ∉ circuitOpen) &&
    match states with
    | none => available deployment
    | some states => (states.store.get deployment.id).isRoutable now

/-- The deployment `generate_task` tries first: the first one it does not skip. -/
def firstTried (circuitOpen : List String) (states : Option RatedStore) (now : ℚ)
    (available : RegisteredDeployment lowercase → Bool)
    (ordered : List (RegisteredDeployment lowercase)) : Option (RegisteredDeployment lowercase) :=
  ordered.find? (isReady circuitOpen states now available)

theorem isUsable_of_isReady {circuitOpen : List String} {states : Option RatedStore}
    {available : RegisteredDeployment lowercase → Bool}
    {deployment : RegisteredDeployment lowercase}
    (h : isReady circuitOpen states now available deployment = true) :
    isUsable states now deployment = true := by
  unfold isReady at h
  rw [Bool.and_eq_true] at h
  cases states with
  | none => rfl
  | some states => exact h.2

/-- The preferred engine wins: its usable deployments come before those of any other engine,
and while one of them can be tried, none of another engine is tried first. -/
structure PreferenceWins (rounding : Rounding) (registry : DeploymentRegistry lowercase)
    (states : Option RatedStore) (task : InferenceTask) (name : String)
    (capability : String → ℚ) (now : ℚ)
    (ordered : List (RegisteredDeployment lowercase)) : Prop where
  before : ∀ favoured ∈ eligibleOf (Clock.at capability now) task registry,
    isPreferred lowercase (some name) favoured.engineName = true →
    isUsable states now favoured = true →
    ∀ other ∈ eligibleOf (Clock.at capability now) task registry,
    isPreferred lowercase (some name) other.engineName = false →
    ∃ first second third, ordered = first ++ favoured :: second ++ other :: third
  tried : ∀ circuitOpen available,
    ∀ favoured ∈ eligibleOf (Clock.at capability now) task registry,
    isPreferred lowercase (some name) favoured.engineName = true →
    isReady circuitOpen states now available favoured = true →
    ∃ chosen, firstTried circuitOpen states now available ordered = some chosen ∧
      isPreferred lowercase (some name) chosen.engineName = true

/-- The deployments are ordered when one of the preferred engine is eligible. -/
theorem orderedDeployments_returns {registry : DeploymentRegistry lowercase}
    {states : Option RatedStore} {name : String} {favoured : RegisteredDeployment lowercase}
    (hfavoured : favoured ∈ eligibleOf (Clock.at capability now) task registry)
    (hpreferred : isPreferred lowercase (some name) favoured.engineName = true) :
    ∃ result, orderedDeployments rounding (Clock.at capability now) registry
      (states.map RatedStore.store) task (some name) = .ok result := by
  obtain ⟨hall, heligible⟩ := List.mem_filter.mp hfavoured
  have hfirst : ∃ deployments, preferredFirst registry (some name) = .ok deployments := by
    have hmem : favoured ∈ registry.all.filter fun item =>
        isPreferred lowercase (some name) item.engineName :=
      List.mem_filter.mpr ⟨hall, hpreferred⟩
    unfold preferredFirst
    dsimp only
    rw [if_neg fun hempty => List.not_mem_nil (List.isEmpty_iff.mp hempty ▸ hmem)]
    exact ⟨_, rfl⟩
  obtain ⟨deployments, hdeployments⟩ := hfirst
  have hperm := preferredFirst_perm hdeployments
  have hmem : favoured ∈ deployments.filter (isEligible (Clock.at capability now) task) :=
    List.mem_filter.mpr ⟨hperm.mem_iff.mpr hall, heligible⟩
  have hscorable : ∀ candidate ∈ policyCandidates (Clock.at capability now)
      (states.map RatedStore.store)
      (deployments.filter (isEligible (Clock.at capability now) task)),
      ∃ value, reliabilityScore rounding candidate.runtime = .ok value := by
    intro candidate hcandidate
    obtain ⟨place, -, rfl⟩ := mem_policyCandidates.mp hcandidate
    obtain ⟨value, hvalue, -⟩ := reliabilityScore_between
      (rateBounded_policyCandidate (Clock.at capability now) states place)
    exact ⟨value, hvalue⟩
  unfold orderedDeployments
  rw [hdeployments]
  show ∃ result, (if (deployments.filter
    (isEligible (Clock.at capability now) task)).isEmpty = true then _ else _) = _
  rw [if_neg fun hempty => List.not_mem_nil (List.isEmpty_iff.mp hempty ▸ hmem)]
  exact rankEligible_returns (ids_nodup_of_perm hperm List.filter_sublist) hscorable

/-- Whatever the order, the preferred engine wins in it. -/
theorem preferenceWins_of_ordered {registry : DeploymentRegistry lowercase}
    {states : Option RatedStore} {name : String}
    {ordered : List (RegisteredDeployment lowercase)} {decision : RoutingDecision}
    (h : orderedDeployments rounding (Clock.at capability now) registry
      (states.map RatedStore.store) task (some name) = .ok (ordered, decision)) :
    PreferenceWins rounding registry states task name capability now ordered := by
  have hpairs := order_preferred h
  obtain ⟨hperm, -⟩ := orderedDeployments_perm h
  constructor
  · intro favoured hfavoured hpreferred husable other hother hnot
    obtain ⟨before, third, rfl⟩ := List.append_of_mem (hperm.mem_iff.mpr hother)
    rcases List.mem_append.mp (hperm.mem_iff.mpr hfavoured) with hbefore | hafter
    · obtain ⟨first, second, rfl⟩ := List.append_of_mem hbefore
      exact ⟨first, second, third, rfl⟩
    · rcases List.mem_cons.mp hafter with rfl | hlater
      · rw [hpreferred] at hnot
        cases hnot
      · -- the other deployment would stand before a preferred and usable one
        have htrue := (List.pairwise_cons.mp (List.pairwise_append.mp hpairs).2.1).1 favoured
          hlater hpreferred husable
        rw [hnot] at htrue
        cases htrue
  · intro circuitOpen available favoured hfavoured hpreferred hready
    cases hfirst : firstTried circuitOpen states now available ordered with
    | none =>
        have hnone := List.find?_eq_none.mp hfirst favoured (hperm.mem_iff.mpr hfavoured)
        exact absurd hready hnone
    | some chosen =>
        refine ⟨chosen, rfl, ?_⟩
        obtain ⟨-, before, after, rfl, hbefore⟩ := List.find?_eq_some_iff_append.mp hfirst
        rcases List.mem_append.mp (hperm.mem_iff.mpr hfavoured) with hearlier | hafter
        · have hskipped := hbefore favoured hearlier
          rw [hready] at hskipped
          cases hskipped
        · rcases List.mem_cons.mp hafter with rfl | hlater
          · exact hpreferred
          · exact (List.pairwise_cons.mp (List.pairwise_append.mp hpairs).2.1).1 favoured
              hlater hpreferred (isUsable_of_isReady hready)

/-- The preferred engine wins: while one of its deployments is eligible, the deployments are
ordered, and whatever their order, it wins there. -/
structure PreferenceDominates (rounding : Rounding) (registry : DeploymentRegistry lowercase)
    (states : Option RatedStore) (task : InferenceTask) (name : String)
    (capability : String → ℚ) (now : ℚ) : Prop where
  returns : ∀ favoured ∈ eligibleOf (Clock.at capability now) task registry,
    isPreferred lowercase (some name) favoured.engineName = true →
    ∃ result, orderedDeployments rounding (Clock.at capability now) registry
      (states.map RatedStore.store) task (some name) = .ok result
  wins : ∀ ordered decision, orderedDeployments rounding (Clock.at capability now) registry
    (states.map RatedStore.store) task (some name) = .ok (ordered, decision) →
    PreferenceWins rounding registry states task name capability now ordered

/-- **The preference wins among usable deployments**, for every task, registry, runtime store
(or none) and preferred engine. -/
theorem preference_dominates (rounding : Rounding) (registry : DeploymentRegistry lowercase)
    (states : Option RatedStore) (task : InferenceTask) (name : String)
    (capability : String → ℚ) (now : ℚ) :
    PreferenceDominates rounding registry states task name capability now := by
  exact ⟨fun favoured hfavoured hpreferred => orderedDeployments_returns hfavoured hpreferred,
    fun ordered decision h => preferenceWins_of_ordered h⟩

end Inference
end Ryuk

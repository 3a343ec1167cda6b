import Ryuk.Inference.Collector

/-!
# What the collector tracks

The store of a collector is made from the keys of the registry, which are in lower case, and
is then written and read under the ids of the deployments as they were given.  It holds one
state per registered deployment exactly when no given id has an upper-case letter.
-/

namespace Ryuk
namespace Inference

open Foundation

variable {lowercase : Lowercase} {rounding : Rounding} {ttlSeconds : ℚ}

namespace RuntimeStateStore

variable {store : RuntimeStateStore}

/-- The ids under which a store holds states. -/
def tracked (store : RuntimeStateStore) : List String := store.states.keys

theorem mem_tracked_put {state : DeploymentRuntimeState} {deploymentId : String} :
    deploymentId ∈ (store.put state).tracked ↔
      deploymentId = state.deploymentId ∨ deploymentId ∈ store.tracked := by
  unfold tracked put
  dsimp only
  rw [Dict.keys_set]
  split_ifs with hmem
  · constructor
    · exact Or.inr
    · rintro (rfl | hold)
      · exact hmem
      · exact hold
  · rw [List.mem_append, List.mem_singleton, or_comm]

/-- The states of a store are those it gives for its ids. -/
theorem all_eq (store : RuntimeStateStore) : store.all = store.tracked.map store.get := by
  unfold all tracked Dict.values Dict.keys
  rw [List.map_map]
  apply List.map_congr_left
  intro entry hentry
  show entry.2 = (store.states.get? entry.1).getD _
  rw [Dict.get?_of_mem hentry, Option.getD_some]

theorem mem_tracked_recordAttempt {attempt : AttemptFeedback} {deploymentId : String} :
    deploymentId ∈ (store.recordAttempt rounding attempt).tracked ↔
      deploymentId = attempt.deploymentId ∨ deploymentId ∈ store.tracked := by
  show deploymentId ∈ (store.put _).tracked ↔ _
  rw [mem_tracked_put]
  show deploymentId = ((store.get attempt.deploymentId).after attempt).deploymentId ∨ _ ↔ _
  rw [DeploymentRuntimeState.after_deploymentId, get_deploymentId]

theorem mem_tracked_new {deploymentIds : List String} {deploymentId : String} :
    deploymentId ∈ (new deploymentIds).tracked ↔ deploymentId ∈ deploymentIds := by
  have hfold : ∀ (ids : List String) (start : RuntimeStateStore),
      deploymentId ∈ (ids.foldl track start).tracked ↔
        deploymentId ∈ start.tracked ∨ deploymentId ∈ ids := by
    intro ids
    induction ids with
    | nil => simp
    | cons first rest ih =>
        intro start
        rw [List.foldl_cons, ih]
        show deploymentId ∈ (start.put (.initial first)).tracked ∨ _ ↔ _
        rw [mem_tracked_put, List.mem_cons]
        show (deploymentId = first ∨ _) ∨ _ ↔ _
        tauto
  unfold new
  rw [hfold]
  show deploymentId ∈ ([] : List String) ∨ _ ↔ _
  simp

end RuntimeStateStore

namespace DeploymentRegistry

variable {registry final : DeploymentRegistry lowercase}
  {deployment : RegisteredDeployment lowercase}

theorem register_fresh (h : deployment.key ∉ registry.deployments.keys) :
    ∃ final, registry.register deployment = .ok final := by
  unfold register
  rw [if_neg h]
  exact ⟨_, rfl⟩

/-- A registered deployment comes after those before it. -/
theorem register_all (h : registry.register deployment = .ok final) :
    final.all = registry.all ++ [deployment] := by
  unfold register at h
  split_ifs at h with hmem
  cases h
  show (registry.deployments.set deployment.key deployment).entries.map Prod.snd = _
  rw [Dict.entries_set_of_not_mem hmem, List.map_append]
  rfl

end DeploymentRegistry

/-! ### The property -/

/-- The ids of the registered deployments, as they were given. -/
def DeploymentRegistry.givenIds (registry : DeploymentRegistry lowercase) : List String :=
  registry.all.map RegisteredDeployment.id

/-- A store holds one state per registered deployment, the one it gives for the deployment's
id, and no other state. -/
def TracksExactly (registry : DeploymentRegistry lowercase) (store : RuntimeStateStore) : Prop :=
  store.all.Perm (registry.all.map fun deployment => store.get deployment.id)

/-- That is a matter of the ids alone. -/
theorem tracksExactly_iff {registry : DeploymentRegistry lowercase} {store : RuntimeStateStore} :
    TracksExactly registry store ↔
      ∀ deploymentId, deploymentId ∈ store.tracked ↔ deploymentId ∈ registry.givenIds := by
  have hgiven : (registry.all.map fun deployment => store.get deployment.id) =
      registry.givenIds.map store.get := by
    unfold DeploymentRegistry.givenIds
    rw [List.map_map]
    rfl
  have hperm : store.tracked.Perm registry.givenIds ↔
      ∀ deploymentId, deploymentId ∈ store.tracked ↔ deploymentId ∈ registry.givenIds :=
    List.perm_ext_iff_of_nodup store.states.distinct registry.ids_nodup
  rw [← hperm, TracksExactly, hgiven, RuntimeStateStore.all_eq]
  constructor
  · intro h
    -- every state carries the id under which it is found
    have hids := h.map DeploymentRuntimeState.deploymentId
    rw [List.map_map, List.map_map] at hids
    have hsame : DeploymentRuntimeState.deploymentId ∘ store.get = id :=
      funext store.get_deploymentId
    rw [hsame, List.map_id, List.map_id] at hids
    exact hids
  · exact fun h => h.map store.get

/-! ### The invariant -/

/-- What is known of the ids a collector tracks: the keys of the registry, the ids of probes and
the ids of attempts. -/
structure TracksKnown (registry : DeploymentRegistry lowercase)
    (attempts : List RecordedAttempt) (collector : RuntimeStateCollector) : Prop where
  keys : ∀ key ∈ registry.ids, key ∈ collector.store.tracked
  attempted : ∀ attempt ∈ attempts, attempt.deploymentId ∈ collector.store.tracked
  known : ∀ deploymentId ∈ collector.store.tracked,
    deploymentId ∈ registry.ids ∨ deploymentId ∈ registry.givenIds ∨
      ∃ attempt ∈ attempts, attempt.deploymentId = deploymentId
  probing : ∀ probe ∈ collector.pending, probe.deploymentId ∈ registry.givenIds

/-- The states of the deployments of this process are put under given ids. -/
theorem mem_tracked_startInProcess {now : ℚ} {deploymentId : String}
    (deployments : List (RegisteredDeployment lowercase)) (store : RuntimeStateStore) :
    (deploymentId ∈ store.tracked → deploymentId ∈ (deployments.foldl
        (RuntimeStateStore.startInProcess now ttlSeconds) store).tracked) ∧
      (deploymentId ∈ (deployments.foldl
        (RuntimeStateStore.startInProcess now ttlSeconds) store).tracked →
        deploymentId ∈ store.tracked ∨
          deploymentId ∈ deployments.map RegisteredDeployment.id) := by
  induction deployments generalizing store with
  | nil => exact ⟨fun h => h, Or.inl⟩
  | cons deployment rest ih =>
      have hstep : (deploymentId ∈ store.tracked →
            deploymentId ∈ (store.startInProcess now ttlSeconds deployment).tracked) ∧
          (deploymentId ∈ (store.startInProcess now ttlSeconds deployment).tracked →
            deploymentId ∈ store.tracked ∨ deploymentId = deployment.id) := by
        unfold RuntimeStateStore.startInProcess
        split_ifs
        · rw [RuntimeStateStore.mem_tracked_put]
          exact ⟨Or.inr, fun h => h.symm⟩
        · exact ⟨fun h => h, Or.inl⟩
      obtain ⟨hkept, hfrom⟩ := ih (store.startInProcess now ttlSeconds deployment)
      rw [List.foldl_cons, List.map_cons, List.mem_cons]
      constructor
      · exact fun h => hkept (hstep.1 h)
      · intro h
        rcases hfrom h with hmiddle | hrest
        · rcases hstep.2 hmiddle with hstart | hself
          · exact Or.inl hstart
          · exact Or.inr (Or.inl hself)
        · exact Or.inr (Or.inr hrest)

theorem tracksKnown_new (registry : DeploymentRegistry lowercase) (now ttlSeconds : ℚ) :
    TracksKnown registry [] (.new registry now ttlSeconds) where
  keys key hkey := by
    apply (mem_tracked_startInProcess registry.all _).1
    exact RuntimeStateStore.mem_tracked_new.mpr hkey
  attempted attempt hattempt := absurd hattempt List.not_mem_nil
  known deploymentId h := by
    rcases (mem_tracked_startInProcess registry.all _).2 h with hnew | hgiven
    · exact Or.inl (RuntimeStateStore.mem_tracked_new.mp hnew)
    · exact Or.inr (Or.inl hgiven)
  probing probe hprobe := absurd hprobe List.not_mem_nil

namespace TracksKnown

variable {registry : DeploymentRegistry lowercase} {attempts : List RecordedAttempt}
  {collector : RuntimeStateCollector}

/-- Leaving probes out keeps what is known. -/
theorem of_pending (h : TracksKnown registry attempts collector) {pending : List PendingProbe}
    (hpending : ∀ probe ∈ pending, probe.deploymentId ∈ registry.givenIds) :
    TracksKnown registry attempts { collector with pending := pending } where
  keys := h.keys
  attempted := h.attempted
  known := h.known
  probing := hpending

/-- A state put under a given id. -/
theorem probed (h : TracksKnown registry attempts collector) {probe : ProbeResult}
    (hprobe : probe.deploymentId ∈ registry.givenIds) :
    TracksKnown registry attempts { collector with store := collector.store.probed probe } where
  keys key hkey := RuntimeStateStore.mem_tracked_put.mpr (Or.inr (h.keys key hkey))
  attempted attempt hattempt :=
    RuntimeStateStore.mem_tracked_put.mpr (Or.inr (h.attempted attempt hattempt))
  known deploymentId hmem := by
    rcases RuntimeStateStore.mem_tracked_put.mp hmem with hself | hold
    · right
      left
      rw [hself]
      exact hprobe
    · exact h.known deploymentId hold
  probing := h.probing

theorem recordAttempt (h : TracksKnown registry attempts collector) (attempt : RecordedAttempt) :
    TracksKnown registry (attempts ++ [attempt]) { collector with
      store := collector.store.recordAttempt rounding attempt.toAttemptFeedback } where
  keys key hkey := RuntimeStateStore.mem_tracked_recordAttempt.mpr (Or.inr (h.keys key hkey))
  attempted other hother := by
    apply RuntimeStateStore.mem_tracked_recordAttempt.mpr
    rcases List.mem_append.mp hother with hold | hnew
    · exact Or.inr (h.attempted other hold)
    · left
      rw [List.mem_singleton.mp hnew]
  known deploymentId hmem := by
    rcases RuntimeStateStore.mem_tracked_recordAttempt.mp hmem with hself | hold
    · right
      right
      exact ⟨attempt, by simp, hself.symm⟩
    · rcases h.known deploymentId hold with hkey | hgiven | ⟨other, hother, hid⟩
      · exact Or.inl hkey
      · exact Or.inr (Or.inl hgiven)
      · exact Or.inr (Or.inr ⟨other, List.mem_append_left _ hother, hid⟩)
  probing := h.probing

/-- **What one event preserves.** -/
theorem next (h : TracksKnown registry attempts collector) (event : CollectorEvent) :
    TracksKnown registry (attempts ++ attemptsOf [event])
      (collector.next rounding ttlSeconds registry event) := by
  cases event with
  | refresh observedAt =>
      rw [show attemptsOf [.refresh observedAt] = [] from rfl, List.append_nil]
      apply h.of_pending
      intro probe hprobe
      rcases List.mem_append.mp hprobe with hold | hnew
      · exact h.probing probe hold
      · obtain ⟨deployment, hdeployment, rfl⟩ := List.mem_map.mp hnew
        exact List.mem_map_of_mem hdeployment
  | answered position answer latencyMs =>
      rw [show attemptsOf [.answered position answer latencyMs] = [] from rfl, List.append_nil]
      rcases collector.next_answered rounding ttlSeconds registry position answer latencyMs with
        hnext | ⟨probe, hprobe, hnext⟩
      · rw [hnext]
        exact h
      · rw [hnext]
        have hprobed : TracksKnown registry attempts { collector with
            store := collector.store.probed (probe.result ttlSeconds answer latencyMs) } :=
          h.probed (h.probing probe hprobe)
        apply hprobed.of_pending
        exact fun other hother => h.probing other (List.mem_of_mem_eraseIdx hother)
  | cancelled position =>
      rw [show attemptsOf [.cancelled position] = [] from rfl, List.append_nil]
      apply h.of_pending
      exact fun other hother => h.probing other (List.mem_of_mem_eraseIdx hother)
  | attempted attempt => exact h.recordAttempt attempt

/-- **What a run preserves.** -/
theorem after (h : TracksKnown registry attempts collector) (events : List CollectorEvent) :
    TracksKnown registry (attempts ++ attemptsOf events)
      ((collectorMachine rounding ttlSeconds registry).after collector events) := by
  induction events generalizing attempts collector with
  | nil =>
      rw [show attemptsOf [] = [] from rfl, List.append_nil]
      exact h
  | cons event rest ih =>
      rw [attemptsOf_cons, ← List.append_assoc]
      exact ih (h.next event)

end TracksKnown

/-! ### The result -/

/-- Every deployment was registered under an id in lower case. -/
def LowerCaseIds (registry : DeploymentRegistry lowercase) : Prop :=
  ∀ deployment ∈ registry.all, lowercase.lower deployment.id = deployment.id

/-- Every attempt names a registered deployment by its id. -/
def OnRegistered (registry : DeploymentRegistry lowercase) (events : List CollectorEvent) : Prop :=
  ∀ attempt ∈ attemptsOf events, attempt.deploymentId ∈ registry.givenIds

/-- The store of a collector after some events. -/
def storeAfter (rounding : Rounding) (now ttlSeconds : ℚ)
    (registry : DeploymentRegistry lowercase) (events : List CollectorEvent) : RuntimeStateStore :=
  ((collectorMachine rounding ttlSeconds registry).after
    (.new registry now ttlSeconds) events).store

theorem tracksKnown_after (now : ℚ) (registry : DeploymentRegistry lowercase)
    (events : List CollectorEvent) : TracksKnown registry (attemptsOf events)
      ((collectorMachine rounding ttlSeconds registry).after
        (.new registry now ttlSeconds) events) :=
  (tracksKnown_new registry now ttlSeconds).after events

/-- An id whose lower-case form was given too is in lower case: two deployments never share a
key. -/
theorem lower_eq_of_given {registry : DeploymentRegistry lowercase}
    {deployment : RegisteredDeployment lowercase} (hmem : deployment ∈ registry.all)
    (hgiven : deployment.key ∈ registry.givenIds) : deployment.key = deployment.id := by
  obtain ⟨other, hother, hid⟩ := List.mem_map.mp hgiven
  have hkey : other.key = deployment.key := by
    show lowercase.lower other.id = deployment.key
    rw [hid]
    exact lowercase.idempotent deployment.id
  have hsame : other = deployment :=
    List.inj_on_of_nodup_map registry.keys_nodup hother hmem hkey
  rw [← hid, hsame]

/-- **When the collector tracks the registered deployments.**  After any refreshes and attempts
it holds exactly their states if and only if their ids are in lower case and every attempt was
on one of them. -/
theorem collector_tracks_iff (rounding : Rounding) (now ttlSeconds : ℚ)
    (registry : DeploymentRegistry lowercase) (events : List CollectorEvent) :
    TracksExactly registry (storeAfter rounding now ttlSeconds registry events) ↔
      LowerCaseIds registry ∧ OnRegistered registry events := by
  have hknown : TracksKnown registry (attemptsOf events)
      ((collectorMachine rounding ttlSeconds registry).after (.new registry now ttlSeconds)
        events) := tracksKnown_after now registry events
  rw [tracksExactly_iff]
  constructor
  · intro hsame
    constructor
    · intro deployment hmem
      -- the key of the deployment is tracked, so it was given as an id
      have hkey : deployment.key ∈ registry.ids :=
        DeploymentRegistry.mem_ids.mpr ⟨deployment, hmem, rfl⟩
      exact lower_eq_of_given hmem ((hsame _).mp (hknown.keys _ hkey))
    · intro attempt hattempt
      exact (hsame _).mp (hknown.attempted attempt hattempt)
  · rintro ⟨hlower, hregistered⟩ deploymentId
    constructor
    · intro htracked
      rcases hknown.known deploymentId htracked with hkey | hgiven | ⟨attempt, hattempt, rfl⟩
      · obtain ⟨deployment, hmem, rfl⟩ := DeploymentRegistry.mem_ids.mp hkey
        show lowercase.lower deployment.id ∈ registry.givenIds
        rw [hlower deployment hmem]
        exact List.mem_map_of_mem hmem
      · exact hgiven
      · exact hregistered attempt hattempt
    · intro hgiven
      obtain ⟨deployment, hmem, rfl⟩ := List.mem_map.mp hgiven
      apply hknown.keys
      exact DeploymentRegistry.mem_ids.mpr ⟨deployment, hmem, hlower deployment hmem⟩

/-! ### An id with upper-case letters -/

/-- Lower case of text without letters beyond ASCII. -/
def asciiLowercase : Lowercase where
  lower text := String.ofList (text.toList.map Char.toLower)
  idempotent text := by
    have hchar : ∀ letter : Char, letter.toLower.toLower = letter.toLower := by
      intro letter
      unfold Char.toLower
      grind
    rw [String.toList_ofList, List.map_map]
    congr 2
    funext letter
    exact hchar letter

/-- A deployment registered as `Mock-One`. -/
def mockOne : RegisteredDeployment asciiLowercase where
  ref := ⟨⟨"Mock-One", by decide⟩, none, ⟨"mock", by decide⟩, ⟨"mock", by decide⟩, none, none⟩
  engineName := "mock"
  capabilities := ⟨none, none, none, none, none, none, none, none, none⟩
  policyProfile := RoutingPolicyProfile.default
  named := rfl

/-- With `Mock-One` registered, a state is kept under `mock-one`, whatever happens. -/
theorem mock_one_not_tracked :
    ∃ registry : DeploymentRegistry asciiLowercase,
      DeploymentRegistry.empty.register mockOne = .ok registry ∧
      ∀ rounding now ttlSeconds events,
        ¬ TracksExactly registry (storeAfter rounding now ttlSeconds registry events) := by
  have hfresh : ∃ final, DeploymentRegistry.empty.register mockOne = .ok final :=
    DeploymentRegistry.register_fresh List.not_mem_nil
  obtain ⟨registry, hregister⟩ := hfresh
  apply Exists.intro registry
  constructor
  · exact hregister
  · intro rounding now ttlSeconds events htracks
    have hknown : TracksKnown registry (attemptsOf events)
        ((collectorMachine rounding ttlSeconds registry).after (.new registry now ttlSeconds)
          events) := tracksKnown_after now registry events
    have hall : registry.all = [mockOne] := DeploymentRegistry.register_all hregister
    -- the key `mock-one` is tracked, but the only id that was given is `Mock-One`
    have hkey : mockOne.key ∈ registry.ids :=
      DeploymentRegistry.mem_ids.mpr ⟨mockOne, by rw [hall]; exact List.mem_singleton_self _, rfl⟩
    have hgiven := (tracksExactly_iff.mp htracks _).mp (hknown.keys _ hkey)
    unfold DeploymentRegistry.givenIds at hgiven
    rw [hall, List.map_singleton, List.mem_singleton] at hgiven
    have hdiffers : asciiLowercase.lower "Mock-One" ≠ "Mock-One" := by decide
    exact hdiffers hgiven

end Inference
end Ryuk

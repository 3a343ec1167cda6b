import Ryuk.Inference.Adapters

/-!
# Which answers an adapter cannot take

An adapter lets out `InferenceFailure`s and nothing else exactly when what it hands on unchecked
is what the receiver takes.  For each of the three adapters this is a condition on the answer.
-/

namespace Ryuk
namespace Inference

open Foundation Foundation.Json Foundation.Text Foundation.Datetime

/-! ### Validating dataclasses -/

/-- A value that is no negative number, of a type that compares with a number. -/
def isCount : Json → Bool
  | .null | .bool _ => true
  | .int value => decide (0 ≤ value)
  | .float value => !value.isNegative
  | .str _ | .arr _ | .obj _ => false

theorem requireNonnegative_ok (value : Json) (fieldName : String) :
    requireNonnegative value fieldName = .ok () ↔ isCount value = true := by
  cases value with
  | null => simp [requireNonnegative, isCount]
  | bool value => simp [requireNonnegative, isNegative, isCount, bind, Except.bind, pure, Except.pure]
  | int value =>
      by_cases hnegative : value < 0
      · simp [requireNonnegative, isNegative, isCount, bind, Except.bind, hnegative]
      · simp [requireNonnegative, isNegative, isCount, bind, Except.bind, pure, Except.pure,
          hnegative, not_lt.mp hnegative]
  | float value =>
      cases hnegative : value.isNegative with
      | false => simp [requireNonnegative, isNegative, isCount, bind, Except.bind, pure, Except.pure,
          hnegative]
      | true => simp [requireNonnegative, isNegative, isCount, bind, Except.bind, hnegative]
  | str value => simp [requireNonnegative, isNegative, isCount, bind, Except.bind]
  | arr items => simp [requireNonnegative, isNegative, isCount, bind, Except.bind]
  | obj fields => simp [requireNonnegative, isNegative, isCount, bind, Except.bind]

theorem validateOptionalIdentifier_ok {value : Option String} {fieldName : String} :
    (∃ found, validateOptionalIdentifier value fieldName = .ok found) ↔
      ∀ text ∈ value, isIdentifier text = true := by
  cases value with
  | none => simp [validateOptionalIdentifier]
  | some text =>
      by_cases htext : isIdentifier text = true
      · simp [validateOptionalIdentifier, requireIdentifier, htext, Except.map]
      · simp [validateOptionalIdentifier, requireIdentifier, htext, Except.map]

theorem modelRef_ok {artifactId : String} {revision servedName : Option String} :
    (∃ model, ModelRef.new artifactId revision servedName = .ok model) ↔
      isIdentifier artifactId = true ∧ (∀ text ∈ revision, isIdentifier text = true) ∧
        ∀ text ∈ servedName, isIdentifier text = true := by
  rw [← @requireIdentifier_ok artifactId "artifact_id",
    ← @validateOptionalIdentifier_ok revision "revision",
    ← @validateOptionalIdentifier_ok servedName "served_name"]
  unfold ModelRef.new
  simp only [bind_eq_ok]
  constructor
  · rintro ⟨model, artifact, hartifact, found, hrevision, served, hserved, -⟩
    exact ⟨⟨artifact, hartifact⟩, ⟨found, hrevision⟩, ⟨served, hserved⟩⟩
  · rintro ⟨⟨artifact, hartifact⟩, ⟨found, hrevision⟩, ⟨served, hserved⟩⟩
    exact ⟨_, artifact, hartifact, found, hrevision, served, hserved, rfl⟩

/-- The clock gives an aware time: only the source is checked. -/
theorem observation_ok {model : ModelRef} {now : Instant} {source : String} :
    (∃ observation, ModelIdentityObservation.new model now.utc source = .ok observation) ↔
      isIdentifier source = true := by
  rw [← @requireIdentifier_ok source "source"]
  unfold ModelIdentityObservation.new
  have haware : now.utc.utcoffset.isSome = true := rfl
  simp only [bind_eq_ok, haware, dite_true]
  constructor
  · rintro ⟨observation, found, hfound, -⟩
    exact ⟨found, hfound⟩
  · rintro ⟨found, hfound⟩
    exact ⟨_, found, hfound, rfl⟩

theorem identityOf_ok {artifactId source : String} {revision servedName : Option String}
    {now : Instant} {metadata : List (String × Json)} :
    (∃ discovery, identityOf artifactId revision servedName now source metadata = .ok discovery) ↔
      isIdentifier artifactId = true ∧ (∀ text ∈ revision, isIdentifier text = true) ∧
        (∀ text ∈ servedName, isIdentifier text = true) ∧ isIdentifier source = true := by
  unfold identityOf
  simp only [bind_eq_ok]
  constructor
  · rintro ⟨discovery, model, hmodel, observation, hobservation, -⟩
    obtain ⟨hartifact, hrevision, hserved⟩ := modelRef_ok.mp ⟨model, hmodel⟩
    exact ⟨hartifact, hrevision, hserved, observation_ok.mp ⟨observation, hobservation⟩⟩
  · rintro ⟨hartifact, hrevision, hserved, hsource⟩
    obtain ⟨model, hmodel⟩ := modelRef_ok.mpr ⟨hartifact, hrevision, hserved⟩
    obtain ⟨observation, hobservation⟩ := (@observation_ok model now source).mpr hsource
    exact ⟨_, model, hmodel, observation, hobservation, rfl⟩

/-- Whatever a dataclass raises is no failure of inference. -/
theorem unguarded_failures {α : Type} {value : Except PyError α} :
    Raises IsFailure (unguarded value) ↔ ∃ found, value = .ok found := by
  cases value with
  | error error =>
      constructor
      · intro h
        exact absurd (h _ rfl) (not_isFailure_raised error)
      · rintro ⟨found, h⟩
        cases h
  | ok found => exact ⟨fun _ => ⟨found, rfl⟩, fun _ => raises_ok found⟩

theorem raises_map {α β : Type} {x : Except Interruption α} {f : α → β} :
    Raises IsFailure (x.map f) ↔ Raises IsFailure x := by
  cases x with
  | error error =>
      constructor
      · intro h found hfound
        cases hfound
        exact h _ rfl
      · intro h
        exact h.map f
  | ok value => exact ⟨fun _ => raises_ok value, fun _ => raises_ok _⟩

/-! ### The vLLM worker -/

namespace VLLMWorkerEngine

variable {engine : VLLMWorkerEngine} {reader : JsonReader} {operation : String}
  {exchange : Exchange} {fields : List (String × Json)}

theorem raiseForStatus_failures (status : Nat) :
    Raises IsFailure (raiseForStatus operation status) := by
  unfold raiseForStatus
  apply Raises.ite (raises_error (isFailure_failureWith _ _))
  apply Raises.ite (raises_error (isFailure_failureWith _ _))
  apply Raises.ite (raises_error (isFailure_failureWith _ _))
  exact Raises.ite (raises_ok ()) (raises_error (isFailure_failureWith _ _))

/-- The statuses refused before the test of success are none of success. -/
theorem raiseForStatus_ok (status : Nat) :
    raiseForStatus operation status = .ok () ↔ isSuccess status = true := by
  unfold raiseForStatus isSuccess
  simp only [List.mem_cons, List.not_mem_nil, or_false, Bool.and_eq_true, decide_eq_true_eq]
  split_ifs with hcapacity hdeadline hserver hsuccess
  · simp only [false_iff]
    omega
  · simp only [false_iff]
    omega
  · simp only [false_iff]
    omega
  · simpa using hsuccess
  · simpa using hsuccess

theorem json_failures : Raises IsFailure (engine.json reader operation exchange) := by
  apply (stream_failures (isFailure_failureWith _ _) raiseForStatus_failures exchange).bind
  rintro ⟨status, body⟩
  dsimp only
  split
  · exact raises_throw (isFailure_failureWith _ _)
  · exact raises_pure _
  · exact raises_throw (isFailure_failureWith _ _)

/-- The object an answer delivers. -/
theorem json_ok :
    engine.json reader operation exchange = .ok fields ↔
      ∃ status body, exchange.Delivers engine.maxResponseBytes status body ∧
        reader.loads body = .ok (.obj fields) := by
  unfold json
  rw [bind_eq_ok]
  constructor
  · rintro ⟨⟨status, body⟩, hstream, h⟩
    refine ⟨status, body, (stream_ok raiseForStatus_ok).mp hstream, ?_⟩
    dsimp only at h
    split at h
    · cases h
    · cases h
      assumption
    · cases h
  · rintro ⟨status, body, hdelivers, hloads⟩
    refine ⟨(status, body), (stream_ok raiseForStatus_ok).mpr hdelivers, ?_⟩
    dsimp only
    rw [hloads]
    rfl

/-- The check of availability fails to return on a healthy status with JSON that is no object. -/
theorem isAvailable_iff :
    (∃ ready, isAvailable reader exchange = .ok ready) ↔
      ∀ chunks value, exchange = .answered 200 chunks none →
        reader.loads chunks.flatten = .ok value → value.isObject = true := by
  constructor
  · rintro ⟨ready, h⟩ chunks value rfl hloads
    unfold isAvailable at h
    dsimp only at h
    rw [if_pos rfl, hloads] at h
    cases value with
    | obj fields => rfl
    | _ => cases h
  · intro h
    unfold isAvailable
    split
    · exact ⟨false, rfl⟩
    · exact ⟨false, rfl⟩
    · split_ifs with hstatus
      · split
        · exact ⟨false, rfl⟩
        · exact ⟨_, rfl⟩
        · rename_i chunks _ value hloads hnone
          subst hstatus
          -- a value that is no object is not allowed
          have hobject := h chunks value rfl hnone
          cases value with
          | obj fields => exact absurd rfl (hloads fields)
          | _ => cases hobject
      · exact ⟨false, rfl⟩

/-- The identity of a worker is one that `ModelRef` takes. -/
def IdentityFits (fields : List (String × Json)) : Prop :=
  ∀ artifact, lookup "model_artifact_id" fields = some (.str artifact) → artifact ≠ "" →
    ((lookup "model_revision" fields).getD .null = .null → isIdentifier artifact = true) ∧
      ∀ revision, lookup "model_revision" fields = some (.str revision) →
        isIdentifier artifact = true ∧ isIdentifier revision = true

theorem source_isIdentifier : isIdentifier "vllm-worker:/ryuk/v1/identity" = true := by decide

/-- A value that is neither absent nor `null` is a text or of a wrong type. -/
theorem readIdentity_iff {now : Instant} {fields : List (String × Json)} :
    Raises IsFailure (readIdentity now fields) ↔ IdentityFits fields := by
  unfold readIdentity IdentityFits
  cases hartifact : lookup "model_artifact_id" fields with
  | none => simp [raises_throw (isFailure_failureWith _ _), invalidIdentity]
  | some value =>
      cases value with
      | str artifact =>
          simp only [Option.some.injEq, Json.str.injEq, forall_eq']
          by_cases hempty : artifact = ""
          · rw [if_pos hempty]
            exact ⟨fun _ h => absurd hempty h, fun _ => raises_throw (isFailure_failureWith _ _)⟩
          · rw [if_neg hempty]
            cases hrevision : lookup "model_revision" fields with
            | none =>
                simp [unguarded_failures, identityOf_ok, source_isIdentifier, hempty]
            | some found =>
                cases found with
                | null => simp [unguarded_failures, identityOf_ok, source_isIdentifier, hempty]
                | str revision =>
                    simp [unguarded_failures, identityOf_ok, source_isIdentifier, hempty]
                | _ =>
                    simp [raises_throw (isFailure_failureWith _ _), invalidIdentity]
      | _ => simp [raises_throw (isFailure_failureWith _ _), invalidIdentity]

theorem discoverModelIdentity_iff {now : Instant} :
    Raises IsFailure (engine.discoverModelIdentity reader now exchange) ↔
      ∀ status body fields, exchange.Delivers engine.maxResponseBytes status body →
        reader.loads body = .ok (.obj fields) → IdentityFits fields := by
  unfold discoverModelIdentity
  rw [raises_bind_iff json_failures]
  constructor
  · intro h status body fields hdelivers hloads
    exact readIdentity_iff.mp (h fields (json_ok.mpr ⟨status, body, hdelivers, hloads⟩))
  · intro h fields hjson
    obtain ⟨status, body, hdelivers, hloads⟩ := json_ok.mp hjson
    exact readIdentity_iff.mpr (h status body fields hdelivers hloads)

/-- The counts of an answer with text and usage, and its latency where it is used, are values
that `TokenUsage` and `InferenceTiming` take. -/
def GenerationFits (fields : List (String × Json)) : Prop :=
  ∀ text usage, lookup "text" fields = some (.str text) →
    (lookup "usage" fields).getD (.obj []) = .obj usage →
      isCount ((lookup "input_tokens" usage).getD .null) = true ∧
      isCount ((lookup "output_tokens" usage).getD .null) = true ∧
      (((lookup "latency_ms" fields).getD .null).truthy = true →
        isCount ((lookup "latency_ms" fields).getD .null) = true)

theorem resultOf_ok {text : String} {usage : List (String × Json)} {elapsedMs : ℚ≥0} :
    (∃ result, resultOf fields text usage elapsedMs = .ok result) ↔
      isCount ((lookup "input_tokens" usage).getD .null) = true ∧
      isCount ((lookup "output_tokens" usage).getD .null) = true ∧
      (((lookup "latency_ms" fields).getD .null).truthy = true →
        isCount ((lookup "latency_ms" fields).getD .null) = true) := by
  unfold resultOf
  simp only [bind_eq_ok]
  split_ifs with hlatency
  · simp only [bind_eq_ok]
    constructor
    · rintro ⟨result, _, hinput, _, houtput, _, htotal, -⟩
      exact ⟨(requireNonnegative_ok _ _).mp hinput, (requireNonnegative_ok _ _).mp houtput,
        fun _ => (requireNonnegative_ok _ _).mp htotal⟩
    · rintro ⟨hinput, houtput, htotal⟩
      exact ⟨_, (), (requireNonnegative_ok _ _).mpr hinput, (),
        (requireNonnegative_ok _ _).mpr houtput, (),
        (requireNonnegative_ok _ _).mpr (htotal hlatency), rfl⟩
  · constructor
    · rintro ⟨result, _, hinput, _, houtput, -⟩
      exact ⟨(requireNonnegative_ok _ _).mp hinput, (requireNonnegative_ok _ _).mp houtput,
        fun h => absurd h hlatency⟩
    · rintro ⟨hinput, houtput, -⟩
      exact ⟨_, (), (requireNonnegative_ok _ _).mpr hinput, (),
        (requireNonnegative_ok _ _).mpr houtput, rfl⟩

theorem readGeneration_iff {elapsedMs : ℚ≥0} {fields : List (String × Json)} :
    Raises IsFailure (readGeneration fields elapsedMs) ↔ GenerationFits fields := by
  unfold readGeneration GenerationFits
  split
  · rename_i text usage htext husage
    rw [unguarded_failures, resultOf_ok]
    simp [htext, husage]
  · rename_i hother
    constructor
    · intro _ text usage htext husage
      exact absurd husage (hother text usage htext)
    · intro _
      exact raises_throw (isFailure_failureWith _ _)

theorem generateTask_iff {elapsedMs : ℚ≥0} :
    Raises IsFailure (engine.generateTask reader elapsedMs exchange) ↔
      ∀ status body fields, exchange.Delivers engine.maxResponseBytes status body →
        reader.loads body = .ok (.obj fields) → GenerationFits fields := by
  unfold generateTask
  rw [raises_bind_iff json_failures]
  constructor
  · intro h status body fields hdelivers hloads
    exact readGeneration_iff.mp (h fields (json_ok.mpr ⟨status, body, hdelivers, hloads⟩))
  · intro h fields hjson
    obtain ⟨status, body, hdelivers, hloads⟩ := json_ok.mp hjson
    exact readGeneration_iff.mpr (h status body fields hdelivers hloads)

end VLLMWorkerEngine

/-! ### Managed servers -/

namespace ManagedHTTPInferenceEngine

variable {engine : ManagedHTTPInferenceEngine} {reader : JsonReader} {operation : String}
  {exchange : Exchange} {fields : List (String × Json)}

theorem raiseForStatus_failures (status : Nat) :
    Raises IsFailure (raiseForStatus operation status) := by
  unfold raiseForStatus
  refine Raises.ite (raises_ok ()) ?_
  apply Raises.ite (raises_error (isFailure_failureWith _ _))
  apply Raises.ite (raises_error (isFailure_failureWith _ _))
  exact Raises.ite (raises_error (isFailure_failureWith _ _))
    (raises_error (isFailure_failureWith _ _))

theorem raiseForStatus_ok (status : Nat) :
    raiseForStatus operation status = .ok () ↔ isSuccess status = true := by
  unfold raiseForStatus
  by_cases hsuccess : isSuccess status = true
  · rw [if_pos hsuccess]
    exact ⟨fun _ => hsuccess, fun _ => rfl⟩
  · rw [if_neg hsuccess]
    split_ifs <;> simp [hsuccess]

theorem json_failures : Raises IsFailure (engine.json reader operation exchange) := by
  apply (stream_failures (isFailure_failureWith _ _) raiseForStatus_failures exchange).bind
  rintro ⟨status, body⟩
  dsimp only
  split
  · exact Raises.ite (raises_throw (isFailure_failureWith _ _))
      (raises_throw (isFailure_failureWith _ _))
  · apply Raises.ite (raises_throw (isFailure_failureWith _ _))
    split
    · exact raises_pure _
    · exact raises_throw (isFailure_failureWith _ _)

/-- The object an answer delivers, unless its status says that it is pending. -/
theorem json_ok :
    engine.json reader operation exchange = .ok fields ↔
      ∃ status body, exchange.Delivers engine.maxResponseBytes status body ∧ status ≠ 202 ∧
        reader.loads body = .ok (.obj fields) := by
  unfold json
  rw [bind_eq_ok]
  constructor
  · rintro ⟨⟨status, body⟩, hstream, h⟩
    refine ⟨status, body, (stream_ok raiseForStatus_ok).mp hstream, ?_⟩
    dsimp only at h
    split at h
    · split_ifs at h
    · split_ifs at h with hpending
      split at h
      · cases h
        exact ⟨hpending, by assumption⟩
      · cases h
  · rintro ⟨status, body, hdelivers, hpending, hloads⟩
    refine ⟨(status, body), (stream_ok raiseForStatus_ok).mpr hdelivers, ?_⟩
    dsimp only
    rw [hloads]
    dsimp only
    rw [if_neg hpending]
    rfl

theorem isAvailable_total (exchange : Exchange) : ∃ ready, isAvailable exchange = .ok ready := by
  unfold isAvailable
  split
  · exact ⟨false, rfl⟩
  · exact ⟨false, rfl⟩
  · exact ⟨_, rfl⟩

/-- A served model has a name that `ModelRef` takes. -/
def IdentityFits (engine : ManagedHTTPInferenceEngine) (fields : List (String × Json)) : Prop :=
  ∀ data, lookup "data" fields = some (.arr data) → Json.str engine.model ∈ modelIds data →
    isIdentifier engine.model = true ∧ isIdentifier engine.source = true

theorem readIdentity_iff {now : Instant} :
    Raises IsFailure (engine.readIdentity now fields) ↔ engine.IdentityFits fields := by
  unfold readIdentity IdentityFits
  split
  · rename_i data hdata
    by_cases hserved : Json.str engine.model ∈ modelIds data
    · rw [if_pos hserved, unguarded_failures, identityOf_ok]
      simp [hdata, hserved]
    · rw [if_neg hserved]
      constructor
      · intro _ found hfound hmem
        rw [hdata] at hfound
        cases hfound
        exact absurd hmem hserved
      · intro _
        exact raises_throw (isFailure_failureWith _ _)
  · rename_i hother
    constructor
    · intro _ data hdata
      exact absurd hdata (hother data)
    · intro _
      exact raises_throw (isFailure_failureWith _ _)

theorem discoverModelIdentity_iff {now : Instant} :
    Raises IsFailure (engine.discoverModelIdentity reader now exchange) ↔
      ∀ status body fields, exchange.Delivers engine.maxResponseBytes status body →
        status ≠ 202 → reader.loads body = .ok (.obj fields) → engine.IdentityFits fields := by
  unfold discoverModelIdentity
  rw [raises_bind_iff json_failures]
  constructor
  · intro h status body fields hdelivers hpending hloads
    exact readIdentity_iff.mp (h fields (json_ok.mpr ⟨status, body, hdelivers, hpending, hloads⟩))
  · intro h fields hjson
    obtain ⟨status, body, hdelivers, hpending, hloads⟩ := json_ok.mp hjson
    exact readIdentity_iff.mpr (h status body fields hdelivers hpending hloads)

theorem optionalCount_nonneg (value : Option Json) : ∀ count ∈ optionalCount value, 0 ≤ count := by
  unfold optionalCount
  split
  · split_ifs with hvalue
    · simpa using hvalue
    · simp
  · simp

/-- The checked counts and the measured time are what the dataclasses take. -/
theorem resultOf_total {choice usage : List (String × Json)} {text : String} {elapsedMs : ℚ≥0} :
    ∃ result, engine.resultOf fields choice text usage elapsedMs = .ok result := by
  unfold resultOf TokenUsage.new InferenceTiming.new
  have htotal : ∀ total ∈ some (elapsedMs : ℚ), 0 ≤ total := by simp
  rw [dif_pos (optionalCount_nonneg _), dif_pos (optionalCount_nonneg _), dif_pos htotal]
  exact ⟨_, rfl⟩

theorem generateTask_failures {task : InferenceTask} {elapsedMs : ℚ≥0} :
    Raises IsFailure (engine.generateTask reader task elapsedMs exchange) := by
  apply json_failures.bind
  intro result
  unfold readGeneration
  split
  · split
    · split
      · exact unguarded_failures.mpr resultOf_total
      · exact raises_throw (isFailure_failureWith _ _)
    · exact raises_throw (isFailure_failureWith _ _)
  · exact raises_throw (isFailure_failureWith _ _)

end ManagedHTTPInferenceEngine

/-! ### SGLang -/

namespace SGLangEngine

variable {engine : SGLangEngine} {reader : JsonReader} {operation : String} {exchange : Exchange}
  {fields : List (String × Json)}

theorem raiseForStatus_failures (status : Nat) :
    Raises IsFailure (raiseForStatus operation status) := by
  unfold raiseForStatus
  refine Raises.ite (raises_ok ()) ?_
  apply Raises.ite
  · exact Raises.ite (raises_error (isFailure_failureWith _ _))
      (raises_error (isFailure_failureWith _ _))
  · apply Raises.ite (raises_error (isFailure_failureWith _ _))
    apply Raises.ite (raises_error (isFailure_failureWith _ _))
    exact Raises.ite (raises_error (isFailure_failureWith _ _))
      (raises_error (isFailure_failureWith _ _))

theorem raiseForStatus_ok (status : Nat) :
    raiseForStatus operation status = .ok () ↔ isSuccess status = true := by
  unfold raiseForStatus
  by_cases hsuccess : isSuccess status = true
  · rw [if_pos hsuccess]
    exact ⟨fun _ => hsuccess, fun _ => rfl⟩
  · rw [if_neg hsuccess]
    split_ifs <;> simp [hsuccess]

theorem unreadable_isFailure (reason : String) : IsFailure (unreadable operation reason) := by
  unfold unreadable
  split_ifs
  · exact isFailure_failureWith _ _
  · exact isFailure_failureWith _ _

/-- An answer is read without other errors unless its body has a number that is too long. -/
theorem requestJson_iff :
    Raises IsFailure (engine.requestJson reader operation exchange) ↔
      ∀ status body message, exchange.Delivers engine.maxResponseBytes status body →
        reader.loadsText body ≠ .error (.valueError message) := by
  unfold requestJson
  rw [raises_bind_iff (stream_failures (isFailure_failureWith _ _) raiseForStatus_failures exchange)]
  constructor
  · intro h status body message hdelivers hloads
    have hrest := h (status, body) ((stream_ok raiseForStatus_ok).mpr hdelivers)
    dsimp only at hrest
    rw [hloads] at hrest
    exact not_isFailure_raised _ (hrest _ rfl)
  · rintro h ⟨status, body⟩ hstream
    have hdelivers := (stream_ok raiseForStatus_ok).mp hstream
    dsimp only
    split
    · rename_i message hloads
      exact absurd hloads (h status body message hdelivers)
    · exact raises_throw (unreadable_isFailure _)
    · exact raises_pure _
    · exact raises_throw (unreadable_isFailure _)

theorem isAvailable_total (exchange : Exchange) : ∃ ready, isAvailable exchange = .ok ready := by
  unfold isAvailable
  split
  · exact ⟨false, rfl⟩
  · exact ⟨false, rfl⟩
  · exact ⟨_, rfl⟩

/-- A string that is handed on is one that `ModelRef` takes. -/
theorem optionalModelInfoString_cases (fields : List (String × Json)) (fieldName : String) :
    (∃ found : Option String, optionalModelInfoString fields fieldName = .ok found ∧
      ∀ text ∈ found, isIdentifier text = true) ∨
      ∃ context, optionalModelInfoString fields fieldName =
        .error (identityDiscoveryError context) := by
  unfold optionalModelInfoString
  split
  · exact Or.inl ⟨none, rfl, by simp⟩
  · exact Or.inl ⟨none, rfl, by simp⟩
  · split_ifs with htext
    · exact Or.inl ⟨_, rfl, by simpa using htext⟩
    · exact Or.inr ⟨_, rfl⟩
  · exact Or.inr ⟨_, rfl⟩

theorem optionalModelInfoString_failures (fieldName : String) :
    Raises IsFailure (optionalModelInfoString fields fieldName) := by
  rcases optionalModelInfoString_cases fields fieldName with ⟨found, h, -⟩ | ⟨context, h⟩
  · rw [h]
    exact raises_ok found
  · rw [h]
    exact raises_error (isFailure_failureWith _ _)

theorem identifier_of_ok {fieldName : String} {found : Option String}
    (h : optionalModelInfoString fields fieldName = .ok found) :
    ∀ text ∈ found, isIdentifier text = true := by
  rcases optionalModelInfoString_cases fields fieldName with ⟨other, hother, hfound⟩ | ⟨_, hother⟩
  · rw [h] at hother
    cases hother
    exact hfound
  · rw [h] at hother
    cases hother

theorem source_isIdentifier : isIdentifier "sglang:/model_info" = true := by decide

theorem readIdentity_failures {asRevision : Bool} {now : Instant} :
    Raises IsFailure (readIdentity asRevision now fields) := by
  unfold readIdentity
  rw [raises_bind_iff (optionalModelInfoString_failures _)]
  intro modelPath hpath
  cases modelPath with
  | none => exact raises_throw (isFailure_failureWith _ _)
  | some modelPath =>
      dsimp only
      rw [raises_bind_iff (optionalModelInfoString_failures _)]
      intro servedName hserved
      rw [raises_bind_iff (optionalModelInfoString_failures _)]
      intro revision hrevision
      rw [unguarded_failures, identityOf_ok]
      refine ⟨identifier_of_ok hpath _ rfl, ?_, identifier_of_ok hserved, source_isIdentifier⟩
      -- without the option there is no revision
      cases asRevision with
      | true => exact identifier_of_ok hrevision
      | false => simp

theorem discoverModelIdentity_iff {asRevision : Bool} {now : Instant} :
    Raises IsFailure (engine.discoverModelIdentity reader asRevision now exchange) ↔
      ∀ status body message, exchange.Delivers engine.maxResponseBytes status body →
        reader.loadsText body ≠ .error (.valueError message) := by
  unfold discoverModelIdentity
  rw [raises_bind_iff_first fun _ => readIdentity_failures]
  exact requestJson_iff

theorem optionalNonnegativeInt_failures (info : List (String × Json)) (field : String) :
    Raises IsFailure (optionalNonnegativeInt info field) := by
  unfold optionalNonnegativeInt
  split
  · exact raises_ok _
  · exact raises_ok _
  · exact Raises.ite (raises_error (isFailure_failureWith _ _)) (raises_ok _)
  · exact raises_error (isFailure_failureWith _ _)

theorem optionalFinishReason_failures (info : List (String × Json)) :
    Raises IsFailure (optionalFinishReason info) := by
  unfold optionalFinishReason
  split
  · exact raises_ok _
  · exact raises_ok _
  · exact raises_ok _
  · exact raises_error (isFailure_failureWith _ _)

theorem readGeneration_failures {model : String} {elapsedMs : ℚ≥0} :
    Raises IsFailure (readGeneration model fields elapsedMs) := by
  unfold readGeneration
  split
  · apply (optionalNonnegativeInt_failures _ _).bind
    intro inputTokens
    apply (optionalNonnegativeInt_failures _ _).bind
    intro outputTokens
    apply (optionalFinishReason_failures _).bind
    intro finishReason
    exact raises_pure _
  · exact raises_throw (isFailure_failureWith _ _)

theorem generate_iff {model : String} {elapsedMs : ℚ≥0} :
    Raises IsFailure (engine.generate reader model elapsedMs exchange) ↔
      ∀ status body message, exchange.Delivers engine.maxResponseBytes status body →
        reader.loadsText body ≠ .error (.valueError message) := by
  unfold generate
  rw [raises_bind_iff_first fun _ => readGeneration_failures]
  exact requestJson_iff

/-- The counts of a response were checked. -/
theorem optionalNonnegativeInt_nonneg {info : List (String × Json)} {field : String}
    {found : Option Int} (h : optionalNonnegativeInt info field = .ok found) :
    ∀ count ∈ found, 0 ≤ count := by
  unfold optionalNonnegativeInt at h
  split at h
  · cases h
    simp
  · cases h
    simp
  · split_ifs at h with hnegative
    cases h
    simpa using hnegative
  · cases h

end SGLangEngine

end Inference
end Ryuk

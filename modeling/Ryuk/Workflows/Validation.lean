import Ryuk.Audit.Deterministic
import Ryuk.Workflows.Contracts

/-!
# Artifact-bound acceptance

A policy is stored as its snapshot, a canonical JSON value; `validateArtifact`
rebuilds the policy from a snapshot and evaluates a stored artifact against it.
The report names the artifact, the snapshot and the decision; any finding
rejects.
-/

namespace Ryuk
namespace Workflows

open Foundation Foundation.Json Foundation.Text Inference Audit

/-- `VALIDATOR_VERSION`. -/
def validatorVersion : String := "workflow-deterministic-v1"

/-- `asdict(policy)`. -/
def policyDict (policy : ValidationPolicy) : Json :=
  .obj
    [("required_sections", .arr (policy.requiredSections.map .str)),
      ("require_citations", .bool policy.requireCitations),
      ("minimum_chars", .int policy.minimumChars),
      ("maximum_chars", .int policy.maximumChars),
      ("language", optionalStr policy.language),
      ("forbidden_phrases", .arr (policy.forbiddenPhrases.map .str)),
      ("output_schema",
        match policy.outputSchema with
        | none => .null
        | some constraint => .obj [("schema", .obj constraint.schema)])]

/-- A property rule the validator can enforce. -/
def supportedRule : Json → Bool
  | .obj fields =>
      keysAre fields ["type"] &&
        match lookup "type" fields with
        | some (.str name) =>
            ["string", "integer", "number", "boolean", "array", "object"].contains name
        | _ => false
  | _ => false

/-- The checks `policy_snapshot` makes on the schema of a snapshot. -/
def checkSnapshotSchema (schema : Json) : Except PyError Unit := do
  let constraint ← JSONSchemaConstraint.new schema
  if (keys constraint.schema).all
      ["type", "properties", "required", "additionalProperties"].contains then
    match lookup "additionalProperties" constraint.schema with
    | none | some (.bool _) =>
        if constraint.properties.all fun field => supportedRule field.2 then pure ()
        else throw (.valueError "Unsupported schema property rule")
    | some _ => throw (.valueError "additionalProperties must be boolean")
  else throw (.valueError "Unsupported schema keyword")

/-- `policy_snapshot`. -/
def policySnapshot (policy : ValidationPolicy) : Except PyError Json := do
  if policy.language = none ∨ policy.language = some "ascii" then
    if (policy.requiredSections ++ policy.forbiddenPhrases).all fun item => !isBlank item then
      let text ← canonicalJson (policyDict policy)
      let snapshot ← loadsJson text
      match snapshot.get? "output_schema" with
      | some (.obj wrapper) => do
          let (schema, _) ← pop "schema" wrapper
          let _ ← checkSnapshotSchema schema
          pure snapshot
      | _ => pure snapshot
    else throw (.valueError "Validation rules must be nonempty strings")
  else throw (.valueError "Unsupported validation policy")

/-- A snapshot is the canonical form of its policy. -/
theorem policySnapshot_ok {policy : ValidationPolicy} {snapshot : Json}
    (h : policySnapshot policy = .ok snapshot) : snapshot = canon (policyDict policy) := by
  unfold policySnapshot at h
  simp only [bind, Except.bind, pure, Except.pure, throw, throwThe, MonadExceptOf.throw] at h
  split_ifs at h with hlanguage hrules
  · cases htext : canonicalJson (policyDict policy) with
    | error error => simp [htext] at h
    | ok text =>
        simp only [htext, loadsJson_canonicalJson htext] at h
        split at h
        · split at h
          · cases h
          · split at h
            · cases h
            · exact (Except.ok.inj h).symm
        · exact (Except.ok.inj h).symm

/-! ### Reading a snapshot -/

/-- The strings of a tuple of rules. -/
def ruleTexts (rules : List Json) : Except PyError (List String) :=
  rules.mapM fun rule =>
    match rule with
    | .str text => .ok text
    | _ => .error (.valueError "Validation rules must be nonempty strings")

/-- A length bound: a number is compared before its type is checked. -/
def asBound : Json → Except PyError Int
  | .int value => .ok value
  | .bool _ | .float _ => .error (.valueError "Unsupported validation policy")
  | .null | .str _ | .arr _ | .obj _ => .error .typeError

def asCitationFlag : Json → Except PyError Bool
  | .bool value => .ok value
  | _ => .error (.valueError "Unsupported validation policy")

def asLanguage : Json → Except PyError (Option String)
  | .null => .ok none
  | .str text => .ok (some text)
  | _ => .error (.valueError "Unsupported validation policy")

/-- `JSONSchemaConstraint(schema["schema"]) if schema else None`. -/
def asOutputSchema (schema : Json) : Except PyError (Option JSONSchemaConstraint) :=
  if schema.truthy then
    match schema with
    | .obj wrapper => do
        let (inner, _) ← pop "schema" wrapper
        let constraint ← JSONSchemaConstraint.new inner
        pure (some constraint)
    | _ => throw .typeError
  else pure none

/-- `ValidationPolicy(**rules)`. -/
def ValidationPolicy.ofRules (requiredSections forbiddenPhrases : List Json)
    (outputSchema : Option JSONSchemaConstraint) (rules : List (String × Json)) :
    Except PyError ValidationPolicy := do
  let arguments ← keywords (.obj rules)
    ["required_sections", "require_citations", "minimum_chars", "maximum_chars", "language",
      "forbidden_phrases", "output_schema"]
  let minimumChars ← asBound (keyword arguments "minimum_chars" (.int 0))
  let maximumChars ← asBound (keyword arguments "maximum_chars" (.int 100000))
  if hbounded : 0 ≤ minimumChars ∧ minimumChars ≤ maximumChars then
    let requireCitations ← asCitationFlag (keyword arguments "require_citations" (.bool false))
    let language ← asLanguage (keyword arguments "language" .null)
    let requiredSections ← ruleTexts requiredSections
    let forbiddenPhrases ← ruleTexts forbiddenPhrases
    pure
      { requiredSections, requireCitations, minimumChars, maximumChars, language
        forbiddenPhrases, outputSchema
        bounded := hbounded }
  else throw (.valueError "Invalid validation length bounds.")

/-- `validation_policy_from_snapshot`. -/
def validationPolicyFromSnapshot (snapshot : Json) : Except PyError ValidationPolicy := do
  let rules ← pyDict snapshot
  let (sections, _) ← pop "required_sections" rules
  let sections ← tupleOf sections
  let (phrases, _) ← pop "forbidden_phrases" rules
  let phrases ← tupleOf phrases
  let (schema, _) ← pop "output_schema" rules
  let schema ← asOutputSchema schema
  let policy ← ValidationPolicy.ofRules sections phrases schema rules
  let rebuilt ← policySnapshot policy
  if pyEq rebuilt snapshot then pure policy
  else throw (.valueError "Invalid validation policy snapshot")

/-! ### Validating an artifact -/

/-- A reader that refuses non-finite numbers and repeated keys. -/
def strictHooks : Hooks where
  constant _ := none
  float
    | .finite value => some (.float (.finite value))
    | .nan | .infinity _ => none
  pairs pairs := if (keys pairs).Nodup then some (.obj pairs) else none

/-- One finding of a report. -/
def findingDict (kind code : String) : Json := .obj [("kind", .str kind), ("code", .str code)]

/-- The text of a stored output, when it has one. -/
def outputText (payload : Json) : Option String :=
  match payload.get? "output" with
  | some output =>
      match output.get? "text" with
      | some (.str text) => if isBlank text then none else some text
      | _ => none
  | none => none

/-- The findings of a report. -/
def reportFindings (platform : Platform) (payload schema : Json) (policy : ValidationPolicy) :
    Except PyError (List Json) :=
  match outputText payload with
  | none => .ok [findingDict "schema" "missing_output_text"]
  | some text =>
      if schema ≠ .null ∧ loadsWith strictHooks text = none then
        .ok [findingDict "schema" "invalid_json"]
      else do
        let findings ← validateOutput platform text policy
        pure (findings.map fun finding =>
          findingDict finding.kind.value (finding.kind.value ++ "_rule_failed"))

/-- The artifact a report is bound to. -/
def artifactDict (artifactId sha256 : String) : Json :=
  .obj [("artifact_id", .str artifactId), ("sha256", .str sha256)]

/-- A validation report. -/
def reportDict (ref : ArtifactRef) (snapshot : Json) (findings : List Json) : Json :=
  .obj
    [("schema_version", .int 1),
      ("validator_version", .str validatorVersion),
      ("workflow_id", .str ref.workflowId),
      ("artifact", artifactDict ref.artifactId ref.sha256),
      ("policy", snapshot),
      ("decision", .str (if findings.isEmpty then "accepted" else "rejected")),
      ("findings", .arr findings)]

/-- `validate_artifact`. -/
def validateArtifact {platform : Platform} (artifact : StoredArtifact platform)
    (snapshot : Json) : Except PyError Json := do
  let policy ← validationPolicyFromSnapshot snapshot
  let rules ← pyDict snapshot
  let (schema, _) ← pop "output_schema" rules
  let findings ← reportFindings platform artifact.payload schema policy
  pure (reportDict artifact.ref snapshot findings)

/-- A returned report is the report of some findings. -/
theorem validateArtifact_ok {platform : Platform} {artifact : StoredArtifact platform}
    {snapshot report : Json} (h : validateArtifact artifact snapshot = .ok report) :
    ∃ findings, report = reportDict artifact.ref snapshot findings := by
  unfold validateArtifact at h
  simp only [bind, Except.bind] at h
  split at h
  · cases h
  · split at h
    · cases h
    · split at h
      · cases h
      · split at h
        · cases h
        · rename_i findings _
          exact ⟨findings, (Except.ok.inj h).symm⟩

/-- The artifact of a report is written in canonical order. -/
theorem artifactDict_canonical (artifactId sha256 : String) :
    canon (artifactDict artifactId sha256) = artifactDict artifactId sha256 := by
  refine canon_of_canonical _ ?_
  unfold artifactDict
  simp only [Canonical, CanonicalFields, Sorted, List.pairwise_cons, List.mem_singleton,
    forall_eq, List.not_mem_nil, false_implies, implies_true, List.Pairwise.nil, and_true]
  decide

/-- The fields of a report that bind it to a decision, an artifact and a policy. -/
theorem reportDict_keys_nodup (ref : ArtifactRef) (snapshot : Json) (findings : List Json) :
    ∃ fields, reportDict ref snapshot findings = .obj fields ∧ (keys fields).Nodup ∧
      lookup "decision" fields =
        some (.str (if findings.isEmpty then "accepted" else "rejected")) ∧
      lookup "artifact" fields = some (artifactDict ref.artifactId ref.sha256) ∧
      lookup "policy" fields = some snapshot :=
  ⟨_, rfl, by simp only [keys, List.map_cons, List.map_nil]; decide, rfl, rfl, rfl⟩

end Workflows
end Ryuk

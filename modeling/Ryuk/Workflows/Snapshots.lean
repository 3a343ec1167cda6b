import Ryuk.Workflows.PacketCodec
import Ryuk.Workflows.Requests
import Ryuk.Workflows.Validation

/-!
# Policies and their snapshots

A snapshot is taken of a policy when every rule of the policy can be enforced, and it is
then the canonical form of the policy (`policySnapshot_iff`).  Reading a snapshot back
gives a policy with the same rules, its schema in canonical order
(`validationPolicyFromSnapshot_policySnapshot`), so the validator enforces at the end what
the caller asked for at creation.
-/

namespace Ryuk
namespace Workflows

open Foundation Foundation.Json Foundation.Text Inference Audit

/-- The schema of a policy as a snapshot records it. -/
def recordedSchema (policy : ValidationPolicy) : Option (List (String × Json)) :=
  policy.outputSchema.map fun constraint => sortFields (canonFields constraint.schema)

/-- A policy all of whose rules the validator can enforce. -/
structure Enforceable (policy : ValidationPolicy) : Prop where
  language : policy.language = none ∨ policy.language = some "ascii"
  rules : (policy.requiredSections ++ policy.forbiddenPhrases).all
    (fun item => !isBlank item) = true
  printable : printable (policyDict policy) = true
  schema : ∀ fields, recordedSchema policy = some fields →
    checkSnapshotSchema (.obj fields) = .ok ()

/-- The field of a policy that holds its schema. -/
def schemaField (schema : Option (List (String × Json))) : Json :=
  match schema with
  | none => .null
  | some fields => .obj [("schema", .obj fields)]

theorem policyDict_nodup (policy : ValidationPolicy) :
    ∃ fields, policyDict policy = .obj fields ∧ (keys fields).Nodup ∧
      lookup "output_schema" fields =
        some (schemaField (policy.outputSchema.map JSONSchemaConstraint.schema)) := by
  refine ⟨_, rfl, ?_, ?_⟩
  · simp only [keys, List.map_cons, List.map_nil]
    decide
  · cases policy.outputSchema with
    | none => rfl
    | some constraint => rfl

/-- The schema of a snapshot. -/
theorem get?_policyDict (policy : ValidationPolicy) :
    (canon (policyDict policy)).get? "output_schema" =
      some (schemaField (recordedSchema policy)) := by
  obtain ⟨fields, hdict, hnodup, hschema⟩ := policyDict_nodup policy
  rw [hdict, get?_canon hnodup, hschema]
  unfold recordedSchema
  cases policy.outputSchema with
  | none => rfl
  | some constraint => rfl

/-- A snapshot is taken exactly of the policies that can be enforced, and it is their
canonical form. -/
theorem policySnapshot_iff (policy : ValidationPolicy) (snapshot : Json) :
    policySnapshot policy = .ok snapshot ↔
      Enforceable policy ∧ snapshot = canon (policyDict policy) := by
  constructor
  · intro h
    have hsnapshot := policySnapshot_ok h
    refine ⟨?_, hsnapshot⟩
    unfold policySnapshot at h
    split_ifs at h with hlanguage hrules
    obtain ⟨text, htext, h⟩ := except_bind_ok.mp h
    rw [loadsJson_canonicalJson htext, except_ok_bind, get?_policyDict] at h
    refine ⟨hlanguage, hrules, ?_, ?_⟩
    · have hdumps := canonicalJson_ok htext
      unfold dumps at hdumps
      split_ifs at hdumps with hprintable
      exact hprintable
    · intro fields hfields
      rw [hfields] at h
      have hchecks : (checkSnapshotSchema (.obj fields) >>= fun _ =>
          Except.ok (canon (policyDict policy))) = .ok snapshot := h
      obtain ⟨_, hcheck, _⟩ := except_bind_ok.mp hchecks
      exact hcheck
  · rintro ⟨henforceable, rfl⟩
    have htext : canonicalJson (policyDict policy) =
        .ok (String.ofList (render (canon (policyDict policy)))) := by
      unfold canonicalJson dumps
      rw [if_pos henforceable.printable]
    unfold policySnapshot
    rw [if_pos henforceable.language, if_pos henforceable.rules, htext, except_ok_bind,
      loadsJson_canonicalJson htext, except_ok_bind, get?_policyDict]
    cases hschema : recordedSchema policy with
    | none => rfl
    | some fields =>
        show (checkSnapshotSchema (.obj fields) >>= fun _ => Except.ok (canon (policyDict policy)))
          = _
        rw [henforceable.schema fields hschema]
        rfl

/-! ### Reading a snapshot back -/

/-- Two policies with the same rules, the schema up to the order of its keys. -/
structure SameRules (policy rebuilt : ValidationPolicy) : Prop where
  requiredSections : rebuilt.requiredSections = policy.requiredSections
  requireCitations : rebuilt.requireCitations = policy.requireCitations
  minimumChars : rebuilt.minimumChars = policy.minimumChars
  maximumChars : rebuilt.maximumChars = policy.maximumChars
  language : rebuilt.language = policy.language
  forbiddenPhrases : rebuilt.forbiddenPhrases = policy.forbiddenPhrases
  outputSchema : rebuilt.outputSchema.map JSONSchemaConstraint.schema = recordedSchema policy

theorem JSONSchemaConstraint.new_checked {fields : List (String × Json)}
    (h : checkSchema fields = .ok ()) :
    JSONSchemaConstraint.new (.obj fields) = .ok ⟨fields, h⟩ := by
  unfold JSONSchemaConstraint.new
  dsimp only
  split
  · rfl
  · rename_i herror
    rw [h] at herror
    cases herror

/-- A schema a snapshot may hold. -/
structure SupportedSchema (fields : List (String × Json)) : Prop where
  checked : checkSchema fields = .ok ()
  closed : ∀ value, lookup "additionalProperties" fields = some value → ∃ flag, value = .bool flag
  properties : ∀ properties, lookup "properties" fields = some (.obj properties) →
    (properties.all fun field => supportedRule field.2) = true

theorem SupportedSchema.of_check {fields : List (String × Json)}
    (h : checkSnapshotSchema (.obj fields) = .ok ()) : SupportedSchema fields := by
  obtain ⟨constraint, hnew, h⟩ := except_bind_ok.mp h
  have hchecked : checkSchema fields = .ok () := by
    unfold JSONSchemaConstraint.new at hnew
    dsimp only at hnew
    split at hnew
    · assumption
    · cases hnew
  rw [JSONSchemaConstraint.new_checked hchecked] at hnew
  obtain rfl := Except.ok.inj hnew
  split_ifs at h with hkeys hrules
  · refine ⟨hchecked, fun value hvalue => ?_, fun properties hproperties => ?_⟩
    · dsimp only at h
      rw [hvalue] at h
      cases value with
      | bool flag => exact ⟨flag, rfl⟩
      | null | int _ | float _ | str _ | arr _ | obj _ => cases h
    · unfold JSONSchemaConstraint.properties at hrules
      dsimp only at hrules
      rw [hproperties] at hrules
      exact hrules
  -- a rule that is not supported makes every branch raise
  · split at h
    · cases h
    · cases h
    · cases h

/-! ### The rules of a snapshot -/

theorem policyDict_schemaField (policy : ValidationPolicy) :
    policyDict policy = .obj
      [("required_sections", .arr (policy.requiredSections.map .str)),
        ("require_citations", .bool policy.requireCitations),
        ("minimum_chars", .int policy.minimumChars),
        ("maximum_chars", .int policy.maximumChars),
        ("language", optionalStr policy.language),
        ("forbidden_phrases", .arr (policy.forbiddenPhrases.map .str)),
        ("output_schema", schemaField (policy.outputSchema.map JSONSchemaConstraint.schema))] := by
  unfold policyDict
  cases policy.outputSchema with
  | none => rfl
  | some constraint => rfl

/-- The recorded schema is the canonical form of the schema field. -/
theorem canon_schemaField (policy : ValidationPolicy) :
    canon (schemaField (policy.outputSchema.map JSONSchemaConstraint.schema)) =
      schemaField (recordedSchema policy) := by
  unfold recordedSchema
  cases policy.outputSchema with
  | none => rfl
  | some constraint => rfl

theorem SameRules.policyDict_canon {policy rebuilt : ValidationPolicy}
    (h : SameRules policy rebuilt) : canon (policyDict rebuilt) = canon (policyDict policy) := by
  rw [policyDict_schemaField, policyDict_schemaField policy, h.requiredSections,
    h.requireCitations, h.minimumChars, h.maximumChars, h.language, h.forbiddenPhrases,
    h.outputSchema, ← canon_schemaField]
  simp only [canon, canonFields, canon_canon]

theorem SameRules.recordedSchema_eq {policy rebuilt : ValidationPolicy}
    (h : SameRules policy rebuilt) : recordedSchema rebuilt = recordedSchema policy := by
  have hdict : (canon (policyDict rebuilt)).get? "output_schema" =
      (canon (policyDict policy)).get? "output_schema" := by rw [h.policyDict_canon]
  rw [get?_policyDict, get?_policyDict] at hdict
  have hfield := Option.some.inj hdict
  generalize recordedSchema rebuilt = schema at hfield ⊢
  generalize recordedSchema policy = schema' at hfield ⊢
  cases schema with
  | none =>
      cases schema' with
      | none => rfl
      | some fields => cases hfield
  | some fields =>
      cases schema' with
      | none => cases hfield
      | some fields' =>
          cases hfield
          rfl

theorem SameRules.printable {policy rebuilt : ValidationPolicy} (h : SameRules policy rebuilt)
    (hprintable : printable (policyDict policy) = true) :
    printable (policyDict rebuilt) = true := by
  rw [policyDict_schemaField] at hprintable ⊢
  rw [h.requiredSections, h.requireCitations, h.minimumChars, h.maximumChars, h.language,
    h.forbiddenPhrases, h.outputSchema, ← canon_schemaField]
  simp only [Json.printable, printableFields, Bool.and_eq_true, and_true] at hprintable ⊢
  obtain ⟨hsections, hcitations, hminimum, hmaximum, hlanguage, hphrases, hschema⟩ := hprintable
  exact ⟨hsections, hcitations, hminimum, hmaximum, hlanguage, hphrases,
    printable_canon _ hschema⟩

/-- A policy with the rules of an enforceable one has its snapshot. -/
theorem SameRules.policySnapshot {policy rebuilt : ValidationPolicy} {snapshot : Json}
    (h : SameRules policy rebuilt) (hsnapshot : policySnapshot policy = .ok snapshot) :
    policySnapshot rebuilt = .ok snapshot := by
  rw [policySnapshot_iff] at hsnapshot ⊢
  obtain ⟨henforceable, rfl⟩ := hsnapshot
  refine ⟨⟨?_, ?_, ?_, ?_⟩, h.policyDict_canon.symm⟩
  · rw [h.language]
    exact henforceable.language
  · rw [h.requiredSections, h.forbiddenPhrases]
    exact henforceable.rules
  · exact h.printable henforceable.printable
  · rw [h.recordedSchema_eq]
    exact henforceable.schema

theorem ruleTexts_str (texts : List String) : ruleTexts (texts.map .str) = .ok texts := by
  unfold ruleTexts
  induction texts with
  | nil => rfl
  | cons text rest ih =>
      rw [List.map_cons, List.mapM_cons, ih]
      rfl

theorem asLanguage_optionalStr (language : Option String) :
    asLanguage (optionalStr language) = .ok language := by
  cases language with
  | none => rfl
  | some text => rfl

/-- The schema of a snapshot passes the checks of a constraint again. -/
theorem asOutputSchema_schemaField {schema : Option (List (String × Json))}
    (hchecked : ∀ fields, schema = some fields → checkSchema fields = .ok ()) :
    ∃ constraint, asOutputSchema (schemaField schema) = .ok constraint ∧
      constraint.map JSONSchemaConstraint.schema = schema := by
  cases schema with
  | none => exact ⟨none, rfl, rfl⟩
  | some fields =>
      have hnew := JSONSchemaConstraint.new_checked (hchecked fields rfl)
      refine ⟨some ⟨fields, hchecked fields rfl⟩, ?_, rfl⟩
      show (JSONSchemaConstraint.new (.obj fields) >>= fun constraint =>
        Except.ok (some constraint)) = _
      rw [hnew]
      rfl

/-- **The rebuilt policy.**  Reading a snapshot gives a policy with the rules the snapshot
was taken of. -/
theorem validationPolicyFromSnapshot_policySnapshot {policy : ValidationPolicy} {snapshot : Json}
    (h : policySnapshot policy = .ok snapshot) :
    ∃ rebuilt, validationPolicyFromSnapshot snapshot = .ok rebuilt ∧ SameRules policy rebuilt := by
  obtain ⟨henforceable, hcanon⟩ := (policySnapshot_iff policy snapshot).mp h
  obtain ⟨constraint, hconstraint, hschema⟩ := asOutputSchema_schemaField fun fields hfields =>
    (SupportedSchema.of_check (henforceable.schema fields hfields)).checked
  -- the policy the constructor builds from the fields of the snapshot
  let rebuilt : ValidationPolicy :=
    { requiredSections := policy.requiredSections
      requireCitations := policy.requireCitations
      minimumChars := policy.minimumChars
      maximumChars := policy.maximumChars
      language := policy.language
      forbiddenPhrases := policy.forbiddenPhrases
      outputSchema := constraint
      bounded := policy.bounded }
  have hsame : SameRules policy rebuilt := ⟨rfl, rfl, rfl, rfl, rfl, rfl, hschema⟩
  refine ⟨rebuilt, ?_, hsame⟩
  have hrebuilt := hsame.policySnapshot h
  have hdict := policyDict_schemaField policy
  generalize hfields : [("required_sections", Json.arr (policy.requiredSections.map .str)),
      ("require_citations", .bool policy.requireCitations),
      ("minimum_chars", .int policy.minimumChars),
      ("maximum_chars", .int policy.maximumChars),
      ("language", optionalStr policy.language),
      ("forbidden_phrases", .arr (policy.forbiddenPhrases.map .str)),
      ("output_schema", schemaField (policy.outputSchema.map JSONSchemaConstraint.schema))]
    = fields at hdict
  have hnodup : (keys fields).Nodup := by
    rw [← hfields]
    simp only [keys, List.map_cons, List.map_nil]
    decide
  have hknown : ∀ key ∈ keys fields, key ∈ ["required_sections", "require_citations",
      "minimum_chars", "maximum_chars", "language", "forbidden_phrases", "output_schema"] := by
    rw [← hfields]
    exact fun key hkey => hkey
  -- what each key of the snapshot finds
  have hsections : lookup "required_sections" (sortFields (canonFields fields)) =
      some (.arr (policy.requiredSections.map .str)) := by
    rw [lookup_canon hnodup, ← hfields]
    exact congrArg (fun items => some (Json.arr items)) (canonItems_str _)
  have hphrases : lookup "forbidden_phrases" (sortFields (canonFields fields)) =
      some (.arr (policy.forbiddenPhrases.map .str)) := by
    rw [lookup_canon hnodup, ← hfields]
    exact congrArg (fun items => some (Json.arr items)) (canonItems_str _)
  have hcitations : lookup "require_citations" (sortFields (canonFields fields)) =
      some (.bool policy.requireCitations) := by
    rw [lookup_canon hnodup, ← hfields]
    rfl
  have hminimum : lookup "minimum_chars" (sortFields (canonFields fields)) =
      some (.int policy.minimumChars) := by
    rw [lookup_canon hnodup, ← hfields]
    rfl
  have hmaximum : lookup "maximum_chars" (sortFields (canonFields fields)) =
      some (.int policy.maximumChars) := by
    rw [lookup_canon hnodup, ← hfields]
    rfl
  have hlanguage : lookup "language" (sortFields (canonFields fields)) =
      some (optionalStr policy.language) := by
    rw [lookup_canon hnodup, ← hfields]
    cases policy.language with
    | none => rfl
    | some text => rfl
  have houtput : lookup "output_schema" (sortFields (canonFields fields)) =
      some (schemaField (recordedSchema policy)) := by
    rw [lookup_canon hnodup, ← hfields, ← canon_schemaField]
    rfl
  have hkeywords := keywords_canon hknown
  rw [hdict] at hcanon
  subst hcanon
  rw [canon] at hkeywords hrebuilt ⊢
  have hofRules : ValidationPolicy.ofRules (policy.requiredSections.map .str)
      (policy.forbiddenPhrases.map .str) constraint (sortFields (canonFields fields)) =
        .ok rebuilt := by
    unfold ValidationPolicy.ofRules keyword
    rw [hkeywords, except_ok_bind, hminimum, hmaximum, hcitations, hlanguage]
    simp only [Option.getD_some]
    show (if hbounded : _ then _ else _) = _
    rw [dif_pos policy.bounded, asLanguage_optionalStr, ruleTexts_str, ruleTexts_str]
    rfl
  unfold validationPolicyFromSnapshot pyDict
  rw [except_ok_bind, pop_of_lookup hsections, except_ok_bind]
  dsimp only
  rw [tupleOf, except_ok_bind, pop_of_lookup hphrases, except_ok_bind]
  dsimp only
  rw [tupleOf, except_ok_bind, pop_of_lookup houtput, except_ok_bind]
  dsimp only
  rw [hconstraint, except_ok_bind, hofRules, except_ok_bind, hrebuilt, except_ok_bind, pyEq_refl]
  rfl

end Workflows
end Ryuk

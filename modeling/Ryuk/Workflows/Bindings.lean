import Ryuk.Workflows.Acceptance

/-!
# Snapshots in bindings

A snapshot stands for its policy: the policy rebuilt from it has the same snapshot and the
same findings on every text, although the rules went through lists, dictionaries and sorted
keys.  A schema is read by key only, so that its canonical order decides nothing
(`validateJsonSchema_canon`).  A binding is stored as canonical JSON and gives the snapshot
back unchanged.
-/

namespace Ryuk
namespace Workflows

open Foundation Foundation.Json Foundation.Text Inference Audit

/-! ### Schemas are read by key -/

/-- A rule decides the same in canonical order. -/
theorem wrongType_canon {rule : Json} (hkeys : DistinctKeys rule) (item : Document) :
    wrongType (canon rule) item = wrongType rule item := by
  cases rule with
  | obj fields =>
      rw [canon]
      unfold wrongType
      dsimp only
      rw [lookup_canon hkeys.1]
      cases lookup "type" fields with
      | none => rfl
      | some value =>
          cases value with
          | null | bool _ | int _ | float _ | str _ | arr _ | obj _ => rfl
  | null | bool _ | int _ | float _ | str _ | arr _ => rfl

theorem distinctKeys_of_lookup {fields : List (String × Json)} (h : DistinctFields fields)
    {key : String} {value : Json} (hlookup : lookup key fields = some value) :
    DistinctKeys value := by
  induction fields with
  | nil => cases hlookup
  | cons field rest ih =>
      obtain ⟨name, found⟩ := field
      rw [lookup] at hlookup
      split_ifs at hlookup with hname
      · cases hlookup
        exact h.1
      · exact ih h.2 hlookup

/-- The type errors depend on the rules of the names only. -/
theorem typeErrors_congr {properties properties' : List (String × Json)}
    (h : ∀ name item, wrongType ((propertyOf properties' name).getD .null) item =
      wrongType ((propertyOf properties name).getD .null) item)
    (fields : List (List CodePoint × Document)) :
    typeErrors properties' fields = typeErrors properties fields := by
  induction fields with
  | nil => rfl
  | cons field rest ih =>
      obtain ⟨name, item⟩ := field
      rw [typeErrors, typeErrors, h, ih]

theorem filterMap_canonItems (items : List Json) :
    (canonItems items).filterMap asString = items.filterMap asString := by
  induction items with
  | nil => rfl
  | cons item rest ih =>
      have hitem : asString (canon item) = asString item := by
        cases item with
        | null | bool _ | int _ | float _ | str _ | arr _ | obj _ => rfl
      rw [canonItems, List.filterMap_cons, List.filterMap_cons, ih, hitem]

/-- **Order of keys.**  A schema in canonical order validates like the schema. -/
theorem validateJsonSchema_canon {constraint recorded : JSONSchemaConstraint}
    (hkeys : DistinctKeys (.obj constraint.schema))
    (hrecorded : recorded.schema = sortFields (canonFields constraint.schema))
    (value : Document) :
    validateJsonSchema value recorded = validateJsonSchema value constraint := by
  obtain ⟨properties, hproperties⟩ := checkSchema_ok constraint.checked
  have hlookup : ∀ key, lookup key recorded.schema = (lookup key constraint.schema).map canon := by
    intro key
    rw [hrecorded, lookup_canon hkeys.1]
  have hinner : DistinctKeys (.obj properties) := distinctKeys_of_lookup hkeys.2 hproperties
  have hdeclared : constraint.properties = properties := by
    unfold JSONSchemaConstraint.properties
    rw [hproperties]
  have hdeclared' : recorded.properties = sortFields (canonFields properties) := by
    unfold JSONSchemaConstraint.properties
    rw [hlookup, hproperties]
    rfl
  have hrequired : recorded.required = constraint.required := by
    unfold JSONSchemaConstraint.required
    rw [hlookup]
    cases lookup "required" constraint.schema with
    | none => rfl
    | some value =>
        cases value with
        | arr items => exact filterMap_canonItems items
        | null | bool _ | int _ | float _ | str _ | obj _ => rfl
  have hclosed : lookup "additionalProperties" recorded.schema = some (.bool false) ↔
      lookup "additionalProperties" constraint.schema = some (.bool false) := by
    rw [hlookup]
    cases lookup "additionalProperties" constraint.schema with
    | none => rfl
    | some value =>
        cases value with
        | null | bool _ | int _ | float _ | str _ => rfl
        | arr _ | obj _ =>
            constructor
            · intro h
              cases h
            · intro h
              cases h
  cases value with
  | null | bool _ | int _ | float _ | str _ | arr _ => rfl
  | obj fields =>
      unfold validateJsonSchema
      rw [hdeclared, hdeclared', hrequired]
      dsimp only
      have hproperty : ∀ name, propertyOf (sortFields (canonFields properties)) name =
          (propertyOf properties name).map canon := by
        intro name
        unfold propertyOf
        cases textOf name with
        | none => rfl
        | some text => exact lookup_canon hinner.1 text
      have hknown : ∀ name, (propertyOf (sortFields (canonFields properties)) name).isSome =
          (propertyOf properties name).isSome := by
        intro name
        rw [hproperty, Option.isSome_map]
      have htypes : typeErrors (sortFields (canonFields properties)) fields =
          typeErrors properties fields := by
        apply typeErrors_congr
        intro name item
        rw [hproperty]
        cases hrule : propertyOf properties name with
        | none => rfl
        | some rule =>
            obtain ⟨text, -, hlookup⟩ := propertyOf_iff.mp hrule
            exact wrongType_canon (distinctKeys_of_lookup hinner.2 hlookup) item
      simp only [hclosed, hknown, htypes]

/-! ### The rebuilt policy -/

/-- The schema of a policy is a dictionary: no key of it stands twice. -/
def DictSchema (policy : ValidationPolicy) : Prop :=
  ∀ constraint, policy.outputSchema = some constraint → DistinctKeys (.obj constraint.schema)

/-- Policies with the same rules have the same findings. -/
theorem SameRules.validateOutput {policy rebuilt : ValidationPolicy}
    (h : SameRules policy rebuilt) (hdict : DictSchema policy) (interpreter : Interpreter)
    (platform : Platform) (text : String) :
    validateOutputWithin interpreter platform text rebuilt =
      validateOutputWithin interpreter platform text policy := by
  have hrules : ruleFindings platform text rebuilt = ruleFindings platform text policy := by
    unfold ruleFindings
    rw [h.requiredSections, h.requireCitations, h.minimumChars, h.maximumChars, h.language,
      h.forbiddenPhrases]
  have hschema : schemaFindingsWithin interpreter text rebuilt.outputSchema =
      schemaFindingsWithin interpreter text policy.outputSchema := by
    rcases h.outputSchema_cases with ⟨hrecorded, hnone⟩ | ⟨recorded, hrecorded, hsome⟩
    · rw [hnone, Option.map_eq_none_iff.mp hrecorded]
    · obtain ⟨constraint, hconstraint, heq⟩ := Option.map_eq_some_iff.mp hrecorded
      rw [hsome, hconstraint]
      unfold schemaFindingsWithin
      dsimp only
      have hvalidate : ∀ value, validateJsonSchema value recorded =
          validateJsonSchema value constraint :=
        validateJsonSchema_canon (hdict constraint hconstraint) heq.symm
      cases interpreter.read defaultHooks text with
      | ok value =>
          dsimp only
          rw [hvalidate]
      | error failure =>
          cases failure with
          | decodeError => rfl
          | valueError => rfl
          | recursionError => rfl
  unfold validateOutputWithin
  rw [hrules, hschema]

/-! ### Bindings -/

/-- A binding that was stored as canonical JSON holds the snapshot it was given. -/
theorem subscript_binding {fields : List (String × Json)} {policy : ValidationPolicy}
    {snapshot : Json} {text : String} (hnodup : (keys fields).Nodup)
    (hsnapshot : policySnapshot policy = .ok snapshot)
    (hpolicy : lookup "policy" fields = some snapshot)
    (htext : canonicalJson (.obj fields) = .ok text) :
    ∃ binding, loadsJson text = .ok binding ∧ subscript binding "policy" = .ok snapshot := by
  refine ⟨canon (.obj fields), loadsJson_canonicalJson htext, ?_⟩
  have hcanonical : canon snapshot = snapshot := by rw [policySnapshot_ok hsnapshot, canon_canon]
  rw [canon]
  unfold subscript
  dsimp only
  rw [lookup_canon hnodup, hpolicy, Option.map_some, hcanonical]

/-- What a snapshot keeps of its policy. -/
structure FaithfulSnapshot (policy : ValidationPolicy) (snapshot : Json) : Prop where
  rebuilt : ∃ rebuilt, validationPolicyFromSnapshot snapshot = .ok rebuilt ∧
    policySnapshot rebuilt = .ok snapshot ∧
    ∀ interpreter platform text, validateOutputWithin interpreter platform text rebuilt =
      validateOutputWithin interpreter platform text policy
  bound : ∀ fields text, (keys fields).Nodup → lookup "policy" fields = some snapshot →
    canonicalJson (.obj fields) = .ok text →
    ∃ binding, loadsJson text = .ok binding ∧ subscript binding "policy" = .ok snapshot

/-- Every snapshot of a policy is faithful. -/
def RecordsFaithfully (policy : ValidationPolicy) : Prop :=
  DictSchema policy → ∀ snapshot, policySnapshot policy = .ok snapshot →
    FaithfulSnapshot policy snapshot

/-- A dictionary that is accepted as a snapshot is the snapshot of the policy read from it. -/
def ReadsExactly (rules : Json) : Prop :=
  ∀ policy, validationPolicyFromSnapshot rules = .ok policy →
    ∃ snapshot, policySnapshot policy = .ok snapshot ∧ pyEq snapshot rules = true

/-- A policy is returned only after its snapshot was compared. -/
theorem readsExactly (rules : Json) : ReadsExactly rules := by
  intro policy h
  unfold validationPolicyFromSnapshot at h
  obtain ⟨fields, -, h⟩ := except_bind_ok.mp h
  obtain ⟨sections, -, h⟩ := except_bind_ok.mp h
  obtain ⟨sections', -, h⟩ := except_bind_ok.mp h
  obtain ⟨phrases, -, h⟩ := except_bind_ok.mp h
  obtain ⟨phrases', -, h⟩ := except_bind_ok.mp h
  obtain ⟨schema, -, h⟩ := except_bind_ok.mp h
  obtain ⟨schema', -, h⟩ := except_bind_ok.mp h
  obtain ⟨rebuilt, -, h⟩ := except_bind_ok.mp h
  obtain ⟨snapshot, hsnapshot, h⟩ := except_bind_ok.mp h
  split_ifs at h with hequal
  cases h
  exact ⟨snapshot, hsnapshot, hequal⟩

/-- **Faithful snapshots.**  Every policy that has a snapshot can be read back from it, also
after it was stored in a binding, with the same snapshot and the same findings; and whatever
is accepted as a snapshot is the snapshot of the policy it is read as. -/
theorem snapshots_faithful (policy : ValidationPolicy) (rules : Json) :
    RecordsFaithfully policy ∧ ReadsExactly rules := by
  refine ⟨fun hdict snapshot hsnapshot => ?_, readsExactly rules⟩
  obtain ⟨rebuilt, hrebuilt, hsame⟩ := validationPolicyFromSnapshot_policySnapshot hsnapshot
  refine ⟨⟨rebuilt, hrebuilt, hsame.policySnapshot hsnapshot, ?_⟩, ?_⟩
  · intro interpreter platform text
    exact hsame.validateOutput hdict interpreter platform text
  · intro fields text hnodup hpolicy htext
    exact subscript_binding hnodup hsnapshot hpolicy htext

end Workflows
end Ryuk

import Ryuk.Foundation.JsonHooks
import Ryuk.Workflows.Snapshots

/-!
# Deterministic acceptance

The validator of `Validation` inside an interpreter with a recursion limit: a document
nested deeper than the limit is not read, and a reader that fails does so with one of three
exceptions.  The first, strict reading catches all three; the second catches one, and never
meets the others, because the first has read the same text
(`schemaFindingsWithin_of_strict`).

`Acceptable` says what an output has to satisfy in terms of the text, its tree and the rules
of the policy.  The validator returns for every stored artifact and every snapshot, and its
decision is to accept exactly when the output is acceptable (`acceptance_exact`).
-/

namespace Ryuk
namespace Workflows

open Foundation Foundation.Json Foundation.Text Inference Audit

/-! ### Reading inside an interpreter -/

/-- The classes of exception `json.loads` raises. -/
inductive ReadError where
  | decodeError
  | valueError
  | recursionError
  deriving DecidableEq

/-- An interpreter: how many containers its reader can enter, and how it fails on a text
that is no document. -/
structure Interpreter where
  limit : Nat
  failure : Hooks → String → ReadError

/-- `json.loads` with hooks: a document nested too deeply is not read, and a hook that
refuses raises a `ValueError`. -/
def Interpreter.read (interpreter : Interpreter) (hooks : Hooks) (text : String) :
    Except ReadError Document :=
  match tree text with
  | none => .error (interpreter.failure hooks text)
  | some document =>
      if interpreter.limit < nesting document then .error .recursionError
      else
        match loadsWith hooks text with
        | some value => .ok value
        | none => .error .valueError

/-- The findings of the output schema; only a decoding error is caught. -/
def schemaFindingsWithin (interpreter : Interpreter) (text : String)
    (constraint : Option JSONSchemaConstraint) : Except PyError (List AuditFinding) :=
  match constraint with
  | none => .ok []
  | some constraint => do
      let errors ← match interpreter.read defaultHooks text with
        | .ok value => validateJsonSchema value constraint
        | .error .decodeError => pure [points "root:invalid_json"]
        | .error .valueError => throw (.valueError "Exceeds the limit for integer string conversion")
        | .error .recursionError => throw .recursionError
      pure (errors.map (finding .schema .error))

/-- The findings of every rule but the schema. -/
def ruleFindings (platform : Platform) (text : String) (policy : ValidationPolicy) :
    List AuditFinding :=
  let folded := (platform.casefold text).toList
  let length :=
    if policy.minimumChars ≤ text.length ∧ (text.length : Int) ≤ policy.maximumChars then []
    else [finding .length .error (points "length_out_of_bounds")]
  let sections := (policy.requiredSections.filter fun wanted =>
    !contains folded (platform.casefold wanted).toList).map fun wanted =>
      finding .requiredSection .error (points ("missing_section:" ++ wanted))
  let citations :=
    if policy.requireCitations && !hasCitation text then
      [finding .citation .error (points "citation_missing")]
    else []
  let language :=
    if policy.language = some "ascii" ∧ ¬ text.toList.all (fun c => decide (c.toNat < 128)) then
      [finding .language .warning (points "language_mismatch")]
    else []
  let phrases := (policy.forbiddenPhrases.filter fun phrase =>
    contains folded (platform.casefold phrase).toList).map fun _ =>
      finding .policy .critical (points "forbidden_phrase")
  let secrets :=
    if hasSecret platform text then [finding .secret .critical (points "possible_secret_leak")]
    else []
  length ++ sections ++ citations ++ language ++ phrases ++ secrets

/-- `validate_output`. -/
def validateOutputWithin (interpreter : Interpreter) (platform : Platform) (text : String)
    (policy : ValidationPolicy) : Except PyError (List AuditFinding) := do
  let schema ← schemaFindingsWithin interpreter text policy.outputSchema
  pure (ruleFindings platform text policy ++ schema)

/-- The findings of a report; every failure of the strict reading is caught. -/
def reportFindingsWithin (interpreter : Interpreter) (platform : Platform)
    (payload schema : Json) (policy : ValidationPolicy) : Except PyError (List Json) :=
  match outputText payload with
  | none => .ok [findingDict "schema" "missing_output_text"]
  | some text =>
      if schema ≠ .null ∧ (interpreter.read strictHooks text).toOption = none then
        .ok [findingDict "schema" "invalid_json"]
      else do
        let findings ← validateOutputWithin interpreter platform text policy
        pure (findings.map fun finding =>
          findingDict finding.kind.value (finding.kind.value ++ "_rule_failed"))

/-- `validate_artifact`. -/
def validateArtifactWithin {platform : Platform} (interpreter : Interpreter)
    (artifact : StoredArtifact platform) (snapshot : Json) : Except PyError Json := do
  let policy ← validationPolicyFromSnapshot snapshot
  let rules ← pyDict snapshot
  let (schema, _) ← pop "output_schema" rules
  let findings ← reportFindingsWithin interpreter platform artifact.payload schema policy
  pure (reportDict artifact.ref snapshot findings)

/-! ### What is acceptable -/

/-- The values of a declared type. -/
inductive IsOfType : String → Document → Prop
  | string (value : List CodePoint) : IsOfType "string" (.str value)
  | integer (value : Int) : IsOfType "integer" (.int value)
  | wholeNumber (value : Int) : IsOfType "number" (.int value)
  | floatNumber (value : Decimal.Float) : IsOfType "number" (.float value)
  | boolean (value : Bool) : IsOfType "boolean" (.bool value)
  | array (items : List Document) : IsOfType "array" (.arr items)
  | object (fields : List (List CodePoint × Document)) : IsOfType "object" (.obj fields)

/-- The fields of an object conform to a schema. -/
structure Conforms (schema : List (String × Json)) (fields : List (List CodePoint × Document)) :
    Prop where
  required : ∀ names, lookup "required" schema = some (.arr names) →
    ∀ name, .str name ∈ names → points name ∈ keys fields
  typed : ∀ properties, lookup "properties" schema = some (.obj properties) →
    ∀ name rule type, lookup name properties = some (.obj rule) →
      lookup "type" rule = some (.str type) →
      ∀ item, (points name, item) ∈ fields → IsOfType type item
  closed : lookup "additionalProperties" schema = some (.bool false) →
    ∀ properties, lookup "properties" schema = some (.obj properties) →
      ∀ name ∈ keys fields, ∃ property ∈ keys properties, points property = name

/-- The text is one document an interpreter can read. -/
def IsDocument (interpreter : Interpreter) (text : String) (document : Document) :
    Prop :=
  tree text = some document ∧ nesting document ≤ interpreter.limit

/-- A text keeps the rules of a policy other than the schema. -/
structure KeepsRules (platform : Platform) (policy : ValidationPolicy) (text : String) :
    Prop where
  length : policy.minimumChars ≤ text.length ∧ (text.length : Int) ≤ policy.maximumChars
  sections : ∀ wanted ∈ policy.requiredSections,
    (platform.casefold wanted).toList <:+: (platform.casefold text).toList
  phrases : ∀ phrase ∈ policy.forbiddenPhrases,
    ¬ (platform.casefold phrase).toList <:+: (platform.casefold text).toList
  citations : policy.requireCitations = true → hasCitation text = true
  ascii : policy.language = some "ascii" → ∀ c ∈ text.toList, c.toNat < 128
  secrets : hasSecret platform text = false

/-- The output of a payload satisfies a policy. -/
structure Acceptable (interpreter : Interpreter) (platform : Platform)
    (policy : ValidationPolicy) (payload : Json) (text : String) : Prop where
  stored : ∃ output, payload.get? "output" = some output ∧ output.get? "text" = some (.str text)
  visible : ∃ c ∈ text.toList, Text.isSpace c = false
  rules : KeepsRules platform policy text
  document : ∀ schema, recordedSchema policy = some schema →
    ∃ fields, IsDocument interpreter text (.obj fields) ∧
      (Document.obj fields).DistinctKeys ∧ (Document.obj fields).FiniteNumbers ∧
      Conforms schema fields

/-! ### Dictionaries -/

theorem mem_of_lookup {κ ν : Type} [DecidableEq κ] {key : κ} {value : ν} {fields : List (κ × ν)}
    (h : lookup key fields = some value) : (key, value) ∈ fields := by
  induction fields with
  | nil => cases h
  | cons field rest ih =>
      obtain ⟨name, found⟩ := field
      rw [lookup] at h
      split_ifs at h with hname
      · cases h
        rw [hname]
        exact List.mem_cons_self ..
      · exact List.mem_cons_of_mem _ (ih h)

theorem lookup_isSome_iff {κ ν : Type} [DecidableEq κ] (key : κ) (fields : List (κ × ν)) :
    (lookup key fields).isSome = true ↔ key ∈ keys fields := by
  induction fields with
  | nil => simp [lookup, keys]
  | cons field rest ih =>
      obtain ⟨name, found⟩ := field
      rw [lookup, keys, List.map_cons, List.mem_cons]
      split_ifs with hname
      · simp [hname]
      · rw [ih]
        constructor
        · exact Or.inr
        · rintro (rfl | hmem)
          · exact absurd rfl hname
          · exact hmem

/-! ### Schemas -/

@[simp] theorem propertyOf_points (properties : List (String × Json)) (name : String) :
    propertyOf properties (points name) = lookup name properties := by
  rw [propertyOf, textOf_points, Option.bind_some]

/-- The property of a name is that of its text. -/
theorem propertyOf_iff {properties : List (String × Json)} {name : List CodePoint} {rule : Json} :
    propertyOf properties name = some rule ↔
      ∃ text, points text = name ∧ lookup text properties = some rule := by
  rw [propertyOf, Option.bind_eq_some_iff]
  simp only [textOf_iff]

theorem propertyOf_isSome_iff (properties : List (String × Json)) (name : List CodePoint) :
    (propertyOf properties name).isSome = true ↔
      ∃ property ∈ keys properties, points property = name := by
  rw [Option.isSome_iff_exists]
  simp only [propertyOf_iff]
  constructor
  · rintro ⟨rule, text, hname, hlookup⟩
    have hsome : (lookup text properties).isSome = true := by rw [hlookup]; rfl
    exact ⟨text, (lookup_isSome_iff text properties).mp hsome, hname⟩
  · rintro ⟨text, hmem, hname⟩
    obtain ⟨rule, hlookup⟩ :=
      Option.isSome_iff_exists.mp ((lookup_isSome_iff text properties).mpr hmem)
    exact ⟨rule, text, hname, hlookup⟩

/-- A declared type is one of six, and the type test decides membership in it. -/
theorem hasType_iff {name : String} (hname : name ∈ ["string", "integer", "number", "boolean",
    "array", "object"]) (item : Document) :
    (hasType name item == some false) = false ↔ IsOfType name item := by
  simp only [List.mem_cons, List.not_mem_nil, or_false] at hname
  constructor
  · intro h
    rcases hname with rfl | rfl | rfl | rfl | rfl | rfl
    · cases item with
      | str value => exact .string value
      | null | bool _ | int _ | float _ | arr _ | obj _ => cases h
    · cases item with
      | int value => exact .integer value
      | null | bool _ | str _ | float _ | arr _ | obj _ => cases h
    · cases item with
      | int value => exact .wholeNumber value
      | float value => exact .floatNumber value
      | null | bool _ | str _ | arr _ | obj _ => cases h
    · cases item with
      | bool value => exact .boolean value
      | null | int _ | str _ | float _ | arr _ | obj _ => cases h
    · cases item with
      | arr items => exact .array items
      | null | bool _ | int _ | str _ | float _ | obj _ => cases h
    · cases item with
      | obj fields => exact .object fields
      | null | bool _ | int _ | str _ | float _ | arr _ => cases h
  · intro h
    cases h with
    | string value => rfl
    | integer value => rfl
    | wholeNumber value => rfl
    | floatNumber value => rfl
    | boolean value => rfl
    | array items => rfl
    | object fields => rfl

/-- A supported rule names its type. -/
theorem supportedRule_type {rule : Json} (h : supportedRule rule = true) :
    ∃ fields name, rule = .obj fields ∧ lookup "type" fields = some (.str name) ∧
      name ∈ ["string", "integer", "number", "boolean", "array", "object"] := by
  cases rule with
  | obj fields =>
      unfold supportedRule at h
      rw [Bool.and_eq_true] at h
      have htype := h.2
      split at htype
      · rename_i name hlookup
        exact ⟨fields, name, rfl, hlookup, List.contains_iff_mem.mp htype⟩
      · cases htype
  | null | bool _ | int _ | float _ | str _ | arr _ => cases h

/-- The type rule of one field. -/
def FieldTyped (properties : List (String × Json)) (name : List CodePoint) (item : Document) :
    Prop :=
  ∀ rule type, propertyOf properties name = some (.obj rule) →
    lookup "type" rule = some (.str type) → IsOfType type item

/-- Checking one field of a supported schema never raises. -/
theorem wrongType_supported {properties : List (String × Json)}
    (hrules : (properties.all fun field => supportedRule field.2) = true)
    (name : List CodePoint) (item : Document) :
    ∃ wrong, wrongType ((propertyOf properties name).getD .null) item = .ok wrong ∧
      (wrong = false ↔ FieldTyped properties name item) := by
  cases hlookup : propertyOf properties name with
  | none =>
      refine ⟨false, rfl, fun _ rule type hrule => ?_, fun _ => rfl⟩
      rw [hlookup] at hrule
      cases hrule
  | some rule =>
      rw [List.all_eq_true] at hrules
      obtain ⟨text, -, hrule⟩ := Option.bind_eq_some_iff.mp hlookup
      obtain ⟨fields, type, rfl, htype, hmember⟩ :=
        supportedRule_type (hrules (text, rule) (mem_of_lookup hrule))
      refine ⟨hasType type item == some false, ?_, ?_⟩
      · show wrongType (.obj fields) item = _
        unfold wrongType
        dsimp only
        rw [htype]
      · rw [hasType_iff hmember]
        constructor
        · intro h rule' type' hrule' htype'
          rw [hlookup] at hrule'
          cases hrule'
          rw [htype] at htype'
          cases htype'
          exact h
        · intro h
          exact h fields type hlookup htype

/-- Checking the types of all fields never raises, and finds nothing exactly when each field
has the type declared for it. -/
theorem typeErrors_supported {properties : List (String × Json)}
    (hrules : (properties.all fun field => supportedRule field.2) = true)
    (fields : List (List CodePoint × Document)) :
    ∃ errors, typeErrors properties fields = .ok errors ∧
      (errors = [] ↔ ∀ name item, (name, item) ∈ fields → FieldTyped properties name item) := by
  induction fields with
  | nil => exact ⟨[], rfl, fun _ name item hmem => by simp at hmem, fun _ => rfl⟩
  | cons field rest ih =>
      obtain ⟨name, item⟩ := field
      obtain ⟨wrong, hwrong, hfirst⟩ := wrongType_supported hrules name item
      obtain ⟨errors, herrors, hrest⟩ := ih
      refine ⟨if wrong then (name ++ points ":wrong_type") :: errors else errors, ?_, ?_⟩
      · rw [typeErrors, hwrong, except_ok_bind, herrors, except_ok_bind]
        rfl
      · cases wrong with
        | true =>
            -- the first field already breaks its rule
            have hbroken : ¬ FieldTyped properties name item := fun h => by
              cases hfirst.mpr h
            rw [if_pos rfl]
            constructor
            · intro h
              cases h
            · intro h
              exact absurd (h name item (List.mem_cons_self ..)) hbroken
        | false =>
            rw [if_neg Bool.false_ne_true, hrest]
            constructor
            · intro h name' item' hmem
              rcases List.mem_cons.mp hmem with heq | hmem
              · cases heq
                exact hfirst.mp rfl
              · exact h name' item' hmem
            · intro h name' item' hmem
              exact h name' item' (List.mem_cons_of_mem _ hmem)

/-- The shape of a schema whose constraint has been built. -/
theorem checkSchema_ok {schema : List (String × Json)} (h : checkSchema schema = .ok ()) :
    ∃ properties, lookup "properties" schema = some (.obj properties) := by
  unfold checkSchema at h
  split_ifs at h
  split at h
  · rename_i properties hproperties
    exact ⟨properties, hproperties⟩
  · cases h

/-- The required names of a constraint are the strings of its list. -/
theorem mem_required {constraint : JSONSchemaConstraint} {name : String} :
    name ∈ constraint.required ↔
      ∃ names, lookup "required" constraint.schema = some (.arr names) ∧ .str name ∈ names := by
  unfold JSONSchemaConstraint.required
  constructor
  · intro h
    split at h
    · rename_i names hnames
      obtain ⟨item, hitem, hname⟩ := List.mem_filterMap.mp h
      cases item with
      | str text =>
          cases hname
          exact ⟨names, hnames, hitem⟩
      | null | bool _ | int _ | float _ | arr _ | obj _ => cases hname
    · cases h
  · rintro ⟨names, hnames, hmem⟩
    rw [hnames]
    exact List.mem_filterMap.mpr ⟨.str name, hmem, rfl⟩

/-- **Schema validation.**  Validating a document against a supported schema never raises,
and finds nothing exactly when the document is an object that conforms. -/
theorem validateJsonSchema_supported {constraint : JSONSchemaConstraint}
    (h : SupportedSchema constraint.schema) (value : Document) :
    ∃ errors, validateJsonSchema value constraint = .ok errors ∧
      (errors = [] ↔ ∃ fields, value = .obj fields ∧ Conforms constraint.schema fields) := by
  cases value with
  | null | bool _ | int _ | float _ | str _ | arr _ =>
      refine ⟨[points "root:not_object"], rfl, ?_⟩
      constructor
      · intro h
        cases h
      · rintro ⟨fields, heq, -⟩
        cases heq
  | obj fields =>
      obtain ⟨properties, hproperties⟩ := checkSchema_ok h.checked
      have hdeclared : constraint.properties = properties := by
        unfold JSONSchemaConstraint.properties
        rw [hproperties]
      obtain ⟨wrong, hwrong, htyped⟩ :=
        typeErrors_supported (h.properties properties hproperties) fields
      unfold validateJsonSchema
      rw [hdeclared]
      dsimp only
      rw [hwrong]
      refine ⟨_, rfl, ?_⟩
      rw [List.append_eq_nil_iff, List.append_eq_nil_iff, List.map_eq_nil_iff,
        List.filter_eq_nil_iff, htyped]
      constructor
      · rintro ⟨⟨hmissing, hadditional⟩, htypes⟩
        refine ⟨fields, rfl, fun names hnames name hname => ?_, fun found hfound name rule type
          hrule htype item hitem => ?_, fun hclosed found hfound name hname => ?_⟩
        -- nothing that is required is missing
        · have hpresent := hmissing name (mem_required.mpr ⟨names, hnames, hname⟩)
          rw [← lookup_isSome_iff, Option.isSome_iff_ne_none]
          simpa using hpresent
        · rw [hproperties] at hfound
          cases hfound
          rw [← propertyOf_points] at hrule
          exact htypes (points name) item hitem rule type hrule htype
        · rw [hproperties] at hfound
          cases hfound
          rw [if_pos hclosed, List.map_eq_nil_iff, List.filter_eq_nil_iff] at hadditional
          rw [← propertyOf_isSome_iff, Option.isSome_iff_ne_none]
          simpa using hadditional name hname
      · rintro ⟨found, heq, hconforms⟩
        cases heq
        refine ⟨⟨fun name hname => ?_, ?_⟩, fun name item hitem rule type hrule htype => ?_⟩
        · obtain ⟨names, hnames, hmem⟩ := mem_required.mp hname
          have hpresent := hconforms.required names hnames name hmem
          rw [← lookup_isSome_iff] at hpresent
          simp [hpresent]
        · split_ifs with hclosed
          · rw [List.map_eq_nil_iff, List.filter_eq_nil_iff]
            intro name hname
            have hknown := hconforms.closed hclosed properties hproperties name hname
            rw [← propertyOf_isSome_iff] at hknown
            simp [hknown]
          · rfl
        · obtain ⟨text, rfl, hlookup⟩ := propertyOf_iff.mp hrule
          exact hconforms.typed properties hproperties text rule type hlookup htype item hitem

/-! ### The two readings -/

theorem strictHooks_coherent : strictHooks.Coherent := by
  intro name
  cases name with
  | nan => rfl
  | infinity => rfl
  | negativeInfinity => rfl

theorem strictHooks_faithful : strictHooks.Faithful where
  float _ := rfl
  pairs _ h := if_pos h

theorem strictHooks_strict : strictHooks.Strict where
  float value read h := by
    cases value with
    | finite finite => exact ⟨finite, rfl⟩
    | nan => cases h
    | infinity negative => cases h
  pairs pairs read h := by
    have hread : (if (keys pairs).Nodup then some (Document.obj pairs) else none) = some read := h
    split_ifs at hread with hnodup
    exact hnodup

/-- What the strict reading returns: the document itself, when it is one the interpreter can
read, its keys are distinct and its numbers finite. -/
theorem read_strict (interpreter : Interpreter) (text : String) (value : Document) :
    interpreter.read strictHooks text = .ok value ↔
      IsDocument interpreter text value ∧ value.DistinctKeys ∧ value.FiniteNumbers := by
  have hstrict := loadsWith_strict strictHooks_coherent strictHooks_faithful strictHooks_strict text
  unfold Interpreter.read IsDocument
  cases htree : tree text with
  | none =>
      constructor
      · intro h
        cases h
      · rintro ⟨⟨h, -⟩, -⟩
        cases h
  | some document =>
      dsimp only
      rw [htree] at hstrict
      by_cases hdeep : interpreter.limit < nesting document
      · rw [if_pos hdeep]
        constructor
        · intro h
          cases h
        · rintro ⟨⟨h, hshallow⟩, -⟩
          cases h
          omega
      · rw [if_neg hdeep]
        constructor
        · intro h
          cases hloads : loadsWith strictHooks text with
          | none =>
              rw [hloads] at h
              cases h
          | some read =>
              rw [hloads] at h
              cases h
              obtain ⟨heq, hstandard⟩ := (hstrict value).mp hloads
              cases heq
              exact ⟨⟨rfl, by omega⟩, hstandard⟩
        · rintro ⟨⟨heq, -⟩, hstandard⟩
          rw [(hstrict value).mpr ⟨heq, hstandard⟩]

/-- The second reading of a text the strict one has read returns the same document. -/
theorem read_default (interpreter : Interpreter) {text : String} {value : Document}
    (h : interpreter.read strictHooks text = .ok value) :
    interpreter.read defaultHooks text = .ok value := by
  obtain ⟨⟨htree, hlimit⟩, hkeys, hfinite⟩ := (read_strict interpreter text value).mp h
  unfold Interpreter.read
  rw [htree]
  dsimp only
  rw [if_neg (by omega), loadsWith_faithful defaultHooks_coherent defaultHooks_faithful htree
    hkeys hfinite]

/-! ### The rules -/

/-- No rule finds anything exactly when the text keeps them all. -/
theorem ruleFindings_iff (platform : Platform) (text : String) (policy : ValidationPolicy) :
    ruleFindings platform text policy = [] ↔ KeepsRules platform policy text := by
  unfold ruleFindings
  simp only [List.append_eq_nil_iff, List.map_eq_nil_iff, List.filter_eq_nil_iff]
  constructor
  · rintro ⟨⟨⟨⟨⟨hlength, hsections⟩, hcitations⟩, hlanguage⟩, hphrases⟩, hsecrets⟩
    refine ⟨?_, fun wanted hwanted => ?_, fun phrase hphrase => ?_, fun hrequired => ?_,
      fun hascii c hc => ?_, ?_⟩
    · by_contra hout
      rw [if_neg hout] at hlength
      cases hlength
    · simpa [contains] using hsections wanted hwanted
    · simpa [contains] using hphrases phrase hphrase
    · cases hfound : hasCitation text with
      | true => rfl
      | false =>
          rw [hrequired, hfound] at hcitations
          cases hcitations
    · by_contra hwide
      rw [if_pos] at hlanguage
      · cases hlanguage
      · refine ⟨hascii, fun hall => hwide ?_⟩
        exact of_decide_eq_true (List.all_eq_true.mp hall c hc)
    · cases hfound : hasSecret platform text with
      | false => rfl
      | true =>
          rw [hfound] at hsecrets
          cases hsecrets
  · intro h
    refine ⟨⟨⟨⟨⟨if_pos h.length, fun wanted hwanted => ?_⟩, ?_⟩, ?_⟩, fun phrase hphrase => ?_⟩, ?_⟩
    · simpa [contains] using h.sections wanted hwanted
    · rw [if_neg]
      intro hmissing
      rw [Bool.and_eq_true] at hmissing
      rw [h.citations hmissing.1] at hmissing
      cases hmissing.2
    · rw [if_neg]
      rintro ⟨hascii, hwide⟩
      apply hwide
      rw [List.all_eq_true]
      exact fun c hc => decide_eq_true (h.ascii hascii c hc)
    · simpa [contains] using h.phrases phrase hphrase
    · rw [h.secrets, if_neg Bool.false_ne_true]

theorem KeepsRules.congr {platform : Platform} {policy rebuilt : ValidationPolicy} {text : String}
    (h : SameRules policy rebuilt) :
    KeepsRules platform rebuilt text ↔ KeepsRules platform policy text := by
  constructor
  · intro hkeeps
    refine ⟨?_, ?_, ?_, ?_, ?_, hkeeps.secrets⟩
    · rw [← h.minimumChars, ← h.maximumChars]
      exact hkeeps.length
    · rw [← h.requiredSections]
      exact hkeeps.sections
    · rw [← h.forbiddenPhrases]
      exact hkeeps.phrases
    · rw [← h.requireCitations]
      exact hkeeps.citations
    · rw [← h.language]
      exact hkeeps.ascii
  · intro hkeeps
    refine ⟨?_, ?_, ?_, ?_, ?_, hkeeps.secrets⟩
    · rw [h.minimumChars, h.maximumChars]
      exact hkeeps.length
    · rw [h.requiredSections]
      exact hkeeps.sections
    · rw [h.forbiddenPhrases]
      exact hkeeps.phrases
    · rw [h.requireCitations]
      exact hkeeps.citations
    · rw [h.language]
      exact hkeeps.ascii

/-! ### The findings of a report -/

/-- A document of a schema, as the strict reader sees it. -/
def Documented (interpreter : Interpreter) (schema : Option (List (String × Json)))
    (text : String) : Prop :=
  ∀ fields, schema = some fields →
    ∃ document, IsDocument interpreter text (.obj document) ∧
      (Document.obj document).DistinctKeys ∧ (Document.obj document).FiniteNumbers ∧
      Conforms fields document

/-- The schema findings of a text the strict reader has read: the second reading raises
nothing. -/
theorem schemaFindingsWithin_of_strict (interpreter : Interpreter) {text : String}
    {value : Document} {constraint : JSONSchemaConstraint} (hsupported : SupportedSchema constraint.schema)
    (hread : interpreter.read strictHooks text = .ok value) :
    ∃ findings, schemaFindingsWithin interpreter text (some constraint) = .ok findings ∧
      (findings = [] ↔ Documented interpreter (some constraint.schema) text) := by
  obtain ⟨errors, herrors, hconforms⟩ := validateJsonSchema_supported hsupported value
  refine ⟨errors.map (finding .schema .error), ?_, ?_⟩
  · unfold schemaFindingsWithin
    dsimp only
    rw [read_default interpreter hread]
    dsimp only
    rw [herrors]
    rfl
  · obtain ⟨hdocument, hstandard⟩ := (read_strict interpreter text value).mp hread
    rw [List.map_eq_nil_iff, hconforms]
    constructor
    · rintro ⟨fields, rfl, hfields⟩ schema hschema
      cases hschema
      exact ⟨fields, hdocument, hstandard.1, hstandard.2, hfields⟩
    · intro h
      obtain ⟨fields, hother, -, -, hfields⟩ := h _ rfl
      refine ⟨fields, ?_, hfields⟩
      -- a text has one tree
      exact Option.some.inj (hdocument.1.symm.trans hother.1)

theorem outputText_iff (payload : Json) (text : String) :
    outputText payload = some text ↔
      (∃ output, payload.get? "output" = some output ∧ output.get? "text" = some (.str text)) ∧
        ∃ c ∈ text.toList, Text.isSpace c = false := by
  have hvisible : isBlank text = false ↔ ∃ c ∈ text.toList, Text.isSpace c = false := by
    rw [← Bool.not_eq_true, isBlank_iff]
    push Not
    simp only [Bool.not_eq_true]
  rw [← hvisible]
  unfold outputText
  cases payload.get? "output" with
  | none =>
      constructor
      · intro h
        cases h
      · rintro ⟨⟨output, h, -⟩, -⟩
        cases h
  | some output =>
      dsimp only
      constructor
      · intro h
        split at h
        · rename_i found hfound
          split_ifs at h with hblank
          cases h
          exact ⟨⟨output, rfl, hfound⟩, by simpa using hblank⟩
        · cases h
      · rintro ⟨⟨output', heq, htext⟩, hblank⟩
        cases heq
        rw [htext]
        dsimp only
        rw [hblank, if_neg Bool.false_ne_true]

/-- The rebuilt policy carries the schema of the snapshot. -/
theorem SameRules.outputSchema_cases {policy rebuilt : ValidationPolicy}
    (h : SameRules policy rebuilt) :
    (recordedSchema policy = none ∧ rebuilt.outputSchema = none) ∨
      ∃ constraint, recordedSchema policy = some constraint.schema ∧
        rebuilt.outputSchema = some constraint := by
  have hschema := h.outputSchema
  cases hrebuilt : rebuilt.outputSchema with
  | none =>
      rw [hrebuilt] at hschema
      exact Or.inl ⟨hschema.symm, rfl⟩
  | some constraint =>
      rw [hrebuilt] at hschema
      exact Or.inr ⟨constraint, hschema.symm, rfl⟩

/-- What a text must satisfy once it is there. -/
theorem acceptable_iff {interpreter : Interpreter} {platform : Platform}
    {policy : ValidationPolicy} {payload : Json} {text : String}
    (htext : outputText payload = some text) :
    (∃ found, Acceptable interpreter platform policy payload found) ↔
      KeepsRules platform policy text ∧ Documented interpreter (recordedSchema policy) text := by
  constructor
  · rintro ⟨found, h⟩
    have hfound := (outputText_iff payload found).mpr ⟨h.stored, h.visible⟩
    rw [htext] at hfound
    obtain rfl := Option.some.inj hfound
    exact ⟨h.rules, h.document⟩
  · rintro ⟨hrules, hdocument⟩
    obtain ⟨hstored, hvisible⟩ := (outputText_iff payload text).mp htext
    exact ⟨text, hstored, hvisible, hrules, hdocument⟩

/-- **The findings of a report.**  Collecting them never raises, and there are none exactly
when the output is acceptable. -/
theorem reportFindingsWithin_exact (interpreter : Interpreter) (platform : Platform)
    {policy rebuilt : ValidationPolicy} (henforceable : Enforceable policy)
    (hsame : SameRules policy rebuilt) (payload : Json) :
    ∃ findings, reportFindingsWithin interpreter platform payload
        (schemaField (recordedSchema policy)) rebuilt = .ok findings ∧
      (findings = [] ↔ ∃ text, Acceptable interpreter platform policy payload text) := by
  unfold reportFindingsWithin
  cases htext : outputText payload with
  | none =>
      refine ⟨[findingDict "schema" "missing_output_text"], rfl, ?_⟩
      constructor
      · intro h
        cases h
      · rintro ⟨text, h⟩
        have hfound := (outputText_iff payload text).mpr ⟨h.stored, h.visible⟩
        rw [htext] at hfound
        cases hfound
  | some text =>
      dsimp only
      rw [acceptable_iff htext, ← KeepsRules.congr hsame, ← ruleFindings_iff]
      rcases hsame.outputSchema_cases with ⟨hrecorded, hnone⟩ | ⟨constraint, hrecorded, hsome⟩
      -- no schema: the text is not read
      · rw [hrecorded, if_neg (fun h => h.1 rfl)]
        unfold validateOutputWithin
        rw [hnone]
        refine ⟨_, rfl, ?_⟩
        rw [List.map_eq_nil_iff, List.append_nil]
        constructor
        · intro h
          exact ⟨h, fun fields hfields => by cases hfields⟩
        · exact fun h => h.1
      · have hsupported := SupportedSchema.of_check (henforceable.schema _ hrecorded)
        rw [hrecorded]
        cases hread : interpreter.read strictHooks text with
        | error failure =>
            refine ⟨[findingDict "schema" "invalid_json"], ?_, ?_⟩
            · rw [if_pos]
              exact ⟨nofun, rfl⟩
            · constructor
              · intro h
                cases h
              · rintro ⟨-, hdocument⟩
                obtain ⟨fields, hreadable, hkeys, hfinite, -⟩ := hdocument _ rfl
                have hok := (read_strict interpreter text _).mpr ⟨hreadable, hkeys, hfinite⟩
                rw [hread] at hok
                cases hok
        | ok value =>
            obtain ⟨findings, hfindings, hempty⟩ :=
              schemaFindingsWithin_of_strict interpreter hsupported hread
            rw [if_neg (fun h => by cases h.2)]
            unfold validateOutputWithin
            rw [hsome, hfindings]
            refine ⟨_, rfl, ?_⟩
            rw [List.map_eq_nil_iff, List.append_eq_nil_iff, hempty]

theorem reportDict_accepted (ref : ArtifactRef) (snapshot : Json) (findings : List Json) :
    (reportDict ref snapshot findings).get? "decision" = some (.str "accepted") ↔
      findings = [] := by
  cases findings with
  | nil => exact ⟨fun _ => rfl, fun _ => rfl⟩
  | cons finding rest =>
      constructor
      · intro h
        have hdecision : "rejected" = "accepted" := Json.str.inj (Option.some.inj h)
        cases (by decide : "rejected" ≠ "accepted") hdecision
      · intro h
        cases h

/-- The report of an artifact under a snapshot. -/
theorem validateArtifactWithin_report (interpreter : Interpreter) {platform : Platform}
    (artifact : StoredArtifact platform) {policy : ValidationPolicy} {snapshot : Json}
    (h : policySnapshot policy = .ok snapshot) :
    ∃ findings, validateArtifactWithin interpreter artifact snapshot =
        .ok (reportDict artifact.ref snapshot findings) ∧
      (findings = [] ↔
        ∃ text, Acceptable interpreter platform policy artifact.payload text) := by
  obtain ⟨rebuilt, hrebuilt, hsame⟩ := validationPolicyFromSnapshot_policySnapshot h
  obtain ⟨henforceable, hsnapshot⟩ := (policySnapshot_iff policy snapshot).mp h
  obtain ⟨findings, hfindings, hexact⟩ :=
    reportFindingsWithin_exact interpreter platform henforceable hsame artifact.payload
  refine ⟨findings, ?_, hexact⟩
  have hfield := get?_policyDict policy
  rw [← hsnapshot] at hfield
  cases snapshot with
  | obj fields =>
      have hlookup : lookup "output_schema" fields = some (schemaField (recordedSchema policy)) :=
        hfield
      unfold validateArtifactWithin
      rw [hrebuilt, except_ok_bind, pyDict, except_ok_bind, pop_of_lookup hlookup, except_ok_bind]
      dsimp only
      rw [hfindings]
      rfl
  | null | bool _ | int _ | float _ | str _ | arr _ => cases hfield

/-- An interpreter with enough room for the documents of an artifact. -/
def Roomy (interpreter : Interpreter) (payload : Json) : Prop :=
  ∀ text document, outputText payload = some text → tree text = some document →
    nesting document ≤ interpreter.limit

theorem validateOutput_eq (platform : Platform) (text : String) (policy : ValidationPolicy) :
    validateOutput platform text policy =
      (schemaFindings text policy.outputSchema >>= fun schema =>
        pure (ruleFindings platform text policy ++ schema)) := rfl

/-- With enough room the strict reading is the strict reading of the store. -/
theorem read_strict_roomy {interpreter : Interpreter} {text : String}
    (hroomy : ∀ document, tree text = some document → nesting document ≤ interpreter.limit) :
    (interpreter.read strictHooks text).toOption = loadsWith strictHooks text := by
  unfold Interpreter.read
  cases htree : tree text with
  | none =>
      rw [loadsWith_fold strictHooks_coherent, htree]
      rfl
  | some document =>
      have hshallow := hroomy document htree
      dsimp only
      rw [if_neg (by omega)]
      cases loadsWith strictHooks text with
      | none => rfl
      | some value => rfl

/-- **Refinement.**  In an interpreter with enough room the validator is the one the store
runs. -/
theorem validateArtifactWithin_roomy {interpreter : Interpreter} {platform : Platform}
    {artifact : StoredArtifact platform} {policy : ValidationPolicy} {snapshot : Json}
    (h : policySnapshot policy = .ok snapshot) (hroomy : Roomy interpreter artifact.payload) :
    validateArtifactWithin interpreter artifact snapshot = validateArtifact artifact snapshot := by
  obtain ⟨rebuilt, hrebuilt, hsame⟩ := validationPolicyFromSnapshot_policySnapshot h
  obtain ⟨henforceable, hsnapshot⟩ := (policySnapshot_iff policy snapshot).mp h
  have hfield := get?_policyDict policy
  rw [← hsnapshot] at hfield
  have hreport : reportFindingsWithin interpreter platform artifact.payload
      (schemaField (recordedSchema policy)) rebuilt =
        reportFindings platform artifact.payload (schemaField (recordedSchema policy)) rebuilt := by
    unfold reportFindingsWithin reportFindings
    cases htext : outputText artifact.payload with
    | none => rfl
    | some text =>
        dsimp only
        rw [read_strict_roomy (fun document => hroomy text document htext), validateOutput_eq]
        unfold validateOutputWithin
        rcases hsame.outputSchema_cases with ⟨hrecorded, hnone⟩ | ⟨constraint, hrecorded, hsome⟩
        · rw [hnone]
          rfl
        · cases hloads : loadsWith strictHooks text with
          | none =>
              rw [if_pos, if_pos]
              · exact ⟨by rw [hrecorded]; nofun, rfl⟩
              · exact ⟨by rw [hrecorded]; nofun, rfl⟩
          | some value =>
              -- both second readings return what the first one returned
              obtain ⟨htree, hkeys, hfinite⟩ := (loadsWith_strict strictHooks_coherent
                strictHooks_faithful strictHooks_strict text value).mp hloads
              have hdefault := loadsWith_faithful defaultHooks_coherent defaultHooks_faithful
                htree hkeys hfinite
              have hread := read_default interpreter ((read_strict interpreter text value).mpr
                ⟨⟨htree, hroomy text value htext htree⟩, hkeys, hfinite⟩)
              rw [if_neg (fun h => by cases h.2), if_neg (fun h => by cases h.2), hsome]
              unfold schemaFindingsWithin schemaFindings
              rw [hread, hdefault]
  cases snapshot with
  | obj fields =>
      have hlookup : lookup "output_schema" fields = some (schemaField (recordedSchema policy)) :=
        hfield
      unfold validateArtifactWithin validateArtifact
      rw [hrebuilt, except_ok_bind, except_ok_bind, pyDict, except_ok_bind, except_ok_bind,
        pop_of_lookup hlookup, except_ok_bind, except_ok_bind]
      dsimp only
      rw [hreport]
  | null | bool _ | int _ | float _ | str _ | arr _ => cases hfield

end Workflows
end Ryuk

import Ryuk.Audit.Deterministic
import Ryuk.Evaluation.Manifest
import Ryuk.Foundation.JsonDocument

/-!
# Manifest overlays and their digests

A manifest is a file, or an overlay that names another manifest and changes it.  The
digest of a file is that of its bytes; the digest of an overlay is that of a document
with the resolved manifest and the digests of the two files, under their names.
-/

namespace Ryuk
namespace Evaluation

open Foundation Foundation.Json Workflows

/-! ### Files -/

/-- A path: its root and its parts. -/
structure Path where
  root : String
  parts : List String
  deriving DecidableEq

/-- `Path(text)`: two slashes in front are a root of their own, empty parts and dots are
dropped. -/
def Path.ofText (text : String) : Path where
  root :=
    match text.toList with
    | '/' :: '/' :: '/' :: _ => "/"
    | '/' :: '/' :: _ => "//"
    | '/' :: _ => "/"
    | _ => ""
  parts := ((text.toList.splitOn '/').map String.ofList).filter fun part =>
    decide (part ≠ "") && decide (part ≠ ".")

/-- `path.name`. -/
def Path.name (path : Path) : String := path.parts.getLast?.getD ""

/-- `path.parent`. -/
def Path.parent (path : Path) : Path := { path with parts := path.parts.dropLast }

/-- `path / text`. -/
def Path.join (path : Path) (text : String) : Path :=
  let other := Path.ofText text
  if other.root = "" then { path with parts := path.parts ++ other.parts } else other

/-- `path / value` for a decoded value. -/
def Path.over (path : Path) : Json → Except PyError Path
  | .str text => .ok (path.join text)
  | _ => .error .typeError

/-- What the loader needs of the standard library. -/
structure Reader where
  /-- `hashlib.sha256(data).hexdigest()`, without collisions. -/
  sha256 : ByteArray → String
  injective : Function.Injective sha256
  /-- The text that `json.loads` reads in bytes; `none` where they do not decode. -/
  decode : ByteArray → Option String
  /-- Bytes that start with a brace and a quote are UTF-8. -/
  decode_utf8 : ∀ text : String, (∃ rest, text.toList = '\x7b' :: '"' :: rest) →
    decode text.toUTF8 = some text

/-- Why a manifest is not loaded. -/
inductive LoadError where
  /-- `OSError`. -/
  | unreadable
  | raised (error : PyError)
  deriving DecidableEq

/-- What the code raises, among the reasons not to load. -/
def raising {α : Type} : Except PyError α → Except LoadError α
  | .ok value => .ok value
  | .error error => .error (.raised error)

/-- `json.loads(data)`. -/
def loadsBytes (reader : Reader) (data : ByteArray) : Except PyError Json :=
  match reader.decode data with
  | some text => loadsJson text
  | none => .error (.valueError "invalid start byte")

/-! ### Overlays -/

/-- The keys an overlay replaces. -/
def overlayKeys : List String := ["version", "baseline_commit", "purpose", "threshold"]

/-- `if key in raw: resolved[key] = raw[key]`. -/
def replaceKey (raw resolved : List (String × Json)) (key : String) : List (String × Json) :=
  match lookup key raw with
  | some value => assign key value resolved
  | none => resolved

/-- The resolved manifest before its tasks are changed. -/
def replaceKeys (raw base : List (String × Json)) : List (String × Json) :=
  assign "resume_policy" ((lookup "resume_policy" raw).getD .null)
    (overlayKeys.foldl (replaceKey raw) base)

/-- `task["id"]` as the key of a dictionary. -/
def taskKey (task : Json) : Except PyError Json := do
  let id ← subscript task "id"
  match id with
  | .arr _ | .obj _ => throw .typeError
  | id => pure id

/-- Where `by_id` finds a task: at the last one with this id. -/
def lastIndex (taskId : String) (ids : List Json) : Option Nat :=
  (ids.reverse.findIdx? fun id => decide (id = .str taskId)).map fun index =>
    ids.length - 1 - index

/-- `override.get("checks_append", [])` and the replacements. -/
def overrideParts : Json → Except PyError (Json × List (String × Json))
  | .obj fields =>
      .ok ((lookup "checks_append" fields).getD (.arr []),
        fields.filter fun field => decide (field.1 ≠ "checks_append"))
  | _ => .error .attributeError

/-- One override of a task. -/
def overrideTask (override task : Json) : Except PyError Json := do
  let (appended, replacements) ← overrideParts override
  match task with
  | .obj fields => do
      let updated := replacements.foldl (fun fields field => assign field.1 field.2 fields) fields
      if truthy appended then do
        let checks ← subscript (.obj updated) "checks"
        let first ← tupleOf checks
        let second ← tupleOf appended
        pure (.obj (assign "checks" (.arr (first ++ second)) updated))
      else pure (.obj updated)
  | _ => throw .typeError

/-- The overrides in the order of the overlay. -/
def overrideTasks (ids : List Json) :
    List (String × Json) → List Json → Except PyError (List Json)
  | [], tasks => pure tasks
  | (taskId, override) :: rest, tasks =>
      match lastIndex taskId ids with
      | none => throw (.valueError s!"Unknown task override: {taskId}")
      | some index =>
          match tasks[index]? with
          | none => throw .keyError
          | some task => do
              let changed ← overrideTask override task
              overrideTasks ids rest (tasks.set index changed)

/-- `raw.get("task_overrides", \x7b\x7d).items()`. -/
def overridesOf (raw : List (String × Json)) : Except PyError (List (String × Json)) :=
  match lookup "task_overrides" raw with
  | none => .ok []
  | some (.obj overrides) => .ok overrides
  | some _ => .error .attributeError

/-- The manifest that an overlay makes of its base. -/
def resolve (raw base : List (String × Json)) : Except PyError (List (String × Json)) := do
  let resolved := replaceKeys raw base
  let listed ← subscript (.obj resolved) "tasks"
  let tasks ← tupleOf listed
  let ids ← tasks.mapM taskKey
  let overrides ← overridesOf raw
  let changed ← overrideTasks ids overrides tasks
  match listed with
  | .arr _ => pure (assign "tasks" (.arr changed) resolved)
  | _ => pure resolved

/-- The names of an overlay and its base, with their digests. -/
def digestSources (name digest baseName baseDigest : String) : List (String × Json) :=
  dictOf [(name, .str digest), (baseName, .str baseDigest)]

/-- The document that the digest of an overlay covers. -/
def digestPayload (resolved sources : List (String × Json)) : Json :=
  .obj [("resolved", .obj resolved), ("sources", .obj sources)]

/-- `json.dumps(payload, sort_keys=True, separators=(",", ":"))`. -/
def payloadText (payload : Json) : Except PyError String :=
  match dumpsSorted payload with
  | some text => .ok text
  | none => .error (.valueError "Exceeds the limit for integer string conversion")

/-- What a document that is no object raises: `in` or a subscript on it, or `get`. -/
def notMapping : Json → PyError
  | .str text =>
      if Audit.contains text.toList "base_manifest".toList then .typeError else .attributeError
  | .arr items => if items.any (pyEq (.str "base_manifest")) then .typeError else .attributeError
  | .null | .bool _ | .int _ | .float _ | .obj _ => .typeError

/-- `load_manifest`; the first argument bounds the recursion. -/
def loadManifest (reader : Reader) (files : Path → Option ByteArray) :
    Nat → Path → Except LoadError (List (String × Json) × String)
  | 0, _ => .error (.raised .recursionError)
  | depth + 1, path =>
      match files path with
      | none => .error .unreadable
      | some data => do
          let raw ← raising (loadsBytes reader data)
          match raw with
          | .obj fields =>
              match lookup "base_manifest" fields with
              | none => do
                  let _ ← raising (validateManifest fields)
                  pure (fields, reader.sha256 data)
              | some named => do
                  let basePath ← raising (path.parent.over named)
                  let (base, baseDigest) ← loadManifest reader files depth basePath
                  let resolved ← raising (resolve fields base)
                  let text ← raising (payloadText (digestPayload resolved
                    (digestSources path.name (reader.sha256 data) basePath.name baseDigest)))
                  let _ ← raising (validateManifest resolved)
                  pure (resolved, reader.sha256 text.toUTF8)
          | raw => .error (.raised (notMapping raw))

/-! ### Chains -/

/-- A manifest file that was read, under the name of its path. -/
structure SourceFile where
  name : String
  data : ByteArray

/-- The files of a manifest: the overlays from the outside in, and the manifest that
names no other. -/
inductive Chain (reader : Reader) (files : Path → Option ByteArray) : Path → List SourceFile → Prop
  | manifest {path : Path} {data : ByteArray} {fields : List (String × Json)}
      (hread : files path = some data) (hraw : loadsBytes reader data = .ok (.obj fields))
      (hbase : lookup "base_manifest" fields = none) :
      Chain reader files path [⟨path.name, data⟩]
  | overlay {path basePath : Path} {data : ByteArray} {fields : List (String × Json)} {named : Json}
      {rest : List SourceFile} (hread : files path = some data)
      (hraw : loadsBytes reader data = .ok (.obj fields))
      (hbase : lookup "base_manifest" fields = some named)
      (hpath : path.parent.over named = .ok basePath) (hrest : Chain reader files basePath rest) :
      Chain reader files path (⟨path.name, data⟩ :: rest)

/-- The file holds an object with the two keys of a digest document. -/
def SourceFile.IsDocument (reader : Reader) (file : SourceFile) : Prop :=
  ∃ resolved sources, loadsBytes reader file.data =
    .ok (.obj [("resolved", resolved), ("sources", sources)])

/-- When equal digests cover all the files of two chains.  Where one chain has its last
file and the other an overlay, that file is no digest document; and where both have an
overlay with the name of its base, the overlays have the same bytes. -/
def Covered (reader : Reader) : List SourceFile → List SourceFile → Prop
  | overlay :: base :: rest, overlay' :: base' :: rest' =>
      (overlay.name = base.name ∧ overlay'.name = base'.name → overlay.data = overlay'.data) ∧
        Covered reader (base :: rest) (base' :: rest')
  | _ :: _ :: _, [manifest] | [manifest], _ :: _ :: _ => ¬ manifest.IsDocument reader
  | [], _ | _, [] | [_], [_] => True

/-- The files have the same bytes, one by one. -/
def SameFiles (first second : List SourceFile) : Prop :=
  first.map SourceFile.data = second.map SourceFile.data

section Documents

variable {reader : Reader} {files files' : Path → Option ByteArray} {path path' : Path}
  {resolved resolved' : List (String × Json)} {digest : String}

theorem raising_bind_ok {α β : Type} {value : Except PyError α} {rest : α → Except LoadError β}
    {result : β} :
    (raising value >>= rest) = .ok result ↔ ∃ middle, value = .ok middle ∧ rest middle = .ok result := by
  cases value with
  | error error => simp [raising, bind, Except.bind]
  | ok middle => simp [raising, bind, Except.bind]

/-- What an overlay and its base contribute to the digest. -/
structure Documented (reader : Reader) (files : Path → Option ByteArray) (depth : Nat)
    (path basePath : Path) (data : ByteArray) (digest baseDigest : String) : Prop where
  base : ∃ resolved, loadManifest reader files depth basePath = .ok (resolved, baseDigest)
  text : ∃ resolved text, dumpsSorted (digestPayload resolved
    (digestSources path.name (reader.sha256 data) basePath.name baseDigest)) = some text ∧
      digest = reader.sha256 text.toUTF8

/-- **Inversion.**  A manifest that loads is a file, or an overlay whose base loads. -/
theorem load_cases {depth : Nat}
    (h : loadManifest reader files (depth + 1) path = .ok (resolved, digest)) :
    ∃ data fields, files path = some data ∧ loadsBytes reader data = .ok (.obj fields) ∧
      ((lookup "base_manifest" fields = none ∧ digest = reader.sha256 data) ∨
        ∃ named basePath baseDigest, lookup "base_manifest" fields = some named ∧
          path.parent.over named = .ok basePath ∧
          Documented reader files depth path basePath data digest baseDigest) := by
  rw [loadManifest] at h
  cases hread : files path with
  | none =>
      rw [hread] at h
      cases h
  | some data =>
      simp only [hread, raising_bind_ok] at h
      obtain ⟨raw, hraw, h⟩ := h
      cases raw with
      | null | bool _ | int _ | float _ | str _ | arr _ => cases h
      | obj fields =>
          refine ⟨data, fields, rfl, hraw, ?_⟩
          cases hbase : lookup "base_manifest" fields with
          | none =>
              simp only [hbase, raising_bind_ok] at h
              obtain ⟨comparison, -, h⟩ := h
              exact Or.inl ⟨rfl, (Prod.mk.inj (Except.ok.inj h)).2.symm⟩
          | some named =>
              simp only [hbase, raising_bind_ok] at h
              obtain ⟨basePath, hpath, h⟩ := h
              cases hloaded : loadManifest reader files depth basePath with
              | error error =>
                  rw [hloaded] at h
                  cases h
              | ok loaded =>
                  obtain ⟨base, baseDigest⟩ := loaded
                  rw [hloaded] at h
                  change (raising (resolve fields base) >>= _) = _ at h
                  simp only [raising_bind_ok] at h
                  obtain ⟨made, -, text, htext, comparison, -, h⟩ := h
                  refine Or.inr ⟨named, basePath, baseDigest, rfl, hpath,
                    ⟨⟨base, hloaded⟩, made, text, ?_, (Prod.mk.inj (Except.ok.inj h)).2.symm⟩⟩
                  unfold payloadText at htext
                  split at htext
                  · rename_i found hfound
                    rw [hfound, Except.ok.inj htext]
                  · cases htext

/-! ### Digest documents -/

/-- The keys of a digest document are in order. -/
theorem canon_digestPayload (resolved sources : List (String × Json)) :
    canon (digestPayload resolved sources) =
      .obj [("resolved", canon (.obj resolved)), ("sources", canon (.obj sources))] := by
  rw [digestPayload, canon, canonFields, canonFields, canonFields]
  have hless : ¬ "sources" < "resolved" := by decide
  have hne : ¬ "sources" = "resolved" := by decide
  have hsorted : ∀ first second : Json, sortFields [("resolved", first), ("sources", second)] =
      [("resolved", first), ("sources", second)] := by
    intro first second
    unfold sortFields
    rw [List.foldl_cons, List.foldl_cons, List.foldl_nil, insertField, insertField, if_neg hless,
      if_neg hne, insertField]
  rw [hsorted]

/-- The bytes of a digest document are read as the document. -/
theorem loadsBytes_payload {sources : List (String × Json)} {text : String}
    (h : dumpsSorted (digestPayload resolved sources) = some text) :
    loadsBytes reader text.toUTF8 =
      .ok (.obj [("resolved", canon (.obj resolved)), ("sources", canon (.obj sources))]) := by
  have hcanon := canon_digestPayload resolved sources
  unfold loadsBytes
  rw [reader.decode_utf8 text (dumpsSorted_head h hcanon)]
  show loadsJson text = _
  unfold loadsJson
  rw [loads_dumpsSorted h, hcanon]

/-- What the digest of a manifest covers is never an overlay. -/
theorem digest_bytes {depth : Nat}
    (h : loadManifest reader files depth path = .ok (resolved, digest)) :
    ∃ data fields, digest = reader.sha256 data ∧ loadsBytes reader data = .ok (.obj fields) ∧
      lookup "base_manifest" fields = none := by
  cases depth with
  | zero => cases h
  | succ depth =>
      obtain ⟨data, fields, hread, hraw, ⟨hbase, hdigest⟩ | ⟨named, basePath, baseDigest, hbase,
        hpath, hdocumented⟩⟩ := load_cases h
      · exact ⟨data, fields, hdigest, hraw, hbase⟩
      · obtain ⟨made, text, htext, hdigest⟩ := hdocumented.text
        exact ⟨text.toUTF8, _, hdigest, loadsBytes_payload htext, rfl⟩

/-! ### The names in a document -/

theorem lookup_digestSources (name ownDigest baseName baseDigest key : String) :
    lookup key (digestSources name ownDigest baseName baseDigest) =
      if baseName = key then some (.str baseDigest)
      else if name = key then some (.str ownDigest) else none := by
  show lookup key (assign baseName (Json.str baseDigest) [(name, Json.str ownDigest)]) = _
  by_cases hname : name = baseName
  · rw [assign, if_pos hname, lookup, hname]
    by_cases hkey : baseName = key
    · rw [if_pos hkey, if_pos hkey]
    · rw [if_neg hkey, if_neg hkey, if_neg hkey]
      rfl
  · rw [assign, if_neg hname, lookup]
    by_cases hkey : name = key
    · have hbase : baseName ≠ key := fun hsame => hname (hkey.trans hsame.symm)
      rw [if_pos hkey, if_neg hbase, if_pos hkey]
    · rw [if_neg hkey, if_neg hkey]
      rfl

theorem keys_digestSources (name ownDigest baseName baseDigest : String) :
    (keys (digestSources name ownDigest baseName baseDigest)).Nodup := by
  show (keys (assign baseName (Json.str baseDigest) [(name, Json.str ownDigest)])).Nodup
  by_cases hname : name = baseName
  · rw [assign, if_pos hname]
    exact List.nodup_singleton name
  · rw [assign, if_neg hname]
    show [name, baseName].Nodup
    rw [List.nodup_cons, List.mem_singleton]
    exact ⟨hname, List.nodup_singleton baseName⟩

/-- Documents with one canonical form find the same under every name. -/
theorem sources_agree {name ownDigest baseName baseDigest name' ownDigest' baseName' baseDigest' : String}
    (h : canon (.obj (digestSources name ownDigest baseName baseDigest)) =
      canon (.obj (digestSources name' ownDigest' baseName' baseDigest'))) (key : String) :
    lookup key (digestSources name ownDigest baseName baseDigest) =
      lookup key (digestSources name' ownDigest' baseName' baseDigest') := by
  have hfound : ∀ name ownDigest baseName baseDigest,
      (canon (.obj (digestSources name ownDigest baseName baseDigest))).get? key =
        lookup key (digestSources name ownDigest baseName baseDigest) := by
    intro name ownDigest baseName baseDigest
    rw [get?_canon (keys_digestSources ..), lookup_digestSources]
    split_ifs
    · rfl
    · rfl
    · rfl
  rw [← hfound, ← hfound, h]

/-- **What equal digests of two overlays tell.**  The digests of the bases are equal, and
those of the overlays are too unless both have the name of their base. -/
theorem sources_cases {name ownDigest baseName baseDigest name' ownDigest' baseName' baseDigest' : String}
    (h : ∀ key, lookup key (digestSources name ownDigest baseName baseDigest) =
      lookup key (digestSources name' ownDigest' baseName' baseDigest'))
    (hcrossed : ownDigest' ≠ baseDigest) :
    baseDigest = baseDigest' ∧
      ((name = baseName ∧ name' = baseName') ∨ ownDigest = ownDigest') := by
  simp only [lookup_digestSources] at h
  -- the base of the first is the base of the second, since digests of bases are no digests of
  -- overlays
  have hbase : baseName' = baseName := by
    by_contra hne
    have hfound := h baseName
    rw [if_pos rfl, if_neg hne] at hfound
    split_ifs at hfound with hname
    · exact hcrossed (Json.str.inj (Option.some.inj hfound)).symm
  subst hbase
  have hbases := h baseName'
  rw [if_pos rfl, if_pos rfl] at hbases
  refine ⟨Json.str.inj (Option.some.inj hbases), ?_⟩
  by_cases hname : baseName' = name
  · -- an overlay with another name would be found on one side only
    have hname' : name' = baseName' := by
      by_contra hne
      have hfound := h name'
      rw [if_neg (Ne.symm hne), if_neg (Ne.symm hne), if_pos rfl,
        if_neg fun hsame => hne (hsame.symm.trans hname.symm)] at hfound
      cases hfound
    exact Or.inl ⟨hname.symm, hname'⟩
  · have hfound := h name
    rw [if_neg hname, if_pos rfl, if_neg hname] at hfound
    split_ifs at hfound
    · exact Or.inr (Json.str.inj (Option.some.inj hfound))

end Documents

/-! ### Coverage -/

section Coverage

variable {reader : Reader} {files files' : Path → Option ByteArray} {path path' : Path}
  {resolved resolved' : List (String × Json)} {digest : String} {depth depth' : Nat}
  {first second : List SourceFile}

/-- A chain starts with the file of its path. -/
theorem Chain.head (h : Chain reader files path first) :
    ∃ data rest, first = ⟨path.name, data⟩ :: rest := by
  cases h with
  | manifest hread hraw hbase => exact ⟨_, _, rfl⟩
  | overlay hread hraw hbase hpath hrest => exact ⟨_, _, rfl⟩

/-- The digest of a manifest that names no other. -/
theorem manifest_digest {data : ByteArray} {fields : List (String × Json)}
    (hread : files path = some data) (hraw : loadsBytes reader data = .ok (.obj fields))
    (hbase : lookup "base_manifest" fields = none)
    (h : loadManifest reader files depth path = .ok (resolved, digest)) :
    digest = reader.sha256 data := by
  cases depth with
  | zero => cases h
  | succ depth =>
      obtain ⟨found, fields', hfound, hraw', hcases⟩ := load_cases h
      obtain rfl := Option.some.inj (hread.symm.trans hfound)
      obtain rfl := Json.obj.inj (Except.ok.inj (hraw.symm.trans hraw'))
      rcases hcases with ⟨-, hdigest⟩ | ⟨named, basePath, baseDigest, hnamed, -⟩
      · exact hdigest
      · rw [hbase] at hnamed
        cases hnamed

/-- What the digest of an overlay covers. -/
theorem overlay_documented {data : ByteArray} {fields : List (String × Json)} {named : Json}
    {basePath : Path} (hread : files path = some data)
    (hraw : loadsBytes reader data = .ok (.obj fields))
    (hbase : lookup "base_manifest" fields = some named) (hpath : path.parent.over named = .ok basePath)
    (h : loadManifest reader files depth path = .ok (resolved, digest)) :
    ∃ depth baseDigest, Documented reader files depth path basePath data digest baseDigest := by
  cases depth with
  | zero => cases h
  | succ depth =>
      obtain ⟨found, fields', hfound, hraw', hcases⟩ := load_cases h
      obtain rfl := Option.some.inj (hread.symm.trans hfound)
      obtain rfl := Json.obj.inj (Except.ok.inj (hraw.symm.trans hraw'))
      rcases hcases with ⟨hnone, -⟩ | ⟨named', basePath', baseDigest, hnamed, hpath', hdocumented⟩
      · rw [hbase] at hnone
        cases hnone
      · obtain rfl := Option.some.inj (hbase.symm.trans hnamed)
        obtain rfl := Except.ok.inj (hpath.symm.trans hpath')
        exact ⟨depth, baseDigest, hdocumented⟩

/-- A file with the digest of an overlay is a digest document. -/
theorem isDocument_of_digest {basePath : Path} {data data' : ByteArray} {baseDigest name : String}
    (h : Documented reader files depth path basePath data digest baseDigest)
    (hdigest : digest = reader.sha256 data') : SourceFile.IsDocument reader ⟨name, data'⟩ := by
  obtain ⟨made, text, htext, hcovered⟩ := h.text
  obtain rfl : text.toUTF8 = data' := reader.injective (hcovered.symm.trans hdigest)
  exact ⟨_, _, loadsBytes_payload htext⟩

/-- Two overlays with one digest. -/
theorem overlays_agree {basePath basePath' : Path} {data data' : ByteArray}
    {fields' : List (String × Json)} {named' : Json} {baseDigest baseDigest' : String}
    (h : Documented reader files depth path basePath data digest baseDigest)
    (h' : Documented reader files' depth' path' basePath' data' digest baseDigest')
    (hraw' : loadsBytes reader data' = .ok (.obj fields'))
    (hnamed' : lookup "base_manifest" fields' = some named') :
    baseDigest = baseDigest' ∧
      ((path.name = basePath.name ∧ path'.name = basePath'.name) ∨ data = data') := by
  obtain ⟨made, text, htext, hdigest⟩ := h.text
  obtain ⟨made', text', htext', hdigest'⟩ := h'.text
  have hbytes : text.toUTF8 = text'.toUTF8 := reader.injective (hdigest.symm.trans hdigest')
  have hread := @loadsBytes_payload reader _ _ _ htext
  rw [hbytes, loadsBytes_payload htext'] at hread
  -- the document of one is the document of the other
  have hdocuments := Json.obj.inj (Except.ok.inj hread)
  have hsources := (Prod.mk.inj (List.cons.inj (List.cons.inj hdocuments).2).1).2
  have hcrossed : reader.sha256 data' ≠ baseDigest := by
    intro hsame
    obtain ⟨base, hloaded⟩ := h.base
    obtain ⟨covered, fields, hcovered, hraw, hnone⟩ := digest_bytes hloaded
    have hequal : data' = covered := reader.injective (hsame.trans hcovered)
    rw [hequal, hraw] at hraw'
    rw [← Json.obj.inj (Except.ok.inj hraw'), hnone] at hnamed'
    cases hnamed'
  obtain ⟨hbase, hnames | hown⟩ := sources_cases (sources_agree hsources.symm) hcrossed
  · exact ⟨hbase, Or.inl hnames⟩
  · exact ⟨hbase, Or.inr (reader.injective hown)⟩

/-- **Coverage.**  The induction is on the first chain; the digests of the bases are equal
whenever those of two overlays are. -/
theorem sameFiles_iff (hfirst : Chain reader files path first)
    (hsecond : Chain reader files' path' second)
    (hload : loadManifest reader files depth path = .ok (resolved, digest))
    (hload' : loadManifest reader files' depth' path' = .ok (resolved', digest)) :
    SameFiles first second ↔ Covered reader first second := by
  induction hfirst generalizing path' second depth depth' resolved resolved' digest with
  | manifest hread hraw hbase =>
      have hdigest := manifest_digest hread hraw hbase hload
      cases hsecond with
      | manifest hread' hraw' hbase' =>
          have hdigest' := manifest_digest hread' hraw' hbase' hload'
          refine iff_of_true ?_ trivial
          exact congrArg (fun data => [data]) (reader.injective (hdigest.symm.trans hdigest'))
      | overlay hread' hraw' hbase' hpath' hrest' =>
          obtain ⟨inner, baseDigest, hdocumented⟩ :=
            overlay_documented hread' hraw' hbase' hpath' hload'
          obtain ⟨data', rest', rfl⟩ := hrest'.head
          refine iff_of_false (fun hsame => ?_) fun hplain => ?_
          · cases (List.cons.inj hsame).2
          · exact hplain (isDocument_of_digest hdocumented hdigest)
  | overlay hread hraw hbase hpath hrest ih =>
      obtain ⟨inner, baseDigest, hdocumented⟩ := overlay_documented hread hraw hbase hpath hload
      obtain ⟨data, rest, rfl⟩ := hrest.head
      cases hsecond with
      | manifest hread' hraw' hbase' =>
          have hdigest' := manifest_digest hread' hraw' hbase' hload'
          refine iff_of_false (fun hsame => ?_) fun hplain => ?_
          · cases (List.cons.inj hsame).2
          · exact hplain (isDocument_of_digest hdocumented hdigest')
      | overlay hread' hraw' hbase' hpath' hrest' =>
          obtain ⟨inner', baseDigest', hdocumented'⟩ :=
            overlay_documented hread' hraw' hbase' hpath' hload'
          obtain ⟨data', rest', rfl⟩ := hrest'.head
          obtain ⟨hbases, hown⟩ := overlays_agree hdocumented hdocumented' hraw' hbase'
          subst hbases
          obtain ⟨base, hloaded⟩ := hdocumented.base
          obtain ⟨base', hloaded'⟩ := hdocumented'.base
          have hrests := ih hrest' hloaded hloaded'
          constructor
          · intro hsame
            obtain ⟨hdata, htail⟩ := List.cons.inj hsame
            exact ⟨fun _ => hdata, hrests.mp htail⟩
          · rintro ⟨hnamed, htail⟩
            have hdata := hown.elim hnamed id
            exact congrArg₂ List.cons hdata (hrests.mpr htail)

end Coverage

/-- The digest of a manifest covers its files: `verdict` is told the two chains of files
and whether they have the same bytes. -/
def DigestsCover (reader : Reader) (verdict : List SourceFile → List SourceFile → Prop → Prop) :
    Prop :=
  ∀ files files' depth depth' path path' resolved resolved' digest first second,
    loadManifest reader files depth path = .ok (resolved, digest) →
    loadManifest reader files' depth' path' = .ok (resolved', digest) →
    Chain reader files path first → Chain reader files' path' second →
    verdict first second (SameFiles first second)

/-- **Digests of manifests.**  Equal digests mean equal files exactly when no digest
document stands for an overlay and no overlay hides behind its base. -/
theorem digestsCover_iff : ∀ reader, DigestsCover reader
    fun first second same => same ↔ Covered reader first second := by
  intro reader files files' depth depth' path path' resolved resolved' digest first second hload
    hload' hfirst hsecond
  exact sameFiles_iff hfirst hsecond hload hload'

/-! ### An overlay with the name of its base -/

/-- Digests that are the bytes themselves, and UTF-8. -/
def plainReader : Reader where
  sha256 data := String.ofList (data.data.toList.map Char.ofUInt8)
  injective := by
    intro first second h
    have hbyte : Function.Injective Char.ofUInt8 := by
      intro byte byte' hsame
      exact UInt8.toNat_inj.mp (congrArg Char.toNat hsame)
    have hlist := List.map_injective_iff.mpr hbyte (String.ofList_injective h)
    exact ByteArray.ext (Array.toList_inj.mp hlist)
  decode data := String.fromUTF8? data
  decode_utf8 text _ := dif_pos text.isValidUTF8

/-- An overlay of `../m.json` in a file `m.json`. -/
def overlayText : String := "\x7b\"base_manifest\":\"../m.json\"\x7d"

/-- The same with a blank. -/
def overlayText' : String := "\x7b\"base_manifest\":\"../m.json\" \x7d"

/-- A manifest without tasks. -/
def emptyManifest : String := "\x7b\"tasks\":[]\x7d"

/-- The overlay at `a/m.json` and its base. -/
def twoFiles (text : String) (path : Path) : Option ByteArray :=
  if path = ⟨"", ["a", "m.json"]⟩ then some text.toUTF8
  else if path = ⟨"", ["a", "..", "m.json"]⟩ then some emptyManifest.toUTF8
  else none

section Shadowed

variable {text : String}

theorem loadsBytes_plain (hstart : ∃ rest, text.toList = '\x7b' :: '"' :: rest) {value : Json}
    (hvalue : loads text = some value) : loadsBytes plainReader text.toUTF8 = .ok value := by
  unfold loadsBytes
  rw [plainReader.decode_utf8 text hstart]
  show loadsJson text = _
  unfold loadsJson
  rw [hvalue]

theorem emptyManifest_read : loadsBytes plainReader emptyManifest.toUTF8 =
    .ok (.obj [("tasks", .arr [])]) :=
  loadsBytes_plain ⟨_, rfl⟩ (by decide +kernel)

theorem twoFiles_chain (hstart : ∃ rest, text.toList = '\x7b' :: '"' :: rest)
    (hvalue : loads text = some (.obj [("base_manifest", .str "../m.json")])) :
    Chain plainReader (twoFiles text) ⟨"", ["a", "m.json"]⟩
      [⟨"m.json", text.toUTF8⟩, ⟨"m.json", emptyManifest.toUTF8⟩] :=
  Chain.overlay (if_pos rfl) (loadsBytes_plain hstart hvalue) rfl rfl
    (Chain.manifest (if_neg (by decide)) emptyManifest_read rfl)

/-- The manifest that the overlay and its base make. -/
def resolvedManifest : List (String × Json) := [("tasks", .arr []), ("resume_policy", .null)]

theorem exists_document (baseDigest : String) : ∃ document,
    payloadText (digestPayload resolvedManifest [("m.json", .str baseDigest)]) = .ok document := by
  have hsources : canon (.obj [("m.json", .str baseDigest)]) = .obj [("m.json", .str baseDigest)] :=
    canon_of_canonical _ ⟨List.pairwise_singleton _ _, trivial, trivial⟩
  have hresolved : encodable (canon (.obj resolvedManifest)) = true := by decide +kernel
  have hencodable : encodable (canon (digestPayload resolvedManifest
      [("m.json", .str baseDigest)])) = true := by
    rw [canon_digestPayload, hsources, encodable, encodableFields, hresolved]
    rfl
  unfold payloadText dumpsSorted
  rw [if_pos hencodable]
  exact ⟨_, rfl⟩

theorem resolve_empty : resolve [("base_manifest", .str "../m.json")] [("tasks", .arr [])] =
    .ok resolvedManifest := by
  decide +kernel

/-- An overlay loads when all its parts do. -/
theorem loadManifest_overlay {reader : Reader} {files : Path → Option ByteArray} {depth : Nat}
    {path basePath : Path} {data : ByteArray} {fields base resolved : List (String × Json)}
    {named : Json} {baseDigest document : String} {comparison : Option Comparison}
    (hread : files path = some data) (hraw : loadsBytes reader data = .ok (.obj fields))
    (hnamed : lookup "base_manifest" fields = some named)
    (hpath : path.parent.over named = .ok basePath)
    (hbase : loadManifest reader files depth basePath = .ok (base, baseDigest))
    (hresolve : resolve fields base = .ok resolved)
    (hdocument : payloadText (digestPayload resolved
      (digestSources path.name (reader.sha256 data) basePath.name baseDigest)) = .ok document)
    (hvalid : validateManifest resolved = .ok comparison) :
    loadManifest reader files (depth + 1) path = .ok (resolved, reader.sha256 document.toUTF8) := by
  rw [loadManifest, hread]
  refine raising_bind_ok.mpr ⟨_, hraw, ?_⟩
  simp only [hnamed]
  refine raising_bind_ok.mpr ⟨_, hpath, ?_⟩
  rw [hbase]
  show (raising (resolve fields base) >>= _) = _
  exact raising_bind_ok.mpr ⟨_, hresolve, raising_bind_ok.mpr ⟨_, hdocument,
    raising_bind_ok.mpr ⟨_, hvalid, rfl⟩⟩⟩

/-- The digest of the overlay does not depend on its bytes. -/
theorem twoFiles_digest : ∃ digest, ∀ text,
    (∃ rest, text.toList = '\x7b' :: '"' :: rest) →
    loads text = some (.obj [("base_manifest", .str "../m.json")]) →
    loadManifest plainReader (twoFiles text) 2 ⟨"", ["a", "m.json"]⟩ =
      .ok (resolvedManifest, digest) := by
  obtain ⟨baseDigest, hbaseDigest⟩ : ∃ baseDigest,
    plainReader.sha256 emptyManifest.toUTF8 = baseDigest := ⟨_, rfl⟩
  obtain ⟨document, hdocument⟩ := exists_document baseDigest
  refine ⟨plainReader.sha256 document.toUTF8, fun text hstart hvalue => ?_⟩
  have hread : twoFiles text ⟨"", ["a", "m.json"]⟩ = some text.toUTF8 := if_pos rfl
  have hbaseRead : twoFiles text ⟨"", ["a", "..", "m.json"]⟩ = some emptyManifest.toUTF8 :=
    if_neg (by decide)
  have hover : Path.over (Path.parent ⟨"", ["a", "m.json"]⟩) (.str "../m.json") =
      .ok ⟨"", ["a", "..", "m.json"]⟩ := by decide +kernel
  have hbase : loadManifest plainReader (twoFiles text) 1 ⟨"", ["a", "..", "m.json"]⟩ =
      .ok ([("tasks", .arr [])], baseDigest) := by
    rw [loadManifest, hbaseRead]
    simp only [emptyManifest_read, hbaseDigest]
    rfl
  -- the digest of the base takes the place of that of the overlay
  have hsources : digestSources "m.json" (plainReader.sha256 text.toUTF8) "m.json" baseDigest =
      [("m.json", .str baseDigest)] := by
    show assign "m.json" (Json.str baseDigest)
      [("m.json", Json.str (plainReader.sha256 text.toUTF8))] = _
    rw [assign, if_pos rfl]
  exact loadManifest_overlay hread (loadsBytes_plain hstart hvalue) rfl hover hbase resolve_empty
    (hsources ▸ hdocument) rfl

end Shadowed

/-- A blank in an overlay with the name of its base does not change the digest. -/
theorem hidden_overlay_same_digest : ¬ ∀ reader, DigestsCover reader fun _ _ same => same := by
  intro h
  obtain ⟨digest, hdigest⟩ := twoFiles_digest
  have hstart : ∃ rest, overlayText.toList = '\x7b' :: '"' :: rest := ⟨_, rfl⟩
  have hstart' : ∃ rest, overlayText'.toList = '\x7b' :: '"' :: rest := ⟨_, rfl⟩
  have hvalue : loads overlayText = some (.obj [("base_manifest", .str "../m.json")]) := by
    decide +kernel
  have hvalue' : loads overlayText' = some (.obj [("base_manifest", .str "../m.json")]) := by
    decide +kernel
  have hsame := h plainReader _ _ _ _ _ _ _ _ digest _ _ (hdigest _ hstart hvalue)
    (hdigest _ hstart' hvalue') (twoFiles_chain hstart hvalue) (twoFiles_chain hstart' hvalue')
  have hbytes : overlayText.toUTF8 = overlayText'.toUTF8 := (List.cons.inj hsame).1
  have htexts : some overlayText = some overlayText' := by
    rw [← plainReader.decode_utf8 _ hstart, ← plainReader.decode_utf8 _ hstart', hbytes]
  exact absurd htexts (by decide +kernel)

end Evaluation
end Ryuk

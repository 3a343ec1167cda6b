import Ryuk.Workflows.Propagation
import Ryuk.Workflows.StoredFormat

/-!
# What a request hash covers

A creation is known by a document, its packet or its graph, and by optional parts, a
binding and a budget.  The text that is hashed is that of the document alone when no
part is given, and that of an object of them all otherwise.  Different requests have
different texts, whatever they contain: an absent part is never taken for a present
one, and a document with parts never for a document alone.
-/

namespace Ryuk
namespace Workflows

open Foundation Foundation.Json Foundation.Text Foundation.Datetime Foundation.Decimal

/-! ### The covered text -/

/-- The value of a part: `null` when it is absent. -/
def partValue : Option String → Except PyError Json
  | none => pure .null
  | some text => loadsJson text

/-- The values of the parts, under their names. -/
def partValues : List (String × Option String) → Except PyError (List (String × Json))
  | [] => pure []
  | (name, part) :: rest => do
      let value ← partValue part
      let values ← partValues rest
      pure ((name, value) :: values)

/-- The text that is hashed. -/
def coveredText (name document : String) (parts : List (String × Option String)) :
    Except PyError String :=
  if parts.all fun part => part.2.isNone then pure document
  else do
    let value ← loadsJson document
    let values ← partValues parts
    canonicalJson (.obj ((name, value) :: values))

/-- The canonical text of a dictionary. -/
def DictText (text : String) : Prop := ∃ fields, canonicalJson (.obj fields) = .ok text

/-- A dictionary without a field of this name. -/
def DictTextWithout (name text : String) : Prop :=
  ∃ fields, canonicalJson (.obj fields) = .ok text ∧ (canon (.obj fields)).get? name = none

section Covered

variable {name document document' text text' : String} {part part' : Option String}
  {parts parts' : List (String × Option String)} {value value' : Json}

theorem DictTextWithout.object (h : DictTextWithout name text) : DictText text :=
  let ⟨fields, htext, _⟩ := h
  ⟨fields, htext⟩

theorem lookup_eq_none {key : String} {fields : List (String × Json)} (h : key ∉ keys fields) :
    lookup key fields = none := by
  induction fields with
  | nil => rfl
  | cons field rest ih =>
      rw [keys, List.map_cons, List.mem_cons, not_or] at h
      rw [lookup, if_neg (Ne.symm h.1)]
      exact ih h.2

theorem DictTextWithout.of_keys {fields : List (String × Json)}
    (h : canonicalJson (.obj fields) = .ok text) (hkeys : (keys fields).Nodup)
    (hname : name ∉ keys fields) : DictTextWithout name text := by
  refine ⟨fields, h, ?_⟩
  rw [get?_canon hkeys, lookup_eq_none hname]
  rfl

/-- What is read from the text of a dictionary. -/
theorem DictText.loaded (h : DictText text) :
    ∃ fields, loadsJson text = .ok (.obj fields) ∧ Canonical (.obj fields) ∧
      canonicalJson (.obj fields) = .ok text := by
  obtain ⟨fields, htext⟩ := h
  have hcanon : canon (.obj fields) = .obj (sortFields (canonFields fields)) := by rw [canon]
  refine ⟨sortFields (canonFields fields), ?_, ?_, ?_⟩
  · rw [← hcanon]
    exact loadsJson_canonicalJson htext
  · rw [← hcanon]
    exact canon_canonical _
  · rw [← hcanon]
    exact canonicalJson_canon htext

/-- Texts that are read alike are alike. -/
theorem DictText.injective (h : DictText text) (h' : DictText text')
    (hsame : loadsJson text = loadsJson text') : text = text' := by
  obtain ⟨fields, hload, -, htext⟩ := h.loaded
  obtain ⟨fields', hload', -, htext'⟩ := h'.loaded
  rw [hload, hload'] at hsame
  rw [Except.ok.inj hsame, htext'] at htext
  exact (Except.ok.inj htext).symm

theorem partValue_total (h : ∀ found ∈ part, DictText found) :
    ∃ value, partValue part = .ok value ∧ Canonical value ∧ printable value = true := by
  cases part with
  | none => exact ⟨.null, rfl, trivial, rfl⟩
  | some found =>
      obtain ⟨fields, hload, hcanonical, htext⟩ := (h found rfl).loaded
      exact ⟨.obj fields, hload, hcanonical, printable_of_canonicalJson htext⟩

/-- An absent part has the value of no present one. -/
theorem partValue_injective (hpart : ∀ found ∈ part, DictText found)
    (hpart' : ∀ found ∈ part', DictText found) (hsame : partValue part = partValue part') :
    part = part' := by
  cases part with
  | none =>
      cases part' with
      | none => rfl
      | some found' =>
          obtain ⟨fields', hload', -⟩ := (hpart' found' rfl).loaded
          have hnull : Except.ok Json.null = loadsJson found' := hsame
          rw [hload'] at hnull
          cases hnull
  | some found =>
      cases part' with
      | none =>
          obtain ⟨fields, hload, -⟩ := (hpart found rfl).loaded
          have hnull : loadsJson found = Except.ok Json.null := hsame
          rw [hload] at hnull
          cases hnull
      | some found' =>
          rw [(hpart found rfl).injective (hpart' found' rfl) hsame]

theorem partValues_total (h : ∀ part ∈ parts, ∀ found ∈ part.2, DictText found) :
    ∃ values, partValues parts = .ok values ∧ keys values = parts.map Prod.fst ∧
      printableFields values = true := by
  induction parts with
  | nil => exact ⟨[], rfl, rfl, rfl⟩
  | cons first rest ih =>
      obtain ⟨values, hvalues, hkeys, hprintable⟩ :=
        ih fun part hpart => h part (List.mem_cons_of_mem _ hpart)
      obtain ⟨value, hvalue, -, hfirst⟩ := partValue_total (h first List.mem_cons_self)
      refine ⟨(first.1, value) :: values, ?_, ?_, ?_⟩
      · show (partValue first.2 >>= _) = _
        rw [hvalue]
        show (partValues rest >>= _) = _
        rw [hvalues]
        rfl
      · show first.1 :: keys values = _
        rw [hkeys, List.map_cons]
      · rw [printableFields, hfirst, hprintable]
        rfl

/-- Parts under the same names that are read alike under each name are alike. -/
theorem partValues_injective {values values' : List (String × Json)}
    (hnames : parts.map Prod.fst = parts'.map Prod.fst) (hnodup : (parts.map Prod.fst).Nodup)
    (hparts : ∀ part ∈ parts, ∀ found ∈ part.2, DictText found)
    (hparts' : ∀ part ∈ parts', ∀ found ∈ part.2, DictText found)
    (h : partValues parts = .ok values) (h' : partValues parts' = .ok values')
    (hsame : ∀ key ∈ parts.map Prod.fst,
      (lookup key values).map canon = (lookup key values').map canon) : parts = parts' := by
  induction parts generalizing parts' values values' with
  | nil =>
      rw [List.map_nil] at hnames
      rw [List.map_eq_nil_iff.mp hnames.symm]
  | cons first rest ih =>
      cases parts' with
      | nil => cases hnames
      | cons first' rest' =>
          obtain ⟨key, part⟩ := first
          obtain ⟨key', part'⟩ := first'
          obtain ⟨hkey, hrest⟩ := List.cons.inj hnames
          obtain rfl : key = key' := hkey
          rw [List.map_cons, List.nodup_cons] at hnodup
          simp only [partValues, except_bind_ok] at h h'
          obtain ⟨value, hvalue, others, hothers, h⟩ := h
          obtain ⟨value', hvalue', others', hothers', h'⟩ := h'
          obtain rfl := Except.ok.inj h
          obtain rfl := Except.ok.inj h'
          have hpart := hparts _ List.mem_cons_self
          have hpart' := hparts' _ List.mem_cons_self
          -- the first parts have one value
          have hfirst : part = part' := by
            apply partValue_injective hpart hpart'
            obtain ⟨found, hfound, hcanonical, -⟩ := partValue_total hpart
            obtain ⟨found', hfound', hcanonical', -⟩ := partValue_total hpart'
            obtain rfl := Except.ok.inj (hvalue.symm.trans hfound)
            obtain rfl := Except.ok.inj (hvalue'.symm.trans hfound')
            have hcanon := hsame key List.mem_cons_self
            rw [lookup, if_pos rfl, lookup, if_pos rfl] at hcanon
            have hvalues := Option.some.inj hcanon
            rw [canon_of_canonical _ hcanonical, canon_of_canonical _ hcanonical'] at hvalues
            rw [hvalue, hvalue', hvalues]
          -- the others are found behind them
          have htail : rest = rest' := by
            refine ih hrest hnodup.2 (fun part hpart => hparts part (List.mem_cons_of_mem _ hpart))
              (fun part hpart => hparts' part (List.mem_cons_of_mem _ hpart)) hothers hothers' ?_
            intro other hother
            have hne : key ≠ other := fun heq => hnodup.1 (heq ▸ hother)
            have hcanon := hsame other (List.mem_cons_of_mem _ hother)
            rw [lookup, if_neg hne, lookup, if_neg hne] at hcanon
            exact hcanon
          rw [hfirst, htail]

/-- Parts that are all absent are known by their names. -/
theorem absent_injective (hnames : parts.map Prod.fst = parts'.map Prod.fst)
    (h : (parts.all fun part => part.2.isNone) = true)
    (h' : (parts'.all fun part => part.2.isNone) = true) : parts = parts' := by
  induction parts generalizing parts' with
  | nil =>
      rw [List.map_nil] at hnames
      rw [List.map_eq_nil_iff.mp hnames.symm]
  | cons first rest ih =>
      cases parts' with
      | nil => cases hnames
      | cons first' rest' =>
          obtain ⟨hkey, hrest⟩ := List.cons.inj hnames
          rw [List.all_cons, Bool.and_eq_true, Option.isNone_iff_eq_none] at h h'
          rw [ih hrest h.2 h'.2, Prod.ext hkey (h.1.trans h'.1.symm)]

/-- What is hashed has a text. -/
theorem coveredText_total (hdocument : DictText document)
    (hparts : ∀ part ∈ parts, ∀ found ∈ part.2, DictText found) :
    ∃ text, coveredText name document parts = .ok text := by
  unfold coveredText
  split_ifs
  · exact ⟨document, rfl⟩
  · obtain ⟨fields, hload, -, htext⟩ := hdocument.loaded
    obtain ⟨values, hvalues, -, hprintable⟩ := partValues_total hparts
    have hall : printable (.obj ((name, .obj fields) :: values)) = true := by
      rw [printable, printableFields, printable_of_canonicalJson htext, hprintable]
      rfl
    obtain ⟨text, hhashed⟩ := canonicalJson_printable hall
    refine ⟨text, ?_⟩
    simp only [except_bind_ok]
    exact ⟨.obj fields, hload, values, hvalues, hhashed⟩

/-- What the hashed object finds under a name. -/
theorem get?_covered {values : List (String × Json)} (hkeys : (name :: keys values).Nodup)
    (value : Json) (key : String) : (canon (.obj ((name, value) :: values))).get? key =
      (lookup key ((name, value) :: values)).map canon :=
  get?_canon (show (keys ((name, value) :: values)).Nodup from hkeys) key

/-- The text of an object that holds the document under its name is not the text of
the document alone. -/
theorem coveredText_alone {values : List (String × Json)}
    (hdocument : DictTextWithout name document) (hkeys : (name :: keys values).Nodup)
    (h : canonicalJson (.obj ((name, value) :: values)) = .ok document) : False := by
  obtain ⟨fields, htext, hnone⟩ := hdocument
  have hsame := dumps_injective (canonicalJson_ok htext) (canonicalJson_ok h)
  rw [hsame, get?_covered hkeys, lookup, if_pos rfl] at hnone
  cases hnone

/-- **Injectivity.**  The hashed text determines the document and the parts. -/
theorem coveredText_injective (hnames : parts.map Prod.fst = parts'.map Prod.fst)
    (hnodup : (name :: parts.map Prod.fst).Nodup)
    (hdocument : DictTextWithout name document) (hdocument' : DictTextWithout name document')
    (hparts : ∀ part ∈ parts, ∀ found ∈ part.2, DictText found)
    (hparts' : ∀ part ∈ parts', ∀ found ∈ part.2, DictText found)
    (h : coveredText name document parts = .ok text)
    (h' : coveredText name document' parts' = .ok text) :
    document = document' ∧ parts = parts' := by
  obtain ⟨values, hvalues, hkeys, -⟩ := partValues_total hparts
  obtain ⟨values', hvalues', hkeys', -⟩ := partValues_total hparts'
  have hfields : (name :: keys values).Nodup := by rw [hkeys]; exact hnodup
  have hfields' : (name :: keys values').Nodup := by rw [hkeys', ← hnames]; exact hnodup
  unfold coveredText at h h'
  split_ifs at h h' with hnone hnone' hnone'
  · exact ⟨(Except.ok.inj h).trans (Except.ok.inj h').symm, absent_injective hnames hnone hnone'⟩
  · obtain rfl := Except.ok.inj h
    simp only [except_bind_ok] at h'
    obtain ⟨value', -, found', hfound', h'⟩ := h'
    obtain rfl := Except.ok.inj (hfound'.symm.trans hvalues')
    exact (coveredText_alone hdocument hfields' h').elim
  · obtain rfl := Except.ok.inj h'
    simp only [except_bind_ok] at h
    obtain ⟨value, -, found, hfound, h⟩ := h
    obtain rfl := Except.ok.inj (hfound.symm.trans hvalues)
    exact (coveredText_alone hdocument' hfields h).elim
  · simp only [except_bind_ok] at h h'
    obtain ⟨value, hvalue, found, hfound, h⟩ := h
    obtain ⟨value', hvalue', found', hfound', h'⟩ := h'
    obtain rfl := Except.ok.inj (hfound.symm.trans hvalues)
    obtain rfl := Except.ok.inj (hfound'.symm.trans hvalues')
    -- both objects find the same under every name
    have hsame : ∀ key, (lookup key ((name, value) :: found)).map canon =
        (lookup key ((name, value') :: found')).map canon := by
      intro key
      rw [← get?_covered hfields, ← get?_covered hfields',
        dumps_injective (canonicalJson_ok h) (canonicalJson_ok h')]
    refine ⟨hdocument.object.injective hdocument'.object ?_, ?_⟩
    · obtain ⟨fields, hload, hcanonical, -⟩ := hdocument.object.loaded
      obtain ⟨fields', hload', hcanonical', -⟩ := hdocument'.object.loaded
      obtain rfl := Except.ok.inj (hvalue.symm.trans hload)
      obtain rfl := Except.ok.inj (hvalue'.symm.trans hload')
      have hcanon := hsame name
      rw [lookup, if_pos rfl, lookup, if_pos rfl, Option.map_some, Option.map_some,
        canon_of_canonical _ hcanonical, canon_of_canonical _ hcanonical'] at hcanon
      rw [hload, hload', Option.some.inj hcanon]
    · apply partValues_injective hnames (List.nodup_cons.mp hnodup).2 hparts hparts' hvalues hvalues'
      intro key hkey
      have hne : name ≠ key := fun heq => (List.nodup_cons.mp hnodup).1 (heq ▸ hkey)
      have hcanon := hsame key
      rw [lookup, if_neg hne, lookup, if_neg hne] at hcanon
      exact hcanon

end Covered

/-- The canonical text depends on the canonical form alone. -/
theorem canonicalJson_congr {value value' : Json} (hcanon : canon value = canon value')
    (hprintable : printable value = printable value') :
    canonicalJson value = canonicalJson value' := by
  unfold canonicalJson dumps
  rw [hcanon, hprintable]

/-- A value with an integer that is too long has no text. -/
theorem canonicalJson_unprintable {value : Json} (h : printable value = false) :
    canonicalJson value =
      .error (.valueError "Out of range float values are not JSON compliant") := by
  unfold canonicalJson dumps
  rw [h]
  rfl

/-! ### Tasks -/

/-- The text of a binding. -/
def boundText : Option (List (String × Json)) → Except PyError (Option String)
  | none => pure none
  | some fields => (canonicalJson (.obj fields)).map some

/-- The canonical JSON a task is created from: the packet, and the binding if there is
one. -/
def taskRequest (packet : TaskPacket) (binding : Option (List (String × Json))) :
    Except PyError (String × Option String) := do
  let dict ← packet.toDict
  let encoded ← canonicalJson dict
  let bound ← boundText binding
  pure (encoded, bound)

/-- What the request hash of a task covers. -/
def taskText (request : String × Option String) : Except PyError String :=
  coveredText "packet" request.1 [("binding", request.2)]

section Tasks

variable {packet : TaskPacket} {binding : Option (List (String × Json))} {dict : Json}
  {encoded text : String} {bound : Option String} {request request' : String × Option String}

theorem boundText_object (h : boundText binding = .ok bound) : ∀ found ∈ bound, DictText found := by
  cases binding with
  | none =>
      obtain rfl := Except.ok.inj h
      exact fun found hfound => by cases hfound
  | some fields =>
      intro found hfound
      cases hjson : canonicalJson (.obj fields) with
      | error error =>
          rw [boundText, hjson] at h
          cases h
      | ok other =>
          rw [boundText, hjson] at h
          obtain rfl := Except.ok.inj h
          obtain rfl := Option.some.inj hfound
          exact ⟨fields, hjson⟩

/-- The dictionary of a packet has a text, which is read back as it is. -/
theorem TaskPacket.toDict_text (h : packet.toDict = .ok dict) :
    ∃ encoded, canonicalJson dict = .ok encoded ∧ loadsJson encoded = .ok dict := by
  obtain ⟨encoded, hencoded⟩ := canonicalJson_printable (TaskPacket.toDict_printable h)
  refine ⟨encoded, hencoded, ?_⟩
  rw [loadsJson_canonicalJson hencoded, canon_of_canonical _ (TaskPacket.toDict_canonical h)]

/-- The text of a packet has no field `packet`. -/
theorem TaskPacket.dictText (h : packet.toDict = .ok dict) (hencoded : canonicalJson dict = .ok encoded) :
    DictTextWithout "packet" encoded := by
  unfold TaskPacket.toDict at h
  simp only [except_bind_ok] at h
  obtain ⟨deadline, -, text, htext, h⟩ := h
  rw [loadsJson_canonicalJson htext] at h
  rw [← Except.ok.inj h] at hencoded
  obtain rfl := Except.ok.inj ((canonicalJson_canon htext).symm.trans hencoded)
  have hkeys : ["schema_version", "task"].Nodup := by decide
  have hname : "packet" ∉ ["schema_version", "task"] := by decide
  exact DictTextWithout.of_keys htext hkeys hname

/-- A packet that is written is read back, and written under the same text. -/
theorem TaskPacket.rewritten (h : packet.toDict = .ok dict) :
    ∃ validated, TaskPacket.fromDict dict = .ok validated ∧ validated.toDict = .ok dict := by
  obtain ⟨value, validated, hvalue, hvalidated, -⟩ := (TaskPacket.writable_of_toDict h).round_trip
  obtain rfl := Except.ok.inj (h.symm.trans hvalue)
  refine ⟨validated, hvalidated, ?_⟩
  rw [TaskPacket.toDict_of_fromDict hvalidated,
    canon_of_canonical _ (TaskPacket.toDict_canonical h)]

/-- The parts of a request are there when they are given. -/
theorem boundText_isSome (h : boundText binding = .ok bound) : bound.isSome = binding.isSome := by
  cases binding with
  | none =>
      obtain rfl := Except.ok.inj h
      rfl
  | some fields =>
      cases hjson : canonicalJson (.obj fields) with
      | error error =>
          rw [boundText, hjson] at h
          cases h
      | ok text =>
          rw [boundText, hjson] at h
          obtain rfl := Except.ok.inj h
          rfl

theorem taskRequest_isSome (h : taskRequest packet binding = .ok request) :
    request.2.isSome = binding.isSome := by
  unfold taskRequest at h
  simp only [except_bind_ok] at h
  obtain ⟨dict, -, encoded, -, bound, hbound, h⟩ := h
  obtain rfl := Except.ok.inj h
  exact boundText_isSome hbound

theorem taskRequest_object (h : taskRequest packet binding = .ok request) :
    DictTextWithout "packet" request.1 ∧
      ∀ part ∈ [("binding", request.2)], ∀ found ∈ part.2, DictText found := by
  unfold taskRequest at h
  simp only [except_bind_ok] at h
  obtain ⟨dict, hdict, encoded, hencoded, bound, hbound, h⟩ := h
  obtain rfl := Except.ok.inj h
  refine ⟨TaskPacket.dictText hdict hencoded, fun part hpart => ?_⟩
  obtain rfl := List.mem_singleton.mp hpart
  exact boundText_object hbound

/-- A request has a text. -/
theorem taskText_total (h : taskRequest packet binding = .ok request) :
    ∃ text, taskText request = .ok text :=
  coveredText_total (taskRequest_object h).1.object (taskRequest_object h).2

/-- Requests with one text are one request. -/
theorem taskText_injective {packet' : TaskPacket} {binding' : Option (List (String × Json))}
    (h : taskRequest packet binding = .ok request)
    (h' : taskRequest packet' binding' = .ok request') (htext : taskText request = .ok text)
    (htext' : taskText request' = .ok text) : request = request' := by
  obtain ⟨hdocument, hparts⟩ := taskRequest_object h
  obtain ⟨hdocument', hparts'⟩ := taskRequest_object h'
  have hnames : [("binding", request.2)].map Prod.fst = [("binding", request'.2)].map Prod.fst := rfl
  have hnodup : ("packet" :: ["binding"]).Nodup := by decide
  obtain ⟨hfirst, hsecond⟩ := coveredText_injective hnames hnodup hdocument hdocument' hparts
    hparts' htext htext'
  exact Prod.ext hfirst (Prod.mk.inj (List.cons.inj hsecond).1).2

/-- The text `create` hashes is the covered text. -/
theorem taskText_eq (hdict : packet.toDict = .ok dict) (hencoded : canonicalJson dict = .ok encoded) :
    (match bound with
      | none => pure encoded
      | some text => do
          let detached ← loadsJson text
          canonicalJson (.obj [("packet", dict), ("binding", detached)]) : Except PyError String) =
      taskText (encoded, bound) := by
  obtain ⟨found, hfound, hloads⟩ := TaskPacket.toDict_text hdict
  obtain rfl := Except.ok.inj (hencoded.symm.trans hfound)
  cases bound with
  | none => rfl
  | some text =>
      unfold taskText coveredText
      rw [if_neg (by simp)]
      rw [hloads]
      cases hdetached : loadsJson text with
      | error error =>
          simp only [partValues, partValue, hdetached]
          rfl
      | ok detached =>
          simp only [partValues, partValue, hdetached]
          rfl

end Tasks

/-! ### A second request -/

/-- The answer to a request under a key that stands for another: the id the key has when
the two are equal, else the conflict.  A request that is not valid raises before. -/
def replayAnswer {ρ : Type} [DecidableEq ρ] (first : ρ) (second : Except PyError ρ) (id : String)
    (conflict : PyError) : Except PyError String := do
  let request ← second
  if request = first then pure id else throw conflict

/-- The digests of two texts, if there are two, tell them apart. -/
def Apart (platform : Platform) (first second : Except PyError String) : Prop :=
  ∀ text ∈ first.toOption, ∀ text' ∈ second.toOption,
    platform.sha256 text = platform.sha256 text' → text = text'

/-- The digests agree when the requests do. -/
theorem Apart.digest_iff {ρ : Type} {platform : Platform} {textOf : ρ → Except PyError String}
    {first second : ρ} {hashed hashed' : String} (hapart : Apart platform (textOf first) (textOf second))
    (hinjective : ∀ text, textOf first = .ok text → textOf second = .ok text → second = first)
    (hfirst : textOf first = .ok hashed) (hsecond : textOf second = .ok hashed') :
    platform.sha256 hashed = platform.sha256 hashed' ↔ second = first := by
  constructor
  · intro hdigest
    rw [hfirst, hsecond] at hapart
    have htext : hashed = hashed' := hapart hashed rfl hashed' rfl hdigest
    exact hinjective hashed hfirst (htext ▸ hsecond)
  · intro hsame
    rw [hsame, hfirst] at hsecond
    rw [Except.ok.inj hsecond]

/-! ### Graphs -/

/-- The text of a budget that passes its checks. -/
def budgetText : Option GraphBudget → Except PyError (Option String)
  | none => pure none
  | some budget => do
      validateGraphBudget budget
      (canonicalJson budget.toDict).map some

/-- The canonical JSON a graph is created from: the graph, and its budget and its
binding if there are any. -/
def graphRequest (graph : WorkflowGraph) (budget : Option GraphBudget)
    (binding : Option (List (String × Json))) :
    Except PyError (String × Option String × Option String) := do
  let dict ← graph.toDict
  let encoded ← canonicalJson dict
  let bound ← boundText binding
  let budgeted ← budgetText budget
  pure (encoded, budgeted, bound)

/-- What the request hash of a graph covers. -/
def graphText (request : String × Option String × Option String) : Except PyError String :=
  coveredText "graph" request.1 [("budget", request.2.1), ("binding", request.2.2)]

section Graphs

variable {graph : WorkflowGraph} {budget : Option GraphBudget}
  {binding : Option (List (String × Json))} {dict value : Json} {encoded text : String}
  {bound budgeted : Option String} {request request' : String × Option String × Option String}

theorem budgetText_object (h : budgetText budget = .ok budgeted) :
    ∀ found ∈ budgeted, DictText found := by
  cases budget with
  | none =>
      obtain rfl := Except.ok.inj h
      exact fun found hfound => by cases hfound
  | some budget =>
      rw [budgetText, except_bind_ok] at h
      obtain ⟨_, -, h⟩ := h
      intro found hfound
      cases hjson : canonicalJson budget.toDict with
      | error error =>
          rw [hjson] at h
          cases h
      | ok other =>
          rw [hjson] at h
          obtain rfl := Except.ok.inj h
          obtain rfl := Option.some.inj hfound
          exact ⟨_, hjson⟩

/-- The packets of a graph that is written are writable. -/
theorem WorkflowGraph.writable_of_toDict (h : graph.toDict = .ok dict) :
    ∀ node ∈ graph.nodes, node.packet.Writable := by
  unfold WorkflowGraph.toDict at h
  rw [except_bind_ok] at h
  obtain ⟨items, hitems, -⟩ := h
  have hwritten := mapM_eq_ok.mp hitems
  intro node hnode
  obtain ⟨i, hi, rfl⟩ := List.getElem_of_mem hnode
  have hlength := hwritten.length_eq
  have hitem := hwritten.get hi (show i < items.length by omega)
  unfold GraphNode.toDict at hitem
  rw [except_bind_ok] at hitem
  obtain ⟨packet, hpacket, -⟩ := hitem
  exact TaskPacket.writable_of_toDict hpacket

/-- A graph that is written is read back, and written under the same text. -/
theorem WorkflowGraph.rewritten (h : graph.toDict = .ok dict) :
    ∃ encoded validated value, canonicalJson dict = .ok encoded ∧
      WorkflowGraph.fromDict dict = .ok validated ∧ validated.toDict = .ok value ∧
      canonicalJson value = .ok encoded := by
  obtain ⟨found, validated, hfound, hvalidated, -⟩ :=
    WorkflowGraph.round_trip (WorkflowGraph.writable_of_toDict h)
  obtain rfl := Except.ok.inj (h.symm.trans hfound)
  obtain ⟨value, encoded, hvalue, hwritten, hgiven⟩ := WorkflowGraph.exact hvalidated
  exact ⟨encoded, validated, value, hgiven, hvalidated, hvalue, hwritten⟩

/-- The text of a graph has no field `graph`. -/
theorem WorkflowGraph.dictText (h : graph.toDict = .ok dict)
    (hencoded : canonicalJson dict = .ok encoded) : DictTextWithout "graph" encoded := by
  unfold WorkflowGraph.toDict at h
  rw [except_bind_ok] at h
  obtain ⟨items, -, h⟩ := h
  obtain rfl := Except.ok.inj h
  have hkeys : ["schema_version", "nodes"].Nodup := by decide
  have hname : "graph" ∉ ["schema_version", "nodes"] := by decide
  exact DictTextWithout.of_keys hencoded hkeys hname

theorem graphRequest_isSome (h : graphRequest graph budget binding = .ok request) :
    request.2.1.isSome = budget.isSome ∧ request.2.2.isSome = binding.isSome := by
  unfold graphRequest at h
  simp only [except_bind_ok] at h
  obtain ⟨dict, -, encoded, -, bound, hbound, budgeted, hbudgeted, h⟩ := h
  obtain rfl := Except.ok.inj h
  refine ⟨?_, boundText_isSome hbound⟩
  cases budget with
  | none =>
      obtain rfl := Except.ok.inj hbudgeted
      rfl
  | some budget =>
      rw [budgetText, except_bind_ok] at hbudgeted
      obtain ⟨_, -, hbudgeted⟩ := hbudgeted
      cases hjson : canonicalJson budget.toDict with
      | error error =>
          rw [hjson] at hbudgeted
          cases hbudgeted
      | ok text =>
          rw [hjson] at hbudgeted
          obtain rfl := Except.ok.inj hbudgeted
          rfl

theorem graphRequest_object (h : graphRequest graph budget binding = .ok request) :
    DictTextWithout "graph" request.1 ∧
      ∀ part ∈ [("budget", request.2.1), ("binding", request.2.2)], ∀ found ∈ part.2,
        DictText found := by
  unfold graphRequest at h
  simp only [except_bind_ok] at h
  obtain ⟨dict, hdict, encoded, hencoded, bound, hbound, budgeted, hbudgeted, h⟩ := h
  obtain rfl := Except.ok.inj h
  refine ⟨WorkflowGraph.dictText hdict hencoded, fun part hpart => ?_⟩
  rcases List.mem_cons.mp hpart with rfl | hpart
  · exact budgetText_object hbudgeted
  · obtain rfl := List.mem_singleton.mp hpart
    exact boundText_object hbound

theorem graphText_total (h : graphRequest graph budget binding = .ok request) :
    ∃ text, graphText request = .ok text :=
  coveredText_total (graphRequest_object h).1.object (graphRequest_object h).2

/-- Requests with one text are one request. -/
theorem graphText_injective {graph' : WorkflowGraph} {budget' : Option GraphBudget}
    {binding' : Option (List (String × Json))}
    (h : graphRequest graph budget binding = .ok request)
    (h' : graphRequest graph' budget' binding' = .ok request')
    (htext : graphText request = .ok text) (htext' : graphText request' = .ok text) :
    request = request' := by
  obtain ⟨hdocument, hparts⟩ := graphRequest_object h
  obtain ⟨hdocument', hparts'⟩ := graphRequest_object h'
  have hnames : [("budget", request.2.1), ("binding", request.2.2)].map Prod.fst =
      [("budget", request'.2.1), ("binding", request'.2.2)].map Prod.fst := rfl
  have hnodup : ("graph" :: ["budget", "binding"]).Nodup := by decide
  obtain ⟨hfirst, hsecond⟩ := coveredText_injective hnames hnodup hdocument hdocument' hparts
    hparts' htext htext'
  obtain ⟨hbudget, hbinding⟩ := List.cons.inj hsecond
  exact Prod.ext hfirst (Prod.ext (Prod.mk.inj hbudget).2
    (Prod.mk.inj (List.cons.inj hbinding).1).2)

/-- Parts in canonical form are written alike. -/
theorem canonicalJson_parts {budgetValue detached : Json} (hvalue : printable value = true)
    (hbudget : printable budgetValue = true) :
    canonicalJson (.obj [("graph", value), ("budget", budgetValue), ("binding", detached)]) =
      canonicalJson (.obj [("graph", canon value), ("budget", canon budgetValue),
        ("binding", detached)]) := by
  apply canonicalJson_congr
  · simp only [canon, canonFields, canon_canon]
  · simp only [printable, printableFields, hvalue, hbudget, printable_canon _ hvalue,
      printable_canon _ hbudget]

/-- The text `create_graph` hashes is the covered text. -/
theorem hashedGraph_eq (hencoded : canonicalJson value = .ok encoded)
    (hbound : ∀ found ∈ bound, DictText found) :
    hashedGraph encoded value budget bound = (do
      let budgeted ← budgetText budget
      graphText (encoded, budgeted, bound)) := by
  have hprintable := printable_of_canonicalJson hencoded
  have hloads := loadsJson_canonicalJson hencoded
  obtain ⟨detached, hdetached, -, -⟩ := partValue_total hbound
  cases budget with
  | none =>
      cases bound with
      | none => rfl
      | some text =>
          have hload : loadsJson text = .ok detached := hdetached
          show (loadsJson text >>= fun binding =>
            canonicalJson (.obj [("graph", value), ("budget", .null), ("binding", binding)])) =
              graphText (encoded, none, some text)
          unfold graphText coveredText
          rw [if_neg (by simp), hload, hloads]
          simp only [partValues, partValue, hload]
          exact canonicalJson_parts hprintable rfl
  | some budget =>
      -- the source reads the binding back after the checks of the budget
      have hread : hashedGraph encoded value (some budget) bound = (do
          validateGraphBudget budget
          let binding ← partValue bound
          canonicalJson (.obj
            [("graph", value), ("budget", budget.toDict), ("binding", binding)])) := by
        have hchecked : hashedGraph encoded value (some budget) bound =
            ((validateGraphBudget budget >>= fun _ => pure budget.toDict) >>= fun budgetValue =>
              partValue bound >>= fun binding => canonicalJson (.obj
                [("graph", value), ("budget", budgetValue), ("binding", binding)])) := by
          cases bound with
          | none => rfl
          | some text => rfl
        rw [hchecked, bind_assoc]
        rfl
      rw [hread, budgetText, hdetached]
      cases validateGraphBudget budget with
      | error error => rfl
      | ok checked =>
          show canonicalJson (.obj
            [("graph", value), ("budget", budget.toDict), ("binding", detached)]) =
              ((canonicalJson budget.toDict).map some >>= fun budgeted =>
                graphText (encoded, budgeted, bound))
          cases hbudget : printable budget.toDict with
          | false =>
              have hall : printable (.obj [("graph", value), ("budget", budget.toDict),
                  ("binding", detached)]) = false := by
                simp only [printable, printableFields, hbudget, Bool.false_and, Bool.and_false]
              rw [canonicalJson_unprintable hall, canonicalJson_unprintable hbudget]
              rfl
          | true =>
              obtain ⟨text, htext⟩ := canonicalJson_printable hbudget
              have hload := loadsJson_canonicalJson htext
              rw [htext]
              show _ = graphText (encoded, some text, bound)
              unfold graphText coveredText
              rw [if_neg (by simp), hloads]
              simp only [partValues, hdetached]
              have hpart : partValue (some text) = .ok (canon budget.toDict) := hload
              rw [hpart]
              exact canonicalJson_parts hprintable hbudget

end Graphs

end Workflows
end Ryuk

import Ryuk.Foundation.JsonRoundTrip

/-!
# What hooks do to a document

A reader with hooks reads the tree of a text, with every key and every number in it,
and folds its hooks over the tree.  Readers with different hooks so agree on what a
document is; they differ in what they make of repeated keys and of numbers that are
not finite.
-/

namespace Ryuk
namespace Foundation
namespace Json

open Decimal

/-! ### The tree of a text -/

/-- The float a constant names. -/
def Constant.float : Constant → Decimal.Float
  | .nan => .nan
  | .infinity => .infinity false
  | .negativeInfinity => .infinity true

/-- The hooks that keep everything as it is written. -/
def plainHooks : Hooks where
  constant name := some (.float name.float)
  float value := some (.float value)
  pairs pairs := some (.obj pairs)

/-- The tree of a document. -/
def tree (text : String) : Option Document := loadsWith plainHooks text

/-- A constant is treated like the float it names. -/
def Hooks.Coherent (hooks : Hooks) : Prop := ∀ name, hooks.constant name = hooks.float name.float

mutual

/-- Apply hooks from the leaves of a tree upwards. -/
def fold (hooks : Hooks) : Document → Option Document
  | .float value => hooks.float value
  | .arr items => (foldItems hooks items).map .arr
  | .obj fields => (foldFields hooks fields).bind hooks.pairs
  | .null => some .null
  | .bool value => some (.bool value)
  | .int value => some (.int value)
  | .str value => some (.str value)

def foldItems (hooks : Hooks) : List Document → Option (List Document)
  | [] => some []
  | item :: rest => (fold hooks item).bind fun value =>
      (foldItems hooks rest).map fun values => value :: values

def foldFields (hooks : Hooks) :
    List (List CodePoint × Document) → Option (List (List CodePoint × Document))
  | [] => some []
  | (key, item) :: rest => (fold hooks item).bind fun value =>
      (foldFields hooks rest).map fun values => (key, value) :: values

end

section Folding

variable {hooks : Hooks}

/-- Reading with hooks, from reading the tree. -/
def foldBody {α β : Type} (act : α → Option β) (body : α × List Char) : Option (β × List Char) :=
  (act body.1).map fun value => (value, body.2)

theorem parseNumber_fold (negative : Bool) (text : List Char) :
    parseNumber hooks negative text =
      (parseNumber plainHooks negative text).bind (foldBody (fold hooks)) := by
  unfold parseNumber
  cases integerPart text with
  | none => rfl
  | some part =>
      obtain ⟨integer, rest⟩ := part
      dsimp only
      by_cases hinteger : (fractionPart rest).1 = [] ∧ (exponentPart (fractionPart rest).2).1 = none
      · rw [if_pos hinteger, if_pos hinteger]
        by_cases hlength : integer.length ≤ maxIntDigits
        · rw [if_pos hlength]
          simp only [Option.bind_some, foldBody, fold, Option.map_some]
        · rw [if_neg hlength]
          rfl
      · rw [if_neg hinteger, if_neg hinteger]
        simp only [plainHooks, Option.map_some, Option.bind_some, foldBody, fold]

/-- A reader whose results are those of the plain reader, folded. -/
def Folds {α : Type} (act : α → Option α) (read plain : List Char → Option (α × List Char)) :
    Prop :=
  ∀ text, read text = (plain text).bind (foldBody act)

/-- What follows an entry, up to a closing character. -/
def entriesAfter {α : Type} (closing : Char) (entries : List Char → Option (List α × List Char))
    (body : α × List Char) : Option (List α × List Char) :=
  match skipSpace body.2 with
  | ',' :: rest => (entries (skipSpace rest)).map fun tail => (body.1 :: tail.1, tail.2)
  | mark :: rest => if mark = closing then some ([body.1], rest) else none
  | [] => none

/-- What follows the colon after a name. -/
def afterColon (text : List Char) : Option (List Char) :=
  match skipSpace text with
  | ':' :: rest => some rest
  | _ => none

/-- One field of an object. -/
def foldField (hooks : Hooks) (field : List CodePoint × Document) :
    Option (List CodePoint × Document) :=
  (fold hooks field.2).map fun value => (field.1, value)

theorem foldFields_cons (field : List CodePoint × Document)
    (fields : List (List CodePoint × Document)) :
    foldFields hooks (field :: fields) = (foldField hooks field).bind fun value =>
      (foldFields hooks fields).map fun values => value :: values := by
  rw [foldFields, foldField]
  cases fold hooks field.2 with
  | none => rfl
  | some value => rfl

theorem afterColon_eq_none {text : List Char} (h : ¬∃ rest, skipSpace text = ':' :: rest) :
    afterColon text = none := by
  unfold afterColon
  split
  · exact absurd ⟨_, ‹_›⟩ h
  · rfl

theorem parseItems_succ (hooks : Hooks) (fuel : Nat) (text : List Char) :
    parseItems hooks (fuel + 1) text =
      (parseValue hooks fuel text).bind (entriesAfter ']' (parseItems hooks fuel)) := by
  rw [parseItems]
  cases parseValue hooks fuel text with
  | none => rfl
  | some body =>
      rw [Option.bind_some, entriesAfter]
      dsimp only
      cases skipSpace body.2 with
      | nil => rfl
      | cons mark rest =>
          by_cases hclosing : mark = ']'
          · subst hclosing
            rfl
          · by_cases hcomma : mark = ','
            · subst hcomma
              rfl
            · simp [hclosing, hcomma]

theorem parsePairs_succ (hooks : Hooks) (fuel : Nat) (rest : List Char) :
    parsePairs hooks (fuel + 1) ('"' :: rest) =
      (parseString rest).bind fun name => (afterColon name.2).bind fun rest' =>
        (parseValue hooks fuel (skipSpace rest')).bind fun body =>
          entriesAfter '\x7d' (parsePairs hooks fuel) ((name.1, body.1), body.2) := by
  rw [parsePairs]
  cases parseString rest with
  | none => rfl
  | some name =>
      rw [Option.bind_some]
      by_cases hcolon : ∃ rest', skipSpace name.2 = ':' :: rest'
      · obtain ⟨rest', hrest⟩ := hcolon
        simp only [afterColon, hrest, Option.bind_some]
        cases parseValue hooks fuel (skipSpace rest') with
        | none => rfl
        | some body =>
            rw [Option.bind_some, entriesAfter]
            dsimp only
            cases skipSpace body.2 with
            | nil => rfl
            | cons mark tail =>
                by_cases hclosing : mark = '\x7d'
                · subst hclosing
                  rfl
                · by_cases hcomma : mark = ','
                  · subst hcomma
                    rfl
                  · simp [hclosing, hcomma]
      · rw [afterColon_eq_none hcolon, Option.bind_none]
        dsimp only
        split
        · exact absurd ⟨_, ‹_›⟩ hcolon
        · rfl

/-- Folding the first entry before the rest is read, or after. -/
theorem entriesAfter_fold {α : Type} {act : α → Option α} {all : List α → Option (List α)}
    {entries plain : List Char → Option (List α × List Char)} (closing : Char)
    (h : Folds all entries plain) (hnil : all [] = some [])
    (hcons : ∀ entry rest, all (entry :: rest) =
      (act entry).bind fun value => (all rest).map fun values => value :: values)
    (body : α × List Char) :
    (foldBody act body).bind (entriesAfter closing entries) =
      (entriesAfter closing plain body).bind (foldBody all) := by
  obtain ⟨entry, text⟩ := body
  unfold entriesAfter foldBody
  dsimp only
  split
  · rename_i rest htext
    cases hentry : act entry with
    | none =>
        cases plain (skipSpace rest) with
        | none => rfl
        | some tail => simp [hcons, hentry]
    | some value =>
        simp only [Option.map_some, Option.bind_some, htext, h (skipSpace rest)]
        cases plain (skipSpace rest) with
        | none => rfl
        | some tail =>
            simp only [Option.map_some, Option.bind_some, foldBody, hcons, hentry]
            cases all tail.1 with
            | none => rfl
            | some values => rfl
  -- the list ends, or no separator follows
  · rename_i mark rest hcomma htext
    cases hentry : act entry with
    | none => by_cases hmark : mark = closing <;> simp [hmark, hcons, hentry]
    | some value =>
        simp only [Option.map_some, Option.bind_some, htext]
        by_cases hmark : mark = closing <;> simp [hmark, hcons, hnil, hentry]
  · rename_i htext
    cases hentry : act entry with
    | none => rfl
    | some value => simp only [Option.map_some, Option.bind_some, htext, Option.bind_none]

/-- The items of an array fold when the level below does. -/
theorem parseItems_fold {fuel : Nat}
    (hvalue : Folds (fold hooks) (parseValue hooks fuel) (parseValue plainHooks fuel))
    (hitems : Folds (foldItems hooks) (parseItems hooks fuel) (parseItems plainHooks fuel)) :
    Folds (foldItems hooks) (parseItems hooks (fuel + 1)) (parseItems plainHooks (fuel + 1)) := by
  intro text
  rw [parseItems_succ, parseItems_succ, hvalue, Option.bind_assoc, Option.bind_assoc]
  exact Option.bind_congr fun body _ =>
    entriesAfter_fold ']' hitems rfl (fun _ _ => rfl) body

/-- The pairs of an object fold when the level below does. -/
theorem parsePairs_fold {fuel : Nat}
    (hvalue : Folds (fold hooks) (parseValue hooks fuel) (parseValue plainHooks fuel))
    (hpairs : Folds (foldFields hooks) (parsePairs hooks fuel) (parsePairs plainHooks fuel)) :
    Folds (foldFields hooks) (parsePairs hooks (fuel + 1)) (parsePairs plainHooks (fuel + 1)) := by
  intro text
  by_cases hquote : ∃ rest, text = '"' :: rest
  · obtain ⟨rest, rfl⟩ := hquote
    rw [parsePairs_succ, parsePairs_succ, Option.bind_assoc]
    refine Option.bind_congr fun name _ => ?_
    rw [Option.bind_assoc]
    refine Option.bind_congr fun rest' _ => ?_
    rw [hvalue, Option.bind_assoc, Option.bind_assoc]
    refine Option.bind_congr fun body _ => ?_
    rw [← entriesAfter_fold '\x7d' hpairs rfl foldFields_cons, foldBody, foldBody, foldField]
    cases fold hooks body.1 with
    | none => rfl
    | some value => rfl
  · -- a name starts with a quote
    have hnone : ∀ hooks, parsePairs hooks (fuel + 1) text = none := by
      intro hooks
      rw [parsePairs.eq_def]
      dsimp only
      split
      · exact absurd ⟨_, rfl⟩ hquote
      · rfl
    rw [hnone, hnone, Option.bind_none]

/-- A value folds when the level below does. -/
theorem parseValue_fold (hcoherent : hooks.Coherent) {fuel : Nat}
    (hitems : Folds (foldItems hooks) (parseItems hooks fuel) (parseItems plainHooks fuel))
    (hpairs : Folds (foldFields hooks) (parsePairs hooks fuel) (parsePairs plainHooks fuel)) :
    Folds (fold hooks) (parseValue hooks (fuel + 1)) (parseValue plainHooks (fuel + 1)) := by
  intro text
  rw [parseValue.eq_def, parseValue.eq_def]
  dsimp only
  split
  -- strings, arrays and objects
  · rename_i rest
    cases parseString rest with
    | none => rfl
    | some body => simp only [Option.map_some, Option.bind_some, foldBody, fold]
  · rename_i rest
    split
    · simp only [Option.bind_some, foldBody, fold, foldItems, Option.map_some]
    · rw [hitems]
      cases parseItems plainHooks fuel (skipSpace rest) with
      | none => rfl
      | some body =>
          simp only [Option.map_some, Option.bind_some, foldBody, fold]
          cases foldItems hooks body.1 with
          | none => rfl
          | some items => rfl
  · rename_i rest
    split
    · simp only [plainHooks, Option.map_some, Option.bind_some, foldBody, fold, foldFields]
    · rw [hpairs]
      cases parsePairs plainHooks fuel (skipSpace rest) with
      | none => rfl
      | some body =>
          simp only [plainHooks, Option.map_some, Option.bind_some, foldBody, fold]
          cases foldFields hooks body.1 with
          | none => rfl
          | some fields => rfl
  · simp only [Option.bind_some, foldBody, fold, Option.map_some]
  · simp only [Option.bind_some, foldBody, fold, Option.map_some]
  · simp only [Option.bind_some, foldBody, fold, Option.map_some]
  -- constants and numbers
  · rw [hcoherent]
    simp only [plainHooks, Option.map_some, Option.bind_some, foldBody, fold]
  · rw [hcoherent]
    simp only [plainHooks, Option.map_some, Option.bind_some, foldBody, fold]
  · rw [hcoherent]
    simp only [plainHooks, Option.map_some, Option.bind_some, foldBody, fold]
  · exact parseNumber_fold true _
  · exact parseNumber_fold false _

/-- Every level of the reader folds. -/
theorem parse_fold (hcoherent : hooks.Coherent) (fuel : Nat) :
    Folds (fold hooks) (parseValue hooks fuel) (parseValue plainHooks fuel) ∧
    Folds (foldItems hooks) (parseItems hooks fuel) (parseItems plainHooks fuel) ∧
    Folds (foldFields hooks) (parsePairs hooks fuel) (parsePairs plainHooks fuel) := by
  induction fuel with
  | zero => exact ⟨fun _ => rfl, fun _ => rfl, fun _ => rfl⟩
  | succ fuel ih =>
      obtain ⟨hvalue, hitems, hpairs⟩ := ih
      exact ⟨parseValue_fold hcoherent hitems hpairs, parseItems_fold hvalue hitems,
        parsePairs_fold hvalue hpairs⟩

/-- **Hooks act on the tree.**  A reading with coherent hooks is the tree of the text
with the hooks folded over it. -/
theorem loadsWith_fold (hcoherent : hooks.Coherent) (text : String) :
    loadsWith hooks text = (tree text).bind (fold hooks) := by
  unfold tree loadsWith
  rw [(parse_fold hcoherent _).1]
  cases parseValue plainHooks (text.toList.length + 1) (skipSpace text.toList) with
  | none => rfl
  | some body =>
      obtain ⟨value, rest⟩ := body
      rw [Option.bind_some, foldBody]
      dsimp only
      by_cases hrest : skipSpace rest = []
      · rw [if_pos hrest, Option.bind_some]
        cases fold hooks value with
        | none => rfl
        | some folded => simp only [Option.map_some, hrest, if_true]
      · rw [if_neg hrest, Option.bind_none]
        cases fold hooks value with
        | none => rfl
        | some folded => simp only [Option.map_some, hrest, if_false]

end Folding

/-! ### Documents without repeated keys and without infinities -/

mutual

/-- No object of a document has one key twice. -/
def Document.DistinctKeys : Document → Prop
  | .arr items => Document.DistinctItems items
  | .obj fields => (keys fields).Nodup ∧ Document.DistinctFields fields
  | .null | .bool _ | .int _ | .float _ | .str _ => True

def Document.DistinctItems : List Document → Prop
  | [] => True
  | item :: rest => item.DistinctKeys ∧ Document.DistinctItems rest

def Document.DistinctFields : List (List CodePoint × Document) → Prop
  | [] => True
  | (_, value) :: rest => value.DistinctKeys ∧ Document.DistinctFields rest

end

mutual

/-- Every float of a document is finite. -/
def Document.FiniteNumbers : Document → Prop
  | .float value => ∃ finite, value = .finite finite
  | .arr items => Document.FiniteItems items
  | .obj fields => Document.FiniteFields fields
  | .null | .bool _ | .int _ | .str _ => True

def Document.FiniteItems : List Document → Prop
  | [] => True
  | item :: rest => item.FiniteNumbers ∧ Document.FiniteItems rest

def Document.FiniteFields : List (List CodePoint × Document) → Prop
  | [] => True
  | (_, value) :: rest => value.FiniteNumbers ∧ Document.FiniteFields rest

end

/-- Hooks that refuse repeated keys and numbers that are not finite. -/
structure Hooks.Strict (hooks : Hooks) : Prop where
  float : ∀ value read, hooks.float value = some read → ∃ finite, value = .finite finite
  pairs : ∀ pairs read, hooks.pairs pairs = some read → (keys pairs).Nodup

section Documents

variable {hooks : Hooks}

mutual

/-- Faithful hooks leave a document as it is when its keys are distinct and its numbers
finite. -/
theorem fold_faithful (hfaithful : hooks.Faithful) :
    ∀ value : Document, value.DistinctKeys → value.FiniteNumbers → fold hooks value = some value
  | .null, _, _ | .bool _, _, _ | .int _, _, _ | .str _, _, _ => rfl
  | .float value, _, hfinite => by
      obtain ⟨finite, rfl⟩ := hfinite
      exact hfaithful.float finite
  | .arr items, hkeys, hfinite => by
      rw [fold, foldItems_faithful hfaithful items hkeys hfinite]
      rfl
  | .obj fields, hkeys, hfinite => by
      rw [fold, foldFields_faithful hfaithful fields hkeys.2 hfinite, Option.bind_some]
      exact hfaithful.pairs fields hkeys.1

theorem foldItems_faithful (hfaithful : hooks.Faithful) :
    ∀ items, Document.DistinctItems items → Document.FiniteItems items →
      foldItems hooks items = some items
  | [], _, _ => rfl
  | item :: rest, hkeys, hfinite => by
      rw [foldItems, fold_faithful hfaithful item hkeys.1 hfinite.1,
        foldItems_faithful hfaithful rest hkeys.2 hfinite.2]
      rfl

theorem foldFields_faithful (hfaithful : hooks.Faithful) :
    ∀ fields, Document.DistinctFields fields → Document.FiniteFields fields →
      foldFields hooks fields = some fields
  | [], _, _ => rfl
  | (key, value) :: rest, hkeys, hfinite => by
      rw [foldFields, fold_faithful hfaithful value hkeys.1 hfinite.1,
        foldFields_faithful hfaithful rest hkeys.2 hfinite.2]
      rfl

end

/-- Hooks see the keys as they are written. -/
theorem keys_foldFields : ∀ {fields folded : List (List CodePoint × Document)},
    foldFields hooks fields = some folded → keys folded = keys fields
  | [], _, h => by
      obtain rfl := Option.some.inj h
      rfl
  | (key, value) :: rest, folded, h => by
      rw [foldFields, Option.bind_eq_some_iff] at h
      obtain ⟨read, -, h⟩ := h
      rw [Option.map_eq_some_iff] at h
      obtain ⟨tail, htail, rfl⟩ := h
      have hrest := keys_foldFields htail
      unfold keys at hrest ⊢
      rw [List.map_cons, List.map_cons, hrest]

mutual

/-- What strict hooks let through has distinct keys and finite numbers. -/
theorem strict_of_fold (hstrict : hooks.Strict) :
    ∀ (value : Document) read, fold hooks value = some read →
      value.DistinctKeys ∧ value.FiniteNumbers
  | .null, _, _ | .bool _, _, _ | .int _, _, _ | .str _, _, _ => ⟨trivial, trivial⟩
  | .float value, read, h => ⟨trivial, hstrict.float value read h⟩
  | .arr items, read, h => by
      rw [fold, Option.map_eq_some_iff] at h
      obtain ⟨folded, hitems, -⟩ := h
      exact strict_of_foldItems hstrict items folded hitems
  | .obj fields, read, h => by
      rw [fold, Option.bind_eq_some_iff] at h
      obtain ⟨folded, hfields, hpairs⟩ := h
      have hrest := strict_of_foldFields hstrict fields folded hfields
      have hnodup := hstrict.pairs folded read hpairs
      rw [keys_foldFields hfields] at hnodup
      exact ⟨⟨hnodup, hrest.1⟩, hrest.2⟩

theorem strict_of_foldItems (hstrict : hooks.Strict) :
    ∀ items folded, foldItems hooks items = some folded →
      Document.DistinctItems items ∧ Document.FiniteItems items
  | [], _, _ => ⟨trivial, trivial⟩
  | item :: rest, folded, h => by
      rw [foldItems, Option.bind_eq_some_iff] at h
      obtain ⟨read, hitem, h⟩ := h
      rw [Option.map_eq_some_iff] at h
      obtain ⟨tail, htail, -⟩ := h
      have hfirst := strict_of_fold hstrict item read hitem
      have hrest := strict_of_foldItems hstrict rest tail htail
      exact ⟨⟨hfirst.1, hrest.1⟩, hfirst.2, hrest.2⟩

theorem strict_of_foldFields (hstrict : hooks.Strict) :
    ∀ fields folded, foldFields hooks fields = some folded →
      Document.DistinctFields fields ∧ Document.FiniteFields fields
  | [], _, _ => ⟨trivial, trivial⟩
  | (key, value) :: rest, folded, h => by
      rw [foldFields, Option.bind_eq_some_iff] at h
      obtain ⟨read, hvalue, h⟩ := h
      rw [Option.map_eq_some_iff] at h
      obtain ⟨tail, htail, -⟩ := h
      have hfirst := strict_of_fold hstrict value read hvalue
      have hrest := strict_of_foldFields hstrict rest tail htail
      exact ⟨⟨hfirst.1, hrest.1⟩, hfirst.2, hrest.2⟩

end

/-- **Strict reading.**  A strict and faithful reader returns the tree itself, exactly for
the documents with distinct keys and finite numbers. -/
theorem loadsWith_strict (hcoherent : hooks.Coherent) (hfaithful : hooks.Faithful)
    (hstrict : hooks.Strict) (text : String) (value : Document) :
    loadsWith hooks text = some value ↔
      tree text = some value ∧ value.DistinctKeys ∧ value.FiniteNumbers := by
  rw [loadsWith_fold hcoherent, Option.bind_eq_some_iff]
  constructor
  · rintro ⟨document, htree, hfold⟩
    have hstandard := strict_of_fold hstrict document value hfold
    rw [fold_faithful hfaithful document hstandard.1 hstandard.2] at hfold
    obtain rfl := Option.some.inj hfold
    exact ⟨htree, hstandard⟩
  · rintro ⟨htree, hkeys, hfinite⟩
    exact ⟨value, htree, fold_faithful hfaithful value hkeys hfinite⟩

/-- A faithful reader reads what a strict one let through. -/
theorem loadsWith_faithful (hcoherent : hooks.Coherent) (hfaithful : hooks.Faithful)
    {text : String} {value : Document} (htree : tree text = some value)
    (hkeys : value.DistinctKeys) (hfinite : value.FiniteNumbers) :
    loadsWith hooks text = some value := by
  rw [loadsWith_fold hcoherent, htree, Option.bind_some]
  exact fold_faithful hfaithful value hkeys hfinite

end Documents

/-! ### Nesting -/

mutual

/-- How many arrays and objects of a document lie inside each other. -/
def nesting : Document → Nat
  | .arr items => nestingItems items + 1
  | .obj fields => nestingFields fields + 1
  | .null | .bool _ | .int _ | .float _ | .str _ => 0

def nestingItems : List Document → Nat
  | [] => 0
  | item :: rest => max (nesting item) (nestingItems rest)

def nestingFields : List (List CodePoint × Document) → Nat
  | [] => 0
  | (_, value) :: rest => max (nesting value) (nestingFields rest)

end

theorem defaultHooks_coherent : defaultHooks.Coherent := by
  intro name
  cases name with
  | nan => rfl
  | infinity => rfl
  | negativeInfinity => rfl

/-! ### The default printer -/

mutual

/-- No object of a value has one key twice. -/
def DistinctKeys : Json → Prop
  | .arr items => DistinctItems items
  | .obj fields => (keys fields).Nodup ∧ DistinctFields fields
  | .null | .bool _ | .int _ | .float _ | .str _ => True

def DistinctItems : List Json → Prop
  | [] => True
  | item :: rest => DistinctKeys item ∧ DistinctItems rest

def DistinctFields : List (String × Json) → Prop
  | [] => True
  | (_, value) :: rest => DistinctKeys value ∧ DistinctFields rest

end

mutual

/-- The default reader reads a value with distinct keys whose integers have texts. -/
theorem readable_default :
    ∀ value, DistinctKeys value → encodable value = true → Readable defaultHooks value
  | .null, _, _ | .bool _, _, _ | .str _, _, _ => trivial
  | .int value, _, hencodable => by
      rw [encodable, decide_eq_true_eq] at hencodable
      exact hencodable
  | .float .nan, _, _ | .float (.infinity true), _, _ | .float (.infinity false), _, _
  | .float (.finite _), _, _ => rfl
  | .arr items, hdistinct, hencodable => readableItems_default items hdistinct hencodable
  | .obj fields, hdistinct, hencodable => by
      apply And.intro
      · show some (Document.obj (dictOf (Document.ofFields fields))) = _
        rw [dictOf_of_nodup (Document.nodup_keys_ofFields hdistinct.1)]
        rfl
      · exact readableFields_default fields hdistinct.2 hencodable

theorem readableItems_default :
    ∀ items, DistinctItems items → encodableItems items = true → ReadableItems defaultHooks items
  | [], _, _ => trivial
  | item :: rest, hdistinct, hencodable => by
      rw [encodableItems, Bool.and_eq_true] at hencodable
      exact ⟨readable_default item hdistinct.1 hencodable.1,
        readableItems_default rest hdistinct.2 hencodable.2⟩

theorem readableFields_default :
    ∀ fields, DistinctFields fields → encodableFields fields = true →
      ReadableFields defaultHooks fields
  | [], _, _ => trivial
  | (_, value) :: rest, hdistinct, hencodable => by
      rw [encodableFields, Bool.and_eq_true] at hencodable
      exact ⟨readable_default value hdistinct.1 hencodable.1,
        readableFields_default rest hdistinct.2 hencodable.2⟩

end

end Json
end Foundation
end Ryuk

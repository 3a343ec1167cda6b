import Ryuk.Foundation.Json

/-!
# Documents

What a reader makes of a JSON text, in a language whose strings are lists of code points.
An escape can stand for a surrogate alone, so such a string need not be a text of Unicode
scalar values.  `ofJson` embeds the values into the documents, and `toJson` takes back
exactly the documents that are values (`toJson_ofJson`).
-/

namespace Ryuk
namespace Foundation
namespace Json

/-! ### Code points -/

/-- A code point, surrogates included. -/
abbrev CodePoint := Fin 1114112

theorem toNat_scalar (c : Char) :
    c.toNat < 55296 ∨ (57343 < c.toNat ∧ c.toNat < 1114112) := c.valid

/-- The code point of a character. -/
def point (c : Char) : CodePoint := ⟨c.toNat, by have := toNat_scalar c; omega⟩

/-- The character of a code point; a surrogate has none. -/
def character (p : CodePoint) : Option Char :=
  if p.val.isValidChar then some (Char.ofNat p.val) else none

@[simp] theorem character_point (c : Char) : character (point c) = some c := by
  have hvalid : (point c).val.isValidChar := c.valid
  rw [character, if_pos hvalid]
  exact congrArg some (Char.ofNat_toNat c)

theorem point_of_character {p : CodePoint} {c : Char} (h : character p = some c) :
    point c = p := by
  unfold character at h
  split_ifs at h with hvalid
  obtain rfl := Option.some.inj h
  apply Fin.ext
  show (Char.ofNat p.val).toNat = p.val
  rw [Char.ofNat, dif_pos hvalid]
  rfl

/-- The code points of a text. -/
def points (text : String) : List CodePoint := text.toList.map point

/-- The characters of code points none of which is a surrogate. -/
def characters : List CodePoint → Option (List Char)
  | [] => some []
  | p :: rest => (character p).bind fun c => (characters rest).map fun chars => c :: chars

/-- The text of code points; `none` where one of them is a surrogate. -/
def textOf (name : List CodePoint) : Option String := (characters name).map String.ofList

theorem characters_map_point (chars : List Char) : characters (chars.map point) = some chars := by
  induction chars with
  | nil => rfl
  | cons c chars ih => rw [List.map_cons, characters, character_point, ih]; rfl

theorem map_point_of_characters {name : List CodePoint} {chars : List Char}
    (h : characters name = some chars) : chars.map point = name := by
  induction name generalizing chars with
  | nil =>
      obtain rfl := Option.some.inj h
      rfl
  | cons p rest ih =>
      obtain ⟨c, hc, h⟩ := Option.bind_eq_some_iff.mp h
      obtain ⟨chars, hchars, rfl⟩ := Option.map_eq_some_iff.mp h
      rw [List.map_cons, point_of_character hc, ih hchars]

theorem textOf_iff {name : List CodePoint} {text : String} :
    textOf name = some text ↔ points text = name := by
  unfold textOf points
  constructor
  · intro h
    obtain ⟨chars, hchars, rfl⟩ := Option.map_eq_some_iff.mp h
    rw [String.toList_ofList]
    exact map_point_of_characters hchars
  · rintro rfl
    rw [characters_map_point, Option.map_some, String.ofList_toList]

@[simp] theorem textOf_points (text : String) : textOf (points text) = some text :=
  textOf_iff.mpr rfl

theorem points_injective : Function.Injective points := fun left right h =>
  Option.some.inj ((textOf_points left).symm.trans ((congrArg textOf h).trans (textOf_points right)))

/-! ### Documents -/

/-- A document as a reader builds it. -/
inductive Document where
  | null
  | bool (value : Bool)
  | int (value : Int)
  | float (value : Decimal.Float)
  | str (value : List CodePoint)
  | arr (items : List Document)
  | obj (fields : List (List CodePoint × Document))

namespace Document

mutual

/-- A value as a document. -/
def ofJson : Json → Document
  | .null => .null
  | .bool value => .bool value
  | .int value => .int value
  | .float value => .float value
  | .str value => .str (points value)
  | .arr items => .arr (ofItems items)
  | .obj fields => .obj (ofFields fields)

def ofItems : List Json → List Document
  | [] => []
  | item :: rest => ofJson item :: ofItems rest

def ofFields : List (String × Json) → List (List CodePoint × Document)
  | [] => []
  | (key, value) :: rest => (points key, ofJson value) :: ofFields rest

end

mutual

/-- The value of a document all of whose strings are texts. -/
def toJson : Document → Option Json
  | .null => some .null
  | .bool value => some (.bool value)
  | .int value => some (.int value)
  | .float value => some (.float value)
  | .str value => (textOf value).map .str
  | .arr items => (toItems items).map .arr
  | .obj fields => (toFields fields).map .obj

def toItems : List Document → Option (List Json)
  | [] => some []
  | item :: rest => (toJson item).bind fun value =>
      (toItems rest).map fun values => value :: values

def toFields : List (List CodePoint × Document) → Option (List (String × Json))
  | [] => some []
  | (key, item) :: rest => (textOf key).bind fun name => (toJson item).bind fun value =>
      (toFields rest).map fun fields => (name, value) :: fields

end

mutual

@[simp] theorem toJson_ofJson : ∀ value, toJson (ofJson value) = some value
  | .null | .bool _ | .int _ | .float _ => rfl
  | .str value => by rw [ofJson, toJson, textOf_points, Option.map_some]
  | .arr items => by rw [ofJson, toJson, toItems_ofItems items, Option.map_some]
  | .obj fields => by rw [ofJson, toJson, toFields_ofFields fields, Option.map_some]

theorem toItems_ofItems : ∀ items, toItems (ofItems items) = some items
  | [] => rfl
  | item :: rest => by
      rw [ofItems, toItems, toJson_ofJson item, Option.bind_some, toItems_ofItems rest,
        Option.map_some]

theorem toFields_ofFields : ∀ fields, toFields (ofFields fields) = some fields
  | [] => rfl
  | (key, value) :: rest => by
      rw [ofFields, toFields, textOf_points, Option.bind_some, toJson_ofJson value,
        Option.bind_some, toFields_ofFields rest, Option.map_some]

end

theorem keys_ofFields (fields : List (String × Json)) :
    keys (ofFields fields) = (keys fields).map points := by
  induction fields with
  | nil => rfl
  | cons field rest ih =>
      obtain ⟨key, value⟩ := field
      unfold keys at ih ⊢
      rw [ofFields, List.map_cons, List.map_cons, List.map_cons, ih]

/-- Embedding a dictionary keeps its keys apart. -/
theorem nodup_keys_ofFields {fields : List (String × Json)} (h : (keys fields).Nodup) :
    (keys (ofFields fields)).Nodup := by
  rw [keys_ofFields]
  exact h.map points_injective

end Document

end Json
end Foundation
end Ryuk

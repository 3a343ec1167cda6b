import Mathlib.Data.String.Basic
import Ryuk.Foundation.Decimal

/-!
# JSON values

A JSON document as a dynamic language reads it: integers and floats are kept
apart, an object is an insertion-ordered list of fields.  The canonical form of
a value sorts every object by key and keeps the last of equal keys; it is what a
printer with sorted keys writes.  `pyEq` is the equality of the decoded values
in a language whose `1`, `1.0` and `true` are equal.
-/

namespace Ryuk
namespace Foundation

open Decimal

/-- A JSON value. -/
inductive Json where
  | null
  | bool (value : Bool)
  | int (value : Int)
  | float (value : Decimal.Float)
  | str (value : String)
  | arr (items : List Json)
  | obj (fields : List (String × Json))

namespace Json

/-! ### Decidable equality -/

mutual

/-- Structural equality of values is decidable. -/
def decEq : (left right : Json) → Decidable (left = right)
  | .null, .null => .isTrue rfl
  | .bool x, .bool y => decidable_of_iff (x = y) (by simp)
  | .int x, .int y => decidable_of_iff (x = y) (by simp)
  | .float x, .float y => decidable_of_iff (x = y) (by simp)
  | .str x, .str y => decidable_of_iff (x = y) (by simp)
  | .arr x, .arr y =>
      match decEqItems x y with
      | .isTrue h => .isTrue (by rw [h])
      | .isFalse h => .isFalse (by simpa using h)
  | .obj x, .obj y =>
      match decEqFields x y with
      | .isTrue h => .isTrue (by rw [h])
      | .isFalse h => .isFalse (by simpa using h)
  | .null, .bool _ | .null, .int _ | .null, .float _ | .null, .str _ | .null, .arr _
  | .null, .obj _ | .bool _, .null | .bool _, .int _ | .bool _, .float _ | .bool _, .str _
  | .bool _, .arr _ | .bool _, .obj _ | .int _, .null | .int _, .bool _ | .int _, .float _
  | .int _, .str _ | .int _, .arr _ | .int _, .obj _ | .float _, .null | .float _, .bool _
  | .float _, .int _ | .float _, .str _ | .float _, .arr _ | .float _, .obj _
  | .str _, .null | .str _, .bool _ | .str _, .int _ | .str _, .float _ | .str _, .arr _
  | .str _, .obj _ | .arr _, .null | .arr _, .bool _ | .arr _, .int _ | .arr _, .float _
  | .arr _, .str _ | .arr _, .obj _ | .obj _, .null | .obj _, .bool _ | .obj _, .int _
  | .obj _, .float _ | .obj _, .str _ | .obj _, .arr _ => .isFalse (by simp)

def decEqItems : (left right : List Json) → Decidable (left = right)
  | [], [] => .isTrue rfl
  | [], _ :: _ | _ :: _, [] => .isFalse (by simp)
  | x :: xs, y :: ys =>
      match decEq x y, decEqItems xs ys with
      | .isTrue h, .isTrue h' => .isTrue (by rw [h, h'])
      | .isFalse h, _ => .isFalse (by simp [h])
      | _, .isFalse h => .isFalse (by simp [h])

def decEqFields : (left right : List (String × Json)) → Decidable (left = right)
  | [], [] => .isTrue rfl
  | [], _ :: _ | _ :: _, [] => .isFalse (by simp)
  | (k, x) :: xs, (k', y) :: ys =>
      match decEq x y, decEqFields xs ys with
      | .isTrue h, .isTrue h' => decidable_of_iff (k = k') (by simp [h, h'])
      | .isFalse h, _ => .isFalse (by simp [h])
      | _, .isFalse h => .isFalse (by simp [h])

end

instance : DecidableEq Json := decEq

/-! ### Objects as dictionaries -/

section Dictionaries

variable {κ ν : Type}

/-- The keys of a list of fields, in order. -/
def keys (fields : List (κ × ν)) : List κ := fields.map Prod.fst

variable [DecidableEq κ]

/-- The value of a key in a list of fields. -/
def lookup (key : κ) : List (κ × ν) → Option ν
  | [] => none
  | (k, value) :: rest => if k = key then some value else lookup key rest

/-- Assignment to a key: an existing key keeps its place. -/
def assign (key : κ) (value : ν) : List (κ × ν) → List (κ × ν)
  | [] => [(key, value)]
  | (k, old) :: rest => if k = key then (k, value) :: rest else (k, old) :: assign key value rest

/-- The dictionary a list of key-value pairs builds: the last value of a key wins. -/
def dictOf (pairs : List (κ × ν)) : List (κ × ν) :=
  pairs.foldl (fun fields pair => assign pair.1 pair.2 fields) []

theorem assign_of_not_mem {key : κ} {value : ν} {fields : List (κ × ν)}
    (h : key ∉ keys fields) : assign key value fields = fields ++ [(key, value)] := by
  induction fields with
  | nil => rfl
  | cons field rest ih =>
      obtain ⟨k, old⟩ := field
      simp only [keys, List.map_cons, List.mem_cons, not_or] at h
      rw [assign, if_neg (Ne.symm h.1), ih h.2, List.cons_append]

/-- Pairs with distinct keys build the dictionary with exactly these fields. -/
theorem dictOf_of_nodup {pairs : List (κ × ν)} (h : (keys pairs).Nodup) :
    dictOf pairs = pairs := by
  suffices ∀ done, (keys (done ++ pairs)).Nodup →
      pairs.foldl (fun fields pair => assign pair.1 pair.2 fields) done = done ++ pairs by
    simpa [dictOf] using this [] (by simpa using h)
  clear h
  induction pairs with
  | nil =>
      intro done _
      simp
  | cons pair rest ih =>
      intro done hnodup
      have hfresh : pair.1 ∉ keys done := by
        simp only [keys, List.map_append, List.map_cons] at hnodup
        have := (List.nodup_append.mp hnodup).2.2
        intro hmem
        exact this _ hmem _ (List.mem_cons_self ..) rfl
      rw [List.foldl_cons, assign_of_not_mem hfresh, ih (done ++ [pair]) (by simpa using hnodup)]
      simp

end Dictionaries

/-- `value.get(key)` on an object; `none` on a missing key and on a non-object. -/
def get? (value : Json) (key : String) : Option Json :=
  match value with
  | .obj fields => lookup key fields
  | _ => none

/-! ### The canonical form -/

/-- Insert a field into fields sorted by key, replacing an equal key. -/
def insertField (key : String) (value : Json) : List (String × Json) → List (String × Json)
  | [] => [(key, value)]
  | (k, old) :: rest =>
      if key < k then (key, value) :: (k, old) :: rest
      else if key = k then (key, value) :: rest
      else (k, old) :: insertField key value rest

/-- Fields sorted by key. -/
def sortFields (fields : List (String × Json)) : List (String × Json) :=
  fields.foldl (fun sorted field => insertField field.1 field.2 sorted) []

mutual

/-- The canonical form: every object sorted by key. -/
def canon : Json → Json
  | .arr items => .arr (canonItems items)
  | .obj fields => .obj (sortFields (canonFields fields))
  | .null => .null
  | .bool value => .bool value
  | .int value => .int value
  | .float value => .float value
  | .str value => .str value

def canonItems : List Json → List Json
  | [] => []
  | item :: rest => canon item :: canonItems rest

def canonFields : List (String × Json) → List (String × Json)
  | [] => []
  | (key, value) :: rest => (key, canon value) :: canonFields rest

end

/-- Keys in strictly increasing order. -/
def Sorted (fields : List (String × Json)) : Prop :=
  fields.Pairwise fun left right => left.1 < right.1

mutual

/-- A value all of whose objects are sorted by key. -/
def Canonical : Json → Prop
  | .arr items => CanonicalItems items
  | .obj fields => Sorted fields ∧ CanonicalFields fields
  | .null | .bool _ | .int _ | .float _ | .str _ => True

def CanonicalItems : List Json → Prop
  | [] => True
  | item :: rest => Canonical item ∧ CanonicalItems rest

def CanonicalFields : List (String × Json) → Prop
  | [] => True
  | (_, value) :: rest => Canonical value ∧ CanonicalFields rest

end

theorem keys_insertField (key : String) (value : Json) (fields : List (String × Json))
    (k : String) :
    k ∈ keys (insertField key value fields) ↔ k = key ∨ k ∈ keys fields := by
  induction fields with
  | nil => simp [insertField, keys]
  | cons field rest ih =>
      obtain ⟨k', old⟩ := field
      simp only [keys] at ih
      simp only [insertField]
      split_ifs with hlt heq
      · simp [keys]
      · subst heq
        simp [keys]
      · simp only [keys, List.map_cons, List.mem_cons, ih]
        tauto

theorem insertField_sorted (key : String) (value : Json) {fields : List (String × Json)}
    (h : Sorted fields) : Sorted (insertField key value fields) := by
  induction fields with
  | nil => simp [insertField, Sorted]
  | cons field rest ih =>
      obtain ⟨k, old⟩ := field
      have htail : Sorted rest := (List.pairwise_cons.mp h).2
      have hhead : ∀ right ∈ rest, k < right.1 := (List.pairwise_cons.mp h).1
      simp only [insertField]
      split_ifs with hlt heq
      · refine List.pairwise_cons.mpr ⟨?_, h⟩
        intro right hright
        rcases List.mem_cons.mp hright with rfl | hright
        · exact hlt
        · exact lt_trans hlt (hhead right hright)
      · subst heq
        exact List.pairwise_cons.mpr ⟨hhead, htail⟩
      · have hgt : k < key := lt_of_le_of_ne (not_lt.mp hlt) (Ne.symm heq)
        refine List.pairwise_cons.mpr ⟨?_, ih htail⟩
        intro right hright
        have hkey : right.1 ∈ keys (insertField key value rest) :=
          List.mem_map_of_mem hright
        rw [keys_insertField] at hkey
        rcases hkey with hkey | hkey
        · simpa [hkey] using hgt
        · obtain ⟨found, hfound, hname⟩ := List.mem_map.mp hkey
          have := hhead found hfound
          simpa [hname] using this

theorem insertField_canonical {key : String} {value : Json}
    {fields : List (String × Json)} (hvalue : Canonical value)
    (h : CanonicalFields fields) : CanonicalFields (insertField key value fields) := by
  induction fields with
  | nil => exact ⟨hvalue, trivial⟩
  | cons field rest ih =>
      obtain ⟨k, old⟩ := field
      simp only [insertField]
      split_ifs with hlt heq
      · exact ⟨hvalue, h⟩
      · exact ⟨hvalue, h.2⟩
      · exact ⟨h.1, ih h.2⟩

/-- Sorting by key sorts, and keeps canonical values canonical. -/
theorem sortFields_canonical {fields : List (String × Json)} (h : CanonicalFields fields) :
    Sorted (sortFields fields) ∧ CanonicalFields (sortFields fields) := by
  suffices ∀ done, Sorted done → CanonicalFields done →
      Sorted (fields.foldl (fun sorted field => insertField field.1 field.2 sorted) done) ∧
        CanonicalFields
          (fields.foldl (fun sorted field => insertField field.1 field.2 sorted) done) from
    this [] List.Pairwise.nil trivial
  induction fields with
  | nil =>
      intro done hsorted hcanonical
      exact ⟨hsorted, hcanonical⟩
  | cons field rest ih =>
      intro done hsorted hcanonical
      obtain ⟨key, value⟩ := field
      exact ih h.2 _ (insertField_sorted key value hsorted)
        (insertField_canonical h.1 hcanonical)

mutual

/-- The canonical form is canonical. -/
theorem canon_canonical : ∀ value, Canonical (canon value)
  | .null | .bool _ | .int _ | .float _ | .str _ => by simp [canon, Canonical]
  | .arr items => by
      rw [canon, Canonical]
      exact canonItems_canonical items
  | .obj fields => by
      rw [canon, Canonical]
      exact sortFields_canonical (canonFields_canonical fields)

theorem canonItems_canonical : ∀ items, CanonicalItems (canonItems items)
  | [] => trivial
  | item :: rest => ⟨canon_canonical item, canonItems_canonical rest⟩

theorem canonFields_canonical : ∀ fields, CanonicalFields (canonFields fields)
  | [] => trivial
  | (_, value) :: rest => ⟨canon_canonical value, canonFields_canonical rest⟩

end

theorem insertField_last {key : String} {value : Json} {fields : List (String × Json)}
    (h : ∀ field ∈ fields, field.1 < key) :
    insertField key value fields = fields ++ [(key, value)] := by
  induction fields with
  | nil => rfl
  | cons field rest ih =>
      obtain ⟨k, old⟩ := field
      have hk : k < key := h (k, old) (List.mem_cons_self ..)
      rw [insertField, if_neg (not_lt.mpr hk.le), if_neg (ne_of_gt hk),
        ih fun field hfield => h field (List.mem_cons_of_mem _ hfield), List.cons_append]

/-- Fields already sorted by key stay in place. -/
theorem sortFields_of_sorted {fields : List (String × Json)} (h : Sorted fields) :
    sortFields fields = fields := by
  suffices ∀ done, Sorted (done ++ fields) →
      fields.foldl (fun sorted field => insertField field.1 field.2 sorted) done =
        done ++ fields by
    simpa [sortFields] using this [] (by simpa using h)
  clear h
  induction fields with
  | nil =>
      intro done _
      simp
  | cons field rest ih =>
      intro done hsorted
      have hbelow : ∀ earlier ∈ done, earlier.1 < field.1 := by
        intro earlier hearlier
        exact (List.pairwise_append.mp hsorted).2.2 earlier hearlier field
          (List.mem_cons_self ..)
      rw [List.foldl_cons, insertField_last hbelow, ih (done ++ [field]) (by simpa using hsorted)]
      simp

theorem Sorted.keys_nodup {fields : List (String × Json)} (h : Sorted fields) :
    (keys fields).Nodup := by
  unfold keys List.Nodup
  rw [List.pairwise_map]
  exact h.imp fun hlt => ne_of_lt hlt

mutual

/-- A canonical value is its own canonical form. -/
theorem canon_of_canonical : ∀ value, Canonical value → canon value = value
  | .null, _ | .bool _, _ | .int _, _ | .float _, _ | .str _, _ => by simp [canon]
  | .arr items, h => by
      rw [canon, canonItems_of_canonical items (by simpa [Canonical] using h)]
  | .obj fields, h => by
      rw [Canonical] at h
      rw [canon, canonFields_of_canonical fields h.2, sortFields_of_sorted h.1]

theorem canonItems_of_canonical :
    ∀ items, CanonicalItems items → canonItems items = items
  | [], _ => rfl
  | item :: rest, h => by
      rw [canonItems, canon_of_canonical item h.1, canonItems_of_canonical rest h.2]

theorem canonFields_of_canonical :
    ∀ fields, CanonicalFields fields → canonFields fields = fields
  | [], _ => rfl
  | (key, value) :: rest, h => by
      rw [canonFields, canon_of_canonical value h.1, canonFields_of_canonical rest h.2]

end

/-- The canonical form is idempotent. -/
@[simp] theorem canon_canon (value : Json) : canon (canon value) = canon value :=
  canon_of_canonical _ (canon_canonical value)

/-! ### Reading the canonical form -/

theorem lookup_insertField (key : String) (value : Json) (fields : List (String × Json))
    (k : String) :
    lookup k (insertField key value fields) = if key = k then some value else lookup k fields := by
  induction fields with
  | nil => simp [insertField, lookup]
  | cons field rest ih =>
      obtain ⟨k', old⟩ := field
      rw [insertField]
      by_cases hlt : key < k'
      · rw [if_pos hlt, lookup]
      · by_cases heq : key = k'
        · subst heq
          rw [if_neg hlt, if_pos rfl, lookup, lookup]
          split_ifs
          · rfl
          · rfl
        · rw [if_neg hlt, if_neg heq, lookup, lookup, ih]
          split_ifs with hfirst hsecond
          · exact absurd (hsecond.trans hfirst.symm) heq
          · rfl
          · rfl
          · rfl

/-- Sorting distinct keys does not change what a key finds. -/
theorem lookup_sortFields {fields : List (String × Json)} (h : (keys fields).Nodup)
    (key : String) : lookup key (sortFields fields) = lookup key fields := by
  suffices ∀ done, (∀ k ∈ keys fields, lookup k done = none) →
      lookup key
        (fields.foldl (fun sorted field => insertField field.1 field.2 sorted) done) =
        (lookup key done).or (lookup key fields) by
    simpa [sortFields, lookup] using this [] (fun _ _ => rfl)
  induction fields with
  | nil =>
      intro done _
      simp [lookup]
  | cons field rest ih =>
      intro done hfresh
      obtain ⟨k, value⟩ := field
      rw [keys, List.map_cons, List.nodup_cons] at h
      have hrest : ∀ k' ∈ keys rest, lookup k' (insertField k value done) = none := by
        intro k' hk'
        have hne : k ≠ k' := fun heq => h.1 (heq ▸ hk')
        rw [lookup_insertField, if_neg hne]
        exact hfresh k' (List.mem_cons_of_mem _ hk')
      rw [List.foldl_cons, ih h.2 _ hrest, lookup_insertField, lookup]
      split_ifs with hk
      · subst hk
        rw [hfresh k (List.mem_cons_self ..)]
        rfl
      · rfl

theorem keys_canonFields (fields : List (String × Json)) :
    keys (canonFields fields) = keys fields := by
  induction fields with
  | nil => rfl
  | cons field rest ih =>
      obtain ⟨k, value⟩ := field
      rw [canonFields]
      simp only [keys, List.map_cons] at ih ⊢
      rw [ih]

theorem lookup_canonFields (key : String) (fields : List (String × Json)) :
    lookup key (canonFields fields) = (lookup key fields).map canon := by
  induction fields with
  | nil => rfl
  | cons field rest ih =>
      obtain ⟨k, value⟩ := field
      rw [canonFields, lookup, lookup]
      split_ifs
      · rfl
      · exact ih

/-- A field of the canonical form is the canonical form of the field. -/
theorem get?_canon {fields : List (String × Json)} (h : (keys fields).Nodup) (key : String) :
    (canon (.obj fields)).get? key = (lookup key fields).map canon := by
  rw [canon]
  change lookup key (sortFields (canonFields fields)) = _
  rw [lookup_sortFields (by rw [keys_canonFields]; exact h), lookup_canonFields]

/-- A field of a canonical object is canonical. -/
theorem canonical_of_lookup {fields : List (String × Json)} (h : CanonicalFields fields)
    {key : String} {value : Json} (hlookup : lookup key fields = some value) :
    Canonical value := by
  induction fields with
  | nil => simp [lookup] at hlookup
  | cons field rest ih =>
      obtain ⟨k, old⟩ := field
      rw [lookup] at hlookup
      split_ifs at hlookup with hk
      · obtain rfl := Option.some.inj hlookup
        exact h.1
      · exact ih h.2 hlookup

theorem canonical_of_get? {value field : Json} {key : String} (h : Canonical value)
    (hget : value.get? key = some field) : Canonical field := by
  cases value with
  | obj fields =>
      rw [Canonical] at h
      exact canonical_of_lookup h.2 hget
  | null | bool _ | int _ | float _ | str _ | arr _ => simp [get?] at hget

/-! ### Equality of decoded values -/

/-- Forget the difference between `true`, `1` and `1.0`. -/
def numberForm : Json → Json
  | .bool value => .int (if value then 1 else 0)
  | .float (.finite value) =>
      if 0 ≤ value.exponent then
        .int ((if value.negative then -1 else 1) * value.digits * 10 ^ value.exponent.toNat)
      else .float (.finite value)
  | value => value

mutual

/-- The form in which two values are equal exactly when the decoded values are. -/
def pyForm : Json → Json
  | .arr items => .arr (pyItems items)
  | .obj fields => .obj (sortFields (pyFields fields))
  | .null => .null
  | .bool value => numberForm (.bool value)
  | .int value => .int value
  | .float value => numberForm (.float value)
  | .str value => .str value

def pyItems : List Json → List Json
  | [] => []
  | item :: rest => pyForm item :: pyItems rest

def pyFields : List (String × Json) → List (String × Json)
  | [] => []
  | (key, value) :: rest => (key, pyForm value) :: pyFields rest

end

/-- `left == right` on decoded values: key order is ignored, numbers compare by
value. -/
def pyEq (left right : Json) : Bool := decide (pyForm left = pyForm right)

@[simp] theorem pyEq_refl (value : Json) : pyEq value value = true := by simp [pyEq]

/-- The truth value of a decoded value. -/
def truthy : Json → Bool
  | .null => false
  | .bool value => value
  | .int value => decide (value ≠ 0)
  | .float value => value.truthy
  | .str value => decide (value ≠ "")
  | .arr items => !items.isEmpty
  | .obj fields => !fields.isEmpty

/-- Whether a value is an object. -/
def isObject : Json → Bool
  | .obj _ => true
  | _ => false

/-- The string a value holds, when it is one. -/
def asString : Json → Option String
  | .str value => some value
  | _ => none

end Json
end Foundation
end Ryuk

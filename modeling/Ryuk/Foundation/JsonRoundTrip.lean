import Ryuk.Foundation.JsonText

/-!
# The JSON round trip

Reading the printed text of a value gives the canonical form of the value as a document,
with the default reader and with any stricter one (`loadsWith_dumps`).  Printing is
therefore injective up to the order of keys (`dumps_injective`).

The proof follows the grammar: strings character by character, numbers part by
part, then one induction over values, the items of arrays and the fields of
objects.  A value is always followed by the end of the text or by a separator
(`Stops`), which is what makes the end of a number visible to the reader.
-/

namespace Ryuk
namespace Foundation
namespace Json

open Decimal

/-! ### Strings -/

theorem hexValue_hexDigit : ∀ n, n < 16 → hexValue (hexDigit n) = some n := by decide

theorem unitOf_hex4 {unit : Nat} (h : unit < 65536) :
    unitOf (hexDigit (unit / 4096 % 16)) (hexDigit (unit / 256 % 16))
      (hexDigit (unit / 16 % 16)) (hexDigit (unit % 16)) = some unit := by
  unfold unitOf
  rw [hexValue_hexDigit _ (Nat.mod_lt _ (by decide)),
    hexValue_hexDigit _ (Nat.mod_lt _ (by decide)),
    hexValue_hexDigit _ (Nat.mod_lt _ (by decide)),
    hexValue_hexDigit _ (Nat.mod_lt _ (by decide))]
  simp only [Option.some.injEq]
  omega

/-- A code unit that is no surrogate stands for itself. -/
theorem ofNat_toNat (c : Char) : Fin.ofNat 1114112 c.toNat = point c := by
  have hscalar := toNat_scalar c
  rw [Fin.ext_iff, Fin.val_ofNat, Nat.mod_eq_of_lt (by omega), point]

/-- The two halves of a character beyond the first plane give it back. -/
theorem joined_halves {c : Char} (h : 65536 ≤ c.toNat) :
    joined (55296 + (c.toNat - 65536) / 1024) (56320 + (c.toNat - 65536) % 1024) = point c := by
  have hvalue : 65536 + (55296 + (c.toNat - 65536) / 1024 - 55296) * 1024 +
      (56320 + (c.toNat - 65536) % 1024 - 56320) = c.toNat := by omega
  rw [joined, hvalue, ofNat_toNat]

/-- An escaped character reads back as itself. -/
theorem parseString_escapeChar (c : Char) (rest : List Char) :
    parseString (escapeChar c ++ rest) =
      (parseString rest).map fun body => (point c :: body.1, body.2) := by
  have hscalar := toNat_scalar c
  unfold escapeChar
  split_ifs with h1 h2 h3 h4 h5 h6 h7 h8 h9
  · subst h1; rfl
  · subst h2; rfl
  · subst h3; rfl
  · subst h4; rfl
  · subst h5; rfl
  · have hc : Char.ofNat 8 = c := by rw [← h6, Char.ofNat_toNat]
    rw [← hc]; rfl
  · have hc : Char.ofNat 12 = c := by rw [← h7, Char.ofNat_toNat]
    rw [← hc]; rfl
  · rw [List.singleton_append, parseString.eq_def]
    split
    · simp_all
    · simp_all
    · simp_all
    · simp_all
    · rename_i c' rest' _ _ heq
      obtain ⟨rfl, rfl⟩ := List.cons.inj heq
      rw [if_neg]
      rintro (hlow | hslash)
      · omega
      · exact h2 hslash
  · have hsingle : isHighSurrogate c.toNat = false := by
      unfold isHighSurrogate
      rw [Bool.and_eq_false_iff, decide_eq_false_iff_not, decide_eq_false_iff_not]
      omega
    simp only [escapeUnit, hex4, List.cons_append, List.nil_append]
    rw [parseString, unitOf_hex4 h9]
    simp only [hsingle, Bool.false_eq_true, if_false]
    rw [ofNat_toNat]
  · have hhigh : isHighSurrogate (55296 + (c.toNat - 65536) / 1024) = true := by
      unfold isHighSurrogate
      rw [Bool.and_eq_true, decide_eq_true_eq, decide_eq_true_eq]
      omega
    have hlow : isLowSurrogate (56320 + (c.toNat - 65536) % 1024) = true := by
      unfold isLowSurrogate
      rw [Bool.and_eq_true, decide_eq_true_eq, decide_eq_true_eq]
      omega
    simp only [escapeUnit, hex4, List.cons_append, List.nil_append]
    rw [parseString, unitOf_hex4 (by omega)]
    simp only [hhigh, if_true]
    rw [unitOf_hex4 (by omega)]
    simp only [hlow, if_true]
    rw [joined_halves (by omega)]

theorem parseString_escaped (chars rest : List Char) :
    parseString (chars.flatMap escapeChar ++ '"' :: rest) = some (chars.map point, rest) := by
  induction chars with
  | nil => rfl
  | cons c chars ih =>
      rw [List.flatMap_cons, List.append_assoc, parseString_escapeChar, ih]
      rfl

-- a pair of surrogates is one code point, and a surrogate alone is one too
example : parseString "\\ud83d\\ude00\"".toList = some ([128512], []) ∧
    parseString "\\ud800x\"".toList = some ([55296, 120], []) := by decide +kernel

/-! ### Numbers -/

/-- What may follow a value: nothing, or a separator. -/
def Stops (rest : List Char) : Prop :=
  ∀ c tail, rest = c :: tail → c = ',' ∨ c = ']' ∨ c = '}'

theorem digit_cases {c : Char} (h : c.isDigit = true) :
    c = '0' ∨ c = '1' ∨ c = '2' ∨ c = '3' ∨ c = '4' ∨ c = '5' ∨ c = '6' ∨ c = '7' ∨
      c = '8' ∨ c = '9' := by
  have hbounds : 48 ≤ c.toNat ∧ c.toNat ≤ 57 := by
    simpa [Char.isDigit, Char.le_def, UInt32.le_iff_toNat_le] using h
  obtain ⟨hlow, hhigh⟩ := hbounds
  have hc := Char.ofNat_toNat c
  interval_cases c.toNat <;> simp [← hc]

theorem spanDigits_append {digits rest : List Char} (hdigits : ∀ c ∈ digits, c.isDigit = true)
    (hrest : ∀ c tail, rest = c :: tail → c.isDigit = false) :
    spanDigits (digits ++ rest) = (digits, rest) := by
  unfold spanDigits
  rw [List.takeWhile_append_of_pos hdigits, List.dropWhile_append_of_pos hdigits]
  cases rest with
  | nil => simp
  | cons c tail => simp [hrest c tail rfl]

theorem Stops.not_digit {rest : List Char} (h : Stops rest) :
    ∀ c tail, rest = c :: tail → c.isDigit = false := by
  intro c tail heq
  rcases h c tail heq with rfl | rfl | rfl <;> rfl

/-- Digits as a printer writes the integer part of a number: a single zero, or
digits that do not start with zero. -/
def IntegerDigits (digits : List Char) : Prop :=
  (∀ c ∈ digits, c.isDigit = true) ∧
    (digits = ['0'] ∨ ∃ first rest, digits = first :: rest ∧ first ≠ '0')

theorem integerDigits_digitsOf (value : Nat) : IntegerDigits (digitsOf value) := by
  refine ⟨fun c hc => digitsOf_isDigit hc, ?_⟩
  rcases Nat.eq_zero_or_pos value with rfl | hpos
  · exact Or.inl digitsOf_zero
  · exact Or.inr (digitsOf_head_ne_zero hpos)

theorem integerPart_append {digits rest : List Char} (h : IntegerDigits digits)
    (hrest : ∀ c tail, rest = c :: tail → c.isDigit = false) :
    integerPart (digits ++ rest) = some (digits, rest) := by
  obtain ⟨hdigits, rfl | ⟨first, tail, rfl, hfirst⟩⟩ := h
  · rfl
  · have hspan := spanDigits_append hdigits hrest
    rw [List.cons_append] at hspan ⊢
    rw [integerPart.eq_def]
    split
    · rename_i rest' heq
      exact absurd (List.cons.inj heq).1 hfirst
    · rw [hspan]

theorem fractionPart_append {fraction rest : List Char} (hne : fraction ≠ [])
    (hdigits : ∀ c ∈ fraction, c.isDigit = true)
    (hrest : ∀ c tail, rest = c :: tail → c.isDigit = false) :
    fractionPart ('.' :: (fraction ++ rest)) = (fraction, rest) := by
  rw [fractionPart, spanDigits_append hdigits hrest]
  cases fraction with
  | nil => exact absurd rfl hne
  | cons c tail => rfl

theorem fractionPart_of_ne_dot {rest : List Char}
    (hrest : ∀ c tail, rest = c :: tail → c ≠ '.') : fractionPart rest = ([], rest) := by
  cases rest with
  | nil => rfl
  | cons c tail =>
      have hc := hrest c tail rfl
      rw [fractionPart.eq_def]
      split
      · rename_i heq
        exact absurd (List.cons.inj heq).1 hc
      · rfl

theorem exponentPart_of_stops {rest : List Char} (h : Stops rest) :
    exponentPart rest = (none, rest) := by
  cases rest with
  | nil => rfl
  | cons c tail => rcases h c tail rfl with rfl | rfl | rfl <;> rfl

theorem exponentPart_renderExponent (exponent : Int) {rest : List Char} (h : Stops rest) :
    exponentPart (renderExponent exponent ++ rest) = (some exponent, rest) := by
  have hdigits : ∀ c ∈ List.replicate (2 - (digitsOf exponent.natAbs).length) '0' ++
      digitsOf exponent.natAbs, c.isDigit = true := by
    intro c hc
    rcases List.mem_append.mp hc with hzero | hdigit
    · rw [List.eq_of_mem_replicate hzero]
      rfl
    · exact digitsOf_isDigit hdigit
  have hspan := spanDigits_append hdigits h.not_digit
  have hvalue : digitsValue (List.replicate (2 - (digitsOf exponent.natAbs).length) '0' ++
      digitsOf exponent.natAbs) = exponent.natAbs := by
    rw [digitsValue_zeros_append, digitsValue_digitsOf]
  have hne : List.replicate (2 - (digitsOf exponent.natAbs).length) '0' ++
      digitsOf exponent.natAbs ≠ [] := by
    simp [digitsOf_ne_nil]
  generalize hpadded : List.replicate (2 - (digitsOf exponent.natAbs).length) '0' ++
      digitsOf exponent.natAbs = padded at hspan hvalue hne
  obtain ⟨first, tail, rfl⟩ := List.exists_cons_of_ne_nil hne
  unfold renderExponent
  rw [hpadded]
  by_cases hneg : exponent < 0
  · rw [if_pos hneg]
    change exponentDigits true _ ((first :: tail) ++ rest) = _
    rw [exponentDigits, hspan]
    simp only [hvalue, Prod.mk.injEq, Option.some.injEq, and_true]
    simp only [if_true]
    omega
  · rw [if_neg hneg]
    change exponentDigits false _ ((first :: tail) ++ rest) = _
    rw [exponentDigits, hspan]
    simp only [hvalue, Prod.mk.injEq, Option.some.injEq, and_true]
    simp only [Bool.false_eq_true, if_false]
    omega

theorem parts_integer (value : Finite) : IntegerDigits (parts value).integer := by
  have hdigits := integerDigits_digitsOf value.digits
  have hlength : 1 ≤ (digitsOf value.digits).length :=
    List.length_pos_of_ne_nil (digitsOf_ne_nil value.digits)
  have htake : ∀ count, 1 ≤ count → IntegerDigits ((digitsOf value.digits).take count) := by
    intro count hcount
    refine ⟨fun c hc => hdigits.1 c (List.mem_of_mem_take hc), ?_⟩
    obtain ⟨count, rfl⟩ : ∃ k, count = k + 1 := ⟨count - 1, by omega⟩
    rcases hdigits.2 with hzero | ⟨first, rest, hcons, hfirst⟩
    · left
      simp [hzero]
    · right
      exact ⟨first, rest.take count, by rw [hcons, List.take_succ_cons], hfirst⟩
  unfold parts
  simp only
  split_ifs with hfixed hsmall hwhole
  · exact ⟨by simp, Or.inl rfl⟩
  · refine ⟨?_, ?_⟩
    · intro c hc
      rcases List.mem_append.mp hc with hdigit | hzero
      · exact hdigits.1 c hdigit
      · rw [List.eq_of_mem_replicate hzero]
        rfl
    · rcases value.normal with ⟨hzero, hexponent⟩ | hlast
      · left
        simp [hzero, hexponent]
      · right
        have hpos : 0 < value.digits := by
          rcases Nat.eq_zero_or_pos value.digits with h | h
          · simp [h] at hlast
          · exact h
        obtain ⟨first, rest, hcons, hfirst⟩ := digitsOf_head_ne_zero hpos
        exact ⟨first, _, by rw [hcons, List.cons_append], hfirst⟩
  · exact htake _ (by omega)
  · exact htake 1 (le_refl 1)

theorem parts_fraction_isDigit (value : Finite) {c : Char}
    (hc : c ∈ (parts value).fraction) : c.isDigit = true := by
  unfold parts at hc
  simp only at hc
  split_ifs at hc with hfixed hsmall hwhole
  · rcases List.mem_append.mp hc with hzero | hdigit
    · rw [List.eq_of_mem_replicate hzero]
      rfl
    · exact digitsOf_isDigit hdigit
  · rw [List.mem_singleton.mp hc]
    rfl
  · exact digitsOf_isDigit (List.mem_of_mem_drop hc)
  · exact digitsOf_isDigit (List.mem_of_mem_drop hc)

/-- A printed float always shows that it is one: a fraction or an exponent. -/
theorem parts_marked (value : Finite) :
    ¬ ((parts value).fraction = [] ∧ (parts value).exponent = none) := by
  rintro ⟨hfraction, hexponent⟩
  have hne := digitsOf_ne_nil value.digits
  unfold parts at hfraction hexponent
  simp only at hfraction hexponent
  split_ifs at hfraction hexponent with hfixed hsmall hwhole
  · simp [hne] at hfraction
  · have hdrop := List.drop_eq_nil_iff.mp hfraction
    omega

/-- The unsigned text of a finite float reads back as that float. -/
theorem parseNumber_finite (hooks : Hooks) (value : Finite) {rest : List Char}
    (h : Stops rest) :
    parseNumber hooks value.negative
        ((parts value).integer ++ ((if (parts value).fraction = [] then []
          else '.' :: (parts value).fraction) ++
          (((parts value).exponent.map renderExponent).getD [] ++ rest))) =
      (hooks.float (.finite value)).map fun decoded => (decoded, rest) := by
  have hexponent : exponentPart (((parts value).exponent.map renderExponent).getD [] ++ rest) =
      ((parts value).exponent, rest) := by
    cases hcase : (parts value).exponent with
    | none => exact exponentPart_of_stops h
    | some exponent => exact exponentPart_renderExponent exponent h
  have htail : ∀ c tail, ((parts value).exponent.map renderExponent).getD [] ++ rest = c :: tail →
      c.isDigit = false ∧ c ≠ '.' := by
    intro c tail heq
    cases hcase : (parts value).exponent with
    | none =>
        rw [hcase] at heq
        rcases h c tail heq with rfl | rfl | rfl <;> decide
    | some exponent =>
        rw [hcase] at heq
        obtain ⟨rfl, -⟩ := List.cons.inj (show 'e' :: _ = c :: tail from heq)
        decide
  have hfraction : fractionPart ((if (parts value).fraction = [] then []
      else '.' :: (parts value).fraction) ++
      (((parts value).exponent.map renderExponent).getD [] ++ rest)) =
      ((parts value).fraction, ((parts value).exponent.map renderExponent).getD [] ++ rest) := by
    by_cases hempty : (parts value).fraction = []
    · rw [if_pos hempty, hempty]
      exact fractionPart_of_ne_dot fun c tail heq => (htail c tail heq).2
    · rw [if_neg hempty]
      exact fractionPart_append hempty (fun c hc => parts_fraction_isDigit value hc)
        fun c tail heq => (htail c tail heq).1
  have hinteger : integerPart ((parts value).integer ++
      ((if (parts value).fraction = [] then [] else '.' :: (parts value).fraction) ++
        (((parts value).exponent.map renderExponent).getD [] ++ rest))) =
      some ((parts value).integer,
        (if (parts value).fraction = [] then [] else '.' :: (parts value).fraction) ++
          (((parts value).exponent.map renderExponent).getD [] ++ rest)) := by
    refine integerPart_append (parts_integer value) ?_
    intro c tail heq
    by_cases hempty : (parts value).fraction = []
    · rw [if_pos hempty] at heq
      exact (htail c tail heq).1
    · rw [if_neg hempty] at heq
      obtain ⟨rfl, -⟩ := List.cons.inj heq
      decide
  unfold parseNumber
  simp only [hinteger, hfraction, hexponent]
  rw [if_neg (parts_marked value), ofLiteral_parts]

/-- The digits of an integer read back as that integer. -/
theorem parseNumber_int (hooks : Hooks) (negative : Bool) {value : Nat} {rest : List Char}
    (h : Stops rest) (hlimit : (digitsOf value).length ≤ maxIntDigits) :
    parseNumber hooks negative (digitsOf value ++ rest) =
      some (.int ((if negative then -1 else 1) * (value : Int)), rest) := by
  have hinteger := integerPart_append (integerDigits_digitsOf value) h.not_digit
  have hfraction : fractionPart rest = ([], rest) :=
    fractionPart_of_ne_dot fun c tail heq => by
      rcases h c tail heq with rfl | rfl | rfl <;> decide
  unfold parseNumber
  simp only [hinteger, hfraction, exponentPart_of_stops h]
  rw [if_pos ⟨trivial, trivial⟩, if_pos hlimit, digitsValue_digitsOf]

theorem parseValue_digit {hooks : Hooks} {fuel : Nat} {c : Char} {rest : List Char}
    (hc : c.isDigit = true) :
    parseValue hooks (fuel + 1) (c :: rest) = parseNumber hooks false (c :: rest) := by
  rcases digit_cases hc with
    rfl | rfl | rfl | rfl | rfl | rfl | rfl | rfl | rfl | rfl <;> rfl

theorem parseValue_minus {hooks : Hooks} {fuel : Nat} {c : Char} {rest : List Char}
    (hc : c.isDigit = true) :
    parseValue hooks (fuel + 1) ('-' :: c :: rest) = parseNumber hooks true (c :: rest) := by
  rcases digit_cases hc with
    rfl | rfl | rfl | rfl | rfl | rfl | rfl | rfl | rfl | rfl <;> rfl

/-! ### Values -/

/-- Hooks that keep finite floats and build objects from distinct keys as they
are: the default reader, and any stricter one. -/
structure Hooks.Faithful (hooks : Hooks) : Prop where
  float : ∀ value, hooks.float (.finite value) = some (.float (.finite value))
  pairs : ∀ pairs, (keys pairs).Nodup → hooks.pairs pairs = some (.obj pairs)

theorem defaultHooks_faithful : defaultHooks.Faithful where
  float _ := rfl
  pairs pairs h := by
    change some (Document.obj (dictOf pairs)) = _
    rw [dictOf_of_nodup h]

mutual

/-- Hooks that read every part of a printed value as it is. -/
def Readable (hooks : Hooks) : Json → Prop
  | .int value => (digitsOf value.natAbs).length ≤ maxIntDigits
  | .float .nan => hooks.constant .nan = some (.float .nan)
  | .float (.infinity true) => hooks.constant .negativeInfinity = some (.float (.infinity true))
  | .float (.infinity false) => hooks.constant .infinity = some (.float (.infinity false))
  | .float (.finite value) => hooks.float (.finite value) = some (.float (.finite value))
  | .arr items => ReadableItems hooks items
  | .obj fields => hooks.pairs (Document.ofFields fields) = some (.ofJson (.obj fields)) ∧
      ReadableFields hooks fields
  | .null | .bool _ | .str _ => True

def ReadableItems (hooks : Hooks) : List Json → Prop
  | [] => True
  | item :: rest => Readable hooks item ∧ ReadableItems hooks rest

def ReadableFields (hooks : Hooks) : List (String × Json) → Prop
  | [] => True
  | (_, value) :: rest => Readable hooks value ∧ ReadableFields hooks rest

end

section Printed

variable {hooks : Hooks} {gap : List Char}

/-- A printed value starts with a character that is neither white space nor a
closing bracket. -/
theorem renderWith_head (gap : List Char) (value : Json) :
    ∃ c rest, renderWith gap value = c :: rest ∧ isSpace c = false ∧ c ≠ ']' := by
  have hdigits : ∀ n, ∃ c rest, digitsOf n = c :: rest ∧ isSpace c = false ∧ c ≠ ']' := by
    intro n
    obtain ⟨c, rest, hcons⟩ := List.exists_cons_of_ne_nil (digitsOf_ne_nil n)
    have hc : c.isDigit = true := digitsOf_isDigit (by rw [hcons]; exact List.mem_cons_self ..)
    refine ⟨c, rest, hcons, ?_⟩
    rcases digit_cases hc with
      rfl | rfl | rfl | rfl | rfl | rfl | rfl | rfl | rfl | rfl <;> decide
  cases value with
  | null => exact ⟨_, _, rfl, by decide⟩
  | bool b => cases b <;> exact ⟨_, _, rfl, by decide⟩
  | int n =>
      by_cases hneg : n < 0
      · exact ⟨'-', digitsOf n.natAbs, by simp [renderWith, renderInt, hneg], by decide⟩
      · simpa [renderWith, renderInt, hneg] using hdigits n.natAbs
  | float f =>
      cases f with
      | nan => exact ⟨_, _, rfl, by decide⟩
      | infinity negative => cases negative <;> exact ⟨_, _, rfl, by decide⟩
      | finite f =>
          by_cases hneg : f.negative = true
          · exact ⟨'-', _, by simp only [renderWith, renderFloat, renderFinite, hneg, if_true]; rfl,
              by decide⟩
          · obtain ⟨hdigit, hshape⟩ := parts_integer f
            obtain ⟨c, rest, hcons⟩ : ∃ c rest, (parts f).integer = c :: rest := by
              rcases hshape with hzero | ⟨first, rest, hcons, -⟩
              · exact ⟨_, _, hzero⟩
              · exact ⟨_, _, hcons⟩
            refine ⟨c, _, by
              simp only [renderWith, renderFloat, renderFinite, if_neg hneg, hcons]; rfl, ?_⟩
            have hc : c.isDigit = true := hdigit c (by rw [hcons]; exact List.mem_cons_self ..)
            rcases digit_cases hc with
              rfl | rfl | rfl | rfl | rfl | rfl | rfl | rfl | rfl | rfl <;> decide
  | str s => exact ⟨_, _, rfl, by decide⟩
  | arr items => cases items <;> exact ⟨_, _, by rw [renderWith], by decide⟩
  | obj fields => cases fields <;> exact ⟨_, _, by rw [renderWith], by decide⟩

theorem renderWith_length_pos (gap : List Char) (value : Json) :
    0 < (renderWith gap value).length := by
  obtain ⟨c, rest, hcons, -⟩ := renderWith_head gap value
  rw [hcons]
  exact Nat.succ_pos _

/-- A gap of white space is skipped. -/
theorem skipSpace_gap (hgap : ∀ c ∈ gap, isSpace c = true) (text : List Char) :
    skipSpace (gap ++ text) = skipSpace text :=
  List.dropWhile_append_of_pos hgap

theorem skipSpace_renderWith (gap : List Char) (value : Json) (rest : List Char) :
    skipSpace (renderWith gap value ++ rest) = renderWith gap value ++ rest := by
  obtain ⟨c, tail, hcons, hspace, -⟩ := renderWith_head gap value
  rw [hcons, List.cons_append, skipSpace, List.dropWhile_cons_of_neg (by simp [hspace])]

theorem skipSpace_renderString (value : String) (rest : List Char) :
    skipSpace (renderString value ++ rest) = renderString value ++ rest := rfl

theorem skipSpace_of_stops {rest : List Char} (h : Stops rest) : skipSpace rest = rest := by
  cases rest with
  | nil => rfl
  | cons c tail => rcases h c tail rfl with rfl | rfl | rfl <;> rfl

theorem stops_renderItemsWith (items : List Json) (rest : List Char) :
    Stops (renderItemsWith gap items ++ rest) := by
  intro c tail heq
  cases items with
  | nil => exact Or.inr (Or.inl (List.cons.inj heq).1.symm)
  | cons item items =>
      rw [renderItemsWith] at heq
      exact Or.inl (List.cons.inj heq).1.symm

theorem stops_renderFieldsWith (fields : List (String × Json)) (rest : List Char) :
    Stops (renderFieldsWith gap fields ++ rest) := by
  intro c tail heq
  cases fields with
  | nil => exact Or.inr (Or.inr (List.cons.inj heq).1.symm)
  | cons field fields =>
      obtain ⟨key, value⟩ := field
      rw [renderFieldsWith] at heq
      exact Or.inl (List.cons.inj heq).1.symm

theorem parseString_renderString (value : String) (rest : List Char) :
    ∃ body, renderString value ++ rest = '"' :: body ∧
      parseString body = some (points value, rest) := by
  refine ⟨value.toList.flatMap escapeChar ++ '"' :: rest, ?_, parseString_escaped _ _⟩
  simp [renderString]

/-- Reading a printed integer. -/
theorem parseValue_renderInt (hooks : Hooks) (value : Int) (fuel : Nat) {rest : List Char}
    (hlimit : (digitsOf value.natAbs).length ≤ maxIntDigits) (hrest : Stops rest) :
    parseValue hooks (fuel + 1) (renderInt value ++ rest) = some (.int value, rest) := by
  obtain ⟨c, tail, hcons⟩ := List.exists_cons_of_ne_nil (digitsOf_ne_nil value.natAbs)
  have hc : c.isDigit = true := digitsOf_isDigit (by rw [hcons]; exact List.mem_cons_self ..)
  rw [renderInt]
  split_ifs with hneg
  · have hnumber := parseNumber_int hooks true hrest hlimit
    rw [hcons, List.cons_append] at hnumber
    rw [hcons, List.cons_append, List.cons_append, parseValue_minus hc, hnumber]
    simp only [if_true, Option.some.injEq, Prod.mk.injEq, Document.int.injEq, and_true]
    omega
  · have hnumber := parseNumber_int hooks false hrest hlimit
    rw [hcons, List.cons_append] at hnumber
    rw [hcons, List.cons_append, parseValue_digit hc, hnumber]
    simp only [Bool.false_eq_true, if_false, Option.some.injEq, Prod.mk.injEq,
      Document.int.injEq, and_true]
    omega

/-- Reading a printed finite float. -/
theorem parseValue_renderFinite {value : Finite} (fuel : Nat) {rest : List Char}
    (hfloat : hooks.float (.finite value) = some (.float (.finite value))) (hrest : Stops rest) :
    parseValue hooks (fuel + 1) (renderFinite value ++ rest) =
      some (.float (.finite value), rest) := by
  obtain ⟨hdigit, hshape⟩ := parts_integer value
  obtain ⟨c, tail, hcons⟩ : ∃ c tail, (parts value).integer = c :: tail := by
    rcases hshape with hzero | ⟨first, tail, hcons, -⟩
    · exact ⟨_, _, hzero⟩
    · exact ⟨_, _, hcons⟩
  have hc : c.isDigit = true := hdigit c (by rw [hcons]; exact List.mem_cons_self ..)
  have hnumber := parseNumber_finite hooks value hrest
  rw [hcons, List.cons_append, hfloat] at hnumber
  rw [renderFinite, hcons]
  cases hneg : value.negative with
  | true =>
      rw [hneg] at hnumber
      simp only [if_true, List.append_assoc, List.cons_append, List.nil_append]
      rw [parseValue_minus hc]
      simpa using hnumber
  | false =>
      rw [hneg] at hnumber
      simp only [Bool.false_eq_true, if_false, List.append_assoc, List.cons_append,
        List.nil_append]
      rw [parseValue_digit hc]
      simpa using hnumber

mutual

/-- Reading a printed value gives the value, whatever follows and whatever white space stands
after the separators. -/
theorem parseValue_renderWith (hgap : ∀ c ∈ gap, isSpace c = true) :
    ∀ (value : Json) (fuel : Nat) (rest : List Char), Readable hooks value →
      (renderWith gap value).length ≤ fuel → Stops rest →
      parseValue hooks fuel (renderWith gap value ++ rest) = some (.ofJson value, rest)
  | value, 0, rest, _, hfuel, _ => by
      have hpos := renderWith_length_pos gap value
      omega
  | .null, fuel + 1, rest, _, _, _ => by rfl
  | .bool true, fuel + 1, rest, _, _, _ => by rfl
  | .bool false, fuel + 1, rest, _, _, _ => by rfl
  | .int value, fuel + 1, rest, hreadable, _, hrest =>
      parseValue_renderInt hooks value fuel hreadable hrest
  | .float .nan, fuel + 1, rest, hreadable, _, _ => by
      show (hooks.constant .nan).map (fun value => (value, rest)) = _
      rw [Readable] at hreadable
      rw [hreadable]
      rfl
  | .float (.infinity true), fuel + 1, rest, hreadable, _, _ => by
      show (hooks.constant .negativeInfinity).map (fun value => (value, rest)) = _
      rw [Readable] at hreadable
      rw [hreadable]
      rfl
  | .float (.infinity false), fuel + 1, rest, hreadable, _, _ => by
      show (hooks.constant .infinity).map (fun value => (value, rest)) = _
      rw [Readable] at hreadable
      rw [hreadable]
      rfl
  | .float (.finite value), fuel + 1, rest, hreadable, _, hrest =>
      parseValue_renderFinite fuel hreadable hrest
  | .str s, fuel + 1, rest, _, _, _ => by
      obtain ⟨body, hbody, hparse⟩ := parseString_renderString s rest
      rw [renderWith, hbody]
      change (parseString body).map (fun chars : List CodePoint × List Char =>
        (Document.str chars.1, chars.2)) = _
      rw [hparse]
      rfl
  | .arr [], fuel + 1, rest, _, _, _ => by rfl
  | .arr (item :: items), fuel + 1, rest, hreadable, hfuel, hrest => by
      rw [Readable, ReadableItems] at hreadable
      rw [renderWith, List.length_cons] at hfuel
      have hitems := parseItems_renderWith hgap item items fuel rest hreadable.1 hreadable.2
        (by omega)
      obtain ⟨c, tail, hcons, hspace, hbracket⟩ := renderWith_head gap item
      rw [renderWith, List.cons_append]
      change (match skipSpace (renderWith gap item ++ renderItemsWith gap items ++ rest) with
        | ']' :: rest' => some (Document.arr [], rest')
        | rest' => (parseItems hooks fuel rest').map
            fun body : List Document × List Char => (Document.arr body.1, body.2)) = _
      rw [List.append_assoc] at hitems ⊢
      rw [skipSpace_renderWith]
      rw [hcons] at hitems ⊢
      split
      · rename_i heq
        exact absurd (List.cons.inj heq).1 hbracket
      · rw [hitems]
        rfl
  | .obj [], fuel + 1, rest, hreadable, _, _ => by
      rw [Readable, Document.ofFields] at hreadable
      change (hooks.pairs []).map _ = _
      rw [hreadable.1]
      rfl
  | .obj ((key, value) :: fields), fuel + 1, rest, hreadable, hfuel, hrest => by
      rw [Readable, ReadableFields] at hreadable
      rw [renderWith, List.length_cons] at hfuel
      have hfields := parsePairs_renderWith hgap key value fields fuel rest hreadable.2.1
        hreadable.2.2 (by omega)
      rw [renderWith, List.cons_append]
      have hquote : ∃ tail, renderString key ++ ':' :: (gap ++ (renderWith gap value ++
          renderFieldsWith gap fields)) ++ rest = '"' :: tail := ⟨_, rfl⟩
      obtain ⟨tail, htail⟩ := hquote
      rw [htail] at hfields ⊢
      change ((parsePairs hooks fuel ('"' :: tail)).bind fun body =>
        (hooks.pairs body.1).map fun value => (value, body.2)) = _
      rw [hfields]
      simp only [Option.bind_some]
      rw [hreadable.1]
      rfl

theorem parseItems_renderWith (hgap : ∀ c ∈ gap, isSpace c = true) :
    ∀ (item : Json) (items : List Json) (fuel : Nat) (rest : List Char), Readable hooks item →
      ReadableItems hooks items →
      (renderWith gap item ++ renderItemsWith gap items).length ≤ fuel →
      parseItems hooks fuel (renderWith gap item ++ renderItemsWith gap items ++ rest) =
        some (Document.ofItems (item :: items), rest)
  | item, items, 0, rest, _, _, hfuel => by
      have hpos := renderWith_length_pos gap item
      rw [List.length_append] at hfuel
      omega
  | item, items, fuel + 1, rest, hreadable, hreadables, hfuel => by
      rw [List.length_append] at hfuel
      have hclose : 1 ≤ (renderItemsWith gap items).length := by
        cases items <;> simp [renderItemsWith]
      have hvalue := parseValue_renderWith hgap item fuel (renderItemsWith gap items ++ rest)
        hreadable (by omega) (stops_renderItemsWith items rest)
      rw [List.append_assoc, parseItems, hvalue]
      simp only
      rw [skipSpace_of_stops (stops_renderItemsWith items rest)]
      match items, hreadables, hfuel with
      | [], _, _ => rfl
      | next :: others, hreadables, hfuel =>
          simp only [renderItemsWith, List.length_cons, List.length_append] at hfuel
          have hnext := parseItems_renderWith hgap next others fuel rest hreadables.1
            hreadables.2 (by rw [List.length_append]; omega)
          rw [renderItemsWith, List.cons_append]
          simp only
          rw [List.append_assoc] at hnext
          rw [List.append_assoc, List.append_assoc, skipSpace_gap hgap, skipSpace_renderWith, hnext]
          rfl

theorem parsePairs_renderWith (hgap : ∀ c ∈ gap, isSpace c = true) :
    ∀ (key : String) (value : Json) (fields : List (String × Json)) (fuel : Nat)
      (rest : List Char), Readable hooks value → ReadableFields hooks fields →
      (renderString key ++ ':' :: (gap ++ (renderWith gap value ++
        renderFieldsWith gap fields))).length ≤ fuel →
      parsePairs hooks fuel
          (renderString key ++ ':' :: (gap ++ (renderWith gap value ++
            renderFieldsWith gap fields)) ++ rest) =
        some (Document.ofFields ((key, value) :: fields), rest)
  | key, value, fields, 0, rest, _, _, hfuel => by simp at hfuel
  | key, value, fields, fuel + 1, rest, hreadable, hreadables, hfuel => by
      simp only [List.length_append, List.length_cons] at hfuel
      have hclose : 1 ≤ (renderFieldsWith gap fields).length := by
        cases fields <;> simp [renderFieldsWith]
      have hvalue := parseValue_renderWith hgap value fuel (renderFieldsWith gap fields ++ rest)
        hreadable (by omega) (stops_renderFieldsWith fields rest)
      obtain ⟨body, hbody, hparse⟩ := parseString_renderString key
        (':' :: (gap ++ (renderWith gap value ++ renderFieldsWith gap fields) ++ rest))
      rw [List.append_assoc, List.cons_append, hbody, parsePairs]
      simp only [hparse]
      rw [show skipSpace (':' :: (gap ++ (renderWith gap value ++ renderFieldsWith gap fields) ++
          rest)) = ':' :: (gap ++ (renderWith gap value ++ renderFieldsWith gap fields) ++ rest)
        from rfl]
      simp only
      rw [List.append_assoc, List.append_assoc, skipSpace_gap hgap, skipSpace_renderWith, hvalue]
      simp only
      rw [skipSpace_of_stops (stops_renderFieldsWith fields rest)]
      match fields, hreadables, hfuel with
      | [], _, _ => rfl
      | (nextKey, next) :: others, hreadables, hfuel =>
          simp only [renderFieldsWith, List.length_cons, List.length_append] at hfuel
          have hnext := parsePairs_renderWith hgap nextKey next others fuel rest hreadables.1
            hreadables.2 (by simp only [List.length_append, List.length_cons]; omega)
          rw [renderFieldsWith, List.cons_append]
          simp only
          rw [List.append_assoc] at hnext
          rw [List.append_assoc, List.append_assoc, skipSpace_gap hgap, skipSpace_renderString,
            hnext]
          rfl

end

/-- **Reading a document.** -/
theorem loadsWith_renderWith (hgap : ∀ c ∈ gap, isSpace c = true) {value : Json}
    (h : Readable hooks value) :
    loadsWith hooks (String.ofList (renderWith gap value)) = some (.ofJson value) := by
  have hstops : Stops [] := by
    intro c tail heq
    cases heq
  have hskip := skipSpace_renderWith gap value []
  have hparse := parseValue_renderWith hgap value ((renderWith gap value).length + 1) [] h
    (Nat.le_succ _) hstops
  simp only [List.append_nil] at hskip hparse
  unfold loadsWith
  rw [String.toList_ofList, hskip, hparse]
  rfl

end Printed

/-- A document that is a value loads as that value. -/
theorem loads_of_loadsWith {text : String} {value : Json}
    (h : loadsWith defaultHooks text = some (.ofJson value)) : loads text = some value := by
  unfold loads
  rw [h, Option.bind_some, Document.toJson_ofJson]

/-! ### Compact text -/

mutual

/-- The compact text is the one without gaps. -/
theorem renderWith_nil : ∀ value, renderWith [] value = render value
  | .null | .bool true | .bool false | .int _ | .float _ | .str _ | .arr [] | .obj [] => rfl
  | .arr (item :: rest) => by
      rw [renderWith, render, renderWith_nil item, renderItemsWith_nil rest]
  | .obj ((key, value) :: rest) => by
      rw [renderWith, render, renderWith_nil value, renderFieldsWith_nil rest, List.nil_append]

theorem renderItemsWith_nil : ∀ items, renderItemsWith [] items = renderItems items
  | [] => rfl
  | item :: rest => by
      rw [renderItemsWith, renderItems, renderWith_nil item, renderItemsWith_nil rest,
        List.nil_append]

theorem renderFieldsWith_nil : ∀ fields, renderFieldsWith [] fields = renderFields fields
  | [] => rfl
  | (key, value) :: rest => by
      rw [renderFieldsWith, renderFields, renderWith_nil value, renderFieldsWith_nil rest,
        List.nil_append, List.nil_append]

end

mutual

/-- Faithful hooks read canonical values. -/
theorem readable_of_canonical {hooks : Hooks} (hhooks : hooks.Faithful) :
    ∀ value, Canonical value → printable value = true → Readable hooks value
  | .null, _, _ | .bool _, _, _ | .str _, _, _ => trivial
  | .int value, _, hprintable => by
      rw [printable, decide_eq_true_eq] at hprintable
      exact hprintable
  | .float (.finite value), _, _ => hhooks.float value
  | .arr items, hcanonical, hprintable =>
      readableItems_of_canonical hhooks items hcanonical hprintable
  | .obj fields, hcanonical, hprintable =>
      ⟨hhooks.pairs _ (Document.nodup_keys_ofFields hcanonical.1.keys_nodup),
        readableFields_of_canonical hhooks fields hcanonical.2 hprintable⟩

theorem readableItems_of_canonical {hooks : Hooks} (hhooks : hooks.Faithful) :
    ∀ items, CanonicalItems items → printableItems items = true → ReadableItems hooks items
  | [], _, _ => trivial
  | item :: rest, hcanonical, hprintable => by
      rw [printableItems, Bool.and_eq_true] at hprintable
      exact ⟨readable_of_canonical hhooks item hcanonical.1 hprintable.1,
        readableItems_of_canonical hhooks rest hcanonical.2 hprintable.2⟩

theorem readableFields_of_canonical {hooks : Hooks} (hhooks : hooks.Faithful) :
    ∀ fields, CanonicalFields fields → printableFields fields = true →
      ReadableFields hooks fields
  | [], _, _ => trivial
  | (key, value) :: rest, hcanonical, hprintable => by
      rw [printableFields, Bool.and_eq_true] at hprintable
      exact ⟨readable_of_canonical hhooks value hcanonical.1 hprintable.1,
        readableFields_of_canonical hhooks rest hcanonical.2 hprintable.2⟩

end

/-! ### Documents -/

theorem printableFields_insertField {key : String} {value : Json}
    {fields : List (String × Json)} (hvalue : printable value = true)
    (h : printableFields fields = true) :
    printableFields (insertField key value fields) = true := by
  induction fields with
  | nil => simpa [insertField, printableFields] using hvalue
  | cons field rest ih =>
      obtain ⟨k, old⟩ := field
      have hboth := h
      rw [printableFields, Bool.and_eq_true] at hboth
      simp only [insertField]
      split_ifs with hlt heq
      · rw [printableFields, hvalue, h]
        rfl
      · rw [printableFields, hvalue, hboth.2]
        rfl
      · rw [printableFields, hboth.1, ih hboth.2]
        rfl

theorem printableFields_sortFields {fields : List (String × Json)}
    (h : printableFields fields = true) : printableFields (sortFields fields) = true := by
  suffices ∀ done, printableFields done = true →
      printableFields
        (fields.foldl (fun sorted field => insertField field.1 field.2 sorted) done) = true from
    this [] rfl
  induction fields with
  | nil =>
      intro done hdone
      exact hdone
  | cons field rest ih =>
      intro done hdone
      obtain ⟨key, value⟩ := field
      rw [printableFields, Bool.and_eq_true] at h
      exact ih h.2 _ (printableFields_insertField h.1 hdone)

mutual

theorem printable_canon : ∀ value, printable value = true → printable (canon value) = true
  | .null, h | .bool _, h | .int _, h | .float _, h | .str _, h => by simpa [canon] using h
  | .arr items, h => by
      rw [canon, printable]
      exact printableItems_canonItems items (by simpa [printable] using h)
  | .obj fields, h => by
      rw [canon, printable]
      exact printableFields_sortFields
        (printableFields_canonFields fields (by simpa [printable] using h))

theorem printableItems_canonItems :
    ∀ items, printableItems items = true → printableItems (canonItems items) = true
  | [], _ => rfl
  | item :: rest, h => by
      rw [printableItems, Bool.and_eq_true] at h
      rw [canonItems, printableItems, printable_canon item h.1,
        printableItems_canonItems rest h.2]
      rfl

theorem printableFields_canonFields :
    ∀ fields, printableFields fields = true → printableFields (canonFields fields) = true
  | [], _ => rfl
  | (key, value) :: rest, h => by
      rw [printableFields, Bool.and_eq_true] at h
      rw [canonFields, printableFields, printable_canon value h.1,
        printableFields_canonFields rest h.2]
      rfl

end

/-- **Round trip.**  A printed value reads back as its canonical form, with any
faithful hooks. -/
theorem loadsWith_dumps {hooks : Hooks} (hhooks : hooks.Faithful) {value : Json}
    {text : String} (h : dumps value = some text) :
    loadsWith hooks text = some (.ofJson (canon value)) := by
  unfold dumps at h
  split_ifs at h with hprintable
  obtain rfl := Option.some.inj h
  have hreadable : Readable hooks (canon value) :=
    readable_of_canonical hhooks _ (canon_canonical value) (printable_canon value hprintable)
  rw [← renderWith_nil]
  exact loadsWith_renderWith (fun c hc => absurd hc List.not_mem_nil) hreadable

/-- The default reader inverts the printer up to the order of keys. -/
theorem loads_dumps {value : Json} {text : String} (h : dumps value = some text) :
    loads text = some (canon value) :=
  loads_of_loadsWith (loadsWith_dumps defaultHooks_faithful h)

/-- Equal texts come from values with one canonical form. -/
theorem dumps_injective {left right : Json} {text : String}
    (hleft : dumps left = some text) (hright : dumps right = some text) :
    canon left = canon right := by
  have := (loads_dumps hleft).symm.trans (loads_dumps hright)
  exact Option.some.inj this

end Json
end Foundation
end Ryuk

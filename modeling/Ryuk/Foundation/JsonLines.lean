import Ryuk.Foundation.JsonRoundTrip

/-!
# A JSON text is one line

The compact printer escapes the control characters of strings and writes no white
space of its own, so its texts contain no line break.  What was put before such a text
up to a line break can be told from it: the text is what follows the last line break.
-/

namespace Ryuk
namespace Foundation
namespace Json

open Decimal

/-! ### Printed texts -/

/-- Characters none of which ends a line. -/
def OneLine (text : List Char) : Prop := '\n' ∉ text

instance (text : List Char) : Decidable (OneLine text) :=
  inferInstanceAs (Decidable ('\n' ∉ text))

theorem oneLine_append {first second : List Char} :
    OneLine (first ++ second) ↔ OneLine first ∧ OneLine second := by
  unfold OneLine
  rw [List.mem_append, not_or]

theorem oneLine_cons {c : Char} {rest : List Char} :
    OneLine (c :: rest) ↔ c ≠ '\n' ∧ OneLine rest := by
  unfold OneLine
  rw [List.mem_cons, not_or]
  exact and_congr_left fun _ => ne_comm

theorem oneLine_nil : OneLine [] := List.not_mem_nil

theorem oneLine_digits {digits : List Char} (h : ∀ c ∈ digits, c.isDigit = true) :
    OneLine digits := by
  intro hmem
  have hdigit := h _ hmem
  revert hdigit
  decide

theorem oneLine_digitsOf (value : Nat) : OneLine (digitsOf value) :=
  oneLine_digits fun _ hc => digitsOf_isDigit hc

theorem hexDigit_ne (n : Nat) : hexDigit (n % 16) ≠ '\n' := by
  have hall : ∀ digit < 16, hexDigit digit ≠ '\n' := by decide
  exact hall _ (Nat.mod_lt _ (by omega))

theorem oneLine_escapeUnit (unit : Nat) : OneLine (escapeUnit unit) := by
  unfold escapeUnit hex4
  simp only [oneLine_cons]
  exact ⟨by decide, by decide, hexDigit_ne _, hexDigit_ne _, hexDigit_ne _, hexDigit_ne _,
    oneLine_nil⟩

theorem oneLine_pair {first second : Char} (hfirst : first ≠ '\n') (hsecond : second ≠ '\n') :
    OneLine [first, second] := by
  simp only [oneLine_cons]
  exact ⟨hfirst, hsecond, oneLine_nil⟩

theorem oneLine_escapeChar (c : Char) : OneLine (escapeChar c) := by
  unfold escapeChar
  split_ifs with hquote hslash hline
  · exact oneLine_pair (by decide) (by decide)
  · exact oneLine_pair (by decide) (by decide)
  · exact oneLine_pair (by decide) (by decide)
  · exact oneLine_pair (by decide) (by decide)
  · exact oneLine_pair (by decide) (by decide)
  · exact oneLine_pair (by decide) (by decide)
  · exact oneLine_pair (by decide) (by decide)
  · -- a character that stands for itself is not the line break
    simp only [oneLine_cons]
    exact ⟨hline, oneLine_nil⟩
  · exact oneLine_escapeUnit _
  · rw [oneLine_append]
    exact ⟨oneLine_escapeUnit _, oneLine_escapeUnit _⟩

theorem oneLine_renderString (value : String) : OneLine (renderString value) := by
  unfold renderString
  rw [oneLine_cons, oneLine_append]
  refine ⟨by decide, ?_, by decide⟩
  intro hmem
  obtain ⟨c, -, hc⟩ := List.mem_flatMap.mp hmem
  exact oneLine_escapeChar c hc

theorem oneLine_renderInt (value : Int) : OneLine (renderInt value) := by
  unfold renderInt
  split_ifs
  · rw [oneLine_cons]
    exact ⟨by decide, oneLine_digitsOf _⟩
  · exact oneLine_digitsOf _

theorem oneLine_renderExponent (exponent : Int) : OneLine (renderExponent exponent) := by
  unfold renderExponent
  rw [oneLine_cons, oneLine_cons, oneLine_append]
  refine ⟨by decide, ?_, ?_, oneLine_digitsOf _⟩
  · split_ifs
    · decide
    · decide
  · intro hmem
    exact absurd (List.eq_of_mem_replicate hmem) (by decide)

theorem oneLine_renderFinite (value : Finite) : OneLine (renderFinite value) := by
  unfold renderFinite
  rw [oneLine_append, oneLine_append, oneLine_append]
  refine ⟨⟨⟨?_, oneLine_digits (parts_integer value).1⟩, ?_⟩, ?_⟩
  · split_ifs
    · decide
    · exact oneLine_nil
  · split_ifs
    · exact oneLine_nil
    · rw [oneLine_cons]
      exact ⟨by decide, oneLine_digits fun c hc => parts_fraction_isDigit value hc⟩
  · cases (parts value).exponent with
    | none => exact oneLine_nil
    | some exponent => exact oneLine_renderExponent exponent

theorem oneLine_renderFloat (value : Decimal.Float) : OneLine (renderFloat value) := by
  cases value with
  | nan => decide
  | infinity negative => cases negative <;> decide
  | finite value => exact oneLine_renderFinite value

mutual

/-- **One line.**  A printed value contains no line break. -/
theorem oneLine_render : ∀ value, OneLine (render value)
  | .null => by decide
  | .bool true => by decide
  | .bool false => by decide
  | .int value => by
      rw [render]
      exact oneLine_renderInt value
  | .float value => by
      rw [render]
      exact oneLine_renderFloat value
  | .str value => by
      rw [render]
      exact oneLine_renderString value
  | .arr [] => by decide
  | .arr (item :: rest) => by
      rw [render, oneLine_cons, oneLine_append]
      exact ⟨by decide, oneLine_render item, oneLine_renderItems rest⟩
  | .obj [] => by decide
  | .obj ((key, value) :: rest) => by
      rw [render, oneLine_cons, oneLine_append, oneLine_cons, oneLine_append]
      exact ⟨by decide, oneLine_renderString key, by decide, oneLine_render value,
        oneLine_renderFields rest⟩

theorem oneLine_renderItems : ∀ items, OneLine (renderItems items)
  | [] => by decide
  | item :: rest => by
      rw [renderItems, oneLine_cons, oneLine_append]
      exact ⟨by decide, oneLine_render item, oneLine_renderItems rest⟩

theorem oneLine_renderFields : ∀ fields, OneLine (renderFields fields)
  | [] => by decide
  | (key, value) :: rest => by
      rw [renderFields, oneLine_cons, oneLine_append, oneLine_cons, oneLine_append]
      exact ⟨by decide, oneLine_renderString key, by decide, oneLine_render value,
        oneLine_renderFields rest⟩

end

theorem oneLine_dumps {value : Json} {text : String} (h : dumps value = some text) :
    OneLine text.toList := by
  unfold dumps at h
  split_ifs at h
  obtain rfl := Option.some.inj h
  rw [String.toList_ofList]
  exact oneLine_render _

/-! ### The last line -/

/-- What follows the last line break of a text is determined by the text. -/
theorem lastLine_injective {before before' line line' : List Char} (hline : OneLine line)
    (hline' : OneLine line') (h : before ++ '\n' :: line = before' ++ '\n' :: line') :
    before = before' ∧ line = line' := by
  induction before generalizing before' with
  | nil =>
      cases before' with
      | nil => exact ⟨rfl, (List.cons.inj h).2⟩
      | cons c rest =>
          -- the other line break would be inside this line
          have hmem : '\n' ∈ line := by
            rw [(List.cons.inj h).2]
            exact List.mem_append_right _ (List.mem_cons_self ..)
          exact absurd hmem hline
  | cons c rest ih =>
      cases before' with
      | nil =>
          have hmem : '\n' ∈ line' := by
            rw [← (List.cons.inj h).2]
            exact List.mem_append_right _ (List.mem_cons_self ..)
          exact absurd hmem hline'
      | cons c' rest' =>
          obtain ⟨rfl, htail⟩ := List.cons.inj h
          obtain ⟨rfl, rfl⟩ := ih htail
          exact ⟨rfl, rfl⟩

end Json
end Foundation
end Ryuk

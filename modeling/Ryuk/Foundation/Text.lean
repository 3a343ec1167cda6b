import Mathlib.Tactic
import Mathlib.Data.List.TakeWhile

/-!
# White space in text

The white-space characters of Unicode as a dynamic language's string methods see
them, and the two tests built on them: a string is blank when it has nothing but
white space, and trimmed when stripping it changes nothing.
-/

namespace Ryuk
namespace Foundation
namespace Text

/-- Whether `str.isspace` holds of a character. -/
def isSpace (c : Char) : Bool :=
  let code := c.toNat
  (decide (9 ≤ code) && decide (code ≤ 13)) || (decide (28 ≤ code) && decide (code ≤ 32)) ||
    decide (code = 0x85) || decide (code = 0xA0) || decide (code = 0x1680) ||
    (decide (0x2000 ≤ code) && decide (code ≤ 0x200A)) || decide (code = 0x2028) ||
    decide (code = 0x2029) || decide (code = 0x202F) || decide (code = 0x205F) ||
    decide (code = 0x3000)

/-- A list of characters without its outer white space. -/
def stripChars (text : List Char) : List Char :=
  ((text.dropWhile isSpace).reverse.dropWhile isSpace).reverse

/-- `value.strip()`. -/
def strip (value : String) : String := String.ofList (stripChars value.toList)

/-- `not value.strip()`: nothing but white space. -/
def isBlank (value : String) : Bool := decide (strip value = "")

theorem isBlank_iff (value : String) :
    isBlank value = true ↔ ∀ c ∈ value.toList, isSpace c = true := by
  unfold isBlank strip stripChars
  rw [decide_eq_true_eq, String.ofList_eq_empty_iff, List.reverse_eq_nil_iff,
    List.dropWhile_eq_nil_iff]
  constructor
  · intro h
    by_contra hne
    push Not at hne
    have hrest : value.toList.dropWhile isSpace ≠ [] := by
      rw [Ne, List.dropWhile_eq_nil_iff]
      push Not
      exact hne
    -- the first character that is left is not white space
    have hhead := List.head_dropWhile_not isSpace hrest
    rw [h _ (List.mem_reverse.mpr (List.head_mem hrest))] at hhead
    cases hhead
  · intro h c hc
    exact h c ((List.dropWhile_sublist _).subset (List.mem_reverse.mp hc))

/-- An empty string is blank. -/
@[simp] theorem isBlank_empty : isBlank "" = true := by decide

end Text
end Foundation
end Ryuk

import Mathlib.Tactic
import Ryuk.Foundation.Decimal

/-!
# Rounded arithmetic

Floating-point values as exact rationals, an infinity or a not-a-number.  `Rounding` is what
the results rely on about the rounding to the nearest double: small integers are represented,
and a value between two represented ones is rounded to a value between them.  Exact
arithmetic is one such rounding.

The rounding to the nearest integer, ties to even, is that of `Decimal`.
-/

namespace Ryuk
namespace Foundation

open Decimal (roundHalfEven)

/-! ### Rounding to an integer -/

/-- A rounded value is one of the two integers around it. -/
theorem roundHalfEven_cases (value : ℚ) :
    roundHalfEven value = ⌊value⌋ ∨
      (roundHalfEven value = ⌊value⌋ + 1 ∧ (1 : ℚ) / 2 ≤ value - ⌊value⌋) := by
  unfold roundHalfEven
  dsimp only
  split_ifs with hlow hhigh heven
  · exact Or.inl rfl
  · exact Or.inr ⟨rfl, hhigh.le⟩
  · exact Or.inl rfl
  · exact Or.inr ⟨rfl, not_lt.mp hlow⟩

theorem le_roundHalfEven {value : ℚ} {bound : ℤ} (h : (bound : ℚ) ≤ value) :
    bound ≤ roundHalfEven value := by
  have hfloor : bound ≤ ⌊value⌋ := Int.le_floor.mpr h
  rcases roundHalfEven_cases value with hround | ⟨hround, -⟩
  · omega
  · omega

theorem roundHalfEven_le {value : ℚ} {bound : ℤ} (h : value ≤ (bound : ℚ)) :
    roundHalfEven value ≤ bound := by
  have hfloor : ⌊value⌋ ≤ bound := by
    exact_mod_cast (Int.floor_le value).trans h
  rcases roundHalfEven_cases value with hround | ⟨hround, hhalf⟩
  · omega
  · -- the value is strictly above its floor, so the floor is below the bound
    have hlt : ((⌊value⌋ : ℤ) : ℚ) < (bound : ℚ) := by linarith
    have hless : ⌊value⌋ < bound := by exact_mod_cast hlt
    omega

@[simp] theorem roundHalfEven_intCast (value : ℤ) : roundHalfEven (value : ℚ) = value :=
  le_antisymm (roundHalfEven_le le_rfl) (le_roundHalfEven le_rfl)

example : roundHalfEven (35 / 2) = 18 ∧ roundHalfEven (33 / 2) = 16 := by decide +kernel

/-! ### Floating-point values -/

/-- A floating-point value. -/
inductive Double where
  | nan
  | infinite (negative : Bool)
  | finite (value : ℚ)
  deriving DecidableEq

/-- A finite value between two integers. -/
def Double.Within (low high : ℤ) (value : Double) : Prop :=
  ∃ exact : ℚ, value = .finite exact ∧ (low : ℚ) ≤ exact ∧ exact ≤ high

/-- The rounding of an exact result; nothing where the result is too large. -/
structure Rounding where
  nearest : ℚ → Option ℚ
  small : ∀ value : ℤ, |value| ≤ 2 ^ 53 → nearest value = some value
  between : ∀ low value high, nearest low = some low → nearest high = some high →
    low ≤ value → value ≤ high → ∃ rounded, nearest value = some rounded ∧
      low ≤ rounded ∧ rounded ≤ high

namespace Rounding

/-- Exact arithmetic. -/
def exact : Rounding where
  nearest := some
  small _ _ := rfl
  between _ value _ _ _ hlow hhigh := ⟨value, rfl, hlow, hhigh⟩

variable (rounding : Rounding)

/-- The value of an exact result. -/
def ofExact (value : ℚ) : Double :=
  match rounding.nearest value with
  | some rounded => .finite rounded
  | none => .infinite (decide (value < 0))

/-- `number - value`. -/
def subFrom (number : ℚ) : Double → Double
  | .nan => .nan
  | .infinite negative => .infinite (!negative)
  | .finite value => rounding.ofExact (number - value)

/-- `number * value`, for a positive number. -/
def scale (number : ℚ) : Double → Double
  | .nan => .nan
  | .infinite negative => .infinite negative
  | .finite value => rounding.ofExact (number * value)

/-- Between two small integers every exact result has a value. -/
theorem ofExact_within (low high : ℤ) (value : ℚ) (hlow : |low| ≤ 2 ^ 53) (hhigh : |high| ≤ 2 ^ 53)
    (hle : (low : ℚ) ≤ value) (hge : value ≤ high) :
    (rounding.ofExact value).Within low high := by
  obtain ⟨rounded, hnearest, hbelow, habove⟩ :=
    rounding.between low value high (rounding.small low hlow) (rounding.small high hhigh) hle hge
  unfold ofExact
  rw [hnearest]
  exact ⟨rounded, rfl, hbelow, habove⟩

end Rounding

end Foundation
end Ryuk

import Mathlib.Data.Int.Log
import Ryuk.Foundation.Rounding

/-!
# Doubles

The rounding of an exact value to the nearest double, ties to even, over the rationals.
A double is an integer of 53 bits times a power of two from `2 ^ -1074` on; how large it may
be is left to `rounding`, where a value that is too large has none.  A represented value on
one side of an exact value is on that side of its rounding too, and the difference of two
represented values that are within a factor of two is represented.
-/

namespace Ryuk
namespace Foundation
namespace Binary64

open Decimal (roundHalfEven)

/-- The values that have at most 53 significant bits. -/
def Represented (value : ℚ) : Prop :=
  ∃ significand exponent : ℤ, |significand| ≤ 2 ^ 53 ∧ -1074 ≤ exponent ∧
    value = significand * 2 ^ exponent

/-- The exponent of the last place of the doubles around a value. -/
def lastPlace (value : ℚ) : ℤ := max (Int.log 2 |value| - 52) (-1074)

/-- The distance between the doubles around a value. -/
def unit (value : ℚ) : ℚ := 2 ^ lastPlace value

/-- The nearest double, if the range is unbounded. -/
def nearest (value : ℚ) : ℚ := roundHalfEven (value / unit value) * unit value

-- the half unit goes to the even neighbour
example : nearest (2 ^ 53 + 1) = 2 ^ 53 ∧ nearest (1 / 10) = 3602879701896397 / 2 ^ 55 := by
  decide +kernel

theorem unit_pos (value : ℚ) : 0 < unit value := zpow_pos (by norm_num) _

theorem Represented.neg {value : ℚ} (h : Represented value) : Represented (-value) := by
  obtain ⟨significand, exponent, hsignificand, hexponent, rfl⟩ := h
  refine ⟨-significand, exponent, (abs_neg significand).le.trans hsignificand, hexponent, ?_⟩
  push_cast
  ring

theorem represented_intCast {value : ℤ} (h : |value| ≤ 2 ^ 53) : Represented (value : ℚ) :=
  ⟨value, 0, h, by norm_num, by simp⟩

/-! ### The grid around a value -/

/-- A value is less than `2 ^ 53` units. -/
theorem abs_lt_units (value : ℚ) : |value| < 2 ^ 53 * unit value := by
  have hlog : |value| < (2 : ℚ) ^ (Int.log 2 |value| + 1) := Int.lt_zpow_succ_log_self (by norm_num) _
  have hplace : Int.log 2 |value| + 1 ≤ 53 + lastPlace value := by
    have hle : Int.log 2 |value| - 52 ≤ lastPlace value := le_max_left _ _
    omega
  calc |value| < (2 : ℚ) ^ (Int.log 2 |value| + 1) := hlog
    _ ≤ 2 ^ (53 + lastPlace value) := zpow_le_zpow_right₀ (by norm_num) hplace
    _ = 2 ^ 53 * unit value := by
        rw [zpow_add₀ (by norm_num)]
        rfl

/-- A value with few bits after the point is a whole number of any finer unit. -/
theorem whole_units {base exponent : ℤ} (significand : ℤ) (h : base ≤ exponent) :
    ∃ count : ℤ, (significand : ℚ) * 2 ^ exponent = count * 2 ^ base := by
  refine ⟨significand * 2 ^ (exponent - base).toNat, ?_⟩
  have hexponent : exponent = (exponent - base).toNat + base := by omega
  conv_lhs => rw [hexponent, zpow_add₀ (by norm_num), zpow_natCast]
  push_cast
  ring

/-- A represented value with more bits after the point is nearer to zero. -/
theorem finer_le {value : ℚ} {significand exponent : ℤ} (hvalue : value ≠ 0)
    (hsignificand : |significand| ≤ 2 ^ 53) (hlow : -1074 ≤ exponent)
    (h : exponent < lastPlace value) :
    |(significand : ℚ) * 2 ^ exponent| ≤ 2 ^ 52 * unit value ∧ 2 ^ 52 * unit value ≤ |value| := by
  -- the last place is above the least one, so it is that of the binade
  have hplace : lastPlace value = Int.log 2 |value| - 52 := by
    unfold lastPlace at h ⊢
    omega
  constructor
  · have hsize : |(significand : ℚ)| ≤ 2 ^ 53 := by exact_mod_cast hsignificand
    rw [abs_mul, abs_of_pos (show (0 : ℚ) < 2 ^ exponent by positivity)]
    calc |(significand : ℚ)| * 2 ^ exponent ≤ 2 ^ 53 * 2 ^ (lastPlace value - 1) := by
          gcongr
          · norm_num
          · omega
      _ = 2 ^ 52 * unit value := by
          unfold unit
          rw [zpow_sub_one₀ (by norm_num)]
          ring
  · calc (2 : ℚ) ^ 52 * unit value = 2 ^ (52 + lastPlace value) := by
          rw [zpow_add₀ (by norm_num)]
          rfl
      _ = 2 ^ Int.log 2 |value| := by rw [hplace, add_sub_cancel]
      _ ≤ |value| := Int.zpow_log_le_self (by norm_num) (abs_pos.mpr hvalue)

/-- Between a value and a represented one above it there is a whole number of units. -/
theorem exists_units_above {value bound : ℚ} (hbound : Represented bound) (hle : value ≤ bound) :
    ∃ count : ℤ, value ≤ count * unit value ∧ count * unit value ≤ bound := by
  obtain ⟨significand, exponent, hsignificand, hexponent, rfl⟩ := hbound
  rcases eq_or_ne value 0 with rfl | hvalue
  · exact ⟨0, by simp, by simpa using hle⟩
  rcases le_or_gt (lastPlace value) exponent with hcoarse | hfine
  · obtain ⟨count, hcount⟩ := whole_units significand hcoarse
    exact ⟨count, hcount ▸ hle, hcount.ge⟩
  · obtain ⟨hnear, hfar⟩ := finer_le hvalue hsignificand hexponent hfine
    rcases lt_or_gt_of_ne hvalue with hnegative | hpositive
    · rw [abs_of_neg hnegative] at hfar
      refine ⟨-2 ^ 52, ?_, ?_⟩
      · push_cast
        linarith
      · push_cast
        linarith [neg_le_of_abs_le hnear]
    · rw [abs_of_pos hpositive] at hfar
      refine ⟨2 ^ 52, ?_, ?_⟩
      · push_cast
        linarith [le_of_abs_le hnear]
      · push_cast
        linarith

theorem unit_neg (value : ℚ) : unit (-value) = unit value := by
  unfold unit lastPlace
  rw [abs_neg]

theorem exists_units_below {value bound : ℚ} (hbound : Represented bound) (hle : bound ≤ value) :
    ∃ count : ℤ, bound ≤ count * unit value ∧ count * unit value ≤ value := by
  obtain ⟨count, habove, hbelow⟩ := exists_units_above hbound.neg (neg_le_neg hle)
  rw [unit_neg] at habove hbelow
  refine ⟨-count, ?_, ?_⟩
  · push_cast
    linarith
  · push_cast
    linarith

/-! ### The rounding -/

/-- A represented upper bound of a value bounds its rounding. -/
theorem nearest_le {value bound : ℚ} (hbound : Represented bound) (hle : value ≤ bound) :
    nearest value ≤ bound := by
  obtain ⟨count, habove, hbelow⟩ := exists_units_above hbound hle
  have hround : roundHalfEven (value / unit value) ≤ count :=
    roundHalfEven_le ((div_le_iff₀ (unit_pos value)).mpr habove)
  calc nearest value ≤ count * unit value := by
        unfold nearest
        gcongr
        exact (unit_pos value).le
    _ ≤ bound := hbelow

/-- A represented lower bound of a value bounds its rounding. -/
theorem le_nearest {value bound : ℚ} (hbound : Represented bound) (hle : bound ≤ value) :
    bound ≤ nearest value := by
  obtain ⟨count, habove, hbelow⟩ := exists_units_below hbound hle
  have hround : count ≤ roundHalfEven (value / unit value) :=
    le_roundHalfEven ((le_div_iff₀ (unit_pos value)).mpr hbelow)
  calc bound ≤ count * unit value := habove
    _ ≤ nearest value := by
        unfold nearest
        gcongr
        exact (unit_pos value).le

/-- A represented value is its own rounding. -/
theorem nearest_of_represented {value : ℚ} (h : Represented value) : nearest value = value :=
  le_antisymm (nearest_le h le_rfl) (le_nearest h le_rfl)

/-- A rounding is represented. -/
theorem represented_nearest (value : ℚ) : Represented (nearest value) := by
  refine ⟨roundHalfEven (value / unit value), lastPlace value, ?_, le_max_right _ _, rfl⟩
  have hlt := abs_lt_units value
  rw [abs_lt] at hlt
  rw [abs_le]
  constructor
  · apply le_roundHalfEven
    rw [le_div_iff₀ (unit_pos value)]
    push_cast
    linarith
  · apply roundHalfEven_le
    rw [div_le_iff₀ (unit_pos value)]
    push_cast
    linarith

/-- A whole number of units that is at most a represented number of them. -/
theorem represented_of_le {count significand exponent : ℤ} (hsignificand : |significand| ≤ 2 ^ 53)
    (hexponent : -1074 ≤ exponent) (hnonneg : 0 ≤ (count : ℚ) * 2 ^ exponent)
    (hle : (count : ℚ) * 2 ^ exponent ≤ significand * 2 ^ exponent) :
    Represented (count * 2 ^ exponent) := by
  have hunit : (0 : ℚ) < 2 ^ exponent := zpow_pos (by norm_num) _
  have hlow : 0 ≤ count := by exact_mod_cast nonneg_of_mul_nonneg_left hnonneg hunit
  have hhigh : count ≤ significand := by exact_mod_cast le_of_mul_le_mul_right hle hunit
  refine ⟨count, exponent, ?_, hexponent, rfl⟩
  rw [abs_of_nonneg hlow]
  exact hhigh.trans ((le_abs_self significand).trans hsignificand)

/-- Sterbenz: the difference of two doubles within a factor of two is exact. -/
theorem represented_sub {left right : ℚ} (hleft : Represented left) (hright : Represented right)
    (hle : right ≤ left) (hclose : left ≤ 2 * right) : Represented (left - right) := by
  obtain ⟨major, top, hmajor, htop, rfl⟩ := hleft
  obtain ⟨minor, bottom, hminor, hbottom, rfl⟩ := hright
  -- both are whole numbers of the finer unit, and the difference is at most the finer value
  rcases le_total top bottom with horder | horder
  · obtain ⟨count, hcount⟩ := whole_units minor horder
    rw [hcount] at hle hclose ⊢
    have hsub : (major : ℚ) * 2 ^ top - count * 2 ^ top = (major - count : ℤ) * 2 ^ top := by
      push_cast
      ring
    rw [hsub]
    apply represented_of_le hmajor htop
    · rw [← hsub]
      linarith
    · rw [← hsub]
      linarith
  · obtain ⟨count, hcount⟩ := whole_units major horder
    rw [hcount] at hle hclose ⊢
    have hsub : (count : ℚ) * 2 ^ bottom - minor * 2 ^ bottom = (count - minor : ℤ) * 2 ^ bottom := by
      push_cast
      ring
    rw [hsub]
    apply represented_of_le hminor hbottom
    · rw [← hsub]
      linarith
    · rw [← hsub]
      linarith

/-! ### The range -/

/-- The rounding to doubles: nothing from half a unit past the largest one on. -/
def rounding : Rounding where
  nearest value := if |value| < Decimal.overflowBound then some (nearest value) else none
  small value hvalue := by
    have hlt : |(value : ℚ)| < Decimal.overflowBound := by
      have hsize : |(value : ℚ)| ≤ 2 ^ 53 := by exact_mod_cast hvalue
      have hbound : 2 ^ 53 < Decimal.overflowBound := by decide +kernel
      exact hsize.trans_lt (by exact_mod_cast hbound)
    rw [if_pos hlt, nearest_of_represented (represented_intCast hvalue)]
    rfl
  between low value high hlow hhigh hle hge := by
    split_ifs at hlow hhigh with hlowsize hhighsize
    obtain hlowfixed := Option.some.inj hlow
    obtain hhighfixed := Option.some.inj hhigh
    have hsize : |value| < Decimal.overflowBound := by
      rw [abs_lt] at hlowsize hhighsize ⊢
      exact ⟨hlowsize.1.trans_le hle, hge.trans_lt hhighsize.2⟩
    refine ⟨nearest value, if_pos hsize, ?_, ?_⟩
    · exact le_nearest (hlowfixed ▸ represented_nearest low) hle
    · exact nearest_le (hhighfixed ▸ represented_nearest high) hge

end Binary64
end Foundation
end Ryuk

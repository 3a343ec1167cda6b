import Mathlib.Data.Nat.Digits.Defs
import Mathlib.Tactic

/-!
# Decimal literals

A finite decimal is a sign, a digit string and a power of ten, kept in the one
normal form that has no trailing zero.  The file prints such a decimal the way
a shortest round-trip printer does (fixed notation in a middle range, exponent
notation outside it) and shows that reading the printed parts gives the decimal
back.  A literal whose value rounds past the largest double reads as an
infinity; no other rounding is done, so a literal with more digits than a double
can hold keeps them.
-/

namespace Ryuk
namespace Foundation
namespace Decimal

/-- The value of a string of decimal digits. -/
def digitsValue (digits : List Char) : Nat := Nat.ofDigitChars 10 digits 0

/-- The decimal digits of a natural number, without leading zeros. -/
def digitsOf (value : Nat) : List Char := Nat.toDigits 10 value

@[simp] theorem digitsValue_digitsOf (value : Nat) :
    digitsValue (digitsOf value) = value :=
  Nat.ofDigitChars_ten_toDigits

theorem digitsOf_isDigit {value : Nat} {c : Char} (hc : c ∈ digitsOf value) :
    c.isDigit = true :=
  Nat.isDigit_of_mem_toDigits (by decide) (by decide) hc

theorem digitsOf_ne_nil (value : Nat) : digitsOf value ≠ [] := Nat.toDigits_ne_nil

@[simp] theorem digitsOf_zero : digitsOf 0 = ['0'] := Nat.toDigits_zero 10

/-- Appending zeros to a digit string multiplies its value. -/
theorem digitsValue_append_zeros (digits : List Char) (count : Nat) :
    digitsValue (digits ++ List.replicate count '0') =
      digitsValue digits * 10 ^ count := by
  unfold digitsValue
  rw [Nat.ofDigitChars_append, Nat.ofDigitChars_replicate_zero, Nat.mul_comm]

/-- Leading zeros do not change the value of a digit string. -/
theorem digitsValue_zeros_append (count : Nat) (digits : List Char) :
    digitsValue (List.replicate count '0' ++ digits) = digitsValue digits := by
  unfold digitsValue
  rw [Nat.ofDigitChars_append, Nat.ofDigitChars_replicate_zero, Nat.mul_zero]

/-- The first digit of a positive number is not zero. -/
theorem digitsOf_head_ne_zero {value : Nat} (hvalue : 0 < value) :
    ∃ first rest, digitsOf value = first :: rest ∧ first ≠ '0' := by
  induction value using Nat.strongRecOn with
  | ind value ih =>
      by_cases hsmall : value < 10
      · refine ⟨value.digitChar, [], Nat.toDigits_of_lt_base hsmall, ?_⟩
        intro hzero
        rw [Nat.digitChar_eq_zero] at hzero
        omega
      · have hbase : digitsOf value =
            digitsOf (value / 10) ++ [(value % 10).digitChar] :=
          Nat.toDigits_of_base_le (by decide) (by omega)
        obtain ⟨first, rest, hdigits, hfirst⟩ := ih (value / 10) (by omega) (by omega)
        exact ⟨first, rest ++ [(value % 10).digitChar], by rw [hbase, hdigits]; rfl, hfirst⟩

/-- Strip the trailing zeros of a digit string into the exponent. -/
def normalize (digits : Nat) (exponent : Int) : Nat × Int :=
  if digits = 0 then (0, 0)
  else if digits % 10 = 0 then normalize (digits / 10) (exponent + 1)
  else (digits, exponent)
termination_by digits
decreasing_by omega

/-- The normal form: zero is `0 · 10 ^ 0`, and nothing else ends in a zero. -/
def Normal (digits : Nat) (exponent : Int) : Prop :=
  (digits = 0 ∧ exponent = 0) ∨ digits % 10 ≠ 0

instance (digits : Nat) (exponent : Int) : Decidable (Normal digits exponent) :=
  inferInstanceAs (Decidable (_ ∨ _))

theorem normalize_normal (digits : Nat) (exponent : Int) :
    Normal (normalize digits exponent).1 (normalize digits exponent).2 := by
  fun_induction normalize digits exponent with
  | case1 exponent => exact Or.inl ⟨rfl, rfl⟩
  | case2 digits exponent hne hzero ih => exact ih
  | case3 digits exponent hne hlast => exact Or.inr hlast

theorem normalize_of_normal {digits : Nat} {exponent : Int}
    (h : Normal digits exponent) : normalize digits exponent = (digits, exponent) := by
  rcases h with ⟨rfl, rfl⟩ | hlast
  · rw [normalize]
    simp
  · have hne : digits ≠ 0 := by
      intro hzero
      simp [hzero] at hlast
    rw [normalize, if_neg hne, if_neg hlast]

/-- Multiplying a normal digit string by a power of ten only moves the
exponent. -/
theorem normalize_mul_pow {digits : Nat} (hlast : digits % 10 ≠ 0) (count : Nat)
    (exponent : Int) :
    normalize (digits * 10 ^ count) exponent = (digits, exponent + count) := by
  induction count generalizing exponent with
  | zero =>
      have hnormal : Normal digits exponent := Or.inr hlast
      simpa using normalize_of_normal hnormal
  | succ count ih =>
      have hne : digits * 10 ^ (count + 1) ≠ 0 := by
        have : digits ≠ 0 := fun hzero => by simp [hzero] at hlast
        positivity
      have hstep : digits * 10 ^ (count + 1) = digits * 10 ^ count * 10 := by ring
      rw [normalize, if_neg hne, if_pos (by omega), hstep,
        Nat.mul_div_cancel _ (by decide), ih]
      simp only [Prod.mk.injEq, true_and, Nat.cast_add, Nat.cast_one]
      ring

/-- The least integer that a double rounds up to infinity. -/
def overflowBound : Nat := 2 ^ 1024 - 2 ^ 970

/-- Whether `digits · 10 ^ exponent` rounds past the largest double.  The length
test decides every case but one decade, so no huge power is computed. -/
def overflows (digits : Nat) (exponent : Int) : Bool :=
  let point := (digitsOf digits).length + exponent
  if point < 309 then false
  else if 309 < point then decide (digits ≠ 0)
  else if 0 ≤ exponent then decide (overflowBound ≤ digits * 10 ^ exponent.toNat)
  else decide (overflowBound * 10 ^ (-exponent).toNat ≤ digits)

/-- A finite floating-point value, named by the decimal its shortest printed
form denotes. -/
structure Finite where
  negative : Bool
  digits : Nat
  exponent : Int
  normal : Normal digits exponent
  bounded : overflows digits exponent = false
  deriving DecidableEq

/-- Floating-point values as a JSON reader can produce them. -/
inductive Float where
  | nan
  | infinity (negative : Bool)
  | finite (value : Finite)
  deriving DecidableEq

/-- The value a literal `integer.fraction e exponent` denotes. -/
def ofLiteral (negative : Bool) (integer fraction : List Char) (exponent : Int) : Float :=
  let parts :=
    normalize (digitsValue (integer ++ fraction)) (exponent - fraction.length)
  if h : overflows parts.1 parts.2 = false then
    .finite ⟨negative, parts.1, parts.2, normalize_normal _ _, h⟩
  else .infinity negative

/-- The printed parts of a finite value: integer digits, fraction digits (absent
when the list is empty) and an exponent, absent in fixed notation. -/
structure Parts where
  integer : List Char
  fraction : List Char
  exponent : Option Int

/-- Shortest round-trip layout: the decimal point falls at `point`, and fixed
notation is used exactly for `-4 < point ≤ 16`. -/
def parts (value : Finite) : Parts :=
  let digits := digitsOf value.digits
  let point : Int := digits.length + value.exponent
  if -4 < point ∧ point ≤ 16 then
    if point ≤ 0 then ⟨['0'], List.replicate (-point).toNat '0' ++ digits, none⟩
    else if 0 ≤ value.exponent then
      ⟨digits ++ List.replicate value.exponent.toNat '0', ['0'], none⟩
    else ⟨digits.take point.toNat, digits.drop point.toNat, none⟩
  else ⟨digits.take 1, digits.drop 1, some (point - 1)⟩

private theorem normalize_padded {digits : Nat} {exponent : Int}
    (h : Normal digits exponent) (hexponent : 0 ≤ exponent) :
    normalize (digits * 10 ^ (exponent.toNat + 1)) (0 - 1) = (digits, exponent) := by
  rcases h with ⟨rfl, rfl⟩ | hlast
  · rw [Nat.zero_mul, normalize, if_pos rfl]
  · rw [normalize_mul_pow hlast]
    simp only [Prod.mk.injEq, true_and, Nat.cast_add, Nat.cast_one]
    omega

/-- Reading the printed parts of a finite value gives the value back. -/
theorem ofLiteral_parts (value : Finite) :
    ofLiteral value.negative (parts value).integer (parts value).fraction
      ((parts value).exponent.getD 0) = .finite value := by
  have hnormalized : normalize
      (digitsValue ((parts value).integer ++ (parts value).fraction))
      ((parts value).exponent.getD 0 - (parts value).fraction.length) =
        (value.digits, value.exponent) := by
    have hlength : 1 ≤ (digitsOf value.digits).length :=
      List.length_pos_of_ne_nil (digitsOf_ne_nil value.digits)
    unfold parts
    simp only
    split_ifs with hfixed hsmall hwhole
    · -- a value below one: the zeros after the point are leading zeros
      rw [show ['0'] ++ (List.replicate (-((digitsOf value.digits).length +
            value.exponent)).toNat '0' ++ digitsOf value.digits) =
          List.replicate ((-((digitsOf value.digits).length +
            value.exponent)).toNat + 1) '0' ++ digitsOf value.digits by
          rw [List.replicate_succ]; rfl,
        digitsValue_zeros_append, digitsValue_digitsOf]
      simp only [Option.getD_none, List.length_append, List.length_replicate]
      rw [show (0 : Int) - (((-((digitsOf value.digits).length +
            value.exponent)).toNat + (digitsOf value.digits).length : Nat) : Int) =
          value.exponent by push_cast; omega]
      exact normalize_of_normal value.normal
    · -- an integral value: its padding and the final zero are trailing zeros
      rw [show digitsOf value.digits ++ List.replicate value.exponent.toNat '0' ++ ['0'] =
          digitsOf value.digits ++ List.replicate (value.exponent.toNat + 1) '0' by
          rw [List.append_assoc, List.replicate_succ']]
      rw [digitsValue_append_zeros, digitsValue_digitsOf]
      exact normalize_padded value.normal hwhole
    · -- the point falls inside the digits
      rw [List.take_append_drop, digitsValue_digitsOf]
      simp only [Option.getD_none, List.length_drop]
      rw [show (0 : Int) - (((digitsOf value.digits).length -
          ((digitsOf value.digits).length + value.exponent).toNat : Nat) : Int) =
          value.exponent by omega]
      exact normalize_of_normal value.normal
    · rw [List.take_append_drop, digitsValue_digitsOf]
      simp only [Option.getD_some, List.length_drop]
      rw [show ((digitsOf value.digits).length + value.exponent - 1 : Int) -
          (((digitsOf value.digits).length - 1 : Nat) : Int) = value.exponent by omega]
      exact normalize_of_normal value.normal
  unfold ofLiteral
  simp only [hnormalized]
  rw [dif_pos value.bounded]

/-- The sign test `value < 0` of a float: a negative zero and a not-a-number are
not below zero. -/
def Float.isNegative : Float → Bool
  | .nan => false
  | .infinity negative => negative
  | .finite value => value.negative && decide (value.digits ≠ 0)

/-- The truth value of a float: only the zeros are false. -/
def Float.truthy : Float → Bool
  | .nan => true
  | .infinity _ => true
  | .finite value => decide (value.digits ≠ 0)

/-- The rational a finite value stands for. -/
def Finite.toRat (value : Finite) : ℚ :=
  (if value.negative then -1 else 1) * value.digits * (10 : ℚ) ^ value.exponent

/-- A number of a language that tells integers from floats. -/
inductive Number where
  | int (value : Int)
  | float (value : Float)
  deriving DecidableEq

/-- The rational a finite number stands for. -/
def Number.toRat? : Number → Option ℚ
  | .int value => some value
  | .float (.finite value) => some value.toRat
  | .float .nan | .float (.infinity _) => none

/-- The nearest integer; the even one when two are equally near. -/
def roundHalfEven (value : ℚ) : Int :=
  let low := ⌊value⌋
  if value - low < 1 / 2 then low
  else if 1 / 2 < value - low then low + 1
  else if low % 2 = 0 then low
  else low + 1

end Decimal
end Foundation
end Ryuk

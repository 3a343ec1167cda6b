import Mathlib.Tactic

/-!
# Scripts on a Redis hash

A database maps a key to a hash with an optional deadline.  A script is run at one
time, without interruption, on the hash of one key; what it wrote before an error
stays.  Counters are 64-bit integers, and `HINCRBY` refuses to leave their range.
The numbers of the script language are doubles.

Which deadlines have passed is a parameter, so that one definition covers a
database that deletes its keys and one that never does.
-/

namespace Ryuk
namespace Foundation
namespace Redis

/-- A hash with integer fields, and the time in microseconds at which it expires. -/
structure Hash (φ : Type) where
  fields : φ → Option Int
  deadline : Option Nat

/-- What is stored at a key. -/
abbrev Entry (φ : Type) := Option (Hash φ)

namespace Entry

variable {φ : Type}

/-- The value of a field; nothing at a missing key. -/
def field (entry : Entry φ) (name : φ) : Option Int :=
  match entry with
  | none => none
  | some hash => hash.fields name

/-- The time at which the key expires. -/
def deadline (entry : Entry φ) : Option Nat :=
  match entry with
  | none => none
  | some hash => hash.deadline

/-- The key with one field set; a missing key is created without a deadline. -/
def set [DecidableEq φ] (entry : Entry φ) (name : φ) (value : Int) : Entry φ :=
  some ⟨Function.update entry.field name (some value), entry.deadline⟩

/-- The key with another deadline, if it exists. -/
def setDeadline (entry : Entry φ) (deadline : Option Nat) : Entry φ :=
  match entry with
  | none => none
  | some hash => some { hash with deadline }

variable [DecidableEq φ] (entry : Entry φ) {name other : φ} {value : Int}

@[simp] theorem field_set : (entry.set name value).field name = some value :=
  Function.update_self ..

theorem field_set_of_ne (h : other ≠ name) : (entry.set name value).field other = entry.field other :=
  Function.update_of_ne h _ _

@[simp] theorem deadline_set : (entry.set name value).deadline = entry.deadline := rfl

omit [DecidableEq φ] in
@[simp] theorem field_setDeadline (deadline : Option Nat) :
    (entry.setDeadline deadline).field other = entry.field other := by
  cases entry <;> rfl

end Entry

/-! ### Scripts -/

/-- A script on one key; an error keeps the writes before it. -/
def Script (φ α : Type) := Entry φ → Except String α × Entry φ

namespace Script

variable {φ α β : Type}

/-- The answer of a script, and what it leaves at the key. -/
def run (script : Script φ α) (entry : Entry φ) : Except String α × Entry φ := script entry

instance : Monad (Script φ) where
  pure value := fun entry => (.ok value, entry)
  bind script rest := fun entry =>
    match script entry with
    | (.ok value, entry) => rest value entry
    | (.error error, entry) => (.error error, entry)

/-- `HGET`. -/
def hget (name : φ) : Script φ (Option Int) := fun entry => (.ok (entry.field name), entry)

/-- The integers a counter can hold. -/
def InRange (value : Int) : Prop := -2 ^ 63 ≤ value ∧ value < 2 ^ 63

instance (value : Int) : Decidable (InRange value) := inferInstanceAs (Decidable (_ ∧ _))

section Writes

variable [DecidableEq φ]

/-- `HSET` of one field. -/
def hset (name : φ) (value : Int) : Script φ Unit := fun entry => (.ok (), entry.set name value)

/-- `HINCRBY`, with the new value as its answer. -/
def hincrby (name : φ) (increment : Int) : Script φ Int := fun entry =>
  if ¬ InRange increment then (.error "ERR value is not an integer or out of range", entry)
  else if ¬ InRange ((entry.field name).getD 0 + increment) then
    (.error "ERR increment or decrement would overflow", entry)
  else (.ok ((entry.field name).getD 0 + increment),
    entry.set name ((entry.field name).getD 0 + increment))

end Writes

/-- `PERSIST`. -/
def persist : Script φ Unit := fun entry => (.ok (), entry.setDeadline none)

/-- `EXPIRE` at a time, in seconds from then. -/
def expire (now seconds : Nat) : Script φ Unit := fun entry =>
  (.ok (), entry.setDeadline (some (now + seconds * 1000000)))

variable {entry : Entry φ}

@[simp] theorem run_pure (value : α) : (pure value : Script φ α).run entry = (.ok value, entry) := rfl

theorem run_bind (script : Script φ α) (rest : α → Script φ β) :
    (script >>= rest).run entry =
      match script.run entry with
      | (.ok value, entry) => (rest value).run entry
      | (.error error, entry) => (.error error, entry) := rfl

@[simp] theorem run_hget_bind (name : φ) (rest : Option Int → Script φ β) :
    (hget name >>= rest).run entry = (rest (entry.field name)).run entry := rfl

@[simp] theorem run_persist_bind (rest : Unit → Script φ β) :
    (persist >>= rest).run entry = (rest ()).run (entry.setDeadline none) := rfl

@[simp] theorem run_expire_bind (now seconds : Nat) (rest : Unit → Script φ β) :
    (expire now seconds >>= rest).run entry =
      (rest ()).run (entry.setDeadline (some (now + seconds * 1000000))) := rfl

@[simp] theorem run_hset_bind [DecidableEq φ] (name : φ) (value : Int) (rest : Unit → Script φ β) :
    (hset name value >>= rest).run entry = (rest ()).run (entry.set name value) := rfl

/-- An increment that stays in range, or the error that it does not. -/
theorem run_hincrby_bind [DecidableEq φ] (name : φ) (increment : Int) (rest : Int → Script φ β) :
    (hincrby name increment >>= rest).run entry =
      if ¬ InRange increment then (.error "ERR value is not an integer or out of range", entry)
      else if ¬ InRange ((entry.field name).getD 0 + increment) then
        (.error "ERR increment or decrement would overflow", entry)
      else (rest ((entry.field name).getD 0 + increment)).run
        (entry.set name ((entry.field name).getD 0 + increment)) := by
  rw [run_bind, run]
  unfold hincrby
  split_ifs <;> rfl

end Script

/-- The number of the script language for an integer: the nearest double, ties to even,
and `2 ^ 1024` for what is as large or larger, which stands for infinity. -/
def tonumber (value : Int) : Int :=
  let size := value.natAbs
  let unit := 2 ^ (Nat.log2 size + 1 - 53)
  let quotient := size / unit
  let remainder := size % unit
  let rounded :=
    if 2 * remainder < unit ∨ 2 * remainder = unit ∧ quotient % 2 = 0 then quotient
    else quotient + 1
  value.sign * min (rounded * unit) (2 ^ 1024)

@[simp] theorem tonumber_zero : tonumber 0 = 0 := by
  unfold tonumber
  rw [Int.sign_zero, Int.zero_mul]

/-- A positive integer is not rounded down to zero. -/
theorem tonumber_pos {value : Int} (h : 0 < value) : 0 < tonumber value := by
  have hsize : 0 < value.natAbs := Int.natAbs_pos.mpr h.ne'
  have hunit : 2 ^ (Nat.log2 value.natAbs + 1 - 53) ≤ value.natAbs :=
    (Nat.pow_le_pow_right (by omega) (by omega)).trans (Nat.log2_self_le hsize.ne')
  have hquotient : 0 < value.natAbs / 2 ^ (Nat.log2 value.natAbs + 1 - 53) :=
    Nat.div_pos hunit (by positivity)
  unfold tonumber
  rw [Int.sign_eq_one_of_pos h, Int.one_mul]
  apply Int.natCast_pos.mpr
  apply lt_min
  · apply Nat.mul_pos
    · split_ifs <;> omega
    · positivity
  · positivity

/-- Rounding stays between the powers of two around a number, and keeps a power of two. -/
theorem tonumber_bounds {value : Int} (h : 0 < value) :
    ∃ rounded : Nat, tonumber value = ((min rounded (2 ^ 1024) : Nat) : Int) ∧
      2 ^ Nat.log2 value.natAbs ≤ rounded ∧ rounded ≤ 2 ^ (Nat.log2 value.natAbs + 1) ∧
      (value.natAbs = 2 ^ Nat.log2 value.natAbs → rounded = value.natAbs) := by
  have hlow := Nat.log2_self_le (Int.natAbs_ne_zero.mpr h.ne')
  have hhigh : value.natAbs < 2 ^ (Nat.log2 value.natAbs + 1) := Nat.lt_log2_self
  unfold tonumber
  rw [Int.sign_eq_one_of_pos h, Int.one_mul]
  generalize value.natAbs = size at *
  generalize hlog : Nat.log2 size = exponent at *
  have hunit : 0 < 2 ^ (exponent + 1 - 53) := by positivity
  -- the power of two below is a whole number of units
  obtain ⟨wide, hwide⟩ : ∃ wide, 2 ^ exponent = wide * 2 ^ (exponent + 1 - 53) := by
    refine ⟨2 ^ (exponent - (exponent + 1 - 53)), ?_⟩
    rw [← pow_add]
    congr 1
    omega
  have hdouble : 2 ^ (exponent + 1) = 2 * wide * 2 ^ (exponent + 1 - 53) := by
    rw [pow_succ, hwide]
    ring
  generalize 2 ^ (exponent + 1 - 53) = unit at *
  have hquotient : wide ≤ size / unit := (Nat.le_div_iff_mul_le hunit).mpr (hwide ▸ hlow)
  have hquotient' : size / unit < 2 * wide :=
    (Nat.div_lt_iff_lt_mul hunit).mpr (hdouble ▸ hhigh)
  refine ⟨_, rfl, ?_, ?_, fun hexact => ?_⟩
  · rw [hwide]
    apply Nat.mul_le_mul_right
    split_ifs <;> omega
  · rw [hdouble]
    apply Nat.mul_le_mul_right
    split_ifs <;> omega
  · have hmod : size % unit = 0 := by
      rw [hexact, hwide]
      exact Nat.mul_mod_left _ _
    rw [hmod, if_pos (Or.inl (by omega))]
    exact Nat.div_mul_cancel (Nat.dvd_of_mod_eq_zero hmod)

/-- What is at most a power of two is rounded to at most that. -/
theorem tonumber_le_pow {value : Int} {exponent : Nat} (h : value ≤ 2 ^ exponent) :
    tonumber value ≤ 2 ^ exponent := by
  rcases lt_or_ge 0 value with hpos | hneg
  · obtain ⟨rounded, hvalue, -, hhigh, hexact⟩ := tonumber_bounds hpos
    have hsize : value.natAbs ≤ 2 ^ exponent := by
      have : (value.natAbs : Int) = value := Int.natAbs_of_nonneg hpos.le
      exact_mod_cast this ▸ h
    have hrounded : rounded ≤ 2 ^ exponent := by
      have hlow := Nat.log2_self_le (Int.natAbs_ne_zero.mpr hpos.ne')
      rcases hlow.eq_or_lt with hpower | hbetween
      · rw [hexact hpower.symm]
        exact hsize
      · have hlog : Nat.log2 value.natAbs < exponent :=
          (Nat.pow_lt_pow_iff_right (by omega)).mp (hbetween.trans_le hsize)
        exact hhigh.trans (Nat.pow_le_pow_right (by omega) hlog)
    rw [hvalue]
    exact_mod_cast (Nat.min_le_left _ _).trans hrounded
  · have hvalue : tonumber value ≤ 0 := by
      unfold tonumber
      exact Int.mul_nonpos_of_nonpos_of_nonneg (Int.sign_nonpos_iff.mpr hneg) (Int.natCast_nonneg _)
    exact hvalue.trans (by positivity)

/-- What is at least a power of two is rounded to at least that. -/
theorem pow_le_tonumber {value : Int} {exponent : Nat} (h : 2 ^ exponent ≤ value)
    (hexponent : exponent ≤ 1024) : 2 ^ exponent ≤ tonumber value := by
  have hpos : 0 < value := lt_of_lt_of_le (by positivity) h
  obtain ⟨rounded, hvalue, hlow, -, -⟩ := tonumber_bounds hpos
  have hsize : 2 ^ exponent ≤ value.natAbs := by
    have : (value.natAbs : Int) = value := Int.natAbs_of_nonneg hpos.le
    exact_mod_cast this ▸ h
  have hlog : exponent ≤ Nat.log2 value.natAbs :=
    (Nat.le_log2 (Int.natAbs_ne_zero.mpr hpos.ne')).mpr hsize
  have hinfinity : 2 ^ exponent ≤ 2 ^ 1024 := pow_le_pow_right₀ (by norm_num) hexponent
  rw [hvalue]
  generalize 2 ^ 1024 = infinity at hinfinity ⊢
  have hrounded : 2 ^ exponent ≤ min rounded infinity :=
    le_min ((Nat.pow_le_pow_right (by omega) hlog).trans hlow) hinfinity
  exact_mod_cast hrounded

/-- What fits into the digits of a double is not rounded. -/
theorem tonumber_of_lt {value : Int} (hnonneg : 0 ≤ value) (h : value < 2 ^ 53) :
    tonumber value = value := by
  rcases hnonneg.eq_or_lt with rfl | hpos
  · exact tonumber_zero
  · have hsize : value.natAbs < 2 ^ 53 := by omega
    have hlog : Nat.log2 value.natAbs < 53 :=
      (Nat.log2_lt (Int.natAbs_ne_zero.mpr hpos.ne')).mpr hsize
    have hunit : Nat.log2 value.natAbs + 1 - 53 = 0 := by omega
    have hexponent : (53 : Nat) ≤ 1024 := by norm_num
    have hinfinity : value.natAbs ≤ 2 ^ 1024 :=
      hsize.le.trans (pow_le_pow_right₀ (by norm_num) hexponent)
    unfold tonumber
    dsimp only
    generalize 2 ^ 1024 = infinity at hinfinity ⊢
    rw [hunit, pow_zero, Nat.div_one, Nat.mod_one, if_pos (Or.inl (by omega)), Nat.mul_one,
      Int.sign_eq_one_of_pos hpos, Int.one_mul]
    rw [Nat.min_eq_left hinfinity, Int.natAbs_of_nonneg hpos.le]

/-! ### Databases -/

/-- The keys with what is stored at them. -/
abbrev Database (φ : Type) := String → Entry φ

namespace Database

variable {φ α : Type}

/-- The entries whose deadlines have passed are gone. -/
def purge (due : Nat → Nat → Bool) (now : Nat) (database : Database φ) : Database φ := fun key =>
  if (database key).deadline.any fun deadline => due deadline now then none else database key

/-- `EVAL` of a script on one key. -/
def eval (database : Database φ) (key : String) (script : Script φ α) :
    Except String α × Database φ :=
  let (answer, entry) := script.run (database key)
  (answer, Function.update database key entry)

end Database

/-- A deadline has passed when its time has come. -/
def passed (deadline now : Nat) : Bool := decide (deadline ≤ now)

/-- Keys never expire. -/
def never (_ _ : Nat) : Bool := false

end Redis
end Foundation
end Ryuk

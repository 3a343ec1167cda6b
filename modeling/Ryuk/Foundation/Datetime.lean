import Ryuk.Foundation.Calendar
import Ryuk.Foundation.Decimal

/-!
# Datetimes and their ISO text

A datetime is a wall-clock reading between year 1 and year 9999, to the
microsecond, with an optional UTC offset.  `isoformat` prints a UTC reading and
`fromisoformat` reads the extended format; `fromisoformat_isoformat` is the
round trip.  Of the many shapes a full ISO 8601 reader accepts, only the ones
`isoformat` can print are read here.
-/

namespace Ryuk
namespace Foundation
namespace Datetime

open Calendar Decimal

/-- Microseconds in a day. -/
def microsPerDay : Nat := 86400000000

/-- The ordinal of December 31 of year 9999. -/
def maxOrdinal : Nat := 3652059

/-- A wall-clock reading, as microseconds since the start of year 1. -/
structure Instant where
  micros : Nat
  bounded : micros < maxOrdinal * microsPerDay
  deriving DecidableEq

namespace Instant

@[ext] theorem ext {left right : Instant} (h : left.micros = right.micros) : left = right := by
  cases left
  cases right
  simpa using h

instance : LinearOrder Instant :=
  LinearOrder.lift' Instant.micros fun _ _ h => Instant.ext h

theorem le_iff {left right : Instant} : left ≤ right ↔ left.micros ≤ right.micros := Iff.rfl

theorem lt_iff {left right : Instant} : left < right ↔ left.micros < right.micros := Iff.rfl

/-- A reading at a number of microseconds that may lie outside the calendar. -/
def ofMicros (micros : Int) : Option Instant :=
  if h : 0 ≤ micros ∧ micros < (maxOrdinal * microsPerDay : Nat) then
    some ⟨micros.toNat, by omega⟩
  else none

theorem ofMicros_micros {micros : Int} {t : Instant} (h : ofMicros micros = some t) :
    (t.micros : Int) = micros := by
  unfold ofMicros at h
  split_ifs at h with hrange
  obtain rfl := Option.some.inj h
  exact Int.toNat_of_nonneg hrange.1

@[simp] theorem ofMicros_self (t : Instant) : ofMicros t.micros = some t := by
  have := t.bounded
  unfold ofMicros
  rw [dif_pos (by omega)]
  rfl

/-- A reading moved by a number of microseconds; `none` past the calendar. -/
def shift (t : Instant) (micros : Int) : Option Instant := ofMicros (t.micros + micros)

/-- A shift that stays in the calendar. -/
theorem exists_shift {t : Instant} {micros : Int} (hlow : 0 ≤ (t.micros : Int) + micros)
    (hhigh : (t.micros : Int) + micros < (maxOrdinal * microsPerDay : Nat)) :
    ∃ later, t.shift micros = some later := by
  unfold shift ofMicros
  rw [dif_pos ⟨hlow, hhigh⟩]
  exact ⟨_, rfl⟩

theorem shift_micros {t later : Instant} {micros : Int} (h : t.shift micros = some later) :
    (later.micros : Int) = t.micros + micros :=
  ofMicros_micros h

end Instant

/-- A datetime: a wall-clock reading and, when it is aware, its UTC offset in
microseconds. -/
structure DateTime where
  reading : Instant
  utcoffset : Option Int
  deriving DecidableEq

/-- An aware UTC datetime. -/
def Instant.utc (t : Instant) : DateTime := ⟨t, some 0⟩

/-! ### Printing -/

/-- Two decimal digits. -/
def pad2 (n : Nat) : List Char := [Nat.digitChar (n / 10 % 10), Nat.digitChar (n % 10)]

/-- Four decimal digits. -/
def pad4 (n : Nat) : List Char := pad2 (n / 100) ++ pad2 (n % 100)

/-- Six decimal digits. -/
def pad6 (n : Nat) : List Char := pad2 (n / 10000) ++ pad4 (n % 10000)

/-- The calendar day of a reading. -/
def Instant.date (t : Instant) : Date := ordToYmd (t.micros / microsPerDay + 1)

/-- The hour of the day. -/
def Instant.hour (t : Instant) : Nat := t.micros % microsPerDay / 3600000000

/-- The minute of the hour. -/
def Instant.minute (t : Instant) : Nat := t.micros % microsPerDay / 60000000 % 60

/-- The second of the minute. -/
def Instant.second (t : Instant) : Nat := t.micros % microsPerDay / 1000000 % 60

/-- The microsecond of the second. -/
def Instant.microsecond (t : Instant) : Nat := t.micros % 1000000

/-- `YYYY-MM-DDTHH:MM:SS`. -/
def Instant.seconds (t : Instant) : List Char :=
  pad4 t.date.year ++ '-' :: (pad2 t.date.month ++ '-' :: (pad2 t.date.day ++
    'T' :: (pad2 t.hour ++ ':' :: (pad2 t.minute ++ ':' :: pad2 t.second))))

/-- `t.isoformat()` of a UTC datetime: the microseconds are printed only when
there are any. -/
def Instant.isoformat (t : Instant) : String :=
  String.ofList (t.seconds ++ (if t.microsecond = 0 then [] else '.' :: pad6 t.microsecond) ++
    ['+', '0', '0', ':', '0', '0'])

/-- A printed UTC offset: its seconds and microseconds only when there are any. -/
def offsetText (utcoffset : Int) : List Char :=
  let micros := utcoffset.natAbs
  let seconds := micros / 1000000 % 60
  let rest :=
    if micros % 60000000 = 0 then []
    else ':' :: (pad2 seconds ++
      if micros % 1000000 = 0 then [] else '.' :: pad6 (micros % 1000000))
  (if utcoffset < 0 then '-' else '+') ::
    (pad2 (micros / 3600000000) ++ ':' :: (pad2 (micros / 60000000 % 60) ++ rest))

/-- `value.isoformat()`. -/
def DateTime.isoformat (value : DateTime) : String :=
  String.ofList (value.reading.seconds ++
    (if value.reading.microsecond = 0 then [] else '.' :: pad6 value.reading.microsecond) ++
      (value.utcoffset.map offsetText).getD [])

/-! ### Reading -/

/-- The number a list of decimal digits denotes. -/
def number (digits : List Char) : Option Nat :=
  if digits.all Char.isDigit then some (digitsValue digits) else none

/-- The six fraction digits, when the text has a fraction, and what follows. -/
def readFraction : List Char → Option (Nat × List Char)
  | '.' :: a :: b :: c :: d :: e :: f :: rest =>
      (number [a, b, c, d, e, f]).map fun micros => (micros, rest)
  | '.' :: _ => none
  | rest => some (0, rest)

/-- The seconds and microseconds of a UTC offset, when the text has them. -/
def readOffsetSeconds : List Char → Option (Nat × Nat)
  | [] => some (0, 0)
  | ':' :: a :: b :: rest => do
      let seconds ← number [a, b]
      match ← readFraction rest with
      | (micros, []) => some (seconds, micros)
      | _ => none
  | _ => none

/-- The UTC offset of an aware text, of less than a day; a text that ends here is naive. -/
def readOffset : List Char → Option (Option Int)
  | [] => some none
  | sign :: a :: b :: ':' :: c :: d :: rest => do
      let negative ← if sign = '+' then some false else if sign = '-' then some true else none
      let hours ← number [a, b]
      let minutes ← number [c, d]
      let (seconds, micros) ← readOffsetSeconds rest
      let total := ((hours * 60 + minutes) * 60 + seconds) * 1000000 + micros
      if total < microsPerDay then some (some ((if negative then -1 else 1) * (total : Int)))
      else none
  | _ => none

/-- The reading with the given calendar day and time of day. -/
def compose (date : Date) (hour minute second micros : Nat) : Option Instant :=
  if date.valid = true ∧ date.year ≤ 9999 ∧ hour < 24 ∧ minute < 60 ∧ second < 60 then
    Instant.ofMicros (((ymdToOrd date - 1) * microsPerDay + hour * 3600000000 +
      minute * 60000000 + second * 1000000 + micros : Nat) : Int)
  else none

/-- `datetime.fromisoformat(text)`. -/
def fromisoformat (text : String) : Option DateTime :=
  match text.toList with
  | y₁ :: y₂ :: y₃ :: y₄ :: '-' :: m₁ :: m₂ :: '-' :: d₁ :: d₂ :: 'T' ::
      h₁ :: h₂ :: ':' :: n₁ :: n₂ :: ':' :: s₁ :: s₂ :: rest => do
      let year ← number [y₁, y₂, y₃, y₄]
      let month ← number [m₁, m₂]
      let day ← number [d₁, d₂]
      let hour ← number [h₁, h₂]
      let minute ← number [n₁, n₂]
      let second ← number [s₁, s₂]
      let (micros, rest') ← readFraction rest
      let offset ← readOffset rest'
      let reading ← compose ⟨year, month, day⟩ hour minute second micros
      some ⟨reading, offset⟩
  | _ => none

/-! ### The round trip -/

theorem number_pad2 {n : Nat} (h : n < 100) : number (pad2 n) = some n := by
  have hall : ∀ k < 100, number (pad2 k) = some k := by decide
  exact hall n h

theorem digit_value : ∀ k < 10, (Nat.digitChar k).isDigit = true ∧
    (Nat.digitChar k).toNat - '0'.toNat = k := by decide

theorem number_pad4 {n : Nat} (h : n < 10000) : number (pad4 n) = some n := by
  have h₁ := digit_value (n / 100 / 10 % 10) (by omega)
  have h₂ := digit_value (n / 100 % 10) (by omega)
  have h₃ := digit_value (n % 100 / 10 % 10) (by omega)
  have h₄ := digit_value (n % 100 % 10) (by omega)
  unfold number pad4 pad2
  simp only [List.cons_append, List.nil_append, List.all_cons, h₁.1, h₂.1, h₃.1, h₄.1,
    List.all_nil, Bool.and_self, if_true, Option.some.injEq, digitsValue,
    Nat.ofDigitChars_cons, Nat.ofDigitChars_nil, h₁.2, h₂.2, h₃.2, h₄.2]
  omega

theorem number_pad6 {n : Nat} (h : n < 1000000) : number (pad6 n) = some n := by
  have h₁ := digit_value (n / 10000 / 10 % 10) (by omega)
  have h₂ := digit_value (n / 10000 % 10) (by omega)
  have h₃ := digit_value (n % 10000 / 100 / 10 % 10) (by omega)
  have h₄ := digit_value (n % 10000 / 100 % 10) (by omega)
  have h₅ := digit_value (n % 10000 % 100 / 10 % 10) (by omega)
  have h₆ := digit_value (n % 10000 % 100 % 10) (by omega)
  unfold number pad6 pad4 pad2
  simp only [List.cons_append, List.nil_append, List.all_cons, h₁.1, h₂.1, h₃.1, h₄.1, h₅.1,
    h₆.1, List.all_nil, Bool.and_self, if_true, Option.some.injEq, digitsValue,
    Nat.ofDigitChars_cons, Nat.ofDigitChars_nil, h₁.2, h₂.2, h₃.2, h₄.2, h₅.2, h₆.2]
  omega

/-- The year of an ordinal up to `maxOrdinal` has at most four digits. -/
theorem ordToYmd_year_le {n : Nat} (h : n < maxOrdinal) : (ordToYmd (n + 1)).year ≤ 9999 := by
  unfold maxOrdinal at h
  unfold ordToYmd
  simp only [Nat.add_sub_cancel]
  split_ifs with hlate
  · rw [Bool.or_eq_true, beq_iff_eq, beq_iff_eq] at hlate
    simp only
    omega
  · rw [Bool.or_eq_true, beq_iff_eq, beq_iff_eq, not_or] at hlate
    simp only
    omega

theorem Instant.date_spec (t : Instant) :
    t.date.valid = true ∧ ymdToOrd t.date = t.micros / microsPerDay + 1 ∧
      t.date.year ≤ 9999 ∧ t.date.month ≤ 12 ∧ t.date.day ≤ 31 := by
  have hday : t.micros / microsPerDay < maxOrdinal :=
    Nat.div_lt_of_lt_mul (by rw [Nat.mul_comm]; exact t.bounded)
  obtain ⟨hvalid, hord⟩ := ordToYmd_spec (t.micros / microsPerDay)
  have hyear := ordToYmd_year_le hday
  have hvalid' := hvalid
  unfold Date.valid at hvalid'
  simp only [Bool.and_eq_true, decide_eq_true_eq] at hvalid'
  obtain ⟨⟨⟨⟨-, -⟩, hmonth⟩, -⟩, hlast⟩ := hvalid'
  refine ⟨hvalid, hord, hyear, hmonth, hlast.trans ?_⟩
  unfold daysInMonth daysInMonthTable
  split_ifs
  · decide
  · split <;> decide

theorem compose_fields (t : Instant) :
    compose t.date t.hour t.minute t.second t.microsecond = some t := by
  obtain ⟨hvalid, hord, hyear, -, -⟩ := t.date_spec
  have hmicros : (ymdToOrd t.date - 1) * microsPerDay + t.hour * 3600000000 +
      t.minute * 60000000 + t.second * 1000000 + t.microsecond = t.micros := by
    rw [hord, Nat.add_sub_cancel]
    unfold Instant.hour Instant.minute Instant.second Instant.microsecond microsPerDay
    omega
  have hhour : t.hour < 24 := by
    unfold Instant.hour microsPerDay
    omega
  have hminute : t.minute < 60 := Nat.mod_lt _ (by decide)
  have hsecond : t.second < 60 := Nat.mod_lt _ (by decide)
  unfold compose
  rw [if_pos ⟨hvalid, hyear, hhour, hminute, hsecond⟩, hmicros, Instant.ofMicros_self]

/-- A printed fraction is read back, also one that is left out. -/
theorem readFraction_append {micros : Nat} {tail : List Char} (hmicros : micros < 1000000)
    (hdot : ∀ rest, tail ≠ '.' :: rest) :
    readFraction ((if micros = 0 then [] else '.' :: pad6 micros) ++ tail) =
      some (micros, tail) := by
  by_cases hzero : micros = 0
  · rw [if_pos hzero, hzero, List.nil_append]
    cases tail with
    | nil => rfl
    | cons c rest =>
        have hc : c ≠ '.' := by
          rintro rfl
          exact hdot rest rfl
        unfold readFraction
        split
        · simp_all
        · simp_all
        · rfl
  · rw [if_neg hzero]
    have hdigits := number_pad6 hmicros
    unfold pad6 pad4 pad2 at hdigits ⊢
    simp only [List.cons_append, List.nil_append] at hdigits ⊢
    rw [readFraction, hdigits]
    rfl

/-- Reading a printed text with some offset gives the reading and the offset. -/
theorem fromisoformat_of_offset (t : Instant) {tail : List Char} {utcoffset : Option Int}
    (hoffset : readOffset tail = some utcoffset) (hdot : ∀ rest, tail ≠ '.' :: rest) :
    fromisoformat (String.ofList (t.seconds ++
      (if t.microsecond = 0 then [] else '.' :: pad6 t.microsecond) ++ tail)) =
      some ⟨t, utcoffset⟩ := by
  obtain ⟨-, -, hyear, hmonth, hday⟩ := t.date_spec
  have hhour : t.hour < 100 := by
    unfold Instant.hour microsPerDay
    omega
  have hminute : t.minute < 100 := by
    have : t.minute < 60 := Nat.mod_lt _ (by decide)
    omega
  have hsecond : t.second < 100 := by
    have : t.second < 60 := Nat.mod_lt _ (by decide)
    omega
  have hmicro : t.microsecond < 1000000 := Nat.mod_lt _ (by decide)
  have hfraction : readFraction ((if t.microsecond = 0 then []
      else '.' :: pad6 t.microsecond) ++ tail) = some (t.microsecond, tail) :=
    readFraction_append hmicro hdot
  unfold fromisoformat
  rw [String.toList_ofList]
  have h₁ := number_pad4 (n := t.date.year) (by omega)
  have h₂ := number_pad2 (n := t.date.month) (by omega)
  have h₃ := number_pad2 (n := t.date.day) (by omega)
  have h₄ := number_pad2 hhour
  have h₅ := number_pad2 hminute
  have h₆ := number_pad2 hsecond
  rw [List.append_assoc]
  generalize (if t.microsecond = 0 then [] else '.' :: pad6 t.microsecond) ++ tail =
    ending at hfraction ⊢
  unfold pad4 at h₁
  unfold Instant.seconds pad4
  unfold pad2 at h₁ h₂ h₃ h₄ h₅ h₆ ⊢
  simp only [List.cons_append, List.nil_append] at h₁ ⊢
  have hcompose : compose ⟨t.date.year, t.date.month, t.date.day⟩ t.hour t.minute t.second
      t.microsecond = some t := compose_fields t
  simp only [h₁, h₂, h₃, h₄, h₅, h₆, hfraction, hoffset, hcompose, bind, Option.bind]

/-- Reading the printed text of a UTC datetime gives the datetime back. -/
theorem fromisoformat_isoformat (t : Instant) : fromisoformat t.isoformat = some t.utc := by
  apply fromisoformat_of_offset
  · decide
  · intro rest h
    cases h

/-- A printed offset of less than a day is read back. -/
theorem readOffset_offsetText {utcoffset : Int} (h : utcoffset.natAbs < microsPerDay) :
    readOffset (offsetText utcoffset) = some (some utcoffset) := by
  unfold microsPerDay at h
  generalize hmicros : utcoffset.natAbs = micros at h
  have hhours := number_pad2 (n := micros / 3600000000) (by omega)
  have hminutes := number_pad2 (n := micros / 60000000 % 60) (by omega)
  have hrest : readOffsetSeconds (if micros % 60000000 = 0 then []
      else ':' :: (pad2 (micros / 1000000 % 60) ++
        if micros % 1000000 = 0 then [] else '.' :: pad6 (micros % 1000000))) =
      some (micros / 1000000 % 60, micros % 1000000) := by
    by_cases hzero : micros % 60000000 = 0
    · rw [if_pos hzero, show micros / 1000000 % 60 = 0 by omega,
        show micros % 1000000 = 0 by omega]
      rfl
    · rw [if_neg hzero]
      have hseconds := number_pad2 (n := micros / 1000000 % 60) (by omega)
      have hfraction : readFraction ((if micros % 1000000 = 0 then []
          else '.' :: pad6 (micros % 1000000)) ++ []) = some (micros % 1000000, []) :=
        readFraction_append (by omega) (by simp)
      rw [List.append_nil] at hfraction
      unfold pad2 at hseconds ⊢
      simp only [List.cons_append, List.nil_append]
      rw [readOffsetSeconds, hseconds]
      simp only [hfraction, bind, Option.bind]
  unfold offsetText
  rw [hmicros]
  dsimp only
  generalize (if micros % 60000000 = 0 then []
    else ':' :: (pad2 (micros / 1000000 % 60) ++
      if micros % 1000000 = 0 then [] else '.' :: pad6 (micros % 1000000))) = rest at hrest ⊢
  unfold pad2 at hhours hminutes ⊢
  simp only [List.cons_append, List.nil_append]
  have htotal : ((micros / 3600000000 * 60 + micros / 60000000 % 60) * 60 +
      micros / 1000000 % 60) * 1000000 + micros % 1000000 = micros := by omega
  unfold readOffset
  simp only [hhours, hminutes, hrest, htotal, bind, Option.bind]
  have hday : micros < microsPerDay := h
  by_cases hneg : utcoffset < 0
  · simp only [hneg, if_true]
    rw [if_neg (by decide)]
    rw [if_pos hday]
    congr 2
    omega
  · simp only [hneg, if_false, if_true, hday, Bool.false_eq_true, Option.some.injEq]
    omega

/-- Reading the printed text of a datetime gives the datetime back. -/
theorem DateTime.fromisoformat_isoformat {value : DateTime}
    (h : ∀ utcoffset ∈ value.utcoffset, utcoffset.natAbs < microsPerDay) :
    fromisoformat value.isoformat = some value := by
  obtain ⟨reading, utcoffset⟩ := value
  unfold DateTime.isoformat
  apply fromisoformat_of_offset
  · cases utcoffset with
    | none => rfl
    | some offset => exact readOffset_offsetText (h offset rfl)
  · intro rest hrest
    cases utcoffset with
    | none => cases hrest
    | some offset =>
        have hhead := (List.cons.inj hrest).1
        split_ifs at hhead
        all_goals exact absurd hhead (by decide)

/-! ### Conversion -/

/-- `value.astimezone(UTC)` of an aware datetime; `none` where it overflows. -/
def DateTime.astimezoneUtc (reading : Instant) (utcoffset : Int) : Option Instant :=
  Instant.ofMicros (reading.micros - utcoffset)

@[simp] theorem DateTime.astimezoneUtc_zero (t : Instant) :
    DateTime.astimezoneUtc t 0 = some t := by
  simp [DateTime.astimezoneUtc]

end Datetime
end Foundation
end Ryuk

import Mathlib.Tactic

/-!
# The proleptic Gregorian calendar

Day ordinals (day 1 is January 1 of year 1) and their conversion to a year, a
month and a day by repeated division into 400-, 100-, 4- and 1-year cycles.
`ordToYmd_spec` shows that the conversion only names days the calendar has and
that converting back gives the ordinal.
-/

namespace Ryuk
namespace Foundation
namespace Calendar

/-- Leap years. -/
def isLeap (year : Nat) : Bool :=
  year % 4 == 0 && (year % 100 != 0 || year % 400 == 0)

/-- Days before January 1 of a year. -/
def daysBeforeYear (year : Nat) : Nat :=
  (year - 1) * 365 + (year - 1) / 4 - (year - 1) / 100 + (year - 1) / 400

/-- Days before the first of a month in a common year. -/
def daysBeforeMonthTable (month : Nat) : Nat :=
  match month with
  | 1 => 0
  | 2 => 31
  | 3 => 59
  | 4 => 90
  | 5 => 120
  | 6 => 151
  | 7 => 181
  | 8 => 212
  | 9 => 243
  | 10 => 273
  | 11 => 304
  | 12 => 334
  | _ => 365

/-- Days before the first of a month. -/
def daysBeforeMonth (leap : Bool) (month : Nat) : Nat :=
  daysBeforeMonthTable month + (if 2 < month && leap then 1 else 0)

/-- Days in a month of a common year. -/
def daysInMonthTable (month : Nat) : Nat :=
  match month with
  | 2 => 28
  | 4 | 6 | 9 | 11 => 30
  | _ => 31

/-- Days in a month. -/
def daysInMonth (leap : Bool) (month : Nat) : Nat :=
  if month == 2 && leap then 29 else daysInMonthTable month

/-- A calendar day. -/
structure Date where
  year : Nat
  month : Nat
  day : Nat
  deriving DecidableEq

/-- Whether the calendar has a day. -/
def Date.valid (date : Date) : Bool :=
  decide (1 ≤ date.year) && decide (1 ≤ date.month) && decide (date.month ≤ 12) &&
    decide (1 ≤ date.day) && decide (date.day ≤ daysInMonth (isLeap date.year) date.month)

/-- The ordinal of a calendar day. -/
def ymdToOrd (date : Date) : Nat :=
  daysBeforeYear date.year + daysBeforeMonth (isLeap date.year) date.month + date.day

/-- The month and day of the day that follows `day` days of the year, found from
the estimate `(day + 50) / 32`, which is at most one month late. -/
def monthDay (leap : Bool) (day : Nat) : Nat × Nat :=
  let month := (day + 50) / 32
  let preceding := daysBeforeMonth leap month
  if day < preceding then
    (month - 1, day - (preceding - daysInMonth leap (month - 1)) + 1)
  else (month, day - preceding + 1)

/-- The calendar day of an ordinal. -/
def ordToYmd (ordinal : Nat) : Date :=
  let n := ordinal - 1
  let n400 := n / 146097
  let r400 := n % 146097
  let n100 := r400 / 36524
  let r100 := r400 % 36524
  let n4 := r100 / 1461
  let r4 := r100 % 1461
  let n1 := r4 / 365
  let r1 := r4 % 365
  let year := n400 * 400 + 1 + n100 * 100 + n4 * 4 + n1
  if n1 == 4 || n100 == 4 then ⟨year - 1, 12, 31⟩
  else
    let leap := n1 == 3 && (n4 != 24 || n100 == 3)
    let md := monthDay leap r1
    ⟨year, md.1, md.2⟩

/-- The month table is correct for every day of a common and of a leap year. -/
theorem monthDay_correct : ∀ leap : Bool, ∀ day < 366, (day < 365 ∨ leap = true) →
    1 ≤ (monthDay leap day).1 ∧ (monthDay leap day).1 ≤ 12 ∧ 1 ≤ (monthDay leap day).2 ∧
      (monthDay leap day).2 ≤ daysInMonth leap (monthDay leap day).1 ∧
      daysBeforeMonth leap (monthDay leap day).1 + (monthDay leap day).2 = day + 1 := by
  decide +kernel

/-- Days before the year that lies `a`, `b`, `c`, `d` whole cycles of 400, 100, 4
and 1 years after year 1. -/
theorem daysBeforeYear_cycles (a b c d : Nat) (hb : b < 4) (hc : c < 25) (hd : d < 4) :
    daysBeforeYear (a * 400 + 1 + b * 100 + c * 4 + d) =
      146097 * a + 36524 * b + 1461 * c + 365 * d := by
  unfold daysBeforeYear
  have hpred : a * 400 + 1 + b * 100 + c * 4 + d - 1 = 400 * a + 100 * b + 4 * c + d := by omega
  have hfour : (400 * a + 100 * b + 4 * c + d) / 4 = 100 * a + 25 * b + c := by omega
  have hhundred : (400 * a + 100 * b + 4 * c + d) / 100 = 4 * a + b := by omega
  have hcycle : (400 * a + 100 * b + 4 * c + d) / 400 = a := by omega
  rw [hpred, hfour, hhundred, hcycle]
  omega

theorem isLeap_cycles (a b c d : Nat) (hb : b < 4) (hc : c < 25) (hd : d < 4) :
    isLeap (a * 400 + 1 + b * 100 + c * 4 + d) = (d == 3 && (c != 24 || b == 3)) := by
  have hfour : (a * 400 + 1 + b * 100 + c * 4 + d) % 4 = (1 + d) % 4 := by omega
  have hhundred : (a * 400 + 1 + b * 100 + c * 4 + d) % 100 = (1 + c * 4 + d) % 100 := by omega
  have hcycle : (a * 400 + 1 + b * 100 + c * 4 + d) % 400 =
      (1 + b * 100 + c * 4 + d) % 400 := by omega
  unfold isLeap
  rw [hfour, hhundred, hcycle]
  interval_cases d
  · simp
  · simp
  · simp
  · interval_cases b <;> interval_cases c <;> rfl

/-- A day given by whole cycles and a day of the year is a day of the calendar
with the ordinal one expects. -/
theorem monthDay_cycles (a b c d day : Nat) (hb : b < 4) (hc : c < 25) (hd : d < 4)
    (hday : day < 365 ∨ (day = 365 ∧ (d == 3 && (c != 24 || b == 3)) = true))
    {md : Nat × Nat} (hmd : monthDay (d == 3 && (c != 24 || b == 3)) day = md) :
    (Date.mk (a * 400 + 1 + b * 100 + c * 4 + d) md.1 md.2).valid = true ∧
      ymdToOrd ⟨a * 400 + 1 + b * 100 + c * 4 + d, md.1, md.2⟩ =
        146097 * a + 36524 * b + 1461 * c + 365 * d + day + 1 := by
  obtain ⟨hlow, hhigh, hfirst, hlast, hsum⟩ :=
    monthDay_correct (d == 3 && (c != 24 || b == 3)) day (by omega)
      (hday.imp id fun h => h.2)
  rw [hmd] at hlow hhigh hfirst hlast hsum
  have hleap := isLeap_cycles a b c d hb hc hd
  have hbefore := daysBeforeYear_cycles a b c d hb hc hd
  constructor
  · unfold Date.valid
    simp only [hleap, Bool.and_eq_true, decide_eq_true_eq]
    exact ⟨⟨⟨⟨by omega, hlow⟩, hhigh⟩, hfirst⟩, hlast⟩
  · unfold ymdToOrd
    simp only [hleap, hbefore]
    omega

/-- Every ordinal names a day of the calendar, and that day has this ordinal. -/
theorem ordToYmd_spec (n : Nat) :
    (ordToYmd (n + 1)).valid = true ∧ ymdToOrd (ordToYmd (n + 1)) = n + 1 := by
  have hdecember : ∀ leap : Bool, leap = true → monthDay leap 365 = (12, 31) := by
    rintro leap rfl
    rfl
  unfold ordToYmd
  simp only [Nat.add_sub_cancel]
  generalize ha : n / 146097 = a
  generalize hr : n % 146097 = r400
  generalize hb : r400 / 36524 = b
  generalize hr' : r400 % 36524 = r100
  generalize hc : r100 / 1461 = c
  generalize hr'' : r100 % 1461 = r4
  generalize hd : r4 / 365 = d
  generalize hday : r4 % 365 = day
  have hc25 : c < 25 := by omega
  split_ifs with hlate
  · rw [Bool.or_eq_true, beq_iff_eq, beq_iff_eq] at hlate
    by_cases hb4 : b = 4
    · -- the last day of a 400-year cycle
      have hspec := monthDay_cycles a 3 24 3 365 (by decide) (by decide) (by decide)
        (Or.inr ⟨rfl, rfl⟩) (hdecember _ rfl)
      have hyear : a * 400 + 1 + b * 100 + c * 4 + d - 1 =
          a * 400 + 1 + 3 * 100 + 24 * 4 + 3 := by omega
      rw [hyear]
      exact ⟨hspec.1, hspec.2.trans (by omega)⟩
    · -- the last day of a leap year inside a cycle
      have hd4 : d = 4 := by omega
      have hleap : ((3 : Nat) == 3 && (c != 24 || b == 3)) = true := by
        have : c ≠ 24 := by omega
        simp [this]
      have hspec := monthDay_cycles a b c 3 365 (by omega) hc25 (by decide)
        (Or.inr ⟨rfl, hleap⟩) (hdecember _ hleap)
      have hyear : a * 400 + 1 + b * 100 + c * 4 + d - 1 =
          a * 400 + 1 + b * 100 + c * 4 + 3 := by omega
      rw [hyear]
      exact ⟨hspec.1, hspec.2.trans (by omega)⟩
  · rw [Bool.or_eq_true, beq_iff_eq, beq_iff_eq, not_or] at hlate
    have hspec := monthDay_cycles a b c d day (by omega) hc25 (by omega) (Or.inl (by omega))
      rfl
    exact ⟨hspec.1, hspec.2.trans (by omega)⟩

end Calendar
end Foundation
end Ryuk

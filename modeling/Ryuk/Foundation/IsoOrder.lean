import Mathlib.Data.String.Basic
import Ryuk.Foundation.Datetime

/-!
# The order of ISO texts

`isoformat` prints fixed-width fields from the year down, and the sign of the
offset sorts before the dot of the fraction.  So comparing two printed UTC
readings as text compares the readings: a store that keeps times as text and
compares them there decides as a reader that parses them.
-/

namespace Ryuk
namespace Foundation
namespace Calendar

/-! ### The order of calendar days -/

theorem daysBeforeYear_succ (year : Nat) (h : 1 ≤ year) :
    daysBeforeYear (year + 1) = daysBeforeYear year + 365 + (isLeap year).toNat := by
  obtain ⟨n, rfl⟩ := Nat.exists_eq_add_of_le' h
  have hcenturies : n / 100 ≤ n := Nat.div_le_self n 100
  -- each quotient grows when its divisor divides the year
  have hquotient : ∀ divisor, (n + 1) / divisor = n / divisor +
      if (n + 1) % divisor = 0 then 1 else 0 := by
    intro divisor
    rw [Nat.succ_div]
    simp only [Nat.dvd_iff_mod_eq_zero]
  unfold daysBeforeYear isLeap
  simp only [Nat.add_sub_cancel]
  rw [hquotient 4, hquotient 100, hquotient 400]
  generalize n / 4 = fourths at *
  generalize n / 100 = hundreds at *
  generalize n / 400 = fourHundreds at *
  by_cases h4 : (n + 1) % 4 = 0
  · by_cases h100 : (n + 1) % 100 = 0
    · by_cases h400 : (n + 1) % 400 = 0
      · simp only [h4, h100, h400, if_true, bne_self_eq_false, BEq.rfl, Bool.or_true,
          Bool.and_self, Bool.toNat_true]
        omega
      · have hleap : ((n + 1) % 400 == 0) = false := by simpa using h400
        simp only [h4, h100, h400, hleap, if_true, if_false, bne_self_eq_false, Bool.or_self,
          Bool.and_false, Bool.toNat_false]
        omega
    · have hleap : ((n + 1) % 100 != 0) = true := by simpa using h100
      have h400 : ¬ (n + 1) % 400 = 0 := by omega
      simp only [h4, h100, h400, hleap, if_true, if_false, BEq.rfl, Bool.true_or, Bool.and_self,
        Bool.toNat_true]
      omega
  · have hleap : ((n + 1) % 4 == 0) = false := by simpa using h4
    have h100 : ¬ (n + 1) % 100 = 0 := by omega
    have h400 : ¬ (n + 1) % 400 = 0 := by omega
    simp only [h4, h100, h400, hleap, if_false, Bool.false_and, Bool.toNat_false]
    omega

theorem daysBeforeYear_mono : Monotone daysBeforeYear := by
  apply monotone_nat_of_le_succ
  intro year
  rcases Nat.eq_zero_or_pos year with rfl | hyear
  · decide
  · rw [daysBeforeYear_succ year hyear]
    omega

/-- The days of a month end before the next month starts. -/
theorem daysBeforeMonth_step : ∀ leap : Bool, ∀ month < 13, 1 ≤ month → ∀ later < 13,
    month < later → daysBeforeMonth leap month + daysInMonth leap month ≤
      daysBeforeMonth leap later := by
  decide

/-- The days of a month end with the year. -/
theorem daysBeforeMonth_year : ∀ leap : Bool, ∀ month < 13, 1 ≤ month →
    daysBeforeMonth leap month + daysInMonth leap month ≤ 365 + leap.toNat := by
  decide

/-- A day before another by year, month and day. -/
def Date.before (first second : Date) : Prop :=
  first.year < second.year ∨ (first.year = second.year ∧
    (first.month < second.month ∨ (first.month = second.month ∧ first.day < second.day)))

/-- Days that are ordered by year, month and day have ordinals in that order. -/
theorem ymdToOrd_lt {first second : Date} (hfirst : first.valid = true)
    (hsecond : second.valid = true) (h : first.before second) :
    ymdToOrd first < ymdToOrd second := by
  obtain ⟨year, month, day⟩ := first
  obtain ⟨year', month', day'⟩ := second
  unfold Date.valid at hfirst hsecond
  simp only [Bool.and_eq_true, decide_eq_true_eq] at hfirst hsecond
  obtain ⟨⟨⟨⟨hyear, hmonth⟩, hmonths⟩, hday⟩, hdays⟩ := hfirst
  obtain ⟨⟨⟨⟨hyear', hmonth'⟩, hmonths'⟩, hday'⟩, hdays'⟩ := hsecond
  unfold Date.before at h
  unfold ymdToOrd
  simp only at h ⊢
  rcases h with hlt | ⟨rfl, hlt | ⟨rfl, hlt⟩⟩
  · have hend := daysBeforeMonth_year (isLeap year) month (by omega) hmonth
    have hnext := daysBeforeYear_succ year hyear
    have hmono : daysBeforeYear (year + 1) ≤ daysBeforeYear year' := daysBeforeYear_mono hlt
    omega
  · have hstep := daysBeforeMonth_step (isLeap year) month (by omega) hmonth month' (by omega) hlt
    omega
  · omega

/-- Days with ordinals in order are ordered by year, month and day. -/
theorem before_of_ymdToOrd_lt {first second : Date} (hfirst : first.valid = true)
    (hsecond : second.valid = true) (h : ymdToOrd first < ymdToOrd second) :
    first.before second := by
  by_contra hnot
  by_cases hback : second.before first
  · have := ymdToOrd_lt hsecond hfirst hback
    omega
  · -- days that are ordered in neither way are the same day
    have hsame : first = second := by
      obtain ⟨year, month, day⟩ := first
      obtain ⟨year', month', day'⟩ := second
      unfold Date.before at hnot hback
      simp only at hnot hback
      rw [Date.mk.injEq]
      omega
    rw [hsame] at h
    omega

end Calendar

namespace Datetime

open Calendar

/-! ### The order of printed fields -/

theorem digitChar_lt : ∀ left < 10, ∀ right < 10, left < right →
    Nat.digitChar left < Nat.digitChar right := by decide

variable {left right : Nat} {first second : List Char}

/-- A field of two digits decides, and equal fields leave it to what follows. -/
theorem pad2_append_lt (hright : right < 100)
    (h : left < right ∨ (left = right ∧ first < second)) :
    pad2 left ++ first < pad2 right ++ second := by
  unfold pad2
  simp only [List.cons_append, List.nil_append, List.cons_lt_cons_iff]
  rcases h with hlt | ⟨rfl, hrest⟩
  · by_cases htens : left / 10 = right / 10
    · right
      refine ⟨by rw [htens], Or.inl ?_⟩
      exact digitChar_lt _ (by omega) _ (by omega) (by omega)
    · left
      exact digitChar_lt _ (by omega) _ (by omega) (by omega)
  · exact Or.inr ⟨rfl, Or.inr ⟨rfl, hrest⟩⟩

theorem pad4_append_lt (hright : right < 10000)
    (h : left < right ∨ (left = right ∧ first < second)) :
    pad4 left ++ first < pad4 right ++ second := by
  unfold pad4
  rw [List.append_assoc, List.append_assoc]
  apply pad2_append_lt (by omega)
  by_cases hhigh : left / 100 = right / 100
  · refine Or.inr ⟨hhigh, pad2_append_lt (by omega) ?_⟩
    rcases h with hlt | ⟨rfl, hrest⟩
    · exact Or.inl (by omega)
    · exact Or.inr ⟨rfl, hrest⟩
  · left
    rcases h with hlt | ⟨rfl, -⟩
    · omega
    · exact absurd rfl hhigh

theorem pad6_append_lt (hright : right < 1000000) (h : left < right) :
    pad6 left ++ first < pad6 right ++ first := by
  unfold pad6
  rw [List.append_assoc, List.append_assoc]
  apply pad2_append_lt (by omega)
  by_cases hhigh : left / 10000 = right / 10000
  · exact Or.inr ⟨hhigh, pad4_append_lt (by omega) (Or.inl (by omega))⟩
  · exact Or.inl (by omega)

/-- Fields that are separated by the same character. -/
theorem cons_lt (separator : Char) (h : first < second) :
    separator :: first < separator :: second :=
  List.cons_lt_cons_iff.mpr (Or.inr ⟨rfl, h⟩)

/-! ### The order of printed readings -/

/-- The text after the seconds. -/
def Instant.fraction (t : Instant) : List Char :=
  (if t.microsecond = 0 then [] else '.' :: pad6 t.microsecond) ++ ['+', '0', '0', ':', '0', '0']

/-- Within one second the fraction decides; the sign that follows a whole second
sorts before the dot. -/
theorem fraction_lt {early late : Instant} (h : early.microsecond < late.microsecond) :
    early.fraction < late.fraction := by
  have hbound : late.microsecond < 1000000 := Nat.mod_lt _ (by decide)
  unfold Instant.fraction
  rw [if_neg (by omega : ¬ late.microsecond = 0)]
  by_cases hzero : early.microsecond = 0
  · rw [if_pos hzero]
    exact List.cons_lt_cons_iff.mpr (Or.inl (by decide))
  · rw [if_neg hzero]
    exact cons_lt '.' (pad6_append_lt hbound h)

/-- The fields of a reading before another, from the hour down. -/
def Instant.clockBefore (early late : Instant) : Prop :=
  early.hour < late.hour ∨ (early.hour = late.hour ∧
    (early.minute < late.minute ∨ (early.minute = late.minute ∧
      (early.second < late.second ∨ (early.second = late.second ∧
        early.microsecond < late.microsecond)))))

/-- Readings in order differ first in the day or in the clock. -/
theorem date_or_clock_before {early late : Instant} (h : early < late) :
    early.date.before late.date ∨ (early.date = late.date ∧ early.clockBefore late) := by
  rw [Instant.lt_iff] at h
  obtain ⟨hvalid, hord, -⟩ := early.date_spec
  obtain ⟨hvalid', hord', -⟩ := late.date_spec
  by_cases hday : early.micros / microsPerDay = late.micros / microsPerDay
  · right
    refine ⟨by unfold Instant.date; rw [hday], ?_⟩
    unfold Instant.clockBefore Instant.hour Instant.minute Instant.second Instant.microsecond
    unfold microsPerDay at hday ⊢
    omega
  · left
    apply before_of_ymdToOrd_lt hvalid hvalid'
    have hle : early.micros / microsPerDay ≤ late.micros / microsPerDay :=
      Nat.div_le_div_right (by omega)
    omega

/-- The text of a reading, field by field. -/
theorem isoformat_toList (t : Instant) :
    t.isoformat.toList = pad4 t.date.year ++ '-' :: (pad2 t.date.month ++ '-' ::
      (pad2 t.date.day ++ 'T' :: (pad2 t.hour ++ ':' :: (pad2 t.minute ++ ':' ::
        (pad2 t.second ++ t.fraction))))) := by
  unfold Instant.isoformat Instant.seconds Instant.fraction
  rw [String.toList_ofList]
  simp only [List.append_assoc, List.cons_append]

/-- **Text order.**  A later reading has a greater text. -/
theorem isoformat_lt {early late : Instant} (h : early < late) :
    early.isoformat < late.isoformat := by
  rw [String.lt_iff_toList_lt, isoformat_toList, isoformat_toList]
  obtain ⟨-, -, hyear, hmonth, hday⟩ := late.date_spec
  have hhour : late.hour < 100 := by
    unfold Instant.hour microsPerDay
    omega
  have hminute : late.minute < 60 := Nat.mod_lt _ (by decide)
  have hsecond : late.second < 60 := Nat.mod_lt _ (by decide)
  -- the clock, from the hour down
  have hclock : early.clockBefore late →
      pad2 early.hour ++ ':' :: (pad2 early.minute ++ ':' :: (pad2 early.second ++
        early.fraction)) < pad2 late.hour ++ ':' :: (pad2 late.minute ++ ':' ::
          (pad2 late.second ++ late.fraction)) := by
    intro hbefore
    refine pad2_append_lt hhour (hbefore.imp_right (And.imp_right fun hbefore => ?_))
    refine cons_lt _ (pad2_append_lt (by omega) (hbefore.imp_right (And.imp_right fun hbefore => ?_)))
    exact cons_lt _ (pad2_append_lt (by omega) (hbefore.imp_right (And.imp_right fraction_lt)))
  rcases date_or_clock_before h with hdate | ⟨hdate, hbefore⟩
  · refine pad4_append_lt (by omega) (hdate.imp_right (And.imp_right fun hdate => ?_))
    refine cons_lt _ (pad2_append_lt (by omega) (hdate.imp_right (And.imp_right fun hdate => ?_)))
    exact cons_lt _ (pad2_append_lt (by omega) (Or.inl hdate))
  · rw [hdate]
    refine pad4_append_lt (by omega) (Or.inr ⟨rfl, cons_lt _ ?_⟩)
    refine pad2_append_lt (by omega) (Or.inr ⟨rfl, cons_lt _ ?_⟩)
    exact pad2_append_lt (by omega) (Or.inr ⟨rfl, cons_lt _ (hclock hbefore)⟩)

theorem isoformat_strictMono : StrictMono Instant.isoformat := fun _ _ => isoformat_lt

/-- Comparing the texts compares the readings. -/
theorem isoformat_le_iff {early late : Instant} :
    early.isoformat ≤ late.isoformat ↔ early ≤ late :=
  isoformat_strictMono.le_iff_le

end Datetime
end Foundation
end Ryuk

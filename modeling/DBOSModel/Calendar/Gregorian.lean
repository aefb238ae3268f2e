import Mathlib.Order.SuccPred.Basic
import Mathlib.Order.SuccPred.LinearLocallyFinite
import Mathlib.Algebra.Order.SuccPred
import Mathlib.Data.Int.SuccPred
import Mathlib.Data.Int.ConditionallyCompleteOrder
import Mathlib.Tactic.NormNum

/-!
# The proleptic Gregorian calendar

Days are counted by their ordinal: day 1 is the first of January of year 1, and years run over all
integers. A month is counted by the number of months since January of year 0, so that the months
before and after it are its neighbours, whatever their years are.

Everything here rests on one fact: the months follow each other without a gap. So every day lies in
exactly one month, and days that are apart by less than a month lie in the same month or in
neighbouring ones.
-/

namespace Calendar

/-- A leap year. -/
def isLeap (year : ℤ) : Bool :=
  year % 400 == 0 || (year % 4 == 0 && year % 100 != 0)

/-- The number of days of a month, the first month of the year being 1. -/
def daysInMonth (year : ℤ) (month : ℕ) : ℕ :=
  if month = 2 then if isLeap year then 29 else 28
  else if month = 4 ∨ month = 6 ∨ month = 9 ∨ month = 11 then 30
  else 31

def daysInYear (year : ℤ) : ℕ :=
  if isLeap year then 366 else 365

/-- The number of days before the first of January. -/
def daysBeforeYear (year : ℤ) : ℤ :=
  (year - 1) * 365 + (year - 1) / 4 - (year - 1) / 100 + (year - 1) / 400

/-- The number of days of the first months of a year. -/
def daysBeforeMonth (year : ℤ) : ℕ → ℕ
  | 0 => 0
  | months + 1 => daysBeforeMonth year months + daysInMonth year (months + 1)

theorem le_daysInMonth (year : ℤ) (month : ℕ) : 28 ≤ daysInMonth year month := by
  unfold daysInMonth
  split_ifs <;> omega
/-! ## Years -/

theorem isLeap_iff (year : ℤ) :
    isLeap year = true ↔ year % 400 = 0 ∨ (year % 4 = 0 ∧ year % 100 ≠ 0) := by
  simp [isLeap]

theorem daysBeforeYear_succ (year : ℤ) :
    daysBeforeYear (year + 1) = daysBeforeYear year + daysInYear year := by
  unfold daysBeforeYear daysInYear
  have h := isLeap_iff year
  by_cases hleap : isLeap year
  · rw [if_pos hleap]
    have := h.1 hleap
    omega
  · rw [if_neg hleap]
    have : ¬ (year % 400 = 0 ∨ (year % 4 = 0 ∧ year % 100 ≠ 0)) := fun hyear ↦ hleap (h.2 hyear)
    omega

theorem daysBeforeYear_add_le (year : ℤ) (years : ℕ) :
    daysBeforeYear (year + years) ≤ daysBeforeYear year + 366 * years := by
  induction years with
  | zero => simp
  | succ years ih =>
    have hstep := daysBeforeYear_succ (year + years)
    have hlength : daysInYear (year + years) ≤ 366 := by
      unfold daysInYear
      split <;> omega
    rw [Nat.cast_succ, ← add_assoc, hstep]
    omega

theorem daysBeforeMonth_twelve (year : ℤ) :
    daysBeforeMonth year 12 = daysInYear year := by
  unfold daysInYear
  simp only [daysBeforeMonth, daysInMonth]
  by_cases h : isLeap year <;> simp [h]

/-! ## Months -/

/-- The number of days of a month that is counted from January of year 0. -/
def monthLength (month : ℤ) : ℕ :=
  daysInMonth (month / 12) ((month % 12).toNat + 1)

/-- The ordinal of the day before the first of a month. -/
def monthStart (month : ℤ) : ℤ :=
  daysBeforeYear (month / 12) + daysBeforeMonth (month / 12) (month % 12).toNat

theorem monthLength_ge (month : ℤ) : 28 ≤ monthLength month :=
  le_daysInMonth _ _

/-- The months follow each other without a gap. -/
theorem monthStart_succ (month : ℤ) :
    monthStart (month + 1) = monthStart month + monthLength month := by
  unfold monthStart monthLength
  by_cases hlast : month % 12 = 11
  · have hyear : (month + 1) / 12 = month / 12 + 1 := by omega
    have hmonth : (month + 1) % 12 = 0 := by omega
    have hsplit : daysInYear (month / 12) =
        daysBeforeMonth (month / 12) 11 + daysInMonth (month / 12) 12 :=
      (daysBeforeMonth_twelve _).symm
    rw [hyear, hmonth, hlast, daysBeforeYear_succ, hsplit]
    change _ + ((daysBeforeMonth (month / 12) 11 + daysInMonth (month / 12) 12 : ℕ) : ℤ) + (0 : ℕ) =
      _ + (daysBeforeMonth (month / 12) 11 : ℤ) + (daysInMonth (month / 12) 12 : ℤ)
    omega
  · have hyear : (month + 1) / 12 = month / 12 := by omega
    have hmonth : ((month + 1) % 12).toNat = (month % 12).toNat + 1 := by omega
    rw [hyear, hmonth, daysBeforeMonth]
    omega

theorem strictMono_monthStart : StrictMono monthStart := by
  apply strictMono_int_of_lt_succ
  intro month
  have := monthLength_ge month
  rw [monthStart_succ]
  omega

/-- A day lies in one month only. -/
theorem month_unique {day month month' : ℤ} (hstart : monthStart month < day)
    (hend : day ≤ monthStart (month + 1)) (hstart' : monthStart month' < day)
    (hend' : day ≤ monthStart (month' + 1)) : month = month' := by
  have h : ∀ {m m' : ℤ}, day ≤ monthStart (m + 1) → monthStart m' < day → m' ≤ m := by
    intro m m' hm hm'
    have hlt : monthStart m' < monthStart (m + 1) := lt_of_lt_of_le hm' hm
    have := strictMono_monthStart.lt_iff_lt.1 hlt
    omega
  exact le_antisymm (h hend' hstart) (h hend hstart')

/-! ## The month of a day -/

/-- The year of a day. The quotient is off by one year at most. -/
def yearOf (day : ℤ) : ℤ :=
  let year := day * 400 / 146097 + 1
  if day ≤ daysBeforeYear year then year - 1
  else if daysBeforeYear (year + 1) < day then year + 1
  else year

theorem daysBeforeYear_bounds (year : ℤ) :
    146097 * (year - 1) - 699 ≤ 400 * daysBeforeYear year ∧
      400 * daysBeforeYear year ≤ 146097 * (year - 1) + 396 := by
  unfold daysBeforeYear
  omega

theorem yearOf_spec (day : ℤ) :
    daysBeforeYear (yearOf day) < day ∧ day ≤ daysBeforeYear (yearOf day + 1) := by
  have before := daysBeforeYear_bounds (day * 400 / 146097)
  have after := daysBeforeYear_bounds (day * 400 / 146097 + 1 + 1 + 1)
  simp only [yearOf]
  split_ifs with hlow hhigh
  · rw [add_sub_cancel_right]
    omega
  · omega
  · omega

/-- The number of the first months of a year that end before its given day. -/
def monthsBefore (year : ℤ) (day : ℤ) : ℕ → ℕ
  | 0 => 0
  | months + 1 =>
    if (daysBeforeMonth year (months + 1) : ℤ) < day then months + 1
    else monthsBefore year day months

theorem monthsBefore_spec {year day : ℤ} (hpos : 0 < day) :
    ∀ {months : ℕ}, day ≤ daysBeforeMonth year (months + 1) →
      monthsBefore year day months ≤ months ∧
        (daysBeforeMonth year (monthsBefore year day months) : ℤ) < day ∧
          day ≤ daysBeforeMonth year (monthsBefore year day months + 1) := by
  intro months
  induction months with
  | zero =>
    intro hle
    exact ⟨le_rfl, hpos, hle⟩
  | succ months ih =>
    intro hle
    rw [monthsBefore]
    split_ifs with hlt
    · exact ⟨le_rfl, hlt, hle⟩
    · have h := ih (not_lt.1 hlt)
      exact ⟨h.1.trans (Nat.le_succ months), h.2⟩

/-- The month of a day, counted from January of year 0. -/
def monthOf (day : ℤ) : ℤ :=
  12 * yearOf day + monthsBefore (yearOf day) (day - daysBeforeYear (yearOf day)) 11

theorem monthOf_spec (day : ℤ) :
    monthStart (monthOf day) < day ∧ day ≤ monthStart (monthOf day + 1) := by
  have hyear := yearOf_spec day
  have hrest : day - daysBeforeYear (yearOf day) ≤ daysBeforeMonth (yearOf day) (11 + 1) := by
    have := daysBeforeYear_succ (yearOf day)
    rw [daysBeforeMonth_twelve]
    omega
  have hmonths := monthsBefore_spec (by omega) hrest
  have hdiv : monthOf day / 12 = yearOf day := by
    unfold monthOf
    omega
  have hmod : (monthOf day % 12).toNat =
      monthsBefore (yearOf day) (day - daysBeforeYear (yearOf day)) 11 := by
    unfold monthOf
    omega
  have hstart : monthStart (monthOf day) = daysBeforeYear (yearOf day) +
      daysBeforeMonth (yearOf day)
        (monthsBefore (yearOf day) (day - daysBeforeYear (yearOf day)) 11) := by
    unfold monthStart
    rw [hdiv, hmod]
  have hlength : monthLength (monthOf day) = daysInMonth (yearOf day)
      (monthsBefore (yearOf day) (day - daysBeforeYear (yearOf day)) 11 + 1) := by
    unfold monthLength
    rw [hdiv, hmod]
  have hnext := hmonths.2.2
  rw [daysBeforeMonth] at hnext
  rw [monthStart_succ, hstart, hlength]
  omega

theorem monthOf_eq {day month : ℤ} (hstart : monthStart month < day)
    (hend : day ≤ monthStart month + monthLength month) : monthOf day = month := by
  have hspec := monthOf_spec day
  rw [← monthStart_succ] at hend
  exact month_unique hspec.1 hspec.2 hstart hend

/-- The day in its month, the first one being 1. -/
def dayOfMonth (day : ℤ) : ℕ :=
  (day - monthStart (monthOf day)).toNat

theorem dayOfMonth_cast (day : ℤ) : (dayOfMonth day : ℤ) = day - monthStart (monthOf day) := by
  have := (monthOf_spec day).1
  unfold dayOfMonth
  omega

theorem one_le_dayOfMonth (day : ℤ) : 1 ≤ dayOfMonth day := by
  have := (monthOf_spec day).1
  have := dayOfMonth_cast day
  omega

theorem dayOfMonth_le (day : ℤ) : dayOfMonth day ≤ monthLength (monthOf day) := by
  have hend := (monthOf_spec day).2
  have := dayOfMonth_cast day
  rw [monthStart_succ] at hend
  omega

/-- The month and the day in it give the day back. -/
theorem monthStart_add_dayOfMonth (day : ℤ) :
    monthStart (monthOf day) + dayOfMonth day = day := by
  have := dayOfMonth_cast day
  omega

/-- A day of a given month that the month has. -/
theorem monthOf_monthStart_add {month : ℤ} {day : ℕ} (hpos : 1 ≤ day)
    (hle : day ≤ monthLength month) : monthOf (monthStart month + day) = month := by
  apply monthOf_eq <;> omega

theorem dayOfMonth_monthStart_add {month : ℤ} {day : ℕ} (hpos : 1 ≤ day)
    (hle : day ≤ monthLength month) : dayOfMonth (monthStart month + day) = day := by
  have := dayOfMonth_cast (monthStart month + day)
  rw [monthOf_monthStart_add hpos hle] at this
  omega

/-- A later day that is still in the month. -/
theorem monthOf_add_of_le {day count : ℤ} (hnonneg : 0 ≤ count)
    (hle : dayOfMonth day + count ≤ monthLength (monthOf day)) :
    monthOf (day + count) = monthOf day := by
  have := monthStart_add_dayOfMonth day
  have := one_le_dayOfMonth day
  apply monthOf_eq <;> omega

/-- A later day that is past the month, by no more than the next one has. -/
theorem monthOf_add_of_lt {day count : ℤ}
    (hlt : (monthLength (monthOf day) : ℤ) < dayOfMonth day + count)
    (hle : dayOfMonth day + count ≤ monthLength (monthOf day) + monthLength (monthOf day + 1)) :
    monthOf (day + count) = monthOf day + 1 := by
  have := monthStart_add_dayOfMonth day
  have := monthStart_succ (monthOf day)
  apply monthOf_eq <;> omega

/-- From the start of a month on, the day in the month is at most the distance from there. -/
theorem dayOfMonth_le_sub (day month : ℤ) (hlt : monthStart month < day) :
    (dayOfMonth day : ℤ) ≤ day - monthStart month := by
  have hend := (monthOf_spec day).2
  have hmonth := strictMono_monthStart.lt_iff_lt.1 (lt_of_lt_of_le hlt hend)
  have hle := strictMono_monthStart.monotone (Int.lt_add_one_iff.1 hmonth)
  have := dayOfMonth_cast day
  omega

/-- The day of the week, Sunday being 0. -/
def weekday (day : ℤ) : ℕ :=
  (day % 7).toNat

theorem weekday_lt (day : ℤ) : weekday day < 7 := by
  unfold weekday
  omega

end Calendar

import DBOSModel.Calendar.Gregorian
import Mathlib.Data.Int.Order.Basic

/-!
# Dates with a time of day

A naive date-time of the calendar, to the second, is the number of its seconds since the first of
January 1970, and its fields are read off that number. Adding a relative delta first replaces the
fields that the delta fixes, then adds the rest. The lemmas say where the result lies in the count of
the unit that moves: the month, the day, the hour, the minute or the second.
-/

namespace Calendar

/-- A naive date-time, in seconds since the first of January 1970. -/
@[ext]
structure DateTime where
  seconds : ℤ
deriving DecidableEq, Repr

/-- The ordinal of the first of January 1970. -/
def epochDay : ℤ := 719163

namespace DateTime

variable (d : DateTime)

/-- The ordinal of the day. -/
def ordinal : ℤ := d.seconds / 86400 + epochDay

/-- The month, counted from January of year 0. -/
def monthIndex : ℤ := monthOf d.ordinal

def year : ℤ := d.monthIndex / 12

def month : ℕ := (d.monthIndex % 12).toNat + 1

def day : ℕ := dayOfMonth d.ordinal

/-- The number of days of the month. -/
def monthDays : ℕ := monthLength d.monthIndex

/-- The day of the week, Sunday being 0. -/
def weekday : ℕ := Calendar.weekday d.ordinal

def hour : ℕ := (d.seconds / 3600 % 24).toNat

def minute : ℕ := (d.seconds / 60 % 60).toNat

def second : ℕ := (d.seconds % 60).toNat

/-- The date-time with the given fields. -/
def ofFields (monthIndex : ℤ) (day hour minute second : ℕ) : DateTime where
  seconds := (monthStart monthIndex + day - epochDay) * 86400 + hour * 3600 + minute * 60 + second
theorem one_le_month : 1 ≤ d.month := Nat.le_add_left _ _

theorem month_le : d.month ≤ 12 := by
  unfold month
  omega

theorem one_le_day : 1 ≤ d.day := one_le_dayOfMonth _

theorem day_le : d.day ≤ d.monthDays := dayOfMonth_le _

theorem monthIndex_eq : d.monthIndex = 12 * d.year + (d.month - 1) := by
  unfold year month
  omega

theorem monthDays_eq : d.monthDays = daysInMonth d.year d.month := rfl

theorem ordinal_eq : d.ordinal = monthStart d.monthIndex + d.day :=
  (monthStart_add_dayOfMonth d.ordinal).symm

theorem ordinal_ofFields (monthIndex : ℤ) (day : ℕ) {hour minute second : ℕ} (hhour : hour < 24)
    (hminute : minute < 60) (hsecond : second < 60) :
    (ofFields monthIndex day hour minute second).ordinal = monthStart monthIndex + day := by
  unfold ofFields ordinal
  simp only
  omega

theorem hour_ofFields {monthIndex : ℤ} {day hour minute second : ℕ} (hhour : hour < 24)
    (hminute : minute < 60) (hsecond : second < 60) :
    (ofFields monthIndex day hour minute second).hour = hour := by
  unfold ofFields DateTime.hour
  simp only
  omega

theorem minute_ofFields {monthIndex : ℤ} {day hour minute second : ℕ} (hminute : minute < 60)
    (hsecond : second < 60) : (ofFields monthIndex day hour minute second).minute = minute := by
  unfold ofFields DateTime.minute
  simp only
  omega

theorem second_ofFields {monthIndex : ℤ} {day hour minute second : ℕ} (hsecond : second < 60) :
    (ofFields monthIndex day hour minute second).second = second := by
  unfold ofFields DateTime.second
  simp only
  omega

theorem monthIndex_ofFields {monthIndex : ℤ} {day hour minute second : ℕ} (hday : 1 ≤ day)
    (hle : day ≤ monthLength monthIndex) (hhour : hour < 24) (hminute : minute < 60)
    (hsecond : second < 60) :
    (ofFields monthIndex day hour minute second).monthIndex = monthIndex := by
  unfold DateTime.monthIndex
  rw [ordinal_ofFields _ _ hhour hminute hsecond]
  exact monthOf_monthStart_add hday hle

end DateTime

/-! ## Relative deltas -/

/-- A delta: the fields that it fixes, and the numbers of units that it adds. -/
structure RelativeDelta where
  years : ℤ := 0
  months : ℤ := 0
  days : ℤ := 0
  hours : ℤ := 0
  minutes : ℤ := 0
  seconds : ℤ := 0
  month : Option ℕ := none
  day : Option ℕ := none
  hour : Option ℕ := none
  minute : Option ℕ := none
  second : Option ℕ := none
deriving DecidableEq, Repr

namespace DateTime

variable (d : DateTime) (delta : RelativeDelta)

/-- The month after the fixed month, the years and the months. -/
def shiftedMonth : ℤ :=
  12 * (d.year + delta.years) + (((delta.month.getD d.month : ℕ) : ℤ) - 1) + delta.months

/-- The date-time after a delta. A day that the month does not have becomes its last day. -/
def shift : DateTime where
  seconds :=
    (ofFields (d.shiftedMonth delta)
      (min (monthLength (d.shiftedMonth delta)) (delta.day.getD d.day))
      (delta.hour.getD d.hour) (delta.minute.getD d.minute) (delta.second.getD d.second)).seconds +
    delta.days * 86400 + delta.hours * 3600 + delta.minutes * 60 + delta.seconds

/-- Without a fixed date and without years and months the day is kept before the units are added. -/
theorem seconds_shift_of_date (hyears : delta.years = 0) (hmonths : delta.months = 0)
    (hmonth : delta.month = none) (hday : delta.day = none) :
    (d.shift delta).seconds =
      d.seconds / 86400 * 86400 + delta.hour.getD d.hour * 3600 + delta.minute.getD d.minute * 60 +
        delta.second.getD d.second + delta.days * 86400 + delta.hours * 3600 + delta.minutes * 60 +
          delta.seconds := by
  have hindex : d.shiftedMonth delta = d.monthIndex := by
    rw [shiftedMonth, hyears, hmonths, hmonth, d.monthIndex_eq]
    simp
  have hordinal := d.ordinal_eq
  have hle : d.day ≤ monthLength d.monthIndex := d.day_le
  unfold ordinal at hordinal
  unfold shift ofFields
  simp only [hindex, hday, Option.getD_none, min_eq_right hle]
  omega

/-- A number of days later, at a given time of the day. -/
theorem seconds_shift_days (count : ℤ) (hour minute second : ℕ) :
    (d.shift
      { days := count, hour := some hour, minute := some minute, second := some second }).seconds =
        (d.ordinal - epochDay + count) * 86400 + hour * 3600 + minute * 60 + second := by
  rw [seconds_shift_of_date d _ rfl rfl rfl rfl]
  unfold ordinal
  simp only [Option.getD_some]
  omega

/-- A number of hours later, at a given time of the hour. -/
theorem seconds_shift_hours (count : ℤ) (minute second : ℕ) :
    (d.shift { hours := count, minute := some minute, second := some second }).seconds =
      (d.seconds / 3600 + count) * 3600 + minute * 60 + second := by
  rw [seconds_shift_of_date d _ rfl rfl rfl rfl]
  unfold hour
  simp only [Option.getD_some, Option.getD_none]
  omega

/-- A number of minutes later, at a given second. -/
theorem seconds_shift_minutes (count : ℤ) (second : ℕ) :
    (d.shift { minutes := count, second := some second }).seconds =
      (d.seconds / 60 + count) * 60 + second := by
  rw [seconds_shift_of_date d _ rfl rfl rfl rfl]
  unfold hour minute
  simp only [Option.getD_some, Option.getD_none]
  omega

theorem seconds_shift_seconds (count : ℤ) :
    (d.shift { seconds := count }).seconds = d.seconds + count := by
  rw [seconds_shift_of_date d _ rfl rfl rfl rfl]
  unfold hour minute second
  simp only [Option.getD_none]
  omega

/-- A number of months later, on a day that every month has. -/
theorem seconds_shift_months {count : ℤ} {day hour minute second : ℕ} (hday : day ≤ 28) :
    (d.shift
      { months := count, day := some day,
        hour := some hour, minute := some minute, second := some second }).seconds =
          (ofFields (d.monthIndex + count) day hour minute second).seconds := by
  have hindex : d.shiftedMonth
      { months := count, day := some day,
        hour := some hour, minute := some minute, second := some second } =
          d.monthIndex + count := by
    rw [shiftedMonth, d.monthIndex_eq]
    simp
  have hle : day ≤ monthLength (d.monthIndex + count) := hday.trans (monthLength_ge _)
  unfold shift
  simp only [hindex, Option.getD_some, min_eq_right hle]
  omega

/-- A number of years later, on a day of a month, when every year has it. -/
theorem seconds_shift_years {count : ℤ} {month day hour minute second : ℕ} (hday : day ≤ 28) :
    (d.shift
      { years := count, month := some month, day := some day,
        hour := some hour, minute := some minute, second := some second }).seconds =
          (ofFields (12 * (d.year + count) + (month - 1)) day hour minute second).seconds := by
  have hle : day ≤ monthLength (12 * (d.year + count) + (month - 1)) :=
    hday.trans (monthLength_ge _)
  unfold shift shiftedMonth
  simp only [Option.getD_some, add_zero, min_eq_right hle]
  omega

end DateTime

/-! ## Units -/

/-- A unit of time: the index of the unit that a date-time is in, and the first second of a unit. -/
structure TimeUnit where
  index : DateTime → ℤ
  first : ℤ → DateTime
  le_index_iff : ∀ d i, i ≤ index d ↔ (first i).seconds ≤ d.seconds

namespace TimeUnit

variable (unit : TimeUnit)

theorem first_index_le (d : DateTime) : (unit.first (unit.index d)).seconds ≤ d.seconds :=
  (unit.le_index_iff d _).1 le_rfl

theorem index_lt_iff (d : DateTime) (i : ℤ) :
    unit.index d < i ↔ d.seconds < (unit.first i).seconds := by
  rw [← not_le, unit.le_index_iff, not_le]

theorem index_monotone {d e : DateTime} (hle : d.seconds ≤ e.seconds) :
    unit.index d ≤ unit.index e :=
  (unit.le_index_iff e _).2 ((unit.first_index_le d).trans hle)

/-- Rounding down to whole ticks stays in the unit, when the units start at ticks. -/
theorem index_floor {tick : ℤ} (hpos : 0 < tick) (hdvd : ∀ i, tick ∣ (unit.first i).seconds)
    (d : DateTime) : unit.index ⟨d.seconds / tick * tick⟩ = unit.index d := by
  apply le_antisymm
  · apply unit.index_monotone
    exact Int.ediv_mul_le d.seconds hpos.ne'
  · rw [unit.le_index_iff]
    have hle := Int.ediv_le_ediv hpos (unit.first_index_le d)
    calc (unit.first (unit.index d)).seconds
        = (unit.first (unit.index d)).seconds / tick * tick :=
          (Int.ediv_mul_cancel (hdvd _)).symm
      _ ≤ d.seconds / tick * tick := Int.mul_le_mul_of_nonneg_right hle hpos.le

end TimeUnit

namespace TimeUnit

def second : TimeUnit where
  index d := d.seconds
  first i := ⟨i⟩
  le_index_iff _ _ := Iff.rfl

def minute : TimeUnit where
  index d := d.seconds / 60
  first i := ⟨i * 60⟩
  le_index_iff d i := by
    simp only
    omega

def hour : TimeUnit where
  index d := d.seconds / 3600
  first i := ⟨i * 3600⟩
  le_index_iff d i := by
    simp only
    omega

def day : TimeUnit where
  index := DateTime.ordinal
  first i := ⟨(i - epochDay) * 86400⟩
  le_index_iff d i := by
    unfold DateTime.ordinal
    simp only
    omega

theorem le_monthIndex_iff (d : DateTime) (i : ℤ) :
    i ≤ d.monthIndex ↔ (DateTime.ofFields i 1 0 0 0).seconds ≤ d.seconds := by
  have hspec := monthOf_spec d.ordinal
  have hseconds : (DateTime.ofFields i 1 0 0 0).seconds ≤ d.seconds ↔
      monthStart i < d.ordinal := by
    unfold DateTime.ofFields DateTime.ordinal
    simp only
    omega
  rw [hseconds]
  constructor
  · intro hle
    exact lt_of_le_of_lt (strictMono_monthStart.monotone hle) hspec.1
  · intro hlt
    have := strictMono_monthStart.lt_iff_lt.1 (lt_of_lt_of_le hlt hspec.2)
    unfold DateTime.monthIndex
    omega

def month : TimeUnit where
  index := DateTime.monthIndex
  first i := DateTime.ofFields i 1 0 0 0
  le_index_iff := le_monthIndex_iff

def year : TimeUnit where
  index := DateTime.year
  first i := DateTime.ofFields (12 * i) 1 0 0 0
  le_index_iff d i := by
    rw [← le_monthIndex_iff]
    unfold DateTime.year
    omega

theorem seconds_first_year (i : ℤ) :
    (year.first i).seconds = (daysBeforeYear i + 1 - epochDay) * 86400 := by
  have hstart : monthStart (12 * i) = daysBeforeYear i := by
    unfold monthStart
    simp [daysBeforeMonth]
  unfold year DateTime.ofFields
  simp only [hstart]
  omega

end TimeUnit

end Calendar

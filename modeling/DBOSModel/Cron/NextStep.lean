import DBOSModel.Cron.NthWeekday
import DBOSModel.Calendar.UnitSkip
import Mathlib.Algebra.Order.Ring.Int
import Mathlib.Tactic.IntervalCases

/-!
# The steps forwards
-/

namespace DBOSModel.Cron

open Calendar SkipSearch

/-! ## What matches an expression -/

def FieldAllows (items : List Item) (x : ℕ) : Prop :=
  Item.star ∈ items ∨ Item.num x ∈ items

def YearAllowed (expanded : Expanded) (year : ℤ) : Prop :=
  ∀ years ∈ expanded.year, Item.star ∈ years ∨ ∃ n, Item.num n ∈ years ∧ (n : ℤ) = year

/-- The day of a month, by its ordinal. -/
def DayAllowed (items : List Item) (day : ℤ) : Prop :=
  Item.star ∈ items ∨ Item.num (dayOfMonth day) ∈ items ∨
    (Item.last ∈ items ∧ dayOfMonth day = monthLength (monthOf day))

def NthAllowed (nth : NthWeekdays) (day : ℤ) : Prop :=
  ∃ entry ∈ nth, weekday day = entry.1 % 7 ∧
    entry.2.Holds (dayOfMonth day) (monthLength (monthOf day))

/-- With an n-th weekday, the field for the day of the week does not count. -/
def WeekdayAllowed (expanded : Expanded) (nth : NthWeekdays) (day : ℤ) : Prop :=
  if nth ≠ [] then NthAllowed nth day else FieldAllows expanded.dow (weekday day)

/-- Without a field for the seconds, times are whole minutes. -/
def SecondAllowed (expanded : Expanded) (second : ℕ) : Prop :=
  match expanded.second with
  | some items => FieldAllows items second
  | none => second = 0

/-- A date-time that an expression matches. -/
structure Matches (expanded : Expanded) (nth : NthWeekdays) (d : DateTime) : Prop where
  year : YearAllowed expanded d.year
  month : FieldAllows expanded.month d.month
  day : DayAllowed expanded.day d.ordinal
  weekday : WeekdayAllowed expanded nth d.ordinal
  hour : FieldAllows expanded.hour d.hour
  minute : FieldAllows expanded.minute d.minute
  second : SecondAllowed expanded d.second

/-- A day that a number of the field for the day of the month overshoots: from a month that does not
have the number, the search moves as many days as lie up to it, past the last day of that month and
past first days of the next one. -/
def Overshot (items : List Item) (day : ℤ) : Prop :=
  ∃ n, Item.num n ∈ items ∧
    ((Item.last ∈ items ∧ monthLength (monthOf day) < n ∧
        dayOfMonth day = monthLength (monthOf day)) ∨
      monthLength (monthOf day - 1) + dayOfMonth day < n)

/-! ## One field -/

/-- A value that comes around after a number of units. -/
def cyclic (low : ℕ) (range : ℤ) (i : ℤ) : ℕ := low + (i % range).toNat

theorem cyclic_add_of_lt (low : ℕ) {range : ℤ} (i : ℤ) {count : ℤ} (hnonneg : 0 ≤ count)
    (hpos : 0 < range) (hlt : cyclic low range i + count < low + range) :
    (cyclic low range (i + count) : ℤ) = cyclic low range i + count := by
  have hmod := Int.emod_nonneg i hpos.ne'
  unfold cyclic at hlt ⊢
  have hsum : (i + count) % range = i % range + count := by
    rw [← Int.emod_add_emod]
    apply Int.emod_eq_of_lt <;> omega
  omega

theorem cyclic_add_of_le (low : ℕ) {range : ℤ} (i : ℤ) {count : ℤ} (hpos : 0 < range)
    (hle : low + range ≤ cyclic low range i + count)
    (hlt : cyclic low range i + count < low + 2 * range) :
    (cyclic low range (i + count) : ℤ) = cyclic low range i + count - range := by
  have hmod := Int.emod_nonneg i hpos.ne'
  unfold cyclic at hle hlt ⊢
  have hsum : (i + count) % range = i % range + count - range := by
    rw [← Int.emod_add_emod, ← Int.sub_emod_right]
    apply Int.emod_eq_of_lt <;> omega
  omega

theorem cyclic_lt (low : ℕ) {range : ℤ} (i : ℤ) (hpos : 0 < range) :
    (cyclic low range i : ℤ) < low + range := by
  have := Int.emod_lt_of_pos i hpos
  have := Int.emod_nonneg i hpos.ne'
  unfold cyclic
  omega

/-- A field forwards: the point is kept when its value is allowed, and else moves by a distance
that no allowed value lies within. -/
theorem procField_next {items : List Item} {low high : ℕ} {range : ℤ}
    (hfield : FieldWellFormed items low high false) (hpos : 0 < range)
    (hhigh : (high : ℤ) ≤ low + range) (i : ℤ) (move : ℤ → DateTime) (d : DateTime) :
    (procField false items (cyclic low range i) range move d = .unchanged d ∧
        FieldAllows items (cyclic low range i)) ∨
      ∃ count, 0 < count ∧
        procField false items (cyclic low range i) range move d = .changed (move count) ∧
          ∀ j, i ≤ j → j < i + count → ¬ FieldAllows items (cyclic low range j) := by
  unfold procField
  rcases hfield with hstar | ⟨nums, hasLast, hlisting, hlast⟩
  · left
    rw [if_pos hstar]
    exact ⟨rfl, Or.inl hstar⟩
  have hlast : hasLast = false := by
    cases hasLast
    · rfl
    · exact absurd (hlast rfl) (by decide)
  have hallows : ∀ x, FieldAllows items x ↔ x ∈ nums := by
    intro x
    unfold FieldAllows
    rw [hlisting.num_mem]
    exact or_iff_right hlisting.star_notMem
  rw [if_neg hlisting.star_notMem]
  have hspec := getNextNearestDiff_spec hlisting (cyclic low range i) (some range)
  have hless := cyclic_lt low i hpos
  have hdiff : nearestDiff false (cyclic low range i) items (some range) =
      getNextNearestDiff (cyclic low range i) items (some range) := rfl
  rw [hdiff]
  generalize getNextNearestDiff (cyclic low range i) items (some range) = diff at hspec ⊢
  cases hspec with
  | number n hmem hle hleast =>
    have hnhigh := hlisting.le_high n hmem
    by_cases hzero : (n : ℤ) - cyclic low range i = 0
    · left
      have hn : n = cyclic low range i := by omega
      simp only [hzero, ne_eq, not_true_eq_false, if_false]
      exact ⟨trivial, (hallows _).2 (hn ▸ hmem)⟩
    · right
      refine ⟨n - cyclic low range i, by omega, by simp [hzero], ?_⟩
      intro j hle' hlt hallowed
      obtain ⟨count, rfl⟩ : ∃ count, j = i + count := ⟨j - i, by omega⟩
      have hnonneg : 0 ≤ count := by omega
      have hvalue := cyclic_add_of_lt low i hnonneg hpos (by omega)
      have := hleast _ ((hallows _).1 hallowed) (by omega)
      omega
  | last r _ hlast' => exact absurd hlast' (by simp [hlast])
  | round r first hrange hmem hleast _ hbehind =>
    rw [Option.some.injEq] at hrange
    subst hrange
    have hlow := hlisting.low_le first hmem
    have hfirst := hlisting.le_high first hmem
    have hcurrent := hbehind first hmem
    right
    have hne : (first : ℤ) - cyclic low range i + range ≠ 0 := by omega
    refine ⟨first - cyclic low range i + range, by omega, by simp [hne], ?_⟩
    intro j hle' hlt hallowed
    obtain ⟨count, rfl⟩ : ∃ count, j = i + count := ⟨j - i, by omega⟩
    have hmem' := (hallows _).1 hallowed
    rcases lt_or_ge (cyclic low range i + count) (low + range) with hbefore | hafter
    · have hnonneg : 0 ≤ count := by omega
      have hvalue := cyclic_add_of_lt low i hnonneg hpos hbefore
      have := hbehind _ hmem'
      omega
    · have hvalue := cyclic_add_of_le low i hpos hafter (by omega)
      have := hleast _ hmem'
      omega
  | noneLeft hrange => exact absurd hrange (by simp)
  | onlyLast r _ _ hnums =>
    exfalso
    apply hlisting.nonempty
    rw [hlisting.items_eq, hnums, hlast]
    rfl

section Procedures

variable (dateutil : Dateutil) {expanded : Expanded} {missed : ℤ → Prop}

/-- A field forwards, as a step over its unit. -/
theorem unitSkips_procField {unit : TimeUnit} {items : List Item} {low high : ℕ} {range : ℤ}
    (hfield : FieldWellFormed items low high false) (hpos : 0 < range)
    (hhigh : (high : ℤ) ≤ low + range) {step : DateTime → Step DateTime}
    (move : DateTime → ℤ → DateTime)
    (hstep : ∀ d, step d = procField false items (cyclic low range (unit.index d)) range (move d) d)
    (hmove : ∀ d count, (move d count).seconds = (unit.first (unit.index d + count)).seconds) :
    UnitSkips unit missed (fun i ↦ FieldAllows items (cyclic low range i)) step := by
  apply UnitSkips.of_cases
  intro d
  rw [hstep]
  rcases procField_next hfield hpos hhigh (unit.index d) (move d) d with
    hkept | ⟨count, hcount, heq, hbetween⟩
  · exact Or.inl hkept
  · right
    left
    refine ⟨count, move d count, hcount, heq, hmove d count, ?_⟩
    intro i hle hlt hallowed
    exact absurd hallowed (hbetween i hle hlt)

theorem month_eq_cyclic (d : DateTime) : d.month = cyclic 1 12 d.monthIndex := by
  unfold DateTime.month cyclic
  omega

theorem unitSkips_procMonth (h : expanded.WellFormed) :
    UnitSkips TimeUnit.month missed (fun i ↦ FieldAllows expanded.month (cyclic 1 12 i))
      (procMonth dateutil false expanded) := by
  apply unitSkips_procField h.month (by decide) (by decide)
    (fun d diffMonth ↦ dateutil.add d
      { months := diffMonth, day := some 1, hour := some 0, minute := some 0, second := some 0 })
  · intro d
    unfold procMonth
    rw [month_eq_cyclic]
    rfl
  · intro d count
    rw [dateutil.add_eq]
    exact d.seconds_shift_months (by decide)

theorem moveDays_next (d : DateTime) (count : ℤ) :
    (moveDays dateutil false d count).seconds =
      (TimeUnit.day.first (TimeUnit.day.index d + count)).seconds := by
  unfold moveDays
  rw [if_neg Bool.false_ne_true, dateutil.add_eq, d.seconds_shift_days]
  unfold TimeUnit.day
  simp only
  omega

theorem unitSkips_procDayOfWeek (h : expanded.WellFormed) :
    UnitSkips TimeUnit.day missed (fun i ↦ FieldAllows expanded.dow (cyclic 0 7 i))
      (procDayOfWeek dateutil false expanded) := by
  apply unitSkips_procField h.dow (by decide) (by decide)
    (fun d ↦ moveDays dateutil false d)
  · intro d
    unfold procDayOfWeek DateTime.weekday weekday cyclic
    rw [zero_add]
    rfl
  · exact moveDays_next dateutil

theorem unitSkips_procHour (h : expanded.WellFormed) :
    UnitSkips TimeUnit.hour missed (fun i ↦ FieldAllows expanded.hour (cyclic 0 24 i))
      (procHour dateutil false expanded) := by
  apply unitSkips_procField h.hour (by decide) (by decide)
    (fun d diffHour ↦ dateutil.add d
      { hours := diffHour, minute := some 0, second := some 0 })
  · intro d
    unfold procHour DateTime.hour cyclic
    rw [zero_add]
    rfl
  · intro d count
    rw [dateutil.add_eq, d.seconds_shift_hours]
    simp [TimeUnit.hour]

theorem unitSkips_procMinute (h : expanded.WellFormed) :
    UnitSkips TimeUnit.minute missed (fun i ↦ FieldAllows expanded.minute (cyclic 0 60 i))
      (procMinute dateutil false expanded) := by
  apply unitSkips_procField h.minute (by decide) (by decide)
    (fun d diffMin ↦ dateutil.add d { minutes := diffMin, second := some 0 })
  · intro d
    unfold procMinute DateTime.minute cyclic
    rw [zero_add]
    rfl
  · intro d count
    rw [dateutil.add_eq, d.seconds_shift_minutes]
    simp [TimeUnit.minute]

theorem unitSkips_procSecond (h : expanded.WellFormed) {items : List Item}
    (hitems : expanded.second = some items) :
    UnitSkips TimeUnit.second missed (fun i ↦ FieldAllows items (cyclic 0 60 i))
      (procSecond dateutil false expanded) := by
  apply unitSkips_procField (h.second items hitems) (by decide) (by decide)
    (fun d diffSec ↦ dateutil.add d { seconds := diffSec })
  · intro d
    unfold procSecond DateTime.second cyclic
    rw [hitems, zero_add]
    rfl
  · intro d count
    rw [dateutil.add_eq, d.seconds_shift_seconds]
    rfl

/-- The years do not start over: when no year is left, no later year is allowed. -/
theorem unitSkips_procYear (h : expanded.WellFormed) :
    UnitSkips TimeUnit.year missed (YearAllowed expanded) (procYear dateutil false expanded) := by
  apply UnitSkips.of_cases
  intro d
  unfold procYear
  cases hyear : expanded.year with
  | none =>
    left
    simp [YearAllowed, hyear]
  | some years =>
    rcases h.year years hyear with hstar | ⟨nums, hasLast, hlisting, _⟩
    · left
      simp [YearAllowed, hyear, hstar]
    have hallowed : ∀ y, YearAllowed expanded y ↔ ∃ n ∈ nums, (n : ℤ) = y := by
      intro y
      simp [YearAllowed, hyear, hlisting.star_notMem, hlisting.num_mem]
    have hspec := getNextNearestDiff_spec hlisting d.year none
    have hdiff : nearestDiff false d.year years none = getNextNearestDiff d.year years none := rfl
    simp only [hdiff, if_neg hlisting.star_notMem, Bool.false_eq_true, if_false]
    generalize getNextNearestDiff d.year years none = diff at hspec
    cases hspec with
    | number n hmem hle hleast =>
      by_cases hzero : (n : ℤ) - d.year = 0
      · left
        simp only [hzero, ne_eq, not_true_eq_false, if_false, true_and]
        exact (hallowed _).2 ⟨n, hmem, sub_eq_zero.1 hzero⟩
      · right
        left
        simp only [ne_eq, hzero, not_false_eq_true, if_true]
        refine ⟨n - d.year, _, by omega, rfl, ?_, ?_⟩
        · rw [dateutil.add_eq, d.seconds_shift_years (by decide)]
          simp [TimeUnit.year]
        · intro y hle' hlt hy
          obtain ⟨n', hmem', rfl⟩ := (hallowed y).1 hy
          have hle'' : d.year ≤ n' := hle'
          have hlt' : (n' : ℤ) < d.year + (n - d.year) := hlt
          have := hleast n' hmem' hle''
          omega
    | last r hrange => exact absurd hrange (by simp)
    | round r _ hrange => exact absurd hrange (by simp)
    | noneLeft _ hbehind =>
      right
      right
      refine ⟨rfl, ?_⟩
      intro y hle hy
      obtain ⟨n, hmem, rfl⟩ := (hallowed y).1 hy
      exact absurd hle (not_le.2 (hbehind n hmem))
    | onlyLast r hrange => exact absurd hrange (by simp)

theorem isLeap_eq (year : ℤ) : isLeap year = Calendar.isLeap year := by
  have h := isLeap_iff year
  unfold isLeap
  split
  · next hleap => exact (h.2 hleap).symm
  · next hleap =>
    cases hvalue : Calendar.isLeap year
    · rfl
    · exact absurd (h.1 hvalue) hleap

theorem daysOf_eq (d : DateTime) : daysOf d.year d.month = d.monthDays := by
  have hlow := d.one_le_month
  have hhigh := d.month_le
  rw [d.monthDays_eq]
  generalize d.month = month at hlow hhigh
  unfold daysOf
  rw [isLeap_eq]
  unfold daysInMonth
  interval_cases month <;> simp [DAYS]
  split <;> rfl

/-- What the field for the day of the month allows. -/
theorem dayAllowed_iff {items : List Item} {low high : ℕ} {nums : List ℕ} {hasLast : Bool}
    (hlisting : Listing items low high nums hasLast) (day : ℤ) :
    DayAllowed items day ↔ dayOfMonth day ∈ nums ∨
      hasLast = true ∧ dayOfMonth day = monthLength (monthOf day) := by
  simp [DayAllowed, hlisting.star_notMem, hlisting.num_mem, hlisting.last_mem]

section DaysBetween

variable {items : List Item} {nums : List ℕ} {hasLast : Bool}
  (hlisting : Listing items 1 31 nums hasLast) {day count : ℤ} (hnonneg : 0 ≤ count)
  (hallowed : DayAllowed items (day + count))
include hlisting hnonneg hallowed

/-- An allowed day before the next number is overshot by it. -/
theorem overshot_of_lt_number {n : ℕ} (hmem : n ∈ nums)
    (hleast : ∀ n' ∈ nums, (dayOfMonth day : ℤ) ≤ n' → n ≤ n')
    (hlt : dayOfMonth day + count < n) : Overshot items (day + count) := by
  rw [dayAllowed_iff hlisting] at hallowed
  refine ⟨n, hlisting.num_mem.2 hmem, ?_⟩
  rw [hlisting.last_mem]
  have hhigh := hlisting.le_high n hmem
  have hone := one_le_dayOfMonth day
  have hlength := monthLength_ge (monthOf day)
  have hnext := monthLength_ge (monthOf day + 1)
  have hsum := dayOfMonth_cast (day + count)
  have hcurrent := dayOfMonth_cast day
  rcases le_or_gt (dayOfMonth day + count) (monthLength (monthOf day)) with hsame | hafter
  · rw [monthOf_add_of_le hnonneg hsame] at hallowed hsum ⊢
    rcases hallowed with hmem' | hlast
    · have := hleast _ hmem' (by omega)
      omega
    · left
      refine ⟨hlast.1, ?_, hlast.2⟩
      omega
  · have hstart := monthStart_succ (monthOf day)
    rw [monthOf_add_of_lt hafter (by omega)] at hsum ⊢
    right
    rw [add_sub_cancel_right]
    omega

/-- No day before the last one is allowed when the numbers are behind. -/
theorem not_lt_last (hbehind : ∀ n ∈ nums, (n : ℤ) < dayOfMonth day) :
    ¬ dayOfMonth day + count < monthLength (monthOf day) := by
  intro hlt
  rw [dayAllowed_iff hlisting, monthOf_add_of_le hnonneg hlt.le] at hallowed
  have hsum := dayOfMonth_cast (day + count)
  have hcurrent := dayOfMonth_cast day
  rw [monthOf_add_of_le hnonneg hlt.le] at hsum
  rcases hallowed with hmem | hlast
  · have := hbehind _ hmem
    omega
  · omega

/-- No day before the first number of the next month is allowed when the numbers are behind. -/
theorem not_lt_first {first : ℕ} (hlast : hasLast = false) (hleast : ∀ n ∈ nums, first ≤ n)
    (hbehind : ∀ n ∈ nums, (n : ℤ) < dayOfMonth day) :
    ¬ dayOfMonth day + count < first + monthLength (monthOf day) := by
  intro hlt
  have hmem : dayOfMonth (day + count) ∈ nums := by
    rcases (dayAllowed_iff hlisting _).1 hallowed with hmem | hlast'
    · exact hmem
    · rw [hlast] at hlast'
      exact absurd hlast'.1 Bool.false_ne_true
  have hcurrent := dayOfMonth_cast day
  rcases le_or_gt (dayOfMonth day + count) (monthLength (monthOf day)) with hsame | hafter
  · have hsum := dayOfMonth_cast (day + count)
    rw [monthOf_add_of_le hnonneg hsame] at hsum
    have := hbehind _ hmem
    omega
  · have hstart := monthStart_succ (monthOf day)
    have hbound := dayOfMonth_le_sub (day + count) (monthOf day + 1) (by omega)
    have := hleast _ hmem
    omega

end DaysBetween

/-- The day of the month forwards. The days in between that are allowed are the overshot ones. -/
theorem unitSkips_procDayOfMonth (h : expanded.WellFormed) :
    UnitSkips TimeUnit.day (Overshot expanded.day) (DayAllowed expanded.day)
      (procDayOfMonth dateutil false expanded) := by
  apply UnitSkips.of_cases
  intro d
  rcases h.day with hstar | ⟨nums, hasLast, hlisting, _⟩
  · left
    simp [procDayOfMonth, procField, DayAllowed, hstar]
  have hday : d.day = dayOfMonth d.ordinal := rfl
  have hdays : d.monthDays = monthLength (monthOf d.ordinal) := rfl
  have hle := d.day_le
  unfold procDayOfMonth
  rw [daysOf_eq]
  by_cases hlastDay : hasLast = true ∧ d.monthDays = d.day
  · left
    rw [if_pos ⟨hlisting.star_notMem, hlisting.last_mem.2 hlastDay.1, hlastDay.2⟩]
    refine ⟨rfl, (dayAllowed_iff hlisting _).2 (Or.inr ⟨hlastDay.1, hlastDay.2.symm⟩)⟩
  rw [if_neg fun hsome ↦ hlastDay ⟨hlisting.last_mem.1 hsome.2.1, hsome.2.2⟩]
  unfold procField
  have hspec := getNextNearestDiff_spec hlisting d.day (some (d.monthDays : ℤ))
  have hdiff : nearestDiff false d.day expanded.day (some (d.monthDays : ℤ)) =
      getNextNearestDiff d.day expanded.day (some (d.monthDays : ℤ)) := rfl
  simp only [if_neg hlisting.star_notMem, Bool.false_eq_true, if_false, hdiff]
  generalize getNextNearestDiff d.day expanded.day (some (d.monthDays : ℤ)) = diff at hspec
  have hmoves : ∀ {distance : ℤ}, 0 < distance →
      (∀ count, 0 ≤ count → DayAllowed expanded.day (d.ordinal + count) → count < distance →
        Overshot expanded.day (d.ordinal + count)) →
      ∃ count d', 0 < count ∧ (.changed (moveDays dateutil false d distance) : Step _) = .changed d' ∧
        d'.seconds = (TimeUnit.day.first (TimeUnit.day.index d + count)).seconds ∧
          ∀ i, TimeUnit.day.index d ≤ i → i < TimeUnit.day.index d + count →
            DayAllowed expanded.day i → Overshot expanded.day i := by
    intro distance hpos hbetween
    refine ⟨distance, _, hpos, rfl, moveDays_next dateutil d distance, ?_⟩
    intro i hi hlt hallowed
    have hcount : i = d.ordinal + (i - TimeUnit.day.index d) := by
      change i = d.ordinal + (i - d.ordinal)
      omega
    rw [hcount] at hallowed ⊢
    exact hbetween _ (by omega) hallowed (by omega)
  cases hspec with
  | number n hmem hle' hleast =>
    by_cases hzero : (n : ℤ) - d.day = 0
    · left
      have hn : n = dayOfMonth (TimeUnit.day.index d) := by
        change n = dayOfMonth d.ordinal
        omega
      simp only [hzero, ne_eq, not_true_eq_false, if_false, true_and]
      rw [dayAllowed_iff hlisting, ← hn]
      exact Or.inl hmem
    · right
      left
      simp only [ne_eq, hzero, not_false_eq_true, if_true]
      apply hmoves (by omega)
      intro count hcount hallowed hlt
      exact overshot_of_lt_number hlisting hcount hallowed hmem hleast (by omega)
  | last r hrange hlast hle' hbehind =>
    rw [Option.some.injEq] at hrange
    subst hrange
    have hne : (d.monthDays : ℤ) - d.day ≠ 0 := by
      intro hzero
      exact hlastDay ⟨hlast, by omega⟩
    right
    left
    simp only [ne_eq, hne, not_false_eq_true, if_true]
    apply hmoves (by omega)
    intro count hcount hallowed hlt
    exact absurd (by omega) (not_lt_last hlisting hcount hallowed hbehind)
  | round r first hrange hmem hleast hlast hbehind =>
    rw [Option.some.injEq] at hrange
    subst hrange
    have hlow := hlisting.low_le first hmem
    have hnotLast : hasLast = false := by
      cases hvalue : hasLast
      · rfl
      · have := hlast hvalue
        omega
    have hne : (first : ℤ) - d.day + d.monthDays ≠ 0 := by omega
    right
    left
    simp only [ne_eq, hne, not_false_eq_true, if_true]
    apply hmoves (by omega)
    intro count hcount hallowed hlt
    exact absurd (by omega) (not_lt_first hlisting hcount hallowed hnotLast hleast hbehind)
  | noneLeft hrange => exact absurd hrange (by simp)
  | onlyLast r hrange hlt _ =>
    rw [Option.some.injEq] at hrange
    omega

/-- The candidates of a month are its days on which an n-th weekday falls. -/
theorem mem_candidates {nth : NthWeekdays} (hnth : NthWellFormed nth) {monthIndex : ℤ} {day : ℕ} :
    (day ∈ nth.filterMap fun entry ↦ candidateOf monthIndex entry.1 entry.2) ↔
      1 ≤ day ∧ day ≤ monthLength monthIndex ∧ NthAllowed nth (monthStart monthIndex + day) := by
  have hone : ∀ entry ∈ nth, ∀ k, entry.2 = Nth.nth k → 1 ≤ k := by
    rintro ⟨wday, n⟩ hmem k rfl
    exact (hnth wday k hmem).1
  rw [List.mem_filterMap]
  constructor
  · rintro ⟨entry, hmem, hsome⟩
    have hday := (candidateOf_eq_some (hone entry hmem)).1 hsome
    refine ⟨hday.1, hday.2.1, entry, hmem, hday.2.2.1, ?_⟩
    rw [dayOfMonth_monthStart_add hday.1 hday.2.1, monthOf_monthStart_add hday.1 hday.2.1]
    exact hday.2.2.2
  · rintro ⟨hpos, hle, entry, hmem, hweekday, hholds⟩
    refine ⟨entry, hmem, (candidateOf_eq_some (hone entry hmem)).2 ⟨hpos, hle, hweekday, ?_⟩⟩
    rw [dayOfMonth_monthStart_add hpos hle, monthOf_monthStart_add hpos hle] at hholds
    exact hholds

/-- The n-th weekdays forwards: the next candidate of the month, or the first of the next month. -/
theorem unitSkips_procDayOfWeekNth {nth : NthWeekdays} (hnth : NthWellFormed nth) :
    UnitSkips TimeUnit.day missed (NthAllowed nth) (procDayOfWeekNth dateutil false nth) := by
  apply UnitSkips.of_cases
  intro d
  have hle := d.day_le
  have hone := d.one_le_day
  have hordinal := d.ordinal_eq
  -- an allowed day of the rest of the month is a candidate
  have hcandidate : ∀ count : ℤ, 0 ≤ count → d.day + count ≤ d.monthDays →
      NthAllowed nth (d.ordinal + count) →
        ∃ c ∈ (nth.filterMap fun entry ↦ candidateOf d.monthIndex entry.1 entry.2).filter
          (fun candidate ↦ d.day ≤ candidate), (c : ℤ) = d.day + count := by
    intro count hcount hlast hallowed
    have hcast : ((d.day + count.toNat : ℕ) : ℤ) = d.day + count := by omega
    refine ⟨d.day + count.toNat, ?_, hcast⟩
    rw [List.mem_filter, mem_candidates hnth]
    refine ⟨⟨by omega, by unfold DateTime.monthDays at hlast; omega, ?_⟩, by simp⟩
    rw [hcast]
    have hsum : monthStart d.monthIndex + (d.day + count) = d.ordinal + count := by omega
    rw [hsum]
    exact hallowed
  unfold procDayOfWeekNth
  simp only [Bool.false_eq_true, if_false]
  cases hmin : ((nth.filterMap fun entry ↦ candidateOf d.monthIndex entry.1 entry.2).filter
      fun candidate ↦ d.day ≤ candidate).min? with
  | none =>
    rw [List.min?_eq_none_iff] at hmin
    right
    left
    refine ⟨daysOf d.year d.month - d.day + 1, _, ?_, rfl, moveDays_next dateutil d _, ?_⟩
    · rw [daysOf_eq]
      omega
    · intro i hi hlt hallowed
      obtain ⟨count, rfl⟩ : ∃ count, i = d.ordinal + count := ⟨i - d.ordinal, by omega⟩
      have hi' : d.ordinal ≤ d.ordinal + count := hi
      have hlt' : d.ordinal + count < d.ordinal + (daysOf d.year d.month - d.day + 1) := hlt
      rw [daysOf_eq] at hlt'
      obtain ⟨c, hmem, _⟩ := hcandidate count (by omega) (by omega) hallowed
      rw [hmin] at hmem
      exact absurd hmem List.not_mem_nil
  | some candidate =>
    rw [List.min?_eq_some_iff] at hmin
    have hmem := hmin.1
    rw [List.mem_filter, mem_candidates hnth] at hmem
    have hge : d.day ≤ candidate := by simpa using hmem.2
    by_cases hzero : (candidate : ℤ) - d.day = 0
    · left
      simp only [hzero, ne_eq, not_true_eq_false, if_false, true_and]
      have hsame : TimeUnit.day.index d = monthStart d.monthIndex + candidate := by
        change d.ordinal = _
        omega
      rw [hsame]
      exact hmem.1.2.2
    · right
      left
      simp only [ne_eq, hzero, not_false_eq_true, if_true]
      refine ⟨candidate - d.day, _, by omega, rfl, moveDays_next dateutil d _, ?_⟩
      intro i hi hlt hallowed
      obtain ⟨count, rfl⟩ : ∃ count, i = d.ordinal + count := ⟨i - d.ordinal, by omega⟩
      have hi' : d.ordinal ≤ d.ordinal + count := hi
      have hlt' : d.ordinal + count < d.ordinal + (candidate - d.day) := hlt
      have hlength : candidate ≤ d.monthDays := hmem.1.2.1
      obtain ⟨c, hmem', hc⟩ := hcandidate count (by omega) (by omega) hallowed
      have := hmin.2 c hmem'
      omega

end Procedures

end DBOSModel.Cron

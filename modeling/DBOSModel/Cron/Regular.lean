import DBOSModel.Cron.Iterate
import DBOSModel.Scheduler

/-!
# Schedules that never end

A schedule without a field for the years fires in every year when its days come around in every
month: no day of the month beyond the 28th, and some day of the week. Its iterator never raises, and
passes over no time. So it is the iterator that the model of the scheduler assumes, in a time zone
whose offset from UTC is fixed.
-/

namespace DBOSModel.Cron

open Calendar SkipSearch

namespace Croniter

variable (dateutil : Dateutil) {it : Croniter}

/-- The days of a schedule come around in every month. -/
structure Regular (it : Croniter) : Prop where
  wellFormed : it.WellFormed
  noYear : it.expanded.year = none
  noNth : it.nth = []
  dayOr : it.dayOr = true
  noCronBug : it.implementCronBug = false
  looksAhead : 1 ≤ it.maxYears
  day_le : ∀ n, Item.num n ∈ it.expanded.day → n ≤ 28
  /-- A weekday other than 7, which no day has. -/
  someWeekday : Item.star ∈ it.expanded.dow ∨ ∃ n < 7, Item.num n ∈ it.expanded.dow

/-- No day is overshot by a number that every month has. -/
theorem Regular.not_overshot (h : it.Regular) (day : ℤ) : ¬ Overshot it.expanded.day day := by
  rintro ⟨n, hmem, hcases⟩
  have hle := h.day_le n hmem
  have hlength := monthLength_ge (monthOf day)
  have hprevious := monthLength_ge (monthOf day - 1)
  omega

/-- A well-formed field allows a value of its range. -/
theorem exists_fieldAllows {items : List Item} {low high : ℕ}
    (h : FieldWellFormed items low high false) (hrange : low ≤ high) :
    ∃ x, low ≤ x ∧ x ≤ high ∧ FieldAllows items x := by
  rcases h with hstar | ⟨nums, hasLast, hlisting, hlast⟩
  · exact ⟨low, le_rfl, hrange, Or.inl hstar⟩
  · cases hnums : nums with
    | nil =>
      exfalso
      apply hlisting.nonempty
      rw [hlisting.items_eq, hnums]
      cases hasLast
      · rfl
      · exact absurd (hlast rfl) Bool.false_ne_true
    | cons n rest =>
      have hmem : n ∈ nums := by
        rw [hnums]
        exact List.mem_cons_self
      exact ⟨n, hlisting.low_le n hmem, hlisting.le_high n hmem,
        Or.inr (hlisting.num_mem.2 hmem)⟩

/-- Every month has a day that the field for the day of the month allows. -/
theorem Regular.exists_dayAllowed (h : it.Regular) (monthIndex : ℤ) :
    ∃ day, 1 ≤ day ∧ day ≤ monthLength monthIndex ∧
      DayAllowed it.expanded.day (monthStart monthIndex + day) := by
  have hlength := monthLength_ge monthIndex
  rcases h.wellFormed.expanded.day with hstar | ⟨nums, hasLast, hlisting, _⟩
  · exact ⟨1, le_rfl, by omega, Or.inl hstar⟩
  · cases hnums : nums with
    | nil =>
      cases hlast : hasLast with
      | false =>
        exfalso
        apply hlisting.nonempty
        rw [hlisting.items_eq, hnums, hlast]
        rfl
      | true =>
        refine ⟨monthLength monthIndex, by omega, le_rfl, ?_⟩
        rw [dayAllowed_iff hlisting, dayOfMonth_monthStart_add (by omega) le_rfl,
          monthOf_monthStart_add (by omega) le_rfl]
        exact Or.inr ⟨hlast, rfl⟩
    | cons n rest =>
      have hmem : n ∈ nums := by
        rw [hnums]
        exact List.mem_cons_self
      have hle := (h.day_le n (hlisting.num_mem.2 hmem)).trans hlength
      have hlow := hlisting.low_le n hmem
      refine ⟨n, hlow, hle, ?_⟩
      rw [dayAllowed_iff hlisting, dayOfMonth_monthStart_add hlow hle]
      exact Or.inl hmem

/-- Every month has a day on each weekday. -/
theorem Regular.exists_weekdayAllowed (h : it.Regular) (monthIndex : ℤ) :
    ∃ day, 1 ≤ day ∧ day ≤ monthLength monthIndex ∧
      FieldAllows it.expanded.dow (weekday (monthStart monthIndex + day)) := by
  have hlength := monthLength_ge monthIndex
  rcases h.someWeekday with hstar | ⟨n, hlt, hmem⟩
  · exact ⟨1, le_rfl, by omega, Or.inl hstar⟩
  · have hle := firstOn_le monthIndex n
    refine ⟨firstOn monthIndex n, one_le_firstOn monthIndex n, by omega, ?_⟩
    rw [weekday_firstOn, Nat.mod_eq_of_lt hlt]
    exact Or.inr hmem

/-- A search has a match in every year, when every month has a day for it. -/
theorem exists_matches {expanded : Expanded} (hexpanded : expanded.WellFormed)
    (hyear : expanded.year = none)
    (hday : ∀ monthIndex, ∃ day, 1 ≤ day ∧ day ≤ monthLength monthIndex ∧
      DayAllowed expanded.day (monthStart monthIndex + day) ∧
        FieldAllows expanded.dow (weekday (monthStart monthIndex + day))) (year : ℤ) :
    ∃ d : DateTime, d.year = year ∧ Matches expanded [] d := by
  obtain ⟨month, hmonth, hmonth', hmonthAllowed⟩ := exists_fieldAllows hexpanded.month (by decide)
  obtain ⟨hour, _, hhour, hhourAllowed⟩ := exists_fieldAllows hexpanded.hour (by decide)
  obtain ⟨minute, _, hminute, hminuteAllowed⟩ := exists_fieldAllows hexpanded.minute (by decide)
  obtain ⟨second, hsecond, hsecondAllowed⟩ : ∃ second < 60, SecondAllowed expanded second := by
    unfold SecondAllowed
    cases hitems : expanded.second with
    | none => exact ⟨0, by decide, rfl⟩
    | some items =>
      obtain ⟨second, _, hle, hallowed⟩ :=
        exists_fieldAllows (hexpanded.second items hitems) (by decide)
      exact ⟨second, by omega, hallowed⟩
  obtain ⟨day, hone, hle, hdayAllowed, hweekdayAllowed⟩ := hday (12 * year + (month - 1))
  have hindex := DateTime.monthIndex_ofFields hone hle (show hour < 24 by omega)
    (show minute < 60 by omega) hsecond
  have hordinal := DateTime.ordinal_ofFields (12 * year + (month - 1)) day
    (show hour < 24 by omega) (show minute < 60 by omega) hsecond
  have hyear' : (DateTime.ofFields (12 * year + (month - 1)) day hour minute second).year =
      year := by
    unfold DateTime.year
    omega
  have hmonth'' : (DateTime.ofFields (12 * year + (month - 1)) day hour minute second).month =
      month := by
    unfold DateTime.month
    omega
  refine ⟨DateTime.ofFields (12 * year + (month - 1)) day hour minute second, hyear', ?_⟩
  constructor
  · simp [YearAllowed, hyear]
  · rw [hmonth'']
    exact hmonthAllowed
  · rw [hordinal]
    exact hdayAllowed
  · unfold WeekdayAllowed
    rw [if_neg (by simp), hordinal]
    exact hweekdayAllowed
  · rw [DateTime.hour_ofFields (by omega) (by omega) hsecond]
    exact hhourAllowed
  · rw [DateTime.minute_ofFields (by omega) hsecond]
    exact hminuteAllowed
  · rw [DateTime.second_ofFields hsecond]
    exact hsecondAllowed

/-- The days of each search of a regular schedule come around in every month. -/
theorem Regular.exists_day_of_search (h : it.Regular) {expanded : Expanded}
    (hmem : expanded ∈ it.searches) (monthIndex : ℤ) :
    ∃ day, 1 ≤ day ∧ day ≤ monthLength monthIndex ∧
      DayAllowed expanded.day (monthStart monthIndex + day) ∧
        FieldAllows expanded.dow (weekday (monthStart monthIndex + day)) := by
  obtain ⟨day, hone, hle, hday⟩ := h.exists_dayAllowed monthIndex
  obtain ⟨day', hone', hle', hweekday⟩ := h.exists_weekdayAllowed monthIndex
  unfold searches at hmem
  split at hmem
  · simp only [List.mem_cons, List.not_mem_nil, or_false] at hmem
    rcases hmem with rfl | rfl
    · exact ⟨day, hone, hle, hday, fieldAllows_star _⟩
    · exact ⟨day', hone', hle', dayAllowed_star _, hweekday⟩
  · next hunited =>
    rw [List.mem_singleton] at hmem
    subst hmem
    -- one of the two fields starts with the wildcard
    have hstar : Item.star ∈ it.expanded.day ∨ Item.star ∈ it.expanded.dow := by
      by_contra hnone
      rw [not_or] at hnone
      apply hunited
      have hhead : ∀ {items : List Item}, Item.star ∉ items → items.head? ≠ some Item.star :=
        fun hnotMem hhead ↦ hnotMem (List.mem_of_head? hhead)
      simp [daysUnited, h.dayOr, h.noCronBug, hhead hnone.1, hhead hnone.2]
    rcases hstar with hstar | hstar
    · exact ⟨day', hone', hle', Or.inl hstar, hweekday⟩
    · exact ⟨day, hone, hle, hday, Or.inl hstar⟩

theorem Regular.searches_year (h : it.Regular) {expanded : Expanded}
    (hmem : expanded ∈ it.searches) : expanded.year = none := by
  unfold searches at hmem
  split at hmem
  · simp only [List.mem_cons, List.not_mem_nil, or_false] at hmem
    rcases hmem with rfl | rfl <;> exact h.noYear
  · rw [List.mem_singleton.1 hmem]
    exact h.noYear

/-- `get_next` never raises on a regular schedule. -/
theorem Regular.nextTime_isSome (h : it.Regular) : (it.nextTime dateutil false).isSome = true := by
  rw [Option.isSome_iff_ne_none]
  intro hnone
  obtain ⟨expanded, hmem, hexhausted⟩ := nextTime_exhausted_of dateutil h.wellFormed hnone
  have hexpanded := wellFormed_of_mem_searches h.wellFormed.expanded expanded hmem
  obtain ⟨d, hyear, hmatches⟩ := exists_matches hexpanded (h.searches_year hmem)
    (h.exists_day_of_search hmem) (it.searchYear + 1)
  have hwall : it.wall (d.seconds - it.utcoffset) = d := by
    ext
    exact sub_add_cancel _ _
  have hlooks := h.looksAhead
  -- the match is in a later year, so it is after the start of the search
  have hafter : it.cur < (d.seconds - it.utcoffset) * 1000000 := by
    by_contra hle
    have hmono : d.year ≤ it.searchYear := by
      apply TimeUnit.year.index_monotone
      unfold searchStart wholeSeconds
      simp only [Bool.false_eq_true, if_false]
      split <;> omega
    omega
  obtain ⟨_, hsame, hovershot⟩ := hexhausted _ hafter (by rw [hwall, hyear]; omega)
    (by rw [hwall, h.noNth]; exact hmatches)
  exact h.not_overshot _ hovershot

/-- `0 0 * * sat-sun`, at the epoch. -/
def weekendMidnights : Croniter where
  expanded := weekend
  cur := 0

theorem weekendMidnights_regular : weekendMidnights.Regular where
  wellFormed :=
    ⟨(expand_wellFormed_of weekend_expand).1, (expand_wellFormed_of weekend_expand).2⟩
  noYear := rfl
  noNth := rfl
  dayOr := rfl
  noCronBug := rfl
  looksAhead := by decide
  day_le n hmem := by simp [weekendMidnights, weekend] at hmem
  someWeekday := Or.inr ⟨0, by decide, by decide⟩

theorem Regular.at_time (h : it.Regular) (time : ℤ) :
    ({ it with cur := time } : Croniter).Regular :=
  { h with wellFormed := ⟨h.wellFormed.expanded, h.wellFormed.nth⟩ }

/-- `get_next` of a regular schedule, at any time. -/
def Regular.next (h : it.Regular) (time : ℤ) : ℤ :=
  (({ it with cur := time } : Croniter).nextTime dateutil false).get
    (Regular.nextTime_isSome dateutil (h.at_time time))

theorem Regular.next_spec (h : it.Regular) (time : ℤ) :
    time < h.next dateutil time ∧ it.FiresAt (h.next dateutil time) ∧
      ∀ tick, it.FiresAt tick → time < tick → h.next dateutil time ≤ tick := by
  have hsome : ({ it with cur := time } : Croniter).nextTime dateutil false =
      some (h.next dateutil time) := (Option.some_get _).symm
  have hspec := nextTime_least_of dateutil (h.at_time time).wellFormed hsome
  have hfires : ({ it with cur := time } : Croniter).FiresAt = it.FiresAt :=
    firesAt_congr time it.maxYears
  rw [hfires] at hspec
  refine ⟨hspec.1, hspec.2.1, ?_⟩
  intro tick htick hafter
  by_contra hlt
  obtain ⟨_, _, hovershot⟩ := hspec.2.2 tick hafter (not_le.1 hlt) htick
  exact h.not_overshot _ hovershot

/-- The iterator of a regular schedule, as the iterator of the scheduler. -/
def Regular.toCron (h : it.Regular) : Scheduler.Cron ℤ where
  isTick := it.FiresAt
  getNext := h.next dateutil
  isTick_getNext time := (h.next_spec dateutil time).2.1
  lt_getNext time := (h.next_spec dateutil time).1
  getNext_le time := (h.next_spec dateutil time).2.2

/-- On a regular schedule `get_next` never raises, and it is the iterator that the scheduler relies
on: the ticks are the times on which the schedule fires, and it returns the least tick after its
time. -/
theorem Regular.exists_scheduler_cron (h : it.Regular) :
    ∃ cron : Scheduler.Cron ℤ, (∀ time, cron.isTick time ↔ it.FiresAt time) ∧
      ∀ time, ({ it with cur := time } : Croniter).nextTime dateutil false =
        some (cron.getNext time) :=
  ⟨h.toCron dateutil, fun _ ↦ Iff.rfl, fun _ ↦ (Option.some_get _).symm⟩

theorem Regular.exists_scheduler_cron_weekend :
    ∃ cron : Scheduler.Cron ℤ, (∀ time, cron.isTick time ↔ weekendMidnights.FiresAt time) ∧
      ∀ time, ({ weekendMidnights with cur := time } : Croniter).nextTime Dateutil.documented
        false = some (cron.getNext time) :=
  Regular.exists_scheduler_cron Dateutil.documented weekendMidnights_regular

end Croniter

end DBOSModel.Cron

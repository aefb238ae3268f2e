import DBOSModel.Cron.NextStep

/-!
# The next time is the next match

The search of `_calc`, forwards. Every procedure is a sound step of a search by skipping, over the
ticks of the clock: seconds if the expression has a field for them, else minutes. So the search finds
the first match from its start on, or there is none in the years it looks at. Only days that are
overshot can be passed over.
-/

namespace DBOSModel.Cron

open Calendar SkipSearch

section Search

variable (dateutil : Dateutil) {expanded : Expanded} {nth : NthWeekdays}

/-- The tick of an expression: a second if it has a field for the seconds, else a minute. -/
def tick (expanded : Expanded) : ℤ :=
  if expanded.second.isSome then 1 else 60

theorem tick_pos (expanded : Expanded) : 0 < tick expanded := by
  unfold tick
  split <;> decide

theorem tick_dvd {seconds : ℤ} (h : (60 : ℤ) ∣ seconds) : tick expanded ∣ seconds := by
  unfold tick
  split
  · exact one_dvd seconds
  · exact h

/-- What the procedures check, of a tick. -/
def conditions (expanded : Expanded) (nth : NthWeekdays) : List (ℤ → Prop) :=
  [fun p ↦ YearAllowed expanded (atTick (tick expanded) p).year,
    fun p ↦ FieldAllows expanded.month (atTick (tick expanded) p).month,
    fun p ↦ DayAllowed expanded.day (atTick (tick expanded) p).ordinal,
    fun p ↦ WeekdayAllowed expanded nth (atTick (tick expanded) p).ordinal,
    fun p ↦ FieldAllows expanded.hour (atTick (tick expanded) p).hour,
    fun p ↦ FieldAllows expanded.minute (atTick (tick expanded) p).minute,
    fun p ↦ SecondAllowed expanded (atTick (tick expanded) p).second]

theorem matches_atTick_iff (p : ℤ) :
    Matches expanded nth (atTick (tick expanded) p) ↔
      ∀ accepts ∈ conditions expanded nth, accepts p := by
  simp only [conditions, List.forall_mem_cons, List.not_mem_nil, false_imp_iff, implies_true,
    and_true]
  constructor
  · intro h
    exact ⟨h.year, h.month, h.day, h.weekday, h.hour, h.minute, h.second⟩
  · rintro ⟨hyear, hmonth, hday, hweekday, hhour, hminute, hsecond⟩
    exact ⟨hyear, hmonth, hday, hweekday, hhour, hminute, hsecond⟩

/-- The days that are overshot, as ticks. -/
def OvershotTick (expanded : Expanded) (p : ℤ) : Prop :=
  Overshot expanded.day (atTick (tick expanded) p).ordinal

theorem tick_dvd_first {i : ℤ} {unit : TimeUnit}
    (hunit : unit = .minute ∨ unit = .hour ∨ unit = .day ∨ unit = .month ∨ unit = .year) :
    tick expanded ∣ (unit.first i).seconds := by
  apply tick_dvd
  rcases hunit with rfl | rfl | rfl | rfl | rfl
  all_goals
    simp only [TimeUnit.minute, TimeUnit.hour, TimeUnit.day, TimeUnit.month, TimeUnit.year,
      DateTime.ofFields]
    omega

/-- A step over units, none of which is missed, as a step of the search. -/
theorem skips_of_unitSkips (expanded : Expanded) {unit : TimeUnit} {accepts : ℤ → Prop}
    {step : DateTime → Step DateTime}
    (hunit : unit = .minute ∨ unit = .hour ∨ unit = .day ∨ unit = .month ∨ unit = .year)
    (h : UnitSkips unit (fun _ ↦ False) accepts step) :
    Skips (tickOf (tick expanded)) (OvershotTick expanded)
      (fun p ↦ accepts (unit.index (atTick (tick expanded) p))) step :=
  (h.skips (tick_pos expanded) fun _ ↦ tick_dvd_first hunit).mono fun _ hmissed ↦ hmissed.elim

/-- The last procedure: without a field for the seconds it goes back to the start of the minute. -/
theorem skips_procSecond (h : expanded.WellFormed) :
    Skips (tickOf (tick expanded)) (OvershotTick expanded)
      (fun p ↦ SecondAllowed expanded (atTick (tick expanded) p).second)
      (procSecond dateutil false expanded) := by
  cases hsecond : expanded.second with
  | some items =>
    have htick : tick expanded = 1 := by
      unfold tick
      rw [hsecond]
      rfl
    have hunit : UnitSkips TimeUnit.second (fun _ ↦ False)
        (fun i ↦ FieldAllows items (cyclic 0 60 i)) (procSecond dateutil false expanded) :=
      unitSkips_procSecond dateutil h hsecond
    have hskips := hunit.skips (tick_pos expanded) fun _ ↦ htick ▸ one_dvd _
    have haccepts : (fun p ↦ SecondAllowed expanded (atTick (tick expanded) p).second) =
        fun p ↦ FieldAllows items
          (cyclic 0 60 (TimeUnit.second.index (atTick (tick expanded) p))) := by
      funext p
      unfold SecondAllowed DateTime.second cyclic
      rw [hsecond, zero_add]
      rfl
    rw [haccepts]
    exact hskips.mono fun _ hmissed ↦ hmissed.elim
  | none =>
    have htick : tick expanded = 60 := by
      unfold tick
      rw [hsecond]
      rfl
    have hstep : ∀ d, procSecond dateutil false expanded d =
        .unchanged (dateutil.add d { second := some 0 }) := by
      intro d
      simp [procSecond, hsecond]
    constructor
    · intro d hstop
      simp [hstep] at hstop
    · intro d d' hchanged
      simp [hstep] at hchanged
    · intro d d' hkept
      rw [hstep, Step.unchanged.injEq, dateutil.add_eq] at hkept
      have hseconds := d.seconds_shift_minutes 0 0
      rw [← hkept]
      unfold SecondAllowed tickOf atTick DateTime.second
      rw [htick, hsecond, hseconds]
      simp only
      omega

/-- The procedures are sound steps of the search for their conditions. -/
theorem skips_procs (h : expanded.WellFormed) (hnth : NthWellFormed nth) :
    List.Forall₂ (Skips (tickOf (tick expanded)) (OvershotTick expanded))
      (conditions expanded nth) (procs dateutil false expanded nth) := by
  refine .cons ?_ (.cons ?_ (.cons ?_ (.cons ?_ (.cons ?_ (.cons ?_ (.cons ?_ .nil))))))
  · exact skips_of_unitSkips expanded (by simp) (unitSkips_procYear dateutil h)
  · have := skips_of_unitSkips expanded (by simp) (unitSkips_procMonth dateutil h)
    simp only [month_eq_cyclic]
    exact this
  · exact (unitSkips_procDayOfMonth dateutil h).skips (tick_pos expanded)
      fun _ ↦ tick_dvd_first (by simp)
  · by_cases hempty : nth ≠ []
    · simp only [WeekdayAllowed, if_pos hempty]
      exact skips_of_unitSkips expanded (by simp) (unitSkips_procDayOfWeekNth dateutil hnth)
    · have := skips_of_unitSkips expanded (by simp)
        (unitSkips_procDayOfWeek dateutil h)
      simp only [cyclic, zero_add] at this
      simp only [WeekdayAllowed, if_neg hempty]
      exact this
  · have := skips_of_unitSkips expanded (by simp) (unitSkips_procHour dateutil h)
    simp only [cyclic, zero_add] at this
    exact this
  · have := skips_of_unitSkips expanded (by simp) (unitSkips_procMinute dateutil h)
    simp only [cyclic, zero_add] at this
    exact this
  · exact skips_procSecond dateutil h

theorem skips_pass_procs (h : expanded.WellFormed) (hnth : NthWellFormed nth) :
    Skips (tickOf (tick expanded)) (OvershotTick expanded)
      (fun p ↦ Matches expanded nth (atTick (tick expanded) p))
      (pass (procs dateutil false expanded nth)) := by
  have hiff : (fun p ↦ Matches expanded nth (atTick (tick expanded) p)) =
      fun p ↦ ∀ accepts ∈ conditions expanded nth, accepts p := by
    funext p
    exact propext (matches_atTick_iff p)
  rw [hiff]
  exact skips_pass (skips_procs dateutil h hnth)

/-- What matches is at the start of a tick. -/
theorem Matches.atTick_tickOf {d : DateTime} (h : Matches expanded nth d) :
    atTick (tick expanded) (tickOf (tick expanded) d) = d := by
  have hsecond := h.second
  unfold SecondAllowed DateTime.second at hsecond
  ext
  unfold atTick tickOf tick
  cases hitems : expanded.second with
  | some items => simp
  | none =>
    rw [hitems] at hsecond
    simp only [Option.isSome_none, Bool.false_eq_true, if_false]
    omega

/-- What the search finds is at the start of a tick. -/
theorem atTick_tickOf_of_found {isPrev : Bool} {maxYears : ℕ} {start found : DateTime}
    (hfound : calcFrom dateutil isPrev maxYears expanded nth start = some (some found)) :
    atTick (tick expanded) (tickOf (tick expanded) found) = found := by
  obtain ⟨last, _, hpass⟩ := search_last_pass hfound
  obtain ⟨d, hlast⟩ := pass_last (procs dateutil isPrev expanded nth).dropLast hpass
  ext
  unfold atTick tickOf tick
  cases hitems : expanded.second with
  | some items => simp
  | none =>
    unfold procSecond at hlast
    rw [hitems] at hlast
    simp only [Step.unchanged.injEq] at hlast
    have hseconds := d.seconds_shift_minutes 0 0
    rw [← hlast, dateutil.add_eq, hseconds]
    simp only [Option.isSome_none, Bool.false_eq_true, if_false]
    omega

/-- The search finds the first match from its start on, but for overshot ones. -/
theorem calcFrom_found (h : expanded.WellFormed) (hnth : NthWellFormed nth) {maxYears : ℕ}
    {start found : DateTime}
    (hfound : calcFrom dateutil false maxYears expanded nth start = some (some found)) :
    tickOf (tick expanded) start ≤ tickOf (tick expanded) found ∧ Matches expanded nth found ∧
      ∀ d, Matches expanded nth d → tickOf (tick expanded) start ≤ tickOf (tick expanded) d →
        d.seconds < found.seconds → Overshot expanded.day d.ordinal := by
  have hspec := search_found (skips_pass_procs dateutil h hnth) hfound
  have htick := atTick_tickOf_of_found dateutil hfound
  refine ⟨hspec.1, ?_, ?_⟩
  · have := hspec.2.1
    rw [htick] at this
    exact this
  · intro d hd hle hlt
    have hdtick := hd.atTick_tickOf
    have hticks : tickOf (tick expanded) d < tickOf (tick expanded) found := by
      have hd' : tickOf (tick expanded) d * tick expanded = d.seconds :=
        congrArg DateTime.seconds hdtick
      have hfound' : tickOf (tick expanded) found * tick expanded = found.seconds :=
        congrArg DateTime.seconds htick
      rw [← hd', ← hfound'] at hlt
      exact lt_of_mul_lt_mul_right hlt (tick_pos expanded).le
    have hovershot := hspec.2.2 _ hle hticks (by rw [hdtick]; exact hd)
    unfold OvershotTick at hovershot
    rw [hdtick] at hovershot
    exact hovershot

theorem year_le_of_tickOf_le {d e : DateTime}
    (hle : tickOf (tick expanded) d ≤ tickOf (tick expanded) e) : d.year ≤ e.year := by
  have hindex := UnitSkips.le_index_atTick .year (tick_pos expanded)
    (fun _ ↦ tick_dvd_first (by simp)) hle
  rw [UnitSkips.index_atTick .year (tick_pos expanded)
    (fun _ ↦ tick_dvd_first (by simp))] at hindex
  exact hindex

/-- When the search fails, there is no match within the years it looks at, but for overshot ones. -/
theorem calcFrom_failed (h : expanded.WellFormed) (hnth : NthWellFormed nth) {maxYears : ℕ}
    {start : DateTime} (hfailed : calcFrom dateutil false maxYears expanded nth start = some none)
    {d : DateTime} (hd : Matches expanded nth d)
    (hle : tickOf (tick expanded) start ≤ tickOf (tick expanded) d)
    (hyear : d.year ≤ start.year + maxYears) : Overshot expanded.day d.ordinal := by
  have hdtick := hd.atTick_tickOf
  have hinside : (atTick (tick expanded) (tickOf (tick expanded) d)).year ≤
      start.year + maxYears := by
    rw [hdtick]
    exact hyear
  have hovershot := search_failed (skips_pass_procs dateutil h hnth)
    (fun p ↦ (atTick (tick expanded) p).year ≤ start.year + maxYears) start ?_ le_rfl hfailed
    hinside hle (by rw [hdtick]; exact hd)
  · unfold OvershotTick at hovershot
    rw [hdtick] at hovershot
    exact hovershot
  · intro point hstart hout p hinside
    have hfirst := year_le_of_tickOf_le hstart
    simp only [withinYears, decide_eq_false_iff_not, not_le, lt_abs] at hout
    by_contra hge
    have hlast := UnitSkips.le_index_atTick .year (tick_pos expanded)
      (fun _ ↦ tick_dvd_first (by simp)) (not_lt.1 hge)
    change point.year ≤ (atTick (tick expanded) p).year at hlast
    omega

/-- The search ends: its fuel exceeds the number of ticks of the years it looks at. -/
theorem calcFrom_ne_none (h : expanded.WellFormed) (hnth : NthWellFormed nth) {maxYears : ℕ}
    {start : DateTime} : calcFrom dateutil false maxYears expanded nth start ≠ none := by
  have hend := TimeUnit.seconds_first_year (start.year + maxYears + 1)
  have hbegin := TimeUnit.seconds_first_year start.year
  have hyears := daysBeforeYear_add_le start.year (maxYears + 1)
  have hstart : (TimeUnit.year.first start.year).seconds ≤ start.seconds :=
    TimeUnit.year.first_index_le start
  rw [Nat.cast_succ, ← add_assoc] at hyears
  generalize hfinal : (TimeUnit.year.first (start.year + maxYears + 1)).seconds = final at hend
  have htick : tick expanded = 1 ∨ tick expanded = 60 := by
    unfold tick
    split <;> simp
  apply search_ne_none (skips_pass_procs dateutil h hnth)
    (fun p ↦ (final / tick expanded + 1 - p).toNat)
  · intro point hwithin p hlt
    simp only [withinYears, decide_eq_true_eq, abs_le] at hwithin
    have hbefore : point.seconds < final := by
      rw [← hfinal, ← TimeUnit.year.index_lt_iff]
      change point.year < _
      omega
    have hticks := Int.ediv_le_ediv (tick_pos expanded) hbefore.le
    unfold tickOf at hlt ⊢
    omega
  · unfold searchFuel tickOf
    rcases htick with htick | htick
    · rw [htick]
      omega
    · rw [htick]
      omega

end Search

end DBOSModel.Cron

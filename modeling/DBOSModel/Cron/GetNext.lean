import DBOSModel.Cron.NextMatch
import DBOSModel.Cron.Accepted

/-!
# The iterator

`_get_next` of `dbos/_croniter.py` on an iterator whose time zone has a fixed offset, where its
correction for a change of the offset never applies. When both the day of the month and the day of
the week are restricted, it searches once for each of them and takes the nearer time. When one of
the two searches fails, it raises, whatever the other one finds.
-/

namespace DBOSModel.Cron

open Calendar SkipSearch

/-- A `croniter` object. Times are in microseconds of UTC, the offset of its zone in seconds. -/
structure Croniter where
  expanded : Expanded
  nth : NthWeekdays := []
  /-- `expressions`: the fields of the expression before they are expanded. -/
  expressions : List String := []
  dayOr : Bool := true
  implementCronBug : Bool := false
  maxYears : ℕ := 50
  utcoffset : ℤ := 0
  cur : ℤ
deriving DecidableEq, Repr

namespace Croniter

/-- `__init__`, at a start time in a zone, with the other options as the scheduler leaves them. -/
def init (unicode : Unicode) (hash : HashSource) (secondAtBeginning : Bool) (exprFormat : String)
    (startTime utcoffset : ℤ) : Except CronError Croniter :=
  (expand unicode hash secondAtBeginning exprFormat).map fun parsed ↦
    { expanded := parsed.1, nth := parsed.2
      expressions := (splitExpression unicode hash secondAtBeginning exprFormat).map String.ofList
      utcoffset := utcoffset, cur := startTime }

variable (dateutil : Dateutil) (it : Croniter)

/-- `re_star.match`. -/
def startsWithStar (expression : String) : Bool :=
  expression.startsWith "*"

/-- Day of month and day of week are both restricted, and a day that satisfies one of them is
enough. -/
def daysUnited : Bool :=
  it.expanded.day.head? ≠ some Item.star && it.expanded.dow.head? ≠ some Item.star && it.dayOr &&
    !(it.implementCronBug &&
      (startsWithStar (it.expressions.getD 2 "") || startsWithStar (it.expressions.getD 4 "")))

/-- `_calc` of the iterator for fields that may differ from its own. -/
def calcWith (expanded : Expanded) (isPrev : Bool) : Option ℤ :=
  calcTimestamp dateutil isPrev it.maxYears expanded it.nth it.utcoffset it.cur

/-- The result of `_get_next`, or `none` when it raises `CroniterBadDateError`. -/
def nextTime (isPrev : Bool) : Option ℤ :=
  if it.daysUnited then
    match it.calcWith dateutil { it.expanded with dow := [.star] } isPrev,
      it.calcWith dateutil { it.expanded with day := [.star] } isPrev with
    | some t1, some t2 =>
      if isPrev then if t2 < t1 then some t1 else some t2
      else if t1 < t2 then some t1 else some t2
    | _, _ => none
  else it.calcWith dateutil it.expanded isPrev

/-- `get_next`: the iterator is at the time it returns. -/
def getNext : Option (ℤ × Croniter) :=
  (it.nextTime dateutil false).map fun time ↦ (time, { it with cur := time })

def getPrev : Option (ℤ × Croniter) :=
  (it.nextTime dateutil true).map fun time ↦ (time, { it with cur := time })

/-! ## What the iterator fires on -/

/-- The day satisfies the fields for the days. With an n-th weekday, the day of the month does not
count when the days are united. -/
def DayFires (day : ℤ) : Prop :=
  if it.daysUnited then
    if it.nth ≠ [] then NthAllowed it.nth day
    else DayAllowed it.expanded.day day ∨ FieldAllows it.expanded.dow (weekday day)
  else DayAllowed it.expanded.day day ∧ WeekdayAllowed it.expanded it.nth day

/-- The date-times on which the iterator fires. -/
structure Fires (d : DateTime) : Prop where
  year : YearAllowed it.expanded d.year
  month : FieldAllows it.expanded.month d.month
  day : it.DayFires d.ordinal
  hour : FieldAllows it.expanded.hour d.hour
  minute : FieldAllows it.expanded.minute d.minute
  second : SecondAllowed it.expanded d.second

/-- The date-time in the zone of the iterator. -/
def wall (seconds : ℤ) : DateTime := ⟨seconds + it.utcoffset⟩

/-- The times on which the iterator fires: whole seconds. -/
def FiresAt (time : ℤ) : Prop :=
  ∃ seconds, time = seconds * 1000000 ∧ it.Fires (it.wall seconds)

/-- A time on a day that is overshot. -/
def OvershotAt (time : ℤ) : Prop :=
  ∃ seconds, time = seconds * 1000000 ∧ Overshot it.expanded.day (it.wall seconds).ordinal

structure WellFormed : Prop where
  expanded : it.expanded.WellFormed
  nth : NthWellFormed it.nth

variable {it}

/-- An iterator is well formed, whatever expression it is made from. -/
theorem wellFormed_of_init {unicode : Unicode} {hash : HashSource} {secondAtBeginning : Bool}
    {exprFormat : String} {startTime utcoffset : ℤ}
    (h : init unicode hash secondAtBeginning exprFormat startTime utcoffset = .ok it) :
    it.WellFormed := by
  obtain ⟨⟨expanded, nth⟩, hexpand, rfl⟩ := Relational.map_eq_ok.mp h
  have hspec := expand_wellFormed_of hexpand
  exact ⟨hspec.1, hspec.2⟩

theorem fieldAllows_star (x : ℕ) : FieldAllows [Item.star] x :=
  Or.inl List.mem_cons_self

theorem dayAllowed_star (day : ℤ) : DayAllowed [Item.star] day :=
  Or.inl List.mem_cons_self

theorem not_overshot_star (day : ℤ) : ¬ Overshot [Item.star] day := by
  rintro ⟨n, hmem, _⟩
  simp at hmem

/-- United days fire when one of the two searches matches. -/
theorem fires_iff_of_united (hunited : it.daysUnited = true) (d : DateTime) :
    it.Fires d ↔ Matches { it.expanded with dow := [.star] } it.nth d ∨
      Matches { it.expanded with day := [.star] } it.nth d := by
  have hday : it.DayFires d.ordinal ↔
      (DayAllowed it.expanded.day d.ordinal ∧
        WeekdayAllowed { it.expanded with dow := [.star] } it.nth d.ordinal) ∨
      WeekdayAllowed { it.expanded with day := [.star] } it.nth d.ordinal := by
    unfold DayFires WeekdayAllowed
    rw [if_pos hunited]
    split
    · constructor
      · exact Or.inr
      · rintro (h | h)
        · exact h.2
        · exact h
    · simp [fieldAllows_star]
  constructor
  · intro h
    rcases hday.1 h.day with hfirst | hsecond
    · exact Or.inl ⟨h.year, h.month, hfirst.1, hfirst.2, h.hour, h.minute, h.second⟩
    · exact Or.inr ⟨h.year, h.month, dayAllowed_star _, hsecond, h.hour, h.minute, h.second⟩
  · rintro (h | h)
    · exact ⟨h.year, h.month, hday.2 (Or.inl ⟨h.day, h.weekday⟩), h.hour, h.minute, h.second⟩
    · exact ⟨h.year, h.month, hday.2 (Or.inr h.weekday), h.hour, h.minute, h.second⟩

theorem fires_iff_of_not_united (hunited : it.daysUnited = false) (d : DateTime) :
    it.Fires d ↔ Matches it.expanded it.nth d := by
  have hday : it.DayFires d.ordinal ↔
      DayAllowed it.expanded.day d.ordinal ∧ WeekdayAllowed it.expanded it.nth d.ordinal := by
    unfold DayFires
    rw [hunited, if_neg Bool.false_ne_true]
  constructor
  · intro h
    have hboth := hday.1 h.day
    exact ⟨h.year, h.month, hboth.1, hboth.2, h.hour, h.minute, h.second⟩
  · intro h
    exact ⟨h.year, h.month, hday.2 ⟨h.day, h.weekday⟩, h.hour, h.minute, h.second⟩

/-! ## One search -/

section Calc

variable {expanded : Expanded} {seconds : ℤ}

/-- The first tick of a forward search is the first one after the current time. -/
theorem tickOf_searchStart_le_iff {d : DateTime} (now : ℤ)
    (hd : atTick (tick expanded) (tickOf (tick expanded) d) = d) :
    tickOf (tick expanded) (searchStart false expanded it.utcoffset now) ≤
        tickOf (tick expanded) d ↔ now < (d.seconds - it.utcoffset) * 1000000 := by
  have hseconds : tickOf (tick expanded) d * tick expanded = d.seconds :=
    congrArg DateTime.seconds hd
  unfold tickOf tick at hseconds
  unfold tickOf searchStart wholeSeconds tick
  cases hsecond : expanded.second with
  | none =>
    rw [hsecond] at hseconds
    simp only [Option.isSome_none, Bool.false_eq_true, if_false] at hseconds ⊢
    omega
  | some items =>
    simp only [Option.isSome_some, if_true, Bool.false_eq_true, if_false]
    omega

/-- The next time that one search finds. -/
theorem calcWith_found (hexpanded : expanded.WellFormed) (hnth : NthWellFormed it.nth) {time : ℤ}
    (hfound : it.calcWith dateutil expanded false = some time) :
    ∃ seconds, time = seconds * 1000000 ∧ it.cur < time ∧
      Matches expanded it.nth (it.wall seconds) ∧
        ∀ earlier, it.cur < earlier * 1000000 → earlier < seconds →
          Matches expanded it.nth (it.wall earlier) →
            Overshot expanded.day (it.wall earlier).ordinal := by
  unfold calcWith calcTimestamp at hfound
  rw [Option.map_eq_some_iff] at hfound
  obtain ⟨found, hjoin, htime⟩ := hfound
  rw [Option.join_eq_some_iff] at hjoin
  have hspec := calcFrom_found dateutil hexpanded hnth hjoin
  have hwall : it.wall (found.seconds - it.utcoffset) = found := by
    ext
    exact sub_add_cancel _ _
  refine ⟨found.seconds - it.utcoffset, htime.symm, ?_, ?_, ?_⟩
  · rw [← htime]
    exact (tickOf_searchStart_le_iff it.cur (atTick_tickOf_of_found dateutil hjoin)).1 hspec.1
  · rw [hwall]
    exact hspec.2.1
  · intro earlier hafter hbefore hmatches
    apply hspec.2.2 _ hmatches
    · rw [tickOf_searchStart_le_iff it.cur hmatches.atTick_tickOf]
      simpa [wall] using hafter
    · change earlier + it.utcoffset < found.seconds
      omega

/-- A search that fails leaves no match in the years it looks at, but for overshot ones. -/
theorem calcWith_failed (hexpanded : expanded.WellFormed) (hnth : NthWellFormed it.nth)
    (hfailed : it.calcWith dateutil expanded false = none) {seconds : ℤ}
    (hmatches : Matches expanded it.nth (it.wall seconds)) (hafter : it.cur < seconds * 1000000)
    (hyear : (it.wall seconds).year ≤
      (searchStart false expanded it.utcoffset it.cur).year + it.maxYears) :
    Overshot expanded.day (it.wall seconds).ordinal := by
  unfold calcWith calcTimestamp at hfailed
  rw [Option.map_eq_none_iff] at hfailed
  have hsome : calcFrom dateutil false it.maxYears expanded it.nth
      (searchStart false expanded it.utcoffset it.cur) = some none := by
    cases hresult : calcFrom dateutil false it.maxYears expanded it.nth
        (searchStart false expanded it.utcoffset it.cur) with
    | none => exact absurd hresult (calcFrom_ne_none dateutil hexpanded hnth)
    | some result =>
      rw [hresult, Option.join_some] at hfailed
      rw [hfailed]
  apply calcFrom_failed dateutil hexpanded hnth hsome hmatches _ hyear
  rw [tickOf_searchStart_le_iff it.cur hmatches.atTick_tickOf]
  simpa [wall] using hafter

end Calc

/-! ## The next time -/

/-- The fields of the searches of `_get_next`. -/
def searches (it : Croniter) : List Expanded :=
  if it.daysUnited then
    [{ it.expanded with dow := [.star] }, { it.expanded with day := [.star] }]
  else [it.expanded]

theorem fires_iff (d : DateTime) :
    it.Fires d ↔ ∃ expanded ∈ it.searches, Matches expanded it.nth d := by
  unfold searches
  cases hunited : it.daysUnited with
  | true => simp [fires_iff_of_united hunited]
  | false => simp [fires_iff_of_not_united hunited]

theorem wellFormed_star (low high : ℕ) (lastAllowed : Bool) :
    FieldWellFormed [Item.star] low high lastAllowed :=
  Or.inl List.mem_cons_self

theorem wellFormed_of_mem_searches (h : it.expanded.WellFormed) :
    ∀ expanded ∈ it.searches, expanded.WellFormed := by
  unfold searches
  split
  · have hfirst : ({ it.expanded with dow := [.star] } : Expanded).WellFormed :=
      { h with dow := wellFormed_star 0 7 false }
    have hsecond : ({ it.expanded with day := [.star] } : Expanded).WellFormed :=
      { h with day := wellFormed_star 1 31 true }
    simp [hfirst, hsecond]
  · simp [h]

/-- Only the own days of the month are overshot. -/
theorem overshot_of_mem_searches {expanded : Expanded} (hmem : expanded ∈ it.searches) {day : ℤ}
    (hovershot : Overshot expanded.day day) : Overshot it.expanded.day day := by
  unfold searches at hmem
  split at hmem
  · simp only [List.mem_cons, List.not_mem_nil, or_false] at hmem
    rcases hmem with rfl | rfl
    · exact hovershot
    · exact absurd hovershot (not_overshot_star day)
  · rw [List.mem_singleton.1 hmem] at hovershot
    exact hovershot

/-- The next time is what one of the searches finds, and the others find no earlier one. -/
theorem nextTime_eq_some {time : ℤ} (h : it.nextTime dateutil false = some time) :
    (∃ expanded ∈ it.searches, it.calcWith dateutil expanded false = some time) ∧
      ∀ expanded ∈ it.searches, ∃ other, it.calcWith dateutil expanded false = some other ∧
        time ≤ other := by
  unfold nextTime at h
  unfold searches
  split at h
  · next hunited =>
    rw [if_pos hunited]
    simp only [List.mem_cons, List.not_mem_nil, or_false, exists_eq_or_imp, exists_eq_left,
      forall_eq_or_imp, forall_eq]
    split at h
    · next t1 t2 hfirst hsecond =>
      rw [hfirst, hsecond]
      simp only [Bool.false_eq_true, if_false] at h
      split at h
      · next hlt =>
        rw [Option.some.injEq] at h
        exact ⟨Or.inl (congrArg some h), ⟨t1, rfl, h.ge⟩, t2, rfl, h ▸ hlt.le⟩
      · next hge =>
        rw [Option.some.injEq] at h
        exact ⟨Or.inr (congrArg some h), ⟨t1, rfl, h ▸ not_lt.1 hge⟩, t2, rfl, h.ge⟩
    · simp at h
  · next hunited =>
    rw [if_neg hunited]
    simp [h]

/-- It raises when one of the searches fails. -/
theorem nextTime_eq_none_iff :
    it.nextTime dateutil false = none ↔
      ∃ expanded ∈ it.searches, it.calcWith dateutil expanded false = none := by
  unfold nextTime searches
  split
  · simp only [List.mem_cons, List.not_mem_nil, or_false, exists_eq_or_imp, exists_eq_left]
    split
    · next t1 t2 hfirst hsecond =>
      rw [hfirst, hsecond]
      simp only [Bool.false_eq_true, if_false]
      split <;> simp
    · next hnone =>
      simp only [true_iff]
      by_contra hboth
      rw [not_or] at hboth
      obtain ⟨t1, hfirst⟩ := Option.ne_none_iff_exists'.1 hboth.1
      obtain ⟨t2, hsecond⟩ := Option.ne_none_iff_exists'.1 hboth.2
      exact hnone t1 t2 hfirst hsecond
  · simp

theorem nextTime_least_of (hwf : it.WellFormed) {time : ℤ}
    (h : it.nextTime dateutil false = some time) :
    it.cur < time ∧ it.FiresAt time ∧
      ∀ earlier, it.cur < earlier → earlier < time → it.FiresAt earlier → it.OvershotAt earlier := by
  have hnext := nextTime_eq_some dateutil h
  have hexpanded := wellFormed_of_mem_searches hwf.expanded
  constructor
  · obtain ⟨expanded, hmem, hcalc⟩ := hnext.1
    obtain ⟨_, _, hafter, _⟩ := calcWith_found dateutil (hexpanded expanded hmem) hwf.nth hcalc
    exact hafter
  constructor
  · obtain ⟨expanded, hmem, hcalc⟩ := hnext.1
    obtain ⟨seconds, htime, _, hmatches, _⟩ :=
      calcWith_found dateutil (hexpanded expanded hmem) hwf.nth hcalc
    exact ⟨seconds, htime, (fires_iff _).2 ⟨expanded, hmem, hmatches⟩⟩
  · rintro earlier hafter hbefore ⟨seconds, rfl, hfires⟩
    obtain ⟨expanded, hmem, hmatches⟩ := (fires_iff _).1 hfires
    obtain ⟨other, hcalc, hle⟩ := hnext.2 expanded hmem
    obtain ⟨otherSeconds, hother, _, _, hleast⟩ :=
      calcWith_found dateutil (hexpanded expanded hmem) hwf.nth hcalc
    refine ⟨seconds, rfl, overshot_of_mem_searches hmem ?_⟩
    exact hleast seconds hafter (by omega) hmatches

/-- `get_next` returns the first time after the current one on which the iterator fires. The only
times that it can pass over are on days that a number of the field for the day of the month
overshoots. -/
theorem nextTime_least (hwf : it.WellFormed) {time : ℤ}
    (h : it.nextTime dateutil false = some time) :
    it.cur < time ∧ it.FiresAt time ∧
      ∀ earlier, it.cur < earlier → earlier < time → it.FiresAt earlier → it.OvershotAt earlier :=
  nextTime_least_of dateutil hwf h

/-- `0 0 1,30 * *`, at the start of the second of February 2023. -/
def firstAndThirtieth : Croniter where
  expanded :=
    { minute := [.num 0], hour := [.num 0], day := [.num 1, .num 30], month := [.star]
      dow := [.star] }
  cur := 1675296000000000

theorem firstAndThirtieth_expand :
    expand Unicode.ascii {} true "0 0 1,30 * *" = .ok (firstAndThirtieth.expanded, []) := by
  decide +kernel

theorem firstAndThirtieth_wellFormed : firstAndThirtieth.WellFormed where
  expanded := (expand_wellFormed_of firstAndThirtieth_expand).1
  nth := (expand_wellFormed_of firstAndThirtieth_expand).2

/-- February has no 30th, and the search that looks for it passes over the first of March: the next
time is the 30th of March. -/
theorem nextTime_least_firstAndThirtieth :
    firstAndThirtieth.cur < 1680134400000000 ∧ firstAndThirtieth.FiresAt 1680134400000000 ∧
      ∀ earlier, firstAndThirtieth.cur < earlier → earlier < 1680134400000000 →
        firstAndThirtieth.FiresAt earlier → firstAndThirtieth.OvershotAt earlier :=
  nextTime_least Dateutil.documented firstAndThirtieth_wellFormed (by decide +kernel)

/-- The first year of the search. -/
def searchYear (it : Croniter) : ℤ :=
  (searchStart false it.expanded it.utcoffset it.cur).year

theorem nextTime_exhausted_of (hwf : it.WellFormed) (h : it.nextTime dateutil false = none) :
    ∃ expanded ∈ it.searches, ∀ seconds, it.cur < seconds * 1000000 →
      (it.wall seconds).year ≤ it.searchYear + it.maxYears →
        Matches expanded it.nth (it.wall seconds) → it.OvershotAt (seconds * 1000000) := by
  obtain ⟨expanded, hmem, hcalc⟩ := (nextTime_eq_none_iff dateutil).1 h
  refine ⟨expanded, hmem, ?_⟩
  intro seconds hafter hyear hmatches
  have hsecond : expanded.second = it.expanded.second := by
    unfold searches at hmem
    split at hmem
    · simp only [List.mem_cons, List.not_mem_nil, or_false] at hmem
      rcases hmem with rfl | rfl <;> rfl
    · rw [List.mem_singleton.1 hmem]
  have hstart : searchStart false expanded it.utcoffset it.cur =
      searchStart false it.expanded it.utcoffset it.cur := by
    unfold searchStart
    rw [hsecond]
  refine ⟨seconds, rfl, overshot_of_mem_searches hmem ?_⟩
  apply calcWith_failed dateutil (wellFormed_of_mem_searches hwf.expanded expanded hmem) hwf.nth
    hcalc hmatches hafter
  rw [hstart]
  exact hyear

/-- When `get_next` raises, then one of its searches has no match up to the last year it looks at,
but for days that are overshot. -/
theorem nextTime_exhausted (hwf : it.WellFormed) (h : it.nextTime dateutil false = none) :
    ∃ expanded ∈ it.searches, ∀ seconds, it.cur < seconds * 1000000 →
      (it.wall seconds).year ≤ it.searchYear + it.maxYears →
        Matches expanded it.nth (it.wall seconds) → it.OvershotAt (seconds * 1000000) :=
  nextTime_exhausted_of dateutil hwf h

/-- `0 0 30 2 *`, at the epoch. -/
def thirtiethOfFebruary : Croniter where
  expanded :=
    { minute := [.num 0], hour := [.num 0], day := [.num 30], month := [.num 2], dow := [.star] }
  cur := 0

theorem thirtiethOfFebruary_expand :
    expand Unicode.ascii {} true "0 0 30 2 *" = .ok (thirtiethOfFebruary.expanded, []) := by
  decide +kernel

theorem nextTime_exhausted_thirtiethOfFebruary :
    ∃ expanded ∈ thirtiethOfFebruary.searches, ∀ seconds,
      thirtiethOfFebruary.cur < seconds * 1000000 →
        (thirtiethOfFebruary.wall seconds).year ≤
          thirtiethOfFebruary.searchYear + thirtiethOfFebruary.maxYears →
          Matches expanded thirtiethOfFebruary.nth (thirtiethOfFebruary.wall seconds) →
            thirtiethOfFebruary.OvershotAt (seconds * 1000000) :=
  nextTime_exhausted Dateutil.documented
    ⟨(expand_wellFormed_of thirtiethOfFebruary_expand).1,
      (expand_wellFormed_of thirtiethOfFebruary_expand).2⟩
    (by decide +kernel)

/-! ## Weekday 7 -/

theorem not_fieldAllows_seven {items : List Item} (hseven : ∀ item ∈ items, item = .num 7)
    (day : ℤ) : ¬ FieldAllows items (weekday day) := by
  rintro (hstar | hnum)
  · exact absurd (hseven _ hstar) (by simp)
  · have hday := hseven _ hnum
    rw [Item.num.injEq] at hday
    have := weekday_lt day
    omega

/-- A schedule whose only weekday is 7 never fires: `get_next` raises at every time. -/
theorem nextTime_of_seven (hwf : it.WellFormed) (hnth : it.nth = [])
    (hseven : ∀ item ∈ it.expanded.dow, item = .num 7) : it.nextTime dateutil false = none := by
  -- some search needs a weekday that the field allows
  have hsearch : ∃ expanded ∈ it.searches, expanded.dow = it.expanded.dow := by
    unfold searches
    split <;> simp
  obtain ⟨expanded, hmem, hdow⟩ := hsearch
  rw [nextTime_eq_none_iff]
  refine ⟨expanded, hmem, ?_⟩
  by_contra hsome
  obtain ⟨time, hcalc⟩ := Option.ne_none_iff_exists'.1 hsome
  obtain ⟨seconds, _, _, hmatches, _⟩ :=
    calcWith_found dateutil (wellFormed_of_mem_searches hwf.expanded expanded hmem) hwf.nth hcalc
  have hweekday := hmatches.weekday
  unfold WeekdayAllowed at hweekday
  rw [if_neg (by simp [hnth]), hdow] at hweekday
  exact not_fieldAllows_seven hseven _ hweekday

/-- With a field for the seconds, weekday 7 is accepted but is no Sunday: an iterator for such an
expression raises at every time. -/
theorem init_seven_never_fires {unicode : Unicode} {hash : HashSource} {secondAtBeginning : Bool}
    {exprFormat : String} {startTime utcoffset : ℤ} {e0 e1 e2 e3 e5 : List Char}
    (hdigit : unicode.digit '7' = some 7)
    (hfields : splitExpression unicode hash secondAtBeginning exprFormat =
      [e0, e1, e2, e3, ['7'], e5])
    (h : init unicode hash secondAtBeginning exprFormat startTime utcoffset = .ok it) (time : ℤ) :
    ({ it with cur := time } : Croniter).nextTime dateutil false = none := by
  have hwf := wellFormed_of_init h
  obtain ⟨⟨expanded, nth⟩, hexpand, rfl⟩ := Relational.map_eq_ok.mp h
  have hspec := expand_seven hdigit hfields hexpand
  have hseven : ∀ item ∈ expanded.dow, item = .num 7 := by
    intro item hmem
    rw [hspec.1] at hmem
    exact List.mem_singleton.1 hmem
  have hwf' : ({ expanded := expanded, nth := nth
                 expressions :=
                  (splitExpression unicode hash secondAtBeginning exprFormat).map String.ofList
                 utcoffset := utcoffset, cur := time } : Croniter).WellFormed :=
    ⟨hwf.expanded, hwf.nth⟩
  exact nextTime_of_seven dateutil hwf' hspec.2 hseven

/-- `0 0 0 * * 7`, a midnight on weekday 7. -/
def midnightOnSeven : Croniter where
  expanded :=
    { minute := [.num 0], hour := [.num 0], day := [.star], month := [.star], dow := [.num 7]
      second := some [.num 0] }
  expressions := ["0", "0", "*", "*", "7", "0"]
  cur := 0

theorem init_seven_never_fires_midnight :
    ({ midnightOnSeven with cur := 1700000000000000 } : Croniter).nextTime Dateutil.documented
      false = none := by
  have hdigit : Unicode.ascii.digit '7' = some 7 := by decide
  have hfields : splitExpression Unicode.ascii {} true "0 0 0 * * 7" =
      [['0'], ['0'], ['*'], ['*'], ['7'], ['0']] := by decide +kernel
  have hinit : init Unicode.ascii {} true "0 0 0 * * 7" 0 0 = .ok midnightOnSeven := by
    decide +kernel
  exact init_seven_never_fires Dateutil.documented hdigit hfields hinit 1700000000000000

end Croniter

end DBOSModel.Cron

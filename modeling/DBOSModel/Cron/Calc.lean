import DBOSModel.Cron.Fields
import DBOSModel.Search.Skip

/-!
# The search for the next time

`_calc` of `dbos/_croniter.py` and the procedures it runs, in both directions. A timestamp counts
microseconds, so that `math.floor` and `math.ceil` are divisions, and the result is a number of whole
seconds. The offset of the time zone from UTC is the same at all times, as it is in UTC, but not in a
zone with daylight saving time.

In the source the procedures read `month` and `year`, which are those of `dst` whenever they are
read: they are set at the start and after every change.
-/

namespace DBOSModel.Cron

open Calendar SkipSearch

/-- The `relativedelta` of the `dateutil` package: adding one is the shift of its documentation. -/
structure Dateutil where
  add : DateTime → RelativeDelta → DateTime
  add_eq : ∀ d delta, add d delta = d.shift delta

def Dateutil.documented : Dateutil where
  add := DateTime.shift
  add_eq _ _ := rfl

def DAYS : List ℕ := [31, 28, 31, 30, 31, 30, 31, 31, 30, 31, 30, 31]

def isLeap (year : ℤ) : Bool :=
  if year % 400 = 0 ∨ (year % 4 = 0 ∧ year % 100 ≠ 0) then true else false

/-- `days`, after the correction for a leap year. -/
def daysOf (year : ℤ) (month : ℕ) : ℕ :=
  DAYS.getD (month - 1) 0 + if month = 2 ∧ isLeap year then 1 else 0

/-- `nearest_diff_method`. -/
def nearestDiff (isPrev : Bool) : ℤ → List Item → Option ℤ → Option ℤ :=
  if isPrev then getPrevNearestDiff else getNextNearestDiff

/-! ## The weekdays of a month -/

/-- `itermonthdays` of a calendar whose weeks start at a weekday, Monday being 0: the days of a
month, filled up with zeros to whole weeks. -/
def iterMonthDays (firstWeekday : ℤ) (monthIndex : ℤ) : List ℕ :=
  let day1 := (monthStart monthIndex + 1 + 6) % 7
  let daysBefore := (day1 - firstWeekday) % 7
  let daysAfter := (firstWeekday - day1 - monthLength monthIndex) % 7
  List.replicate daysBefore.toNat 0 ++ List.range' 1 (monthLength monthIndex) ++
    List.replicate daysAfter.toNat 0

/-- `monthdayscalendar`. -/
def monthDaysCalendar (firstWeekday : ℤ) (monthIndex : ℤ) : List (List ℕ) :=
  let days := iterMonthDays firstWeekday monthIndex
  (List.range ((days.length + 6) / 7)).map fun week ↦ (days.drop (7 * week)).take 7

/-- `_get_nth_weekday_of_month`. -/
def getNthWeekdayOfMonth (monthIndex : ℤ) (dayOfWeek : ℕ) : List ℕ :=
  let w := ((dayOfWeek : ℤ) + 6) % 7
  let c := monthDaysCalendar w monthIndex
  let c := if (c.headD []).headD 0 = 0 then c.tail else c
  c.map fun week ↦ week.headD 0

/-- The day for one element of `nth_weekday_of_month`, if the month has it. -/
def candidateOf (monthIndex : ℤ) (wday : ℕ) (n : Nth) : Option ℕ :=
  let days := getNthWeekdayOfMonth monthIndex wday
  match n with
  | .last => days.getLast?
  | .nth n => if days.length < n then none else days[n - 1]?

/-! ## The procedures -/

section Procedures

variable (dateutil : Dateutil) (isPrev : Bool)

/-- What a procedure does with a field: it moves by the distance to the nearest value. -/
def procField (items : List Item) (x range : ℤ) (move : ℤ → DateTime) (d : DateTime) :
    Step DateTime :=
  if Item.star ∈ items then .unchanged d
  else
    match nearestDiff isPrev x items (some range) with
    | some diff => if diff ≠ 0 then .changed (move diff) else .unchanged d
    | none => .unchanged d

def procYear (expanded : Expanded) (d : DateTime) : Step DateTime :=
  match expanded.year with
  | none => .unchanged d
  | some years =>
    if Item.star ∈ years then .unchanged d
    else
      -- no range: the years do not start over
      match nearestDiff isPrev d.year years none with
      | none => .stop
      | some diffYear =>
        if diffYear ≠ 0 then
          .changed <|
            if isPrev then
              dateutil.add d
                { years := diffYear, month := some 12, day := some 31,
                  hour := some 23, minute := some 59, second := some 59 }
            else
              dateutil.add d
                { years := diffYear, month := some 1, day := some 1,
                  hour := some 0, minute := some 0, second := some 0 }
        else .unchanged d

def procMonth (expanded : Expanded) (d : DateTime) : Step DateTime :=
  procField isPrev expanded.month d.month 12
    (fun diffMonth ↦
      if isPrev then
        let d := dateutil.add d { months := diffMonth }
        dateutil.add d
          { day := some (daysOf d.year d.month),
            hour := some 23, minute := some 59, second := some 59 }
      else
        dateutil.add d
          { months := diffMonth, day := some 1,
            hour := some 0, minute := some 0, second := some 0 })
    d

/-- A number of days later or earlier, at the first or the last second of the day. -/
def moveDays (d : DateTime) (diffDay : ℤ) : DateTime :=
  if isPrev then
    dateutil.add d { days := diffDay, hour := some 23, minute := some 59, second := some 59 }
  else
    dateutil.add d { days := diffDay, hour := some 0, minute := some 0, second := some 0 }

def procDayOfMonth (expanded : Expanded) (d : DateTime) : Step DateTime :=
  let days := daysOf d.year d.month
  -- the wildcard comes first: with it the source does not look for "l"
  if Item.star ∉ expanded.day ∧ Item.last ∈ expanded.day ∧ days = d.day then .unchanged d
  else
    -- `days_in_prev_month` is not corrected for leap years
    let range := if isPrev then DAYS.getD ((d.month + 12 - 2) % 12) 0 else days
    procField isPrev expanded.day d.day range (moveDays dateutil isPrev d) d

def procDayOfWeek (expanded : Expanded) (d : DateTime) : Step DateTime :=
  procField isPrev expanded.dow d.weekday 7 (moveDays dateutil isPrev d) d

def procDayOfWeekNth (nth : NthWeekdays) (d : DateTime) : Step DateTime :=
  let candidates := (nth.filterMap fun entry ↦ candidateOf d.monthIndex entry.1 entry.2).filter
    fun candidate ↦ if isPrev then candidate ≤ d.day else d.day ≤ candidate
  match if isPrev then candidates.max? else candidates.min? with
  | none =>
    .changed <|
      if isPrev then moveDays dateutil isPrev d (-d.day)
      else moveDays dateutil isPrev d (daysOf d.year d.month - d.day + 1)
  | some candidate =>
    let diffDay : ℤ := candidate - d.day
    if diffDay ≠ 0 then .changed (moveDays dateutil isPrev d diffDay) else .unchanged d

def procHour (expanded : Expanded) (d : DateTime) : Step DateTime :=
  procField isPrev expanded.hour d.hour 24
    (fun diffHour ↦
      if isPrev then dateutil.add d { hours := diffHour, minute := some 59, second := some 59 }
      else dateutil.add d { hours := diffHour, minute := some 0, second := some 0 })
    d

def procMinute (expanded : Expanded) (d : DateTime) : Step DateTime :=
  procField isPrev expanded.minute d.minute 60
    (fun diffMin ↦
      if isPrev then dateutil.add d { minutes := diffMin, second := some 59 }
      else dateutil.add d { minutes := diffMin, second := some 0 })
    d

def procSecond (expanded : Expanded) (d : DateTime) : Step DateTime :=
  match expanded.second with
  | some seconds =>
    procField isPrev seconds d.second 60 (fun diffSec ↦ dateutil.add d { seconds := diffSec }) d
  | none => .unchanged (dateutil.add d { second := some 0 })

/-- `procs`. -/
def procs (expanded : Expanded) (nth : NthWeekdays) : List (DateTime → Step DateTime) :=
  [procYear dateutil isPrev expanded,
    procMonth dateutil isPrev expanded,
    procDayOfMonth dateutil isPrev expanded,
    if nth ≠ [] then procDayOfWeekNth dateutil isPrev nth
    else procDayOfWeek dateutil isPrev expanded,
    procHour dateutil isPrev expanded,
    procMinute dateutil isPrev expanded,
    procSecond dateutil isPrev expanded]

end Procedures

/-! ## The search -/

/-- The current time, in microseconds of UTC, as whole seconds. -/
def wholeSeconds (isPrev : Bool) (now : ℤ) : ℤ :=
  if isPrev then -(-now / 1000000) else now / 1000000

/-- The first time of the search. -/
def searchStart (isPrev : Bool) (expanded : Expanded) (utcoffset now : ℤ) : DateTime where
  seconds :=
    let seconds := wholeSeconds isPrev now
    if isPrev then
      seconds - (if expanded.second.isSome ∨ 0 < seconds % 60 then 1 else 60) + utcoffset
    else
      seconds + (if expanded.second.isSome then 1 else 60) + utcoffset

/-- The loop goes on for as long as the year is close enough to the first one. -/
def withinYears (maxYears : ℕ) (currentYear : ℤ) (d : DateTime) : Bool :=
  |d.year - currentYear| ≤ (maxYears : ℤ)

/-- More turns than the loop can take. -/
def searchFuel (maxYears : ℕ) : ℕ := (maxYears + 2) * 366 * 86400

/-- `_calc`, from `dst` on. -/
def calcFrom (dateutil : Dateutil) (isPrev : Bool) (maxYears : ℕ) (expanded : Expanded)
    (nth : NthWeekdays) (dst : DateTime) : Option (Option DateTime) :=
  search (withinYears maxYears dst.year) (procs dateutil isPrev expanded nth)
    (searchFuel maxYears) dst

/-- `_calc`. It raises `CroniterBadDateError` when the search fails. -/
def calcTimestamp (dateutil : Dateutil) (isPrev : Bool) (maxYears : ℕ) (expanded : Expanded)
    (nth : NthWeekdays) (utcoffset now : ℤ) : Option ℤ :=
  (calcFrom dateutil isPrev maxYears expanded nth
    (searchStart isPrev expanded utcoffset now)).join.map
      fun dst ↦ (dst.seconds - utcoffset) * 1000000

end DBOSModel.Cron

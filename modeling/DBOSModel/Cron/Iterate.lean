import DBOSModel.Cron.GetNext
import DBOSModel.Search.Enumerate

/-!
# Loops over an iterator

The loop of `backfill_schedule` in `dbos/_scheduler.py`, and `croniter_range` of
`dbos/_croniter.py`: both ask an iterator for one time after the other. The backfill stops at its
end, and raises when the iterator does. The range stops where the iterator raises, which looks at as
many years as the range spans. As everywhere here, the time zone has a fixed offset from UTC: where
the clocks change, the iterator skips or repeats times.
-/

namespace DBOSModel.Cron

open Calendar SkipSearch

namespace Croniter

variable (dateutil : Dateutil) (it : Croniter)

/-- The iterator at another time. -/
def at_ (time : ℤ) : Croniter := { it with cur := time }

/-- The times that `backfill_schedule` enqueues, for an iterator at its start. -/
def backfillTimes (stop : ℤ) : List ℤ × LoopEnd :=
  enumerate (getNext dateutil) (fun time ↦ time < stop) ((stop - it.cur).toNat + 1) it

/-- The year of a time, in the zone of the iterator. -/
def yearAt (time : ℤ) : ℤ := (it.wall (time / 1000000)).year

/-- `start` and `stop` of `croniter_range`, moved by a microsecond unless the ends are excluded. -/
def rangeEnds (excludeEnds : Bool) (start stop : ℤ) : ℤ × ℤ :=
  if excludeEnds then (start, stop)
  else if start < stop then (start - 1, stop + 1)
  else (start + 1, stop - 1)

/-- `croniter_range`, for the expression and the zone of an iterator. -/
def croniterRange (excludeEnds : Bool) (start stop : ℤ) : List ℤ :=
  let ends := rangeEnds excludeEnds start stop
  let yearSpan := (it.yearAt ends.2 - it.yearAt ends.1).natAbs + 1
  let ic := { it with cur := ends.1, maxYears := max yearSpan 1 }
  let fuel := (ends.2 - ends.1).natAbs + 1
  if ends.1 < ends.2 then (enumerate (getNext dateutil) (fun v ↦ v < ends.2) fuel ic).1
  else (enumerate (getPrev dateutil) (fun v ↦ ends.2 < v) fuel ic).1

variable {it}

/-- What the iterator fires on depends neither on its time nor on how far it looks. -/
theorem firesAt_congr (cur : ℤ) (maxYears : ℕ) :
    ({ it with cur := cur, maxYears := maxYears } : Croniter).FiresAt = it.FiresAt := by
  funext time
  apply propext
  constructor
  · rintro ⟨seconds, htime, h⟩
    exact ⟨seconds, htime, h.year, h.month, h.day, h.hour, h.minute, h.second⟩
  · rintro ⟨seconds, htime, h⟩
    exact ⟨seconds, htime, h.year, h.month, h.day, h.hour, h.minute, h.second⟩

/-- The iterators that differ from a well-formed one in their time only. -/
def SameBut (it other : Croniter) : Prop :=
  it.WellFormed ∧ ∃ time, other = it.at_ time

variable (it) in
/-- `get_next` moves the time of the iterator to the next one on which it fires. -/
theorem iterates_getNext :
    Iterates Croniter.cur it.FiresAt it.OvershotAt it.SameBut (getNext dateutil) := by
  have hnext : ∀ s time s', it.SameBut s → s.getNext dateutil = some (time, s') →
      s' = it.at_ time ∧ s.cur < time ∧ it.FiresAt time ∧ ∀ earlier, s.cur < earlier →
        earlier < time → it.FiresAt earlier → it.OvershotAt earlier := by
    rintro s time s' ⟨hwf, cur, rfl⟩ hstep
    unfold getNext at hstep
    rw [Option.map_eq_some_iff] at hstep
    obtain ⟨found, hfound, heq⟩ := hstep
    rw [Prod.mk.injEq] at heq
    have hwf' : (it.at_ cur).WellFormed := ⟨hwf.expanded, hwf.nth⟩
    have hspec := nextTime_least_of dateutil hwf' hfound
    have hfires : (it.at_ cur).FiresAt = it.FiresAt := firesAt_congr cur it.maxYears
    rw [heq.1, hfires] at hspec
    refine ⟨?_, hspec⟩
    rw [← heq.2, heq.1]
    rfl
  constructor
  · intro s time s' hs hstep
    exact ⟨hs.1, time, (hnext s time s' hs hstep).1⟩
  · intro s time s' hs hstep
    rw [(hnext s time s' hs hstep).1]
    rfl
  · intro s time s' hs hstep
    exact (hnext s time s' hs hstep).2.1
  · intro s time s' hs hstep
    exact (hnext s time s' hs hstep).2.2.1
  · intro s time s' hs hstep
    exact (hnext s time s' hs hstep).2.2.2

/-- A loop up to a bound has enough fuel for one turn in each microsecond. -/
theorem enumerate_getNext_ends (stop : ℤ) (fuel : ℕ) {s : Croniter}
    (hs : it.SameBut s) (hfuel : (stop - s.cur).toNat < fuel) :
    (enumerate (getNext dateutil) (fun time ↦ time < stop) fuel s).2 ≠ .outOfFuel := by
  apply enumerate_ne_outOfFuel (iterates_getNext dateutil it) (fun time ↦ (stop - time).toNat) _ hs
    hfuel
  intro time earlier hlt hgoes
  rw [decide_eq_true_eq] at hgoes
  omega

/-- The backfill enqueues the times strictly between its start and its end on which the schedule
fires, in order and without repetition. Unless the iterator raises it leaves out none of them, but
for days that are overshot. -/
theorem backfillTimes_exact (hwf : it.WellFormed) (stop : ℤ) :
    (it.backfillTimes dateutil stop).1.Pairwise (· < ·) ∧
      (∀ time ∈ (it.backfillTimes dateutil stop).1,
        it.cur < time ∧ time < stop ∧ it.FiresAt time) ∧
      ((it.backfillTimes dateutil stop).2 = .reached ∨
        (it.backfillTimes dateutil stop).2 = .failed) ∧
      ((it.backfillTimes dateutil stop).2 = .reached → ∀ time, it.cur < time → time < stop →
        it.FiresAt time → time ∈ (it.backfillTimes dateutil stop).1 ∨ it.OvershotAt time) := by
  have hself : it.SameBut it := ⟨hwf, it.cur, rfl⟩
  have hiterates := iterates_getNext dateutil it
  have hends := enumerate_getNext_ends dateutil stop ((stop - it.cur).toNat + 1) hself (by omega)
  unfold backfillTimes
  refine ⟨pairwise_enumerate hiterates hself, ?_, ?_, ?_⟩
  · intro time hmem
    simpa using mem_enumerate hiterates hself time hmem
  · generalize (enumerate (getNext dateutil) (fun time ↦ time < stop)
      ((stop - it.cur).toNat + 1) it).2 = ending at hends
    cases ending
    · exact Or.inl rfl
    · exact Or.inr rfl
    · exact absurd rfl hends
  · intro hreached time hafter hbefore hfires
    rcases mem_enumerate_or hiterates hself
      (by
        intro time earlier hlt hgoes
        rw [decide_eq_true_eq] at hgoes ⊢
        exact hlt.trans hgoes)
      hends hafter (decide_eq_true hbefore) hfires with hmem | hmissed | ⟨_, _, _, _, _, _, hfailed⟩
    · exact Or.inl hmem
    · exact Or.inr hmissed
    · rw [hreached] at hfailed
      exact absurd hfailed (by decide)

theorem yearAt_mono {time time' : ℤ} (hle : time ≤ time') : it.yearAt time ≤ it.yearAt time' := by
  apply TimeUnit.year.index_monotone
  unfold wall
  simp only
  omega

theorem yearAt_le_searchYear (it : Croniter) : it.yearAt it.cur ≤ it.searchYear := by
  apply TimeUnit.year.index_monotone
  unfold wall searchStart wholeSeconds
  simp only [Bool.false_eq_true, if_false]
  split <;> omega

/-- An iterator with one search that raises has no time left in the years it looks at, but overshot
ones. -/
theorem overshotAt_of_exhausted (hwf : it.WellFormed) (hunited : it.daysUnited = false)
    (h : it.nextTime dateutil false = none) {time : ℤ} (hafter : it.cur < time)
    (hyear : it.yearAt time ≤ it.searchYear + it.maxYears) (hfires : it.FiresAt time) :
    it.OvershotAt time := by
  obtain ⟨seconds, rfl, hfires⟩ := hfires
  obtain ⟨expanded, hmem, hnone⟩ := nextTime_exhausted_of dateutil hwf h
  unfold yearAt at hyear
  rw [Int.mul_ediv_cancel _ (by decide)] at hyear
  apply hnone seconds hafter hyear
  rw [searches, hunited, if_neg Bool.false_ne_true, List.mem_singleton] at hmem
  rw [hmem]
  exact (fires_iff_of_not_united hunited _).1 hfires

/-- A range forwards, up to its bounds: it yields the times strictly between them on which the
iterator fires, in order. It leaves out times on days that are overshot and, with united days, times
after the last one that it yields. -/
theorem croniterRange_between (hwf : it.WellFormed) {excludeEnds : Bool} {start stop : ℤ}
    (hlt : (rangeEnds excludeEnds start stop).1 < (rangeEnds excludeEnds start stop).2) :
    (it.croniterRange dateutil excludeEnds start stop).Pairwise (· < ·) ∧
      (∀ time ∈ it.croniterRange dateutil excludeEnds start stop,
        (rangeEnds excludeEnds start stop).1 < time ∧ time < (rangeEnds excludeEnds start stop).2 ∧
          it.FiresAt time) ∧
      ∀ time, (rangeEnds excludeEnds start stop).1 < time →
        time < (rangeEnds excludeEnds start stop).2 → it.FiresAt time →
          time ∈ it.croniterRange dateutil excludeEnds start stop ∨ it.OvershotAt time ∨
            (it.daysUnited = true ∧
              ∀ found ∈ it.croniterRange dateutil excludeEnds start stop, found < time) := by
  unfold croniterRange
  simp only [if_pos hlt]
  generalize rangeEnds excludeEnds start stop = ends at hlt
  generalize hic : ({ it with
    cur := ends.1
    maxYears := max ((it.yearAt ends.2 - it.yearAt ends.1).natAbs + 1) 1 } : Croniter) = ic
  have hcur : ic.cur = ends.1 := by rw [← hic]
  have hunited : ic.daysUnited = it.daysUnited := by rw [← hic]; rfl
  have hyears : ∀ time, ic.yearAt time = it.yearAt time := by
    intro time
    rw [← hic]
    rfl
  have hmax : ic.maxYears = max ((it.yearAt ends.2 - it.yearAt ends.1).natAbs + 1) 1 := by
    rw [← hic]
  have hfiresAt : ic.FiresAt = it.FiresAt := by
    rw [← hic]
    exact firesAt_congr _ _
  have hovershotAt : ic.OvershotAt = it.OvershotAt := by
    rw [← hic]
    rfl
  have hwell : ic.WellFormed := by
    rw [← hic]
    exact ⟨hwf.expanded, hwf.nth⟩
  have hself : ic.SameBut ic := ⟨hwell, ic.cur, rfl⟩
  have hiterates := iterates_getNext dateutil ic
  rw [hfiresAt, hovershotAt] at hiterates
  have hends := enumerate_getNext_ends dateutil ends.2 ((ends.2 - ends.1).natAbs + 1) hself
    (by omega)
  refine ⟨pairwise_enumerate hiterates hself, ?_, ?_⟩
  · intro time hmem
    have hspec := mem_enumerate hiterates hself time hmem
    rw [hcur, decide_eq_true_eq] at hspec
    exact hspec
  · intro time hafter hbefore hfires
    rcases mem_enumerate_or hiterates hself
      (by
        intro time earlier hlt hgoes
        rw [decide_eq_true_eq] at hgoes ⊢
        exact hlt.trans hgoes)
      hends (hcur.symm ▸ hafter) (decide_eq_true hbefore) hfires with
      hmem | hmissed | ⟨last, ⟨_, cur, rfl⟩, hnone, hle, hlast, hfound, _⟩
    · exact Or.inl hmem
    · exact Or.inr (Or.inl hmissed)
    · right
      cases hvalue : it.daysUnited with
      | true =>
        right
        refine ⟨rfl, ?_⟩
        intro found hmem
        exact lt_of_le_of_lt (hfound found hmem) hlast
      | false =>
        left
        unfold getNext at hnone
        rw [Option.map_eq_none_iff] at hnone
        have hsearch := yearAt_le_searchYear (ic.at_ cur)
        have hfirst : ic.yearAt ic.cur ≤ ic.yearAt cur := yearAt_mono hle
        have hfinal : ic.yearAt time ≤ ic.yearAt ends.2 := yearAt_mono hbefore.le
        have hat : (ic.at_ cur).yearAt (ic.at_ cur).cur = ic.yearAt cur := rfl
        rw [hat, hyears] at hsearch
        rw [hcur, hyears, hyears] at hfirst
        rw [hyears, hyears] at hfinal
        have hspan : it.yearAt ends.2 - it.yearAt ends.1 < ic.maxYears := by omega
        have hwell' : (ic.at_ cur).WellFormed := ⟨hwell.expanded, hwell.nth⟩
        have hovershot := overshotAt_of_exhausted dateutil hwell' (hunited.trans hvalue) hnone hlast
          (by
            change ic.yearAt time ≤ (ic.at_ cur).searchYear + ic.maxYears
            rw [hyears]
            omega)
          (by
            rw [show (ic.at_ cur).FiresAt = ic.FiresAt from firesAt_congr cur ic.maxYears, hfiresAt]
            exact hfires)
        rw [← hovershotAt]
        exact hovershot

/-- The times of a range. -/
def InRange (excludeEnds : Bool) (start stop time : ℤ) : Prop :=
  if excludeEnds then start < time ∧ time < stop else start ≤ time ∧ time ≤ stop

theorem backfillTimes_exact_firstAndThirtieth :
    (firstAndThirtieth.backfillTimes Dateutil.documented 1690000000000000).1.Pairwise (· < ·) ∧
      (∀ time ∈ (firstAndThirtieth.backfillTimes Dateutil.documented 1690000000000000).1,
        firstAndThirtieth.cur < time ∧ time < 1690000000000000 ∧ firstAndThirtieth.FiresAt time) ∧
      ((firstAndThirtieth.backfillTimes Dateutil.documented 1690000000000000).2 = .reached ∨
        (firstAndThirtieth.backfillTimes Dateutil.documented 1690000000000000).2 = .failed) ∧
      ((firstAndThirtieth.backfillTimes Dateutil.documented 1690000000000000).2 = .reached →
        ∀ time, firstAndThirtieth.cur < time → time < 1690000000000000 →
          firstAndThirtieth.FiresAt time →
            time ∈ (firstAndThirtieth.backfillTimes Dateutil.documented 1690000000000000).1 ∨
              firstAndThirtieth.OvershotAt time) :=
  backfillTimes_exact Dateutil.documented firstAndThirtieth_wellFormed 1690000000000000

end Croniter

end DBOSModel.Cron

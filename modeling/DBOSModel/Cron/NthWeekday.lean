import DBOSModel.Cron.Calc
import Mathlib.Data.List.GetD

/-!
# The n-th weekday of a month

`_get_nth_weekday_of_month` reads the days of a weekday off the first column of a calendar whose
weeks start on that weekday. They are the days of the month at a distance of whole weeks from the
first of them.
-/

namespace DBOSModel.Cron

open Calendar

/-- The number of days of the previous month in the first row of a calendar. -/
def daysBeforeFirst (monthIndex : ℤ) (dayOfWeek : ℕ) : ℕ :=
  ((monthStart monthIndex - dayOfWeek + 1) % 7).toNat

/-- The first day of a month on a weekday. -/
def firstOn (monthIndex : ℤ) (dayOfWeek : ℕ) : ℕ :=
  if daysBeforeFirst monthIndex dayOfWeek = 0 then 1 else 8 - daysBeforeFirst monthIndex dayOfWeek

theorem daysBeforeFirst_lt (monthIndex : ℤ) (dayOfWeek : ℕ) :
    daysBeforeFirst monthIndex dayOfWeek < 7 := by
  unfold daysBeforeFirst
  omega

theorem one_le_firstOn (monthIndex : ℤ) (dayOfWeek : ℕ) : 1 ≤ firstOn monthIndex dayOfWeek := by
  have := daysBeforeFirst_lt monthIndex dayOfWeek
  unfold firstOn
  split <;> omega

theorem firstOn_le (monthIndex : ℤ) (dayOfWeek : ℕ) : firstOn monthIndex dayOfWeek ≤ 7 := by
  unfold firstOn
  split <;> omega

theorem weekday_firstOn (monthIndex : ℤ) (dayOfWeek : ℕ) :
    weekday (monthStart monthIndex + firstOn monthIndex dayOfWeek) = dayOfWeek % 7 := by
  unfold weekday firstOn daysBeforeFirst
  split <;> omega

theorem headD_take_drop (days : List ℕ) (index : ℕ) :
    ((days.drop index).take 7).headD 0 = days.getD index 0 := by
  rw [List.headD_eq_head?_getD, List.head?_take, List.head?_drop]
  simp

/-- The cells of the calendar. -/
theorem iterMonthDays_eq (monthIndex : ℤ) (dayOfWeek : ℕ) :
    ∃ daysAfter < 7,
      (daysBeforeFirst monthIndex dayOfWeek + monthLength monthIndex + daysAfter) % 7 = 0 ∧
        iterMonthDays (((dayOfWeek : ℤ) + 6) % 7) monthIndex =
          List.replicate (daysBeforeFirst monthIndex dayOfWeek) 0 ++
            List.range' 1 (monthLength monthIndex) ++ List.replicate daysAfter 0 := by
  refine ⟨((((dayOfWeek : ℤ) + 6) % 7 - (monthStart monthIndex + 1 + 6) % 7 -
    monthLength monthIndex) % 7).toNat, by omega, ?_, ?_⟩
  · unfold daysBeforeFirst
    omega
  · have hbefore : (((monthStart monthIndex + 1 + 6) % 7 - ((dayOfWeek : ℤ) + 6) % 7) % 7).toNat =
        daysBeforeFirst monthIndex dayOfWeek := by
      unfold daysBeforeFirst
      omega
    unfold iterMonthDays
    simp only [hbefore]

/-- A cell that holds a day. -/
theorem getD_cells {before length after index : ℕ} (hle : before ≤ index)
    (hlt : index < before + length) :
    (List.replicate before 0 ++ List.range' 1 length ++ List.replicate after 0).getD index 0 =
      index - before + 1 := by
  rw [List.getD_append _ _ _ _ (by simp; omega), List.getD_append_right _ _ _ _ (by simp; omega)]
  rw [List.getD_eq_getElem _ _ (by simp; omega)]
  simp only [List.length_replicate, List.getElem_range']
  omega

/-- The first column, without its first cell when that is a zero. -/
theorem firstColumn_eq (cells : List ℕ) (rows : ℕ) :
    (if (((List.range (rows + 1)).map fun week ↦ (cells.drop (7 * week)).take 7).headD []).headD 0 =
        0 then ((List.range (rows + 1)).map fun week ↦ (cells.drop (7 * week)).take 7).tail
      else (List.range (rows + 1)).map fun week ↦ (cells.drop (7 * week)).take 7).map
        (fun week ↦ week.headD 0) =
      if cells.getD 0 0 = 0 then (List.range rows).map fun week ↦ cells.getD (7 * (week + 1)) 0
      else (List.range (rows + 1)).map fun week ↦ cells.getD (7 * week) 0 := by
  have hhead : (((List.range (rows + 1)).map fun week ↦
      (cells.drop (7 * week)).take 7).headD []).headD 0 = cells.getD 0 0 := by
    rw [List.range_succ_eq_map, List.map_cons, List.headD_cons, headD_take_drop]
  rw [hhead]
  split
  · rw [List.range_succ_eq_map, List.map_cons, List.tail_cons, List.map_map, List.map_map]
    apply List.map_congr_left
    intro week _
    exact headD_take_drop cells (7 * (week + 1))
  · rw [List.map_map]
    apply List.map_congr_left
    intro week _
    exact headD_take_drop cells (7 * week)

/-- The days of a weekday, a week apart. -/
theorem getNthWeekdayOfMonth_eq (monthIndex : ℤ) (dayOfWeek : ℕ) :
    getNthWeekdayOfMonth monthIndex dayOfWeek =
      (List.range ((monthLength monthIndex - firstOn monthIndex dayOfWeek) / 7 + 1)).map
        fun week ↦ firstOn monthIndex dayOfWeek + 7 * week := by
  obtain ⟨after, hafter, hweeks, hcells⟩ := iterMonthDays_eq monthIndex dayOfWeek
  have hlength := monthLength_ge monthIndex
  have hbefore := daysBeforeFirst_lt monthIndex dayOfWeek
  unfold getNthWeekdayOfMonth monthDaysCalendar firstOn
  simp only [hcells]
  generalize daysBeforeFirst monthIndex dayOfWeek = before at *
  generalize monthLength monthIndex = length at *
  have hrows : ((List.replicate before 0 ++ List.range' 1 length ++
      List.replicate after 0).length + 6) / 7 = (before + length + after) / 7 - 1 + 1 := by
    simp only [List.length_append, List.length_replicate, List.length_range']
    omega
  rw [hrows, firstColumn_eq]
  by_cases hzero : before = 0
  · have hcell : (List.replicate before 0 ++ List.range' 1 length ++
        List.replicate after 0).getD 0 0 = 1 := by
      rw [getD_cells (by omega) (by omega), hzero]
    have hcount : (before + length + after) / 7 - 1 + 1 = (length - 1) / 7 + 1 := by omega
    rw [hcell, if_neg Nat.one_ne_zero, if_pos hzero, hcount]
    apply List.map_congr_left
    intro week hmem
    rw [List.mem_range] at hmem
    rw [getD_cells (by omega) (by omega)]
    omega
  · have hcell : (List.replicate before 0 ++ List.range' 1 length ++
        List.replicate after 0).getD 0 0 = 0 := by
      rw [List.append_assoc, List.getD_append _ _ _ _ (by simp; omega)]
      simp
    have hcount : (before + length + after) / 7 - 1 = (length - (8 - before)) / 7 + 1 := by omega
    rw [hcell, if_pos rfl, if_neg hzero, hcount]
    apply List.map_congr_left
    intro week hmem
    rw [List.mem_range] at hmem
    rw [getD_cells (by omega) (by omega)]
    omega

/-- A day of a month is the n-th or the last one on its weekday. -/
def Nth.Holds (day length : ℕ) : Nth → Prop
  | .nth k => (day - 1) / 7 + 1 = k
  | .last => length < day + 7

/-- The n-th or the last of the days of a weekday, as the source picks it. -/
theorem candidateOf_eq_some {monthIndex : ℤ} {wday : ℕ} {n : Nth}
    (hn : ∀ k, n = .nth k → 1 ≤ k) {day : ℕ} :
    candidateOf monthIndex wday n = some day ↔
      1 ≤ day ∧ day ≤ monthLength monthIndex ∧
        weekday (monthStart monthIndex + day) = wday % 7 ∧
          n.Holds day (monthLength monthIndex) := by
  have hfirst := one_le_firstOn monthIndex wday
  have hle := firstOn_le monthIndex wday
  have hlength := monthLength_ge monthIndex
  have hweekday := weekday_firstOn monthIndex wday
  unfold weekday at hweekday ⊢
  unfold candidateOf
  simp only [getNthWeekdayOfMonth_eq]
  cases n with
  | nth k =>
    have hk := hn k rfl
    simp only [Nth.Holds, List.length_map, List.length_range, List.getElem?_map]
    split
    · next hlt =>
      constructor
      · simp
      · omega
    · next hge =>
      rw [List.getElem?_range (by omega)]
      simp only [Option.map_some, Option.some.injEq]
      omega
  | last =>
    simp only [Nth.Holds, List.getLast?_map, List.range_succ, List.getLast?_concat, Option.map_some,
      Option.some.injEq]
    omega

end DBOSModel.Cron

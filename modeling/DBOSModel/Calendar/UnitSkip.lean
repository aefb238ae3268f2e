import DBOSModel.Calendar.Clock
import DBOSModel.Search.Skip

/-!
# Searching for a date-time unit by unit

A search for a date-time looks at one unit of time at once. Forwards it moves to the first second of
a later unit, backwards to the last second of an earlier one. The positions of the search are the
whole ticks of the clock, of a second or of a minute say, and the units start at ticks. So a step is
sound when its condition depends on the unit only and the units in between are not accepted.
-/

namespace Calendar

open SkipSearch

/-- The tick of a date-time. -/
def tickOf (tick : ℤ) (d : DateTime) : ℤ := d.seconds / tick

/-- The first second of a tick. -/
def atTick (tick : ℤ) (p : ℤ) : DateTime := ⟨p * tick⟩

/-- A step of a condition on the units: it moves to the first second of a later unit, over units
that are accepted only when they are missed ones. -/
structure UnitSkips (unit : TimeUnit) (missed accepts : ℤ → Prop)
    (step : DateTime → Step DateTime) : Prop where
  stop : ∀ d, step d = .stop → ∀ i, unit.index d ≤ i → ¬ accepts i
  changed : ∀ d d', step d = .changed d' →
    ∃ count, 0 < count ∧ d'.seconds = (unit.first (unit.index d + count)).seconds ∧
      ∀ i, unit.index d ≤ i → i < unit.index d + count → accepts i → missed i
  unchanged : ∀ d d', step d = .unchanged d' → d' = d ∧ accepts (unit.index d)

namespace UnitSkips

variable {unit : TimeUnit} {tick : ℤ} {missed accepts : ℤ → Prop}
  {step : DateTime → Step DateTime}

/-- What a step does at each date-time. -/
theorem of_cases
    (h : ∀ d, (step d = .unchanged d ∧ accepts (unit.index d)) ∨
      (∃ count d', 0 < count ∧ step d = .changed d' ∧
        d'.seconds = (unit.first (unit.index d + count)).seconds ∧
          ∀ i, unit.index d ≤ i → i < unit.index d + count → accepts i → missed i) ∨
      (step d = .stop ∧ ∀ i, unit.index d ≤ i → ¬ accepts i)) :
    UnitSkips unit missed accepts step := by
  constructor
  · intro d hstop
    rcases h d with ⟨heq, _⟩ | ⟨_, _, _, heq, _⟩ | ⟨_, hnone⟩
    · simp [heq] at hstop
    · simp [heq] at hstop
    · exact hnone
  · intro d d' hchanged
    rcases h d with ⟨heq, _⟩ | ⟨count, d'', hcount, heq, hmove⟩ | ⟨heq, _⟩
    · simp [heq] at hchanged
    · rw [heq, Step.changed.injEq] at hchanged
      subst hchanged
      exact ⟨count, hcount, hmove⟩
    · simp [heq] at hchanged
  · intro d d' hkept
    rcases h d with ⟨heq, haccepts⟩ | ⟨_, _, _, heq, _⟩ | ⟨heq, _⟩
    · rw [heq, Step.unchanged.injEq] at hkept
      exact ⟨hkept.symm, haccepts⟩
    · simp [heq] at hkept
    · simp [heq] at hkept

/-- The unit of a tick, from its position on. -/
theorem index_atTick (unit : TimeUnit) (hpos : 0 < tick) (hdvd : ∀ i, tick ∣ (unit.first i).seconds)
    (d : DateTime) : unit.index (atTick tick (tickOf tick d)) = unit.index d :=
  unit.index_floor hpos hdvd d

theorem le_index_atTick (unit : TimeUnit) (hpos : 0 < tick) (hdvd : ∀ i, tick ∣ (unit.first i).seconds)
    {d : DateTime} {p : ℤ} (hle : tickOf tick d ≤ p) : unit.index d ≤ unit.index (atTick tick p) := by
  rw [← index_atTick unit hpos hdvd d]
  apply unit.index_monotone
  exact Int.mul_le_mul_of_nonneg_right hle hpos.le

/-- A step over units is a step over ticks. -/
theorem skips (h : UnitSkips unit missed accepts step) (hpos : 0 < tick)
    (hdvd : ∀ i, tick ∣ (unit.first i).seconds) :
    Skips (tickOf tick) (fun p ↦ missed (unit.index (atTick tick p)))
      (fun p ↦ accepts (unit.index (atTick tick p))) step := by
  constructor
  · intro d hstep p hle haccepts
    exact absurd haccepts (h.stop d hstep _ (le_index_atTick unit hpos hdvd hle))
  · intro d d' hstep
    obtain ⟨count, hcount, hfirst, hbetween⟩ := h.changed d d' hstep
    have hlt : d.seconds < d'.seconds := by
      rw [hfirst, ← unit.index_lt_iff]
      omega
    have hticks : tickOf tick d' * tick = d'.seconds := by
      unfold tickOf
      rw [hfirst]
      exact Int.ediv_mul_cancel (hdvd _)
    constructor
    · unfold tickOf at hticks ⊢
      apply Int.ediv_lt_of_lt_mul hpos
      rw [hticks]
      exact hlt
    · intro p hle hlt' haccepts
      apply hbetween _ (le_index_atTick unit hpos hdvd hle) _ haccepts
      rw [unit.index_lt_iff, ← hfirst, ← hticks]
      exact Int.mul_lt_mul_of_pos_right hlt' hpos
  · intro d d' hstep
    have hkept := h.unchanged d d' hstep
    rw [hkept.1]
    refine ⟨rfl, ?_⟩
    rw [index_atTick unit hpos hdvd d]
    exact hkept.2

end UnitSkips

end Calendar

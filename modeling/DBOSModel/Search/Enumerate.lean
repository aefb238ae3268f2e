import Mathlib.Order.Lattice
import Mathlib.Data.List.Pairwise

/-!
# Enumerating with an iterator

An iterator has a clock. Each step moves the clock to a later time on which the iterator fires, past
no other such time but the missed ones, or it fails. A loop takes steps for as long as the times
satisfy a condition that no later time satisfies again. It collects all the times that satisfy the
condition, up to the missed ones, unless a step fails.
-/

namespace SkipSearch

variable {S T : Type}

/-- How a loop over an iterator ends. -/
inductive LoopEnd where
  | reached
  | failed
  | outOfFuel
deriving DecidableEq, Repr

/-- The loop: the times in order, and how it ends. -/
def enumerate (step : S → Option (T × S)) (goesOn : T → Bool) : ℕ → S → List T × LoopEnd
  | 0, _ => ([], .outOfFuel)
  | fuel + 1, s =>
    match step s with
    | none => ([], .failed)
    | some (time, s') =>
      if goesOn time then
        let rest := enumerate step goesOn fuel s'
        (time :: rest.1, rest.2)
      else ([], .reached)

variable [LinearOrder T]

/-- An iterator that moves its clock to the next time on which it fires. -/
structure Iterates (clock : S → T) (fires missed : T → Prop) (valid : S → Prop)
    (step : S → Option (T × S)) : Prop where
  valid_step : ∀ s time s', valid s → step s = some (time, s') → valid s'
  clock_step : ∀ s time s', valid s → step s = some (time, s') → clock s' = time
  lt_time : ∀ s time s', valid s → step s = some (time, s') → clock s < time
  fires_time : ∀ s time s', valid s → step s = some (time, s') → fires time
  missed_of_lt : ∀ s time s', valid s → step s = some (time, s') →
    ∀ earlier, clock s < earlier → earlier < time → fires earlier → missed earlier

section Enumerate

variable {clock : S → T} {fires missed : T → Prop} {valid : S → Prop}
  {step : S → Option (T × S)} (h : Iterates clock fires missed valid step)
  {goesOn : T → Bool}
include h

/-- The times of the loop are after its clock, satisfy its condition, and the iterator fires on
them. -/
theorem mem_enumerate {fuel : ℕ} {s : S} (hvalid : valid s) :
    ∀ time ∈ (enumerate step goesOn fuel s).1,
      clock s < time ∧ goesOn time = true ∧ fires time := by
  induction fuel generalizing s with
  | zero => simp [enumerate]
  | succ fuel ih =>
    intro time hmem
    rw [enumerate] at hmem
    split at hmem
    · simp at hmem
    · next first s' hstep =>
      split at hmem
      · next hgoes =>
        rcases List.mem_cons.1 hmem with rfl | hrest
        · exact ⟨h.lt_time s time s' hvalid hstep, hgoes, h.fires_time s time s' hvalid hstep⟩
        · have hlater := ih (h.valid_step s first s' hvalid hstep) time hrest
          rw [h.clock_step s first s' hvalid hstep] at hlater
          exact ⟨(h.lt_time s first s' hvalid hstep).trans hlater.1, hlater.2⟩
      · simp at hmem

/-- The times come in order, without repetition. -/
theorem pairwise_enumerate {fuel : ℕ} {s : S} (hvalid : valid s) :
    (enumerate step goesOn fuel s).1.Pairwise (· < ·) := by
  induction fuel generalizing s with
  | zero => simp [enumerate]
  | succ fuel ih =>
    rw [enumerate]
    split
    · exact List.Pairwise.nil
    · next first s' hstep =>
      split
      · have hvalid' := h.valid_step s first s' hvalid hstep
        apply List.pairwise_cons.2 ⟨_, ih hvalid'⟩
        intro time hmem
        have hlater := (mem_enumerate h hvalid' time hmem).1
        rw [h.clock_step s first s' hvalid hstep] at hlater
        exact hlater
      · exact List.Pairwise.nil

/-- A time that satisfies the condition and on which the iterator fires is in the list, or it is a
missed one, or a step failed before it. -/
theorem mem_enumerate_or {fuel : ℕ} {s : S} (hvalid : valid s)
    (hgoesOn : ∀ time earlier, earlier < time → goesOn time = true → goesOn earlier = true)
    (hfuel : (enumerate step goesOn fuel s).2 ≠ .outOfFuel) {time : T} (hafter : clock s < time)
    (hgoes : goesOn time = true) (hfires : fires time) :
    time ∈ (enumerate step goesOn fuel s).1 ∨ missed time ∨
      ∃ last, valid last ∧ step last = none ∧ clock s ≤ clock last ∧ clock last < time ∧
        (∀ found ∈ (enumerate step goesOn fuel s).1, found ≤ clock last) ∧
          (enumerate step goesOn fuel s).2 = .failed := by
  induction fuel generalizing s with
  | zero => simp [enumerate] at hfuel
  | succ fuel ih =>
    rw [enumerate] at hfuel ⊢
    split at hfuel
    · next hnone => exact Or.inr (Or.inr ⟨s, hvalid, hnone, le_rfl, hafter, by simp, rfl⟩)
    · next first s' hstep =>
      have hclock := h.clock_step s first s' hvalid hstep
      rcases lt_trichotomy time first with hlt | rfl | hgt
      · exact Or.inr (Or.inl (h.missed_of_lt s first s' hvalid hstep time hafter hlt hfires))
      · left
        rw [if_pos hgoes]
        exact List.mem_cons_self
      · have hfirst := hgoesOn time first hgt hgoes
        rw [if_pos hfirst] at hfuel ⊢
        rcases ih (h.valid_step s first s' hvalid hstep) hfuel (hclock.symm ▸ hgt) with
          hmem | hmissed | ⟨last, hlast, hnone, hle, hbefore, hfound, hfailed⟩
        · exact Or.inl (List.mem_cons_of_mem first hmem)
        · exact Or.inr (Or.inl hmissed)
        · rw [hclock] at hle
          refine Or.inr (Or.inr ⟨last, hlast, hnone, ?_, hbefore, ?_, hfailed⟩)
          · exact (h.lt_time s first s' hvalid hstep).le.trans hle
          · intro found hmem
            rcases List.mem_cons.1 hmem with rfl | hrest
            · exact hle
            · exact hfound found hrest

/-- A loop with as much fuel as there are times left ends. -/
theorem enumerate_ne_outOfFuel (remaining : T → ℕ)
    (hremaining : ∀ time earlier, earlier < time → goesOn time = true →
      remaining time < remaining earlier)
    {fuel : ℕ} {s : S} (hvalid : valid s) (hfuel : remaining (clock s) < fuel) :
    (enumerate step goesOn fuel s).2 ≠ .outOfFuel := by
  induction fuel generalizing s with
  | zero => exact absurd hfuel (Nat.not_lt_zero _)
  | succ fuel ih =>
    rw [enumerate]
    split
    · simp
    · next first s' hstep =>
      split
      · next hgoes =>
        have hless := hremaining first (clock s) (h.lt_time s first s' hvalid hstep) hgoes
        apply ih (h.valid_step s first s' hvalid hstep)
        rw [h.clock_step s first s' hvalid hstep]
        exact Nat.lt_of_lt_of_le hless (Nat.le_of_lt_succ hfuel)
      · simp

end Enumerate

end SkipSearch

import Mathlib.Order.Lattice
import Mathlib.Data.List.Forall2

/-!
# Search by skipping

A search for the least position that several conditions accept. Each condition has a step, which
either keeps the point, because the condition accepts its position, or changes it to a point further
on. One pass runs the steps in order, up to the first one that changes the point, and the search
starts over from there. A step may also stop the search. The search gives up outside its horizon.

A point has a position, and may say more than it: a step that keeps a point may change the rest. The
positions that a step passes over although its condition accepts them are the missed ones. A sound
step misses none.
-/

namespace SkipSearch

variable {T P : Type}

/-- What a step does with a point. -/
inductive Step (T : Type) where
  | stop
  | changed (point : T)
  | unchanged (point : T)
deriving Repr

/-- One pass over the steps. -/
def pass : List (T → Step T) → T → Step T
  | [], point => .unchanged point
  | step :: steps, point =>
    match step point with
    | .stop => .stop
    | .changed point' => .changed point'
    | .unchanged point' => pass steps point'

/-- The search: `none` when the fuel runs out, `some none` when there is nothing to find. -/
def search (within : T → Bool) (steps : List (T → Step T)) : ℕ → T → Option (Option T)
  | 0, _ => none
  | fuel + 1, point =>
    if within point then
      match pass steps point with
      | .stop => some none
      | .changed point' => search within steps fuel point'
      | .unchanged point' => some (some point')
    else some none

/-- The last step of a pass that keeps the point. -/
theorem pass_last (steps : List (T → Step T)) {step : T → Step T} {point found : T}
    (hpass : pass (steps ++ [step]) point = .unchanged found) :
    ∃ point', step point' = .unchanged found := by
  induction steps generalizing point with
  | nil =>
    rw [List.nil_append, pass] at hpass
    cases hstep : step point with
    | stop => simp [hstep] at hpass
    | changed point' => simp [hstep] at hpass
    | unchanged point' =>
      rw [hstep] at hpass
      exact ⟨point, hstep.trans hpass⟩
  | cons first steps ih =>
    rw [List.cons_append, pass] at hpass
    cases hstep : first point with
    | stop => simp [hstep] at hpass
    | changed point' => simp [hstep] at hpass
    | unchanged point' =>
      rw [hstep] at hpass
      exact ih hpass

section Order

variable [LinearOrder P] (position : T → P) (missed : P → Prop)

/-- A step of a condition, which passes over accepted positions only when they are missed ones. -/
structure Skips (accepts : P → Prop) (step : T → Step T) : Prop where
  stop : ∀ point, step point = .stop → ∀ p, position point ≤ p → accepts p → missed p
  changed : ∀ point point', step point = .changed point' →
    position point < position point' ∧
      ∀ p, position point ≤ p → p < position point' → accepts p → missed p
  unchanged : ∀ point point', step point = .unchanged point' →
    position point' = position point ∧ accepts (position point)

variable {position missed}

theorem Skips.mono {accepts missed' : P → Prop} {step : T → Step T}
    (h : Skips position missed accepts step) (himp : ∀ p, missed p → missed' p) :
    Skips position missed' accepts step := by
  constructor
  · intro point hstep p hle haccepts
    exact himp p (h.stop point hstep p hle haccepts)
  · intro point point' hstep
    have hchanged := h.changed point point' hstep
    refine ⟨hchanged.1, ?_⟩
    intro p hle hlt haccepts
    exact himp p (hchanged.2 p hle hlt haccepts)
  · exact h.unchanged

/-- A pass is a step of the conjunction of the conditions. -/
theorem skips_pass {conditions : List (P → Prop)} {steps : List (T → Step T)}
    (h : List.Forall₂ (Skips position missed) conditions steps) :
    Skips position missed (fun p ↦ ∀ accepts ∈ conditions, accepts p) (pass steps) := by
  induction h with
  | nil =>
    constructor
    · intro point hpass
      simp [pass] at hpass
    · intro point point' hpass
      simp [pass] at hpass
    · intro point point' hpass
      simp only [pass, Step.unchanged.injEq] at hpass
      simp [hpass]
  | @cons accepts step conditions steps hstep _ ih =>
    constructor
    · intro point hpass p hle hall
      rw [pass] at hpass
      cases hfirst : step point with
      | stop => exact hstep.stop point hfirst p hle (hall accepts List.mem_cons_self)
      | changed point' => simp [hfirst] at hpass
      | unchanged point' =>
        rw [hfirst] at hpass
        have hsame := (hstep.unchanged point point' hfirst).1
        apply ih.stop point' hpass p (hsame ▸ hle)
        intro other hmem
        exact hall other (List.mem_cons_of_mem accepts hmem)
    · intro point point' hpass
      rw [pass] at hpass
      cases hfirst : step point with
      | stop => simp [hfirst] at hpass
      | changed point'' =>
        simp only [hfirst, Step.changed.injEq] at hpass
        have hchanged := hstep.changed point point'' hfirst
        rw [hpass] at hchanged
        refine ⟨hchanged.1, ?_⟩
        intro p hle hlt hall
        exact hchanged.2 p hle hlt (hall accepts List.mem_cons_self)
      | unchanged point'' =>
        rw [hfirst] at hpass
        have hsame := (hstep.unchanged point point'' hfirst).1
        have hchanged := ih.changed point'' point' hpass
        rw [hsame] at hchanged
        refine ⟨hchanged.1, ?_⟩
        intro p hle hlt hall
        apply hchanged.2 p hle hlt
        intro other hmem
        exact hall other (List.mem_cons_of_mem accepts hmem)
    · intro point point' hpass
      rw [pass] at hpass
      cases hfirst : step point with
      | stop => simp [hfirst] at hpass
      | changed point'' => simp [hfirst] at hpass
      | unchanged point'' =>
        rw [hfirst] at hpass
        have hkept := hstep.unchanged point point'' hfirst
        have hrest := ih.unchanged point'' point' hpass
        rw [hkept.1] at hrest
        refine ⟨hrest.1, ?_⟩
        intro other hmem
        rcases List.mem_cons.1 hmem with rfl | hmem
        · exact hkept.2
        · exact hrest.2 other hmem

section Search

variable {accepts : P → Prop} {within : T → Bool} {steps : List (T → Step T)}
  (h : Skips position missed accepts (pass steps))
include h

/-- What a search finds is accepted, and every accepted position before it is a missed one. -/
theorem search_found {fuel : ℕ} {point found : T}
    (hsearch : search within steps fuel point = some (some found)) :
    position point ≤ position found ∧ accepts (position found) ∧
      ∀ p, position point ≤ p → p < position found → accepts p → missed p := by
  induction fuel generalizing point with
  | zero => simp [search] at hsearch
  | succ fuel ih =>
    rw [search] at hsearch
    split at hsearch
    · cases hpass : pass steps point with
      | stop => simp [hpass] at hsearch
      | changed point' =>
        rw [hpass] at hsearch
        have hchanged := h.changed point point' hpass
        have hrest := ih hsearch
        refine ⟨hchanged.1.le.trans hrest.1, hrest.2.1, ?_⟩
        intro p hle hlt haccepts
        rcases lt_or_ge p (position point') with hbefore | hafter
        · exact hchanged.2 p hle hbefore haccepts
        · exact hrest.2.2 p hafter hlt haccepts
      | unchanged point' =>
        simp only [hpass, Option.some.injEq] at hsearch
        have hkept := h.unchanged point point' hpass
        rw [hsearch] at hkept
        rw [hkept.1]
        refine ⟨le_rfl, hkept.2, ?_⟩
        intro p hle hlt
        exact absurd hlt (not_lt.2 hle)
    · simp at hsearch

/-- A search that gives up leaves no accepted position within its horizon, but the missed ones. -/
theorem search_failed (inside : P → Prop) (start : T)
    (houtside : ∀ point, position start ≤ position point → within point = false →
      ∀ p, inside p → p < position point)
    {fuel : ℕ} {point : T} (hstart : position start ≤ position point)
    (hsearch : search within steps fuel point = some none) {p : P}
    (hinside : inside p) (hle : position point ≤ p) (haccepts : accepts p) : missed p := by
  induction fuel generalizing point with
  | zero => simp [search] at hsearch
  | succ fuel ih =>
    rw [search] at hsearch
    split at hsearch
    · cases hpass : pass steps point with
      | stop => exact h.stop point hpass p hle haccepts
      | changed point' =>
        rw [hpass] at hsearch
        have hchanged := h.changed point point' hpass
        rcases lt_or_ge p (position point') with hbefore | hafter
        · exact hchanged.2 p hle hbefore haccepts
        · exact ih (hstart.trans hchanged.1.le) hsearch hafter
      | unchanged point' => simp [hpass] at hsearch
    · next hout =>
      have hlt := houtside point hstart (Bool.eq_false_iff.2 hout) p hinside
      exact absurd hlt (not_lt.2 hle)

omit h in
/-- The pass that ends a search. -/
theorem search_last_pass {fuel : ℕ} {point found : T}
    (hsearch : search within steps fuel point = some (some found)) :
    ∃ last, within last = true ∧ pass steps last = .unchanged found := by
  induction fuel generalizing point with
  | zero => simp [search] at hsearch
  | succ fuel ih =>
    rw [search] at hsearch
    split at hsearch
    · next hin =>
      cases hpass : pass steps point with
      | stop => simp [hpass] at hsearch
      | changed point' =>
        rw [hpass] at hsearch
        exact ih hsearch
      | unchanged point' =>
        simp only [hpass, Option.some.injEq] at hsearch
        exact ⟨point, hin, hsearch ▸ hpass⟩
    · simp at hsearch

/-- A search with as much fuel as there are positions left ends. -/
theorem search_ne_none (remaining : P → ℕ)
    (hremaining : ∀ point, within point = true → ∀ p, position point < p →
      remaining p < remaining (position point))
    {fuel : ℕ} {point : T} (hfuel : remaining (position point) < fuel) :
    search within steps fuel point ≠ none := by
  induction fuel generalizing point with
  | zero => exact absurd hfuel (Nat.not_lt_zero _)
  | succ fuel ih =>
    rw [search]
    split
    · next hin =>
      cases hpass : pass steps point with
      | stop => simp
      | changed point' =>
        have hlt := (h.changed point point' hpass).1
        have hless := hremaining point hin (position point') hlt
        exact ih (Nat.lt_of_lt_of_le hless (Nat.le_of_lt_succ hfuel))
      | unchanged point' => simp
    · simp

end Search

end Order

end SkipSearch

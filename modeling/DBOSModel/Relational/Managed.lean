import Mathlib.Order.Defs.Unbundled

/-!
# Managed blocks

Code that returns a value or raises an exception, over a state that keeps what was done to it before
an exception. A context manager brackets a block: it is entered before the block, and left after it,
whether the block returned or raised. It does not handle the exception of its block. When leaving
raises, this exception takes the place of the ending of the block.

A relation between the states before and after is kept by a whole program when it is reflexive and
transitive and every part keeps it.
-/

namespace Managed

/-- Code over states `σ`, with exceptions `ε` and values `α`. -/
abbrev Code (σ ε α : Type) := σ → Except ε α × σ

namespace Code

variable {σ ε α β V : Type}

def ret (value : α) : Code σ ε α := fun s ↦ (.ok value, s)

def raise (error : ε) : Code σ ε α := fun s ↦ (.error error, s)

/-- An update of the state, which does not fail. -/
def update (f : σ → σ) : Code σ ε Unit := fun s ↦ (.ok (), f s)

/-- A value that is there already, or an exception. -/
def ofExcept (outcome : Except ε α) : Code σ ε α := fun s ↦ (outcome, s)

/-- The rest runs on the value, unless there is an exception. -/
def andThen (code : Code σ ε α) (rest : α → Code σ ε β) : Code σ ε β := fun s ↦
  match code s with
  | (.ok value, s') => rest value s'
  | (.error error, s') => (.error error, s')

/-- `try` with one handler. -/
def attempt (code : Code σ ε α) (handler : ε → Code σ ε α) : Code σ ε α := fun s ↦
  match code s with
  | (.ok value, s') => (.ok value, s')
  | (.error error, s') => handler error s'

/-- The block that a manager brackets; `exit` gets what `enter` has saved. -/
def managed (enter : Code σ ε V) (exit : V → Code σ ε Unit) (body : V → Code σ ε α) :
    Code σ ε α := fun s ↦
  match enter s with
  | (.error error, s') => (.error error, s')
  | (.ok saved, s') =>
    match exit saved (body saved s').2 with
    | (.ok (), s'') => ((body saved s').1, s'')
    | (.error error, s'') => (.error error, s'')

@[simp]
theorem ret_apply (value : α) (s : σ) : (ret value : Code σ ε α) s = (.ok value, s) := rfl

@[simp]
theorem raise_apply (error : ε) (s : σ) : (raise error : Code σ ε α) s = (.error error, s) := rfl

@[simp]
theorem update_apply (f : σ → σ) (s : σ) : (update f : Code σ ε Unit) s = (.ok (), f s) := rfl

@[simp]
theorem ofExcept_apply (outcome : Except ε α) (s : σ) :
    (ofExcept outcome : Code σ ε α) s = (outcome, s) :=
  rfl

theorem andThen_of_ok {code : Code σ ε α} {rest : α → Code σ ε β} {s s' : σ} {value : α}
    (h : code s = (.ok value, s')) : code.andThen rest s = rest value s' := by
  simp [andThen, h]

theorem andThen_of_error {code : Code σ ε α} {rest : α → Code σ ε β} {s s' : σ} {error : ε}
    (h : code s = (.error error, s')) : code.andThen rest s = (.error error, s') := by
  simp [andThen, h]

theorem managed_of_error {enter : Code σ ε V} {exit : V → Code σ ε Unit}
    {body : V → Code σ ε α} {s s' : σ} {error : ε} (h : enter s = (.error error, s')) :
    managed enter exit body s = (.error error, s') := by
  simp [managed, h]

/-- When leaving returns, the block ends as its body does. -/
theorem managed_of_exit {enter : Code σ ε V} {exit : V → Code σ ε Unit}
    {body : V → Code σ ε α} {s s' s'' : σ} {saved : V} (henter : enter s = (.ok saved, s'))
    (hexit : exit saved (body saved s').2 = (.ok (), s'')) :
    managed enter exit body s = ((body saved s').1, s'') := by
  simp [managed, henter, hexit]

/-- When leaving returns, a managed block ends as its body does after entering. -/
theorem managed_fst {enter : Code σ ε V} {exit : V → Code σ ε Unit} {body : V → Code σ ε α} {s : σ}
    (hexit : ∀ saved s', enter s = (.ok saved, s') →
      ∃ left, exit saved (body saved s').2 = (.ok (), left)) :
    (managed enter exit body s).1 = (enter.andThen body s).1 := by
  cases henter : enter s with
  | mk outcome s' =>
    cases outcome with
    | error error => rw [managed_of_error henter, andThen_of_error henter]
    | ok saved =>
      obtain ⟨left, hleft⟩ := hexit saved s' henter
      rw [managed_of_exit henter hleft, andThen_of_ok henter]

/-! ## What code keeps -/

/-- The states before and after are related, however the code ends. -/
def Keeps (R : σ → σ → Prop) (code : Code σ ε α) : Prop := ∀ s, R s (code s).2

variable {R : σ → σ → Prop}

theorem keeps_ret [Std.Refl R] (value : α) : Keeps R (ret value : Code σ ε α) :=
  fun s ↦ Std.Refl.refl s

theorem keeps_raise [Std.Refl R] (error : ε) : Keeps R (raise error : Code σ ε α) :=
  fun s ↦ Std.Refl.refl s
theorem Keeps.andThen [IsTrans σ R] {code : Code σ ε α} {rest : α → Code σ ε β}
    (hcode : Keeps R code) (hrest : ∀ value, Keeps R (rest value)) :
    Keeps R (code.andThen rest) := by
  intro s
  have hfirst := hcode s
  unfold Code.andThen
  cases h : code s with
  | mk outcome s' =>
    rw [h] at hfirst
    cases outcome with
    | ok value => exact IsTrans.trans s s' _ hfirst (hrest value s')
    | error error => exact hfirst

theorem Keeps.attempt [IsTrans σ R] {code : Code σ ε α} {handler : ε → Code σ ε α}
    (hcode : Keeps R code) (hhandler : ∀ error, Keeps R (handler error)) :
    Keeps R (code.attempt handler) := by
  intro s
  have hfirst := hcode s
  unfold Code.attempt
  cases h : code s with
  | mk outcome s' =>
    rw [h] at hfirst
    cases outcome with
    | ok value => exact hfirst
    | error error => exact IsTrans.trans s s' _ hfirst (hhandler error s')

/-- A managed block keeps a relation when leaving re-establishes it after any body that keeps it
from the state that has been entered. -/
theorem Keeps.managed {enter : Code σ ε V} {exit : V → Code σ ε Unit} {body : V → Code σ ε α}
    (hbody : ∀ saved, Keeps R (body saved))
    (hraises : ∀ s s' error, enter s = (.error error, s') → R s s')
    (hleaves : ∀ s s' s'' saved, enter s = (.ok saved, s') → R s' s'' → R s (exit saved s'').2) :
    Keeps R (managed enter exit body) := by
  intro s
  unfold Code.managed
  cases henter : enter s with
  | mk outcome s' =>
    cases outcome with
    | error error => exact hraises s s' error henter
    | ok saved =>
      have hleft := hleaves s s' _ saved henter (hbody saved s')
      cases hexit : exit saved (body saved s').2 with
      | mk left s'' =>
        rw [hexit] at hleft
        cases left with
        | ok _ => simpa only [hexit] using hleft
        | error error => simpa only [hexit] using hleft

end Code

end Managed

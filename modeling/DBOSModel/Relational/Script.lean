import Mathlib.Logic.Basic

/-!
# Scripts of calls

A script is the control flow of a function that calls a service: it makes a call, goes on with what
the call returned or raised, and ends with a value or an exception. `ι` is the type of calls, and a
call `op` returns a value of type `ρ op`. The service is given as a relation between the state
before a call, its result and the state after it, so that the state may be changed by others in
between. A script may stop anywhere; its trace is the list of the calls that it has made.
-/

namespace DBOSModel.Relational

inductive Script (ι : Type) (ρ : ι → Type) (ε β : Type) where
  | finished (value : β)
  | raised (error : ε)
  | call (op : ι) (next : Except ε (ρ op) → Script ι ρ ε β)

namespace Script

variable {ι : Type} {ρ : ι → Type} {ε β σ η : Type}

/-- Go on with the value of a call; an exception ends the script. -/
def onOk {α : Type} (next : α → Script ι ρ ε β) : Except ε α → Script ι ρ ε β
  | .ok value => next value
  | .error error => .raised error

/-- The exception that ended the script. -/
def error : Script ι ρ ε β → Option ε
  | .raised error => some error
  | _ => none

/-- The value or the exception that a script has ended with. -/
def outcome : Script ι ρ ε β → Option (Except ε β)
  | .finished value => some (.ok value)
  | .raised error => some (.error error)
  | .call _ _ => none

/-- The script and the state after any number of calls, with the calls made. -/
inductive Reaches (service : (op : ι) → σ → Except ε (ρ op) → σ → Prop) :
    Script ι ρ ε β → σ → List ι → Script ι ρ ε β → σ → Prop where
  | stop (script : Script ι ρ ε β) (s : σ) : Reaches service script s [] script s
  | call {op : ι} {next : Except ε (ρ op) → Script ι ρ ε β} {s s' s'' : σ}
      {result : Except ε (ρ op)} {calls : List ι} {script : Script ι ρ ε β}
      (hcall : service op s result s') (hrest : Reaches service (next result) s' calls script s'') :
      Reaches service (.call op next) s (op :: calls) script s''

/-- What has to hold before a script for `post` to hold when it finishes, where `spec` describes
each call. -/
def wp (spec : (op : ι) → η → Except ε (ρ op) → η → Prop) (post : β → η → Prop) :
    Script ι ρ ε β → η → Prop
  | .finished value, h => post value h
  | .raised _, _ => True
  | .call op next, h => ∀ result h', spec op h result h' → wp spec post (next result) h'

variable {service : (op : ι) → σ → Except ε (ρ op) → σ → Prop}
  {spec : (op : ι) → η → Except ε (ρ op) → η → Prop} {view : σ → η}
  {script script' : Script ι ρ ε β} {s s' : σ} {calls : List ι}

/-- What every call keeps of the trace, the script and a view of the state is kept by the script. -/
theorem Reaches.invariant (invariant : List ι → Script ι ρ ε β → η → Prop)
    (hspec : ∀ op s result s', service op s result s' → spec op (view s) result (view s'))
    (hcall : ∀ before op next h result h', invariant before (.call op next) h →
      spec op h result h' → invariant (before ++ [op]) (next result) h')
    (h : Reaches service script s calls script' s') (before : List ι)
    (hinit : invariant before script (view s)) : invariant (before ++ calls) script' (view s') := by
  induction h generalizing before with
  | stop script s =>
    rw [List.append_nil]
    exact hinit
  | call hservice hrest ih =>
    rw [List.append_cons]
    exact ih _ (hcall _ _ _ _ _ _ hinit (hspec _ _ _ _ hservice))

/-- A script that finishes has established what its precondition promised. -/
theorem Reaches.finished_of_wp (hspec : ∀ op s result s', service op s result s' →
      spec op (view s) result (view s')) {post : β → η → Prop} {value : β}
    (h : Reaches service script s calls (.finished value) s')
    (hwp : script.wp spec post (view s)) : post value (view s') := by
  have hkept := h.invariant (fun _ script h ↦ script.wp spec post h) hspec
    (fun _ _ _ _ result h' hwp hcall ↦ hwp result h' hcall) [] hwp
  exact hkept

end Script

end DBOSModel.Relational

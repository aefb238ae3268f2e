import Mathlib.Data.Nat.Notation

/-!
# Outcomes: composing synchronous and asynchronous functions

`dbos/_outcome.py` composes the function of a workflow, a step or a transaction with what runs
around it, once for plain functions (`Immediate`) and once for coroutine functions (`Pending`).
A continuation receives a thunk that returns the value of the function or raises its exception.

`Pending._wrap` awaits the function and calls the continuation inside one `try` block, whose
handler calls the continuation again with the exception that it caught. An exception of the
continuation reaches the same handler, and the continuation then runs a second time.

`before` and the continuation run in threads of a pool, by `asyncio.to_thread`: on a copy of the
context variables, with the thread-local data of the thread, and with a future between them and the
coroutine, which not every exception passes. The two versions agree exactly if the continuation does
not raise on the value of the function, and all of this makes no difference to what runs there.
-/

namespace DBOSModel.Outcome

/-- Python code over a state: it returns a value or raises an exception, and what it did to the
state before it raised remains. -/
abbrev Py (σ ε : Type) := ExceptT ε (StateM σ)

variable {σ ε T R : Type}

/-- The function under composition as its thunk shows it: a fixed value or a fixed exception. -/
def Py.ofExcept (outcome : Except ε T) : Py σ ε T := fun state ↦ (outcome, state)

/-! ## Runs -/

section Runs

theorem Py.bind_apply (code : Py σ ε T) (rest : T → Py σ ε R) (state : σ) :
    (code >>= rest) state =
      match code state with
      | (.ok value, after) => rest value after
      | (.error exp, after) => (.error exp, after) := by
  change (ExceptT.bind code rest) state = _
  rcases hcode : code state with ⟨exp | value, after⟩
  · have hraised : (pure (Except.error exp) : StateM σ (Except ε R)) after = (.error exp, after) := rfl
    simp [ExceptT.bind, ExceptT.mk, ExceptT.bindCont, bind, StateT.bind, hcode, hraised]
  · simp [ExceptT.bind, ExceptT.mk, ExceptT.bindCont, bind, StateT.bind, hcode]

theorem Py.tryCatch_apply (code : Py σ ε T) (handler : ε → Py σ ε T) (state : σ) :
    (tryCatch code handler) state =
      match code state with
      | (.ok value, after) => (.ok value, after)
      | (.error exp, after) => handler exp after := by
  change (ExceptT.tryCatch code handler) state = _
  rcases hcode : code state with ⟨exp | value, after⟩
  · simp [ExceptT.tryCatch, ExceptT.mk, bind, StateT.bind, hcode]
  · have hreturned : (pure (Except.ok value) : StateM σ (Except ε T)) after = (.ok value, after) := rfl
    simp [ExceptT.tryCatch, ExceptT.mk, bind, StateT.bind, hcode, hreturned]

end Runs

/-! ## The two classes -/

/-- `Immediate`, with its `_func`. -/
structure Immediate (σ ε T : Type) where
  func : Py σ ε T

/-- `Pending`, with its coroutine function `_func`. -/
structure Pending (σ ε T : Type) where
  func : Py σ ε T

namespace Immediate

def «then» (self : Immediate σ ε T) (next : Py σ ε T → Py σ ε R) : Immediate σ ε R :=
  ⟨next self.func⟩

def wrap (self : Immediate σ ε T) (before : Py σ ε (Py σ ε T → Py σ ε R)) : Immediate σ ε R :=
  ⟨do
    let after ← before
    after self.func⟩

/-- `__call__`. -/
def call (self : Immediate σ ε T) : Py σ ε T := self.func

end Immediate

/-! ### Threads of the event loop -/

/-- What code reads and changes: what all threads share, and the context variables and thread-local
data, which are those of the place where it runs. -/
structure Process (σ κ : Type) where
  shared : σ
  own : κ

structure EventLoop (κ ε : Type) where
  /-- `asyncio.CancelledError`. -/
  cancelled : ε → Bool
  /-- What the thread of a call has of its own, when it is given a copy of the caller's context. -/
  worker : ℕ → κ → κ
  /-- The exception that a future passes on: another one for `StopIteration`, or none at all if the
  future is not resolved then, which is so before Python 3.12. -/
  future : ε → Option ε

section Threads

variable {κ : Type} (loop : EventLoop κ ε)

/-- Where the code of a call starts. -/
def EventLoop.enter (n : ℕ) (state : Process σ κ) : Process σ κ :=
  { state with own := loop.worker n state.own }

/-- `await asyncio.to_thread(code)`. The exception `none` is an await that does not end. -/
def EventLoop.toThread (n : ℕ) (code : Py (Process σ κ) ε T) : Py (Process σ κ) (Option ε) T :=
  fun state ↦
    ((code (loop.enter n state)).1.mapError loop.future,
      { state with shared := (code (loop.enter n state)).2.shared })

end Threads

namespace Pending

variable {κ : Type} (loop : EventLoop κ ε)

def _wrap (func : Py (Process σ κ) (Option ε) T)
    (before : Py (Process σ κ) ε (Py (Process σ κ) ε T → Py (Process σ κ) ε R)) :
    Py (Process σ κ) (Option ε) R := do
  let after ← loop.toThread 0 before
  try
    let value ← func
    loop.toThread 1 (after (pure value))
  catch exp =>
    match exp with
    | none => throw none
    | some exp =>
      if loop.cancelled exp then
        throw (some exp)
      else
        loop.toThread 2 (after (throw exp))

def wrap (self : Pending (Process σ κ) (Option ε) T)
    (before : Py (Process σ κ) ε (Py (Process σ κ) ε T → Py (Process σ κ) ε R)) :
    Pending (Process σ κ) (Option ε) R :=
  ⟨_wrap loop self.func before⟩

def «then» (self : Pending (Process σ κ) (Option ε) T)
    (next : Py (Process σ κ) ε T → Py (Process σ κ) ε R) : Pending (Process σ κ) (Option ε) R :=
  ⟨_wrap loop self.func (pure next)⟩

/-- `__call__`. -/
def call (self : Pending σ ε T) : Py σ ε T := self.func

end Pending

/-! ## Counting the calls of a continuation -/

section Counting

variable {κ : Type}

/-- A state with a counter of calls, which all threads share. -/
def Process.withCounter (state : Process σ κ) (calls : ℕ) : Process (σ × ℕ) κ where
  shared := (state.shared, calls)
  own := state.own

def Process.withoutCounter (state : Process (σ × ℕ) κ) : Process σ κ where
  shared := state.shared.1
  own := state.own

/-- The thunk without the counter. -/
def withoutCounter (thunk : Py (Process (σ × ℕ) κ) ε T) : Py (Process σ κ) ε T :=
  fun state ↦
    ((thunk (state.withCounter 0)).1, (thunk (state.withCounter 0)).2.withoutCounter)

/-- The same continuation, which counts its calls. -/
def counted (next : Py (Process σ κ) ε T → Py (Process σ κ) ε R) :
    Py (Process (σ × ℕ) κ) ε T → Py (Process (σ × ℕ) κ) ε R :=
  fun thunk state ↦
    let ended := next (withoutCounter thunk) state.withoutCounter
    (ended.1, ended.2.withCounter (state.shared.2 + 1))

/-- `before` beside a counter that it does not touch; the continuation that it returns is
counted. -/
def countedBefore (before : Py (Process σ κ) ε (Py (Process σ κ) ε T → Py (Process σ κ) ε R)) :
    Py (Process (σ × ℕ) κ) ε (Py (Process (σ × ℕ) κ) ε T → Py (Process (σ × ℕ) κ) ε R) :=
  fun state ↦
    let ended := before state.withoutCounter
    (ended.1.map counted, ended.2.withCounter state.shared.2)

end Counting

/-! ## The two versions compared -/

section Agreement

variable {κ : Type} (loop : EventLoop κ ε) (outcome : Except ε T)

/-- `Pending(func).then(next)` returns or raises what `Immediate(func).then(next)` does, and has
called `next` exactly once. -/
def ThenAgrees (next : Py (Process σ κ) ε T → Py (Process σ κ) ε R) (state : Process σ κ) : Prop :=
  let pending := (Pending.then loop ⟨Py.ofExcept (outcome.mapError some)⟩ (counted next)).call
    (state.withCounter 0)
  let immediate := (Immediate.then ⟨Py.ofExcept outcome⟩ next).call state
  pending.1 = immediate.1.mapError some ∧ pending.2.shared.2 = 1

/-- The same for `wrap`. A `before` that raises leaves no continuation to call. -/
def WrapAgrees (before : Py (Process σ κ) ε (Py (Process σ κ) ε T → Py (Process σ κ) ε R))
    (state : Process σ κ) : Prop :=
  let pending := (Pending.wrap loop ⟨Py.ofExcept (outcome.mapError some)⟩
    (countedBefore before)).call (state.withCounter 0)
  let immediate := (Immediate.wrap ⟨Py.ofExcept outcome⟩ before).call state
  pending.1 = immediate.1.mapError some ∧
    pending.2.shared.2 = if (before (loop.enter 0 state)).1.isOk then 1 else 0

/-- The function returned, and the continuation raises on its value, in the thread that calls it and
with an exception that is no cancellation. -/
def RaisesOnValue (after : Py (Process σ κ) ε T → Py (Process σ κ) ε R)
    (state : Process σ κ) : Prop :=
  ∃ value exp exp', outcome = .ok value ∧
    (after (pure value) (loop.enter 1 state)).1 = .error exp ∧ loop.future exp = some exp' ∧
      loop.cancelled exp' = false

/-- The call that the continuation is made in: the first one after the function has returned, and the
one of the handler after it has raised. -/
def callOf : Except ε T → ℕ
  | .ok _ => 1
  | .error _ => 2

/-- `before` and the continuation, each in a thread of its own. -/
def inThreads (before : Py (Process σ κ) ε (Py (Process σ κ) ε T → Py (Process σ κ) ε R)) :
    Py (Process σ κ) (Option ε) R := do
  let after ← loop.toThread 0 before
  loop.toThread (callOf outcome) (after (Py.ofExcept outcome))

/-- The same two calls where the caller is. -/
def inPlace (before : Py (Process σ κ) ε (Py (Process σ κ) ε T → Py (Process σ κ) ε R)) :
    Py (Process σ κ) ε R := do
  let after ← before
  after (Py.ofExcept outcome)

/-- It makes no difference to how the two calls end where they run. -/
def SameInThreads (before : Py (Process σ κ) ε (Py (Process σ κ) ε T → Py (Process σ κ) ε R))
    (state : Process σ κ) : Prop :=
  (inThreads loop outcome before state).1 = (inPlace outcome before state).1.mapError some

variable {loop outcome}

theorem mapError_ok {ε' : Type} (f : ε → ε') (value : T) :
    (Except.ok value : Except ε T).mapError f = .ok value := rfl

theorem mapError_error {ε' : Type} (f : ε → ε') (exp : ε) :
    (Except.error exp : Except ε T).mapError f = .error (f exp) := rfl

/-- A function that raised, with an exception other than a cancellation, is handled by one call of
the continuation. -/
theorem _wrap_of_error {exp : ε} (hexp : loop.cancelled exp = false)
    {before : Py (Process σ κ) ε (Py (Process σ κ) ε T → Py (Process σ κ) ε R)}
    {after : Py (Process σ κ) ε T → Py (Process σ κ) ε R} {start state : Process σ κ}
    (hbefore : loop.toThread 0 before start = (.ok after, state)) :
    Pending._wrap loop (Py.ofExcept (.error (some exp))) before start =
      loop.toThread 2 (after (Py.ofExcept (.error exp))) state := by
  simp only [Pending._wrap, Py.bind_apply, hbefore, Py.tryCatch_apply, Py.ofExcept, hexp]
  rfl

/-- A function that returned is followed by a call of the continuation inside the `try` block. -/
theorem _wrap_of_ok (value : T)
    {before : Py (Process σ κ) ε (Py (Process σ κ) ε T → Py (Process σ κ) ε R)}
    {after : Py (Process σ κ) ε T → Py (Process σ κ) ε R} {start state : Process σ κ}
    (hbefore : loop.toThread 0 before start = (.ok after, state)) :
    Pending._wrap loop (Py.ofExcept (.ok value)) before start =
      match loop.toThread 1 (after (pure value)) state with
      | (.ok result, state) => (.ok result, state)
      | (.error none, state) => (.error none, state)
      | (.error (some exp), state) =>
        if loop.cancelled exp then (.error (some exp), state)
        else loop.toThread 2 (after (throw exp)) state := by
  simp only [Pending._wrap, Py.bind_apply, hbefore, Py.tryCatch_apply, Py.ofExcept]
  rcases loop.toThread 1 (after (pure value)) state with ⟨(_ | exp) | result, state⟩
  · rfl
  · cases hexp : loop.cancelled exp
    · simp [hexp]
    · simp only [hexp, if_true]
      rfl
  · rfl

variable (loop) in
/-- A counted continuation in a thread: what the continuation gives, with one call more. -/
theorem toThread_counted (n : ℕ) (after : Py (Process σ κ) ε T → Py (Process σ κ) ε R)
    (outcome : Except ε T) (state : Process σ κ) (calls : ℕ) :
    loop.toThread n (counted after (Py.ofExcept outcome)) (state.withCounter calls) =
      ((loop.toThread n (after (Py.ofExcept outcome)) state).1,
        ((loop.toThread n (after (Py.ofExcept outcome)) state).2.withCounter (calls + 1))) :=
  rfl

variable (loop) in
theorem toThread_countedBefore
    (before : Py (Process σ κ) ε (Py (Process σ κ) ε T → Py (Process σ κ) ε R))
    (state : Process σ κ) :
    loop.toThread 0 (countedBefore before) (state.withCounter 0) =
      ((loop.toThread 0 before state).1.map counted,
        (loop.toThread 0 before state).2.withCounter 0) := by
  have hmap (result : Except ε (Py (Process σ κ) ε T → Py (Process σ κ) ε R)) :
      (result.map counted).mapError loop.future = (result.mapError loop.future).map counted := by
    cases result with
    | error exp => rfl
    | ok after => rfl
  exact Prod.ext (hmap (before (loop.enter 0 state)).1) rfl

/-- `_wrap` around a counted continuation: one call and the result of one call in a thread, unless
the continuation raises on the value of the function. -/
theorem _wrap_counted_iff (haside : ∀ exp, outcome = .error exp → loop.cancelled exp = false)
    {before : Py (Process (σ × ℕ) κ) ε
      (Py (Process (σ × ℕ) κ) ε T → Py (Process (σ × ℕ) κ) ε R)}
    {after : Py (Process σ κ) ε T → Py (Process σ κ) ε R} {start state : Process σ κ}
    (hbefore : loop.toThread 0 before (start.withCounter 0) =
      (.ok (counted after), state.withCounter 0)) (result : Except ε R) :
    ((Pending._wrap loop (Py.ofExcept (outcome.mapError some)) before (start.withCounter 0)).1 =
        result.mapError some ∧
      (Pending._wrap loop (Py.ofExcept (outcome.mapError some)) before
        (start.withCounter 0)).2.shared.2 = 1) ↔
      (loop.toThread (callOf outcome) (after (Py.ofExcept outcome)) state).1 =
        result.mapError some ∧ ¬ RaisesOnValue loop outcome after state := by
  cases outcome with
  | error exp =>
    have hnot : ¬ RaisesOnValue loop (.error exp) after state := by
      rintro ⟨value, other, other', hvalue, -⟩
      cases hvalue
    rw [mapError_error, _wrap_of_error (haside exp rfl) hbefore, toThread_counted]
    simp [hnot, callOf, Process.withCounter]
  | ok value =>
    have hthunk (τ : Type) : (Py.ofExcept (.ok value) : Py τ ε T) = pure value := rfl
    have hcall := toThread_counted loop 1 after (.ok value) state 0
    rw [mapError_ok, _wrap_of_ok value hbefore, ← hthunk, hcall]
    have hraises : RaisesOnValue loop (.ok value) after state ↔
        ∃ exp, (loop.toThread 1 (after (Py.ofExcept (.ok value))) state).1 = .error (some exp) ∧
          loop.cancelled exp = false := by
      unfold RaisesOnValue EventLoop.toThread
      constructor
      · rintro ⟨other, exp, exp', hvalue, hraised, hfuture, hpassed⟩
        cases hvalue
        rw [hthunk]
        exact ⟨exp', by simp [hraised, mapError_error, hfuture], hpassed⟩
      · rintro ⟨exp', hraised, hpassed⟩
        rw [hthunk] at hraised
        cases hended : (after (pure value) (loop.enter 1 state)).1 with
        | ok ended => simp [hended, mapError_ok] at hraised
        | error exp =>
          simp only [hended, mapError_error, Except.error.injEq] at hraised
          exact ⟨value, exp, exp', rfl, hended, hraised, hpassed⟩
    rw [hraises, callOf]
    rcases loop.toThread 1 (after (Py.ofExcept (.ok value))) state with
      ⟨(_ | exp) | ended, state'⟩
    · simp [Process.withCounter]
    · cases hexp : loop.cancelled exp with
      | true => simp [hexp, Process.withCounter]
      | false =>
        have hthrow (τ : Type) : (Py.ofExcept (.error exp) : Py τ ε T) = throw exp := rfl
        simp only [hexp, Bool.false_eq_true, if_false, ← hthrow, toThread_counted]
        simp [hexp, Process.withCounter]
    · simp [Process.withCounter]

/-- An event loop of Python 3.12: threads with a copy of one context variable. -/
def contextLoop : EventLoop ℕ String where
  cancelled exp := exp == "CancelledError"
  worker _ context := context
  future exp := some (if exp == "StopIteration" then "RuntimeError" else exp)

/-- A continuation that fails to store a value and handles every exception of its thunk. -/
def failingStore (thunk : Py (Process Unit ℕ) String ℕ) : Py (Process Unit ℕ) String ℕ :=
  fun state ↦
    match thunk state with
    | (.ok _, state) => (.error "store failed", state)
    | (.error _, state) => (.ok 0, state)

/-- A context variable that `before` sets is seen by the continuation of `Immediate` only. -/
example :
    let before : Py (Process Unit ℕ) String (Py (Process Unit ℕ) String ℕ →
        Py (Process Unit ℕ) String ℕ) :=
      fun state ↦ (.ok fun _ state ↦ (.ok state.own, state), { state with own := 5 })
    ((Immediate.wrap ⟨Py.ofExcept (.ok 3)⟩ before).call { shared := (), own := 0 }).1 = .ok 5 ∧
      ((Pending.wrap contextLoop ⟨Py.ofExcept (.ok 3)⟩ before).call
        { shared := (), own := 0 }).1 = .ok 0 :=
  ⟨rfl, rfl⟩

end Agreement

end DBOSModel.Outcome

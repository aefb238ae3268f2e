import DBOSModel.Outcome
import Mathlib.Algebra.Group.Nat.Defs
import Mathlib.Data.List.Basic

/-!
# Retried functions

`retry` of `Immediate` and of `Pending` in `dbos/_outcome.py`. Each has its own loop, and they differ
in one point: `Pending` awaits the answer of `should_retry` if it can be awaited, and `Immediate`
tests the object that it got. They are the same code when all answers are plain booleans
(`Immediate._retry_eq`).

`RetryScript` fixes the result of each attempt. The run of a script is one list of calls, which says
how often and in which order each callback is called.
-/

namespace DBOSModel.Outcome

variable {σ ε T W : Type}

/-- What `should_retry` returns: a boolean, or an object to await for one. -/
inductive RetryAnswer (σ ε : Type) where
  | plain (answer : Bool)
  | awaitable (answer : Py σ ε Bool)

/-- Python's truth value of the object. -/
def RetryAnswer.isTruthy : RetryAnswer σ ε → Bool
  | plain answer => answer
  | awaitable _ => true

/-- The arguments of `retry`; `W` is the type of wait times. -/
structure RetryOptions (σ ε W : Type) where
  attempts : ℕ
  onException : ℕ → ε → Py σ ε W
  exceededRetries : ℕ → List ε → Py σ ε ε
  shouldRetry : Option (ε → Py σ ε (RetryAnswer σ ε)) := none

/-- What the loops use of the rest of the process. -/
structure RetryRuntime (σ ε W : Type) where
  /-- `EnterDBOSStepRetry(i, attempts)`. -/
  enter : ℕ → ℕ → σ → σ
  exit : σ → σ
  /-- `time.sleep` and `asyncio.sleep`. -/
  sleep : W → Py σ ε Unit
  /-- The exceptions that `except Exception` catches. -/
  isException : ε → Bool

/-- The function inside `with EnterDBOSStepRetry(i, attempts)`. -/
def RetryRuntime.inStepRetry (runtime : RetryRuntime σ ε W) (i attempts : ℕ) (func : Py σ ε T) :
    Py σ ε T := fun state ↦
  let (outcome, after) := func (runtime.enter i attempts state)
  (outcome, runtime.exit after)

/-! ## The two loops -/

/-- `_retry`. -/
def Immediate._retry (runtime : RetryRuntime σ ε W) (func : Py σ ε T)
    (options : RetryOptions σ ε W) : Py σ ε T :=
  loop options.attempts 0 []
where
  exceeded (errors : List ε) : Py σ ε T := do
    let exp ← options.exceededRetries options.attempts errors
    throw exp
  refuses (exp : ε) : Py σ ε Bool :=
    match options.shouldRetry with
    | none => pure false
    | some shouldRetry => do
      let answer ← shouldRetry exp
      pure !answer.isTruthy
  /-- The iterations that are left, the next one, and the errors so far. -/
  loop : ℕ → ℕ → List ε → Py σ ε T
    | 0, _, errors => exceeded errors
    | left + 1, i, errors =>
      tryCatch (runtime.inStepRetry i options.attempts func) fun exp ↦ do
        if runtime.isException exp then
          let refused ← refuses exp
          if refused then throw exp
          else if i = options.attempts - 1 then exceeded (errors ++ [exp])
          else
            let waitTime ← options.onException i exp
            runtime.sleep waitTime
            loop left (i + 1) (errors ++ [exp])
        else throw exp

/-- `_retry`. -/
def Pending._retry (runtime : RetryRuntime σ ε W) (func : Py σ ε T)
    (options : RetryOptions σ ε W) : Py σ ε T :=
  loop options.attempts 0 []
where
  exceeded (errors : List ε) : Py σ ε T := do
    let exp ← options.exceededRetries options.attempts errors
    throw exp
  refuses (exp : ε) : Py σ ε Bool :=
    match options.shouldRetry with
    | none => pure false
    | some shouldRetry => do
      let result ← shouldRetry exp
      match result with
      | .plain answer => pure !answer
      | .awaitable awaited => do
        let answer ← awaited
        pure !answer
  /-- The iterations that are left, the next one, and the errors so far. -/
  loop : ℕ → ℕ → List ε → Py σ ε T
    | 0, _, errors => exceeded errors
    | left + 1, i, errors =>
      tryCatch (runtime.inStepRetry i options.attempts func) fun exp ↦ do
        if runtime.isException exp then
          let refused ← refuses exp
          if refused then throw exp
          else if i = options.attempts - 1 then exceeded (errors ++ [exp])
          else
            let waitTime ← options.onException i exp
            runtime.sleep waitTime
            loop left (i + 1) (errors ++ [exp])
        else throw exp

/-- `retry`, whose `assert` rejects a number of attempts that is not positive. -/
def Immediate.retry (runtime : RetryRuntime σ ε W) (self : Immediate σ ε T)
    (options : RetryOptions σ ε W) : Option (Immediate σ ε T) :=
  if 0 < options.attempts then some ⟨Immediate._retry runtime self.func options⟩ else none

/-- `retry`, whose `assert` rejects a number of attempts that is not positive. -/
def Pending.retry (runtime : RetryRuntime σ ε W) (self : Pending σ ε T)
    (options : RetryOptions σ ε W) : Option (Pending σ ε T) :=
  if 0 < options.attempts then some ⟨Pending._retry runtime self.func options⟩ else none

/-! ## Plain answers -/

/-- Every answer of `should_retry` is a boolean. -/
def RetryOptions.AnswersPlainly (options : RetryOptions σ ε W) : Prop :=
  ∀ shouldRetry ∈ options.shouldRetry, ∀ exp, ∃ answer : Py σ ε Bool,
    shouldRetry exp = do
      let value ← answer
      pure (.plain value)

theorem refuses_eq {options : RetryOptions σ ε W} (hplain : options.AnswersPlainly) (exp : ε) :
    Immediate._retry.refuses options exp = Pending._retry.refuses options exp := by
  unfold Immediate._retry.refuses Pending._retry.refuses
  cases hoption : options.shouldRetry with
  | none => rfl
  | some shouldRetry =>
    obtain ⟨answer, hanswer⟩ := hplain shouldRetry hoption exp
    simp [hanswer, RetryAnswer.isTruthy]

/-- With plain answers the two loops are the same code. -/
theorem Immediate._retry_eq {options : RetryOptions σ ε W} (hplain : options.AnswersPlainly)
    (runtime : RetryRuntime σ ε W) (func : Py σ ε T) :
    Immediate._retry runtime func options = Pending._retry runtime func options := by
  have hexceeded : ∀ errors, (Immediate._retry.exceeded options errors : Py σ ε T) =
      Pending._retry.exceeded options errors := fun _ ↦ rfl
  have hloop : ∀ left i errors, Immediate._retry.loop runtime func options left i errors =
      Pending._retry.loop runtime func options left i errors := by
    intro left
    induction left with
    | zero =>
      intro i errors
      rfl
    | succ left ih =>
      intro i errors
      rw [Immediate._retry.loop, Pending._retry.loop]
      simp only [refuses_eq hplain, hexceeded, ih]
  exact hloop options.attempts 0 []

/-! ## Runs of a script -/

/-- What happens in a run. -/
inductive RetryCall (ε W : Type) where
  | enter (i attempts : ℕ)
  | func
  | exit
  | shouldRetry (exp : ε)
  | onException (i : ℕ) (exp : ε)
  | sleep (waitTime : W)
  | exceededRetries (attempts : ℕ) (errors : List ε)
deriving DecidableEq

/-- The attempts made so far, and everything that happened. -/
structure RetryTrace (ε W : Type) where
  made : ℕ := 0
  calls : List (RetryCall ε W) := []
deriving DecidableEq

def RetryTrace.log (trace : RetryTrace ε W) (call : RetryCall ε W) : RetryTrace ε W :=
  { trace with calls := trace.calls ++ [call] }

/-- Attempts with their results, and callbacks that are pure functions. -/
structure RetryScript (ε T W : Type) where
  results : ℕ → Except ε T
  attempts : ℕ
  shouldRetry : Option (ε → Bool)
  waitTime : ℕ → ε → W
  exceeded : ℕ → List ε → ε
  isException : ε → Bool

namespace RetryScript

variable (script : RetryScript ε T W)

def func : Py (RetryTrace ε W) ε T := fun trace ↦
  (script.results trace.made, { trace.log .func with made := trace.made + 1 })

def runtime : RetryRuntime (RetryTrace ε W) ε W where
  enter i attempts trace := trace.log (.enter i attempts)
  exit trace := trace.log .exit
  sleep waitTime trace := (.ok (), trace.log (.sleep waitTime))
  isException := script.isException

def options : RetryOptions (RetryTrace ε W) ε W where
  attempts := script.attempts
  onException i exp trace := (.ok (script.waitTime i exp), trace.log (.onException i exp))
  exceededRetries attempts errors trace :=
    (.ok (script.exceeded attempts errors), trace.log (.exceededRetries attempts errors))
  shouldRetry := script.shouldRetry.map fun shouldRetry exp trace ↦
    (.ok (.plain (shouldRetry exp)), trace.log (.shouldRetry exp))

/-- The attempt that raises this is followed by another one, if there is one left. -/
def isRetryable (exp : ε) : Bool :=
  script.isException exp && script.shouldRetry.all fun shouldRetry ↦ shouldRetry exp

/-- The calls of an attempt, up to the end of its `with` block. -/
def attemptCalls (i : ℕ) : List (RetryCall ε W) := [.enter i script.attempts, .func, .exit]

/-- The question whether an exception is to be retried. -/
def askedCalls (exp : ε) : List (RetryCall ε W) :=
  if script.isException exp && script.shouldRetry.isSome then [.shouldRetry exp] else []

/-- The calls up to the attempt after the given errors: `on_exception` is called once after each. -/
def retriedCalls (errors : List ε) : List (RetryCall ε W) :=
  errors.zipIdx.flatMap fun (exp, i) ↦
    script.attemptCalls i ++ script.askedCalls exp ++
      [.onException i exp, .sleep (script.waitTime i exp)]

/-- The first attempts have raised the given errors, all of them retryable. -/
def Retried (errors : List ε) : Prop :=
  ∀ i (hi : i < errors.length),
    script.results i = .error errors[i] ∧ script.isRetryable errors[i] = true

/-- What the attempt after the given errors ends with, and the calls from its start on. -/
inductive Ends (errors : List ε) : Except ε T → List (RetryCall ε W) → Prop
  /-- The first success is returned. -/
  | success (value : T) (hresult : script.results errors.length = .ok value) :
    Ends errors (.ok value) (script.attemptCalls errors.length)
  /-- An exception that is not retryable is raised again. -/
  | refused (exp : ε) (hresult : script.results errors.length = .error exp)
      (hrefused : script.isRetryable exp = false) :
    Ends errors (.error exp) (script.attemptCalls errors.length ++ script.askedCalls exp)
  /-- After the last attempt `exceeded_retries` gets the errors of all attempts. -/
  | exceeded (exp : ε) (hresult : script.results errors.length = .error exp)
      (hretryable : script.isRetryable exp = true) (hlast : errors.length + 1 = script.attempts) :
    Ends errors (.error (script.exceeded script.attempts (errors ++ [exp])))
      (script.attemptCalls errors.length ++ script.askedCalls exp ++
        [.exceededRetries script.attempts (errors ++ [exp])])

/-- The result of a retried function on the script, and the calls made. -/
def run (code : Py (RetryTrace ε W) ε T) : Except ε T × List (RetryCall ε W) :=
  ((code {}).1, (code {}).2.calls)

variable {script}

theorem answersPlainly : script.options.AnswersPlainly := by
  intro shouldRetry hsome exp
  obtain ⟨answer, -, rfl⟩ := Option.map_eq_some_iff.mp hsome
  exact ⟨fun trace ↦ (.ok (answer exp), trace.log (.shouldRetry exp)), rfl⟩

theorem exceeded_apply (errors : List ε) (trace : RetryTrace ε W) :
    (Immediate._retry.exceeded script.options errors : Py _ ε T) trace =
      (.error (script.exceeded script.attempts errors),
        trace.log (.exceededRetries script.attempts errors)) :=
  rfl

theorem inStepRetry_apply (i : ℕ) (trace : RetryTrace ε W) :
    script.runtime.inStepRetry i script.options.attempts script.func trace =
      (script.results trace.made, ⟨trace.made + 1, trace.calls ++ script.attemptCalls i⟩) := by
  simp [RetryRuntime.inStepRetry, runtime, func, RetryTrace.log, options, attemptCalls]

theorem refuses_apply {exp : ε} (hcaught : script.isException exp = true)
    (trace : RetryTrace ε W) :
    Immediate._retry.refuses script.options exp trace =
      (.ok !script.isRetryable exp, ⟨trace.made, trace.calls ++ script.askedCalls exp⟩) := by
  unfold Immediate._retry.refuses
  cases hasked : script.shouldRetry with
  | none =>
    have hoption : script.options.shouldRetry = none := by simp [options, hasked]
    simp only [hoption, isRetryable, askedCalls, hcaught, hasked]
    simp
    rfl
  | some shouldRetry =>
    have hoption : script.options.shouldRetry = some fun exp trace ↦
        (.ok (.plain (shouldRetry exp)), trace.log (.shouldRetry exp)) := by
      simp [options, hasked]
    simp only [hoption, isRetryable, askedCalls, hcaught, hasked, Py.bind_apply]
    simp [RetryAnswer.isTruthy]
    rfl

/-- The wait between two attempts. -/
theorem wait_apply (i : ℕ) (exp : ε) (rest : Py (RetryTrace ε W) ε T) (trace : RetryTrace ε W) :
    (do
      let waitTime ← script.options.onException i exp
      script.runtime.sleep waitTime
      rest) trace =
      rest ⟨trace.made,
        trace.calls ++ [.onException i exp, .sleep (script.waitTime i exp)]⟩ := by
  simp [Py.bind_apply, options, runtime, RetryTrace.log]

/-- One turn of the loop. -/
theorem loop_succ (left i : ℕ) (errors : List ε) (trace : RetryTrace ε W) :
    Immediate._retry.loop script.runtime script.func script.options (left + 1) i errors trace =
      match script.results trace.made with
      | .ok value =>
        (.ok value, ⟨trace.made + 1, trace.calls ++ script.attemptCalls i⟩)
      | .error exp =>
        let asked := trace.calls ++ script.attemptCalls i ++ script.askedCalls exp
        if script.isRetryable exp then
          if i = script.attempts - 1 then
            (.error (script.exceeded script.attempts (errors ++ [exp])),
              ⟨trace.made + 1, asked ++ [.exceededRetries script.attempts (errors ++ [exp])]⟩)
          else Immediate._retry.loop script.runtime script.func script.options left (i + 1)
            (errors ++ [exp]) ⟨trace.made + 1,
              asked ++ [.onException i exp, .sleep (script.waitTime i exp)]⟩
        else (.error exp, ⟨trace.made + 1, asked⟩) := by
  rw [Immediate._retry.loop, Py.tryCatch_apply, inStepRetry_apply]
  cases script.results trace.made with
  | ok value => rfl
  | error exp =>
    have hexception : script.runtime.isException exp = script.isException exp := rfl
    have hattempts : script.options.attempts = script.attempts := rfl
    simp only [hexception, hattempts]
    cases hcaught : script.isException exp with
    | false =>
      have hraised : script.isRetryable exp = false := by simp [isRetryable, hcaught]
      simp [hraised, askedCalls, hcaught]
      rfl
    | true =>
      rw [if_pos rfl, Py.bind_apply, refuses_apply hcaught]
      cases hretryable : script.isRetryable exp with
      | false => rfl
      | true =>
        simp only [Bool.not_true, Bool.false_eq_true, if_false, if_true]
        split
        · rw [exceeded_apply]
          rfl
        · rw [wait_apply]

theorem retriedCalls_concat (errors : List ε) (exp : ε) :
    script.retriedCalls (errors ++ [exp]) = script.retriedCalls errors ++
      (script.attemptCalls errors.length ++ script.askedCalls exp ++
        [.onException errors.length exp, .sleep (script.waitTime errors.length exp)]) := by
  simp [retriedCalls, List.zipIdx_append]

theorem Retried.concat {errors : List ε} {exp : ε} (h : script.Retried errors)
    (hresult : script.results errors.length = .error exp)
    (hretryable : script.isRetryable exp = true) : script.Retried (errors ++ [exp]) := by
  intro i hi
  by_cases hold : i < errors.length
  · rw [List.getElem_append_left hold]
    exact h i hold
  · have hlast : i = errors.length := by
      rw [List.length_append, List.length_singleton] at hi
      omega
    subst hlast
    rw [List.getElem_concat_length rfl]
    exact ⟨hresult, hretryable⟩

/-- The loop after the given errors. -/
theorem loop_ends {left : ℕ} {errors : List ε} (hretried : script.Retried errors)
    (hleft : 0 < left) (hattempts : errors.length + left = script.attempts) :
    ∃ all outcome calls, script.Retried all ∧ all.length < script.attempts ∧
      script.Ends all outcome calls ∧
        Immediate._retry.loop script.runtime script.func script.options left errors.length errors
          ⟨errors.length, script.retriedCalls errors⟩ =
            (outcome, ⟨all.length + 1, script.retriedCalls all ++ calls⟩) := by
  induction left generalizing errors with
  | zero => omega
  | succ left ih =>
    have hlength : errors.length < script.attempts := by omega
    rw [loop_succ]
    cases hresult : script.results errors.length with
    | ok value => exact ⟨errors, _, _, hretried, hlength, .success value hresult, rfl⟩
    | error exp =>
      simp only
      cases hretryable : script.isRetryable exp with
      | false =>
        refine ⟨errors, _, _, hretried, hlength, .refused exp hresult hretryable, ?_⟩
        simp
      | true =>
        rw [if_pos rfl]
        split
        · rename_i hlast
          have hend : errors.length + 1 = script.attempts := by omega
          refine ⟨errors, _, _, hretried, hlength, .exceeded exp hresult hretryable hend, ?_⟩
          simp
        · rename_i hnext
          have hmore : (errors ++ [exp]).length + left = script.attempts := by
            rw [List.length_append, List.length_singleton]
            omega
          have hend := ih (hretried.concat hresult hretryable) (by omega) hmore
          rw [retriedCalls_concat, List.length_append, List.length_singleton] at hend
          simpa only [List.append_assoc] using hend

/-- Both versions make the same calls and end the same way: after fewer errors than there are
attempts, each of them retried, with the first success, with an exception that is not retryable, or
with `exceeded_retries` on the errors of all attempts. -/
theorem retry_agrees (script : RetryScript ε T W) (hattempts : 0 < script.attempts) :
    ∃ immediate pending errors outcome calls,
      Immediate.retry script.runtime ⟨script.func⟩ script.options = some immediate ∧
      Pending.retry script.runtime ⟨script.func⟩ script.options = some pending ∧
      script.Retried errors ∧ errors.length < script.attempts ∧ script.Ends errors outcome calls ∧
      run immediate.call = (outcome, script.retriedCalls errors ++ calls) ∧
      run pending.call = (outcome, script.retriedCalls errors ++ calls) := by
  have hnone : script.Retried [] := by
    intro i hi
    cases hi
  obtain ⟨errors, outcome, calls, hretried, hlength, hends, hloop⟩ :=
    loop_ends hnone hattempts (Nat.zero_add _)
  have hrun : run (Immediate._retry script.runtime script.func script.options) =
      (outcome, script.retriedCalls errors ++ calls) := by
    have hcode : Immediate._retry script.runtime script.func script.options {} =
        (outcome, ⟨errors.length + 1, script.retriedCalls errors ++ calls⟩) := hloop
    rw [run, hcode]
  refine ⟨⟨_⟩, ⟨_⟩, errors, outcome, calls, if_pos hattempts, if_pos hattempts, hretried, hlength,
    hends, hrun, ?_⟩
  rw [Immediate._retry_eq answersPlainly] at hrun
  exact hrun

/-- Two attempts that fail, the second of them with an exception that is not retried. -/
def fatalSecond : RetryScript String ℕ ℕ where
  results i := if i = 0 then .error "Error" else .error "Fatal"
  attempts := 3
  shouldRetry := some fun exp ↦ exp != "Fatal"
  waitTime i _ := 2 ^ i
  exceeded attempts _ := s!"exceeded {attempts}"
  isException _ := true

theorem retry_agrees_fatalSecond :
    0 < fatalSecond.attempts ∧ ∃ immediate pending errors outcome calls,
      Immediate.retry fatalSecond.runtime ⟨fatalSecond.func⟩ fatalSecond.options = some immediate ∧
      Pending.retry fatalSecond.runtime ⟨fatalSecond.func⟩ fatalSecond.options = some pending ∧
      fatalSecond.Retried errors ∧ errors.length < 3 ∧ fatalSecond.Ends errors outcome calls ∧
      run immediate.call = (outcome, fatalSecond.retriedCalls errors ++ calls) ∧
      run pending.call = (outcome, fatalSecond.retriedCalls errors ++ calls) :=
  ⟨by decide, retry_agrees fatalSecond (by decide)⟩

end RetryScript

end DBOSModel.Outcome

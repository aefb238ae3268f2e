import DBOSModel.Relational.Execution
import Mathlib.Data.List.Forall2

/-!
# Transactions that end in a commit or an exception, and their retries

A transaction body runs on the state it began with and ends in one of three ways: it returns and
its writes are committed; it raises and its writes are rolled back; or it commits explicitly and
then raises. A call that is wrapped in a retry loop runs such a body several times: an attempt may
fail before its commit, its commit may be applied while the acknowledgement is lost, or it may be
acknowledged, and only then does the caller learn the outcome. `retrySystem` is the interleaving
of any number of such callers on one state.
-/

namespace DBOSModel.Relational

/-- How a transaction body ends. -/
inductive Ending (σ ε β : Type) where
  /-- Normal exit: the writes are committed. -/
  | returned (value : β) (state : σ)
  /-- An exception: the writes are rolled back. -/
  | raised (error : ε)
  /-- An explicit commit followed by an exception. -/
  | raisedAfterCommit (error : ε) (state : σ)

namespace Ending

variable {σ ε β : Type}

/-- What the caller sees. -/
def result : Ending σ ε β → Except ε β
  | returned value _ => .ok value
  | raised error => .error error
  | raisedAfterCommit error _ => .error error

/-- The database afterwards, when the transaction began in `before`. -/
def stateAfter (before : σ) : Ending σ ε β → σ
  | returned _ state => state
  | raised _ => before
  | raisedAfterCommit _ state => state

/-- The transaction reached a commit. -/
def Commits : Ending σ ε β → Prop
  | returned _ _ => True
  | raised _ => False
  | raisedAfterCommit _ _ => True

/-- A body without explicit commits. -/
def ofExcept : Except ε (β × σ) → Ending σ ε β
  | .ok (value, state) => returned value state
  | .error error => raised error

@[simp]
theorem result_returned (value : β) (state : σ) :
    (returned value state : Ending σ ε β).result = .ok value := rfl

@[simp]
theorem result_raised (error : ε) : (raised error : Ending σ ε β).result = .error error := rfl

@[simp]
theorem result_raisedAfterCommit (error : ε) (state : σ) :
    (raisedAfterCommit error state : Ending σ ε β).result = .error error := rfl

@[simp]
theorem stateAfter_returned (before state : σ) (value : β) :
    (returned value state : Ending σ ε β).stateAfter before = state := rfl

@[simp]
theorem stateAfter_raised (before : σ) (error : ε) :
    (raised error : Ending σ ε β).stateAfter before = before := rfl

@[simp]
theorem stateAfter_raisedAfterCommit (before state : σ) (error : ε) :
    (raisedAfterCommit error state : Ending σ ε β).stateAfter before = state := rfl

@[simp]
theorem ofExcept_ok (value : β) (state : σ) :
    ofExcept (.ok (value, state) : Except ε (β × σ)) = returned value state := rfl

@[simp]
theorem ofExcept_error (error : ε) :
    ofExcept (.error error : Except ε (β × σ)) = raised error := rfl

theorem ofExcept_eq_returned {outcome : Except ε (β × σ)} {value : β} {state : σ} :
    ofExcept outcome = returned value state ↔ outcome = .ok (value, state) := by
  match outcome with
  | .ok (value', state') => simp
  | .error _ => simp

/-- A body without explicit commits that commits has returned. -/
theorem commits_ofExcept {outcome : Except ε (β × σ)} (h : (ofExcept outcome).Commits) :
    ∃ value state, outcome = .ok (value, state) := by
  match outcome with
  | .ok (value, state) => exact ⟨value, state, rfl⟩
  | .error _ => exact absurd h id

/-- The database after a body without explicit commits is the old one or the returned one. -/
theorem stateAfter_ofExcept {P : σ → Prop} {outcome : Except ε (β × σ)} {before : σ}
    (hraised : P before) (hreturned : ∀ value state, outcome = .ok (value, state) → P state) :
    P ((ofExcept outcome).stateAfter before) := by
  match outcome with
  | .ok (value, state) => exact hreturned value state rfl
  | .error _ => exact hraised

end Ending

/-- A sequence of fallible steps succeeds exactly if both parts do. -/
theorem bind_eq_ok {ε α β : Type} {first : Except ε α} {next : α → Except ε β} {b : β} :
    (first >>= next) = .ok b ↔ ∃ a, first = .ok a ∧ next a = .ok b := by
  cases first with
  | error error => simp [bind, Except.bind]
  | ok a => simp [bind, Except.bind]

theorem map_eq_ok {ε α β : Type} {first : Except ε α} {f : α → β} {b : β} :
    first.map f = .ok b ↔ ∃ a, first = .ok a ∧ f a = b := by
  cases first with
  | error error => simp [Except.map]
  | ok a => simp [Except.map]

theorem mapError_eq_ok {ε ε' α : Type} {outcome : Except ε α} {f : ε → ε'} {a : α} :
    outcome.mapError f = .ok a ↔ outcome = .ok a := by
  cases outcome with
  | error error => simp [Except.mapError]
  | ok a => simp [Except.mapError]

/-- A fallible map that succeeds relates the two lists element by element. -/
theorem forall₂_of_mapM {ε α β : Type} {f : α → Except ε β} {inputs : List α} {outputs : List β}
    (h : inputs.mapM f = .ok outputs) : List.Forall₂ (fun a b ↦ f a = .ok b) inputs outputs := by
  induction inputs generalizing outputs with
  | nil =>
    cases h
    exact .nil
  | cons first rest ih =>
    rw [List.mapM_cons] at h
    obtain ⟨b, hb, hrest⟩ := bind_eq_ok.mp h
    obtain ⟨bs, hbs, hpure⟩ := bind_eq_ok.mp hrest
    cases hpure
    exact .cons hb (ih hbs)

/-! ## Callers that retry -/

/-- The fate of one attempt of a retried transaction. -/
inductive Fate where
  /-- A retriable failure before the commit: no effect. -/
  | failed
  /-- The commit was applied and its acknowledgement lost. -/
  | unacknowledged
  /-- The outcome reaches the caller. -/
  | acknowledged
deriving DecidableEq

/-- The state and what each caller has been told so far. -/
structure RetryState (ι σ ε β : Type) where
  state : σ
  told : ι → Option (Except ε β)

/-- One attempt: the caller, the readings of that attempt (clocks, generated names), its fate. -/
structure Attempt (ι τ : Type) where
  caller : ι
  reading : τ
  fate : Fate

variable {ι σ ε β τ : Type} [DecidableEq ι]

/-- Any number of callers, each running its body until an attempt is acknowledged. -/
def retrySystem (body : ι → τ → σ → Ending σ ε β) :
    System (RetryState ι σ ε β) (Attempt ι τ) where
  step s a :=
    if (s.told a.caller).isSome then none
    else
      let ending := body a.caller a.reading s.state
      match a.fate with
      | .failed => some s
      | .unacknowledged => some { s with state := ending.stateAfter s.state }
      | .acknowledged => some
          { state := ending.stateAfter s.state
            told := Function.update s.told a.caller (some ending.result) }

/-- What one attempt can do. -/
theorem retrySystem_step {body : ι → τ → σ → Ending σ ε β} {s s' : RetryState ι σ ε β}
    {a : Attempt ι τ} (h : (retrySystem body).step s a = some s') :
    s.told a.caller = none ∧
      (s' = s ∨
        s' = { s with state := (body a.caller a.reading s.state).stateAfter s.state } ∨
        s' = { state := (body a.caller a.reading s.state).stateAfter s.state
               told := Function.update s.told a.caller
                 (some (body a.caller a.reading s.state).result) }) := by
  obtain ⟨caller, reading, fate⟩ := a
  simp only [retrySystem] at h
  split at h
  · cases h
  · rename_i hnone
    refine ⟨by simpa using hnone, ?_⟩
    cases fate with
    | failed =>
      cases h
      exact Or.inl rfl
    | unacknowledged =>
      cases h
      exact Or.inr (Or.inl rfl)
    | acknowledged =>
      cases h
      exact Or.inr (Or.inr rfl)

end DBOSModel.Relational

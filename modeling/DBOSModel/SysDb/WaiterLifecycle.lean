import DBOSModel.SysDb.Waiters
import Mathlib.Algebra.GroupWithZero.Nat

/-!
# The life of a waiter

A synchronous `recv` or `get_event` runs its set-up inline, waits, and removes its registration in
a `finally`. An asynchronous one runs the set-up in a worker thread, which a cancellation does not
stop: `_run_event_setup_async` then waits for the thread and undoes its registration, and leaves
that to a done-callback of the set-up task if it is cancelled again. The set-up task is shielded from
the cancellation of its coroutine, but not from the end of its event loop, which cancels every task:
`unregister` then finds a cancelled task and returns, while the thread may still register.

`lifecycleSystem` has every point at which a set-up, its task or a coroutine can fail or be
cancelled. It refines `waiterSystem`, whose maps count the registered calls (`Consistent`), so that
the counts hold here for the calls that are registered at each of these points. An entry is left
behind exactly by a set-up that ends with its registration for a task that is cancelled.
-/

namespace DBOSModel.SysDb

open Relational

/-- How `recv_setup` or `get_event_setup` ended. -/
inductive SetupOutcome where
  /-- `(True, result)`. -/
  | recorded
  /-- `(False, event, …)`. -/
  | mustWait (event : ℕ)
  /-- An exception, which is `DBOSWorkflowConflictIDError` or another one. -/
  | raised (conflict : Bool)
deriving DecidableEq

/-- The set-up leaves its registration to the caller. -/
def SetupOutcome.isRegistered : SetupOutcome → Bool
  | mustWait _ => true
  | _ => false

/-- Where the set-up is. -/
inductive SetupPhase where
  /-- Before `set`, in the first attempt or a later one. -/
  | before
  /-- A `recv` that found an entry; its `pop` is outstanding. -/
  | conflicting
  /-- In the `try` after `set`. -/
  | registered (event : ℕ)
  /-- The thread has finished. The event loop does not know it yet. -/
  | finished (outcome : SetupOutcome)
  /-- `setup_task.done()`, or back in the caller. -/
  | done (outcome : SetupOutcome)
deriving DecidableEq

/-- The set-up has registered, and nothing has undone it. -/
def SetupPhase.isRegistered : SetupPhase → Bool
  | before => false
  | conflicting => true
  | registered _ => true
  | finished outcome => outcome.isRegistered
  | done outcome => outcome.isRegistered

/-- What follows on the answer of `set`. Only `recv` insists on having stored its own event. -/
def SetupPhase.afterSet (kind : WaitKind) (success : Bool) (event : ℕ) : SetupPhase :=
  match kind, success with
  | .recv, false => .conflicting
  | _, _ => .registered event

/-- The event that the set-up has registered on. -/
def SetupPhase.event : SetupPhase → Option ℕ
  | registered event => some event
  | finished (.mustWait event) => some event
  | done (.mustWait event) => some event
  | _ => none

def SetupPhase.threadFinished : SetupPhase → Bool
  | finished _ => true
  | done _ => true
  | _ => false

/-- `setup_task.done()`. -/
def SetupPhase.isDone : SetupPhase → Bool
  | done _ => true
  | _ => false

/-- Where a call is. -/
inductive CallPhase where
  /-- The set-up runs inline, or the coroutine is at its first `await` of the set-up task. -/
  | settingUp (setup : SetupPhase)
  /-- Cancelled there: the coroutine is at its second `await` of the set-up task. -/
  | cancelled (setup : SetupPhase)
  /-- Cancelled again: the coroutine is over, and `unregister` is a done-callback. -/
  | deferred (setup : SetupPhase)
  /-- The set-up task was cancelled: the coroutine is over, and nobody waits for the thread. -/
  | lost (setup : SetupPhase)
  /-- In the `try` that waits for the event. -/
  | waiting (event : ℕ)
  /-- Nothing is left to run. A `recv` whose set-up met a conflict is told apart. -/
  | ended (conflict : Bool)
deriving DecidableEq

/-- A call of `recv`, `recv_async`, `get_event` or `get_event_async`. -/
structure Call where
  kind : WaitKind
  components : String × String
  isAsync : Bool
  phase : CallPhase := .settingUp .before
  /-- Cancelled twice during its set-up, or once with its task. -/
  abandoned : Bool := false
deriving DecidableEq

namespace Call

def ofRecv (workflowUuid : String) (topic : Option String) (isAsync : Bool) : Call where
  kind := .recv
  components := (workflowUuid, topic.getD nullTopic)
  isAsync := isAsync

def ofGetEvent (targetUuid key : String) (isAsync : Bool) : Call where
  kind := .getEvent
  components := (targetUuid, key)
  isAsync := isAsync

def payload (c : Call) : String := c.components.1 ++ "::" ++ c.components.2

/-- The set-up that runs for the call, in whatever the coroutine does meanwhile. -/
def setup (c : Call) : Option SetupPhase :=
  match c.phase with
  | .settingUp setup => some setup
  | .cancelled setup => some setup
  | .deferred setup => some setup
  | .lost setup => some setup
  | _ => none

def isLost (c : Call) : Bool :=
  match c.phase with
  | .lost _ => true
  | _ => false

/-- The set-up of a call whose set-up task is not done. -/
def task (c : Call) : Option SetupPhase :=
  if c.isAsync && !c.isLost then c.setup.filter fun setup ↦ !setup.isDone else none

/-- The set-up goes on. -/
def withSetup (c : Call) (setup : SetupPhase) : Call :=
  { c with
    phase := match c.phase with
      | .settingUp _ => .settingUp setup
      | .cancelled _ => .cancelled setup
      | .deferred _ => .deferred setup
      | .lost _ => .lost setup
      | phase => phase }

/-- The call, or a set-up left behind by it, is registered in the map. -/
def isRegistered (c : Call) : Bool :=
  match c.phase with
  | .settingUp setup => setup.isRegistered
  | .cancelled setup => setup.isRegistered
  | .deferred setup => setup.isRegistered
  | .lost setup => setup.isRegistered
  | .waiting _ => true
  | .ended _ => false

/-- The call is registered under a key. -/
def isRegisteredOn (kind : WaitKind) (key : String) (c : Call) : Bool :=
  c.kind = kind && c.payload = key && c.isRegistered

/-- The event that the call waits on, or that its set-up has registered on. -/
def event (c : Call) : Option ℕ :=
  match c.phase with
  | .settingUp setup => setup.event
  | .cancelled setup => setup.event
  | .deferred setup => setup.event
  | .lost setup => setup.event
  | .waiting event => some event
  | .ended _ => none

/-- The call and its set-up thread have finished. A done-callback may be outstanding. -/
def threadsFinished (c : Call) : Bool :=
  match c.phase with
  | .deferred setup => setup.threadFinished
  | .lost setup => setup.threadFinished
  | .ended _ => true
  | _ => false

/-- Nothing of the call is left to run. -/
def hasEnded (c : Call) : Bool :=
  match c.phase with
  | .lost setup => setup.threadFinished
  | .ended _ => true
  | _ => false

end Call

structure LifecycleState where
  maps : WaitKind → ThreadSafeEventDict
  calls : List Call
  nextEvent : ℕ

namespace LifecycleState

def initial : LifecycleState := ⟨fun _ _ ↦ none, [], 0⟩

variable (s : LifecycleState) (i : ℕ) (c : Call)

def move (c : Call) : LifecycleState := { s with calls := s.calls.set i c }

/-- The call goes on in another phase after `event_map.pop(payload)`. -/
def pop (phase : CallPhase) : LifecycleState :=
  { s with
    maps := Function.update s.maps c.kind ((s.maps c.kind).pop c.payload)
    calls := s.calls.set i { c with phase := phase } }

/-- The set-up registers. -/
def register : LifecycleState :=
  let ((success, event), dict) := (s.maps c.kind).set c.payload s.nextEvent c.components
  { maps := Function.update s.maps c.kind dict
    calls := s.calls.set i (c.withSetup (.afterSet c.kind success event))
    nextEvent := s.nextEvent + 1 }

/-- `unregister(setup_task)`, after which nothing of the call is left. -/
def unregister (outcome : SetupOutcome) : LifecycleState :=
  match outcome with
  | .recorded => s.move i { c with phase := .ended false }
  | .mustWait _ => s.pop i c (.ended false)
  | .raised conflict => s.move i { c with phase := .ended conflict }

end LifecycleState

inductive LifecycleAction where
  | recv (workflowUuid : String) (topic : Option String) (isAsync : Bool)
  | getEvent (targetUuid key : String) (isAsync : Bool)
  /-- The set-up returns a recorded result, or raises, before it registers. -/
  | leave (i : ℕ) (recorded : Bool)
  | set (i : ℕ)
  /-- A conflicting `recv` undoes its registration and raises. -/
  | conflict (i : ℕ)
  /-- The set-up fails in its `try`, undoes its registration and raises; `db_retry` may attempt it
  again. -/
  | fail (i : ℕ) (retried : Bool)
  /-- The set-up returns the event to wait on. -/
  | succeed (i : ℕ)
  /-- The set-up task is done, or the inline set-up comes back. -/
  | deliver (i : ℕ)
  /-- The caller goes on with what the set-up returned or raised. -/
  | proceed (i : ℕ)
  /-- The wait ends: the call returns or raises, and its `finally` runs. -/
  | finish (i : ℕ)
  /-- The coroutine is cancelled, wherever it is. -/
  | cancel (i : ℕ)
  /-- The event loop ends and cancels the set-up task. A thread that has started goes on. -/
  | cancelTask (i : ℕ) (started : Bool)
  /-- A cancelled coroutine has waited for its set-up task. -/
  | unregister (i : ℕ)
  /-- The done-callback of a set-up task. -/
  | callback (i : ℕ)
deriving DecidableEq

/-- The steps of the set-up that runs for a call. -/
def setupStep (s : LifecycleState) (i : ℕ) (c : Call) (setup : SetupPhase) :
    LifecycleAction → Option LifecycleState
  | .leave _ recorded =>
    match setup with
    | .before =>
      some (s.move i (c.withSetup (.finished (if recorded then .recorded else .raised false))))
    | _ => none
  | .set _ =>
    match setup with
    | .before => some (s.register i c)
    | _ => none
  | .conflict _ =>
    match setup with
    | .conflicting => some (s.pop i c (c.withSetup (.finished (.raised true))).phase)
    | _ => none
  | .fail _ retried =>
    match setup with
    | .registered _ =>
      some (s.pop i c
        (c.withSetup (if retried then .before else .finished (.raised false))).phase)
    | _ => none
  | .succeed _ =>
    match setup with
    | .registered event => some (s.move i (c.withSetup (.finished (.mustWait event))))
    | _ => none
  | .deliver _ =>
    match setup with
    | .finished outcome =>
      if c.isLost then none else some (s.move i (c.withSetup (.done outcome)))
    | _ => none
  | _ => none

/-- The steps of the caller or coroutine, and of the event loop. -/
def callStep (s : LifecycleState) (i : ℕ) (c : Call) : LifecycleAction → Option LifecycleState
  | .proceed _ =>
    match c.phase with
    | .settingUp (.done .recorded) => some (s.move i { c with phase := .ended false })
    | .settingUp (.done (.mustWait event)) => some (s.move i { c with phase := .waiting event })
    | .settingUp (.done (.raised conflict)) => some (s.move i { c with phase := .ended conflict })
    | _ => none
  | .finish _ =>
    match c.phase with
    | .waiting _ => some (s.pop i c (.ended false))
    | _ => none
  | .cancel _ =>
    if c.isAsync then
      match c.phase with
      | .settingUp setup => some (s.move i { c with phase := .cancelled setup })
      -- The second `CancelledError` arrives with the task already done.
      | .cancelled (.done outcome) => some (s.unregister i c outcome)
      | .cancelled setup => some (s.move i { c with phase := .deferred setup, abandoned := true })
      | .waiting _ => some (s.pop i c (.ended false))
      | _ => none
    else none
  | .cancelTask _ started =>
    match c.task with
    | some setup =>
      if setup = .before ∧ started = false then some (s.move i { c with phase := .ended false })
      -- The coroutine ends too: `unregister` returns on a cancelled task.
      else some (s.move i { c with phase := .lost setup, abandoned := true })
    | none => none
  | .unregister _ =>
    match c.phase with
    | .cancelled (.done outcome) => some (s.unregister i c outcome)
    | _ => none
  | .callback _ =>
    match c.phase with
    | .deferred (.done outcome) => some (s.unregister i c outcome)
    | _ => none
  | _ => none

/-- The call that takes the step. -/
def LifecycleAction.index : LifecycleAction → ℕ
  | recv _ _ _ => 0
  | getEvent _ _ _ => 0
  | leave i _ => i
  | set i => i
  | conflict i => i
  | fail i _ => i
  | succeed i => i
  | deliver i => i
  | proceed i => i
  | finish i => i
  | cancel i => i
  | cancelTask i _ => i
  | unregister i => i
  | callback i => i

/-- Any number of calls of one process, with their threads and callbacks in any order. -/
def lifecycleSystem : System LifecycleState LifecycleAction where
  step s
    | .recv workflowUuid topic isAsync =>
      some { s with calls := s.calls ++ [Call.ofRecv workflowUuid topic isAsync] }
    | .getEvent targetUuid key isAsync =>
      some { s with calls := s.calls ++ [Call.ofGetEvent targetUuid key isAsync] }
    | action =>
      s.calls[action.index]?.bind fun c ↦
        (c.setup.bind fun setup ↦ setupStep s action.index c setup action) <|>
          callStep s action.index c action

/-! ## Refinement of `waiterSystem` -/

def SetupOutcome.toWaiterPhase : SetupOutcome → WaiterPhase
  | recorded => .finished
  | mustWait event => .waiting event
  | raised true => .conflict
  | raised false => .finished

def SetupPhase.toWaiterPhase : SetupPhase → WaiterPhase
  | before => .starting
  | conflicting => .undoing
  | registered event => .waiting event
  | finished outcome => outcome.toWaiterPhase
  | done outcome => outcome.toWaiterPhase

def CallPhase.toWaiterPhase : CallPhase → WaiterPhase
  | settingUp setup => setup.toWaiterPhase
  | cancelled setup => setup.toWaiterPhase
  | deferred setup => setup.toWaiterPhase
  | lost setup => setup.toWaiterPhase
  | waiting event => .waiting event
  | ended true => .conflict
  | ended false => .finished

/-- The call without its threads. -/
def Call.toWaiter (c : Call) : Waiter where
  kind := c.kind
  components := c.components
  phase := c.phase.toWaiterPhase
  abandoned := c.abandoned

def LifecycleState.toWaiterState (s : LifecycleState) : WaiterState where
  maps := s.maps
  waiters := s.calls.map Call.toWaiter
  nextEvent := s.nextEvent

/-- A step of `waiterSystem`, or nothing that it shows. -/
def Refines (s s' : LifecycleState) : Prop :=
  s'.toWaiterState = s.toWaiterState ∨
    ∃ action, waiterSystem.step s.toWaiterState action = some s'.toWaiterState

theorem SetupPhase.toWaiterPhase_afterSet (kind : WaitKind) (success : Bool) (event : ℕ) :
    (afterSet kind success event).toWaiterPhase =
      WaiterState.phaseAfterSet kind success event := by
  cases kind <;> cases success <;> rfl

theorem Waiter.isCounted_of_outcome {w : Waiter} {outcome : SetupOutcome}
    (h : w.phase = outcome.toWaiterPhase) : w.isCounted = outcome.isRegistered := by
  unfold isCounted
  rw [h]
  cases outcome with
  | recorded => rfl
  | mustWait event => rfl
  | raised conflict => cases conflict <;> rfl

theorem Waiter.isCounted_of_setup {w : Waiter} {setup : SetupPhase}
    (h : w.phase = setup.toWaiterPhase) : w.isCounted = setup.isRegistered := by
  cases setup with
  | before => simp [isCounted, h, SetupPhase.toWaiterPhase, SetupPhase.isRegistered]
  | conflicting => simp [isCounted, h, SetupPhase.toWaiterPhase, SetupPhase.isRegistered]
  | registered event => simp [isCounted, h, SetupPhase.toWaiterPhase, SetupPhase.isRegistered]
  | finished outcome => exact isCounted_of_outcome h
  | done outcome => exact isCounted_of_outcome h

namespace Call

variable {c c' : Call} {setup setup' : SetupPhase}

theorem setup_eq_some (h : c.setup = some setup) :
    c.phase = .settingUp setup ∨ c.phase = .cancelled setup ∨ c.phase = .deferred setup ∨
      c.phase = .lost setup := by
  unfold Call.setup at h
  cases hphase : c.phase with
  | settingUp other =>
    rw [hphase] at h
    cases h
    exact Or.inl rfl
  | cancelled other =>
    rw [hphase] at h
    cases h
    exact Or.inr (Or.inl rfl)
  | deferred other =>
    rw [hphase] at h
    cases h
    exact Or.inr (Or.inr (Or.inl rfl))
  | lost other =>
    rw [hphase] at h
    cases h
    exact Or.inr (Or.inr (Or.inr rfl))
  | waiting event => simp [hphase] at h
  | ended conflict => simp [hphase] at h

theorem toWaiter_phase (h : c.setup = some setup) :
    c.toWaiter.phase = setup.toWaiterPhase := by
  rcases setup_eq_some h with hphase | hphase | hphase | hphase <;>
    simp [toWaiter, hphase, CallPhase.toWaiterPhase]

theorem toWaiter_withSetup (h : c.setup = some setup) :
    (c.withSetup setup').toWaiter = { c.toWaiter with phase := setup'.toWaiterPhase } := by
  rcases setup_eq_some h with hphase | hphase | hphase | hphase <;>
    simp [toWaiter, withSetup, hphase, CallPhase.toWaiterPhase]

@[simp]
theorem isCounted_toWaiter (c : Call) : c.toWaiter.isCounted = c.isRegistered := by
  have hphase : c.toWaiter.phase = c.phase.toWaiterPhase := rfl
  unfold isRegistered
  cases hcall : c.phase with
  | settingUp setup => exact Waiter.isCounted_of_setup (by rw [hphase, hcall]; rfl)
  | cancelled setup => exact Waiter.isCounted_of_setup (by rw [hphase, hcall]; rfl)
  | deferred setup => exact Waiter.isCounted_of_setup (by rw [hphase, hcall]; rfl)
  | lost setup => exact Waiter.isCounted_of_setup (by rw [hphase, hcall]; rfl)
  | waiting event => simp [Waiter.isCounted, hphase, hcall, CallPhase.toWaiterPhase]
  | ended conflict =>
    cases conflict <;> simp [Waiter.isCounted, hphase, hcall, CallPhase.toWaiterPhase]

theorem toWaiter_phase_of_event {event : ℕ} (h : c.event = some event) :
    c.toWaiter.phase = .waiting event := by
  have hsetup : ∀ setup : SetupPhase, setup.event = some event →
      setup.toWaiterPhase = .waiting event := by
    intro setup hevent
    unfold SetupPhase.event at hevent
    split at hevent <;> cases hevent <;> rfl
  change c.phase.toWaiterPhase = .waiting event
  unfold Call.event at h
  cases hphase : c.phase with
  | settingUp setup => exact hsetup setup (by rw [hphase] at h; exact h)
  | cancelled setup => exact hsetup setup (by rw [hphase] at h; exact h)
  | deferred setup => exact hsetup setup (by rw [hphase] at h; exact h)
  | lost setup => exact hsetup setup (by rw [hphase] at h; exact h)
  | waiting other =>
    rw [hphase] at h
    cases h
    rfl
  | ended conflict => simp [hphase] at h

/-- A task that is not done has its set-up. -/
theorem task_eq_some (h : c.task = some setup) :
    c.setup = some setup ∧ setup.isDone = false ∧ c.isLost = false := by
  unfold task at h
  split at h
  · rename_i hguard
    rw [Bool.and_eq_true, Bool.not_eq_true'] at hguard
    obtain ⟨hsetup, hdone⟩ := Option.filter_eq_some_iff.mp h
    rw [Bool.not_eq_true'] at hdone
    exact ⟨hsetup, hdone, hguard.2⟩
  · cases h

theorem holds_toWaiter (kind : WaitKind) (key : String) (c : Call) :
    c.toWaiter.holds kind key = c.isRegisteredOn kind key := by
  unfold Waiter.holds isRegisteredOn
  rw [isCounted_toWaiter]
  rfl

end Call

section Refinement

variable {s s' : LifecycleState} {i : ℕ} {c c' : Call} {setup : SetupPhase} {phase : CallPhase}

theorem getElem_toWaiterState (hget : s.calls[i]? = some c) :
    s.toWaiterState.waiters[i]? = some c.toWaiter := by
  change (s.calls.map Call.toWaiter)[i]? = some c.toWaiter
  rw [List.getElem?_map, hget]
  rfl

theorem toWaiterState_move :
    (s.move i c').toWaiterState = s.toWaiterState.move i c'.toWaiter := by
  simp [LifecycleState.toWaiterState, LifecycleState.move, WaiterState.move, List.map_set]

theorem toWaiterState_pop :
    (s.pop i c phase).toWaiterState =
      s.toWaiterState.unregister i c.toWaiter phase.toWaiterPhase := by
  simp [LifecycleState.toWaiterState, LifecycleState.pop, WaiterState.unregister,
    WaiterState.setMap, WaiterState.move, List.map_set, Call.toWaiter, Call.payload,
    Waiter.payload]

theorem toWaiterState_register (hsetup : c.setup = some setup) :
    (s.register i c).toWaiterState = s.toWaiterState.register i c.toWaiter := by
  let answer := (s.maps c.kind).set c.payload s.nextEvent c.components
  have hcall : (c.withSetup (.afterSet c.kind answer.1.1 answer.1.2)).toWaiter =
      s.toWaiterState.registered c.toWaiter := by
    rw [Call.toWaiter_withSetup hsetup, SetupPhase.toWaiterPhase_afterSet]
    rfl
  change LifecycleState.toWaiterState ⟨Function.update s.maps c.kind answer.2,
    s.calls.set i (c.withSetup (.afterSet c.kind answer.1.1 answer.1.2)), s.nextEvent + 1⟩ = _
  unfold LifecycleState.toWaiterState
  rw [List.map_set, hcall]
  rfl

theorem Refines.of_toWaiter_eq (hget : s.calls[i]? = some c) (hsame : c'.toWaiter = c.toWaiter) :
    Refines s (s.move i c') := by
  refine Or.inl ?_
  obtain ⟨hi, hc⟩ := List.getElem?_eq_some_iff.mp (getElem_toWaiterState hget)
  rw [toWaiterState_move, hsame, ← hc]
  simp [WaiterState.move]

theorem Refines.leave (hget : s.calls[i]? = some c) (hphase : c.toWaiter.phase = .starting)
    (hleft : c'.toWaiter = { c.toWaiter with phase := .finished }) :
    Refines s (s.move i c') := by
  refine Or.inr ⟨.leave i, ?_⟩
  rw [toWaiterState_move, hleft]
  simp [waiterSystem, getElem_toWaiterState hget, hphase]

theorem Refines.abandon (hget : s.calls[i]? = some c)
    (habandoned : c'.toWaiter = { c.toWaiter with abandoned := true }) :
    Refines s (s.move i c') := by
  refine Or.inr ⟨.abandon i, ?_⟩
  rw [toWaiterState_move, habandoned]
  simp [waiterSystem, getElem_toWaiterState hget]

theorem Refines.set (hget : s.calls[i]? = some c) (hsetup : c.setup = some .before) :
    Refines s (s.register i c) := by
  have hphase : c.toWaiter.phase = .starting := Call.toWaiter_phase hsetup
  refine Or.inr ⟨.set i, ?_⟩
  rw [toWaiterState_register hsetup]
  simp [waiterSystem, getElem_toWaiterState hget, hphase]

/-- A `pop` after which the call is over. -/
theorem Refines.pop (hget : s.calls[i]? = some c)
    (hphase : c.toWaiter.phase = .undoing ∧ phase.toWaiterPhase = .conflict ∨
      ∃ event, c.toWaiter.phase = .waiting event ∧ phase.toWaiterPhase = .finished) :
    Refines s (s.pop i c phase) := by
  refine Or.inr ⟨.pop i, ?_⟩
  rw [toWaiterState_pop]
  rcases hphase with ⟨hbefore, hafter⟩ | ⟨event, hbefore, hafter⟩
  · simp [waiterSystem, getElem_toWaiterState hget, hbefore, hafter]
  · simp [waiterSystem, getElem_toWaiterState hget, hbefore, hafter]

theorem Refines.retry {event : ℕ} (hget : s.calls[i]? = some c)
    (hbefore : c.toWaiter.phase = .waiting event) (hafter : phase.toWaiterPhase = .starting) :
    Refines s (s.pop i c phase) := by
  refine Or.inr ⟨.retry i, ?_⟩
  rw [toWaiterState_pop]
  simp [waiterSystem, getElem_toWaiterState hget, Waiter.isWaiting_of_phase hbefore, hafter]

/-- `unregister` pops the registration that a set-up left to its caller, and no other. -/
theorem Refines.unregister {outcome : SetupOutcome} (hget : s.calls[i]? = some c)
    (hphase : c.toWaiter.phase = outcome.toWaiterPhase) :
    Refines s (s.unregister i c outcome) := by
  have hended : ∀ conflict : Bool,
      (CallPhase.ended conflict).toWaiterPhase = c.toWaiter.phase →
        Refines s (s.move i { c with phase := .ended conflict }) := by
    intro conflict hsame
    apply Refines.of_toWaiter_eq hget
    change ({ c.toWaiter with phase := (CallPhase.ended conflict).toWaiterPhase } : Waiter) = _
    rw [hsame]
  cases outcome with
  | recorded => exact hended false hphase.symm
  | mustWait event => exact Refines.pop hget (Or.inr ⟨event, hphase, rfl⟩)
  | raised conflict =>
    refine hended conflict (Eq.trans ?_ hphase.symm)
    cases conflict <;> rfl

theorem Refines.of_setupStep {action : LifecycleAction} (hget : s.calls[i]? = some c)
    (hsetup : c.setup = some setup) (hstep : setupStep s i c setup action = some s') :
    Refines s s' := by
  have hphase := Call.toWaiter_phase hsetup
  have hafter : ∀ setup', (c.withSetup setup').phase.toWaiterPhase = setup'.toWaiterPhase :=
    fun _ ↦ congrArg Waiter.phase (Call.toWaiter_withSetup hsetup)
  have hsame : ∀ setup', setup'.toWaiterPhase = setup.toWaiterPhase →
      Refines s (s.move i (c.withSetup setup')) := by
    intro setup' hsame
    apply Refines.of_toWaiter_eq hget
    rw [Call.toWaiter_withSetup hsetup, hsame, ← hphase]
  cases action with
  | leave j recorded =>
    cases setup with
    | before =>
      cases hstep
      apply Refines.leave hget hphase
      rw [Call.toWaiter_withSetup hsetup]
      cases recorded <;> rfl
    | _ => cases hstep
  | set j =>
    cases setup with
    | before =>
      cases hstep
      exact Refines.set hget hsetup
    | _ => cases hstep
  | conflict j =>
    cases setup with
    | conflicting =>
      cases hstep
      exact Refines.pop hget (Or.inl ⟨hphase, hafter _⟩)
    | _ => cases hstep
  | fail j retried =>
    cases setup with
    | registered event =>
      cases hstep
      cases retried with
      | true => exact Refines.retry hget hphase (hafter _)
      | false => exact Refines.pop hget (Or.inr ⟨event, hphase, hafter _⟩)
    | _ => cases hstep
  | succeed j =>
    cases setup with
    | registered event =>
      cases hstep
      exact hsame _ rfl
    | _ => cases hstep
  | deliver j =>
    cases setup with
    | finished outcome =>
      simp only [setupStep, Option.ite_none_left_eq_some, Option.some.injEq] at hstep
      obtain ⟨-, rfl⟩ := hstep
      exact hsame _ rfl
    | _ => cases hstep
  | _ => cases hstep

theorem Refines.of_callStep {action : LifecycleAction} (hget : s.calls[i]? = some c)
    (hstep : callStep s i c action = some s') : Refines s s' := by
  have hsame : ∀ phase : CallPhase, phase.toWaiterPhase = c.phase.toWaiterPhase →
      Refines s (s.move i { c with phase := phase }) := by
    intro phase hphase
    apply Refines.of_toWaiter_eq hget
    unfold Call.toWaiter
    rw [hphase]
  have hunregister : ∀ outcome, c.phase.toWaiterPhase = outcome.toWaiterPhase →
      Refines s (s.unregister i c outcome) := fun _ hdone ↦ Refines.unregister hget hdone
  have hfinish : ∀ event, c.phase = .waiting event → Refines s (s.pop i c (.ended false)) :=
    fun event hwaiting ↦
      Refines.pop hget (Or.inr ⟨event, congrArg CallPhase.toWaiterPhase hwaiting, rfl⟩)
  cases action with
  | proceed j =>
    simp only [callStep] at hstep
    split at hstep
    · rename_i hcall
      cases hstep
      exact hsame _ (by rw [hcall]; rfl)
    · rename_i hcall
      cases hstep
      exact hsame _ (by rw [hcall]; rfl)
    · rename_i conflict hcall
      cases hstep
      apply hsame
      rw [hcall]
      cases conflict <;> rfl
    · cases hstep
  | finish j =>
    simp only [callStep] at hstep
    split at hstep
    · rename_i event hcall
      cases hstep
      exact hfinish event hcall
    · cases hstep
  | cancel j =>
    simp only [callStep] at hstep
    split at hstep
    · split at hstep
      · rename_i hcall
        cases hstep
        exact hsame _ (by rw [hcall]; rfl)
      · rename_i outcome hcall
        cases hstep
        exact hunregister outcome (by rw [hcall]; rfl)
      · rename_i hcall
        cases hstep
        apply Refines.abandon hget
        unfold Call.toWaiter
        rw [hcall]
        rfl
      · rename_i event hcall
        cases hstep
        exact hfinish event hcall
      · cases hstep
    · cases hstep
  | cancelTask j started =>
    simp only [callStep] at hstep
    split at hstep
    · rename_i setup htask
      have hphase := Call.toWaiter_phase (Call.task_eq_some htask).1
      split at hstep
      · rename_i hbefore
        cases hstep
        rw [hbefore.1] at hphase
        exact Refines.leave hget hphase rfl
      · cases hstep
        apply Refines.abandon hget
        change ({ c.toWaiter with phase := setup.toWaiterPhase, abandoned := true } : Waiter) = _
        rw [← hphase]
    · cases hstep
  | unregister j =>
    simp only [callStep] at hstep
    split at hstep
    · rename_i outcome hcall
      cases hstep
      exact hunregister outcome (by rw [hcall]; rfl)
    · cases hstep
  | callback j =>
    simp only [callStep] at hstep
    split at hstep
    · rename_i outcome hcall
      cases hstep
      exact hunregister outcome (by rw [hcall]; rfl)
    · cases hstep
  | _ => cases hstep

/-- What a step can be. -/
theorem lifecycleSystem_step_cases {action : LifecycleAction}
    (hstep : lifecycleSystem.step s action = some s') :
    (∃ w t b, action = .recv w t b ∧ s' = { s with calls := s.calls ++ [Call.ofRecv w t b] }) ∨
    (∃ w k b, action = .getEvent w k b ∧
      s' = { s with calls := s.calls ++ [Call.ofGetEvent w k b] }) ∨
    ∃ c, s.calls[action.index]? = some c ∧
      ((∃ setup, c.setup = some setup ∧ setupStep s action.index c setup action = some s') ∨
        callStep s action.index c action = some s') := by
  have hcall : (s.calls[action.index]?.bind fun c ↦
        (c.setup.bind fun setup ↦ setupStep s action.index c setup action) <|>
          callStep s action.index c action) = some s' →
      ∃ c, s.calls[action.index]? = some c ∧
        ((∃ setup, c.setup = some setup ∧ setupStep s action.index c setup action = some s') ∨
          callStep s action.index c action = some s') := by
    intro h
    rw [Option.bind_eq_some_iff] at h
    obtain ⟨c, hget, hc⟩ := h
    refine ⟨c, hget, ?_⟩
    cases hsetup : c.setup.bind fun setup ↦ setupStep s action.index c setup action with
    | none =>
      rw [hsetup] at hc
      exact Or.inr hc
    | some after =>
      rw [hsetup] at hc
      cases hc
      exact Or.inl (Option.bind_eq_some_iff.mp hsetup)
  cases action with
  | recv w t b =>
    cases hstep
    exact Or.inl ⟨w, t, b, rfl, rfl⟩
  | getEvent w k b =>
    cases hstep
    exact Or.inr (Or.inl ⟨w, k, b, rfl, rfl⟩)
  | _ => exact Or.inr (Or.inr (hcall hstep))

theorem lifecycleSystem_refines {action : LifecycleAction}
    (hstep : lifecycleSystem.step s action = some s') : Refines s s' := by
  rcases lifecycleSystem_step_cases hstep with ⟨w, t, b, -, rfl⟩ | ⟨w, k, b, -, rfl⟩ |
    ⟨c, hget, ⟨setup, hsetup, hcall⟩ | hcall⟩
  · refine Or.inr ⟨.recv w t, ?_⟩
    simp only [waiterSystem, LifecycleState.toWaiterState, List.map_append]
    rfl
  · refine Or.inr ⟨.getEvent w k, ?_⟩
    simp only [waiterSystem, LifecycleState.toWaiterState, List.map_append]
    rfl
  · exact Refines.of_setupStep hget hsetup hcall
  · exact Refines.of_callStep hget hcall

/-- The maps count the calls in every state of every run. -/
theorem consistent_toWaiterState (h : lifecycleSystem.Reaches .initial s) :
    Consistent s.toWaiterState := by
  have hreaches : waiterSystem.Reaches WaiterState.initial s.toWaiterState :=
    lifecycleSystem.reaches_of_refines LifecycleState.toWaiterState
      (fun _ _ _ ↦ lifecycleSystem_refines) h
  exact waiterSystem.reaches_invariant (fun _ _ _ ↦ consistent_step) consistent_initial hreaches

end Refinement

/-! ## What is left when the threads have finished -/

/-- A step of the event loop alone. -/
def LifecycleAction.isEventLoop : LifecycleAction → Bool
  | deliver _ => true
  | callback _ => true
  | _ => false

/-- The steps that the event loop still has to take for a call whose threads have finished. -/
def Call.outstanding (c : Call) : ℕ :=
  match c.phase with
  | .deferred (.finished _) => 2
  | .deferred (.done _) => 1
  | _ => 0

section Finishing

variable {s : LifecycleState} {i : ℕ} {c c' : Call}

theorem sum_map_set_lt {calls : List Call} (hget : calls[i]? = some c)
    (hlt : c'.outstanding < c.outstanding) :
    ((calls.set i c').map Call.outstanding).sum < (calls.map Call.outstanding).sum := by
  induction calls generalizing i with
  | nil => simp at hget
  | cons head rest ih =>
    cases i with
    | zero =>
      simp only [List.getElem?_cons_zero, Option.some.injEq] at hget
      simp only [List.set_cons_zero, List.map_cons, List.sum_cons, hget]
      omega
    | succ i =>
      rw [List.getElem?_cons_succ] at hget
      have hrest := ih hget
      simp only [List.set_cons_succ, List.map_cons, List.sum_cons]
      omega

theorem unregister_calls (outcome : SetupOutcome) :
    ∃ conflict, (s.unregister i c outcome).calls =
      s.calls.set i { c with phase := .ended conflict } := by
  cases outcome with
  | recorded => exact ⟨false, rfl⟩
  | mustWait event => exact ⟨false, rfl⟩
  | raised conflict => exact ⟨conflict, rfl⟩

/-- A call whose threads have finished has ended, or the event loop can take a step for it. -/
theorem exists_eventLoop_step (hget : s.calls[i]? = some c) (hfinished : c.threadsFinished)
    (hended : ¬ c.hasEnded) :
    ∃ action s' c', action.isEventLoop ∧ lifecycleSystem.step s action = some s' ∧
      s'.calls = s.calls.set i c' ∧ c'.threadsFinished ∧ c'.outstanding < c.outstanding := by
  unfold Call.threadsFinished at hfinished
  split at hfinished
  · rename_i setup hphase
    unfold SetupPhase.threadFinished at hfinished
    split at hfinished
    · rename_i outcome
      refine ⟨.deliver i, s.move i (c.withSetup (.done outcome)), _, rfl, ?_, rfl, ?_, ?_⟩
      · simp [lifecycleSystem, LifecycleAction.index, hget, Call.setup, hphase, setupStep,
          Call.isLost]
      · simp [Call.threadsFinished, Call.withSetup, hphase, SetupPhase.threadFinished]
      · simp [Call.outstanding, Call.withSetup, hphase]
    · rename_i outcome
      obtain ⟨conflict, hcalls⟩ := unregister_calls (s := s) (i := i) (c := c) outcome
      refine ⟨.callback i, s.unregister i c outcome, _, rfl, ?_, hcalls, rfl, ?_⟩
      · simp [lifecycleSystem, LifecycleAction.index, hget, Call.setup, hphase, setupStep,
          callStep]
      · simp [Call.outstanding, hphase]
    · cases hfinished
  · rename_i setup hphase
    simp [Call.hasEnded, hphase, hfinished] at hended
  · rename_i conflict hphase
    simp [Call.hasEnded, hphase] at hended
  · cases hfinished

/-- When the threads have finished, the event loop can end every call by itself. -/
theorem exists_eventLoop_run (hfinished : ∀ c ∈ s.calls, c.threadsFinished) :
    ∃ callbacks s', (∀ a ∈ callbacks, a.isEventLoop) ∧
      lifecycleSystem.run s callbacks = some s' ∧ ∀ c ∈ s'.calls, c.hasEnded := by
  have hprogress : ∀ s : LifecycleState, (∀ c ∈ s.calls, c.threadsFinished) →
      ¬ (∀ c ∈ s.calls, c.hasEnded) →
        ∃ a s', a.isEventLoop = true ∧ lifecycleSystem.step s a = some s' ∧
          (∀ c ∈ s'.calls, c.threadsFinished) ∧
            (s'.calls.map Call.outstanding).sum < (s.calls.map Call.outstanding).sum := by
    intro s hfinished hnot
    push Not at hnot
    obtain ⟨c, hc, hended⟩ := hnot
    obtain ⟨i, hget⟩ := List.getElem?_of_mem hc
    obtain ⟨action, s', c', hloop, hstep, hcalls, hc', hlt⟩ :=
      exists_eventLoop_step hget (hfinished c hc) hended
    refine ⟨action, s', hloop, hstep, ?_, ?_⟩
    · intro other hother
      rw [hcalls] at hother
      rcases List.mem_or_eq_of_mem_set hother with hold | rfl
      · exact hfinished other hold
      · exact hc'
    · rw [hcalls]
      exact sum_map_set_lt hget hlt
  obtain ⟨callbacks, s', halong, hrun, -, hended⟩ :=
    lifecycleSystem.exists_run_of_rank (fun s ↦ ∀ c ∈ s.calls, c.threadsFinished)
      (fun s ↦ ∀ c ∈ s.calls, c.hasEnded) (fun _ a ↦ a.isEventLoop = true)
      (fun s ↦ (s.calls.map Call.outstanding).sum) hprogress hfinished
  rw [System.along_action_iff lifecycleSystem hrun] at halong
  exact ⟨callbacks, s', halong, hrun, hended⟩

end Finishing

theorem refs_eq_countP {s : LifecycleState} (h : lifecycleSystem.Reaches .initial s)
    (kind : WaitKind) (key : String) :
    (s.maps kind).refs key = s.calls.countP (Call.isRegisteredOn kind key) := by
  have hcounts := (consistent_toWaiterState h).counts kind key
  rw [show s.toWaiterState.waiters = s.calls.map Call.toWaiter from rfl,
    List.countP_map] at hcounts
  rw [show (s.maps kind).refs key = (s.toWaiterState.maps kind).refs key from rfl, hcounts]
  congr 2
  funext c
  exact Call.holds_toWaiter kind key c

/-! ## Registrations of cancelled tasks -/

/-- A thread has ended with a registration that nobody undoes. -/
def CallPhase.leaks : CallPhase → Bool
  | lost setup => setup.threadFinished && setup.isRegistered
  | _ => false

/-- No registration is left to a cancelled task: no set-up of such a task ends with the event to wait
on, and no task is cancelled between that end and its own. -/
def HandsBack (s : LifecycleState) : LifecycleAction → Prop
  | .succeed i => ∀ c, s.calls[i]? = some c → c.isLost = false
  | .cancelTask i _ => ∀ c event, s.calls[i]? = some c →
      c.setup ≠ some (.finished (.mustWait event))
  | _ => True

section Leaking

variable {s s' : LifecycleState} {i : ℕ} {c : Call} {setup setup' : SetupPhase}
  {action : LifecycleAction}

theorem leaks_withSetup (h : c.isLost = true → setup'.threadFinished = true →
    setup'.isRegistered = false) : (c.withSetup setup').phase.leaks = false := by
  cases hphase : c.phase with
  | lost other =>
    have hlost : c.isLost = true := by rw [Call.isLost, hphase]
    simp only [Call.withSetup, hphase, CallPhase.leaks]
    cases hfinished : setup'.threadFinished with
    | false => rfl
    | true => rw [h hlost hfinished, Bool.and_false]
  | _ => simp [Call.withSetup, hphase, CallPhase.leaks]

theorem threadFinished_afterSet (kind : WaitKind) (success : Bool) (event : ℕ) :
    (SetupPhase.afterSet kind success event).threadFinished = false := by
  cases kind <;> cases success <;> rfl

/-- What a set-up leaves, where it hands its registration back. -/
theorem leaks_setupStep (hget : s.calls[i]? = some c) (hindex : action.index = i)
    (hback : HandsBack s action) (hstep : setupStep s i c setup action = some s') :
    ∃ c', s'.calls = s.calls.set i c' ∧ c'.phase.leaks = false := by
  cases action with
  | leave j recorded =>
    cases setup with
    | before =>
      cases hstep
      refine ⟨_, rfl, leaks_withSetup fun _ _ ↦ ?_⟩
      cases recorded <;> rfl
    | _ => cases hstep
  | set j =>
    cases setup with
    | before =>
      cases hstep
      refine ⟨_, rfl, leaks_withSetup fun _ hfinished ↦ ?_⟩
      rw [threadFinished_afterSet] at hfinished
      cases hfinished
    | _ => cases hstep
  | conflict j =>
    cases setup with
    | conflicting =>
      cases hstep
      exact ⟨_, rfl, leaks_withSetup fun _ _ ↦ rfl⟩
    | _ => cases hstep
  | fail j retried =>
    cases setup with
    | registered event =>
      cases hstep
      refine ⟨_, rfl, leaks_withSetup fun _ _ ↦ ?_⟩
      cases retried <;> rfl
    | _ => cases hstep
  | succeed j =>
    cases setup with
    | registered event =>
      cases hstep
      refine ⟨_, rfl, leaks_withSetup fun hlost _ ↦ ?_⟩
      cases hindex
      rw [hback c hget] at hlost
      cases hlost
    | _ => cases hstep
  | deliver j =>
    cases setup with
    | finished outcome =>
      simp only [setupStep, Option.ite_none_left_eq_some, Option.some.injEq] at hstep
      obtain ⟨hlost, rfl⟩ := hstep
      exact ⟨_, rfl, leaks_withSetup fun htrue ↦ absurd htrue hlost⟩
    | _ => cases hstep
  | _ => cases hstep

theorem leaks_callStep (hget : s.calls[i]? = some c) (hindex : action.index = i)
    (hback : HandsBack s action) (hstep : callStep s i c action = some s') :
    ∃ c', s'.calls = s.calls.set i c' ∧ c'.phase.leaks = false := by
  have hunregister (outcome : SetupOutcome) :
      ∃ c', (s.unregister i c outcome).calls = s.calls.set i c' ∧ c'.phase.leaks = false := by
    obtain ⟨conflict, hcalls⟩ := unregister_calls (s := s) (i := i) (c := c) outcome
    exact ⟨_, hcalls, rfl⟩
  cases action with
  | proceed j =>
    simp only [callStep] at hstep
    split at hstep <;> cases hstep
    all_goals exact ⟨_, rfl, rfl⟩
  | finish j =>
    simp only [callStep] at hstep
    split at hstep <;> cases hstep
    exact ⟨_, rfl, rfl⟩
  | cancel j =>
    simp only [callStep] at hstep
    split at hstep
    · split at hstep <;> cases hstep
      · exact ⟨_, rfl, rfl⟩
      · exact hunregister _
      · exact ⟨_, rfl, rfl⟩
      · exact ⟨_, rfl, rfl⟩
    · cases hstep
  | cancelTask j started =>
    cases hindex
    simp only [callStep] at hstep
    split at hstep
    · rename_i setup htask
      obtain ⟨hsetup, hdone, -⟩ := Call.task_eq_some htask
      split at hstep <;> cases hstep
      · exact ⟨_, rfl, rfl⟩
      · refine ⟨_, rfl, ?_⟩
        have hregistered : setup.threadFinished = true → setup.isRegistered = false := by
          intro hfinished
          cases setup with
          | finished outcome =>
            cases outcome with
            | mustWait event => exact absurd hsetup (hback c event hget)
            | _ => rfl
          | done outcome => cases hdone
          | _ => cases hfinished
        simp only [CallPhase.leaks]
        cases hfinished : setup.threadFinished with
        | false => rfl
        | true => rw [hregistered hfinished, Bool.and_false]
    · cases hstep
  | unregister j =>
    simp only [callStep] at hstep
    split at hstep <;> cases hstep
    exact hunregister _
  | callback j =>
    simp only [callStep] at hstep
    split at hstep <;> cases hstep
    exact hunregister _
  | _ => cases hstep

/-- A step that hands its registration back leaves nothing behind. -/
theorem leaks_step (hs : ∀ c ∈ s.calls, c.phase.leaks = false) (hback : HandsBack s action)
    (hstep : lifecycleSystem.step s action = some s') : ∀ c ∈ s'.calls, c.phase.leaks = false := by
  have hset (h : ∃ c', s'.calls = s.calls.set action.index c' ∧ c'.phase.leaks = false) :
      ∀ c ∈ s'.calls, c.phase.leaks = false := by
    obtain ⟨c', hcalls, hleaks⟩ := h
    intro other hother
    rw [hcalls] at hother
    rcases List.mem_or_eq_of_mem_set hother with hold | rfl
    · exact hs other hold
    · exact hleaks
  rcases lifecycleSystem_step_cases hstep with ⟨w, t, b, -, rfl⟩ | ⟨w, k, b, -, rfl⟩ |
    ⟨c, hget, ⟨setup, -, hcall⟩ | hcall⟩
  · intro other hother
    rcases List.mem_append.mp hother with hold | hnew
    · exact hs other hold
    · rw [List.mem_singleton.mp hnew]
      rfl
  · intro other hother
    rcases List.mem_append.mp hother with hold | hnew
    · exact hs other hold
    · rw [List.mem_singleton.mp hnew]
      rfl
  · exact hset (leaks_setupStep hget rfl hback hcall)
  · exact hset (leaks_callStep hget rfl hback hcall)

theorem leaks_of_handsBack {actions : List LifecycleAction}
    (hback : lifecycleSystem.Along HandsBack .initial actions)
    (hrun : lifecycleSystem.run .initial actions = some s) :
    ∀ c ∈ s.calls, c.phase.leaks = false := by
  have hinitial : ∀ c ∈ LifecycleState.initial.calls, c.phase.leaks = false := by
    intro c hc
    cases hc
  exact lifecycleSystem.run_invariant (fun _ _ _ hs hstep hnext ↦ leaks_step hs hstep hnext)
    hinitial hback hrun

end Leaking

/-- A process in which every call is over and nothing has been left behind has empty maps. -/
theorem maps_eq_none {s : LifecycleState} (h : lifecycleSystem.Reaches .initial s)
    (hleaks : ∀ c ∈ s.calls, c.phase.leaks = false) (hended : ∀ c ∈ s.calls, c.hasEnded)
    (kind : WaitKind) (key : String) : s.maps kind key = none := by
  have hzero : s.calls.countP (Call.isRegisteredOn kind key) = 0 := by
    rw [List.countP_eq_zero]
    intro c hc hregistered
    have hover := hended c hc
    have hleft := hleaks c hc
    unfold Call.hasEnded at hover
    split at hover
    · rename_i setup hphase
      simp [Call.isRegisteredOn, Call.isRegistered, hphase] at hregistered
      simp [CallPhase.leaks, hphase, hover, hregistered.2] at hleft
    · rename_i hphase
      simp [Call.isRegisteredOn, Call.isRegistered, hphase] at hregistered
    · cases hover
  have hrefs := refs_eq_countP h kind key
  cases hentry : s.maps kind key with
  | none => rfl
  | some ec =>
    have hpositive := (consistent_toWaiterState h).positive kind key ec hentry
    simp only [ThreadSafeEventDict.refs, hentry, Option.elim, hzero] at hrefs
    omega

/-- In every run that leaves no registration to a cancelled task, a map counts in every state the
calls that are registered under a string, among them those that the second cancellation left to their
set-up thread; the entry of a registered call is there, with the event the call waits on; and nothing
is left in the maps when every call is over. When only done-callbacks are outstanding, these empty
the maps. -/
theorem waiterLifecycle_counts {actions : List LifecycleAction} {s : LifecycleState}
    (hback : lifecycleSystem.Along HandsBack .initial actions)
    (hrun : lifecycleSystem.run .initial actions = some s) :
    (∀ kind key, (s.maps kind).refs key = s.calls.countP (Call.isRegisteredOn kind key) ∧
      ∀ ec, s.maps kind key = some ec → 0 < ec.count) ∧
    (∀ c ∈ s.calls, ∀ event, c.event = some event →
      ∃ ec, s.maps c.kind c.payload = some ec ∧ ec.event = event) ∧
    ((∀ c ∈ s.calls, c.hasEnded) → ∀ kind key, s.maps kind key = none) ∧
    ((∀ c ∈ s.calls, c.threadsFinished) →
      ∃ callbacks s', (∀ a ∈ callbacks, a.isEventLoop) ∧
        lifecycleSystem.run s callbacks = some s' ∧ (∀ c ∈ s'.calls, c.hasEnded) ∧
          ∀ kind key, s'.maps kind key = none) := by
  have hreaches : lifecycleSystem.Reaches .initial s := ⟨actions, hrun⟩
  have hconsistent := consistent_toWaiterState hreaches
  have hleaks := leaks_of_handsBack hback hrun
  refine ⟨?_, ?_, maps_eq_none hreaches hleaks, ?_⟩
  · intro kind key
    exact ⟨refs_eq_countP hreaches kind key, hconsistent.positive kind key⟩
  · intro c hc event hevent
    exact hconsistent.events c.toWaiter (List.mem_map_of_mem hc) event
      (Call.toWaiter_phase_of_event hevent)
  · intro hfinished
    obtain ⟨callbacks, s', hloop, hcallbacks, hended⟩ := exists_eventLoop_run hfinished
    have hrun' : lifecycleSystem.run .initial (actions ++ callbacks) = some s' := by
      rw [System.run_append, hrun, Option.bind_some, hcallbacks]
    -- the event loop cancels no task, and no thread is left to end
    have hbackLoop : lifecycleSystem.Along HandsBack s callbacks := by
      rw [System.along_iff]
      intro before action after s'' hactions _
      have haction := hloop action (by rw [hactions]; simp)
      cases action with
      | succeed j => cases haction
      | cancelTask j started => cases haction
      | _ => trivial
    have hback' : lifecycleSystem.Along HandsBack .initial (actions ++ callbacks) := by
      rw [System.along_append]
      refine ⟨hback, ?_⟩
      intro s'' hs''
      rw [hrun] at hs''
      cases hs''
      exact hbackLoop
    exact ⟨callbacks, s', hloop, hcallbacks, hended,
      maps_eq_none ⟨_, hrun'⟩ (leaks_of_handsBack hback' hrun') hended⟩

/-- `recv_async` is cancelled twice while its thread is in the `try` after `set`. -/
def recvCancelledTwice : List LifecycleAction :=
  [.recv "w" none true, .set 0, .cancel 0, .cancel 0, .succeed 0]

/-- The finished thread has left an entry, which the done-callback removes. -/
theorem waiterLifecycle_counts_cancelledTwice :
    ∃ s, lifecycleSystem.run .initial recvCancelledTwice = some s ∧
      (s.maps .recv).refs ("w" ++ "::" ++ nullTopic) = 1 ∧
        ∃ callbacks s', (∀ a ∈ callbacks, a.isEventLoop) ∧
          lifecycleSystem.run s callbacks = some s' ∧ (∀ c ∈ s'.calls, c.hasEnded) ∧
            ∀ kind key, s'.maps kind key = none := by
  have hback : lifecycleSystem.Along HandsBack .initial recvCancelledTwice := by
    refine ⟨trivial, ?_⟩
    rintro s ⟨⟩
    refine ⟨trivial, ?_⟩
    rintro s ⟨⟩
    refine ⟨trivial, ?_⟩
    rintro s ⟨⟩
    refine ⟨trivial, ?_⟩
    rintro s ⟨⟩
    refine ⟨?_, fun _ _ ↦ trivial⟩
    rintro c ⟨⟩
    rfl
  have hrun : lifecycleSystem.run .initial recvCancelledTwice = some _ := rfl
  obtain ⟨hcounts, -, -, hcallbacks⟩ := waiterLifecycle_counts hback hrun
  refine ⟨_, hrun, ?_, hcallbacks (by decide)⟩
  rw [(hcounts .recv ("w" ++ "::" ++ nullTopic)).1]
  decide

/-- The event loop ends while the thread of a `recv_async` is before `set`. -/
def recvTornDown : List LifecycleAction :=
  [.recv "w" none true, .cancelTask 0 true, .set 0, .succeed 0]

/-- Every call and every thread is over, and the entry is still there. -/
theorem waiterLifecycle_leaks :
    ∃ s, lifecycleSystem.run .initial recvTornDown = some s ∧
      (∀ c ∈ s.calls, c.hasEnded ∧ c.threadsFinished) ∧
        s.maps .recv ("w" ++ "::" ++ nullTopic) ≠ none :=
  ⟨_, rfl, by decide, by decide⟩

end DBOSModel.SysDb

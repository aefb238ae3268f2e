import DBOSModel.Core.Persist
import DBOSModel.Core.Recovery

/-!
# Executions of a workflow in one process

Four paths of one executor process lead to the body of a workflow: a direct call of the decorated
function, `start_workflow`, the dispatch of a dequeued workflow, and the recovery of the process's
own executor ID. All of them pass through `_init_workflow`. The last three then run
`_execute_workflow_wthread` or `_execute_workflow_async`, which enter the ID into
`ActiveWorkflowById` before the body and release it after `persist`. The wrapper of a direct call
runs the body without entering it.

Two registered bodies of one ID are thus impossible. A direct call is kept apart from the others by
`owner_xid` alone: an unforced request executes only on the row it has inserted itself. A recovery
request and a dequeued request are forced, so they execute on that row as well, and they find the
ID free in the registry while the body of the direct call runs.
-/

namespace DBOSModel.Core

open Relational DBOSModel.SysDb

/-! ## The registry -/

/-- `ActiveWorkflowById._m`; the values are the buckets `(queue_name, queue_partition_key)`. -/
abbrev ActiveWorkflowById :=
  Table (fun entry : String × Option (String × Option String) ↦ entry.1)

namespace ActiveWorkflowById

def isActive (key : String) (active : ActiveWorkflowById) : Bool := (active.lookup key).isSome

/-- `acquire`, with the answer `is_owner`. -/
def acquire (key : String) (queueName queuePartitionKey : Option String)
    (active : ActiveWorkflowById) : Bool × ActiveWorkflowById :=
  match active.insertNew (key, queueName.map fun queue ↦ (queue, queuePartitionKey)) with
  | none => (false, active)
  | some active' => (true, active')

/-- `release`; `none` is the `KeyError` of `del`. -/
def release (key : String) (active : ActiveWorkflowById) : Option ActiveWorkflowById :=
  if active.isActive key then some (active.delete fun entry ↦ entry.1 = key) else none

end ActiveWorkflowById

/-! ## Executions -/

/-- How an execution was entered. -/
inductive EntryPath where
  /-- `workflow_wrapper.wrapper`. -/
  | direct
  | start
  /-- `execute_workflow_by_id` on the thread of a queue. -/
  | dispatch
  /-- `execute_workflow_by_id` in `_recover_workflow`. -/
  | recovery
deriving DecidableEq

inductive ExecutionPhase where
  /-- `_init_workflow` is still to be called. -/
  | entered
  /-- In the thread pool or the event loop, on its way to `acquire`. -/
  | submitted (queueName queuePartitionKey : Option String)
  | body
  /-- In `persist` after the body; when finished, about to leave. -/
  | persisting (phase : Finalization)
  /-- Aborted as a duplicate: `persist` polls for the result. -/
  | duplicate
  /-- Not the owner: polls for the result. -/
  | polling
  | done
deriving DecidableEq

/-- The phases between `acquire` and `release` on a path that registers. -/
def ExecutionPhase.isInvoked : ExecutionPhase → Bool
  | body => true
  | persisting _ => true
  | duplicate => true
  | _ => false

def ExecutionPhase.isSubmitted : ExecutionPhase → Bool
  | submitted _ _ => true
  | _ => false

structure Execution where
  path : EntryPath
  workflowId : String
  phase : ExecutionPhase
deriving DecidableEq

namespace Execution

/-- The execution runs the body of the workflow. -/
def runs (workflowId : String) (execution : Execution) : Bool :=
  execution.workflowId = workflowId && execution.phase = .body

/-- The execution has entered the workflow into the registry. -/
def owns (workflowId : String) (execution : Execution) : Bool :=
  execution.workflowId = workflowId && execution.path ≠ .direct && execution.phase.isInvoked

/-- The body of the workflow runs under a direct call. -/
def runsDirectly (workflowId : String) (execution : Execution) : Bool :=
  execution.path = .direct && execution.runs workflowId

end Execution

namespace EntryPath

/-- The arguments that a path passes to `init_workflow`. A user's call and `start_workflow` off any
queue are requests that force nothing. -/
def isCall (path : EntryPath) (executorId workflowId : String) (call : InitCall) : Bool :=
  call.status.workflowUuid = workflowId && call.status.executorId = some executorId &&
    call.isRecoveryRequest = decide (path = .recovery) &&
    call.isDequeuedRequest = decide (path = .dispatch) &&
    (call.forceExecute || call.status.queueName = none)

/-- Where an execution goes on the answer of `init_workflow`. -/
def afterInit (path : EntryPath) (isAsync : Bool) (call : InitCall) :
    Except DBOSError InitResult → ExecutionPhase
  | .error _ => .done
  | .ok result =>
    match path with
    | .direct =>
      -- `persist` skips the body of a completed workflow, which `Pending._wrap` has awaited by then
      if result.shouldExecute && (isAsync || !result.status.isComplete) then .body else .polling
    | _ =>
      if result.shouldExecute && !result.status.isComplete then
        .submitted call.status.queueName call.status.queuePartitionKey
      else .done

end EntryPath

/-- How a body ends. -/
inductive BodyEnding where
  | returned
  | raised
  /-- A step was recorded by another execution. -/
  | conflict
  /-- A cancellation, or another exception that `persist` lets pass. -/
  | cancelled
deriving DecidableEq

def BodyEnding.next : BodyEnding → ExecutionPhase
  | returned => .persisting .writingSuccess
  | raised => .persisting (.handling false)
  | conflict => .duplicate
  | cancelled => .persisting .finished

/-! ## The system -/

structure ExecutionState where
  db : SystemDatabase
  active : ActiveWorkflowById
  executions : List Execution

/-- The process before any workflow has been entered. -/
def ExecutionState.initial (db : SystemDatabase) : ExecutionState where
  db := db
  active := Table.empty
  executions := []

inductive ExecutionAction where
  /-- A direct call. -/
  | call (workflowId : String)
  | start (workflowId : String)
  /-- A poll of this process and the dispatch of what it returns. -/
  | dequeue (call : DequeueCall) (now : ℤ)
  /-- `recover_pending_workflows` on the executor ID of this process. -/
  | recover (appVersion : String)
  /-- `init_workflow`, acknowledged. -/
  | init (index : ℕ) (call : InitCall) (built : Built call.status) (now : ℤ)
  /-- An `init_workflow` whose acknowledgement is lost; `db_retry` calls it again. -/
  | initLost (index : ℕ) (call : InitCall) (built : Built call.status) (now : ℤ)
  /-- An execution ends before the body: it raises, or its result is recorded in the parent. -/
  | abandon (index : ℕ)
  /-- The role check fails and finalizes the workflow. -/
  | deny (index : ℕ) (error : String) (now : ℤ)
  | acquire (index : ℕ)
  /-- A step of the body is recorded. -/
  | record (index : ℕ) (result : OperationResultInternal) (completedAt : ℤ)
  | leaveBody (index : ℕ) (ending : BodyEnding)
  /-- The outstanding write of `persist`. -/
  | write (index : ℕ) (output error : String) (now : ℤ)
  /-- `await_workflow_result` ends. -/
  | awaited (index : ℕ)
  /-- The execution leaves, and releases what it has registered. -/
  | finish (index : ℕ)
  /-- A status operation of any client or executor. -/
  | other (op : StatusOp) (now : ℤ)

namespace ExecutionState

variable (s : ExecutionState)

def enter (path : EntryPath) (workflowIds : List String) : ExecutionState :=
  { s with executions := s.executions ++ workflowIds.map fun id ↦ ⟨path, id, .entered⟩ }

def move (index : ℕ) (execution : Execution) (phase : ExecutionPhase) : ExecutionState :=
  { s with executions := s.executions.set index { execution with phase := phase } }

/-- The executions that run the body of a workflow. -/
def bodies (workflowId : String) : ℕ := s.executions.countP (Execution.runs workflowId)

end ExecutionState

/-- `acquire` in `_execute_workflow_wthread` and `_execute_workflow_async`. -/
def acquireStep (index : ℕ) (execution : Execution) (s : ExecutionState) : Option ExecutionState :=
  match execution.path, execution.phase with
  -- the wrapper of a direct call has no such step
  | .direct, _ => none
  | _, .submitted queueName queuePartitionKey =>
    let (owned, active) := s.active.acquire execution.workflowId queueName queuePartitionKey
    some ({ s with active := active }.move index execution (if owned then .body else .polling))
  | _, _ => none

/-- The end of an execution; the `finally` of the two functions releases what they acquired. -/
def finishStep (index : ℕ) (execution : Execution) (s : ExecutionState) : Option ExecutionState :=
  if execution.phase = .persisting .finished then
    let active :=
      if execution.path = .direct then s.active
      else (s.active.release execution.workflowId).getD s.active
    some ({ s with active := active }.move index execution .done)
  else none

def executionSystem (executorId : String) (isAsync : String → Bool) :
    System ExecutionState ExecutionAction where
  step s
    | .call workflowId => some (s.enter .direct [workflowId])
    | .start workflowId => some (s.enter .start [workflowId])
    | .dequeue call now =>
      let (started, db) := startQueuedWorkflows call now s.db
      if call.executorId = executorId then some ({ s with db := db }.enter .dispatch started)
      else none
    | .recover appVersion =>
      -- a queued workflow goes back to its queue instead
      let direct := (getPendingWorkflows executorId appVersion s.db).filter fun workflow ↦
        !workflow.isQueued
      some (s.enter .recovery (direct.map GetPendingWorkflowsOutput.workflowId))
    | .init index call _ now =>
      s.executions[index]?.bind fun execution ↦
        let ending := initWorkflow call now s.db
        if execution.phase = .entered ∧
            execution.path.isCall executorId execution.workflowId call then
          some ({ s with db := ending.stateAfter s.db }.move index execution
            (execution.path.afterInit (isAsync execution.workflowId) call ending.result))
        else none
    | .initLost index call _ now =>
      s.executions[index]?.bind fun execution ↦
        if execution.phase = .entered ∧
            execution.path.isCall executorId execution.workflowId call then
          some { s with db := (initWorkflow call now s.db).stateAfter s.db }
        else none
    | .abandon index =>
      s.executions[index]?.bind fun execution ↦
        match execution.phase with
        | .entered => some (s.move index execution .done)
        | .submitted _ _ => some (s.move index execution .done)
        | _ => none
    | .deny index error now =>
      s.executions[index]?.bind fun execution ↦
        let ending := updateWorkflowOutcome execution.workflowId .error none (some error) now s.db
        match execution.phase with
        | .submitted _ _ =>
          some ({ s with db := ending.stateAfter s.db }.move index execution .done)
        | _ => none
    | .acquire index =>
      s.executions[index]?.bind fun execution ↦ acquireStep index execution s
    | .record index result completedAt =>
      s.executions[index]?.bind fun execution ↦
        let ending := recordOperationResult (some executorId) result completedAt s.db
        if execution.phase = .body ∧ result.workflowUuid = execution.workflowId then
          some { s with db := ending.stateAfter s.db }
        else none
    | .leaveBody index ending =>
      s.executions[index]?.bind fun execution ↦
        if execution.phase = .body then some (s.move index execution ending.next) else none
    | .write index output error now =>
      s.executions[index]?.bind fun execution ↦
        match execution.phase with
        | .persisting phase =>
          let ending := phase.write execution.workflowId output error now s.db
          if phase = .finished then none
          else some ({ s with db := ending.stateAfter s.db }.move index execution
            (.persisting (phase.next (isAsync execution.workflowId) ending.result)))
        | _ => none
    | .awaited index =>
      s.executions[index]?.bind fun execution ↦
        match execution.phase with
        | .duplicate => some (s.move index execution (.persisting .finished))
        | .polling => some (s.move index execution .done)
        | _ => none
    | .finish index =>
      s.executions[index]?.bind fun execution ↦ finishStep index execution s
    | .other op now => some { s with db := op.apply now s.db }

/-! ## The property and the condition -/

/-- At most one execution runs the body of each workflow. -/
def SingleExecution (s : ExecutionState) : Prop := ∀ workflowId, s.bodies workflowId ≤ 1

/-- An unforced request would execute: every row of its workflow is its own and matches it, and the
body is not skipped. This is so in particular where there is no row. -/
def executesUnforced (isAsync : Bool) (call : InitCall) (db : SystemDatabase) : Bool :=
  db.statusRows.all fun row ↦ row.workflowUuid ≠ call.status.workflowUuid ||
    (call.mismatch row = none && row.ownerXid = call.ownerXid &&
      (isAsync || !row.status.isComplete))

/-- No execution finds the registry free while the body of the workflow runs under a direct call,
and no direct call finds the row missing, or of its own, while any body of the workflow runs. -/
def MeetsNoBody (executorId : String) (isAsync : String → Bool) (s : ExecutionState) :
    ExecutionAction → Prop
  | .acquire index =>
    ∀ execution ∈ s.executions[index]?, execution.path ≠ .direct → execution.phase.isSubmitted →
      s.active.isActive execution.workflowId = false →
        s.executions.any (Execution.runsDirectly execution.workflowId) = false
  | .init index call _ _ =>
    ∀ execution ∈ s.executions[index]?, execution.path = .direct → execution.phase = .entered →
      execution.path.isCall executorId execution.workflowId call →
        executesUnforced (isAsync execution.workflowId) call s.db →
          s.executions.any (Execution.runs execution.workflowId) = false
  | _ => True

section Registry

variable {executorId key : String} {isAsync : String → Bool} {s s' : ExecutionState}
  {action : ExecutionAction} {index : ℕ} {execution : Execution} {phase : ExecutionPhase}
  {call : InitCall} {now : ℤ} {active active' : ActiveWorkflowById}

/-! ## `acquire` and `release` -/

theorem acquire_of_active {queueName queuePartitionKey : Option String}
    (h : active.isActive key) :
    active.acquire key queueName queuePartitionKey = (false, active) := by
  obtain ⟨entry, hentry⟩ := Option.isSome_iff_exists.mp h
  have hboth := active.lookup_eq_some.mp hentry
  have hinsert : active.insertNew (key, queueName.map fun queue ↦ (queue, queuePartitionKey)) =
      none := Table.insertNew_eq_none.mpr ⟨entry, hboth⟩
  simp only [ActiveWorkflowById.acquire, hinsert]

/-- A free key is acquired, and nothing else changes. -/
theorem acquire_of_free (queueName queuePartitionKey : Option String)
    (h : active.isActive key = false) :
    ∃ active', active.acquire key queueName queuePartitionKey = (true, active') ∧
      ∀ other, active'.isActive other = (decide (other = key) || active.isActive other) := by
  have hfree : active.lookup key = none := by
    simpa [ActiveWorkflowById.isActive] using h
  obtain ⟨active', hinsert⟩ := active.exists_insertNew
    (r := (key, queueName.map fun queue ↦ (queue, queuePartitionKey))) hfree
  refine ⟨active', ?_, ?_⟩
  · simp only [ActiveWorkflowById.acquire, hinsert]
  · intro other
    rw [ActiveWorkflowById.isActive, Table.lookup_insertNew hinsert]
    by_cases hother : other = key
    · simp [hother]
    · simp [hother, Ne.symm hother, ActiveWorkflowById.isActive]

theorem isActive_release (h : active.release key = some active') (other : String) :
    active'.isActive other = (decide (other ≠ key) && active.isActive other) := by
  unfold ActiveWorkflowById.release at h
  split at h
  · cases h
    rw [Bool.eq_iff_iff]
    simp only [ActiveWorkflowById.isActive, Bool.and_eq_true, decide_eq_true_eq,
      Option.isSome_iff_exists, Table.lookup_eq_some, Table.mem_delete, decide_eq_false_iff_not]
    constructor
    · rintro ⟨entry, ⟨hentry, hkey⟩, rfl⟩
      exact ⟨hkey, entry, hentry, rfl⟩
    · rintro ⟨hother, entry, hentry, rfl⟩
      exact ⟨entry, ⟨hentry, hother⟩, rfl⟩
  · cases h

/-! ## Counts of executions -/

/-- What the change of one execution does to a count. -/
theorem countP_set_add {executions : List Execution} (p : Execution → Bool)
    (new : Execution) (h : executions[index]? = some execution) :
    (executions.set index new).countP p + (p execution).toNat =
      executions.countP p + (p new).toNat := by
  induction executions generalizing index with
  | nil => cases h
  | cons first rest ih =>
    cases index with
    | zero =>
      cases h
      simp only [List.set_cons_zero, List.countP_cons, Bool.toNat]
      cases p new <;> cases p execution <;> simp
    | succ index =>
      have hexecution : rest[index]? = some execution := by simpa using h
      have hrest := ih hexecution
      simp only [List.set_cons_succ, List.countP_cons]
      omega

/-! ## A direct call at `init_workflow` -/

theorem isCall_direct {workflowId : String}
    (h : EntryPath.direct.isCall executorId workflowId call) :
    call.status.workflowUuid = workflowId ∧ call.isRecoveryRequest = false ∧
      call.isDequeuedRequest = false ∧ call.status.queueName = none := by
  simp only [EntryPath.isCall, InitCall.forceExecute, Bool.and_eq_true, Bool.or_eq_true,
    decide_eq_true_eq] at h
  obtain ⟨⟨⟨⟨hid, -⟩, hrecovery⟩, hdequeued⟩, hqueue⟩ := h
  have hrecovery : call.isRecoveryRequest = false := by simpa using hrecovery
  have hdequeued : call.isDequeuedRequest = false := by simpa using hdequeued
  refine ⟨hid, hrecovery, hdequeued, ?_⟩
  simpa [hrecovery, hdequeued] using hqueue

/-- An unforced request executes exactly on a row of its own. -/
theorem shouldExecute_unforced {row : WorkflowStatusRow}
    (hrecovery : call.isRecoveryRequest = false) (hdequeued : call.isDequeuedRequest = false) :
    call.shouldExecute row = decide (row.ownerXid = call.ownerXid) := by
  rw [InitCall.shouldExecute, hrecovery, hdequeued]
  by_cases howner : row.ownerXid = call.ownerXid
  · simp [howner]
  · simp [howner, Ne.symm howner]

/-- The answer of `init_workflow` lets a direct call execute only where the condition says. -/
theorem executesUnforced_of_body {db : SystemDatabase} {async : Bool} {workflowId : String}
    (hcall : EntryPath.direct.isCall executorId workflowId call)
    (h : EntryPath.direct.afterInit async call (initWorkflow call now db).result = .body) :
    executesUnforced async call db := by
  obtain ⟨-, hrecovery, hdequeued, -⟩ := isCall_direct hcall
  cases hending : initWorkflow call now db with
  | raised exception =>
    rw [hending] at h
    cases h
  | raisedAfterCommit exception db' =>
    rw [hending] at h
    cases h
  | returned result db' =>
    rw [hending, Ending.result_returned] at h
    simp only [EntryPath.afterInit] at h
    split at h
    · rename_i hexecutes
      obtain ⟨hshould, hstatus⟩ := Bool.and_eq_true_iff.mp hexecutes
      rw [executesUnforced, List.all_eq_true]
      intro row hrow
      by_cases hid : row.workflowUuid = call.status.workflowUuid
      · rcases initWorkflow_eq_returned hending with
          ⟨stored, hstored, hstoredId, hmatch, -, hstoredStatus, hstoredShould, -⟩ | ⟨hfresh, -⟩
        · have hsame : stored = row :=
            db.workflowStatus.eq_of_key hstored hrow (hstoredId.trans hid.symm)
          rw [hsame] at hmatch hstoredStatus hstoredShould
          rw [hstoredShould, shouldExecute_unforced hrecovery hdequeued] at hshould
          rw [hstoredStatus] at hstatus
          simp [hid, hmatch, hshould, hstatus]
        · exact absurd hid (hfresh row hrow)
      · simp [hid]
    · cases h

/-- Where the condition says so, the direct call goes on to the body. -/
theorem body_of_executesUnforced {db : SystemDatabase} {async : Bool} {workflowId : String}
    (hcall : EntryPath.direct.isCall executorId workflowId call) (built : Built call.status)
    (h : executesUnforced async call db) :
    EntryPath.direct.afterInit async call (initWorkflow call now db).result = .body := by
  obtain ⟨-, hrecovery, hdequeued, hqueue⟩ := isCall_direct hcall
  rw [executesUnforced, List.all_eq_true] at h
  cases hlookup : db.workflowStatus.lookup call.status.workflowUuid with
  | some row =>
    obtain ⟨hrow, hid⟩ := db.workflowStatus.lookup_eq_some.mp hlookup
    have hown := h row hrow
    simp only [hid, decide_not, decide_true, Bool.not_true, Bool.false_or, Bool.and_eq_true,
      decide_eq_true_eq] at hown
    obtain ⟨⟨hmatch, howner⟩, hstatus⟩ := hown
    have hmatch' : call.mismatch (call.conflictUpdate now row) = none := hmatch
    have hwithin : call.exceedsRecoveryAttempts (call.conflictUpdate now row) = false := by
      have howner' : (call.conflictUpdate now row).ownerXid = call.ownerXid := howner
      unfold InitCall.exceedsRecoveryAttempts
      split
      · rfl
      · simp [howner']
    have hshould : call.shouldExecute (call.conflictUpdate now row) = true := by
      rw [shouldExecute_unforced hrecovery hdequeued, decide_eq_true_eq]
      exact howner
    have hsame : (call.conflictUpdate now row).status = row.status := rfl
    simp only [initWorkflow, InitCall.upsert, hlookup, hmatch', hwithin, Bool.false_eq_true,
      if_false, Ending.result_returned, EntryPath.afterInit, hshould, hsame, Bool.true_and, hstatus,
      if_true]
  | none =>
    have hdedup : call.isDeduplicated db = false := by
      simp [InitCall.isDeduplicated, hqueue]
    obtain ⟨rows, hrows⟩ := db.workflowStatus.exists_insertNew (r := call.insertedRow now) hlookup
    have hmatch : call.mismatch (call.insertedRow now) = none := by
      simp [InitCall.mismatch, InitCall.insertedRow]
    have hshould : call.shouldExecute (call.insertedRow now) = true := by
      simp [InitCall.shouldExecute, InitCall.insertedRow]
    have hstatus : (call.insertedRow now).status.isComplete = false := by
      have hpending : call.status.status = .pending := by
        rcases built.statusFits with ⟨hpending, -⟩ | ⟨-, hsome⟩ | ⟨-, hsome, -⟩
        · exact hpending
        · simp [hqueue] at hsome
        · simp [hqueue] at hsome
      simp [InitCall.insertedRow, hpending, WorkflowStatusString.isComplete]
    simp only [initWorkflow, InitCall.upsert, hlookup, hdedup, hrows, hmatch,
      exceedsRecoveryAttempts_insertedRow, Bool.false_eq_true, if_false, Ending.result_returned,
      EntryPath.afterInit, hshould, hstatus, Bool.not_false, Bool.or_true, Bool.and_true, if_true]

/-! ## Steps -/

/-- What a step does to the executions and the registry. -/
inductive ExecutionEffect (executorId : String) (isAsync : String → Bool) (s : ExecutionState) :
    ExecutionAction → ExecutionState → Prop
  | entered (action : ExecutionAction) (fresh : List Execution) (s' : ExecutionState)
      (hfresh : ∀ execution ∈ fresh, execution.phase = .entered)
      (hactive : s'.active = s.active) (hexecutions : s'.executions = s.executions ++ fresh) :
      ExecutionEffect executorId isAsync s action s'
  /-- An execution goes on, but not into the body, and keeps what it has registered. -/
  | moved (action : ExecutionAction) (index : ℕ) (execution : Execution) (phase : ExecutionPhase)
      (s' : ExecutionState) (hexecution : s.executions[index]? = some execution)
      (hbody : phase ≠ .body)
      (hinvoked : execution.path ≠ .direct → phase.isInvoked = execution.phase.isInvoked)
      (hactive : s'.active = s.active)
      (hexecutions : s'.executions = s.executions.set index { execution with phase := phase }) :
      ExecutionEffect executorId isAsync s action s'
  /-- A direct call enters the body. -/
  | began (index : ℕ) (call : InitCall) (built : Built call.status) (now : ℤ)
      (execution : Execution) (s' : ExecutionState)
      (hexecution : s.executions[index]? = some execution) (hpath : execution.path = .direct)
      (hphase : execution.phase = .entered)
      (hcall : execution.path.isCall executorId execution.workflowId call)
      (hexecutes : executesUnforced (isAsync execution.workflowId) call s.db)
      (hactive : s'.active = s.active)
      (hexecutions : s'.executions = s.executions.set index { execution with phase := .body }) :
      ExecutionEffect executorId isAsync s (.init index call built now) s'
  | acquired (index : ℕ) (execution : Execution) (s' : ExecutionState)
      (hexecution : s.executions[index]? = some execution) (hpath : execution.path ≠ .direct)
      (hphase : execution.phase.isSubmitted)
      (hfree : s.active.isActive execution.workflowId = false)
      (hactive : ∀ other, s'.active.isActive other =
        (decide (other = execution.workflowId) || s.active.isActive other))
      (hexecutions : s'.executions = s.executions.set index { execution with phase := .body }) :
      ExecutionEffect executorId isAsync s (.acquire index) s'
  | released (index : ℕ) (execution : Execution) (s' : ExecutionState)
      (hexecution : s.executions[index]? = some execution) (hpath : execution.path ≠ .direct)
      (hphase : execution.phase = .persisting .finished)
      (hactive : s'.active = (s.active.release execution.workflowId).getD s.active)
      (hexecutions : s'.executions = s.executions.set index { execution with phase := .done }) :
      ExecutionEffect executorId isAsync s (.finish index) s'

theorem isSubmitted_iff : phase.isSubmitted ↔
    ∃ queueName queuePartitionKey, phase = .submitted queueName queuePartitionKey := by
  cases phase <;> simp [ExecutionPhase.isSubmitted]

theorem effect_acquire (hexecution : s.executions[index]? = some execution)
    (h : acquireStep index execution s = some s') :
    ExecutionEffect executorId isAsync s (.acquire index) s' := by
  unfold acquireStep at h
  split at h
  · cases h
  · rename_i queueName queuePartitionKey hphase hpath
    have hsubmitted := isSubmitted_iff.mpr ⟨_, _, hphase⟩
    cases hactive : s.active.isActive execution.workflowId with
    | true =>
      rw [acquire_of_active hactive] at h
      cases h
      refine .moved _ index execution .polling _ hexecution (by decide) ?_ rfl rfl
      intro _
      rw [hphase]
      rfl
    | false =>
      obtain ⟨active', hacquire, hkeys⟩ := acquire_of_free queueName queuePartitionKey hactive
      rw [hacquire] at h
      cases h
      exact .acquired index execution _ hexecution hpath hsubmitted hactive hkeys rfl
  · cases h

theorem effect_finish (hexecution : s.executions[index]? = some execution)
    (h : finishStep index execution s = some s') :
    ExecutionEffect executorId isAsync s (.finish index) s' := by
  unfold finishStep at h
  split at h
  · rename_i hphase
    cases h
    by_cases hpath : execution.path = .direct
    · refine .moved _ index execution .done _ hexecution (by decide) ?_ ?_ rfl
      · exact fun hregistered ↦ absurd hpath hregistered
      · simp only [ExecutionState.move, if_pos hpath]
    · refine .released index execution _ hexecution hpath hphase ?_ rfl
      simp only [ExecutionState.move, if_neg hpath]
  · cases h

/-- An execution that is not a direct call leaves `init_workflow` for the thread pool, or ends. -/
theorem afterInit_of_registers {path : EntryPath} (async : Bool) (call : InitCall)
    (answer : Except DBOSError InitResult) (hpath : path ≠ .direct) :
    path.afterInit async call answer ≠ .body ∧
      (path.afterInit async call answer).isInvoked = false := by
  cases answer with
  | error exception => simp [EntryPath.afterInit, ExecutionPhase.isInvoked]
  | ok result =>
    simp only [EntryPath.afterInit]
    split
    · simp [ExecutionPhase.isInvoked]
    · simp [ExecutionPhase.isInvoked]

theorem effect_init {built : Built call.status}
    (hexecution : s.executions[index]? = some execution) (hphase : execution.phase = .entered)
    (hcall : execution.path.isCall executorId execution.workflowId call) :
    ExecutionEffect executorId isAsync s (.init index call built now)
      ({ s with db := (initWorkflow call now s.db).stateAfter s.db }.move index execution
        (execution.path.afterInit (isAsync execution.workflowId) call
          (initWorkflow call now s.db).result)) := by
  by_cases hpath : execution.path = .direct
  · by_cases hbody : execution.path.afterInit (isAsync execution.workflowId) call
        (initWorkflow call now s.db).result = .body
    · rw [hbody]
      refine .began index call built now execution _ hexecution hpath hphase hcall ?_ rfl rfl
      rw [hpath] at hbody hcall
      exact executesUnforced_of_body hcall hbody
    · exact .moved _ index execution _ _ hexecution hbody (fun h ↦ absurd hpath h) rfl rfl
  · obtain ⟨hbody, hinvoked⟩ := afterInit_of_registers (isAsync execution.workflowId) call
      (initWorkflow call now s.db).result hpath
    refine .moved _ index execution _ _ hexecution hbody ?_ rfl rfl
    intro _
    rw [hinvoked, hphase]
    rfl

theorem effect_of_step (h : (executionSystem executorId isAsync).step s action = some s') :
    ExecutionEffect executorId isAsync s action s' := by
  have hstay (s' : ExecutionState) (hactive : s'.active = s.active)
      (hexecutions : s'.executions = s.executions) :
      ExecutionEffect executorId isAsync s action s' :=
    .entered action [] s' (by simp) hactive (by rw [hexecutions, List.append_nil])
  have henter (path : EntryPath) (workflowIds : List String) (db : SystemDatabase) :
      ExecutionEffect executorId isAsync s action ({ s with db := db }.enter path workflowIds) := by
    refine .entered action _ _ ?_ rfl rfl
    intro execution hexecution
    obtain ⟨id, -, rfl⟩ := List.mem_map.mp hexecution
    rfl
  have hmove (index : ℕ) (execution : Execution) (phase : ExecutionPhase) (db : SystemDatabase)
      (hexecution : s.executions[index]? = some execution) (hbody : phase ≠ .body)
      (hinvoked : phase.isInvoked = execution.phase.isInvoked) :
      ExecutionEffect executorId isAsync s action
        ({ s with db := db }.move index execution phase) :=
    .moved action index execution phase _ hexecution hbody (fun _ ↦ hinvoked) rfl rfl
  cases action with
  | call workflowId =>
    cases h
    exact henter .direct [workflowId] s.db
  | start workflowId =>
    cases h
    exact henter .start [workflowId] s.db
  | dequeue call now =>
    simp only [executionSystem, Option.ite_none_right_eq_some, Option.some.injEq] at h
    obtain ⟨-, rfl⟩ := h
    exact henter .dispatch _ _
  | recover appVersion =>
    cases h
    exact henter .recovery _ s.db
  | init index call built now =>
    simp only [executionSystem, Option.bind_eq_some_iff, Option.ite_none_right_eq_some,
      Option.some.injEq] at h
    obtain ⟨execution, hexecution, ⟨hphase, hcall⟩, rfl⟩ := h
    exact effect_init hexecution hphase hcall
  | initLost index call built now =>
    simp only [executionSystem, Option.bind_eq_some_iff, Option.ite_none_right_eq_some,
      Option.some.injEq] at h
    obtain ⟨execution, -, -, rfl⟩ := h
    exact hstay _ rfl rfl
  | abandon index =>
    simp only [executionSystem, Option.bind_eq_some_iff] at h
    obtain ⟨execution, hexecution, h⟩ := h
    split at h
    · rename_i hphase
      cases h
      exact hmove index execution .done s.db hexecution (by decide) (by rw [hphase]; rfl)
    · rename_i hphase
      cases h
      exact hmove index execution .done s.db hexecution (by decide) (by rw [hphase]; rfl)
    · cases h
  | deny index error now =>
    simp only [executionSystem, Option.bind_eq_some_iff] at h
    obtain ⟨execution, hexecution, h⟩ := h
    split at h
    · rename_i hphase
      cases h
      exact hmove index execution .done _ hexecution (by decide) (by rw [hphase]; rfl)
    · cases h
  | acquire index =>
    simp only [executionSystem, Option.bind_eq_some_iff] at h
    obtain ⟨execution, hexecution, h⟩ := h
    exact effect_acquire hexecution h
  | record index result completedAt =>
    simp only [executionSystem, Option.bind_eq_some_iff, Option.ite_none_right_eq_some,
      Option.some.injEq] at h
    obtain ⟨execution, -, -, rfl⟩ := h
    exact hstay _ rfl rfl
  | leaveBody index ending =>
    simp only [executionSystem, Option.bind_eq_some_iff, Option.ite_none_right_eq_some,
      Option.some.injEq] at h
    obtain ⟨execution, hexecution, hphase, rfl⟩ := h
    refine hmove index execution ending.next s.db hexecution ?_ ?_
    · cases ending <;> decide
    · rw [hphase]
      cases ending <;> rfl
  | write index output error now =>
    simp only [executionSystem, Option.bind_eq_some_iff] at h
    obtain ⟨execution, hexecution, h⟩ := h
    split at h
    · rename_i phase hphase
      split at h
      · cases h
      · cases h
        exact hmove index execution _ _ hexecution (by simp) (by rw [hphase]; rfl)
    · cases h
  | awaited index =>
    simp only [executionSystem, Option.bind_eq_some_iff] at h
    obtain ⟨execution, hexecution, h⟩ := h
    split at h
    · rename_i hphase
      cases h
      exact hmove index execution _ s.db hexecution (by decide) (by rw [hphase]; rfl)
    · rename_i hphase
      cases h
      exact hmove index execution _ s.db hexecution (by decide) (by rw [hphase]; rfl)
    · cases h
  | finish index =>
    simp only [executionSystem, Option.bind_eq_some_iff] at h
    obtain ⟨execution, hexecution, h⟩ := h
    exact effect_finish hexecution h
  | other op now =>
    cases h
    exact hstay _ rfl rfl

/-! ## The invariant -/

/-- The registry holds the workflows that executions own, each for one of them, and at most one
body of each workflow runs. -/
structure WellRegistered (s : ExecutionState) : Prop where
  owners : ∀ workflowId,
    s.executions.countP (Execution.owns workflowId) = (s.active.isActive workflowId).toNat
  single : SingleExecution s

theorem wellRegistered_initial (db : SystemDatabase) :
    WellRegistered (ExecutionState.initial db) where
  owners _ := rfl
  single _ := Nat.zero_le 1

/-- What an execution owns is registered, so that its `release` never raises. -/
theorem isActive_of_owns {workflowId : String} (hs : WellRegistered s)
    (hexecution : execution ∈ s.executions) (howns : execution.owns workflowId) :
    s.active.isActive workflowId := by
  have hpositive : 0 < s.executions.countP (Execution.owns workflowId) :=
    List.countP_pos_iff.mpr ⟨execution, hexecution, howns⟩
  rw [hs.owners] at hpositive
  by_contra hfree
  rw [Bool.not_eq_true] at hfree
  simp [hfree] at hpositive

theorem bodies_eq_zero {workflowId : String}
    (h : s.executions.any (Execution.runs workflowId) = false) : s.bodies workflowId = 0 := by
  rw [ExecutionState.bodies, List.countP_eq_zero]
  intro execution hexecution
  rw [List.any_eq_false] at h
  exact h execution hexecution

/-- While an ID is free in the registry, its body runs under direct calls only. -/
theorem not_runs_of_free {workflowId : String} (hs : WellRegistered s)
    (hfree : s.active.isActive workflowId = false)
    (hdirect : s.executions.any (Execution.runsDirectly workflowId) = false) :
    s.executions.any (Execution.runs workflowId) = false := by
  have howners := hs.owners workflowId
  rw [hfree, Bool.toNat_false, List.countP_eq_zero] at howners
  rw [List.any_eq_false] at hdirect ⊢
  intro execution hexecution hruns
  by_cases hpath : execution.path = .direct
  · apply hdirect execution hexecution
    simp [Execution.runsDirectly, hpath, hruns]
  · apply howners execution hexecution
    simp only [Execution.runs, Bool.and_eq_true, decide_eq_true_eq] at hruns
    simp [Execution.owns, hpath, hruns.1, hruns.2, ExecutionPhase.isInvoked]

/-- An execution that goes on keeps what it owns, if the phase keeps it. -/
theorem countP_owns_move {workflowId : String} (hexecution : s.executions[index]? = some execution)
    (hinvoked : execution.path ≠ .direct → phase.isInvoked = execution.phase.isInvoked) :
    (s.executions.set index { execution with phase := phase }).countP (Execution.owns workflowId) =
      s.executions.countP (Execution.owns workflowId) := by
  have hsame : ({ execution with phase := phase } : Execution).owns workflowId =
      execution.owns workflowId := by
    unfold Execution.owns
    by_cases hpath : execution.path = .direct
    · simp [hpath]
    · simp [hpath, hinvoked hpath]
  have hcount := countP_set_add (Execution.owns workflowId) { execution with phase := phase }
    hexecution
  rw [hsame] at hcount
  exact Nat.add_right_cancel hcount

/-- An execution that enters a body by way of the registry owns its workflow from then on. -/
theorem countP_owns_acquire {workflowId : String}
    (hexecution : s.executions[index]? = some execution) (hpath : execution.path ≠ .direct)
    (hphase : execution.phase.isSubmitted) :
    (s.executions.set index { execution with phase := .body }).countP (Execution.owns workflowId) =
      s.executions.countP (Execution.owns workflowId) +
        (decide (execution.workflowId = workflowId)).toNat := by
  have hold : execution.owns workflowId = false := by
    obtain ⟨queueName, queuePartitionKey, hsubmitted⟩ := isSubmitted_iff.mp hphase
    simp [Execution.owns, hsubmitted, ExecutionPhase.isInvoked]
  have hnew : ({ execution with phase := .body } : Execution).owns workflowId =
      decide (execution.workflowId = workflowId) := by
    simp [Execution.owns, hpath, ExecutionPhase.isInvoked]
  have hcount := countP_set_add (Execution.owns workflowId) { execution with phase := .body }
    hexecution
  rw [hold, hnew, Bool.toNat_false, Nat.add_zero] at hcount
  exact hcount

/-- An execution that is done owns its workflow no longer. -/
theorem countP_owns_release (workflowId : String)
    (hexecution : s.executions[index]? = some execution) (hpath : execution.path ≠ .direct)
    (hphase : execution.phase = .persisting .finished) :
    (s.executions.set index { execution with phase := .done }).countP (Execution.owns workflowId) +
        (decide (execution.workflowId = workflowId)).toNat =
      s.executions.countP (Execution.owns workflowId) := by
  have hold : execution.owns workflowId = decide (execution.workflowId = workflowId) := by
    simp [Execution.owns, hpath, hphase, ExecutionPhase.isInvoked]
  have hnew : ({ execution with phase := .done } : Execution).owns workflowId = false := by
    simp [Execution.owns, ExecutionPhase.isInvoked]
  have hcount := countP_set_add (Execution.owns workflowId) { execution with phase := .done }
    hexecution
  rw [hold, hnew, Bool.toNat_false, Nat.add_zero] at hcount
  exact hcount

/-- Executions that have only entered own nothing and run nothing. -/
theorem countP_append_entered {fresh : List Execution} (p : Execution → Bool)
    (hfresh : ∀ execution ∈ fresh, execution.phase = .entered)
    (hp : ∀ execution, p execution → execution.phase.isInvoked) :
    (s.executions ++ fresh).countP p = s.executions.countP p := by
  have hzero : fresh.countP p = 0 := by
    rw [List.countP_eq_zero]
    intro execution hexecution hholds
    have hinvoked := hp execution hholds
    rw [hfresh execution hexecution] at hinvoked
    cases hinvoked
  rw [List.countP_append, hzero, Nat.add_zero]

theorem isInvoked_of_runs {workflowId : String} (h : execution.runs workflowId) :
    execution.phase.isInvoked := by
  simp only [Execution.runs, Bool.and_eq_true, decide_eq_true_eq] at h
  rw [h.2]
  rfl

/-- An execution that does not enter a body adds none. -/
theorem bodies_move_le {workflowId : String} (hexecution : s.executions[index]? = some execution)
    (hbody : phase ≠ .body)
    (hexecutions : s'.executions = s.executions.set index { execution with phase := phase }) :
    s'.bodies workflowId ≤ s.bodies workflowId := by
  have hruns : ({ execution with phase := phase } : Execution).runs workflowId = false := by
    simp [Execution.runs, hbody]
  have hcount := countP_set_add (Execution.runs workflowId) { execution with phase := phase }
    hexecution
  rw [hruns, Bool.toNat_false, Nat.add_zero] at hcount
  rw [ExecutionState.bodies, ExecutionState.bodies, hexecutions]
  exact Nat.le.intro hcount

/-- Entering a body counts one more for its workflow and leaves the others. -/
theorem bodies_begin {workflowId : String} (hexecution : s.executions[index]? = some execution)
    (hphase : execution.phase ≠ .body)
    (hexecutions : s'.executions = s.executions.set index { execution with phase := .body }) :
    s'.bodies workflowId =
      s.bodies workflowId + (decide (execution.workflowId = workflowId)).toNat := by
  have hold : execution.runs workflowId = false := by
    simp [Execution.runs, hphase]
  have hnew : ({ execution with phase := .body } : Execution).runs workflowId =
      decide (execution.workflowId = workflowId) := by
    simp [Execution.runs]
  have hcount := countP_set_add (Execution.runs workflowId) { execution with phase := .body }
    hexecution
  rw [hold, hnew, Bool.toNat_false, Nat.add_zero] at hcount
  rw [ExecutionState.bodies, ExecutionState.bodies, hexecutions, hcount]

/-- A body entered where none of its workflow runs is the only one. -/
theorem single_begin (hs : SingleExecution s)
    (hexecution : s.executions[index]? = some execution) (hphase : execution.phase ≠ .body)
    (hexecutions : s'.executions = s.executions.set index { execution with phase := .body })
    (hnone : s.executions.any (Execution.runs execution.workflowId) = false) :
    SingleExecution s' := by
  intro workflowId
  rw [bodies_begin hexecution hphase hexecutions]
  by_cases hid : execution.workflowId = workflowId
  · rw [← hid, bodies_eq_zero hnone]
    simp
  · simpa [hid] using hs workflowId

theorem wellRegistered_step (hs : WellRegistered s)
    (hmeets : MeetsNoBody executorId isAsync s action)
    (hstep : (executionSystem executorId isAsync).step s action = some s') : WellRegistered s' := by
  cases effect_of_step hstep with
  | entered _ fresh _ hfresh hactive hexecutions =>
    constructor
    · intro workflowId
      rw [hexecutions, hactive, countP_append_entered (Execution.owns workflowId) hfresh
        fun execution howns ↦ (Bool.and_eq_true_iff.mp howns).2]
      exact hs.owners workflowId
    · intro workflowId
      rw [ExecutionState.bodies, hexecutions,
        countP_append_entered _ hfresh fun execution hruns ↦ isInvoked_of_runs hruns]
      exact hs.single workflowId
  | moved _ index execution phase _ hexecution hbody hinvoked hactive hexecutions =>
    constructor
    · intro workflowId
      rw [hexecutions, countP_owns_move hexecution hinvoked, hactive]
      exact hs.owners workflowId
    · exact fun workflowId ↦
        (bodies_move_le hexecution hbody hexecutions).trans (hs.single workflowId)
  | began index call built now execution _ hexecution hpath hphase hcall hexecutes hactive
      hexecutions =>
    constructor
    · intro workflowId
      rw [hexecutions, countP_owns_move hexecution fun h ↦ absurd hpath h, hactive]
      exact hs.owners workflowId
    · apply single_begin hs.single hexecution (by simp [hphase]) hexecutions
      exact hmeets execution hexecution hpath hphase hcall hexecutes
  | acquired index execution _ hexecution hpath hphase hfree hactive hexecutions =>
    have hnotBody : execution.phase ≠ .body := by
      intro hphaseBody
      rw [hphaseBody] at hphase
      cases hphase
    have hdirect := hmeets execution hexecution hpath hphase hfree
    constructor
    · intro workflowId
      rw [hexecutions, countP_owns_acquire hexecution hpath hphase, hs.owners workflowId, hactive]
      by_cases hid : execution.workflowId = workflowId
      · rw [← hid, hfree]
        simp
      · simp [hid, Ne.symm hid]
    · exact single_begin hs.single hexecution hnotBody hexecutions
        (not_runs_of_free hs hfree hdirect)
  | released index execution _ hexecution hpath hphase hactive hexecutions =>
    have howns : execution.owns execution.workflowId := by
      simp [Execution.owns, hpath, hphase, ExecutionPhase.isInvoked]
    constructor
    · intro workflowId
      have hregistered := isActive_of_owns hs (List.mem_of_getElem? hexecution) howns
      have hrelease : s.active.release execution.workflowId =
          some (s.active.delete fun entry ↦ entry.1 = execution.workflowId) := by
        rw [ActiveWorkflowById.release, if_pos hregistered]
      have hcount := countP_owns_release workflowId hexecution hpath hphase
      rw [hs.owners workflowId] at hcount
      rw [hexecutions, hactive, hrelease, Option.getD_some, isActive_release hrelease]
      by_cases hid : execution.workflowId = workflowId
      · rw [← hid, hregistered] at hcount
        rw [← hid]
        simpa using hcount
      · simpa [hid, Ne.symm hid] using hcount
    · exact fun workflowId ↦
        (bodies_move_le hexecution (by decide) hexecutions).trans (hs.single workflowId)

/-! ## Where the condition fails -/

/-- An execution that enters a body while another one runs it. -/
theorem not_single_begin (hexecution : s.executions[index]? = some execution)
    (hphase : execution.phase ≠ .body)
    (hexecutions : s'.executions = s.executions.set index { execution with phase := .body })
    (hother : s.executions.any (Execution.runs execution.workflowId)) : ¬SingleExecution s' := by
  intro hsingle
  have hbound := hsingle execution.workflowId
  rw [bodies_begin hexecution hphase hexecutions] at hbound
  have hpositive : 0 < s.bodies execution.workflowId := by
    rw [ExecutionState.bodies, List.countP_pos_iff]
    exact List.any_eq_true.mp hother
  simp only [decide_true, Bool.toNat_true] at hbound
  omega

/-- Where the condition fails, the action is enabled and starts a second body. -/
theorem not_single_of_not_meetsNoBody (h : ¬MeetsNoBody executorId isAsync s action) :
    ∃ s', (executionSystem executorId isAsync).step s action = some s' ∧ ¬SingleExecution s' := by
  cases action with
  | acquire index =>
    simp only [MeetsNoBody, not_forall, Option.mem_def] at h
    obtain ⟨execution, hexecution, hpath, hphase, hfree, hdirect⟩ := h
    obtain ⟨queueName, queuePartitionKey, hsubmitted⟩ := isSubmitted_iff.mp hphase
    obtain ⟨active', hacquire, -⟩ := acquire_of_free queueName queuePartitionKey hfree
    have hstep : acquireStep index execution s =
        some ({ s with active := active' }.move index execution .body) := by
      unfold acquireStep
      split
      · contradiction
      · rename_i hsame _
        rw [hsubmitted] at hsame
        cases hsame
        rw [hacquire]
        rfl
      · rename_i hnot
        exact absurd hsubmitted (hnot queueName queuePartitionKey)
    refine ⟨{ s with active := active' }.move index execution .body, ?_,
      not_single_begin hexecution (by simp [hsubmitted]) rfl ?_⟩
    · simp only [executionSystem, hexecution, Option.bind_some]
      exact hstep
    · rw [Bool.not_eq_false, List.any_eq_true] at hdirect
      obtain ⟨other, hother, hruns⟩ := hdirect
      exact List.any_eq_true.mpr ⟨other, hother, (Bool.and_eq_true_iff.mp hruns).2⟩
  | init index call built now =>
    simp only [MeetsNoBody, not_forall, Option.mem_def] at h
    obtain ⟨execution, hexecution, hpath, hphase, hcall, hexecutes, hother⟩ := h
    have hbody : execution.path.afterInit (isAsync execution.workflowId) call
        (initWorkflow call now s.db).result = .body := by
      rw [hpath] at hcall ⊢
      exact body_of_executesUnforced hcall built hexecutes
    refine ⟨{ s with db := (initWorkflow call now s.db).stateAfter s.db }.move index execution
      .body, ?_, not_single_begin hexecution (by simp [hphase]) rfl (by simpa using hother)⟩
    simp only [executionSystem, hexecution, Option.bind_some,
      if_pos (show _ ∧ _ from ⟨hphase, hcall⟩), hbody]
  | _ => exact absurd trivial h

/-! ## Runs -/

/-- In every state of the run, at most one execution runs the body of each workflow. -/
def AlwaysSingle (executorId : String) (isAsync : String → Bool) (s : ExecutionState)
    (actions : List ExecutionAction) : Prop :=
  ∀ before after s', actions = before ++ after →
    (executionSystem executorId isAsync).run s before = some s' → SingleExecution s'

/-- A process never runs two bodies of one workflow at once exactly if no execution finds the
registry free, and no direct call finds the row missing, while a body runs that should have kept it
out. -/
theorem alwaysSingle_iff (executorId : String) (isAsync : String → Bool) (db : SystemDatabase)
    (actions : List ExecutionAction) :
    AlwaysSingle executorId isAsync (ExecutionState.initial db) actions ↔
      (executionSystem executorId isAsync).Along (MeetsNoBody executorId isAsync)
        (ExecutionState.initial db) actions := by
  constructor
  · intro halways
    rw [System.along_iff]
    intro before action after s' hactions hbefore
    by_contra hmeets
    obtain ⟨s'', hstep, hdouble⟩ := not_single_of_not_meetsNoBody hmeets
    refine hdouble (halways (before ++ [action]) after s'' (by simp [hactions]) ?_)
    rw [System.run_append, hbefore, Option.bind_some, System.run_cons, hstep]
    rfl
  · intro hmeets before after s' hactions hbefore
    rw [hactions, System.along_append] at hmeets
    have hs' : WellRegistered s' :=
      (executionSystem executorId isAsync).run_invariant (I := WellRegistered)
        (fun s action s' hs hmeets hstep ↦ wellRegistered_step hs hmeets hstep)
        (wellRegistered_initial db) hmeets.1 hbefore
    exact hs'.single

end Registry

/-! ## A direct call and the recovery of its own executor -/

/-- A workflow of the executor `e`, off any queue. -/
def startOf (workflowId : String) : WorkflowStart where
  wfName := "f"
  ctx := { workflowId := workflowId, executorId := some "e" }
  globalAppVersion := "v"
  serialization := "py_pickle"

def statusOf (workflowId : String) : WorkflowStatusInternal :=
  { startedStatus workflowId with executorId := some "e", appVersion := some "v" }

theorem built_statusOf {workflowId : String} (h : workflowId ≠ "") :
    Built (statusOf workflowId) := by
  refine .workflow (startOf workflowId) _ ?_
  simp [startOf, WorkflowStart.status, WorkflowStart.wfid, WorkflowStart.wfid.fromContext, h,
    statusOf, startedStatus, WorkflowStart.initialStatus]

/-- While the body of a direct call runs, the pending workflows of the executor are recovered. -/
def recoveredDuringCall : List ExecutionAction :=
  [.call "wf",
    .init 0 { status := statusOf "wf", ownerXid := some "x" } (built_statusOf (by decide)) 0,
    .recover "v",
    .init 1 { status := statusOf "wf", ownerXid := some "y", isRecoveryRequest := true }
      (built_statusOf (by decide)) 1,
    .acquire 1]

theorem not_alwaysSingle_recoveredDuringCall :
    ¬AlwaysSingle "e" (fun _ ↦ false) (ExecutionState.initial SystemDatabase.empty)
      recoveredDuringCall := by
  intro halways
  have hdouble : ∃ s, (executionSystem "e" fun _ ↦ false).run
      (ExecutionState.initial SystemDatabase.empty) recoveredDuringCall = some s ∧
        s.bodies "wf" = 2 := ⟨_, rfl, by decide⟩
  obtain ⟨s, hrun, htwo⟩ := hdouble
  have hone := halways recoveredDuringCall [] s (List.append_nil _).symm hrun "wf"
  rw [htwo] at hone
  exact absurd hone (by decide)

end DBOSModel.Core

import DBOSModel.Relational.Transaction
import DBOSModel.SysDb.Schema
import Mathlib.Algebra.Order.Field.Rat

/-!
# Operations on `workflow_status`

The functions of `dbos/_sys_db.py` that insert, update or delete status rows, each one
transaction: `init_workflow` with all the exits of `_insert_workflow_status`,
`update_workflow_outcome`, `cancel_workflows`, `resume_workflows`, `set_workflow_delay`,
`debounce_delayed_workflow`, `transition_delayed_workflows`, `clear_queue_assignment`,
`delete_workflows` and the deletions of `garbage_collect`. The argument `now` is the database
clock in milliseconds.

A call of `cancel_workflows` with `cancel_children` is a sequence of the transactions modelled
here, one for each level of the cascade.
-/

namespace DBOSModel.SysDb

open Relational

/-- Python's `int` on an exact number of seconds or milliseconds: truncation towards zero. -/
def pyInt (x : ℚ) : ℤ := x.num.tdiv x.den

/-- The text Python prints for an optional string. -/
def pyStr (x : Option String) : String := x.getD "None"

/-! ## `init_workflow` -/

/-- `WorkflowStatusInternal`, less the entries that `_insert_workflow_status` does not read. -/
structure WorkflowStatusInternal where
  workflowUuid : String
  status : WorkflowStatusString
  name : String
  className : Option String := none
  configName : Option String := none
  authenticatedUser : Option String := none
  assumedRole : Option String := none
  authenticatedRoles : Option String := none
  output : Option String := none
  error : Option String := none
  queueName : Option String := none
  executorId : Option String := none
  appVersion : Option String := none
  appId : Option String := none
  workflowTimeoutMs : Option ℤ := none
  workflowDeadlineEpochMs : Option ℤ := none
  deduplicationId : Option String := none
  priority : ℤ := 0
  inputs : String := ""
  queuePartitionKey : Option String := none
  parentWorkflowId : Option String := none
  serialization : Option String := none
  delayUntilEpochMs : Option ℤ := none
  attributes : Option String := none
  scheduleName : Option String := none
  debounceDeadlineEpochMs : Option ℤ := none
  isDebounced : Bool := false
deriving DecidableEq

/-- The arguments of one `init_workflow` call. -/
structure InitCall where
  status : WorkflowStatusInternal
  maxRecoveryAttempts : Option ℤ := none
  ownerXid : Option String := none
  isRecoveryRequest : Bool := false
  isDequeuedRequest : Bool := false
deriving DecidableEq

/-- What `init_workflow` returns, with the `serialization` it writes back into the status. -/
structure InitResult where
  status : WorkflowStatusString
  workflowDeadlineEpochMs : Option ℤ
  shouldExecute : Bool
  serialization : Option String
deriving DecidableEq

namespace InitCall

variable (call : InitCall)

def forceExecute : Bool := call.isRecoveryRequest || call.isDequeuedRequest

/-- The `VALUES` of the upsert. -/
def insertedRow (now : ℤ) : WorkflowStatusRow where
  workflowUuid := call.status.workflowUuid
  status := call.status.status
  name := call.status.name
  className := call.status.className
  configName := call.status.configName
  output := call.status.output
  error := call.status.error
  executorId := call.status.executorId
  createdAt := now
  updatedAt := now
  applicationVersion := call.status.appVersion
  applicationId := call.status.appId
  authenticatedUser := call.status.authenticatedUser
  authenticatedRoles := call.status.authenticatedRoles
  assumedRole := call.status.assumedRole
  queueName := call.status.queueName
  recoveryAttempts := if call.status.status.isEnqueued then 0 else 1
  workflowTimeoutMs := call.status.workflowTimeoutMs
  workflowDeadlineEpochMs := call.status.workflowDeadlineEpochMs
  deduplicationId := call.status.deduplicationId
  priority := call.status.priority
  inputs := some call.status.inputs
  serialization := call.status.serialization
  queuePartitionKey := call.status.queuePartitionKey
  parentWorkflowId := call.status.parentWorkflowId
  ownerXid := call.ownerXid
  delayUntilEpochMs := call.status.delayUntilEpochMs
  attributes := call.status.attributes
  scheduleName := call.status.scheduleName
  debounceDeadlineEpochMs := call.status.debounceDeadlineEpochMs
  isDebounced := call.status.isDebounced

/-- `ON CONFLICT (workflow_uuid) DO UPDATE SET update_values`. -/
def conflictUpdate (now : ℤ) (row : WorkflowStatusRow) : WorkflowStatusRow :=
  { row with
    recoveryAttempts :=
      if row.status.isEnqueued then row.recoveryAttempts
      else row.recoveryAttempts + (if call.forceExecute then 1 else 0)
    updatedAt := now
    -- Don't update an existing executor ID when enqueueing a workflow.
    executorId :=
      if call.status.status.isEnqueued then row.executorId else call.status.executorId }

/-- The unique index on `(queue_name, deduplication_id)` rejects the new row. -/
def isDeduplicated (db : SystemDatabase) : Bool :=
  db.statusRows.any fun row ↦
    call.status.deduplicationId.isSome && call.status.queueName.isSome &&
      row.deduplicationId == call.status.deduplicationId && row.queueName == call.status.queueName

/-- The upsert and the row it returns. The conflict target is checked first, so an existing
workflow is updated even when another row holds its deduplication ID. -/
def upsert (now : ℤ) (db : SystemDatabase) : Except DBOSError (WorkflowStatusRow × SystemDatabase) :=
  match db.workflowStatus.lookup call.status.workflowUuid with
  | some row => .ok (call.conflictUpdate now row,
      { db with
        workflowStatus := db.workflowStatus.update
          (fun r ↦ r.workflowUuid = call.status.workflowUuid) (call.conflictUpdate now) })
  | none =>
    if call.isDeduplicated db then
      .error (.queueDeduplicated call.status.workflowUuid (pyStr call.status.queueName)
        (pyStr call.status.deduplicationId))
    else
      match db.workflowStatus.insertNew (call.insertedRow now) with
      | none => .error (.uniqueViolation "workflow_status")
      | some rows => .ok (call.insertedRow now, { db with workflowStatus := rows })

/-- The name, class and configuration checks against the returned row. -/
def mismatch (row : WorkflowStatusRow) : Option String :=
  if row.name ≠ call.status.name then
    some ("Workflow already exists with a different function name: " ++ row.name ++
      ", but the provided function name is: " ++ call.status.name)
  else if row.className ≠ call.status.className then
    some ("Workflow already exists with a different class name: " ++ pyStr row.className ++
      ", but the provided class name is: " ++ pyStr call.status.className)
  else if row.configName ≠ call.status.configName then
    some ("Workflow already exists with a different config name: " ++ pyStr row.configName ++
      ", but the provided config name is: " ++ pyStr call.status.configName)
  else none

/-- The dead-letter branch is taken. -/
def exceedsRecoveryAttempts (row : WorkflowStatusRow) : Bool :=
  match call.maxRecoveryAttempts with
  | none => false
  | some limit =>
    !row.status.isComplete && decide (limit + 1 < row.recoveryAttempts) &&
      call.ownerXid != row.ownerXid

/-- `should_execute` at the end of `_insert_workflow_status`. -/
def shouldExecute (row : WorkflowStatusRow) : Bool :=
  !(call.ownerXid != row.ownerXid && !call.isDequeuedRequest && !call.isRecoveryRequest)

end InitCall

/-- `SET status = MAX_RECOVERY_ATTEMPTS_EXCEEDED, ...` of the dead-letter branch. -/
def deadLetterUpdate (row : WorkflowStatusRow) : WorkflowStatusRow :=
  { row with
    status := .maxRecoveryAttemptsExceeded
    deduplicationId := none
    startedAtEpochMs := none
    queueName := none }

/-- `init_workflow`: one transaction around `_insert_workflow_status`. -/
def initWorkflow (call : InitCall) (now : ℤ) (db : SystemDatabase) :
    Ending SystemDatabase DBOSError InitResult :=
  match call.upsert now db with
  | .error error => .raised error
  | .ok (row, db') =>
    match call.mismatch row with
    | some message => .raised (.conflictingWorkflow call.status.workflowUuid message)
    | none =>
      if call.exceedsRecoveryAttempts row then
        -- `conn.commit()` comes before the exception, so this branch is not rolled back
        .raisedAfterCommit
          (.maxRecoveryAttemptsExceeded call.status.workflowUuid (call.maxRecoveryAttempts.getD 0))
          { db' with
            workflowStatus := db'.workflowStatus.update
              (fun r ↦ r.workflowUuid = call.status.workflowUuid && r.status = .pending)
              deadLetterUpdate }
      else
        .returned
          { status := row.status
            workflowDeadlineEpochMs := row.workflowDeadlineEpochMs
            shouldExecute := call.shouldExecute row
            serialization := row.serialization }
          db'

/-! ## Outcomes, cancellation and resumption -/

def outcomeUpdate (now : ℤ) (status : WorkflowStatusString) (output error : Option String)
    (row : WorkflowStatusRow) : WorkflowStatusRow :=
  { row with
    status := status
    output := output
    error := error
    deduplicationId := none
    updatedAt := now
    completedAt := some now }

/-- `update_workflow_outcome`: the guard is on `CANCELLED` only. -/
def updateWorkflowOutcome (workflowId : String) (status : WorkflowStatusString)
    (output error : Option String) (now : ℤ) (db : SystemDatabase) :
    Ending SystemDatabase DBOSError Unit :=
  let matched (row : WorkflowStatusRow) : Bool :=
    row.workflowUuid = workflowId && row.status ≠ .cancelled
  let db' := { db with
    workflowStatus := db.workflowStatus.update matched (outcomeUpdate now status output error) }
  if db.workflowStatus.count matched = 0 then
    match db.workflowStatus.lookup workflowId with
    | some row =>
      if row.status = .cancelled then .raised (.awaitedWorkflowCancelled workflowId)
      else .returned () db'
    | none => .returned () db'
  else .returned () db'

def cancelUpdate (now : ℤ) (row : WorkflowStatusRow) : WorkflowStatusRow :=
  { row with
    status := .cancelled
    queueName := none
    deduplicationId := none
    startedAtEpochMs := none
    updatedAt := now
    completedAt := some now }

/-- `_cancel_workflows`: one level of a cancellation. -/
def cancelWorkflows (workflowIds : List String) (now : ℤ) (db : SystemDatabase) : SystemDatabase :=
  { db with
    workflowStatus := db.workflowStatus.update
      (fun row ↦ row.workflowUuid ∈ workflowIds && !row.status.isComplete) (cancelUpdate now) }

def resumeUpdate (queueName : Option String) (now : ℤ) (row : WorkflowStatusRow) :
    WorkflowStatusRow :=
  { row with
    status := .enqueued
    queueName := some (queueName.getD internalQueueName)
    recoveryAttempts := 0
    workflowDeadlineEpochMs := none
    deduplicationId := none
    startedAtEpochMs := none
    updatedAt := now
    completedAt := none }

def resumeWorkflows (workflowIds : List String) (queueName : Option String) (now : ℤ)
    (db : SystemDatabase) : SystemDatabase :=
  { db with
    workflowStatus := db.workflowStatus.update
      (fun row ↦ row.workflowUuid ∈ workflowIds && !row.status.isComplete)
      (resumeUpdate queueName now) }

/-! ## Delays -/

/-- The delay that `set_workflow_delay` resolves from its two optional arguments; `time` is the
caller's clock in seconds. -/
def resolveDelay (delaySeconds : Option ℚ) (delayUntilEpochMs : Option ℤ) (time : ℚ) :
    Except DBOSError ℤ :=
  match delayUntilEpochMs, delaySeconds with
  | some _, some _ =>
    .error (.dbosException "Specify either delay_seconds or delay_until_epoch_ms, not both")
  | some delayUntil, none =>
    if delayUntil < 0 then .error (.dbosException "delay_until_epoch_ms must be >= 0")
    else .ok delayUntil
  | none, some delay =>
    if delay < 0 then .error (.dbosException "delay_seconds must be >= 0")
    else .ok (pyInt ((time + delay) * 1000))
  | none, none =>
    .error (.dbosException "Must specify either delay_seconds or delay_until_epoch_ms")

def setWorkflowDelay (workflowId : String) (delaySeconds : Option ℚ)
    (delayUntilEpochMs : Option ℤ) (time : ℚ) (now : ℤ) (db : SystemDatabase) :
    Ending SystemDatabase DBOSError Unit :=
  match resolveDelay delaySeconds delayUntilEpochMs time with
  | .error error => .raised error
  | .ok resolved => .returned ()
      { db with
        workflowStatus := db.workflowStatus.update
          (fun row ↦ row.workflowUuid = workflowId && row.status = .delayed)
          (fun row ↦ { row with delayUntilEpochMs := some resolved, updatedAt := now }) }

structure DebounceResult where
  bouncedWorkflowId : Option String
  holderWorkflowId : Option String
  holderIsDebounced : Bool
  holderWorkflowName : Option String
deriving DecidableEq

/-- The arguments of `debounce_delayed_workflow`. -/
structure DebounceCall where
  workflowName : String
  queueName : String
  deduplicationId : String
  delayUntilEpochMs : ℤ
  inputs : String
  serialization : Option String
deriving DecidableEq

namespace DebounceCall

variable (call : DebounceCall)

def holds (row : WorkflowStatusRow) : Bool :=
  row.queueName = some call.queueName && row.deduplicationId = some call.deduplicationId

/-- The rows the bounce updates. -/
def bounces (row : WorkflowStatusRow) : Bool :=
  row.name = call.workflowName && call.holds row && row.status = .delayed && row.isDebounced

/-- `capped_delay`: the new delay, at most the debounce deadline. -/
def cappedDelay (row : WorkflowStatusRow) : ℤ :=
  match row.debounceDeadlineEpochMs with
  | some deadline => if deadline < call.delayUntilEpochMs then deadline else call.delayUntilEpochMs
  | none => call.delayUntilEpochMs

def bounceUpdate (now : ℤ) (row : WorkflowStatusRow) : WorkflowStatusRow :=
  { row with
    delayUntilEpochMs := some (call.cappedDelay row)
    inputs := some call.inputs
    serialization := call.serialization
    updatedAt := now }

end DebounceCall

/-- `debounce_delayed_workflow` on one connection. -/
def debounceDelayedWorkflow (call : DebounceCall) (now : ℤ) (db : SystemDatabase) :
    DebounceResult × SystemDatabase :=
  let db' := { db with
    workflowStatus := db.workflowStatus.update call.bounces (call.bounceUpdate now) }
  match db.statusRows.find? call.bounces with
  | some row => (⟨some row.workflowUuid, none, false, none⟩, db')
  | none =>
    match db.statusRows.find? call.holds with
    | some holder => (⟨none, some holder.workflowUuid, holder.isDebounced, some holder.name⟩, db')
    | none => (⟨none, none, false, none⟩, db')

def transitionUpdate (row : WorkflowStatusRow) : WorkflowStatusRow :=
  { row with
    status := .enqueued
    deduplicationId := if row.isDebounced then none else row.deduplicationId }

/-- `transition_delayed_workflows`, with the executor's clock. -/
def transitionDelayedWorkflows (nowMs : ℤ) (db : SystemDatabase) : SystemDatabase :=
  { db with
    workflowStatus := db.workflowStatus.update
      (fun row ↦ row.status = .delayed &&
        (match row.delayUntilEpochMs with
        | some delayUntil => decide (delayUntil ≤ nowMs)
        | none => false))
      transitionUpdate }

/-! ## Recovery of queued workflows, deletion, garbage collection -/

def clearQueueUpdate (row : WorkflowStatusRow) : WorkflowStatusRow :=
  { row with status := .enqueued, startedAtEpochMs := none }

def clearQueueAssignment (workflowId : String) (db : SystemDatabase) : SystemDatabase :=
  { db with
    workflowStatus := db.workflowStatus.update
      (fun row ↦ row.workflowUuid = workflowId && row.queueName.isSome && row.status = .pending)
      clearQueueUpdate }

def deleteWorkflows (workflowIds : List String) (db : SystemDatabase) : SystemDatabase :=
  db.deleteStatusWhere fun row ↦ row.workflowUuid ∈ workflowIds

/-- `gc_filter`. -/
def gcFilter (cutoffEpochTimestampMs : ℤ) (row : WorkflowStatusRow) : Bool :=
  decide (row.createdAt < cutoffEpochTimestampMs) && !row.status.isActive

/-- The rows of one deletion of `garbage_collect`: the whole filter, or a batch of it above a
watermark and up to the created-at step of that batch. -/
def gcMatches (cutoffEpochTimestampMs : ℤ) (batch : Option (ℤ × ℤ)) (row : WorkflowStatusRow) :
    Bool :=
  gcFilter cutoffEpochTimestampMs row &&
    (match batch with
    | none => true
    | some (watermark, step) => decide (watermark < row.createdAt) && decide (row.createdAt ≤ step))

def gcDelete (cutoffEpochTimestampMs : ℤ) (batch : Option (ℤ × ℤ)) (db : SystemDatabase) :
    SystemDatabase :=
  db.deleteStatusWhere (gcMatches cutoffEpochTimestampMs batch)

end DBOSModel.SysDb

import DBOSModel.Relational.Table
import Mathlib.Data.Rat.Defs

/-!
# The system database schema

The tables of `dbos/_schemas/system_database.py` that the modelled operations read or write, one
structure a row, with the columns of the source in camel case. Times are Unix epoch milliseconds.
A nullable column is an `Option`; `status`, `name` and `recovery_attempts` are nullable in the
schema but every statement of the source writes them, so they are plain here. The JSON column
`attributes` is kept as its text. The queue, schedule and migration tables belong to other modules.
-/

namespace DBOSModel.SysDb

open Relational

/-- `INTERNAL_QUEUE_NAME`. -/
def internalQueueName : String := "_dbos_internal_queue"

inductive WorkflowStatusString where
  | pending
  | success
  | error
  | maxRecoveryAttemptsExceeded
  | cancelled
  | enqueued
  | delayed
deriving DecidableEq, Repr

/-- `_enqueued_statuses`: the workflow is waiting on a queue. -/
def WorkflowStatusString.isEnqueued : WorkflowStatusString → Bool
  | enqueued => true
  | delayed => true
  | _ => false

/-- The statuses that `cancel_workflows` and `resume_workflows` leave alone. -/
def WorkflowStatusString.isComplete : WorkflowStatusString → Bool
  | success => true
  | error => true
  | _ => false

/-- `workflow_is_active`. -/
def WorkflowStatusString.isActive : WorkflowStatusString → Bool
  | enqueued => true
  | pending => true
  | delayed => true
  | _ => false

theorem WorkflowStatusString.not_isActive_of_isComplete {status : WorkflowStatusString}
    (h : status.isComplete = true) : status.isActive = false := by
  cases status <;> first | rfl | cases h

structure WorkflowStatusRow where
  workflowUuid : String
  status : WorkflowStatusString
  name : String
  authenticatedUser : Option String := none
  assumedRole : Option String := none
  authenticatedRoles : Option String := none
  output : Option String := none
  error : Option String := none
  executorId : Option String := none
  createdAt : ℤ := 0
  updatedAt : ℤ := 0
  applicationVersion : Option String := none
  applicationId : Option String := none
  className : Option String := none
  configName : Option String := none
  recoveryAttempts : ℤ := 0
  queueName : Option String := none
  workflowTimeoutMs : Option ℤ := none
  workflowDeadlineEpochMs : Option ℤ := none
  startedAtEpochMs : Option ℤ := none
  deduplicationId : Option String := none
  inputs : Option String := none
  priority : ℤ := 0
  queuePartitionKey : Option String := none
  forkedFrom : Option String := none
  wasForkedFrom : Bool := false
  ownerXid : Option String := none
  parentWorkflowId : Option String := none
  serialization : Option String := none
  delayUntilEpochMs : Option ℤ := none
  rateLimited : Bool := false
  completedAt : Option ℤ := none
  attributes : Option String := none
  scheduleName : Option String := none
  debounceDeadlineEpochMs : Option ℤ := none
  isDebounced : Bool := false
deriving DecidableEq

structure OperationOutputRow where
  workflowUuid : String
  functionId : ℤ
  functionName : String
  output : Option String := none
  error : Option String := none
  childWorkflowId : Option String := none
  startedAtEpochMs : Option ℤ := none
  completedAtEpochMs : Option ℤ := none
  serialization : Option String := none
deriving DecidableEq

/-- The primary key of `operation_outputs`. -/
def OperationOutputRow.key (row : OperationOutputRow) : String × ℤ :=
  (row.workflowUuid, row.functionId)

structure NotificationRow where
  destinationUuid : String
  topic : String
  message : String
  createdAtEpochMs : ℤ
  messageUuid : String
  serialization : Option String := none
  consumed : Bool := false
deriving DecidableEq

structure WorkflowEventRow where
  workflowUuid : String
  key : String
  value : String
  serialization : Option String := none
deriving DecidableEq

def WorkflowEventRow.primaryKey (row : WorkflowEventRow) : String × String :=
  (row.workflowUuid, row.key)

structure WorkflowEventHistoryRow where
  workflowUuid : String
  key : String
  value : String
  functionId : ℤ
  serialization : Option String := none
deriving DecidableEq

def WorkflowEventHistoryRow.primaryKey (row : WorkflowEventHistoryRow) : String × String × ℤ :=
  (row.workflowUuid, row.key, row.functionId)

structure StreamRow where
  workflowUuid : String
  key : String
  value : String
  offset : ℤ
  functionId : ℤ
  serialization : Option String := none
deriving DecidableEq

def StreamRow.primaryKey (row : StreamRow) : String × String × ℤ :=
  (row.workflowUuid, row.key, row.offset)

structure ApplicationVersionRow where
  versionId : String
  versionName : String
  versionTimestamp : ℤ
deriving DecidableEq

structure SystemDatabase where
  workflowStatus : Table WorkflowStatusRow.workflowUuid
  operationOutputs : Table OperationOutputRow.key
  notifications : Table NotificationRow.messageUuid
  workflowEvents : Table WorkflowEventRow.primaryKey
  workflowEventsHistory : Table WorkflowEventHistoryRow.primaryKey
  streams : Table StreamRow.primaryKey
  applicationVersions : Table ApplicationVersionRow.versionId

namespace SystemDatabase

/-- The database right after the migrations. -/
def empty : SystemDatabase where
  workflowStatus := Table.empty
  operationOutputs := Table.empty
  notifications := Table.empty
  workflowEvents := Table.empty
  workflowEventsHistory := Table.empty
  streams := Table.empty
  applicationVersions := Table.empty

/-- The status rows, in insertion order. -/
def statusRows (db : SystemDatabase) : List WorkflowStatusRow := db.workflowStatus.rows

/-- The workflow exists: what the foreign keys to `workflow_status` check. -/
def hasWorkflow (db : SystemDatabase) (workflowId : String) : Bool :=
  (db.workflowStatus.lookup workflowId).isSome

theorem hasWorkflow_iff {db : SystemDatabase} {workflowId : String} :
    db.hasWorkflow workflowId ↔ ∃ row ∈ db.statusRows, row.workflowUuid = workflowId := by
  rw [hasWorkflow, Option.isSome_iff_exists]
  exact exists_congr fun row ↦ db.workflowStatus.lookup_eq_some

/-- `DELETE FROM workflow_status WHERE p`, with the cascades of the foreign keys. -/
def deleteStatusWhere (db : SystemDatabase) (p : WorkflowStatusRow → Bool) : SystemDatabase :=
  let gone (workflowId : String) : Bool :=
    db.workflowStatus.rows.any fun row ↦ p row && row.workflowUuid == workflowId
  { db with
    workflowStatus := db.workflowStatus.delete p
    operationOutputs := db.operationOutputs.delete fun row ↦ gone row.workflowUuid
    notifications := db.notifications.delete fun row ↦ gone row.destinationUuid
    workflowEvents := db.workflowEvents.delete fun row ↦ gone row.workflowUuid
    workflowEventsHistory := db.workflowEventsHistory.delete fun row ↦ gone row.workflowUuid
    streams := db.streams.delete fun row ↦ gone row.workflowUuid }

end SystemDatabase

/-- The databases that can hold the system tables. -/
inductive Dialect where
  | postgresql
  | sqlite
deriving DecidableEq

/-- The exceptions the modelled operations raise, with the data their messages are built from. -/
inductive DBOSError where
  | conflictingWorkflow (workflowId message : String)
  | queueDeduplicated (workflowId queueName deduplicationId : String)
  | maxRecoveryAttemptsExceeded (workflowId : String) (maxRetries : ℤ)
  | awaitedWorkflowCancelled (workflowId : String)
  | awaitedWorkflowMaxRecoveryAttemptsExceeded (workflowId : String)
  | nonExistentWorkflow (destination workflowId : String)
  | unexpectedStep (workflowId : String) (stepId : ℤ) (expectedName recordedName : String)
  | dbosException (message : String)
  /-- `DBOSWorkflowCancelledError`, a `BaseException`. -/
  | workflowCancelled (message : String)
  /-- `DBOSWorkflowConflictIDError`, a `BaseException`. -/
  | workflowConflictID (workflowId : String)
  /-- A unique constraint violation that no handler translates. -/
  | uniqueViolation (table : String)
  /-- A foreign key violation that no handler translates. -/
  | foreignKeyViolation (table : String)
  | assertionError (message : String)
  | typeError (message : String)
  | valueError (message : String)
  | exception (message : String)
deriving DecidableEq, Repr

end DBOSModel.SysDb

import DBOSModel.SysDb.ChildSearch
import DBOSModel.SysDb.ForkDescendants

/-!
# Export and import of workflows

`export_workflow` reads, for a workflow and on request its descendants, the status row and the rows
of four more tables into dictionaries. `import_workflow` inserts one row for each of these in one
transaction. Both sides name every column by hand; `owner_xid` is left out, since the token of the
transaction that inserted a row means nothing in another database.

The importer also reads dictionaries of older versions, in which some keys are missing.
-/

namespace DBOSModel.SysDb

open Relational

/-! ## Dictionaries -/

/-- The `workflow_status` dictionary. A column that may be missing and is not nullable is an
`Option` here; a missing nullable column reads as null. -/
structure ExportedStatus where
  workflowUuid : String
  status : WorkflowStatusString
  name : String
  authenticatedUser : Option String
  assumedRole : Option String
  authenticatedRoles : Option String
  output : Option String
  error : Option String
  executorId : Option String
  createdAt : ℤ
  updatedAt : ℤ
  applicationVersion : Option String
  applicationId : Option String
  className : Option String
  configName : Option String
  recoveryAttempts : ℤ
  queueName : Option String
  workflowTimeoutMs : Option ℤ
  workflowDeadlineEpochMs : Option ℤ
  startedAtEpochMs : Option ℤ
  deduplicationId : Option String
  inputs : Option String
  priority : ℤ
  queuePartitionKey : Option String
  forkedFrom : Option String
  parentWorkflowId : Option String
  serialization : Option String
  delayUntilEpochMs : Option ℤ
  wasForkedFrom : Option Bool
  rateLimited : Option Bool
  completedAt : Option ℤ
  attributes : Option String
  scheduleName : Option String
  debounceDeadlineEpochMs : Option ℤ
  isDebounced : Option Bool
deriving DecidableEq

/-- `ExportedWorkflow`. The dictionaries of the other tables have the columns of their rows. -/
structure ExportedWorkflow where
  workflowStatus : ExportedStatus
  operationOutputs : List OperationOutputRow
  workflowEvents : List WorkflowEventRow
  workflowEventsHistory : List WorkflowEventHistoryRow
  streams : List StreamRow
deriving DecidableEq

/-- The columns that `export_workflow` selects. -/
def exportedStatus (row : WorkflowStatusRow) : ExportedStatus where
  workflowUuid := row.workflowUuid
  status := row.status
  name := row.name
  authenticatedUser := row.authenticatedUser
  assumedRole := row.assumedRole
  authenticatedRoles := row.authenticatedRoles
  output := row.output
  error := row.error
  executorId := row.executorId
  createdAt := row.createdAt
  updatedAt := row.updatedAt
  applicationVersion := row.applicationVersion
  applicationId := row.applicationId
  className := row.className
  configName := row.configName
  recoveryAttempts := row.recoveryAttempts
  queueName := row.queueName
  workflowTimeoutMs := row.workflowTimeoutMs
  workflowDeadlineEpochMs := row.workflowDeadlineEpochMs
  startedAtEpochMs := row.startedAtEpochMs
  deduplicationId := row.deduplicationId
  inputs := row.inputs
  priority := row.priority
  queuePartitionKey := row.queuePartitionKey
  forkedFrom := row.forkedFrom
  parentWorkflowId := row.parentWorkflowId
  serialization := row.serialization
  delayUntilEpochMs := row.delayUntilEpochMs
  wasForkedFrom := some row.wasForkedFrom
  rateLimited := some row.rateLimited
  completedAt := row.completedAt
  attributes := row.attributes
  scheduleName := row.scheduleName
  debounceDeadlineEpochMs := row.debounceDeadlineEpochMs
  isDebounced := some row.isDebounced

/-- The values that `import_workflow` inserts into `workflow_status`. -/
def importedStatus (status : ExportedStatus) : WorkflowStatusRow where
  workflowUuid := status.workflowUuid
  status := status.status
  name := status.name
  authenticatedUser := status.authenticatedUser
  assumedRole := status.assumedRole
  authenticatedRoles := status.authenticatedRoles
  output := status.output
  error := status.error
  executorId := status.executorId
  createdAt := status.createdAt
  updatedAt := status.updatedAt
  applicationVersion := status.applicationVersion
  applicationId := status.applicationId
  className := status.className
  configName := status.configName
  recoveryAttempts := status.recoveryAttempts
  queueName := status.queueName
  workflowTimeoutMs := status.workflowTimeoutMs
  workflowDeadlineEpochMs := status.workflowDeadlineEpochMs
  startedAtEpochMs := status.startedAtEpochMs
  deduplicationId := status.deduplicationId
  inputs := status.inputs
  priority := status.priority
  queuePartitionKey := status.queuePartitionKey
  forkedFrom := status.forkedFrom
  parentWorkflowId := status.parentWorkflowId
  serialization := status.serialization
  delayUntilEpochMs := status.delayUntilEpochMs
  -- NOT NULL columns: False for dictionaries exported before these fields were included
  wasForkedFrom := status.wasForkedFrom.getD false
  rateLimited := status.rateLimited.getD false
  completedAt := status.completedAt
  attributes := status.attributes
  scheduleName := status.scheduleName
  debounceDeadlineEpochMs := status.debounceDeadlineEpochMs
  isDebounced := status.isDebounced.getD false

def exportedOutput (row : OperationOutputRow) : OperationOutputRow where
  workflowUuid := row.workflowUuid
  functionId := row.functionId
  functionName := row.functionName
  output := row.output
  error := row.error
  childWorkflowId := row.childWorkflowId
  startedAtEpochMs := row.startedAtEpochMs
  completedAtEpochMs := row.completedAtEpochMs
  serialization := row.serialization

def importedOutput (output : OperationOutputRow) : OperationOutputRow where
  workflowUuid := output.workflowUuid
  functionId := output.functionId
  functionName := output.functionName
  output := output.output
  error := output.error
  childWorkflowId := output.childWorkflowId
  startedAtEpochMs := output.startedAtEpochMs
  completedAtEpochMs := output.completedAtEpochMs
  serialization := output.serialization

def exportedEvent (row : WorkflowEventRow) : WorkflowEventRow where
  workflowUuid := row.workflowUuid
  key := row.key
  value := row.value
  serialization := row.serialization

def importedEvent (event : WorkflowEventRow) : WorkflowEventRow where
  workflowUuid := event.workflowUuid
  key := event.key
  value := event.value
  serialization := event.serialization

def exportedHistory (row : WorkflowEventHistoryRow) : WorkflowEventHistoryRow where
  workflowUuid := row.workflowUuid
  key := row.key
  value := row.value
  functionId := row.functionId
  serialization := row.serialization

def importedHistory (history : WorkflowEventHistoryRow) : WorkflowEventHistoryRow where
  workflowUuid := history.workflowUuid
  key := history.key
  value := history.value
  functionId := history.functionId
  serialization := history.serialization

def exportedStream (row : StreamRow) : StreamRow where
  workflowUuid := row.workflowUuid
  key := row.key
  value := row.value
  offset := row.offset
  functionId := row.functionId
  serialization := row.serialization

def importedStream (stream : StreamRow) : StreamRow where
  workflowUuid := stream.workflowUuid
  key := stream.key
  value := stream.value
  offset := stream.offset
  functionId := stream.functionId
  serialization := stream.serialization

/-! ## Export -/

/-- The dictionaries of one workflow, whose status row was found. -/
def exportedWorkflow (db : SystemDatabase) (row : WorkflowStatusRow) : ExportedWorkflow where
  workflowStatus := exportedStatus row
  operationOutputs := (db.operationOutputs.rows.filter fun output ↦
    output.workflowUuid = row.workflowUuid).map exportedOutput
  workflowEvents := (db.workflowEvents.rows.filter fun event ↦
    event.workflowUuid = row.workflowUuid).map exportedEvent
  workflowEventsHistory := (db.workflowEventsHistory.rows.filter fun history ↦
    history.workflowUuid = row.workflowUuid).map exportedHistory
  streams := (db.streams.rows.filter fun stream ↦
    stream.workflowUuid = row.workflowUuid).map exportedStream

/-- The loop over the workflow IDs, in one transaction. -/
def exportAll (db : SystemDatabase) : List String → Except DBOSError (List ExportedWorkflow)
  | [] => .ok []
  | workflowId :: rest =>
    match db.workflowStatus.lookup workflowId with
    | none => .error (.nonExistentWorkflow "export" workflowId)
    | some row => (exportAll db rest).map fun exported ↦ exportedWorkflow db row :: exported

/-- `export_workflow` -/
def exportWorkflow (workflowId : String) (exportChildren : Bool) (db : SystemDatabase) :
    Except DBOSError (List ExportedWorkflow) :=
  exportAll db (workflowId :: if exportChildren then getWorkflowChildren workflowId db else [])

/-! ## Import -/

/-- One `INSERT` of the import. -/
inductive ImportedRow where
  | workflowStatus (row : WorkflowStatusRow)
  | operationOutput (row : OperationOutputRow)
  | workflowEvent (row : WorkflowEventRow)
  | workflowEventHistory (row : WorkflowEventHistoryRow)
  | stream (row : StreamRow)
deriving DecidableEq

/-- The inserts for one workflow, in order. -/
def ExportedWorkflow.rows (workflow : ExportedWorkflow) : List ImportedRow :=
  .workflowStatus (importedStatus workflow.workflowStatus) ::
    (workflow.operationOutputs.map (ImportedRow.operationOutput ∘ importedOutput) ++
      workflow.workflowEvents.map (ImportedRow.workflowEvent ∘ importedEvent) ++
      workflow.workflowEventsHistory.map (ImportedRow.workflowEventHistory ∘ importedHistory) ++
      workflow.streams.map (ImportedRow.stream ∘ importedStream))

/-- The unique index `uq_workflow_status_dedup_id` forbids the two rows to be stored together. -/
def SameDeduplication (left right : WorkflowStatusRow) : Prop :=
  left.queueName.isSome ∧ left.queueName = right.queueName ∧
    left.deduplicationId.isSome ∧ left.deduplicationId = right.deduplicationId

instance : DecidableRel SameDeduplication := fun left right ↦
  inferInstanceAs (Decidable (left.queueName.isSome ∧ left.queueName = right.queueName ∧
    left.deduplicationId.isSome ∧ left.deduplicationId = right.deduplicationId))

/-- An `INSERT` into a table that refers to `workflow_status`. -/
def insertOwned {κ ρ : Type} [DecidableEq κ] {key : ρ → κ} (name : String) (db : SystemDatabase)
    (workflowId : String) (table : Table key) (row : ρ) : Except DBOSError (Table key) :=
  if db.hasWorkflow workflowId then
    match table.insertNew row with
    | none => .error (.uniqueViolation name)
    | some table' => .ok table'
  else .error (.foreignKeyViolation name)

def insertRow (db : SystemDatabase) : ImportedRow → Except DBOSError SystemDatabase
  | .workflowStatus row =>
    if db.statusRows.any fun other ↦ decide (SameDeduplication other row) then
      .error (.uniqueViolation "workflow_status")
    else
      match db.workflowStatus.insertNew row with
      | none => .error (.uniqueViolation "workflow_status")
      | some table => .ok { db with workflowStatus := table }
  | .operationOutput row =>
    (insertOwned "operation_outputs" db row.workflowUuid db.operationOutputs row).map
      fun table ↦ { db with operationOutputs := table }
  | .workflowEvent row =>
    (insertOwned "workflow_events" db row.workflowUuid db.workflowEvents row).map
      fun table ↦ { db with workflowEvents := table }
  | .workflowEventHistory row =>
    (insertOwned "workflow_events_history" db row.workflowUuid db.workflowEventsHistory row).map
      fun table ↦ { db with workflowEventsHistory := table }
  | .stream row =>
    (insertOwned "streams" db row.workflowUuid db.streams row).map
      fun table ↦ { db with streams := table }

/-- The inserts in order, on the working state of the transaction. An insert fails on a constraint,
or for a reason of its own such as a lost connection; the earlier inserts are in the state then. -/
def insertRows (fault : ℕ → Option DBOSError) :
    ℕ → List ImportedRow → SystemDatabase → Except DBOSError Unit × SystemDatabase
  | _, [], db => (.ok (), db)
  | index, row :: rest, db =>
    match fault index with
    | some error => (.error error, db)
    | none =>
      match insertRow db row with
      | .error error => (.error error, db)
      | .ok db' => insertRows fault (index + 1) rest db'

/-- `import_workflow`: the transaction commits at the end of the block, and is rolled back when an
exception leaves it. -/
def importWorkflow (fault : ℕ → Option DBOSError) (workflows : List ExportedWorkflow)
    (db : SystemDatabase) : Ending SystemDatabase DBOSError Unit :=
  match insertRows fault 0 (workflows.flatMap ExportedWorkflow.rows) db with
  | (.ok (), working) => .returned () working
  | (.error error, _) => .raised error

end DBOSModel.SysDb

import DBOSModel.SysDb.WorkflowStatus

/-!
# `fork_workflow`

One transaction inserts the status rows of all forks of a batch, marks the originals, and copies
the checkpoints, the event history, the current events and the streams of each original below the
start step of its fork. The four copies are joins with the batch's mapping
`(orig_id, fork_id, start_step)`, which keeps only the entries with a start step above 1.
-/

namespace DBOSModel.SysDb

open Relational

/-- One entry of the batch: the three parallel lists of the source, zipped. -/
structure ForkEntry where
  originalWorkflowId : String
  forkedWorkflowId : String
  startStep : ℤ
deriving DecidableEq

/-- The keyword arguments of `fork_workflow`, and the batch. -/
structure ForkCall where
  entries : List ForkEntry
  applicationVersion : Option String := none
  queueName : Option String := none
  queuePartitionKey : Option String := none
  replacementChildren : List (String × String) := []
deriving DecidableEq

namespace ForkCall

variable (call : ForkCall)

/-- The status row of one fork; columns that the insert does not name have their defaults. -/
def forkedRow (now : ℤ) (entry : ForkEntry) (original : WorkflowStatusRow) : WorkflowStatusRow where
  workflowUuid := entry.forkedWorkflowId
  status := .enqueued
  name := original.name
  className := original.className
  configName := original.configName
  applicationVersion := call.applicationVersion
  applicationId := original.applicationId
  authenticatedUser := original.authenticatedUser
  authenticatedRoles := original.authenticatedRoles
  serialization := original.serialization
  queueName := some (call.queueName.getD internalQueueName)
  queuePartitionKey := call.queuePartitionKey
  inputs := original.inputs
  assumedRole := original.assumedRole
  forkedFrom := some entry.originalWorkflowId
  attributes := original.attributes
  createdAt := now
  updatedAt := now

/-- The status rows to insert, or the first original that does not exist. -/
def forkedRows (now : ℤ) (db : SystemDatabase) :
    List ForkEntry → Except DBOSError (List WorkflowStatusRow)
  | [] => .ok []
  | entry :: rest =>
    match db.workflowStatus.lookup entry.originalWorkflowId with
    | none => .error (.exception ("Workflow " ++ entry.originalWorkflowId ++ " not found"))
    | some original =>
      match forkedRows now db rest with
      | .error error => .error error
      | .ok rows => .ok (call.forkedRow now entry original :: rows)

/-- `fork_mappings`. -/
def mappings : List ForkEntry := call.entries.filter fun entry ↦ decide (1 < entry.startStep)

/-- `child_wf_expr`. -/
def replaceChild (child : Option String) : Option String :=
  match child with
  | none => none
  | some childId =>
    match call.replacementChildren.find? fun pair ↦ pair.1 = childId with
    | some (_, newId) => some newId
    | none => some childId

/-- The join of the mapping with a table, on the original's ID and below the start step. -/
def join {ρ : Type} (workflowUuid : ρ → String) (functionId : ρ → ℤ) (rows : List ρ) :
    List (ForkEntry × ρ) :=
  call.mappings.flatMap fun entry ↦
    (rows.filter fun row ↦ workflowUuid row = entry.originalWorkflowId &&
      decide (functionId row < entry.startStep)).map fun row ↦ (entry, row)

def copiedOutputs (db : SystemDatabase) : List OperationOutputRow :=
  (call.join OperationOutputRow.workflowUuid OperationOutputRow.functionId
    db.operationOutputs.rows).map fun (entry, row) ↦
      { row with
        workflowUuid := entry.forkedWorkflowId
        childWorkflowId := call.replaceChild row.childWorkflowId }

def joinedHistory (db : SystemDatabase) : List (ForkEntry × WorkflowEventHistoryRow) :=
  call.join WorkflowEventHistoryRow.workflowUuid WorkflowEventHistoryRow.functionId
    db.workflowEventsHistory.rows

def copiedHistory (db : SystemDatabase) : List WorkflowEventHistoryRow :=
  (call.joinedHistory db).map fun (entry, row) ↦ { row with workflowUuid := entry.forkedWorkflowId }

/-- `row_number() = 1` over the partition by the original's ID and the key, by descending
function ID: the first joined row that no other row of its partition exceeds. -/
def latestEvents (joined : List (ForkEntry × WorkflowEventHistoryRow)) :
    List (ForkEntry × WorkflowEventHistoryRow) :=
  let partition (pair : ForkEntry × WorkflowEventHistoryRow) : String × String :=
    (pair.2.workflowUuid, pair.2.key)
  (joined.map partition).dedup.filterMap fun group ↦
    ((joined.filter fun pair ↦ partition pair = group).insertionSort
      fun left right ↦ right.2.functionId ≤ left.2.functionId).head?

def copiedEvents (db : SystemDatabase) : List WorkflowEventRow :=
  (latestEvents (call.joinedHistory db)).map fun (entry, row) ↦
    { workflowUuid := entry.forkedWorkflowId
      key := row.key
      value := row.value
      serialization := row.serialization }

def copiedStreams (db : SystemDatabase) : List StreamRow :=
  (call.join StreamRow.workflowUuid StreamRow.functionId db.streams.rows).map fun (entry, row) ↦
    { row with workflowUuid := entry.forkedWorkflowId }

end ForkCall

def wasForkedUpdate (row : WorkflowStatusRow) : WorkflowStatusRow :=
  { row with wasForkedFrom := true }

/-- The four copies below the start steps. -/
def copyForkData (call : ForkCall) (db : SystemDatabase) : Except DBOSError SystemDatabase :=
  match db.operationOutputs.insertAll (call.copiedOutputs db) with
  | none => .error (.uniqueViolation "operation_outputs")
  | some outputs =>
    match db.workflowEventsHistory.insertAll (call.copiedHistory db) with
    | none => .error (.uniqueViolation "workflow_events_history")
    | some history =>
      match db.workflowEvents.insertAll (call.copiedEvents db) with
      | none => .error (.uniqueViolation "workflow_events")
      | some events =>
        match db.streams.insertAll (call.copiedStreams db) with
        | none => .error (.uniqueViolation "streams")
        | some streams => .ok
            { db with
              operationOutputs := outputs
              workflowEventsHistory := history
              workflowEvents := events
              streams := streams }

def forkWorkflow (call : ForkCall) (now : ℤ) (db : SystemDatabase) :
    Ending SystemDatabase DBOSError (List String) :=
  if call.entries = [] then .returned [] db
  else
    match call.forkedRows now db call.entries with
    | .error error => .raised error
    | .ok rows =>
      match db.workflowStatus.insertAll rows with
      | none => .raised (.uniqueViolation "workflow_status")
      | some statuses =>
        let marked := { db with
          workflowStatus := statuses.update
            (fun row ↦ row.workflowUuid ∈ call.entries.map ForkEntry.originalWorkflowId)
            wasForkedUpdate }
        match copyForkData call marked with
        | .error error => .raised error
        | .ok db' => .returned (call.entries.map ForkEntry.forkedWorkflowId) db'

end DBOSModel.SysDb

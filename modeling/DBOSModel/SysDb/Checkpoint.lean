import DBOSModel.SysDb.Serialization

/-!
# Checkpoints

The functions of `dbos/_sys_db.py` that read and write `operation_outputs`: the recording of a step
result, the lookup of a recorded one, child workflows, `get_result`, patches, and operations that
run in one transaction with their own checkpoint. Each is a transaction body from one database to
the next, or to an exception.

`recordedStep` is the common shape of `set_event_from_workflow`, `write_stream_from_workflow`,
`send_bulk` inside a workflow and `call_txn_as_step`: look up the checkpoint, else do the work and
record it.
-/

namespace DBOSModel.SysDb

open Relational

/-- `OperationResultInternal`. -/
structure OperationResultInternal where
  workflowUuid : String
  functionId : ℤ
  functionName : String
  startedAtEpochMs : ℤ := 0
  output : Option String := none
  error : Option String := none
  serialization : Option String := none
deriving DecidableEq

/-- The row that records a result. -/
def OperationResultInternal.row (result : OperationResultInternal) (completedAtEpochMs : ℤ) :
    OperationOutputRow where
  workflowUuid := result.workflowUuid
  functionId := result.functionId
  functionName := result.functionName
  startedAtEpochMs := some result.startedAtEpochMs
  completedAtEpochMs := some completedAtEpochMs
  output := result.output
  error := result.error
  serialization := result.serialization

def OperationResultInternal.key (result : OperationResultInternal) : String × ℤ :=
  (result.workflowUuid, result.functionId)

/-- `RecordedResult`. -/
structure RecordedResult where
  output : Option String
  error : Option String
  serialization : Option String
  childWorkflowId : Option String
deriving DecidableEq

/-! ## Recording -/

/-- Reset the executor ID of a workflow to this process's, if it belongs to another one. -/
def resetExecutor (executorId : Option String) (row : WorkflowStatusRow) (db : SystemDatabase) :
    SystemDatabase :=
  if executorId.isSome ∧ row.executorId ≠ executorId then
    { db with
      workflowStatus := db.workflowStatus.update (fun r ↦ r.workflowUuid = row.workflowUuid)
        (fun r ↦ { r with executorId := executorId }) }
  else db

/-- What `int(None)` raises. -/
def intOfNone : DBOSError :=
  .typeError "int() argument must be a string, a bytes-like object or a real number, not 'NoneType'"

/-- The upsert of a checkpoint: an existing row stays as it is, and its completion time decides
whether this call wrote it. -/
def upsertResult (result : OperationResultInternal) (completedAtEpochMs : ℤ) (db : SystemDatabase) :
    Except DBOSError SystemDatabase :=
  match db.operationOutputs.lookup result.key with
  | none =>
    match db.operationOutputs.insertNew (result.row completedAtEpochMs) with
    | none => .error (.workflowConflictID result.workflowUuid)
    | some outputs => .ok { db with operationOutputs := outputs }
  | some stored =>
    match stored.completedAtEpochMs with
    | none => .error intOfNone
    | some completedAt =>
      if completedAt ≠ completedAtEpochMs then .error (.workflowConflictID result.workflowUuid)
      else .ok db

/-- `_record_operation_result_txn`; `executorId` is the executor of this database object. -/
def recordOperationResultTxn (executorId : Option String) (result : OperationResultInternal)
    (completedAtEpochMs : ℤ) (db : SystemDatabase) : Except DBOSError SystemDatabase :=
  if result.error.isSome ∧ result.output.isSome then
    .error (.assertionError "Only one of error or output can be set")
  else
    match db.workflowStatus.lookup result.workflowUuid with
    | none => .error (.assertionError "")
    | some row => upsertResult result completedAtEpochMs (resetExecutor executorId row db)

/-- One attempt of `record_operation_result`, whose completion time is read before the retries. -/
def recordOperationResult (executorId : Option String) (result : OperationResultInternal)
    (completedAtEpochMs : ℤ) (db : SystemDatabase) : Ending SystemDatabase DBOSError Unit :=
  .ofExcept ((recordOperationResultTxn executorId result completedAtEpochMs db).map fun db' ↦ ((), db'))

/-- `_check_operation_execution_txn`. -/
def checkOperationExecutionTxn (workflowId : String) (functionId : ℤ) (functionName : String)
    (db : SystemDatabase) : Except DBOSError (Option RecordedResult) :=
  match db.workflowStatus.lookup workflowId with
  | none => .error (.assertionError ("Error: Workflow " ++ workflowId ++ " does not exist"))
  | some row =>
    if row.status = .cancelled then
      .error (.workflowCancelled ("Workflow " ++ workflowId ++ " is cancelled. Aborting function."))
    else
      match db.operationOutputs.lookup (workflowId, functionId) with
      | none => .ok none
      | some stored =>
        if functionName ≠ stored.functionName then
          .error (.unexpectedStep workflowId functionId functionName stored.functionName)
        else .ok (some
          { output := stored.output
            error := stored.error
            serialization := stored.serialization
            childWorkflowId := stored.childWorkflowId })

/-! ## Children, results of other workflows, patches -/

/-- `record_child_workflow`. The second transaction of a conflict only reads. -/
def recordChildWorkflow (parentId childId : String) (functionId : ℤ) (functionName : String)
    (db : SystemDatabase) : Ending SystemDatabase DBOSError Unit :=
  if childId = "" then
    .raised (.dbosException ("Attempted to record an empty child workflow ID for parent " ++
      parentId ++ " (function " ++ toString functionId ++ ", " ++ functionName ++ ")."))
  else
    let row : OperationOutputRow :=
      { workflowUuid := parentId, functionId := functionId, functionName := functionName,
        childWorkflowId := some childId }
    match db.operationOutputs.insertNew row with
    | some outputs =>
      if db.hasWorkflow parentId then .returned () { db with operationOutputs := outputs }
      else .raised (.foreignKeyViolation "operation_outputs")
    | none =>
      match db.operationOutputs.lookup (parentId, functionId) with
      | some existing =>
        if existing.childWorkflowId = some childId then .returned () db
        else .raised (.workflowConflictID parentId)
      | none => .raised (.workflowConflictID parentId)

/-- The retried part of `record_get_result`, with the IDs captured outside it. -/
def recordGetResult (workflowId : String) (functionId : ℤ) (resultWorkflowId : String)
    (output error serialization : Option String) (db : SystemDatabase) :
    Ending SystemDatabase DBOSError Unit :=
  let row : OperationOutputRow :=
    { workflowUuid := workflowId, functionId := functionId, functionName := "DBOS.getResult",
      output := output, error := error, childWorkflowId := some resultWorkflowId,
      serialization := serialization }
  match db.operationOutputs.insertNew row with
  | none => .returned () db
  | some outputs =>
    if db.hasWorkflow workflowId then .returned () { db with operationOutputs := outputs }
    else .raised (.foreignKeyViolation "operation_outputs")

/-- `patch`, with its two clock readings. -/
def patch (executorId : Option String) (workflowId : String) (functionId : ℤ) (patchName : String)
    (startedAtEpochMs completedAtEpochMs : ℤ) (db : SystemDatabase) :
    Ending SystemDatabase DBOSError Bool :=
  match db.operationOutputs.lookup (workflowId, functionId) with
  | some stored => .returned (stored.functionName = patchName) db
  | none =>
    .ofExcept ((recordOperationResultTxn executorId
      { workflowUuid := workflowId, functionId := functionId, functionName := patchName,
        startedAtEpochMs := startedAtEpochMs }
      completedAtEpochMs db).map fun db' ↦ (true, db'))

/-! ## Operations with their own checkpoint -/

/-- Who records a step, under which name, and its two clock readings. -/
structure StepRecord where
  executorId : Option String
  workflowUuid : String
  functionId : ℤ
  functionName : String
  startTime : ℤ
  completedAt : ℤ

/-- Look up the checkpoint and replay it, or do the work and record it with the output it gives. -/
def recordedStep {β : Type} (step : StepRecord) (replay : RecordedResult → Except DBOSError β)
    (work : SystemDatabase → Except DBOSError (β × Option String × SystemDatabase))
    (db : SystemDatabase) : Except DBOSError (β × SystemDatabase) := do
  match ← checkOperationExecutionTxn step.workflowUuid step.functionId step.functionName db with
  | some recorded =>
    let value ← replay recorded
    pure (value, db)
  | none =>
    let (value, output, db') ← work db
    let db'' ← recordOperationResultTxn step.executorId
      { workflowUuid := step.workflowUuid
        functionId := step.functionId
        functionName := step.functionName
        startedAtEpochMs := step.startTime
        output := output }
      step.completedAt db'
    pure (value, db'')

/-- `call_txn_as_step` with the operation it runs on the connection. -/
def callTxnAsStep {V : Type} (serializers : Serializers V) (step : StepRecord)
    (op : SystemDatabase → Except DBOSError (V × SystemDatabase)) (db : SystemDatabase) :
    Ending SystemDatabase DBOSError V :=
  .ofExcept (recordedStep step
    (fun recorded ↦
      match recorded.output with
      | none => .error (.assertionError "")
      | some text => serializers.configured.deserialize text)
    (fun db ↦ do
      let (value, db') ← op db
      let text ← serializers.configured.serialize value
      pure (value, some text, db'))
    db)

/-! ## Facts about recording -/

section Facts

variable {executorId : Option String} {result : OperationResultInternal} {completedAt : ℤ}
  {row : WorkflowStatusRow} {db db' : SystemDatabase}

/-- The checkpoints are the same, and so are the statuses of all workflows. -/
def KeepsCheckpoints (db db' : SystemDatabase) : Prop :=
  db'.operationOutputs = db.operationOutputs ∧
    ∀ workflowId, (db'.workflowStatus.lookup workflowId).map WorkflowStatusRow.status =
      (db.workflowStatus.lookup workflowId).map WorkflowStatusRow.status

theorem KeepsCheckpoints.refl (db : SystemDatabase) : KeepsCheckpoints db db := ⟨rfl, fun _ ↦ rfl⟩

/-- An assignment that leaves the status column alone. -/
theorem keepsCheckpoints_update {p : WorkflowStatusRow → Bool}
    {f : WorkflowStatusRow → WorkflowStatusRow} (hkey : ∀ r, (f r).workflowUuid = r.workflowUuid)
    (hstatus : ∀ r, (f r).status = r.status) :
    KeepsCheckpoints db { db with workflowStatus := db.workflowStatus.update p f hkey } := by
  refine ⟨rfl, ?_⟩
  intro workflowId
  simp only [Table.lookup_update]
  cases db.workflowStatus.lookup workflowId with
  | none => rfl
  | some row =>
    simp only [Option.map_some, Option.some.injEq]
    split
    · exact hstatus row
    · rfl

theorem keepsCheckpoints_resetExecutor : KeepsCheckpoints db (resetExecutor executorId row db) := by
  unfold resetExecutor
  split
  · exact keepsCheckpoints_update _ fun _ ↦ rfl
  · exact .refl db

theorem resetExecutor_frame : resetExecutor executorId row db =
    { db with workflowStatus := (resetExecutor executorId row db).workflowStatus } := by
  unfold resetExecutor
  split
  · rfl
  · rfl

/-- A workflow's executor is reset at most once. -/
theorem resetExecutor_resetExecutor (executorId : Option String)
    (hlookup : db.workflowStatus.lookup row.workflowUuid = some row) :
    ∃ row', (resetExecutor executorId row db).workflowStatus.lookup row.workflowUuid = some row' ∧
      ∀ db'', resetExecutor executorId row' db'' = db'' := by
  by_cases hreset : executorId.isSome ∧ row.executorId ≠ executorId
  · refine ⟨{ row with executorId := executorId }, ?_, ?_⟩
    · simp only [resetExecutor, if_pos hreset, Table.lookup_update, hlookup, Option.map_some,
        decide_true, if_true]
    · intro db''
      simp [resetExecutor]
  · refine ⟨row, ?_, ?_⟩
    · rw [resetExecutor, if_neg hreset]
      exact hlookup
    · intro db''
      rw [resetExecutor, if_neg hreset]

/-- The two ways a checkpoint is accepted. -/
theorem upsertResult_eq_ok (h : upsertResult result completedAt db = .ok db') :
    (db.operationOutputs.lookup result.key = none ∧
      db.operationOutputs.insertNew (result.row completedAt) = some db'.operationOutputs ∧
      db' = { db with operationOutputs := db'.operationOutputs }) ∨
    (∃ stored, db.operationOutputs.lookup result.key = some stored ∧
      stored.completedAtEpochMs = some completedAt ∧ db' = db) := by
  unfold upsertResult at h
  split at h
  · rename_i hnone
    split at h
    · cases h
    · rename_i outputs houtputs
      cases h
      exact Or.inl ⟨hnone, houtputs, rfl⟩
  · rename_i stored hstored
    split at h
    · cases h
    · rename_i time htime
      split at h
      · cases h
      · rename_i hsame
        cases h
        have hcompleted : time = completedAt := by simpa using hsame
        exact Or.inr ⟨stored, hstored, by rw [htime, hcompleted], rfl⟩

/-- An accepted checkpoint is stored, with the completion time of the call. -/
theorem exists_stored_of_upsertResult (h : upsertResult result completedAt db = .ok db') :
    ∃ stored, db'.operationOutputs.lookup result.key = some stored ∧
      stored.completedAtEpochMs = some completedAt := by
  rcases upsertResult_eq_ok h with ⟨-, hinsert, -⟩ | ⟨stored, hstored, htime, rfl⟩
  · exact ⟨result.row completedAt, Table.lookup_insertNew_self hinsert, rfl⟩
  · exact ⟨stored, hstored, htime⟩

/-- A checkpoint is written to its own table only. -/
theorem workflowStatus_of_upsertResult (h : upsertResult result completedAt db = .ok db') :
    db'.workflowStatus = db.workflowStatus := by
  rcases upsertResult_eq_ok h with ⟨-, -, heq⟩ | ⟨-, -, -, heq⟩
  · rw [heq]
  · rw [heq]

theorem upsertResult_of_stored {stored : OperationOutputRow}
    (hstored : db.operationOutputs.lookup result.key = some stored)
    (htime : stored.completedAtEpochMs = some completedAt) :
    upsertResult result completedAt db = .ok db := by
  simp [upsertResult, hstored, htime]

/-- What a recorded step has been through. -/
theorem recordOperationResultTxn_eq_ok
    (h : recordOperationResultTxn executorId result completedAt db = .ok db') :
    ¬(result.error.isSome ∧ result.output.isSome) ∧
      ∃ row, db.workflowStatus.lookup result.workflowUuid = some row ∧
        upsertResult result completedAt (resetExecutor executorId row db) = .ok db' := by
  unfold recordOperationResultTxn at h
  split at h
  · cases h
  · rename_i hone
    split at h
    · cases h
    · rename_i row hlookup
      exact ⟨hone, row, hlookup, h⟩

/-- Recording a result writes to the two tables of workflows and of checkpoints only. -/
theorem recordOperationResultTxn_frame
    (h : recordOperationResultTxn executorId result completedAt db = .ok db') :
    db' = { db with
      workflowStatus := db'.workflowStatus
      operationOutputs := db'.operationOutputs } := by
  obtain ⟨-, row, -, hupsert⟩ := recordOperationResultTxn_eq_ok h
  rcases upsertResult_eq_ok hupsert with ⟨-, -, heq⟩ | ⟨-, -, -, heq⟩
  · rw [heq, resetExecutor_frame]
  · rw [heq, resetExecutor_frame]

/-- Recording a result again, at the same completion time, changes nothing. -/
theorem recordOperationResultTxn_again
    (h : recordOperationResultTxn executorId result completedAt db = .ok db') :
    recordOperationResultTxn executorId result completedAt db' = .ok db' := by
  obtain ⟨hone, row, hlookup, hupsert⟩ := recordOperationResultTxn_eq_ok h
  obtain ⟨stored, hstored, htime⟩ := exists_stored_of_upsertResult hupsert
  have hid : row.workflowUuid = result.workflowUuid :=
    (db.workflowStatus.lookup_eq_some.mp hlookup).2
  obtain ⟨row', hlookup', hreset⟩ := resetExecutor_resetExecutor executorId (hid ▸ hlookup)
  rw [← workflowStatus_of_upsertResult hupsert, hid] at hlookup'
  simp only [recordOperationResultTxn, if_neg hone, hlookup', hreset]
  exact upsertResult_of_stored hstored htime

/-- A new checkpoint is stored as given, and the statuses stay. -/
theorem recordOperationResultTxn_new
    (h : recordOperationResultTxn executorId result completedAt db = .ok db')
    (hnone : db.operationOutputs.lookup result.key = none) :
    db'.operationOutputs.lookup result.key = some (result.row completedAt) ∧
      ∀ workflowId, (db'.workflowStatus.lookup workflowId).map WorkflowStatusRow.status =
        (db.workflowStatus.lookup workflowId).map WorkflowStatusRow.status := by
  obtain ⟨-, row, -, hupsert⟩ := recordOperationResultTxn_eq_ok h
  have hkeeps : KeepsCheckpoints db (resetExecutor executorId row db) :=
    keepsCheckpoints_resetExecutor
  constructor
  · rcases upsertResult_eq_ok hupsert with ⟨-, hinsert, -⟩ | ⟨stored, hstored, -, -⟩
    · exact Table.lookup_insertNew_self hinsert
    · rw [hkeeps.1, hnone] at hstored
      cases hstored
  · intro workflowId
    rw [workflowStatus_of_upsertResult hupsert]
    exact hkeeps.2 workflowId

/-- Recording a result adds at most the checkpoint it is about, and that one is there afterwards. -/
theorem lookup_recordOperationResultTxn
    (h : recordOperationResultTxn executorId result completedAt db = .ok db') :
    (db'.operationOutputs.lookup result.key).isSome ∧
      ∀ key, db'.operationOutputs.lookup key = db.operationOutputs.lookup key ∨
        key = result.key ∧ db.operationOutputs.lookup key = none ∧
          db'.operationOutputs.lookup key = some (result.row completedAt) := by
  obtain ⟨-, row, -, hupsert⟩ := recordOperationResultTxn_eq_ok h
  have hkeeps : KeepsCheckpoints db (resetExecutor executorId row db) :=
    keepsCheckpoints_resetExecutor
  rcases upsertResult_eq_ok hupsert with ⟨hnone, hinsert, -⟩ | ⟨stored, hstored, -, rfl⟩
  · rw [hkeeps.1] at hnone hinsert
    have hself := Table.lookup_insertNew_self hinsert
    refine ⟨Option.isSome_of_eq_some hself, ?_⟩
    intro key
    by_cases hkey : key = result.key
    · exact Or.inr ⟨hkey, hkey ▸ hnone, hkey ▸ hself⟩
    · have hother : (result.row completedAt).key ≠ key := Ne.symm hkey
      refine Or.inl ?_
      rw [Table.lookup_insertNew hinsert, if_neg hother]
  · refine ⟨Option.isSome_of_eq_some hstored, fun key ↦ Or.inl ?_⟩
    rw [hkeeps.1]

/-- Why a result is not recorded: it has an output and an error, its workflow is missing, or another
checkpoint is in its place. -/
theorem recordOperationResultTxn_eq_error {error : DBOSError}
    (h : recordOperationResultTxn executorId result completedAt db = .error error) :
    (∃ message, error = .assertionError message) ∨ error = intOfNone ∨
      error = .workflowConflictID result.workflowUuid ∧
        (db.operationOutputs.lookup result.key).isSome := by
  unfold recordOperationResultTxn at h
  split at h
  · cases h
    exact Or.inl ⟨_, rfl⟩
  · split at h
    · cases h
      exact Or.inl ⟨_, rfl⟩
    · rename_i row hrow
      have hkeeps : KeepsCheckpoints db (resetExecutor executorId row db) :=
        keepsCheckpoints_resetExecutor
      unfold upsertResult at h
      rw [hkeeps.1] at h
      split at h
      · rename_i hnone
        obtain ⟨outputs, hinsert⟩ := db.operationOutputs.exists_insertNew
          (show db.operationOutputs.lookup (result.row completedAt).key = none from hnone)
        rw [hinsert] at h
        cases h
      · rename_i stored hstored
        split at h
        · cases h
          exact Or.inr (Or.inl rfl)
        · split at h
          · cases h
            exact Or.inr (Or.inr ⟨rfl, Option.isSome_of_eq_some hstored⟩)
          · cases h

/-- A checkpoint found after a call was there before, or it is the one that the call recorded. -/
theorem lookup_recordOperationResult {key : String × ℤ} {stored : OperationOutputRow}
    (h : ((recordOperationResult executorId result completedAt db).stateAfter
      db).operationOutputs.lookup key = some stored) :
    db.operationOutputs.lookup key = some stored ∨
      key = result.key ∧ stored = result.row completedAt := by
  unfold recordOperationResult at h
  cases hrecord : recordOperationResultTxn executorId result completedAt db with
  | error error =>
    rw [hrecord] at h
    exact Or.inl h
  | ok db' =>
    rw [hrecord] at h
    have hfound : db'.operationOutputs.lookup key = some stored := h
    rcases (lookup_recordOperationResultTxn hrecord).2 key with hsame | ⟨hkey, -, hnew⟩
    · exact Or.inl (hsame ▸ hfound)
    · exact Or.inr ⟨hkey, Option.some.inj (hfound.symm.trans hnew)⟩

/-! ## Facts about steps with a checkpoint -/

/-- The lookup depends on the status of the workflow and on its checkpoint only. -/
theorem checkOperationExecutionTxn_recorded {functionName : String} {workflowId : String}
    {functionId : ℤ} {stored : OperationOutputRow}
    (hcheck : checkOperationExecutionTxn workflowId functionId functionName db = .ok none)
    (hstatus : (db'.workflowStatus.lookup workflowId).map WorkflowStatusRow.status =
      (db.workflowStatus.lookup workflowId).map WorkflowStatusRow.status)
    (hstored : db'.operationOutputs.lookup (workflowId, functionId) = some stored)
    (hname : stored.functionName = functionName) :
    checkOperationExecutionTxn workflowId functionId functionName db' = .ok (some
      { output := stored.output
        error := stored.error
        serialization := stored.serialization
        childWorkflowId := stored.childWorkflowId }) := by
  unfold checkOperationExecutionTxn at hcheck ⊢
  cases hlookup : db.workflowStatus.lookup workflowId with
  | none =>
    simp only [hlookup] at hcheck
    cases hcheck
  | some row =>
    simp only [hlookup] at hcheck
    split at hcheck
    · cases hcheck
    · rename_i hactive
      rw [hlookup, Option.map_some, Option.map_eq_some_iff] at hstatus
      obtain ⟨row', hlookup', hrow'⟩ := hstatus
      rw [← hrow'] at hactive
      simp only [hlookup', if_neg hactive, hstored, hname, ne_eq, not_true_eq_false, if_false]

/-- A lookup that succeeds returns the columns of the checkpoint. -/
theorem checkOperationExecutionTxn_eq_ok {functionName : String} {workflowId : String}
    {functionId : ℤ} {recorded : Option RecordedResult}
    (hcheck : checkOperationExecutionTxn workflowId functionId functionName db = .ok recorded) :
    recorded = (db.operationOutputs.lookup (workflowId, functionId)).map fun stored ↦
      { output := stored.output
        error := stored.error
        serialization := stored.serialization
        childWorkflowId := stored.childWorkflowId } := by
  unfold checkOperationExecutionTxn at hcheck
  split at hcheck
  · cases hcheck
  · split at hcheck
    · cases hcheck
    · split at hcheck
      · rename_i hnone
        cases hcheck
        rw [hnone, Option.map_none]
      · rename_i stored hstored
        split at hcheck
        · cases hcheck
        · cases hcheck
          rw [hstored, Option.map_some]

/-- A lookup that finds something returns the stored checkpoint. -/
theorem exists_stored_of_check {functionName : String} {workflowId : String} {functionId : ℤ}
    {recorded : RecordedResult}
    (hcheck : checkOperationExecutionTxn workflowId functionId functionName db =
      .ok (some recorded)) :
    ∃ stored, db.operationOutputs.lookup (workflowId, functionId) = some stored ∧
      recorded.output = stored.output ∧ recorded.error = stored.error ∧
      recorded.serialization = stored.serialization := by
  have hfound := checkOperationExecutionTxn_eq_ok hcheck
  obtain ⟨stored, hstored, hcolumns⟩ := Option.map_eq_some_iff.mp hfound.symm
  rw [← hcolumns]
  exact ⟨stored, hstored, rfl, rfl, rfl⟩

theorem lookup_eq_none_of_check {functionName : String} {workflowId : String} {functionId : ℤ}
    (hcheck : checkOperationExecutionTxn workflowId functionId functionName db = .ok none) :
    db.operationOutputs.lookup (workflowId, functionId) = none := by
  have hfound := checkOperationExecutionTxn_eq_ok hcheck
  exact Option.map_eq_none_iff.mp hfound.symm

section RecordedStep

variable {β : Type} {step step' : StepRecord} {replay : RecordedResult → Except DBOSError β}
  {work work' : SystemDatabase → Except DBOSError (β × Option String × SystemDatabase)} {value : β}

/-- The two ways a step with a checkpoint succeeds: it replays, or its work is done and recorded. -/
theorem recordedStep_eq_ok (h : recordedStep step replay work db = .ok (value, db')) :
    (∃ recorded, checkOperationExecutionTxn step.workflowUuid step.functionId step.functionName
        db = .ok (some recorded) ∧ replay recorded = .ok value ∧ db' = db) ∨
      checkOperationExecutionTxn step.workflowUuid step.functionId step.functionName db =
        .ok none ∧ ∃ output middle, work db = .ok (value, output, middle) ∧
        recordOperationResultTxn step.executorId
          { workflowUuid := step.workflowUuid
            functionId := step.functionId
            functionName := step.functionName
            startedAtEpochMs := step.startTime
            output := output }
          step.completedAt middle = .ok db' := by
  obtain ⟨recorded, hcheck, hrest⟩ := bind_eq_ok.mp h
  cases recorded with
  | some recorded =>
    obtain ⟨replayed, hreplayed, hpure⟩ := bind_eq_ok.mp hrest
    cases hpure
    exact Or.inl ⟨recorded, hcheck, hreplayed, rfl⟩
  | none =>
    obtain ⟨⟨result, output, middle⟩, hwork, hrest⟩ := bind_eq_ok.mp hrest
    obtain ⟨final, hrecord, hpure⟩ := bind_eq_ok.mp hrest
    cases hpure
    exact Or.inr ⟨hcheck, output, middle, hwork, hrecord⟩

/-- A step with a checkpoint, run again right after it committed and at other clock readings,
replays its value and changes nothing, provided that its work leaves the checkpoints alone and that
the recorded output replays as the value. What work the second run would do plays no part. -/
theorem recordedStep_again
    (hsame : step' = { step with startTime := step'.startTime, completedAt := step'.completedAt })
    (hkeeps : ∀ value output db', work db = .ok (value, output, db') → KeepsCheckpoints db db')
    (hreplay : ∀ value output db', work db = .ok (value, output, db') →
      replay ⟨output, none, none, none⟩ = .ok value)
    (h : recordedStep step replay work db = .ok (value, db')) :
    recordedStep step' replay work' db' = .ok (value, db') := by
  rw [hsame]
  rcases recordedStep_eq_ok h with ⟨recorded, hcheck, hreplayed, rfl⟩ |
    ⟨hcheck, output, middle, hwork, hrecord⟩
  · apply bind_eq_ok.mpr
    exact ⟨some recorded, hcheck, bind_eq_ok.mpr ⟨value, hreplayed, rfl⟩⟩
  · have hmiddle := hkeeps value output middle hwork
    have hnone := lookup_eq_none_of_check hcheck
    rw [← hmiddle.1] at hnone
    obtain ⟨hstored, hstatus⟩ := recordOperationResultTxn_new hrecord hnone
    have hrecorded := checkOperationExecutionTxn_recorded hcheck
      ((hstatus _).trans (hmiddle.2 _)) hstored rfl
    apply bind_eq_ok.mpr
    exact ⟨_, hrecorded, bind_eq_ok.mpr ⟨value, hreplay value output middle hwork, rfl⟩⟩

end RecordedStep

end Facts

end DBOSModel.SysDb

import DBOSModel.Core.InitWorkflow
import DBOSModel.Core.Transaction
import DBOSModel.Outcome
import DBOSModel.Serialization.Portable
import DBOSModel.SysDb.IdempotentStart
import DBOSModel.SysDb.Checkpoint
import Mathlib.Data.Rat.Floor
import Mathlib.Tactic.Positivity

/-!
# Starting a workflow, synchronously and asynchronously

`start_workflow` and `start_workflow_async` of `dbos/_core.py` are two copies of the same function.
Both read the options of the new workflow from the context of the caller, look for an earlier start
at this step of the parent, insert the row of the workflow and record it as a child. The copies
differ in how they obtain the timeout: `start_workflow` asks `_get_timeout_deadline` and then reads
the timeout of the context again.
-/

namespace DBOSModel.Core.Start

open Relational SysDb Portable Outcome

/-! ## The context -/

/-- The fields of `DBOSContext` that a start reads. -/
structure LocalContext extends DBOSContext where
  functionId : ℤ := -1
  parentWorkflowFid : ℤ := -1
  /-- `is_step() or is_transaction()`. -/
  inStep : Bool := false
  serializationType : WorkflowSerializationFormat := .default
  appVersion : Option String := none
  workflowTimeoutMs : Option ℤ := none
  workflowDeadlineEpochMs : Option ℤ := none
  deduplicationId : Option String := none
  priority : Option ℤ := none
  queuePartitionKey : Option String := none
  delayUntilEpochMs : Option ℤ := none
  debounceDeadlineEpochMs : Option ℤ := none
  isDebounced : Bool := false

/-- What a start takes from its process and its surroundings. -/
structure StartEnvironment where
  /-- `GlobalParams`. -/
  executorId : Option String
  globalAppVersion : String
  /-- `DBOS__APPID`. -/
  appId : Option String
  serializers : Serializers PyValue
  serializeException : DBOSError → Option String → Except DBOSError (String × String)
  /-- What is raised for a recorded error, be it the error or a failure to read it. -/
  deserializeException : String → Option String → DBOSError
  /-- `generate_uuid()`. -/
  generated : String
  ownerXid : String
  /-- The clock in milliseconds, as `_get_timeout_deadline` reads it. -/
  timeoutClock : ℤ
  /-- The clock of the database. -/
  databaseClock : ℤ
  /-- The two readings for the checkpoint of an error. -/
  startedAt : ℤ
  completedAt : ℤ

section Context

variable (env : StartEnvironment)

/-- `DBOSContext()`. -/
def newContext : LocalContext where
  appId := env.appId
  executorId := env.executorId

/-- `create_child` for a workflow. -/
def LocalContext.createChild (ctx : LocalContext) : LocalContext :=
  { newContext env with
    idAssignedForNextWorkflow := ctx.idAssignedForNextWorkflow
    workflowAttributes := ctx.workflowAttributes
    parentWorkflowId := ctx.workflowId
    parentWorkflowFid := ctx.functionId
    authenticatedUser := ctx.authenticatedUser
    authenticatedRoles := ctx.authenticatedRoles
    assumedRole := ctx.assumedRole }

/-- What `create_start_workflow_child` does to the context of a workflow before it makes the
child. -/
def LocalContext.nextFunctionId (ctx : LocalContext) : LocalContext :=
  let functionId := ctx.functionId + 1
  { ctx with
    functionId := functionId
    idAssignedForNextWorkflow :=
      if ctx.idAssignedForNextWorkflow = "" then ctx.workflowId ++ "-" ++ toString functionId
      else ctx.idAssignedForNextWorkflow }

/-- `create_start_workflow_child`, with `assign_workflow_id`. -/
def createStartWorkflowChild (curCtx : Option LocalContext) : Except DBOSError LocalContext := do
  let newWfCtx ←
    match curCtx with
    | none => .ok (newContext env)
    | some ctx =>
      if ctx.workflowId = "" then .ok (ctx.createChild env)
      else if ctx.inStep then .error (.assertionError "")
      else .ok (ctx.nextFunctionId.createChild env)
  pure
    { newWfCtx with
      idAssignedForNextWorkflow :=
        if newWfCtx.idAssignedForNextWorkflow = "" then env.generated
        else newWfCtx.idAssignedForNextWorkflow }

/-- `SetWorkflowTimeout.__enter__`; `repr` is Python's text of a number. -/
def setWorkflowTimeout (repr : ℚ → String) (workflowTimeoutSec : Option ℚ)
    (ctx : Option LocalContext) : Except DBOSError LocalContext :=
  let enter (workflowTimeoutMs : Option ℤ) : LocalContext :=
    { ctx.getD (newContext env) with
      workflowTimeoutMs := workflowTimeoutMs
      workflowDeadlineEpochMs := none }
  match workflowTimeoutSec with
  | none => .ok (enter none)
  | some seconds =>
    if seconds ≠ 0 ∧ ¬ 0 < seconds then
      .error (.exception ("Invalid workflow timeout " ++ repr seconds ++
        ". Timeouts must be positive."))
    else .ok (enter (some (pyInt (seconds * 1000))))

end Context

/-- `_get_timeout_deadline`; a timeout of 0 counts as none. -/
def getTimeoutDeadline (clock : ℤ) (ctx : Option LocalContext) (queue : Option String) :
    Option ℤ × Option ℤ :=
  match ctx with
  | none => (none, none)
  | some ctx =>
    match ctx.workflowTimeoutMs with
    | none => (none, ctx.workflowDeadlineEpochMs)
    | some timeout =>
      if timeout = 0 then (none, ctx.workflowDeadlineEpochMs)
      -- queued workflows are assigned a deadline on dequeue
      else if queue.any (· ≠ "") then (some timeout, none)
      else (some timeout, some (clock + timeout))

/-- The options that both versions take from the context of the caller. -/
def enqueueOptionsOf (ctx : Option LocalContext) : EnqueueOptionsInternal where
  deduplicationId := ctx.bind LocalContext.deduplicationId
  priority := ctx.bind LocalContext.priority
  appVersion := ctx.bind LocalContext.appVersion
  queuePartitionKey := ctx.bind LocalContext.queuePartitionKey
  delayUntilEpochMs := ctx.bind LocalContext.delayUntilEpochMs
  debounceDeadlineEpochMs := ctx.bind LocalContext.debounceDeadlineEpochMs
  isDebounced := (ctx.map LocalContext.isDebounced).getD false

/-! ## The function -/

/-- What `get_func_info` finds, with the names that depend on the arguments. -/
structure FunctionInfo where
  /-- `get_dbos_func_name`. -/
  wfName : String
  /-- `get_dbos_class_name`. -/
  className : List PyValue → Except DBOSError (Option String)
  /-- `get_config_name`. -/
  configName : List PyValue → Except DBOSError (Option String)
  maxRecoveryAttempts : Option ℤ := none
  serializationType : Option WorkflowSerializationFormat := none

structure FunctionObject where
  /-- `__name__`. -/
  name : String
  /-- `__self__`. -/
  fself : Option PyValue := none
  info : Option FunctionInfo

/-- The arguments of a start. -/
structure StartArguments where
  func : FunctionObject
  args : List PyValue
  kwargs : List (PyKey × PyValue)
  queueName : Option String := none
  executeWorkflow : Bool := true
  isRecovery : Bool := false
  isDequeued : Bool := false

/-- `args`, with the object that the function is bound to. -/
def StartArguments.boundArgs (start : StartArguments) : List PyValue :=
  start.func.fself.toList ++ start.args

/-- The handle of a start, and whether it runs the function. -/
structure StartHandle where
  workflowId : String
  executes : Bool
deriving DecidableEq

/-! ## Starting -/

abbrev Code (α : Type) := Py SystemDatabase DBOSError α

/-- A transaction of the system database. -/
def transaction {α : Type} (body : SystemDatabase → Ending SystemDatabase DBOSError α) : Code α :=
  fun db ↦ ((body db).result, (body db).stateAfter db)

section Code

variable (env : StartEnvironment) (start : StartArguments) (fi : FunctionInfo)

/-- The earlier start that is recorded at this step of the parent, if there is a parent. -/
def recordedChild (newWfCtx : LocalContext) : Code (Option String) := do
  if newWfCtx.parentWorkflowId = "" then
    return none
  let recorded ← transaction fun db ↦ .ofExcept <|
    (checkOperationExecutionTxn newWfCtx.parentWorkflowId newWfCtx.parentWorkflowFid fi.wfName
      db).map fun recorded ↦ (recorded, db)
  match recorded with
  | none => return none
  | some recorded =>
    match truthy recorded.error with
    | some error => throw (env.deserializeException error recorded.serialization)
    | none => return truthy recorded.childWorkflowId

/-- The status that `_init_workflow` builds. -/
def initialStatusOf (ctx : LocalContext) (workflowTimeoutMs workflowDeadlineEpochMs : Option ℤ)
    (enqueueOptions : EnqueueOptionsInternal) (serializationType : WorkflowSerializationFormat)
    (childWorkflowId : String) : Except DBOSError WorkflowStatusInternal := do
  let className ← fi.className start.boundArgs
  let configName ← fi.configName start.boundArgs
  let workflowStart (serargs serialization : String) : WorkflowStart :=
    { ctx := ctx.toDBOSContext
      wfName := fi.wfName
      className := className
      configName := configName
      queue := start.queueName
      workflowTimeoutMs := workflowTimeoutMs
      workflowDeadlineEpochMs := workflowDeadlineEpochMs
      enqueueOptions := some enqueueOptions
      childWorkflowId := some childWorkflowId
      globalAppVersion := env.globalAppVersion
      serargs := serargs
      serialization := serialization }
  -- the ID is checked before the arguments are serialized
  let _ ← (workflowStart "" "").status
  let args := if (truthy className).isSome then start.boundArgs.drop 1 else start.boundArgs
  let sertype := if serializationType = .default then ctx.serializationType else serializationType
  let (serargs, serialization) ← serializeArgs env.serializers args start.kwargs sertype
  (workflowStart serargs serialization).status

/-- The call of `init_workflow`. -/
def initCallOf (status : WorkflowStatusInternal) : InitCall where
  status := status
  maxRecoveryAttempts := fi.maxRecoveryAttempts
  ownerXid := some env.ownerXid
  isRecoveryRequest := start.isRecovery
  isDequeuedRequest := start.isDequeued

/-- The handler of `_init_workflow`: a refusal by the queue is recorded for the parent. -/
def recordRefusal (ctx : LocalContext) (serialization : Option String) (error : DBOSError) :
    Code InitResult :=
  match error with
  | .queueDeduplicated _ _ _ => do
    let (sererr, serialization) ← Py.ofExcept (env.serializeException error serialization)
    if ctx.parentWorkflowId ≠ "" then
      transaction <| recordOperationResult env.executorId
        { workflowUuid := ctx.parentWorkflowId
          functionId := ctx.parentWorkflowFid
          functionName := fi.wfName
          startedAtEpochMs := env.startedAt
          error := some sererr
          serialization := some serialization } env.completedAt
    throw error
  | _ => throw error

/-- `_init_workflow`. -/
def _initWorkflow (ctx : LocalContext) (workflowTimeoutMs workflowDeadlineEpochMs : Option ℤ)
    (enqueueOptions : EnqueueOptionsInternal) (serializationType : WorkflowSerializationFormat)
    (childWorkflowId : String) : Code (WorkflowStatusInternal × Bool) := do
  let status ← Py.ofExcept <| initialStatusOf env start fi ctx workflowTimeoutMs
    workflowDeadlineEpochMs enqueueOptions serializationType childWorkflowId
  let result ← tryCatch
    (transaction (initWorkflow (initCallOf env start fi status) env.databaseClock))
    (recordRefusal env fi ctx status.serialization)
  return (
    { status with
      workflowDeadlineEpochMs := result.workflowDeadlineEpochMs
      status := result.status
      serialization := result.serialization }, result.shouldExecute)

/-- `record_child_workflow`, if there is a parent. -/
def recordChild (newWfCtx : LocalContext) (newChildWorkflowId : String) : Code Unit := do
  if newWfCtx.parentWorkflowId ≠ "" then
    transaction <| recordChildWorkflow newWfCtx.parentWorkflowId newChildWorkflowId
      newWfCtx.parentWorkflowFid fi.wfName

/-- The handle at the end: the function runs if the start is to execute it. -/
def handleOf (newChildWorkflowId : String) (status : WorkflowStatusInternal)
    (shouldExecute : Bool) : StartHandle where
  workflowId := newChildWorkflowId
  executes :=
    start.executeWorkflow && shouldExecute && status.status ≠ .error && status.status ≠ .success

/-- `DBOSWorkflowFunctionNotFoundError`. -/
def functionNotFound : DBOSError :=
  .dbosException ("Could not execute workflow <NONE>: " ++ start.func.name ++
    " is not a registered workflow function")

/-- `start_workflow`. -/
def startWorkflow (localCtx : Option LocalContext) : Code StartHandle := do
  match start.func.info with
  | none => throw (functionNotFound start)
  | some fi =>
    let serializationType := fi.serializationType.getD .default
    let (_, workflowDeadlineEpochMs) :=
      getTimeoutDeadline env.timeoutClock localCtx start.queueName
    -- the timeout of the pair is overwritten
    let workflowTimeoutMs := localCtx.bind LocalContext.workflowTimeoutMs
    let enqueueOptions := enqueueOptionsOf localCtx
    let newWfCtx ← Py.ofExcept (createStartWorkflowChild env localCtx)
    let newChildWorkflowId := newWfCtx.idAssignedForNextWorkflow
    match ← recordedChild env fi newWfCtx with
    | some childId => return ⟨childId, false⟩
    | none =>
      let (status, shouldExecute) ← _initWorkflow env start fi newWfCtx workflowTimeoutMs
        workflowDeadlineEpochMs enqueueOptions serializationType newChildWorkflowId
      recordChild fi newWfCtx newChildWorkflowId
      return handleOf start newChildWorkflowId status shouldExecute

/-- `start_workflow_async`, on a copy of the caller's context and the child made of it. -/
def startWorkflowAsync (localCtx : Option LocalContext) (newWfCtx : LocalContext) :
    Code StartHandle := do
  match start.func.info with
  | none => throw (functionNotFound start)
  | some fi =>
    let serializationType := fi.serializationType.getD .default
    let (workflowTimeoutMs, workflowDeadlineEpochMs) :=
      getTimeoutDeadline env.timeoutClock localCtx start.queueName
    let enqueueOptions := enqueueOptionsOf localCtx
    let newChildWorkflowId := newWfCtx.idAssignedForNextWorkflow
    match ← recordedChild env fi newWfCtx with
    | some childId => return ⟨childId, false⟩
    | none =>
      let (status, shouldExecute) ← _initWorkflow env start fi newWfCtx workflowTimeoutMs
        workflowDeadlineEpochMs enqueueOptions serializationType newChildWorkflowId
      recordChild fi newWfCtx newChildWorkflowId
      return handleOf start newChildWorkflowId status shouldExecute

/-- `DBOS.start_workflow_async`: the child is made before the function is called. -/
def startAsync (localCtx : Option LocalContext) : Code StartHandle := do
  let newWfCtx ← Py.ofExcept (createStartWorkflowChild env localCtx)
  startWorkflowAsync env start localCtx newWfCtx

end Code

/-! ## Agreement -/

/-- The two leave the same database, and return the same handle or both raise. -/
def Agrees (first second : Except DBOSError StartHandle × SystemDatabase) : Prop :=
  first.1.toOption = second.1.toOption ∧ first.2 = second.2

section Agreement

variable (env : StartEnvironment) (start : StartArguments) (localCtx : Option LocalContext)
  (db : SystemDatabase)

/-- The start inserts a row: there is no earlier start at this step, no workflow with the ID and no
holder of the deduplication ID in the queue. -/
def InsertsRow : Prop :=
  ∃ fi newWfCtx status, start.func.info = some fi ∧
    createStartWorkflowChild env localCtx = .ok newWfCtx ∧
    recordedChild env fi newWfCtx db = (.ok none, db) ∧
    initialStatusOf env start fi newWfCtx none
      (getTimeoutDeadline env.timeoutClock localCtx start.queueName).2 (enqueueOptionsOf localCtx)
      (fi.serializationType.getD .default) newWfCtx.idAssignedForNextWorkflow = .ok status ∧
    db.workflowStatus.lookup status.workflowUuid = none ∧
    (initCallOf env start fi status).isDeduplicated db = false

variable {env start localCtx db} {fi : FunctionInfo} {newWfCtx : LocalContext}

theorem recordedChild_state (env : StartEnvironment) (fi : FunctionInfo)
    (newWfCtx : LocalContext) (db : SystemDatabase) :
    (recordedChild env fi newWfCtx db).2 = db := by
  unfold recordedChild
  split
  · rfl
  · rw [Py.bind_apply]
    cases hcheck : checkOperationExecutionTxn newWfCtx.parentWorkflowId newWfCtx.parentWorkflowFid
        fi.wfName db with
    | error error => simp [transaction, hcheck, Except.map]
    | ok recorded =>
      simp only [transaction, hcheck, Except.map, Ending.ofExcept_ok, Ending.result_returned,
        Ending.stateAfter_returned]
      cases recorded with
      | none => rfl
      | some recorded =>
        dsimp only
        cases truthy recorded.error with
        | none => rfl
        | some error => rfl

/-- The timeout is a field of the status that nothing else depends on. -/
theorem initialStatusOf_timeout (ctx : LocalContext) (timeout deadline : Option ℤ)
    (options : EnqueueOptionsInternal) (sertype : WorkflowSerializationFormat) (childId : String) :
    initialStatusOf env start fi ctx timeout deadline options sertype childId =
      (initialStatusOf env start fi ctx none deadline options sertype childId).map
        fun status ↦ { status with workflowTimeoutMs := timeout } := by
  unfold initialStatusOf
  cases fi.className start.boundArgs with
  | error error => rfl
  | ok className =>
    cases fi.configName start.boundArgs with
    | error error => rfl
    | ok configName =>
      simp only [WorkflowStart.status, WorkflowStart.wfid, WorkflowStart.wfid.fromContext, bind,
        Except.bind]
      by_cases hid : (if childId ≠ "" then childId
          else if ctx.workflowId ≠ "" then ctx.workflowId else ctx.idAssignedForNextWorkflow) = ""
      · simp only [if_pos hid]
        rfl
      · simp only [if_neg hid]
        cases serializeArgs env.serializers
            (if (truthy className).isSome then start.boundArgs.drop 1 else start.boundArgs)
            start.kwargs (if sertype = .default then ctx.serializationType else sertype) with
        | error error => rfl
        | ok serialized => rfl

/-- On a workflow that is stored the timeout of the call has no effect. -/
theorem initWorkflow_of_lookup {status : WorkflowStatusInternal} {row : WorkflowStatusRow}
    (timeout : Option ℤ) (now : ℤ) (hrow : db.workflowStatus.lookup status.workflowUuid = some row) :
    initWorkflow (initCallOf env start fi { status with workflowTimeoutMs := timeout }) now db =
      initWorkflow (initCallOf env start fi status) now db := by
  simp only [initWorkflow, InitCall.upsert, initCallOf, hrow]
  rfl

/-- A call that its queue refuses has no effect, whatever the timeout. -/
theorem initWorkflow_of_deduplicated {status : WorkflowStatusInternal} (timeout : Option ℤ)
    (now : ℤ) (hnone : db.workflowStatus.lookup status.workflowUuid = none)
    (hdedup : (initCallOf env start fi status).isDeduplicated db = true) :
    initWorkflow (initCallOf env start fi { status with workflowTimeoutMs := timeout }) now db =
      initWorkflow (initCallOf env start fi status) now db := by
  have hdedup' : (initCallOf env start fi
      { status with workflowTimeoutMs := timeout }).isDeduplicated db = true := hdedup
  simp only [initWorkflow, InitCall.upsert, hdedup, hdedup']
  simp only [initCallOf, hnone]
  rfl

/-- The row that a call inserts keeps the timeout, and no queue refuses the call. -/
theorem exists_inserted (call : InitCall) (now : ℤ)
    (hnone : db.workflowStatus.lookup call.status.workflowUuid = none)
    (hdedup : call.isDeduplicated db = false) :
    (∃ row, ((initWorkflow call now db).stateAfter db).workflowStatus.lookup
        call.status.workflowUuid = some row ∧
      row.workflowTimeoutMs = call.status.workflowTimeoutMs) ∧
      ∀ workflowId queueName deduplicationId,
        (initWorkflow call now db).result ≠
          .error (.queueDeduplicated workflowId queueName deduplicationId) := by
  have hinsert : ∃ rows, db.workflowStatus.insertNew (call.insertedRow now) = some rows := by
    cases hrows : db.workflowStatus.insertNew (call.insertedRow now) with
    | some rows => exact ⟨rows, rfl⟩
    | none =>
      obtain ⟨row, hrow, hkey⟩ := Table.insertNew_eq_none.mp hrows
      exact absurd hkey (Table.lookup_eq_none _ |>.mp hnone row hrow)
  obtain ⟨rows, hrows⟩ := hinsert
  have hlookup : rows.lookup call.status.workflowUuid = some (call.insertedRow now) :=
    Table.lookup_insertNew_self hrows
  have hupsert : call.upsert now db =
      .ok (call.insertedRow now, { db with workflowStatus := rows }) := by
    simp [InitCall.upsert, hnone, hdedup, hrows]
  simp only [initWorkflow, hupsert, mismatch_insertedRow]
  split
  · -- the dead-letter update keeps the timeout
    constructor
    · have hupdated := rows.lookup_update
        (fun r ↦ r.workflowUuid = call.status.workflowUuid && r.status = .pending) deadLetterUpdate
        (fun _ ↦ rfl) call.status.workflowUuid
      rw [hlookup, Option.map_some] at hupdated
      refine ⟨_, hupdated, ?_⟩
      split
      · rfl
      · rfl
    · intro workflowId queueName deduplicationId h
      cases h
  · constructor
    · exact ⟨call.insertedRow now, hlookup, rfl⟩
    · intro workflowId queueName deduplicationId h
      cases h

/-- What the two versions do after they have read the context. -/
def launch (env : StartEnvironment) (start : StartArguments) (fi : FunctionInfo)
    (newWfCtx : LocalContext) (timeout deadline : Option ℤ) (options : EnqueueOptionsInternal) :
    Code StartHandle := do
  match ← recordedChild env fi newWfCtx with
  | some childId => return ⟨childId, false⟩
  | none =>
    let (status, shouldExecute) ← _initWorkflow env start fi newWfCtx timeout deadline options
      (fi.serializationType.getD .default) newWfCtx.idAssignedForNextWorkflow
    recordChild fi newWfCtx newWfCtx.idAssignedForNextWorkflow
    return handleOf start newWfCtx.idAssignedForNextWorkflow status shouldExecute

theorem startWorkflow_eq_launch (hinfo : start.func.info = some fi)
    (hchild : createStartWorkflowChild env localCtx = .ok newWfCtx) :
    startWorkflow env start localCtx db =
      launch env start fi newWfCtx (localCtx.bind LocalContext.workflowTimeoutMs)
        (getTimeoutDeadline env.timeoutClock localCtx start.queueName).2
        (enqueueOptionsOf localCtx) db := by
  simp only [startWorkflow, hinfo, hchild]
  rfl

theorem startAsync_eq_launch (hinfo : start.func.info = some fi)
    (hchild : createStartWorkflowChild env localCtx = .ok newWfCtx) :
    startAsync env start localCtx db =
      launch env start fi newWfCtx
        (getTimeoutDeadline env.timeoutClock localCtx start.queueName).1
        (getTimeoutDeadline env.timeoutClock localCtx start.queueName).2
        (enqueueOptionsOf localCtx) db := by
  simp only [startAsync, startWorkflowAsync, hinfo, hchild]
  rfl

/-- The copies read different timeouts only where the context has a timeout of 0. -/
theorem timeout_eq (clock : ℤ) (queue : Option String)
    (h : localCtx.bind LocalContext.workflowTimeoutMs ≠ some 0) :
    (getTimeoutDeadline clock localCtx queue).1 =
      localCtx.bind LocalContext.workflowTimeoutMs := by
  cases localCtx with
  | none => rfl
  | some ctx =>
    simp only [getTimeoutDeadline, Option.bind_some]
    cases htimeout : ctx.workflowTimeoutMs with
    | none => rfl
    | some timeout =>
      have hne : timeout ≠ 0 := by
        rintro rfl
        exact h htimeout
      simp only [if_neg hne]
      split
      · rfl
      · rfl

theorem timeout_of_zero (clock : ℤ) (queue : Option String)
    (h : localCtx.bind LocalContext.workflowTimeoutMs = some 0) :
    (getTimeoutDeadline clock localCtx queue).1 = none := by
  cases localCtx with
  | none => rfl
  | some ctx =>
    rw [Option.bind_some] at h
    simp [getTimeoutDeadline, h]

/-- The part of `launch` after the status is built. -/
def enter (env : StartEnvironment) (start : StartArguments) (fi : FunctionInfo)
    (newWfCtx : LocalContext) (status : WorkflowStatusInternal) : Code StartHandle := do
  let result ← tryCatch
    (transaction (initWorkflow (initCallOf env start fi status) env.databaseClock))
    (recordRefusal env fi newWfCtx status.serialization)
  recordChild fi newWfCtx newWfCtx.idAssignedForNextWorkflow
  return handleOf start newWfCtx.idAssignedForNextWorkflow { status with status := result.status }
    result.shouldExecute

theorem launch_apply (timeout deadline : Option ℤ) (options : EnqueueOptionsInternal) :
    launch env start fi newWfCtx timeout deadline options db =
      match (recordedChild env fi newWfCtx db).1 with
      | .error error => (.error error, db)
      | .ok (some childId) => (.ok ⟨childId, false⟩, db)
      | .ok none =>
        match initialStatusOf env start fi newWfCtx none deadline options
          (fi.serializationType.getD .default) newWfCtx.idAssignedForNextWorkflow with
        | .error error => (.error error, db)
        | .ok status => enter env start fi newWfCtx { status with workflowTimeoutMs := timeout } db := by
  have hstate := recordedChild_state env fi newWfCtx db
  rw [launch, Py.bind_apply]
  rcases hrecorded : recordedChild env fi newWfCtx db with ⟨error | childId, db'⟩
  · rw [hrecorded] at hstate
    cases hstate
    rfl
  · rw [hrecorded] at hstate
    cases hstate
    cases childId with
    | some childId => rfl
    | none =>
      simp only [_initWorkflow, initialStatusOf_timeout _ timeout]
      cases initialStatusOf env start fi newWfCtx none deadline options
          (fi.serializationType.getD .default) newWfCtx.idAssignedForNextWorkflow with
      | error error => rfl
      | ok status =>
        simp only [Except.map, enter, bind_assoc, pure_bind]
        rfl

/-- Without an insert the timeout leaves no trace. -/
theorem enter_of_not_inserts {status : WorkflowStatusInternal}
    (h : ¬ (db.workflowStatus.lookup status.workflowUuid = none ∧
      (initCallOf env start fi status).isDeduplicated db = false)) (timeout : Option ℤ) :
    enter env start fi newWfCtx { status with workflowTimeoutMs := timeout } db =
      enter env start fi newWfCtx status db := by
  have hinit : initWorkflow (initCallOf env start fi { status with workflowTimeoutMs := timeout })
      env.databaseClock db = initWorkflow (initCallOf env start fi status) env.databaseClock db := by
    cases hlookup : db.workflowStatus.lookup status.workflowUuid with
    | some row => exact initWorkflow_of_lookup timeout _ hlookup
    | none =>
      apply initWorkflow_of_deduplicated timeout _ hlookup
      by_contra hdedup
      exact h ⟨hlookup, Bool.eq_false_iff.mpr hdedup⟩
  simp only [enter, Py.bind_apply, Py.tryCatch_apply, transaction, hinit]
  rfl

/-- `record_child_workflow` does not touch the status rows. -/
theorem recordChild_workflowStatus (fi : FunctionInfo) (newWfCtx : LocalContext)
    (childId : String) (db : SystemDatabase) :
    (recordChild fi newWfCtx childId db).2.workflowStatus = db.workflowStatus := by
  unfold recordChild
  split
  · change ((recordChildWorkflow _ _ _ _ db).stateAfter db).workflowStatus = _
    unfold recordChildWorkflow
    split
    · rfl
    · dsimp only
      split
      · split
        · rfl
        · rfl
      · split
        · split
          · rfl
          · rfl
        · rfl
  · rfl

/-- Any other error than a refusal by the queue is raised again. -/
theorem recordRefusal_of_ne (serialization : Option String) {error : DBOSError}
    (h : ∀ workflowId queueName deduplicationId,
      error ≠ .queueDeduplicated workflowId queueName deduplicationId) :
    recordRefusal env fi newWfCtx serialization error db = (.error error, db) := by
  unfold recordRefusal
  split
  · rename_i workflowId queueName deduplicationId
    exact absurd rfl (h workflowId queueName deduplicationId)
  · rfl

/-- After a start that no queue refuses the status rows are those of `init_workflow`. -/
theorem enter_workflowStatus {status : WorkflowStatusInternal}
    (hrefused : ∀ workflowId queueName deduplicationId,
      (initWorkflow (initCallOf env start fi status) env.databaseClock db).result ≠
        .error (.queueDeduplicated workflowId queueName deduplicationId)) :
    (enter env start fi newWfCtx status db).2.workflowStatus =
      ((initWorkflow (initCallOf env start fi status) env.databaseClock db).stateAfter
        db).workflowStatus := by
  simp only [enter, Py.bind_apply, Py.tryCatch_apply, transaction]
  cases hending : initWorkflow (initCallOf env start fi status) env.databaseClock db with
  | returned result db' =>
    have hchild := recordChild_workflowStatus fi newWfCtx
      newWfCtx.idAssignedForNextWorkflow db'
    simp only [Ending.result_returned, Ending.stateAfter_returned]
    rcases hrecord : recordChild fi newWfCtx newWfCtx.idAssignedForNextWorkflow db' with
      ⟨error | value, after⟩
    · rw [hrecord] at hchild
      exact hchild
    · rw [hrecord] at hchild
      exact hchild
  | raised error =>
    have hne (workflowId queueName deduplicationId : String) :
        error ≠ .queueDeduplicated workflowId queueName deduplicationId := by
      rintro rfl
      exact hrefused workflowId queueName deduplicationId (by rw [hending]; rfl)
    simp only [Ending.result_raised, Ending.stateAfter_raised, recordRefusal_of_ne _ hne]
  | raisedAfterCommit error db' =>
    have hne (workflowId queueName deduplicationId : String) :
        error ≠ .queueDeduplicated workflowId queueName deduplicationId := by
      rintro rfl
      exact hrefused workflowId queueName deduplicationId (by rw [hending]; rfl)
    simp only [Ending.result_raisedAfterCommit, Ending.stateAfter_raisedAfterCommit,
      recordRefusal_of_ne _ hne]

/-- The row that a start inserts holds the timeout, however the start ends. -/
theorem enter_persists (status : WorkflowStatusInternal)
    (hlookup : db.workflowStatus.lookup status.workflowUuid = none)
    (hdedup : (initCallOf env start fi status).isDeduplicated db = false) :
    ∃ row, (enter env start fi newWfCtx status db).2.workflowStatus.lookup status.workflowUuid =
        some row ∧ row.workflowTimeoutMs = status.workflowTimeoutMs := by
  obtain ⟨⟨row, hrow, htimeout⟩, hrefused⟩ :=
    exists_inserted (initCallOf env start fi status) env.databaseClock hlookup hdedup
  refine ⟨row, ?_, htimeout⟩
  rw [enter_workflowStatus hrefused]
  exact hrow

theorem Agrees.refl (outcome : Except DBOSError StartHandle × SystemDatabase) :
    Agrees outcome outcome := ⟨rfl, rfl⟩

/-- A start that inserts no row does not depend on the timeout. -/
theorem launch_of_not_inserts (hinfo : start.func.info = some fi)
    (hchild : createStartWorkflowChild env localCtx = .ok newWfCtx)
    (h : ¬ InsertsRow env start localCtx db) (timeout : Option ℤ) :
    launch env start fi newWfCtx timeout
        (getTimeoutDeadline env.timeoutClock localCtx start.queueName).2
        (enqueueOptionsOf localCtx) db =
      launch env start fi newWfCtx none
        (getTimeoutDeadline env.timeoutClock localCtx start.queueName).2
        (enqueueOptionsOf localCtx) db := by
  have hstate := recordedChild_state env fi newWfCtx db
  rw [launch_apply, launch_apply]
  rcases hrecorded : recordedChild env fi newWfCtx db with ⟨error | _ | childId, db'⟩
  · rfl
  · rw [hrecorded] at hstate
    cases hstate
    cases hstatus : initialStatusOf env start fi newWfCtx none
        (getTimeoutDeadline env.timeoutClock localCtx start.queueName).2
        (enqueueOptionsOf localCtx) (fi.serializationType.getD .default)
        newWfCtx.idAssignedForNextWorkflow with
    | error error => rfl
    | ok status =>
      have hfresh : ¬ (db'.workflowStatus.lookup status.workflowUuid = none ∧
          (initCallOf env start fi status).isDeduplicated db' = false) := by
        rintro ⟨hlookup, hdedup⟩
        exact h ⟨fi, newWfCtx, status, hinfo, hchild, hrecorded, hstatus, hlookup, hdedup⟩
      calc
        enter env start fi newWfCtx { status with workflowTimeoutMs := timeout } db'
            = enter env start fi newWfCtx status db' := enter_of_not_inserts hfresh timeout
        _ = enter env start fi newWfCtx { status with workflowTimeoutMs := none } db' :=
          (enter_of_not_inserts hfresh none).symm
  · rfl

/-- A start that inserts a row leaves the timeout in it. -/
theorem launch_persists {status : WorkflowStatusInternal} {deadline : Option ℤ}
    {options : EnqueueOptionsInternal}
    (hrecorded : recordedChild env fi newWfCtx db = (.ok none, db))
    (hstatus : initialStatusOf env start fi newWfCtx none deadline options
      (fi.serializationType.getD .default) newWfCtx.idAssignedForNextWorkflow = .ok status)
    (hlookup : db.workflowStatus.lookup status.workflowUuid = none)
    (hdedup : (initCallOf env start fi status).isDeduplicated db = false) (timeout : Option ℤ) :
    ∃ row, (launch env start fi newWfCtx timeout deadline options db).2.workflowStatus.lookup
        status.workflowUuid = some row ∧ row.workflowTimeoutMs = timeout := by
  have hlaunch : launch env start fi newWfCtx timeout deadline options db =
      enter env start fi newWfCtx { status with workflowTimeoutMs := timeout } db := by
    rw [launch_apply, hrecorded, hstatus]
  rw [hlaunch]
  exact enter_persists { status with workflowTimeoutMs := timeout } hlookup hdedup

/-- The two versions agree, except where the context has a timeout of 0 and the start inserts a
row. -/
theorem start_agrees_iff (env : StartEnvironment) (start : StartArguments)
    (localCtx : Option LocalContext) (db : SystemDatabase) :
    Agrees (startWorkflow env start localCtx db) (startAsync env start localCtx db) ↔
      ¬ (localCtx.bind LocalContext.workflowTimeoutMs = some 0 ∧
        InsertsRow env start localCtx db) := by
  cases hinfo : start.func.info with
  | none =>
    have hinserts : ¬ InsertsRow env start localCtx db := by
      rintro ⟨fi, newWfCtx, status, hfi, _⟩
      rw [hinfo] at hfi
      cases hfi
    apply iff_of_true
    · -- a function that is not registered is refused before or after the child is made
      simp only [startWorkflow, startAsync, startWorkflowAsync, hinfo]
      cases createStartWorkflowChild env localCtx with
      | error error => exact ⟨rfl, rfl⟩
      | ok newWfCtx => exact ⟨rfl, rfl⟩
    · exact fun h ↦ hinserts h.2
  | some fi =>
    cases hchild : createStartWorkflowChild env localCtx with
    | error error =>
      have hinserts : ¬ InsertsRow env start localCtx db := by
        rintro ⟨fi', newWfCtx, status, _, hcreated, _⟩
        rw [hchild] at hcreated
        cases hcreated
      apply iff_of_true
      · simp only [startWorkflow, startAsync, hinfo, hchild]
        exact ⟨rfl, rfl⟩
      · exact fun h ↦ hinserts h.2
    | ok newWfCtx =>
      rw [startWorkflow_eq_launch hinfo hchild, startAsync_eq_launch hinfo hchild]
      by_cases hzero : localCtx.bind LocalContext.workflowTimeoutMs = some 0
      · rw [timeout_of_zero _ _ hzero, hzero]
        by_cases hinserts : InsertsRow env start localCtx db
        · apply iff_of_false
          · rintro ⟨_, hdb⟩
            obtain ⟨fi', newWfCtx', status, hinfo', hchild', hrecorded, hstatus, hlookup, hdedup⟩ :=
              hinserts
            rw [hinfo] at hinfo'
            rw [hchild] at hchild'
            cases hinfo'
            cases hchild'
            obtain ⟨row, hrow, htimeout⟩ :=
              launch_persists hrecorded hstatus hlookup hdedup (some 0)
            obtain ⟨row', hrow', htimeout'⟩ :=
              launch_persists hrecorded hstatus hlookup hdedup none
            rw [hdb, hrow'] at hrow
            cases hrow
            rw [htimeout] at htimeout'
            cases htimeout'
          · exact fun h ↦ h ⟨rfl, hinserts⟩
        · apply iff_of_true
          · rw [launch_of_not_inserts hinfo hchild hinserts (some 0)]
            exact Agrees.refl _
          · exact fun h ↦ hinserts h.2
      · rw [timeout_eq _ _ hzero]
        apply iff_of_true (Agrees.refl _)
        exact fun h ↦ hzero h.1

end Agreement

/-! ## A timeout of zero -/

/-- A context gets a timeout of 0 from every number of seconds under a millisecond. -/
theorem setWorkflowTimeout_zero_iff {env : StartEnvironment} {repr : ℚ → String} {seconds : ℚ}
    {ctx : Option LocalContext} {entered : LocalContext}
    (h : setWorkflowTimeout env repr (some seconds) ctx = .ok entered) :
    entered.workflowTimeoutMs = some 0 ↔ seconds * 1000 < 1 := by
  simp only [setWorkflowTimeout] at h
  split at h
  · cases h
  · rename_i hvalid
    cases h
    have hnonneg : 0 ≤ seconds := by
      by_contra hneg
      exact hvalid ⟨(not_le.mp hneg).ne, not_lt.mpr (not_le.mp hneg).le⟩
    have hfloor : pyInt (seconds * 1000) = ⌊seconds * 1000⌋ := by
      have hnum : 0 ≤ (seconds * 1000).num := Rat.num_nonneg.mpr (by positivity)
      rw [pyInt, Int.tdiv_eq_ediv_of_nonneg hnum, Rat.floor_def']
    rw [Option.some.injEq, hfloor, Int.floor_eq_zero_iff, Set.mem_Ico]
    constructor
    · exact fun hmem ↦ hmem.2
    · intro hlt
      exact ⟨by positivity, hlt⟩

def plainEnvironment : StartEnvironment where
  executorId := some "local"
  globalAppVersion := "1"
  appId := some ""
  serializers := portableSerializers limitJson refusingPickle (portableJSON limitJson)
  serializeException _ _ := .error (.typeError "cannot pickle object")
  deserializeException text _ := .exception text
  generated := "w"
  ownerXid := "x"
  timeoutClock := 1000
  databaseClock := 1000
  startedAt := 1000
  completedAt := 1000

def plainStart : StartArguments where
  func :=
    { name := "f"
      info := some { wfName := "f", className := fun _ ↦ .ok none, configName := fun _ ↦ .ok none } }
  args := [.list [.int 1, .bool true]]
  kwargs := [(.str "limit", .none)]

/-- The context inside `with SetWorkflowTimeout(0)`. -/
def zeroTimeout : LocalContext :=
  { newContext plainEnvironment with workflowTimeoutMs := some 0 }

/-- Inside `with SetWorkflowTimeout(0)` one version stores a timeout of 0 and the other none. -/
theorem start_disagrees_on_zeroTimeout :
    setWorkflowTimeout plainEnvironment (fun _ ↦ "0") (some 0) none = .ok zeroTimeout ∧
      ((startWorkflow plainEnvironment plainStart (some zeroTimeout) .empty).2.workflowStatus.lookup
        "w").map WorkflowStatusRow.workflowTimeoutMs = some (some 0) ∧
      ((startAsync plainEnvironment plainStart (some zeroTimeout) .empty).2.workflowStatus.lookup
        "w").map WorkflowStatusRow.workflowTimeoutMs = some none := by
  refine ⟨?_, rfl, rfl⟩
  have hzero : pyInt 0 = 0 := rfl
  simp [setWorkflowTimeout, hzero, zeroTimeout, newContext]

end DBOSModel.Core.Start

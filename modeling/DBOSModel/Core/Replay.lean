import DBOSModel.Core.Transaction
import DBOSModel.Relational.Script
import DBOSModel.SysDb.Receive

/-!
# The operations of a workflow and their checkpoints

What a workflow function calls of `dbos/_dbos.py` and `dbos/_core.py`: steps, transactions, `send`,
`recv`, `get_event`, `set_event`, `sleep` and child workflows. Each operation takes its step IDs from
the counter of the context and is a script of transactions. `recv` and `get_event` reserve two IDs
and record their timeout, under the second one, before they record themselves; a direct call of a
child reserves two as well and records the child first.

The workflow sees the result of an operation as the texts of its checkpoint. What the function of a
step returns comes from outside, and so do clock readings, generated IDs and the events read; the
outcomes of the children are given. An operation may also raise an exception that no checkpoint
holds.
-/

namespace DBOSModel.Core

open Relational DBOSModel.SysDb

/-! ## Histories -/

/-- The system database and the application database. -/
structure Databases (α : Type) where
  sys : SystemDatabase
  app : AppDatabase α

/-- The rows of one workflow in `operation_outputs` and in `transaction_outputs`. -/
@[ext]
structure History where
  checkpoints : ℤ → Option OperationOutputRow
  transactions : ℤ → Option TransactionOutputRow

def history {α : Type} (workflowId : String) (db : Databases α) : History where
  checkpoints functionId := db.sys.operationOutputs.lookup (workflowId, functionId)
  transactions functionId := db.app.transactionOutputs.lookup (workflowId, functionId)

/-- The columns of a checkpoint that a lookup returns. -/
def recordedColumns (row : OperationOutputRow) : RecordedResult where
  output := row.output
  error := row.error
  serialization := row.serialization
  childWorkflowId := row.childWorkflowId

/-- The result `None`. -/
def noResult : RecordedResult := ⟨none, none, none, none⟩

/-! ## Calls to the databases -/

def getEventName : String := "DBOS.getEvent"

def sendName (bulk : Bool) : String := if bulk then "DBOS.send_bulk" else "DBOS.send"

/-- The transactions of the operations, and the code they wait for. -/
inductive Call (V : Type) where
  /-- `check_operation_execution`. -/
  | check (functionId : ℤ) (functionName : String)
  /-- Code outside of the library returns or raises; its outcome is serialized. -/
  | invoke
  /-- `record_operation_result`. -/
  | record (functionId : ℤ) (functionName : String) (result : RecordedResult)
  /-- `record_operation_result` of `record_sleep`. -/
  | sleep (functionId : ℤ)
  | sendBulk (functionId : ℤ) (messages : List (SendMessage V))
      (format : WorkflowSerializationFormat) (bulk sendToForks : Bool)
  | setEvent (functionId : ℤ) (key : String) (message : V) (format : WorkflowSerializationFormat)
  | recvConsume (functionId : ℤ) (topic : Option String)
  | getEventConsume (functionId : ℤ) (targetUuid key : String)
  /-- The application transaction of `invoke_tx`. -/
  | transaction (functionId : ℤ) (transactionName : String)
  /-- `_init_workflow` of a child. -/
  | initWorkflow
  | recordChildWorkflow (functionId : ℤ) (functionName childId : String)
  | recordGetResult (functionId : ℤ) (resultWorkflowId : String) (result : RecordedResult)

/-- What a call returns: a lookup may find nothing, and `_init_workflow` may be refused by a queue,
with the exception that is then recorded. -/
def Call.Returns {V : Type} : Call V → Type
  | .check _ _ => Option RecordedResult
  | .initWorkflow => Option RecordedResult
  | _ => RecordedResult

/-- What an attempt reads from outside. -/
structure Input (V α : Type) where
  executorId : Option String
  now : ℤ
  startTime : ℤ
  completedAt : ℤ
  uuids : ℕ → String
  endTime : V
  /-- The outcome of a function of the application. -/
  outcome : RecordedResult
  /-- The tables of the application after it. -/
  data : α
  initialized : Except DBOSError (Option RecordedResult)
  /-- `_init_workflow` looks at no step. -/
  initialized_expected : ∀ workflowId stepId expectedName recordedName,
    initialized ≠ .error (.unexpectedStep workflowId stepId expectedName recordedName)
  /-- The database at the time at which `get_event` reads the event. -/
  polled : SystemDatabase

/-- The value of an event with the name of its serialization. -/
def readEvent {V : Type} (serializers : Serializers V) (targetUuid key : String)
    (db : SystemDatabase) : Except DBOSError (V × Option String) :=
  match db.workflowEvents.lookup (targetUuid, key) with
  | none => .ok (serializers.pyNone, none)
  | some row => do
    let value ← serializers.deserializeValue (some row.value) row.serialization
    pure (value, row.serialization)

/-- `get_event_consume` inside a workflow: the event is read on `polled` and recorded on `db`. -/
def getEventConsume {V : Type} (serializers : Serializers V) (executorId : Option String)
    (workflowUuid : String) (functionId : ℤ) (targetUuid key : String) (startTime completedAt : ℤ)
    (polled db : SystemDatabase) : Ending SystemDatabase DBOSError Unit :=
  .ofExcept do
    let (value, stored) ← readEvent serializers targetUuid key polled
    let (serval, serialization) ← serializers.serializeValueAs value stored
    let db' ← recordOperationResultTxn executorId
      { workflowUuid := workflowUuid
        functionId := functionId
        functionName := getEventName
        startedAtEpochMs := startTime
        output := some serval
        serialization := some serialization }
      completedAt db
    pure ((), db')

/-- The application transaction of `invoke_tx`: an outcome found there is returned, else the body
runs and its outcome is inserted, an error by a transaction of its own. -/
def invokeTransaction {V α : Type} (input : Input V α) (call : TxCall) (db : Databases α) :
    Ending (Databases α) DBOSError RecordedResult :=
  match checkTransactionExecution call db.app with
  | .error error => .raised error
  | .ok (some recorded) =>
    if truthy recorded.error = none ∧ truthy recorded.output = none then
      .raised (.exception "Output and error are both None")
    else .returned recorded db
  | .ok none =>
    let written :=
      match input.outcome.error with
      | some error => recordTransactionError call error db.app
      | none => recordTransactionOutput call (input.outcome.output.getD "")
          { db.app with data := input.data }
    match written with
    | .error error => .raised error
    | .ok app => .returned input.outcome { db with app := app }

section Attempt

variable {V α : Type} (serializers : Serializers V) (workflowId : String)

/-- The result that a checkpoint of the workflow holds. -/
def recordedAt (functionId : ℤ) (sys : SystemDatabase) : RecordedResult :=
  ((sys.operationOutputs.lookup (workflowId, functionId)).map recordedColumns).getD noResult

/-- A transaction on the system database that leaves a checkpoint. -/
def onSystem {β : Type} (functionId : ℤ) (db : Databases α) :
    Ending SystemDatabase DBOSError β → Ending (Databases α) DBOSError RecordedResult
  | .returned _ sys => .returned (recordedAt workflowId functionId sys) { db with sys := sys }
  | .raised error => .raised error
  | .raisedAfterCommit error sys => .raisedAfterCommit error { db with sys := sys }

/-- One call, on the databases as they are when it is made. -/
def Call.attempt (input : Input V α) (db : Databases α) :
    (call : Call V) → Ending (Databases α) DBOSError call.Returns
  | .check functionId functionName =>
    match checkOperationExecutionTxn workflowId functionId functionName db.sys with
    | .error error => .raised error
    | .ok recorded => .returned recorded db
  | .invoke => .returned input.outcome db
  | .record functionId functionName result =>
    onSystem workflowId functionId db (recordOperationResult input.executorId
      { workflowUuid := workflowId
        functionId := functionId
        functionName := functionName
        startedAtEpochMs := input.startTime
        output := result.output
        error := result.error
        serialization := result.serialization }
      input.completedAt db.sys)
  | .sleep functionId =>
    match sleepResult serializers workflowId functionId input.startTime input.endTime with
    | .error error => .raised error
    | .ok result => onSystem workflowId functionId db
        (recordOperationResult input.executorId result input.completedAt db.sys)
  | .sendBulk functionId messages format bulk sendToForks =>
    onSystem workflowId functionId db (SysDb.sendBulk serializers input.executorId
      { messages := messages
        serializationType := format
        workflowId := some workflowId
        functionId := some functionId
        functionName := sendName bulk
        sendToForks := sendToForks }
      input.now input.startTime input.completedAt input.uuids db.sys)
  | .setEvent functionId key message format =>
    onSystem workflowId functionId db (setEventFromWorkflow serializers input.executorId workflowId
      functionId key message format input.startTime input.completedAt db.sys)
  | .recvConsume functionId topic =>
    onSystem workflowId functionId db (SysDb.recvConsume serializers input.executorId workflowId
      functionId topic input.startTime input.completedAt db.sys)
  | .getEventConsume functionId targetUuid key =>
    onSystem workflowId functionId db (Core.getEventConsume serializers input.executorId workflowId
      functionId targetUuid key input.startTime input.completedAt input.polled db.sys)
  | .transaction functionId transactionName =>
    invokeTransaction input ⟨workflowId, functionId, transactionName, input.executorId⟩ db
  | .initWorkflow =>
    match input.initialized with
    | .error error => .raised error
    | .ok refused => .returned refused db
  | .recordChildWorkflow functionId functionName childId =>
    onSystem workflowId functionId db
      (SysDb.recordChildWorkflow workflowId childId functionId functionName db.sys)
  | .recordGetResult functionId resultWorkflowId result =>
    onSystem workflowId functionId db (SysDb.recordGetResult workflowId functionId resultWorkflowId
      result.output result.error result.serialization db.sys)

end Attempt

/-! ## Operations -/

/-- An operation of a workflow function. A child gets the ID that was assigned for it, or one made
of the workflow ID and the step ID. -/
inductive Operation (V : Type) where
  | step (functionName : String)
  | transaction (transactionName : String)
  | send (messages : List (SendMessage V)) (format : WorkflowSerializationFormat)
      (bulk sendToForks : Bool)
  | recv (topic : Option String)
  | getEvent (targetUuid key : String)
  | setEvent (key : String) (message : V) (format : WorkflowSerializationFormat)
  | sleep (seconds : ℚ)
  /-- `start_workflow` and `enqueue`. -/
  | startWorkflow (functionName : String) (assignedId : Option String)
  /-- A direct call of a workflow function. -/
  | callWorkflow (functionName : String) (assignedId : Option String)
  /-- `get_result` of a handle. -/
  | getResult (resultWorkflowId : String)

/-- The number of step IDs that an operation takes. -/
def Operation.ids {V : Type} : Operation V → ℤ
  | .recv _ => 2
  | .getEvent _ _ => 2
  | .callWorkflow _ _ => 2
  | .sleep seconds => if seconds ≤ 0 then 0 else 1
  | _ => 1

/-- The control flow of an operation, which ends with the result the workflow sees. -/
abbrev OperationScript (V : Type) : Type :=
  Script (Call V) Call.Returns DBOSError RecordedResult

section Scripts

variable {V : Type}

/-- Look up a checkpoint, and go on with it or without. -/
def checked (functionId : ℤ) (functionName : String)
    (found : RecordedResult → OperationScript V) (missing : OperationScript V) :
    OperationScript V :=
  .call (.check functionId functionName) (Script.onOk fun recorded : Option RecordedResult ↦
    match recorded with
    | some result => found result
    | none => missing)

/-- Record a result and return it. -/
def recordAndReturn (functionId : ℤ) (functionName : String) (result : RecordedResult) :
    OperationScript V :=
  .call (.record functionId functionName result) (Script.onOk .finished)

/-- `invoke_step`. -/
def invokeStep (functionId : ℤ) (functionName : String) : OperationScript V :=
  checked functionId functionName
    (fun recorded ↦
      if recorded.error = none ∧ recorded.output = none then
        .raised (.exception "Output and error are both None")
      else .finished recorded)
    (.call .invoke (Script.onOk (recordAndReturn functionId functionName)))

/-- `invoke_tx`. -/
def invokeTx (functionId : ℤ) (transactionName : String) : OperationScript V :=
  checked functionId transactionName
    (fun recorded ↦
      if truthy recorded.error = none ∧ truthy recorded.output = none then
        .raised (.exception "Output and error are both None")
      else .finished recorded)
    (.call (.transaction functionId transactionName)
      (Script.onOk (recordAndReturn functionId transactionName)))

/-- `record_sleep`, in front of what follows it. -/
def recordSleep (functionId : ℤ) (next : OperationScript V) : OperationScript V :=
  checked functionId sleepName
    (fun recorded ↦
      if recorded.output = none then .raised (.assertionError "no recorded end time") else next)
    (.call (.sleep functionId) fun
      | .ok _ => next
      | .error (.workflowConflictID _) => next
      | .error error => .raised error)

/-- The common shape of `recv` and `get_event`: the lookup, the timeout under the next step ID, and
the transaction `consume` that records the operation. -/
def waitFor (functionId : ℤ) (functionName missingOutput : String)
    (consume : OperationScript V) : OperationScript V :=
  checked functionId functionName
    (fun recorded ↦
      if recorded.output = none then .raised (.exception missingOutput) else .finished recorded)
    (recordSleep (functionId + 1) consume)

def recv (functionId : ℤ) (topic : Option String) : OperationScript V :=
  waitFor functionId recvName "No output recorded in the last recv"
    (.call (.recvConsume functionId topic) (Script.onOk .finished))

def getEvent (functionId : ℤ) (targetUuid key : String) : OperationScript V :=
  waitFor functionId getEventName "No output recorded in the last get_event"
    (.call (.getEventConsume functionId targetUuid key) (Script.onOk .finished))

/-- A checkpoint of a started child: its error, or the ID of the child. -/
def namesChild (recorded : RecordedResult) : Bool :=
  (truthy recorded.error).isSome || (truthy recorded.childWorkflowId).isSome

/-- The part of `start_workflow` after the lookup: a child that a queue refuses is recorded with the
exception. -/
def startChild (functionId : ℤ) (functionName childId : String)
    (next : Except DBOSError RecordedResult → OperationScript V) : OperationScript V :=
  .call .initWorkflow fun
    | .error error => next (.error error)
    | .ok (some refused) => .call (.record functionId functionName refused) next
    | .ok none => .call (.recordChildWorkflow functionId functionName childId) next

/-- `start_workflow` inside a workflow. -/
def startWorkflow (functionId : ℤ) (functionName childId : String) : OperationScript V :=
  let start := startChild functionId functionName childId (Script.onOk .finished)
  checked functionId functionName
    (fun recorded ↦ if namesChild recorded then .finished recorded else start) start

/-- The exceptions that `except Exception` does not catch. -/
def isBaseException : DBOSError → Bool
  | .workflowCancelled _ => true
  | .workflowConflictID _ => true
  | _ => false

/-- What a child returns or raises to a direct call. -/
def childResult (outcomes : String → RecordedResult) (recorded : RecordedResult) :
    RecordedResult :=
  if (truthy recorded.error).isSome then recorded
  else outcomes (recorded.childWorkflowId.getD "")

/-- The wrapper of a workflow function inside a workflow. The implicit `get_result` is recorded
under the second step ID, also when an `Exception` keeps the child from starting. -/
def callWorkflow (outcomes : String → RecordedResult) (functionId : ℤ)
    (functionName childId : String) : OperationScript V :=
  let report (recorded : RecordedResult) : OperationScript V :=
    let result := childResult outcomes recorded
    .call (.recordGetResult (functionId + 1) childId result) (Script.onOk fun _ ↦ .finished result)
  let fail (error : DBOSError) : OperationScript V :=
    if isBaseException error then .raised error
    else .call .invoke (Script.onOk fun serialized : RecordedResult ↦
      .call (.recordGetResult (functionId + 1) childId serialized) fun _ ↦ .raised error)
  let finish : Except DBOSError RecordedResult → OperationScript V
    | .ok recorded => report recorded
    | .error error => fail error
  let start := startChild functionId functionName childId finish
  .call (.check functionId functionName) fun
    | .error error => fail error
    | .ok (some recorded) => if namesChild recorded then report recorded else start
    | .ok none => start

/-- `create_start_workflow_child`: the ID of a child. -/
def childWorkflowId (workflowId : String) (functionId : ℤ) (assignedId : Option String) : String :=
  assignedId.getD (workflowId ++ "-" ++ toString functionId)

/-- The script of an operation, at the counter `functionId` of the context. -/
def Operation.script (workflowId : String) (outcomes : String → RecordedResult) (functionId : ℤ) :
    Operation V → OperationScript V
  | .step functionName => invokeStep (functionId + 1) functionName
  | .transaction transactionName => invokeTx (functionId + 1) transactionName
  | .send messages format bulk sendToForks =>
    .call (.sendBulk (functionId + 1) messages format bulk sendToForks)
      (Script.onOk fun _ ↦ .finished noResult)
  | .recv topic => Core.recv (functionId + 1) topic
  | .getEvent targetUuid key => Core.getEvent (functionId + 1) targetUuid key
  | .setEvent key message format =>
    .call (.setEvent (functionId + 1) key message format) (Script.onOk fun _ ↦ .finished noResult)
  | .sleep seconds =>
    if seconds ≤ 0 then .finished noResult
    else recordSleep (functionId + 1) (.finished noResult)
  | .startWorkflow functionName assignedId =>
    Core.startWorkflow (functionId + 1) functionName
      (childWorkflowId workflowId (functionId + 1) assignedId)
  | .callWorkflow functionName assignedId =>
    Core.callWorkflow outcomes (functionId + 1) functionName
      (childWorkflowId workflowId (functionId + 1) assignedId)
  | .getResult resultWorkflowId =>
    .call (.recordGetResult (functionId + 1) resultWorkflowId (outcomes resultWorkflowId))
      (Script.onOk fun _ ↦ .finished (outcomes resultWorkflowId))

end Scripts

/-! ## Exceptions other than `DBOSUnexpectedStepError` -/

def isUnexpectedStep : DBOSError → Bool
  | .unexpectedStep _ _ _ _ => true
  | _ => false

/-- The computation does not raise `DBOSUnexpectedStepError`. -/
def Expected {β : Type} (outcome : Except DBOSError β) : Prop :=
  ∀ error, outcome = .error error → isUnexpectedStep error = false

theorem expected_ok {β : Type} (value : β) : Expected (.ok value) := by
  intro error h
  cases h

theorem expected_bind {β γ : Type} {first : Except DBOSError β} {next : β → Except DBOSError γ}
    (hfirst : Expected first) (hnext : ∀ value, first = .ok value → Expected (next value)) :
    Expected (first >>= next) := by
  cases first with
  | error error =>
    intro error' h
    cases h
    exact hfirst error rfl
  | ok value => exact hnext value rfl

/-- The serializers know nothing of steps, nor the portable one of workflows. -/
structure SerializersExpected {V : Type} (serializers : Serializers V) : Prop where
  portable_serialize : ∀ value, Expected (serializers.portable.serialize value)
  portable_conflict : ∀ value workflowId,
    serializers.portable.serialize value ≠ .error (.workflowConflictID workflowId)
  portable_deserialize : ∀ text, Expected (serializers.portable.deserialize text)
  native_serialize : ∀ value, Expected (serializers.native.serialize value)
  native_deserialize : ∀ text, Expected (serializers.native.deserialize text)
  configured_serialize : ∀ value, Expected (serializers.configured.serialize value)
  configured_deserialize : ∀ text, Expected (serializers.configured.deserialize text)

section Serializing

variable {V : Type} {serializers : Serializers V}

theorem expected_select (serialization : Option String) :
    Expected (serializers.select serialization) := by
  intro error h
  rw [Serializers.select_eq_error h]
  rfl

/-- A selected serializer is one of the three. -/
theorem SerializersExpected.select (hexpected : SerializersExpected serializers)
    {serialization : Option String} {s : Serializer V}
    (h : serializers.select serialization = .ok s) :
    (∀ value, Expected (s.serialize value)) ∧ ∀ text, Expected (s.deserialize text) := by
  rcases Serializers.select_eq_ok h with rfl | rfl | rfl
  · exact ⟨hexpected.portable_serialize, hexpected.portable_deserialize⟩
  · exact ⟨hexpected.native_serialize, hexpected.native_deserialize⟩
  · exact ⟨hexpected.configured_serialize, hexpected.configured_deserialize⟩

theorem SerializersExpected.serializeValueAs (hexpected : SerializersExpected serializers)
    (value : V) (serialization : Option String) :
    Expected (serializers.serializeValueAs value serialization) := by
  refine expected_bind (expected_select serialization) ?_
  intro s hs
  exact expected_bind ((hexpected.select hs).1 value) fun text _ ↦ expected_ok _

theorem SerializersExpected.deserializeValue (hexpected : SerializersExpected serializers)
    (text serialization : Option String) :
    Expected (serializers.deserializeValue text serialization) := by
  cases text with
  | none => exact expected_ok _
  | some text =>
    refine expected_bind (expected_select serialization) ?_
    intro s hs
    exact (hexpected.select hs).2 text

end Serializing

/-! ## What a transaction leaves -/

/-- The checkpoint `key` is there afterwards, and nothing else has changed; a new one has the
name. -/
structure RecordsRow (key : String × ℤ) (functionName : String) (sys sys' : SystemDatabase) :
    Prop where
  stored : (sys'.operationOutputs.lookup key).isSome
  others : ∀ other, sys'.operationOutputs.lookup other = sys.operationOutputs.lookup other ∨
    other = key ∧ sys.operationOutputs.lookup other = none ∧
      ∃ row, sys'.operationOutputs.lookup other = some row ∧ row.functionName = functionName

/-- A transaction that leaves the checkpoint `key` when it returns, and that raises
`DBOSUnexpectedStepError` only for a checkpoint of another name. -/
structure Records {β : Type} (key : String × ℤ) (functionName : String) (sys : SystemDatabase)
    (ending : Ending SystemDatabase DBOSError β) : Prop where
  returned : ∀ value sys', ending = .returned value sys' → RecordsRow key functionName sys sys'
  raised : ∀ error, ending = .raised error → isUnexpectedStep error = true →
    ∃ row, sys.operationOutputs.lookup key = some row ∧ row.functionName ≠ functionName
  rolledBack : ∀ error sys', ending ≠ .raisedAfterCommit error sys'

section Recording

variable {β : Type} {key : String × ℤ} {functionName : String} {sys sys' : SystemDatabase}

theorem records_ofExcept {outcome : Except DBOSError (β × SystemDatabase)}
    (hok : ∀ value sys', outcome = .ok (value, sys') → RecordsRow key functionName sys sys')
    (herror : ∀ error, outcome = .error error → isUnexpectedStep error = true →
      ∃ row, sys.operationOutputs.lookup key = some row ∧ row.functionName ≠ functionName) :
    Records key functionName sys (.ofExcept outcome) where
  returned value sys' h := hok value sys' (Ending.ofExcept_eq_returned.mp h)
  raised error h := by
    cases outcome with
    | ok pair => cases h
    | error raised =>
      cases h
      exact herror error rfl
  rolledBack error sys' := by
    cases outcome with
    | ok pair => exact fun h ↦ nomatch h
    | error raised => exact fun h ↦ nomatch h

/-- The same where the only exceptions are others. -/
theorem records_ofExcept_of_expected {outcome : Except DBOSError (β × SystemDatabase)}
    (hok : ∀ value sys', outcome = .ok (value, sys') → RecordsRow key functionName sys sys')
    (hexpected : Expected outcome) : Records key functionName sys (.ofExcept outcome) := by
  refine records_ofExcept hok ?_
  intro error herror hunexpected
  rw [hexpected error herror] at hunexpected
  cases hunexpected

theorem recordsRow_of_stored {row : OperationOutputRow}
    (h : sys.operationOutputs.lookup key = some row) : RecordsRow key functionName sys sys where
  stored := Option.isSome_of_eq_some h
  others _ := Or.inl rfl

variable {executorId : Option String} {result : OperationResultInternal} {completedAt : ℤ}

theorem expected_recordOperationResultTxn :
    Expected (recordOperationResultTxn executorId result completedAt sys) := by
  intro error h
  rcases recordOperationResultTxn_eq_error h with ⟨message, rfl⟩ | rfl | ⟨rfl, -⟩
  · rfl
  · rfl
  · rfl

theorem recordsRow_recordOperationResultTxn
    (h : recordOperationResultTxn executorId result completedAt sys = .ok sys') :
    RecordsRow result.key result.functionName sys sys' := by
  obtain ⟨hstored, hothers⟩ := lookup_recordOperationResultTxn h
  refine ⟨hstored, ?_⟩
  intro other
  rcases hothers other with hsame | ⟨hkey, hnone, hnew⟩
  · exact Or.inl hsame
  · exact Or.inr ⟨hkey, hnone, _, hnew, rfl⟩

/-- Recording after work that leaves the checkpoints alone. -/
theorem RecordsRow.after {middle : SystemDatabase} (h : RecordsRow key functionName middle sys')
    (hkeeps : middle.operationOutputs = sys.operationOutputs) :
    RecordsRow key functionName sys sys' := by
  refine ⟨h.stored, ?_⟩
  rw [← hkeeps]
  exact h.others

theorem records_recordOperationResult (hkey : result.key = key)
    (hname : result.functionName = functionName) :
    Records key functionName sys (recordOperationResult executorId result completedAt sys) := by
  rw [← hkey, ← hname]
  refine records_ofExcept_of_expected ?_ ?_
  · intro value sys' h
    obtain ⟨after, hrecord, heq⟩ := map_eq_ok.mp h
    cases heq
    exact recordsRow_recordOperationResultTxn hrecord
  · intro error h
    cases hrecord : recordOperationResultTxn executorId result completedAt sys with
    | ok after =>
      rw [hrecord] at h
      cases h
    | error raised =>
      rw [hrecord] at h
      cases h
      exact expected_recordOperationResultTxn error hrecord

/-- The lookup raises `DBOSUnexpectedStepError` only for a checkpoint of another name. -/
theorem exists_other_of_check {workflowId : String} {functionId : ℤ} {error : DBOSError}
    (h : checkOperationExecutionTxn workflowId functionId functionName sys = .error error)
    (hunexpected : isUnexpectedStep error = true) :
    ∃ row, sys.operationOutputs.lookup (workflowId, functionId) = some row ∧
      row.functionName ≠ functionName := by
  unfold checkOperationExecutionTxn at h
  split at h
  · cases h
    cases hunexpected
  · split at h
    · cases h
      cases hunexpected
    · split at h
      · cases h
      · rename_i stored hstored
        split at h
        · rename_i hname
          exact ⟨stored, hstored, Ne.symm hname⟩
        · cases h

/-- A step that replays or does its work and records it. -/
theorem recordedStep_records {step : StepRecord} {replay : RecordedResult → Except DBOSError β}
    {work : SystemDatabase → Except DBOSError (β × Option String × SystemDatabase)}
    (hkey : (step.workflowUuid, step.functionId) = key) (hname : step.functionName = functionName)
    (hreplay : ∀ recorded, Expected (replay recorded)) (hwork : Expected (work sys))
    (hkeeps : ∀ value output middle, work sys = .ok (value, output, middle) →
      middle.operationOutputs = sys.operationOutputs) :
    Records key functionName sys (.ofExcept (recordedStep step replay work sys)) := by
  rw [← hkey, ← hname]
  cases hcheck : checkOperationExecutionTxn step.workflowUuid step.functionId step.functionName
      sys with
  | error error =>
    have hstep : recordedStep step replay work sys = .error error := by
      rw [recordedStep, hcheck]
      rfl
    refine records_ofExcept ?_ ?_
    · intro value sys' h
      rw [hstep] at h
      cases h
    · intro error' h hunexpected
      rw [hstep] at h
      cases h
      exact exists_other_of_check hcheck hunexpected
  | ok found =>
    have hfound := checkOperationExecutionTxn_eq_ok hcheck
    cases found with
    | some recorded =>
      have hstep : recordedStep step replay work sys =
          (replay recorded).bind fun value ↦ .ok (value, sys) := by
        rw [recordedStep, hcheck]
        rfl
      rw [hstep]
      refine records_ofExcept_of_expected ?_ (expected_bind (hreplay recorded) fun value _ ↦
        expected_ok _)
      intro value sys' h
      obtain ⟨value', -, heq⟩ := bind_eq_ok.mp h
      cases heq
      obtain ⟨row, hrow, -⟩ := Option.map_eq_some_iff.mp hfound.symm
      exact recordsRow_of_stored hrow
    | none =>
      have hstep : recordedStep step replay work sys = (work sys).bind fun done ↦
          (recordOperationResultTxn step.executorId
            { workflowUuid := step.workflowUuid
              functionId := step.functionId
              functionName := step.functionName
              startedAtEpochMs := step.startTime
              output := done.2.1 }
            step.completedAt done.2.2).bind fun after ↦ .ok (done.1, after) := by
        rw [recordedStep, hcheck]
        rfl
      rw [hstep]
      refine records_ofExcept_of_expected ?_ (expected_bind hwork fun done _ ↦
        expected_bind expected_recordOperationResultTxn fun _ _ ↦ expected_ok _)
      intro value sys' h
      obtain ⟨done, hdone, hrest⟩ := bind_eq_ok.mp h
      obtain ⟨after, hrecord, heq⟩ := bind_eq_ok.mp hrest
      cases heq
      exact (recordsRow_recordOperationResultTxn hrecord).after (hkeeps _ _ _ hdone)

/-- A computation in front of a transaction. -/
theorem records_bind {γ : Type} {first : Except DBOSError γ}
    {next : γ → Except DBOSError (β × SystemDatabase)} (hfirst : Expected first)
    (hnext : ∀ value, first = .ok value → Records key functionName sys (.ofExcept (next value))) :
    Records key functionName sys (.ofExcept (first >>= next)) := by
  cases first with
  | ok value => exact hnext value rfl
  | error error =>
    refine records_ofExcept_of_expected ?_ ?_
    · intro value sys' h
      cases h
    · intro error' h
      cases h
      exact hfirst error rfl

variable {V : Type} {serializers : Serializers V} {workflowId : String} {functionId : ℤ}

theorem expected_mapM {γ δ : Type} {f : γ → Except DBOSError δ} (hf : ∀ x, Expected (f x))
    (inputs : List γ) : Expected (inputs.mapM f) := by
  induction inputs with
  | nil => exact expected_ok []
  | cons x rest ih =>
    rw [List.mapM_cons]
    exact expected_bind (hf x) fun _ _ ↦ expected_bind ih fun _ _ ↦ expected_ok _

theorem expected_rejectDuplicateKeys (messages : List (SendMessage V)) :
    Expected (rejectDuplicateKeys messages) := by
  intro error h
  unfold rejectDuplicateKeys at h
  simp only at h
  split at h
  · cases h
  · cases h
    rfl

theorem expected_deliver {call : SendBulkCall V} {prepared : List PreparedMessage} {now : ℤ}
    {uuids : ℕ → String} : Expected (deliver call prepared now uuids sys) := by
  intro error h
  unfold deliver at h
  split at h
  · cases h
  · cases h
    rfl

theorem records_sendBulk (hexpected : SerializersExpected serializers) {call : SendBulkCall V}
    {now startTime : ℤ} {uuids : ℕ → String} (hworkflow : call.workflowId = some workflowId)
    (hfunction : call.functionId = some functionId) (hname : call.functionName = functionName) :
    Records (workflowId, functionId) functionName sys
      (sendBulk serializers executorId call now startTime completedAt uuids sys) := by
  rw [← hname]
  have hsend : sendBulk serializers executorId call now startTime completedAt uuids sys =
      .ofExcept ((rejectDuplicateKeys call.messages) >>= fun _ ↦
        call.messages.mapM (prepareMessage serializers call.serializationType) >>= fun prepared ↦
          recordedStep
            ⟨executorId, workflowId, functionId, call.functionName, startTime, completedAt⟩
            (fun _ ↦ .ok ())
            (fun db ↦ (deliver call prepared now uuids db) >>= fun db' ↦ .ok ((), none, db'))
            sys) := by
    rw [sendBulk, sendBulkTxn, hworkflow, hfunction]
    cases rejectDuplicateKeys call.messages with
    | error error => rfl
    | ok accepted =>
      cases call.messages.mapM (prepareMessage serializers call.serializationType) with
      | error error => rfl
      | ok prepared =>
        simp only [bind, Except.bind, pure, Except.pure]
        split
        · rename_i herror
          rw [herror]
          rfl
        · rename_i hok
          rw [hok]
          rfl
  rw [hsend]
  refine records_bind (expected_rejectDuplicateKeys _) fun _ _ ↦ ?_
  refine records_bind (expected_mapM (fun message ↦ ?_) _) fun prepared _ ↦ ?_
  · exact expected_bind (hexpected.serializeValueAs _ _) fun _ _ ↦ expected_ok _
  · refine recordedStep_records rfl rfl ?_ ?_ ?_
    · exact fun _ ↦ expected_ok ()
    · exact expected_bind expected_deliver fun _ _ ↦ expected_ok _
    · intro value output middle h
      obtain ⟨delivered, hdeliver, heq⟩ := bind_eq_ok.mp h
      cases heq
      exact (keepsCheckpoints_deliver hdeliver).1

theorem records_setEventFromWorkflow (hexpected : SerializersExpected serializers) {event : String}
    {message : V} {format : WorkflowSerializationFormat} {startTime : ℤ} :
    Records (workflowId, functionId) "DBOS.setEvent" sys
      (setEventFromWorkflow serializers executorId workflowId functionId event message format
        startTime completedAt sys) := by
  refine records_bind (hexpected.serializeValueAs _ _) fun texts _ ↦ ?_
  refine recordedStep_records rfl rfl ?_ ?_ ?_
  · exact fun _ ↦ expected_ok ()
  · exact expected_ok _
  · intro value output middle h
    cases h
    rfl

theorem expected_consumeMessage (hexpected : SerializersExpected serializers) {topic : String} :
    Expected (consumeMessage serializers workflowId topic sys) := by
  unfold consumeMessage
  split
  · exact expected_ok _
  · exact expected_bind (hexpected.deserializeValue _ _) fun _ _ ↦ expected_ok _

/-- A transaction that ends by recording its result, after work that leaves the checkpoints alone. -/
theorem records_recordOperationResultTxn {middle : SystemDatabase} {value : β}
    (hkey : result.key = key) (hname : result.functionName = functionName)
    (hkeeps : middle.operationOutputs = sys.operationOutputs) :
    Records key functionName sys (.ofExcept do
      let sys' ← recordOperationResultTxn executorId result completedAt middle
      pure (value, sys')) := by
  refine records_ofExcept_of_expected ?_
    (expected_bind expected_recordOperationResultTxn fun _ _ ↦ expected_ok _)
  intro value sys' h
  obtain ⟨after, hrecord, heq⟩ := bind_eq_ok.mp h
  cases heq
  rw [← hkey, ← hname]
  exact (recordsRow_recordOperationResultTxn hrecord).after hkeeps

theorem records_recvConsume (hexpected : SerializersExpected serializers) {topic : Option String}
    {startTime : ℤ} :
    Records (workflowId, functionId) recvName sys
      (recvConsume serializers executorId workflowId functionId topic startTime completedAt
        sys) := by
  unfold recvConsume
  split
  · rename_i recorded hrecorded
    refine records_bind (hexpected.deserializeValue _ _) fun message _ ↦ ?_
    refine records_ofExcept_of_expected ?_ (expected_ok _)
    intro value sys' h
    cases h
    exact recordsRow_of_stored hrecorded
  · refine records_bind (expected_consumeMessage hexpected) fun consumed hconsume ↦ ?_
    refine records_bind (hexpected.serializeValueAs _ _) fun texts _ ↦ ?_
    exact records_recordOperationResultTxn rfl rfl (keepsCheckpoints_consumeMessage hconsume).1

theorem records_getEventConsume (hexpected : SerializersExpected serializers)
    {targetUuid event : String} {startTime : ℤ} {polled : SystemDatabase} :
    Records (workflowId, functionId) getEventName sys
      (getEventConsume serializers executorId workflowId functionId targetUuid event startTime
        completedAt polled sys) := by
  have hread : Expected (readEvent serializers targetUuid event polled) := by
    unfold readEvent
    split
    · exact expected_ok _
    · exact expected_bind (hexpected.deserializeValue _ _) fun _ _ ↦ expected_ok _
  refine records_bind hread fun found _ ↦ ?_
  refine records_bind (hexpected.serializeValueAs _ _) fun texts _ ↦ ?_
  exact records_recordOperationResultTxn rfl rfl rfl

/-- An insert of a checkpoint. -/
theorem recordsRow_insertNew {row : OperationOutputRow} {outputs : Table OperationOutputRow.key}
    (h : sys.operationOutputs.insertNew row = some outputs) :
    RecordsRow row.key row.functionName sys { sys with operationOutputs := outputs } := by
  have hself := Table.lookup_insertNew_self h
  refine ⟨Option.isSome_of_eq_some hself, ?_⟩
  intro other
  by_cases hkey : row.key = other
  · have hfree := (sys.operationOutputs.lookup_eq_none).mpr (Table.insertNew_eq_some.mp h).1
    exact Or.inr ⟨hkey.symm, hkey ▸ hfree, row, hkey ▸ hself, rfl⟩
  · refine Or.inl ?_
    rw [Table.lookup_insertNew h, if_neg hkey]

/-- An insert that is refused finds a checkpoint. -/
theorem exists_lookup_of_insertNew_eq_none {row : OperationOutputRow}
    (h : sys.operationOutputs.insertNew row = none) :
    ∃ stored, sys.operationOutputs.lookup row.key = some stored := by
  obtain ⟨stored, hstored, hkey⟩ := Table.insertNew_eq_none.mp h
  exact ⟨stored, sys.operationOutputs.lookup_eq_some.mpr ⟨hstored, hkey⟩⟩

theorem records_returned {value : β} (h : RecordsRow key functionName sys sys') :
    Records key functionName sys (.returned value sys') := by
  refine records_ofExcept_of_expected ?_ (expected_ok (value, sys'))
  intro value' sys'' heq
  cases heq
  exact h

theorem records_raised {error : DBOSError} (h : isUnexpectedStep error = false) :
    Records key functionName sys (.raised error : Ending SystemDatabase DBOSError β) := by
  have herror : Expected (.error error : Except DBOSError (β × SystemDatabase)) := by
    intro error' heq
    cases heq
    exact h
  refine records_ofExcept_of_expected ?_ herror
  intro value sys' heq
  cases heq

theorem records_recordChildWorkflow {childId : String} :
    Records (workflowId, functionId) functionName sys
      (recordChildWorkflow workflowId childId functionId functionName sys) := by
  unfold recordChildWorkflow
  split
  · exact records_raised rfl
  · simp only
    split
    · rename_i outputs hinsert
      split
      · exact records_returned (recordsRow_insertNew hinsert)
      · exact records_raised rfl
    · split
      · rename_i existing hexisting
        split
        · exact records_returned (recordsRow_of_stored hexisting)
        · exact records_raised rfl
      · exact records_raised rfl

theorem records_recordGetResult {resultWorkflowId : String}
    {output error serialization : Option String} :
    Records (workflowId, functionId) "DBOS.getResult" sys
      (recordGetResult workflowId functionId resultWorkflowId output error serialization sys) := by
  unfold recordGetResult
  simp only
  split
  · rename_i htaken
    obtain ⟨stored, hstored⟩ := exists_lookup_of_insertNew_eq_none htaken
    exact records_returned (recordsRow_of_stored hstored)
  · rename_i outputs hinsert
    split
    · exact records_returned (recordsRow_insertNew hinsert)
    · exact records_raised rfl

end Recording

/-! ## What a call does to a history -/

/-- The two tables of outcomes. -/
inductive Store where
  | system
  | application
deriving DecidableEq

/-- A place for a row, and the name it has there. -/
structure Slot where
  store : Store
  functionId : ℤ
  functionName : String
deriving DecidableEq

/-- The name of the function that a row belongs to. -/
def History.nameAt (h : History) : Store → ℤ → Option String
  | .system, functionId => (h.checkpoints functionId).map OperationOutputRow.functionName
  | .application, functionId => (h.transactions functionId).map TransactionOutputRow.functionName

section Calls

variable {V α : Type}

/-- The row that a call looks for or writes. -/
def Call.slot : Call V → Option Slot
  | .check functionId functionName => some ⟨.system, functionId, functionName⟩
  | .invoke => none
  | .record functionId functionName _ => some ⟨.system, functionId, functionName⟩
  | .sleep functionId => some ⟨.system, functionId, sleepName⟩
  | .sendBulk functionId _ _ bulk _ => some ⟨.system, functionId, sendName bulk⟩
  | .setEvent functionId _ _ _ => some ⟨.system, functionId, "DBOS.setEvent"⟩
  | .recvConsume functionId _ => some ⟨.system, functionId, recvName⟩
  | .getEventConsume functionId _ _ => some ⟨.system, functionId, getEventName⟩
  | .transaction functionId transactionName => some ⟨.application, functionId, transactionName⟩
  | .initWorkflow => none
  | .recordChildWorkflow functionId functionName _ => some ⟨.system, functionId, functionName⟩
  | .recordGetResult functionId _ _ => some ⟨.system, functionId, "DBOS.getResult"⟩

/-- The columns of a checkpoint. -/
def History.recorded (h : History) (functionId : ℤ) : Option RecordedResult :=
  (h.checkpoints functionId).map recordedColumns

/-- What a call returns is what the checkpoint holds afterwards. -/
def Call.Returned (h : History) : (call : Call V) → call.Returns → Prop
  | .check functionId _, found => found = h.recorded functionId
  | .invoke, _ => True
  | .record functionId _ _, result => h.recorded functionId = some result
  | .sleep functionId, result => h.recorded functionId = some result
  | .sendBulk functionId _ _ _ _, result => h.recorded functionId = some result
  | .setEvent functionId _ _ _, result => h.recorded functionId = some result
  | .recvConsume functionId _, result => h.recorded functionId = some result
  | .getEventConsume functionId _ _, result => h.recorded functionId = some result
  | .transaction _ _, _ => True
  | .initWorkflow, _ => True
  | .recordChildWorkflow functionId _ _, result => h.recorded functionId = some result
  | .recordGetResult functionId _ _, result => h.recorded functionId = some result

/-- The rows stay, at most one is added, and it is the one of the slot. -/
structure Adds (slot : Option Slot) (h h' : History) : Prop where
  rows : ∀ functionId row, h.checkpoints functionId = some row →
    h'.checkpoints functionId = some row
  names : ∀ store functionId, h'.nameAt store functionId = h.nameAt store functionId ∨
    ∃ s ∈ slot, s.store = store ∧ s.functionId = functionId ∧ h.nameAt store functionId = none ∧
      h'.nameAt store functionId = some s.functionName

/-- What is known of a call that began on the history `h` and left `h'`. -/
structure Call.Spec (call : Call V) (h : History) (result : Except DBOSError call.Returns)
    (h' : History) : Prop where
  adds : Adds call.slot h h'
  returned : ∀ value, result = .ok value → call.Returned h' value
  unexpected : ∀ error, result = .error error → isUnexpectedStep error = true →
    ∃ s ∈ call.slot, ∃ name, h.nameAt s.store s.functionId = some name ∧ name ≠ s.functionName
  conflict : ∀ workflowId functionId, result = .error (.workflowConflictID workflowId) →
    call = .sleep functionId → (h'.recorded functionId).isSome

theorem Adds.refl (slot : Option Slot) (h : History) : Adds slot h h where
  rows _ _ hrow := hrow
  names _ _ := Or.inl rfl

/-- A call that leaves the databases alone and does not look at them. -/
theorem spec_of_unchanged {call : Call V} {h : History} {result : Except DBOSError call.Returns}
    (hexpected : Expected result) (hreturned : ∀ value, result = .ok value → call.Returned h value)
    (hsleep : ∀ functionId, call ≠ .sleep functionId) : call.Spec h result h where
  adds := .refl _ h
  returned := hreturned
  unexpected error herror hunexpected := by
    rw [hexpected error herror] at hunexpected
    cases hunexpected
  conflict _ functionId _ hcall := absurd hcall (hsleep functionId)

variable {serializers : Serializers V} {workflowId : String} {db : Databases α}

theorem adds_of_recordsRow {functionId : ℤ} {functionName : String} {sys : SystemDatabase}
    (h : RecordsRow (workflowId, functionId) functionName db.sys sys) :
    Adds (some ⟨.system, functionId, functionName⟩) (history workflowId db)
      (history workflowId { db with sys := sys }) := by
  constructor
  · intro other row hrow
    rcases h.others (workflowId, other) with hsame | ⟨-, hnone, -⟩
    · exact hsame.trans hrow
    · exact absurd (hnone.symm.trans hrow) nofun
  · intro store other
    cases store with
    | application => exact Or.inl rfl
    | system =>
      rcases h.others (workflowId, other) with hsame | ⟨hkey, hnone, row, hrow, hname⟩
      · exact Or.inl (congrArg (Option.map OperationOutputRow.functionName) hsame)
      · refine Or.inr ⟨_, rfl, rfl, (congrArg Prod.snd hkey).symm, ?_, ?_⟩
        · exact congrArg (Option.map OperationOutputRow.functionName) hnone
        · rw [← hname]
          exact congrArg (Option.map OperationOutputRow.functionName) hrow

/-- A transaction that records a checkpoint, as a call. -/
theorem onSystem_spec {β : Type} {functionId : ℤ} {functionName : String}
    {ending : Ending SystemDatabase DBOSError β}
    (h : Records (workflowId, functionId) functionName db.sys ending) :
    Adds (some ⟨.system, functionId, functionName⟩) (history workflowId db)
        (history workflowId ((onSystem workflowId functionId db ending).stateAfter db)) ∧
      (∀ value, (onSystem workflowId functionId db ending).result = .ok value →
        (history workflowId ((onSystem workflowId functionId db ending).stateAfter db)).recorded
          functionId = some value) ∧
      ∀ error, (onSystem workflowId functionId db ending).result = .error error →
        isUnexpectedStep error = true →
          ∃ s ∈ some (⟨.system, functionId, functionName⟩ : Slot), ∃ name,
            (history workflowId db).nameAt s.store s.functionId = some name ∧
              name ≠ s.functionName := by
  cases ending with
  | returned value sys =>
    have hrow := h.returned value sys rfl
    refine ⟨adds_of_recordsRow hrow, ?_, fun _ herror ↦ nomatch herror⟩
    intro value' hvalue
    obtain ⟨row, hlookup⟩ := Option.isSome_iff_exists.mp hrow.stored
    have hrecorded : (history workflowId { db with sys := sys }).recorded functionId =
        some (recordedColumns row) := congrArg (Option.map recordedColumns) hlookup
    have hat : recordedAt workflowId functionId sys = recordedColumns row := by
      rw [recordedAt, hlookup, Option.map_some, Option.getD_some]
    cases hvalue
    rw [hat]
    exact hrecorded
  | raised error =>
    refine ⟨.refl _ _, nofun, ?_⟩
    intro error' herror hunexpected
    cases herror
    obtain ⟨row, hrow, hname⟩ := h.raised error rfl hunexpected
    exact ⟨_, rfl, row.functionName, congrArg (Option.map OperationOutputRow.functionName) hrow,
      hname⟩
  | raisedAfterCommit error sys => exact absurd rfl (h.rolledBack error sys)

/-- An inserted row of `transaction_outputs`. -/
theorem adds_of_transactionRow {row : TransactionOutputRow} {app : AppDatabase α}
    (h : db.app.transactionOutputs.insertNew row = some app.transactionOutputs) :
    Adds (some ⟨.application, row.functionId, row.functionName⟩) (history workflowId db)
      (history workflowId { db with app := app }) := by
  refine ⟨fun _ _ hrow ↦ hrow, ?_⟩
  intro store other
  cases store with
  | system => exact Or.inl rfl
  | application =>
    by_cases hkey : row.key = (workflowId, other)
    · have hfree := (db.app.transactionOutputs.lookup_eq_none).mpr
        (Table.insertNew_eq_some.mp h).1
      have hself := Table.lookup_insertNew_self h
      rw [hkey] at hfree hself
      refine Or.inr ⟨_, rfl, rfl, congrArg Prod.snd hkey, ?_, ?_⟩
      · exact congrArg (Option.map TransactionOutputRow.functionName) hfree
      · exact congrArg (Option.map TransactionOutputRow.functionName) hself
    · refine Or.inl (congrArg (Option.map TransactionOutputRow.functionName) ?_)
      have hother := Table.lookup_insertNew h (workflowId, other)
      rw [if_neg hkey] at hother
      exact hother

theorem expected_insertTransactionRow {row : TransactionOutputRow} {app : AppDatabase α} :
    Expected (insertTransactionRow row app) := by
  intro error h
  unfold insertTransactionRow at h
  split at h
  · cases h
    rfl
  · cases h

theorem invokeTransaction_spec (input : Input V α) (functionId : ℤ) (transactionName : String)
    (executorId : Option String) :
    (Call.transaction functionId transactionName : Call V).Spec (history workflowId db)
      (invokeTransaction input ⟨workflowId, functionId, transactionName, executorId⟩ db).result
      (history workflowId ((invokeTransaction input
        ⟨workflowId, functionId, transactionName, executorId⟩ db).stateAfter db)) := by
  unfold invokeTransaction
  split
  · rename_i error hcheck
    refine ⟨.refl _ _, nofun, ?_, nofun⟩
    intro error' herror hunexpected
    cases herror
    unfold checkTransactionExecution at hcheck
    split at hcheck
    · cases hcheck
    · rename_i row hrow
      split at hcheck
      · rename_i hname
        exact ⟨_, rfl, row.functionName,
          congrArg (Option.map TransactionOutputRow.functionName) hrow, Ne.symm hname⟩
      · cases hcheck
  · split
    · exact spec_of_unchanged (fun _ h ↦ by cases h; rfl) (fun _ _ ↦ trivial) nofun
    · exact spec_of_unchanged (expected_ok _) (fun _ _ ↦ trivial) nofun
  · simp only
    split
    · rename_i error hwritten
      refine spec_of_unchanged ?_ (fun _ _ ↦ trivial) nofun
      intro error' herror
      cases herror
      split at hwritten
      · exact expected_insertTransactionRow error hwritten
      · exact expected_insertTransactionRow error hwritten
    · rename_i app hwritten
      refine ⟨?_, fun _ _ ↦ trivial, nofun, nofun⟩
      split at hwritten
      · have hinsert := insertTransactionRow_eq_ok hwritten
        exact adds_of_transactionRow hinsert
      · have hinsert := insertTransactionRow_eq_ok hwritten
        exact adds_of_transactionRow hinsert

/-- A conflict is with a checkpoint that is there. -/
theorem recorded_of_conflict {executorId : Option String} {result : OperationResultInternal}
    {completedAt functionId : ℤ} {conflicting : String}
    (hkey : result.key = (workflowId, functionId))
    (h : (onSystem workflowId functionId db
      (recordOperationResult executorId result completedAt db.sys)).result =
        .error (.workflowConflictID conflicting)) :
    ((history workflowId ((onSystem workflowId functionId db
      (recordOperationResult executorId result completedAt db.sys)).stateAfter db)).recorded
        functionId).isSome := by
  unfold recordOperationResult at h ⊢
  cases hrecord : recordOperationResultTxn executorId result completedAt db.sys with
  | ok sys =>
    rw [hrecord] at h
    cases h
  | error error =>
    rw [hrecord] at h
    cases h
    rcases recordOperationResultTxn_eq_error hrecord with ⟨_, heq⟩ | heq | ⟨-, hstored⟩
    · cases heq
    · cases heq
    · rw [hkey] at hstored
      exact Option.isSome_map.trans hstored

/-- The end of a sleep is serialized before it is recorded. -/
theorem sleep_spec (hexpected : SerializersExpected serializers) (input : Input V α)
    (functionId : ℤ) :
    (Call.sleep functionId : Call V).Spec (history workflowId db)
      ((Call.sleep functionId).attempt serializers workflowId input db).result
      (history workflowId (((Call.sleep functionId).attempt serializers workflowId input
        db).stateAfter db)) := by
  rw [Call.attempt]
  split
  · rename_i error hresult
    have hserialize : Expected (sleepResult serializers workflowId functionId input.startTime
        input.endTime) :=
      expected_bind (hexpected.portable_serialize input.endTime) fun _ _ ↦ expected_ok _
    refine ⟨.refl _ _, nofun, ?_, ?_⟩
    · intro error' herror hunexpected
      cases herror
      rw [hserialize error hresult] at hunexpected
      cases hunexpected
    · intro conflicting _ herror _
      cases herror
      unfold sleepResult at hresult
      cases hportable : serializers.portable.serialize input.endTime with
      | ok text =>
        rw [hportable] at hresult
        cases hresult
      | error raised =>
        rw [hportable] at hresult
        cases hresult
        exact absurd hportable (hexpected.portable_conflict _ _)
  · rename_i result hresult
    obtain ⟨text, -, heq⟩ := bind_eq_ok.mp hresult
    cases heq
    refine ⟨(onSystem_spec ?hsleep).1, (onSystem_spec ?hsleep).2.1, (onSystem_spec ?hsleep).2.2,
      ?_⟩
    · exact records_recordOperationResult rfl rfl
    · intro conflicting functionId' herror hcall
      cases hcall
      exact recorded_of_conflict rfl herror

/-- What every call does. -/
theorem attempt_spec (hexpected : SerializersExpected serializers) (call : Call V)
    (input : Input V α) (db : Databases α) :
    call.Spec (history workflowId db) (call.attempt serializers workflowId input db).result
      (history workflowId ((call.attempt serializers workflowId input db).stateAfter db)) := by
  cases call with
  | check functionId functionName =>
    rw [Call.attempt]
    split
    · rename_i error hcheck
      refine ⟨.refl _ _, nofun, ?_, nofun⟩
      intro error' herror hunexpected
      cases herror
      obtain ⟨row, hrow, hname⟩ := exists_other_of_check hcheck hunexpected
      exact ⟨_, rfl, row.functionName, congrArg (Option.map OperationOutputRow.functionName) hrow,
        hname⟩
    · rename_i recorded hcheck
      refine ⟨.refl _ _, ?_, nofun, nofun⟩
      intro value hvalue
      cases hvalue
      exact checkOperationExecutionTxn_eq_ok hcheck
  | invoke => exact spec_of_unchanged (expected_ok _) (fun _ _ ↦ trivial) nofun
  | record functionId functionName result =>
    refine ⟨(onSystem_spec ?hrecord).1, (onSystem_spec ?hrecord).2.1, (onSystem_spec ?hrecord).2.2,
      nofun⟩
    exact records_recordOperationResult rfl rfl
  | sleep functionId => exact sleep_spec hexpected input functionId
  | sendBulk functionId messages format bulk sendToForks =>
    refine ⟨(onSystem_spec ?hsend).1, (onSystem_spec ?hsend).2.1, (onSystem_spec ?hsend).2.2,
      nofun⟩
    refine records_sendBulk hexpected ?_ ?_ ?_
    · rfl
    · rfl
    · rfl
  | setEvent functionId key message format =>
    refine ⟨(onSystem_spec ?hevent).1, (onSystem_spec ?hevent).2.1, (onSystem_spec ?hevent).2.2,
      nofun⟩
    exact records_setEventFromWorkflow hexpected
  | recvConsume functionId topic =>
    refine ⟨(onSystem_spec ?hrecv).1, (onSystem_spec ?hrecv).2.1, (onSystem_spec ?hrecv).2.2,
      nofun⟩
    exact records_recvConsume hexpected
  | getEventConsume functionId targetUuid key =>
    refine ⟨(onSystem_spec ?hget).1, (onSystem_spec ?hget).2.1, (onSystem_spec ?hget).2.2,
      nofun⟩
    exact records_getEventConsume hexpected
  | transaction functionId transactionName =>
    exact invokeTransaction_spec input functionId transactionName input.executorId
  | initWorkflow =>
    rw [Call.attempt]
    split
    · rename_i error herror
      refine spec_of_unchanged ?_ (fun _ _ ↦ trivial) nofun
      intro error' heq
      cases heq
      cases error with
      | unexpectedStep => exact absurd herror (input.initialized_expected _ _ _ _)
      | _ => rfl
    · exact spec_of_unchanged (expected_ok _) (fun _ _ ↦ trivial) nofun
  | recordChildWorkflow functionId functionName childId =>
    refine ⟨(onSystem_spec ?hchild).1, (onSystem_spec ?hchild).2.1, (onSystem_spec ?hchild).2.2,
      nofun⟩
    exact records_recordChildWorkflow
  | recordGetResult functionId resultWorkflowId result =>
    refine ⟨(onSystem_spec ?hresult).1, (onSystem_spec ?hresult).2.1, (onSystem_spec ?hresult).2.2,
      nofun⟩
    exact records_recordGetResult

end Calls

/-! ## What an operation does to a history -/

section Operations

variable {V : Type}

/-- The rows that an operation looks for or writes, at the counter `k`. -/
def Operation.slots (k : ℤ) : Operation V → List Slot
  | .step functionName => [⟨.system, k + 1, functionName⟩]
  | .transaction transactionName =>
    [⟨.system, k + 1, transactionName⟩, ⟨.application, k + 1, transactionName⟩]
  | .send _ _ bulk _ => [⟨.system, k + 1, sendName bulk⟩]
  | .recv _ => [⟨.system, k + 1, recvName⟩, ⟨.system, k + 2, sleepName⟩]
  | .getEvent _ _ => [⟨.system, k + 1, getEventName⟩, ⟨.system, k + 2, sleepName⟩]
  | .setEvent _ _ _ => [⟨.system, k + 1, "DBOS.setEvent"⟩]
  | .sleep seconds => if seconds ≤ 0 then [] else [⟨.system, k + 1, sleepName⟩]
  | .startWorkflow functionName _ => [⟨.system, k + 1, functionName⟩]
  | .callWorkflow functionName _ =>
    [⟨.system, k + 1, functionName⟩, ⟨.system, k + 2, "DBOS.getResult"⟩]
  | .getResult _ => [⟨.system, k + 1, "DBOS.getResult"⟩]

/-- The result that a replay of an operation returns when the history holds its checkpoints. -/
def Operation.completed (outcomes : String → RecordedResult) (k : ℤ) (h : History) :
    Operation V → Option RecordedResult
  | .send _ _ _ _ => (h.recorded (k + 1)).map fun _ ↦ noResult
  | .setEvent _ _ _ => (h.recorded (k + 1)).map fun _ ↦ noResult
  | .sleep seconds =>
    if seconds ≤ 0 then some noResult else (h.recorded (k + 1)).map fun _ ↦ noResult
  | .callWorkflow _ _ => (h.recorded (k + 1)).bind fun recorded ↦
      (h.recorded (k + 2)).map fun _ ↦ childResult outcomes recorded
  | .getResult resultWorkflowId => (h.recorded (k + 1)).map fun _ ↦ outcomes resultWorkflowId
  | _ => h.recorded (k + 1)

/-- No row has an ID above `k`. -/
def History.NothingAbove (h : History) (k : ℤ) : Prop :=
  ∀ store functionId, k < functionId → h.nameAt store functionId = none

/-- A row in the slot has its name. -/
def History.FitsAt (h : History) (s : Slot) : Prop :=
  ∀ name, h.nameAt s.store s.functionId = some name → name = s.functionName

/-- The rows in the slots have their names. -/
def History.Fits (h : History) (slots : List Slot) : Prop :=
  ∀ s ∈ slots, h.FitsAt s

/-- The checkpoints stay as they are. -/
def History.Extends (h h' : History) : Prop :=
  ∀ functionId row, h.checkpoints functionId = some row → h'.checkpoints functionId = some row

/-- The same rows above `k`, as far as an operation looks at them. -/
def History.AgreesAbove (h h' : History) (k : ℤ) : Prop :=
  ∀ functionId, k < functionId → h'.checkpoints functionId = h.checkpoints functionId ∧
    ∀ store, h'.nameAt store functionId = h.nameAt store functionId

variable {outcomes : String → RecordedResult} {k : ℤ} {h h' : History} {o : Operation V}

theorem History.Extends.recorded (hextends : h.Extends h') {functionId : ℤ}
    {result : RecordedResult} (hrecorded : h.recorded functionId = some result) :
    h'.recorded functionId = some result := by
  obtain ⟨row, hrow, rfl⟩ := Option.map_eq_some_iff.mp hrecorded
  rw [History.recorded, hextends functionId row hrow, Option.map_some]

/-- Checkpoints that stay and keep their names are the same. -/
theorem History.Extends.checkpoints_eq (hextends : h.Extends h') {functionId : ℤ}
    (hname : h'.nameAt .system functionId = h.nameAt .system functionId) :
    h'.checkpoints functionId = h.checkpoints functionId := by
  cases hrow : h.checkpoints functionId with
  | some row => exact hextends functionId row hrow
  | none =>
    have hnone : h.nameAt .system functionId = none := by rw [History.nameAt, hrow, Option.map_none]
    exact Option.map_eq_none_iff.mp (hname.trans hnone)

theorem completed_congr (hagree : h.AgreesAbove h' k) :
    o.completed outcomes k h' = o.completed outcomes k h := by
  have hrecorded (i : ℤ) (hi : 0 < i) : h'.recorded (k + i) = h.recorded (k + i) := by
    rw [History.recorded, History.recorded, (hagree (k + i) (by omega)).1]
  have hone := hrecorded 1 (by omega)
  have htwo := hrecorded 2 (by omega)
  cases o <;> simp only [Operation.completed, hone, htwo]

theorem completed_mono (hextends : h.Extends h') {result : RecordedResult}
    (hcompleted : o.completed outcomes k h = some result) :
    o.completed outcomes k h' = some result := by
  have hmap {functionId : ℤ} {f : RecordedResult → RecordedResult}
      (hdone : (h.recorded functionId).map f = some result) :
      (h'.recorded functionId).map f = some result := by
    obtain ⟨recorded, hrecorded, rfl⟩ := Option.map_eq_some_iff.mp hdone
    rw [hextends.recorded hrecorded, Option.map_some]
  cases o with
  | send => exact hmap hcompleted
  | setEvent => exact hmap hcompleted
  | getResult => exact hmap hcompleted
  | sleep seconds =>
    rw [Operation.completed] at hcompleted ⊢
    split
    · rwa [if_pos ‹_›] at hcompleted
    · rw [if_neg ‹_›] at hcompleted
      exact hmap hcompleted
  | callWorkflow =>
    obtain ⟨recorded, hrecorded, hdone⟩ := Option.bind_eq_some_iff.mp hcompleted
    exact Option.bind_eq_some_iff.mpr ⟨recorded, hextends.recorded hrecorded, hmap hdone⟩
  | _ => exact hextends.recorded hcompleted

theorem History.NothingAbove.mono {k' : ℤ} (hnothing : h.NothingAbove k) (hle : k ≤ k') :
    h.NothingAbove k' :=
  fun store functionId hid ↦ hnothing store functionId (hle.trans_lt hid)

theorem History.AgreesAbove.mono {k' : ℤ} (hagree : h.AgreesAbove h' k) (hle : k ≤ k') :
    h.AgreesAbove h' k' :=
  fun functionId hid ↦ hagree functionId (hle.trans_lt hid)

theorem History.AgreesAbove.nothingAbove (hagree : h.AgreesAbove h' k)
    (hnothing : h.NothingAbove k) : h'.NothingAbove k :=
  fun store functionId hid ↦ ((hagree functionId hid).2 store).trans (hnothing store functionId hid)

theorem ids_nonneg (o : Operation V) : 0 ≤ o.ids := by
  cases o with
  | sleep seconds =>
    rw [Operation.ids]
    split <;> omega
  | _ => simp [Operation.ids]

/-- The slots of an operation are among its IDs. -/
theorem slot_mem_ids {s : Slot} (hs : s ∈ o.slots k) :
    k < s.functionId ∧ s.functionId ≤ k + o.ids := by
  cases o with
  | sleep seconds =>
    rw [Operation.slots] at hs
    rw [Operation.ids]
    split at hs
    · cases hs
    · rw [if_neg ‹_›]
      simp only [List.mem_singleton] at hs
      rw [hs]
      constructor <;> simp
  | _ =>
    simp only [Operation.slots, List.mem_cons, List.not_mem_nil, or_false] at hs
    simp only [Operation.ids]
    grind

theorem fits_of_nothingAbove (hnothing : h.NothingAbove k) : h.Fits (o.slots k) := by
  intro s hs name hname
  rw [hnothing s.store s.functionId (slot_mem_ids hs).1] at hname
  cases hname

theorem History.AgreesAbove.fits (hagree : h.AgreesAbove h' k) (hfits : h.Fits (o.slots k)) :
    h'.Fits (o.slots k) := by
  intro s hs name hname
  rw [(hagree s.functionId (slot_mem_ids hs).1).2] at hname
  exact hfits s hs name hname

/-- A place has one name. -/
theorem slot_unique {s s' : Slot} (hs : s ∈ o.slots k) (hs' : s' ∈ o.slots k)
    (hstore : s.store = s'.store) (hid : s.functionId = s'.functionId) :
    s.functionName = s'.functionName := by
  cases o with
  | sleep seconds =>
    rw [Operation.slots] at hs hs'
    split at hs
    · cases hs
    · rw [if_neg ‹_›] at hs'
      simp only [List.mem_singleton] at hs hs'
      rw [hs, hs']
  | _ =>
    simp only [Operation.slots, List.mem_cons, List.not_mem_nil, or_false] at hs hs'
    grind

/-- Only a transaction has a slot in the application database. -/
theorem transaction_of_application {s : Slot} (hs : s ∈ o.slots k) (hstore : s.store = .application) :
    o = .transaction s.functionName ∧ s.functionId = k + 1 := by
  cases o with
  | sleep seconds =>
    rw [Operation.slots] at hs
    split at hs
    · cases hs
    · rw [List.mem_singleton.mp hs] at hstore
      cases hstore
  | _ =>
    simp only [Operation.slots, List.mem_cons, List.not_mem_nil, or_false] at hs
    grind

/-- The first ID of an operation has a slot among the checkpoints. -/
theorem exists_slot (o : Operation V) (k : ℤ) (hids : 0 < o.ids) :
    ∃ s ∈ o.slots k, s.store = .system ∧ s.functionId = k + 1 := by
  cases o with
  | sleep seconds =>
    rw [Operation.ids] at hids
    split at hids
    · omega
    · exact ⟨_, by rw [Operation.slots, if_neg ‹_›]; exact List.mem_singleton_self _, rfl, rfl⟩
  | _ => exact ⟨_, List.mem_cons_self, rfl, rfl⟩

/-! ### Where a script writes -/

/-- The script looks and writes only in the slots, and it does not raise `DBOSUnexpectedStepError`
unless one of its calls does; `clean` says that none has so far. -/
def Within (slots : List Slot) : OperationScript V → Prop → Prop
  | .finished _, _ => True
  | .raised error, clean => clean → isUnexpectedStep error = false
  | .call call next, clean => (∀ s ∈ call.slot, s ∈ slots) ∧
      ∀ result, Within slots (next result) (clean ∧ Expected result)

variable {slots : List Slot} {clean clean' : Prop}

theorem within_mono {script : OperationScript V} (hclean : clean' → clean)
    (hscript : Within slots script clean) : Within slots script clean' := by
  induction script generalizing clean clean' with
  | finished value => trivial
  | raised error => exact fun h ↦ hscript (hclean h)
  | call call next ih =>
    exact ⟨hscript.1, fun result ↦ ih result (And.imp_left hclean) (hscript.2 result)⟩

theorem within_onOk {β : Type} {next : β → OperationScript V}
    (hnext : ∀ value, Within slots (next value) clean) (result : Except DBOSError β) :
    Within slots (Script.onOk next result) (clean ∧ Expected result) := by
  cases result with
  | ok value => exact within_mono And.left (hnext value)
  | error error => exact fun h ↦ h.2 error rfl

theorem within_call {call : Call V} {next : Except DBOSError call.Returns → OperationScript V}
    {s : Slot} (hcall : call.slot = some s) (hslot : s ∈ slots)
    (hnext : ∀ result, Within slots (next result) (clean ∧ Expected result)) :
    Within slots (.call call next) clean := by
  refine ⟨?_, hnext⟩
  intro s' hs'
  rw [hcall] at hs'
  cases hs'
  exact hslot

theorem within_checked {functionId : ℤ} {functionName : String}
    {found : RecordedResult → OperationScript V} {missing : OperationScript V}
    (hslot : ⟨.system, functionId, functionName⟩ ∈ slots)
    (hfound : ∀ recorded, Within slots (found recorded) clean)
    (hmissing : Within slots missing clean) :
    Within slots (checked functionId functionName found missing) clean := by
  refine within_call rfl hslot (within_onOk ?_)
  intro recorded
  cases recorded with
  | none => exact hmissing
  | some result => exact hfound result

theorem within_recordAndReturn {functionId : ℤ} {functionName : String}
    (hslot : ⟨.system, functionId, functionName⟩ ∈ slots) (result : RecordedResult) :
    Within slots (recordAndReturn functionId functionName result : OperationScript V) clean :=
  within_call rfl hslot (within_onOk fun _ ↦ trivial)

theorem within_ite {condition : Prop} [Decidable condition] {left right : OperationScript V}
    (hleft : Within slots left clean) (hright : Within slots right clean) :
    Within slots (if condition then left else right) clean := by
  split
  · exact hleft
  · exact hright

theorem within_raised {error : DBOSError} (h : isUnexpectedStep error = false) :
    Within slots (.raised error : OperationScript V) clean :=
  fun _ ↦ h

theorem within_recordSleep {functionId : ℤ} {next : OperationScript V}
    (hslot : ⟨.system, functionId, sleepName⟩ ∈ slots) (hnext : Within slots next clean) :
    Within slots (recordSleep functionId next) clean := by
  refine within_checked hslot (fun _ ↦ within_ite (within_raised rfl) hnext)
    (within_call rfl hslot ?_)
  intro result
  have hafter : Within slots next (clean ∧ Expected result) := within_mono And.left hnext
  cases result with
  | ok recorded => exact hafter
  | error error =>
    cases error with
    | workflowConflictID => exact hafter
    | _ => exact fun h ↦ h.2 _ rfl

theorem within_waitFor {functionId : ℤ} {functionName missingOutput : String}
    {consume : OperationScript V} (hslot : ⟨.system, functionId, functionName⟩ ∈ slots)
    (hsleep : ⟨.system, functionId + 1, sleepName⟩ ∈ slots)
    (hconsume : Within slots consume clean) :
    Within slots (waitFor functionId functionName missingOutput consume) clean :=
  within_checked hslot (fun _ ↦ within_ite (within_raised rfl) trivial)
    (within_recordSleep hsleep hconsume)

theorem within_startChild {functionId : ℤ} {functionName childId : String}
    {next : Except DBOSError RecordedResult → OperationScript V}
    (hslot : ⟨.system, functionId, functionName⟩ ∈ slots)
    (hnext : ∀ result, Within slots (next result) (clean ∧ Expected result)) :
    Within slots (startChild functionId functionName childId next) clean := by
  refine ⟨nofun, ?_⟩
  intro result
  have hafter (recorded : Except DBOSError RecordedResult) :
      Within slots (next recorded) ((clean ∧ Expected result) ∧ Expected recorded) :=
    within_mono (And.imp_left And.left) (hnext recorded)
  cases result with
  | error error =>
    refine within_mono ?_ (hnext (.error error))
    intro h
    refine ⟨h.1, ?_⟩
    intro error' herror
    cases herror
    exact h.2 error rfl
  | ok refused =>
    cases refused with
    | some recorded => exact within_call rfl hslot hafter
    | none => exact within_call rfl hslot hafter

theorem within_startWorkflow {functionId : ℤ} {functionName childId : String}
    (hslot : ⟨.system, functionId, functionName⟩ ∈ slots) :
    Within slots (startWorkflow functionId functionName childId : OperationScript V) clean := by
  have hstart : Within slots (startChild functionId functionName childId (Script.onOk .finished) :
      OperationScript V) clean := within_startChild hslot (within_onOk fun _ ↦ trivial)
  exact within_checked hslot (fun _ ↦ within_ite trivial hstart) hstart

theorem within_callWorkflow {functionId : ℤ} {functionName childId : String}
    (hslot : ⟨.system, functionId, functionName⟩ ∈ slots)
    (hresult : ⟨.system, functionId + 1, "DBOS.getResult"⟩ ∈ slots) :
    Within slots (callWorkflow outcomes functionId functionName childId : OperationScript V)
      clean := by
  unfold callWorkflow
  extract_lets report fail finish start
  have hreport (clean : Prop) (recorded : RecordedResult) : Within slots (report recorded) clean :=
    within_call rfl hresult (within_onOk fun _ ↦ trivial)
  have hfail (clean : Prop) (error : DBOSError) (h : clean → isUnexpectedStep error = false) :
      Within slots (fail error) clean := by
    refine within_ite h ⟨nofun, within_onOk fun serialized ↦ within_call rfl hresult ?_⟩
    exact fun _ hclean ↦ h hclean.1
  have hfinish (clean : Prop) (result : Except DBOSError RecordedResult) :
      Within slots (finish result) (clean ∧ Expected result) := by
    cases result with
    | ok recorded => exact hreport _ recorded
    | error error => exact hfail _ error fun h ↦ h.2 error rfl
  have hstart (clean : Prop) : Within slots start clean :=
    within_startChild hslot (hfinish clean)
  refine within_call rfl hslot ?_
  intro result
  cases result with
  | error error => exact hfail _ error fun h ↦ h.2 error rfl
  | ok found =>
    cases found with
    | some recorded => exact within_ite (hreport _ recorded) (hstart _)
    | none => exact hstart _

/-- Every operation stays within its slots. -/
theorem within_script (workflowId : String) (o : Operation V) :
    Within (o.slots k) (o.script workflowId outcomes k) True := by
  have hnext : k + 1 + 1 = k + 2 := by omega
  cases o with
  | step functionName =>
    have hslot : ⟨.system, k + 1, functionName⟩ ∈ (Operation.step functionName :
      Operation V).slots k := List.mem_cons_self
    exact within_checked hslot (fun _ ↦ within_ite (within_raised rfl) trivial)
      ⟨nofun, within_onOk (within_recordAndReturn hslot)⟩
  | transaction transactionName =>
    have hslot : ⟨.system, k + 1, transactionName⟩ ∈ (Operation.transaction transactionName :
      Operation V).slots k := List.mem_cons_self
    exact within_checked hslot (fun _ ↦ within_ite (within_raised rfl) trivial)
      (within_call rfl (List.mem_cons_of_mem _ List.mem_cons_self)
        (within_onOk (within_recordAndReturn hslot)))
  | send messages format bulk sendToForks =>
    exact within_call rfl List.mem_cons_self (within_onOk fun _ ↦ trivial)
  | recv topic =>
    refine within_waitFor List.mem_cons_self ?_ (within_call rfl List.mem_cons_self
      (within_onOk fun _ ↦ trivial))
    rw [hnext]
    exact List.mem_cons_of_mem _ List.mem_cons_self
  | getEvent targetUuid key =>
    refine within_waitFor List.mem_cons_self ?_ (within_call rfl List.mem_cons_self
      (within_onOk fun _ ↦ trivial))
    rw [hnext]
    exact List.mem_cons_of_mem _ List.mem_cons_self
  | setEvent key message format =>
    exact within_call rfl List.mem_cons_self (within_onOk fun _ ↦ trivial)
  | sleep seconds =>
    rw [Operation.script, Operation.slots]
    split
    · trivial
    · exact within_recordSleep List.mem_cons_self trivial
  | startWorkflow functionName assignedId => exact within_startWorkflow List.mem_cons_self
  | callWorkflow functionName assignedId =>
    refine within_callWorkflow List.mem_cons_self ?_
    rw [hnext]
    exact List.mem_cons_of_mem _ List.mem_cons_self
  | getResult resultWorkflowId =>
    exact within_call rfl List.mem_cons_self (within_onOk fun _ ↦ trivial)

/-! ### What a script that finishes has recorded -/

section Finished

variable {post : RecordedResult → History → Prop}

theorem wp_onOk {call : Call V} {next : call.Returns → OperationScript V}
    (hnext : ∀ value h', call.Returned h' value → h.Extends h' →
      (next value).wp Call.Spec post h') :
    (Script.call call (Script.onOk next) : OperationScript V).wp Call.Spec post h := by
  intro result h' hspec
  cases result with
  | ok value => exact hnext value h' (hspec.returned value rfl) hspec.adds.rows
  | error error => trivial

theorem wp_checked {functionId : ℤ} {functionName : String}
    {found : RecordedResult → OperationScript V} {missing : OperationScript V}
    (hfound : ∀ recorded h', h'.recorded functionId = some recorded →
      (found recorded).wp Call.Spec post h')
    (hmissing : ∀ h', missing.wp Call.Spec post h') :
    (checked functionId functionName found missing).wp Call.Spec post h := by
  refine wp_onOk ?_
  intro recorded h' hreturned _
  cases recorded with
  | none => exact hmissing h'
  | some result => exact hfound result h' hreturned.symm

theorem wp_ite {condition : Prop} [Decidable condition] {left right : OperationScript V}
    (hleft : left.wp Call.Spec post h) (hright : right.wp Call.Spec post h) :
    (if condition then left else right).wp Call.Spec post h := by
  split
  · exact hleft
  · exact hright

theorem wp_recordAndReturn {functionId : ℤ} {functionName : String}
    (hpost : ∀ result h', h'.recorded functionId = some result → post result h')
    (result : RecordedResult) :
    (recordAndReturn functionId functionName result : OperationScript V).wp Call.Spec post h :=
  wp_onOk fun value h' hreturned _ ↦ hpost value h' hreturned

theorem wp_recordSleep {functionId : ℤ} {next : OperationScript V}
    (hnext : ∀ h', (h'.recorded functionId).isSome → next.wp Call.Spec post h') :
    (recordSleep functionId next).wp Call.Spec post h := by
  refine wp_checked (fun recorded h' hrecorded ↦ wp_ite trivial
    (hnext h' (Option.isSome_of_eq_some hrecorded))) ?_
  intro h' result h'' hspec
  cases result with
  | ok recorded => exact hnext h'' (Option.isSome_of_eq_some (hspec.returned recorded rfl))
  | error error =>
    cases error with
    | workflowConflictID conflicting => exact hnext h'' (hspec.conflict conflicting _ rfl rfl)
    | _ => trivial

theorem wp_waitFor {functionId : ℤ} {functionName missingOutput : String}
    {consume : OperationScript V}
    (hpost : ∀ result h', h'.recorded functionId = some result → post result h')
    (hconsume : ∀ h', consume.wp Call.Spec post h') :
    (waitFor functionId functionName missingOutput consume).wp Call.Spec post h :=
  wp_checked (fun recorded h' hrecorded ↦ wp_ite trivial (hpost recorded h' hrecorded))
    fun _ ↦ wp_recordSleep fun h' _ ↦ hconsume h'

theorem wp_startChild {functionId : ℤ} {functionName childId : String}
    {next : Except DBOSError RecordedResult → OperationScript V}
    (hnext : ∀ recorded h', h'.recorded functionId = some recorded →
      (next (.ok recorded)).wp Call.Spec post h')
    (hraised : ∀ error h', (next (.error error)).wp Call.Spec post h') :
    (startChild functionId functionName childId next).wp Call.Spec post h := by
  intro result h' _
  cases result with
  | error error => exact hraised error h'
  | ok refused =>
    cases refused with
    | some recorded =>
      intro result h'' hspec
      cases result with
      | ok value => exact hnext value h'' (hspec.returned value rfl)
      | error error => exact hraised error h''
    | none =>
      intro result h'' hspec
      cases result with
      | ok value => exact hnext value h'' (hspec.returned value rfl)
      | error error => exact hraised error h''

theorem wp_startWorkflow {functionId : ℤ} {functionName childId : String}
    (hpost : ∀ result h', h'.recorded functionId = some result → post result h') :
    (startWorkflow functionId functionName childId : OperationScript V).wp Call.Spec post h := by
  have hstart (h' : History) : (startChild functionId functionName childId
      (Script.onOk .finished) : OperationScript V).wp Call.Spec post h' :=
    wp_startChild hpost fun _ _ ↦ trivial
  exact wp_checked (fun recorded h' hrecorded ↦ wp_ite (hpost recorded h' hrecorded) (hstart h'))
    hstart

theorem wp_callWorkflow {functionId : ℤ} {functionName childId : String}
    (hpost : ∀ recorded h', h'.recorded functionId = some recorded →
      (h'.recorded (functionId + 1)).isSome → post (childResult outcomes recorded) h') :
    (callWorkflow outcomes functionId functionName childId : OperationScript V).wp Call.Spec
      post h := by
  unfold callWorkflow
  extract_lets report fail finish start
  have hreport (recorded : RecordedResult) (h' : History)
      (hrecorded : h'.recorded functionId = some recorded) :
      (report recorded).wp Call.Spec post h' := by
    refine wp_onOk ?_
    intro value h'' hreturned hextends
    exact hpost recorded h'' (hextends.recorded hrecorded) (Option.isSome_of_eq_some hreturned)
  have hfail (error : DBOSError) (h' : History) : (fail error).wp Call.Spec post h' :=
    wp_ite trivial (wp_onOk fun _ _ _ _ _ _ _ ↦ trivial)
  have hstart (h' : History) : start.wp Call.Spec post h' := wp_startChild hreport hfail
  intro result h' hspec
  cases result with
  | error error => exact hfail error h'
  | ok found =>
    cases found with
    | some recorded =>
      exact wp_ite (hreport recorded h' (hspec.returned _ rfl).symm) (hstart h')
    | none => exact hstart h'

/-- An operation that finishes is completed. -/
theorem wp_script (workflowId : String) (o : Operation V) (h : History) :
    (o.script workflowId outcomes k).wp Call.Spec
      (fun result h' ↦ o.completed outcomes k h' = some result) h := by
  cases o with
  | step functionName =>
    exact wp_checked (fun recorded h' hrecorded ↦ wp_ite trivial hrecorded) fun _ ↦
      wp_onOk fun result _ _ _ ↦ wp_recordAndReturn (fun _ _ hrecorded ↦ hrecorded) result
  | transaction transactionName =>
    exact wp_checked (fun recorded h' hrecorded ↦ wp_ite trivial hrecorded) fun _ ↦
      wp_onOk fun result _ _ _ ↦ wp_recordAndReturn (fun _ _ hrecorded ↦ hrecorded) result
  | send messages format bulk sendToForks =>
    exact wp_onOk fun _ _ hreturned _ ↦ congrArg (Option.map _) hreturned
  | recv topic =>
    exact wp_waitFor (fun _ _ hrecorded ↦ hrecorded) fun _ ↦ wp_onOk fun _ _ hreturned _ ↦ hreturned
  | getEvent targetUuid key =>
    exact wp_waitFor (fun _ _ hrecorded ↦ hrecorded) fun _ ↦ wp_onOk fun _ _ hreturned _ ↦ hreturned
  | setEvent key message format =>
    exact wp_onOk fun _ _ hreturned _ ↦ congrArg (Option.map _) hreturned
  | sleep seconds =>
    simp only [Operation.script, Operation.completed]
    split
    · exact rfl
    · refine wp_recordSleep fun h' hsome ↦ ?_
      obtain ⟨recorded, hrecorded⟩ := Option.isSome_iff_exists.mp hsome
      exact congrArg (Option.map _) hrecorded
  | startWorkflow functionName assignedId =>
    exact wp_startWorkflow fun _ _ hrecorded ↦ hrecorded
  | callWorkflow functionName assignedId =>
    refine wp_callWorkflow fun recorded h' hrecorded hsome ↦ ?_
    obtain ⟨outcome, houtcome⟩ := Option.isSome_iff_exists.mp hsome
    rw [add_assoc] at houtcome
    refine Option.bind_eq_some_iff.mpr ⟨recorded, hrecorded, ?_⟩
    exact congrArg (Option.map _) houtcome
  | getResult resultWorkflowId =>
    exact wp_onOk fun _ _ hreturned _ ↦ congrArg (Option.map _) hreturned

end Finished

/-! ### Runs of an operation -/

/-- A call made by the workflow. In between, others may do anything but write its history. -/
def service {α : Type} (serializers : Serializers V) (workflowId : String) (call : Call V)
    (db : Databases α) (result : Except DBOSError call.Returns) (db' : Databases α) : Prop :=
  ∃ input : Input V α, (call.attempt serializers workflowId input db).result = result ∧
    history workflowId db' =
      history workflowId ((call.attempt serializers workflowId input db).stateAfter db)

/-- An operation has been under way: checkpoints stay, and rows are added in its slots only, under
their names. -/
structure UnderWay (o : Operation V) (k : ℤ) (h h' : History) : Prop where
  rows : h.Extends h'
  outside : ∀ store functionId, (∀ s ∈ o.slots k, s.store = store → s.functionId ≠ functionId) →
    h'.nameAt store functionId = h.nameAt store functionId
  fits : ∀ s ∈ o.slots k, h.FitsAt s → h'.FitsAt s

theorem UnderWay.refl (o : Operation V) (k : ℤ) (h : History) : UnderWay o k h h where
  rows _ _ hrow := hrow
  outside _ _ _ := rfl
  fits _ _ hfits := hfits

/-- One more call. -/
theorem UnderWay.step {h'' : History} {slot : Option Slot} (hway : UnderWay o k h h')
    (hadds : Adds slot h' h'') (hslot : ∀ s ∈ slot, s ∈ o.slots k) : UnderWay o k h h'' where
  rows functionId row hrow := hadds.rows functionId row (hway.rows functionId row hrow)
  outside store functionId hid := by
    rcases hadds.names store functionId with hsame | ⟨s, hs, hstore, hfunction, -, -⟩
    · exact hsame.trans (hway.outside store functionId hid)
    · exact absurd hfunction (hid s (hslot s hs) hstore)
  fits s hs hfits name hname := by
    rcases hadds.names s.store s.functionId with hsame | ⟨s', hs', hstore, hfunction, -, hnew⟩
    · exact hway.fits s hs hfits name (hsame.symm.trans hname)
    · have hname' : s'.functionName = name := Option.some.inj (hnew.symm.trans hname)
      rw [← hname']
      exact slot_unique (hslot s' hs') hs hstore hfunction

/-- The IDs below those of an operation, and those above. -/
theorem UnderWay.nameAt_eq (hway : UnderWay o k h h') (store : Store) {functionId : ℤ}
    (hid : functionId ≤ k ∨ k + o.ids < functionId) :
    h'.nameAt store functionId = h.nameAt store functionId := by
  refine hway.outside store functionId ?_
  intro s hs _ hfunction
  have hrange := slot_mem_ids hs
  omega

theorem UnderWay.agreesAbove (hway : UnderWay o k h h') : h.AgreesAbove h' (k + o.ids) := by
  intro functionId hid
  have hnames (store : Store) := hway.nameAt_eq store (Or.inr hid)
  exact ⟨hway.rows.checkpoints_eq (hnames .system), hnames⟩

/-- The calls look only at rows of their names. -/
def CallsFit (h : History) (calls : List (Call V)) : Prop :=
  ∀ call ∈ calls, ∀ s ∈ call.slot, h.FitsAt s

/-- The invariant of a script under way from the history `h₀`: it has kept to the slots, and no call
has raised `DBOSUnexpectedStepError` if the rows that were there have the right names. -/
structure OnTrack (o : Operation V) (k : ℤ) (h₀ : History) (calls : List (Call V))
    (script : OperationScript V) (h : History) : Prop where
  way : UnderWay o k h₀ h
  slots : ∀ call ∈ calls, ∀ s ∈ call.slot, s ∈ o.slots k
  script : ∃ clean : Prop, Within (o.slots k) script clean ∧ (CallsFit h₀ calls → clean)

theorem onTrack_call {h₀ : History} (before : List (Call V)) (call : Call V)
    (next : Except DBOSError call.Returns → OperationScript V) (h : History)
    (result : Except DBOSError call.Returns) (h' : History)
    (htrack : OnTrack o k h₀ before (.call call next) h) (hspec : call.Spec h result h') :
    OnTrack o k h₀ (before ++ [call]) (next result) h' := by
  obtain ⟨hway, hslots, clean, ⟨hslot, hnext⟩, hclean⟩ := htrack
  refine ⟨hway.step hspec.adds hslot, ?_, clean ∧ Expected result, hnext result, ?_⟩
  · intro made hmade
    rcases List.mem_append.mp hmade with hmade | hmade
    · exact hslots made hmade
    · rw [List.mem_singleton.mp hmade]
      exact hslot
  · intro hfits
    refine ⟨hclean fun made hmade ↦ hfits made (List.mem_append_left _ hmade), ?_⟩
    intro error herror
    by_contra hunexpected
    obtain ⟨s, hs, name, hname, hother⟩ :=
      hspec.unexpected error herror (Bool.not_eq_false _ ▸ hunexpected)
    have hfit := hfits call (List.mem_append_right _ (List.mem_singleton_self call)) s hs
    exact hother (hway.fits s (hslot s hs) hfit name hname)

variable {α : Type} {serializers : Serializers V} {workflowId : String} {db db' : Databases α}
  {script : OperationScript V} {calls : List (Call V)}

theorem service_spec (hexpected : SerializersExpected serializers) (call : Call V)
    (db : Databases α) (result : Except DBOSError call.Returns) (db' : Databases α)
    (hservice : service serializers workflowId call db result db') :
    call.Spec (history workflowId db) result (history workflowId db') := by
  obtain ⟨input, rfl, hafter⟩ := hservice
  rw [hafter]
  exact attempt_spec hexpected call input db

theorem onTrack_of_reaches (hexpected : SerializersExpected serializers)
    (hreaches : Script.Reaches (service serializers workflowId) (o.script workflowId outcomes k) db
      calls script db') :
    OnTrack o k (history workflowId db) calls script (history workflowId db') := by
  have hinit : OnTrack o k (history workflowId db) [] (o.script workflowId outcomes k)
      (history workflowId db) :=
    ⟨.refl o k _, nofun, True, within_script workflowId o, fun _ ↦ trivial⟩
  exact hreaches.invariant (OnTrack o k (history workflowId db)) (service_spec hexpected)
    onTrack_call [] hinit

/-- Where the rows that its calls look at have the right names, an operation does not raise
`DBOSUnexpectedStepError`. -/
theorem expected_of_callsFit (hexpected : SerializersExpected serializers)
    (hreaches : Script.Reaches (service serializers workflowId) (o.script workflowId outcomes k) db
      calls script db')
    (hfits : CallsFit (history workflowId db) calls) {error : DBOSError}
    (herror : script.error = some error) : isUnexpectedStep error = false := by
  obtain ⟨-, -, clean, hwithin, hclean⟩ := onTrack_of_reaches hexpected hreaches
  cases script with
  | raised raised =>
    cases herror
    exact hwithin (hclean hfits)
  | finished value => cases herror
  | call call next => cases herror

theorem expected_of_fits (hexpected : SerializersExpected serializers)
    (hreaches : Script.Reaches (service serializers workflowId) (o.script workflowId outcomes k) db
      calls script db')
    (hfits : (history workflowId db).Fits (o.slots k)) {error : DBOSError}
    (herror : script.error = some error) : isUnexpectedStep error = false := by
  have hslots := (onTrack_of_reaches hexpected hreaches).slots
  exact expected_of_callsFit hexpected hreaches
    (fun call hcall s hs ↦ hfits s (hslots call hcall s hs)) herror

/-- An operation that has finished is completed. -/
theorem completed_of_reaches (hexpected : SerializersExpected serializers) {result : RecordedResult}
    (hreaches : Script.Reaches (service serializers workflowId) (o.script workflowId outcomes k) db
      calls (.finished result) db') :
    o.completed outcomes k (history workflowId db') = some result :=
  hreaches.finished_of_wp (service_spec hexpected) (wp_script workflowId o (history workflowId db))

/-! ### Look-ups in `transaction_outputs` -/

/-- The ID and the name under which a call looks for the output of a transaction. -/
def Call.lookup : Call V → Option (ℤ × String)
  | .transaction functionId transactionName => some (functionId, transactionName)
  | _ => none

/-- A look-up that meets the output of another transaction raises. -/
theorem unexpected_of_service {functionId : ℤ} {transactionName name : String}
    {result : Except DBOSError RecordedResult}
    (hservice : service serializers workflowId
      (.transaction functionId transactionName : Call V) db result db')
    (hname : (history workflowId db).nameAt .application functionId = some name)
    (hother : name ≠ transactionName) :
    ∃ error, result = .error error ∧ isUnexpectedStep error = true := by
  obtain ⟨input, hresult, -⟩ := hservice
  obtain ⟨row, hrow, hrowName⟩ := Option.map_eq_some_iff.mp hname
  let call : TxCall := ⟨workflowId, functionId, transactionName, input.executorId⟩
  have hcheck : checkTransactionExecution call db.app =
      .error (.unexpectedStep workflowId functionId transactionName row.functionName) := by
    have hlookup : db.app.transactionOutputs.lookup call.key = some row := hrow
    rw [checkTransactionExecution, hlookup]
    refine if_pos ?_
    rw [hrowName]
    exact hother.symm
  have hraised : invokeTransaction input call db =
      .raised (.unexpectedStep workflowId functionId transactionName row.functionName) := by
    rw [invokeTransaction, hcheck]
  refine ⟨.unexpectedStep workflowId functionId transactionName row.functionName, ?_, rfl⟩
  rw [← hresult, Call.attempt, hraised]
  rfl

/-- Such an operation has ended with `DBOSUnexpectedStepError`. -/
theorem unexpected_of_lookup (hexpected : SerializersExpected serializers)
    (hreaches : Script.Reaches (service serializers workflowId) (o.script workflowId outcomes k) db
      calls script db')
    {functionId : ℤ} {transactionName name : String}
    (hlookup : (functionId, transactionName) ∈ calls.filterMap Call.lookup)
    (hname : (history workflowId db).nameAt .application functionId = some name)
    (hother : name ≠ transactionName) :
    ∃ error, script.error = some error ∧ isUnexpectedStep error = true := by
  have hslots := (onTrack_of_reaches hexpected hreaches).slots
  obtain ⟨call, hmade, hcall⟩ := List.mem_filterMap.mp hlookup
  have hcall : call = .transaction functionId transactionName := by
    cases call <;> cases hcall
    rfl
  rw [hcall] at hmade
  obtain ⟨rfl, rfl⟩ := transaction_of_application (hslots _ hmade _ rfl) rfl
  -- the call comes after the look-up in `operation_outputs` and before the recording
  unfold Operation.script invokeTx checked at hreaches
  cases hreaches with
  | stop => cases hmade
  | @call _ _ _ checkedDb _ result _ _ hcheck hrest =>
    have hsame : (history workflowId checkedDb).nameAt .application (k + 1) = some name := by
      rcases (service_spec hexpected _ _ _ _ hcheck).adds.names .application (k + 1) with
        hsame | ⟨s, hs, hstore, -⟩
      · exact hsame.trans hname
      · cases hs
        cases hstore
    have hlater := List.mem_of_ne_of_mem (by simp) hmade
    rcases result with error | _ | recorded
    · cases hrest
      cases hlater
    · cases hrest with
      | stop => cases hlater
      | call hservice hrest =>
        obtain ⟨error, rfl, hunexpected⟩ := unexpected_of_service hservice hsame hother
        cases hrest
        exact ⟨error, rfl, hunexpected⟩
    · simp only [Script.onOk] at hrest
      split at hrest
      · cases hrest
        cases hlater
      · cases hrest
        cases hlater

end Operations

end DBOSModel.Core

import DBOSModel.SysDb.Checkpoint

/-!
# Transactions on the application database

`invoke_tx` of `decorate_transaction` in `dbos/_core.py` with the functions of `dbos/_app_db.py` it
calls. An executor first looks up its step in the system database, then loops: inside one
application transaction it looks up `transaction_outputs`, else runs the body and inserts the output.
An exception is retried, recorded in `transaction_outputs` by a transaction of its own, or raised.
The outcome then goes to the system database. Two databases are written one after the other, with
no common transaction.

An application transaction is one atomic step here. It may be rolled back with any exception, and
its commit may be applied while an exception is reported. An executor may be restarted between any
two steps, and any number of executors run the same step at the same time. The log `effects` holds
what each committed run of a body did to the tables of the application.

An output is serialized twice, within the transaction and for the system database after the commit.
Its text is the same both times here, which is not so for an ORM instance that the commit expires.
-/

namespace DBOSModel.Core

open Relational SysDb

/-! ## The application database -/

/-- A row of `transaction_outputs`, less the columns that are the same in every row. -/
structure TransactionOutputRow where
  workflowUuid : String
  functionId : ℤ
  output : Option String := none
  error : Option String := none
  functionName : String
deriving DecidableEq

def TransactionOutputRow.key (row : TransactionOutputRow) : String × ℤ :=
  (row.workflowUuid, row.functionId)

/-- The tables of the application, and `transaction_outputs` beside them. -/
structure AppDatabase (α : Type) where
  data : α
  transactionOutputs : Table TransactionOutputRow.key

/-- One invocation of a transaction: the step it is, and the executor that runs it. -/
structure TxCall where
  workflowId : String
  functionId : ℤ
  transactionName : String
  executorId : Option String

def TxCall.key (call : TxCall) : String × ℤ := (call.workflowId, call.functionId)

section AppDatabase

variable {α : Type}

/-- The insert of `record_transaction_output` and `record_transaction_error`. -/
def insertTransactionRow (row : TransactionOutputRow) (app : AppDatabase α) :
    Except DBOSError (AppDatabase α) :=
  match app.transactionOutputs.insertNew row with
  | none => .error (.workflowConflictID row.workflowUuid)
  | some outputs => .ok { app with transactionOutputs := outputs }

def recordTransactionOutput (call : TxCall) (output : String) :
    AppDatabase α → Except DBOSError (AppDatabase α) :=
  insertTransactionRow
    { workflowUuid := call.workflowId, functionId := call.functionId, output := some output,
      functionName := call.transactionName }

def recordTransactionError (call : TxCall) (error : String) :
    AppDatabase α → Except DBOSError (AppDatabase α) :=
  insertTransactionRow
    { workflowUuid := call.workflowId, functionId := call.functionId, error := some error,
      functionName := call.transactionName }

/-- `check_transaction_execution`. The table has no serialization column. -/
def checkTransactionExecution (call : TxCall) (app : AppDatabase α) :
    Except DBOSError (Option RecordedResult) :=
  match app.transactionOutputs.lookup call.key with
  | none => .ok none
  | some row =>
    if call.transactionName ≠ row.functionName then
      .error (.unexpectedStep call.workflowId call.functionId call.transactionName row.functionName)
    else .ok (some
      { output := row.output
        error := row.error
        serialization := none
        childWorkflowId := none })

end AppDatabase

/-! ## Exceptions -/

/-- What the handlers around a transaction do with an exception. -/
inductive Handling where
  /-- A database error that is retried. -/
  | retry
  /-- An `Exception` that is recorded and raised. -/
  | record
  /-- Raised only: what is not an `Exception`, and `DBOSUnexpectedStepError` in `invoke_tx`. -/
  | propagate
deriving DecidableEq

/-- The exceptions of the language: those of the library, how the handlers tell them apart, and
their texts. -/
structure Exceptions (E : Type) where
  ofDBOS : DBOSError → E
  handling : E → Handling
  serializeException : E → Except E (String × String)
  deserializeException : String → Option String → Except E E

/-- The truth value of a column: an empty text counts as absent. -/
def truthy (text : Option String) : Option String := text.filter fun t ↦ t ≠ ""

/-- What `invoke_tx` uses of its process. -/
structure TxEnv (V E : Type) where
  serializers : Serializers V
  exceptions : Exceptions E

/-- How the commit of an application transaction ends. -/
inductive Commit (E : Type) where
  /-- Rolled back with an exception. -/
  | aborted (error : E)
  /-- Applied, but an exception is reported. -/
  | unacknowledged (error : E)
  | acknowledged

/-! ## One executor -/

section Executor

variable {V E α : Type}

/-- What follows once the step is recorded in the system database. -/
inductive AfterRecord (V E : Type) where
  /-- Inside the loop, an error found in `transaction_outputs` is raised. -/
  | replayError (error : E)
  /-- Inside the loop, an output found there is returned. -/
  | replayOutput (text : String)
  /-- In the `finally` clause, the exception goes on. -/
  | raise (error : E)
  /-- After the loop, the output is returned. -/
  | return (value : V)

inductive TxPhase (V E : Type) where
  | start
  | looping (startedAt : ℤ)
  /-- In the `finally` clause, before `record_transaction_error`. -/
  | recordingError (startedAt : ℤ) (error : E) (text serialization : String)
  /-- In `record_operation_result`, with the completion time it has read. -/
  | recordingStep (result : OperationResultInternal) (completedAt : ℤ) (next : AfterRecord V E)
  /-- Leaving the transaction that found a recorded output. -/
  | leaving (startedAt : ℤ) (value : V)
  | finished (outcome : Except E V)

/-- The steps an executor takes, with the outcome of each call to a database. -/
inductive ExecutorAction (V E α : Type) where
  | check (startedAt : ℤ)
  | attempt (body : α → Except E (V × α)) (commit : Commit E) (completedAt : ℤ)
  | recordError (commit : Commit E) (completedAt : ℤ)
  | recordStep (fate : Fate)
  | leave (error : Option E)
  | restart

/-- `step_output`. -/
def TxCall.stepOutput (call : TxCall) (startedAt : ℤ) (output error serialization : Option String) :
    OperationResultInternal where
  workflowUuid := call.workflowId
  functionId := call.functionId
  functionName := call.transactionName
  startedAtEpochMs := startedAt
  output := output
  error := error
  serialization := serialization

/-- The result of the first lookup, in the system database. -/
def replayStep (env : TxEnv V E) (recorded : RecordedResult) : Except E V :=
  match truthy recorded.error, truthy recorded.output with
  | some error, _ => (env.exceptions.deserializeException error recorded.serialization).bind .error
  | none, some output =>
    -- the source passes the child workflow ID where the serialization belongs
    (env.serializers.deserializeValue (some output) recorded.childWorkflowId).mapError
      env.exceptions.ofDBOS
  | none, none => .error (env.exceptions.ofDBOS (.exception "Output and error are both None"))

/-- Where an application transaction stands when it is about to commit. -/
inductive Attempted (V E α : Type) where
  | replayError (text : String) (error : E)
  | replayOutput (text : String)
  | ran (value : V) (text : String) (app : AppDatabase α)
  | raised (error : E)

/-- The block under `session.begin()`. -/
def runAttempt (env : TxEnv V E) (call : TxCall) (body : α → Except E (V × α))
    (app : AppDatabase α) : Attempted V E α :=
  match checkTransactionExecution call app with
  | .error error => .raised (env.exceptions.ofDBOS error)
  | .ok (some recorded) =>
    match truthy recorded.error, truthy recorded.output with
    | some text, _ =>
      match env.exceptions.deserializeException text recorded.serialization with
      | .error error => .raised error
      | .ok error => .replayError text error
    | none, some text => .replayOutput text
    | none, none => .raised (env.exceptions.ofDBOS (.exception "Output and error are both None"))
  | .ok none =>
    match body app.data with
    | .error error => .raised error
    | .ok (value, data) =>
      match env.serializers.serializeValue value .default with
      | .error error => .raised (env.exceptions.ofDBOS error)
      | .ok (text, _) =>
        match recordTransactionOutput call text { app with data := data } with
        | .error error => .raised (env.exceptions.ofDBOS error)
        | .ok app' => .ran value text app'

/-- The handlers of the loop, and the serialization at the start of the `finally` clause. -/
def handle (env : TxEnv V E) (startedAt : ℤ) (error : E) : TxPhase V E :=
  match env.exceptions.handling error with
  | .retry => .looping startedAt
  | .propagate => .finished (.error error)
  | .record =>
    match env.exceptions.serializeException error with
    | .error error' => .finished (.error error')
    | .ok (text, serialization) => .recordingError startedAt error text serialization

/-- The same where `has_recorded_error` is set: nothing is recorded. -/
def handleRecorded (env : TxEnv V E) (startedAt : ℤ) (error : E) : TxPhase V E :=
  match env.exceptions.handling error with
  | .retry => .looping startedAt
  | _ => .finished (.error error)

/-- After the loop: the output is serialized once more and recorded. -/
def afterLoop (env : TxEnv V E) (call : TxCall) (startedAt completedAt : ℤ) (value : V) :
    TxPhase V E :=
  match env.serializers.serializeValue value .default with
  | .error error => .finished (.error (env.exceptions.ofDBOS error))
  | .ok (text, serialization) =>
    .recordingStep (call.stepOutput startedAt (some text) none (some serialization)) completedAt
      (.return value)

/-- What follows when `record_operation_result` has ended. -/
def afterRecord (env : TxEnv V E) (startedAt : ℤ) (next : AfterRecord V E) :
    Except DBOSError Unit → TxPhase V E
  | .ok () =>
    match next with
    | .replayError error => handleRecorded env startedAt error
    | .replayOutput text =>
      match env.serializers.deserializeValue (some text) none with
      | .ok value => .leaving startedAt value
      | .error error => handle env startedAt (env.exceptions.ofDBOS error)
    | .raise error => .finished (.error error)
    | .return value => .finished (.ok value)
  | .error error =>
    match next with
    | .replayError _ => handleRecorded env startedAt (env.exceptions.ofDBOS error)
    | .replayOutput _ => handle env startedAt (env.exceptions.ofDBOS error)
    | .raise _ => .finished (.error (env.exceptions.ofDBOS error))
    | .return _ => .finished (.error (env.exceptions.ofDBOS error))

/-- Both databases after a step, the next phase, and the change of the application's tables if a
run of the body was committed. -/
structure Moved (V E α : Type) where
  app : AppDatabase α
  sys : SystemDatabase
  phase : TxPhase V E
  effect : Option (α × α) := none

/-- The lookup before the loop. -/
def checkStep (env : TxEnv V E) (call : TxCall) (startedAt : ℤ) (app : AppDatabase α)
    (sys : SystemDatabase) : Moved V E α :=
  match checkOperationExecutionTxn call.workflowId call.functionId call.transactionName sys with
  | .error error => { app, sys, phase := .finished (.error (env.exceptions.ofDBOS error)) }
  | .ok (some recorded) => { app, sys, phase := .finished (replayStep env recorded) }
  | .ok none => { app, sys, phase := .looping startedAt }

/-- One application transaction of the loop. -/
def attemptStep (env : TxEnv V E) (call : TxCall) (startedAt : ℤ) (body : α → Except E (V × α))
    (commit : Commit E) (completedAt : ℤ) (app : AppDatabase α) (sys : SystemDatabase) :
    Moved V E α :=
  match commit, runAttempt env call body app with
  | .aborted error, _ => { app, sys, phase := handle env startedAt error }
  | _, .raised error => { app, sys, phase := handle env startedAt error }
  | _, .replayError text error =>
    { app, sys
      phase := .recordingStep (call.stepOutput startedAt none (some text) none) completedAt
        (.replayError error) }
  | _, .replayOutput text =>
    { app, sys
      phase := .recordingStep (call.stepOutput startedAt (some text) none none) completedAt
        (.replayOutput text) }
  | .unacknowledged error, .ran _ _ app' =>
    { app := app'
      sys
      phase := handle env startedAt error
      effect := some (app.data, app'.data) }
  | .acknowledged, .ran value _ app' =>
    { app := app'
      sys
      phase := afterLoop env call startedAt completedAt value
      effect := some (app.data, app'.data) }

/-- The `finally` clause, up to the recording in the system database. -/
def recordErrorStep (env : TxEnv V E) (call : TxCall) (startedAt : ℤ) (error : E)
    (text serialization : String) (commit : Commit E) (completedAt : ℤ) (app : AppDatabase α)
    (sys : SystemDatabase) : Moved V E α :=
  match commit, recordTransactionError call text app with
  | .aborted error', _ => { app, sys, phase := .finished (.error error') }
  | _, .error error' => { app, sys, phase := .finished (.error (env.exceptions.ofDBOS error')) }
  | .unacknowledged error', .ok app' => { app := app', sys, phase := .finished (.error error') }
  | .acknowledged, .ok app' =>
    { app := app'
      sys
      phase := .recordingStep (call.stepOutput startedAt none (some text) (some serialization))
        completedAt (.raise error) }

/-- One attempt of `record_operation_result`. -/
def recordStepStep (env : TxEnv V E) (call : TxCall) (result : OperationResultInternal)
    (completedAt : ℤ) (next : AfterRecord V E) (fate : Fate) (app : AppDatabase α)
    (sys : SystemDatabase) : Moved V E α :=
  let ending := recordOperationResult call.executorId result completedAt sys
  match fate with
  | .failed => { app, sys, phase := .recordingStep result completedAt next }
  | .unacknowledged =>
    { app
      sys := ending.stateAfter sys
      phase := .recordingStep result completedAt next }
  | .acknowledged =>
    { app
      sys := ending.stateAfter sys
      phase := afterRecord env result.startedAtEpochMs next ending.result }

/-- One step of an executor. -/
def executorStep (env : TxEnv V E) (call : TxCall) (app : AppDatabase α) (sys : SystemDatabase)
    (phase : TxPhase V E) (action : ExecutorAction V E α) : Option (Moved V E α) :=
  match action, phase with
  | .restart, _ => some { app, sys, phase := .start }
  | .check startedAt, .start => some (checkStep env call startedAt app sys)
  | .attempt body commit completedAt, .looping startedAt =>
    some (attemptStep env call startedAt body commit completedAt app sys)
  | .recordError commit completedAt, .recordingError startedAt error text serialization =>
    some (recordErrorStep env call startedAt error text serialization commit completedAt app sys)
  | .recordStep fate, .recordingStep result completedAt next =>
    some (recordStepStep env call result completedAt next fate app sys)
  | .leave none, .leaving _ value => some { app, sys, phase := .finished (.ok value) }
  | .leave (some error), .leaving startedAt _ =>
    some { app, sys, phase := handle env startedAt error }
  | _, _ => none

end Executor

/-! ## What one step can do -/

section Steps

variable {V E α : Type} {env : TxEnv V E} {call : TxCall} {app : AppDatabase α}
  {sys : SystemDatabase}

/-- An executor that is recording its step has the outcome that `transaction_outputs` holds. -/
def Backed (app : AppDatabase α) (key : String × ℤ) : TxPhase V E → Prop
  | .recordingStep result _ _ => result.key = key ∧
      ∃ row, app.transactionOutputs.lookup key = some row ∧ row.output = result.output ∧
        row.error = result.error
  | _ => True

theorem backed_handle (startedAt : ℤ) (error : E) :
    Backed app call.key (handle env startedAt error) := by
  unfold handle
  split
  · trivial
  · trivial
  · split
    · trivial
    · trivial

theorem backed_handleRecorded (startedAt : ℤ) (error : E) :
    Backed app call.key (handleRecorded env startedAt error) := by
  unfold handleRecorded
  split
  · trivial
  · trivial

theorem backed_afterRecord (startedAt : ℤ) (next : AfterRecord V E) (answer : Except DBOSError Unit) :
    Backed app call.key (afterRecord env startedAt next answer) := by
  match answer, next with
  | .ok (), .replayError _ => exact backed_handleRecorded _ _
  | .ok (), .replayOutput _ =>
    simp only [afterRecord]
    split
    · trivial
    · exact backed_handle _ _
  | .ok (), .raise _ => trivial
  | .ok (), .return _ => trivial
  | .error _, .replayError _ => exact backed_handleRecorded _ _
  | .error _, .replayOutput _ => exact backed_handle _ _
  | .error _, .raise _ => trivial
  | .error _, .return _ => trivial

/-- A row holds an output or an error, not both. -/
def TransactionOutputRow.OneResult (row : TransactionOutputRow) : Prop :=
  row.output = none ∨ row.error = none

/-- What a step of an executor does to the two databases and to its own phase. -/
structure Moves (call : TxCall) (app : AppDatabase α) (sys : SystemDatabase) (phase : TxPhase V E)
    (moved : Moved V E α) : Prop where
  /-- An effect comes with the row of the step, which was not there before. -/
  appChange : (moved.effect = none ∧ moved.app = app) ∨
    ∃ row, row.key = call.key ∧ row.OneResult ∧
      app.transactionOutputs.insertNew row = some moved.app.transactionOutputs
  /-- The system database is written by an executor that is recording its step. -/
  sysChange : moved.sys = sys ∨
    ∃ result completedAt next, phase = .recordingStep result completedAt next ∧
      moved.sys = (recordOperationResult call.executorId result completedAt sys).stateAfter sys
  backed : (∀ row, app.transactionOutputs.lookup call.key = some row → row.OneResult) →
    Backed app call.key phase → Backed moved.app call.key moved.phase

/-- A step that only goes on to another phase. -/
theorem Moves.unchanged {phase next : TxPhase V E}
    (h : (∀ row, app.transactionOutputs.lookup call.key = some row → row.OneResult) →
      Backed app call.key phase → Backed app call.key next) :
    Moves call app sys phase { app, sys, phase := next } :=
  ⟨Or.inl ⟨rfl, rfl⟩, Or.inl rfl, h⟩

theorem insertTransactionRow_eq_ok {row : TransactionOutputRow} {app' : AppDatabase α}
    (h : insertTransactionRow row app = .ok app') :
    app.transactionOutputs.insertNew row = some app'.transactionOutputs := by
  unfold insertTransactionRow at h
  split at h
  · cases h
  · rename_i outputs hinsert
    cases h
    exact hinsert

theorem truthy_eq_some {text : Option String} {t : String} (h : truthy text = some t) :
    text = some t :=
  (Option.filter_eq_some_iff.mp h).1

/-- What the block under `session.begin()` has found or done. -/
def Found (env : TxEnv V E) (call : TxCall) (app : AppDatabase α) : Attempted V E α → Prop
  | .replayError text _ => ∃ row, app.transactionOutputs.lookup call.key = some row ∧
      row.error = some text
  | .replayOutput text => ∃ row, app.transactionOutputs.lookup call.key = some row ∧
      row.output = some text
  | .ran value text app' => (∃ name, env.serializers.serializeValue value .default = .ok (text, name)) ∧
      app.transactionOutputs.insertNew
        { workflowUuid := call.workflowId, functionId := call.functionId, output := some text,
          functionName := call.transactionName } = some app'.transactionOutputs
  | .raised _ => True

theorem checkTransactionExecution_eq_some {recorded : RecordedResult}
    (h : checkTransactionExecution call app = .ok (some recorded)) :
    ∃ row, app.transactionOutputs.lookup call.key = some row ∧ recorded.output = row.output ∧
      recorded.error = row.error := by
  unfold checkTransactionExecution at h
  split at h
  · cases h
  · rename_i row hrow
    split at h
    · cases h
    · cases h
      exact ⟨row, hrow, rfl, rfl⟩

theorem found_runAttempt (env : TxEnv V E) (call : TxCall) (body : α → Except E (V × α))
    (app : AppDatabase α) : Found env call app (runAttempt env call body app) := by
  unfold runAttempt
  split
  · trivial
  · rename_i recorded hcheck
    obtain ⟨row, hrow, houtput, herror⟩ := checkTransactionExecution_eq_some hcheck
    split
    · rename_i text _ htext
      split
      · trivial
      · exact ⟨row, hrow, by rw [← herror, truthy_eq_some htext]⟩
    · rename_i text _ htext
      exact ⟨row, hrow, by rw [← houtput, truthy_eq_some htext]⟩
    · trivial
  · split
    · trivial
    · split
      · trivial
      · rename_i text name hserialize
        split
        · trivial
        · rename_i app' hrecord
          have hinsert := insertTransactionRow_eq_ok hrecord
          exact ⟨⟨name, hserialize⟩, hinsert⟩

/-- An executor starts to record what it has just found or inserted. -/
theorem backed_lookup {result : OperationResultInternal} {completedAt : ℤ} {next : AfterRecord V E}
    {row : TransactionOutputRow} (hkey : result.key = call.key)
    (hrow : app.transactionOutputs.lookup call.key = some row) (houtput : row.output = result.output)
    (herror : row.error = result.error) :
    Backed app call.key (.recordingStep result completedAt next) :=
  ⟨hkey, row, hrow, houtput, herror⟩

theorem moves_attemptStep (env : TxEnv V E) (call : TxCall) (startedAt : ℤ)
    (body : α → Except E (V × α)) (commit : Commit E) (completedAt : ℤ) (app : AppDatabase α)
    (sys : SystemDatabase) :
    Moves call app sys (.looping startedAt)
      (attemptStep env call startedAt body commit completedAt app sys) := by
  have hfound := found_runAttempt env call body app
  unfold attemptStep
  split
  · exact .unchanged fun _ _ ↦ backed_handle _ _
  · exact .unchanged fun _ _ ↦ backed_handle _ _
  · rename_i text error _ hattempt
    rw [hattempt] at hfound
    obtain ⟨row, hrow, herror⟩ := hfound
    refine .unchanged fun hone _ ↦ backed_lookup rfl hrow ?_ herror
    rcases hone row hrow with hnone | hnone
    · exact hnone
    · rw [hnone] at herror
      cases herror
  · rename_i text _ hattempt
    rw [hattempt] at hfound
    obtain ⟨row, hrow, houtput⟩ := hfound
    refine .unchanged fun hone _ ↦ backed_lookup rfl hrow houtput ?_
    rcases hone row hrow with hnone | hnone
    · rw [hnone] at houtput
      cases houtput
    · exact hnone
  · rename_i error value text app' hattempt
    rw [hattempt] at hfound
    exact ⟨Or.inr ⟨_, rfl, Or.inr rfl, hfound.2⟩, Or.inl rfl, fun _ _ ↦ backed_handle _ _⟩
  · rename_i value text app' hattempt
    rw [hattempt] at hfound
    obtain ⟨⟨name, hserialize⟩, hinsert⟩ := hfound
    refine ⟨Or.inr ⟨_, rfl, Or.inr rfl, hinsert⟩, Or.inl rfl, fun _ _ ↦ ?_⟩
    simp only [afterLoop, hserialize]
    exact backed_lookup rfl (Table.lookup_insertNew_self hinsert) rfl rfl

theorem moves_recordErrorStep (env : TxEnv V E) (call : TxCall) (startedAt : ℤ) (error : E)
    (text serialization : String) (commit : Commit E) (completedAt : ℤ) (app : AppDatabase α)
    (sys : SystemDatabase) :
    Moves call app sys (.recordingError startedAt error text serialization)
      (recordErrorStep env call startedAt error text serialization commit completedAt app sys) := by
  unfold recordErrorStep
  split
  · exact .unchanged fun _ _ ↦ trivial
  · exact .unchanged fun _ _ ↦ trivial
  · rename_i app' hrecord
    have hinsert := insertTransactionRow_eq_ok hrecord
    exact ⟨Or.inr ⟨_, rfl, Or.inl rfl, hinsert⟩, Or.inl rfl, fun _ _ ↦ trivial⟩
  · rename_i app' hrecord
    have hinsert := insertTransactionRow_eq_ok hrecord
    refine ⟨Or.inr ⟨_, rfl, Or.inl rfl, hinsert⟩, Or.inl rfl, fun _ _ ↦ ?_⟩
    exact backed_lookup rfl (Table.lookup_insertNew_self hinsert) rfl rfl

theorem moves_recordStepStep (env : TxEnv V E) (call : TxCall) (result : OperationResultInternal)
    (completedAt : ℤ) (next : AfterRecord V E) (fate : Fate) (app : AppDatabase α)
    (sys : SystemDatabase) :
    Moves call app sys (.recordingStep result completedAt next)
      (recordStepStep env call result completedAt next fate app sys) := by
  cases fate with
  | failed => exact .unchanged fun _ h ↦ h
  | unacknowledged =>
    exact ⟨Or.inl ⟨rfl, rfl⟩, Or.inr ⟨result, completedAt, next, rfl, rfl⟩, fun _ h ↦ h⟩
  | acknowledged =>
    exact ⟨Or.inl ⟨rfl, rfl⟩, Or.inr ⟨result, completedAt, next, rfl, rfl⟩,
      fun _ _ ↦ backed_afterRecord _ _ _⟩

/-- Every step of an executor is of the described form. -/
theorem moves_executorStep {phase : TxPhase V E} {action : ExecutorAction V E α}
    {moved : Moved V E α} (h : executorStep env call app sys phase action = some moved) :
    Moves call app sys phase moved := by
  unfold executorStep at h
  split at h
  · cases h
    exact .unchanged fun _ _ ↦ trivial
  · cases h
    unfold checkStep
    split
    · exact .unchanged fun _ _ ↦ trivial
    · exact .unchanged fun _ _ ↦ trivial
    · exact .unchanged fun _ _ ↦ trivial
  · cases h
    exact moves_attemptStep ..
  · cases h
    exact moves_recordErrorStep ..
  · cases h
    exact moves_recordStepStep ..
  · cases h
    exact .unchanged fun _ _ ↦ trivial
  · cases h
    exact .unchanged fun _ _ ↦ backed_handle _ _
  · cases h

end Steps

/-! ## Any number of executors -/

section System

variable {ι V E α : Type} [DecidableEq ι]

structure TxState (ι V E α : Type) where
  app : AppDatabase α
  sys : SystemDatabase
  phase : ι → TxPhase V E
  /-- What each committed run of a body did to the tables of the application, by its step. -/
  effects : List ((String × ℤ) × α × α)

inductive TxAction (ι V E α : Type) where
  | executor (i : ι) (action : ExecutorAction V E α)
  /-- Other transactions change the tables of the application and the workflow statuses. -/
  | others (data : α → α)
      (statuses : Table WorkflowStatusRow.workflowUuid → Table WorkflowStatusRow.workflowUuid)

/-- The executors, each with its own invocation, in any order. -/
def txSystem (env : TxEnv V E) (calls : ι → TxCall) : System (TxState ι V E α) (TxAction ι V E α) where
  step s
    | .executor i action =>
      (executorStep env (calls i) s.app s.sys (s.phase i) action).map fun moved ↦
        { app := moved.app
          sys := moved.sys
          phase := Function.update s.phase i moved.phase
          effects := s.effects ++ (moved.effect.map fun change ↦ ((calls i).key, change)).toList }
    | .others data statuses => some
        { s with
          app := { s.app with data := data s.app.data }
          sys := { s.sys with workflowStatus := statuses s.sys.workflowStatus } }

/-- The committed runs of the body of a step. -/
def effectsOf (key : String × ℤ) (effects : List ((String × ℤ) × α × α)) :
    List ((String × ℤ) × α × α) :=
  effects.filter fun effect ↦ effect.1 = key

/-- The invariant of a step: at most one run of its body was committed, and only with its row in
`transaction_outputs`; its checkpoint holds what that row holds. -/
structure ExactlyOnce (key : String × ℤ) (s : TxState ι V E α) : Prop where
  effects : (effectsOf key s.effects).length ≤ 1
  committed : effectsOf key s.effects ≠ [] → (s.app.transactionOutputs.lookup key).isSome
  oneResult : ∀ row, s.app.transactionOutputs.lookup key = some row → row.OneResult
  checkpoint : ∀ stored, s.sys.operationOutputs.lookup key = some stored →
    ∃ row, s.app.transactionOutputs.lookup key = some row ∧ row.output = stored.output ∧
      row.error = stored.error

/-- The invariant of the whole system. -/
structure TxInvariant (calls : ι → TxCall) (s : TxState ι V E α) : Prop where
  steps : ∀ i, ExactlyOnce (calls i).key s
  phases : ∀ i, Backed s.app (calls i).key (s.phase i)

variable {env : TxEnv V E} {calls : ι → TxCall} {s s' : TxState ι V E α}

omit [DecidableEq ι] in
/-- Rows of `transaction_outputs` stay, so what an executor records stays backed. -/
theorem backed_mono {app app' : AppDatabase α} {key : String × ℤ} {phase : TxPhase V E}
    (happ : ∀ row, app.transactionOutputs.lookup key = some row →
      app'.transactionOutputs.lookup key = some row) (h : Backed app key phase) :
    Backed app' key phase := by
  cases phase with
  | recordingStep result completedAt next =>
    obtain ⟨hkey, row, hrow, hsame⟩ := h
    exact ⟨hkey, row, happ row hrow, hsame⟩
  | _ => trivial

omit [DecidableEq ι] in
/-- An executor's step inserts rows into `transaction_outputs` only. -/
theorem lookup_moved {call : TxCall} {app : AppDatabase α} {sys : SystemDatabase}
    {phase : TxPhase V E} {moved : Moved V E α} (h : Moves call app sys phase moved)
    {key : String × ℤ} {row : TransactionOutputRow}
    (hrow : app.transactionOutputs.lookup key = some row) :
    moved.app.transactionOutputs.lookup key = some row := by
  rcases h.appChange with ⟨-, heq⟩ | ⟨_, -, -, hinsert⟩
  · rw [heq]
    exact hrow
  · exact Table.lookup_insertNew_of_some hinsert hrow

omit [DecidableEq ι] in
theorem checkpoint_moved (h : TxInvariant calls s) {i : ι} {moved : Moved V E α}
    (hmoves : Moves (calls i) s.app s.sys (s.phase i) moved) {key : String × ℤ}
    (hkey : ExactlyOnce key s) {stored : OperationOutputRow}
    (hstored : moved.sys.operationOutputs.lookup key = some stored) :
    ∃ row, moved.app.transactionOutputs.lookup key = some row ∧ row.output = stored.output ∧
      row.error = stored.error := by
  have hold (hbefore : s.sys.operationOutputs.lookup key = some stored) :
      ∃ row, moved.app.transactionOutputs.lookup key = some row ∧ row.output = stored.output ∧
        row.error = stored.error := by
    obtain ⟨row, hrow, hsame⟩ := hkey.checkpoint stored hbefore
    exact ⟨row, lookup_moved hmoves hrow, hsame⟩
  rcases hmoves.sysChange with heq | ⟨result, completedAt, next, hphase, heq⟩
  · rw [heq] at hstored
    exact hold hstored
  · rw [heq] at hstored
    rcases lookup_recordOperationResult hstored with hbefore | ⟨rfl, rfl⟩
    · exact hold hbefore
    · have hbacked := h.phases i
      rw [hphase] at hbacked
      obtain ⟨hresult, row, hrow, hsame⟩ := hbacked
      rw [← hresult] at hrow
      exact ⟨row, lookup_moved hmoves hrow, hsame⟩

omit [DecidableEq ι] in
/-- An effect appears together with the row of its step, so there is no second one. -/
theorem effects_moved {i : ι} {moved : Moved V E α} {key : String × ℤ}
    (hmoves : Moves (calls i) s.app s.sys (s.phase i) moved) (hkey : ExactlyOnce key s) :
    let effects := s.effects ++ (moved.effect.map fun change ↦ ((calls i).key, change)).toList
    (effectsOf key effects).length ≤ 1 ∧
      (effectsOf key effects ≠ [] → (moved.app.transactionOutputs.lookup key).isSome) ∧
      ∀ row, moved.app.transactionOutputs.lookup key = some row → row.OneResult := by
  intro effects
  rcases hmoves.appChange with ⟨hnone, heq⟩ | ⟨row, hrow, hone, hinsert⟩
  · have hsame : effects = s.effects := by simp [effects, hnone]
    rw [hsame, heq]
    exact ⟨hkey.effects, hkey.committed, hkey.oneResult⟩
  · by_cases hcase : (calls i).key = key
    · -- the row is new, so no run of this body was committed before
      have hlookup : moved.app.transactionOutputs.lookup key = some row := by
        rw [← hcase, ← hrow]
        exact Table.lookup_insertNew_self hinsert
      have hbefore : effectsOf key s.effects = [] := by
        by_contra hne
        obtain ⟨old, hold⟩ := Option.isSome_iff_exists.mp (hkey.committed hne)
        obtain ⟨hmem, hid⟩ := s.app.transactionOutputs.lookup_eq_some.mp hold
        exact (Table.insertNew_eq_some.mp hinsert).1 old hmem (hid.trans (hcase.symm.trans hrow.symm))
      refine ⟨?_, fun _ ↦ by rw [hlookup]; rfl, ?_⟩
      · have hnew : (effectsOf key effects).length ≤
            (moved.effect.map fun change ↦ ((calls i).key, change)).toList.length := by
          simp only [effectsOf, effects, List.filter_append] at hbefore ⊢
          rw [hbefore, List.nil_append]
          exact List.length_filter_le _ _
        exact hnew.trans Option.length_toList_le
      · intro found hfound
        rw [hlookup] at hfound
        rw [← Option.some.inj hfound]
        exact hone
    · have hsame : effectsOf key effects = effectsOf key s.effects := by
        cases heffect : moved.effect with
        | none => simp [effects, heffect]
        | some change => simp [effectsOf, effects, heffect, hcase]
      have hlookup : moved.app.transactionOutputs.lookup key =
          s.app.transactionOutputs.lookup key := by
        rw [Table.lookup_insertNew hinsert]
        exact if_neg fun heq ↦ hcase (hrow.symm.trans heq)
      rw [hsame, hlookup]
      exact ⟨hkey.effects, hkey.committed, hkey.oneResult⟩

theorem txInvariant_step {action : TxAction ι V E α} (h : TxInvariant calls s)
    (hstep : (txSystem env calls).step s action = some s') : TxInvariant calls s' := by
  cases action with
  | others data statuses =>
    cases hstep
    exact ⟨fun i ↦ ⟨(h.steps i).effects, (h.steps i).committed, (h.steps i).oneResult,
      (h.steps i).checkpoint⟩, fun i ↦ backed_mono (fun _ hrow ↦ hrow) (h.phases i)⟩
  | executor i action =>
    obtain ⟨moved, hmoved, rfl⟩ := Option.map_eq_some_iff.mp hstep
    have hmoves := moves_executorStep hmoved
    constructor
    · intro j
      obtain ⟨heffects, hcommitted, hone⟩ := effects_moved hmoves (h.steps j)
      exact ⟨heffects, hcommitted, hone, fun _ ↦ checkpoint_moved h hmoves (h.steps j)⟩
    · intro j
      by_cases hj : j = i
      · subst hj
        simp only [Function.update_self]
        exact hmoves.backed (h.steps j).oneResult (h.phases j)
      · simp only [Function.update_of_ne hj]
        exact backed_mono (fun _ hrow ↦ lookup_moved hmoves hrow) (h.phases j)

/-- No executor has begun, and the steps have no rows yet. -/
structure Untouched (calls : ι → TxCall) (s : TxState ι V E α) : Prop where
  phase : ∀ i, s.phase i = .start
  effects : s.effects = []
  app : ∀ i, s.app.transactionOutputs.lookup (calls i).key = none
  sys : ∀ i, s.sys.operationOutputs.lookup (calls i).key = none

omit [DecidableEq ι] in
theorem txInvariant_of_untouched (h : Untouched calls s) : TxInvariant calls s where
  steps i :=
    { effects := by simp [effectsOf, h.effects]
      committed := fun hne ↦ absurd (by simp [effectsOf, h.effects]) hne
      oneResult := by simp [h.app i]
      checkpoint := by simp [h.sys i] }
  phases i := by
    rw [h.phase i]
    trivial

/-- For any executors and any order of their steps, restarts, retries and lost acknowledgements,
the effects of a transaction's body are committed at most once, and the two rows of the step never
disagree. -/
theorem transaction_exactlyOnce (env : TxEnv V E) (calls : ι → TxCall) (s s' : TxState ι V E α)
    (actions : List (TxAction ι V E α)) (hstart : Untouched calls s)
    (hrun : (txSystem env calls).run s actions = some s') (i : ι) :
    (effectsOf (calls i).key s'.effects).length ≤ 1 ∧
      ∀ row stored, s'.app.transactionOutputs.lookup (calls i).key = some row →
        s'.sys.operationOutputs.lookup (calls i).key = some stored →
        stored.output = row.output ∧ stored.error = row.error := by
  have hinvariant : TxInvariant calls s' :=
    (txSystem env calls).reaches_invariant (fun _ _ _ ↦ txInvariant_step)
      (txInvariant_of_untouched hstart) ⟨actions, hrun⟩
  refine ⟨(hinvariant.steps i).effects, fun row stored hrow hstored ↦ ?_⟩
  obtain ⟨row', hrow', houtput, herror⟩ := (hinvariant.steps i).checkpoint stored hstored
  rw [hrow] at hrow'
  cases hrow'
  exact ⟨houtput.symm, herror.symm⟩

end System

/-! ## Two executors and a lost acknowledgement -/

/-- A connection that breaks is retried; conflicts, cancellations and unexpected steps are raised.
The texts are those of the portable serializer. -/
def dbosExceptions : Exceptions DBOSError where
  ofDBOS := id
  handling
    | .exception "server closed the connection unexpectedly" => .retry
    | .workflowConflictID _ => .propagate
    | .workflowCancelled _ => .propagate
    | .unexpectedStep .. => .propagate
    | _ => .record
  serializeException
    | .uniqueViolation _ => .ok ("\x7b\"name\":\"IntegrityError\",\"message\":" ++
        "\"duplicate key value violates unique constraint\",\"code\":null\x7d", portableName)
    | _ => .ok ("\x7b\"name\":\"Exception\",\"message\":\"\",\"code\":null\x7d", portableName)
  deserializeException text _ := .ok (.exception text)

def incrementEnv : TxEnv (Option Bool) DBOSError where
  serializers := portableBooleanSerializers
  exceptions := dbosExceptions

/-- Two executors of the step that increments a counter. -/
def increment (executor : Bool) : TxCall where
  workflowId := "wf"
  functionId := 1
  transactionName := "increment"
  executorId := some (if executor then "e1" else "e2")

def beforeIncrement : TxState Bool (Option Bool) DBOSError ℕ where
  app := { data := 0, transactionOutputs := Table.empty }
  sys :=
    { SystemDatabase.empty with
      workflowStatus := Table.empty.insertIgnore
        { workflowUuid := "wf", status := .pending, name := "f" } }
  phase _ := .start
  effects := []

/-- The first executor's commit is applied but not acknowledged, and the second executor, which had
found no checkpoint, records the step from the row that the first one left. -/
def incrementRun : List (TxAction Bool (Option Bool) DBOSError ℕ) :=
  let body (counter : ℕ) : Except DBOSError (Option Bool × ℕ) := .ok (some true, counter + 1)
  [.executor true (.check 10), .executor false (.check 11),
    .executor true
      (.attempt body (.unacknowledged (.exception "server closed the connection unexpectedly")) 12),
    .executor false (.attempt body .acknowledged 13), .executor false (.recordStep .acknowledged),
    .executor false (.leave none)]

theorem untouched_beforeIncrement : Untouched increment beforeIncrement where
  phase _ := rfl
  effects := rfl
  app := by decide
  sys := by decide

theorem increment_exactlyOnce :
    ∃ s, (txSystem incrementEnv increment).run beforeIncrement incrementRun = some s ∧
      s.app.data = 1 ∧ (effectsOf ("wf", 1) s.effects).length ≤ 1 := by
  refine ⟨_, rfl, rfl, ?_⟩
  exact (transaction_exactlyOnce incrementEnv increment beforeIncrement _ incrementRun
    untouched_beforeIncrement rfl true).1

end DBOSModel.Core

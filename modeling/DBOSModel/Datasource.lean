import DBOSModel.Core.Transaction

/-!
# Transaction steps of a datasource

`run_tx_step` and `run_tx_step_async` of `dbos/_datasource.py`, called in a workflow, with
`record_step_result` and `check_existing_result` of `invoke_step` in `dbos/_core.py` around them. An
executor looks up the checkpoint, then `datasource_outputs`, and then runs the body in a loop; unlike
the loop of `invoke_tx` it does not look again. A repeated or a losing attempt therefore reaches its
insert, the insert violates the primary key, and that exception takes the same way as an exception
of the body: `_record_error` violates the key once more, and what it raises becomes the outcome of
the step and is checkpointed, although another attempt has committed an output.

The two versions have one body, and differ in the check of the function and in `then`. `Immediate`
calls `record_step_result` once. `Pending` calls it inside a `try`: what it raises while it records a
value is given to a second call, which checkpoints that exception as the error of the step.
-/

namespace DBOSModel.Datasource

open Relational SysDb DBOSModel.Core

/-! ## The datasource -/

/-- A row of `datasource_outputs`. -/
structure DatasourceOutputRow where
  workflowId : String
  stepId : ℤ
  output : Option String := none
  error : Option String := none
  serialization : Option String := none
deriving DecidableEq

def DatasourceOutputRow.key (row : DatasourceOutputRow) : String × ℤ :=
  (row.workflowId, row.stepId)

/-- The tables of the application, and `datasource_outputs` beside them. -/
structure DatasourceDatabase (α : Type) where
  data : α
  datasourceOutputs : Table DatasourceOutputRow.key

/-- The serializers and exceptions of the datasource and of the system database. How the handlers
tell exceptions apart is the same for both, and is read from the datasource. -/
structure DsEnv (V E : Type) where
  datasource : TxEnv V E
  system : TxEnv V E

/-- Which of the two classes runs the step. -/
inductive Variant where
  | sync
  | async
deriving DecidableEq

/-- One call in a workflow. -/
structure TxStepCall where
  variant : Variant
  isCoroutineFunction : Bool
  name : String
  workflowId : String
  stepId : ℤ
  executorId : Option String

namespace TxStepCall

variable (call : TxStepCall)

def key : String × ℤ := (call.workflowId, call.stepId)

/-- The check of the function, which is where the two versions differ. -/
def rejects : Option DBOSError :=
  match call.variant with
  | .sync =>
    if call.isCoroutineFunction then
      some (.dbosException ("Function " ++ call.name ++
        " is a coroutine; use AsyncDatasource.run_tx_step_async instead"))
    else none
  | .async =>
    if call.isCoroutineFunction then none
    else some (.dbosException ("Function " ++ call.name ++
      " must be a coroutine function for AsyncDatasource"))

/-- `step_output`. -/
def stepOutput (startedAt : ℤ) (output error serialization : Option String) :
    OperationResultInternal where
  workflowUuid := call.workflowId
  functionId := call.stepId
  functionName := call.name
  startedAtEpochMs := startedAt
  output := output
  error := error
  serialization := serialization

end TxStepCall

/-! ## One executor -/

section Executor

variable {V E α : Type}

/-- How a step ends for the workflow. -/
inductive StepOutcome (V E : Type) where
  | returned (value : V)
  | raised (error : E)
  /-- The step has no outcome: it is not run, its checkpoint belongs to another executor, or what
  ends it is no `Exception` or a cancellation. -/
  | interrupted (error : E)

inductive DsPhase (V E : Type) where
  | start
  /-- In `_body`, before the read of `datasource_outputs`. -/
  | checking (startedAt : ℤ)
  | looping (startedAt : ℤ)
  /-- In a handler, before `_record_error`. -/
  | recordingError (startedAt : ℤ) (error : E) (text serialization : String)
  /-- In `record_operation_result`, with the completion time it has read, and the outcome of the
  step if it returns. -/
  | recordingStep (result : OperationResultInternal) (completedAt : ℤ) (outcome : StepOutcome V E)
  | finished (outcome : StepOutcome V E)

/-- How an attempt of `record_operation_result` ends. -/
inductive StepFate (E : Type) where
  /-- With an exception that `db_retry` retries, before or after the commit. -/
  | retried (applied : Bool)
  /-- With any other exception of the database. -/
  | failed (error : E) (applied : Bool)
  | acknowledged

/-- The steps of an executor, with the outcome of each call to a database. A read that is retried is
one step. -/
inductive DsAction (V E α : Type) where
  | checkStep (failure : Option E) (startedAt : ℤ)
  | checkDatasource (failure : Option E) (completedAt : ℤ)
  | attempt (body : α → Except E (V × α)) (commit : Commit E) (completedAt : ℤ)
  | recordError (commit : Commit E) (completedAt : ℤ)
  /-- With the completion time of a second call. -/
  | recordStep (fate : StepFate E) (completedAt : ℤ)
  | restart

/-- `check_existing_result` on a checkpoint. -/
def replayStep (env : DsEnv V E) (recorded : RecordedResult) : StepOutcome V E :=
  match recorded.error, recorded.output with
  | some text, _ =>
    match env.system.exceptions.deserializeException text recorded.serialization with
    | .ok error => .raised error
    | .error error => .raised error
  | none, some text =>
    match env.system.serializers.deserializeValue (some text) recorded.serialization with
    | .ok value => .returned value
    | .error error => .raised (env.datasource.exceptions.ofDBOS error)
  | none, none =>
    .raised (env.datasource.exceptions.ofDBOS (.exception "Output and error are both None"))

/-- `_replay_recorded`. -/
def replayRecorded (env : DsEnv V E) (row : DatasourceOutputRow) : Except E V :=
  match truthy row.error, row.output with
  | some text, _ =>
    (env.datasource.exceptions.deserializeException text row.serialization).bind .error
  | none, some text =>
    (env.datasource.serializers.deserializeValue (some text) row.serialization).mapError
      env.datasource.exceptions.ofDBOS
  | none, none => .error (env.datasource.exceptions.ofDBOS
      (.dbosException "Datasource recorded output and error are both None"))

/-- `record_step_result` with an exception; `outcome` is how the step ends once it is recorded. -/
def concludeError (env : DsEnv V E) (call : TxStepCall) (startedAt completedAt : ℤ) (error : E)
    (outcome : StepOutcome V E) : DsPhase V E :=
  match env.datasource.exceptions.handling error with
  | .propagate => .finished (.interrupted error)
  | _ =>
    match env.system.exceptions.serializeException error with
    | .error error' => .finished (.raised error')
    | .ok (text, serialization) =>
      .recordingStep (call.stepOutput startedAt none (some text) (some serialization)) completedAt
        outcome

/-- The end of `then` where `record_step_result` raises while it records a value: `Pending` calls it
again with the exception. -/
def afterFailure (env : DsEnv V E) (call : TxStepCall) (startedAt completedAt : ℤ) (error : E)
    (outcome : StepOutcome V E) : DsPhase V E :=
  match call.variant with
  | .sync => .finished outcome
  | .async => concludeError env call startedAt completedAt error outcome

/-- `record_step_result` once the step function has ended. -/
def conclude (env : DsEnv V E) (call : TxStepCall) (startedAt completedAt : ℤ)
    (outcome : Except E V) : DsPhase V E :=
  match outcome with
  | .ok value =>
    match env.system.serializers.serializeValue value .default with
    | .error error =>
      let raised := env.datasource.exceptions.ofDBOS error
      afterFailure env call startedAt completedAt raised (.raised raised)
    | .ok (text, serialization) =>
      .recordingStep (call.stepOutput startedAt (some text) none (some serialization)) completedAt
        (.returned value)
  | .error error => concludeError env call startedAt completedAt error (.raised error)

/-- The handlers of the loop. -/
def handleAttempt (env : DsEnv V E) (call : TxStepCall) (startedAt completedAt : ℤ) (error : E) :
    DsPhase V E :=
  match env.datasource.exceptions.handling error with
  | .retry => .looping startedAt
  | .propagate => .finished (.interrupted error)
  | .record =>
    match env.datasource.exceptions.serializeException error with
    | .error error' => conclude env call startedAt completedAt (.error error')
    | .ok (text, serialization) => .recordingError startedAt error text serialization

/-- `_record_result`: a plain insert. -/
def recordResult (row : DatasourceOutputRow) (ds : DatasourceDatabase α) :
    Except DBOSError (DatasourceDatabase α) :=
  match ds.datasourceOutputs.insertNew row with
  | none => .error (.uniqueViolation "datasource_outputs")
  | some outputs => .ok { ds with datasourceOutputs := outputs }

/-- The insert of `_record_error`. -/
def recordError (call : TxStepCall) (error serialization : String) :
    DatasourceDatabase α → Except DBOSError (DatasourceDatabase α) :=
  recordResult
    { workflowId := call.workflowId, stepId := call.stepId, error := some error,
      serialization := some serialization }

/-- The block under `session.begin()`: the value of the body and the database it leaves. -/
def runBody (env : DsEnv V E) (call : TxStepCall) (body : α → Except E (V × α))
    (ds : DatasourceDatabase α) : Except E (V × DatasourceDatabase α) := do
  let (value, data) ← body ds.data
  let (serialized, serialization) ←
    (env.datasource.serializers.serializeValue value .default).mapError
      env.datasource.exceptions.ofDBOS
  let ds' ← (recordResult
    { workflowId := call.workflowId, stepId := call.stepId, output := some serialized,
      serialization := some serialization }
    { ds with data := data }).mapError env.datasource.exceptions.ofDBOS
  pure (value, ds')

/-- Both databases after a step, and the next phase. -/
structure Moved (V E α : Type) where
  ds : DatasourceDatabase α
  sys : SystemDatabase
  phase : DsPhase V E

/-- `check_existing_result`, which fails with an error that is not retried, or reads. -/
def checkStep (env : DsEnv V E) (call : TxStepCall) (failure : Option E) (startedAt : ℤ)
    (ds : DatasourceDatabase α) (sys : SystemDatabase) : Moved V E α :=
  match call.rejects, failure with
  | some error, _ =>
    { ds, sys, phase := .finished (.interrupted (env.datasource.exceptions.ofDBOS error)) }
  | none, some error => { ds, sys, phase := .finished (.raised error) }
  | none, none =>
    match checkOperationExecutionTxn call.workflowId call.stepId call.name sys with
    | .error error =>
      { ds, sys, phase := .finished (.interrupted (env.datasource.exceptions.ofDBOS error)) }
    | .ok (some recorded) => { ds, sys, phase := .finished (replayStep env recorded) }
    | .ok none => { ds, sys, phase := .checking startedAt }

/-- `_check_execution_with_retry`, which fails with an error that is not retried, or reads. -/
def checkDatasource (env : DsEnv V E) (call : TxStepCall) (startedAt : ℤ) (failure : Option E)
    (completedAt : ℤ) (ds : DatasourceDatabase α) (sys : SystemDatabase) : Moved V E α :=
  match failure, ds.datasourceOutputs.lookup call.key with
  | some error, _ => { ds, sys, phase := conclude env call startedAt completedAt (.error error) }
  | none, some row =>
    { ds, sys, phase := conclude env call startedAt completedAt (replayRecorded env row) }
  | none, none => { ds, sys, phase := .looping startedAt }

/-- One transaction of the loop. -/
def attemptStep (env : DsEnv V E) (call : TxStepCall) (startedAt : ℤ) (body : α → Except E (V × α))
    (commit : Commit E) (completedAt : ℤ) (ds : DatasourceDatabase α) (sys : SystemDatabase) :
    Moved V E α :=
  match commit, runBody env call body ds with
  | .aborted error, _ => { ds, sys, phase := handleAttempt env call startedAt completedAt error }
  | _, .error error => { ds, sys, phase := handleAttempt env call startedAt completedAt error }
  | .unacknowledged error, .ok (_, ds') =>
    { ds := ds', sys, phase := handleAttempt env call startedAt completedAt error }
  | .acknowledged, .ok (value, ds') =>
    { ds := ds', sys, phase := conclude env call startedAt completedAt (.ok value) }

/-- `_record_error`; what it raises takes the place of the exception that is being handled. -/
def recordErrorStep (env : DsEnv V E) (call : TxStepCall) (startedAt : ℤ) (error : E)
    (text serialization : String) (commit : Commit E) (completedAt : ℤ)
    (ds : DatasourceDatabase α) (sys : SystemDatabase) : Moved V E α :=
  match commit, recordError call text serialization ds with
  | .aborted error', _ => { ds, sys, phase := conclude env call startedAt completedAt (.error error') }
  | _, .error error' =>
    { ds, sys
      phase := conclude env call startedAt completedAt
        (.error (env.datasource.exceptions.ofDBOS error')) }
  | .unacknowledged error', .ok ds' =>
    { ds := ds', sys, phase := conclude env call startedAt completedAt (.error error') }
  | .acknowledged, .ok ds' =>
    { ds := ds', sys, phase := conclude env call startedAt completedAt (.error error) }

/-- What `record_operation_result` raises: mostly that there is a checkpoint already. -/
def recordFailure (env : DsEnv V E) (error : DBOSError) : E × StepOutcome V E :=
  let raised := env.datasource.exceptions.ofDBOS error
  match error with
  | .assertionError _ => (raised, .raised raised)
  | _ => (raised, .interrupted raised)

/-- The end of `record_step_result` with an exception of `record_operation_result`. -/
def recordRaised (env : DsEnv V E) (call : TxStepCall) (result : OperationResultInternal)
    (completedAt : ℤ) (outcome : StepOutcome V E) (failure : E × StepOutcome V E) : DsPhase V E :=
  match outcome with
  | .returned _ => afterFailure env call result.startedAtEpochMs completedAt failure.1 failure.2
  | _ => .finished failure.2

/-- One attempt of `record_operation_result`. -/
def recordStepStep (env : DsEnv V E) (call : TxStepCall) (result : OperationResultInternal)
    (completedAt : ℤ) (outcome : StepOutcome V E) (fate : StepFate E) (completedAgain : ℤ)
    (ds : DatasourceDatabase α) (sys : SystemDatabase) : Moved V E α :=
  let ending := recordOperationResult call.executorId result completedAt sys
  match fate with
  | .retried applied =>
    { ds
      sys := if applied then ending.stateAfter sys else sys
      phase := .recordingStep result completedAt outcome }
  | .failed error applied =>
    { ds
      sys := if applied then ending.stateAfter sys else sys
      phase := recordRaised env call result completedAgain outcome (error, .raised error) }
  | .acknowledged =>
    { ds
      sys := ending.stateAfter sys
      phase :=
        match ending.result with
        | .error error =>
          recordRaised env call result completedAgain outcome (recordFailure env error)
        | .ok () => .finished outcome }

/-- One step of an executor. -/
def executorStep (env : DsEnv V E) (call : TxStepCall) (ds : DatasourceDatabase α)
    (sys : SystemDatabase) (phase : DsPhase V E) (action : DsAction V E α) :
    Option (Moved V E α) :=
  match action, phase with
  | .restart, _ => some { ds, sys, phase := .start }
  | .checkStep failure startedAt, .start => some (checkStep env call failure startedAt ds sys)
  | .checkDatasource failure completedAt, .checking startedAt =>
    some (checkDatasource env call startedAt failure completedAt ds sys)
  | .attempt body commit completedAt, .looping startedAt =>
    some (attemptStep env call startedAt body commit completedAt ds sys)
  | .recordError commit completedAt, .recordingError startedAt error text serialization =>
    some (recordErrorStep env call startedAt error text serialization commit completedAt ds sys)
  | .recordStep fate completedAgain, .recordingStep result completedAt outcome =>
    some (recordStepStep env call result completedAt outcome fate completedAgain ds sys)
  | _, _ => none

end Executor

/-! ## Any number of executors -/

section System

variable {ι V E α : Type} [DecidableEq ι]

structure DsState (ι V E α : Type) where
  ds : DatasourceDatabase α
  sys : SystemDatabase
  phase : ι → DsPhase V E

inductive SystemAction (ι V E α : Type) where
  | executor (i : ι) (action : DsAction V E α)
  /-- Other transactions change the tables of the application and the workflow statuses. -/
  | others (data : α → α)
      (statuses : Table WorkflowStatusRow.workflowUuid → Table WorkflowStatusRow.workflowUuid)

/-- The executors, each with its own call, in any order. -/
def dsSystem (env : DsEnv V E) (calls : ι → TxStepCall) :
    System (DsState ι V E α) (SystemAction ι V E α) where
  step s
    | .executor i action =>
      (executorStep env (calls i) s.ds s.sys (s.phase i) action).map fun moved ↦
        { ds := moved.ds
          sys := moved.sys
          phase := Function.update s.phase i moved.phase }
    | .others data statuses => some
        { s with
          ds := { s.ds with data := data s.ds.data }
          sys := { s.sys with workflowStatus := statuses s.sys.workflowStatus } }

end System

/-! ## Fidelity -/

section Fidelity

variable {ι V E α : Type}

/-- The value is the output with this text, up to the serializers it went through: it was written as
the text, read from it, or replayed from a checkpoint of such a value. -/
inductive Carries (env : DsEnv V E) (text : String) (serialization : Option String) : V → Prop
  | written {value : V} {name : String}
      (h : env.datasource.serializers.serializeValue value .default = .ok (text, name)) :
      Carries env text serialization value
  | read {value : V}
      (h : env.datasource.serializers.deserializeValue (some text) serialization = .ok value) :
      Carries env text serialization value
  | replayed {value value' : V} {checkpoint name : String} (h : Carries env text serialization value)
      (hwrite : env.system.serializers.serializeValue value .default = .ok (checkpoint, name))
      (hread : env.system.serializers.deserializeValue (some checkpoint) (some name) = .ok value') :
      Carries env text serialization value'

/-- If the row holds an output, the checkpoint holds that output and no error. -/
def CheckpointFits (env : DsEnv V E) (row : DatasourceOutputRow)
    (output error serialization : Option String) : Prop :=
  ∀ text, row.output = some text → error = none ∧
    ∃ value checkpoint name, Carries env text row.serialization value ∧
      env.system.serializers.serializeValue value .default = .ok (checkpoint, name) ∧
      output = some checkpoint ∧ serialization = some name

/-- If the row holds an output, the step has not ended in anything else. -/
def OutcomeFits (env : DsEnv V E) (row : DatasourceOutputRow) : StepOutcome V E → Prop
  | .returned value => ∀ text, row.output = some text → Carries env text row.serialization value
  | .raised _ => row.output = none
  | .interrupted _ => True

/-- Whenever an output is recorded in `datasource_outputs`, it is what the step's checkpoint holds
and what every executor that has ended the step has returned. -/
def Faithful (env : DsEnv V E) (calls : ι → TxStepCall) (s : DsState ι V E α) : Prop :=
  ∀ i row, s.ds.datasourceOutputs.lookup (calls i).key = some row →
    (∀ stored, s.sys.operationOutputs.lookup (calls i).key = some stored →
      CheckpointFits env row stored.output stored.error stored.serialization) ∧
    (∀ outcome, s.phase i = .finished outcome → OutcomeFits env row outcome)

/-- The row of the step holds an error. -/
def HoldsError (call : TxStepCall) (ds : DatasourceDatabase α) : Prop :=
  ∃ row, ds.datasourceOutputs.lookup call.key = some row ∧ row.output = none

/-- The exception that a transaction of the loop ends with. -/
def attemptError (env : DsEnv V E) (call : TxStepCall) (body : α → Except E (V × α))
    (commit : Commit E) (ds : DatasourceDatabase α) : Option E :=
  match commit, runBody env call body ds with
  | .aborted error, _ => some error
  | _, .error error => some error
  | .unacknowledged error, .ok _ => some error
  | .acknowledged, .ok _ => none

/-- The exception goes to `_record_error` only if it can be serialized. -/
def Recordable (env : DsEnv V E) (error : E) : Prop :=
  env.datasource.exceptions.handling error = .record →
    ∃ text name, env.datasource.exceptions.serializeException error = .ok (text, name)

/-- The serializer of the system database can write the value. -/
def Writable (env : DsEnv V E) (value : V) : Prop :=
  ∃ text name, env.system.serializers.serializeValue value .default = .ok (text, name)

/-- An output in the table can be read, and written to the system database. -/
def Readable (env : DsEnv V E) (call : TxStepCall) (ds : DatasourceDatabase α) : Prop :=
  ∀ row text, ds.datasourceOutputs.lookup call.key = some row → row.output = some text →
    ∃ value, env.datasource.serializers.deserializeValue (some text) row.serialization = .ok value ∧
      Writable env value

/-- An output in the checkpoint of the step can be read. -/
def Replayable (env : DsEnv V E) (call : TxStepCall) (sys : SystemDatabase) : Prop :=
  ∀ stored text, sys.operationOutputs.lookup call.key = some stored → stored.output = some text →
    ∃ value, env.system.serializers.deserializeValue (some text) stored.serialization = .ok value

/-- The asynchronous version can record that there is a checkpoint already, where there is one. -/
def ConflictWritable (env : DsEnv V E) (call : TxStepCall) (sys : SystemDatabase) : Prop :=
  call.variant = .async → (sys.operationOutputs.lookup call.key).isSome →
    ∃ text name, env.system.exceptions.serializeException
      (env.datasource.exceptions.ofDBOS (.workflowConflictID call.workflowId)) = .ok (text, name)

/-- Unless an error is recorded already: the lookups do not fail, and what they find can be read; the
value of the step can be written to the system database, and the exception of an attempt to the
datasource; `_record_error` runs only while there is no row, in a transaction that does not fail; and
the checkpoint is written without a failure of the database, for a workflow that exists. -/
def KeepsOutput (env : DsEnv V E) (call : TxStepCall) (ds : DatasourceDatabase α)
    (sys : SystemDatabase) (action : DsAction V E α) : Prop :=
  HoldsError call ds ∨
    match action with
    | .checkStep failure _ => failure = none ∧ Replayable env call sys
    | .checkDatasource failure _ => failure = none ∧ Readable env call ds
    | .attempt body commit _ =>
      (∀ error, attemptError env call body commit ds = some error → Recordable env error) ∧
        ∀ value ds', runBody env call body ds = .ok (value, ds') → Writable env value
    | .recordError commit _ =>
      ds.datasourceOutputs.lookup call.key = none ∧ ∀ error, commit ≠ .aborted error
    | .recordStep fate _ =>
      (∀ error applied, fate ≠ .failed error applied) ∧
        (sys.workflowStatus.lookup call.workflowId).isSome ∧ ConflictWritable env call sys
    | .restart => True

/-- The same for whatever executor takes the step. -/
def KeepsOutputs (env : DsEnv V E) (calls : ι → TxStepCall) (s : DsState ι V E α) :
    SystemAction ι V E α → Prop
  | .executor i action => KeepsOutput env (calls i) s.ds s.sys action
  | .others _ _ => True

end Fidelity

/-! ## What one step can do -/

section Steps

variable {V E α : Type} {env : DsEnv V E} {call : TxStepCall} {ds : DatasourceDatabase α}
  {sys : SystemDatabase}

/-- A row with an output has no error. -/
def OneOutcome (row : DatasourceOutputRow) : Prop :=
  ∀ text, row.output = some text → row.error = none

/-- An executor that knows the outcome of its step has it from the table, or it comes too late: there
is a checkpoint, and it is about to record that. -/
def Grounded (env : DsEnv V E) (call : TxStepCall) (ds : DatasourceDatabase α)
    (sys : SystemDatabase) : DsPhase V E → Prop
  | .recordingStep result _ outcome => result.key = call.key ∧
      ((∃ row, ds.datasourceOutputs.lookup call.key = some row ∧
        CheckpointFits env row result.output result.error result.serialization ∧
        OutcomeFits env row outcome) ∨
      (sys.operationOutputs.lookup call.key).isSome ∧ result.output = none ∧
        ∃ error, outcome = .interrupted error)
  | .finished (.interrupted _) => True
  | .finished outcome =>
      ∃ row, ds.datasourceOutputs.lookup call.key = some row ∧ OutcomeFits env row outcome
  | _ => True

/-- Where an error is recorded, an executor is free to end the step with any. -/
theorem grounded_finished_error {outcome : StepOutcome V E} (h : HoldsError call ds)
    (houtcome : ∀ value, outcome ≠ .returned value) :
    Grounded env call ds sys (.finished outcome) := by
  obtain ⟨row, hrow, hnone⟩ := h
  cases outcome with
  | returned value => exact absurd rfl (houtcome value)
  | raised error => exact ⟨row, hrow, hnone⟩
  | interrupted error => trivial

theorem grounded_concludeError {error : E} {startedAt completedAt : ℤ} {outcome : StepOutcome V E}
    (h : HoldsError call ds) (houtcome : ∀ value, outcome ≠ .returned value) :
    Grounded env call ds sys (concludeError env call startedAt completedAt error outcome) := by
  unfold concludeError
  split
  · trivial
  · split
    · exact grounded_finished_error h (by simp)
    · obtain ⟨row, hrow, hnone⟩ := h
      refine ⟨rfl, Or.inl ⟨row, hrow, ?_, ?_⟩⟩
      · intro output houtput
        rw [hnone] at houtput
        cases houtput
      · cases outcome with
        | returned value => exact absurd rfl (houtcome value)
        | raised error => exact hnone
        | interrupted error => trivial

theorem grounded_afterFailure {error : E} {startedAt completedAt : ℤ} {outcome : StepOutcome V E}
    (h : HoldsError call ds) (houtcome : ∀ value, outcome ≠ .returned value) :
    Grounded env call ds sys (afterFailure env call startedAt completedAt error outcome) := by
  unfold afterFailure
  split
  · exact grounded_finished_error h houtcome
  · exact grounded_concludeError h houtcome

theorem grounded_conclude_ok {row : DatasourceOutputRow} {value : V} {startedAt completedAt : ℤ}
    (hrow : ds.datasourceOutputs.lookup call.key = some row)
    (hcarries : ∀ text, row.output = some text → Carries env text row.serialization value)
    (hwritable : HoldsError call ds ∨ Writable env value) :
    Grounded env call ds sys (conclude env call startedAt completedAt (.ok value)) := by
  simp only [conclude]
  split
  · rename_i error hserialize
    rcases hwritable with hholds | ⟨text, name, hwrite⟩
    · exact grounded_afterFailure hholds (by simp)
    · rw [hserialize] at hwrite
      cases hwrite
  · rename_i text name hserialize
    refine ⟨rfl, Or.inl ⟨row, hrow, ?_, hcarries⟩⟩
    intro output houtput
    exact ⟨rfl, value, text, name, hcarries output houtput, hserialize, rfl, rfl⟩

theorem grounded_conclude_error {error : E} {startedAt completedAt : ℤ}
    (h : HoldsError call ds) :
    Grounded env call ds sys (conclude env call startedAt completedAt (.error error)) :=
  grounded_concludeError h (by simp)

theorem grounded_handleAttempt {startedAt completedAt : ℤ} {error : E}
    (h : HoldsError call ds ∨ Recordable env error) :
    Grounded env call ds sys (handleAttempt env call startedAt completedAt error) := by
  unfold handleAttempt
  split
  · trivial
  · trivial
  · rename_i hrecord
    split
    · rename_i error' hserialize
      rcases h with hholds | hrecordable
      · exact grounded_conclude_error hholds
      · obtain ⟨text, name, hwritten⟩ := hrecordable hrecord
        rw [hserialize] at hwritten
        cases hwritten
    · trivial

theorem recordResult_eq_ok {row : DatasourceOutputRow} {ds' : DatasourceDatabase α}
    (h : recordResult row ds = .ok ds') :
    ds.datasourceOutputs.insertNew row = some ds'.datasourceOutputs := by
  unfold recordResult at h
  split at h
  · cases h
  · rename_i outputs hinsert
    cases h
    exact hinsert

/-- A body that is about to commit has written its value. -/
theorem runBody_eq_ok {body : α → Except E (V × α)} {value : V} {ds' : DatasourceDatabase α}
    (h : runBody env call body ds = .ok (value, ds')) :
    ∃ text name, env.datasource.serializers.serializeValue value .default = .ok (text, name) ∧
      ds.datasourceOutputs.insertNew
        { workflowId := call.workflowId, stepId := call.stepId, output := some text,
          serialization := some name } = some ds'.datasourceOutputs := by
  obtain ⟨⟨value', data⟩, -, hrest⟩ := bind_eq_ok.mp h
  obtain ⟨⟨text, name⟩, hserialize, hrest⟩ := bind_eq_ok.mp hrest
  obtain ⟨inserted, hinsert, hpure⟩ := bind_eq_ok.mp hrest
  cases hpure
  have hrecord := recordResult_eq_ok (mapError_eq_ok.mp hinsert)
  exact ⟨text, name, mapError_eq_ok.mp hserialize, hrecord⟩

/-- What a step of an executor does to the two databases. -/
structure Moves (env : DsEnv V E) (call : TxStepCall) (ds : DatasourceDatabase α)
    (sys : SystemDatabase) (phase : DsPhase V E) (moved : Moved V E α) : Prop where
  /-- The row of the step is inserted at most once. -/
  dsChange : moved.ds = ds ∨
    ∃ row, row.key = call.key ∧ OneOutcome row ∧
      ds.datasourceOutputs.insertNew row = some moved.ds.datasourceOutputs
  /-- The system database is written by an executor that is recording its step. -/
  sysChange : moved.sys = sys ∨
    ∃ result completedAt outcome, phase = .recordingStep result completedAt outcome ∧
      moved.sys = (recordOperationResult call.executorId result completedAt sys).stateAfter sys

/-- A step that only goes on to another phase. -/
theorem Moves.unchanged {phase : DsPhase V E} (next : DsPhase V E) :
    Moves env call ds sys phase { ds, sys, phase := next } :=
  ⟨Or.inl rfl, Or.inl rfl⟩

theorem oneOutcome_error {workflowId text serialization : String} {stepId : ℤ} :
    OneOutcome
      { workflowId := workflowId, stepId := stepId, error := some text,
        serialization := some serialization } := by
  intro output houtput
  cases houtput

theorem moves_attemptStep (env : DsEnv V E) (call : TxStepCall) (startedAt : ℤ)
    (body : α → Except E (V × α)) (commit : Commit E) (completedAt : ℤ)
    (ds : DatasourceDatabase α) (sys : SystemDatabase) :
    Moves env call ds sys (.looping startedAt)
      (attemptStep env call startedAt body commit completedAt ds sys) := by
  unfold attemptStep
  split
  · exact Moves.unchanged _
  · exact Moves.unchanged _
  · rename_i hbody
    obtain ⟨text, name, -, hinsert⟩ := runBody_eq_ok hbody
    exact ⟨Or.inr ⟨_, rfl, fun _ _ ↦ rfl, hinsert⟩, Or.inl rfl⟩
  · rename_i hbody
    obtain ⟨text, name, -, hinsert⟩ := runBody_eq_ok hbody
    exact ⟨Or.inr ⟨_, rfl, fun _ _ ↦ rfl, hinsert⟩, Or.inl rfl⟩

theorem moves_recordErrorStep (env : DsEnv V E) (call : TxStepCall) (startedAt : ℤ) (error : E)
    (text serialization : String) (commit : Commit E) (completedAt : ℤ)
    (ds : DatasourceDatabase α) (sys : SystemDatabase) :
    Moves env call ds sys (.recordingError startedAt error text serialization)
      (recordErrorStep env call startedAt error text serialization commit completedAt ds sys) := by
  unfold recordErrorStep
  split
  · exact Moves.unchanged _
  · exact Moves.unchanged _
  · rename_i hrecord
    exact ⟨Or.inr ⟨_, rfl, oneOutcome_error, recordResult_eq_ok hrecord⟩, Or.inl rfl⟩
  · rename_i hrecord
    exact ⟨Or.inr ⟨_, rfl, oneOutcome_error, recordResult_eq_ok hrecord⟩, Or.inl rfl⟩

theorem moves_executorStep {phase : DsPhase V E} {action : DsAction V E α} {moved : Moved V E α}
    (h : executorStep env call ds sys phase action = some moved) :
    Moves env call ds sys phase moved := by
  unfold executorStep at h
  split at h
  · cases h
    exact Moves.unchanged _
  · cases h
    unfold checkStep
    split
    · exact Moves.unchanged _
    · exact Moves.unchanged _
    · split
      · exact Moves.unchanged _
      · exact Moves.unchanged _
      · exact Moves.unchanged _
  · cases h
    unfold checkDatasource
    split
    · exact Moves.unchanged _
    · exact Moves.unchanged _
    · exact Moves.unchanged _
  · cases h
    exact moves_attemptStep ..
  · cases h
    exact moves_recordErrorStep ..
  · rename_i fate completedAgain result completedAt outcome
    cases h
    cases fate with
    | retried applied =>
      cases applied with
      | false => exact ⟨Or.inl rfl, Or.inl rfl⟩
      | true => exact ⟨Or.inl rfl, Or.inr ⟨result, completedAt, outcome, rfl, rfl⟩⟩
    | failed error applied =>
      cases applied with
      | false => exact ⟨Or.inl rfl, Or.inl rfl⟩
      | true => exact ⟨Or.inl rfl, Or.inr ⟨result, completedAt, outcome, rfl, rfl⟩⟩
    | acknowledged => exact ⟨Or.inl rfl, Or.inr ⟨result, completedAt, outcome, rfl, rfl⟩⟩
  · cases h

/-! ### The next phase -/

/-- A replayed checkpoint is the recorded output, or there is none. -/
theorem grounded_replayStep {row : DatasourceOutputRow} {recorded : RecordedResult}
    (hrow : ds.datasourceOutputs.lookup call.key = some row)
    (hfits : CheckpointFits env row recorded.output recorded.error recorded.serialization)
    (hreadable : HoldsError call ds ∨ ∀ text, recorded.output = some text →
      ∃ value, env.system.serializers.deserializeValue (some text) recorded.serialization =
        .ok value) :
    Grounded env call ds sys (.finished (replayStep env recorded)) := by
  have hraised (error : E) (h : row.output = none) :
      Grounded env call ds sys (.finished (.raised error)) := ⟨row, hrow, h⟩
  cases houtput : row.output with
  | none =>
    unfold replayStep
    split
    · split
      · exact hraised _ houtput
      · exact hraised _ houtput
    · split
      · refine ⟨row, hrow, fun text htext ↦ ?_⟩
        rw [houtput] at htext
        cases htext
      · exact hraised _ houtput
    · exact hraised _ houtput
  | some text =>
    obtain ⟨herror, written, checkpoint, name, hcarries, hwrite, hsame, hname⟩ := hfits text houtput
    have hread : ∃ value, env.system.serializers.deserializeValue (some checkpoint)
        recorded.serialization = .ok value := by
      rcases hreadable with ⟨row', hrow', hnone⟩ | hreadable
      · rw [hrow] at hrow'
        cases hrow'
        rw [houtput] at hnone
        cases hnone
      · exact hreadable checkpoint hsame
    obtain ⟨value, hread⟩ := hread
    have hreplay : replayStep env recorded = .returned value := by
      simp only [replayStep, herror, hsame, hread]
    rw [hreplay]
    refine ⟨row, hrow, ?_⟩
    intro text' htext'
    rw [houtput] at htext'
    cases htext'
    rw [hname] at hread
    exact hcarries.replayed hwrite hread

theorem grounded_checkStep {failure : Option E}
    (hsys : ∀ stored, sys.operationOutputs.lookup call.key = some stored →
      ∃ row, ds.datasourceOutputs.lookup call.key = some row ∧
        CheckpointFits env row stored.output stored.error stored.serialization)
    (hguard : HoldsError call ds ∨ failure = none ∧ Replayable env call sys) (startedAt : ℤ) :
    Grounded env call (checkStep env call failure startedAt ds sys).ds sys
      (checkStep env call failure startedAt ds sys).phase := by
  unfold checkStep
  split
  · trivial
  · rcases hguard with hholds | ⟨hfailure, -⟩
    · exact grounded_finished_error hholds (by simp)
    · cases hfailure
  · split
    · trivial
    · rename_i recorded hcheck
      obtain ⟨stored, hstored, houtput, herror, hserialization⟩ := exists_stored_of_check hcheck
      obtain ⟨row, hrow, hfits⟩ := hsys stored hstored
      rw [← houtput, ← herror, ← hserialization] at hfits
      refine grounded_replayStep hrow hfits (hguard.imp_right fun h text htext ↦ ?_)
      rw [hserialization]
      exact h.2 stored text hstored (houtput ▸ htext)
    · trivial

/-- A row that is replayed is an error, or an output that can be read. -/
theorem grounded_conclude_replay {row : DatasourceOutputRow} {startedAt completedAt : ℤ}
    (hrow : ds.datasourceOutputs.lookup call.key = some row) (hone : OneOutcome row)
    (hreadable : HoldsError call ds ∨ Readable env call ds) :
    Grounded env call ds sys
      (conclude env call startedAt completedAt (replayRecorded env row)) := by
  cases houtput : row.output with
  | none =>
    have hholds : HoldsError call ds := ⟨row, hrow, houtput⟩
    cases hreplay : replayRecorded env row with
    | error error => exact grounded_conclude_error hholds
    | ok value =>
      refine grounded_conclude_ok hrow ?_ (Or.inl hholds)
      intro text htext
      rw [houtput] at htext
      cases htext
  | some text =>
    have hread : ∃ value, env.datasource.serializers.deserializeValue (some text)
        row.serialization = .ok value ∧ Writable env value := by
      rcases hreadable with ⟨row', hrow', hnone⟩ | hreadable
      · rw [hrow] at hrow'
        cases hrow'
        rw [houtput] at hnone
        cases hnone
      · exact hreadable row text hrow houtput
    obtain ⟨value, hread, hwritable⟩ := hread
    have hreplay : replayRecorded env row = .ok value := by
      simp only [replayRecorded, hone text houtput, truthy, Option.filter_none, houtput, hread]
      rfl
    rw [hreplay]
    refine grounded_conclude_ok hrow ?_ (Or.inr hwritable)
    intro output houtput'
    rw [houtput] at houtput'
    cases houtput'
    exact .read hread

theorem grounded_attemptStep {startedAt : ℤ} {body : α → Except E (V × α)} {commit : Commit E}
    {completedAt : ℤ}
    (hguard : HoldsError call ds ∨
      (∀ error, attemptError env call body commit ds = some error → Recordable env error) ∧
        ∀ value ds', runBody env call body ds = .ok (value, ds') → Writable env value) :
    Grounded env call (attemptStep env call startedAt body commit completedAt ds sys).ds sys
      (attemptStep env call startedAt body commit completedAt ds sys).phase := by
  unfold attemptStep
  split
  · exact grounded_handleAttempt (hguard.imp_right fun h ↦ h.1 _ rfl)
  · rename_i error hcommit hbody
    refine grounded_handleAttempt (hguard.imp_right fun h ↦ h.1 error ?_)
    simp only [attemptError, hbody]
  · rename_i error value ds' hbody
    obtain ⟨text, name, -, hinsert⟩ := runBody_eq_ok hbody
    rcases hguard with ⟨row, hrow, hnone⟩ | ⟨hrecordable, -⟩
    · exact grounded_handleAttempt
        (Or.inl ⟨row, Table.lookup_insertNew_of_some hinsert hrow, hnone⟩)
    · refine grounded_handleAttempt (Or.inr (hrecordable error ?_))
      simp only [attemptError, hbody]
  · rename_i value ds' hbody
    obtain ⟨text, name, hserialize, hinsert⟩ := runBody_eq_ok hbody
    have hwritable : HoldsError call ds' ∨ Writable env value := by
      rcases hguard with ⟨row, hrow, hnone⟩ | ⟨-, hwritable⟩
      · exact Or.inl ⟨row, Table.lookup_insertNew_of_some hinsert hrow, hnone⟩
      · exact Or.inr (hwritable value ds' hbody)
    refine grounded_conclude_ok (Table.lookup_insertNew_self hinsert) ?_ hwritable
    intro output houtput
    cases houtput
    exact .written hserialize

/-- The error that ends the step is recorded, provided that no output is and that the insert does
not fail. -/
theorem grounded_recordErrorStep {startedAt : ℤ} {error : E} {text serialization : String}
    {commit : Commit E} {completedAt : ℤ}
    (hguard : HoldsError call ds ∨
      ds.datasourceOutputs.lookup call.key = none ∧ ∀ error, commit ≠ .aborted error) :
    Grounded env call
      (recordErrorStep env call startedAt error text serialization commit completedAt ds sys).ds sys
      (recordErrorStep env call startedAt error text serialization commit completedAt ds
        sys).phase := by
  unfold recordErrorStep
  split
  · rename_i error'
    rcases hguard with hholds | ⟨-, hcommit⟩
    · exact grounded_conclude_error hholds
    · exact absurd rfl (hcommit error')
  · rename_i hrecord
    rcases hguard with hholds | ⟨hnone, -⟩
    · exact grounded_conclude_error hholds
    · have hfresh : ds.datasourceOutputs.lookup call.key = none := hnone
      obtain ⟨outputs, hinsert⟩ := Table.exists_insertNew (r := (⟨call.workflowId, call.stepId, none,
        some text, some serialization⟩ : DatasourceOutputRow)) ds.datasourceOutputs hfresh
      simp only [recordError, recordResult, hinsert] at hrecord
      cases hrecord
  · rename_i hrecord
    exact grounded_conclude_error
      ⟨_, Table.lookup_insertNew_self (recordResult_eq_ok hrecord), rfl⟩
  · rename_i hrecord
    exact grounded_conclude_error
      ⟨_, Table.lookup_insertNew_self (recordResult_eq_ok hrecord), rfl⟩

/-- A checkpoint cannot be written for a workflow that exists only if there is one already. -/
theorem conflict_of_recordOperationResultTxn {executorId : Option String}
    {result : OperationResultInternal} {completedAt : ℤ} {error : DBOSError}
    (hone : result.output = none ∨ result.error = none)
    (hworkflow : (sys.workflowStatus.lookup result.workflowUuid).isSome)
    (hcompleted : ∀ stored, sys.operationOutputs.lookup result.key = some stored →
      stored.completedAtEpochMs.isSome)
    (h : recordOperationResultTxn executorId result completedAt sys = .error error) :
    error = .workflowConflictID result.workflowUuid ∧
      (sys.operationOutputs.lookup result.key).isSome := by
  have hnotBoth : ¬(result.error.isSome ∧ result.output.isSome) := by
    rcases hone with hone | hone
    · simp [hone]
    · simp [hone]
  obtain ⟨row, hrow⟩ := Option.isSome_iff_exists.mp hworkflow
  have hsame : (resetExecutor executorId row sys).operationOutputs = sys.operationOutputs := by
    rw [resetExecutor_frame]
  simp only [recordOperationResultTxn, if_neg hnotBoth, hrow, upsertResult, hsame] at h
  cases hstored : sys.operationOutputs.lookup result.key with
  | none =>
    obtain ⟨outputs, hinsert⟩ := Table.exists_insertNew (r := result.row completedAt)
      sys.operationOutputs hstored
    simp [hstored, hinsert] at h
  | some stored =>
    obtain ⟨time, htime⟩ := Option.isSome_iff_exists.mp (hcompleted stored hstored)
    simp only [hstored, htime, ne_eq, ite_not] at h
    split at h
    · cases h
    · cases h
      exact ⟨rfl, rfl⟩

theorem error_of_recordOperationResult {executorId : Option String}
    {result : OperationResultInternal} {completedAt : ℤ} {error : DBOSError}
    (h : (recordOperationResult executorId result completedAt sys).result = .error error) :
    recordOperationResultTxn executorId result completedAt sys = .error error := by
  unfold recordOperationResult at h
  cases hrecord : recordOperationResultTxn executorId result completedAt sys with
  | error error' =>
    rw [hrecord] at h
    cases h
    rfl
  | ok sys' =>
    rw [hrecord] at h
    cases h

/-- A checkpoint stays as it is. -/
theorem lookup_stateAfter {executorId : Option String} {result : OperationResultInternal}
    {completedAt : ℤ} {key : String × ℤ} {stored : OperationOutputRow}
    (h : sys.operationOutputs.lookup key = some stored) :
    ((recordOperationResult executorId result completedAt sys).stateAfter
      sys).operationOutputs.lookup key = some stored := by
  unfold recordOperationResult
  cases hrecord : recordOperationResultTxn executorId result completedAt sys with
  | error error => exact h
  | ok sys' =>
    rcases (lookup_recordOperationResultTxn hrecord).2 key with hsame | ⟨-, hnone, -⟩
    · exact hsame.trans h
    · rw [h] at hnone
      cases hnone

theorem grounded_recordRaised {result : OperationResultInternal} {completedAt : ℤ}
    {outcome : StepOutcome V E} {failure : E × StepOutcome V E} (h : HoldsError call ds)
    (hfailure : ∀ value, failure.2 ≠ .returned value) :
    Grounded env call ds sys (recordRaised env call result completedAt outcome failure) := by
  unfold recordRaised
  split
  · exact grounded_afterFailure h hfailure
  · exact grounded_finished_error h hfailure

/-- An executor that comes too late records nothing, and has no outcome. -/
theorem grounded_conflict {result : OperationResultInternal} {completedAt : ℤ}
    {outcome : StepOutcome V E} {workflowId : String}
    (hstored : (sys.operationOutputs.lookup call.key).isSome)
    (hworkflowId : workflowId = call.workflowId) (hwritable : ConflictWritable env call sys) :
    Grounded env call ds sys (recordRaised env call result completedAt outcome
      (recordFailure env (.workflowConflictID workflowId))) := by
  unfold recordRaised recordFailure
  split
  · unfold afterFailure
    split
    · trivial
    · rename_i hasync
      obtain ⟨text, name, hwrite⟩ := hwritable hasync hstored
      unfold concludeError
      split
      · trivial
      · rw [hworkflowId, hwrite]
        exact ⟨rfl, Or.inr ⟨hstored, rfl, _, rfl⟩⟩
  · trivial

theorem grounded_mono {ds' : DatasourceDatabase α} {sys' : SystemDatabase} {phase : DsPhase V E}
    (hds : ∀ row, ds.datasourceOutputs.lookup call.key = some row →
      ds'.datasourceOutputs.lookup call.key = some row)
    (hsys : ∀ stored, sys.operationOutputs.lookup call.key = some stored →
      sys'.operationOutputs.lookup call.key = some stored)
    (h : Grounded env call ds sys phase) : Grounded env call ds' sys' phase := by
  cases phase with
  | recordingStep result completedAt outcome =>
    obtain ⟨hkey, ⟨row, hrow, hfits⟩ | ⟨hstored, hlate⟩⟩ := h
    · exact ⟨hkey, Or.inl ⟨row, hds row hrow, hfits⟩⟩
    · obtain ⟨stored, hlookup⟩ := Option.isSome_iff_exists.mp hstored
      exact ⟨hkey, Or.inr ⟨by rw [hsys stored hlookup]; rfl, hlate⟩⟩
  | finished outcome =>
    cases outcome with
    | returned value =>
      obtain ⟨row, hrow, hfits⟩ := h
      exact ⟨row, hds row hrow, hfits⟩
    | raised error =>
      obtain ⟨row, hrow, hfits⟩ := h
      exact ⟨row, hds row hrow, hfits⟩
    | interrupted error => trivial
  | _ => trivial

theorem grounded_recordStepStep {result : OperationResultInternal} {completedAt completedAgain : ℤ}
    {outcome : StepOutcome V E} {fate : StepFate E}
    (hcompleted : ∀ stored, sys.operationOutputs.lookup call.key = some stored →
      stored.completedAtEpochMs.isSome)
    (hguard : HoldsError call ds ∨ (∀ error applied, fate ≠ .failed error applied) ∧
      (sys.workflowStatus.lookup call.workflowId).isSome ∧ ConflictWritable env call sys)
    (h : Grounded env call ds sys (.recordingStep result completedAt outcome)) :
    Grounded env call ds (recordStepStep env call result completedAt outcome fate completedAgain ds
      sys).sys (recordStepStep env call result completedAt outcome fate completedAgain ds
        sys).phase := by
  have hstays (stored : OperationOutputRow)
      (hstored : sys.operationOutputs.lookup call.key = some stored) :
      ((recordOperationResult call.executorId result completedAt sys).stateAfter
        sys).operationOutputs.lookup call.key = some stored := lookup_stateAfter hstored
  cases fate with
  | retried applied =>
    cases applied with
    | false => exact h
    | true => exact grounded_mono (fun _ hrow ↦ hrow) hstays h
  | failed error applied =>
    rcases hguard with hholds | ⟨hfate, -⟩
    · exact grounded_recordRaised hholds (by simp)
    · exact absurd rfl (hfate error applied)
  | acknowledged =>
    obtain ⟨hkey, hgrounded⟩ := h
    simp only [recordStepStep]
    split
    · rename_i error hresult
      refine grounded_mono (fun _ hrow ↦ hrow) hstays ?_
      by_cases hholds : HoldsError call ds
      · refine grounded_recordRaised hholds fun value ↦ ?_
        unfold recordFailure
        split
        · simp
        · simp
      · obtain ⟨-, hworkflow, hwritable⟩ := hguard.resolve_left hholds
        have hone : result.output = none ∨ result.error = none := by
          rcases hgrounded with ⟨row, hrow, hfits, -⟩ | ⟨-, hnone, -⟩
          · obtain ⟨text, htext⟩ := Option.ne_none_iff_exists'.mp fun h ↦ hholds ⟨row, hrow, h⟩
            exact Or.inr (hfits text htext).1
          · exact Or.inl hnone
        have hworkflowId : result.workflowUuid = call.workflowId := congrArg Prod.fst hkey
        obtain ⟨rfl, hstored⟩ := conflict_of_recordOperationResultTxn hone
          (hworkflowId ▸ hworkflow) (hkey ▸ hcompleted) (error_of_recordOperationResult hresult)
        exact grounded_conflict (hkey ▸ hstored) hworkflowId hwritable
    · rcases hgrounded with ⟨row, hrow, -, hfits⟩ | ⟨-, -, error, rfl⟩
      · cases outcome with
        | returned value => exact ⟨row, hrow, hfits⟩
        | raised error => exact ⟨row, hrow, hfits⟩
        | interrupted error => trivial
      · trivial

/-- The next phase of an executor is grounded in the tables it leaves. -/
theorem grounded_executorStep {phase : DsPhase V E} {action : DsAction V E α}
    {moved : Moved V E α}
    (hrows : ∀ row, ds.datasourceOutputs.lookup call.key = some row → OneOutcome row)
    (hsys : ∀ stored, sys.operationOutputs.lookup call.key = some stored →
      stored.completedAtEpochMs.isSome ∧
        ∃ row, ds.datasourceOutputs.lookup call.key = some row ∧
          CheckpointFits env row stored.output stored.error stored.serialization)
    (hphase : Grounded env call ds sys phase) (hguard : KeepsOutput env call ds sys action)
    (h : executorStep env call ds sys phase action = some moved) :
    Grounded env call moved.ds moved.sys moved.phase := by
  unfold executorStep at h
  split at h
  · cases h
    trivial
  · rename_i failure startedAt
    cases h
    have hunchanged : (checkStep env call failure startedAt ds sys).sys = sys := by
      unfold checkStep
      split
      · rfl
      · rfl
      · split
        · rfl
        · rfl
        · rfl
    rw [hunchanged]
    exact grounded_checkStep (fun stored hstored ↦ (hsys stored hstored).2) hguard startedAt
  · rename_i failure completedAt startedAt
    cases h
    unfold checkDatasource
    split
    · rcases hguard with hholds | ⟨hfailure, -⟩
      · exact grounded_conclude_error hholds
      · cases hfailure
    · rename_i row hrow
      exact grounded_conclude_replay hrow (hrows row hrow) (hguard.imp_right And.right)
    · trivial
  · rename_i body commit completedAt startedAt
    cases h
    have hunchanged : (attemptStep env call startedAt body commit completedAt ds sys).sys = sys := by
      unfold attemptStep
      split
      · rfl
      · rfl
      · rfl
      · rfl
    rw [hunchanged]
    exact grounded_attemptStep hguard
  · rename_i commit completedAt startedAt error text serialization
    cases h
    have hunchanged : (recordErrorStep env call startedAt error text serialization commit
        completedAt ds sys).sys = sys := by
      unfold recordErrorStep
      split
      · rfl
      · rfl
      · rfl
      · rfl
    rw [hunchanged]
    exact grounded_recordErrorStep hguard
  · rename_i fate completedAgain result completedAt outcome
    cases h
    have hunchanged : (recordStepStep env call result completedAt outcome fate completedAgain ds
        sys).ds = ds := by
      cases fate with
      | retried applied => rfl
      | failed error applied => rfl
      | acknowledged => rfl
    rw [hunchanged]
    exact grounded_recordStepStep (fun stored hstored ↦ (hsys stored hstored).1) hguard hphase
  · cases h

end Steps

/-! ## Runs -/

section Runs

variable {ι V E α : Type} {env : DsEnv V E} {calls : ι → TxStepCall} {s s' : DsState ι V E α}

/-- Rows hold one outcome, checkpoints hold what the table holds, and so do the executors. -/
structure DsInvariant (env : DsEnv V E) (calls : ι → TxStepCall) (s : DsState ι V E α) : Prop where
  rows : ∀ i row, s.ds.datasourceOutputs.lookup (calls i).key = some row → OneOutcome row
  checkpoints : ∀ i stored, s.sys.operationOutputs.lookup (calls i).key = some stored →
    stored.completedAtEpochMs.isSome ∧
      ∃ row, s.ds.datasourceOutputs.lookup (calls i).key = some row ∧
        CheckpointFits env row stored.output stored.error stored.serialization
  phases : ∀ i, Grounded env (calls i) s.ds s.sys (s.phase i)

theorem lookup_moved {call : TxStepCall} {ds : DatasourceDatabase α} {sys : SystemDatabase}
    {phase : DsPhase V E} {moved : Moved V E α} (h : Moves env call ds sys phase moved)
    {key : String × ℤ} {row : DatasourceOutputRow}
    (hrow : ds.datasourceOutputs.lookup key = some row) :
    moved.ds.datasourceOutputs.lookup key = some row := by
  rcases h.dsChange with heq | ⟨_, -, -, hinsert⟩
  · rw [heq]
    exact hrow
  · exact Table.lookup_insertNew_of_some hinsert hrow

theorem checkpoint_stays {call : TxStepCall} {ds : DatasourceDatabase α} {sys : SystemDatabase}
    {phase : DsPhase V E} {moved : Moved V E α} (h : Moves env call ds sys phase moved)
    {key : String × ℤ} {stored : OperationOutputRow}
    (hstored : sys.operationOutputs.lookup key = some stored) :
    moved.sys.operationOutputs.lookup key = some stored := by
  rcases h.sysChange with heq | ⟨result, completedAt, outcome, -, heq⟩
  · rw [heq]
    exact hstored
  · rw [heq]
    exact lookup_stateAfter hstored

theorem oneOutcome_moved {call : TxStepCall} {ds : DatasourceDatabase α} {sys : SystemDatabase}
    {phase : DsPhase V E} {moved : Moved V E α} (h : Moves env call ds sys phase moved)
    {key : String × ℤ} {row : DatasourceOutputRow}
    (hrows : ∀ row, ds.datasourceOutputs.lookup key = some row → OneOutcome row)
    (hrow : moved.ds.datasourceOutputs.lookup key = some row) : OneOutcome row := by
  rcases h.dsChange with heq | ⟨inserted, -, hone, hinsert⟩
  · rw [heq] at hrow
    exact hrows row hrow
  · rw [Table.lookup_insertNew hinsert] at hrow
    split at hrow
    · rw [← Option.some.inj hrow]
      exact hone
    · exact hrows row hrow

theorem checkpoint_moved (h : DsInvariant env calls s) {i j : ι} {moved : Moved V E α}
    (hmoves : Moves env (calls i) s.ds s.sys (s.phase i) moved) {stored : OperationOutputRow}
    (hstored : moved.sys.operationOutputs.lookup (calls j).key = some stored) :
    stored.completedAtEpochMs.isSome ∧
      ∃ row, moved.ds.datasourceOutputs.lookup (calls j).key = some row ∧
        CheckpointFits env row stored.output stored.error stored.serialization := by
  cases hbefore : s.sys.operationOutputs.lookup (calls j).key with
  | some old =>
    have hsame := checkpoint_stays hmoves hbefore
    rw [hstored] at hsame
    cases hsame
    obtain ⟨hcompleted, row, hrow, hfits⟩ := h.checkpoints j stored hbefore
    exact ⟨hcompleted, row, lookup_moved hmoves hrow, hfits⟩
  | none =>
    rcases hmoves.sysChange with heq | ⟨result, completedAt, outcome, hphase, heq⟩
    · rw [heq, hbefore] at hstored
      cases hstored
    · rw [heq] at hstored
      rcases lookup_recordOperationResult hstored with hold | ⟨hkey, rfl⟩
      · rw [hbefore] at hold
        cases hold
      · have hgrounded := h.phases i
        rw [hphase] at hgrounded
        obtain ⟨hresult, ⟨row, hrow, hfits, -⟩ | ⟨hlate, -⟩⟩ := hgrounded
        · rw [← hresult, ← hkey] at hrow
          exact ⟨rfl, row, lookup_moved hmoves hrow, hfits⟩
        · rw [← hresult, ← hkey, hbefore] at hlate
          cases hlate

variable [DecidableEq ι]

theorem dsInvariant_step {action : SystemAction ι V E α} (h : DsInvariant env calls s)
    (hguard : KeepsOutputs env calls s action)
    (hstep : (dsSystem env calls).step s action = some s') : DsInvariant env calls s' := by
  cases action with
  | others data statuses =>
    cases hstep
    exact ⟨h.rows, h.checkpoints,
      fun i ↦ grounded_mono (fun _ hrow ↦ hrow) (fun _ hstored ↦ hstored) (h.phases i)⟩
  | executor i action =>
    obtain ⟨moved, hmoved, rfl⟩ := Option.map_eq_some_iff.mp hstep
    have hmoves := moves_executorStep hmoved
    refine ⟨fun j row hrow ↦ oneOutcome_moved hmoves (h.rows j) hrow,
      fun j stored hstored ↦ checkpoint_moved h hmoves hstored, fun j ↦ ?_⟩
    by_cases hj : j = i
    · subst hj
      simp only [Function.update_self]
      exact grounded_executorStep (h.rows j) (h.checkpoints j) (h.phases j) hguard hmoved
    · simp only [Function.update_of_ne hj]
      exact grounded_mono (fun _ hrow ↦ lookup_moved hmoves hrow)
        (fun _ hstored ↦ checkpoint_stays hmoves hstored) (h.phases j)

omit [DecidableEq ι] in
theorem faithful_of_dsInvariant (h : DsInvariant env calls s) : Faithful env calls s := by
  intro i row hrow
  constructor
  · intro stored hstored
    obtain ⟨-, row', hrow', hfits⟩ := h.checkpoints i stored hstored
    rw [hrow] at hrow'
    cases hrow'
    exact hfits
  · intro outcome hphase
    have hgrounded := h.phases i
    rw [hphase] at hgrounded
    cases outcome with
    | interrupted error => trivial
    | returned value =>
      obtain ⟨row', hrow', hfits⟩ := hgrounded
      rw [hrow] at hrow'
      cases hrow'
      exact hfits
    | raised error =>
      obtain ⟨row', hrow', hfits⟩ := hgrounded
      rw [hrow] at hrow'
      cases hrow'
      exact hfits

/-- No executor has begun, and the steps have no rows yet. -/
structure Untouched (calls : ι → TxStepCall) (s : DsState ι V E α) : Prop where
  phase : ∀ i, s.phase i = .start
  ds : ∀ i, s.ds.datasourceOutputs.lookup (calls i).key = none
  sys : ∀ i, s.sys.operationOutputs.lookup (calls i).key = none

/-- Along every run in which `_record_error` never meets a recorded output, no error ends a step
without being recorded, and an output that is recorded reaches the checkpoint, every state is
faithful to the outputs that were committed. -/
theorem faithful_of_keepsOutputs (env : DsEnv V E) (calls : ι → TxStepCall)
    (s s' : DsState ι V E α) (actions : List (SystemAction ι V E α)) (hstart : Untouched calls s)
    (hguard : (dsSystem env calls).Along (KeepsOutputs env calls) s actions)
    (hrun : (dsSystem env calls).run s actions = some s') : Faithful env calls s' := by
  have hinvariant : DsInvariant env calls s :=
    { rows := by simp [hstart.ds]
      checkpoints := by simp [hstart.sys]
      phases := fun i ↦ by rw [hstart.phase i]; trivial }
  apply faithful_of_dsInvariant
  exact (dsSystem env calls).run_invariant (fun _ _ _ ↦ dsInvariant_step)
    hinvariant hguard hrun

end Runs

/-! ## A lost acknowledgement -/

def incrementDsEnv : DsEnv (Option Bool) DBOSError where
  datasource := incrementEnv
  system := incrementEnv

/-- One executor of the step that increments a counter. -/
def incrementStep (_ : Unit) : TxStepCall where
  variant := .sync
  isCoroutineFunction := false
  name := "increment"
  workflowId := "wf"
  stepId := 1
  executorId := some "e1"

def beforeIncrementStep : DsState Unit (Option Bool) DBOSError ℕ where
  ds := { data := 0, datasourceOutputs := Table.empty }
  sys := beforeIncrement.sys
  phase _ := .start

theorem untouched_beforeIncrementStep : Untouched incrementStep beforeIncrementStep where
  phase _ := rfl
  ds _ := rfl
  sys _ := rfl

/-- The first attempt of the step: its commit is applied and a broken connection is reported. -/
def lostAttempt : List (SystemAction Unit (Option Bool) DBOSError ℕ) :=
  [.executor () (.checkStep none 10), .executor () (.checkDatasource none 11),
    .executor () (.attempt (fun counter ↦ .ok (some true, counter + 1))
      (.unacknowledged (.exception "server closed the connection unexpectedly")) 12)]

/-- After a restart, the output that was committed is found and returned. -/
def restartedRun : List (SystemAction Unit (Option Bool) DBOSError ℕ) :=
  lostAttempt ++ [.executor () .restart, .executor () (.checkStep none 20),
    .executor () (.checkDatasource none 21), .executor () (.recordStep .acknowledged 22)]

/-- The loop itself runs the body again. -/
def retriedRun : List (SystemAction Unit (Option Bool) DBOSError ℕ) :=
  lostAttempt ++ [.executor () (.attempt (fun counter ↦ .ok (some true, counter + 1)) .acknowledged 13),
    .executor () (.recordError .acknowledged 14), .executor () (.recordStep .acknowledged 15)]

theorem faithful_restartedRun :
    ∃ s, (dsSystem incrementDsEnv incrementStep).run beforeIncrementStep restartedRun = some s ∧
      s.phase () = .finished (.returned (some true)) ∧ Faithful incrementDsEnv incrementStep s := by
  refine ⟨_, rfl, rfl, ?_⟩
  refine faithful_of_keepsOutputs incrementDsEnv incrementStep beforeIncrementStep _ restartedRun
    untouched_beforeIncrementStep ?_ rfl
  have hlost : Recordable incrementDsEnv
      (.exception "server closed the connection unexpectedly") := by
    intro hrecord
    cases hrecord
  refine ⟨Or.inr ⟨rfl, fun _ _ hstored ↦ by cases hstored⟩, ?_⟩
  rintro _ ⟨⟩
  refine ⟨Or.inr ⟨rfl, fun _ _ hrow ↦ by cases hrow⟩, ?_⟩
  rintro _ ⟨⟩
  refine ⟨Or.inr ⟨fun error herror ↦ by cases herror; exact hlost, fun value ds' hbody ↦ ?_⟩, ?_⟩
  · cases hbody
    exact ⟨_, _, rfl⟩
  rintro _ ⟨⟩
  refine ⟨Or.inr trivial, ?_⟩
  rintro _ ⟨⟩
  refine ⟨Or.inr ⟨rfl, fun _ _ hstored ↦ by cases hstored⟩, ?_⟩
  rintro _ ⟨⟩
  refine ⟨Or.inr ⟨rfl, fun _ _ hrow houtput ↦ ?_⟩, ?_⟩
  · cases hrow
    cases houtput
    exact ⟨some true, rfl, _, _, rfl⟩
  rintro _ ⟨⟩
  refine ⟨Or.inr ⟨by simp, rfl, ?_⟩, fun _ _ ↦ trivial⟩
  intro hasync
  cases hasync

/-- The retry ends in the primary key violation, although the first attempt committed an output. -/
theorem not_faithful_retriedRun :
    ∃ s, (dsSystem incrementDsEnv incrementStep).run beforeIncrementStep retriedRun = some s ∧
      ¬Faithful incrementDsEnv incrementStep s := by
  refine ⟨_, rfl, ?_⟩
  intro hfaithful
  have hraised := (hfaithful () _ rfl).2 _ rfl
  cases hraised

end DBOSModel.Datasource

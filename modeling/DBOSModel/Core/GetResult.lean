import DBOSModel.Core.Transaction
import DBOSModel.SysDb.WriteOnce

/-!
# Results of child workflows

`get_result` of the workflow handles in `dbos/_core.py`, and its implicit form after a direct call of
a child. The outcome of the child is recorded as a step of the parent, but no execution looks for
that checkpoint: a replay awaits the child again and returns what its row holds then. So the replay
agrees with the checkpoint as long as the row stays and keeps its result, and that is for the other
operations to decide: a finished workflow can be deleted or collected or get another outcome, and
a cancelled one can be resumed.
-/

namespace DBOSModel.Core

open Relational DBOSModel.SysDb

/-! ## The functions -/

/-- What `get_result` uses of its process; `isException` tells an `Exception` from the other base
exceptions. -/
structure ResultEnv (V E : Type) where
  serializers : Serializers V
  exceptions : Exceptions E
  isException : E → Bool

section Functions

variable {V E : Type} (env : ResultEnv V E)

/-- What `raise deserialize_exception(error, ..)` raises. -/
def raisedError (error serialization : Option String) : E :=
  match error with
  | none => env.exceptions.ofDBOS (.typeError "exceptions must derive from BaseException")
  | some text =>
    match env.exceptions.deserializeException text serialization with
    | .ok exception => exception
    | .error exception => exception

/-- `check_workflow_result`; `NoResult()` is `none`. -/
def checkWorkflowResult (workflowId : String) (db : SystemDatabase) : Option (Except E V) :=
  match db.workflowStatus.lookup workflowId with
  | none => none
  | some row =>
    match row.status with
    | .success => some ((env.serializers.deserializeValue row.output row.serialization).mapError
        env.exceptions.ofDBOS)
    | .error => some (.error (raisedError env row.error row.serialization))
    | .cancelled => some (.error (env.exceptions.ofDBOS (.awaitedWorkflowCancelled workflowId)))
    | .maxRecoveryAttemptsExceeded => some (.error
        (env.exceptions.ofDBOS (.awaitedWorkflowMaxRecoveryAttemptsExceeded workflowId)))
    | _ => none

/-- The texts of an outcome: the output, the error and the name of their serialization. Serializing
may raise, and what is not an `Exception` goes on unrecorded. -/
def serializeOutcome : Except E V → Except E (Option String × Option String × String)
  | .ok value => do
    let (text, name) ←
      (env.serializers.serializeValue value .default).mapError env.exceptions.ofDBOS
    pure (some text, none, name)
  | .error exception =>
    if env.isException exception then do
      let (text, name) ← env.exceptions.serializeException exception
      pure (none, some text, name)
    else .error exception

/-- The part of `get_result` after the outcome is known: record it under the next step ID and hand
it on. -/
def recordOutcome (workflowId : String) (functionId : ℤ) (resultWorkflowId : String)
    (outcome : Except E V) (db : SystemDatabase) : Except E V × SystemDatabase :=
  match serializeOutcome env outcome with
  | .error raised => (.error raised, db)
  | .ok (output, error, name) =>
    let ending :=
      recordGetResult workflowId functionId resultWorkflowId output error (some name) db
    match ending.result with
    | .ok () => (outcome, ending.stateAfter db)
    | .error raised => (.error (env.exceptions.ofDBOS raised), ending.stateAfter db)

/-- `get_result` of a polling handle, which every replay uses: the loop of `await_workflow_result`
ends on `polled`, and the outcome is recorded on `recorded`. Without a result the loop goes on. -/
def getResult (workflowId : String) (functionId : ℤ) (resultWorkflowId : String)
    (polled recorded : SystemDatabase) : Option (Except E V × SystemDatabase) :=
  (checkWorkflowResult env resultWorkflowId polled).map fun outcome ↦
    recordOutcome env workflowId functionId resultWorkflowId outcome recorded

/-- The outcome that a checkpoint holds. -/
def checkpointedOutcome (row : OperationOutputRow) : Except E V :=
  match row.error with
  | some text => .error (raisedError env (some text) row.serialization)
  | none => (env.serializers.deserializeValue row.output row.serialization).mapError
      env.exceptions.ofDBOS

/-- A replay that finds its parent in the table returns the output of the checkpoint, or raises its
error. -/
def ReplaysCheckpoint (row : OperationOutputRow) (child : String) (db : SystemDatabase) : Prop :=
  ∀ recorded : SystemDatabase, recorded.hasWorkflow row.workflowUuid →
    (getResult env row.workflowUuid row.functionId child db recorded).map Prod.fst =
      some (checkpointedOutcome env row)

/-- The serializer reads the outcome back. -/
def ReadsBack : Except E V → Prop
  | .ok value => ∀ text name, env.serializers.serializeValue value .default = .ok (text, name) →
      env.serializers.deserializeValue (some text) (some name) = .ok value
  | .error exception => ∀ text name,
      env.exceptions.serializeException exception = .ok (text, name) →
        env.exceptions.deserializeException text (some name) = .ok exception

end Functions

/-! ## Later histories -/

/-- A step that some execution records. -/
structure Recording where
  executorId : Option String
  result : OperationResultInternal
  completedAt : ℤ

/-- All operations on the status table, interleaved with the steps that executions record. -/
def resultSystem : System SystemDatabase (StatusAction ⊕ Recording) :=
  statusSystem.interleave fun recording db ↦
    (recordOperationResult recording.executorId recording.result recording.completedAt
      db).stateAfter db

/-- The operation does not delete a row with a result and does not change its result: an outcome is
refused or repeats the stored one, a cancellation does not reach a dead-lettered workflow, and a
resumption does not reach a workflow that is cancelled or dead-lettered. -/
def KeepsResultOf (row : WorkflowStatusRow) : StatusOp → Prop
  | .outcome workflowId status _ output error => row.workflowUuid = workflowId →
      row.status = .cancelled ∨
        row.status = status ∧ row.output = output ∧ row.error = error
  | .cancel workflowIds => row.workflowUuid ∈ workflowIds →
      row.status ≠ .maxRecoveryAttemptsExceeded
  | .resume workflowIds _ => row.workflowUuid ∈ workflowIds → row.status.isComplete
  | .delete workflowIds => row.workflowUuid ∉ workflowIds
  | .collect cutoff batch => gcMatches cutoff batch row = false
  | _ => True

instance (row : WorkflowStatusRow) : (op : StatusOp) → Decidable (KeepsResultOf row op)
  | .outcome workflowId status _ output error => inferInstanceAs (Decidable
      (row.workflowUuid = workflowId → row.status = .cancelled ∨
        row.status = status ∧ row.output = output ∧ row.error = error))
  | .cancel workflowIds => inferInstanceAs (Decidable
      (row.workflowUuid ∈ workflowIds → row.status ≠ .maxRecoveryAttemptsExceeded))
  | .resume workflowIds _ => inferInstanceAs (Decidable
      (row.workflowUuid ∈ workflowIds → row.status.isComplete))
  | .delete workflowIds => inferInstanceAs (Decidable (row.workflowUuid ∉ workflowIds))
  | .collect cutoff batch => inferInstanceAs (Decidable (gcMatches cutoff batch row = false))
  | .init _ _ => isTrue trivial
  | .setDelay _ _ _ _ => isTrue trivial
  | .debounce _ => isTrue trivial
  | .transition _ => isTrue trivial
  | .startQueued _ => isTrue trivial
  | .clear _ => isTrue trivial
  | .fork _ => isTrue trivial

def KeepsResult (child : String) (db : SystemDatabase) : StatusAction ⊕ Recording → Prop
  | .inl action => ∀ row ∈ db.statusRows, row.workflowUuid = child → KeepsResultOf row action.1
  | .inr _ => True

instance (child : String) (db : SystemDatabase) :
    (action : StatusAction ⊕ Recording) → Decidable (KeepsResult child db action)
  | .inl action => inferInstanceAs (Decidable
      (∀ row ∈ db.statusRows, row.workflowUuid = child → KeepsResultOf row action.1))
  | .inr _ => isTrue trivial

/-! ## The row of the child -/

section Child

variable {row row' : WorkflowStatusRow} {db db' : SystemDatabase} {child : String}

/-- The workflow has the result of `row`, under its serialization. -/
def HoldsResult (child : String) (row : WorkflowStatusRow) (db : SystemDatabase) : Prop :=
  ∃ row' ∈ db.statusRows, row'.workflowUuid = child ∧ SameResult row row' ∧
    row'.serialization = row.serialization

theorem deletes_eq_false {op : StatusOp} (h : KeepsResultOf row op) : op.deletes row = false := by
  cases op with
  | delete workflowIds => exact decide_eq_false h
  | collect cutoff batch => exact h
  | _ => rfl

/-- The guards: what the condition allows leaves the result alone. -/
theorem sameResult_of_keepsResultOf {now : ℤ} {op : StatusOp} (hresult : row.status.isActive = false)
    (hchange : RowChange now db op row row') (hkeeps : KeepsResultOf row op) :
    SameResult row row' ∧ row'.serialization = row.serialization := by
  have hactive {status : WorkflowStatusString} (hstatus : row.status = status)
      (h : status.isActive) : SameResult row row' ∧ row'.serialization = row.serialization := by
    rw [hstatus, h] at hresult
    cases hresult
  cases hchange with
  | unchanged => exact ⟨⟨rfl, rfl, rfl⟩, rfl⟩
  | conflict => exact ⟨⟨rfl, rfl, rfl⟩, rfl⟩
  | deadLetter call built row hid hstatus => exact hactive hstatus rfl
  | outcome workflowId status complete output error row hid hstatus =>
    obtain ⟨hsame, hout, herr⟩ := (hkeeps hid).resolve_left hstatus
    exact ⟨⟨hsame.symm, hout.symm, herr.symm⟩, rfl⟩
  | cancel workflowIds row hid hstatus =>
    have hcancelled : row.status = .cancelled := by
      have hdead := hkeeps hid
      cases hrow : row.status <;> simp_all [WorkflowStatusString.isComplete,
        WorkflowStatusString.isActive]
    exact ⟨⟨hcancelled.symm, rfl, rfl⟩, rfl⟩
  | resume workflowIds queueName row hid hstatus =>
    rw [hkeeps hid] at hstatus
    cases hstatus
  | setDelay workflowId delaySeconds delayUntilEpochMs time resolved row hid hstatus =>
    exact hactive hstatus rfl
  | debounce call row hrow =>
    have hstatus : row.status = .delayed := by
      simp only [DebounceCall.bounces, Bool.and_eq_true, decide_eq_true_eq] at hrow
      exact hrow.1.2
    exact hactive hstatus rfl
  | transition nowMs row hstatus => exact hactive hstatus rfl
  | startQueued call row hid heligible =>
    exact hactive (DequeueCall.isEligible_status heligible) rfl
  | clear workflowId row hid hqueue hstatus => exact hactive hstatus rfl
  | fork => exact ⟨⟨rfl, rfl, rfl⟩, rfl⟩

/-- Recording a step leaves a row in place, but for its executor. -/
theorem exists_mem_recordOperationResult {recorder : Option String}
    {result : OperationResultInternal} {completedAt : ℤ} (hrow : row ∈ db.statusRows) :
    ∃ executorId, { row with executorId := executorId } ∈
      ((recordOperationResult recorder result completedAt db).stateAfter db).statusRows := by
  unfold recordOperationResult
  cases hrecord : recordOperationResultTxn recorder result completedAt db with
  | error error => exact ⟨row.executorId, hrow⟩
  | ok db' =>
    obtain ⟨-, owned, -, hupsert⟩ := recordOperationResultTxn_eq_ok hrecord
    have hstatus := workflowStatus_of_upsertResult hupsert
    have hmem : ∃ executorId, { row with executorId := executorId } ∈
        (resetExecutor recorder owned db).statusRows := by
      unfold resetExecutor
      split
      · by_cases hid : row.workflowUuid = owned.workflowUuid
        · exact ⟨recorder, Table.mem_update.mpr ⟨row, hrow, by simp [hid]⟩⟩
        · exact ⟨row.executorId, Table.mem_update.mpr ⟨row, hrow, by simp [hid]⟩⟩
      · exact ⟨row.executorId, hrow⟩
    obtain ⟨executorId, hafter⟩ := hmem
    refine ⟨executorId, ?_⟩
    rw [SystemDatabase.statusRows, ← hstatus] at hafter
    exact hafter

/-- One step keeps the result of the child. -/
theorem holdsResult_step {action : StatusAction ⊕ Recording} (hresult : row.status.isActive = false)
    (h : HoldsResult child row db) (hkeeps : KeepsResult child db action)
    (hstep : resultSystem.step db action = some db') : HoldsResult child row db' := by
  obtain ⟨current, hcurrent, hid, hsame, hserialization⟩ := h
  cases action with
  | inl action =>
    cases hstep
    have hkeep := hkeeps current hcurrent hid
    obtain ⟨next, hnext, hnextId, hchange⟩ :=
      exists_rowChange action.2 hcurrent (deletes_eq_false hkeep)
    have hinactive : current.status.isActive = false := by
      rw [hsame.1]
      exact hresult
    obtain ⟨hstays, hform⟩ := sameResult_of_keepsResultOf hinactive hchange hkeep
    exact ⟨next, hnext, hnextId.trans hid, hsame.trans hstays, hform.trans hserialization⟩
  | inr recording =>
    cases hstep
    obtain ⟨executorId, hnext⟩ := exists_mem_recordOperationResult hcurrent
    exact ⟨_, hnext, hid, hsame, hserialization⟩

/-- What one step keeps, a run keeps. -/
theorem holdsResult_run {actions : List (StatusAction ⊕ Recording)}
    (hresult : row.status.isActive = false) (h : HoldsResult child row db)
    (hkeeps : resultSystem.Along (KeepsResult child) db actions)
    (hrun : resultSystem.run db actions = some db') : HoldsResult child row db' :=
  resultSystem.run_invariant (fun _ _ _ h hkeeps hstep ↦ holdsResult_step hresult h hkeeps hstep) h
    hkeeps hrun

end Child

/-! ## Replays -/

section Replay

variable {V E : Type} {env : ResultEnv V E} {db db' : SystemDatabase} {child workflowId : String}
  {functionId : ℤ} {outcome : Except E V}

/-- The result of a workflow is read from its status, its texts and their serialization. -/
theorem checkWorkflowResult_of_holdsResult (env : ResultEnv V E) {row : WorkflowStatusRow}
    (hlookup : db.workflowStatus.lookup child = some row) (h : HoldsResult child row db') :
    checkWorkflowResult env child db' = checkWorkflowResult env child db := by
  obtain ⟨row', hrow', hid, ⟨hstatus, houtput, herror⟩, hserialization⟩ := h
  have hlookup' : db'.workflowStatus.lookup child = some row' :=
    db'.workflowStatus.lookup_eq_some.mpr ⟨hrow', hid⟩
  simp only [checkWorkflowResult, hlookup, hlookup', hstatus, houtput, herror, hserialization]

/-- A workflow with a result is not active. -/
theorem exists_row_of_checkWorkflowResult (h : checkWorkflowResult env child db = some outcome) :
    ∃ row, db.workflowStatus.lookup child = some row ∧ row.status.isActive = false := by
  unfold checkWorkflowResult at h
  cases hlookup : db.workflowStatus.lookup child with
  | none =>
    rw [hlookup] at h
    cases h
  | some row =>
    refine ⟨row, rfl, ?_⟩
    rw [hlookup] at h
    cases hstatus : row.status with
    | success => rfl
    | error => rfl
    | maxRecoveryAttemptsExceeded => rfl
    | cancelled => rfl
    | pending =>
      simp only [hstatus] at h
      cases h
    | enqueued =>
      simp only [hstatus] at h
      cases h
    | delayed =>
      simp only [hstatus] at h
      cases h

/-- Recording the outcome of a workflow that has a row does not raise. -/
theorem result_recordGetResult {output error serialization : Option String}
    (h : db.hasWorkflow workflowId) :
    (recordGetResult workflowId functionId child output error serialization db).result =
      .ok () := by
  unfold recordGetResult
  simp only [h, if_true]
  split
  · rfl
  · rfl

/-- A new checkpoint of `get_result` holds what it was given, and the workflows stay as they are. -/
theorem recordGetResult_new {output error serialization : Option String} {row : OperationOutputRow}
    (hnew : db.operationOutputs.lookup (workflowId, functionId) = none)
    (hrow : ((recordGetResult workflowId functionId child output error serialization
      db).stateAfter db).operationOutputs.lookup (workflowId, functionId) = some row) :
    row = { workflowUuid := workflowId
            functionId := functionId
            functionName := "DBOS.getResult"
            output := output
            error := error
            childWorkflowId := some child
            serialization := serialization } ∧
      ((recordGetResult workflowId functionId child output error serialization
        db).stateAfter db).workflowStatus = db.workflowStatus := by
  unfold recordGetResult at hrow ⊢
  simp only at hrow ⊢
  split at hrow
  · rw [Ending.stateAfter_returned, hnew] at hrow
    cases hrow
  · rename_i outputs hinsert
    split at hrow
    · rename_i hworkflow
      rw [Ending.stateAfter_returned] at hrow
      have hself := Table.lookup_insertNew_self hinsert
      refine ⟨Option.some.inj (hrow.symm.trans hself), ?_⟩
      simp only [hworkflow, if_true, Ending.stateAfter_returned]
    · rw [Ending.stateAfter_raised, hnew] at hrow
      cases hrow

/-- The texts of an outcome that the serializer reads back. -/
theorem checkpointedOutcome_of_readsBack {row : OperationOutputRow} {output error : Option String}
    {name : String} (hreads : ReadsBack env outcome)
    (htexts : serializeOutcome env outcome = .ok (output, error, name)) (houtput : row.output = output)
    (herror : row.error = error) (hserialization : row.serialization = some name) :
    checkpointedOutcome env row = outcome := by
  unfold checkpointedOutcome
  rw [houtput, herror, hserialization]
  cases outcome with
  | ok value =>
    obtain ⟨⟨text, name⟩, hserialize, hpure⟩ := bind_eq_ok.mp htexts
    cases hpure
    rw [mapError_eq_ok] at hserialize
    simp only [hreads text _ hserialize, Except.mapError]
  | error exception =>
    simp only [serializeOutcome] at htexts
    split at htexts
    · obtain ⟨⟨text, name⟩, hserialize, hpure⟩ := bind_eq_ok.mp htexts
      cases hpure
      simp only [raisedError, hreads text _ hserialize]
    · cases htexts

/-- In every history in which no step deletes the row of the child or changes its result, every
replay returns the checkpointed output or raises the checkpointed error. `db` is the database when
`get_result` records the outcome, which the row of the child holds. -/
theorem replaysCheckpoint_of_keepsResult {row : OperationOutputRow}
    {actions : List (StatusAction ⊕ Recording)} {later : SystemDatabase}
    (hreads : ReadsBack env outcome) (houtcome : checkWorkflowResult env child db = some outcome)
    (hnew : db.operationOutputs.lookup (workflowId, functionId) = none)
    (hrecord : (recordOutcome env workflowId functionId child outcome db).2 = db')
    (hrow : db'.operationOutputs.lookup (workflowId, functionId) = some row)
    (hkeeps : resultSystem.Along (KeepsResult child) db' actions)
    (hrun : resultSystem.run db' actions = some later) : ReplaysCheckpoint env row child later := by
  obtain ⟨childRow, hchild, hinactive⟩ := exists_row_of_checkWorkflowResult houtcome
  cases htexts : serializeOutcome env outcome with
  | error raised =>
    rw [recordOutcome, htexts] at hrecord
    rw [← hrecord, hnew] at hrow
    cases hrow
  | ok texts =>
    obtain ⟨output, error, name⟩ := texts
    have hstate : db' = (recordGetResult workflowId functionId child output error (some name)
        db).stateAfter db := by
      rw [← hrecord, recordOutcome, htexts]
      simp only
      split
      · rfl
      · rfl
    rw [hstate] at hrow
    obtain ⟨hcheckpoint, hstatus⟩ := recordGetResult_new hnew hrow
    rw [← hstate] at hstatus
    have hholds : HoldsResult child childRow db' := by
      obtain ⟨hmem, hid⟩ := db.workflowStatus.lookup_eq_some.mp hchild
      refine ⟨childRow, ?_, hid, ⟨rfl, rfl, rfl⟩, rfl⟩
      rw [SystemDatabase.statusRows, hstatus]
      exact hmem
    have hlater := checkWorkflowResult_of_holdsResult env hchild
      (holdsResult_run hinactive hholds hkeeps hrun)
    intro recorded hworkflow
    rw [checkpointedOutcome_of_readsBack hreads htexts (by rw [hcheckpoint]) (by rw [hcheckpoint])
      (by rw [hcheckpoint])]
    rw [getResult, hlater, houtcome, Option.map_some, Option.map_some, recordOutcome, htexts]
    simp only [result_recordGetResult hworkflow]

end Replay

/-! ## Three histories -/

def booleanEnv : ResultEnv (Option Bool) DBOSError where
  serializers := booleanSerializers
  exceptions := dbosExceptions
  isException
    | .workflowCancelled _ => false
    | .workflowConflictID _ => false
    | _ => true

/-- A running workflow whose child has returned `True`. -/
def finishedChild : SystemDatabase :=
  { SystemDatabase.empty with
    workflowStatus := (Table.empty.insertIgnore
        { workflowUuid := "parent", status := .pending, name := "f" }).insertIgnore
      { workflowUuid := "child", status := .success, name := "g", output := some "gASILg==",
        serialization := some defaultName } }

/-- The first `get_result`, at step 2. -/
def recordedTrue : SystemDatabase :=
  (recordOutcome booleanEnv "parent" 2 "child" (.ok (some true)) finishedChild).2

/-- The child is cancelled and resumed, which its guards refuse, and the parent records a step. -/
def refusedChanges : List (StatusAction ⊕ Recording) :=
  [.inl (.cancel ["child"], 10), .inl (.resume ["child"] none, 11),
    .inr ⟨some "local", { workflowUuid := "parent", functionId := 3, functionName := "s" }, 12⟩]

theorem replaysCheckpoint_refusedChanges :
    ∃ row later, recordedTrue.operationOutputs.lookup ("parent", 2) = some row ∧
      resultSystem.run recordedTrue refusedChanges = some later ∧
      ReplaysCheckpoint booleanEnv row "child" later := by
  have hreads : ReadsBack booleanEnv (.ok (some true)) := by
    intro text name hserialize
    cases hserialize
    rfl
  have houtcome : checkWorkflowResult booleanEnv "child" finishedChild = some (.ok (some true)) :=
    rfl
  have hnew : finishedChild.operationOutputs.lookup ("parent", 2) = none := by decide
  have hkeeps : resultSystem.Along (KeepsResult "child") recordedTrue refusedChanges := by decide
  refine ⟨_, _, rfl, rfl, ?_⟩
  exact replaysCheckpoint_of_keepsResult hreads houtcome hnew rfl rfl hkeeps rfl

/-- After the child was deleted the replay has no result to return, and after another executor wrote
another outcome it returns that one. -/
theorem not_replaysCheckpoint_deleted_rewritten :
    ∃ row, recordedTrue.operationOutputs.lookup ("parent", 2) = some row ∧
      checkpointedOutcome booleanEnv row = .ok (some true) ∧
      (∃ later, resultSystem.run recordedTrue [.inl (.delete ["child"], 10)] = some later ∧
        ¬ReplaysCheckpoint booleanEnv row "child" later) ∧
      ∃ later, resultSystem.run recordedTrue
          [.inl (.outcome "child" .success rfl (some "gASJLg==") none, 10)] = some later ∧
        ¬ReplaysCheckpoint booleanEnv row "child" later := by
  refine ⟨_, rfl, rfl, ⟨_, rfl, ?_⟩, _, rfl, ?_⟩
  · intro hreplays
    have h := hreplays finishedChild (by decide)
    cases h
  · intro hreplays
    have h := hreplays finishedChild (by decide)
    cases h

end DBOSModel.Core

import DBOSModel.SysDb.CheckpointAgreement
import DBOSModel.SysDb.ForkBatch

/-!
# Runs over the data of workflows

The transactions that write the events, the event history and the streams of workflows, interleaved
with those that write their status rows and their checkpoints. `dataEffect_of_step` says once what a
step can do: nothing to these tables, one event, one stream value, the copies of a batch of forks,
or the deletion of whole workflows. Every reachable database then has the foreign keys of the schema
and function IDs from 1 on.
-/

namespace DBOSModel.SysDb

open Relational

/-- The arguments that the writes of events and of stream values share. -/
structure DataWrite (V : Type) where
  workflowUuid : String
  functionId : ℤ
  key : String
  value : V
  serializationType : WorkflowSerializationFormat

inductive DataAction (V : Type) where
  | status (op : StatusOp) (now : ℤ)
  | record (executorId : Option String) (result : OperationResultInternal) (completedAt : ℤ)
  | recordChild (parentId childId : String) (functionId : ℤ) (functionName : String)
  | recordGetResult (workflowId : String) (functionId : ℤ) (resultWorkflowId : String)
      (output error serialization : Option String)
  | setEventFromWorkflow (executorId : Option String) (write : DataWrite V)
      (startTime completedAt : ℤ)
  | setEventFromStep (write : DataWrite V)
  | writeStreamFromWorkflow (executorId : Option String) (write : DataWrite V)
      (startTime completedAt : ℤ)
  | writeStreamFromStep (write : DataWrite V)

namespace DataAction

variable {V : Type}

/-- The function counter of a workflow starts at 1. -/
def isNumbered : DataAction V → Bool
  | status _ _ => true
  | record _ result _ => decide (1 ≤ result.functionId)
  | recordChild _ _ functionId _ => decide (1 ≤ functionId)
  | recordGetResult _ functionId _ _ _ _ => decide (1 ≤ functionId)
  | setEventFromWorkflow _ write _ _ => decide (1 ≤ write.functionId)
  | setEventFromStep write => decide (1 ≤ write.functionId)
  | writeStreamFromWorkflow _ write _ _ => decide (1 ≤ write.functionId)
  | writeStreamFromStep write => decide (1 ≤ write.functionId)

/-- The database after the transaction. -/
def apply (serializers : Serializers V) (isClosed : V → Bool) (action : DataAction V)
    (db : SystemDatabase) : SystemDatabase :=
  match action with
  | status op now => op.apply now db
  | record executorId result completedAt =>
    (recordOperationResult executorId result completedAt db).stateAfter db
  | recordChild parentId childId functionId functionName =>
    (recordChildWorkflow parentId childId functionId functionName db).stateAfter db
  | recordGetResult workflowId functionId resultWorkflowId output error serialization =>
    (SysDb.recordGetResult workflowId functionId resultWorkflowId output error serialization
      db).stateAfter db
  | setEventFromWorkflow executorId write startTime completedAt =>
    (SysDb.setEventFromWorkflow serializers executorId write.workflowUuid write.functionId write.key
      write.value write.serializationType startTime completedAt db).stateAfter db
  | setEventFromStep write =>
    (SysDb.setEventFromStep serializers write.workflowUuid write.functionId write.key write.value
      write.serializationType db).stateAfter db
  | writeStreamFromWorkflow executorId write startTime completedAt =>
    (SysDb.writeStreamFromWorkflow serializers executorId isClosed write.workflowUuid
      write.functionId write.key write.value write.serializationType startTime completedAt
      db).stateAfter db
  | writeStreamFromStep write =>
    (SysDb.writeStreamFromStep serializers write.workflowUuid write.functionId write.key write.value
      write.serializationType db).stateAfter db

/-- The event that the action writes, if it is neither replayed nor rejected by the lookup of its
checkpoint. -/
def eventWrite (db : SystemDatabase) : DataAction V → Option (DataWrite V)
  | setEventFromWorkflow _ write _ _ =>
    if checkOperationExecutionTxn write.workflowUuid write.functionId "DBOS.setEvent" db = .ok none
    then some write else none
  | setEventFromStep write => some write
  | _ => none

/-- The batch that the action forks. -/
def forkCall : DataAction V → Option ForkCall
  | status (.fork call) _ => some call
  | _ => none

end DataAction

/-- Any order of the transactions, of any workflows and steps. -/
def dataSystem {V : Type} (serializers : Serializers V) (isClosed : V → Bool) :
    System SystemDatabase (DataAction V) where
  step db action :=
    if action.isNumbered then some (action.apply serializers isClosed db) else none

/-! ## What a step can do -/

/-- Events, history and streams are the same, every workflow is still there, and new checkpoints
belong to workflows and have function IDs from 1 on. -/
structure Quiet (db db' : SystemDatabase) : Prop where
  workflows : ∀ workflowId, db.hasWorkflow workflowId = true → db'.hasWorkflow workflowId = true
  outputs : ∀ row ∈ db'.operationOutputs.rows, row ∈ db.operationOutputs.rows ∨
    db.hasWorkflow row.workflowUuid = true ∧ 1 ≤ row.functionId
  history : db'.workflowEventsHistory = db.workflowEventsHistory
  events : db'.workflowEvents = db.workflowEvents
  streams : db'.streams = db.streams

inductive DataEffect {V : Type} (action : DataAction V) (db db' : SystemDatabase) : Prop
  | quiet (hquiet : Quiet db db')
  | event (write : DataWrite V) (serval serialization : String)
      (haction : action.eventWrite db = some write) (hid : 1 ≤ write.functionId)
      (hworkflow : db.hasWorkflow write.workflowUuid = true)
      (hquiet : Quiet
        (putEvent write.workflowUuid write.functionId write.key serval serialization db) db')
  | stream (write : DataWrite V) (value serialization : String) (middle : SystemDatabase)
      (hid : 1 ≤ write.functionId) (hworkflow : db.hasWorkflow write.workflowUuid = true)
      (happend : appendStream write.workflowUuid write.functionId write.key value serialization db =
        .ok middle)
      (hquiet : Quiet middle db')
  | fork (call : ForkCall) (now : ℤ) (haction : action.forkCall = some call)
      (hfresh : FreshBatch call db) (hforked : Forked call now db db')
  | delete (p : WorkflowStatusRow → Bool) (hdelete : db' = db.deleteStatusWhere p)

section Quiet

variable {db db' : SystemDatabase}

theorem Quiet.refl (db : SystemDatabase) : Quiet db db :=
  ⟨fun _ hworkflow ↦ hworkflow, fun _ hrow ↦ Or.inl hrow, rfl, rfl, rfl⟩

/-- A step that writes the status table only and keeps every workflow. -/
theorem Quiet.of_statuses (statuses : Table WorkflowStatusRow.workflowUuid)
    (hkeep : ∀ row ∈ db.statusRows, ∃ row' ∈ statuses.rows, row'.workflowUuid = row.workflowUuid) :
    Quiet db { db with workflowStatus := statuses } := by
  refine ⟨?_, fun _ hrow ↦ Or.inl hrow, rfl, rfl, rfl⟩
  intro workflowId hworkflow
  obtain ⟨row, hrow, rfl⟩ := SystemDatabase.hasWorkflow_iff.mp hworkflow
  exact SystemDatabase.hasWorkflow_iff.mpr (hkeep row hrow)

/-- A new checkpoint of an existing workflow. -/
theorem Quiet.of_insertNew {row : OperationOutputRow} {outputs : Table OperationOutputRow.key}
    (hinsert : db.operationOutputs.insertNew row = some outputs)
    (hworkflow : db.hasWorkflow row.workflowUuid = true) (hid : 1 ≤ row.functionId) :
    Quiet db { db with operationOutputs := outputs } := by
  refine ⟨fun _ hfound ↦ hfound, ?_, rfl, rfl, rfl⟩
  intro other hother
  rcases (Table.mem_insertNew hinsert).mp hother with hold | rfl
  · exact Or.inl hold
  · exact Or.inr ⟨hworkflow, hid⟩

theorem Quiet.trans {db'' : SystemDatabase} (first : Quiet db db') (second : Quiet db' db'')
    (hback : ∀ workflowId, db'.hasWorkflow workflowId = true → db.hasWorkflow workflowId = true) :
    Quiet db db'' := by
  refine ⟨?_, ?_, second.history.trans first.history, second.events.trans first.events,
    second.streams.trans first.streams⟩
  · intro workflowId hworkflow
    exact second.workflows workflowId (first.workflows workflowId hworkflow)
  · intro row hrow
    rcases second.outputs row hrow with hold | ⟨hworkflow, hid⟩
    · exact first.outputs row hold
    · exact Or.inr ⟨hback _ hworkflow, hid⟩

/-- Recording a step is quiet. -/
theorem quiet_recordOperationResultTxn {executorId : Option String}
    {result : OperationResultInternal} {completedAt : ℤ} (hid : 1 ≤ result.functionId)
    (h : recordOperationResultTxn executorId result completedAt db = .ok db') : Quiet db db' := by
  obtain ⟨-, row, hlookup, hupsert⟩ := recordOperationResultTxn_eq_ok h
  have hkeeps : KeepsCheckpoints db (resetExecutor executorId row db) :=
    keepsCheckpoints_resetExecutor
  have hworkflow : (resetExecutor executorId row db).hasWorkflow result.workflowUuid = true := by
    apply hasWorkflow_of_keeps hkeeps.2
    rw [SystemDatabase.hasWorkflow, hlookup]
    rfl
  have hreset : Quiet db (resetExecutor executorId row db) := by
    refine ⟨fun _ ↦ hasWorkflow_of_keeps hkeeps.2, ?_, ?_, ?_, ?_⟩
    · intro other hother
      rw [hkeeps.1] at hother
      exact Or.inl hother
    all_goals rw [resetExecutor_frame]
  have hback : ∀ workflowId, (resetExecutor executorId row db).hasWorkflow workflowId = true →
      db.hasWorkflow workflowId = true :=
    fun _ ↦ hasWorkflow_of_keeps fun workflowId ↦ (hkeeps.2 workflowId).symm
  refine hreset.trans ?_ hback
  rcases upsertResult_eq_ok hupsert with ⟨-, hinsert, heq⟩ | ⟨-, -, -, rfl⟩
  · rw [heq]
    exact Quiet.of_insertNew hinsert hworkflow hid
  · exact Quiet.refl _

end Quiet

section Effect

variable {V : Type} {serializers : Serializers V} {isClosed : V → Bool} {db db' : SystemDatabase}
  {action : DataAction V}

theorem hasWorkflow_of_check {workflowId functionName : String} {functionId : ℤ}
    {found : Option RecordedResult}
    (hcheck : checkOperationExecutionTxn workflowId functionId functionName db = .ok found) :
    db.hasWorkflow workflowId = true := by
  unfold checkOperationExecutionTxn at hcheck
  split at hcheck
  · cases hcheck
  · rename_i row hrow
    rw [SystemDatabase.hasWorkflow, hrow]
    rfl

/-- A forked batch was fresh: the new status rows have keys of their own. -/
theorem freshBatch_of_forked {call : ForkCall} {now : ℤ} (hforked : Forked call now db db') :
    FreshBatch call db := by
  obtain ⟨rows, hrows, hstatuses⟩ := hforked.statuses
  have hkeys : ((db.statusRows ++ rows).map WorkflowStatusRow.workflowUuid).Nodup := by
    have hnodup := db'.workflowStatus.nodup
    rw [show db'.workflowStatus.rows = (db.statusRows ++ rows).map call.mark from hstatuses,
      List.map_map] at hnodup
    have hmark : WorkflowStatusRow.workflowUuid ∘ call.mark = WorkflowStatusRow.workflowUuid :=
      funext fun row ↦ ForkCall.mark_workflowUuid row
    rw [hmark] at hnodup
    exact hnodup
  rw [List.map_append, map_forkedRows hrows, List.nodup_append] at hkeys
  obtain ⟨-, hdistinct, hapart⟩ := hkeys
  refine ⟨hdistinct, ?_⟩
  intro entry hentry
  cases hworkflow : db.hasWorkflow entry.forkedWorkflowId with
  | false => rfl
  | true =>
    obtain ⟨row, hrow, hid⟩ := SystemDatabase.hasWorkflow_iff.mp hworkflow
    exact absurd hid (hapart _ (List.mem_map_of_mem hrow) _ (List.mem_map_of_mem hentry))

/-- `init_workflow` writes the status table only. -/
theorem initWorkflow_frame (call : InitCall) (now : ℤ) (db : SystemDatabase) :
    (initWorkflow call now db).stateAfter db =
      { db with workflowStatus := ((initWorkflow call now db).stateAfter db).workflowStatus } := by
  unfold initWorkflow
  split
  · rfl
  · rename_i row db' hupsert
    have hframe : db' = { db with workflowStatus := db'.workflowStatus } := by
      rcases upsert_eq_ok hupsert with ⟨-, -, -, -, rfl⟩ | ⟨-, -, -, rows, -, rfl⟩
      · rfl
      · rfl
    split
    · rfl
    · split
      · rw [hframe]
        rfl
      · exact hframe

/-- A status transaction is quiet, forks a batch or deletes workflows. -/
theorem dataEffect_status (op : StatusOp) (now : ℤ) :
    DataEffect (DataAction.status op now : DataAction V) db (op.apply now db) := by
  have hkeep : (∀ row, op.deletes row = false) → ∀ row ∈ db.statusRows,
      ∃ row' ∈ (op.apply now db).statusRows, row'.workflowUuid = row.workflowUuid :=
    fun hnone row hrow ↦ exists_key_apply now hrow (hnone row)
  have hquiet : op.apply now db = { db with workflowStatus := (op.apply now db).workflowStatus } →
      (∀ row, op.deletes row = false) →
        DataEffect (DataAction.status op now : DataAction V) db (op.apply now db) := by
    intro hframe hnone
    apply DataEffect.quiet
    rw [hframe]
    exact Quiet.of_statuses _ (hkeep hnone)
  cases op with
  | fork call =>
    simp only [StatusOp.apply]
    cases hfork : forkWorkflow call now db with
    | returned ids db' =>
      have hforked := (forked_of_returned hfork).1
      exact DataEffect.fork call now rfl (freshBatch_of_forked hforked) hforked
    | raised error => exact DataEffect.quiet (Quiet.refl db)
    | raisedAfterCommit error db' =>
      unfold forkWorkflow at hfork
      simp only at hfork
      repeat' split at hfork
      all_goals cases hfork
  | delete workflowIds => exact DataEffect.delete _ rfl
  | collect cutoff batch => exact DataEffect.delete _ rfl
  | init call built =>
    exact hquiet (initWorkflow_frame call now db) fun _ ↦ rfl
  | outcome workflowId status complete output error =>
    refine hquiet ?_ fun _ ↦ rfl
    simp only [StatusOp.apply, updateWorkflowOutcome]
    repeat' split
    all_goals rfl
  | startQueued call =>
    refine hquiet ?_ fun _ ↦ rfl
    obtain ⟨ids, -, heq, -⟩ := startQueuedWorkflows_eq call now db
    simp only [StatusOp.apply, heq]
    rfl
  | setDelay workflowId delaySeconds delayUntilEpochMs time =>
    refine hquiet ?_ fun _ ↦ rfl
    simp only [StatusOp.apply, setWorkflowDelay]
    split
    all_goals rfl
  | debounce call =>
    refine hquiet ?_ fun _ ↦ rfl
    rw [StatusOp.apply, db_debounceDelayedWorkflow]
  | cancel workflowIds => exact hquiet rfl fun _ ↦ rfl
  | resume workflowIds queueName => exact hquiet rfl fun _ ↦ rfl
  | transition nowMs => exact hquiet rfl fun _ ↦ rfl
  | clear workflowId => exact hquiet rfl fun _ ↦ rfl

/-- What a step with a checkpoint leaves: its work and the checkpoint, or nothing. -/
theorem recordedStep_effect {step : StepRecord}
    {work : SystemDatabase → Except DBOSError (Unit × Option String × SystemDatabase)}
    (hid : 1 ≤ step.functionId)
    (h : recordedStep step (fun _ ↦ .ok ()) work db = .ok ((), db')) :
    db' = db ∨
      checkOperationExecutionTxn step.workflowUuid step.functionId step.functionName db =
        .ok none ∧ ∃ output middle, work db = .ok ((), output, middle) ∧ Quiet middle db' := by
  rcases recordedStep_eq_ok h with ⟨-, -, -, hsame⟩ | ⟨hcheck, output, middle, hwork, hrecord⟩
  · exact Or.inl hsame
  · exact Or.inr ⟨hcheck, output, middle, hwork, quiet_recordOperationResultTxn hid hrecord⟩

/-- A transaction that raises is quiet, so only the returned database counts. -/
theorem dataEffect_ofExcept {outcome : Except DBOSError (Unit × SystemDatabase)}
    (hreturned : ∀ db', outcome = .ok ((), db') → DataEffect action db db') :
    DataEffect action db ((Ending.ofExcept outcome).stateAfter db) :=
  Ending.stateAfter_ofExcept (.quiet (Quiet.refl db)) fun _ ↦ hreturned

theorem quiet_recordChildWorkflow {parentId childId functionName : String} {functionId : ℤ}
    (hid : 1 ≤ functionId) :
    Quiet db ((recordChildWorkflow parentId childId functionId functionName db).stateAfter db) := by
  unfold recordChildWorkflow
  split
  · exact Quiet.refl db
  · simp only
    split
    · rename_i outputs hinsert
      split
      · rename_i hworkflow
        exact Quiet.of_insertNew hinsert hworkflow hid
      · exact Quiet.refl db
    · repeat' split
      all_goals exact Quiet.refl db

theorem quiet_recordGetResult {workflowId resultWorkflowId : String} {functionId : ℤ}
    {output error serialization : Option String} (hid : 1 ≤ functionId) :
    Quiet db ((recordGetResult workflowId functionId resultWorkflowId output error serialization
      db).stateAfter db) := by
  unfold recordGetResult
  simp only
  split
  · exact Quiet.refl db
  · rename_i outputs hinsert
    split
    · rename_i hworkflow
      exact Quiet.of_insertNew hinsert hworkflow hid
    · exact Quiet.refl db

/-- What one transaction can do to the data of the workflows. -/
theorem dataEffect_of_step (h : (dataSystem serializers isClosed).step db action = some db') :
    DataEffect action db db' := by
  simp only [dataSystem] at h
  split at h
  · rename_i hnumbered
    cases h
    cases action with
    | status op now => exact dataEffect_status op now
    | record executorId result completedAt =>
      apply dataEffect_ofExcept
      intro db' hok
      obtain ⟨state, hrecord, hpair⟩ := map_eq_ok.mp hok
      cases hpair
      exact .quiet (quiet_recordOperationResultTxn (of_decide_eq_true hnumbered) hrecord)
    | recordChild parentId childId functionId functionName =>
      exact .quiet (quiet_recordChildWorkflow (of_decide_eq_true hnumbered))
    | recordGetResult workflowId functionId resultWorkflowId output error serialization =>
      exact .quiet (quiet_recordGetResult (of_decide_eq_true hnumbered))
    | setEventFromWorkflow executorId write startTime completedAt =>
      apply dataEffect_ofExcept
      intro db' hok
      obtain ⟨⟨serval, serialization⟩, -, hstep⟩ := bind_eq_ok.mp hok
      have hid : 1 ≤ write.functionId := of_decide_eq_true hnumbered
      rcases recordedStep_effect hid hstep with
        rfl | ⟨hcheck, output, middle, hwork, hquiet⟩
      · exact .quiet (Quiet.refl db')
      · cases hwork
        exact .event write serval serialization (if_pos hcheck) hid (hasWorkflow_of_check hcheck)
          hquiet
    | setEventFromStep write =>
      apply dataEffect_ofExcept
      intro db' hok
      obtain ⟨⟨serval, serialization⟩, -, hput⟩ := bind_eq_ok.mp hok
      simp only at hput
      split at hput
      · rename_i hworkflow
        cases hput
        exact .event write serval serialization rfl (of_decide_eq_true hnumbered) hworkflow
          (Quiet.refl _)
      · cases hput
    | writeStreamFromWorkflow executorId write startTime completedAt =>
      apply dataEffect_ofExcept
      intro db' hok
      obtain ⟨⟨value, serialization⟩, -, hstep⟩ := bind_eq_ok.mp hok
      have hid : 1 ≤ write.functionId := of_decide_eq_true hnumbered
      rcases recordedStep_effect hid hstep with
        rfl | ⟨hcheck, output, middle, hwork, hquiet⟩
      · exact .quiet (Quiet.refl db')
      · obtain ⟨appended, happend, hpure⟩ := bind_eq_ok.mp hwork
        cases hpure
        exact .stream write value serialization middle hid (hasWorkflow_of_check hcheck) happend
          hquiet
    | writeStreamFromStep write =>
      apply dataEffect_ofExcept
      intro db' hok
      obtain ⟨⟨value, serialization⟩, -, hinsert⟩ := bind_eq_ok.mp hok
      simp only at hinsert
      split at hinsert
      · rename_i hworkflow
        obtain ⟨appended, happend, hpure⟩ := bind_eq_ok.mp hinsert
        cases hpure
        exact .stream write value serialization db' (of_decide_eq_true hnumbered) hworkflow happend
          (Quiet.refl db')
      · cases hinsert
  · cases h

end Effect

/-! ## Foreign keys and function IDs -/

section Integral

variable {V : Type} {serializers : Serializers V} {isClosed : V → Bool} {db db' : SystemDatabase}
  {action : DataAction V} {p : WorkflowStatusRow → Bool}

/-- What the cascades delete is what belongs to no workflow afterwards. -/
theorem hasWorkflow_deleteStatusWhere {workflowId : String}
    (hworkflow : db.hasWorkflow workflowId = true) :
    (db.deleteStatusWhere p).hasWorkflow workflowId = true ↔
      (db.workflowStatus.rows.any fun row ↦ p row && row.workflowUuid == workflowId) = false := by
  obtain ⟨row, hrow, rfl⟩ := SystemDatabase.hasWorkflow_iff.mp hworkflow
  rw [SystemDatabase.hasWorkflow_iff, List.any_eq_false]
  constructor
  · rintro ⟨kept, hkept, hid⟩ other hother hgone
    obtain ⟨hkept, hp⟩ := Table.mem_delete.mp hkept
    rw [Bool.and_eq_true, beq_iff_eq] at hgone
    rw [db.workflowStatus.eq_of_key hother hkept (hgone.2.trans hid.symm), hp] at hgone
    cases hgone.1
  · intro hnone
    refine ⟨row, Table.mem_delete.mpr ⟨hrow, ?_⟩, rfl⟩
    have hkept := hnone row hrow
    rw [beq_self_eq_true, Bool.and_true, Bool.not_eq_true] at hkept
    exact hkept

/-- The rows of a table that a deletion of workflows leaves. -/
theorem mem_cascade {κ ρ : Type} {key : ρ → κ} {t : Table key} {workflowUuid : ρ → String} {row : ρ}
    (howner : ∀ row ∈ t.rows, db.hasWorkflow (workflowUuid row) = true) :
    row ∈ (t.delete fun row ↦ db.workflowStatus.rows.any fun status ↦
        p status && status.workflowUuid == workflowUuid row).rows ↔
      row ∈ t.rows ∧ (db.deleteStatusWhere p).hasWorkflow (workflowUuid row) = true := by
  rw [Table.mem_delete]
  constructor
  · rintro ⟨hrow, hkept⟩
    exact ⟨hrow, (hasWorkflow_deleteStatusWhere (howner row hrow)).mpr hkept⟩
  · rintro ⟨hrow, hworkflow⟩
    exact ⟨hrow, (hasWorkflow_deleteStatusWhere (howner row hrow)).mp hworkflow⟩

theorem Integral.of_quiet (h : Integral db) (hquiet : Quiet db db') : Integral db' := by
  refine ⟨?_, ?_, ?_, ?_⟩
  · intro row hrow
    rcases hquiet.outputs row hrow with hold | ⟨hworkflow, hid⟩
    · exact ⟨hquiet.workflows _ (h.outputs row hold).1, (h.outputs row hold).2⟩
    · exact ⟨hquiet.workflows _ hworkflow, hid⟩
  · intro row hrow
    rw [hquiet.history] at hrow
    exact ⟨hquiet.workflows _ (h.history row hrow).1, (h.history row hrow).2⟩
  · intro row hrow
    rw [hquiet.events] at hrow
    exact hquiet.workflows _ (h.events row hrow)
  · intro row hrow
    rw [hquiet.streams] at hrow
    exact ⟨hquiet.workflows _ (h.streams row hrow).1, (h.streams row hrow).2⟩

section Put

variable {workflowUuid key serval serialization : String} {functionId : ℤ}

theorem mem_events_putEvent {row : WorkflowEventRow} :
    row ∈ (putEvent workflowUuid functionId key serval serialization db).workflowEvents.rows ↔
      (row ∈ db.workflowEvents.rows ∧ row.primaryKey ≠ (workflowUuid, key)) ∨
        row = ⟨workflowUuid, key, serval, some serialization⟩ := by
  apply Table.mem_upsert
  intro old hkey
  obtain ⟨huuid, hname⟩ := Prod.mk.inj hkey
  rw [huuid, hname]

theorem mem_history_putEvent {row : WorkflowEventHistoryRow} :
    row ∈ (putEvent workflowUuid functionId key serval serialization
        db).workflowEventsHistory.rows ↔
      (row ∈ db.workflowEventsHistory.rows ∧ row.primaryKey ≠ (workflowUuid, key, functionId)) ∨
        row = ⟨workflowUuid, key, serval, functionId, some serialization⟩ := by
  apply Table.mem_upsert
  intro old hkey
  obtain ⟨huuid, hname, hid⟩ := by simpa [WorkflowEventHistoryRow.primaryKey] using hkey
  rw [huuid, hname, hid]

theorem integral_putEvent (h : Integral db) (hworkflow : db.hasWorkflow workflowUuid = true)
    (hid : 1 ≤ functionId) :
    Integral (putEvent workflowUuid functionId key serval serialization db) := by
  refine ⟨h.outputs, ?_, ?_, h.streams⟩
  · intro row hrow
    rcases mem_history_putEvent.mp hrow with ⟨hold, -⟩ | rfl
    · exact h.history row hold
    · exact ⟨hworkflow, hid⟩
  · intro row hrow
    rcases mem_events_putEvent.mp hrow with ⟨hold, -⟩ | rfl
    · exact h.events row hold
    · exact hworkflow

theorem mem_streams_appendStream {row : StreamRow}
    (happend : appendStream workflowUuid functionId key serval serialization db = .ok db') :
    row ∈ db'.streams.rows ↔ row ∈ db.streams.rows ∨ row =
      ⟨workflowUuid, key, serval, nextOffset workflowUuid key db, functionId,
        some serialization⟩ := by
  unfold appendStream at happend
  split at happend
  · rename_i streams hinsert
    cases happend
    exact Table.mem_insertNew hinsert
  · cases happend

theorem integral_appendStream (h : Integral db) (hworkflow : db.hasWorkflow workflowUuid = true)
    (hid : 1 ≤ functionId)
    (happend : appendStream workflowUuid functionId key serval serialization db = .ok db') :
    Integral db' := by
  have hrows : ∀ row, row ∈ db'.streams.rows ↔ _ := fun row ↦ mem_streams_appendStream happend
  rw [appendStream_eq_ok happend] at hrows ⊢
  refine ⟨h.outputs, h.history, h.events, ?_⟩
  intro row hrow
  rcases (hrows row).mp hrow with hold | rfl
  · exact h.streams row hold
  · exact ⟨hworkflow, hid⟩

end Put

theorem integral_deleteStatusWhere (h : Integral db) (p : WorkflowStatusRow → Bool) :
    Integral (db.deleteStatusWhere p) := by
  refine ⟨?_, ?_, ?_, ?_⟩
  · intro row hrow
    obtain ⟨hold, hworkflow⟩ := (mem_cascade fun row hrow ↦ (h.outputs row hrow).1).mp hrow
    exact ⟨hworkflow, (h.outputs row hold).2⟩
  · intro row hrow
    obtain ⟨hold, hworkflow⟩ := (mem_cascade fun row hrow ↦ (h.history row hrow).1).mp hrow
    exact ⟨hworkflow, (h.history row hold).2⟩
  · intro row hrow
    exact ((mem_cascade h.events).mp hrow).2
  · intro row hrow
    obtain ⟨hold, hworkflow⟩ := (mem_cascade fun row hrow ↦ (h.streams row hrow).1).mp hrow
    exact ⟨hworkflow, (h.streams row hold).2⟩

theorem integral_step (hintegral : Integral db)
    (h : (dataSystem serializers isClosed).step db action = some db') : Integral db' := by
  cases dataEffect_of_step h with
  | quiet hquiet => exact hintegral.of_quiet hquiet
  | event write serval serialization haction hid hworkflow hquiet =>
    exact (integral_putEvent hintegral hworkflow hid).of_quiet hquiet
  | stream write value serialization middle hid hworkflow happend hquiet =>
    exact (integral_appendStream hintegral hworkflow hid happend).of_quiet hquiet
  | fork call now haction hfresh hforked => exact integral_forked hintegral hforked
  | delete p hdelete =>
    rw [hdelete]
    exact integral_deleteStatusWhere hintegral p

theorem integral_empty : Integral SystemDatabase.empty := by
  refine ⟨?_, ?_, ?_, ?_⟩
  all_goals
    intro row hrow
    cases hrow

end Integral

end DBOSModel.SysDb

import DBOSModel.SysDb.CheckpointAgreement
import DBOSModel.SysDb.Events
import DBOSModel.SysDb.IdempotentStart
import DBOSModel.SysDb.Notifications

/-!
# Writes that run twice

`db_retry` re-runs a write whose commit was applied but not acknowledged. The second run sees the
database that the first one left, other clock readings and other generated IDs. `RetryIdempotent`
says that it changes nothing but timestamps and returns what the first run would have returned.

Most writes have a device for this: a checkpoint that is looked up first, a primary key, or a guard
that no longer matches. Three kinds of call have none: a forced `init_workflow` counts a recovery
attempt again, a message without an idempotency key that is sent outside a workflow is sent again,
and an outcome of `CANCELLED` is taken for a cancellation by somebody else.
-/

namespace DBOSModel.SysDb

open Relational

/-- What a run reads besides the database: its clocks and the IDs it generates. -/
structure Reading where
  now : ℤ
  startTime : ℤ
  completedAt : ℤ
  uuids : ℕ → String

/-- What the writes read of their system database object, and the comparison of a value with the
sentinel of a closed stream. -/
structure WriteContext (V : Type) where
  serializers : Serializers V
  executorId : Option String
  isClosed : V → Bool

/-- An operation for `call_txn_as_step`, given the database clock. The source passes schedule
operations and the debounce: they leave checkpoints and statuses alone, and what they return is read
back from its text. -/
structure TxnOp {V : Type} (serializers : Serializers V) where
  run : ℤ → SystemDatabase → Except DBOSError (V × SystemDatabase)
  keepsCheckpoints : ∀ now db value db', run now db = .ok (value, db') → KeepsCheckpoints db db'
  roundTrips : ∀ now db value db', run now db = .ok (value, db') →
    serializers.configured.RoundTrips value

theorem keepsCheckpoints_debounceDelayedWorkflow (call : DebounceCall) (now : ℤ)
    (db : SystemDatabase) : KeepsCheckpoints db (debounceDelayedWorkflow call now db).2 := by
  have hkey (row : WorkflowStatusRow) :
      (call.bounceUpdate now row).workflowUuid = row.workflowUuid := rfl
  rw [db_debounceDelayedWorkflow]
  exact keepsCheckpoints_update hkey fun _ ↦ rfl

/-- `debounce_delayed_workflow`, with its result as a value of the program. -/
def TxnOp.debounce {V : Type} {serializers : Serializers V} (call : DebounceCall)
    (value : DebounceResult → V)
    (hvalue : ∀ result, serializers.configured.RoundTrips (value result)) : TxnOp serializers where
  run now db :=
    let result := debounceDelayedWorkflow call now db
    .ok (value result.1, result.2)
  keepsCheckpoints now db _ _ h := by
    cases h
    exact keepsCheckpoints_debounceDelayedWorkflow call now db
  roundTrips _ _ _ _ h := by
    cases h
    exact hvalue _

/-- The writes that `db_retry` wraps, with their arguments. -/
inductive WriteCall {V : Type} (context : WriteContext V) where
  | initWorkflow (call : InitCall)
  | updateWorkflowOutcome (workflowId : String) (status : WorkflowStatusString)
      (output error : Option String)
  | recordOperationResult (result : OperationResultInternal) (completedAtEpochMs : ℤ)
  | recordChildWorkflow (parentId childId : String) (functionId : ℤ) (functionName : String)
  | recordGetResult (workflowId : String) (functionId : ℤ) (resultWorkflowId : String)
      (output error serialization : Option String)
  | sendBulk (call : SendBulkCall V)
  | recvConsume (workflowUuid : String) (functionId : ℤ) (topic : Option String) (startTime : ℤ)
  | setEventFromWorkflow (workflowUuid : String) (functionId : ℤ) (key : String) (message : V)
      (serializationType : WorkflowSerializationFormat)
  | writeStreamFromWorkflow (workflowUuid : String) (functionId : ℤ) (key : String) (value : V)
      (serializationType : WorkflowSerializationFormat)
  | patch (workflowId : String) (functionId : ℤ) (patchName : String)
  | clearQueueAssignment (workflowId : String)
  | callTxnAsStep (workflowUuid : String) (functionId : ℤ) (functionName : String)
      (op : TxnOp context.serializers)

namespace WriteCall

variable {V : Type} {context : WriteContext V}

/-- What a write returns. -/
abbrev Result : WriteCall context → Type
  | initWorkflow _ => InitResult
  | recvConsume .. => V
  | patch .. => Bool
  | callTxnAsStep .. => V
  | _ => Unit

/-- One run of the wrapped body. -/
def run : (call : WriteCall context) → Reading → SystemDatabase →
    Ending SystemDatabase DBOSError call.Result
  -- a run also writes the stored serialization into the caller's dict; only an insert reads it, and a
  -- run after a commit does not insert
  | initWorkflow call, r, db => SysDb.initWorkflow call r.now db
  | updateWorkflowOutcome workflowId status output error, r, db =>
    SysDb.updateWorkflowOutcome workflowId status output error r.now db
  | recordOperationResult result completedAtEpochMs, _, db =>
    SysDb.recordOperationResult context.executorId result completedAtEpochMs db
  | recordChildWorkflow parentId childId functionId functionName, _, db =>
    SysDb.recordChildWorkflow parentId childId functionId functionName db
  | recordGetResult workflowId functionId resultWorkflowId output error serialization, _, db =>
    SysDb.recordGetResult workflowId functionId resultWorkflowId output error serialization db
  | sendBulk call, r, db =>
    SysDb.sendBulk context.serializers context.executorId call r.now r.startTime r.completedAt
      r.uuids db
  | recvConsume workflowUuid functionId topic startTime, r, db =>
    SysDb.recvConsume context.serializers context.executorId workflowUuid functionId topic startTime
      r.completedAt db
  | setEventFromWorkflow workflowUuid functionId key message serializationType, r, db =>
    SysDb.setEventFromWorkflow context.serializers context.executorId workflowUuid functionId key
      message serializationType r.startTime r.completedAt db
  | writeStreamFromWorkflow workflowUuid functionId key value serializationType, r, db =>
    SysDb.writeStreamFromWorkflow context.serializers context.executorId context.isClosed
      workflowUuid functionId key value serializationType r.startTime r.completedAt db
  | patch workflowId functionId patchName, r, db =>
    SysDb.patch context.executorId workflowId functionId patchName r.startTime r.completedAt db
  | clearQueueAssignment workflowId, _, db =>
    .returned () (SysDb.clearQueueAssignment workflowId db)
  | callTxnAsStep workflowUuid functionId functionName op, r, db =>
    SysDb.callTxnAsStep context.serializers
      ⟨context.executorId, workflowUuid, functionId, functionName, r.startTime, r.completedAt⟩
      (op.run r.now) db

end WriteCall

/-! ## Databases up to timestamps -/

/-- A status row without the times at which it was created, changed and completed. -/
def WorkflowStatusRow.timeless (row : WorkflowStatusRow) : WorkflowStatusRow :=
  { row with createdAt := 0, updatedAt := 0, completedAt := row.completedAt.map fun _ ↦ 0 }

def OperationOutputRow.timeless (row : OperationOutputRow) : OperationOutputRow :=
  { row with
    startedAtEpochMs := row.startedAtEpochMs.map fun _ ↦ 0
    completedAtEpochMs := row.completedAtEpochMs.map fun _ ↦ 0 }

def NotificationRow.timeless (row : NotificationRow) : NotificationRow :=
  { row with createdAtEpochMs := 0 }

/-- The tables are the same up to timestamps. -/
structure SameUpToTime (db db' : SystemDatabase) : Prop where
  workflowStatus : db'.workflowStatus.rows.map WorkflowStatusRow.timeless =
    db.workflowStatus.rows.map WorkflowStatusRow.timeless
  operationOutputs : db'.operationOutputs.rows.map OperationOutputRow.timeless =
    db.operationOutputs.rows.map OperationOutputRow.timeless
  notifications : db'.notifications.rows.map NotificationRow.timeless =
    db.notifications.rows.map NotificationRow.timeless
  workflowEvents : db'.workflowEvents = db.workflowEvents
  workflowEventsHistory : db'.workflowEventsHistory = db.workflowEventsHistory
  streams : db'.streams = db.streams
  applicationVersions : db'.applicationVersions = db.applicationVersions

theorem SameUpToTime.refl (db : SystemDatabase) : SameUpToTime db db := by
  constructor <;> rfl

/-- An update of status rows that changes timestamps only. -/
theorem sameUpToTime_update {db : SystemDatabase} {p : WorkflowStatusRow → Bool}
    {f : WorkflowStatusRow → WorkflowStatusRow} (hkey : ∀ r, (f r).workflowUuid = r.workflowUuid)
    (h : ∀ r ∈ db.statusRows, p r → (f r).timeless = r.timeless) :
    SameUpToTime db { db with workflowStatus := db.workflowStatus.update p f hkey } where
  workflowStatus := by
    simp only [Table.update, List.map_map]
    apply List.map_congr_left
    intro r hr
    simp only [Function.comp]
    split
    · rename_i hp
      exact h r hr hp
    · rfl
  operationOutputs := rfl
  notifications := rfl
  workflowEvents := rfl
  workflowEventsHistory := rfl
  streams := rfl
  applicationVersions := rfl

/-- A row is found again, up to timestamps. -/
theorem SameUpToTime.lookup {db db' : SystemDatabase} (h : SameUpToTime db db')
    (workflowId : String) :
    (db'.workflowStatus.lookup workflowId).map WorkflowStatusRow.timeless =
      (db.workflowStatus.lookup workflowId).map WorkflowStatusRow.timeless := by
  have hfind (t : Table WorkflowStatusRow.workflowUuid) :
      (t.lookup workflowId).map WorkflowStatusRow.timeless =
        (t.rows.map WorkflowStatusRow.timeless).find? fun r ↦ r.workflowUuid = workflowId := by
    rw [List.find?_map]
    rfl
  rw [hfind, hfind, h.workflowStatus]

/-- A second run right after a committed first one changes timestamps only and has its result. -/
def RetryIdempotent {β : Type}
    (body : Reading → SystemDatabase → Ending SystemDatabase DBOSError β) (first second : Reading)
    (db : SystemDatabase) : Prop :=
  let committed := (body first db).stateAfter db
  SameUpToTime committed ((body second committed).stateAfter committed) ∧
    (body second committed).result = (body first db).result

/-- A second run that repeats the result and changes nothing. -/
theorem retryIdempotent_of_again {β : Type}
    {body : Reading → SystemDatabase → Ending SystemDatabase DBOSError β} {first second : Reading}
    {db db' : SystemDatabase} {value : β} (hfirst : body first db = .returned value db')
    (hsecond : body second db' = .returned value db') : RetryIdempotent body first second db := by
  simp only [RetryIdempotent, hfirst, Ending.stateAfter_returned, hsecond, Ending.result_returned,
    and_true]
  exact .refl db'

/-! ## `init_workflow` -/

section Init

variable {call : InitCall} {now now' : ℤ} {db : SystemDatabase} {row : WorkflowStatusRow}

/-- What `init_workflow` answers when its upsert returned a matching row. -/
def InitCall.answer (call : InitCall) (row : WorkflowStatusRow) : Except DBOSError InitResult :=
  if call.exceedsRecoveryAttempts row then
    .error (.maxRecoveryAttemptsExceeded call.status.workflowUuid (call.maxRecoveryAttempts.getD 0))
  else .ok
    { status := row.status
      workflowDeadlineEpochMs := row.workflowDeadlineEpochMs
      shouldExecute := call.shouldExecute row
      serialization := row.serialization }

/-- The row that the upsert returned, after the dead-letter branch. -/
def InitCall.settled (call : InitCall) (row : WorkflowStatusRow) : WorkflowStatusRow :=
  if call.exceedsRecoveryAttempts row ∧ row.status = .pending then deadLetterUpdate row else row

theorem InitCall.workflowUuid_settled (call : InitCall) (now : ℤ) (row : WorkflowStatusRow) :
    (call.settled (call.conflictUpdate now row)).workflowUuid = row.workflowUuid := by
  unfold settled
  split
  · rfl
  · rfl

/-- A run on a stored workflow of the same name, class and configuration. -/
theorem initWorkflow_of_stored (now : ℤ)
    (hlookup : db.workflowStatus.lookup call.status.workflowUuid = some row)
    (hmatch : call.mismatch row = none) :
    (initWorkflow call now db).result = call.answer (call.conflictUpdate now row) ∧
      (initWorkflow call now db).stateAfter db =
        { db with
          workflowStatus := db.workflowStatus.update
            (fun r ↦ r.workflowUuid = call.status.workflowUuid)
            (fun r ↦ call.settled (call.conflictUpdate now r))
            (call.workflowUuid_settled now) } := by
  obtain ⟨hrow, hid⟩ := db.workflowStatus.lookup_eq_some.mp hlookup
  have hmatch' : call.mismatch (call.conflictUpdate now row) = none :=
    (mismatch_eq_of_sameIdentity ⟨rfl, rfl, rfl, rfl⟩).trans hmatch
  -- the row is the only one with its ID
  have honly {r : WorkflowStatusRow} (hr : r ∈ db.statusRows)
      (h : r.workflowUuid = call.status.workflowUuid) : r = row :=
    db.workflowStatus.eq_of_key hr hrow (h.trans hid.symm)
  simp only [initWorkflow, InitCall.upsert, hlookup, hmatch', InitCall.answer]
  by_cases hexceeds : call.exceedsRecoveryAttempts (call.conflictUpdate now row)
  · simp only [hexceeds, if_true, Ending.result_raisedAfterCommit,
      Ending.stateAfter_raisedAfterCommit, true_and]
    congr 1
    apply Table.ext
    simp only [Table.update, List.map_map]
    apply List.map_congr_left
    intro r hr
    by_cases h : r.workflowUuid = call.status.workflowUuid
    · obtain rfl := honly hr h
      have hid' : (call.conflictUpdate now r).workflowUuid = call.status.workflowUuid := h
      simp only [Function.comp, h, decide_true, if_true, hid', Bool.true_and, InitCall.settled,
        hexceeds, true_and, decide_eq_true_eq]
    · simp [h]
  · simp only [hexceeds, if_false, Bool.false_eq_true, Ending.result_returned,
      Ending.stateAfter_returned, true_and]
    congr 1
    apply Table.ext
    apply List.map_congr_left
    intro r hr
    by_cases h : r.workflowUuid = call.status.workflowUuid
    · obtain rfl := honly hr h
      simp [h, InitCall.settled, hexceeds]
    · simp [h]

/-- The status of the workflow when the call begins: the stored one, or else the given one. -/
def InitCall.statusBefore (call : InitCall) (db : SystemDatabase) : WorkflowStatusString :=
  match db.workflowStatus.lookup call.status.workflowUuid with
  | some row => row.status
  | none => call.status.status

/-- What a committed run leaves and answers, in terms of the row that its upsert returned. -/
theorem initWorkflow_committed (h : (initWorkflow call now db).Commits) :
    ∃ row, call.mismatch row = none ∧ row.status = call.statusBefore db ∧
      (call.status.status.isEnqueued = false → row.executorId = call.status.executorId) ∧
      ((initWorkflow call now db).stateAfter db).workflowStatus.lookup call.status.workflowUuid =
        some (call.settled row) ∧
      (initWorkflow call now db).result = call.answer row := by
  cases hlookup : db.workflowStatus.lookup call.status.workflowUuid with
  | some row =>
    obtain ⟨hrow, hid⟩ := db.workflowStatus.lookup_eq_some.mp hlookup
    have hmatch : call.mismatch row = none := by
      cases hmismatch : call.mismatch row with
      | none => rfl
      | some message =>
        rw [(initWorkflow_of_mem call now hrow hid).1 message hmismatch] at h
        exact absurd h id
    obtain ⟨hresult, hstate⟩ := initWorkflow_of_stored now hlookup hmatch
    refine ⟨call.conflictUpdate now row, ?_, ?_, ?_, ?_, hresult⟩
    · exact (mismatch_eq_of_sameIdentity ⟨rfl, rfl, rfl, rfl⟩).trans hmatch
    · simp only [InitCall.statusBefore, hlookup]
      rfl
    · intro hstarted
      simp [InitCall.conflictUpdate, hstarted]
    · rw [hstate, Table.lookup_update, hlookup]
      simp [hid]
  | none =>
    cases hupsert : call.upsert now db with
    | error error =>
      simp only [initWorkflow, hupsert] at h
      exact absurd h id
    | ok returned =>
      obtain ⟨row, db'⟩ := returned
      rcases upsert_eq_ok hupsert with ⟨row, hrow, hid, -⟩ | ⟨-, -, rfl, rows, hinsert, rfl⟩
      · exact absurd hid (db.workflowStatus.lookup_eq_none.mp hlookup row hrow)
      · have hexceeds : call.exceedsRecoveryAttempts (call.insertedRow now) = false :=
          exceedsRecoveryAttempts_insertedRow call
        have hsettled : call.settled (call.insertedRow now) = call.insertedRow now := by
          simp [InitCall.settled, hexceeds]
        refine ⟨call.insertedRow now, mismatch_insertedRow call now, ?_, fun _ ↦ rfl, ?_, ?_⟩
        · simp only [InitCall.statusBefore, hlookup]
          rfl
        · simp only [initWorkflow, hupsert, mismatch_insertedRow, hexceeds, Bool.false_eq_true,
            if_false, Ending.stateAfter_returned, hsettled]
          exact Table.lookup_insertNew_self hinsert
        · simp only [initWorkflow, hupsert, mismatch_insertedRow, hexceeds, Bool.false_eq_true,
            if_false, Ending.result_returned, InitCall.answer]

/-- Without a new attempt to count, the conflict update changes a timestamp only. -/
theorem conflictUpdate_eq (hsafe : call.forceExecute = false ∨ row.status.isEnqueued)
    (hexecutor : call.status.status.isEnqueued = false → row.executorId = call.status.executorId) :
    call.conflictUpdate now row = { row with updatedAt := now } := by
  have hattempts : (if row.status.isEnqueued then row.recoveryAttempts
      else row.recoveryAttempts + (if call.forceExecute then 1 else 0)) = row.recoveryAttempts := by
    rcases hsafe with hforce | hwaiting
    · simp [hforce]
    · simp [hwaiting]
  have hid : (if call.status.status.isEnqueued then row.executorId
      else call.status.executorId) = row.executorId := by
    split
    · rfl
    · rename_i hstarted
      exact (hexecutor (by simpa using hstarted)).symm
  simp only [InitCall.conflictUpdate, hattempts, hid]

theorem isEnqueued_settled (call : InitCall) (row : WorkflowStatusRow) :
    (call.settled row).status.isEnqueued = row.status.isEnqueued := by
  unfold InitCall.settled
  split
  · rename_i hdead
    rw [hdead.2]
    rfl
  · rfl

theorem executorId_settled (call : InitCall) (row : WorkflowStatusRow) :
    (call.settled row).executorId = row.executorId := by
  unfold InitCall.settled
  split
  · rfl
  · rfl

theorem recoveryAttempts_settled (call : InitCall) (row : WorkflowStatusRow) :
    (call.settled row).recoveryAttempts = row.recoveryAttempts := by
  unfold InitCall.settled
  split
  · rfl
  · rfl

/-- A workflow that went to the dead letters once stays there, and its answer does not change. -/
theorem settled_again (call : InitCall) (now : ℤ) (row : WorkflowStatusRow) :
    (call.settled { call.settled row with updatedAt := now }).timeless =
        (call.settled row).timeless ∧
      call.answer { call.settled row with updatedAt := now } = call.answer row := by
  by_cases hdead : call.exceedsRecoveryAttempts row ∧ row.status = .pending
  · have hsettled : call.settled row = deadLetterUpdate row := if_pos hdead
    have hexceeds : call.exceedsRecoveryAttempts { deadLetterUpdate row with updatedAt := now } =
        call.exceedsRecoveryAttempts row := by
      unfold InitCall.exceedsRecoveryAttempts
      rw [hdead.2]
      rfl
    rw [hsettled]
    constructor
    · simp [InitCall.settled, deadLetterUpdate, WorkflowStatusRow.timeless]
    · simp only [InitCall.answer, hexceeds, hdead.1, if_true]
  · have hsettled : call.settled row = row := if_neg hdead
    have hagain : call.settled { row with updatedAt := now } = { row with updatedAt := now } :=
      if_neg hdead
    rw [hsettled, hagain]
    exact ⟨rfl, rfl⟩

/-- A second `init_workflow` changes nothing exactly if it counts no attempt. -/
theorem retryIdempotent_initWorkflow_iff {first second : Reading}
    (hcommits : (initWorkflow call first.now db).Commits) :
    RetryIdempotent (fun r db ↦ initWorkflow call r.now db) first second db ↔
      call.forceExecute = false ∨ (call.statusBefore db).isEnqueued := by
  obtain ⟨row, hmatch, hstatus, hexecutor, hlookup, hresult⟩ := initWorkflow_committed hcommits
  simp only [RetryIdempotent, hresult]
  generalize (initWorkflow call first.now db).stateAfter db = committed at hlookup ⊢
  have hmatch' : call.mismatch (call.settled row) = none := by
    rw [← hmatch]
    apply mismatch_eq_of_sameIdentity
    unfold InitCall.settled
    split
    · exact ⟨rfl, rfl, rfl, rfl⟩
    · exact .refl row
  obtain ⟨hanswer, hstate⟩ := initWorkflow_of_stored second.now hlookup hmatch'
  rw [hanswer, hstate, ← hstatus]
  constructor
  · rintro ⟨hsame, -⟩
    by_contra hunsafe
    obtain ⟨hforce, hwaiting⟩ := not_or.mp hunsafe
    have hid := (committed.workflowStatus.lookup_eq_some.mp hlookup).2
    have hfound := hsame.lookup call.status.workflowUuid
    rw [Table.lookup_update, hlookup, Option.map_some, Option.map_some, Option.map_some,
      if_pos (by simp [hid]), Option.some.injEq] at hfound
    have hattempts := congrArg WorkflowStatusRow.recoveryAttempts hfound
    simp [WorkflowStatusRow.timeless, recoveryAttempts_settled, InitCall.conflictUpdate,
      isEnqueued_settled, hwaiting, hforce] at hattempts
  · intro hsafe
    rw [← isEnqueued_settled call row] at hsafe
    rw [← executorId_settled call row] at hexecutor
    rw [conflictUpdate_eq hsafe hexecutor]
    obtain ⟨htimeless, hanswer⟩ := settled_again call second.now row
    refine ⟨?_, hanswer⟩
    apply sameUpToTime_update
    intro r hr hid
    obtain ⟨hrow, hrowId⟩ := committed.workflowStatus.lookup_eq_some.mp hlookup
    rw [committed.workflowStatus.eq_of_key hr hrow ((of_decide_eq_true hid).trans hrowId.symm),
      conflictUpdate_eq hsafe hexecutor]
    exact htimeless

end Init

/-! ## Outcomes and queue assignments -/

section Outcome

variable {workflowId : String} {status : WorkflowStatusString} {output error : Option String}
  {db : SystemDatabase}

theorem workflowUuid_outcomeUpdate (now : ℤ) (status : WorkflowStatusString)
    (output error : Option String) (row : WorkflowStatusRow) :
    (outcomeUpdate now status output error row).workflowUuid = row.workflowUuid := rfl

/-- The assignment of `update_workflow_outcome`. -/
def assignOutcome (workflowId : String) (status : WorkflowStatusString) (output error : Option String)
    (now : ℤ) (db : SystemDatabase) : SystemDatabase :=
  { db with
    workflowStatus := db.workflowStatus.update
      (fun row ↦ row.workflowUuid = workflowId && row.status ≠ .cancelled)
      (outcomeUpdate now status output error) (workflowUuid_outcomeUpdate now status output error) }

/-- `update_workflow_outcome` by the stored row. -/
theorem updateWorkflowOutcome_eq (workflowId : String) (status : WorkflowStatusString)
    (output error : Option String) (now : ℤ) (db : SystemDatabase) :
    updateWorkflowOutcome workflowId status output error now db =
      if (db.workflowStatus.lookup workflowId).map WorkflowStatusRow.status = some .cancelled then
        .raised (.awaitedWorkflowCancelled workflowId)
      else
        .returned () (assignOutcome workflowId status output error now db) := by
  simp only [updateWorkflowOutcome, assignOutcome]
  cases hlookup : db.workflowStatus.lookup workflowId with
  | none => simp
  | some row =>
    obtain ⟨hrow, hid⟩ := db.workflowStatus.lookup_eq_some.mp hlookup
    by_cases hcancelled : row.status = .cancelled
    · have hcount : db.workflowStatus.count
          (fun r ↦ decide (r.workflowUuid = workflowId) && decide (r.status ≠ .cancelled)) = 0 := by
        rw [Table.count, List.countP_eq_zero]
        intro r hr hmatched
        simp only [Bool.and_eq_true, decide_eq_true_eq] at hmatched
        apply hmatched.2
        rw [db.workflowStatus.eq_of_key hr hrow (hmatched.1.trans hid.symm)]
        exact hcancelled
      simp only [hcount, hcancelled, Option.map_some, if_true]
    · simp [hcancelled]

theorem lookup_assignOutcome (now : ℤ)
    (h : (db.workflowStatus.lookup workflowId).map WorkflowStatusRow.status ≠ some .cancelled) :
    ((assignOutcome workflowId status output error now db).workflowStatus.lookup workflowId).map
        WorkflowStatusRow.status =
      (db.workflowStatus.lookup workflowId).map fun _ ↦ status := by
  have hupdated : (assignOutcome workflowId status output error now db).workflowStatus.lookup
      workflowId = _ :=
    Table.lookup_update db.workflowStatus _ (outcomeUpdate now status output error)
      (fun _ ↦ rfl) workflowId
  rw [hupdated]
  cases hlookup : db.workflowStatus.lookup workflowId with
  | none => rfl
  | some row =>
    have hid := (db.workflowStatus.lookup_eq_some.mp hlookup).2
    have hactive : row.status ≠ .cancelled := by
      simpa [hlookup] using h
    simp [hid, hactive, outcomeUpdate]

theorem sameUpToTime_assignOutcome (first second : ℤ) (db : SystemDatabase) :
    SameUpToTime (assignOutcome workflowId status output error first db)
      (assignOutcome workflowId status output error second
        (assignOutcome workflowId status output error first db)) := by
  apply sameUpToTime_update
  intro row hrow hmatched
  obtain ⟨old, -, rfl⟩ := Table.mem_update.mp hrow
  by_cases hold : (decide (old.workflowUuid = workflowId) && decide (old.status ≠ .cancelled)) = true
  · rw [if_pos hold]
    rfl
  · rw [if_neg hold] at hmatched
    exact absurd hmatched hold

/-- A second `update_workflow_outcome` finds its own status, and a stored `CANCELLED` stops it. -/
theorem retryIdempotent_updateWorkflowOutcome_iff {first second : Reading}
    (hcommits : (updateWorkflowOutcome workflowId status output error first.now db).Commits) :
    RetryIdempotent (fun r db ↦ updateWorkflowOutcome workflowId status output error r.now db)
        first second db ↔
      status ≠ .cancelled ∨ db.hasWorkflow workflowId = false := by
  have hnot : ¬(db.workflowStatus.lookup workflowId).map WorkflowStatusRow.status =
      some .cancelled := by
    intro hcancelled
    rw [updateWorkflowOutcome_eq, if_pos hcancelled] at hcommits
    exact hcommits
  have hfirst : updateWorkflowOutcome workflowId status output error first.now db =
      .returned () (assignOutcome workflowId status output error first.now db) := by
    rw [updateWorkflowOutcome_eq, if_neg hnot]
  simp only [RetryIdempotent, hfirst, Ending.stateAfter_returned, Ending.result_returned,
    updateWorkflowOutcome_eq workflowId status output error second.now, lookup_assignOutcome _ hnot]
  by_cases hsafe : status ≠ .cancelled ∨ db.hasWorkflow workflowId = false
  · have hnone : ¬(db.workflowStatus.lookup workflowId).map (fun _ ↦ status) = some .cancelled := by
      rcases hsafe with hstatus | hmissing
      · simp [hstatus]
      · rw [SystemDatabase.hasWorkflow, Option.isSome_eq_false_iff, Option.isNone_iff_eq_none]
          at hmissing
        simp [hmissing]
    simp only [if_neg hnone, hsafe, iff_true, Ending.stateAfter_returned, Ending.result_returned,
      and_true]
    exact sameUpToTime_assignOutcome first.now second.now db
  · have hsome : (db.workflowStatus.lookup workflowId).map (fun _ ↦ status) = some .cancelled := by
      obtain ⟨hstatus, hworkflow⟩ := not_or.mp hsafe
      rw [Bool.not_eq_false] at hworkflow
      obtain ⟨row, hrow⟩ := Option.isSome_iff_exists.mp hworkflow
      rw [hrow, Option.map_some, not_not.mp hstatus]
    simp [hsome, hsafe]

/-- A cleared assignment is not pending any more. -/
theorem clearQueueAssignment_clearQueueAssignment (workflowId : String) (db : SystemDatabase) :
    clearQueueAssignment workflowId (clearQueueAssignment workflowId db) =
      clearQueueAssignment workflowId db := by
  unfold clearQueueAssignment
  congr 1
  apply Table.ext
  simp only [Table.update, List.map_map]
  apply List.map_congr_left
  intro row _
  simp only [Function.comp]
  split
  · simp [clearQueueUpdate]
  · rfl

end Outcome

/-! ## Checkpoints -/

section Checkpoints

variable {V : Type} {executorId : Option String} {first second : Reading} {db : SystemDatabase}

theorem retryIdempotent_recordOperationResult {result : OperationResultInternal} {completedAt : ℤ}
    (hcommits : (recordOperationResult executorId result completedAt db).Commits) :
    RetryIdempotent (fun _ db ↦ recordOperationResult executorId result completedAt db)
      first second db := by
  obtain ⟨value, db', hok⟩ := Ending.commits_ofExcept hcommits
  obtain ⟨recorded, hrecord, heq⟩ := map_eq_ok.mp hok
  cases heq
  apply retryIdempotent_of_again (congrArg Ending.ofExcept hok)
  simp only [recordOperationResult, recordOperationResultTxn_again hrecord, Except.map,
    Ending.ofExcept_ok]

theorem retryIdempotent_recordChildWorkflow {parentId childId functionName : String}
    {functionId : ℤ}
    (hcommits : (recordChildWorkflow parentId childId functionId functionName db).Commits) :
    RetryIdempotent (fun _ db ↦ recordChildWorkflow parentId childId functionId functionName db)
      first second db := by
  by_cases hempty : childId = ""
  · simp only [recordChildWorkflow, if_pos hempty] at hcommits
    exact absurd hcommits id
  set row : OperationOutputRow :=
    { workflowUuid := parentId, functionId := functionId, functionName := functionName,
      childWorkflowId := some childId } with hrow
  cases hinsert : db.operationOutputs.insertNew row with
  | none =>
    -- the first run already found the row
    have hagain : recordChildWorkflow parentId childId functionId functionName db =
        .returned () db := by
      simp only [recordChildWorkflow, if_neg hempty, ← hrow, hinsert] at hcommits ⊢
      split at hcommits
      · split at hcommits
        · rename_i hchild
          rw [if_pos hchild]
        · exact absurd hcommits id
      · exact absurd hcommits id
    exact retryIdempotent_of_again hagain hagain
  | some outputs =>
    have hlookup : outputs.lookup (parentId, functionId) = some row :=
      Table.lookup_insertNew_self hinsert
    have hfirst : recordChildWorkflow parentId childId functionId functionName db =
        .returned () { db with operationOutputs := outputs } := by
      simp only [recordChildWorkflow, if_neg hempty, ← hrow, hinsert] at hcommits ⊢
      split at hcommits
      · rename_i hparent
        rw [if_pos hparent]
      · exact absurd hcommits id
    apply retryIdempotent_of_again hfirst
    simp only [recordChildWorkflow, if_neg hempty, ← hrow, Table.insertNew_again hinsert, hlookup]
    exact if_pos rfl

theorem retryIdempotent_recordGetResult {workflowId resultWorkflowId : String} {functionId : ℤ}
    {output error serialization : Option String}
    (hcommits : (recordGetResult workflowId functionId resultWorkflowId output error serialization
      db).Commits) :
    RetryIdempotent (fun _ db ↦ recordGetResult workflowId functionId resultWorkflowId output error
      serialization db) first second db := by
  set row : OperationOutputRow :=
    { workflowUuid := workflowId, functionId := functionId, functionName := "DBOS.getResult",
      output := output, error := error, childWorkflowId := some resultWorkflowId,
      serialization := serialization } with hrow
  cases hinsert : db.operationOutputs.insertNew row with
  | none =>
    have hagain : recordGetResult workflowId functionId resultWorkflowId output error serialization
        db = .returned () db := by
      simp only [recordGetResult, ← hrow, hinsert]
    exact retryIdempotent_of_again hagain hagain
  | some outputs =>
    have hfirst : recordGetResult workflowId functionId resultWorkflowId output error serialization
        db = .returned () { db with operationOutputs := outputs } := by
      simp only [recordGetResult, ← hrow, hinsert] at hcommits ⊢
      split at hcommits
      · rename_i hworkflow
        rw [if_pos hworkflow]
      · exact absurd hcommits id
    apply retryIdempotent_of_again hfirst
    simp only [recordGetResult, ← hrow, Table.insertNew_again hinsert]

theorem retryIdempotent_patch {workflowId patchName : String} {functionId : ℤ}
    (hcommits : (patch executorId workflowId functionId patchName first.startTime first.completedAt
      db).Commits) :
    RetryIdempotent (fun r db ↦ patch executorId workflowId functionId patchName r.startTime
      r.completedAt db) first second db := by
  cases hlookup : db.operationOutputs.lookup (workflowId, functionId) with
  | some stored =>
    have hagain (r : Reading) : patch executorId workflowId functionId patchName r.startTime
        r.completedAt db = .returned (stored.functionName = patchName) db := by
      simp only [patch, hlookup]
    exact retryIdempotent_of_again (hagain first) (hagain second)
  | none =>
    simp only [patch, hlookup] at hcommits
    obtain ⟨value, db', hok⟩ := Ending.commits_ofExcept hcommits
    obtain ⟨recorded, hrecord, heq⟩ := map_eq_ok.mp hok
    cases heq
    have hstored := (recordOperationResultTxn_new hrecord hlookup).1
    have hfirst : patch executorId workflowId functionId patchName first.startTime first.completedAt
        db = .returned true db' := by
      simp only [patch, hlookup, hrecord, Except.map, Ending.ofExcept_ok]
    apply retryIdempotent_of_again hfirst
    have hkey : db'.operationOutputs.lookup (workflowId, functionId) = some _ := hstored
    simp only [patch, hkey, OperationResultInternal.row, decide_true]

theorem retryIdempotent_callTxnAsStep {serializers : Serializers V} {op : TxnOp serializers}
    {workflowUuid functionName : String} {functionId : ℤ}
    (hcommits : (callTxnAsStep serializers ⟨executorId, workflowUuid, functionId, functionName,
      first.startTime, first.completedAt⟩ (op.run first.now) db).Commits) :
    RetryIdempotent (fun r db ↦ callTxnAsStep serializers ⟨executorId, workflowUuid, functionId,
      functionName, r.startTime, r.completedAt⟩ (op.run r.now) db) first second db := by
  obtain ⟨value, db', hok⟩ := Ending.commits_ofExcept hcommits
  apply retryIdempotent_of_again (congrArg Ending.ofExcept hok)
  rw [callTxnAsStep, Ending.ofExcept_eq_returned]
  apply recordedStep_again rfl ?_ ?_ hok
  · intro value output middle hwork
    obtain ⟨⟨result, after⟩, hrun, hrest⟩ := bind_eq_ok.mp hwork
    obtain ⟨text, -, hpure⟩ := bind_eq_ok.mp hrest
    cases hpure
    exact op.keepsCheckpoints first.now db value middle hrun
  · intro value output middle hwork
    obtain ⟨⟨result, after⟩, hrun, hrest⟩ := bind_eq_ok.mp hwork
    obtain ⟨text, htext, hpure⟩ := bind_eq_ok.mp hrest
    cases hpure
    exact op.roundTrips first.now db value middle hrun text htext

end Checkpoints

/-! ## Events, streams and messages -/

section Messages

variable {V : Type} {serializers : Serializers V} {executorId : Option String}
  {first second : Reading} {workflowUuid key : String} {functionId : ℤ}
  {format : WorkflowSerializationFormat} {db : SystemDatabase}

theorem retryIdempotent_setEventFromWorkflow {message : V}
    (hcommits : (setEventFromWorkflow serializers executorId workflowUuid functionId key message
      format first.startTime first.completedAt db).Commits) :
    RetryIdempotent (fun r db ↦ setEventFromWorkflow serializers executorId workflowUuid functionId
      key message format r.startTime r.completedAt db) first second db := by
  obtain ⟨value, db', hok⟩ := Ending.commits_ofExcept hcommits
  apply retryIdempotent_of_again (congrArg Ending.ofExcept hok)
  obtain ⟨⟨serval, serialization⟩, hserialize, hstep⟩ := bind_eq_ok.mp hok
  rw [setEventFromWorkflow, Ending.ofExcept_eq_returned]
  refine bind_eq_ok.mpr ⟨_, hserialize, recordedStep_again rfl ?_ (fun _ _ _ _ ↦ rfl) hstep⟩
  intro value output middle hwork
  cases hwork
  exact ⟨rfl, fun _ ↦ rfl⟩

theorem retryIdempotent_writeStreamFromWorkflow {isClosed : V → Bool} {value : V}
    (hcommits : (writeStreamFromWorkflow serializers executorId isClosed workflowUuid functionId key
      value format first.startTime first.completedAt db).Commits) :
    RetryIdempotent (fun r db ↦ writeStreamFromWorkflow serializers executorId isClosed workflowUuid
      functionId key value format r.startTime r.completedAt db) first second db := by
  obtain ⟨result, db', hok⟩ := Ending.commits_ofExcept hcommits
  apply retryIdempotent_of_again (congrArg Ending.ofExcept hok)
  obtain ⟨⟨serialized, serialization⟩, hserialize, hstep⟩ := bind_eq_ok.mp hok
  rw [writeStreamFromWorkflow, Ending.ofExcept_eq_returned]
  refine bind_eq_ok.mpr ⟨_, hserialize, recordedStep_again rfl ?_ (fun _ _ _ _ ↦ rfl) hstep⟩
  intro value output middle hwork
  obtain ⟨appended, happend, hpure⟩ := bind_eq_ok.mp hwork
  cases hpure
  rw [appendStream_eq_ok happend]
  exact ⟨rfl, fun _ ↦ rfl⟩

theorem keepsCheckpoints_consumeMessage {topic : String} {message : V}
    {serialization : Option String} {db' : SystemDatabase}
    (h : consumeMessage serializers workflowUuid topic db = .ok (message, serialization, db')) :
    KeepsCheckpoints db db' := by
  unfold consumeMessage at h
  split at h
  · cases h
    exact .refl db
  · obtain ⟨message, -, hpure⟩ := bind_eq_ok.mp h
    cases hpure
    exact ⟨rfl, fun _ ↦ rfl⟩

/-- The message that was consumed is read from a column under the serialization it returns. -/
theorem exists_source_of_consumeMessage {topic : String} {message : V}
    {serialization : Option String} {db' : SystemDatabase}
    (h : consumeMessage serializers workflowUuid topic db = .ok (message, serialization, db')) :
    ∃ source, serializers.deserializeValue source serialization = .ok message := by
  unfold consumeMessage at h
  split at h
  · cases h
    exact ⟨none, rfl⟩
  · obtain ⟨message, hread, hpure⟩ := bind_eq_ok.mp h
    cases hpure
    exact ⟨_, hread⟩

theorem retryIdempotent_recvConsume (hlawful : serializers.Lawful) {topic : Option String}
    {startTime : ℤ}
    (hcommits : (recvConsume serializers executorId workflowUuid functionId topic startTime
      first.completedAt db).Commits) :
    RetryIdempotent (fun r db ↦ recvConsume serializers executorId workflowUuid functionId topic
      startTime r.completedAt db) first second db := by
  obtain ⟨message, db', hok⟩ := Ending.commits_ofExcept hcommits
  apply retryIdempotent_of_again (congrArg Ending.ofExcept hok)
  rw [recvConsume, Ending.ofExcept_eq_returned]
  cases hlookup : db.operationOutputs.lookup (workflowUuid, functionId) with
  | some recorded =>
    simp only [hlookup] at hok
    obtain ⟨replayed, hread, hpure⟩ := bind_eq_ok.mp hok
    cases hpure
    simp only [hlookup]
    exact hok
  | none =>
    simp only [hlookup] at hok
    obtain ⟨⟨consumed, serialization, middle⟩, hconsume, hrest⟩ := bind_eq_ok.mp hok
    obtain ⟨⟨sermsg, name⟩, hwrite, hrest⟩ := bind_eq_ok.mp hrest
    obtain ⟨recorded, hrecord, hpure⟩ := bind_eq_ok.mp hrest
    cases hpure
    have hkeeps := keepsCheckpoints_consumeMessage hconsume
    rw [← hkeeps.1] at hlookup
    have hstored : db'.operationOutputs.lookup (workflowUuid, functionId) = some _ :=
      (recordOperationResultTxn_new hrecord hlookup).1
    obtain ⟨source, hread⟩ := exists_source_of_consumeMessage hconsume
    simp only [hstored]
    exact bind_eq_ok.mpr
      ⟨consumed, Serializers.deserializeValue_serializeValueAs hlawful hread hwrite, rfl⟩

/-! ### `send_bulk` -/

variable {call : SendBulkCall V}

theorem keepsCheckpoints_deliver {prepared : List PreparedMessage} {now : ℤ} {uuids : ℕ → String}
    {db' : SystemDatabase} (h : deliver call prepared now uuids db = .ok db') :
    KeepsCheckpoints db db' := by
  rw [(insertNotifications_eq_some (deliver_eq_ok h)).1]
  exact ⟨rfl, fun _ ↦ rfl⟩

/-- Inside a workflow, the checkpoint of the step stops a second run. -/
theorem sendBulkTxn_again {db' : SystemDatabase} (hworkflow : call.workflowId.isSome)
    (h : sendBulkTxn serializers executorId call first.now first.startTime first.completedAt
      first.uuids db = .ok db') :
    sendBulkTxn serializers executorId call second.now second.startTime second.completedAt
      second.uuids db' = .ok db' := by
  obtain ⟨hreject, prepared, hprepared,
    ⟨hnone, -⟩ | ⟨workflowId, functionId, hworkflowId, hfunction, hstep⟩⟩ := sendBulkTxn_eq_ok h
  · rw [hnone] at hworkflow
    cases hworkflow
  · refine bind_eq_ok.mpr ⟨(), hreject, bind_eq_ok.mpr ⟨prepared, hprepared, ?_⟩⟩
    simp only [hworkflowId, hfunction]
    refine bind_eq_ok.mpr ⟨((), db'), recordedStep_again rfl ?_ (fun _ _ _ _ ↦ rfl) hstep, rfl⟩
    intro value output middle hwork
    obtain ⟨delivered, hdeliver, hpure⟩ := bind_eq_ok.mp hwork
    cases hpure
    exact keepsCheckpoints_deliver hdeliver

/-- Outside a workflow, a second run delivers the batch again. -/
theorem sendBulkTxn_outside {prepared : List PreparedMessage} (hworkflow : call.workflowId = none)
    (hreject : rejectDuplicateKeys call.messages = .ok ())
    (hprepared : call.messages.mapM (prepareMessage serializers call.serializationType) =
      .ok prepared) (r : Reading) (db : SystemDatabase) :
    sendBulkTxn serializers executorId call r.now r.startTime r.completedAt r.uuids db =
      deliver call prepared r.now r.uuids db := by
  simp only [sendBulkTxn, hreject, hprepared, hworkflow]
  rfl

/-- With a key for every message, all message IDs of the second run are taken. -/
theorem deliver_again {prepared : List PreparedMessage} {db' : SystemDatabase}
    (hkeys : ∀ m ∈ prepared, m.idempotencyKey.isSome)
    (h : deliver call prepared first.now first.uuids db = .ok db') :
    deliver call prepared second.now second.uuids db' = .ok db' := by
  obtain ⟨heq, -, htaken⟩ := insertNotifications_eq_some (deliver_eq_ok h)
  have hstatus : db'.workflowStatus = db.workflowStatus := by rw [heq]
  unfold deliver
  rw [insertNotifications_of_taken]
  intro row hrow
  have hmem := List.mem_map_of_mem (f := NotificationRow.messageUuid) hrow
  rw [messageUuids_of_keys hkeys hstatus first.now second.now first.uuids second.uuids] at hmem
  obtain ⟨row', hrow', hsame⟩ := List.mem_map.mp hmem
  obtain ⟨stored, hstored, hkey⟩ := htaken row' hrow'
  exact ⟨stored, hstored, hkey.trans hsame⟩

/-- A message without a key is stored under a generated ID. -/
theorem exists_mem_of_deliver {prepared : List PreparedMessage} {m : PreparedMessage}
    {db' : SystemDatabase} (hm : m ∈ prepared) (hkey : m.idempotencyKey = none)
    (h : deliver call prepared second.now second.uuids db = .ok db') :
    ∃ i, ∃ row ∈ db'.notifications.rows, row.messageUuid = second.uuids i := by
  obtain ⟨row, hrow, i, hi⟩ := exists_generated hm hkey second.now second.uuids call.sendToForks db
  obtain ⟨stored, hstored, hsame⟩ := (insertNotifications_eq_some (deliver_eq_ok h)).2.2 row hrow
  exact ⟨i, stored, hstored, hsame.trans hi⟩

/-- Under an ID that is not taken, such a message is a new row. -/
theorem not_sameUpToTime_of_deliver {prepared : List PreparedMessage} {m : PreparedMessage}
    {db' : SystemDatabase} (hm : m ∈ prepared) (hkey : m.idempotencyKey = none)
    (hfresh : ∀ i, ∀ row ∈ db.notifications.rows, row.messageUuid ≠ second.uuids i)
    (h : deliver call prepared second.now second.uuids db = .ok db') : ¬SameUpToTime db db' := by
  intro hsame
  obtain ⟨i, row, hrow, hid⟩ := exists_mem_of_deliver hm hkey h
  have htimeless := List.mem_map_of_mem (f := NotificationRow.timeless) hrow
  rw [hsame.notifications] at htimeless
  obtain ⟨old, hold, heq⟩ := List.mem_map.mp htimeless
  have hsameId : old.timeless.messageUuid = row.timeless.messageUuid := by rw [heq]
  exact hfresh i old hold (hsameId.trans hid)

/-- A second `send_bulk` with fresh IDs changes nothing exactly if it has a checkpoint or a key for
every message. -/
theorem retryIdempotent_sendBulk_iff
    (hcommits : (sendBulk serializers executorId call first.now first.startTime first.completedAt
      first.uuids db).Commits)
    (hfresh : ∀ i, ∀ row ∈ ((sendBulk serializers executorId call first.now first.startTime
      first.completedAt first.uuids db).stateAfter db).notifications.rows,
        row.messageUuid ≠ second.uuids i) :
    RetryIdempotent (fun r db ↦ sendBulk serializers executorId call r.now r.startTime r.completedAt
        r.uuids db) first second db ↔
      call.workflowId.isSome ∨ ∀ m ∈ call.messages, m.idempotencyKey.isSome := by
  obtain ⟨⟨⟩, db', hok⟩ := Ending.commits_ofExcept hcommits
  have hfirst : sendBulk serializers executorId call first.now first.startTime first.completedAt
      first.uuids db = .returned () db' := Ending.ofExcept_eq_returned.mpr hok
  rw [hfirst, Ending.stateAfter_returned] at hfresh
  obtain ⟨committed, hsent, heq⟩ := map_eq_ok.mp hok
  cases heq
  have hagain (h : sendBulkTxn serializers executorId call second.now second.startTime
      second.completedAt second.uuids db' = .ok db') :
      RetryIdempotent (fun r db ↦ sendBulk serializers executorId call r.now r.startTime
        r.completedAt r.uuids db) first second db := by
    apply retryIdempotent_of_again hfirst
    simp only [sendBulk, h, Except.map, Ending.ofExcept_ok]
  cases hworkflow : call.workflowId with
  | some workflowId =>
    simp only [Option.isSome_some, true_or, iff_true]
    exact hagain (sendBulkTxn_again (by simp [hworkflow]) hsent)
  | none =>
    simp only [Option.isSome_none, Bool.false_eq_true, false_or]
    obtain ⟨hreject, prepared, hprepared, -⟩ := sendBulkTxn_eq_ok hsent
    have houtside (r : Reading) (db : SystemDatabase) :
        sendBulkTxn serializers executorId call r.now r.startTime r.completedAt r.uuids db = _ :=
      sendBulkTxn_outside hworkflow hreject hprepared r db
    rw [houtside first] at hsent
    rw [← keys_prepared_iff hprepared]
    constructor
    · rintro ⟨hsame, hresult⟩ m hm
      by_contra hkey
      have hnone : m.idempotencyKey = none := by simpa using hkey
      simp only [hfirst, Ending.stateAfter_returned, Ending.result_returned] at hsame hresult
      simp only [sendBulk, houtside second] at hsame hresult
      -- either the second run fails, or it stores a message under a fresh ID
      cases hdeliver : deliver call prepared second.now second.uuids db' with
      | error error =>
        rw [hdeliver] at hresult
        cases hresult
      | ok final =>
        rw [hdeliver] at hsame
        exact not_sameUpToTime_of_deliver hm hnone hfresh hdeliver hsame
    · intro hall
      apply hagain
      rw [houtside second]
      exact deliver_again hall hsent

end Messages

/-! ## All writes -/

/-- The calls that may run twice: an `init_workflow` that counts no attempt, an outcome that is not
`CANCELLED`, a batch with a checkpoint or a key for every message, and all others. -/
def WriteCall.RetrySafe {V : Type} {context : WriteContext V} (db : SystemDatabase) :
    WriteCall context → Prop
  | .initWorkflow call => call.forceExecute = false ∨ (call.statusBefore db).isEnqueued
  | .updateWorkflowOutcome workflowId status _ _ =>
    status ≠ .cancelled ∨ db.hasWorkflow workflowId = false
  | .sendBulk call => call.workflowId.isSome ∨ ∀ m ∈ call.messages, m.idempotencyKey.isSome
  | _ => True

/-- A write that committed, run a second time at other clock readings and with IDs that are not
taken, changes timestamps only and returns the same exactly if it is one of the safe calls. -/
theorem retryIdempotent_iff {V : Type} (context : WriteContext V)
    (hlawful : context.serializers.Lawful) (call : WriteCall context) (first second : Reading)
    (db : SystemDatabase) (hcommits : (call.run first db).Commits)
    (hfresh : ∀ i, ∀ row ∈ ((call.run first db).stateAfter db).notifications.rows,
      row.messageUuid ≠ second.uuids i) :
    RetryIdempotent call.run first second db ↔ call.RetrySafe db := by
  cases call with
  | initWorkflow call => exact retryIdempotent_initWorkflow_iff hcommits
  | updateWorkflowOutcome workflowId status output error =>
    exact retryIdempotent_updateWorkflowOutcome_iff hcommits
  | sendBulk call => exact retryIdempotent_sendBulk_iff hcommits hfresh
  | recordOperationResult result completedAt =>
    exact iff_of_true (retryIdempotent_recordOperationResult hcommits) trivial
  | recordChildWorkflow parentId childId functionId functionName =>
    exact iff_of_true (retryIdempotent_recordChildWorkflow hcommits) trivial
  | recordGetResult workflowId functionId resultWorkflowId output error serialization =>
    exact iff_of_true (retryIdempotent_recordGetResult hcommits) trivial
  | recvConsume workflowUuid functionId topic startTime =>
    exact iff_of_true (retryIdempotent_recvConsume hlawful hcommits) trivial
  | setEventFromWorkflow workflowUuid functionId key message serializationType =>
    exact iff_of_true (retryIdempotent_setEventFromWorkflow hcommits) trivial
  | writeStreamFromWorkflow workflowUuid functionId key value serializationType =>
    exact iff_of_true (retryIdempotent_writeStreamFromWorkflow hcommits) trivial
  | patch workflowId functionId patchName =>
    exact iff_of_true (retryIdempotent_patch hcommits) trivial
  | clearQueueAssignment workflowId =>
    refine iff_of_true (retryIdempotent_of_again rfl ?_) trivial
    simp only [WriteCall.run, clearQueueAssignment_clearQueueAssignment]
  | callTxnAsStep workflowUuid functionId functionName op =>
    exact iff_of_true (retryIdempotent_callTxnAsStep hcommits) trivial

/-! ## Two runs -/

/-- A process with the built-in serializers. -/
def booleanContext : WriteContext (Option Bool) where
  serializers := booleanSerializers
  executorId := some "local"
  isClosed _ := false

/-- One message to the running workflow, from outside a workflow. -/
def sendTrue (idempotencyKey : Option String) : WriteCall booleanContext :=
  .sendBulk
    { messages := [{ destinationId := "wf", message := some true, idempotencyKey := idempotencyKey }]
      functionName := "DBOS.send" }

/-- A recovery of the running workflow. -/
def recoverRunning : WriteCall booleanContext :=
  .initWorkflow
    { status := { workflowUuid := "wf", status := .pending, name := "f" }
      isRecoveryRequest := true }

def firstReading : Reading where
  now := 10
  startTime := 10
  completedAt := 10
  uuids _ := "0d9e"

def secondReading : Reading where
  now := 1010
  startTime := 1010
  completedAt := 1010
  uuids _ := "7a41"

theorem retryIdempotent_sendWithKey :
    RetryIdempotent (sendTrue (some "k")).run firstReading secondReading runningWorkflow := by
  apply (retryIdempotent_iff booleanContext lawful_booleanSerializers (sendTrue (some "k")) firstReading
    secondReading runningWorkflow trivial ?_).mpr
  · exact Or.inr (by decide)
  · intro i
    have hid : secondReading.uuids i = "7a41" := rfl
    rw [hid]
    decide

theorem roundTrips_bounced (result : DebounceResult) :
    booleanSerializers.configured.RoundTrips (some result.bouncedWorkflowId.isSome) := by
  cases result.bouncedWorkflowId.isSome with
  | true => exact lawful_booleanSerializers.configured.2 _ "gASILg==" rfl
  | false => exact lawful_booleanSerializers.configured.2 _ "gASJLg==" rfl

/-- A running workflow, and a debounced one that is delayed. -/
def delayedWorkflow : SystemDatabase :=
  { runningWorkflow with
    workflowStatus := runningWorkflow.workflowStatus.insertIgnore
      { workflowUuid := "later"
        status := .delayed
        name := "f"
        queueName := some "q"
        deduplicationId := some "k"
        isDebounced := true
        delayUntilEpochMs := some 2000 } }

/-- A bounce of the delayed workflow, which tells the program whether there was one to bounce. -/
def bounceDelayed : TxnOp booleanSerializers :=
  .debounce
    { workflowName := "f"
      queueName := "q"
      deduplicationId := "k"
      delayUntilEpochMs := 5000
      inputs := "gASILg=="
      serialization := none }
    (fun result ↦ some result.bouncedWorkflowId.isSome) roundTrips_bounced

/-- A replayed bounce leaves the delay that the first run gave. -/
example : RetryIdempotent
    (.callTxnAsStep "wf" 0 "DBOS.debounce_delayed_workflow" bounceDelayed :
      WriteCall booleanContext).run firstReading secondReading delayedWorkflow :=
  retryIdempotent_callTxnAsStep (by trivial)

/-- A message without a key is stored twice, and a recovery is counted twice. -/
theorem not_retryIdempotent_sendWithoutKey_recovery :
    ¬RetryIdempotent (sendTrue none).run firstReading secondReading runningWorkflow ∧
      ¬RetryIdempotent recoverRunning.run firstReading secondReading runningWorkflow := by
  constructor
  · intro h
    have hlength := congrArg List.length h.1.notifications
    revert hlength
    decide
  · intro h
    have hattempts := congrArg (List.map WorkflowStatusRow.recoveryAttempts) h.1.workflowStatus
    revert hattempts
    decide

end DBOSModel.SysDb

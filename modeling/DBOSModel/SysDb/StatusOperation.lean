import DBOSModel.Core.InitWorkflow
import DBOSModel.SysDb.Dequeue
import DBOSModel.SysDb.Fork

/-!
# One step of the status table

`StatusOp` lists the transactions that write `workflow_status`. `mem_apply` says once what they
can do: a row afterwards is an old row changed in one of the ways of `RowChange`, each with the
guard of its `WHERE` clause, or it is new. The invariants over runs are derived from it.

A status that reaches `init_workflow` comes from one of its builders, and the executors finalize
a workflow with SUCCESS or ERROR only; both facts are part of the operation.
-/

namespace DBOSModel.SysDb

open Relational DBOSModel.Core

inductive StatusOp where
  | init (call : InitCall) (built : Built call.status)
  | outcome (workflowId : String) (status : WorkflowStatusString)
      (complete : status.isComplete = true) (output error : Option String)
  | cancel (workflowIds : List String)
  | resume (workflowIds : List String) (queueName : Option String)
  | setDelay (workflowId : String) (delaySeconds : Option ℚ) (delayUntilEpochMs : Option ℤ)
      (time : ℚ)
  | debounce (call : DebounceCall)
  | transition (nowMs : ℤ)
  | startQueued (call : DequeueCall)
  | clear (workflowId : String)
  | fork (call : ForkCall)
  | delete (workflowIds : List String)
  | collect (cutoffEpochTimestampMs : ℤ) (batch : Option (ℤ × ℤ))

namespace StatusOp

/-- The database after the transaction; `now` is the database clock. -/
def apply (op : StatusOp) (now : ℤ) (db : SystemDatabase) : SystemDatabase :=
  match op with
  | init call _ => (initWorkflow call now db).stateAfter db
  | outcome workflowId status _ output error =>
    (updateWorkflowOutcome workflowId status output error now db).stateAfter db
  | cancel workflowIds => cancelWorkflows workflowIds now db
  | resume workflowIds queueName => resumeWorkflows workflowIds queueName now db
  | setDelay workflowId delaySeconds delayUntilEpochMs time =>
    (setWorkflowDelay workflowId delaySeconds delayUntilEpochMs time now db).stateAfter db
  | debounce call => (debounceDelayedWorkflow call now db).2
  | transition nowMs => transitionDelayedWorkflows nowMs db
  | startQueued call => (startQueuedWorkflows call now db).2
  | clear workflowId => clearQueueAssignment workflowId db
  | fork call => (forkWorkflow call now db).stateAfter db
  | delete workflowIds => deleteWorkflows workflowIds db
  | collect cutoff batch => gcDelete cutoff batch db

/-- The rows that the operation deletes. -/
def deletes (op : StatusOp) (row : WorkflowStatusRow) : Bool :=
  match op with
  | delete workflowIds => row.workflowUuid ∈ workflowIds
  | collect cutoff batch => gcMatches cutoff batch row
  | _ => false

end StatusOp

/-- What one operation can do to an existing row. -/
inductive RowChange (now : ℤ) (db : SystemDatabase) :
    StatusOp → WorkflowStatusRow → WorkflowStatusRow → Prop
  | unchanged (op : StatusOp) (row : WorkflowStatusRow) : RowChange now db op row row
  | conflict (call : InitCall) (built : Built call.status) (row : WorkflowStatusRow)
      (hid : row.workflowUuid = call.status.workflowUuid) :
      RowChange now db (.init call built) row (call.conflictUpdate now row)
  | deadLetter (call : InitCall) (built : Built call.status) (row : WorkflowStatusRow)
      (hid : row.workflowUuid = call.status.workflowUuid) (hstatus : row.status = .pending)
      (hmatch : call.mismatch row = none)
      (hexceeds : call.exceedsRecoveryAttempts (call.conflictUpdate now row)) :
      RowChange now db (.init call built) row (deadLetterUpdate (call.conflictUpdate now row))
  | outcome (workflowId : String) (status : WorkflowStatusString)
      (complete : status.isComplete = true) (output error : Option String)
      (row : WorkflowStatusRow) (hid : row.workflowUuid = workflowId)
      (hstatus : row.status ≠ .cancelled) :
      RowChange now db (.outcome workflowId status complete output error) row
        (outcomeUpdate now status output error row)
  | cancel (workflowIds : List String) (row : WorkflowStatusRow)
      (hid : row.workflowUuid ∈ workflowIds) (hstatus : row.status.isComplete = false) :
      RowChange now db (.cancel workflowIds) row (cancelUpdate now row)
  | resume (workflowIds : List String) (queueName : Option String) (row : WorkflowStatusRow)
      (hid : row.workflowUuid ∈ workflowIds) (hstatus : row.status.isComplete = false) :
      RowChange now db (.resume workflowIds queueName) row (resumeUpdate queueName now row)
  | setDelay (workflowId : String) (delaySeconds : Option ℚ) (delayUntilEpochMs : Option ℤ)
      (time : ℚ) (resolved : ℤ) (row : WorkflowStatusRow) (hid : row.workflowUuid = workflowId)
      (hstatus : row.status = .delayed) :
      RowChange now db (.setDelay workflowId delaySeconds delayUntilEpochMs time) row
        { row with delayUntilEpochMs := some resolved, updatedAt := now }
  | debounce (call : DebounceCall) (row : WorkflowStatusRow) (hrow : call.bounces row) :
      RowChange now db (.debounce call) row (call.bounceUpdate now row)
  | transition (nowMs : ℤ) (row : WorkflowStatusRow) (hstatus : row.status = .delayed) :
      RowChange now db (.transition nowMs) row (transitionUpdate row)
  | startQueued (call : DequeueCall) (row : WorkflowStatusRow)
      (hid : row.workflowUuid ∈ (startQueuedWorkflows call now db).1)
      (heligible : call.isEligible db row) :
      RowChange now db (.startQueued call) row (call.startUpdate now row)
  | clear (workflowId : String) (row : WorkflowStatusRow) (hid : row.workflowUuid = workflowId)
      (hqueue : row.queueName.isSome) (hstatus : row.status = .pending) :
      RowChange now db (.clear workflowId) row (clearQueueUpdate row)
  | fork (call : ForkCall) (row : WorkflowStatusRow) :
      RowChange now db (.fork call) row (wasForkedUpdate row)

/-- The rows that an operation can create. -/
inductive Created (now : ℤ) (db : SystemDatabase) : StatusOp → WorkflowStatusRow → Prop
  | init (call : InitCall) (built : Built call.status) :
      Created now db (.init call built) (call.insertedRow now)
  | fork (call : ForkCall) (entry : ForkEntry) (original : WorkflowStatusRow) (marked : Bool) :
      Created now db (.fork call)
        { call.forkedRow now entry original with wasForkedFrom := marked }

theorem db_debounceDelayedWorkflow (call : DebounceCall) (now : ℤ) (db : SystemDatabase) :
    (debounceDelayedWorkflow call now db).2 = { db with
      workflowStatus := db.workflowStatus.update call.bounces (call.bounceUpdate now) } := by
  unfold debounceDelayedWorkflow
  simp only
  split
  · rfl
  · split
    · rfl
    · rfl

section Inversion

variable {now : ℤ} {db : SystemDatabase} {op : StatusOp} {row row' : WorkflowStatusRow}

/-- Where a row after the operation comes from. -/
def Origin (now : ℤ) (db : SystemDatabase) (op : StatusOp) (row' : WorkflowStatusRow) : Prop :=
  (∃ row ∈ db.statusRows, row.workflowUuid = row'.workflowUuid ∧ RowChange now db op row row') ∨
    ((∀ row ∈ db.statusRows, row.workflowUuid ≠ row'.workflowUuid) ∧ Created now db op row')

/-- A guarded update whose assignment is one of the operation's changes. -/
theorem origin_of_update {p : WorkflowStatusRow → Bool}
    {f : WorkflowStatusRow → WorkflowStatusRow}
    (hchange : ∀ row ∈ db.statusRows, p row → RowChange now db op row (f row))
    (hrow' : row' ∈ db.statusRows.map fun row ↦ if p row then f row else row)
    (hkey : ∀ r, (f r).workflowUuid = r.workflowUuid := by intro _; rfl) : Origin now db op row' := by
  left
  obtain ⟨row, hrow, rfl⟩ := Table.mem_update.mp hrow'
  refine ⟨row, hrow, ?_⟩
  split
  · rename_i hp
    exact ⟨(hkey row).symm, hchange row hrow hp⟩
  · exact ⟨rfl, .unchanged op row⟩

theorem origin_of_mem (hrow' : row' ∈ db.statusRows) : Origin now db op row' :=
  Or.inl ⟨row', hrow', rfl, .unchanged op row'⟩

/-! ### `init_workflow` and `fork_workflow` -/

/-- The two ways the upsert of `init_workflow` can succeed. -/
theorem upsert_eq_ok {call : InitCall} {db' : SystemDatabase}
    (h : call.upsert now db = .ok (row', db')) :
    (∃ row ∈ db.statusRows, row.workflowUuid = call.status.workflowUuid ∧
      row' = call.conflictUpdate now row ∧
      db' = { db with
        workflowStatus := db.workflowStatus.update
          (fun r ↦ r.workflowUuid = call.status.workflowUuid) (call.conflictUpdate now) }) ∨
    ((∀ row ∈ db.statusRows, row.workflowUuid ≠ call.status.workflowUuid) ∧
      call.isDeduplicated db = false ∧ row' = call.insertedRow now ∧
      ∃ rows, db.workflowStatus.insertNew (call.insertedRow now) = some rows ∧
        db' = { db with workflowStatus := rows }) := by
  unfold InitCall.upsert at h
  cases hlookup : db.workflowStatus.lookup call.status.workflowUuid with
  | some row =>
    simp only [hlookup, Except.ok.injEq, Prod.mk.injEq] at h
    obtain ⟨hrow, hid⟩ := db.workflowStatus.lookup_eq_some.mp hlookup
    exact Or.inl ⟨row, hrow, hid, h.1.symm, h.2.symm⟩
  | none =>
    have hfresh := db.workflowStatus.lookup_eq_none.mp hlookup
    simp only [hlookup] at h
    split at h
    · cases h
    · rename_i hdedup
      cases hinsert : db.workflowStatus.insertNew (call.insertedRow now) with
      | none =>
        simp only [hinsert] at h
        cases h
      | some rows =>
        simp only [hinsert, Except.ok.injEq, Prod.mk.injEq] at h
        exact Or.inr ⟨hfresh, by simpa using hdedup, h.1.symm, rows, rfl, h.2.symm⟩

theorem exceedsRecoveryAttempts_insertedRow (call : InitCall) :
    call.exceedsRecoveryAttempts (call.insertedRow now) = false := by
  unfold InitCall.exceedsRecoveryAttempts
  cases call.maxRecoveryAttempts with
  | none => rfl
  | some limit => simp [InitCall.insertedRow]

/-- The table that a committed `init_workflow` leaves. -/
theorem initWorkflow_rows (call : InitCall) (now : ℤ) (db : SystemDatabase) :
    (initWorkflow call now db).stateAfter db = db ∨
    (∃ row ∈ db.statusRows, row.workflowUuid = call.status.workflowUuid) ∧
      ((initWorkflow call now db).stateAfter db).workflowStatus =
        db.workflowStatus.update (fun r ↦ r.workflowUuid = call.status.workflowUuid)
          (call.conflictUpdate now) ∨
    (∃ row ∈ db.statusRows, row.workflowUuid = call.status.workflowUuid ∧
      call.mismatch row = none ∧ call.exceedsRecoveryAttempts (call.conflictUpdate now row)) ∧
      ((initWorkflow call now db).stateAfter db).workflowStatus =
        (db.workflowStatus.update (fun r ↦ r.workflowUuid = call.status.workflowUuid)
          (call.conflictUpdate now)).update
          (fun r ↦ r.workflowUuid = call.status.workflowUuid && r.status = .pending)
          deadLetterUpdate ∨
    db.workflowStatus.insertNew (call.insertedRow now) =
      some ((initWorkflow call now db).stateAfter db).workflowStatus := by
  unfold initWorkflow
  split
  · exact Or.inl rfl
  · rename_i row' db' hupsert
    split
    · exact Or.inl rfl
    · rename_i hmatch
      rcases upsert_eq_ok hupsert with ⟨row, hrow, hid, rfl, rfl⟩ | ⟨hfresh, -, rfl, rows, hrows, rfl⟩
      · split
        · rename_i hexceeds
          exact Or.inr (Or.inr (Or.inl ⟨⟨row, hrow, hid, hmatch, hexceeds⟩, rfl⟩))
        · exact Or.inr (Or.inl ⟨⟨row, hrow, hid⟩, rfl⟩)
      · rw [exceedsRecoveryAttempts_insertedRow]
        exact Or.inr (Or.inr (Or.inr hrows))

/-- What an answered `init_workflow` says and stores: the row that was there, or the inserted
one. -/
theorem initWorkflow_eq_returned {call : InitCall} {result : InitResult} {db' : SystemDatabase}
    (h : initWorkflow call now db = .returned result db') :
    (∃ row ∈ db.statusRows, row.workflowUuid = call.status.workflowUuid ∧
      call.mismatch row = none ∧
      call.exceedsRecoveryAttempts (call.conflictUpdate now row) = false ∧
      result.status = row.status ∧ result.shouldExecute = call.shouldExecute row ∧
      result.workflowDeadlineEpochMs = row.workflowDeadlineEpochMs ∧
      db' = { db with
        workflowStatus := db.workflowStatus.update
          (fun r ↦ r.workflowUuid = call.status.workflowUuid) (call.conflictUpdate now) }) ∨
    ((∀ row ∈ db.statusRows, row.workflowUuid ≠ call.status.workflowUuid) ∧
      result.status = call.status.status ∧ result.shouldExecute ∧
      result.workflowDeadlineEpochMs = call.status.workflowDeadlineEpochMs ∧
      ∃ rows, db.workflowStatus.insertNew (call.insertedRow now) = some rows ∧
        db' = { db with workflowStatus := rows }) := by
  unfold initWorkflow at h
  split at h
  · cases h
  · rename_i row' db'' hupsert
    split at h
    · cases h
    · rename_i hmatch
      split at h
      · cases h
      · rename_i hexceeds
        cases h
        rcases upsert_eq_ok hupsert with ⟨row, hrow, hid, rfl, rfl⟩ | ⟨hfresh, -, rfl, rows, hrows, rfl⟩
        · exact Or.inl ⟨row, hrow, hid, hmatch, by simpa using hexceeds, rfl, rfl, rfl, rfl⟩
        · refine Or.inr ⟨hfresh, rfl, ?_, rfl, rows, hrows, rfl⟩
          simp [InitCall.shouldExecute, InitCall.insertedRow]

/-- An `init_workflow` that is rolled back has found no row, or one under another name, class or
configuration. -/
theorem initWorkflow_eq_raised {call : InitCall} {exception : DBOSError}
    (h : initWorkflow call now db = .raised exception) :
    (∀ row ∈ db.statusRows, row.workflowUuid ≠ call.status.workflowUuid) ∨
      ∃ row ∈ db.statusRows, row.workflowUuid = call.status.workflowUuid ∧
        call.mismatch row ≠ none := by
  cases hlookup : db.workflowStatus.lookup call.status.workflowUuid with
  | none => exact Or.inl (db.workflowStatus.lookup_eq_none.mp hlookup)
  | some row =>
    obtain ⟨hrow, hid⟩ := db.workflowStatus.lookup_eq_some.mp hlookup
    refine Or.inr ⟨row, hrow, hid, ?_⟩
    intro hmatch
    have hsame : call.mismatch (call.conflictUpdate now row) = none := hmatch
    simp only [initWorkflow, InitCall.upsert, hlookup, hsame] at h
    split at h <;> cases h

/-- After the dead-letter branch the workflow is not PENDING. -/
theorem initWorkflow_eq_raisedAfterCommit {call : InitCall} {exception : DBOSError}
    {db' : SystemDatabase} (h : initWorkflow call now db = .raisedAfterCommit exception db')
    (hrow' : row' ∈ db'.statusRows) (hid' : row'.workflowUuid = call.status.workflowUuid) :
    row'.status ≠ .pending := by
  unfold initWorkflow at h
  split at h
  · cases h
  · split at h
    · cases h
    · split at h
      · cases h
        obtain ⟨middle, -, rfl⟩ := Table.mem_update.mp hrow'
        split
        · simp [deadLetterUpdate]
        · rename_i hguard
          rw [if_neg hguard] at hid'
          simpa [hid'] using hguard
      · cases h

/-- `init_workflow` leaves every workflow in place. -/
theorem exists_key_initWorkflow (call : InitCall) (now : ℤ) (hrow : row ∈ db.statusRows) :
    ∃ row' ∈ ((initWorkflow call now db).stateAfter db).statusRows,
      row'.workflowUuid = row.workflowUuid := by
  simp only [SystemDatabase.statusRows]
  rcases initWorkflow_rows call now db with hsame | ⟨-, hrows⟩ | ⟨-, hrows⟩ | hinsert
  · rw [hsame]
    exact ⟨row, hrow, rfl⟩
  · rw [hrows]
    exact Table.exists_mem_update hrow
  · rw [hrows]
    obtain ⟨middle, hmiddle, hkey⟩ := Table.exists_mem_update
      (p := fun r ↦ r.workflowUuid = call.status.workflowUuid) (f := call.conflictUpdate now) hrow
    rw [← hkey]
    exact Table.exists_mem_update hmiddle
  · exact ⟨row, (Table.mem_insertNew hinsert).mpr (Or.inl hrow), rfl⟩

theorem origin_init (call : InitCall) (built : Built call.status)
    (h : row' ∈ ((initWorkflow call now db).stateAfter db).statusRows) :
    Origin now db (.init call built) row' := by
  unfold SystemDatabase.statusRows at h
  rcases initWorkflow_rows call now db with
    hsame | ⟨-, hrows⟩ | ⟨⟨target, htarget, htargetId, hmatch, hexceeds⟩, hrows⟩ | hinsert
  · rw [hsame] at h
    exact origin_of_mem h
  · rw [hrows] at h
    exact origin_of_update (fun row _ hid ↦ .conflict call built row (by simpa using hid)) h
  · rw [hrows] at h
    obtain ⟨middle, hmiddle, rfl⟩ := Table.mem_update.mp h
    obtain ⟨row, hrow, rfl⟩ := Table.mem_update.mp hmiddle
    by_cases hid : row.workflowUuid = call.status.workflowUuid
    · rw [← db.workflowStatus.eq_of_key hrow htarget (hid.trans htargetId.symm)] at hmatch hexceeds
      by_cases hstatus : row.status = .pending
      · have hchange : RowChange now db (.init call built) row _ :=
          .deadLetter call built row hid hstatus hmatch hexceeds
        refine Or.inl ⟨row, hrow, ?_⟩
        simpa [hid, hstatus, InitCall.conflictUpdate, deadLetterUpdate] using hchange
      · have hchange : RowChange now db (.init call built) row _ := .conflict call built row hid
        refine Or.inl ⟨row, hrow, ?_⟩
        simpa [hid, hstatus, InitCall.conflictUpdate] using hchange
    · have hchange : RowChange now db (.init call built) row row := .unchanged _ row
      refine Or.inl ⟨row, hrow, ?_⟩
      simpa [hid] using hchange
  · rcases (Table.mem_insertNew hinsert).mp h with hrow | rfl
    · exact origin_of_mem hrow
    · exact Or.inr ⟨(Table.insertNew_eq_some.mp hinsert).1, .init call built⟩

theorem mem_forkedRows {call : ForkCall} {entries : List ForkEntry} {rows : List WorkflowStatusRow}
    (h : call.forkedRows now db entries = .ok rows) (hrow : row ∈ rows) :
    ∃ entry original, row = call.forkedRow now entry original := by
  induction entries generalizing rows with
  | nil =>
    cases h
    cases hrow
  | cons entry rest ih =>
    simp only [ForkCall.forkedRows] at h
    split at h
    · cases h
    · rename_i original _
      split at h
      · cases h
      · rename_i tail htail
        cases h
        rcases List.mem_cons.mp hrow with rfl | hrow
        · exact ⟨entry, original, rfl⟩
        · exact ih htail hrow

theorem copyForkData_workflowStatus {call : ForkCall} {db' : SystemDatabase}
    (h : copyForkData call db = .ok db') : db'.workflowStatus = db.workflowStatus := by
  unfold copyForkData at h
  repeat' split at h
  all_goals cases h
  rfl

/-- The status table that a committed `fork_workflow` leaves. -/
theorem forkWorkflow_rows (call : ForkCall) (now : ℤ) (db : SystemDatabase) :
    (forkWorkflow call now db).stateAfter db = db ∨
    ∃ rows statuses, call.forkedRows now db call.entries = .ok rows ∧
      db.workflowStatus.insertAll rows = some statuses ∧
      ((forkWorkflow call now db).stateAfter db).workflowStatus = statuses.update
        (fun row ↦ row.workflowUuid ∈ call.entries.map ForkEntry.originalWorkflowId)
        wasForkedUpdate := by
  unfold forkWorkflow
  split
  · exact Or.inl rfl
  · split
    · exact Or.inl rfl
    · rename_i rows hrows
      split
      · exact Or.inl rfl
      · rename_i statuses hstatuses
        simp only
        split
        · exact Or.inl rfl
        · rename_i db' hcopy
          exact Or.inr ⟨rows, statuses, hrows, hstatuses, copyForkData_workflowStatus hcopy⟩

theorem origin_fork (call : ForkCall)
    (h : row' ∈ ((forkWorkflow call now db).stateAfter db).statusRows) :
    Origin now db (.fork call) row' := by
  unfold SystemDatabase.statusRows at h
  rcases forkWorkflow_rows call now db with hsame | ⟨rows, statuses, hrows, hinsert, hafter⟩
  · rw [hsame] at h
    exact origin_of_mem h
  · rw [hafter] at h
    obtain ⟨hall, hfresh⟩ := Table.insertAll_eq_some hinsert
    obtain ⟨row, hrow, rfl⟩ := Table.mem_update.mp h
    rw [hall, List.mem_append] at hrow
    rcases hrow with hold | hnew
    · left
      refine ⟨row, hold, ?_⟩
      split
      · exact ⟨rfl, .fork call row⟩
      · exact ⟨rfl, .unchanged _ row⟩
    · right
      obtain ⟨entry, original, rfl⟩ := mem_forkedRows hrows hnew
      have hkey := hfresh _ hnew
      split
      · exact ⟨hkey, .fork call entry original true⟩
      · exact ⟨hkey, .fork call entry original false⟩

/-! ### The inversion -/

theorem origin_outcome (workflowId : String) (status : WorkflowStatusString)
    (complete : status.isComplete = true) (output error : Option String)
    (h : row' ∈ ((updateWorkflowOutcome workflowId status output error now db).stateAfter
      db).statusRows) : Origin now db (.outcome workflowId status complete output error) row' := by
  have hupdate : row' ∈ db.statusRows ∨ row' ∈ (db.workflowStatus.update
      (fun row ↦ row.workflowUuid = workflowId && row.status ≠ .cancelled)
      (outcomeUpdate now status output error)).rows := by
    unfold updateWorkflowOutcome at h
    simp only at h
    repeat' split at h
    all_goals first | exact Or.inl h | exact Or.inr h
  rcases hupdate with hrow | hrow
  · exact origin_of_mem hrow
  · refine origin_of_update (fun row _ hguard ↦ ?_) hrow
    simp only [Bool.and_eq_true, decide_eq_true_eq] at hguard
    exact .outcome workflowId status complete output error row hguard.1 hguard.2

theorem origin_setDelay (workflowId : String) (delaySeconds : Option ℚ)
    (delayUntilEpochMs : Option ℤ) (time : ℚ)
    (h : row' ∈ ((setWorkflowDelay workflowId delaySeconds delayUntilEpochMs time now db).stateAfter
      db).statusRows) :
    Origin now db (.setDelay workflowId delaySeconds delayUntilEpochMs time) row' := by
  unfold setWorkflowDelay at h
  split at h
  · exact origin_of_mem h
  · rename_i resolved _
    refine origin_of_update (fun row _ hguard ↦ ?_) h
    simp only [Bool.and_eq_true, decide_eq_true_eq] at hguard
    exact .setDelay workflowId delaySeconds delayUntilEpochMs time resolved row hguard.1 hguard.2

theorem origin_startQueued (call : DequeueCall)
    (h : row' ∈ ((startQueuedWorkflows call now db).2).statusRows) :
    Origin now db (.startQueued call) row' := by
  obtain ⟨ids, hsublist, heq, -⟩ := startQueuedWorkflows_eq call now db
  rw [heq] at h
  refine origin_of_update (fun row hrow hid ↦ ?_) h
  simp only [decide_eq_true_eq] at hid
  obtain ⟨selected, hselected, hselectedId, heligible⟩ :=
    DequeueCall.exists_eligible (hsublist.subset hid)
  rw [db.workflowStatus.eq_of_key hrow hselected hselectedId.symm] at hid ⊢
  exact .startQueued call selected (by rw [heq]; exact hid) heligible

/-- A row after an operation is an old row changed under its guard, or a new one. -/
theorem mem_apply (h : row' ∈ (op.apply now db).statusRows) : Origin now db op row' := by
  cases op with
  | init call built => exact origin_init call built h
  | outcome workflowId status complete output error =>
    exact origin_outcome workflowId status complete output error h
  | cancel workflowIds =>
    refine origin_of_update (fun row _ hguard ↦ ?_) h
    simp only [Bool.and_eq_true, decide_eq_true_eq, Bool.not_eq_true'] at hguard
    exact .cancel workflowIds row hguard.1 hguard.2
  | resume workflowIds queueName =>
    refine origin_of_update (fun row _ hguard ↦ ?_) h
    simp only [Bool.and_eq_true, decide_eq_true_eq, Bool.not_eq_true'] at hguard
    exact .resume workflowIds queueName row hguard.1 hguard.2
  | setDelay workflowId delaySeconds delayUntilEpochMs time =>
    exact origin_setDelay workflowId delaySeconds delayUntilEpochMs time h
  | debounce call =>
    have hupdate : row' ∈ (db.workflowStatus.update call.bounces (call.bounceUpdate now)).rows := by
      rw [StatusOp.apply, db_debounceDelayedWorkflow] at h
      exact h
    exact origin_of_update (fun row _ hguard ↦ .debounce call row hguard) hupdate
  | transition nowMs =>
    refine origin_of_update (fun row _ hguard ↦ ?_) h
    simp only [Bool.and_eq_true, decide_eq_true_eq] at hguard
    exact .transition nowMs row hguard.1
  | startQueued call => exact origin_startQueued call h
  | clear workflowId =>
    refine origin_of_update (fun row _ hguard ↦ ?_) h
    simp only [Bool.and_eq_true, decide_eq_true_eq] at hguard
    exact .clear workflowId row hguard.1.1 hguard.1.2 hguard.2
  | fork call => exact origin_fork call h
  | delete workflowIds => exact origin_of_mem (Table.mem_delete.mp h).1
  | collect cutoff batch => exact origin_of_mem (Table.mem_delete.mp h).1

/-! ### Survival -/

/-- A row that the operation does not delete is still there under its ID. -/
theorem exists_key_apply (now : ℤ) (hrow : row ∈ db.statusRows) (hkeep : op.deletes row = false) :
    ∃ row' ∈ (op.apply now db).statusRows, row'.workflowUuid = row.workflowUuid := by
  cases op with
  | init call built => exact exists_key_initWorkflow call now hrow
  | outcome workflowId status complete output error =>
    simp only [StatusOp.apply, updateWorkflowOutcome]
    repeat' split
    all_goals first | exact ⟨row, hrow, rfl⟩ | exact Table.exists_mem_update hrow
  | cancel workflowIds => exact Table.exists_mem_update hrow
  | resume workflowIds queueName => exact Table.exists_mem_update hrow
  | setDelay workflowId delaySeconds delayUntilEpochMs time =>
    simp only [StatusOp.apply, setWorkflowDelay]
    split
    · exact ⟨row, hrow, rfl⟩
    · exact Table.exists_mem_update hrow
  | debounce call =>
    rw [StatusOp.apply, db_debounceDelayedWorkflow]
    exact Table.exists_mem_update hrow
  | transition nowMs => exact Table.exists_mem_update hrow
  | startQueued call =>
    obtain ⟨ids, -, heq, -⟩ := startQueuedWorkflows_eq call now db
    simp only [StatusOp.apply, heq]
    exact Table.exists_mem_update hrow
  | clear workflowId => exact Table.exists_mem_update hrow
  | fork call =>
    simp only [StatusOp.apply, SystemDatabase.statusRows]
    rcases forkWorkflow_rows call now db with hsame | ⟨rows, statuses, -, hinsert, hafter⟩
    · rw [hsame]
      exact ⟨row, hrow, rfl⟩
    · rw [hafter]
      apply Table.exists_mem_update
      rw [(Table.insertAll_eq_some hinsert).1]
      exact List.mem_append_left _ hrow
  | delete workflowIds => exact ⟨row, Table.mem_delete.mpr ⟨hrow, hkeep⟩, rfl⟩
  | collect cutoff batch => exact ⟨row, Table.mem_delete.mpr ⟨hrow, hkeep⟩, rfl⟩

/-- An old row and the row with its ID afterwards differ by one of the operation's changes. -/
theorem rowChange_of_mem (hrow : row ∈ db.statusRows) (hrow' : row' ∈ (op.apply now db).statusRows)
    (hid : row'.workflowUuid = row.workflowUuid) : RowChange now db op row row' := by
  rcases mem_apply hrow' with ⟨source, hsource, hkey, hchange⟩ | ⟨hfresh, -⟩
  · rw [db.workflowStatus.eq_of_key hrow hsource (hid.symm.trans hkey.symm)]
    exact hchange
  · exact absurd hid.symm (hfresh row hrow)

theorem exists_rowChange (now : ℤ) (hrow : row ∈ db.statusRows) (hkeep : op.deletes row = false) :
    ∃ row' ∈ (op.apply now db).statusRows, row'.workflowUuid = row.workflowUuid ∧
      RowChange now db op row row' := by
  obtain ⟨row', hrow', hid⟩ := exists_key_apply now hrow hkeep
  exact ⟨row', hrow', hid, rowChange_of_mem hrow hrow' hid⟩

end Inversion

/-! ## Runs -/

/-- An operation with the reading of the database clock in its transaction. -/
abbrev StatusAction := StatusOp × ℤ

/-- The step leaves a workflow in place. -/
def KeepsRow (workflowId : String) (db : SystemDatabase) (action : StatusAction) : Prop :=
  ∀ row ∈ db.statusRows, row.workflowUuid = workflowId → action.1.deletes row = false

/-- Any sequence of status operations, each one transaction. -/
def statusSystem : System SystemDatabase StatusAction where
  step db action := some (action.1.apply action.2 db)

@[simp]
theorem statusSystem_step (db : SystemDatabase) (action : StatusAction) :
    statusSystem.step db action = some (action.1.apply action.2 db) := rfl

end DBOSModel.SysDb

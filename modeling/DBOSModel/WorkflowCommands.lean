import DBOSModel.Relational.Watermark
import DBOSModel.SysDb.GarbageCollect
import DBOSModel.Core.Transaction

/-!
# The `garbage_collect` command

`garbage_collect` of `dbos/_workflow_commands.py` collects the system database first. It then hands
the final cutoff and the IDs of the old workflows that remain to `garbage_collect` of
`dbos/_app_db.py`, which collects the outputs of transactions. The second collector knows nothing
of statuses: it relies on the IDs for the old workflows, and on the outputs being younger than
their workflows for the others.

Both collectors delete in batches above a rising watermark, or in one statement.
-/

namespace DBOSModel.WorkflowCommands

open Relational SysDb DBOSModel.Core

/-! ## The application database -/

/-- A row of `transaction_outputs` with its `created_at`. -/
structure StampedOutputRow extends TransactionOutputRow where
  createdAt : ℤ
deriving DecidableEq

def StampedOutputRow.key (row : StampedOutputRow) : String × ℤ := row.toTransactionOutputRow.key

/-- `transaction_outputs` -/
abbrev TransactionOutputs := Table StampedOutputRow.key

/-- `gc_conditions` -/
def gcConditions (cutoffEpochTimestampMs : ℤ) (pendingWorkflowIds : List String)
    (row : StampedOutputRow) : Bool :=
  decide (row.createdAt < cutoffEpochTimestampMs) &&
    (if 0 < pendingWorkflowIds.length then !decide (row.workflowUuid ∈ pendingWorkflowIds)
    else true)

/-- `ApplicationDatabase.garbage_collect` -/
def appGarbageCollect (cutoffEpochTimestampMs : ℤ) (pendingWorkflowIds : List String)
    (batchSize : Option ℤ) (outputs : TransactionOutputs) :
    Ending TransactionOutputs DBOSError Unit :=
  if batchSize.any (· < 1) then
    .raised (.valueError ("batch_size must be a positive integer, got " ++
      toString (batchSize.getD 0)))
  else
    match batchSize with
    | none => .returned () (outputs.delete (gcConditions cutoffEpochTimestampMs pendingWorkflowIds))
    | some batchSize =>
      .returned () ((RowStore.ofTable StampedOutputRow.key).deleteInBatches
        StampedOutputRow.createdAt (gcConditions cutoffEpochTimestampMs pendingWorkflowIds)
        (batchSize - 1).toNat 0 outputs)

/-! ## The command -/

/-- `garbage_collect` of `_workflow_commands`. The application database is the one that its
collector finds, or `none` when the application has no such database. -/
def garbageCollectCommand (dialect : Dialect) (call : GarbageCollectCall) (db : SystemDatabase)
    (app : Option TransactionOutputs) :
    Ending (SystemDatabase × Option TransactionOutputs) DBOSError Unit :=
  if call.cutoffEpochTimestampMs.isNone && call.rowsThreshold.isNone then .returned () (db, app)
  else
    match garbageCollect dialect call db with
    | .raised error => .raised error
    | .raisedAfterCommit error db' => .raisedAfterCommit error (db', app)
    | .returned none db' => .returned () (db', app)
    | .returned (some (cutoff, pendingWorkflowIds)) db' =>
      match app with
      | none => .returned () (db', none)
      | some outputs =>
        match appGarbageCollect cutoff pendingWorkflowIds call.batchSize outputs with
        | .raised error => .raisedAfterCommit error (db', some outputs)
        | .raisedAfterCommit error outputs' => .raisedAfterCommit error (db', some outputs')
        | .returned () outputs' => .returned () (db', some outputs')

/-! ## Batches -/

/-- The system database as a store of status rows, whose deletion cascades. -/
def statusStore : RowStore SystemDatabase WorkflowStatusRow where
  rows := SystemDatabase.statusRows
  delete p db := db.deleteStatusWhere p
  rows_delete _ _ := rfl
  delete_delete _ _ db h := deleteStatusWhere_deleteStatusWhere db h

theorem gcMatches_none (cutoff : ℤ) : gcMatches cutoff none = gcFilter cutoff := by
  funext row
  exact Bool.and_true _

theorem appGarbageCollect_eq {cutoff : ℤ} {pending : List String} {batchSize : Option ℤ}
    (hbatch : ∀ b, batchSize = some b → 1 ≤ b) (outputs : TransactionOutputs) :
    appGarbageCollect cutoff pending batchSize outputs =
      .returned () (outputs.delete (gcConditions cutoff pending)) := by
  unfold appGarbageCollect
  cases batchSize with
  | none => rfl
  | some b =>
    have hb : ¬b < 1 := not_lt.mpr (hbatch b rfl)
    simp only [Option.any_some, decide_eq_true_eq, if_neg hb, RowStore.deleteInBatches_eq_delete]
    rfl

/-- Both loops end after finitely many transactions, and both collectors do with a batch size what
they do without one. -/
theorem garbageCollect_batches_eq_unbatched (b : ℤ) (hb : 1 ≤ b) :
    (∀ cutoff db, ∃ transactions,
      statusStore.deleteInBatchesWithin WorkflowStatusRow.createdAt (gcFilter cutoff)
        (b - 1).toNat transactions 0 db = some (gcBatches cutoff (b - 1).toNat 0 db)) ∧
    (∀ dialect (call : GarbageCollectCall) db,
      garbageCollect dialect { call with batchSize := some b } db =
        garbageCollect dialect { call with batchSize := none } db) ∧
    (∀ cutoff pending outputs, ∃ transactions,
      (RowStore.ofTable StampedOutputRow.key).deleteInBatchesWithin StampedOutputRow.createdAt
        (gcConditions cutoff pending) (b - 1).toNat transactions 0 outputs =
          some ((RowStore.ofTable StampedOutputRow.key).deleteInBatches StampedOutputRow.createdAt
            (gcConditions cutoff pending) (b - 1).toNat 0 outputs)) ∧
    ∀ cutoff pending outputs, appGarbageCollect cutoff pending (some b) outputs =
      appGarbageCollect cutoff pending none outputs := by
  have hvalid : ¬b < 1 := not_lt.mpr hb
  refine ⟨?_, ?_, ?_, ?_⟩
  · intro cutoff db
    refine ⟨_, (RowStore.deleteInBatchesWithin_eq_delete _ _ _ _ (Nat.lt_succ_self _)).trans ?_⟩
    rw [gcBatches_eq, gcDelete, gcMatches_none]
    rfl
  · intro dialect call db
    unfold garbageCollect
    simp only [Option.any_some, Option.any_none, decide_eq_true_eq, if_neg hvalid, gcBatches_eq]
    rfl
  · intro cutoff pending outputs
    refine ⟨_, (RowStore.deleteInBatchesWithin_eq_delete _ _ _ _ (Nat.lt_succ_self _)).trans ?_⟩
    rw [RowStore.deleteInBatches_eq_delete]
  · intro cutoff pending outputs
    rw [appGarbageCollect_eq (by simp [hb]), appGarbageCollect_eq (by simp)]

theorem garbageCollect_batches_eq_unbatched_two :
    1 ≤ (2 : ℤ) ∧ (∀ cutoff pending outputs, appGarbageCollect cutoff pending (some 2) outputs =
      appGarbageCollect cutoff pending none outputs) :=
  ⟨by decide, (garbageCollect_batches_eq_unbatched 2 (by decide)).2.2.2⟩

/-! ## What a call deletes -/

/-- The creation time of the `n`-th newest row. -/
def nthNewest (n : ℤ) (db : SystemDatabase) : Option ℤ :=
  ((db.statusRows.map WorkflowStatusRow.createdAt).insertionSort (· ≥ ·))[(n - 1).toNat]?

/-- The larger of the cutoff and the creation time of the `n`-th newest row, of those that are
given and exist. -/
def finalCutoff (call : GarbageCollectCall) (db : SystemDatabase) : Option ℤ :=
  (call.cutoffEpochTimestampMs.toList ++
    (call.rowsThreshold.bind fun n ↦ nthNewest n db).toList).max?

/-- The rows that a call deletes: those that are not active and older than the final cutoff. -/
def isCollected (call : GarbageCollectCall) (db : SystemDatabase) (row : WorkflowStatusRow) : Bool :=
  !row.status.isActive && (finalCutoff call db).any fun cutoff ↦ decide (row.createdAt < cutoff)

section Collected

variable {dialect : Dialect} {call : GarbageCollectCall} {db : SystemDatabase}

theorem restrictCutoff_eq_max? (cutoff rowsBased : Option ℤ) :
    restrictCutoff cutoff rowsBased = (cutoff.toList ++ rowsBased.toList).max? := by
  cases cutoff with
  | none => cases rowsBased <;> rfl
  | some cutoff =>
    cases rowsBased with
    | none => rfl
    | some rowsBased =>
      have hmax : max cutoff rowsBased = if cutoff < rowsBased then rowsBased else cutoff := by
        rw [max_comm, max_def_lt]
        split <;> split <;> omega
      exact congrArg some hmax.symm

theorem rowsBasedCutoff_eq (hthreshold : ∀ n, call.rowsThreshold = some n → 1 ≤ n) :
    call.rowsBasedCutoff dialect db = .ok (call.rowsThreshold.bind fun n ↦ nthNewest n db) := by
  unfold GarbageCollectCall.rowsBasedCutoff
  cases hn : call.rowsThreshold with
  | none => rfl
  | some n =>
    have hnonneg : ¬(n - 1 < 0 ∧ dialect = .postgresql) := by
      have hle := hthreshold n hn
      omega
    simp only [limitOneOffset, if_neg hnonneg]
    rfl

theorem gcDelete_eq_deleteStatusWhere {cutoff : ℤ} (h : finalCutoff call db = some cutoff) :
    gcDelete cutoff none db = db.deleteStatusWhere (isCollected call db) := by
  have hcollected : gcMatches cutoff none = isCollected call db := by
    funext row
    rw [gcMatches_none, gcFilter, isCollected, h, Bool.and_comm]
    rfl
  rw [gcDelete, hcollected]

/-- The first collector with valid arguments. -/
theorem garbageCollect_eq_returned (hthreshold : ∀ n, call.rowsThreshold = some n → 1 ≤ n)
    (hbatch : ∀ b, call.batchSize = some b → 1 ≤ b) :
    garbageCollect dialect call db = .returned
      ((finalCutoff call db).map fun cutoff ↦
        (cutoff, ((db.deleteStatusWhere (isCollected call db)).statusRows.filter
          fun row ↦ row.createdAt < cutoff).map WorkflowStatusRow.workflowUuid))
      (db.deleteStatusWhere (isCollected call db)) := by
  have hvalid : call.batchSize.any (· < 1) = false := by
    rw [← Bool.not_eq_true, Option.any_eq_true]
    rintro ⟨b, hb, hlt⟩
    have hle := hbatch b hb
    simp only [decide_eq_true_eq] at hlt
    omega
  unfold garbageCollect
  rw [hvalid, rowsBasedCutoff_eq hthreshold]
  simp only [Bool.false_eq_true, if_false, restrictCutoff_eq_max?]
  change (match finalCutoff call db with | none => _ | some cutoff => _) = _
  cases hfinal : finalCutoff call db with
  | none =>
    have hnothing : isCollected call db = fun _ ↦ false := by
      funext row
      rw [isCollected, hfinal]
      exact Bool.and_false _
    rw [hnothing, deleteStatusWhere_nothing]
    rfl
  | some cutoff =>
    have hdelete := gcDelete_eq_deleteStatusWhere hfinal
    cases hsize : call.batchSize with
    | none =>
      simp only [hdelete]
      rfl
    | some batchSize =>
      simp only [gcBatches_eq, hdelete]
      rfl

/-- With a threshold alone, a row stays unless that many rows are newer. -/
theorem isCollected_newest {n : ℤ} (hcutoff : call.cutoffEpochTimestampMs = none)
    (hn : call.rowsThreshold = some n) {row : WorkflowStatusRow}
    (hnewest : (db.workflowStatus.count fun newer ↦ row.createdAt < newer.createdAt) < n) :
    isCollected call db row = false := by
  have hfinal : finalCutoff call db = nthNewest n db := by
    rw [finalCutoff, hcutoff, hn]
    cases hnth : nthNewest n db <;> simp [hnth]
  rw [isCollected, hfinal, Bool.and_eq_false_iff]
  right
  rw [← Bool.not_eq_true, Option.any_eq_true]
  rintro ⟨cutoff, hnth, hlt⟩
  have hoffset := (exists_newest_lt_iff db row _).mp ⟨cutoff, hnth, of_decide_eq_true hlt⟩
  omega

end Collected

/-- The second collector keeps the outputs of a workflow that the first one left. -/
theorem gcConditions_of_survivor {cutoff : ℤ} {db : SystemDatabase} {row : WorkflowStatusRow}
    {output : StampedOutputRow} (hrow : row ∈ db.statusRows)
    (hid : output.workflowUuid = row.workflowUuid) (hyounger : row.createdAt ≤ output.createdAt) :
    gcConditions cutoff ((db.statusRows.filter fun row ↦ row.createdAt < cutoff).map
      WorkflowStatusRow.workflowUuid) output = false := by
  by_cases hold : row.createdAt < cutoff
  · -- an old survivor is on the list
    have hmem : output.workflowUuid ∈ (db.statusRows.filter fun row ↦ row.createdAt < cutoff).map
        WorkflowStatusRow.workflowUuid := by
      rw [hid]
      exact List.mem_map_of_mem (List.mem_filter.mpr ⟨hrow, by simpa using hold⟩)
    rw [gcConditions, if_pos (List.length_pos_of_mem hmem), decide_eq_true hmem]
    exact Bool.and_false _
  · -- the outputs of any other are not older than it is
    have hyoung : ¬output.createdAt < cutoff := by omega
    simp [gcConditions, hyoung]

/-- The command with valid arguments: which rows it deletes, and which outputs it keeps. -/
theorem garbageCollectCommand_collects (dialect : Dialect) (call : GarbageCollectCall)
    (db : SystemDatabase) (app : Option TransactionOutputs)
    (hthreshold : ∀ n, call.rowsThreshold = some n → 1 ≤ n)
    (hbatch : ∀ b, call.batchSize = some b → 1 ≤ b) :
    ∃ db' app', garbageCollectCommand dialect call db app = .returned () (db', app') ∧
      db' = db.deleteStatusWhere (isCollected call db) ∧
      (∀ n, call.cutoffEpochTimestampMs = none → call.rowsThreshold = some n →
        ∀ row ∈ db.statusRows,
          (db.workflowStatus.count fun newer ↦ row.createdAt < newer.createdAt) < n →
            row ∈ db'.statusRows) ∧
      ∀ outputs, app = some outputs → ∃ outputs', app' = some outputs' ∧
        ∀ row ∈ db'.statusRows, ∀ output ∈ outputs.rows,
          output.workflowUuid = row.workflowUuid → row.createdAt ≤ output.createdAt →
            output ∈ outputs'.rows := by
  have hnewest : ∀ n, call.cutoffEpochTimestampMs = none → call.rowsThreshold = some n →
      ∀ row ∈ db.statusRows,
        (db.workflowStatus.count fun newer ↦ row.createdAt < newer.createdAt) < n →
          row ∈ (db.deleteStatusWhere (isCollected call db)).statusRows := by
    intro n hcutoff hn row hrow hcount
    exact mem_deleteStatusWhere.mpr ⟨hrow, isCollected_newest hcutoff hn hcount⟩
  unfold garbageCollectCommand
  by_cases hnone : (call.cutoffEpochTimestampMs.isNone && call.rowsThreshold.isNone) = true
  · rw [if_pos hnone]
    have hfinal : finalCutoff call db = none := by
      rw [Bool.and_eq_true, Option.isNone_iff_eq_none, Option.isNone_iff_eq_none] at hnone
      rw [finalCutoff, hnone.1, hnone.2]
      rfl
    have hnothing : isCollected call db = fun _ ↦ false := by
      funext row
      rw [isCollected, hfinal]
      exact Bool.and_false _
    refine ⟨db, app, rfl, ?_, ?_, ?_⟩
    · rw [hnothing, deleteStatusWhere_nothing]
    · rw [hnothing, deleteStatusWhere_nothing] at hnewest
      exact hnewest
    · intro outputs happ
      exact ⟨outputs, happ, fun _ _ output houtput _ _ ↦ houtput⟩
  · rw [if_neg hnone, garbageCollect_eq_returned hthreshold hbatch]
    cases hfinal : finalCutoff call db with
    | none =>
      refine ⟨_, app, rfl, rfl, hnewest, ?_⟩
      intro outputs happ
      exact ⟨outputs, happ, fun _ _ output houtput _ _ ↦ houtput⟩
    | some cutoff =>
      cases app with
      | none => exact ⟨_, none, rfl, rfl, hnewest, by simp⟩
      | some outputs =>
        simp only [Option.map_some, appGarbageCollect_eq hbatch]
        refine ⟨_, _, rfl, rfl, hnewest, ?_⟩
        intro outputs' houtputs
        cases houtputs
        refine ⟨_, rfl, ?_⟩
        intro row hrow output houtput hid hyounger
        exact Table.mem_delete.mpr ⟨houtput, gcConditions_of_survivor hrow hid hyounger⟩

/-- An output of the running parent, and one of a workflow that is gone. -/
def parentAndGone : TransactionOutputs where
  rows :=
    [{ workflowUuid := "parent", functionId := 2, output := some "1", functionName := "pay"
       createdAt := 1 },
      { workflowUuid := "gone", functionId := 1, output := some "1", functionName := "pay"
        createdAt := 0 }]
  nodup := by decide

theorem garbageCollectCommand_collects_newest :
    ∃ db' app', garbageCollectCommand .postgresql ⟨none, some 1, some 2⟩ parentOfFinishedChild
        (some parentAndGone) = .returned () (db', app') ∧
      db' = parentOfFinishedChild.deleteStatusWhere
        (isCollected ⟨none, some 1, some 2⟩ parentOfFinishedChild) ∧
      ∃ outputs', app' = some outputs' ∧
        ∀ row ∈ db'.statusRows, ∀ output ∈ parentAndGone.rows,
          output.workflowUuid = row.workflowUuid → row.createdAt ≤ output.createdAt →
            output ∈ outputs'.rows := by
  obtain ⟨db', app', hreturned, hdeleted, -, houtputs⟩ := garbageCollectCommand_collects .postgresql
    ⟨none, some 1, some 2⟩ parentOfFinishedChild (some parentAndGone) (by simp) (by simp)
  exact ⟨db', app', hreturned, hdeleted, houtputs parentAndGone rfl⟩

end DBOSModel.WorkflowCommands

import DBOSModel.SysDb.Checkpoint
import DBOSModel.SysDb.StatusOperation

/-!
# Garbage collection

`garbage_collect` of `dbos/_sys_db.py`: the cutoff is the later of the given one and the creation
time of the `rows_threshold`-th newest workflow, and everything older that is not PENDING,
ENQUEUED or DELAYED is deleted, in one statement or in batches above a rising watermark. The
batches delete what the one statement does, so a call is described by the rows it keeps.

The filter reads each row on its own. `child_workflow_id` is a plain column, so nothing keeps a
finished child whose active parent still refers to it: the parent replays, attaches to the child
again and finds no row. The reference survives exactly if the child is itself active or too young
for both cutoffs.
-/

namespace DBOSModel.SysDb

open Relational DBOSModel.Core

/-! ## The function -/

/-- `LIMIT 1 OFFSET offset` of ordered values. PostgreSQL rejects a negative offset, SQLite reads
it as zero. -/
def limitOneOffset (dialect : Dialect) (offset : ℤ) (values : List ℤ) :
    Except DBOSError (Option ℤ) :=
  if offset < 0 ∧ dialect = .postgresql then .error (.exception "OFFSET must not be negative")
  else .ok values[offset.toNat]?

/-- The arguments of `garbage_collect`. -/
structure GarbageCollectCall where
  cutoffEpochTimestampMs : Option ℤ
  rowsThreshold : Option ℤ
  batchSize : Option ℤ
deriving DecidableEq

/-- `rows_based_cutoff`: the creation time of the `rows_threshold`-th newest row. -/
def GarbageCollectCall.rowsBasedCutoff (call : GarbageCollectCall) (dialect : Dialect)
    (db : SystemDatabase) : Except DBOSError (Option ℤ) :=
  match call.rowsThreshold with
  | none => .ok none
  | some rowsThreshold =>
    limitOneOffset dialect (rowsThreshold - 1)
      ((db.statusRows.map WorkflowStatusRow.createdAt).insertionSort (· ≥ ·))

/-- The more restrictive cutoff: the higher timestamp. -/
def restrictCutoff : Option ℤ → Option ℤ → Option ℤ
  | cutoff, none => cutoff
  | none, some rowsBased => some rowsBased
  | some cutoff, some rowsBased => some (if cutoff < rowsBased then rowsBased else cutoff)

/-- The eligible rows above the watermark. -/
def gcAbove (cutoff watermark : ℤ) (row : WorkflowStatusRow) : Bool :=
  gcFilter cutoff row && decide (watermark < row.createdAt)

/-- `step`: the creation time at an offset among the eligible rows above the watermark. -/
def gcStep (cutoff : ℤ) (offset : ℕ) (watermark : ℤ) (db : SystemDatabase) : Option ℤ :=
  (((db.statusRows.filter (gcAbove cutoff watermark)).map
    WorkflowStatusRow.createdAt).insertionSort (· ≤ ·))[offset]?

theorem exists_of_gcStep {cutoff watermark step : ℤ} {offset : ℕ} {db : SystemDatabase}
    (h : gcStep cutoff offset watermark db = some step) :
    ∃ row ∈ db.statusRows, gcAbove cutoff watermark row ∧ row.createdAt = step := by
  have hmem := (List.mem_insertionSort (· ≤ ·)).mp (List.mem_of_getElem? h)
  obtain ⟨row, hrow, hcreated⟩ := List.mem_map.mp hmem
  obtain ⟨hrow, habove⟩ := List.mem_filter.mp hrow
  exact ⟨row, hrow, habove, hcreated⟩

/-- A batch takes at least one row away from above the watermark. -/
theorem count_gcAbove_lt {cutoff watermark step : ℤ} {offset : ℕ} {db : SystemDatabase}
    (h : gcStep cutoff offset watermark db = some step) :
    (gcDelete cutoff (some (watermark, step)) db).workflowStatus.count (gcAbove cutoff step) <
      db.workflowStatus.count (gcAbove cutoff watermark) := by
  obtain ⟨last, hlast, habove, hcreated⟩ := exists_of_gcStep h
  have hstep : watermark < step := by
    simp only [gcAbove, Bool.and_eq_true, decide_eq_true_eq] at habove
    omega
  apply Table.count_lt_of_keys _ _ _ _ _ hlast habove
  · intro row hrow habove hkey
    rw [db.workflowStatus.eq_of_key (Table.mem_delete.mp hrow).1 hlast hkey] at habove
    simp only [gcAbove, hcreated, Bool.and_eq_true, decide_eq_true_eq] at habove
    omega
  · intro row hrow habove
    refine ⟨row, (Table.mem_delete.mp hrow).1, rfl, ?_⟩
    simp only [gcAbove, Bool.and_eq_true, decide_eq_true_eq] at habove ⊢
    exact ⟨habove.1, by omega⟩

/-- The loop over batches, with the offset of the last row of a batch. -/
def gcBatches (cutoff : ℤ) (offset : ℕ) (watermark : ℤ) (db : SystemDatabase) : SystemDatabase :=
  match _hstep : gcStep cutoff offset watermark db with
  -- the final batch deletes every remaining eligible row, even below the watermark
  | none => gcDelete cutoff none db
  | some step => gcBatches cutoff offset step (gcDelete cutoff (some (watermark, step)) db)
termination_by db.workflowStatus.count (gcAbove cutoff watermark)
decreasing_by exact count_gcAbove_lt _hstep

/-- `garbage_collect`, with the IDs of the old workflows that remain. -/
def garbageCollect (dialect : Dialect) (call : GarbageCollectCall) (db : SystemDatabase) :
    Ending SystemDatabase DBOSError (Option (ℤ × List String)) :=
  if call.batchSize.any (· < 1) then
    .raised (.valueError ("batch_size must be a positive integer, got " ++
      toString (call.batchSize.getD 0)))
  else
    match call.rowsBasedCutoff dialect db with
    | .error error => .raised error
    | .ok rowsBased =>
      match restrictCutoff call.cutoffEpochTimestampMs rowsBased with
      | none => .returned none db
      | some cutoff =>
        let db' :=
          match call.batchSize with
          | none => gcDelete cutoff none db
          | some batchSize => gcBatches cutoff (batchSize - 1).toNat 0 db
        .returned (some (cutoff, (db'.statusRows.filter fun row ↦ row.createdAt < cutoff).map
          WorkflowStatusRow.workflowUuid)) db'

/-! ## The batches -/

/-- A deletion absorbs an earlier one of fewer rows. -/
theorem deleteStatusWhere_deleteStatusWhere (db : SystemDatabase) {p q : WorkflowStatusRow → Bool}
    (hpq : ∀ row, p row → q row) :
    (db.deleteStatusWhere p).deleteStatusWhere q = db.deleteStatusWhere q := by
  have hrow (row : WorkflowStatusRow) : q row = (p row || q row) := by
    cases hp : p row with
    | false => rfl
    | true => rw [hpq row hp, Bool.or_true]
  have hgone (workflowId : String) :
      db.workflowStatus.rows.any (fun row ↦ q row && row.workflowUuid == workflowId) =
        (db.workflowStatus.rows.any (fun row ↦ p row && row.workflowUuid == workflowId) ||
          (db.workflowStatus.rows.filter fun row ↦ !p row).any
            fun row ↦ q row && row.workflowUuid == workflowId) := by
    rw [Bool.eq_iff_iff, Bool.or_eq_true]
    simp only [List.any_eq_true, List.mem_filter, Bool.and_eq_true]
    constructor
    · rintro ⟨row, hmem, hq, hid⟩
      cases hp : p row with
      | true => exact Or.inl ⟨row, hmem, hp, hid⟩
      | false => exact Or.inr ⟨row, ⟨hmem, by rw [hp]; rfl⟩, hq, hid⟩
    · rintro (⟨row, hmem, hp, hid⟩ | ⟨row, ⟨hmem, -⟩, hq, hid⟩)
      · exact ⟨row, hmem, hpq row hp, hid⟩
      · exact ⟨row, hmem, hq, hid⟩
  simp only [SystemDatabase.deleteStatusWhere, SystemDatabase.mk.injEq]
  refine ⟨?_, ?_, ?_, ?_, ?_, ?_, trivial⟩
  all_goals apply Table.delete_delete
  · exact hrow
  all_goals
    intro row
    exact hgone _

theorem gcBatches_eq (cutoff : ℤ) (offset : ℕ) (watermark : ℤ) (db : SystemDatabase) :
    gcBatches cutoff offset watermark db = gcDelete cutoff none db := by
  fun_induction gcBatches cutoff offset watermark db with
  | case1 watermark db h => rfl
  | case2 watermark db step h ih =>
    rw [ih]
    apply deleteStatusWhere_deleteStatusWhere
    intro row hrow
    simp only [gcMatches, Bool.and_eq_true] at hrow ⊢
    exact ⟨hrow.1, trivial⟩

/-! ## The rows that stay -/

namespace GarbageCollectCall

variable (call : GarbageCollectCall)

/-- The call raises before it deletes anything. -/
def Rejected (dialect : Dialect) : Prop :=
  (∃ batchSize, call.batchSize = some batchSize ∧ batchSize < 1) ∨
    (dialect = .postgresql ∧ ∃ rowsThreshold, call.rowsThreshold = some rowsThreshold ∧ rowsThreshold < 1)

/-- The row is older than the cutoff of the call, or as many rows as its threshold are newer. -/
def OldEnough (db : SystemDatabase) (row : WorkflowStatusRow) : Prop :=
  (∃ cutoff, call.cutoffEpochTimestampMs = some cutoff ∧ row.createdAt < cutoff) ∨
    ∃ rowsThreshold, call.rowsThreshold = some rowsThreshold ∧
      max 1 rowsThreshold ≤ db.workflowStatus.count fun newer ↦ row.createdAt < newer.createdAt

end GarbageCollectCall

theorem lt_restrictCutoff_iff {cutoff rowsBased : Option ℤ} {createdAt : ℤ} :
    (∃ bound, restrictCutoff cutoff rowsBased = some bound ∧ createdAt < bound) ↔
      (∃ bound, cutoff = some bound ∧ createdAt < bound) ∨
        ∃ bound, rowsBased = some bound ∧ createdAt < bound := by
  cases cutoff with
  | none => cases rowsBased <;> simp [restrictCutoff]
  | some cutoff =>
    cases rowsBased with
    | none => simp [restrictCutoff]
    | some rowsBased =>
      simp only [restrictCutoff, Option.some.injEq, exists_eq_left']
      split <;> omega

/-- The creation time at an offset, newest first, lies above a row exactly if more rows are newer. -/
theorem exists_newest_lt_iff (db : SystemDatabase) (row : WorkflowStatusRow) (offset : ℕ) :
    (∃ bound, ((db.statusRows.map WorkflowStatusRow.createdAt).insertionSort (· ≥ ·))[offset]? =
      some bound ∧ row.createdAt < bound) ↔
        offset < db.workflowStatus.count fun newer ↦ row.createdAt < newer.createdAt := by
  have hsorted := List.pairwise_insertionSort (· ≥ ·)
    (db.statusRows.map WorkflowStatusRow.createdAt)
  have hcount : ((db.statusRows.map WorkflowStatusRow.createdAt).insertionSort (· ≥ ·)).countP
      (row.createdAt < ·) =
        db.workflowStatus.count fun newer ↦ row.createdAt < newer.createdAt := by
    rw [(List.perm_insertionSort _ _).countP_eq, List.countP_map]
    rfl
  rw [exists_getElem?_lt_iff hsorted, hcount]

/-- The rows-based cutoff lies above a row exactly if the threshold of newer rows is reached. -/
theorem lt_rowsBasedCutoff_iff {call : GarbageCollectCall} {dialect : Dialect} {db : SystemDatabase}
    {rowsBased : Option ℤ} (h : call.rowsBasedCutoff dialect db = .ok rowsBased)
    (row : WorkflowStatusRow) :
    (∃ bound, rowsBased = some bound ∧ row.createdAt < bound) ↔
      ∃ rowsThreshold, call.rowsThreshold = some rowsThreshold ∧
        max 1 rowsThreshold ≤
          db.workflowStatus.count fun newer ↦ row.createdAt < newer.createdAt := by
  unfold GarbageCollectCall.rowsBasedCutoff at h
  cases hthreshold : call.rowsThreshold with
  | none =>
    simp only [hthreshold] at h
    cases h
    simp
  | some rowsThreshold =>
    simp only [hthreshold, limitOneOffset] at h
    split at h
    · cases h
    · cases h
      rw [exists_newest_lt_iff]
      simp only [Option.some.injEq, exists_eq_left']
      omega

theorem deleteStatusWhere_nothing (db : SystemDatabase) :
    db.deleteStatusWhere (fun _ ↦ false) = db := by
  have hgone (workflowId : String) :
      db.workflowStatus.rows.any (fun row ↦ false && row.workflowUuid == workflowId) = false := by
    simp
  simp only [SystemDatabase.deleteStatusWhere, hgone]
  rw [Table.delete_eq_self, Table.delete_eq_self, Table.delete_eq_self, Table.delete_eq_self,
    Table.delete_eq_self, Table.delete_eq_self]
  all_goals exact fun _ _ ↦ rfl

/-- A call that is not rejected is one deletion, of the inactive rows that are old enough. -/
theorem garbageCollect_eq {dialect : Dialect} {call : GarbageCollectCall} (db : SystemDatabase)
    (haccepted : ¬call.Rejected dialect) :
    ∃ collected : WorkflowStatusRow → Bool,
      (∀ row, collected row ↔ call.OldEnough db row ∧ row.status.isActive = false) ∧
        (garbageCollect dialect call db).stateAfter db = db.deleteStatusWhere collected := by
  have hbatch : call.batchSize.any (· < 1) = false := by
    rw [← Bool.not_eq_true, Option.any_eq_true]
    rintro ⟨batchSize, hsome, hlt⟩
    exact haccepted (Or.inl ⟨batchSize, hsome, by simpa using hlt⟩)
  unfold garbageCollect
  simp only [hbatch, Bool.false_eq_true, if_false]
  cases hrows : call.rowsBasedCutoff dialect db with
  | error error =>
    refine absurd (Or.inr ?_) haccepted
    unfold GarbageCollectCall.rowsBasedCutoff at hrows
    cases hthreshold : call.rowsThreshold with
    | none =>
      simp only [hthreshold] at hrows
      cases hrows
    | some rowsThreshold =>
      simp only [hthreshold, limitOneOffset] at hrows
      split at hrows
      · rename_i hnegative
        exact ⟨hnegative.2, rowsThreshold, rfl, by omega⟩
      · cases hrows
  | ok rowsBased =>
    have hold (row : WorkflowStatusRow) : call.OldEnough db row ↔
        ∃ bound, restrictCutoff call.cutoffEpochTimestampMs rowsBased = some bound ∧
          row.createdAt < bound := by
      rw [lt_restrictCutoff_iff, lt_rowsBasedCutoff_iff hrows]
      rfl
    simp only
    cases hcutoff : restrictCutoff call.cutoffEpochTimestampMs rowsBased with
    | none =>
      refine ⟨fun _ ↦ false, ?_, (deleteStatusWhere_nothing db).symm⟩
      intro row
      simp [hold, hcutoff]
    | some cutoff =>
      refine ⟨gcMatches cutoff none, ?_, ?_⟩
      · intro row
        simp [hold, hcutoff, gcMatches, gcFilter]
      · simp only [gcBatches_eq]
        cases call.batchSize <;> rfl

theorem mem_deleteStatusWhere {db : SystemDatabase} {p : WorkflowStatusRow → Bool}
    {row : WorkflowStatusRow} :
    row ∈ (db.deleteStatusWhere p).statusRows ↔ row ∈ db.statusRows ∧ p row = false :=
  Table.mem_delete

/-- The checkpoints of a workflow that stays are kept. -/
theorem mem_operationOutputs_deleteStatusWhere {db : SystemDatabase} {p : WorkflowStatusRow → Bool}
    {row : WorkflowStatusRow} {recorded : OperationOutputRow} (hrow : row ∈ db.statusRows)
    (hkeep : p row = false) (hid : recorded.workflowUuid = row.workflowUuid) :
    recorded ∈ (db.deleteStatusWhere p).operationOutputs.rows ↔
      recorded ∈ db.operationOutputs.rows := by
  refine Table.mem_delete.trans (and_iff_left ?_)
  rw [← Bool.not_eq_true, List.any_eq_true]
  rintro ⟨gone, hgone, hmatch⟩
  simp only [Bool.and_eq_true, beq_iff_eq] at hmatch
  rw [db.workflowStatus.eq_of_key hgone hrow (hmatch.2.trans hid), hkeep] at hmatch
  exact absurd hmatch.1 Bool.false_ne_true

/-! ## References to children -/

/-- Every child that a checkpoint of an active workflow refers to and that had a row before still
has one. -/
def KeepsReferencedChildren (before after : SystemDatabase) : Prop :=
  ∀ parent ∈ after.statusRows, parent.status.isActive →
    ∀ recorded ∈ after.operationOutputs.rows, recorded.workflowUuid = parent.workflowUuid →
      ∀ childId, recorded.childWorkflowId = some childId → before.hasWorkflow childId →
        after.hasWorkflow childId

/-- Every child that a checkpoint of an active workflow refers to is itself active, or too young
to be collected. -/
def ReferencedChildrenRetained (call : GarbageCollectCall) (db : SystemDatabase) : Prop :=
  ∀ parent ∈ db.statusRows, parent.status.isActive →
    ∀ recorded ∈ db.operationOutputs.rows, recorded.workflowUuid = parent.workflowUuid →
      ∀ child ∈ db.statusRows, recorded.childWorkflowId = some child.workflowUuid →
        child.status.isActive ∨ ¬call.OldEnough db child

theorem garbageCollect_of_rejected {dialect : Dialect} {call : GarbageCollectCall}
    (db : SystemDatabase) (h : call.Rejected dialect) :
    (garbageCollect dialect call db).stateAfter db = db := by
  unfold garbageCollect
  split
  · rfl
  · rename_i hbatch
    rcases h with ⟨batchSize, hsome, hlt⟩ | ⟨rfl, rowsThreshold, hsome, hlt⟩
    · exact absurd (by simp [hsome, hlt]) hbatch
    · have hnegative : rowsThreshold - 1 < 0 := by omega
      simp [GarbageCollectCall.rowsBasedCutoff, hsome, limitOneOffset, hnegative]

/-- A call keeps every referenced child exactly if it is rejected, or no referenced child is both
inactive and old enough. -/
theorem keepsReferencedChildren_iff (dialect : Dialect) (call : GarbageCollectCall)
    (db : SystemDatabase) :
    KeepsReferencedChildren db ((garbageCollect dialect call db).stateAfter db) ↔
      call.Rejected dialect ∨ ReferencedChildrenRetained call db := by
  by_cases hrejected : call.Rejected dialect
  · rw [garbageCollect_of_rejected db hrejected]
    exact iff_of_true (fun _ _ _ _ _ _ _ _ hchild ↦ hchild) (Or.inl hrejected)
  · obtain ⟨collected, hcollected, hafter⟩ := garbageCollect_eq db hrejected
    have hactive {row : WorkflowStatusRow} (h : row.status.isActive) : collected row = false := by
      rw [← Bool.not_eq_true, hcollected, h]
      exact fun hold ↦ Bool.noConfusion hold.2
    rw [hafter, or_iff_right hrejected]
    constructor
    · intro hkeeps parent hparent hparentActive recorded hrecorded hid child hchild hreference
      have hparentAfter := mem_deleteStatusWhere.mpr ⟨hparent, hactive hparentActive⟩
      have hrecordedAfter :=
        (mem_operationOutputs_deleteStatusWhere hparent (hactive hparentActive) hid).mpr hrecorded
      have hbefore := SystemDatabase.hasWorkflow_iff.mpr ⟨child, hchild, rfl⟩
      obtain ⟨row, hrow, hrowId⟩ := SystemDatabase.hasWorkflow_iff.mp (hkeeps parent hparentAfter hparentActive
        recorded hrecordedAfter hid child.workflowUuid hreference hbefore)
      obtain ⟨hrow, hkept⟩ := mem_deleteStatusWhere.mp hrow
      rw [db.workflowStatus.eq_of_key hrow hchild hrowId, ← Bool.not_eq_true, hcollected] at hkept
      cases hstatus : child.status.isActive with
      | true => exact Or.inl rfl
      | false => exact Or.inr fun hold ↦ hkept ⟨hold, hstatus⟩
    · intro hretained parent hparent hparentActive recorded hrecorded hid childId hreference hbefore
      obtain ⟨hparent, hparentKept⟩ := mem_deleteStatusWhere.mp hparent
      obtain ⟨child, hchild, rfl⟩ := SystemDatabase.hasWorkflow_iff.mp hbefore
      have hrecorded :=
        (mem_operationOutputs_deleteStatusWhere hparent hparentKept hid).mp hrecorded
      have hchildKept : collected child = false := by
        rcases hretained parent hparent hparentActive recorded hrecorded hid child hchild hreference
          with hchildActive | hyoung
        · exact hactive hchildActive
        · rw [← Bool.not_eq_true, hcollected]
          exact fun hold ↦ hyoung hold.1
      exact SystemDatabase.hasWorkflow_iff.mpr ⟨child, mem_deleteStatusWhere.mpr ⟨hchild, hchildKept⟩, rfl⟩

/-- A parent that has started a child at function 1; the child has finished, the parent has not. -/
def parentOfFinishedChild : SystemDatabase :=
  let started (workflowId : String) (now : ℤ) (db : SystemDatabase) :=
    (initWorkflow { status := startedStatus workflowId, ownerXid := some workflowId } now
      db).stateAfter db
  let db := started "parent" 1 SystemDatabase.empty
  let db := started "child" 2 db
  let db := (recordChildWorkflow "parent" "child" 1 "f" db).stateAfter db
  (updateWorkflowOutcome "child" .success (some "1") none 3 db).stateAfter db

theorem not_keepsReferencedChildren :
    ¬KeepsReferencedChildren parentOfFinishedChild
      ((garbageCollect .postgresql ⟨some 10, none, none⟩ parentOfFinishedChild).stateAfter
        parentOfFinishedChild) := by
  have hlost : ∃ parent ∈ ((garbageCollect .postgresql ⟨some 10, none, none⟩
      parentOfFinishedChild).stateAfter parentOfFinishedChild).statusRows,
      parent.status.isActive ∧ ∃ recorded ∈ ((garbageCollect .postgresql ⟨some 10, none, none⟩
        parentOfFinishedChild).stateAfter parentOfFinishedChild).operationOutputs.rows,
        recorded.workflowUuid = parent.workflowUuid ∧ recorded.childWorkflowId = some "child" := by
    decide
  obtain ⟨parent, hparent, hactive, recorded, hrecorded, hid, hreference⟩ := hlost
  intro h
  exact absurd (h parent hparent hactive recorded hrecorded hid "child" hreference (by decide))
    (by decide)

end DBOSModel.SysDb

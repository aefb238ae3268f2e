import DBOSModel.SysDb.Checkpoint
import DBOSModel.SysDb.RecoveryAttempts

/-!
# Recovery and ownership

`recover_pending_workflows` of `dbos/_recovery.py` reads the PENDING workflows of an executor and
then handles them one by one: a queued workflow goes back to its queue, any other is executed here.
Neither action checks again whose workflow it is. The system below interleaves any number of such
recoveries with all other operations; each listed workflow carries a mark that is set when another
executor dequeues it, starts it or records one of its steps after the list was read. As long as
recovery acts on unmarked workflows, or on rows that its statements leave alone, it takes nothing
away from another executor.
-/

namespace DBOSModel.Core

open Relational DBOSModel.SysDb

/-! ## The functions -/

/-- `GetPendingWorkflowsOutput`. -/
structure GetPendingWorkflowsOutput where
  workflowId : String
  queueName : Option String
deriving DecidableEq

def getPendingWorkflows (executorId appVersion : String) (db : SystemDatabase) :
    List GetPendingWorkflowsOutput :=
  (db.statusRows.filter fun row ↦ row.status = .pending && row.executorId = some executorId &&
    row.applicationVersion = some appVersion).map fun row ↦ ⟨row.workflowUuid, row.queueName⟩

/-- `if workflow.queue_name`: an empty name counts as none. -/
def GetPendingWorkflowsOutput.isQueued (workflow : GetPendingWorkflowsOutput) : Bool :=
  workflow.queueName.any (· ≠ "")

/-! ## The system -/

/-- A workflow on a list that recovery has read. -/
structure Listed where
  /-- The executor that is recovered. -/
  executorId : String
  workflow : GetPendingWorkflowsOutput
  /-- Another executor has taken the workflow over since. -/
  takenOver : Bool
deriving DecidableEq

structure RecoveryState where
  db : SystemDatabase
  listed : List Listed

inductive RecoveryAction where
  /-- `get_pending_workflows` for one executor. -/
  | read (executorId appVersion : String)
  /-- `_recover_workflow` on a queued workflow. -/
  | clear (index : ℕ)
  /-- `_recover_workflow` on any other: the `init_workflow` of `execute_workflow_by_id`. -/
  | execute (index : ℕ) (call : InitCall) (built : Built call.status) (now : ℤ)
  /-- `_recover_workflow` raises before its action. -/
  | abandon (index : ℕ)
  /-- A status operation of any process. -/
  | write (op : StatusOp) (now : ℤ)
  /-- A step recorded by any process. -/
  | record (executorId : Option String) (result : OperationResultInternal) (completedAt : ℤ)

/-- `init_workflow` stores an executor other than the one given. -/
def initTakesOver (executorId workflowId : String) (call : InitCall) (db : SystemDatabase) : Bool :=
  call.status.workflowUuid = workflowId && call.status.executorId ≠ some executorId &&
    (!call.status.status.isEnqueued || !db.hasWorkflow workflowId)

/-- Another executor dequeues, starts or checkpoints the workflow. -/
def takesOver (executorId workflowId : String) (db : SystemDatabase) : RecoveryAction → Bool
  | .execute _ call _ _ => initTakesOver executorId workflowId call db
  | .write (.init call _) _ => initTakesOver executorId workflowId call db
  | .write (.startQueued call) now =>
    decide (workflowId ∈ (startQueuedWorkflows call now db).1) && call.executorId ≠ executorId
  | .record recorder result _ =>
    result.workflowUuid = workflowId && recorder.any (· ≠ executorId)
  | _ => false

/-- The mark of a listed workflow after an action. -/
def Listed.after (action : RecoveryAction) (db : SystemDatabase) (entry : Listed) : Listed :=
  { entry with
    takenOver := entry.takenOver || takesOver entry.executorId entry.workflow.workflowId db action }

/-- The guard of `_recover_workflow` for the direct execution of an entry. -/
def Listed.executes (entry : Listed) (call : InitCall) : Bool :=
  !entry.workflow.isQueued && call.status.workflowUuid = entry.workflow.workflowId &&
    call.isRecoveryRequest && !call.isDequeuedRequest

def recoverySystem : System RecoveryState RecoveryAction where
  step s action :=
    match action with
    | .read executorId appVersion => some
        { s with
          listed := s.listed ++ (getPendingWorkflows executorId appVersion s.db).map
            fun workflow ↦ ⟨executorId, workflow, false⟩ }
    | .clear index =>
      match s.listed[index]? with
      | none => none
      | some entry =>
        if entry.workflow.isQueued then some
          { db := clearQueueAssignment entry.workflow.workflowId s.db
            listed := s.listed.eraseIdx index }
        else none
    | .execute index call _ now =>
      match s.listed[index]? with
      | none => none
      | some entry =>
        if entry.executes call then some
          { db := (initWorkflow call now s.db).stateAfter s.db
            listed := (s.listed.eraseIdx index).map (Listed.after action s.db) }
        else none
    | .abandon index => some { s with listed := s.listed.eraseIdx index }
    | .write op now => some
        { db := op.apply now s.db
          listed := s.listed.map (Listed.after action s.db) }
    | .record executorId result completedAt => some
        { db := (recordOperationResult executorId result completedAt s.db).stateAfter s.db
          listed := s.listed.map (Listed.after action s.db) }

/-! ## The property and the condition -/

/-- The row belongs to an executor other than the one given. -/
def belongsToOther (executorId : String) (row : WorkflowStatusRow) : Bool :=
  row.executorId.any (· ≠ executorId)

/-- Recovery moves no workflow of another executor back to ENQUEUED and starts no execution of
one. -/
def DoesNotSteal (s : RecoveryState) : RecoveryAction → Prop
  | .clear index =>
    ∀ entry ∈ s.listed[index]?, ∀ row ∈ s.db.statusRows,
      row.workflowUuid = entry.workflow.workflowId → belongsToOther entry.executorId row →
        ∀ row' ∈ (clearQueueAssignment entry.workflow.workflowId s.db).statusRows,
          row'.workflowUuid = row.workflowUuid → row'.status = .enqueued → row.status = .enqueued
  | .execute index call _ now =>
    ∀ entry ∈ s.listed[index]?, entry.executes call → ∀ row ∈ s.db.statusRows,
      row.workflowUuid = entry.workflow.workflowId → belongsToOther entry.executorId row →
        beginsExecution (initWorkflow call now s.db) = false
  | _ => True

/-- Recovery acts on a workflow that no other executor has taken over since the list was read, or
on a row that its action leaves alone: one that is not PENDING on a queue, or one that is finished,
registered under another name or out of recovery attempts. -/
def ActsOnUntaken (s : RecoveryState) : RecoveryAction → Prop
  | .clear index =>
    ∀ entry ∈ s.listed[index]?, entry.takenOver = false ∨ ∀ row ∈ s.db.statusRows,
      row.workflowUuid = entry.workflow.workflowId → row.status ≠ .pending ∨ row.queueName = none
  | .execute index call _ now =>
    ∀ entry ∈ s.listed[index]?, entry.takenOver = false ∨ ∀ row ∈ s.db.statusRows,
      row.workflowUuid = entry.workflow.workflowId → row.status.isComplete ∨
        call.mismatch row ≠ none ∨ call.exceedsRecoveryAttempts (call.conflictUpdate now row)
  | _ => True

/-! ## Who owns a row -/

section Ownership

variable {executorId : String} {db : SystemDatabase} {row row' : WorkflowStatusRow} {now : ℤ}
  {s s' : RecoveryState} {action : RecoveryAction}

/-- The row names no executor other than the one given. -/
def Unowned (executorId : String) (row : WorkflowStatusRow) : Prop :=
  belongsToOther executorId row = false

theorem unowned_iff : Unowned executorId row ↔
    row.executorId = none ∨ row.executorId = some executorId := by
  unfold Unowned belongsToOther
  cases row.executorId with
  | none => simp
  | some owner => simp

/-- An operation that does not take the workflow over leaves its row unowned. -/
theorem unowned_of_mem_apply {op : StatusOp} (hrow' : row' ∈ (op.apply now db).statusRows)
    (hunowned : ∀ row ∈ db.statusRows, row.workflowUuid = row'.workflowUuid →
      Unowned executorId row)
    (htakes : takesOver executorId row'.workflowUuid db (.write op now) = false) :
    Unowned executorId row' := by
  rcases mem_apply hrow' with ⟨row, hrow, hid, hchange⟩ | ⟨hfresh, hcreated⟩
  · have hold := hunowned row hrow hid
    have hinit (call : InitCall) (hcall : row.workflowUuid = call.status.workflowUuid)
        (hnot : initTakesOver executorId row'.workflowUuid call db = false) :
        Unowned executorId (call.conflictUpdate now row) := by
      have hpresent := SystemDatabase.hasWorkflow_iff.mpr ⟨row, hrow, hid⟩
      rw [unowned_iff] at hold ⊢
      simp only [InitCall.conflictUpdate]
      split
      · exact hold
      · rename_i hstatus
        right
        simpa [initTakesOver, hcall.symm, hid, hpresent, hstatus] using hnot
    cases hchange with
    | conflict call built row hcall => exact hinit call hcall htakes
    | deadLetter call built row hcall => exact hinit call hcall htakes
    | startQueued call row hmem =>
      have hsame : call.executorId = executorId := by
        rw [hid] at hmem
        simpa [takesOver, hmem] using htakes
      rw [unowned_iff]
      right
      simp [DequeueCall.startUpdate, hsame]
    | _ => exact hold
  · cases hcreated with
    | init call built =>
      have habsent : db.hasWorkflow call.status.workflowUuid = false := by
        rw [← Bool.not_eq_true, SystemDatabase.hasWorkflow_iff]
        rintro ⟨row, hrow, hid⟩
        exact hfresh row hrow hid
      rw [unowned_iff]
      right
      simpa [takesOver, initTakesOver, InitCall.insertedRow, habsent] using htakes
    | fork => exact unowned_iff.mpr (Or.inl rfl)

/-- Recording a step changes no row but the executor of its workflow. -/
theorem mem_recordOperationResult {recorder : Option String} {result : OperationResultInternal}
    {completedAt : ℤ} (hrow' : row' ∈
      ((recordOperationResult recorder result completedAt db).stateAfter db).statusRows) :
    row' ∈ db.statusRows ∨ ∃ row ∈ db.statusRows, row.workflowUuid = result.workflowUuid ∧
      recorder.isSome ∧ row' = { row with executorId := recorder } := by
  unfold recordOperationResult at hrow'
  cases hrecord : recordOperationResultTxn recorder result completedAt db with
  | error error =>
    rw [hrecord] at hrow'
    exact Or.inl hrow'
  | ok db' =>
    rw [hrecord] at hrow'
    obtain ⟨-, owned, howned, hupsert⟩ := recordOperationResultTxn_eq_ok hrecord
    have hstatus := workflowStatus_of_upsertResult hupsert
    have hmem : row' ∈ (resetExecutor recorder owned db).statusRows := by
      have hrows : row' ∈ db'.statusRows := hrow'
      rw [SystemDatabase.statusRows, ← hstatus]
      exact hrows
    unfold resetExecutor at hmem
    split at hmem
    · rename_i hreset
      obtain ⟨row, hrow, rfl⟩ := Table.mem_update.mp hmem
      have hownedId := (db.workflowStatus.lookup_eq_some.mp howned).2
      by_cases hid : row.workflowUuid = owned.workflowUuid
      · right
        exact ⟨row, hrow, hid.trans hownedId, hreset.1, by simp [hid]⟩
      · left
        rw [if_neg (by simpa using hid)]
        exact hrow
    · exact Or.inl hmem

/-- The row of a listed workflow that was not taken over belongs to the recovered executor, or to
nobody. -/
def OwnedUnlessTaken (s : RecoveryState) : Prop :=
  ∀ entry ∈ s.listed, entry.takenOver = false → ∀ row ∈ s.db.statusRows,
    row.workflowUuid = entry.workflow.workflowId → Unowned entry.executorId row

theorem mem_of_mem_eraseIdx {entries : List Listed} {index : ℕ} {entry : Listed}
    (h : entry ∈ entries.eraseIdx index) : entry ∈ entries :=
  (List.eraseIdx_sublist entries index).subset h

/-- A write keeps the invariant of the entries that remain, with their new marks. -/
theorem ownedUnlessTaken_marked {remaining : List Listed} {db' : SystemDatabase}
    (h : OwnedUnlessTaken s) (hsubset : ∀ entry ∈ remaining, entry ∈ s.listed)
    (hwrite : ∀ executorId, ∀ row' ∈ db'.statusRows,
      (∀ row ∈ s.db.statusRows, row.workflowUuid = row'.workflowUuid → Unowned executorId row) →
        takesOver executorId row'.workflowUuid s.db action = false → Unowned executorId row') :
    OwnedUnlessTaken { db := db', listed := remaining.map (Listed.after action s.db) } := by
  intro marked hmarked htaken row' hrow' hid
  obtain ⟨entry, hentry, rfl⟩ := List.mem_map.mp hmarked
  obtain ⟨hfree, htakes⟩ := Bool.or_eq_false_iff.mp htaken
  have hid : row'.workflowUuid = entry.workflow.workflowId := hid
  rw [← hid] at htakes
  refine hwrite entry.executorId row' hrow' ?_ htakes
  intro row hrow hrowId
  exact h entry (hsubset entry hentry) hfree row hrow (hrowId.trans hid)

theorem ownedUnlessTaken_step (h : OwnedUnlessTaken s)
    (hstep : recoverySystem.step s action = some s') : OwnedUnlessTaken s' := by
  cases action with
  | read executorId appVersion =>
    cases hstep
    intro entry hentry htaken row hrow hid
    rcases List.mem_append.mp hentry with hold | hnew
    · exact h entry hold htaken row hrow hid
    · obtain ⟨workflow, hworkflow, rfl⟩ := List.mem_map.mp hnew
      obtain ⟨listed, hlisted, rfl⟩ := List.mem_map.mp hworkflow
      obtain ⟨hmem, hguard⟩ := List.mem_filter.mp hlisted
      simp only [Bool.and_eq_true, decide_eq_true_eq] at hguard
      rw [s.db.workflowStatus.eq_of_key hrow hmem hid]
      exact unowned_iff.mpr (Or.inr hguard.1.2)
  | clear index =>
    simp only [recoverySystem] at hstep
    split at hstep
    · cases hstep
    · split at hstep
      · cases hstep
        intro entry hentry htaken row' hrow' hid
        obtain ⟨row, hrow, rfl⟩ := Table.mem_update.mp hrow'
        have hunowned := h entry (mem_of_mem_eraseIdx hentry) htaken row hrow (by
          split at hid <;> exact hid)
        split <;> exact hunowned
      · cases hstep
  | execute index call built now =>
    simp only [recoverySystem] at hstep
    split at hstep
    · cases hstep
    · split at hstep
      · cases hstep
        apply ownedUnlessTaken_marked h fun entry ↦ mem_of_mem_eraseIdx
        intro executorId row' hrow' hunowned htakes
        have hafter : row' ∈ ((StatusOp.init call built).apply now s.db).statusRows := hrow'
        exact unowned_of_mem_apply hafter hunowned htakes
      · cases hstep
  | abandon index =>
    cases hstep
    exact fun entry hentry ↦ h entry (mem_of_mem_eraseIdx hentry)
  | write op now =>
    cases hstep
    apply ownedUnlessTaken_marked h fun _ hentry ↦ hentry
    exact fun executorId row' hrow' hunowned htakes ↦ unowned_of_mem_apply hrow' hunowned htakes
  | record recorder result completedAt =>
    cases hstep
    apply ownedUnlessTaken_marked h fun _ hentry ↦ hentry
    intro executorId row' hrow' hunowned htakes
    rcases mem_recordOperationResult hrow' with hold | ⟨row, hrow, hid, hsome, rfl⟩
    · exact hunowned row' hold rfl
    · obtain ⟨owner, rfl⟩ := Option.isSome_iff_exists.mp hsome
      have hsame : owner = executorId := by
        simpa [takesOver, hid.symm] using htakes
      exact unowned_iff.mpr (Or.inr (by rw [hsame]))

/-! ## Recovery actions -/

theorem clearQueueAssignment_of_not_pending {workflowId : String} (hrow : row ∈ db.statusRows)
    (hleft : row.status ≠ .pending ∨ row.queueName = none)
    (hrow' : row' ∈ (clearQueueAssignment workflowId db).statusRows)
    (hid : row'.workflowUuid = row.workflowUuid) : row' = row := by
  rw [Table.eq_of_mem_update hrow hrow' hid]
  rcases hleft with hstatus | hqueue
  · simp [hstatus]
  · simp [hqueue]

/-- A call on a finished, differently named or dead-lettered workflow begins no execution. -/
theorem beginsExecution_of_rejected {call : InitCall} (hrow : row ∈ db.statusRows)
    (hid : row.workflowUuid = call.status.workflowUuid)
    (hrejected : row.status.isComplete ∨ call.mismatch row ≠ none ∨
      call.exceedsRecoveryAttempts (call.conflictUpdate now row)) :
    beginsExecution (initWorkflow call now db) = false := by
  rw [← Bool.not_eq_true]
  intro hbegins
  obtain ⟨result, db', hending, -, hincomplete⟩ := exists_returned_of_beginsExecution hbegins
  rcases initWorkflow_eq_returned hending with
    ⟨stored, hstored, hstoredId, hmatch, hwithin, hstatus, -⟩ | ⟨hfresh, -⟩
  · rw [db.workflowStatus.eq_of_key hstored hrow (hstoredId.trans hid.symm)] at hmatch hwithin hstatus
    rw [hstatus] at hincomplete
    rcases hrejected with hcomplete | hmismatch | hexceeds
    · rw [hcomplete] at hincomplete
      exact Bool.noConfusion hincomplete
    · exact hmismatch hmatch
    · rw [hexceeds] at hwithin
      exact Bool.noConfusion hwithin
  · exact hfresh row hrow hid

theorem doesNotSteal_of_untaken (h : OwnedUnlessTaken s) (huntaken : ActsOnUntaken s action) :
    DoesNotSteal s action := by
  cases action with
  | clear index =>
    intro entry hentry row hrow hid hother row' hrow' hid' henqueued
    rcases huntaken entry hentry with hfree | hleft
    · have hunowned := h entry (List.mem_of_getElem? hentry) hfree row hrow hid
      exact absurd (hunowned.symm.trans hother) Bool.false_ne_true
    · rw [← clearQueueAssignment_of_not_pending hrow (hleft row hrow hid) hrow' hid']
      exact henqueued
  | execute index call built now =>
    intro entry hentry hexecutes row hrow hid hother
    rcases huntaken entry hentry with hfree | hleft
    · have hunowned := h entry (List.mem_of_getElem? hentry) hfree row hrow hid
      exact absurd (hunowned.symm.trans hother) Bool.false_ne_true
    · simp only [Listed.executes, Bool.and_eq_true, decide_eq_true_eq] at hexecutes
      exact beginsExecution_of_rejected hrow (hid.trans hexecutes.1.1.2.symm) (hleft row hrow hid)
  | read => trivial
  | abandon => trivial
  | write => trivial
  | record => trivial

/-- Over every run in which recovery acts only on workflows that were not taken over since its
list was read, or on rows that its action leaves alone, it steals nothing. -/
theorem doesNotSteal_along (db : SystemDatabase) (actions : List RecoveryAction)
    (huntaken : recoverySystem.Along ActsOnUntaken ⟨db, []⟩ actions) :
    recoverySystem.Along DoesNotSteal ⟨db, []⟩ actions := by
  refine recoverySystem.along_of_invariant (I := OwnedUnlessTaken)
    (fun s action s' hs _ hstep ↦ ownedUnlessTaken_step hs hstep)
    (fun s action hs huntaken ↦ doesNotSteal_of_untaken hs huntaken) ?_ huntaken
  intro entry hentry
  cases hentry

end Ownership

/-! ## A queued workflow of a dead executor -/

instance (s : RecoveryState) : (action : RecoveryAction) → Decidable (ActsOnUntaken s action)
  | .clear index =>
    inferInstanceAs (Decidable (∀ entry ∈ s.listed[index]?, entry.takenOver = false ∨
      ∀ row ∈ s.db.statusRows, row.workflowUuid = entry.workflow.workflowId →
        row.status ≠ .pending ∨ row.queueName = none))
  | .execute index call _ now =>
    inferInstanceAs (Decidable (∀ entry ∈ s.listed[index]?, entry.takenOver = false ∨
      ∀ row ∈ s.db.statusRows, row.workflowUuid = entry.workflow.workflowId →
        row.status.isComplete ∨ call.mismatch row ≠ none ∨
          call.exceedsRecoveryAttempts (call.conflictUpdate now row)))
  | .read _ _ => isTrue trivial
  | .abandon _ => isTrue trivial
  | .write _ _ => isTrue trivial
  | .record _ _ _ => isTrue trivial

instance (s : RecoveryState) : (action : RecoveryAction) → Decidable (DoesNotSteal s action)
  | .clear index =>
    inferInstanceAs (Decidable (∀ entry ∈ s.listed[index]?, ∀ row ∈ s.db.statusRows,
      row.workflowUuid = entry.workflow.workflowId → belongsToOther entry.executorId row →
        ∀ row' ∈ (clearQueueAssignment entry.workflow.workflowId s.db).statusRows,
          row'.workflowUuid = row.workflowUuid → row'.status = .enqueued → row.status = .enqueued))
  | .execute index call _ now =>
    inferInstanceAs (Decidable (∀ entry ∈ s.listed[index]?, entry.executes call →
      ∀ row ∈ s.db.statusRows, row.workflowUuid = entry.workflow.workflowId →
        belongsToOther entry.executorId row → beginsExecution (initWorkflow call now s.db) = false))
  | .read _ _ => isTrue trivial
  | .abandon _ => isTrue trivial
  | .write _ _ => isTrue trivial
  | .record _ _ _ => isTrue trivial

def dequeueBy (executorId queueName : String) : RecoveryAction :=
  .write (.startQueued
    { queue := { name := queueName }, executorId := executorId, appVersion := "v" }) 0

/-- A workflow is enqueued and dequeued by an executor, whose pending workflows are then read. -/
def readAfterDequeue : List RecoveryAction :=
  [.write (.init { status := enqueuedStatus "wf" "q" "v" } (built_enqueuedStatus "wf" "q" "v")) 0,
    dequeueBy "e1" "q", .read "e1" "v"]

theorem doesNotSteal_readAfterDequeue :
    recoverySystem.Along DoesNotSteal ⟨SystemDatabase.empty, []⟩ (readAfterDequeue ++ [.clear 0]) :=
  doesNotSteal_along SystemDatabase.empty (readAfterDequeue ++ [.clear 0]) (by decide)

/-- A client resumes the workflow and another executor dequeues it before recovery acts. -/
theorem steals_resumed_workflow :
    ¬recoverySystem.Along DoesNotSteal ⟨SystemDatabase.empty, []⟩
      (readAfterDequeue ++ [.write (.resume ["wf"] none) 1, dequeueBy "e2" internalQueueName,
        .clear 0]) := by
  decide

end DBOSModel.Core

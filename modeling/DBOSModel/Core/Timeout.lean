import DBOSModel.SysDb.StatusOperation

/-!
# Timeout tasks

`_init_workflow` starts a task for every execution with a deadline. The task sleeps until the
deadline it was given and then cancels the workflow, without reading the row again. The row's
deadline can change in the meantime: `resume_workflows` clears it and the next dequeue computes a
new one. A task is superseded when its workflow is resumed or its row deleted; until then the row
keeps the task's deadline (`DeadlineHeld`), so a task that is not superseded cancels only at or
after the deadline of the row.
-/

namespace DBOSModel.Core

open Relational DBOSModel.SysDb

/-- A running `timeout_func`. -/
structure TimeoutTask where
  workflowId : String
  workflowDeadlineEpochMs : ℤ
  /-- The workflow was resumed, or its row deleted, after the task was started. -/
  superseded : Bool
deriving DecidableEq

structure TimeoutState where
  db : SystemDatabase
  /-- The clock in milliseconds. -/
  clock : ℤ
  tasks : List TimeoutTask

inductive TimeoutAction where
  | wait (milliseconds : ℕ)
  /-- `_init_workflow`: a start, a recovery or the dispatch of a dequeued workflow. -/
  | start (call : InitCall) (built : Built call.status)
  /-- A status operation of any process. -/
  | write (op : StatusOp)
  /-- The sleep of a task is over: it cancels its workflow. -/
  | fire (index : ℕ)
  /-- The process of a task stops. -/
  | stop (index : ℕ)

/-- The task that `_init_workflow` starts after the answer of `init_workflow`. -/
def timeoutTasks (workflowId : String) (ending : Ending SystemDatabase DBOSError InitResult) :
    List TimeoutTask :=
  match ending.result with
  | .ok result =>
    if result.shouldExecute then
      result.workflowDeadlineEpochMs.toList.map fun deadline ↦ ⟨workflowId, deadline, false⟩
    else []
  | .error _ => []

/-- The operation resumes or deletes the row. -/
def supersedesRow (op : StatusOp) (row : WorkflowStatusRow) : Bool :=
  op.deletes row ||
    (match op with
    | .resume workflowIds _ => decide (row.workflowUuid ∈ workflowIds) && !row.status.isComplete
    | _ => false)

/-- The mark of a task after an operation. -/
def TimeoutTask.after (op : StatusOp) (db : SystemDatabase) (task : TimeoutTask) : TimeoutTask :=
  { task with
    superseded := task.superseded || db.statusRows.any fun row ↦
      row.workflowUuid = task.workflowId && supersedesRow op row }

def timeoutSystem : System TimeoutState TimeoutAction where
  step s
    | .wait milliseconds => some { s with clock := s.clock + milliseconds }
    | .start call _ =>
      let ending := initWorkflow call s.clock s.db
      some
        { s with
          db := ending.stateAfter s.db
          tasks := s.tasks ++ timeoutTasks call.status.workflowUuid ending }
    | .write op => some
        { s with
          db := op.apply s.clock s.db
          tasks := s.tasks.map (TimeoutTask.after op s.db) }
    | .fire index =>
      match s.tasks[index]? with
      | none => none
      | some task =>
        if task.workflowDeadlineEpochMs ≤ s.clock then some
          { s with
            db := cancelWorkflows [task.workflowId] s.clock s.db
            tasks := s.tasks.eraseIdx index }
        else none
    | .stop index => some { s with tasks := s.tasks.eraseIdx index }

/-! ## The property and the condition -/

/-- The row is one that a cancellation changes to CANCELLED. -/
def isCancellable (row : WorkflowStatusRow) : Bool :=
  !row.status.isComplete && row.status ≠ .cancelled

/-- A task that fires cancels its workflow only if the row has a deadline that has passed. -/
def ActsOnDeadline (s : TimeoutState) : TimeoutAction → Prop
  | .fire index =>
    ∀ task ∈ s.tasks[index]?, task.workflowDeadlineEpochMs ≤ s.clock → ∀ row ∈ s.db.statusRows,
      row.workflowUuid = task.workflowId → isCancellable row →
        row.workflowDeadlineEpochMs.any (· ≤ s.clock)
  | _ => True

/-- A superseded task fires only when its workflow is finished, cancelled or gone. -/
def FiresCurrent (s : TimeoutState) : TimeoutAction → Prop
  | .fire index =>
    ∀ task ∈ s.tasks[index]?, task.superseded = false ∨ ∀ row ∈ s.db.statusRows,
      row.workflowUuid = task.workflowId → isCancellable row = false
  | _ => True

/-! ## The deadline of the row -/

section Deadline

variable {now : ℤ} {db : SystemDatabase} {op : StatusOp} {row row' : WorkflowStatusRow}
  {s s' : TimeoutState} {action : TimeoutAction}

/-- Only a resumption changes a deadline that is set. -/
theorem deadline_of_rowChange {deadline : ℤ} (hchange : RowChange now db op row row')
    (hkept : supersedesRow op row = false) (hdeadline : row.workflowDeadlineEpochMs = some deadline) :
    row'.workflowDeadlineEpochMs = some deadline := by
  cases hchange with
  | resume ids queueName row hid hstatus =>
    simp [supersedesRow, hid, hstatus] at hkept
  | startQueued call row =>
    simp only [DequeueCall.startUpdate, hdeadline]
    split
    · rename_i hnone
      cases hnone
    · rfl
  | _ => exact hdeadline

/-- The row of a workflow is there and holds the given deadline. -/
def DeadlineHeld (db : SystemDatabase) (workflowId : String) (deadline : ℤ) : Prop :=
  ∃ row ∈ db.statusRows, row.workflowUuid = workflowId ∧
    row.workflowDeadlineEpochMs = some deadline

theorem deadlineHeld_apply (op : StatusOp) {workflowId : String} {deadline : ℤ}
    (h : DeadlineHeld db workflowId deadline)
    (hkept : ∀ row ∈ db.statusRows, row.workflowUuid = workflowId → supersedesRow op row = false) :
    DeadlineHeld (op.apply now db) workflowId deadline := by
  obtain ⟨row, hrow, hid, hdeadline⟩ := h
  have hrowKept := hkept row hrow hid
  obtain ⟨row', hrow', hid', hchange⟩ :=
    exists_rowChange now hrow (Bool.or_eq_false_iff.mp hrowKept).1
  exact ⟨row', hrow', hid'.trans hid, deadline_of_rowChange hchange hrowKept hdeadline⟩

/-- A new task has the deadline of the stored row. -/
theorem deadlineHeld_of_timeoutTasks {call : InitCall} {task : TimeoutTask}
    (h : task ∈ timeoutTasks call.status.workflowUuid (initWorkflow call now db)) :
    DeadlineHeld ((initWorkflow call now db).stateAfter db) task.workflowId
      task.workflowDeadlineEpochMs := by
  cases hending : initWorkflow call now db with
  | raised error =>
    rw [hending] at h
    cases h
  | raisedAfterCommit error db' =>
    rw [hending] at h
    cases h
  | returned result db' =>
    rw [hending] at h
    simp only [timeoutTasks, Ending.result_returned] at h
    split at h
    · obtain ⟨deadline, hdeadline, rfl⟩ := List.mem_map.mp h
      rw [Option.mem_toList] at hdeadline
      rw [Ending.stateAfter_returned]
      rcases initWorkflow_eq_returned hending with
        ⟨row, hrow, hid, -, -, -, -, hresult, rfl⟩ | ⟨-, -, -, hresult, rows, hrows, rfl⟩
      · refine ⟨call.conflictUpdate now row, ?_, hid, hresult.symm.trans hdeadline⟩
        exact Table.mem_update.mpr ⟨row, hrow, by simp [hid]⟩
      · refine ⟨call.insertedRow now, ?_, rfl, hresult.symm.trans hdeadline⟩
        exact (Table.mem_insertNew hrows).mpr (Or.inr rfl)
    · cases h

/-! ## Steps and runs -/

/-- The row still holds the deadline of every task that is not superseded. -/
def DeadlinesHeld (s : TimeoutState) : Prop :=
  ∀ task ∈ s.tasks, task.superseded = false →
    DeadlineHeld s.db task.workflowId task.workflowDeadlineEpochMs

theorem supersedesRow_init (call : InitCall) (built : Built call.status) (row : WorkflowStatusRow) :
    supersedesRow (.init call built) row = false := rfl

theorem deadlinesHeld_step (h : DeadlinesHeld s) (hstep : timeoutSystem.step s action = some s') :
    DeadlinesHeld s' := by
  cases action with
  | wait milliseconds =>
    cases hstep
    exact h
  | start call built =>
    cases hstep
    intro task htask hcurrent
    rcases List.mem_append.mp htask with hold | hnew
    · exact deadlineHeld_apply (.init call built) (h task hold hcurrent)
        fun row _ _ ↦ supersedesRow_init call built row
    · exact deadlineHeld_of_timeoutTasks hnew
  | write op =>
    cases hstep
    intro marked hmarked hcurrent
    obtain ⟨task, htask, rfl⟩ := List.mem_map.mp hmarked
    obtain ⟨htaskCurrent, hkept⟩ := Bool.or_eq_false_iff.mp hcurrent
    apply deadlineHeld_apply op (h task htask htaskCurrent)
    intro row hrow hid
    simpa [hid] using List.any_eq_false.mp hkept row hrow
  | fire index =>
    simp only [timeoutSystem] at hstep
    split at hstep
    · cases hstep
    · rename_i fired hfired
      split at hstep
      · cases hstep
        intro task htask hcurrent
        have hmem := (List.eraseIdx_sublist s.tasks index).subset htask
        exact deadlineHeld_apply (.cancel [fired.workflowId]) (h task hmem hcurrent)
          fun _ _ _ ↦ rfl
      · cases hstep
  | stop index =>
    cases hstep
    exact fun task htask ↦ h task ((List.eraseIdx_sublist s.tasks index).subset htask)

theorem actsOnDeadline_of_current (h : DeadlinesHeld s) (hcurrent : FiresCurrent s action) :
    ActsOnDeadline s action := by
  cases action with
  | fire index =>
    intro task htask hdue row hrow hid hcancellable
    rcases hcurrent task htask with hfresh | hleft
    · obtain ⟨held, hheld, hheldId, hdeadline⟩ := h task (List.mem_of_getElem? htask) hfresh
      rw [s.db.workflowStatus.eq_of_key hrow hheld (hid.trans hheldId.symm), hdeadline]
      simpa using hdue
    · rw [hleft row hrow hid] at hcancellable
      cases hcancellable
  | wait => trivial
  | start => trivial
  | write => trivial
  | stop => trivial

/-- Over every run in which no superseded task fires on an unfinished workflow, every cancellation
by a timeout task comes when the deadline of the row has passed. -/
theorem actsOnDeadline_along (db : SystemDatabase) (clock : ℤ) (actions : List TimeoutAction)
    (hcurrent : timeoutSystem.Along FiresCurrent ⟨db, clock, []⟩ actions) :
    timeoutSystem.Along ActsOnDeadline ⟨db, clock, []⟩ actions := by
  refine timeoutSystem.along_of_invariant (I := DeadlinesHeld)
    (fun s action s' hs _ hstep ↦ deadlinesHeld_step hs hstep)
    (fun s action hs hcurrent ↦ actsOnDeadline_of_current hs hcurrent) ?_ hcurrent
  intro task htask
  cases htask

end Deadline

/-! ## A workflow with a timeout -/

instance (s : TimeoutState) : (action : TimeoutAction) → Decidable (ActsOnDeadline s action)
  | .fire index =>
    inferInstanceAs (Decidable (∀ task ∈ s.tasks[index]?, task.workflowDeadlineEpochMs ≤ s.clock →
      ∀ row ∈ s.db.statusRows, row.workflowUuid = task.workflowId → isCancellable row →
        row.workflowDeadlineEpochMs.any (· ≤ s.clock)))
  | .wait _ => isTrue trivial
  | .start _ _ => isTrue trivial
  | .write _ => isTrue trivial
  | .stop _ => isTrue trivial

instance (s : TimeoutState) : (action : TimeoutAction) → Decidable (FiresCurrent s action)
  | .fire index =>
    inferInstanceAs (Decidable (∀ task ∈ s.tasks[index]?, task.superseded = false ∨
      ∀ row ∈ s.db.statusRows, row.workflowUuid = task.workflowId → isCancellable row = false))
  | .wait _ => isTrue trivial
  | .start _ _ => isTrue trivial
  | .write _ => isTrue trivial
  | .stop _ => isTrue trivial

/-- A direct start with a timeout of ten milliseconds, at time zero. -/
def startWithTimeout : TimeoutAction :=
  .start
    { status :=
        { startedStatus "wf" with
          workflowTimeoutMs := some 10
          workflowDeadlineEpochMs := some 10 }
      ownerXid := some "x" }
    (.workflow
      { wfName := "f", ctx := { workflowId := "wf" }, serialization := "py_pickle",
        workflowTimeoutMs := some 10, workflowDeadlineEpochMs := some 10 } _ (by decide))

theorem actsOnDeadline_startWithTimeout :
    timeoutSystem.Along ActsOnDeadline ⟨SystemDatabase.empty, 0, []⟩
      [startWithTimeout, .wait 10, .fire 0] :=
  actsOnDeadline_along SystemDatabase.empty 0 [startWithTimeout, .wait 10, .fire 0] (by decide)

/-- The workflow is cancelled and resumed, and dequeued eight milliseconds after its start with a
deadline of its own; the task of the first execution fires at ten. -/
theorem firstTask_cancels_resumed_workflow :
    ¬timeoutSystem.Along ActsOnDeadline ⟨SystemDatabase.empty, 0, []⟩
      [startWithTimeout, .write (.cancel ["wf"]), .write (.resume ["wf"] none), .wait 8,
        .write (.startQueued
          { queue := { name := internalQueueName }, executorId := "e", appVersion := "" }),
        .wait 2, .fire 0] := by
  decide

end DBOSModel.Core

import DBOSModel.SysDb.StatusOperation

/-!
# The bound on recovery attempts

`recovery_attempts` is meant to count the executions of a workflow: each start inserts it as one or
adds one, and a start that would exceed `max_recovery_attempts` moves the workflow to the dead
letters. The counter is not increased while the row is ENQUEUED or DELAYED, but the decision to
execute does not look at that: a dispatch whose row went back to the queue between its dequeue and
its `init_workflow` executes without being counted. Over every run in which no such call occurs,
the executions are at most one more than the limit.
-/

namespace DBOSModel.SysDb

open Relational DBOSModel.Core

/-! ## The system -/

/-- The database, with the number of executions of one workflow begun since its creation or its
last resumption. -/
structure AttemptState where
  db : SystemDatabase
  begun : ℕ

inductive AttemptAction where
  /-- `init_workflow` for a caller that executes the workflow when told to: a direct start, a
  recovery, or the dispatch of a dequeued workflow. -/
  | execute (call : InitCall) (built : Built call.status) (now : ℤ)
  /-- Another status operation. An `init` here is an enqueue, whose caller does not execute. -/
  | other (op : StatusOp) (now : ℤ)

/-- The answer of `init_workflow` lets the caller run the body. -/
def beginsExecution (ending : Ending SystemDatabase DBOSError InitResult) : Bool :=
  match ending.result with
  | .ok result => result.shouldExecute && !result.status.isComplete
  | .error _ => false

/-- The operation resumes the workflow. -/
def resumesWorkflow (workflowId : String) (op : StatusOp) (db : SystemDatabase) : Bool :=
  match op with
  | .resume workflowIds _ =>
    decide (workflowId ∈ workflowIds) &&
      db.statusRows.any fun row ↦ row.workflowUuid = workflowId && !row.status.isComplete
  | _ => false

/-- The executions so far of the current row; a row that is created starts from none. -/
def AttemptState.soFar (workflowId : String) (s : AttemptState) : ℕ :=
  if s.db.hasWorkflow workflowId then s.begun else 0

def attemptSystem (workflowId : String) : System AttemptState AttemptAction where
  step s
    | .execute call _ now =>
      let ending := initWorkflow call now s.db
      let begins := call.status.workflowUuid = workflowId ∧ beginsExecution ending
      some
        { db := ending.stateAfter s.db
          begun := s.soFar workflowId + if begins then 1 else 0 }
    | .other op now => some
        { db := op.apply now s.db
          begun := if resumesWorkflow workflowId op s.db then 0 else s.soFar workflowId }

/-- The workflow is registered with the limit, and the `owner_xid` of an executing caller is a new
UUID. -/
def RegisteredCall (workflowId : String) (limit : ℤ) (s : AttemptState) : AttemptAction → Prop
  | .execute call _ _ => call.status.workflowUuid = workflowId →
      call.maxRecoveryAttempts = some limit ∧
        ∀ row ∈ s.db.statusRows, row.workflowUuid = workflowId → row.ownerXid ≠ call.ownerXid
  | .other _ _ => True

/-- A recovery or dispatch does not find the workflow waiting on a queue, and an executing caller
that creates the row does not create it there. -/
def CountedCall (workflowId : String) (s : AttemptState) : AttemptAction → Prop
  | .execute call _ _ => call.status.workflowUuid = workflowId →
      (∀ row ∈ s.db.statusRows, row.workflowUuid = workflowId → call.forceExecute →
        call.mismatch row = none → row.status.isEnqueued = false) ∧
      (s.db.hasWorkflow workflowId = false → call.status.status.isEnqueued = false)
  | .other _ _ => True

section Bound

variable {workflowId : String} {limit : ℤ} {s s' : AttemptState} {action : AttemptAction}
  {now : ℤ} {db : SystemDatabase} {op : StatusOp} {row row' : WorkflowStatusRow}

/-! ## One step -/

/-- Only a resumption lowers the counter. -/
theorem recoveryAttempts_le_of_rowChange (hchange : RowChange now db op row row')
    (hresumes : ∀ ids queueName, op = .resume ids queueName →
      row.workflowUuid ∈ ids → row.status.isComplete = true) :
    row.recoveryAttempts ≤ row'.recoveryAttempts := by
  have hconflict (call : InitCall) :
      row.recoveryAttempts ≤ (call.conflictUpdate now row).recoveryAttempts := by
    simp only [InitCall.conflictUpdate]
    split
    · exact le_rfl
    · split <;> omega
  cases hchange with
  | conflict call => exact hconflict call
  | deadLetter call => exact hconflict call
  | resume ids queueName row hid hstatus =>
    rw [hresumes ids queueName rfl hid] at hstatus
    cases hstatus
  | _ => exact le_rfl

theorem recoveryAttempts_nonneg_of_created (hcreated : Created now db op row') :
    0 ≤ row'.recoveryAttempts := by
  cases hcreated with
  | init call built =>
    simp only [InitCall.insertedRow]
    split <;> omega
  | fork => exact le_rfl

/-- The executions are within the bound, and the counter of the row covers them. -/
structure AttemptsCovered (workflowId : String) (limit : ℤ) (s : AttemptState) : Prop where
  begun_le : (s.begun : ℤ) ≤ limit + 1
  covered : ∀ row ∈ s.db.statusRows, row.workflowUuid = workflowId →
    (s.begun : ℤ) ≤ row.recoveryAttempts

theorem soFar_of_absent (h : ∀ row ∈ s.db.statusRows, row.workflowUuid ≠ workflowId) :
    s.soFar workflowId = 0 := by
  refine if_neg fun hpresent ↦ ?_
  obtain ⟨row, hrow, hid⟩ := SystemDatabase.hasWorkflow_iff.mp hpresent
  exact h row hrow hid

theorem soFar_le (workflowId : String) (s : AttemptState) : s.soFar workflowId ≤ s.begun := by
  unfold AttemptState.soFar
  split <;> omega

/-- An operation without an execution keeps the bound. -/
theorem attemptsCovered_apply (op : StatusOp) (now : ℤ) (h : AttemptsCovered workflowId limit s) :
    AttemptsCovered workflowId limit
      { db := op.apply now s.db
        begun := if resumesWorkflow workflowId op s.db then 0 else s.soFar workflowId } := by
  have hsoFar := soFar_le workflowId s
  have hbound := h.begun_le
  refine ⟨?_, ?_⟩
  · simp only
    split <;> omega
  · intro row' hrow' hid'
    simp only
    rcases mem_apply hrow' with ⟨row, hrow, hid, hchange⟩ | ⟨hfresh, hcreated⟩
    · have hcovered := h.covered row hrow (hid.trans hid')
      by_cases hresumes : resumesWorkflow workflowId op s.db
      · rw [if_pos hresumes]
        cases op with
        | resume ids queueName =>
          cases hchange with
          | unchanged => omega
          | resume => exact le_rfl
        | _ => cases hresumes
      · have hle := recoveryAttempts_le_of_rowChange hchange (by
          rintro ids queueName rfl hmem
          rw [← Bool.not_eq_false]
          intro hactive
          refine hresumes ?_
          simp only [resumesWorkflow, Bool.and_eq_true, decide_eq_true_eq, List.any_eq_true]
          rw [hid, hid'] at hmem
          exact ⟨hmem, row, hrow, by simp [hid, hid', hactive]⟩)
        rw [if_neg hresumes]
        omega
    · have hnone : s.soFar workflowId = 0 :=
        soFar_of_absent fun row hrow ↦ hid' ▸ hfresh row hrow
      have hnonneg := recoveryAttempts_nonneg_of_created hcreated
      rw [hnone]
      split <;> simpa using hnonneg

theorem exists_returned_of_beginsExecution {ending : Ending SystemDatabase DBOSError InitResult}
    (h : beginsExecution ending) : ∃ result db', ending = .returned result db' ∧
      result.shouldExecute = true ∧ result.status.isComplete = false := by
  cases ending with
  | raised error => cases h
  | raisedAfterCommit error db' => cases h
  | returned result db' =>
    simp only [beginsExecution, Ending.result_returned, Bool.and_eq_true, Bool.not_eq_true'] at h
    exact ⟨result, db', rfl, h⟩

/-- A counted execution raises the counter of the row with the number of executions. -/
theorem attemptsCovered_execute {call : InitCall} {built : Built call.status} (hlimit : 0 ≤ limit)
    (h : AttemptsCovered workflowId limit s) (hid : call.status.workflowUuid = workflowId)
    (hregistered : RegisteredCall workflowId limit s (.execute call built now))
    (hcounted : CountedCall workflowId s (.execute call built now))
    (hbegins : beginsExecution (initWorkflow call now s.db)) :
    AttemptsCovered workflowId limit
      { db := (initWorkflow call now s.db).stateAfter s.db
        begun := s.soFar workflowId + 1 } := by
  obtain ⟨hattempts, howner⟩ := hregistered hid
  obtain ⟨hnotWaiting, hcreates⟩ := hcounted hid
  subst hid
  obtain ⟨result, db', hending, hexecute, hincomplete⟩ := exists_returned_of_beginsExecution hbegins
  rw [hending, Ending.stateAfter_returned]
  rcases initWorkflow_eq_returned hending with
    ⟨row, hrow, hid, hmatch, hwithin, hstatus, hshould, -, rfl⟩ |
      ⟨hfresh, hstatus, -, -, rows, hrows, rfl⟩
  · have hforce : call.forceExecute := by
      have hne := (howner row hrow hid).symm
      rw [hshould] at hexecute
      simpa [InitCall.shouldExecute, InitCall.forceExecute, hne, or_comm] using hexecute
    have hwaiting := hnotWaiting row hrow hid hforce hmatch
    have hincrease :
        (call.conflictUpdate now row).recoveryAttempts = row.recoveryAttempts + 1 := by
      simp [InitCall.conflictUpdate, hwaiting, hforce]
    have hle : row.recoveryAttempts + 1 ≤ limit + 1 := by
      rw [hstatus] at hincomplete
      have hne : call.ownerXid ≠ (call.conflictUpdate now row).ownerXid :=
        (howner row hrow hid).symm
      have hsame : (call.conflictUpdate now row).status = row.status := rfl
      simpa [InitCall.exceedsRecoveryAttempts, hattempts, hincrease, hne, hsame, hincomplete]
        using hwithin
    have hcovered := h.covered row hrow hid
    have hsoFar := soFar_le call.status.workflowUuid s
    refine ⟨?_, ?_⟩
    · push_cast
      omega
    · intro row' hrow' hid'
      rw [Table.eq_of_mem_update hrow hrow' (hid'.trans hid.symm), hid,
        if_pos (decide_eq_true rfl), hincrease]
      push_cast
      omega
  · have hnone := soFar_of_absent hfresh
    have hpending : call.status.status.isEnqueued = false := by
      apply hcreates
      rw [← Bool.not_eq_true, SystemDatabase.hasWorkflow_iff]
      rintro ⟨row, hrow, hid⟩
      exact hfresh row hrow hid
    rw [hnone]
    refine ⟨by push_cast; omega, ?_⟩
    intro row' hrow' hid'
    rcases (Table.mem_insertNew hrows).mp hrow' with hold | rfl
    · exact absurd hid' (hfresh row' hold)
    · simp [InitCall.insertedRow, hpending]

theorem attemptsCovered_step (hlimit : 0 ≤ limit) (h : AttemptsCovered workflowId limit s)
    (hregistered : RegisteredCall workflowId limit s action)
    (hcounted : CountedCall workflowId s action)
    (hstep : (attemptSystem workflowId).step s action = some s') :
    AttemptsCovered workflowId limit s' := by
  cases action with
  | other op now =>
    cases hstep
    exact attemptsCovered_apply op now h
  | execute call built now =>
    cases hstep
    by_cases hbegins : call.status.workflowUuid = workflowId ∧
        beginsExecution (initWorkflow call now s.db)
    · rw [if_pos hbegins]
      exact attemptsCovered_execute hlimit h hbegins.1 hregistered hcounted hbegins.2
    · rw [if_neg hbegins]
      exact attemptsCovered_apply (.init call built) now h

/-! ## Runs -/

/-- In every run whose executing callers find the workflow off its queue, the executions begun
since the creation or the last resumption are at most one more than the limit. -/
theorem begun_le_limit_of_counted (workflowId : String) (limit : ℤ) (hlimit : 0 ≤ limit)
    (db : SystemDatabase) (hnew : ∀ row ∈ db.statusRows, row.workflowUuid ≠ workflowId)
    (actions : List AttemptAction) (s : AttemptState)
    (hregistered : (attemptSystem workflowId).Along (RegisteredCall workflowId limit) ⟨db, 0⟩ actions)
    (hcounted : (attemptSystem workflowId).Along (CountedCall workflowId) ⟨db, 0⟩ actions)
    (hrun : (attemptSystem workflowId).run ⟨db, 0⟩ actions = some s) :
    (s.begun : ℤ) ≤ limit + 1 := by
  have hinitial : AttemptsCovered workflowId limit ⟨db, 0⟩ :=
    ⟨by push_cast; omega, fun row hrow hid ↦ absurd hid (hnew row hrow)⟩
  have hcovered := (attemptSystem workflowId).run_invariant
    (I := AttemptsCovered workflowId limit)
    (fun s action s' hs hcall hstep ↦ attemptsCovered_step hlimit hs hcall.1 hcall.2 hstep)
    hinitial ((attemptSystem workflowId).along_and.mpr ⟨hregistered, hcounted⟩) hrun
  exact hcovered.begun_le

end Bound

/-! ## A queued workflow -/

instance (workflowId : String) (limit : ℤ) (s : AttemptState) :
    (action : AttemptAction) → Decidable (RegisteredCall workflowId limit s action)
  | .execute call _ _ => inferInstanceAs (Decidable (call.status.workflowUuid = workflowId →
      call.maxRecoveryAttempts = some limit ∧
        ∀ row ∈ s.db.statusRows, row.workflowUuid = workflowId → row.ownerXid ≠ call.ownerXid))
  | .other _ _ => isTrue trivial

instance (workflowId : String) (s : AttemptState) :
    (action : AttemptAction) → Decidable (CountedCall workflowId s action)
  | .execute call _ _ => inferInstanceAs (Decidable (call.status.workflowUuid = workflowId →
      (∀ row ∈ s.db.statusRows, row.workflowUuid = workflowId → call.forceExecute →
        call.mismatch row = none → row.status.isEnqueued = false) ∧
      (s.db.hasWorkflow workflowId = false → call.status.status.isEnqueued = false)))
  | .other _ _ => isTrue trivial

/-- The client enqueues the workflow. -/
def enqueueOnce : AttemptAction :=
  .other (.init { status := enqueuedStatus "wf" "q" "v" } (built_enqueuedStatus "wf" "q" "v")) 0

def dequeueOnce : AttemptAction :=
  .other (.startQueued { queue := { name := "q" }, executorId := "e", appVersion := "v" }) 0

/-- The dispatch of the dequeued workflow, which allows no recovery. -/
def dispatchWith (ownerXid : String) : AttemptAction :=
  .execute
    { status := enqueuedStatus "wf" "q" "v", maxRecoveryAttempts := some 0,
      ownerXid := some ownerXid, isDequeuedRequest := true }
    (built_enqueuedStatus "wf" "q" "v") 0

def clearOnce : AttemptAction := .other (.clear "wf") 0

/-- Recovery comes after the dispatch; the second dispatch moves the workflow to the dead
letters. -/
theorem begun_le_limit_dispatched :
    ∃ s, (attemptSystem "wf").run ⟨SystemDatabase.empty, 0⟩
        [enqueueOnce, dequeueOnce, dispatchWith "x", clearOnce, dequeueOnce, dispatchWith "y"] =
        some s ∧ (s.begun : ℤ) ≤ 0 + 1 := by
  obtain ⟨s, hs⟩ := Option.isSome_iff_exists.mp
    (show ((attemptSystem "wf").run ⟨SystemDatabase.empty, 0⟩
      [enqueueOnce, dequeueOnce, dispatchWith "x", clearOnce, dequeueOnce,
        dispatchWith "y"]).isSome by decide)
  exact ⟨s, hs, begun_le_limit_of_counted "wf" 0 le_rfl SystemDatabase.empty
    (fun _ hrow ↦ absurd hrow List.not_mem_nil) _ s (by decide) (by decide) hs⟩

/-- Recovery returns the workflow to its queue between the first dequeue and its dispatch. -/
theorem begun_exceeds_limit :
    (attemptSystem "wf").Along (RegisteredCall "wf" 0) ⟨SystemDatabase.empty, 0⟩
        [enqueueOnce, dequeueOnce, clearOnce, dispatchWith "x", dequeueOnce, dispatchWith "y"] ∧
      ∃ s, (attemptSystem "wf").run ⟨SystemDatabase.empty, 0⟩
          [enqueueOnce, dequeueOnce, clearOnce, dispatchWith "x", dequeueOnce, dispatchWith "y"] =
          some s ∧ ¬(s.begun : ℤ) ≤ 0 + 1 := by
  have hbegun : ((attemptSystem "wf").run ⟨SystemDatabase.empty, 0⟩
      [enqueueOnce, dequeueOnce, clearOnce, dispatchWith "x", dequeueOnce,
        dispatchWith "y"]).map (fun s ↦ s.begun) = some 2 := by
    decide
  obtain ⟨s, hs, hcount⟩ := Option.map_eq_some_iff.mp hbegun
  refine ⟨by decide, s, hs, ?_⟩
  rw [hcount]
  decide

end DBOSModel.SysDb

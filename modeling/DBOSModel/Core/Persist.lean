import DBOSModel.SysDb.RecoveryAttempts
import DBOSModel.SysDb.WriteOnce

/-!
# Finalization of a workflow whose body returned

`persist` of `_get_wf_invoke_func` in `dbos/_core.py` writes SUCCESS and, in the handler of every
exception of that region, ERROR. The SUCCESS write itself raises when it finds the workflow
CANCELLED, so the handler runs for a body that returned; around an asynchronous body,
`Pending._wrap` then calls `persist` once more with the exception. The ERROR write is rejected in
its turn as long as the workflow stays CANCELLED. It goes through exactly if a client resumes the
workflow in between and nobody cancels it again.
-/

namespace DBOSModel.Core

open Relational DBOSModel.SysDb

/-! ## The phases of `persist` -/

inductive Finalization where
  /-- The body has returned. -/
  | writingSuccess
  /-- The exception handler; `again` when the wrapper of an asynchronous body calls `persist` a
  second time. -/
  | handling (again : Bool)
  | finished
deriving DecidableEq

namespace Finalization

/-- The write of a phase. -/
def write (workflowId output error : String) (now : ℤ) (db : SystemDatabase) :
    Finalization → Ending SystemDatabase DBOSError Unit
  | writingSuccess => updateWorkflowOutcome workflowId .success (some output) none now db
  | handling _ => updateWorkflowOutcome workflowId .error none (some error) now db
  | finished => .returned () db

/-- The phase after an acknowledged write. The handler raises whether or not its write was
accepted. -/
def next (isAsync : Bool) : Finalization → Except DBOSError Unit → Finalization
  | writingSuccess, .ok _ => finished
  | writingSuccess, .error _ => handling isAsync
  | handling true, _ => handling false
  | handling false, _ => finished
  | finished, _ => finished

end Finalization

/-! ## What an outcome does to the row -/

section Outcome

variable {workflowId : String} {status : WorkflowStatusString} {output error : Option String}
  {now : ℤ} {db : SystemDatabase} {row row' : WorkflowStatusRow}

/-- An outcome is rejected on a CANCELLED workflow, and nothing changes. -/
theorem updateWorkflowOutcome_of_cancelled (hrow : row ∈ db.statusRows)
    (hid : row.workflowUuid = workflowId) (hcancelled : row.status = .cancelled) :
    updateWorkflowOutcome workflowId status output error now db =
      .raised (.awaitedWorkflowCancelled workflowId) := by
  have hlookup := db.workflowStatus.lookup_eq_some.mpr ⟨hrow, hid⟩
  have hnone : db.workflowStatus.count
      (fun row ↦ row.workflowUuid = workflowId && row.status ≠ .cancelled) = 0 := by
    rw [Table.count, List.countP_eq_zero]
    intro other hother
    by_cases hotherId : other.workflowUuid = workflowId
    · rw [db.workflowStatus.eq_of_key hother hrow (hotherId.trans hid.symm)]
      simp [hcancelled]
    · simp [hotherId]
  simp only [updateWorkflowOutcome, hnone, hlookup, hcancelled, if_true]

/-- An outcome that is not rejected. -/
theorem updateWorkflowOutcome_of_not_cancelled (hrow : row ∈ db.statusRows)
    (hid : row.workflowUuid = workflowId) (hstatus : row.status ≠ .cancelled) :
    (updateWorkflowOutcome workflowId status output error now db).result = .ok () := by
  have hlookup := db.workflowStatus.lookup_eq_some.mpr ⟨hrow, hid⟩
  simp only [updateWorkflowOutcome, hlookup, hstatus]
  split <;> rfl

theorem updateWorkflowOutcome_of_absent (h : ∀ row ∈ db.statusRows, row.workflowUuid ≠ workflowId) :
    (updateWorkflowOutcome workflowId status output error now db).result = .ok () := by
  have hlookup := db.workflowStatus.lookup_eq_none.mpr h
  simp only [updateWorkflowOutcome, hlookup]
  split <;> rfl

/-- A rejected outcome has found the workflow CANCELLED. -/
theorem cancelled_of_rejected {exception : DBOSError}
    (h : (updateWorkflowOutcome workflowId status output error now db).result = .error exception) :
    ∃ row ∈ db.statusRows, row.workflowUuid = workflowId ∧ row.status = .cancelled := by
  by_contra hnone
  push Not at hnone
  have hok : (updateWorkflowOutcome workflowId status output error now db).result = .ok () := by
    by_cases hpresent : ∃ row ∈ db.statusRows, row.workflowUuid = workflowId
    · obtain ⟨row, hrow, hid⟩ := hpresent
      exact updateWorkflowOutcome_of_not_cancelled hrow hid (hnone row hrow hid)
    · push Not at hpresent
      exact updateWorkflowOutcome_of_absent hpresent
  rw [hok] at h
  cases h

/-- The row after an outcome: as it was if it is CANCELLED, else with the outcome's status. -/
theorem status_of_mem_outcome (hrow : row ∈ db.statusRows) (hid : row.workflowUuid = workflowId)
    (hrow' : row' ∈
      ((updateWorkflowOutcome workflowId status output error now db).stateAfter db).statusRows)
    (hid' : row'.workflowUuid = workflowId) :
    row'.status = if row.status = .cancelled then .cancelled else status := by
  by_cases hcancelled : row.status = .cancelled
  · rw [updateWorkflowOutcome_of_cancelled hrow hid hcancelled, Ending.stateAfter_raised] at hrow'
    rw [db.workflowStatus.eq_of_key hrow' hrow (hid'.trans hid.symm), hcancelled, if_pos rfl]
  · have hwritten : outcomeUpdate now status output error row ∈ _ := mem_outcome hrow hid hcancelled
    rw [Table.eq_of_key _ hrow' hwritten (hid'.trans hid.symm), if_neg hcancelled]
    rfl

end Outcome

/-! ## The system -/

/-- The database and one finalization. -/
structure FinalState where
  db : SystemDatabase
  phase : Finalization
  /-- The workflow was resumed since the SUCCESS write was rejected, and not cancelled again. -/
  reopened : Bool

inductive FinalAction where
  /-- One attempt of the outstanding write, which is retried until it is acknowledged. -/
  | attempt (fate : Fate) (now : ℤ)
  /-- A call of another client, or a dequeue. -/
  | client (op : StatusOp) (now : ℤ)

/-- What other clients do here: cancellations, resumptions and dequeues. -/
def isClientOp : StatusOp → Bool
  | .cancel _ => true
  | .resume _ _ => true
  | .startQueued _ => true
  | _ => false

/-- The operation cancels the workflow. -/
def cancelsWorkflow (workflowId : String) (op : StatusOp) (db : SystemDatabase) : Bool :=
  match op with
  | .cancel workflowIds =>
    decide (workflowId ∈ workflowIds) &&
      db.statusRows.any fun row ↦ row.workflowUuid = workflowId && !row.status.isComplete
  | _ => false

/-- The mark of a finalization after a client operation. -/
def reopenedAfter (workflowId : String) (op : StatusOp) (s : FinalState) : Bool :=
  (s.reopened || resumesWorkflow workflowId op s.db) && !cancelsWorkflow workflowId op s.db

/-- The finalization of one execution on the only executor that runs the workflow, with the texts
it writes. -/
def finalSystem (workflowId output error : String) (isAsync : Bool) :
    System FinalState FinalAction where
  step s
    | .attempt fate now =>
      let ending := s.phase.write workflowId output error now s.db
      if s.phase = .finished then none
      else
        match fate with
        | .failed => some s
        | .unacknowledged => some { s with db := ending.stateAfter s.db }
        | .acknowledged => some
            { db := ending.stateAfter s.db
              phase := s.phase.next isAsync ending.result
              reopened := s.phase ≠ .writingSuccess && s.reopened }
    | .client op now =>
      if isClientOp op then some
        { s with
          db := op.apply now s.db
          reopened := reopenedAfter workflowId op s }
      else none

/-- In no state of the run is the workflow recorded as failed. -/
def NeverFailed (workflowId output error : String) (isAsync : Bool) (s : FinalState)
    (actions : List FinalAction) : Prop :=
  ∀ before after s', actions = before ++ after →
    (finalSystem workflowId output error isAsync).run s before = some s' →
      ∀ row ∈ s'.db.statusRows, row.workflowUuid = workflowId → row.status ≠ .error

/-- The handler does not write while the workflow is resumed. -/
def HandlesCancelled (s : FinalState) : FinalAction → Prop
  | .attempt fate _ => ∀ again, s.phase = .handling again → fate ≠ .failed → s.reopened = false
  | .client _ _ => True

section Runs

variable {workflowId output error : String} {isAsync : Bool} {now : ℤ} {op : StatusOp}
  {db : SystemDatabase} {row : WorkflowStatusRow} {s s' : FinalState} {action : FinalAction}

/-! ## One step -/

/-- The status of the workflow after a client operation. -/
theorem status_of_clientOp (now : ℤ) (hop : isClientOp op) (hrow : row ∈ db.statusRows)
    (hid : row.workflowUuid = workflowId) :
    ∃ row' ∈ (op.apply now db).statusRows, row'.workflowUuid = workflowId ∧
      (resumesWorkflow workflowId op db → row'.status = .enqueued) ∧
      (cancelsWorkflow workflowId op db → row'.status = .cancelled) ∧
      (resumesWorkflow workflowId op db = false → cancelsWorkflow workflowId op db = false →
        row'.status = row.status ∨ row.status = .enqueued ∧ row'.status = .pending) := by
  subst hid
  have hany : (db.statusRows.any fun r ↦ r.workflowUuid = row.workflowUuid && !r.status.isComplete) =
      !row.status.isComplete := by
    rw [Bool.eq_iff_iff, List.any_eq_true]
    simp only [Bool.and_eq_true, decide_eq_true_eq]
    constructor
    · rintro ⟨other, hother, hotherId, hstatus⟩
      rw [← db.workflowStatus.eq_of_key hother hrow hotherId]
      exact hstatus
    · exact fun hstatus ↦ ⟨row, hrow, rfl, hstatus⟩
  cases op with
  | cancel ids =>
    refine ⟨_, Table.mem_update.mpr ⟨row, hrow, rfl⟩, ?_⟩
    simp only [resumesWorkflow, cancelsWorkflow, hany]
    split
    · rename_i hguard
      exact ⟨rfl, by simp, fun _ ↦ rfl, fun _ hnot ↦ by rw [hguard] at hnot; cases hnot⟩
    · rename_i hguard
      exact ⟨rfl, by simp, fun hcancels ↦ absurd hcancels hguard, fun _ _ ↦ Or.inl rfl⟩
  | resume ids queueName =>
    refine ⟨_, Table.mem_update.mpr ⟨row, hrow, rfl⟩, ?_⟩
    simp only [resumesWorkflow, cancelsWorkflow, hany]
    split
    · rename_i hguard
      exact ⟨rfl, fun _ ↦ rfl, by simp, fun hnot ↦ by rw [hguard] at hnot; cases hnot⟩
    · rename_i hguard
      exact ⟨rfl, fun hresumes ↦ absurd hresumes hguard, by simp, fun _ _ ↦ Or.inl rfl⟩
  | startQueued call =>
    have hkept : (StatusOp.startQueued call).deletes row = false := rfl
    obtain ⟨row', hrow', hid', hchange⟩ := exists_rowChange now hrow hkept
    refine ⟨row', hrow', hid', by simp [resumesWorkflow], by simp [cancelsWorkflow], ?_⟩
    intro _ _
    cases hchange with
    | unchanged => exact Or.inl rfl
    | startQueued call row hmem heligible =>
      exact Or.inr ⟨DequeueCall.isEligible_status heligible, rfl⟩
  | _ => cases hop

/-- While the handler runs, the row is CANCELLED exactly if it was not resumed. -/
def HandlerSees (workflowId : String) (s : FinalState) : Prop :=
  ∀ again, s.phase = .handling again → ∃ row ∈ s.db.statusRows, row.workflowUuid = workflowId ∧
    (row.status = .cancelled ↔ s.reopened = false)

theorem handlerSees_client (h : HandlerSees workflowId s) (hop : isClientOp op) :
    HandlerSees workflowId
      { s with db := op.apply now s.db, reopened := reopenedAfter workflowId op s } := by
  intro again hphase
  obtain ⟨row, hrow, hid, hstatus⟩ := h again hphase
  obtain ⟨row', hrow', hid', hresumed, hcancelled, hkept⟩ :=
    status_of_clientOp now hop hrow hid
  refine ⟨row', hrow', hid', ?_⟩
  simp only [reopenedAfter]
  cases hcancels : cancelsWorkflow workflowId op s.db with
  | true => simp [hcancelled hcancels]
  | false =>
    cases hresumes : resumesWorkflow workflowId op s.db with
    | true => simp [hresumed hresumes]
    | false =>
      rw [Bool.or_false, Bool.not_false, Bool.and_true, ← hstatus]
      rcases hkept hresumes hcancels with hsame | ⟨henqueued, hpending⟩
      · rw [hsame]
      · simp [henqueued, hpending]

/-- An outcome leaves a CANCELLED row CANCELLED and no other row. -/
theorem exists_cancelled_iff_outcome {status : WorkflowStatusString} {output error : Option String}
    (hstatus : status ≠ .cancelled) (hrow : row ∈ db.statusRows)
    (hid : row.workflowUuid = workflowId) :
    ∃ row' ∈ ((updateWorkflowOutcome workflowId status output error now db).stateAfter
        db).statusRows,
      row'.workflowUuid = workflowId ∧ (row'.status = .cancelled ↔ row.status = .cancelled) := by
  by_cases hcancelled : row.status = .cancelled
  · rw [updateWorkflowOutcome_of_cancelled hrow hid hcancelled]
    exact ⟨row, hrow, hid, Iff.rfl⟩
  · exact ⟨_, mem_outcome hrow hid hcancelled, hid, iff_of_false hstatus hcancelled⟩

theorem handlerSees_attempt {fate : Fate} (h : HandlerSees workflowId s)
    (hstep : (finalSystem workflowId output error isAsync).step s (.attempt fate now) = some s') :
    HandlerSees workflowId s' := by
  have hwrite {again : Bool} (hphase : s.phase = .handling again) :
      ∃ row ∈ ((s.phase.write workflowId output error now s.db).stateAfter s.db).statusRows,
        row.workflowUuid = workflowId ∧ (row.status = .cancelled ↔ s.reopened = false) := by
    obtain ⟨row, hrow, hid, hsees⟩ := h again hphase
    rw [hphase, ← hsees]
    exact exists_cancelled_iff_outcome (by decide) hrow hid
  simp only [finalSystem] at hstep
  split at hstep
  · cases hstep
  · cases fate with
    | failed =>
      cases hstep
      exact h
    | unacknowledged =>
      cases hstep
      exact fun again hphase ↦ hwrite hphase
    | acknowledged =>
      cases hstep
      intro again hnext
      cases hphase : s.phase with
      | handling first =>
        obtain ⟨row, hrow, hid, hsees⟩ := hwrite hphase
        exact ⟨row, hphase ▸ hrow, hid, by simpa [hphase] using hsees⟩
      | finished =>
        rw [hphase] at hnext
        cases hnext
      | writingSuccess =>
        -- the handler is entered when the SUCCESS write found the workflow CANCELLED
        rw [hphase] at hnext
        cases hresult : (Finalization.writingSuccess.write workflowId output error now s.db).result with
        | ok _ =>
          rw [hresult] at hnext
          cases hnext
        | error exception =>
          obtain ⟨row, hrow, hid, hcancelled⟩ := cancelled_of_rejected hresult
          refine ⟨row, ?_, hid, by simp [hcancelled]⟩
          rw [Finalization.write, updateWorkflowOutcome_of_cancelled hrow hid hcancelled]
          exact hrow

theorem handlerSees_step (h : HandlerSees workflowId s)
    (hstep : (finalSystem workflowId output error isAsync).step s action = some s') :
    HandlerSees workflowId s' := by
  cases action with
  | attempt fate now => exact handlerSees_attempt h hstep
  | client op now =>
    simp only [finalSystem] at hstep
    split at hstep
    · rename_i hop
      cases hstep
      exact handlerSees_client h hop
    · cases hstep

/-- The workflow is not recorded as failed. -/
def NotFailed (workflowId : String) (db : SystemDatabase) : Prop :=
  ∀ row ∈ db.statusRows, row.workflowUuid = workflowId → row.status ≠ .error

theorem notFailed_client (h : NotFailed workflowId db) (hop : isClientOp op) :
    NotFailed workflowId (op.apply now db) := by
  intro row' hrow' hid'
  rcases mem_apply hrow' with ⟨row, hrow, hid, hchange⟩ | ⟨-, hcreated⟩
  · cases hchange with
    | unchanged => exact h row' hrow hid'
    | cancel => simp [cancelUpdate]
    | resume => simp [resumeUpdate]
    | startQueued => simp [DequeueCall.startUpdate]
    | _ => cases hop
  · cases hcreated <;> cases hop

theorem notFailed_success {output : Option String} (h : NotFailed workflowId db) :
    NotFailed workflowId
      ((updateWorkflowOutcome workflowId .success output none now db).stateAfter db) := by
  intro row' hrow' hid'
  have horigin : Origin now db (.outcome workflowId .success rfl output none) row' :=
    mem_apply hrow'
  rcases horigin with ⟨row, hrow, hid, hchange⟩ | ⟨-, hcreated⟩
  · cases hchange with
    | unchanged => exact h row' hrow hid'
    | outcome => simp [outcomeUpdate]
  · cases hcreated

/-- An attempt of the handler writes nothing while the workflow is CANCELLED. -/
theorem stateAfter_of_handlesCancelled {again : Bool} (hsees : HandlerSees workflowId s)
    (hphase : s.phase = .handling again) (hclosed : s.reopened = false) :
    (s.phase.write workflowId output error now s.db).stateAfter s.db = s.db := by
  obtain ⟨row, hrow, hid, hstatus⟩ := hsees again hphase
  rw [hphase, Finalization.write,
    updateWorkflowOutcome_of_cancelled hrow hid (hstatus.mpr hclosed), Ending.stateAfter_raised]

theorem notFailed_step (hsees : HandlerSees workflowId s) (h : NotFailed workflowId s.db)
    (hhandles : HandlesCancelled s action)
    (hstep : (finalSystem workflowId output error isAsync).step s action = some s') :
    NotFailed workflowId s'.db := by
  cases action with
  | client op now =>
    simp only [finalSystem] at hstep
    split at hstep
    · rename_i hop
      cases hstep
      exact notFailed_client h hop
    · cases hstep
  | attempt fate now =>
    have hwrite (hcommitted : fate ≠ .failed) : NotFailed workflowId
        ((s.phase.write workflowId output error now s.db).stateAfter s.db) := by
      cases hphase : s.phase with
      | writingSuccess => exact notFailed_success h
      | handling again =>
        rw [← hphase, stateAfter_of_handlesCancelled hsees hphase (hhandles again hphase hcommitted)]
        exact h
      | finished => exact h
    simp only [finalSystem] at hstep
    split at hstep
    · cases hstep
    · cases fate with
      | failed =>
        cases hstep
        exact h
      | unacknowledged =>
        cases hstep
        exact hwrite (by decide)
      | acknowledged =>
        cases hstep
        exact hwrite (by decide)

/-! ## Runs -/

theorem handlerSees_of_run {actions : List FinalAction}
    (hrun : (finalSystem workflowId output error isAsync).run ⟨db, .writingSuccess, false⟩ actions =
      some s) : HandlerSees workflowId s := by
  apply (finalSystem workflowId output error isAsync).reaches_invariant
    (I := HandlerSees workflowId) (fun s action s' hs hstep ↦ handlerSees_step hs hstep) _
    ⟨actions, hrun⟩
  intro again hphase
  cases hphase

/-- A write of the handler that finds the workflow resumed goes through. -/
theorem failed_of_reopened (output error : String) (isAsync : Bool) (now : ℤ) {again : Bool}
    {fate : Fate} (hsees : HandlerSees workflowId s) (hphase : s.phase = .handling again)
    (hcommitted : fate ≠ .failed) (hreopened : s.reopened = true) :
    ∃ s', (finalSystem workflowId output error isAsync).step s (.attempt fate now) = some s' ∧
      ¬NotFailed workflowId s'.db := by
  obtain ⟨row, hrow, hid, hstatus⟩ := hsees again hphase
  have hcancelled : row.status ≠ .cancelled := by
    rw [Ne, hstatus, hreopened]
    decide
  have hwritten : outcomeUpdate now .error none (some error) row ∈
      ((s.phase.write workflowId output error now s.db).stateAfter s.db).statusRows := by
    rw [hphase]
    exact mem_outcome hrow hid hcancelled
  have hfailed : ¬NotFailed workflowId
      ((s.phase.write workflowId output error now s.db).stateAfter s.db) :=
    fun h ↦ h _ hwritten hid rfl
  have henabled : s.phase ≠ .finished := by simp [hphase]
  cases fate with
  | failed => exact absurd rfl hcommitted
  | unacknowledged => exact ⟨_, by simp only [finalSystem, if_neg henabled]; rfl, hfailed⟩
  | acknowledged => exact ⟨_, by simp only [finalSystem, if_neg henabled]; rfl, hfailed⟩

/-- A body that returned is never recorded as failed exactly if no write of the handler finds the
workflow resumed since the SUCCESS write was rejected. -/
theorem neverFailed_iff (workflowId output error : String) (isAsync : Bool) (db : SystemDatabase)
    (hinitial : ∀ row ∈ db.statusRows, row.workflowUuid = workflowId → row.status ≠ .error)
    (actions : List FinalAction) :
    NeverFailed workflowId output error isAsync ⟨db, .writingSuccess, false⟩ actions ↔
      (finalSystem workflowId output error isAsync).Along HandlesCancelled
        ⟨db, .writingSuccess, false⟩ actions := by
  constructor
  · intro hnever
    rw [System.along_iff]
    intro before action after s' hactions hbefore
    cases action with
    | client => trivial
    | attempt fate now =>
      intro again hphase hcommitted
      rw [← Bool.not_eq_true]
      intro hreopened
      obtain ⟨s'', hstep, hfailed⟩ := failed_of_reopened output error isAsync now
        (handlerSees_of_run hbefore) hphase hcommitted hreopened
      refine hfailed (hnever (before ++ [.attempt fate now]) after s'' (by simp [hactions]) ?_)
      rw [System.run_append, hbefore, Option.bind_some, System.run_cons, hstep]
      rfl
  · intro hhandles before after s' hactions hbefore
    rw [hactions, System.along_append] at hhandles
    have hstart : HandlerSees workflowId ⟨db, .writingSuccess, false⟩ ∧ NotFailed workflowId db :=
      ⟨fun _ hphase ↦ (nomatch hphase), hinitial⟩
    have hboth := (finalSystem workflowId output error isAsync).run_invariant
      (I := fun s ↦ HandlerSees workflowId s ∧ NotFailed workflowId s.db)
      (fun s action s' hs hhandle hstep ↦
        ⟨handlerSees_step hs.1 hstep, notFailed_step hs.1 hs.2 hhandle hstep⟩)
      hstart hhandles.1 hbefore
    exact hboth.2

end Runs

/-! ## A cancellation during finalization -/

instance (s : FinalState) : (action : FinalAction) → Decidable (HandlesCancelled s action)
  | .attempt fate _ =>
    match hphase : s.phase with
    | .writingSuccess => isTrue (fun again habsurd ↦ by rw [hphase] at habsurd; cases habsurd)
    | .finished => isTrue (fun again habsurd ↦ by rw [hphase] at habsurd; cases habsurd)
    | .handling again =>
      decidable_of_iff (fate ≠ .failed → s.reopened = false)
        ⟨fun h _ _ ↦ h, fun h ↦ h again hphase⟩
  | .client _ _ => isTrue trivial

/-- A workflow that runs off any queue. -/
def oneRunning : SystemDatabase :=
  (initWorkflow { status := startedStatus "wf", ownerXid := some "x" } 0
    SystemDatabase.empty).stateAfter SystemDatabase.empty

/-- The SUCCESS write finds the workflow CANCELLED. -/
def cancelBeforeSuccess : List FinalAction :=
  [.client (.cancel ["wf"]) 1, .attempt .acknowledged 2]

theorem neverFailed_cancelBeforeSuccess :
    NeverFailed "wf" "1" "cancelled" false ⟨oneRunning, .writingSuccess, false⟩
      (cancelBeforeSuccess ++ [.attempt .acknowledged 3]) :=
  (neverFailed_iff "wf" "1" "cancelled" false oneRunning (by decide)
    (cancelBeforeSuccess ++ [.attempt .acknowledged 3])).mpr (by decide)

/-- A client resumes the workflow before the handler writes. -/
theorem failed_resumedBeforeHandler :
    ¬NeverFailed "wf" "1" "cancelled" false ⟨oneRunning, .writingSuccess, false⟩
      (cancelBeforeSuccess ++ [.client (.resume ["wf"] none) 3, .attempt .acknowledged 4]) := by
  intro hnever
  have hfailed : ∃ s, (finalSystem "wf" "1" "cancelled" false).run
      ⟨oneRunning, .writingSuccess, false⟩
      (cancelBeforeSuccess ++ [.client (.resume ["wf"] none) 3, .attempt .acknowledged 4]) = some s ∧
      ∃ row ∈ s.db.statusRows, row.workflowUuid = "wf" ∧ row.status = .error :=
    ⟨_, rfl, by decide⟩
  obtain ⟨s, hrun, row, hrow, hid, hstatus⟩ := hfailed
  exact hnever _ [] s (List.append_nil _).symm hrun row hrow hid hstatus

end DBOSModel.Core

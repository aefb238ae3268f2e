import DBOSModel.SysDb.StatusOperation

/-!
# Terminal results

Whether the status, output and error of a SUCCESS or ERROR row can still change. Cancellation,
resumption, dequeue, recovery, delays and the dead-letter branch all leave such rows alone, each by
its own guard. `update_workflow_outcome` does not: its guard excludes CANCELLED only. A run keeps
every result exactly if each outcome written to a finished workflow repeats the stored one.
-/

namespace DBOSModel.SysDb

open Relational DBOSModel.Core

/-- The two rows hold the same result. -/
def SameResult (row row' : WorkflowStatusRow) : Prop :=
  row'.status = row.status ∧ row'.output = row.output ∧ row'.error = row.error

theorem SameResult.trans {first second third : WorkflowStatusRow} (h : SameResult first second)
    (h' : SameResult second third) : SameResult first third :=
  ⟨h'.1.trans h.1, h'.2.1.trans h.2.1, h'.2.2.trans h.2.2⟩

/-- Along the run, a finished workflow keeps its result for as long as its row exists. -/
def WriteOnce (db : SystemDatabase) (actions : List StatusAction) : Prop :=
  ∀ before during after first last row, actions = before ++ during ++ after →
    statusSystem.run db before = some first → row ∈ first.statusRows → row.status.isComplete →
    statusSystem.Along (KeepsRow row.workflowUuid) first during →
    statusSystem.run first during = some last →
    ∃ row' ∈ last.statusRows, row'.workflowUuid = row.workflowUuid ∧ SameResult row row'

/-- An outcome for a finished workflow repeats the stored one. -/
def RepeatsResult (db : SystemDatabase) : StatusAction → Prop
  | (.outcome workflowId status _ output error, _) =>
    ∀ row ∈ db.statusRows, row.workflowUuid = workflowId → row.status.isComplete →
      row.status = status ∧ row.output = output ∧ row.error = error
  | _ => True

instance (db : SystemDatabase) : (action : StatusAction) → Decidable (RepeatsResult db action)
  | (.outcome workflowId status _ output error, _) =>
    inferInstanceAs (Decidable (∀ row ∈ db.statusRows, row.workflowUuid = workflowId →
      row.status.isComplete → row.status = status ∧ row.output = output ∧ row.error = error))
  | (.init _ _, _) => isTrue trivial
  | (.cancel _, _) => isTrue trivial
  | (.resume _ _, _) => isTrue trivial
  | (.setDelay _ _ _ _, _) => isTrue trivial
  | (.debounce _, _) => isTrue trivial
  | (.transition _, _) => isTrue trivial
  | (.startQueued _, _) => isTrue trivial
  | (.clear _, _) => isTrue trivial
  | (.fork _, _) => isTrue trivial
  | (.delete _, _) => isTrue trivial
  | (.collect _ _, _) => isTrue trivial

variable {now : ℤ} {db : SystemDatabase} {op : StatusOp} {row row' : WorkflowStatusRow}

/-! ## One step -/

/-- The guards: only an outcome reaches a finished row. -/
theorem sameResult_of_rowChange (hrow : row ∈ db.statusRows) (hcomplete : row.status.isComplete)
    (hchange : RowChange now db op row row') (hrepeats : RepeatsResult db (op, now)) :
    SameResult row row' := by
  have hne {status : WorkflowStatusString} (hstatus : row.status = status)
      (hactive : status.isComplete = false) : SameResult row row' := by
    rw [hstatus, hactive] at hcomplete
    cases hcomplete
  cases hchange with
  | unchanged => exact ⟨rfl, rfl, rfl⟩
  | conflict => exact ⟨rfl, rfl, rfl⟩
  | deadLetter call built row hid hstatus hmatch hexceeds => exact hne hstatus rfl
  | outcome workflowId status complete output error row hid hstatus =>
    obtain ⟨hsame, hout, herr⟩ := hrepeats row hrow hid hcomplete
    exact ⟨hsame.symm, hout.symm, herr.symm⟩
  | cancel workflowIds row hid hstatus => exact hne rfl hstatus
  | resume workflowIds queueName row hid hstatus => exact hne rfl hstatus
  | setDelay => exact ⟨rfl, rfl, rfl⟩
  | debounce => exact ⟨rfl, rfl, rfl⟩
  | transition nowMs row hstatus => exact hne hstatus rfl
  | startQueued call row hid heligible => exact hne (DequeueCall.isEligible_status heligible) rfl
  | clear workflowId row hid hqueue hstatus => exact hne hstatus rfl
  | fork => exact ⟨rfl, rfl, rfl⟩

/-- An outcome is written to every row of that ID that is not CANCELLED. -/
theorem mem_outcome {workflowId : String} {status : WorkflowStatusString}
    {output error : Option String} (hrow : row ∈ db.statusRows) (hid : row.workflowUuid = workflowId)
    (hstatus : row.status ≠ .cancelled) :
    outcomeUpdate now status output error row ∈
      ((updateWorkflowOutcome workflowId status output error now db).stateAfter db).statusRows := by
  have hmatched : db.workflowStatus.count
      (fun row ↦ row.workflowUuid = workflowId && row.status ≠ .cancelled) ≠ 0 := by
    apply Nat.pos_iff_ne_zero.mp
    rw [Table.count, List.countP_pos_iff]
    exact ⟨row, hrow, by simp [hid, hstatus]⟩
  simp only [updateWorkflowOutcome, if_neg hmatched, Ending.stateAfter_returned]
  exact Table.mem_update.mpr ⟨row, hrow, by simp [hid, hstatus]⟩

/-! ## Runs -/

/-- What one step keeps, a run keeps. -/
theorem sameResult_of_run {actions : List StatusAction} {first last : SystemDatabase}
    (hrow : row ∈ first.statusRows) (hcomplete : row.status.isComplete)
    (hkeeps : statusSystem.Along (KeepsRow row.workflowUuid) first actions)
    (hrepeats : statusSystem.Along RepeatsResult first actions)
    (hrun : statusSystem.run first actions = some last) :
    ∃ row' ∈ last.statusRows, row'.workflowUuid = row.workflowUuid ∧ SameResult row row' := by
  induction actions generalizing first row with
  | nil =>
    cases hrun
    exact ⟨row, hrow, rfl, rfl, rfl, rfl⟩
  | cons action rest ih =>
    obtain ⟨op, now⟩ := action
    have hkeep := hkeeps.1 row hrow rfl
    obtain ⟨next, hnext, hid, hchange⟩ := exists_rowChange now hrow hkeep
    have hsame := sameResult_of_rowChange hrow hcomplete hchange hrepeats.1
    have hnextComplete : next.status.isComplete := by
      rw [hsame.1]
      exact hcomplete
    have hnextKeeps := hkeeps.2 _ rfl
    rw [← hid] at hnextKeeps
    obtain ⟨row', hrow', hid', hsame'⟩ :=
      ih hnext hnextComplete hnextKeeps (hrepeats.2 _ rfl) hrun
    exact ⟨row', hrow', hid'.trans hid, hsame.trans hsame'⟩

theorem writeOnce_of_along {actions : List StatusAction}
    (h : statusSystem.Along RepeatsResult db actions) : WriteOnce db actions := by
  rintro before during after first last row rfl hbefore hrow hcomplete hkeeps hduring
  have hrest := ((statusSystem.along_append.mp (statusSystem.along_append.mp h).1).2 first hbefore)
  exact sameResult_of_run hrow hcomplete hkeeps hrest hduring

/-- An outcome that differs from the stored one is written, so a run that keeps all results has
no such step. -/
theorem along_of_writeOnce {actions : List StatusAction} (h : WriteOnce db actions) :
    statusSystem.Along RepeatsResult db actions := by
  rw [System.along_iff]
  rintro before ⟨op, now⟩ after middle hactions hbefore
  cases op with
  | outcome workflowId status complete output error =>
    intro row hrow hid hcomplete
    have hkeeps : statusSystem.Along (KeepsRow row.workflowUuid) middle
        [(.outcome workflowId status complete output error, now)] :=
      ⟨fun _ _ _ ↦ rfl, fun _ _ ↦ trivial⟩
    obtain ⟨row', hrow', hid', hsame⟩ := h before
      [(.outcome workflowId status complete output error, now)] after middle _ row
      (by simp [hactions]) hbefore hrow hcomplete hkeeps rfl
    have hcancelled : row.status ≠ .cancelled := by
      intro hstatus
      rw [hstatus] at hcomplete
      cases hcomplete
    have hwritten : outcomeUpdate now status output error row ∈ _ :=
      mem_outcome hrow hid hcancelled
    rw [Table.eq_of_key _ hrow' hwritten hid'] at hsame
    exact ⟨hsame.1.symm, hsame.2.1.symm, hsame.2.2.symm⟩
  | _ => trivial

/-- A run keeps every terminal result exactly if each outcome written to a finished workflow
repeats the stored status, output and error. -/
theorem writeOnce_iff (db : SystemDatabase) (actions : List StatusAction) :
    WriteOnce db actions ↔ statusSystem.Along RepeatsResult db actions :=
  ⟨along_of_writeOnce, writeOnce_of_along⟩

/-- A workflow started off any queue and finalized by two executors, the first with an output,
the second with an error. -/
def finalizedTwice : List StatusAction :=
  [(.init { status := startedStatus "wf", ownerXid := some "x" } built_startedWf, 0),
    (.outcome "wf" .success rfl (some "1") none, 1),
    (.outcome "wf" .error rfl none (some "boom"), 2)]

theorem not_writeOnce_finalizedTwice : ¬WriteOnce SystemDatabase.empty finalizedTwice := by
  intro h
  exact absurd (along_of_writeOnce h) (by decide)

end DBOSModel.SysDb

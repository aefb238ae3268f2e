import DBOSModel.SysDb.StatusOperation

/-!
# Well-formed status rows

The column invariants of `workflow_status`. More than ten statements write these columns, each with
its own guard, so the invariant is proved once for each kind of row change and for each kind of new
row, and then carried along runs. The last part is about CANCELLED rows: only a resume that names
the workflow, or a deletion, ends that status.
-/

namespace DBOSModel.SysDb

open Relational DBOSModel.Core

/-- The workflow has ended: SUCCESS, ERROR or CANCELLED. -/
def WorkflowStatusString.hasEnded : WorkflowStatusString → Bool
  | success => true
  | error => true
  | cancelled => true
  | _ => false

structure RowWellFormed (row : WorkflowStatusRow) : Prop where
  completedAt : row.completedAt.isSome = row.status.hasEnded
  deduplicationId : row.deduplicationId.isSome → row.status.isActive
  enqueued : row.status.isEnqueued → row.queueName.isSome ∧ row.startedAtEpochMs = none
  delayed : row.status = .delayed → row.delayUntilEpochMs.isSome
  cancelled : row.status = .cancelled →
    row.queueName = none ∧ row.deduplicationId = none ∧ row.startedAtEpochMs = none

def WellFormed (db : SystemDatabase) : Prop := ∀ row ∈ db.statusRows, RowWellFormed row

variable {now : ℤ} {db : SystemDatabase} {op : StatusOp} {row row' : WorkflowStatusRow}

/-! ## Rows -/

/-- A row with a final result is well formed when it has an end time and no deduplication ID. -/
theorem rowWellFormed_of_complete (hcomplete : row.status.isComplete)
    (hcompletedAt : row.completedAt.isSome) (hdedup : row.deduplicationId = none) :
    RowWellFormed row := by
  cases hstatus : row.status with
  | success =>
    exact ⟨by simp [hcompletedAt, hstatus, WorkflowStatusString.hasEnded], by simp [hdedup],
      by simp [hstatus, WorkflowStatusString.isEnqueued], by simp [hstatus], by simp [hstatus]⟩
  | error =>
    exact ⟨by simp [hcompletedAt, hstatus, WorkflowStatusString.hasEnded], by simp [hdedup],
      by simp [hstatus, WorkflowStatusString.isEnqueued], by simp [hstatus], by simp [hstatus]⟩
  | _ =>
    rw [hstatus] at hcomplete
    cases hcomplete

/-- An ENQUEUED row is well formed when it is on a queue, not started and not ended. -/
theorem rowWellFormed_of_enqueued (hstatus : row.status = .enqueued) (hqueue : row.queueName.isSome)
    (hstarted : row.startedAtEpochMs = none) (hcompletedAt : row.completedAt = none) :
    RowWellFormed row where
  completedAt := by rw [hcompletedAt, hstatus]; rfl
  deduplicationId _ := by rw [hstatus]; rfl
  enqueued _ := ⟨hqueue, hstarted⟩
  delayed h := by rw [hstatus] at h; cases h
  cancelled h := by rw [hstatus] at h; cases h

/-- A PENDING row only has to be without an end time. -/
theorem rowWellFormed_of_pending (hstatus : row.status = .pending)
    (hcompletedAt : row.completedAt = none) : RowWellFormed row where
  completedAt := by rw [hcompletedAt, hstatus]; rfl
  deduplicationId _ := by rw [hstatus]; rfl
  enqueued h := by rw [hstatus] at h; cases h
  delayed h := by rw [hstatus] at h; cases h
  cancelled h := by rw [hstatus] at h; cases h

theorem RowWellFormed.completedAt_eq_none (h : RowWellFormed row)
    (hended : row.status.hasEnded = false) : row.completedAt = none := by
  have hcompletedAt := h.completedAt
  rw [hended, Option.isSome_eq_false_iff, Option.isNone_iff_eq_none] at hcompletedAt
  exact hcompletedAt

theorem rowWellFormed_of_rowChange (h : RowWellFormed row)
    (hchange : RowChange now db op row row') : RowWellFormed row' := by
  cases hchange with
  | unchanged => exact h
  | conflict call built row hid =>
    exact ⟨h.completedAt, h.deduplicationId, h.enqueued, h.delayed, h.cancelled⟩
  | deadLetter call built row hid hstatus hmatch hexceeds =>
    have hcompletedAt := h.completedAt_eq_none (by rw [hstatus]; rfl)
    refine ⟨?_, ?_, ?_, ?_, ?_⟩
    · simp [deadLetterUpdate, InitCall.conflictUpdate, hcompletedAt, WorkflowStatusString.hasEnded]
    · intro hdedup
      cases hdedup
    · intro henqueued
      cases henqueued
    · intro hdelayed
      cases hdelayed
    · intro hcancelled
      cases hcancelled
  | outcome workflowId status complete output error row hid hstatus =>
    exact rowWellFormed_of_complete complete rfl rfl
  | cancel workflowIds row hid hstatus =>
    refine ⟨rfl, ?_, ?_, ?_, fun _ ↦ ⟨rfl, rfl, rfl⟩⟩
    · intro hdedup
      cases hdedup
    · intro henqueued
      cases henqueued
    · intro hdelayed
      cases hdelayed
  | resume workflowIds queueName row hid hstatus => exact rowWellFormed_of_enqueued rfl rfl rfl rfl
  | setDelay workflowId delaySeconds delayUntilEpochMs time resolved row hid hstatus =>
    exact ⟨h.completedAt, h.deduplicationId, h.enqueued, fun _ ↦ rfl, h.cancelled⟩
  | debounce call row hrow =>
    exact ⟨h.completedAt, h.deduplicationId, h.enqueued, fun _ ↦ rfl, h.cancelled⟩
  | transition nowMs row hstatus =>
    have henqueued := h.enqueued (by rw [hstatus]; rfl)
    exact rowWellFormed_of_enqueued rfl henqueued.1 henqueued.2
      (h.completedAt_eq_none (by rw [hstatus]; rfl))
  | startQueued call row hid heligible =>
    have hstatus := DequeueCall.isEligible_status heligible
    exact rowWellFormed_of_pending rfl (h.completedAt_eq_none (by rw [hstatus]; rfl))
  | clear workflowId row hid hqueue hstatus =>
    exact rowWellFormed_of_enqueued rfl hqueue rfl
      (h.completedAt_eq_none (by rw [hstatus]; rfl))
  | fork call row =>
    exact ⟨h.completedAt, h.deduplicationId, h.enqueued, h.delayed, h.cancelled⟩

theorem rowWellFormed_of_created (hcreated : Created now db op row') : RowWellFormed row' := by
  cases hcreated with
  | init call built =>
    rcases built.statusFits with ⟨hstatus, -⟩ | ⟨hstatus, hqueue⟩ | ⟨hstatus, hqueue, hdelay⟩
    · exact rowWellFormed_of_pending hstatus rfl
    · exact rowWellFormed_of_enqueued hstatus hqueue rfl rfl
    · have hrow : (call.insertedRow now).status = .delayed := hstatus
      refine ⟨by rw [hrow]; rfl, fun _ ↦ by rw [hrow]; rfl, fun _ ↦ ⟨hqueue, rfl⟩,
        fun _ ↦ hdelay, ?_⟩
      intro hcancelled
      rw [hrow] at hcancelled
      cases hcancelled
  | fork call entry original marked => exact rowWellFormed_of_enqueued rfl rfl rfl rfl

/-! ## Steps and runs -/

theorem wellFormed_step (h : WellFormed db) (action : StatusAction) :
    WellFormed (action.1.apply action.2 db) := by
  intro row' hrow'
  rcases mem_apply hrow' with ⟨row, hrow, -, hchange⟩ | ⟨-, hcreated⟩
  · exact rowWellFormed_of_rowChange (h row hrow) hchange
  · exact rowWellFormed_of_created hcreated

theorem wellFormed_of_reaches (h : statusSystem.Reaches SystemDatabase.empty db) : WellFormed db := by
  apply statusSystem.reaches_invariant (I := WellFormed) _ _ h
  · intro db action db' hdb hstep
    cases hstep
    exact wellFormed_step hdb action
  · intro row hrow
    cases hrow

/-- A CANCELLED row stays so, or the operation is a resume that names it. -/
theorem cancelled_of_rowChange (hstatus : row.status = .cancelled)
    (hchange : RowChange now db op row row') :
    row'.status = .cancelled ∨ ∃ ids queueName, op = .resume ids queueName ∧ row.workflowUuid ∈ ids := by
  have hne {status : WorkflowStatusString} (hother : row.status = status)
      (hcancelled : status ≠ .cancelled) : row'.status = .cancelled ∨
        ∃ ids queueName, op = .resume ids queueName ∧ row.workflowUuid ∈ ids :=
    absurd (hother.symm.trans hstatus) hcancelled
  cases hchange with
  | unchanged => exact Or.inl hstatus
  | conflict => exact Or.inl hstatus
  | deadLetter call built row hid hpending hmatch hexceeds => exact hne hpending (by decide)
  | outcome workflowId status complete output error row hid hcancelled =>
    exact absurd hstatus hcancelled
  | cancel => exact Or.inl rfl
  | resume workflowIds queueName row hid _ => exact Or.inr ⟨workflowIds, queueName, rfl, hid⟩
  | setDelay => exact Or.inl hstatus
  | debounce => exact Or.inl hstatus
  | transition nowMs row hdelayed => exact hne hdelayed (by decide)
  | startQueued call row hid heligible =>
    exact hne (DequeueCall.isEligible_status heligible) (by decide)
  | clear workflowId row hid hqueue hpending => exact hne hpending (by decide)
  | fork => exact Or.inl hstatus

/-- Every reachable database is well formed, and every operation on it leaves a CANCELLED workflow
CANCELLED unless it resumes that workflow by name or deletes it. -/
theorem wellFormed_and_cancelled_sticky (actions : List StatusAction) (db : SystemDatabase)
    (hrun : statusSystem.run SystemDatabase.empty actions = some db) :
    (∀ row ∈ db.statusRows, RowWellFormed row) ∧
      ∀ (action : StatusAction), ∀ row ∈ db.statusRows, row.status = .cancelled →
        (∃ row' ∈ (action.1.apply action.2 db).statusRows,
          row'.workflowUuid = row.workflowUuid ∧ row'.status = .cancelled) ∨
        (∃ ids queueName, action.1 = .resume ids queueName ∧ row.workflowUuid ∈ ids) ∨
        action.1.deletes row := by
  refine ⟨wellFormed_of_reaches ⟨actions, hrun⟩, ?_⟩
  intro action row hrow hstatus
  cases hdeletes : action.1.deletes row with
  | true => exact Or.inr (Or.inr rfl)
  | false =>
    obtain ⟨row', hrow', hid, hchange⟩ := exists_rowChange action.2 hrow hdeletes
    rcases cancelled_of_rowChange hstatus hchange with hcancelled | hresume
    · exact Or.inl ⟨row', hrow', hid, hcancelled⟩
    · exact Or.inr (Or.inl hresume)

/-- A workflow started off any queue and then cancelled. -/
def startedThenCancelled : List StatusAction :=
  [(.init { status := startedStatus "wf", ownerXid := some "x" } built_startedWf, 0),
    (.cancel ["wf"], 1)]

theorem startedThenCancelled_wellFormed :
    ∃ db row, statusSystem.run SystemDatabase.empty startedThenCancelled = some db ∧
      row ∈ db.statusRows ∧ row.status = .cancelled ∧ RowWellFormed row := by
  obtain ⟨db, hdb⟩ := Option.isSome_iff_exists.mp
    (show (statusSystem.run SystemDatabase.empty startedThenCancelled).isSome by decide)
  have hrow : ∃ row ∈ db.statusRows, row.status = .cancelled := by
    cases hdb
    decide
  obtain ⟨row, hmem, hstatus⟩ := hrow
  have hall := wellFormed_and_cancelled_sticky startedThenCancelled db hdb
  exact ⟨db, row, hdb, hmem, hstatus, hall.1 row hmem⟩

end DBOSModel.SysDb

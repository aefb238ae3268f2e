import DBOSModel.Core.Persist
import DBOSModel.SysDb.Checkpoint

/-!
# Dispatch and the registry of active workflows

One executor process and one workflow ID. A dequeue moves the row to PENDING under this executor
and starts a dispatch, which calls `init_workflow`, is submitted to the thread pool, and there tries
to enter the workflow into `ActiveWorkflowById`. If the ID is taken the thread only polls for the
result of the execution it found, which need not be going to finish the row any more: it may have
observed a cancellation and be on its way out, or may be polling itself as a duplicate. The row then
stays PENDING here and no thread works on it.

The threads that count are those on their way to the registry and those that execute or finalize.
Every step keeps one of them for a row that is PENDING here, except where a thread gives the workflow
up without a write: at an ID that an execution on its way out still holds, as a duplicate, with an
exception that `persist` does not handle, or with one before the registry is reached.
`HandsOver` keeps a run from those branches.
-/

namespace DBOSModel.Core

open Relational DBOSModel.SysDb

/-! ## Threads -/

/-- Where a dispatch is. -/
inductive ThreadPhase where
  /-- Dequeued; `init_workflow` is still to be called. -/
  | dispatched
  /-- In the thread pool, on its way to `acquire`. -/
  | submitted
  /-- Registered, in the body. -/
  | executing
  /-- Registered, in `persist` after the body; when finished, about to release. -/
  | finalizing (phase : Finalization)
  /-- Registered, but aborted as a duplicate: polls for the result. -/
  | duplicate
  /-- Found the ID registered: polls for the result. -/
  | polling
  | done
deriving DecidableEq

/-- The thread executes the workflow or is on its way to. -/
def ThreadPhase.counts : ThreadPhase → Bool
  | dispatched => true
  | submitted => true
  | executing => true
  | finalizing phase => phase ≠ .finished
  | duplicate => false
  | polling => false
  | done => false

/-- The thread holds the ID, and it is in the body or has a write of `persist` before it. -/
def ThreadPhase.atWork : ThreadPhase → Bool
  | executing => true
  | finalizing phase => phase ≠ .finished
  | _ => false

/-- Where a thread goes on an exception that `persist` does not handle: one of the body that is no
`Exception`, such as `SystemExit`, or the `DBOSWorkflowCancelledError` of a step before, or, in an
async execution, an `asyncio.CancelledError` at any `await`. -/
def ThreadPhase.exit (isAsync : Bool) : ThreadPhase → Option ThreadPhase
  | executing => some (.finalizing .finished)
  | finalizing phase =>
    if isAsync && phase ≠ .finished then some (.finalizing .finished) else none
  | duplicate => if isAsync then some (.finalizing .finished) else none
  | polling => if isAsync then some .done else none
  | _ => none

/-- The process, as far as it concerns one workflow. -/
structure DispatchState where
  db : SystemDatabase
  /-- The ID is in `ActiveWorkflowById`. -/
  registered : Bool
  threads : List ThreadPhase

inductive DispatchAction where
  /-- A poll of this process. -/
  | dequeue (call : DequeueCall) (now : ℤ)
  /-- The `init_workflow` of a dispatch. -/
  | init (thread : ℕ) (call : InitCall) (built : Built call.status) (now : ℤ)
  /-- A dispatch raises before it reaches the registry, for example for an unregistered function. -/
  | raise (thread : ℕ)
  /-- The role check fails and finalizes the workflow. -/
  | deny (thread : ℕ) (error : String) (now : ℤ)
  | acquire (thread : ℕ)
  /-- A step of the body is recorded. -/
  | record (thread : ℕ) (result : OperationResultInternal) (completedAt : ℤ)
  /-- A step of the body finds the workflow CANCELLED. -/
  | observeCancelled (thread : ℕ)
  /-- A step of the body was recorded by another execution. -/
  | conflict (thread : ℕ)
  | bodyReturns (thread : ℕ)
  | bodyRaises (thread : ℕ)
  /-- An exception that `persist` does not handle: nothing is written. -/
  | exit (thread : ℕ)
  /-- The outstanding write of `persist`. -/
  | write (thread : ℕ) (output error : String) (now : ℤ)
  | release (thread : ℕ)
  /-- `await_workflow_result` ends. -/
  | awaited (thread : ℕ)
  /-- An operation of another client or executor. -/
  | other (op : StatusOp) (now : ℤ)

/-- The operation stores no row under this executor. -/
def isOthers (executorId : String) : StatusOp → Bool
  | .init call _ => call.status.executorId ≠ some executorId
  | .startQueued call => call.executorId ≠ executorId
  | _ => true

/-- The row has a result for `await_workflow_result`. -/
def hasResult (workflowId : String) (db : SystemDatabase) : Bool :=
  db.statusRows.any fun row ↦ row.workflowUuid = workflowId && !row.status.isActive

def isCancelledIn (workflowId : String) (db : SystemDatabase) : Bool :=
  db.statusRows.any fun row ↦ row.workflowUuid = workflowId && row.status = .cancelled

namespace DispatchState

/-- Replace the phase of a thread. -/
def move (s : DispatchState) (thread : ℕ) (phase : ThreadPhase) : DispatchState :=
  { s with threads := s.threads.set thread phase }

/-- The dispatch after the answer of `init_workflow`. -/
def afterInit (ending : Ending SystemDatabase DBOSError InitResult) : ThreadPhase :=
  match ending.result with
  | .ok result => if result.status.isComplete then .done else .submitted
  | .error _ => .done

end DispatchState

/-- The arguments that a dispatch passes to `init_workflow`. -/
def isDispatchCall (executorId workflowId : String) (call : InitCall) : Bool :=
  call.status.workflowUuid = workflowId && call.status.executorId = some executorId &&
    call.isDequeuedRequest

def dispatchSystem (executorId workflowId : String) (isAsync : Bool) :
    System DispatchState DispatchAction where
  step s
    | .dequeue call now =>
      let (started, db) := startQueuedWorkflows call now s.db
      if call.executorId = executorId then some
        { s with
          db := db
          threads := if workflowId ∈ started then s.threads ++ [.dispatched] else s.threads }
      else none
    | .init thread call _ now =>
      let ending := initWorkflow call now s.db
      if s.threads[thread]? = some .dispatched ∧ isDispatchCall executorId workflowId call then
        some ({ s with db := ending.stateAfter s.db }.move thread (DispatchState.afterInit ending))
      else none
    | .raise thread =>
      if s.threads[thread]? = some .dispatched ∨ s.threads[thread]? = some .submitted then
        some (s.move thread .done)
      else none
    | .deny thread error now =>
      let ending := updateWorkflowOutcome workflowId .error none (some error) now s.db
      if s.threads[thread]? = some .submitted then
        some ({ s with db := ending.stateAfter s.db }.move thread .done)
      else none
    | .acquire thread =>
      if s.threads[thread]? = some .submitted then
        if s.registered then some (s.move thread .polling)
        else some ({ s with registered := true }.move thread .executing)
      else none
    | .record thread result completedAt =>
      let ending := recordOperationResult (some executorId) result completedAt s.db
      if s.threads[thread]? = some .executing ∧ result.workflowUuid = workflowId then
        some { s with db := ending.stateAfter s.db }
      else none
    | .observeCancelled thread =>
      if s.threads[thread]? = some .executing ∧ isCancelledIn workflowId s.db then
        some (s.move thread (.finalizing .finished))
      else none
    | .conflict thread =>
      if s.threads[thread]? = some .executing then some (s.move thread .duplicate) else none
    | .bodyReturns thread =>
      if s.threads[thread]? = some .executing then
        some (s.move thread (.finalizing .writingSuccess))
      else none
    | .bodyRaises thread =>
      if s.threads[thread]? = some .executing then
        some (s.move thread (.finalizing (.handling false)))
      else none
    | .exit thread =>
      match s.threads[thread]?.bind (ThreadPhase.exit isAsync) with
      | some phase => some (s.move thread phase)
      | none => none
    | .write thread output error now =>
      match s.threads[thread]? with
      | some (.finalizing phase) =>
        let ending := phase.write workflowId output error now s.db
        if phase = .finished then none
        else some ({ s with db := ending.stateAfter s.db }.move thread
          (.finalizing (phase.next isAsync ending.result)))
      | _ => none
    | .release thread =>
      if s.threads[thread]? = some (.finalizing .finished) then
        some ({ s with registered := false }.move thread .done)
      else none
    | .awaited thread =>
      if hasResult workflowId s.db then
        match s.threads[thread]? with
        | some .duplicate => some (s.move thread (.finalizing .finished))
        | some .polling => some (s.move thread .done)
        | _ => none
      else none
    | .other op now =>
      if isOthers executorId op then some { s with db := op.apply now s.db } else none

/-! ## The property and the condition -/

/-- The row is PENDING under this executor. -/
def pendingHere (executorId workflowId : String) (db : SystemDatabase) : Bool :=
  db.statusRows.any fun row ↦
    row.workflowUuid = workflowId && row.status = .pending && row.executorId = some executorId

/-- A row that is PENDING here has a thread that executes it or is on its way to. -/
def NotStranded (executorId workflowId : String) (s : DispatchState) : Prop :=
  pendingHere executorId workflowId s.db → s.threads.any ThreadPhase.counts

/-- Without this thread, the row is not stranded. -/
def Covered (executorId workflowId : String) (s : DispatchState) (thread : ℕ) : Prop :=
  pendingHere executorId workflowId s.db → (s.threads.eraseIdx thread).any ThreadPhase.counts

/-- No thread gives the workflow up while its row is PENDING here: an `acquire` that finds the ID taken
finds an execution at work, no execution is aborted as a duplicate or leaves with an exception that
`persist` does not handle, and no dispatch raises or is rejected by `init_workflow`. -/
def HandsOver (executorId workflowId : String) (s : DispatchState) : DispatchAction → Prop
  | .acquire thread => s.threads[thread]? = some .submitted → s.registered →
      pendingHere executorId workflowId s.db → s.threads.any ThreadPhase.atWork
  | .conflict thread =>
      s.threads[thread]? = some .executing → pendingHere executorId workflowId s.db = false
  | .exit thread =>
      s.threads[thread]?.any ThreadPhase.atWork → pendingHere executorId workflowId s.db = false
  | .raise thread => s.threads[thread]? = some .dispatched ∨ s.threads[thread]? = some .submitted →
      pendingHere executorId workflowId s.db = false
  | .init thread call _ _ => s.threads[thread]? = some .dispatched →
      isDispatchCall executorId workflowId call →
      (∃ row ∈ s.db.statusRows, row.workflowUuid = workflowId ∧ call.mismatch row ≠ none) →
        pendingHere executorId workflowId s.db = false
  | _ => True

section Stranding

variable {executorId workflowId : String} {isAsync : Bool} {now : ℤ} {db : SystemDatabase}
  {op : StatusOp} {call : InitCall} {row row' : WorkflowStatusRow} {s s' : DispatchState}
  {action : DispatchAction} {thread : ℕ} {old phase : ThreadPhase}

/-! ## Threads of a state -/

theorem any_eq_or_eraseIdx {threads : List ThreadPhase} (p : ThreadPhase → Bool)
    (h : threads[thread]? = some old) :
    threads.any p = (p old || (threads.eraseIdx thread).any p) := by
  induction threads generalizing thread with
  | nil => cases h
  | cons first rest ih =>
    cases thread with
    | zero =>
      cases h
      simp
    | succ thread =>
      have hthread : rest[thread]? = some old := by simpa using h
      have hrest := ih hthread
      simp only [List.any_cons, List.eraseIdx_cons_succ, hrest, Bool.or_left_comm]

theorem any_set {threads : List ThreadPhase} (h : threads[thread]? = some old) :
    (threads.set thread phase).any ThreadPhase.counts =
      (phase.counts || (threads.eraseIdx thread).any ThreadPhase.counts) := by
  have hlength := (List.getElem?_eq_some_iff.mp h).1
  have hset : (threads.set thread phase)[thread]? = some phase := by
    rw [List.getElem?_set_self hlength]
  rw [any_eq_or_eraseIdx _ hset, List.eraseIdx_set_eq]

theorem pendingHere_iff : pendingHere executorId workflowId db ↔
    ∃ row ∈ db.statusRows, row.workflowUuid = workflowId ∧ row.status = .pending ∧
      row.executorId = some executorId := by
  simp [pendingHere, List.any_eq_true, and_assoc]

theorem notStranded_of_not_pending (h : ∀ row ∈ s.db.statusRows, row.workflowUuid = workflowId →
    row.status ≠ .pending) : NotStranded executorId workflowId s := by
  intro hpending
  obtain ⟨row, hrow, hid, hstatus, -⟩ := pendingHere_iff.mp hpending
  exact absurd hstatus (h row hrow hid)

theorem notStranded_move_of_counts (h : s.threads[thread]? = some old) (hcounts : phase.counts) :
    NotStranded executorId workflowId (s.move thread phase) := by
  intro _
  simp only [DispatchState.move]
  rw [any_set h, hcounts, Bool.true_or]

theorem notStranded_move_of_covered (h : s.threads[thread]? = some old)
    (hcovered : Covered executorId workflowId s thread) :
    NotStranded executorId workflowId (s.move thread phase) := by
  intro hpending
  simp only [DispatchState.move]
  rw [any_set h, hcovered hpending, Bool.or_true]

/-- A thread that does not count covers nothing. -/
theorem covered_of_not_counts (h : s.threads[thread]? = some old) (hcounts : old.counts = false)
    (hstate : NotStranded executorId workflowId s) : Covered executorId workflowId s thread := by
  intro hpending
  have hany := hstate hpending
  rwa [any_eq_or_eraseIdx _ h, hcounts, Bool.false_or] at hany

theorem ThreadPhase.counts_of_atWork (h : phase.atWork = true) : phase.counts = true := by
  cases phase with
  | executing => rfl
  | finalizing write => exact h
  | _ => cases h

/-- A thread that is not at work itself leaves the one that is. -/
theorem covered_of_atWork (h : s.threads[thread]? = some old) (hidle : old.atWork = false)
    (hwork : pendingHere executorId workflowId s.db → s.threads.any ThreadPhase.atWork) :
    Covered executorId workflowId s thread := by
  intro hpending
  have hany := hwork hpending
  rw [any_eq_or_eraseIdx _ h, hidle, Bool.false_or] at hany
  obtain ⟨other, hmem, hother⟩ := List.any_eq_true.mp hany
  exact List.any_eq_true.mpr ⟨other, hmem, ThreadPhase.counts_of_atWork hother⟩

theorem covered_of_not_pendingHere (h : pendingHere executorId workflowId s.db = false) :
    Covered executorId workflowId s thread := by
  intro hpending
  rw [h] at hpending
  cases hpending

/-- Only a thread at work can still give something up. -/
theorem ThreadPhase.exit_eq_some (h : old.exit isAsync = some phase) :
    phase.counts = false ∧ (old.atWork = true ∨ old.counts = false) := by
  cases old with
  | executing =>
    cases h
    exact ⟨rfl, Or.inl rfl⟩
  | finalizing write =>
    rw [ThreadPhase.exit, Option.ite_none_right_eq_some, Bool.and_eq_true, Option.some.injEq] at h
    obtain ⟨⟨-, hactive⟩, rfl⟩ := h
    exact ⟨rfl, Or.inl hactive⟩
  | duplicate =>
    rw [ThreadPhase.exit, Option.ite_none_right_eq_some, Option.some.injEq] at h
    obtain ⟨-, rfl⟩ := h
    exact ⟨rfl, Or.inr rfl⟩
  | polling =>
    rw [ThreadPhase.exit, Option.ite_none_right_eq_some, Option.some.injEq] at h
    obtain ⟨-, rfl⟩ := h
    exact ⟨rfl, Or.inr rfl⟩
  | _ => cases h

/-! ## Rows that are not PENDING -/

/-- An outcome leaves the workflow with that outcome or CANCELLED. -/
theorem not_pending_of_outcome {status : WorkflowStatusString} {output error : Option String}
    (complete : status.isComplete = true)
    (hrow' : row' ∈ ((updateWorkflowOutcome workflowId status output error now db).stateAfter
      db).statusRows) (hid' : row'.workflowUuid = workflowId) : row'.status ≠ .pending := by
  have horigin : Origin now db (.outcome workflowId status complete output error) row' :=
    mem_apply hrow'
  rcases horigin with ⟨row, hrow, hid, -⟩ | ⟨-, hcreated⟩
  · rw [status_of_mem_outcome hrow (hid.trans hid') hrow' hid']
    split
    · decide
    · intro hpending
      rw [hpending] at complete
      cases complete
  · cases hcreated

theorem not_pending_of_isCancelledIn (hcancelled : isCancelledIn workflowId db)
    (hrow : row ∈ db.statusRows) (hid : row.workflowUuid = workflowId) : row.status ≠ .pending := by
  obtain ⟨cancelled, hmem, hboth⟩ := List.any_eq_true.mp hcancelled
  simp only [Bool.and_eq_true, decide_eq_true_eq] at hboth
  rw [db.workflowStatus.eq_of_key hrow hmem (hid.trans hboth.1.symm), hboth.2]
  decide

/-- The last write of `persist` leaves a row that is not PENDING. -/
theorem not_pending_of_finished {phase : Finalization} {output error : String}
    (hactive : phase ≠ .finished)
    (hnext : phase.next isAsync (phase.write workflowId output error now db).result = .finished)
    (hrow' : row' ∈ ((phase.write workflowId output error now db).stateAfter db).statusRows)
    (hid' : row'.workflowUuid = workflowId) : row'.status ≠ .pending := by
  cases phase with
  | writingSuccess => exact not_pending_of_outcome rfl hrow' hid'
  | handling again => exact not_pending_of_outcome rfl hrow' hid'
  | finished => exact absurd rfl hactive

/-- A dispatch that ends at `init_workflow` leaves the row not PENDING, or it was rejected and
changed nothing. -/
theorem afterInit_eq_done (h : DispatchState.afterInit (initWorkflow call now db) = .done) :
    (∀ row' ∈ ((initWorkflow call now db).stateAfter db).statusRows,
      row'.workflowUuid = call.status.workflowUuid → row'.status ≠ .pending) ∨
    (initWorkflow call now db).stateAfter db = db ∧ ∃ row ∈ db.statusRows,
      row.workflowUuid = call.status.workflowUuid ∧ call.mismatch row ≠ none := by
  cases hending : initWorkflow call now db with
  | raised exception =>
    rcases initWorkflow_eq_raised hending with habsent | hmismatch
    · exact Or.inl fun row' hrow' hid' ↦ absurd hid' (habsent row' hrow')
    · exact Or.inr ⟨rfl, hmismatch⟩
  | raisedAfterCommit exception db' =>
    exact Or.inl fun row' hrow' hid' ↦ initWorkflow_eq_raisedAfterCommit hending hrow' hid'
  | returned result db' =>
    have hcomplete : result.status.isComplete := by
      by_contra hactive
      rw [hending] at h
      simp only [DispatchState.afterInit, Ending.result_returned, if_neg hactive] at h
      cases h
    have hne {status : WorkflowStatusString} (hstatus : result.status = status) :
        status ≠ .pending := by
      rintro rfl
      rw [hstatus] at hcomplete
      cases hcomplete
    left
    intro row' hrow' hid'
    rcases initWorkflow_eq_returned hending with
      ⟨row, hrow, hid, -, -, hstatus, -, -, rfl⟩ | ⟨hfresh, hstatus, -, -, rows, hrows, rfl⟩
    · rw [Table.eq_of_mem_update hrow hrow' (hid'.trans hid.symm)]
      split <;> exact hne hstatus
    · rcases (Table.mem_insertNew hrows).mp hrow' with hold | rfl
      · exact absurd hid' (hfresh row' hold)
      · exact hne hstatus

/-- What other clients and executors do stores no PENDING row under this executor. -/
theorem pendingHere_of_others (hop : isOthers executorId op)
    (h : pendingHere executorId workflowId (op.apply now db)) :
    pendingHere executorId workflowId db := by
  obtain ⟨row', hrow', hid', hstatus', howner'⟩ := pendingHere_iff.mp h
  rw [pendingHere_iff]
  rcases mem_apply hrow' with ⟨row, hrow, hid, hchange⟩ | ⟨-, hcreated⟩
  · refine ⟨row, hrow, hid.trans hid', ?_⟩
    cases hchange with
    | conflict call built row hcall =>
      have howner : row.executorId = some executorId := by
        simp only [InitCall.conflictUpdate] at howner'
        split at howner'
        · exact howner'
        · simp [isOthers, howner'] at hop
      exact ⟨hstatus', howner⟩
    | startQueued call =>
      have hsame : call.executorId = executorId := by
        simpa [DequeueCall.startUpdate] using howner'
      simp [isOthers, hsame] at hop
    | outcome workflowId status complete =>
      have hpending : status = .pending := hstatus'
      rw [hpending] at complete
      cases complete
    | deadLetter => cases hstatus'
    | cancel => cases hstatus'
    | resume => cases hstatus'
    | transition => cases hstatus'
    | clear => cases hstatus'
    | _ => exact ⟨hstatus', howner'⟩
  · cases hcreated with
    | init call built => simp [isOthers, show call.status.executorId = _ from howner'] at hop
    | fork => cases hstatus'

/-- A dequeue that does not return the workflow leaves it alone. -/
theorem pendingHere_of_dequeue {call : DequeueCall}
    (hmissed : workflowId ∉ (startQueuedWorkflows call now db).1)
    (h : pendingHere executorId workflowId (startQueuedWorkflows call now db).2) :
    pendingHere executorId workflowId db := by
  obtain ⟨row', hrow', hid', hstatus', howner'⟩ := pendingHere_iff.mp h
  rw [pendingHere_iff]
  have horigin : Origin now db (.startQueued call) row' := mem_apply hrow'
  rcases horigin with ⟨row, hrow, hid, hchange⟩ | ⟨-, hcreated⟩
  · cases hchange with
    | unchanged => exact ⟨row', hrow, hid', hstatus', howner'⟩
    | startQueued call row hmem =>
      rw [hid, hid'] at hmem
      exact absurd hmem hmissed
  · cases hcreated

/-! ## Steps -/

theorem notStranded_init {built : Built call.status}
    (hthread : s.threads[thread]? = some .dispatched)
    (hcall : isDispatchCall executorId workflowId call)
    (hhands : HandsOver executorId workflowId s (.init thread call built now)) :
    NotStranded executorId workflowId
      ({ s with db := (initWorkflow call now s.db).stateAfter s.db }.move thread
        (DispatchState.afterInit (initWorkflow call now s.db))) := by
  have hid : call.status.workflowUuid = workflowId := by
    simp only [isDispatchCall, Bool.and_eq_true, decide_eq_true_eq] at hcall
    exact hcall.1.1
  by_cases hdone : DispatchState.afterInit (initWorkflow call now s.db) = .done
  · rcases afterInit_eq_done hdone with hnot | ⟨hsame, hmismatch⟩
    · exact notStranded_of_not_pending fun row hrow hrowId ↦ hnot row hrow (hrowId.trans hid.symm)
    · rw [hsame]
      exact notStranded_move_of_covered hthread
        (covered_of_not_pendingHere (hhands hthread hcall (hid ▸ hmismatch)))
  · have hcounts : (DispatchState.afterInit (initWorkflow call now s.db)).counts := by
      revert hdone
      unfold DispatchState.afterInit
      split
      · split
        · exact fun hdone ↦ absurd rfl hdone
        · exact fun _ ↦ rfl
      · exact fun hdone ↦ absurd rfl hdone
    exact notStranded_move_of_counts hthread hcounts

theorem notStranded_write {phase : Finalization} {output error : String}
    (hthread : s.threads[thread]? = some (.finalizing phase)) (hactive : phase ≠ .finished) :
    NotStranded executorId workflowId
      ({ s with db := (phase.write workflowId output error now s.db).stateAfter s.db }.move thread
        (.finalizing (phase.next isAsync (phase.write workflowId output error now s.db).result))) := by
  by_cases hnext : phase.next isAsync (phase.write workflowId output error now s.db).result = .finished
  · exact notStranded_of_not_pending fun row hrow hid ↦
      not_pending_of_finished hactive hnext hrow hid
  · exact notStranded_move_of_counts hthread (by simp [ThreadPhase.counts, hnext])

/-- Every step that meets the condition keeps a thread for a row that is PENDING here. -/
theorem notStranded_step (hstate : NotStranded executorId workflowId s)
    (hhands : HandsOver executorId workflowId s action)
    (hstep : (dispatchSystem executorId workflowId isAsync).step s action = some s') :
    NotStranded executorId workflowId s' := by
  cases action with
  | dequeue call now =>
    simp only [dispatchSystem, Option.ite_none_right_eq_some, Option.some.injEq] at hstep
    obtain ⟨-, rfl⟩ := hstep
    intro hpending
    simp only
    split
    · simp [ThreadPhase.counts]
    · rename_i hmissed
      exact hstate (pendingHere_of_dequeue hmissed hpending)
  | init thread call built now =>
    simp only [dispatchSystem, Option.ite_none_right_eq_some, Option.some.injEq] at hstep
    obtain ⟨⟨hthread, hcall⟩, rfl⟩ := hstep
    exact notStranded_init hthread hcall hhands
  | raise thread =>
    simp only [dispatchSystem, Option.ite_none_right_eq_some, Option.some.injEq] at hstep
    obtain ⟨hguard, rfl⟩ := hstep
    have hothers : Covered executorId workflowId s thread :=
      covered_of_not_pendingHere (hhands hguard)
    rcases hguard with hthread | hthread
    · exact notStranded_move_of_covered hthread hothers
    · exact notStranded_move_of_covered hthread hothers
  | deny thread error now =>
    simp only [dispatchSystem, Option.ite_none_right_eq_some, Option.some.injEq] at hstep
    obtain ⟨-, rfl⟩ := hstep
    exact notStranded_of_not_pending fun row hrow hid ↦ not_pending_of_outcome rfl hrow hid
  | acquire thread =>
    simp only [dispatchSystem, Option.ite_none_right_eq_some] at hstep
    obtain ⟨hthread, hstep⟩ := hstep
    split at hstep
    · rename_i hregistered
      cases hstep
      exact notStranded_move_of_covered hthread
        (covered_of_atWork hthread rfl (hhands hthread hregistered))
    · cases hstep
      exact notStranded_move_of_counts hthread rfl
  | record thread result completedAt =>
    simp only [dispatchSystem, Option.ite_none_right_eq_some, Option.some.injEq] at hstep
    obtain ⟨⟨hthread, -⟩, rfl⟩ := hstep
    intro _
    exact List.any_eq_true.mpr ⟨.executing, List.mem_of_getElem? hthread, rfl⟩
  | observeCancelled thread =>
    simp only [dispatchSystem, Option.ite_none_right_eq_some, Option.some.injEq] at hstep
    obtain ⟨⟨-, hcancelled⟩, rfl⟩ := hstep
    exact notStranded_of_not_pending fun row hrow hid ↦
      not_pending_of_isCancelledIn hcancelled hrow hid
  | conflict thread =>
    simp only [dispatchSystem, Option.ite_none_right_eq_some, Option.some.injEq] at hstep
    obtain ⟨hthread, rfl⟩ := hstep
    exact notStranded_move_of_covered hthread (covered_of_not_pendingHere (hhands hthread))
  | bodyReturns thread =>
    simp only [dispatchSystem, Option.ite_none_right_eq_some, Option.some.injEq] at hstep
    obtain ⟨hthread, rfl⟩ := hstep
    exact notStranded_move_of_counts hthread (by decide)
  | bodyRaises thread =>
    simp only [dispatchSystem, Option.ite_none_right_eq_some, Option.some.injEq] at hstep
    obtain ⟨hthread, rfl⟩ := hstep
    exact notStranded_move_of_counts hthread (by decide)
  | exit thread =>
    simp only [dispatchSystem] at hstep
    split at hstep
    · rename_i phase hexit
      cases hstep
      obtain ⟨old, hthread, hphase⟩ := Option.bind_eq_some_iff.mp hexit
      refine notStranded_move_of_covered hthread ?_
      rcases (ThreadPhase.exit_eq_some hphase).2 with hwork | hidle
      · exact covered_of_not_pendingHere (hhands (by rw [hthread]; exact hwork))
      · exact covered_of_not_counts hthread hidle hstate
    · cases hstep
  | write thread output error now =>
    simp only [dispatchSystem] at hstep
    split at hstep
    · rename_i phase hthread
      split at hstep
      · cases hstep
      · rename_i hactive
        cases hstep
        exact notStranded_write hthread hactive
    · cases hstep
  | release thread =>
    simp only [dispatchSystem, Option.ite_none_right_eq_some, Option.some.injEq] at hstep
    obtain ⟨hthread, rfl⟩ := hstep
    exact notStranded_move_of_covered hthread (covered_of_not_counts hthread (by decide) hstate)
  | awaited thread =>
    simp only [dispatchSystem, Option.ite_none_right_eq_some] at hstep
    obtain ⟨-, hstep⟩ := hstep
    split at hstep
    · rename_i hthread
      cases hstep
      exact notStranded_move_of_covered hthread (covered_of_not_counts hthread rfl hstate)
    · rename_i hthread
      cases hstep
      exact notStranded_move_of_covered hthread (covered_of_not_counts hthread rfl hstate)
    · cases hstep
  | other op now =>
    simp only [dispatchSystem, Option.ite_none_right_eq_some, Option.some.injEq] at hstep
    obtain ⟨hop, rfl⟩ := hstep
    exact fun hpending ↦ hstate (pendingHere_of_others hop hpending)

/-! ## Runs -/

/-- In every state of the run, a row that is PENDING here has a thread. -/
def NeverStranded (executorId workflowId : String) (isAsync : Bool) (s : DispatchState)
    (actions : List DispatchAction) : Prop :=
  ∀ before after s', actions = before ++ after →
    (dispatchSystem executorId workflowId isAsync).run s before = some s' →
      NotStranded executorId workflowId s'

/-- In every run whose steps meet the condition, from a process with no thread and no row of its own,
no dispatch is stranded. -/
theorem neverStranded_of_handsOver (executorId workflowId : String) (isAsync : Bool)
    (db : SystemDatabase) (hinitial : pendingHere executorId workflowId db = false)
    (actions : List DispatchAction)
    (hhands : (dispatchSystem executorId workflowId isAsync).Along (HandsOver executorId workflowId)
      ⟨db, false, []⟩ actions) :
    NeverStranded executorId workflowId isAsync ⟨db, false, []⟩ actions := by
  intro before after s' hactions hbefore
  rw [hactions, System.along_append] at hhands
  have hempty : NotStranded executorId workflowId ⟨db, false, []⟩ := by
    intro hpending
    exact absurd (hinitial.symm.trans hpending) Bool.false_ne_true
  exact (dispatchSystem executorId workflowId isAsync).run_invariant
    (fun _ _ _ hs hstep hnext ↦ notStranded_step hs hstep hnext) hempty hhands.1 hbefore

end Stranding

/-! ## A workflow cancelled and resumed -/

instance (executorId workflowId : String) (s : DispatchState) :
    (action : DispatchAction) → Decidable (HandsOver executorId workflowId s action)
  | .acquire thread => inferInstanceAs (Decidable (s.threads[thread]? = some .submitted →
      s.registered → pendingHere executorId workflowId s.db → s.threads.any ThreadPhase.atWork))
  | .conflict thread => inferInstanceAs (Decidable (s.threads[thread]? = some .executing →
      pendingHere executorId workflowId s.db = false))
  | .exit thread => inferInstanceAs (Decidable (s.threads[thread]?.any ThreadPhase.atWork →
      pendingHere executorId workflowId s.db = false))
  | .raise thread => inferInstanceAs (Decidable
      (s.threads[thread]? = some .dispatched ∨ s.threads[thread]? = some .submitted →
        pendingHere executorId workflowId s.db = false))
  | .init thread call _ _ => inferInstanceAs (Decidable
      (s.threads[thread]? = some .dispatched → isDispatchCall executorId workflowId call →
        (∃ row ∈ s.db.statusRows, row.workflowUuid = workflowId ∧ call.mismatch row ≠ none) →
          pendingHere executorId workflowId s.db = false))
  | .dequeue _ _ => isTrue trivial
  | .deny _ _ _ => isTrue trivial
  | .record _ _ _ => isTrue trivial
  | .observeCancelled _ => isTrue trivial
  | .bodyReturns _ => isTrue trivial
  | .bodyRaises _ => isTrue trivial
  | .write _ _ _ _ => isTrue trivial
  | .release _ => isTrue trivial
  | .awaited _ => isTrue trivial
  | .other _ _ => isTrue trivial

/-- A poll of a queue by the process and the dispatch of the workflow it returns, up to the
registry. -/
def dispatchFrom (thread : ℕ) (queueName : String) : List DispatchAction :=
  [.dequeue { queue := { name := queueName }, executorId := "e", appVersion := "v" } 0,
    .init thread
      { status := { enqueuedStatus "wf" queueName "v" with executorId := some "e" }
        ownerXid := some "x"
        isDequeuedRequest := true }
      (.workflow
        { wfName := "f", ctx := { workflowId := "wf", executorId := some "e" },
          queue := some queueName, globalAppVersion := "v", serialization := "py_pickle" } _ rfl) 0,
    .acquire thread]

/-- The first dispatch executes and observes a cancellation. -/
def cancelledExecution : List DispatchAction :=
  .other (.init { status := enqueuedStatus "wf" "q" "v" } (built_enqueuedStatus "wf" "q" "v")) 0 ::
    dispatchFrom 0 "q" ++ [.other (.cancel ["wf"]) 1, .observeCancelled 0]

theorem neverStranded_released :
    NeverStranded "e" "wf" false ⟨SystemDatabase.empty, false, []⟩
      (cancelledExecution ++ [.release 0, .other (.resume ["wf"] none) 2] ++
        dispatchFrom 1 internalQueueName) :=
  neverStranded_of_handsOver "e" "wf" false SystemDatabase.empty rfl _ (by decide)

/-- The workflow is resumed and dispatched again before the first execution has released it. -/
def resumedBeforeRelease : List DispatchAction :=
  cancelledExecution ++ [.other (.resume ["wf"] none) 2] ++ dispatchFrom 1 internalQueueName

/-- The body calls `sys.exit`. -/
def exitedExecution : List DispatchAction :=
  .other (.init { status := enqueuedStatus "wf" "q" "v" } (built_enqueuedStatus "wf" "q" "v")) 0 ::
    dispatchFrom 0 "q" ++ [.exit 0, .release 0]

theorem not_neverStranded_of_run {actions : List DispatchAction}
    (h : ∃ s, (dispatchSystem "e" "wf" false).run ⟨SystemDatabase.empty, false, []⟩ actions =
      some s ∧ pendingHere "e" "wf" s.db ∧ s.threads.any ThreadPhase.counts = false) :
    ¬NeverStranded "e" "wf" false ⟨SystemDatabase.empty, false, []⟩ actions := by
  intro hnever
  obtain ⟨s, hrun, hpending, hnone⟩ := h
  have hany := hnever _ [] s (List.append_nil _).symm hrun hpending
  exact absurd (hnone.symm.trans hany) Bool.false_ne_true

/-- Either run strands the row. -/
theorem stranded_resumedBeforeRelease :
    ¬NeverStranded "e" "wf" false ⟨SystemDatabase.empty, false, []⟩ resumedBeforeRelease ∧
    ¬NeverStranded "e" "wf" false ⟨SystemDatabase.empty, false, []⟩ exitedExecution :=
  ⟨not_neverStranded_of_run ⟨_, rfl, by decide⟩, not_neverStranded_of_run ⟨_, rfl, by decide⟩⟩

end DBOSModel.Core

import DBOSModel.SysDb.Checkpoint

/-!
# Agreement on a checkpoint

Several executors call `record_operation_result` for one step, each with the result it computed and
the completion time it read, and `db_retry` re-runs a call whose commit was not acknowledged. The
stored row is the one inserted first and never changes. A later call learns only whether the stored
completion time is its own: another time raises a conflict, and the same millisecond counts as the
call's own earlier attempt. So the executors agree exactly if no row that can be the stored one has
the completion time of a call with another result. A row without a completion time, which
`record_child_workflow` and `record_get_result` write, fails the comparison itself.
-/

namespace DBOSModel.SysDb

open Relational

/-- One call of `record_operation_result`. -/
structure RecordCall where
  executorId : Option String
  result : OperationResultInternal
  completedAt : ℤ
deriving DecidableEq

/-- The row that the call inserts. -/
def RecordCall.row (call : RecordCall) : OperationOutputRow := call.result.row call.completedAt

/-- The row holds the output, the error and the function name of the call. -/
def Holds (call : RecordCall) (stored : OperationOutputRow) : Prop :=
  stored.output = call.result.output ∧ stored.error = call.result.error ∧
    stored.functionName = call.result.functionName

instance (call : RecordCall) (stored : OperationOutputRow) : Decidable (Holds call stored) :=
  inferInstanceAs (Decidable (_ ∧ _ ∧ _))

section Callers

variable {ι : Type} [DecidableEq ι]

abbrev RecordState (ι : Type) := RetryState ι SystemDatabase DBOSError Unit

/-- The attempts of all callers, in any order. -/
def recordSystem (calls : ι → RecordCall) : System (RecordState ι) (Attempt ι Unit) :=
  retrySystem fun caller _ db ↦
    recordOperationResult (calls caller).executorId (calls caller).result (calls caller).completedAt db

/-- No call has been answered yet. -/
def unrecorded (db : SystemDatabase) : RecordState ι where
  state := db
  told _ := none

/-- In every run, a call that returns finds its own result stored, every other answer is a
conflict, and the stored row never changes. -/
def Agreement (calls : ι → RecordCall) (workflowId : String) (functionId : ℤ)
    (db : SystemDatabase) : Prop :=
  ∀ actions s, (recordSystem calls).run (unrecorded db) actions = some s →
    (∀ caller, s.told caller = some (.ok ()) → ∃ stored,
      s.state.operationOutputs.lookup (workflowId, functionId) = some stored ∧
        Holds (calls caller) stored) ∧
    (∀ caller error, s.told caller = some (.error error) →
      error = .workflowConflictID workflowId) ∧
    (∀ before after middle stored, actions = before ++ after →
      (recordSystem calls).run (unrecorded db) before = some middle →
      middle.state.operationOutputs.lookup (workflowId, functionId) = some stored →
      s.state.operationOutputs.lookup (workflowId, functionId) = some stored)

/-! ## One attempt -/

section Attempt

variable {call : RecordCall} {db db' : SystemDatabase} {workflowId : String} {functionId : ℤ}
  {stored : OperationOutputRow}

theorem hasWorkflow_of_keeps
    (h : ∀ workflowId, (db'.workflowStatus.lookup workflowId).map WorkflowStatusRow.status =
      (db.workflowStatus.lookup workflowId).map WorkflowStatusRow.status)
    (hworkflow : db.hasWorkflow workflowId) : db'.hasWorkflow workflowId := by
  have hsome := congrArg Option.isSome (h workflowId)
  simp only [Option.isSome_map] at hsome
  rw [SystemDatabase.hasWorkflow, hsome]
  exact hworkflow

/-- The checks before the upsert pass when the workflow exists. -/
theorem recordOperationResult_eq (hone : ¬(call.result.error.isSome ∧ call.result.output.isSome))
    (hworkflow : db.hasWorkflow call.result.workflowUuid) :
    ∃ row, recordOperationResult call.executorId call.result call.completedAt db =
      .ofExcept ((upsertResult call.result call.completedAt
        (resetExecutor call.executorId row db)).map fun db' ↦ ((), db')) := by
  obtain ⟨row, hrow⟩ := Option.isSome_iff_exists.mp hworkflow
  refine ⟨row, ?_⟩
  simp only [recordOperationResult, recordOperationResultTxn, if_neg hone, hrow]

/-- Without a checkpoint, the call inserts its own. -/
theorem recordOperationResult_of_none
    (hone : ¬(call.result.error.isSome ∧ call.result.output.isSome))
    (hworkflow : db.hasWorkflow call.result.workflowUuid)
    (hnone : db.operationOutputs.lookup call.result.key = none) :
    ∃ db', recordOperationResult call.executorId call.result call.completedAt db = .returned () db' ∧
      db'.operationOutputs.lookup call.result.key = some call.row ∧
      ∀ workflowId, (db'.workflowStatus.lookup workflowId).map WorkflowStatusRow.status =
        (db.workflowStatus.lookup workflowId).map WorkflowStatusRow.status := by
  obtain ⟨row, heq⟩ := recordOperationResult_eq hone hworkflow
  have hkeeps : KeepsCheckpoints db (resetExecutor call.executorId row db) :=
    keepsCheckpoints_resetExecutor
  have hnone' := hnone
  rw [← hkeeps.1] at hnone'
  obtain ⟨outputs, hinsert⟩ := Table.exists_insertNew (r := call.row) _ hnone'
  refine ⟨{ resetExecutor call.executorId row db with operationOutputs := outputs }, ?_, ?_,
    hkeeps.2⟩
  · rw [heq]
    have hrow : (resetExecutor call.executorId row db).operationOutputs.insertNew
        (call.result.row call.completedAt) = some outputs := hinsert
    simp [upsertResult, hnone', hrow, Except.map]
  · exact Table.lookup_insertNew_self hinsert

/-- With a checkpoint, its completion time decides. -/
theorem recordOperationResult_of_some
    (hone : ¬(call.result.error.isSome ∧ call.result.output.isSome))
    (hworkflow : db.hasWorkflow call.result.workflowUuid)
    (hstored : db.operationOutputs.lookup call.result.key = some stored) :
    ∃ db', KeepsCheckpoints db db' ∧
      recordOperationResult call.executorId call.result call.completedAt db =
        if stored.completedAtEpochMs = some call.completedAt then .returned () db'
        else if stored.completedAtEpochMs.isSome then
          .raised (.workflowConflictID call.result.workflowUuid)
        else .raised intOfNone := by
  obtain ⟨row, heq⟩ := recordOperationResult_eq hone hworkflow
  have hkeeps : KeepsCheckpoints db (resetExecutor call.executorId row db) :=
    keepsCheckpoints_resetExecutor
  refine ⟨_, hkeeps, ?_⟩
  rw [← hkeeps.1] at hstored
  rw [heq]
  cases htime : stored.completedAtEpochMs with
  | none => simp [upsertResult, hstored, htime, Except.map]
  | some completedAt =>
    by_cases hsame : completedAt = call.completedAt
    · simp [upsertResult, hstored, htime, hsame, Except.map]
    · simp [upsertResult, hstored, htime, hsame, Except.map]

end Attempt

/-! ## Runs -/

variable {calls : ι → RecordCall} {workflowId : String} {functionId : ℤ}
  {start db : SystemDatabase}

/-- A row that can be the stored one: the row already there, or else the row of some call. -/
def MayStore (calls : ι → RecordCall) (workflowId : String) (functionId : ℤ)
    (db : SystemDatabase) (row : OperationOutputRow) : Prop :=
  db.operationOutputs.lookup (workflowId, functionId) = some row ∨
    db.operationOutputs.lookup (workflowId, functionId) = none ∧ ∃ caller, row = (calls caller).row

/-- The workflow exists, and the checkpoint, if any, is one that can be stored. -/
structure Recording (calls : ι → RecordCall) (workflowId : String) (functionId : ℤ)
    (start db : SystemDatabase) : Prop where
  workflow : db.hasWorkflow workflowId
  stored : ∀ stored, db.operationOutputs.lookup (workflowId, functionId) = some stored →
    MayStore calls workflowId functionId start stored
  missing : db.operationOutputs.lookup (workflowId, functionId) = none →
    start.operationOutputs.lookup (workflowId, functionId) = none

omit [DecidableEq ι] in
/-- What one attempt does to the checkpoint and tells its caller, when every row that can be stored
has a completion time. -/
theorem attempt_spec (hkey : ∀ caller, (calls caller).result.key = (workflowId, functionId))
    (hone : ∀ caller, ¬((calls caller).result.error.isSome ∧ (calls caller).result.output.isSome))
    (htimed : ∀ row, MayStore calls workflowId functionId start row → row.completedAtEpochMs.isSome)
    (h : Recording calls workflowId functionId start db) (caller : ι) :
    let ending := recordOperationResult (calls caller).executorId (calls caller).result
      (calls caller).completedAt db
    Recording calls workflowId functionId start (ending.stateAfter db) ∧
      (∀ stored, db.operationOutputs.lookup (workflowId, functionId) = some stored →
        (ending.stateAfter db).operationOutputs.lookup (workflowId, functionId) = some stored) ∧
      ((ending.result = .ok () ∧ ∃ stored,
        (ending.stateAfter db).operationOutputs.lookup (workflowId, functionId) = some stored ∧
          stored.completedAtEpochMs = some (calls caller).completedAt) ∨
        ending.result = .error (.workflowConflictID workflowId)) := by
  intro ending
  have hid : (calls caller).result.workflowUuid = workflowId := congrArg Prod.fst (hkey caller)
  have hworkflow : db.hasWorkflow (calls caller).result.workflowUuid := by
    rw [hid]
    exact h.workflow
  cases hlookup : db.operationOutputs.lookup (workflowId, functionId) with
  | none =>
    obtain ⟨db', hending, hinserted, hstatus⟩ := recordOperationResult_of_none (hone caller)
      hworkflow (by rw [hkey caller]; exact hlookup)
    rw [hkey caller] at hinserted
    have heq : ending = .returned () db' := hending
    rw [heq, Ending.stateAfter_returned]
    refine ⟨⟨hasWorkflow_of_keeps hstatus h.workflow, ?_, ?_⟩, by simp, Or.inl ⟨rfl, ?_⟩⟩
    · intro stored hstored
      rw [hinserted] at hstored
      exact Or.inr ⟨h.missing hlookup, caller, (Option.some.inj hstored).symm⟩
    · intro hnone
      rw [hinserted] at hnone
      cases hnone
    · exact ⟨(calls caller).row, hinserted, rfl⟩
  | some stored =>
    have hmay := h.stored stored hlookup
    obtain ⟨db', hkeeps, hending⟩ := recordOperationResult_of_some (hone caller) hworkflow
      (by rw [hkey caller]; exact hlookup)
    rw [if_pos (htimed stored hmay), hid] at hending
    have heq : ending = if stored.completedAtEpochMs = some (calls caller).completedAt
      then .returned () db' else .raised (.workflowConflictID workflowId) := hending
    rw [heq]
    by_cases hsame : stored.completedAtEpochMs = some (calls caller).completedAt
    · simp only [if_pos hsame, Ending.stateAfter_returned, Ending.result_returned, hkeeps.1]
      refine ⟨⟨hasWorkflow_of_keeps hkeeps.2 h.workflow, ?_, ?_⟩, ?_,
        Or.inl ⟨trivial, stored, hlookup, hsame⟩⟩
      · rw [hkeeps.1]
        exact h.stored
      · rw [hkeeps.1]
        exact h.missing
      · intro other hother
        rw [hlookup]
        exact hother
    · simp only [if_neg hsame, Ending.stateAfter_raised, Ending.result_raised]
      refine ⟨h, ?_, Or.inr trivial⟩
      intro other hother
      rw [hlookup]
      exact hother

/-- Every answer is a conflict, or the stored completion time is the caller's. -/
structure Answered (calls : ι → RecordCall) (workflowId : String) (functionId : ℤ)
    (start : SystemDatabase) (s : RecordState ι) : Prop where
  recording : Recording calls workflowId functionId start s.state
  told : ∀ caller answer, s.told caller = some answer →
    (answer = .ok () ∧ ∃ stored,
      s.state.operationOutputs.lookup (workflowId, functionId) = some stored ∧
        stored.completedAtEpochMs = some (calls caller).completedAt) ∨
      answer = .error (.workflowConflictID workflowId)

theorem answered_step (hkey : ∀ caller, (calls caller).result.key = (workflowId, functionId))
    (hone : ∀ caller, ¬((calls caller).result.error.isSome ∧ (calls caller).result.output.isSome))
    (htimed : ∀ row, MayStore calls workflowId functionId start row → row.completedAtEpochMs.isSome)
    {s s' : RecordState ι} {attempt : Attempt ι Unit} (h : Answered calls workflowId functionId start s)
    (hstep : (recordSystem calls).step s attempt = some s') :
    Answered calls workflowId functionId start s' ∧
      ∀ stored, s.state.operationOutputs.lookup (workflowId, functionId) = some stored →
        s'.state.operationOutputs.lookup (workflowId, functionId) = some stored := by
  obtain ⟨hrecording, hstable, hanswer⟩ := attempt_spec hkey hone htimed h.recording attempt.caller
  -- earlier answers stay true, because the stored row does not change
  have htold : ∀ caller answer, s.told caller = some answer →
      (answer = .ok () ∧ ∃ stored, ((recordOperationResult (calls attempt.caller).executorId
          (calls attempt.caller).result (calls attempt.caller).completedAt s.state).stateAfter
          s.state).operationOutputs.lookup (workflowId, functionId) = some stored ∧
          stored.completedAtEpochMs = some (calls caller).completedAt) ∨
        answer = .error (.workflowConflictID workflowId) := by
    intro caller answer hcaller
    rcases h.told caller answer hcaller with ⟨hok, stored, hstored, htime⟩ | herror
    · exact Or.inl ⟨hok, stored, hstable stored hstored, htime⟩
    · exact Or.inr herror
  obtain ⟨-, rfl | rfl | rfl⟩ := retrySystem_step hstep
  · exact ⟨h, fun _ hstored ↦ hstored⟩
  · exact ⟨⟨hrecording, htold⟩, hstable⟩
  · refine ⟨⟨hrecording, ?_⟩, hstable⟩
    intro caller answer hcaller
    by_cases hsame : caller = attempt.caller
    · subst hsame
      simp only [Function.update_self, Option.some.injEq] at hcaller
      subst hcaller
      exact hanswer
    · simp only [Function.update_of_ne hsame] at hcaller
      exact htold caller answer hcaller

theorem answered_run (hkey : ∀ caller, (calls caller).result.key = (workflowId, functionId))
    (hone : ∀ caller, ¬((calls caller).result.error.isSome ∧ (calls caller).result.output.isSome))
    (htimed : ∀ row, MayStore calls workflowId functionId start row → row.completedAtEpochMs.isSome)
    {s s' : RecordState ι} {actions : List (Attempt ι Unit)}
    (h : Answered calls workflowId functionId start s)
    (hrun : (recordSystem calls).run s actions = some s') :
    Answered calls workflowId functionId start s' ∧
      ∀ stored, s.state.operationOutputs.lookup (workflowId, functionId) = some stored →
        s'.state.operationOutputs.lookup (workflowId, functionId) = some stored := by
  induction actions generalizing s with
  | nil =>
    cases hrun
    exact ⟨h, fun _ hstored ↦ hstored⟩
  | cons attempt rest ih =>
    rw [System.run_cons, Option.bind_eq_some_iff] at hrun
    obtain ⟨middle, hmiddle, hrest⟩ := hrun
    obtain ⟨hanswered, hstable⟩ := answered_step hkey hone htimed h hmiddle
    obtain ⟨hfinal, hstable'⟩ := ih hanswered hrest
    exact ⟨hfinal, fun stored hstored ↦ hstable' stored (hstable stored hstored)⟩

omit [DecidableEq ι] in
theorem answered_unrecorded (hworkflow : db.hasWorkflow workflowId) :
    Answered calls workflowId functionId db (unrecorded db) := by
  refine ⟨⟨hworkflow, fun stored hstored ↦ Or.inl hstored, id⟩, ?_⟩
  intro caller answer hcaller
  cases hcaller

/-- Every row that can be stored has a completion time, and a call with that time has the result
that the row holds. -/
def TimesTell (calls : ι → RecordCall) (workflowId : String) (functionId : ℤ)
    (db : SystemDatabase) : Prop :=
  ∀ row, MayStore calls workflowId functionId db row → ∀ caller,
    row.completedAtEpochMs.isSome ∧
      (row.completedAtEpochMs = some (calls caller).completedAt → Holds (calls caller) row)

theorem agreement_of_timesTell
    (hkey : ∀ caller, (calls caller).result.key = (workflowId, functionId))
    (hone : ∀ caller, ¬((calls caller).result.error.isSome ∧ (calls caller).result.output.isSome))
    (hworkflow : db.hasWorkflow workflowId)
    (htell : TimesTell calls workflowId functionId db) : Agreement calls workflowId functionId db := by
  intro actions s hrun
  rcases isEmpty_or_nonempty ι with hempty | ⟨⟨anyone⟩⟩
  · cases actions with
    | nil =>
      cases hrun
      refine ⟨fun caller ↦ hempty.elim caller, fun caller ↦ hempty.elim caller, ?_⟩
      intro before after middle stored hactions hbefore hstored
      rw [(List.append_eq_nil_iff.mp hactions.symm).1] at hbefore
      cases hbefore
      exact hstored
    | cons attempt rest => exact hempty.elim attempt.caller
  have htimed (row : OperationOutputRow) (hrow : MayStore calls workflowId functionId db row) :=
    (htell row hrow anyone).1
  obtain ⟨hanswered, -⟩ := answered_run hkey hone htimed (answered_unrecorded hworkflow) hrun
  refine ⟨?_, ?_, ?_⟩
  · intro caller hcaller
    rcases hanswered.told caller _ hcaller with ⟨-, stored, hstored, htime⟩ | herror
    · have hmay := hanswered.recording.stored stored hstored
      exact ⟨stored, hstored, (htell stored hmay caller).2 htime⟩
    · cases herror
  · intro caller error hcaller
    rcases hanswered.told caller _ hcaller with ⟨hok, -⟩ | herror
    · cases hok
    · cases herror
      rfl
  · intro before after middle stored hactions hbefore hstored
    subst hactions
    rw [System.run_append, hbefore] at hrun
    obtain ⟨hmiddle, -⟩ := answered_run hkey hone htimed (answered_unrecorded hworkflow) hbefore
    exact (answered_run hkey hone htimed hmiddle hrun).2 stored hstored

/-- With a checkpoint already there, one acknowledged call is a run. -/
theorem tells_of_stored (hkey : ∀ caller, (calls caller).result.key = (workflowId, functionId))
    (hone : ∀ caller, ¬((calls caller).result.error.isSome ∧ (calls caller).result.output.isSome))
    (hworkflow : db.hasWorkflow workflowId) {row : OperationOutputRow}
    (hrow : db.operationOutputs.lookup (workflowId, functionId) = some row)
    (hagreement : Agreement calls workflowId functionId db) (caller : ι) :
    row.completedAtEpochMs.isSome ∧
      (row.completedAtEpochMs = some (calls caller).completedAt → Holds (calls caller) row) := by
  have hid : (calls caller).result.workflowUuid = workflowId := congrArg Prod.fst (hkey caller)
  obtain ⟨db', hkeeps, hending⟩ := recordOperationResult_of_some (hone caller)
    (by rw [hid]; exact hworkflow) (by rw [hkey caller]; exact hrow)
  have hrun : (recordSystem calls).run (unrecorded db) [⟨caller, (), .acknowledged⟩] = some
      { state := (recordOperationResult (calls caller).executorId (calls caller).result
          (calls caller).completedAt db).stateAfter db
        told := Function.update (fun _ ↦ none) caller (some (recordOperationResult
          (calls caller).executorId (calls caller).result (calls caller).completedAt db).result) } :=
    rfl
  rw [hending] at hrun
  obtain ⟨hok, herror, -⟩ := hagreement _ _ hrun
  constructor
  · by_contra hnone
    have hne : row.completedAtEpochMs ≠ some (calls caller).completedAt := by
      intro heq
      rw [heq] at hnone
      exact hnone rfl
    rw [if_neg hne, if_neg hnone] at herror
    have hraised : intOfNone = .workflowConflictID workflowId := herror caller _ (by simp)
    cases hraised
  · intro hsame
    rw [if_pos hsame] at hok
    obtain ⟨stored, hstored, hholds⟩ := hok caller (by simp)
    rw [Ending.stateAfter_returned, hkeeps.1, hrow] at hstored
    rw [Option.some.inj hstored]
    exact hholds

/-- Without one, one caller records and another with the same completion time follows. -/
theorem tells_of_missing (hkey : ∀ caller, (calls caller).result.key = (workflowId, functionId))
    (hone : ∀ caller, ¬((calls caller).result.error.isSome ∧ (calls caller).result.output.isSome))
    (hworkflow : db.hasWorkflow workflowId)
    (hnone : db.operationOutputs.lookup (workflowId, functionId) = none)
    (hagreement : Agreement calls workflowId functionId db) (i j : ι)
    (hsame : (calls i).completedAt = (calls j).completedAt) : Holds (calls j) (calls i).row := by
  by_cases hij : i = j
  · subst hij
    exact ⟨rfl, rfl, rfl⟩
  have hworkflowOf (caller : ι) {db' : SystemDatabase} (h : db'.hasWorkflow workflowId) :
      db'.hasWorkflow (calls caller).result.workflowUuid := by
    have hid : (calls caller).result.workflowUuid = workflowId := congrArg Prod.fst (hkey caller)
    rw [hid]
    exact h
  obtain ⟨first, hfirst, hinserted, hstatus⟩ := recordOperationResult_of_none (hone i)
    (hworkflowOf i hworkflow) (by rw [hkey i]; exact hnone)
  have hkeyOf : (calls j).result.key = (calls i).result.key := (hkey j).trans (hkey i).symm
  obtain ⟨second, hkeeps, hsecond⟩ := recordOperationResult_of_some (hone j)
    (hworkflowOf j (hasWorkflow_of_keeps hstatus hworkflow)) (by rw [hkeyOf]; exact hinserted)
  have htime : (calls i).row.completedAtEpochMs = some (calls j).completedAt := congrArg some hsame
  rw [if_pos htime] at hsecond
  have hrun : (recordSystem calls).run (unrecorded db)
      [⟨i, (), .acknowledged⟩, ⟨j, (), .acknowledged⟩] = some
        { state := second
          told := Function.update (Function.update (fun _ ↦ none) i (some (.ok ()))) j
            (some (.ok ())) } := by
    have hji : j ≠ i := fun h ↦ hij h.symm
    simp [recordSystem, retrySystem, unrecorded, hfirst, hsecond, Function.update_of_ne hji]
  obtain ⟨stored, hstored, hholds⟩ := (hagreement _ _ hrun).1 j (by simp)
  rw [hkeeps.1, ← hkey i, hinserted] at hstored
  rw [Option.some.inj hstored]
  exact hholds

theorem timesTell_of_agreement
    (hkey : ∀ caller, (calls caller).result.key = (workflowId, functionId))
    (hone : ∀ caller, ¬((calls caller).result.error.isSome ∧ (calls caller).result.output.isSome))
    (hworkflow : db.hasWorkflow workflowId)
    (hagreement : Agreement calls workflowId functionId db) :
    TimesTell calls workflowId functionId db := by
  intro row hrow caller
  rcases hrow with hstored | ⟨hnone, owner, rfl⟩
  · exact tells_of_stored hkey hone hworkflow hstored hagreement caller
  · refine ⟨rfl, fun hsame ↦ ?_⟩
    exact tells_of_missing hkey hone hworkflow hnone hagreement owner caller (Option.some.inj hsame)

/-- The callers agree on the checkpoint in every run exactly if a row that can be the stored one
has the completion time of a call only if it holds the result of that call. -/
theorem agreement_iff (calls : ι → RecordCall) (workflowId : String) (functionId : ℤ)
    (hkey : ∀ caller, (calls caller).result.key = (workflowId, functionId))
    (hone : ∀ caller, ¬((calls caller).result.error.isSome ∧ (calls caller).result.output.isSome))
    (db : SystemDatabase) (hworkflow : db.hasWorkflow workflowId) :
    Agreement calls workflowId functionId db ↔ TimesTell calls workflowId functionId db :=
  ⟨timesTell_of_agreement hkey hone hworkflow, agreement_of_timesTell hkey hone hworkflow⟩

end Callers

/-! ## Two executors -/

/-- A database with one running workflow. -/
def runningWorkflow : SystemDatabase :=
  { SystemDatabase.empty with
    workflowStatus := Table.empty.insertIgnore
      { workflowUuid := "wf", status := .pending, name := "f" } }

/-- Two executors that computed different outputs of one step, and their completion times. -/
def twoResults (first second : ℤ) (caller : Bool) : RecordCall where
  executorId := some (if caller then "e1" else "e2")
  result :=
    { workflowUuid := "wf", functionId := 1, functionName := "step"
      output := some (if caller then "1" else "2") }
  completedAt := if caller then first else second

theorem agreement_distinct_times : Agreement (twoResults 10 11) "wf" 1 runningWorkflow := by
  apply (agreement_iff (twoResults 10 11) "wf" 1 (fun _ ↦ rfl) (by decide) runningWorkflow
    (by decide)).mpr
  rintro row (hstored | ⟨-, owner, rfl⟩) caller
  · have hnone : runningWorkflow.operationOutputs.lookup ("wf", 1) = none := by decide
    rw [hnone] at hstored
    cases hstored
  · revert owner caller
    decide

/-- In the same millisecond, the second executor is told that its result was recorded. -/
theorem not_agreement_same_time : ¬Agreement (twoResults 10 10) "wf" 1 runningWorkflow := by
  intro h
  have hkey (caller : Bool) : (twoResults 10 10 caller).result.key = ("wf", 1) := rfl
  have hholds : Holds (twoResults 10 10 false) (twoResults 10 10 true).row :=
    tells_of_missing hkey (by decide) (by decide) (by decide) h true false rfl
  exact absurd hholds (by decide)

end DBOSModel.SysDb

import DBOSModel.SysDb.StatusOperation

/-!
# Idempotent start

Any number of callers start a workflow under one ID, each with an `owner_xid` of its own, and each
re-runs its `init_workflow` until an attempt is acknowledged. Other operations may run in between;
they neither delete the row nor insert it under the `owner_xid` of one of the callers, which is a
fresh UUID.

The stored `owner_xid` decides: no operation changes it, so the caller that inserted the row is the
only one told to execute, and its own re-runs never reach the checks that could reject them.
-/

namespace DBOSModel.SysDb

open Relational DBOSModel.Core

/-- The columns that fix which call a row belongs to. -/
def SameIdentity (row row' : WorkflowStatusRow) : Prop :=
  row'.ownerXid = row.ownerXid ∧ row'.name = row.name ∧ row'.className = row.className ∧
    row'.configName = row.configName

theorem SameIdentity.refl (row : WorkflowStatusRow) : SameIdentity row row :=
  ⟨rfl, rfl, rfl, rfl⟩

/-! ## One call -/

section Call

variable {call : InitCall} {now : ℤ} {db : SystemDatabase} {op : StatusOp}
  {row row' : WorkflowStatusRow}

/-- No operation changes the identity of a row. -/
theorem sameIdentity_of_rowChange (hchange : RowChange now db op row row') :
    SameIdentity row row' := by
  cases hchange <;> exact ⟨rfl, rfl, rfl, rfl⟩

theorem mismatch_eq_of_sameIdentity (h : SameIdentity row row') :
    call.mismatch row' = call.mismatch row := by
  simp only [InitCall.mismatch, h.2.1, h.2.2.1, h.2.2.2]

theorem mismatch_insertedRow (call : InitCall) (now : ℤ) :
    call.mismatch (call.insertedRow now) = none := by
  simp [InitCall.mismatch, InitCall.insertedRow]

/-- A row after a call is an old row of the same identity, or the inserted one. -/
theorem mem_initWorkflow (h : row' ∈ ((initWorkflow call now db).stateAfter db).statusRows) :
    (∃ row ∈ db.statusRows, row.workflowUuid = row'.workflowUuid ∧ SameIdentity row row') ∨
      ((∀ row ∈ db.statusRows, row.workflowUuid ≠ row'.workflowUuid) ∧
        row' = call.insertedRow now) := by
  unfold SystemDatabase.statusRows at h
  rcases initWorkflow_rows call now db with hsame | ⟨-, hrows⟩ | ⟨-, hrows⟩ | hinsert
  · rw [hsame] at h
    exact Or.inl ⟨row', h, rfl, .refl row'⟩
  · rw [hrows] at h
    obtain ⟨row, hrow, rfl⟩ := Table.mem_update.mp h
    refine Or.inl ⟨row, hrow, ?_⟩
    split
    · exact ⟨rfl, rfl, rfl, rfl, rfl⟩
    · exact ⟨rfl, .refl row⟩
  · rw [hrows] at h
    obtain ⟨middle, hmiddle, rfl⟩ := Table.mem_update.mp h
    obtain ⟨row, hrow, rfl⟩ := Table.mem_update.mp hmiddle
    refine Or.inl ⟨row, hrow, ?_⟩
    split <;> split <;> exact ⟨rfl, rfl, rfl, rfl, rfl⟩
  · rcases (Table.mem_insertNew hinsert).mp h with hrow | rfl
    · exact Or.inl ⟨row', hrow, rfl, .refl row'⟩
    · exact Or.inr ⟨(Table.insertNew_eq_some.mp hinsert).1, rfl⟩

/-- A call leaves every row in place, with its identity. -/
theorem exists_mem_initWorkflow (call : InitCall) (now : ℤ) (hrow : row ∈ db.statusRows) :
    ∃ row' ∈ ((initWorkflow call now db).stateAfter db).statusRows,
      row'.workflowUuid = row.workflowUuid ∧ SameIdentity row row' := by
  obtain ⟨row', hrow', hid⟩ := exists_key_initWorkflow call now hrow
  refine ⟨row', hrow', hid, ?_⟩
  rcases mem_initWorkflow hrow' with ⟨source, hsource, hkey, hsame⟩ | ⟨hfresh, -⟩
  · rw [db.workflowStatus.eq_of_key hrow hsource (hid.symm.trans hkey.symm)]
    exact hsame
  · exact absurd hid.symm (hfresh row hrow)

/-- The call on an existing workflow, by the checks it goes through. -/
theorem initWorkflow_of_mem (call : InitCall) (now : ℤ) (hrow : row ∈ db.statusRows)
    (hid : row.workflowUuid = call.status.workflowUuid) :
    (∀ message, call.mismatch row = some message →
      initWorkflow call now db = .raised (.conflictingWorkflow call.status.workflowUuid message)) ∧
    (call.mismatch row = none → call.ownerXid = row.ownerXid →
      ∃ result, (initWorkflow call now db).result = .ok result ∧ result.shouldExecute) := by
  have hlookup : db.workflowStatus.lookup call.status.workflowUuid = some row :=
    db.workflowStatus.lookup_eq_some.mpr ⟨hrow, hid⟩
  have hmatch : call.mismatch (call.conflictUpdate now row) = call.mismatch row :=
    mismatch_eq_of_sameIdentity ⟨rfl, rfl, rfl, rfl⟩
  constructor
  · intro message hmessage
    simp only [initWorkflow, InitCall.upsert, hlookup, hmatch, hmessage]
  · intro hnone howner
    -- the owner's own re-run never takes the dead-letter branch
    have hexceeds : call.exceedsRecoveryAttempts (call.conflictUpdate now row) = false := by
      have howner' : call.ownerXid = (call.conflictUpdate now row).ownerXid := howner
      simp only [InitCall.exceedsRecoveryAttempts, howner', bne_self_eq_false, Bool.and_false]
      split <;> rfl
    refine ⟨_, by simp only [initWorkflow, InitCall.upsert, hlookup, hmatch, hnone, hexceeds]; rfl, ?_⟩
    have hsame : (call.conflictUpdate now row).ownerXid = row.ownerXid := rfl
    simp [InitCall.shouldExecute, hsame, howner]

/-- The row that the upsert returns is the stored one. -/
theorem mem_of_upsert {db' : SystemDatabase} (h : call.upsert now db = .ok (row', db')) :
    row' ∈ db'.statusRows ∧ row'.workflowUuid = call.status.workflowUuid := by
  rcases upsert_eq_ok h with ⟨row, hrow, hid, rfl, rfl⟩ | ⟨-, -, rfl, rows, hinsert, rfl⟩
  · refine ⟨Table.mem_update.mpr ⟨row, hrow, by simp [hid]⟩, hid⟩
  · exact ⟨(Table.mem_insertNew hinsert).mpr (Or.inr rfl), rfl⟩

/-- A call that is told to execute, without being forced to, owns the stored row. -/
theorem owner_of_shouldExecute {result : InitResult} (hforce : call.forceExecute = false)
    (h : (initWorkflow call now db).result = .ok result) (hexecute : result.shouldExecute) :
    ∃ row ∈ ((initWorkflow call now db).stateAfter db).statusRows,
      row.workflowUuid = call.status.workflowUuid ∧ row.ownerXid = call.ownerXid := by
  unfold initWorkflow at h ⊢
  split at h
  · cases h
  · rename_i row db' hupsert
    split at h
    · cases h
    · split at h
      · cases h
      · rename_i hmatch hexceeds
        obtain ⟨hrow, hid⟩ := mem_of_upsert hupsert
        cases h
        simp only [InitCall.forceExecute, Bool.or_eq_false_iff] at hforce
        have howner : call.ownerXid = row.ownerXid := by
          simpa [InitCall.shouldExecute, hforce.1, hforce.2] using hexecute
        simp only [hexceeds, Bool.false_eq_true, if_false, Ending.stateAfter_returned]
        exact ⟨row, hrow, hid, howner.symm⟩

end Call

/-! ## Callers -/

section Callers

variable {ι : Type} [DecidableEq ι]

abbrev StartState (ι : Type) := RetryState ι SystemDatabase DBOSError InitResult

/-- The callers' attempts, interleaved with any other status operations. -/
def startSystem (calls : ι → InitCall) : System (StartState ι) (Attempt ι ℤ ⊕ StatusAction) :=
  (retrySystem fun caller now db ↦ initWorkflow (calls caller) now db).interleave
    fun action s ↦ { s with state := action.1.apply action.2 s.state }

/-- Another operation does not delete the row, and does not insert it under the `owner_xid` of
one of the callers. -/
def Undisturbed (calls : ι → InitCall) (workflowId : String) (s : StartState ι) :
    Attempt ι ℤ ⊕ StatusAction → Prop
  | .inl _ => True
  | .inr action => KeepsRow workflowId s.state action ∧
      ∀ call built, action.1 = .init call built → call.status.workflowUuid = workflowId →
        ∀ caller, call.ownerXid ≠ (calls caller).ownerXid

/-- No caller has been answered yet. -/
def unanswered (db : SystemDatabase) : StartState ι where
  state := db
  told _ := none

/-- A caller that was told to execute owns the row, and the row of an owner matches its call. -/
structure Owned (calls : ι → InitCall) (workflowId : String) (s : StartState ι) : Prop where
  told : ∀ caller result, s.told caller = some (.ok result) → result.shouldExecute →
    ∃ row ∈ s.state.statusRows, row.workflowUuid = workflowId ∧
      row.ownerXid = (calls caller).ownerXid
  owner : ∀ row ∈ s.state.statusRows, row.workflowUuid = workflowId →
    ∀ caller, row.ownerXid = (calls caller).ownerXid → (calls caller).mismatch row = none

variable {calls : ι → InitCall} {workflowId : String} {s s' : StartState ι}

omit [DecidableEq ι] in
/-- A change of the database that keeps identities keeps what callers were told true. -/
theorem told_of_survives {db' : SystemDatabase} (h : Owned calls workflowId s)
    (hsurvives : ∀ row ∈ s.state.statusRows, row.workflowUuid = workflowId →
      ∃ row' ∈ db'.statusRows, row'.workflowUuid = row.workflowUuid ∧ SameIdentity row row')
    {caller : ι} {result : InitResult} (htold : s.told caller = some (.ok result))
    (hexecute : result.shouldExecute) :
    ∃ row ∈ db'.statusRows, row.workflowUuid = workflowId ∧
      row.ownerXid = (calls caller).ownerXid := by
  obtain ⟨row, hrow, hid, howner⟩ := h.told caller result htold hexecute
  obtain ⟨row', hrow', hid', hsame⟩ := hsurvives row hrow hid
  exact ⟨row', hrow', hid'.trans hid, hsame.1.trans howner⟩

omit [DecidableEq ι] in
/-- An attempt keeps the rows of owners matching their calls. -/
theorem owner_initWorkflow (hinjective : ∀ i j, (calls i).ownerXid = (calls j).ownerXid → i = j)
    (h : Owned calls workflowId s) (caller : ι) (now : ℤ) :
    ∀ row ∈ ((initWorkflow (calls caller) now s.state).stateAfter s.state).statusRows,
      row.workflowUuid = workflowId →
        ∀ other, row.ownerXid = (calls other).ownerXid → (calls other).mismatch row = none := by
  intro row hrow hrowId other howner
  rcases mem_initWorkflow hrow with ⟨old, hold, hkey, hsame⟩ | ⟨-, rfl⟩
  · rw [mismatch_eq_of_sameIdentity hsame]
    exact h.owner old hold (hkey.trans hrowId) other (hsame.1.symm.trans howner)
  · -- the inserted row belongs to the caller that inserts it
    have hcaller : caller = other := hinjective caller other howner
    rw [← hcaller]
    exact mismatch_insertedRow (calls caller) now

theorem owned_step (hid : ∀ caller, (calls caller).status.workflowUuid = workflowId)
    (hforce : ∀ caller, (calls caller).forceExecute = false)
    (hsome : ∀ caller, (calls caller).ownerXid.isSome)
    (hinjective : ∀ i j, (calls i).ownerXid = (calls j).ownerXid → i = j)
    {action : Attempt ι ℤ ⊕ StatusAction} (h : Owned calls workflowId s)
    (hundisturbed : Undisturbed calls workflowId s action)
    (hstep : (startSystem calls).step s action = some s') : Owned calls workflowId s' := by
  cases action with
  | inl attempt =>
    have hsurvives : ∀ row ∈ s.state.statusRows, row.workflowUuid = workflowId →
        ∃ row' ∈ ((initWorkflow (calls attempt.caller) attempt.reading s.state).stateAfter
          s.state).statusRows, row'.workflowUuid = row.workflowUuid ∧ SameIdentity row row' :=
      fun row hrow _ ↦ exists_mem_initWorkflow _ _ hrow
    have howner := owner_initWorkflow hinjective h attempt.caller attempt.reading
    have hattempt : (retrySystem fun caller now db ↦ initWorkflow (calls caller) now db).step s
        attempt = some s' := hstep
    obtain ⟨-, rfl | rfl | rfl⟩ := retrySystem_step hattempt
    · exact h
    · exact ⟨fun _ _ ↦ told_of_survives h hsurvives, howner⟩
    · refine ⟨?_, howner⟩
      intro caller result htold hexecute
      by_cases hcaller : caller = attempt.caller
      · subst hcaller
        simp only [Function.update_self, Option.some.injEq] at htold
        obtain ⟨row, hrow, hrowId, hrowOwner⟩ :=
          owner_of_shouldExecute (hforce attempt.caller) htold hexecute
        exact ⟨row, hrow, hrowId.trans (hid attempt.caller), hrowOwner⟩
      · simp only [Function.update_of_ne hcaller] at htold
        exact told_of_survives h hsurvives htold hexecute
  | inr operation =>
    obtain ⟨op, now⟩ := operation
    cases hstep
    refine ⟨fun _ _ ↦ told_of_survives h ?_, ?_⟩
    · intro row hrow hrowId
      obtain ⟨row', hrow', hid', hchange⟩ :=
        exists_rowChange now hrow (hundisturbed.1 row hrow hrowId)
      exact ⟨row', hrow', hid', sameIdentity_of_rowChange hchange⟩
    · intro row hrow hrowId caller howner
      rcases mem_apply hrow with ⟨old, hold, hkey, hchange⟩ | ⟨-, hcreated⟩
      · have hsame := sameIdentity_of_rowChange hchange
        rw [mismatch_eq_of_sameIdentity hsame]
        exact h.owner old hold (hkey.trans hrowId) caller (hsame.1.symm.trans howner)
      · cases hcreated with
        | init call built => exact absurd howner (hundisturbed.2 call built rfl hrowId caller)
        | fork call entry original marked =>
          have hnone := hsome caller
          rw [← howner] at hnone
          cases hnone

/-- The name, class or configuration of the call differs from the row. -/
def Disagrees (call : InitCall) (row : WorkflowStatusRow) : Prop :=
  row.name ≠ call.status.name ∨ row.className ≠ call.status.className ∨
    row.configName ≠ call.status.configName

theorem exists_mismatch {call : InitCall} {row : WorkflowStatusRow} (h : Disagrees call row) :
    ∃ message, call.mismatch row = some message := by
  unfold InitCall.mismatch
  split
  · exact ⟨_, rfl⟩
  · split
    · exact ⟨_, rfl⟩
    · split
      · exact ⟨_, rfl⟩
      · rename_i hname hclass hconfig
        rcases h with h | h | h
        · exact absurd h hname
        · exact absurd h hclass
        · exact absurd h hconfig

/-- At most one caller is told to execute, namely the one that owns the row; every re-run of the
owner's call is told so again; and a call that disagrees with the row is rejected without effect. -/
theorem idempotent_start (calls : ι → InitCall) (workflowId : String)
    (hid : ∀ caller, (calls caller).status.workflowUuid = workflowId)
    (hforce : ∀ caller, (calls caller).forceExecute = false)
    (hsome : ∀ caller, (calls caller).ownerXid.isSome)
    (hinjective : ∀ i j, (calls i).ownerXid = (calls j).ownerXid → i = j)
    (db : SystemDatabase)
    (hfresh : ∀ row ∈ db.statusRows, row.workflowUuid = workflowId →
      ∀ caller, row.ownerXid ≠ (calls caller).ownerXid)
    (actions : List (Attempt ι ℤ ⊕ StatusAction)) (s : StartState ι)
    (hundisturbed : (startSystem calls).Along (Undisturbed calls workflowId) (unanswered db) actions)
    (hrun : (startSystem calls).run (unanswered db) actions = some s) :
    (∀ caller result, s.told caller = some (.ok result) → result.shouldExecute →
      ∃ row ∈ s.state.statusRows, row.workflowUuid = workflowId ∧
        row.ownerXid = (calls caller).ownerXid) ∧
    (∀ i j result result', s.told i = some (.ok result) → result.shouldExecute →
      s.told j = some (.ok result') → result'.shouldExecute → i = j) ∧
    (∀ row ∈ s.state.statusRows, row.workflowUuid = workflowId → ∀ caller now,
      (row.ownerXid = (calls caller).ownerXid → ∃ result,
        (initWorkflow (calls caller) now s.state).result = .ok result ∧ result.shouldExecute) ∧
      (Disagrees (calls caller) row → ∃ message,
        (initWorkflow (calls caller) now s.state).result =
          .error (.conflictingWorkflow workflowId message) ∧
        (initWorkflow (calls caller) now s.state).stateAfter s.state = s.state)) := by
  have howned : Owned calls workflowId s := by
    apply (startSystem calls).run_invariant (I := Owned calls workflowId) _ _ hundisturbed hrun
    · exact fun s action s' hs hundist hstep ↦ owned_step hid hforce hsome hinjective hs hundist hstep
    · refine ⟨?_, ?_⟩
      · intro caller result htold
        cases htold
      · intro row hrow hrowId caller howner
        exact absurd howner (hfresh row hrow hrowId caller)
  refine ⟨howned.told, ?_, ?_⟩
  · intro i j result result' hi hexecute hj hexecute'
    obtain ⟨row, hrow, hrowId, howner⟩ := howned.told i result hi hexecute
    obtain ⟨row', hrow', hrowId', howner'⟩ := howned.told j result' hj hexecute'
    have hsame := s.state.workflowStatus.eq_of_key hrow hrow' (hrowId.trans hrowId'.symm)
    rw [hsame] at howner
    exact hinjective i j (howner.symm.trans howner')
  · intro row hrow hrowId caller now
    obtain ⟨hraises, hexecutes⟩ := initWorkflow_of_mem (calls caller) now hrow
      (hrowId.trans (hid caller).symm)
    constructor
    · intro howner
      exact hexecutes (howned.owner row hrow hrowId caller howner) howner.symm
    · intro hdisagrees
      obtain ⟨message, hmessage⟩ := exists_mismatch hdisagrees
      have hraised := hraises message hmessage
      rw [hid caller] at hraised
      exact ⟨message, by rw [hraised]; rfl, by rw [hraised]; rfl⟩

end Callers

/-- Two starts of one workflow. -/
def twoStarts (caller : Bool) : InitCall where
  status := startedStatus "wf"
  ownerXid := some (if caller then "x" else "y")

/-- The first caller's commit is not acknowledged, the second caller is answered, and then the
re-run of the first. -/
def lostAcknowledgement : List (Attempt Bool ℤ ⊕ StatusAction) :=
  [.inl ⟨true, 0, .unacknowledged⟩, .inl ⟨false, 1, .acknowledged⟩, .inl ⟨true, 2, .acknowledged⟩]

theorem idempotent_start_lostAcknowledgement :
    ∃ s, (startSystem twoStarts).run (unanswered SystemDatabase.empty) lostAcknowledgement = some s ∧
      ∀ i j result result', s.told i = some (.ok result) → result.shouldExecute →
        s.told j = some (.ok result') → result'.shouldExecute → i = j := by
  obtain ⟨s, hs⟩ := Option.isSome_iff_exists.mp
    (show ((startSystem twoStarts).run (unanswered SystemDatabase.empty)
      lostAcknowledgement).isSome by decide)
  have hundisturbed : (startSystem twoStarts).Along (Undisturbed twoStarts "wf")
      (unanswered SystemDatabase.empty) lostAcknowledgement :=
    ⟨trivial, fun _ _ ↦ ⟨trivial, fun _ _ ↦ ⟨trivial, fun _ _ ↦ trivial⟩⟩⟩
  have hall := idempotent_start twoStarts "wf" (fun _ ↦ rfl) (fun _ ↦ rfl) (fun _ ↦ rfl)
    (by decide) SystemDatabase.empty (fun row hrow ↦ by cases hrow) lostAcknowledgement s
    hundisturbed hs
  exact ⟨s, hs, hall.2.1⟩

end DBOSModel.SysDb

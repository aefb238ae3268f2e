import DBOSModel.Core.Replay
import DBOSModel.SysDb.CheckpointAgreement

/-!
# Patches

`DBOS.patch` of `dbos/_dbos.py` lets new code run in new workflows while those in flight keep the old
code: it looks at the next step ID, and without a checkpoint there it records a marker and returns
`True`. So the branch is decided by one ID, although an operation may leave it free below later rows.
A `recv` or `get_event` that crashes after its timeout has written its second ID only; a `send` to a
workflow that does not exist takes an ID and writes nothing, and the workflow may catch its exception
and go on.

A workflow function is a deterministic machine: its state says which operation comes next, and what
the operation returns or raises gives the next state. A run is an execution up to any point at which
it may crash, with the exceptions it has met and the calls of `patch` it has made. An exception that
no checkpoint holds may end the execution at any time; one that the workflow goes on from belongs to
the behaviour of the workflow, so the executions that get past its ID all meet it there.
-/

namespace DBOSModel.Core

open Relational DBOSModel.SysDb

/-! ## Workflow functions and their executions -/

inductive Instruction (V σ : Type) where
  | done
  /-- The code goes on with what the operation returns or raises. -/
  | operation (o : Operation V) (next : Except DBOSError RecordedResult → σ)
  /-- `if DBOS.patch(patchName): new else: old`. -/
  | patch (patchName : String) (new old : σ)

/-- A workflow function with its states. -/
abbrev Program (V σ : Type) : Type := σ → Instruction V σ

/-- The name under which `DBOS.patch` records. -/
def patchMarker (patchName : String) : String := "DBOS.patch-" ++ patchName

/-- Where an execution has come to: the databases, the exceptions that its operations have raised, the
calls of `patch`, each with its step ID and its result, and the look-ups in `transaction_outputs`,
each with its step ID and its name. An exception of `patch` ends the execution. -/
structure Stop (α : Type) where
  db : Databases α
  errors : List DBOSError
  patches : List (ℤ × Bool)
  lookups : List (ℤ × String)

/-- The same with an operation in front. -/
def Stop.after {V α : Type} (script : OperationScript V) (calls : List (Call V)) (stop : Stop α) :
    Stop α :=
  { stop with
    errors := script.error.toList ++ stop.errors
    lookups := calls.filterMap Call.lookup ++ stop.lookups }

/-- The exception of an outcome. -/
def exceptionOf {β : Type} : Except DBOSError β → Option DBOSError
  | .ok _ => none
  | .error error => some error

section Executions

variable {V α σ : Type} (serializers : Serializers V) (workflowId : String)
  (outcomes : String → RecordedResult) (exceptions : ℤ → Option DBOSError) (program : Program V σ)

/-- The executions from a state, a counter and the databases. The code goes on from an operation with
the exception that `exceptions` gives for its first ID. -/
inductive Run : σ → ℤ → Databases α → Stop α → Prop where
  | crash (s : σ) (k : ℤ) (db : Databases α) : Run s k db ⟨db, [], [], []⟩
  /-- Inside of an operation, or after an exception in it. -/
  | inside {s : σ} {k : ℤ} {db db' : Databases α} {o : Operation V}
      {next : Except DBOSError RecordedResult → σ} {calls : List (Call V)}
      {script : OperationScript V} (hinstruction : program s = .operation o next)
      (hreaches : Script.Reaches (service serializers workflowId) (o.script workflowId outcomes k)
        db calls script db') :
      Run s k db ⟨db', script.error.toList, [], calls.filterMap Call.lookup⟩
  | operation {s : σ} {k : ℤ} {db db' : Databases α} {o : Operation V}
      {next : Except DBOSError RecordedResult → σ} {calls : List (Call V)}
      {script : OperationScript V} {outcome : Except DBOSError RecordedResult} {stop : Stop α}
      (hinstruction : program s = .operation o next)
      (hreaches : Script.Reaches (service serializers workflowId) (o.script workflowId outcomes k)
        db calls script db')
      (hended : script.outcome = some outcome)
      (hexception : 0 < o.ids → exceptionOf outcome = exceptions (k + 1))
      (hrest : Run (next outcome) (k + o.ids) db' stop) : Run s k db (stop.after script calls)
  | patchRaised {s : σ} {k : ℤ} {db : Databases α} {patchName : String} {new old : σ}
      {executorId : Option String} {startedAt completedAt : ℤ} {error : DBOSError}
      (hinstruction : program s = .patch patchName new old)
      (hpatch : SysDb.patch executorId workflowId (k + 1) (patchMarker patchName) startedAt
        completedAt db.sys = .raised error) :
      Run s k db ⟨db, [error], [], []⟩
  /-- The counter is incremented if the patch was applied. -/
  | patch {s : σ} {k : ℤ} {db db' : Databases α} {patchName : String} {new old : σ}
      {executorId : Option String} {startedAt completedAt : ℤ} {sys : SystemDatabase}
      {patched : Bool} {stop : Stop α} (hinstruction : program s = .patch patchName new old)
      (hpatch : SysDb.patch executorId workflowId (k + 1) (patchMarker patchName) startedAt
        completedAt db.sys = .returned patched sys)
      (hothers : history workflowId db' = history workflowId { db with sys := sys })
      (hrest : Run (if patched then new else old) (if patched then k + 1 else k) db' stop) :
      Run s k db { stop with patches := (k + 1, patched) :: stop.patches }

/-- The histories that executions of a workflow function leave, each crashed at any point and begun
again from what the one before has left. -/
inductive LeftBehind (α : Type) (s : σ) : History → Prop where
  | new : LeftBehind α s ⟨fun _ ↦ none, fun _ ↦ none⟩
  | crashed {db : Databases α} {stop : Stop α} (hbefore : LeftBehind α s (history workflowId db))
      (hrun : Run serializers workflowId outcomes exceptions program s 0 db stop) :
      LeftBehind α s (history workflowId stop.db)

end Executions

/-! ## Patched functions -/

section Patched

variable {V σ ν : Type}

/-- The function calls no `patch`. -/
def Program.Plain (program : Program V σ) : Prop :=
  ∀ s patchName new old, program s ≠ .patch patchName new old

/-- No operation of the function has the name. -/
def Program.Unused (program : Program V σ) (functionName : String) : Prop :=
  ∀ s o next, program s = .operation o next → ∀ k, ∀ slot ∈ o.slots k,
    slot.functionName ≠ functionName

def Instruction.map {τ : Type} (f : σ → τ) : Instruction V σ → Instruction V τ
  | .done => .done
  | .operation o next => .operation o fun result ↦ f (next result)
  | .patch patchName new old => .patch patchName (f new) (f old)

/-- The states of a patched function: those of the original code, the old branch and the new
code. -/
inductive PatchedState (σ ν : Type) where
  | code (s : σ)
  | old (s : σ)
  | new (n : ν)

/-- Replace the operation at a point of the function by `if DBOS.patch(patchName): .. else: ..`. The
new code begins in `enter` and goes back to the original code where it likes. -/
def withPatch (program : Program V σ) (point : σ → Bool) (patchName : String) (enter : σ → ν)
    (newCode : ν → Instruction V (σ ⊕ ν)) : Program V (PatchedState σ ν)
  | .code s =>
    if point s then .patch patchName (.new (enter s)) (.old s) else (program s).map .code
  | .old s => (program s).map .code
  | .new n => (newCode n).map (Sum.elim .code .new)

/-- An execution from the history `h` raises no `DBOSUnexpectedStepError`, and takes the old branch
of a patch whenever the history holds a checkpoint from the ID of the patch on. -/
def Stop.Safe {α : Type} (stop : Stop α) (h : History) : Prop :=
  (∀ error ∈ stop.errors, isUnexpectedStep error = false) ∧
    ∀ call ∈ stop.patches, (∃ functionId, call.1 ≤ functionId ∧
      (h.checkpoints functionId).isSome) → call.2 = false

end Patched

/-! ## One call of `patch` -/

/-- What a call of `patch` does to a history: it adds at most its marker, and it tells whether the
row that is then there is a marker. -/
structure Patches (k : ℤ) (marker : String) (h : History) (patched : Bool) (h' : History) : Prop where
  adds : Adds (some ⟨.system, k + 1, marker⟩) h h'
  decided : ∃ name, h'.nameAt .system (k + 1) = some name ∧ patched = decide (name = marker)

section Patching

variable {α : Type} {workflowId marker : String} {k : ℤ} {executorId : Option String}
  {startedAt completedAt : ℤ} {db : Databases α} {h h' : History} {patched : Bool}

theorem patches_of_returned {db' : Databases α} {sys : SystemDatabase}
    (hpatch : SysDb.patch executorId workflowId (k + 1) marker startedAt completedAt db.sys =
      .returned patched sys)
    (hothers : history workflowId db' = history workflowId { db with sys := sys }) :
    Patches k marker (history workflowId db) patched (history workflowId db') := by
  rw [hothers]
  unfold SysDb.patch at hpatch
  split at hpatch
  · rename_i stored hstored
    cases hpatch
    exact ⟨.refl _ _, stored.functionName,
      congrArg (Option.map OperationOutputRow.functionName) hstored, rfl⟩
  · rename_i hnone
    rw [Ending.ofExcept_eq_returned, map_eq_ok] at hpatch
    obtain ⟨after, hrecord, heq⟩ := hpatch
    cases heq
    have hrow : RecordsRow (workflowId, k + 1) marker db.sys sys :=
      recordsRow_recordOperationResultTxn hrecord
    refine ⟨adds_of_recordsRow hrow, marker, ?_, by simp⟩
    obtain ⟨stored, hstored⟩ := Option.isSome_iff_exists.mp hrow.stored
    rcases hrow.others (workflowId, k + 1) with hsame | ⟨-, -, row, hnew, hname⟩
    · exact absurd (hstored.symm.trans (hsame.trans hnone)) nofun
    · rw [← hname]
      exact congrArg (Option.map OperationOutputRow.functionName) hnew

theorem expected_of_patchRaised {error : DBOSError} {sys : SystemDatabase}
    (hpatch : SysDb.patch executorId workflowId (k + 1) marker startedAt completedAt sys =
      .raised error) : isUnexpectedStep error = false := by
  unfold SysDb.patch at hpatch
  split at hpatch
  · cases hpatch
  · cases hrecord : recordOperationResultTxn executorId _ completedAt sys with
    | ok after =>
      rw [hrecord] at hpatch
      cases hpatch
    | error raised =>
      rw [hrecord] at hpatch
      cases hpatch
      exact expected_recordOperationResultTxn error hrecord

theorem Patches.nameAt_eq (hpatches : Patches k marker h patched h') (store : Store)
    {functionId : ℤ} (hid : functionId ≠ k + 1) :
    h'.nameAt store functionId = h.nameAt store functionId := by
  rcases hpatches.adds.names store functionId with hsame | ⟨slot, hslot, -, hfunction, -, -⟩
  · exact hsame
  · cases hslot
    exact absurd hfunction.symm hid

theorem Patches.agreesAbove (hpatches : Patches k marker h patched h') :
    h.AgreesAbove h' (k + 1) := by
  intro functionId hid
  have hnames (store : Store) := hpatches.nameAt_eq store (show functionId ≠ k + 1 by omega)
  exact ⟨History.Extends.checkpoints_eq hpatches.adds.rows (hnames .system), hnames⟩

/-- Without a checkpoint at its ID the patch is applied. -/
theorem Patches.patched_of_none (hpatches : Patches k marker h patched h')
    (hnone : h.checkpoints (k + 1) = none) : patched = true := by
  obtain ⟨name, hname, hpatched⟩ := hpatches.decided
  have hfree : h.nameAt .system (k + 1) = none := by rw [History.nameAt, hnone, Option.map_none]
  rcases hpatches.adds.names .system (k + 1) with hsame | ⟨slot, hslot, -, -, -, hnew⟩
  · rw [hfree, hname] at hsame
    cases hsame
  · cases hslot
    have hmarker : name = marker := Option.some.inj (hname.symm.trans hnew)
    rw [hpatched]
    exact decide_eq_true hmarker

/-- A checkpoint at its ID decides, and nothing is written. -/
theorem Patches.of_some (hpatches : Patches k marker h patched h') {row : OperationOutputRow}
    (hrow : h.checkpoints (k + 1) = some row) :
    patched = decide (row.functionName = marker) ∧ h.AgreesAbove h' k := by
  have htaken : h.nameAt .system (k + 1) = some row.functionName := by
    rw [History.nameAt, hrow, Option.map_some]
  have hnames (store : Store) (functionId : ℤ) :
      h'.nameAt store functionId = h.nameAt store functionId := by
    rcases hpatches.adds.names store functionId with hsame | ⟨slot, hslot, rfl, rfl, hfree, -⟩
    · exact hsame
    · cases hslot
      rw [htaken] at hfree
      cases hfree
  obtain ⟨name, hname, hpatched⟩ := hpatches.decided
  rw [hnames, htaken] at hname
  constructor
  · rw [hpatched, Option.some.inj hname]
  · intro functionId _
    have hstay := History.Extends.checkpoints_eq hpatches.adds.rows (hnames .system functionId)
    exact ⟨hstay, fun store ↦ hnames store functionId⟩

/-- Above the counter that follows, nothing has changed. -/
theorem Patches.agreesAbove_counter (hpatches : Patches k marker h patched h') :
    h.AgreesAbove h' (if patched then k + 1 else k) := by
  cases hrow : h.checkpoints (k + 1) with
  | none =>
    rw [hpatches.patched_of_none hrow, if_pos rfl]
    exact hpatches.agreesAbove
  | some row =>
    have hagree := (hpatches.of_some hrow).2
    intro functionId hid
    refine hagree functionId ?_
    split at hid <;> omega

end Patching

/-! ## What every execution keeps -/

section Executions

variable {V α σ : Type} {serializers : Serializers V} {workflowId : String}
  {outcomes : String → RecordedResult} {exceptions : ℤ → Option DBOSError} {program : Program V σ}
  {s : σ} {k : ℤ} {db : Databases α} {stop : Stop α}

/-- Checkpoints stay, and nothing is added up to the counter. -/
theorem run_extends (hexpected : SerializersExpected serializers)
    (hrun : Run serializers workflowId outcomes exceptions program s k db stop) :
    (history workflowId db).Extends (history workflowId stop.db) ∧
      ∀ store functionId, functionId ≤ k → (history workflowId stop.db).nameAt store functionId =
        (history workflowId db).nameAt store functionId := by
  induction hrun with
  | crash s k db => exact ⟨fun _ _ hrow ↦ hrow, fun _ _ _ ↦ rfl⟩
  | inside hinstruction hreaches =>
    have hway := (onTrack_of_reaches hexpected hreaches).way
    exact ⟨hway.rows, fun store functionId hid ↦ hway.nameAt_eq store (Or.inl hid)⟩
  | @operation s k db db' o _ _ _ _ _ hinstruction hreaches hended hexception hrest ih =>
    have hway := (onTrack_of_reaches hexpected hreaches).way
    have hids := ids_nonneg o
    refine ⟨fun functionId row hrow ↦ ih.1 functionId row (hway.rows functionId row hrow), ?_⟩
    intro store functionId hid
    exact (ih.2 store functionId (by omega)).trans (hway.nameAt_eq store (Or.inl hid))
  | patchRaised hinstruction hpatch => exact ⟨fun _ _ hrow ↦ hrow, fun _ _ _ ↦ rfl⟩
  | @patch s k db db' patchName new old _ _ _ sys patched stop hinstruction hpatch hothers hrest ih =>
    have hpatches := patches_of_returned hpatch hothers
    refine ⟨fun functionId row hrow ↦ ih.1 functionId row (hpatches.adds.rows functionId row hrow),
      ?_⟩
    intro store functionId hid
    have hcounter : functionId ≤ if patched then k + 1 else k := by
      split <;> omega
    exact (ih.2 store functionId hcounter).trans (hpatches.nameAt_eq store (by omega))

/-- A patch is called above the counter, and it is applied if there is no checkpoint at its ID. -/
theorem run_patches (hexpected : SerializersExpected serializers)
    (hrun : Run serializers workflowId outcomes exceptions program s k db stop) :
    ∀ call ∈ stop.patches, k < call.1 ∧
      ((history workflowId db).checkpoints call.1 = none → call.2 = true) := by
  induction hrun with
  | crash s k db => exact fun _ hcall ↦ nomatch hcall
  | inside hinstruction hreaches => exact fun _ hcall ↦ nomatch hcall
  | patchRaised hinstruction hpatch => exact fun _ hcall ↦ nomatch hcall
  | @operation s k db db' o _ _ _ _ _ hinstruction hreaches hended hexception hrest ih =>
    have hagree := (onTrack_of_reaches hexpected hreaches).way.agreesAbove
    have hids := ids_nonneg o
    intro call hcall
    obtain ⟨hid, hfree⟩ := ih call hcall
    refine ⟨by omega, fun hnone ↦ hfree ?_⟩
    rw [(hagree call.1 hid).1, hnone]
  | @patch s k db db' patchName new old _ _ _ sys patched stop hinstruction hpatch hothers hrest ih =>
    have hpatches := patches_of_returned hpatch hothers
    intro call hcall
    rcases List.mem_cons.mp hcall with rfl | hcall
    · exact ⟨by simp, hpatches.patched_of_none⟩
    · obtain ⟨hid, hfree⟩ := ih call hcall
      have hsame := (hpatches.agreesAbove_counter call.1 hid).1
      refine ⟨?_, fun hnone ↦ hfree (hsame.trans hnone)⟩
      split at hid <;> omega

/-- An operation looks up in its slots. -/
theorem lookup_mem_slots (hexpected : SerializersExpected serializers) {db' : Databases α}
    {o : Operation V} {calls : List (Call V)} {script : OperationScript V}
    (hreaches : Script.Reaches (service serializers workflowId) (o.script workflowId outcomes k) db
      calls script db')
    {lookup : ℤ × String} (hlookup : lookup ∈ calls.filterMap Call.lookup) :
    ⟨.application, lookup.1, lookup.2⟩ ∈ o.slots k := by
  obtain ⟨call, hcall, hfound⟩ := List.mem_filterMap.mp hlookup
  refine (onTrack_of_reaches hexpected hreaches).slots call hcall _ ?_
  cases call <;> cases hfound
  rfl

/-- The look-ups are above the counter. -/
theorem run_lookups (hexpected : SerializersExpected serializers)
    (hrun : Run serializers workflowId outcomes exceptions program s k db stop) :
    ∀ lookup ∈ stop.lookups, k < lookup.1 := by
  induction hrun with
  | crash s k db => exact nofun
  | inside hinstruction hreaches =>
    intro lookup hlookup
    exact (slot_mem_ids (lookup_mem_slots hexpected hreaches hlookup)).1
  | @operation s k db db' o _ _ _ _ _ hinstruction hreaches hended hexception hrest ih =>
    have hids := ids_nonneg o
    intro lookup hlookup
    rcases List.mem_append.mp hlookup with hlookup | hlookup
    · exact (slot_mem_ids (lookup_mem_slots hexpected hreaches hlookup)).1
    · have hid := ih lookup hlookup
      omega
  | patchRaised hinstruction hpatch => exact nofun
  | patch hinstruction hpatch hothers hrest ih =>
    intro lookup hlookup
    have hid := ih lookup hlookup
    split at hid <;> omega

/-- The look-ups above `k` meet no output of another transaction. -/
def LookupsFit (h : History) (k : ℤ) (lookups : List (ℤ × String)) : Prop :=
  ∀ lookup ∈ lookups, k < lookup.1 → h.FitsAt ⟨.application, lookup.1, lookup.2⟩

theorem LookupsFit.congr {h h' : History} {k' : ℤ} {lookups : List (ℤ × String)}
    (hagree : h.AgreesAbove h' k') (hle : k ≤ k') (hfits : LookupsFit h k lookups) :
    LookupsFit h' k' lookups := by
  intro lookup hlookup hid name hname
  rw [(hagree lookup.1 hid).2] at hname
  exact hfits lookup hlookup (hle.trans_lt hid) name hname

/-- Above the checkpoints no execution raises `DBOSUnexpectedStepError`, unless it looks up the output
of another transaction. -/
theorem expected_of_noneAbove (hexpected : SerializersExpected serializers)
    (hrun : Run serializers workflowId outcomes exceptions program s k db stop)
    (hnone : ∀ functionId, k < functionId → (history workflowId db).checkpoints functionId = none)
    (hfits : LookupsFit (history workflowId db) k stop.lookups) :
    ∀ error ∈ stop.errors, isUnexpectedStep error = false := by
  -- the calls of an operation look at free IDs, or for the output of their own transaction
  have hcallsFit {k : ℤ} {db db' : Databases α} {o : Operation V} {calls : List (Call V)}
      {script : OperationScript V}
      (hreaches : Script.Reaches (service serializers workflowId) (o.script workflowId outcomes k) db
        calls script db')
      (hnone : ∀ functionId, k < functionId →
        (history workflowId db).checkpoints functionId = none)
      (hfits : LookupsFit (history workflowId db) k (calls.filterMap Call.lookup)) :
      ∀ error ∈ script.error.toList, isUnexpectedStep error = false := by
    have hslots := (onTrack_of_reaches hexpected hreaches).slots
    intro error herror
    refine expected_of_callsFit hexpected hreaches ?_ (Option.mem_toList.mp herror)
    intro call hcall slot hslot name hname
    have hid := (slot_mem_ids (hslots call hcall slot hslot)).1
    cases hstore : slot.store with
    | system =>
      rw [hstore, History.nameAt, hnone slot.functionId hid] at hname
      cases hname
    | application =>
      have hlookup : call.lookup = some (slot.functionId, slot.functionName) := by
        cases call <;> cases hslot <;> first | rfl | cases hstore
      rw [hstore] at hname
      exact hfits _ (List.mem_filterMap.mpr ⟨call, hcall, hlookup⟩) hid name hname
  induction hrun with
  | crash s k db => exact fun error herror ↦ absurd herror List.not_mem_nil
  | inside hinstruction hreaches => exact hcallsFit hreaches hnone hfits
  | @operation s k db db' o _ _ _ _ stop hinstruction hreaches hended hexception hrest ih =>
    have hagree := (onTrack_of_reaches hexpected hreaches).way.agreesAbove
    have hids := ids_nonneg o
    have hrestFits : LookupsFit (history workflowId db') (k + o.ids) stop.lookups :=
      LookupsFit.congr hagree (by omega) fun lookup hlookup ↦
        hfits lookup (List.mem_append_right _ hlookup)
    have hrestNone (functionId : ℤ) (hid : k + o.ids < functionId) :
        (history workflowId db').checkpoints functionId = none :=
      (hagree functionId hid).1.trans (hnone functionId (by omega))
    intro error herror
    rcases List.mem_append.mp herror with herror | herror
    · exact hcallsFit hreaches hnone (fun lookup hlookup ↦
        hfits lookup (List.mem_append_left _ hlookup)) error herror
    · exact ih hrestNone hrestFits error herror
  | patchRaised hinstruction hpatch =>
    intro error herror
    rw [List.mem_singleton.mp herror]
    exact expected_of_patchRaised hpatch
  | @patch s k db db' patchName new old _ _ _ sys patched stop hinstruction hpatch hothers hrest ih =>
    have hagree := (patches_of_returned hpatch hothers).agreesAbove_counter
    have hcounter : k ≤ if patched then k + 1 else k := by split <;> omega
    refine ih ?_ (hfits.congr hagree hcounter)
    intro functionId hid
    exact (hagree functionId hid).1.trans (hnone functionId (hcounter.trans_lt hid))

/-- Such a look-up raises `DBOSUnexpectedStepError`. -/
theorem lookupsFit_of_expected (hexpected : SerializersExpected serializers)
    (hrun : Run serializers workflowId outcomes exceptions program s k db stop)
    (herrors : ∀ error ∈ stop.errors, isUnexpectedStep error = false) :
    LookupsFit (history workflowId db) k stop.lookups := by
  have hcalls {k : ℤ} {db db' : Databases α} {o : Operation V} {calls : List (Call V)}
      {script : OperationScript V}
      (hreaches : Script.Reaches (service serializers workflowId) (o.script workflowId outcomes k) db
        calls script db')
      (herrors : ∀ error ∈ script.error.toList, isUnexpectedStep error = false) :
      LookupsFit (history workflowId db) k (calls.filterMap Call.lookup) := by
    intro lookup hlookup _ name hname
    by_contra hother
    obtain ⟨error, herror, hunexpected⟩ :=
      unexpected_of_lookup hexpected hreaches hlookup hname hother
    rw [herrors error (Option.mem_toList.mpr herror)] at hunexpected
    cases hunexpected
  induction hrun with
  | crash s k db => exact nofun
  | inside hinstruction hreaches => exact hcalls hreaches herrors
  | @operation s k db db' o _ _ _ _ stop hinstruction hreaches hended hexception hrest ih =>
    have hagree := (onTrack_of_reaches hexpected hreaches).way.agreesAbove
    have hfits := ih fun error herror ↦ herrors error (List.mem_append_right _ herror)
    intro lookup hlookup hid name hname
    rcases List.mem_append.mp hlookup with hlookup | hlookup
    · exact hcalls hreaches (fun error herror ↦ herrors error (List.mem_append_left _ herror))
        lookup hlookup hid name hname
    · have hlater := run_lookups hexpected hrest lookup hlookup
      rw [← (hagree lookup.1 hlater).2] at hname
      exact hfits lookup hlookup hlater name hname
  | patchRaised hinstruction hpatch => exact nofun
  | patch hinstruction hpatch hothers hrest ih =>
    have hagree := (patches_of_returned hpatch hothers).agreesAbove_counter
    have hfits := ih herrors
    intro lookup hlookup hid name hname
    have hlater := run_lookups hexpected hrest lookup hlookup
    rw [← (hagree lookup.1 hlater).2] at hname
    exact hfits lookup hlookup hlater name hname

/-! ## What an operation ends with -/

/-- What the code goes on with after an operation, as far as the history tells. -/
def Operation.outcomeIn (exceptions : ℤ → Option DBOSError) (outcomes : String → RecordedResult)
    (k : ℤ) (h : History) (o : Operation V) : Option (Except DBOSError RecordedResult) :=
  match if 0 < o.ids then exceptions (k + 1) else none with
  | some error => some (.error error)
  | none => (o.completed outcomes k h).map Except.ok

section Outcomes

variable {o : Operation V} {h h' : History} {outcome : Except DBOSError RecordedResult}

theorem outcomeIn_congr (hagree : h.AgreesAbove h' k) :
    o.outcomeIn exceptions outcomes k h' = o.outcomeIn exceptions outcomes k h := by
  rw [Operation.outcomeIn, Operation.outcomeIn, completed_congr hagree]

theorem outcomeIn_mono (hextends : h.Extends h')
    (houtcome : o.outcomeIn exceptions outcomes k h = some outcome) :
    o.outcomeIn exceptions outcomes k h' = some outcome := by
  unfold Operation.outcomeIn at houtcome ⊢
  split
  · rename_i error herror
    rw [herror] at houtcome
    exact houtcome
  · rename_i hnone
    rw [hnone] at houtcome
    obtain ⟨result, hresult, heq⟩ := Option.map_eq_some_iff.mp houtcome
    exact Option.map_eq_some_iff.mpr ⟨result, completed_mono hextends hresult, heq⟩

/-- Without an ID an operation makes no call. -/
theorem script_of_ids (hids : ¬0 < o.ids) :
    o.script workflowId outcomes k = .finished noResult := by
  cases o with
  | sleep seconds =>
    rw [Operation.ids] at hids
    rw [Operation.script]
    split at hids
    · exact if_pos ‹_›
    · omega
  | _ => simp [Operation.ids] at hids

theorem outcomeIn_of_reaches (hexpected : SerializersExpected serializers) {db' : Databases α}
    {calls : List (Call V)} {script : OperationScript V}
    (hreaches : Script.Reaches (service serializers workflowId) (o.script workflowId outcomes k) db
      calls script db')
    (hended : script.outcome = some outcome)
    (hexception : 0 < o.ids → exceptionOf outcome = exceptions (k + 1)) :
    o.outcomeIn exceptions outcomes k (history workflowId db') = some outcome := by
  have hfixed : (if 0 < o.ids then exceptions (k + 1) else none) = exceptionOf outcome := by
    split
    · exact (hexception ‹_›).symm
    · rw [script_of_ids ‹_›] at hreaches
      cases hreaches
      cases hended
      rfl
  rw [Operation.outcomeIn, hfixed]
  cases script with
  | finished result =>
    cases hended
    exact congrArg (Option.map Except.ok) (completed_of_reaches hexpected hreaches)
  | raised error =>
    cases hended
    rfl
  | call call next => cases hended

end Outcomes

/-! ## What crashed executions leave -/

/-- The shape of a history that a function without patches has left: the operations up to some one
are completed, and above them there are at most rows in the slots of the next one. -/
inductive Left (outcomes : String → RecordedResult) (exceptions : ℤ → Option DBOSError)
    (program : Program V σ) : σ → ℤ → History → Prop where
  | nothing {s : σ} {k : ℤ} {h : History} (hnothing : h.NothingAbove k) :
      Left outcomes exceptions program s k h
  | inside {s : σ} {k : ℤ} {h : History} {o : Operation V}
      {next : Except DBOSError RecordedResult → σ}
      (hinstruction : program s = .operation o next) (hfits : h.Fits (o.slots k))
      (honly : ∀ store functionId, k < functionId →
        (∀ slot ∈ o.slots k, slot.store = store → slot.functionId ≠ functionId) →
          h.nameAt store functionId = none) :
      Left outcomes exceptions program s k h
  | past {s : σ} {k : ℤ} {h : History} {o : Operation V}
      {next : Except DBOSError RecordedResult → σ} {outcome : Except DBOSError RecordedResult}
      (hinstruction : program s = .operation o next) (hfits : h.Fits (o.slots k))
      (houtcome : o.outcomeIn exceptions outcomes k h = some outcome)
      (hrest : Left outcomes exceptions program (next outcome) (k + o.ids) h) :
      Left outcomes exceptions program s k h

variable {o : Operation V} {next : Except DBOSError RecordedResult → σ} {h h' : History}

theorem left_congr (hagree : h.AgreesAbove h' k) (hleft : Left outcomes exceptions program s k h) :
    Left outcomes exceptions program s k h' := by
  induction hleft with
  | nothing hnothing => exact .nothing (hagree.nothingAbove hnothing)
  | inside hinstruction hfits honly =>
    refine .inside hinstruction (hagree.fits hfits) ?_
    intro store functionId hid hslots
    exact ((hagree functionId hid).2 store).trans (honly store functionId hid hslots)
  | @past s k h o next outcome hinstruction hfits houtcome hrest ih =>
    have hids := ids_nonneg o
    exact .past hinstruction (hagree.fits hfits) ((outcomeIn_congr hagree).trans houtcome)
      (ih (hagree.mono (by omega)))

/-- The rows of the next operation have its names. -/
theorem Left.fits (hleft : Left outcomes exceptions program s k h)
    (hinstruction : program s = .operation o next) : h.Fits (o.slots k) := by
  cases hleft with
  | nothing hnothing => exact fits_of_nothingAbove hnothing
  | inside hinstruction' hfits honly =>
    rw [hinstruction] at hinstruction'
    cases hinstruction'
    exact hfits
  | past hinstruction' hfits houtcome hrest =>
    rw [hinstruction] at hinstruction'
    cases hinstruction'
    exact hfits

/-- The next operation has been under way. -/
theorem Left.underWay (hleft : Left outcomes exceptions program s k h)
    (hinstruction : program s = .operation o next) (hway : UnderWay o k h h') :
    Left outcomes exceptions program s k h' := by
  have hfits : h'.Fits (o.slots k) := fun slot hslot ↦
    hway.fits slot hslot (hleft.fits hinstruction slot hslot)
  cases hleft with
  | nothing hnothing =>
    refine .inside hinstruction hfits ?_
    intro store functionId hid hslots
    rw [hway.outside store functionId hslots, hnothing store functionId hid]
  | inside hinstruction' _ honly =>
    rw [hinstruction] at hinstruction'
    cases hinstruction'
    refine .inside hinstruction hfits ?_
    intro store functionId hid hslots
    rw [hway.outside store functionId hslots, honly store functionId hid hslots]
  | past hinstruction' _ houtcome hrest =>
    rw [hinstruction] at hinstruction'
    cases hinstruction'
    exact .past hinstruction hfits (outcomeIn_mono hway.rows houtcome)
      (left_congr hway.agreesAbove hrest)

/-- An operation that has ended gives the way to the next one. -/
theorem Left.afterOperation (hleft : Left outcomes exceptions program s k h)
    (hinstruction : program s = .operation o next) {outcome : Except DBOSError RecordedResult}
    (houtcome : o.outcomeIn exceptions outcomes k h = some outcome) :
    Left outcomes exceptions program (next outcome) (k + o.ids) h := by
  have hids := ids_nonneg o
  cases hleft with
  | nothing hnothing => exact .nothing (hnothing.mono (by omega))
  | inside hinstruction' _ honly =>
    rw [hinstruction] at hinstruction'
    cases hinstruction'
    refine .nothing ?_
    intro store functionId hid
    refine honly store functionId (by omega) ?_
    intro slot hslot _ hfunction
    have hrange := slot_mem_ids hslot
    omega
  | past hinstruction' _ houtcome' hrest =>
    rw [hinstruction] at hinstruction'
    cases hinstruction'
    rw [houtcome] at houtcome'
    cases houtcome'
    exact hrest

/-- An execution of a function without patches keeps the shape. -/
theorem left_run (hexpected : SerializersExpected serializers) (hplain : program.Plain)
    (hrun : Run serializers workflowId outcomes exceptions program s k db stop)
    (hleft : Left outcomes exceptions program s k (history workflowId db)) :
    Left outcomes exceptions program s k (history workflowId stop.db) := by
  induction hrun with
  | crash s k db => exact hleft
  | inside hinstruction hreaches =>
    exact hleft.underWay hinstruction (onTrack_of_reaches hexpected hreaches).way
  | operation hinstruction hreaches hended hexception hrest ih =>
    have hway := (onTrack_of_reaches hexpected hreaches).way
    have houtcome := outcomeIn_of_reaches hexpected hreaches hended hexception
    have hafter := hleft.underWay hinstruction hway
    obtain ⟨hextends, hbelow⟩ := run_extends hexpected hrest
    refine .past hinstruction ?_ (outcomeIn_mono hextends houtcome)
      (ih (hafter.afterOperation hinstruction houtcome))
    intro slot hslot name hname
    have hsame := hbelow slot.store slot.functionId (slot_mem_ids hslot).2
    exact hafter.fits hinstruction slot hslot name (hsame.symm.trans hname)
  | patchRaised hinstruction hpatch => exact absurd hinstruction (hplain _ _ _ _)
  | patch hinstruction hpatch hothers hrest ih => exact absurd hinstruction (hplain _ _ _ _)

theorem left_of_leftBehind (hexpected : SerializersExpected serializers) (hplain : program.Plain)
    (hleft : LeftBehind serializers workflowId outcomes exceptions program α s h) :
    Left outcomes exceptions program s 0 h := by
  induction hleft with
  | new =>
    refine .nothing ?_
    intro store functionId _
    cases store with
    | system => rfl
    | application => rfl
  | crashed hbefore hrun ih => exact left_run hexpected hplain hrun ih

/-- The next checkpoint has the name of an operation. -/
theorem Left.name_ne {marker : String} (hunused : program.Unused marker)
    (hleft : Left outcomes exceptions program s k h) {row : OperationOutputRow}
    (hrow : h.checkpoints (k + 1) = some row) : row.functionName ≠ marker := by
  have hname : h.nameAt .system (k + 1) = some row.functionName := by
    rw [History.nameAt, hrow, Option.map_some]
  induction hleft with
  | nothing hnothing =>
    rw [hnothing .system _ (by omega)] at hname
    cases hname
  | @inside s k h o next hinstruction hfits honly =>
    by_contra hmarker
    have hnone := honly .system (k + 1) (by omega) ?_
    · rw [hnone] at hname
      cases hname
    · rintro slot hslot hstore hfunction
      refine hunused s o next hinstruction k slot hslot ?_
      rw [← hmarker]
      refine (hfits slot hslot row.functionName ?_).symm
      rw [hstore, hfunction, hname]
  | @past s k h o next outcome hinstruction hfits houtcome hrest ih =>
    have hids := ids_nonneg o
    rcases hids.eq_or_lt with hzero | hpos
    · rw [← hzero, add_zero] at ih
      exact ih hrow hname
    · obtain ⟨slot, hslot, hstore, hfunction⟩ := exists_slot o k hpos
      have hsame := hfits slot hslot row.functionName (by rw [hstore, hfunction, hname])
      rw [hsame]
      exact hunused s o next hinstruction k slot hslot

/-! ## The same branch again -/

/-- An execution that finds the checkpoints of an earlier one goes the same way: of their calls of
`patch`, those of one continue those of the other. -/
theorem samePatches (hexpected : SerializersExpected serializers) {db' : Databases α}
    {replay : Stop α} (hrun : Run serializers workflowId outcomes exceptions program s k db stop)
    (hreplay : Run serializers workflowId outcomes exceptions program s k db' replay)
    (hfound : (history workflowId stop.db).Extends (history workflowId db')) :
    stop.patches <+: replay.patches ∨ replay.patches <+: stop.patches := by
  induction hrun generalizing db' replay with
  | crash s k db => exact Or.inl List.nil_prefix
  | inside hinstruction hreaches => exact Or.inl List.nil_prefix
  | patchRaised hinstruction hpatch => exact Or.inl List.nil_prefix
  | operation hinstruction hreaches hended hexception hrest ih =>
    have houtcome := outcomeIn_mono (fun functionId row hrow ↦ hfound functionId row
      ((run_extends hexpected hrest).1 functionId row hrow))
      (outcomeIn_of_reaches hexpected hreaches hended hexception)
    cases hreplay with
    | crash => exact Or.inr List.nil_prefix
    | inside => exact Or.inr List.nil_prefix
    | patchRaised hinstruction' _ =>
      rw [hinstruction] at hinstruction'
      cases hinstruction'
    | patch hinstruction' _ _ _ =>
      rw [hinstruction] at hinstruction'
      cases hinstruction'
    | operation hinstruction' hreaches' hended' hexception' hrest' =>
      rw [hinstruction] at hinstruction'
      cases hinstruction'
      have hway := (onTrack_of_reaches hexpected hreaches').way
      have hagain := outcomeIn_mono hway.rows houtcome
      rw [outcomeIn_of_reaches hexpected hreaches' hended' hexception'] at hagain
      cases hagain
      have hcontinue := ih hrest' fun functionId row hrow ↦
        hway.rows functionId row (hfound functionId row hrow)
      exact hcontinue
  | @patch s k db after patchName new old _ _ _ sys patched stop hinstruction hpatch hothers hrest
      ih =>
    have hpatches := patches_of_returned hpatch hothers
    obtain ⟨name, hname, hpatched⟩ := hpatches.decided
    obtain ⟨row, hrow, hrowName⟩ := Option.map_eq_some_iff.mp hname
    have hrow' := hfound (k + 1) row ((run_extends hexpected hrest).1 (k + 1) row hrow)
    cases hreplay with
    | crash => exact Or.inr List.nil_prefix
    | inside => exact Or.inr List.nil_prefix
    | patchRaised => exact Or.inr List.nil_prefix
    | operation hinstruction' _ _ =>
      rw [hinstruction] at hinstruction'
      cases hinstruction'
    | @patch _ _ _ after' _ _ _ _ _ _ _ patched' replay hinstruction' hpatch' hothers' hrest' =>
      rw [hinstruction] at hinstruction'
      cases hinstruction'
      have hpatches' := patches_of_returned hpatch' hothers'
      have hsame : patched' = patched := by
        rw [(hpatches'.of_some hrow').1, hpatched, hrowName]
      subst hsame
      have hcontinue := ih hrest' fun functionId row hrow ↦
        hpatches'.adds.rows functionId row (hfound functionId row hrow)
      exact hcontinue.imp (List.prefix_cons_inj _).mpr (List.prefix_cons_inj _).mpr

end Executions

/-! ## Replays of a patched function -/

section Replays

variable {V α σ τ : Type} {serializers : Serializers V} {workflowId : String}
  {outcomes : String → RecordedResult} {exceptions replayed : ℤ → Option DBOSError}
  {program : Program V σ} {patched : Program V τ}

/-- The two functions do the same but for calls of `patch` with one name, whose old branch goes on
as the original. -/
def PatchedBy (patchName : String) (program : Program V σ) (patched : Program V τ)
    (related : σ → τ → Prop) : Prop :=
  ∀ s t, related s t →
    (program s = .done ∧ patched t = .done) ∨
    (∃ o next next', program s = .operation o next ∧ patched t = .operation o next' ∧
      ∀ outcome, related (next outcome) (next' outcome)) ∨
    ∃ new old, patched t = .patch patchName new old ∧ related s old

variable {patchName : String} {related : σ → τ → Prop} {s : σ} {t : τ} {k : ℤ} {db : Databases α}
  {replay : Stop α}

/-- The related operation. -/
theorem PatchedBy.operation (hpatched : PatchedBy patchName program patched related)
    (hrelated : related s t) {o : Operation V} {next' : Except DBOSError RecordedResult → τ}
    (hinstruction : patched t = .operation o next') :
    ∃ next, program s = .operation o next ∧ ∀ outcome, related (next outcome) (next' outcome) := by
  rcases hpatched s t hrelated with ⟨-, hdone⟩ | ⟨o', next, next'', hprogram, hoperation, hnext⟩ |
    ⟨new, old, hpatch, -⟩
  · rw [hinstruction] at hdone
    cases hdone
  · rw [hinstruction] at hoperation
    cases hoperation
    exact ⟨next, hprogram, hnext⟩
  · rw [hinstruction] at hpatch
    cases hpatch

/-- The old branch of a patch. -/
theorem PatchedBy.old (hpatched : PatchedBy patchName program patched related)
    (hrelated : related s t) {name : String} {new old : τ}
    (hinstruction : patched t = .patch name new old) : name = patchName ∧ related s old := by
  rcases hpatched s t hrelated with ⟨-, hdone⟩ | ⟨o', next, next'', -, hoperation, -⟩ |
    ⟨new', old', hpatch, hold⟩
  · rw [hinstruction] at hdone
    cases hdone
  · rw [hinstruction] at hoperation
    cases hoperation
  · rw [hinstruction] at hpatch
    cases hpatch
    exact ⟨rfl, hold⟩

/-- Where a patch is called at a free ID, no later ID has a checkpoint, or the output of another
transaction than the one that the replay looks up there. -/
def NoGap (h : History) (replay : Stop α) : Prop :=
  ∀ call ∈ replay.patches, h.checkpoints call.1 = none →
    (∀ functionId, call.1 < functionId → h.checkpoints functionId = none) ∧
      LookupsFit h call.1 replay.lookups

/-- Up to the first patch that is applied, a replay goes on with the exceptions of the executions that
it replays. -/
def SameExceptions (exceptions replayed : ℤ → Option DBOSError) (calls : List (ℤ × Bool)) : Prop :=
  ∀ functionId, (∀ call ∈ calls, call.2 = true → functionId < call.1) →
    replayed functionId = exceptions functionId

/-- Calls above a counter see the history above it only. -/
theorem NoGap.congr {h h' : History} (hagree : h.AgreesAbove h' k)
    (habove : ∀ call ∈ replay.patches, k < call.1) (hgap : NoGap h replay) : NoGap h' replay := by
  intro call hcall hnone
  have hid := habove call hcall
  rw [(hagree call.1 hid).1] at hnone
  obtain ⟨hfree, hfits⟩ := hgap call hcall hnone
  refine ⟨?_, hfits.congr (hagree.mono hid.le) le_rfl⟩
  intro functionId hlater
  exact (hagree functionId (hid.trans hlater)).1.trans (hfree functionId hlater)

theorem Stop.Safe.congr {h h' : History} (hagree : h.AgreesAbove h' k)
    (habove : ∀ call ∈ replay.patches, k < call.1) (hsafe : replay.Safe h') : replay.Safe h := by
  refine ⟨hsafe.1, ?_⟩
  rintro call hcall ⟨functionId, hid, hsome⟩
  refine hsafe.2 call hcall ⟨functionId, hid, ?_⟩
  rw [(hagree functionId ((habove call hcall).trans_le hid)).1]
  exact hsome

/-- The operation that ends first in a replay ends as in the executions before. -/
theorem outcomeIn_of_replay (hexpected : SerializersExpected serializers) {db' : Databases α}
    {o : Operation V} {calls : List (Call V)} {script : OperationScript V}
    {outcome : Except DBOSError RecordedResult} {t' : τ}
    (hreaches : Script.Reaches (service serializers workflowId) (o.script workflowId outcomes k) db
      calls script db')
    (hended : script.outcome = some outcome)
    (hexception : 0 < o.ids → exceptionOf outcome = replayed (k + 1))
    (hrest : Run serializers workflowId outcomes replayed patched t' (k + o.ids) db' replay)
    (hsame : SameExceptions exceptions replayed replay.patches) :
    o.outcomeIn exceptions outcomes k (history workflowId db') = some outcome := by
  refine outcomeIn_of_reaches hexpected hreaches hended ?_
  intro hids
  rw [hexception hids]
  apply hsame
  intro call hcall _
  have hid := (run_patches hexpected hrest call hcall).1
  omega

/-- A replay without such a call is safe. -/
theorem safe_of_noGap (hexpected : SerializersExpected serializers)
    (hpatched : PatchedBy patchName program patched related)
    (hunused : program.Unused (patchMarker patchName))
    (hrun : Run serializers workflowId outcomes replayed patched t k db replay) (hrelated : related s t)
    (hleft : Left outcomes exceptions program s k (history workflowId db))
    (hsame : SameExceptions exceptions replayed replay.patches)
    (hgap : NoGap (history workflowId db) replay) : replay.Safe (history workflowId db) := by
  induction hrun generalizing s with
  | crash t k db => exact ⟨nofun, nofun⟩
  | inside hinstruction hreaches =>
    obtain ⟨next, hprogram, -⟩ := hpatched.operation hrelated hinstruction
    refine ⟨?_, nofun⟩
    intro error herror
    exact expected_of_fits hexpected hreaches (hleft.fits hprogram) (Option.mem_toList.mp herror)
  | patchRaised hinstruction hpatch =>
    refine ⟨?_, nofun⟩
    intro error herror
    rw [List.mem_singleton.mp herror]
    exact expected_of_patchRaised hpatch
  | @operation t k db db' o _ _ script _ stop hinstruction hreaches hended hexception hrest ih =>
    obtain ⟨next, hprogram, hnext⟩ := hpatched.operation hrelated hinstruction
    have hway := (onTrack_of_reaches hexpected hreaches).way
    have hagree := hway.agreesAbove
    have hids := ids_nonneg o
    have hafter := (hleft.underWay hprogram hway).afterOperation hprogram
      (outcomeIn_of_replay hexpected hreaches hended hexception hrest hsame)
    have habove := fun call hcall ↦ (run_patches hexpected hrest call hcall).1
    have hrestGap : NoGap (history workflowId db) stop := by
      intro call hcall hnone
      obtain ⟨hfree, hfits⟩ := hgap call hcall hnone
      exact ⟨hfree, fun lookup hlookup ↦ hfits lookup (List.mem_append_right _ hlookup)⟩
    obtain ⟨herrors, hold⟩ :=
      (ih (hnext _) hafter hsame (hrestGap.congr hagree habove)).congr hagree habove
    refine ⟨?_, hold⟩
    intro error herror
    rcases List.mem_append.mp herror with herror | herror
    · exact expected_of_fits hexpected hreaches (hleft.fits hprogram) (Option.mem_toList.mp herror)
    · exact herrors error herror
  | @patch t k db db' name new old _ _ _ sys applied stop hinstruction hpatch hothers hrest ih =>
    obtain ⟨rfl, hrelatedOld⟩ := hpatched.old hrelated hinstruction
    have hpatches := patches_of_returned hpatch hothers
    have habove := fun call hcall ↦ (run_patches hexpected hrest call hcall).1
    cases hrow : (history workflowId db).checkpoints (k + 1) with
    | some row =>
      -- the row belongs to an operation of the original code
      obtain ⟨happlied, hagree⟩ := hpatches.of_some hrow
      rw [decide_eq_false (hleft.name_ne hunused hrow)] at happlied
      subst happlied
      have hcounter : ∀ call ∈ stop.patches, k < call.1 := habove
      have hrestGap : NoGap (history workflowId db) stop :=
        fun call hcall ↦ hgap call (List.mem_cons_of_mem _ hcall)
      have hrestSame : SameExceptions exceptions replayed stop.patches := by
        intro functionId hid
        apply hsame
        intro call hcall happlied
        rcases List.mem_cons.mp hcall with rfl | hcall
        · cases happlied
        · exact hid call hcall happlied
      have hsafe := ih hrelatedOld (left_congr hagree hleft) hrestSame
        (hrestGap.congr hagree hcounter)
      obtain ⟨herrors, hold⟩ := hsafe.congr hagree hcounter
      refine ⟨herrors, ?_⟩
      intro call hcall hlater
      rcases List.mem_cons.mp hcall with rfl | hcall
      · rfl
      · exact hold call hcall hlater
    | none =>
      -- nothing is there yet, and nothing comes later
      have happlied := hpatches.patched_of_none hrow
      subst happlied
      obtain ⟨hfree, hfits⟩ := hgap (k + 1, true) List.mem_cons_self hrow
      have hagree := hpatches.agreesAbove
      have hrestNone (functionId : ℤ) (hid : k + 1 < functionId) :
          (history workflowId db').checkpoints functionId = none :=
        (hagree functionId hid).1.trans (hfree functionId hid)
      have herrors := expected_of_noneAbove hexpected hrest hrestNone (hfits.congr hagree le_rfl)
      refine ⟨herrors, ?_⟩
      rintro call hcall ⟨functionId, hid, hsome⟩
      have hcounter : k + 1 ≤ call.1 := by
        rcases List.mem_cons.mp hcall with rfl | hcall
        · exact le_rfl
        · exact (habove call hcall).le
      rcases (hcounter.trans hid).eq_or_lt with rfl | hlater
      · rw [hrow] at hsome
        cases hsome
      · rw [hfree functionId hlater] at hsome
        cases hsome

/-- A safe replay makes no such call. -/
theorem noGap_of_safe (hexpected : SerializersExpected serializers)
    (hrun : Run serializers workflowId outcomes replayed patched t k db replay)
    (hsafe : replay.Safe (history workflowId db)) : NoGap (history workflowId db) replay := by
  intro call hcall hnone
  obtain ⟨hid, happlied⟩ := run_patches hexpected hrun call hcall
  constructor
  · intro functionId hlater
    by_contra hsome
    have hold := hsafe.2 call hcall ⟨functionId, hlater.le, Option.isSome_iff_ne_none.mpr hsome⟩
    rw [happlied hnone] at hold
    cases hold
  · intro lookup hlookup hlater
    exact lookupsFit_of_expected hexpected hrun hsafe.1 lookup hlookup (hid.trans hlater)

/-- The original code and its patched form. -/
theorem patchedBy_withPatch {ν : Type} (hplain : program.Plain) (point : σ → Bool)
    (patchName : String) (enter : σ → ν) (newCode : ν → Instruction V (σ ⊕ ν)) :
    PatchedBy patchName program (withPatch program point patchName enter newCode)
      (fun s t ↦ t = .code s ∨ t = .old s) := by
  have hsame (s : σ) (t : PatchedState σ ν)
      (hinstruction : withPatch program point patchName enter newCode t = (program s).map .code) :
      (program s = .done ∧ withPatch program point patchName enter newCode t = .done) ∨
        ∃ o next next', program s = .operation o next ∧
          withPatch program point patchName enter newCode t = .operation o next' ∧
            ∀ outcome, next' outcome = .code (next outcome) ∨ next' outcome = .old (next outcome) := by
    rw [hinstruction]
    cases hprogram : program s with
    | done => exact Or.inl ⟨rfl, rfl⟩
    | operation o next => exact Or.inr ⟨o, next, _, rfl, rfl, fun _ ↦ Or.inl rfl⟩
    | patch name new old => exact absurd hprogram (hplain s name new old)
  rintro s t (rfl | rfl)
  · cases hpoint : point s with
    | true =>
      refine Or.inr (Or.inr ⟨.new (enter s), .old s, ?_, Or.inr rfl⟩)
      rw [withPatch, hpoint, if_pos rfl]
    | false =>
      refine (hsame s (.code s) ?_).imp_right Or.inl
      rw [withPatch, hpoint, if_neg Bool.false_ne_true]
  · exact (hsame s (.old s) rfl).imp_right Or.inl

end Replays

/-! ## A workflow in flight -/

section InFlight

/-- Values that are given by their JSON texts. -/
def jsonTexts : Serializers String where
  pyNone := "null"
  portable := ⟨portableName, .ok, .ok⟩
  native := ⟨defaultName, .ok, .ok⟩
  configured := ⟨portableName, .ok, .ok⟩
  portable_name := rfl
  native_name := rfl

theorem expected_jsonTexts : SerializersExpected jsonTexts where
  portable_serialize := expected_ok
  portable_conflict _ _ := nofun
  portable_deserialize := expected_ok
  native_serialize := expected_ok
  native_deserialize := expected_ok
  configured_serialize := expected_ok
  configured_deserialize := expected_ok

/-- A function that makes one call. -/
def oneOperation (o : Operation String) : Program String Bool
  | false => .operation o fun _ ↦ true
  | true => .done

/-- The call is replaced: the new code is a step. -/
def patchedOperation (o : Operation String) : Program String (PatchedState Bool Unit) :=
  withPatch (oneOperation o) (fun s ↦ !s) "v2" (fun _ ↦ ()) fun _ ↦
    .operation (.step "new_step") fun _ ↦ .inl true

/-- A message to a workflow that does not exist. -/
def sendToNobody : Operation String :=
  .send [{ destinationId := "nobody", message := "null" }] .default false false

/-- A function that catches the exceptions of a `send` and runs a step. -/
def sendThenStep : Program String ℕ
  | 0 => .operation sendToNobody fun _ ↦ 1
  | 1 => .operation (.step "step") fun _ ↦ 2
  | _ => .done

/-- The `send` is replaced by a step. -/
def patchedSend : Program String (PatchedState ℕ Unit) :=
  withPatch sendThenStep (fun s ↦ s = 0) "v2" (fun _ ↦ ()) fun _ ↦
    .operation (.step "new_step") fun _ ↦ .inl 1

def unknownDestination : DBOSError := .nonExistentWorkflow "`send` destination" "nobody"

/-- The `send` has the first ID. -/
def sendRaises (functionId : ℤ) : Option DBOSError :=
  if functionId = 1 then some unknownDestination else none

def noException (_ : ℤ) : Option DBOSError := none

theorem plain_oneOperation (o : Operation String) : (oneOperation o).Plain := by
  intro s patchName new old h
  cases s with
  | false => cases h
  | true => cases h

theorem unused_oneOperation {o : Operation String} {functionName : String}
    (hslots : ∀ k, ∀ slot ∈ o.slots k, slot.functionName ≠ functionName) :
    (oneOperation o).Unused functionName := by
  intro s o' next h
  cases s with
  | false =>
    cases h
    exact hslots
  | true => cases h

/-- What an execution reads: a step returns 1, and a timeout ends after a minute. -/
def readings (completedAt : ℤ) : Input String Unit where
  executorId := none
  now := completedAt
  startTime := completedAt
  completedAt := completedAt
  uuids _ := ""
  endTime := "1700000060.0"
  outcome := ⟨some "1", none, some portableName, none⟩
  data := ()
  initialized := .ok none
  initialized_expected := nofun
  polled := SystemDatabase.empty

/-- A running workflow without checkpoints. -/
def inFlight : Databases Unit := ⟨runningWorkflow, ⟨(), Table.empty⟩⟩

def noOutcomes (_ : String) : RecordedResult := noResult

/-- The databases after one more call. -/
def afterCall (db : Databases Unit) (call : Call String) (completedAt : ℤ) : Databases Unit :=
  (call.attempt jsonTexts "wf" (readings completedAt) db).stateAfter db

/-- A call as the readings have it. -/
theorem service_attempt (db : Databases Unit) (call : Call String) (completedAt : ℤ) :
    service jsonTexts "wf" call db
      (call.attempt jsonTexts "wf" (readings completedAt) db).result
      (afterCall db call completedAt) :=
  ⟨readings completedAt, rfl, rfl⟩

/-- Crashed after the timeout of `recv` was recorded. -/
def afterTimeout : Databases Unit := afterCall inFlight (.sleep 2) 10

theorem leftBehind_afterTimeout :
    LeftBehind jsonTexts "wf" noOutcomes noException (oneOperation (.recv none)) Unit false
      (history "wf" afterTimeout) := by
  have hnew : LeftBehind jsonTexts "wf" noOutcomes noException (oneOperation (.recv none)) Unit false
      (history "wf" inFlight) := .new
  have hcheck (functionId : ℤ) (functionName : String) : service jsonTexts "wf"
      (.check functionId functionName) inFlight (.ok none) inFlight := ⟨readings 10, rfl, rfl⟩
  have hreaches : Script.Reaches (service jsonTexts "wf")
      ((Operation.recv none).script "wf" noOutcomes 0) inFlight
      [.check 1 recvName, .check 2 sleepName, .sleep 2]
      (.call (.recvConsume 1 none) (Script.onOk .finished)) afterTimeout :=
    .call (hcheck 1 recvName) (.call (hcheck 2 sleepName)
      (.call (service_attempt inFlight (.sleep 2) 10) (.stop _ _)))
  exact .crashed hnew (.inside rfl hreaches)

/-- Crashed after the step was recorded. -/
def afterSendAndStep : Databases Unit := afterCall inFlight (.record 2 "step"
  ⟨some "1", none, some portableName, none⟩) 10

theorem leftBehind_afterSendAndStep :
    LeftBehind jsonTexts "wf" noOutcomes sendRaises sendThenStep Unit 0
      (history "wf" afterSendAndStep) := by
  have hnew : LeftBehind jsonTexts "wf" noOutcomes sendRaises sendThenStep Unit 0
      (history "wf" inFlight) := .new
  have hsend : Script.Reaches (service jsonTexts "wf") (sendToNobody.script "wf" noOutcomes 0)
      inFlight [.sendBulk 1 [{ destinationId := "nobody", message := "null" }] .default false false]
      (.raised unknownDestination) inFlight :=
    .call ⟨readings 10, rfl, rfl⟩ (.stop _ _)
  have hcheck : service jsonTexts "wf" (.check 2 "step") inFlight (.ok none) inFlight :=
    ⟨readings 10, rfl, rfl⟩
  have hinvoke : service jsonTexts "wf" .invoke inFlight (.ok (readings 10).outcome) inFlight :=
    ⟨readings 10, rfl, rfl⟩
  have hrecord : service jsonTexts "wf" (.record 2 "step" (readings 10).outcome) inFlight
      (.ok (readings 10).outcome) afterSendAndStep := ⟨readings 10, rfl, rfl⟩
  have hstep : Script.Reaches (service jsonTexts "wf")
      ((Operation.step "step").script "wf" noOutcomes 1) inFlight
      [.check 2 "step", .invoke, .record 2 "step" (readings 10).outcome]
      (.finished (readings 10).outcome) afterSendAndStep :=
    .call hcheck (.call hinvoke (.call hrecord (.stop _ _)))
  exact .crashed hnew (.operation rfl hsend rfl (fun _ ↦ rfl) (.inside rfl hstep))

/-- The databases with the marker of the patch. -/
def withMarker (db : Databases Unit) : Databases Unit :=
  { db with
    sys := (SysDb.patch none "wf" 1 (patchMarker "v2") 20 20 db.sys).stateAfter db.sys }

/-- The replay in which the new code meets the row of another operation. -/
def meetsRow (db : Databases Unit) (recordedName : String) : Stop Unit :=
  ⟨withMarker db, [.unexpectedStep "wf" 2 "new_step" recordedName], [(1, true)], []⟩

theorem run_meetsRow {τ : Type} {program : Program String τ} {exceptions : ℤ → Option DBOSError}
    {t new old : τ} {next : Except DBOSError RecordedResult → τ} {db : Databases Unit}
    {recordedName : String} (hcode : program t = .patch "v2" new old)
    (hnew : program new = .operation (.step "new_step") next)
    (hpatch : SysDb.patch none "wf" (0 + 1) (patchMarker "v2") 20 20 db.sys =
      .returned true (withMarker db).sys)
    (hmeets : checkOperationExecutionTxn "wf" 2 "new_step" (withMarker db).sys =
      .error (.unexpectedStep "wf" 2 "new_step" recordedName)) :
    Run jsonTexts "wf" noOutcomes exceptions program t 0 db (meetsRow db recordedName) := by
  have hcheck : service jsonTexts "wf" (.check 2 "new_step") (withMarker db)
      (.error (.unexpectedStep "wf" 2 "new_step" recordedName)) (withMarker db) := by
    have hattempt : (Call.check 2 "new_step").attempt jsonTexts "wf" (readings 20) (withMarker db) =
        .raised (.unexpectedStep "wf" 2 "new_step" recordedName) := by
      rw [Call.attempt, hmeets]
    refine ⟨readings 20, ?_, ?_⟩
    · rw [hattempt]
      rfl
    · rw [hattempt]
      rfl
  have hreaches : Script.Reaches (service jsonTexts "wf")
      ((Operation.step "new_step").script "wf" noOutcomes 1) (withMarker db) [.check 2 "new_step"]
      (.raised (.unexpectedStep "wf" 2 "new_step" recordedName)) (withMarker db) :=
    .call hcheck (.stop _ _)
  have hinside : Run jsonTexts "wf" noOutcomes exceptions program new 1 (withMarker db)
      ⟨withMarker db, [.unexpectedStep "wf" 2 "new_step" recordedName], [], []⟩ :=
    .inside hnew hreaches
  exact .patch hcode hpatch rfl hinside

theorem not_safe_meetsRow (db : Databases Unit) (recordedName : String) (h : History) :
    ¬(meetsRow db recordedName).Safe h := by
  intro hsafe
  have hexpected := hsafe.1 _ List.mem_cons_self
  cases hexpected

/-- The step has run and is recorded. -/
def afterStep : Databases Unit := afterCall inFlight (.record 1 "step"
  ⟨some "1", none, some portableName, none⟩) 10

end InFlight

end DBOSModel.Core

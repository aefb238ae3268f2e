import DBOSModel.Queue.Partition

/-!
# The debouncer

`Debouncer.debounce` and `DebouncerClient.debounce` of `dbos/_debouncer.py`, without a pinned
workflow ID. A call first tries to bounce the delayed workflow that holds its key.
If the key is free it enqueues a new delayed workflow under the key, and if another call was faster
it bounces again. The key is the deduplication ID of the delayed workflow, which gives it up when it
leaves DELAYED.

Every call is two kinds of transactions, interleaved here with those of other calls and with all
other operations on the status table. A call inside a workflow makes the same transactions together
with checkpoints, which nothing here reads. Crashes are left out: a replay answers a bounce from its
checkpoint, but starts the delayed workflow again, under its ID, where the crash came between the
start and the record of the child.
-/

namespace DBOSModel.Debouncer

open Relational SysDb DBOSModel.Core Queue

/-! ## Calls -/

/-- `_BounceAction`. -/
inductive BounceAction where
  | returnHandle
  | enqueue
  | raise
  | retry
deriving DecidableEq

/-- `_classify_bounce`. -/
def classifyBounce (result : DebounceResult) (workflowName : String) : BounceAction :=
  if result.bouncedWorkflowId ≠ none then .returnHandle
  else if result.holderWorkflowId = none then .enqueue
  else if !result.holderIsDebounced then .raise
  else if result.holderWorkflowName ≠ some workflowName then .raise
  else .retry

/-- Who debounces, with the options of the caller. -/
inductive DebounceOrigin where
  /-- `Debouncer`, with the queue it resolves, the delay and the other options in the context, and
  what the start of the workflow takes from it. -/
  | debouncer (queue : QueueObject) (ctx : EnqueueContext) (delayUntilEpochMs : Option ℤ)
      (appVersion : Option String) (start : WorkflowStart) (maxRecoveryAttempts : Option ℤ)
      (ownerXid : Option String)
  /-- `DebouncerClient`, with the queue given to it and the workflow options. -/
  | client (queueName : Option String) (options : EnqueueOptions)

structure DebounceRequest where
  origin : DebounceOrigin
  workflowName : String
  debounceKey : String
  debouncePeriodSec : ℚ
  debounceTimeoutSec : Option ℚ := none
  /-- What `serialize_args` returns. -/
  inputs : String
  serialization : String

/-- `_reject_conflicting_options`. -/
def rejectConflictingOptions (hasDeduplicationId hasDelay hasPriority hasPartitionKey : Bool) :
    Except DBOSError Unit :=
  if hasDeduplicationId then
    .error (.dbosException ("Cannot debounce a workflow with a deduplication_id set: the debounce " ++
      "key is used as the workflow's deduplication ID."))
  else if hasDelay then
    .error (.dbosException ("Cannot debounce a workflow with a delay set: the debounce period " ++
      "controls the workflow's delay."))
  else if hasPriority then
    .error (.dbosException ("Cannot debounce a workflow with a priority set: priority is not " ++
      "supported for debounced workflows."))
  else if hasPartitionKey then
    .error (.dbosException ("Cannot debounce a workflow with a queue partition key set: partitioned " ++
      "queues do not support deduplication, which debouncing requires."))
  else .ok ()

namespace DebounceRequest

variable (request : DebounceRequest)

def reject : Except DBOSError Unit :=
  match request.origin with
  | .debouncer _ ctx delayUntilEpochMs _ _ _ _ =>
    rejectConflictingOptions ctx.deduplicationId.isSome delayUntilEpochMs.isSome ctx.priority.isSome
      ctx.queuePartitionKey.isSome
  | .client _ options =>
    rejectConflictingOptions options.deduplicationId.isSome options.delaySeconds.isSome
      options.priority.isSome options.queuePartitionKey.isSome

def queueName : String :=
  match request.origin with
  | .debouncer queue _ _ _ _ _ _ => queue.name
  | .client queueName options => if isTruthy queueName then queueName.getD "" else options.queueName

def deduplicationId : String := request.workflowName ++ "-" ++ request.debounceKey

/-- The arguments of the bounce; `time` is the caller's clock in seconds. -/
def bounceCall (time : ℚ) : DebounceCall where
  workflowName := request.workflowName
  queueName := request.queueName
  deduplicationId := request.deduplicationId
  delayUntilEpochMs := pyInt (time * 1000 + request.debouncePeriodSec * 1000)
  inputs := request.inputs
  serialization := some request.serialization

/-- `deadline_ms`: a timeout of 0 counts as none. -/
def deadlineMs (nowMs : ℤ) : Option ℤ :=
  match request.debounceTimeoutSec with
  | some timeout => if timeout = 0 then none else some (pyInt (nowMs + timeout * 1000))
  | none => none

/-- The `init_workflow` call of a fresh debounced workflow. The clock is read at `time`, and by the
client once more at `later`. -/
def enqueueCall (time later : ℚ) (generated : String) : Except DBOSError InitCall := do
  let nowMs := pyInt (time * 1000)
  let deadlineMs := request.deadlineMs nowMs
  match request.origin with
  | .debouncer queue ctx _ appVersion start maxRecoveryAttempts ownerXid =>
    let delayUntilMs := nowMs + pyInt (request.debouncePeriodSec * 1000)
    queue.validateEnqueue { ctx with deduplicationId := some request.deduplicationId }
    let status ← WorkflowStart.status
      { start with
        wfName := request.workflowName
        queue := some queue.name
        childWorkflowId := some generated
        serargs := request.inputs
        serialization := request.serialization
        enqueueOptions := some
          { deduplicationId := some request.deduplicationId
            priority := ctx.priority
            appVersion := appVersion
            queuePartitionKey := ctx.queuePartitionKey
            delayUntilEpochMs := some (match deadlineMs with
              | some deadline => min delayUntilMs deadline
              | none => delayUntilMs)
            debounceDeadlineEpochMs := deadlineMs
            isDebounced := true } }
    pure { status := status, maxRecoveryAttempts := maxRecoveryAttempts, ownerXid := ownerXid }
  | .client _ options =>
    let delaySec := match deadlineMs with
      | some deadline => min request.debouncePeriodSec (max ((deadline - nowMs) / 1000) 0)
      | none => request.debouncePeriodSec
    let status ← buildEnqueueStatus
      { options with
        workflowName := request.workflowName
        workflowId := none
        queueName := request.queueName
        deduplicationId := some request.deduplicationId
        delaySeconds := some delaySec }
      later generated request.inputs request.serialization
    pure { status := stampDebounced deadlineMs status }

end DebounceRequest

/-! ## The system -/

inductive DebouncePhase where
  | bouncing
  | enqueueing
  | returned (workflowId : String)
  | raised (error : DBOSError)
deriving DecidableEq

/-- The database, where each call is, and the calls that have returned a handle with the ID of its
workflow, the last one first. -/
structure DebounceState (ι : Type) where
  db : SystemDatabase
  phase : ι → DebouncePhase
  handles : List (ι × String)

inductive DebounceAction (ι : Type) where
  | bounce (caller : ι) (time : ℚ) (now : ℤ)
  | enqueue (caller : ι) (time later : ℚ) (generated : String) (now : ℤ)
  | write (op : StatusOp) (now : ℤ)

/-- The debounced rows come from the calls of the system. -/
def isDebounceOp : StatusOp → Bool
  | .debounce _ => true
  | .init call _ => call.status.isDebounced
  | _ => false

section System

variable {ι : Type} [DecidableEq ι] (requests : ι → DebounceRequest)

/-- A call moves to a phase. -/
def DebounceState.move (s : DebounceState ι) (caller : ι) (phase : DebouncePhase)
    (db : SystemDatabase) : DebounceState ι :=
  { s with db := db, phase := Function.update s.phase caller phase }

/-- A call returns a handle. -/
def DebounceState.return (s : DebounceState ι) (caller : ι) (workflowId : String)
    (db : SystemDatabase) : DebounceState ι where
  db := db
  phase := Function.update s.phase caller (.returned workflowId)
  handles := (caller, workflowId) :: s.handles

/-- The bounce transaction, and what the call does with its result. -/
def bounceStep (s : DebounceState ι) (caller : ι) (time : ℚ) (now : ℤ) : DebounceState ι :=
  let request := requests caller
  let (result, db) := debounceDelayedWorkflow (request.bounceCall time) now s.db
  match classifyBounce result request.workflowName with
  | .returnHandle => s.return caller (result.bouncedWorkflowId.getD "") db
  | .enqueue => s.move caller .enqueueing db
  | .raise => s.move caller (.raised (.queueDeduplicated (result.holderWorkflowId.getD "")
      request.queueName request.deduplicationId)) db
  | .retry => s.move caller .bouncing db

/-- `_is_queue_deduplicated_error`. -/
def isQueueDeduplicatedError : DBOSError → Bool
  | .queueDeduplicated _ _ _ => true
  | _ => false

/-- The enqueue of a fresh workflow; a deduplication error sends the call back to the bounce. -/
def enqueueStep (s : DebounceState ι) (caller : ι) (time later : ℚ) (generated : String) (now : ℤ) :
    DebounceState ι :=
  match (requests caller).enqueueCall time later generated with
  | .error error => s.move caller (.raised error) s.db
  | .ok call =>
    match initWorkflow call now s.db with
    | .returned _ db => s.return caller call.status.workflowUuid db
    | .raised error =>
      if isQueueDeduplicatedError error then s.move caller .bouncing s.db
      else s.move caller (.raised error) s.db
    | .raisedAfterCommit error db => s.move caller (.raised error) db

/-- The calls, interleaved with every operation on the status table but a debounced enqueue and a
bounce, which are the calls' own. A generated workflow ID is one that no workflow has. -/
def debounceSystem : System (DebounceState ι) (DebounceAction ι) where
  step s
    | .bounce caller time now =>
      if s.phase caller = .bouncing then some (bounceStep requests s caller time now) else none
    | .enqueue caller time later generated now =>
      if s.phase caller = .enqueueing ∧ generated ≠ "" ∧ s.db.hasWorkflow generated = false then
        some (enqueueStep requests s caller time later generated now)
      else none
    | .write op now =>
      if isDebounceOp op then none else some { s with db := op.apply now s.db }

/-- An empty database; the calls with conflicting options have been rejected. -/
def beforeDebounce : DebounceState ι where
  db := SystemDatabase.empty
  phase caller :=
    match (requests caller).reject with
    | .ok _ => .bouncing
    | .error error => .raised error
  handles := []

end System

/-! ## What debouncing promises -/

/-- The row is held by the calls for a key. -/
def HoldsKey (request : DebounceRequest) (row : WorkflowStatusRow) : Prop :=
  row.name = request.workflowName ∧ row.queueName = some request.queueName ∧
    row.deduplicationId = some request.deduplicationId ∧ row.isDebounced = true

/-- The row has the inputs of the call. -/
def HasInputs (request : DebounceRequest) (row : WorkflowStatusRow) : Prop :=
  row.inputs = some request.inputs ∧ row.serialization = some request.serialization

/-- The last call that has returned a handle to the workflow. -/
def lastCaller {ι : Type} (handles : List (ι × String)) (workflowId : String) : Option ι :=
  (handles.find? fun entry ↦ entry.2 = workflowId).map Prod.fst

section Promises

variable {ι : Type} [DecidableEq ι]

/-- The promises in one state. -/
structure Debounces (requests : ι → DebounceRequest) (s : DebounceState ι) : Prop where
  /-- A key is held by at most one DELAYED debounced row. -/
  atMostOne : ∀ caller, ∀ row ∈ s.db.statusRows, ∀ other ∈ s.db.statusRows,
    HoldsKey (requests caller) row → row.status = .delayed →
    HoldsKey (requests caller) other → other.status = .delayed → row = other
  /-- Every DELAYED debounced row has a deduplication ID, and no other debounced row has one. -/
  delayed_iff : ∀ row ∈ s.db.statusRows, row.isDebounced = true →
    (row.status = .delayed ↔ row.deduplicationId ≠ none)
  /-- No bounce is classified "retry". -/
  neverRetry : ∀ (call : DebounceCall) (now : ℤ),
    classifyBounce (debounceDelayedWorkflow call now s.db).1 call.workflowName ≠ .retry
  /-- A call that returns a handle in the next step writes its inputs to the row, which is DELAYED
  then and was before, if it was there. -/
  writesInputs : ∀ action s', (debounceSystem requests).step s action = some s' →
    ∀ caller workflowId, s.phase caller ≠ .returned workflowId →
    s'.phase caller = .returned workflowId →
    (∃ row ∈ s'.db.statusRows, row.workflowUuid = workflowId ∧ row.isDebounced = true ∧
      row.status = .delayed ∧ HasInputs (requests caller) row) ∧
    ∀ row ∈ s.db.statusRows, row.workflowUuid = workflowId → row.status = .delayed
  /-- A debounced row that `transition_delayed_workflows` takes out of DELAYED has the inputs of the
  last call that has returned a handle to it. -/
  lastInputs : ∀ (nowMs : ℤ), ∀ row ∈ s.db.statusRows, row.isDebounced = true →
    row.status = .delayed →
    ∀ row' ∈ (transitionDelayedWorkflows nowMs s.db).statusRows,
    row'.workflowUuid = row.workflowUuid → row'.status ≠ .delayed →
    ∃ caller, lastCaller s.handles row.workflowUuid = some caller ∧
      HasInputs (requests caller) row'

end Promises

/-! ## Deduplication IDs over the status operations -/

/-- No two rows have the same queue and the same deduplication ID. -/
def UniqueKeys (db : SystemDatabase) : Prop :=
  ∀ row ∈ db.statusRows, ∀ other ∈ db.statusRows, row.deduplicationId ≠ none →
    row.queueName ≠ none → row.deduplicationId = other.deduplicationId →
    row.queueName = other.queueName → row = other

section Keys

variable {now : ℤ} {db db' : SystemDatabase} {op : StatusOp} {row row' other : WorkflowStatusRow}

theorem UniqueKeys.eq_of_key (h : UniqueKeys db) {queue key : String} (hrow : row ∈ db.statusRows)
    (hother : other ∈ db.statusRows) (hqueue : row.queueName = some queue)
    (hqueue' : other.queueName = some queue) (hkey : row.deduplicationId = some key)
    (hkey' : other.deduplicationId = some key) : row = other := by
  apply h row hrow other hother
  · rw [hkey]
    exact Option.some_ne_none _
  · rw [hqueue]
    exact Option.some_ne_none _
  · rw [hkey, hkey']
  · rw [hqueue, hqueue']

/-- A deduplication ID is not changed, only cleared, and stays with its queue. -/
theorem key_of_rowChange (h : RowChange now db op row row') (hkey : row'.deduplicationId ≠ none) :
    row'.deduplicationId = row.deduplicationId ∧ row'.queueName = row.queueName := by
  cases h with
  | unchanged => exact ⟨rfl, rfl⟩
  | conflict => exact ⟨rfl, rfl⟩
  | setDelay => exact ⟨rfl, rfl⟩
  | debounce => exact ⟨rfl, rfl⟩
  | startQueued => exact ⟨rfl, rfl⟩
  | clear => exact ⟨rfl, rfl⟩
  | fork => exact ⟨rfl, rfl⟩
  | deadLetter => exact absurd rfl hkey
  | outcome => exact absurd rfl hkey
  | cancel => exact absurd rfl hkey
  | resume => exact absurd rfl hkey
  | transition =>
    refine ⟨?_, rfl⟩
    simp only [transitionUpdate] at hkey ⊢
    split at hkey
    · exact absurd rfl hkey
    · rename_i hdebounced
      rw [if_neg hdebounced]

theorem isDebounced_of_rowChange (h : RowChange now db op row row') :
    row'.isDebounced = row.isDebounced := by
  cases h <;> rfl

/-- No operation makes an existing row DELAYED, and a row that stays DELAYED keeps its
deduplication ID, and its inputs unless it is bounced. -/
theorem delayed_of_rowChange (h : RowChange now db op row row') (hdelayed : row'.status = .delayed) :
    row.status = .delayed ∧ row'.deduplicationId = row.deduplicationId ∧
      (isDebounceOp op = false → row'.inputs = row.inputs ∧
        row'.serialization = row.serialization) := by
  cases h with
  | unchanged => exact ⟨hdelayed, rfl, fun _ ↦ ⟨rfl, rfl⟩⟩
  | conflict => exact ⟨hdelayed, rfl, fun _ ↦ ⟨rfl, rfl⟩⟩
  | setDelay => exact ⟨hdelayed, rfl, fun _ ↦ ⟨rfl, rfl⟩⟩
  | fork => exact ⟨hdelayed, rfl, fun _ ↦ ⟨rfl, rfl⟩⟩
  | debounce => exact ⟨hdelayed, rfl, fun hop ↦ absurd hop (by simp [isDebounceOp])⟩
  | outcome workflowId status complete =>
    have hstatus : status = .delayed := hdelayed
    rw [hstatus] at complete
    cases complete
  | startQueued => cases hdelayed
  | clear => cases hdelayed
  | deadLetter => cases hdelayed
  | cancel => cases hdelayed
  | resume => cases hdelayed
  | transition => cases hdelayed

/-- A debounced row gives up its deduplication ID when it leaves DELAYED. -/
theorem delayed_of_key (h : RowChange now db op row row') (hdebounced : row.isDebounced = true)
    (hdelayed : row.status = .delayed) (hkey : row'.deduplicationId ≠ none) :
    row'.status = .delayed := by
  cases h with
  | unchanged => exact hdelayed
  | conflict => exact hdelayed
  | setDelay => exact hdelayed
  | fork => exact hdelayed
  | debounce => exact hdelayed
  | startQueued call row hid heligible =>
    have henqueued := DequeueCall.isEligible_status heligible
    rw [henqueued] at hdelayed
    cases hdelayed
  | clear workflowId row hid hqueue hstatus =>
    rw [hstatus] at hdelayed
    cases hdelayed
  | deadLetter => exact absurd rfl hkey
  | outcome => exact absurd rfl hkey
  | cancel => exact absurd rfl hkey
  | resume => exact absurd rfl hkey
  | transition => exact absurd (if_pos hdebounced) hkey

/-- The unique index has admitted a row that an operation creates. -/
theorem not_key_of_created (hnew : row' ∈ (op.apply now db).statusRows)
    (hfresh : ∀ row ∈ db.statusRows, row.workflowUuid ≠ row'.workflowUuid)
    (hcreated : Created now db op row') (hkey : row'.deduplicationId ≠ none)
    (hqueue : row'.queueName ≠ none) (hrow : row ∈ db.statusRows)
    (hsameKey : row.deduplicationId = row'.deduplicationId) :
    row.queueName ≠ row'.queueName := by
  cases hcreated with
  | fork => exact absurd rfl hkey
  | init call built =>
    intro hsameQueue
    have hholder : call.isDeduplicated db = true := by
      refine List.any_eq_true.mpr ⟨row, hrow, ?_⟩
      rw [hsameKey, hsameQueue]
      simp only [InitCall.insertedRow, Bool.and_eq_true, beq_self_eq_true, and_true]
      exact ⟨Option.isSome_iff_ne_none.mpr hkey, Option.isSome_iff_ne_none.mpr hqueue⟩
    have hlookup : db.workflowStatus.lookup call.status.workflowUuid = none :=
      db.workflowStatus.lookup_eq_none.mpr hfresh
    -- The insert is rejected, and the row is not there.
    simp only [StatusOp.apply, initWorkflow, InitCall.upsert, hlookup, hholder, if_true,
      Ending.stateAfter_raised] at hnew
    exact hfresh _ hnew rfl

theorem uniqueKeys_apply (h : UniqueKeys db) : UniqueKeys (op.apply now db) := by
  intro row' hrow' other' hother' hkey hqueue hsameKey hsameQueue
  have hkey' : other'.deduplicationId ≠ none := hsameKey ▸ hkey
  have hqueue' : other'.queueName ≠ none := hsameQueue ▸ hqueue
  rcases mem_apply hrow' with ⟨row, hrow, hid, hchange⟩ | ⟨hfresh, hcreated⟩
  · obtain ⟨hkeep, hkeepQueue⟩ := key_of_rowChange hchange hkey
    rcases mem_apply hother' with ⟨other, hother, hid', hchange'⟩ | ⟨hfresh', hcreated'⟩
    · obtain ⟨hkeep', hkeepQueue'⟩ := key_of_rowChange hchange' hkey'
      have hsame : row = other := by
        apply h row hrow other hother
        · rw [← hkeep]
          exact hkey
        · rw [← hkeepQueue]
          exact hqueue
        · rw [← hkeep, ← hkeep', hsameKey]
        · rw [← hkeepQueue, ← hkeepQueue', hsameQueue]
      apply (op.apply now db).workflowStatus.eq_of_key hrow' hother'
      rw [← hid, ← hid', hsame]
    · exact absurd (hkeepQueue.symm.trans hsameQueue)
        (not_key_of_created hother' hfresh' hcreated' hkey' hqueue' hrow
          (hkeep.symm.trans hsameKey))
  · rcases mem_apply hother' with ⟨other, hother, hid', hchange'⟩ | ⟨hfresh', hcreated'⟩
    · obtain ⟨hkeep', hkeepQueue'⟩ := key_of_rowChange hchange' hkey'
      exact absurd (hkeepQueue'.symm.trans hsameQueue.symm)
        (not_key_of_created hrow' hfresh hcreated hkey hqueue hother
          (hkeep'.symm.trans hsameKey.symm))
    · cases hcreated with
      | init call built =>
        cases hcreated'
        rfl
      | fork => exact absurd rfl hkey

end Keys

/-! ## Fresh debounced workflows -/

section Fresh

variable {request : DebounceRequest} {time later : ℚ} {generated : String} {call : InitCall}

/-- What a fresh debounced workflow is inserted with. -/
structure IsFresh (request : DebounceRequest) (generated : String) (call : InitCall) : Prop where
  built : Built call.status
  workflowUuid : call.status.workflowUuid = generated
  status : call.status.status = .delayed
  isDebounced : call.status.isDebounced = true
  deduplicationId : call.status.deduplicationId = some request.deduplicationId
  inputs : call.status.inputs = request.inputs
  serialization : call.status.serialization = some request.serialization

theorem isFresh_enqueueCall (hgenerated : generated ≠ "")
    (h : request.enqueueCall time later generated = .ok call) : IsFresh request generated call := by
  unfold DebounceRequest.enqueueCall at h
  cases horigin : request.origin with
  | debouncer queue ctx delayUntilEpochMs appVersion start maxRecoveryAttempts ownerXid =>
    simp only [horigin] at h
    obtain ⟨⟨⟩, -, hrest⟩ := bind_eq_ok.mp h
    obtain ⟨status, hstatus, hpure⟩ := bind_eq_ok.mp hrest
    cases hpure
    have hbuilt : Built status := .workflow _ status hstatus
    rw [WorkflowStart.status, WorkflowStart.wfid] at hstatus
    simp only [ne_eq, hgenerated, not_false_eq_true, if_true, if_false, Except.ok.injEq] at hstatus
    subst hstatus
    exact ⟨hbuilt, rfl, rfl, rfl, rfl, rfl, rfl⟩
  | client queueName options =>
    simp only [horigin] at h
    obtain ⟨status, hstatus, hpure⟩ := bind_eq_ok.mp h
    cases hpure
    have hbuilt := Built.debounced _ _ _ _ _ status (request.deadlineMs (pyInt (time * 1000))) hstatus
    unfold buildEnqueueStatus at hstatus
    split at hstatus
    · cases hstatus
    · cases hstatus
      exact ⟨hbuilt, rfl, rfl, rfl, rfl, rfl, rfl⟩

end Fresh

/-- A new workflow is inserted, or its insert is rejected. -/
theorem initWorkflow_of_fresh {call : InitCall} {db : SystemDatabase} (now : ℤ)
    (hfresh : db.hasWorkflow call.status.workflowUuid = false) :
    (∃ error, initWorkflow call now db = .raised error) ∨
      ∃ result rows, db.workflowStatus.insertNew (call.insertedRow now) = some rows ∧
        initWorkflow call now db = .returned result { db with workflowStatus := rows } := by
  have hnone : ∀ row ∈ db.statusRows, row.workflowUuid ≠ call.status.workflowUuid := by
    intro row hrow hid
    rw [SystemDatabase.hasWorkflow_iff.mpr ⟨row, hrow, hid⟩] at hfresh
    cases hfresh
  cases hinit : initWorkflow call now db with
  | raised error => exact Or.inl ⟨error, rfl⟩
  | returned result db' =>
    rcases initWorkflow_eq_returned hinit with ⟨row, hrow, hid, -⟩ | ⟨-, -, -, -, rows, hrows, rfl⟩
    · exact absurd hid (hnone row hrow)
    · exact Or.inr ⟨result, rows, hrows, rfl⟩
  | raisedAfterCommit error db' =>
    unfold initWorkflow at hinit
    split at hinit
    · cases hinit
    · rename_i row' db'' hupsert
      rcases upsert_eq_ok hupsert with ⟨row, hrow, hid, -⟩ | ⟨-, -, rfl, -⟩
      · exact absurd hid (hnone row hrow)
      · rw [exceedsRecoveryAttempts_insertedRow] at hinit
        split at hinit
        · cases hinit
        · cases hinit

/-! ## The invariant -/

section Invariant

variable {ι : Type} {requests : ι → DebounceRequest} {s s' : DebounceState ι} {now : ℤ}
  {db : SystemDatabase} {op : StatusOp}

/-- No debounced row has a deduplication ID outside DELAYED. -/
def KeysDelayed (db : SystemDatabase) : Prop :=
  ∀ row ∈ db.statusRows, row.isDebounced = true → row.deduplicationId ≠ none →
    row.status = .delayed

structure DebounceInvariant (requests : ι → DebounceRequest) (s : DebounceState ι) : Prop where
  unique : UniqueKeys s.db
  delayed : KeysDelayed s.db
  held : ∀ row ∈ s.db.statusRows, row.isDebounced = true → row.status = .delayed →
    row.deduplicationId ≠ none ∧ ∃ caller, lastCaller s.handles row.workflowUuid = some caller ∧
      HasInputs (requests caller) row

theorem lastCaller_self (handles : List (ι × String)) (caller : ι) (workflowId : String) :
    lastCaller ((caller, workflowId) :: handles) workflowId = some caller := by
  simp [lastCaller]

theorem lastCaller_of_ne (handles : List (ι × String)) (caller : ι) {workflowId other : String}
    (hne : workflowId ≠ other) :
    lastCaller ((caller, workflowId) :: handles) other = lastCaller handles other := by
  simp [lastCaller, hne]

theorem keysDelayed_apply (h : KeysDelayed db)
    (hnew : ∀ row', Created now db op row' → row'.isDebounced = true → row'.status = .delayed) :
    KeysDelayed (op.apply now db) := by
  intro row' hrow' hdebounced hkey
  rcases mem_apply hrow' with ⟨row, hrow, -, hchange⟩ | ⟨-, hcreated⟩
  · rw [isDebounced_of_rowChange hchange] at hdebounced
    have hold : row.deduplicationId ≠ none := by
      rw [← (key_of_rowChange hchange hkey).1]
      exact hkey
    exact delayed_of_key hchange hdebounced (h row hrow hdebounced hold) hkey
  · exact hnew row' hcreated hdebounced

theorem not_debounced_of_created {row' : WorkflowStatusRow} (hop : isDebounceOp op = false)
    (h : Created now db op row') : row'.isDebounced = false := by
  cases h with
  | init call built => exact hop
  | fork => rfl

theorem DebounceInvariant.of_rows (h : DebounceInvariant requests s)
    (hrows : s'.db.statusRows = s.db.statusRows) (hhandles : s'.handles = s.handles) :
    DebounceInvariant requests s' := by
  refine ⟨?_, ?_, ?_⟩
  · unfold UniqueKeys
    rw [hrows]
    exact h.unique
  · unfold KeysDelayed
    rw [hrows]
    exact h.delayed
  · rw [hrows, hhandles]
    exact h.held

theorem invariant_write (h : DebounceInvariant requests s) (hop : isDebounceOp op = false)
    (now : ℤ) : DebounceInvariant requests { s with db := op.apply now s.db } := by
  refine ⟨uniqueKeys_apply h.unique, keysDelayed_apply h.delayed ?_, ?_⟩
  · intro row' hcreated hdebounced
    rw [not_debounced_of_created hop hcreated] at hdebounced
    cases hdebounced
  · intro row' hrow' hdebounced hdelayed
    rcases mem_apply hrow' with ⟨row, hrow, hid, hchange⟩ | ⟨-, hcreated⟩
    · rw [isDebounced_of_rowChange hchange] at hdebounced
      obtain ⟨hold, hkey, hinputs⟩ := delayed_of_rowChange hchange hdelayed
      obtain ⟨hsame, hsameSerialization⟩ := hinputs hop
      obtain ⟨hheld, caller, hlast, hcaller⟩ := h.held row hrow hdebounced hold
      refine ⟨hkey ▸ hheld, caller, hid ▸ hlast, ?_⟩
      rw [HasInputs, hsame, hsameSerialization]
      exact hcaller
    · rw [not_debounced_of_created hop hcreated] at hdebounced
      cases hdebounced

/-! ### The bounce -/

/-- What a bounce answers: the row it updates, or the holder of the key, or that nobody holds it. -/
theorem debounceDelayedWorkflow_cases (call : DebounceCall) (now : ℤ) (db : SystemDatabase) :
    (∃ row ∈ db.statusRows, call.bounces row = true ∧
      (debounceDelayedWorkflow call now db).1 = ⟨some row.workflowUuid, none, false, none⟩) ∨
    (∀ row ∈ db.statusRows, call.bounces row = false) ∧
      ((∃ holder ∈ db.statusRows, call.holds holder = true ∧
        (debounceDelayedWorkflow call now db).1 =
          ⟨none, some holder.workflowUuid, holder.isDebounced, some holder.name⟩) ∨
      (debounceDelayedWorkflow call now db).1 = ⟨none, none, false, none⟩) := by
  unfold debounceDelayedWorkflow
  simp only
  cases hbounced : db.statusRows.find? call.bounces with
  | some row =>
    exact Or.inl ⟨row, List.mem_of_find?_eq_some hbounced, List.find?_some hbounced, rfl⟩
  | none =>
    right
    refine ⟨fun row hrow ↦ by simpa using List.find?_eq_none.mp hbounced row hrow, ?_⟩
    cases hholder : db.statusRows.find? call.holds with
    | some holder =>
      exact Or.inl ⟨holder, List.mem_of_find?_eq_some hholder, List.find?_some hholder, rfl⟩
    | none => exact Or.inr rfl

/-- A bounce without a row to update leaves the table. -/
theorem statusRows_of_not_bounced {call : DebounceCall} (now : ℤ)
    (hnone : ∀ row ∈ db.statusRows, call.bounces row = false) :
    (debounceDelayedWorkflow call now db).2.statusRows = db.statusRows := by
  rw [db_debounceDelayedWorkflow]
  have hmap : (db.workflowStatus.update call.bounces (call.bounceUpdate now)).rows =
      db.statusRows.map fun row ↦ row := by
    apply List.map_congr_left
    intro row hrow
    rw [hnone row hrow]
    rfl
  exact hmap.trans (List.map_id' _)

theorem bounces_iff {call : DebounceCall} {row : WorkflowStatusRow} :
    call.bounces row = true ↔ row.name = call.workflowName ∧
      row.queueName = some call.queueName ∧ row.deduplicationId = some call.deduplicationId ∧
      row.status = .delayed ∧ row.isDebounced = true := by
  simp only [DebounceCall.bounces, DebounceCall.holds, Bool.and_eq_true, decide_eq_true_eq]
  tauto

/-- A bounce updates one row only. -/
theorem bounces_unique {call : DebounceCall} {row other : WorkflowStatusRow} (h : UniqueKeys db)
    (hrow : row ∈ db.statusRows) (hother : other ∈ db.statusRows)
    (hbounces : call.bounces row = true) (hbounces' : call.bounces other = true) : row = other := by
  obtain ⟨-, hqueue, hkey, -⟩ := bounces_iff.mp hbounces
  obtain ⟨-, hqueue', hkey', -⟩ := bounces_iff.mp hbounces'
  exact h.eq_of_key hrow hother hqueue hqueue' hkey hkey'

/-- The invariant after a bounce has returned a handle to the row it updated. -/
theorem invariant_return_bounce [DecidableEq ι] (h : DebounceInvariant requests s) (caller : ι) (time : ℚ)
    (now : ℤ) {row : WorkflowStatusRow} (hrow : row ∈ s.db.statusRows)
    (hbounces : ((requests caller).bounceCall time).bounces row = true) :
    DebounceInvariant requests (s.return caller row.workflowUuid
      (debounceDelayedWorkflow ((requests caller).bounceCall time) now s.db).2) := by
  have hunique : UniqueKeys (StatusOp.apply (.debounce ((requests caller).bounceCall time)) now
      s.db) := uniqueKeys_apply h.unique
  have hdelayed : KeysDelayed (StatusOp.apply (.debounce ((requests caller).bounceCall time)) now
      s.db) := keysDelayed_apply h.delayed fun row' hcreated _ ↦ nomatch hcreated
  refine ⟨hunique, hdelayed, ?_⟩
  intro row' hrow' hdebounced hstatus
  rw [DebounceState.return, db_debounceDelayedWorkflow] at hrow'
  obtain ⟨old, hold, rfl⟩ := Table.mem_update.mp hrow'
  by_cases hbounced : ((requests caller).bounceCall time).bounces old = true
  · have hsame : old = row := bounces_unique h.unique hold hrow hbounced hbounces
    subst hsame
    rw [if_pos hbounced]
    obtain ⟨-, -, hkey, -⟩ := bounces_iff.mp hbounced
    refine ⟨?_, caller, lastCaller_self s.handles caller _, rfl, rfl⟩
    simp only [DebounceCall.bounceUpdate]
    rw [hkey]
    exact Option.some_ne_none _
  · rw [if_neg hbounced] at hdebounced hstatus ⊢
    have hne : row.workflowUuid ≠ old.workflowUuid := by
      intro hid
      rw [s.db.workflowStatus.eq_of_key hrow hold hid] at hbounces
      exact hbounced hbounces
    rw [DebounceState.return, lastCaller_of_ne s.handles caller hne]
    exact h.held old hold hdebounced hstatus

/-- The two outcomes of a bounce for its call. -/
theorem bounceStep_cases [DecidableEq ι] (requests : ι → DebounceRequest) (s : DebounceState ι)
    (caller : ι) (time : ℚ) (now : ℤ) :
    (∃ row ∈ s.db.statusRows, ((requests caller).bounceCall time).bounces row = true ∧
      bounceStep requests s caller time now = s.return caller row.workflowUuid
        (debounceDelayedWorkflow ((requests caller).bounceCall time) now s.db).2) ∨
    (∃ phase, (∀ workflowId, phase ≠ .returned workflowId) ∧
      (∀ row ∈ s.db.statusRows, ((requests caller).bounceCall time).bounces row = false) ∧
      bounceStep requests s caller time now = s.move caller phase
        (debounceDelayedWorkflow ((requests caller).bounceCall time) now s.db).2) := by
  unfold bounceStep
  simp only
  rcases debounceDelayedWorkflow_cases ((requests caller).bounceCall time) now s.db with
    ⟨row, hrow, hbounces, hresult⟩ | ⟨hnone, hanswer⟩
  · left
    refine ⟨row, hrow, hbounces, ?_⟩
    rw [hresult]
    rfl
  · right
    have hbounced : (debounceDelayedWorkflow ((requests caller).bounceCall time) now
        s.db).1.bouncedWorkflowId = none := by
      rcases hanswer with ⟨holder, -, -, hresult⟩ | hresult
      · rw [hresult]
      · rw [hresult]
    cases haction : classifyBounce
        (debounceDelayedWorkflow ((requests caller).bounceCall time) now s.db).1
        (requests caller).workflowName with
    | returnHandle =>
      unfold classifyBounce at haction
      rw [if_neg (not_not.mpr hbounced)] at haction
      repeat' split at haction
      all_goals cases haction
    | enqueue => exact ⟨_, fun _ ↦ DebouncePhase.noConfusion, hnone, rfl⟩
    | raise => exact ⟨_, fun _ ↦ DebouncePhase.noConfusion, hnone, rfl⟩
    | retry => exact ⟨_, fun _ ↦ DebouncePhase.noConfusion, hnone, rfl⟩

/-- A bounce that finds no holder to update is never told to retry. -/
theorem classifyBounce_ne_retry (h : KeysDelayed db) (call : DebounceCall) (now : ℤ) :
    classifyBounce (debounceDelayedWorkflow call now db).1 call.workflowName ≠ .retry := by
  rcases debounceDelayedWorkflow_cases call now db with
    ⟨row, -, -, hresult⟩ | ⟨hnone, ⟨holder, hholder, hholds, hresult⟩ | hresult⟩
  · simp [hresult, classifyBounce]
  · intro hretry
    rw [hresult] at hretry
    have hheld : holder.isDebounced = true ∧ holder.name = call.workflowName := by
      by_contra hneither
      simp only [classifyBounce] at hretry
      repeat' split at hretry
      all_goals simp_all
    -- A debounced holder is DELAYED, so the bounce would have updated it.
    simp only [DebounceCall.holds, Bool.and_eq_true, decide_eq_true_eq] at hholds
    have hkey : holder.deduplicationId ≠ none := by
      rw [hholds.2]
      exact Option.some_ne_none _
    have hbounced : call.bounces holder = true :=
      bounces_iff.mpr ⟨hheld.2, hholds.1, hholds.2, h holder hholder hheld.1 hkey, hheld.1⟩
    rw [hnone holder hholder] at hbounced
    cases hbounced
  · simp [hresult, classifyBounce]

/-! ### The enqueue -/

/-- The two outcomes of an enqueue for its call. -/
theorem enqueueStep_cases [DecidableEq ι] (requests : ι → DebounceRequest) {s : DebounceState ι}
    (caller : ι) (time later : ℚ) {generated : String} (now : ℤ) (hgenerated : generated ≠ "")
    (hfresh : s.db.hasWorkflow generated = false) :
    (∃ call rows, (requests caller).enqueueCall time later generated = .ok call ∧
      IsFresh (requests caller) generated call ∧
      s.db.workflowStatus.insertNew (call.insertedRow now) = some rows ∧
      (initWorkflow call now s.db).stateAfter s.db = { s.db with workflowStatus := rows } ∧
      enqueueStep requests s caller time later generated now =
        s.return caller generated { s.db with workflowStatus := rows }) ∨
    (∃ phase, (∀ workflowId, phase ≠ .returned workflowId) ∧
      enqueueStep requests s caller time later generated now = s.move caller phase s.db) := by
  unfold enqueueStep
  cases hcall : (requests caller).enqueueCall time later generated with
  | error error => exact Or.inr ⟨.raised error, fun _ ↦ DebouncePhase.noConfusion, rfl⟩
  | ok call =>
    have hisFresh := isFresh_enqueueCall hgenerated hcall
    have hnew : s.db.hasWorkflow call.status.workflowUuid = false := by
      rw [hisFresh.workflowUuid]
      exact hfresh
    rcases initWorkflow_of_fresh now hnew with ⟨error, hinit⟩ | ⟨result, rows, hinsert, hinit⟩
    · right
      simp only [hinit]
      by_cases hdeduplicated : isQueueDeduplicatedError error = true
      · rw [if_pos hdeduplicated]
        exact ⟨.bouncing, fun _ ↦ DebouncePhase.noConfusion, rfl⟩
      · rw [if_neg hdeduplicated]
        exact ⟨.raised error, fun _ ↦ DebouncePhase.noConfusion, rfl⟩
    · left
      refine ⟨call, rows, rfl, hisFresh, hinsert, ?_, ?_⟩
      · rw [hinit]
        rfl
      · simp only [hinit, hisFresh.workflowUuid]

/-- The row of a fresh debounced workflow. -/
theorem insertedRow_of_isFresh {request : DebounceRequest} {generated : String} {call : InitCall}
    (h : IsFresh request generated call) (now : ℤ) :
    (call.insertedRow now).workflowUuid = generated ∧
      (call.insertedRow now).isDebounced = true ∧ (call.insertedRow now).status = .delayed ∧
      (call.insertedRow now).deduplicationId ≠ none ∧ HasInputs request (call.insertedRow now) := by
  refine ⟨h.workflowUuid, h.isDebounced, h.status, ?_, ?_, ?_⟩
  · rw [InitCall.insertedRow, h.deduplicationId]
    exact Option.some_ne_none _
  · rw [InitCall.insertedRow, h.inputs]
  · rw [InitCall.insertedRow, h.serialization]

/-- The invariant after a fresh workflow was inserted. -/
theorem invariant_return_enqueue [DecidableEq ι] (h : DebounceInvariant requests s) (caller : ι)
    {generated : String} {call : InitCall} {rows : Table WorkflowStatusRow.workflowUuid}
    (hfresh : s.db.hasWorkflow generated = false) (hcall : IsFresh (requests caller) generated call)
    (hinsert : s.db.workflowStatus.insertNew (call.insertedRow now) = some rows)
    (hafter : (initWorkflow call now s.db).stateAfter s.db = { s.db with workflowStatus := rows }) :
    DebounceInvariant requests (s.return caller generated { s.db with workflowStatus := rows }) := by
  obtain ⟨hid, -, hstatus, hkey, hinputs⟩ := insertedRow_of_isFresh hcall now
  have hunique : UniqueKeys (StatusOp.apply (.init call hcall.built) now s.db) :=
    uniqueKeys_apply h.unique
  have hdelayed : KeysDelayed (StatusOp.apply (.init call hcall.built) now s.db) := by
    apply keysDelayed_apply h.delayed
    intro row' hcreated _
    cases hcreated
    exact hstatus
  rw [StatusOp.apply, hafter] at hunique hdelayed
  refine ⟨hunique, hdelayed, ?_⟩
  intro row hrow hdebounced hrowDelayed
  rcases (Table.mem_insertNew hinsert).mp hrow with hold | rfl
  · have hne : generated ≠ row.workflowUuid := by
      rintro rfl
      rw [SystemDatabase.hasWorkflow_iff.mpr ⟨row, hold, rfl⟩] at hfresh
      cases hfresh
    rw [DebounceState.return, lastCaller_of_ne s.handles caller hne]
    exact h.held row hold hdebounced hrowDelayed
  · refine ⟨hkey, caller, ?_, hinputs⟩
    rw [hid]
    exact lastCaller_self s.handles caller generated

/-! ### Every step -/

theorem invariant_step [DecidableEq ι] (h : DebounceInvariant requests s)
    {action : DebounceAction ι} (hstep : (debounceSystem requests).step s action = some s') :
    DebounceInvariant requests s' := by
  cases action with
  | bounce caller time now =>
    simp only [debounceSystem, Option.ite_none_right_eq_some, Option.some.injEq] at hstep
    obtain ⟨-, rfl⟩ := hstep
    rcases bounceStep_cases requests s caller time now with
      ⟨row, hrow, hbounces, heq⟩ | ⟨phase, -, hnone, heq⟩
    · rw [heq]
      exact invariant_return_bounce h caller time now hrow hbounces
    · rw [heq]
      exact h.of_rows (statusRows_of_not_bounced now hnone) rfl
  | enqueue caller time later generated now =>
    simp only [debounceSystem, Option.ite_none_right_eq_some, Option.some.injEq] at hstep
    obtain ⟨⟨-, hgenerated, hfresh⟩, rfl⟩ := hstep
    rcases enqueueStep_cases requests caller time later now hgenerated hfresh with
      ⟨call, rows, -, hcall, hinsert, hafter, heq⟩ | ⟨phase, -, heq⟩
    · rw [heq]
      exact invariant_return_enqueue h caller hfresh hcall hinsert hafter
    · rw [heq]
      exact h.of_rows rfl rfl
  | write op now =>
    simp only [debounceSystem, Option.ite_none_left_eq_some, Option.some.injEq] at hstep
    obtain ⟨hop, rfl⟩ := hstep
    exact invariant_write h (by simpa using hop) now

theorem invariant_beforeDebounce : DebounceInvariant requests (beforeDebounce requests) := by
  refine ⟨?_, ?_, ?_⟩
  all_goals
    intro row hrow
    cases hrow

end Invariant

/-! ## The promises -/

section Kept

variable {ι : Type} [DecidableEq ι] {requests : ι → DebounceRequest} {s s' : DebounceState ι}

/-- A move of another call, or to no handle, returns no handle. -/
theorem phase_move_ne {caller other : ι} {phase : DebouncePhase} {db : SystemDatabase}
    {workflowId : String} (hphase : ∀ workflowId, phase ≠ .returned workflowId)
    (hbefore : s.phase other ≠ .returned workflowId) :
    (s.move caller phase db).phase other ≠ .returned workflowId := by
  simp only [DebounceState.move, Function.update_apply]
  split
  · exact hphase workflowId
  · exact hbefore

/-- The call that returns a handle is the one that took the step. -/
theorem of_phase_return {caller other : ι} {db : SystemDatabase} {workflowId workflowId' : String}
    (hbefore : s.phase other ≠ .returned workflowId)
    (hafter : (s.return caller workflowId' db).phase other = .returned workflowId) :
    other = caller ∧ workflowId' = workflowId := by
  simp only [DebounceState.return, Function.update_apply] at hafter
  split at hafter
  · rename_i hsame
    cases hafter
    exact ⟨hsame, rfl⟩
  · exact absurd hafter hbefore

theorem writesInputs_of_step {action : DebounceAction ι}
    (hstep : (debounceSystem requests).step s action = some s') {caller : ι} {workflowId : String}
    (hbefore : s.phase caller ≠ .returned workflowId)
    (hafter : s'.phase caller = .returned workflowId) :
    (∃ row ∈ s'.db.statusRows, row.workflowUuid = workflowId ∧ row.isDebounced = true ∧
      row.status = .delayed ∧ HasInputs (requests caller) row) ∧
    ∀ row ∈ s.db.statusRows, row.workflowUuid = workflowId → row.status = .delayed := by
  cases action with
  | bounce mover time now =>
    simp only [debounceSystem, Option.ite_none_right_eq_some, Option.some.injEq] at hstep
    obtain ⟨-, rfl⟩ := hstep
    rcases bounceStep_cases requests s mover time now with
      ⟨row, hrow, hbounces, heq⟩ | ⟨phase, hphase, -, heq⟩
    · rw [heq] at hafter ⊢
      obtain ⟨rfl, rfl⟩ := of_phase_return hbefore hafter
      obtain ⟨-, -, -, hdelayed, hdebounced⟩ := bounces_iff.mp hbounces
      constructor
      · refine ⟨((requests caller).bounceCall time).bounceUpdate now row, ?_, rfl, hdebounced,
          hdelayed, rfl, rfl⟩
        rw [DebounceState.return, db_debounceDelayedWorkflow]
        exact Table.mem_update.mpr ⟨row, hrow, (if_pos hbounces).symm⟩
      · intro other hother hid
        rw [s.db.workflowStatus.eq_of_key hother hrow hid]
        exact hdelayed
    · rw [heq] at hafter
      exact absurd hafter (phase_move_ne hphase hbefore)
  | enqueue mover time later generated now =>
    simp only [debounceSystem, Option.ite_none_right_eq_some, Option.some.injEq] at hstep
    obtain ⟨⟨-, hgenerated, hfresh⟩, rfl⟩ := hstep
    rcases enqueueStep_cases requests mover time later now hgenerated hfresh with
      ⟨call, rows, -, hcall, hinsert, -, heq⟩ | ⟨phase, hphase, heq⟩
    · rw [heq] at hafter ⊢
      obtain ⟨rfl, rfl⟩ := of_phase_return hbefore hafter
      obtain ⟨hid, hdebounced, hstatus, -, hinputs⟩ := insertedRow_of_isFresh hcall now
      constructor
      · exact ⟨call.insertedRow now, (Table.mem_insertNew hinsert).mpr (Or.inr rfl), hid, hdebounced,
          hstatus, hinputs⟩
      · intro other hother hother'
        rw [SystemDatabase.hasWorkflow_iff.mpr ⟨other, hother, hother'⟩] at hfresh
        cases hfresh
    · rw [heq] at hafter
      exact absurd hafter (phase_move_ne hphase hbefore)
  | write op now =>
    simp only [debounceSystem, Option.ite_none_left_eq_some, Option.some.injEq] at hstep
    obtain ⟨-, rfl⟩ := hstep
    exact absurd hafter hbefore

theorem debounces_of_invariant (h : DebounceInvariant requests s) : Debounces requests s where
  atMostOne := by
    rintro caller row hrow other hother ⟨-, hqueue, hkey, -⟩ - ⟨-, hqueue', hkey', -⟩ -
    exact h.unique.eq_of_key hrow hother hqueue hqueue' hkey hkey'
  delayed_iff := by
    intro row hrow hdebounced
    constructor
    · intro hdelayed
      exact (h.held row hrow hdebounced hdelayed).1
    · exact h.delayed row hrow hdebounced
  neverRetry := classifyBounce_ne_retry h.delayed
  writesInputs := by
    intro action s' hstep caller workflowId hbefore hafter
    exact writesInputs_of_step hstep hbefore hafter
  lastInputs := by
    intro nowMs row hrow hdebounced hdelayed row' hrow' hid hleft
    obtain ⟨-, caller, hlast, hinputs⟩ := h.held row hrow hdebounced hdelayed
    have hchange : RowChange 0 s.db (.transition nowMs) row row' := rowChange_of_mem hrow hrow' hid
    refine ⟨caller, hlast, ?_⟩
    cases hchange with
    | unchanged => exact absurd hdelayed hleft
    | transition => exact hinputs

end Kept

/-- In every state that debounce calls reach, interleaved with any operations on the status table,
debouncing keeps its promises. -/
theorem debounces_of_reaches {ι : Type} [DecidableEq ι] (requests : ι → DebounceRequest)
    {s : DebounceState ι} (h : (debounceSystem requests).Reaches (beforeDebounce requests) s) :
    Debounces requests s := by
  apply debounces_of_invariant
  exact System.reaches_invariant _ (fun _ _ _ hinvariant hstep ↦ invariant_step hinvariant hstep)
    invariant_beforeDebounce h

/-- Two clients debounce the same key, with different inputs. -/
def twoClients (second : Bool) : DebounceRequest where
  origin := .client none { workflowName := "f", queueName := "q" }
  workflowName := "f"
  debounceKey := "k"
  debouncePeriodSec := 1
  inputs := if second then "new" else "old"
  serialization := "py_pickle"

/-- Both find the key free. The first one enqueues, the second one is rejected and bounces the new
workflow, which then leaves DELAYED with the inputs of the second. -/
def bothEnqueue : List (DebounceAction Bool) :=
  [.bounce false 0 0, .bounce true 0 0, .enqueue false 0 0 "wf" 0, .enqueue true 0 0 "other" 0,
    .bounce true 0 0, .write (.transition 1000) 1000]

theorem debounces_bothEnqueue :
    ∃ s, (debounceSystem twoClients).run (beforeDebounce twoClients) bothEnqueue = some s ∧
      Debounces twoClients s ∧ s.handles = [(true, "wf"), (false, "wf")] ∧
      (s.db.statusRows.map fun row ↦ (row.workflowUuid, row.status, row.inputs)) =
        [("wf", .enqueued, some "new")] := by
  refine ⟨_, rfl, ?_, by decide, by decide +kernel⟩
  exact debounces_of_reaches twoClients ⟨bothEnqueue, rfl⟩

end DBOSModel.Debouncer

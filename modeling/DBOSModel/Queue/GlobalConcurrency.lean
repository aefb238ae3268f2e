import DBOSModel.Relational.Snapshot
import DBOSModel.SysDb.StatusOperation

/-!
# Global queue concurrency

Workers of any application versions dequeue from queues concurrently with enqueues, completions and
every other operation on the status table. A queue with a global limit is dequeued under REPEATABLE
READ with `FOR UPDATE NOWAIT`, so each transaction counts the PENDING rows of its own snapshot.

The limit holds along every run in which no dequeue of the queue commits while more workflows are
PENDING than its snapshot counted. It does not hold along every run: two transactions that select
different rows do not conflict, so both can take the same free place.
-/

namespace DBOSModel.Queue

open Relational SysDb DBOSModel.Core

/-- `global_pending_workflows` of a queue, or of one partition of it. -/
def pendingCount (queue : SysDb.Queue) (partitionKey : Option String) (db : SystemDatabase) : ℕ :=
  db.workflowStatus.count fun row ↦ onBucket queue.name partitionKey row && row.status = .pending

/-- One poll of a worker: the call and the database clock of its transaction. -/
structure Dequeue where
  call : DequeueCall
  now : ℤ
deriving DecidableEq

/-- The rows that the selection locks; a used-up rate limit returns before it. -/
def selectedIds (call : DequeueCall) (db : SystemDatabase) : List String :=
  match call.queue.limiter with
  | none => call.dequeuedIds db
  | some limiter => if limiter.limit ≤ call.numRecent limiter db then [] else call.dequeuedIds db

/-- Dequeues of queues with a global limit are snapshot transactions. Queues without one are
dequeued row by row with `SKIP LOCKED`, here as atomic operations like all others. -/
def dequeueSpec (config : String → SysDb.Queue) :
    SnapshotSpec Dequeue StatusAction SystemDatabase String WorkflowStatusRow where
  get db id := db.workflowStatus.lookup id
  admits
    | (.startQueued call, _) => isPoll config call && call.queue.concurrency.isNone
    | _ => true
  apply operation := operation.1.apply operation.2
  starts work := isPoll config work.call && work.call.queue.concurrency.isSome
  selects work := selectedIds work.call
  writes work snapshot := (startQueuedWorkflows work.call work.now snapshot).1
  publish work snapshot :=
    work.call.startAll work.now (startQueuedWorkflows work.call work.now snapshot).1

abbrev DequeueState := SnapshotState String Dequeue SystemDatabase
abbrev DequeueAction := SnapshotAction String Dequeue StatusAction

/-- A database with no dequeue in flight. -/
def idle (db : SystemDatabase) : DequeueState where
  current := db
  inFlight := []

/-- The interleavings of dequeues with each other and with the other status operations. -/
def dequeueSystem (config : String → SysDb.Queue) : System DequeueState DequeueAction :=
  snapshotSystem (dequeueSpec config)

section Limit

variable {config : String → SysDb.Queue} {queue : SysDb.Queue} {partitionKey : Option String}
  {now : ℤ} {db : SystemDatabase} {op : StatusOp} {row row' : WorkflowStatusRow}

/-! ## The other operations -/

/-- A row that is PENDING in a bucket after a change that does not start workflows of that queue
was PENDING in the bucket before. -/
theorem pending_of_rowChange (hchange : RowChange now db op row row')
    (hstart : ∀ call, op = .startQueued call → call.queue.name ≠ queue.name)
    (hbucket : onBucket queue.name partitionKey row') (hpending : row'.status = .pending) :
    onBucket queue.name partitionKey row ∧ row.status = .pending := by
  cases hchange with
  | unchanged => exact ⟨hbucket, hpending⟩
  | conflict call built row hid => exact ⟨hbucket, hpending⟩
  | deadLetter => cases hpending
  | outcome workflowId status complete output error row hid hstatus =>
    have hcomplete : status = .pending := hpending
    rw [hcomplete] at complete
    cases complete
  | cancel => cases hpending
  | resume => cases hpending
  | setDelay => exact ⟨hbucket, hpending⟩
  | debounce call row hrow => exact ⟨hbucket, hpending⟩
  | transition => cases hpending
  | startQueued call row hid heligible =>
    have hcall : row.queueName = some call.queue.name :=
      onBucket_queueName (DequeueCall.isEligible_onQueue heligible)
    have hqueue : row.queueName = some queue.name := onBucket_queueName hbucket
    exact absurd (Option.some.inj (hcall.symm.trans hqueue)) (hstart call rfl)
  | clear => cases hpending
  | fork => exact ⟨hbucket, hpending⟩

/-- A new row on a queue is not PENDING. -/
theorem not_pending_of_created (hcreated : Created now db op row')
    (hbucket : onBucket queue.name partitionKey row') : row'.status ≠ .pending := by
  cases hcreated with
  | init call built =>
    have hqueue : call.status.queueName = some queue.name := onBucket_queueName hbucket
    simp only [InitCall.insertedRow]
    rcases built.statusFits with ⟨-, hnone⟩ | ⟨hstatus, -⟩ | ⟨hstatus, -, -⟩
    · rw [hnone] at hqueue
      cases hqueue
    · rw [hstatus]
      decide
    · rw [hstatus]
      decide
  | fork call entry original marked =>
    intro hstatus
    cases hstatus

/-- Apart from dequeues of the queue itself, no operation raises the count. -/
theorem pendingCount_apply_le
    (hstart : ∀ call, op = .startQueued call → call.queue.name ≠ queue.name) :
    pendingCount queue partitionKey (op.apply now db) ≤ pendingCount queue partitionKey db := by
  apply Table.count_le_of_keys
  intro row' hrow' hcounted
  simp only [Bool.and_eq_true, decide_eq_true_eq] at hcounted
  rcases mem_apply hrow' with ⟨row, hrow, hid, hchange⟩ | ⟨-, hcreated⟩
  · have hbefore := pending_of_rowChange hchange hstart hcounted.1 hcounted.2
    exact ⟨row, hrow, hid, by simp [hbefore.1, hbefore.2]⟩
  · exact absurd hcounted.2 (not_pending_of_created hcreated hcounted.1)

/-! ## Commits -/

/-- A commit adds at most the rows it writes. -/
theorem pendingCount_startAll_le (call : DequeueCall) (ids : List String) :
    pendingCount queue partitionKey (call.startAll now ids db) ≤
      pendingCount queue partitionKey db + ids.length := by
  apply Table.count_le_add_of_keys
  intro row' hrow' hcounted
  obtain ⟨row, hrow, rfl⟩ := DequeueCall.mem_startAll.mp hrow'
  by_cases hid : row.workflowUuid ∈ ids
  · right
    rw [if_pos hid]
    exact hid
  · left
    rw [if_neg hid] at hcounted ⊢
    exact ⟨row, hrow, rfl, hcounted⟩

/-- The starts of a transaction fit in the places its snapshot leaves free. -/
theorem length_starts_le {call : DequeueCall} {limit : ℤ} (hlimit : call.queue.concurrency = some limit)
    (hcount : (call.globalPending db : ℤ) ≤ limit) :
    ((startQueuedWorkflows call now db).1.length + call.globalPending db : ℤ) ≤ limit := by
  have hselected := DequeueCall.length_dequeuedIds_le_concurrency hlimit hcount
  have hlength := (startQueuedWorkflows_sublist call now db).length_le
  omega

/-- With no place free, the transaction starts nothing. -/
theorem starts_eq_nil {call : DequeueCall} {limit : ℤ} (hlimit : call.queue.concurrency = some limit)
    (hcount : limit < call.globalPending db) : (startQueuedWorkflows call now db).1 = [] := by
  have hlength := (startQueuedWorkflows_sublist call now db).length_le
  have hselected : (call.dequeuedIds db).length ≤ 0 := by
    cases hworker : call.queue.workerConcurrency with
    | none =>
      apply DequeueCall.length_dequeuedIds_le
      simp only [DequeueCall.maxTasks, hlimit, hworker, Option.map_none, Option.map_some,
        Option.some.injEq]
      omega
    | some worker =>
      apply DequeueCall.length_dequeuedIds_le
      simp only [DequeueCall.maxTasks, hlimit, hworker, Option.map_some, Option.some.injEq]
      omega
  exact List.length_eq_zero_iff.mp (by omega)

/-- The workflows that a dequeue starts lie in the bucket of its call, so the PENDING rows of a
disjoint bucket are as before. -/
theorem pendingCount_startAll_disjoint {call : DequeueCall} {snapshot : SystemDatabase}
    (hdisjoint : ∀ row, call.onQueue row → ¬onBucket queue.name partitionKey row)
    (hunchanged : ∀ id ∈ (startQueuedWorkflows call now snapshot).1,
      db.workflowStatus.lookup id = snapshot.workflowStatus.lookup id) :
    pendingCount queue partitionKey
        (call.startAll now (startQueuedWorkflows call now snapshot).1 db) ≤
      pendingCount queue partitionKey db := by
  apply Table.count_le_of_keys
  intro row' hrow' hcounted
  obtain ⟨row, hrow, rfl⟩ := DequeueCall.mem_startAll.mp hrow'
  by_cases hid : row.workflowUuid ∈ (startQueuedWorkflows call now snapshot).1
  · -- the row is the one the snapshot selected, so it is in the bucket of the call
    have hselected := hunchanged row.workflowUuid hid
    obtain ⟨selected, hmem, hselectedId, heligible⟩ :=
      DequeueCall.exists_eligible ((startQueuedWorkflows_sublist call now snapshot).subset hid)
    rw [db.workflowStatus.lookup_key_of_mem hrow, ← hselectedId,
      snapshot.workflowStatus.lookup_key_of_mem hmem] at hselected
    have honQueue := DequeueCall.isEligible_onQueue heligible
    rw [← Option.some.inj hselected] at honQueue
    rw [if_pos hid] at hcounted
    simp only [Bool.and_eq_true] at hcounted
    exact absurd hcounted.1 (hdisjoint row honQueue)
  · rw [if_neg hid] at hcounted ⊢
    exact ⟨row, hrow, rfl, hcounted⟩

/-! ## Runs -/

/-- When a dequeue of the bucket commits, no more workflows are PENDING in it than the snapshot of
the transaction counted. -/
def CommitsOnFreshCount (queue : SysDb.Queue) (partitionKey : Option String) (s : DequeueState) :
    DequeueAction → Prop
  | .commit worker => ∀ t ∈ s.transaction worker,
      t.work.call.queue.name = queue.name → t.work.call.queuePartitionKey = partitionKey →
        pendingCount queue partitionKey s.current ≤ pendingCount queue partitionKey t.snapshot
  | _ => True

instance (queue : SysDb.Queue) (partitionKey : Option String) (s : DequeueState) :
    (a : DequeueAction) → Decidable (CommitsOnFreshCount queue partitionKey s a)
  | .commit worker => inferInstanceAs (Decidable (∀ t ∈ s.transaction worker, _))
  | .apply _ => isTrue trivial
  | .start _ _ => isTrue trivial
  | .lock _ => isTrue trivial
  | .abort _ => isTrue trivial

/-- The commit of a dequeue of the bucket itself. -/
theorem pendingCount_commit_le {call : DequeueCall} {snapshot : SystemDatabase} {limit : ℤ}
    (hcall : call.queue = queue) (hkey : call.queuePartitionKey = partitionKey)
    (hlimit : queue.concurrency = some limit)
    (hfresh : pendingCount queue partitionKey db ≤ pendingCount queue partitionKey snapshot)
    (hle : (pendingCount queue partitionKey db : ℤ) ≤ limit) :
    (pendingCount queue partitionKey
      (call.startAll now (startQueuedWorkflows call now snapshot).1 db) : ℤ) ≤ limit := by
  subst hcall hkey
  have hadded : pendingCount call.queue call.queuePartitionKey
      (call.startAll now (startQueuedWorkflows call now snapshot).1 db) ≤
        pendingCount call.queue call.queuePartitionKey db +
          (startQueuedWorkflows call now snapshot).1.length :=
    pendingCount_startAll_le call _
  have hsnapshot : pendingCount call.queue call.queuePartitionKey snapshot =
      call.globalPending snapshot := rfl
  by_cases hfull : limit < call.globalPending snapshot
  · rw [starts_eq_nil hlimit hfull] at hadded ⊢
    simp only [List.length_nil] at hadded
    omega
  · have hstarts : ((startQueuedWorkflows call now snapshot).1.length +
        call.globalPending snapshot : ℤ) ≤ limit := length_starts_le hlimit (by omega)
    omega

/-- Two polls that both name a partition, or both none, and do not agree on it share no row. -/
theorem not_onBucket_of_key_ne {call : DequeueCall}
    (hboth : call.queuePartitionKey.isSome = partitionKey.isSome)
    (hne : call.queuePartitionKey ≠ partitionKey) (honQueue : call.onQueue row) :
    ¬onBucket queue.name partitionKey row := by
  intro hbucket
  -- the keys differ, so both are present
  cases hother : call.queuePartitionKey with
  | none =>
    rw [hother, Option.isSome_none, eq_comm, Option.isSome_eq_false_iff,
      Option.isNone_iff_eq_none] at hboth
    exact hne (hother.trans hboth.symm)
  | some otherKey =>
    rw [hother, Option.isSome_some, eq_comm, Option.isSome_iff_exists] at hboth
    obtain ⟨key, rfl⟩ := hboth
    rw [DequeueCall.onQueue, hother] at honQueue
    have hkeys := (onBucket_partitionKey honQueue).symm.trans (onBucket_partitionKey hbucket)
    exact hne (hother.trans hkeys)

/-- One step keeps the bound. -/
theorem pendingCount_step_le {s s' : DequeueState} {a : DequeueAction} {limit : ℤ}
    (hqueue : config queue.name = queue) (hlimit : queue.concurrency = some limit)
    (hkey : partitionKey.isSome = queue.partitionQueue)
    (hstarts : StartsInFlight (dequeueSpec config) s)
    (hle : (pendingCount queue partitionKey s.current : ℤ) ≤ limit)
    (hfresh : CommitsOnFreshCount queue partitionKey s a)
    (hstep : (dequeueSystem config).step s a = some s') :
    (pendingCount queue partitionKey s'.current : ℤ) ≤ limit := by
  rcases snapshotSystem_step hstep with ⟨⟨op, now⟩, -, hadmits, rfl⟩ | ⟨worker, work, -, -, rfl⟩ |
    ⟨worker, -, rfl⟩ | ⟨worker, t, rfl, ht, hunchanged, rfl⟩ | ⟨worker, -, rfl⟩
  · -- an atomic dequeue belongs to a queue without a limit
    have hother : ∀ call, op = .startQueued call → call.queue.name ≠ queue.name := by
      intro call hop hname
      subst hop
      simp only [dequeueSpec, isPoll, Bool.and_eq_true, decide_eq_true_eq] at hadmits
      rw [hadmits.1.1, hname, hqueue, hlimit] at hadmits
      cases hadmits.2
    have happly : pendingCount queue partitionKey (op.apply now s.current) ≤
        pendingCount queue partitionKey s.current := pendingCount_apply_le hother
    simp only [dequeueSpec]
    omega
  · exact hle
  · exact hle
  · have hpoll := hstarts _ (SnapshotState.transaction_mem ht)
    simp only [dequeueSpec, isPoll, Bool.and_eq_true, decide_eq_true_eq] at hpoll
    obtain ⟨⟨hconfig, hcallKey⟩, -⟩ := hpoll
    have hdisjoint (hother :
        ∀ row, t.work.call.onQueue row → ¬onBucket queue.name partitionKey row) :
        (pendingCount queue partitionKey (t.work.call.startAll t.work.now
          (startQueuedWorkflows t.work.call t.work.now t.snapshot).1 s.current) : ℤ) ≤ limit := by
      have hsame := pendingCount_startAll_disjoint hother hunchanged
      omega
    simp only [SnapshotState.finish, dequeueSpec]
    by_cases hname : t.work.call.queue.name = queue.name
    · rw [hname, hqueue] at hconfig
      by_cases hsame : t.work.call.queuePartitionKey = partitionKey
      · exact pendingCount_commit_le hconfig hsame hlimit (hfresh t ht hname hsame) hle
      · rw [hconfig, ← hkey] at hcallKey
        exact hdisjoint fun row honQueue ↦ not_onBucket_of_key_ne hcallKey hsame honQueue
    · apply hdisjoint
      intro row honQueue hbucket
      have hnames := (onBucket_queueName honQueue).symm.trans (onBucket_queueName hbucket)
      exact hname (Option.some.inj hnames)
  · exact hle

/-- The limit holds after every run whose dequeues of the bucket all commit on a fresh count. -/
theorem pending_le_concurrency (config : String → SysDb.Queue) (queue : SysDb.Queue)
    (partitionKey : Option String) (limit : ℤ) (hqueue : config queue.name = queue)
    (hlimit : queue.concurrency = some limit) (hkey : partitionKey.isSome = queue.partitionQueue)
    (db : SystemDatabase) (hinitial : (pendingCount queue partitionKey db : ℤ) ≤ limit)
    (actions : List DequeueAction) (s : DequeueState)
    (hfresh : (dequeueSystem config).Along (CommitsOnFreshCount queue partitionKey)
      (idle db) actions)
    (hrun : (dequeueSystem config).run (idle db) actions = some s) :
    (pendingCount queue partitionKey s.current : ℤ) ≤ limit := by
  have hempty : StartsInFlight (dequeueSpec config) (idle db) := by
    intro entry hentry
    cases hentry
  have hinvariant := (dequeueSystem config).run_invariant
    (I := fun s ↦ StartsInFlight (dequeueSpec config) s ∧
      (pendingCount queue partitionKey s.current : ℤ) ≤ limit)
    (fun s a s' hs hcommit hstep ↦ ⟨startsInFlight_step hs.1 hstep,
      pendingCount_step_le hqueue hlimit hkey hs.1 hs.2 hcommit hstep⟩)
    ⟨hempty, hinitial⟩ hfresh hrun
  exact hinvariant.2

end Limit

/-! ## Two versions on one queue -/

/-- A queue with one place. -/
def oneAtATime : SysDb.Queue := { name := "q", concurrency := some 1 }

/-- An enqueue through the client for one application version. -/
def enqueueFor (workflowId appVersion : String) : DequeueAction :=
  .apply (.init { status := enqueuedStatus workflowId "q" appVersion }
    (built_enqueuedStatus workflowId "q" appVersion), 0)

/-- The poll of a worker that runs one version. -/
def pollFor (appVersion : String) : Dequeue where
  call := { queue := oneAtATime, executorId := appVersion, appVersion := appVersion }
  now := 0

/-- One dequeue after the other: the second snapshot counts what the first one started. -/
theorem pending_le_concurrency_sequential :
    ∃ s, (dequeueSystem fun _ ↦ oneAtATime).run (idle SystemDatabase.empty)
        [enqueueFor "a" "v1", enqueueFor "b" "v2", .start "w1" (pollFor "v1"), .lock "w1",
          .commit "w1", .start "w2" (pollFor "v2"), .lock "w2", .commit "w2"] = some s ∧
      (pendingCount oneAtATime none s.current : ℤ) ≤ 1 := by
  obtain ⟨s, hs⟩ := Option.isSome_iff_exists.mp
    (show ((dequeueSystem fun _ ↦ oneAtATime).run (idle SystemDatabase.empty)
        [enqueueFor "a" "v1", enqueueFor "b" "v2", .start "w1" (pollFor "v1"), .lock "w1",
          .commit "w1", .start "w2" (pollFor "v2"), .lock "w2", .commit "w2"]).isSome by decide)
  exact ⟨s, hs, pending_le_concurrency (fun _ ↦ oneAtATime) oneAtATime none 1 rfl rfl rfl
    SystemDatabase.empty (by decide) _ s (by decide) hs⟩

/-- With both snapshots taken before either commit, the workers select different rows, and the
run from an empty database leaves two PENDING workflows on the queue with limit 1. -/
theorem pending_exceeds_concurrency :
    oneAtATime.concurrency = some 1 ∧ pendingCount oneAtATime none SystemDatabase.empty = 0 ∧
      ((dequeueSystem fun _ ↦ oneAtATime).run (idle SystemDatabase.empty)
        [enqueueFor "a" "v1", enqueueFor "b" "v2", .start "w1" (pollFor "v1"),
          .start "w2" (pollFor "v2"), .lock "w1", .lock "w2", .commit "w1", .commit "w2"]).map
        (fun s ↦ pendingCount oneAtATime none s.current) = some 2 := by
  decide

end DBOSModel.Queue

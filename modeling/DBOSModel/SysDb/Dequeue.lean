import DBOSModel.SysDb.WorkflowStatus

/-!
# `start_queued_workflows`

The dequeue of one worker on one queue, or on one partition of it. The function reads counts from
one snapshot, selects rows in `(priority, created_at)` order, and moves the selected rows to
PENDING one at a time until the limiter's quota is used up. Ties of the order are broken by row
order, which is arbitrary in a table.

`startQueuedWorkflows` is the transaction run on one state. It comes down to one assignment to the
rows it returns (`startQueuedWorkflows_eq`), which is what a transaction on an older snapshot
writes to the current rows; `DBOSModel.Queue.GlobalConcurrency` runs such transactions
concurrently.
-/

namespace DBOSModel.SysDb

open Relational

/-- `QueueRateLimit`: at most `limit` starts in `period` seconds. -/
structure QueueRateLimit where
  limit : ℤ
  period : ℚ
deriving DecidableEq

/-- The configuration of a queue that the dequeue reads. -/
structure Queue where
  name : String
  concurrency : Option ℤ := none
  limiter : Option QueueRateLimit := none
  workerConcurrency : Option ℤ := none
  partitionQueue : Bool := false
deriving DecidableEq

/-- `limiter_period_ms`. The period is the exact value of the double, and the product is not rounded:
4.35 s gives 4349 here, since the double is below 4.35, and 4350 in the source. -/
def QueueRateLimit.periodMs (limiter : QueueRateLimit) : ℤ := pyInt (limiter.period * 1000)

/-- The row is on the named queue and, when a partition key is given, on that partition. -/
def onBucket (queueName : String) (partitionKey : Option String) (row : WorkflowStatusRow) : Bool :=
  row.queueName = some queueName &&
    (match partitionKey with
    | some key => decide (row.queuePartitionKey = some key)
    | none => true)

theorem onBucket_queueName {queueName : String} {partitionKey : Option String}
    {row : WorkflowStatusRow} (h : onBucket queueName partitionKey row) :
    row.queueName = some queueName := by
  simp only [onBucket, Bool.and_eq_true, decide_eq_true_eq] at h
  exact h.1

theorem onBucket_partitionKey {queueName key : String} {row : WorkflowStatusRow}
    (h : onBucket queueName (some key) row) : row.queuePartitionKey = some key := by
  simp only [onBucket, Bool.and_eq_true, decide_eq_true_eq] at h
  exact h.2

/-- The arguments of one call, with the clock reading `start_time_ms` it makes. -/
structure DequeueCall where
  queue : Queue
  executorId : String
  appVersion : String
  queuePartitionKey : Option String := none
  localRunningCount : ℤ := 0
  startTimeMs : ℤ := 0
deriving DecidableEq

/-- What `queue_worker_thread` passes: the registered configuration of the queue, and a partition
key exactly on a partitioned queue. -/
def isPoll (config : String → Queue) (call : DequeueCall) : Bool :=
  call.queue = config call.queue.name && call.queuePartitionKey.isSome = call.queue.partitionQueue

namespace DequeueCall

variable (call : DequeueCall)

/-- The row is in the bucket that the call works on. -/
def onQueue (row : WorkflowStatusRow) : Bool :=
  onBucket call.queue.name call.queuePartitionKey row

/-- The rows the limiter counts as started in its period. -/
def recentlyStarted (limiter : QueueRateLimit) (row : WorkflowStatusRow) : Bool :=
  call.onQueue row && row.rateLimited && !row.status.isEnqueued &&
    (match row.startedAtEpochMs with
    | some startedAt => decide (call.startTimeMs - limiter.periodMs < startedAt)
    | none => false)

/-- `num_recent_queries`. -/
def numRecent (limiter : QueueRateLimit) (db : SystemDatabase) : ℕ :=
  db.workflowStatus.count (call.recentlyStarted limiter)

def isPending (row : WorkflowStatusRow) : Bool := call.onQueue row && row.status = .pending

/-- `global_pending_workflows`. -/
def globalPending (db : SystemDatabase) : ℕ := db.workflowStatus.count call.isPending

/-- `max_tasks`, where `none` is `sys.maxsize`. -/
def maxTasks (db : SystemDatabase) : Option ℕ :=
  let worker := call.queue.workerConcurrency.map fun limit ↦
    (limit - call.localRunningCount).toNat
  let available := call.queue.concurrency.map fun limit ↦ (limit - (call.globalPending db : ℤ)).toNat
  match worker, available with
  | none, none => none
  | some tasks, none => some tasks
  | none, some tasks => some tasks
  | some tasks, some tasks' => some (min tasks tasks')

/-- The registered version with the greatest timestamp. -/
def latestVersion (db : SystemDatabase) : Option String :=
  ((db.applicationVersions.rows.insertionSort
    fun left right ↦ right.versionTimestamp ≤ left.versionTimestamp).head?).map
      ApplicationVersionRow.versionName

def isLatestVersion (db : SystemDatabase) : Bool :=
  match latestVersion db with
  | none => true
  | some version => decide (version = call.appVersion)

/-- The `WHERE` clause of the selection. -/
def isEligible (db : SystemDatabase) (row : WorkflowStatusRow) : Bool :=
  call.onQueue row && row.status = .enqueued &&
    (row.applicationVersion = some call.appVersion ||
      (call.isLatestVersion db && row.applicationVersion.isNone))

/-- `ORDER BY priority, created_at`. -/
def before (left right : WorkflowStatusRow) : Prop :=
  left.priority < right.priority ∨
    (left.priority = right.priority ∧ left.createdAt ≤ right.createdAt)

instance : DecidableRel before := fun left right ↦
  inferInstanceAs (Decidable (left.priority < right.priority ∨
    (left.priority = right.priority ∧ left.createdAt ≤ right.createdAt)))

/-- `dequeued_ids`. -/
def dequeuedIds (db : SystemDatabase) : List String :=
  let eligible := (db.statusRows.filter (call.isEligible db)).insertionSort before
  let selected := match call.maxTasks db with
    | none => eligible
    | some tasks => eligible.take tasks
  selected.map WorkflowStatusRow.workflowUuid

/-- The `SET` clause that starts a workflow; `now` is the database clock. -/
def startUpdate (now : ℤ) (row : WorkflowStatusRow) : WorkflowStatusRow :=
  { row with
    status := .pending
    applicationVersion := some call.appVersion
    executorId := some call.executorId
    startedAtEpochMs := some call.startTimeMs
    rateLimited := call.queue.limiter.isSome
    -- If a timeout is set, set the deadline on dequeue
    workflowDeadlineEpochMs :=
      match row.workflowTimeoutMs, row.workflowDeadlineEpochMs with
      | some timeout, none => some (now + timeout)
      | _, deadline => deadline }

/-- Start one workflow if it is still ENQUEUED. -/
def startOne (now : ℤ) (id : String) (db : SystemDatabase) : SystemDatabase :=
  { db with
    workflowStatus := db.workflowStatus.update
      (fun row ↦ row.workflowUuid = id && row.status = .enqueued) (call.startUpdate now) }

/-- The number of workflows started this period has reached the limit. -/
def quotaUsed (numRecent : ℕ) (started : List String) : Bool :=
  match call.queue.limiter with
  | none => false
  | some limiter => decide (limiter.limit ≤ (started.length + numRecent : ℕ))

/-- The loop over `dequeued_ids`: `numRecent` is the limiter's count, `started` the IDs so far. -/
def startLoop (now : ℤ) (numRecent : ℕ) :
    List String → List String → SystemDatabase → List String × SystemDatabase
  | [], started, db => (started, db)
  | id :: rest, started, db =>
    if call.quotaUsed numRecent started then (started, db)
    else if db.workflowStatus.count (fun row ↦ row.workflowUuid = id && row.status = .enqueued) = 0
    then startLoop now numRecent rest started db
    else startLoop now numRecent rest (started ++ [id]) (call.startOne now id db)

/-- The loop's assignments as one statement on the rows with the given IDs. -/
def startAll (now : ℤ) (ids : List String) (db : SystemDatabase) : SystemDatabase :=
  { db with
    workflowStatus := db.workflowStatus.update
      (fun row ↦ row.workflowUuid ∈ ids) (call.startUpdate now) }

end DequeueCall

/-- `start_queued_workflows`, run alone on one state. -/
def startQueuedWorkflows (call : DequeueCall) (now : ℤ) (db : SystemDatabase) :
    List String × SystemDatabase :=
  match call.queue.limiter with
  | none => call.startLoop now 0 (call.dequeuedIds db) [] db
  | some limiter =>
    if limiter.limit ≤ call.numRecent limiter db then ([], db)
    else call.startLoop now (call.numRecent limiter db) (call.dequeuedIds db) [] db

namespace DequeueCall

variable {call : DequeueCall} {now : ℤ} {db : SystemDatabase}

/-! ## The selected rows -/

theorem dequeuedIds_sublist (call : DequeueCall) (db : SystemDatabase) :
    ∃ eligible : List WorkflowStatusRow,
      eligible.Perm (db.statusRows.filter (call.isEligible db)) ∧
        (call.dequeuedIds db).Sublist (eligible.map WorkflowStatusRow.workflowUuid) := by
  refine ⟨_, List.perm_insertionSort before _, ?_⟩
  unfold dequeuedIds
  apply List.Sublist.map
  cases call.maxTasks db with
  | none => exact List.Sublist.refl _
  | some tasks => exact List.take_sublist tasks _

theorem dequeuedIds_nodup : (call.dequeuedIds db).Nodup := by
  obtain ⟨eligible, hperm, hsublist⟩ := dequeuedIds_sublist call db
  apply hsublist.nodup
  rw [(hperm.map WorkflowStatusRow.workflowUuid).nodup_iff]
  exact db.workflowStatus.nodup_keys_filter (call.isEligible db)

/-- A selected ID is that of an eligible row. -/
theorem exists_eligible {id : String} (h : id ∈ call.dequeuedIds db) :
    ∃ row ∈ db.statusRows, row.workflowUuid = id ∧ call.isEligible db row := by
  obtain ⟨eligible, hperm, hsublist⟩ := dequeuedIds_sublist call db
  obtain ⟨row, hrow, rfl⟩ := List.mem_map.mp (hsublist.subset h)
  have hfilter := List.mem_filter.mp (hperm.mem_iff.mp hrow)
  exact ⟨row, hfilter.1, rfl, hfilter.2⟩

theorem length_dequeuedIds_le {tasks : ℕ} (h : call.maxTasks db = some tasks) :
    (call.dequeuedIds db).length ≤ tasks := by
  simp only [dequeuedIds, h, List.length_map]
  exact List.length_take_le tasks _

/-- The global limit bounds the selection by what the snapshot leaves free. -/
theorem length_dequeuedIds_le_concurrency {limit : ℤ} (h : call.queue.concurrency = some limit)
    (hcount : (call.globalPending db : ℤ) ≤ limit) :
    ((call.dequeuedIds db).length + call.globalPending db : ℤ) ≤ limit := by
  cases hworker : call.queue.workerConcurrency with
  | none =>
    have hle : (call.dequeuedIds db).length ≤ (limit - call.globalPending db).toNat :=
      length_dequeuedIds_le (by simp [maxTasks, h, hworker])
    omega
  | some worker =>
    have hle : (call.dequeuedIds db).length ≤
        min (worker - call.localRunningCount).toNat (limit - call.globalPending db).toNat :=
      length_dequeuedIds_le (by simp [maxTasks, h, hworker])
    omega

/-- The worker limit bounds the selection by what the local count leaves free. -/
theorem length_dequeuedIds_le_worker {limit : ℤ} (h : call.queue.workerConcurrency = some limit) :
    (call.dequeuedIds db).length ≤ (limit - call.localRunningCount).toNat := by
  cases hglobal : call.queue.concurrency with
  | none => exact length_dequeuedIds_le (by simp [maxTasks, h, hglobal])
  | some global =>
    have hle : (call.dequeuedIds db).length ≤
        min (limit - call.localRunningCount).toNat (global - call.globalPending db).toNat :=
      length_dequeuedIds_le (by simp [maxTasks, h, hglobal])
    omega

theorem isEligible_status {row : WorkflowStatusRow} (h : call.isEligible db row) :
    row.status = .enqueued := by
  simp only [isEligible, Bool.and_eq_true, decide_eq_true_eq] at h
  exact h.1.2

theorem isEligible_onQueue {row : WorkflowStatusRow} (h : call.isEligible db row) :
    call.onQueue row := by
  simp only [isEligible, Bool.and_eq_true] at h
  exact h.1.1

/-! ## The loop as one assignment -/

theorem mem_startAll {ids : List String} {row' : WorkflowStatusRow} :
    row' ∈ (call.startAll now ids db).statusRows ↔
      ∃ row ∈ db.statusRows,
        row' = if row.workflowUuid ∈ ids then call.startUpdate now row else row := by
  constructor
  · intro h
    obtain ⟨row, hrow, heq⟩ := Table.mem_update.mp h
    exact ⟨row, hrow, by simpa only [decide_eq_true_eq] using heq⟩
  · rintro ⟨row, hrow, heq⟩
    exact Table.mem_update.mpr ⟨row, hrow, by simpa only [decide_eq_true_eq] using heq⟩

theorem startAll_nil : call.startAll now [] db = db := by
  have hrows : db.workflowStatus.update (fun row ↦ row.workflowUuid ∈ []) (call.startUpdate now) =
      db.workflowStatus := by
    apply Table.ext
    simp [Table.update]
  simp only [startAll]
  rw [hrows]

/-- One more start: rows already started are PENDING, so the guard skips them. -/
theorem startOne_startAll {id : String} {started : List String}
    (h : ∀ row ∈ db.statusRows, row.workflowUuid = id → row.status = .enqueued) :
    call.startOne now id (call.startAll now started db) =
      call.startAll now (started ++ [id]) db := by
  have hrows : (call.startAll now started db).workflowStatus.update
        (fun row ↦ row.workflowUuid = id && row.status = .enqueued) (call.startUpdate now) =
      db.workflowStatus.update (fun row ↦ row.workflowUuid ∈ started ++ [id])
        (call.startUpdate now) := by
    apply Table.ext
    simp only [startAll, Table.update, List.map_map]
    apply List.map_congr_left
    intro row hrow
    have hstatus := h row hrow
    by_cases hstarted : row.workflowUuid ∈ started
    · simp [hstarted, startUpdate]
    · by_cases hid : row.workflowUuid = id
      · have hrowStatus := hstatus hid
        subst hid
        simp [hstarted, hrowStatus]
      · simp [hstarted, hid]
  simp only [startOne]
  rw [hrows]
  rfl

/-- The loop starts a sublist of the selected IDs, within the limiter's quota. -/
theorem startLoop_eq (call : DequeueCall) (now : ℤ) (numRecent : ℕ) {ids : List String}
    (started : List String)
    (h : ∀ id ∈ ids, ∀ row ∈ db.statusRows, row.workflowUuid = id → row.status = .enqueued) :
    ∃ added, added.Sublist ids ∧
      call.startLoop now numRecent ids started (call.startAll now started db) =
        (started ++ added, call.startAll now (started ++ added) db) ∧
      ∀ limiter, call.queue.limiter = some limiter → added ≠ [] →
        ((started.length + added.length + numRecent : ℕ) : ℤ) ≤ limiter.limit := by
  induction ids generalizing started with
  | nil => exact ⟨[], List.Sublist.refl _, by simp [startLoop], by simp⟩
  | cons id rest ih =>
    have hid := h id (by simp)
    have hrest : ∀ i ∈ rest, ∀ row ∈ db.statusRows, row.workflowUuid = i →
        row.status = .enqueued := fun i hi ↦ h i (by simp [hi])
    simp only [startLoop]
    split
    · exact ⟨[], List.nil_sublist _, by simp, by simp⟩
    · rename_i hquota
      split
      · obtain ⟨added, hsublist, heq, hbound⟩ := ih started hrest
        exact ⟨added, hsublist.cons id, heq, hbound⟩
      · rw [startOne_startAll hid]
        obtain ⟨added, hsublist, heq, hbound⟩ := ih (started ++ [id]) hrest
        refine ⟨id :: added, hsublist.cons_cons id, by simpa using heq, ?_⟩
        intro limiter hlimiter _
        -- with nothing added later, the quota test of this iteration is the bound
        by_cases hadded : added = []
        · subst hadded
          simp only [quotaUsed, hlimiter, decide_eq_true_eq, not_le] at hquota
          simp only [List.length_cons, List.length_nil]
          omega
        · have hle := hbound limiter hlimiter hadded
          simp only [List.length_append, List.length_cons, List.length_nil] at hle
          simp only [List.length_cons]
          omega

end DequeueCall

open DequeueCall in
/-- The whole transaction: it starts some of the selected rows, and nothing else changes. -/
theorem startQueuedWorkflows_eq (call : DequeueCall) (now : ℤ) (db : SystemDatabase) :
    ∃ ids, ids.Sublist (call.dequeuedIds db) ∧
      startQueuedWorkflows call now db = (ids, call.startAll now ids db) ∧
      ∀ limiter, call.queue.limiter = some limiter → ids ≠ [] →
        (ids.length + call.numRecent limiter db : ℤ) ≤ limiter.limit := by
  have henqueued : ∀ id ∈ call.dequeuedIds db, ∀ row ∈ db.statusRows, row.workflowUuid = id →
      row.status = .enqueued := by
    intro id hid row hrow hrowId
    obtain ⟨selected, hselected, hselectedId, heligible⟩ := exists_eligible hid
    have hsame := db.workflowStatus.eq_of_key hrow hselected (hrowId.trans hselectedId.symm)
    rw [hsame]
    exact isEligible_status heligible
  have hloop (numRecent : ℕ) := startLoop_eq call now numRecent [] henqueued
  simp only [startAll_nil, List.nil_append] at hloop
  unfold startQueuedWorkflows
  cases hlimiter : call.queue.limiter with
  | none =>
    obtain ⟨ids, hsublist, heq, -⟩ := hloop 0
    exact ⟨ids, hsublist, heq, by simp⟩
  | some limiter =>
    simp only
    split
    · exact ⟨[], List.nil_sublist _, by rw [startAll_nil], by simp⟩
    · obtain ⟨ids, hsublist, heq, hbound⟩ := hloop (call.numRecent limiter db)
      refine ⟨ids, hsublist, heq, ?_⟩
      intro limiter' hlimiter' hids
      cases hlimiter'
      have hle := hbound limiter hlimiter hids
      simp only [List.length_nil] at hle
      omega

/-- The returned IDs are selected ones. -/
theorem startQueuedWorkflows_sublist (call : DequeueCall) (now : ℤ) (db : SystemDatabase) :
    (startQueuedWorkflows call now db).1.Sublist (call.dequeuedIds db) := by
  obtain ⟨ids, hsublist, heq, -⟩ := startQueuedWorkflows_eq call now db
  rw [heq]
  exact hsublist

end DBOSModel.SysDb

import DBOSModel.SysDb.StatusOperation

/-!
# Partition coverage

The thread of a partitioned queue asks `get_queue_partitions` for the keys of the ENQUEUED rows and
dequeues once for each key; the thread of any other queue dequeues once without a key. An ENQUEUED
row is therefore a candidate of the round exactly if the queue is not partitioned or the row has a
partition key (`covered_iff`).

`Queue._validate_enqueue` asks for a key on a partitioned queue, but only on an in-memory one, and
against the flag of the object at hand: the process that enqueues and the process that polls each
build their own `Queue`, so the two flags agree only if both processes run with the same one
(`keepsKeys_of_flag`). An enqueue on a database-backed queue, an enqueue of a client, a resumption
or a fork into a queue and a change of the `partition_queue` flag are not checked at all. Any of
them can leave a row without a key on a partitioned queue, and no later operation adds a key.
-/

namespace DBOSModel.Queue

open Relational SysDb DBOSModel.Core

/-! ## A polling round -/

/-- `get_queue_partitions`. -/
def getQueuePartitions (queueName : String) (db : SystemDatabase) : List String :=
  ((db.statusRows.filter fun row ↦
    row.queueName = some queueName && row.status = .enqueued).filterMap
      WorkflowStatusRow.queuePartitionKey).dedup

/-- The process whose thread polls: `GlobalParams` and the registry of its running workflows. -/
structure Poller where
  executorId : String
  appVersion : String
  /-- `count_for_queue`, by partition key. -/
  localRunningCount : Option String → ℤ := fun _ ↦ 0

/-- One call of `start_queued_workflows`. -/
def Poller.call (poller : Poller) (queue : Queue) (key : Option String) (startTimeMs : ℤ) :
    DequeueCall where
  queue := queue
  executorId := poller.executorId
  appVersion := poller.appVersion
  queuePartitionKey := key
  localRunningCount := poller.localRunningCount key
  startTimeMs := startTimeMs

/-- The calls of one iteration of `queue_worker_thread`. -/
def Poller.round (poller : Poller) (queue : Queue) (startTimeMs : ℤ) (db : SystemDatabase) :
    List DequeueCall :=
  if queue.partitionQueue then
    (getQueuePartitions queue.name db).map fun key ↦ poller.call queue (some key) startTimeMs
  else [poller.call queue none startTimeMs]

/-- The process may run a row of this application version. -/
def Poller.mayRun (poller : Poller) (db : SystemDatabase) (row : WorkflowStatusRow) : Bool :=
  row.applicationVersion = some poller.appVersion ||
    ((match DequeueCall.latestVersion db with
      | none => true
      | some version => decide (version = poller.appVersion)) && row.applicationVersion.isNone)

/-! ## Enqueueing on a `Queue` object -/

/-- The fields of a `Queue` that `_validate_enqueue` reads. -/
structure QueueObject where
  name : String
  clientBound : Bool := false
  databaseBackedQueue : Bool := false
  priorityEnabled : Bool := false
  partitionQueue : Bool := false
deriving DecidableEq

/-- The enqueue options of the context; a missing context has none of them. -/
structure EnqueueContext where
  queuePartitionKey : Option String := none
  deduplicationId : Option String := none
  priority : Option ℤ := none
deriving DecidableEq

/-- Python truth of an optional string. -/
def isTruthy (text : Option String) : Bool := text.any fun text ↦ text ≠ ""

/-- `Queue._validate_enqueue`. -/
def QueueObject.validateEnqueue (queue : QueueObject) (ctx : EnqueueContext) :
    Except DBOSError Unit :=
  if queue.clientBound then
    .error (.dbosException ("Cannot enqueue on queue " ++ queue.name ++
      " from a client-bound Queue object. Use DBOSClient.enqueue instead."))
  else if isTruthy ctx.queuePartitionKey && isTruthy ctx.deduplicationId then
    .error (.exception "Deduplication is not supported for partitioned queues")
  else if queue.databaseBackedQueue then .ok ()
  else if ctx.priority.isSome && !queue.priorityEnabled then
    .error (.exception ("Priority is not enabled for queue " ++ queue.name ++
      ". Setting priority will not have any effect."))
  else if queue.partitionQueue && ctx.queuePartitionKey.isNone then
    .error (.exception ("A workflow cannot be enqueued on partitioned queue " ++ queue.name ++
      " without a partition key"))
  else if isTruthy ctx.queuePartitionKey && !queue.partitionQueue then
    .error (.exception ("You can only use a partition key on a partition-enabled queue. Key " ++
      pyStr ctx.queuePartitionKey ++ " was used with non-partitioned queue " ++ queue.name))
  else .ok ()

/-- What passes the check of an in-memory queue has a key where the queue is partitioned. -/
theorem key_of_validateEnqueue {queue : QueueObject} {ctx : EnqueueContext}
    (hvalid : queue.validateEnqueue ctx = .ok ()) (hmemory : queue.databaseBackedQueue = false)
    (hpartitioned : queue.partitionQueue = true) : ctx.queuePartitionKey ≠ none := by
  intro hnone
  simp only [QueueObject.validateEnqueue, hmemory, hpartitioned, hnone] at hvalid
  repeat' split at hvalid
  all_goals simp_all

/-! ## The system -/

/-- The database, and the `partition_queue` flag that the thread of a queue polls with. -/
structure PartitionState where
  db : SystemDatabase
  partitioned : String → Bool

inductive PartitionAction where
  /-- `Queue.enqueue`: the check of the queue object, and the `init_workflow` that follows it. -/
  | enqueue (queue : QueueObject) (ctx : EnqueueContext) (call : InitCall)
      (built : Built call.status) (now : ℤ)
  /-- Any transaction of the status table, the enqueue of a client among them. -/
  | write (op : StatusOp) (now : ℤ)
  /-- `Queue.set_partition_queue`, or a registration of the queue with another flag. -/
  | setPartitionQueue (queueName : String) (value : Bool)

def partitionSystem : System PartitionState PartitionAction where
  step s
    | .enqueue queue ctx call built now =>
      if call.status.queueName = some queue.name ∧
          call.status.queuePartitionKey = ctx.queuePartitionKey then
        match queue.validateEnqueue ctx with
        | .error _ => some s
        | .ok _ => some { s with db := (StatusOp.init call built).apply now s.db }
      else none
    | .write op now => some { s with db := op.apply now s.db }
    | .setPartitionQueue queueName value =>
      some { s with partitioned := Function.update s.partitioned queueName value }

/-- Every ENQUEUED row that a process may run is a candidate of a call of its polling round. -/
def Covered (s : PartitionState) : Prop :=
  ∀ (queue : Queue) (poller : Poller) (startTimeMs : ℤ) (row : WorkflowStatusRow),
    queue.partitionQueue = s.partitioned queue.name → row ∈ s.db.statusRows →
    row.queueName = some queue.name → row.status = .enqueued → poller.mayRun s.db row →
    ∃ call ∈ poller.round queue startTimeMs s.db, call.isEligible s.db row

section Coverage

variable {s s' : PartitionState} {db : SystemDatabase} {row row' : WorkflowStatusRow}
  {queueName key : String} {poller : Poller} {queue : Queue} {startTimeMs now : ℤ}

theorem mem_getQueuePartitions :
    key ∈ getQueuePartitions queueName db ↔
      ∃ row ∈ db.statusRows, row.queueName = some queueName ∧ row.status = .enqueued ∧
        row.queuePartitionKey = some key := by
  simp only [getQueuePartitions, List.mem_dedup, List.mem_filterMap, List.mem_filter,
    Bool.and_eq_true, decide_eq_true_eq, and_assoc]

/-- The `WHERE` clause of a call, for an ENQUEUED row that the process may run. -/
theorem isEligible_call_iff {callKey : Option String} (hqueue : row.queueName = some queue.name)
    (hstatus : row.status = .enqueued) (hmay : poller.mayRun db row) :
    (poller.call queue callKey startTimeMs).isEligible db row = true ↔
      callKey = none ∨ callKey = row.queuePartitionKey := by
  have hversion : (row.applicationVersion = some (poller.call queue callKey startTimeMs).appVersion ||
      ((poller.call queue callKey startTimeMs).isLatestVersion db &&
        row.applicationVersion.isNone)) = true := hmay
  rw [DequeueCall.isEligible, hversion, Bool.and_true, hstatus, DequeueCall.onQueue, onBucket.eq_def,
    hqueue]
  cases callKey with
  | none => simp [Poller.call]
  | some key =>
    simp only [Poller.call, decide_true, Bool.true_and, Bool.and_true, decide_eq_true_eq, reduceCtorEq,
      false_or]
    exact eq_comm

/-- A row without a key is invisible exactly on a partitioned queue. -/
theorem exists_eligible_iff (hrow : row ∈ db.statusRows) (hqueue : row.queueName = some queue.name)
    (hstatus : row.status = .enqueued) (hmay : poller.mayRun db row) :
    (∃ call ∈ poller.round queue startTimeMs db, call.isEligible db row) ↔
      (queue.partitionQueue = true → row.queuePartitionKey ≠ none) := by
  unfold Poller.round
  cases hpartition : queue.partitionQueue with
  | false =>
    simp only [Bool.false_eq_true, if_false, List.mem_singleton, exists_eq_left, false_implies,
      iff_true]
    exact (isEligible_call_iff hqueue hstatus hmay).mpr (Or.inl rfl)
  | true =>
    simp only [if_true, List.mem_map, true_implies]
    constructor
    · rintro ⟨call, ⟨key, -, rfl⟩, heligible⟩ hnone
      rcases (isEligible_call_iff hqueue hstatus hmay).mp heligible with hcase | hcase
      · cases hcase
      · rw [hnone] at hcase
        cases hcase
    · intro hkey
      obtain ⟨key, hrowKey⟩ := Option.ne_none_iff_exists'.mp hkey
      refine ⟨poller.call queue (some key) startTimeMs, ⟨key, ?_, rfl⟩, ?_⟩
      · exact mem_getQueuePartitions.mpr ⟨row, hrow, hqueue, hstatus, hrowKey⟩
      · exact (isEligible_call_iff hqueue hstatus hmay).mpr (Or.inr hrowKey.symm)

/-- A process that may run the row. -/
theorem exists_poller (db : SystemDatabase) (row : WorkflowStatusRow) :
    ∃ poller : Poller, poller.mayRun db row = true := by
  cases hversion : row.applicationVersion with
  | some version => exact ⟨⟨"", version, fun _ ↦ 0⟩, by simp [Poller.mayRun, hversion]⟩
  | none =>
    cases hlatest : DequeueCall.latestVersion db with
    | none => exact ⟨⟨"", "", fun _ ↦ 0⟩, by simp [Poller.mayRun, hversion, hlatest]⟩
    | some version => exact ⟨⟨"", version, fun _ ↦ 0⟩, by simp [Poller.mayRun, hversion, hlatest]⟩

/-- A state is covered exactly if no ENQUEUED row of a partitioned queue lacks a key. -/
theorem covered_iff :
    Covered s ↔ ∀ row ∈ s.db.statusRows, ∀ name, row.status = .enqueued →
      row.queueName = some name → s.partitioned name = true → row.queuePartitionKey ≠ none := by
  constructor
  · intro hcovered row hrow name hstatus hqueue hpartitioned
    obtain ⟨poller, hmay⟩ := exists_poller s.db row
    let queue : Queue := { name := name, partitionQueue := true }
    have hname : row.queueName = some queue.name := hqueue
    have hcall := hcovered queue poller 0 row hpartitioned.symm hrow hname hstatus hmay
    exact (exists_eligible_iff hrow hname hstatus hmay).mp hcall rfl
  · intro hkeys queue poller startTimeMs row hpartition hrow hqueue hstatus hmay
    apply (exists_eligible_iff hrow hqueue hstatus hmay).mpr
    intro hpartitioned
    exact hkeys row hrow queue.name hstatus hqueue (hpartition.symm.trans hpartitioned)

/-! ## Runs -/

/-- Every row that waits or runs on a partitioned queue has a key. -/
def Keyed (s : PartitionState) : Prop :=
  ∀ row ∈ s.db.statusRows, ∀ name, row.status.isActive → row.queueName = some name →
    s.partitioned name = true → row.queuePartitionKey ≠ none

/-- The transaction puts no row without a key on a partitioned queue: a new workflow, a resumed one
or a fork on such a queue has a key. -/
def WriteKeepsKeys (s : PartitionState) : StatusOp → Prop
  | .init call _ => (∀ row ∈ s.db.statusRows, row.workflowUuid ≠ call.status.workflowUuid) →
      ∀ name, call.status.queueName = some name → s.partitioned name = true →
        call.status.queuePartitionKey ≠ none
  | .resume workflowIds queueName => s.partitioned (queueName.getD internalQueueName) = true →
      ∀ row ∈ s.db.statusRows, row.workflowUuid ∈ workflowIds → row.status.isComplete = false →
        row.queuePartitionKey ≠ none
  | .fork call => s.partitioned (call.queueName.getD internalQueueName) = true →
      call.queuePartitionKey ≠ none
  | _ => True

/-- What the code leaves to its callers: the keys of every transaction, that of an enqueue which the
queue object accepts among them, and no switch to partitions while a row without a key waits or
runs. -/
def KeepsKeys (s : PartitionState) : PartitionAction → Prop
  | .enqueue queue ctx call built _ =>
      queue.validateEnqueue ctx = .ok () → WriteKeepsKeys s (.init call built)
  | .write op _ => WriteKeepsKeys s op
  | .setPartitionQueue queueName value => value = true →
      ∀ row ∈ s.db.statusRows, row.status.isActive → row.queueName = some queueName →
        row.queuePartitionKey ≠ none

/-- An in-memory queue whose flag is the one that its name is polled with keeps the keys. -/
theorem keepsKeys_of_flag {object : QueueObject} {ctx : EnqueueContext} {call : InitCall}
    {built : Built call.status} (hmemory : object.databaseBackedQueue = false)
    (hflag : object.partitionQueue = s.partitioned object.name)
    (hqueue : call.status.queueName = some object.name)
    (hkey : call.status.queuePartitionKey = ctx.queuePartitionKey) :
    KeepsKeys s (.enqueue object ctx call built now) := by
  intro hvalid _ name hname hpartitioned
  have hsame : object.name = name := Option.some.inj (hqueue.symm.trans hname)
  rw [← hsame] at hpartitioned
  rw [hkey]
  exact key_of_validateEnqueue hvalid hmemory (hflag.trans hpartitioned)

theorem keyed_write {op : StatusOp} (hs : Keyed s) (hkeys : WriteKeepsKeys s op) :
    Keyed { s with db := op.apply now s.db } := by
  intro row' hrow' name hactive hqueue hpartitioned
  rcases mem_apply hrow' with ⟨row, hrow, -, hchange⟩ | ⟨hfresh, hcreated⟩
  · cases hchange with
    | unchanged => exact hs row' hrow name hactive hqueue hpartitioned
    | conflict call built row hid => exact hs row hrow name hactive hqueue hpartitioned
    | deadLetter => cases hqueue
    | outcome workflowId status complete output error row hid hstatus =>
      have hstill : status.isActive = true := hactive
      rw [WorkflowStatusString.not_isActive_of_isComplete complete] at hstill
      cases hstill
    | cancel => cases hqueue
    | resume workflowIds queueName row hid hstatus =>
      have hname : queueName.getD internalQueueName = name := Option.some.inj hqueue
      rw [← hname] at hpartitioned
      exact hkeys hpartitioned row hrow hid hstatus
    | setDelay workflowId delaySeconds delayUntilEpochMs time resolved row hid hstatus =>
      exact hs row hrow name hactive hqueue hpartitioned
    | debounce call row hbounces => exact hs row hrow name hactive hqueue hpartitioned
    | transition nowMs row hstatus =>
      exact hs row hrow name (by rw [hstatus]; rfl) hqueue hpartitioned
    | startQueued call row hid heligible =>
      exact hs row hrow name (by rw [DequeueCall.isEligible_status heligible]; rfl) hqueue
        hpartitioned
    | clear workflowId row hid hsome hstatus =>
      exact hs row hrow name (by rw [hstatus]; rfl) hqueue hpartitioned
    | fork call row => exact hs row hrow name hactive hqueue hpartitioned
  · cases hcreated with
    | init call built => exact hkeys hfresh name hqueue hpartitioned
    | fork call entry original marked =>
      have hname : call.queueName.getD internalQueueName = name := Option.some.inj hqueue
      rw [← hname] at hpartitioned
      exact hkeys hpartitioned

theorem keyed_step {action : PartitionAction} (hs : Keyed s) (hkeys : KeepsKeys s action)
    (hstep : partitionSystem.step s action = some s') : Keyed s' := by
  cases action with
  | enqueue queue ctx call built now =>
    simp only [partitionSystem, Option.ite_none_right_eq_some] at hstep
    have hstep := hstep.2
    split at hstep
    · cases hstep
      exact hs
    · rename_i hvalid
      cases hstep
      exact keyed_write hs (hkeys hvalid)
  | write op now =>
    cases hstep
    exact keyed_write hs hkeys
  | setPartitionQueue queueName value =>
    cases hstep
    intro row hrow name hactive hqueue hpartitioned
    by_cases hname : name = queueName
    · subst hname
      simp only [Function.update_self] at hpartitioned
      exact hkeys hpartitioned row hrow hactive hqueue
    · simp only [Function.update_of_ne hname] at hpartitioned
      exact hs row hrow name hactive hqueue hpartitioned

/-- In every run whose steps put no row without a key on a partitioned queue, every state is
covered. -/
theorem covered_of_keepsKeys {actions before after : List PartitionAction}
    {partitioned : String → Bool}
    (hkeys : partitionSystem.Along KeepsKeys ⟨SystemDatabase.empty, partitioned⟩ actions)
    (hactions : actions = before ++ after)
    (hrun : partitionSystem.run ⟨SystemDatabase.empty, partitioned⟩ before = some s) :
    Covered s := by
  have hinitial : Keyed ⟨SystemDatabase.empty, partitioned⟩ := by
    intro row hrow
    cases hrow
  rw [hactions, System.along_append] at hkeys
  have hkeyed : Keyed s :=
    partitionSystem.run_invariant (fun _ _ _ hs hkeeps hstep ↦ keyed_step hs hkeeps hstep) hinitial
      hkeys.1 hrun
  apply covered_iff.mpr
  intro row hrow name hstatus hqueue hpartitioned
  exact hkeyed row hrow name (by rw [hstatus]; rfl) hqueue hpartitioned

end Coverage

/-- A configuration with one partitioned queue. -/
def onlyQ (name : String) : Bool := name = "q"

/-- An enqueue with a key on an in-memory partitioned queue; then a client cancels the workflow and
resumes it into the queue. -/
def keyedEnqueue : List PartitionAction :=
  [.enqueue { name := "q", partitionQueue := true } { queuePartitionKey := some "k" }
      { status := { enqueuedStatus "wf" "q" "v" with queuePartitionKey := some "k" } }
      (.client { workflowName := "f", queueName := "q", appVersion := some "v",
                 queuePartitionKey := some "k" } 0 "wf" "" "py_pickle" _ rfl) 0,
    .write (.cancel ["wf"]) 1, .write (.resume ["wf"] (some "q")) 2]

theorem covered_keyedEnqueue :
    ∃ s, partitionSystem.run ⟨SystemDatabase.empty, onlyQ⟩ keyedEnqueue = some s ∧
      s.db.statusRows ≠ [] ∧ Covered s := by
  have hkeys : partitionSystem.Along KeepsKeys ⟨SystemDatabase.empty, onlyQ⟩ keyedEnqueue := by
    refine ⟨keepsKeys_of_flag rfl rfl rfl rfl, ?_⟩
    rintro s ⟨⟩
    refine ⟨trivial, ?_⟩
    rintro s ⟨⟩
    refine ⟨?_, fun _ _ ↦ trivial⟩
    intro _ row hrow _ _
    rw [List.mem_singleton.mp hrow]
    exact Option.some_ne_none "k"
  have hrun : ∃ s, partitionSystem.run ⟨SystemDatabase.empty, onlyQ⟩ keyedEnqueue = some s ∧
      s.db.statusRows ≠ [] := ⟨_, rfl, by decide⟩
  obtain ⟨s, hs, hrows⟩ := hrun
  exact ⟨s, hs, hrows, covered_of_keepsKeys hkeys (List.append_nil _).symm hs⟩

/-- The same queue backed by the database: the enqueue is not checked. -/
def keylessEnqueue : List PartitionAction :=
  [.enqueue { name := "q", databaseBackedQueue := true, partitionQueue := true } {}
    { status := enqueuedStatus "wf" "q" "v" } (built_enqueuedStatus "wf" "q" "v") 0]

/-- A workflow of another queue, cancelled and resumed into the partitioned one. -/
def keylessResume : List PartitionAction :=
  [.write (.init { status := enqueuedStatus "wf" "other" "v" } (built_enqueuedStatus "wf" "other" "v"))
      0,
    .write (.cancel ["wf"]) 1, .write (.resume ["wf"] (some "q")) 2]

/-- The process that enqueues on the in-memory queue has been started without `partition_queue`. -/
def keylessObject : List PartitionAction :=
  [.enqueue { name := "q" } {} { status := enqueuedStatus "wf" "q" "v" }
    (built_enqueuedStatus "wf" "q" "v") 0]

/-- After each, a row is ENQUEUED and no call of any polling round has it as a candidate. -/
theorem not_covered_keyless :
    (∃ s, partitionSystem.run ⟨SystemDatabase.empty, onlyQ⟩ keylessEnqueue = some s ∧
      ¬ Covered s) ∧
    (∃ s, partitionSystem.run ⟨SystemDatabase.empty, onlyQ⟩ keylessResume = some s ∧
      ¬ Covered s) ∧
    ∃ s, partitionSystem.run ⟨SystemDatabase.empty, onlyQ⟩ keylessObject = some s ∧
      ¬ Covered s := by
  refine ⟨?_, ?_, ?_⟩
  · refine ⟨_, rfl, ?_⟩
    intro hcovered
    exact covered_iff.mp hcovered _ (List.mem_singleton.mpr rfl) "q" rfl rfl rfl rfl
  · refine ⟨_, rfl, ?_⟩
    intro hcovered
    exact covered_iff.mp hcovered _ (List.mem_singleton.mpr rfl) "q" rfl rfl rfl rfl
  · refine ⟨_, rfl, ?_⟩
    intro hcovered
    exact covered_iff.mp hcovered _ (List.mem_singleton.mpr rfl) "q" rfl rfl rfl rfl

end DBOSModel.Queue

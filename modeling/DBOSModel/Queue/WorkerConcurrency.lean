import DBOSModel.SysDb.StatusOperation
import Mathlib.Logic.Function.Basic

/-!
# Worker concurrency of one executor process

The queue threads of one process, its thread pool and its `ActiveWorkflowById` registry. The thread
of a queue reads the registry, runs the dequeue with that count, and hands the returned workflows to
the thread pool one by one before it polls again. A pool thread registers its workflow some time
later, under the bucket `(queue_name, queue_partition_key)` of the workflow's row. `outstanding`
records what the limit is about: the workflows this process dequeued and has not finished.

The limit holds along every run in which each poll finds all outstanding workflows of its bucket in
the registry, under that bucket. Nothing in the code ensures this: a workflow waiting in the thread
pool is not registered yet, and on a queue without partitions a workflow with a partition key is
registered under another bucket than the one the poll counts.
-/

namespace DBOSModel.Queue

open Relational SysDb DBOSModel.Core

/-- The values of the registry: a queue and a partition key. -/
abbrev Bucket := String × Option String

/-- Where the thread of a queue is in its loop. -/
inductive PollPhase where
  | idle
  | counted (partitionKey : Option String) (localRunningCount : ℤ)
  | dispatching (workflowIds : List String)
deriving DecidableEq

structure WorkerState where
  db : SystemDatabase
  /-- `ActiveWorkflowById._m`. -/
  active : List (String × Option Bucket)
  /-- Submitted to the thread pool, with the bucket of the status. -/
  submitted : List (String × Option Bucket)
  /-- Dequeued by this executor under a bucket, and not finished. -/
  outstanding : List (String × Bucket)
  phase : String → PollPhase

inductive WorkerAction where
  /-- A transaction of any other part of the system. -/
  | write (action : StatusAction)
  /-- The thread of a queue reads `count_for_queue`. -/
  | count (queueName : String) (partitionKey : Option String)
  /-- It runs `start_queued_workflows`. -/
  | start (queueName : String) (now startTimeMs : ℤ)
  /-- It calls `execute_workflow_by_id` for the next returned workflow, which may raise. -/
  | dispatch (queueName : String) (raises : Bool)
  /-- A pool thread begins a submitted workflow. -/
  | acquire (workflowId : String)
  /-- A workflow ends and is released. -/
  | finish (workflowId : String)

/-- `count_for_queue`. -/
def countForQueue (queueName : String) (partitionKey : Option String)
    (active : List (String × Option Bucket)) : ℕ :=
  active.countP fun entry ↦ entry.2 = some (queueName, partitionKey)

/-- The bucket that `acquire` stores for a workflow with this row. -/
def rowBucket (row : WorkflowStatusRow) : Option Bucket :=
  row.queueName.map fun queueName ↦ (queueName, row.queuePartitionKey)

namespace WorkerState

variable (s : WorkerState)

/-- The workflows of a bucket that this process dequeued and has not finished. -/
def outstandingIn (bucket : Bucket) : List (String × Bucket) :=
  s.outstanding.filter fun entry ↦ entry.2 = bucket

def setPhase (queueName : String) (phase : PollPhase) : WorkerState :=
  { s with phase := Function.update s.phase queueName phase }

/-- The result of a dequeue: the started workflows are outstanding and wait to be dispatched. -/
def started (bucket : Bucket) (result : List String × SystemDatabase) : WorkerState :=
  { s with
    db := result.2
    outstanding := s.outstanding ++
      (result.1.map fun id ↦ (id, bucket)).filter fun entry ↦ entry ∉ s.outstanding
    phase := Function.update s.phase bucket.1 (.dispatching result.1) }

/-- The thread hands one workflow to the pool, unless the call raises. -/
def dispatched (queueName workflowId : String) (rest : List String) (raises : Bool) : WorkerState :=
  { s with
    submitted :=
      match raises, s.db.workflowStatus.lookup workflowId with
      | false, some row => s.submitted ++ [(workflowId, rowBucket row)]
      | _, _ => s.submitted
    phase := Function.update s.phase queueName
      (if rest = [] then .idle else .dispatching rest) }

/-- The pool thread calls `acquire`, which succeeds unless the workflow is already registered. -/
def acquired (workflowId : String) (bucket : Option Bucket) : WorkerState :=
  { s with
    active :=
      if workflowId ∈ s.active.map Prod.fst then s.active else s.active ++ [(workflowId, bucket)]
    submitted := s.submitted.filter fun entry ↦ entry.1 ≠ workflowId }

def finished (workflowId : String) : WorkerState :=
  { s with
    active := s.active.filter fun entry ↦ entry.1 ≠ workflowId
    submitted := s.submitted.filter fun entry ↦ entry.1 ≠ workflowId
    outstanding := s.outstanding.filter fun entry ↦ entry.1 ≠ workflowId }

end WorkerState

/-- The call of one poll. -/
def pollCall (config : String → SysDb.Queue) (executorId appVersion queueName : String)
    (partitionKey : Option String) (localRunningCount startTimeMs : ℤ) : DequeueCall where
  queue := config queueName
  executorId := executorId
  appVersion := appVersion
  queuePartitionKey := partitionKey
  localRunningCount := localRunningCount
  startTimeMs := startTimeMs

/-- Another part of the system does not dequeue for this executor. -/
def isForeign (executorId : String) (action : StatusAction) : Bool :=
  match action.1 with
  | .startQueued call => call.executorId ≠ executorId
  | _ => true

/-- One executor process, with one thread for each queue. -/
def workerSystem (config : String → SysDb.Queue) (executorId appVersion : String) :
    System WorkerState WorkerAction where
  step s
    | .write action =>
      if isForeign executorId action then some { s with db := action.1.apply action.2 s.db }
      else none
    | .count queueName partitionKey =>
      if s.phase queueName = .idle ∧
          partitionKey.isSome = (config queueName).partitionQueue then
        some (s.setPhase queueName
          (.counted partitionKey (countForQueue queueName partitionKey s.active)))
      else none
    | .start queueName now startTimeMs =>
      match s.phase queueName with
      | .counted partitionKey localRunningCount =>
        some (s.started (queueName, partitionKey) (startQueuedWorkflows
          (pollCall config executorId appVersion queueName partitionKey localRunningCount
            startTimeMs) now s.db))
      | _ => none
    | .dispatch queueName raises =>
      match s.phase queueName with
      | .dispatching [] => some (s.setPhase queueName .idle)
      | .dispatching (workflowId :: rest) => some (s.dispatched queueName workflowId rest raises)
      | _ => none
    | .acquire workflowId =>
      match s.submitted.find? fun entry ↦ entry.1 = workflowId with
      | some entry => some (s.acquired workflowId entry.2)
      | none => none
    | .finish workflowId => some (s.finished workflowId)

/-- Each poll finds the outstanding workflows of its bucket in the registry, under that bucket. -/
def PollsRegistered (bucket : Bucket) (s : WorkerState) : WorkerAction → Prop
  | .count queueName partitionKey => (queueName, partitionKey) = bucket →
      ∀ entry ∈ s.outstandingIn bucket, (entry.1, some bucket) ∈ s.active
  | _ => True

instance (bucket : Bucket) (s : WorkerState) :
    (action : WorkerAction) → Decidable (PollsRegistered bucket s action)
  | .count queueName partitionKey =>
    inferInstanceAs (Decidable ((queueName, partitionKey) = bucket →
      ∀ entry ∈ s.outstandingIn bucket, (entry.1, some bucket) ∈ s.active))
  | .write _ => isTrue trivial
  | .start _ _ _ => isTrue trivial
  | .dispatch _ _ => isTrue trivial
  | .acquire _ => isTrue trivial
  | .finish _ => isTrue trivial

section Limit

variable {config : String → SysDb.Queue} {executorId appVersion : String} {bucket : Bucket}
  {limit : ℤ} {s s' : WorkerState} {action : WorkerAction}

/-- The limit holds, and so does what the poll of the bucket's queue has counted. -/
structure WithinWorkerLimit (bucket : Bucket) (limit : ℤ) (s : WorkerState) : Prop where
  distinct : s.outstanding.Nodup
  counted : ∀ localRunningCount, s.phase bucket.1 = .counted bucket.2 localRunningCount →
    ((s.outstandingIn bucket).length : ℤ) ≤ localRunningCount
  bounded : ((s.outstandingIn bucket).length : ℤ) ≤ limit

/-! ## The count of a poll -/

/-- Registered outstanding workflows are at most as many as the count. -/
theorem length_outstandingIn_le_count (hdistinct : s.outstanding.Nodup)
    (hregistered : ∀ entry ∈ s.outstandingIn bucket, (entry.1, some bucket) ∈ s.active) :
    (s.outstandingIn bucket).length ≤ countForQueue bucket.1 bucket.2 s.active := by
  let registered := (s.outstandingIn bucket).map fun entry ↦ (entry.1, some entry.2)
  have hnodup : registered.Nodup := by
    apply (List.filter_sublist.nodup hdistinct).map
    intro left right h
    exact Prod.ext (Prod.mk.inj h).1 (Option.some.inj (Prod.mk.inj h).2)
  have hsubset : registered ⊆ s.active.filter fun entry ↦ entry.2 = some bucket := by
    intro pair hpair
    obtain ⟨entry, hentry, rfl⟩ := List.mem_map.mp hpair
    have hbucket : entry.2 = bucket := by simpa using (List.mem_filter.mp hentry).2
    rw [hbucket]
    exact List.mem_filter.mpr ⟨hregistered entry hentry, by simp⟩
  calc
    (s.outstandingIn bucket).length = registered.length := by simp only [registered, List.length_map]
    _ ≤ (s.active.filter fun entry ↦ entry.2 = some bucket).length :=
      (List.subperm_of_subset hnodup hsubset).length_le
    _ = countForQueue bucket.1 bucket.2 s.active := by
      rw [countForQueue, List.countP_eq_length_filter]

/-! ## A dequeue -/

theorem distinct_started (hdistinct : s.outstanding.Nodup) (call : DequeueCall) (now : ℤ)
    (other : Bucket) : (s.started other (startQueuedWorkflows call now s.db)).outstanding.Nodup := by
  have hids : (startQueuedWorkflows call now s.db).1.Nodup :=
    (startQueuedWorkflows_sublist call now s.db).nodup DequeueCall.dequeuedIds_nodup
  have hpairs : ((startQueuedWorkflows call now s.db).1.map fun id ↦ (id, other)).Nodup :=
    hids.map fun id id' h ↦ (Prod.mk.inj h).1
  apply List.nodup_append.mpr
  refine ⟨hdistinct, List.filter_sublist.nodup hpairs, ?_⟩
  intro entry hentry entry' hentry' hsame
  have hfresh := (List.mem_filter.mp hentry').2
  simp only [decide_eq_true_eq] at hfresh
  exact hfresh (hsame ▸ hentry)

/-- A dequeue of another bucket leaves the outstanding workflows of this one alone. -/
theorem outstandingIn_started_other {other : Bucket} (hother : other ≠ bucket)
    (result : List String × SystemDatabase) :
    (s.started other result).outstandingIn bucket = s.outstandingIn bucket := by
  simp only [WorkerState.outstandingIn, WorkerState.started, List.filter_append]
  have hnone : (((result.1.map fun id ↦ (id, other)).filter fun entry ↦
      entry ∉ s.outstanding).filter fun entry ↦ entry.2 = bucket) = [] := by
    apply List.filter_eq_nil_iff.mpr
    intro entry hentry
    obtain ⟨id, -, rfl⟩ := List.mem_map.mp (List.mem_filter.mp hentry).1
    simpa using hother
  rw [hnone, List.append_nil]

theorem length_outstandingIn_started_le (result : List String × SystemDatabase) :
    ((s.started bucket result).outstandingIn bucket).length ≤
      (s.outstandingIn bucket).length + result.1.length := by
  simp only [WorkerState.outstandingIn, WorkerState.started, List.filter_append,
    List.length_append]
  apply Nat.add_le_add_left
  calc
    (((result.1.map fun id ↦ (id, bucket)).filter fun entry ↦ entry ∉ s.outstanding).filter
        fun entry ↦ entry.2 = bucket).length
        ≤ ((result.1.map fun id ↦ (id, bucket)).filter fun entry ↦
            entry ∉ s.outstanding).length := List.length_filter_le _ _
    _ ≤ (result.1.map fun id ↦ (id, bucket)).length := List.length_filter_le _ _
    _ = result.1.length := List.length_map _

/-- A dequeue whose count covers the outstanding workflows stays within the limit. -/
theorem bounded_started {call : DequeueCall} {now : ℤ}
    (hlimit : call.queue.workerConcurrency = some limit)
    (hcounted : ((s.outstandingIn bucket).length : ℤ) ≤ call.localRunningCount)
    (hbounded : ((s.outstandingIn bucket).length : ℤ) ≤ limit) :
    (((s.started bucket (startQueuedWorkflows call now s.db)).outstandingIn bucket).length : ℤ) ≤
      limit := by
  have hselected : (call.dequeuedIds s.db).length ≤ (limit - call.localRunningCount).toNat :=
    DequeueCall.length_dequeuedIds_le_worker hlimit
  have hstarted := (startQueuedWorkflows_sublist call now s.db).length_le
  have hadded : ((s.started bucket (startQueuedWorkflows call now s.db)).outstandingIn
      bucket).length ≤ (s.outstandingIn bucket).length +
        (startQueuedWorkflows call now s.db).1.length := length_outstandingIn_started_le _
  omega

/-! ## Steps and runs -/

/-- A step that adds no outstanding workflow and starts no count keeps the invariant. -/
theorem WithinWorkerLimit.of_sublist (h : WithinWorkerLimit bucket limit s)
    (hsublist : s'.outstanding.Sublist s.outstanding)
    (hphase : ∀ localRunningCount, s'.phase bucket.1 = .counted bucket.2 localRunningCount →
      s.phase bucket.1 = .counted bucket.2 localRunningCount) :
    WithinWorkerLimit bucket limit s' := by
  have hle : (s'.outstandingIn bucket).length ≤ (s.outstandingIn bucket).length :=
    (hsublist.filter _).length_le
  refine ⟨hsublist.nodup h.distinct, ?_, ?_⟩
  · intro localRunningCount hcount
    have hcounted := h.counted localRunningCount (hphase localRunningCount hcount)
    omega
  · have hbounded := h.bounded
    omega

theorem phase_update_ne_counted {queueName : String} {phase : PollPhase}
    (hphase : ∀ key count, phase ≠ .counted key count) {localRunningCount : ℤ}
    (h : Function.update s.phase queueName phase bucket.1 = .counted bucket.2 localRunningCount) :
    s.phase bucket.1 = .counted bucket.2 localRunningCount := by
  by_cases hname : bucket.1 = queueName
  · rw [hname, Function.update_self] at h
    exact absurd h (hphase _ _)
  · rw [Function.update_of_ne hname] at h
    exact h

/-- A poll that finds the outstanding workflows registered counts at least as many. -/
theorem withinWorkerLimit_count {queueName : String} {partitionKey : Option String}
    (h : WithinWorkerLimit bucket limit s)
    (hregistered : PollsRegistered bucket s (.count queueName partitionKey)) :
    WithinWorkerLimit bucket limit (s.setPhase queueName
      (.counted partitionKey (countForQueue queueName partitionKey s.active))) := by
  refine ⟨h.distinct, ?_, h.bounded⟩
  intro localRunningCount hphase
  by_cases hname : bucket.1 = queueName
  · simp only [WorkerState.setPhase, hname, Function.update_self, PollPhase.counted.injEq]
      at hphase
    have hbucket : (queueName, partitionKey) = bucket :=
      Prod.ext hname.symm hphase.1
    subst hbucket
    have hcount := length_outstandingIn_le_count h.distinct (hregistered rfl)
    rw [← hphase.2]
    exact_mod_cast hcount
  · simp only [WorkerState.setPhase, Function.update_of_ne hname] at hphase
    exact h.counted localRunningCount hphase

/-- A dequeue uses up the free places of its own bucket only. -/
theorem withinWorkerLimit_started (hlimit : (config bucket.1).workerConcurrency = some limit)
    (h : WithinWorkerLimit bucket limit s) {queueName : String} {partitionKey : Option String}
    {localRunningCount : ℤ} (hphase : s.phase queueName = .counted partitionKey localRunningCount)
    (startTimeMs now : ℤ) :
    WithinWorkerLimit bucket limit (s.started (queueName, partitionKey) (startQueuedWorkflows
      (pollCall config executorId appVersion queueName partitionKey localRunningCount startTimeMs)
      now s.db)) := by
  have hdistinct := distinct_started h.distinct (pollCall config executorId appVersion
    queueName partitionKey localRunningCount startTimeMs) now (queueName, partitionKey)
  by_cases hbucket : (queueName, partitionKey) = bucket
  · subst hbucket
    refine ⟨hdistinct, ?_, bounded_started hlimit (h.counted _ hphase) h.bounded⟩
    intro count hcount
    simp [WorkerState.started] at hcount
  · have hsame := outstandingIn_started_other (s := s) hbucket (startQueuedWorkflows
      (pollCall config executorId appVersion queueName partitionKey localRunningCount startTimeMs)
      now s.db)
    refine ⟨hdistinct, ?_, ?_⟩
    · intro count hcount
      rw [hsame]
      exact h.counted count (phase_update_ne_counted (by simp) hcount)
    · rw [hsame]
      exact h.bounded

theorem withinWorkerLimit_step (hlimit : (config bucket.1).workerConcurrency = some limit)
    (h : WithinWorkerLimit bucket limit s) (hregistered : PollsRegistered bucket s action)
    (hstep : (workerSystem config executorId appVersion).step s action = some s') :
    WithinWorkerLimit bucket limit s' := by
  cases action with
  | write action =>
    simp only [workerSystem] at hstep
    split at hstep
    · cases hstep
      exact h.of_sublist (List.Sublist.refl _) fun _ hphase ↦ hphase
    · cases hstep
  | count queueName partitionKey =>
    simp only [workerSystem] at hstep
    split at hstep
    · cases hstep
      exact withinWorkerLimit_count h hregistered
    · cases hstep
  | start queueName now startTimeMs =>
    simp only [workerSystem] at hstep
    split at hstep
    · rename_i partitionKey localRunningCount hphase
      cases hstep
      exact withinWorkerLimit_started hlimit h hphase startTimeMs now
    · cases hstep
  | dispatch queueName raises =>
    simp only [workerSystem] at hstep
    split at hstep
    · cases hstep
      exact h.of_sublist (List.Sublist.refl _) fun _ ↦ phase_update_ne_counted (by simp)
    · cases hstep
      refine h.of_sublist (List.Sublist.refl _) fun _ ↦ phase_update_ne_counted ?_
      intro key count
      split <;> simp
    · cases hstep
  | acquire workflowId =>
    simp only [workerSystem] at hstep
    split at hstep
    · cases hstep
      exact h.of_sublist (List.Sublist.refl _) fun _ hphase ↦ hphase
    · cases hstep
  | finish workflowId =>
    cases hstep
    exact h.of_sublist List.filter_sublist fun _ hphase ↦ hphase

/-- The limit holds after every run whose polls find the outstanding workflows registered. -/
theorem outstanding_le_workerConcurrency (config : String → SysDb.Queue)
    (executorId appVersion : String) (queue : SysDb.Queue) (partitionKey : Option String)
    (limit : ℤ) (hqueue : config queue.name = queue)
    (hlimit : queue.workerConcurrency = some limit) (hnonneg : 0 ≤ limit) (s s' : WorkerState)
    (hidle : ∀ queueName, s.phase queueName = .idle) (hnone : s.outstanding = [])
    (actions : List WorkerAction)
    (hregistered : (workerSystem config executorId appVersion).Along
      (PollsRegistered (queue.name, partitionKey)) s actions)
    (hrun : (workerSystem config executorId appVersion).run s actions = some s') :
    ((s'.outstandingIn (queue.name, partitionKey)).length : ℤ) ≤ limit := by
  have hconfig : (config (queue.name, partitionKey).1).workerConcurrency = some limit := by
    rw [hqueue, hlimit]
  have hinitial : WithinWorkerLimit (queue.name, partitionKey) limit s := by
    refine ⟨by simp [hnone], ?_, by simpa [WorkerState.outstandingIn, hnone] using hnonneg⟩
    intro localRunningCount hphase
    rw [hidle] at hphase
    cases hphase
  have hinvariant := (workerSystem config executorId appVersion).run_invariant
    (I := WithinWorkerLimit (queue.name, partitionKey) limit)
    (fun s action s' hs hreg hstep ↦ withinWorkerLimit_step hconfig hs hreg hstep)
    hinitial hregistered hrun
  exact hinvariant.bounded

end Limit

/-! ## One workflow at a time -/

/-- A queue whose executors run one workflow each. -/
def oneEach : SysDb.Queue := { name := "q", workerConcurrency := some 1 }

def enqueueOne (workflowId : String) : WorkerAction :=
  .write (.init { status := enqueuedStatus workflowId "q" "v" }
    (built_enqueuedStatus workflowId "q" "v"), 0)

/-- A process that has just started, on an empty database. -/
def newProcess : WorkerState where
  db := SystemDatabase.empty
  active := []
  submitted := []
  outstanding := []
  phase _ := .idle

/-- The second poll comes when the first workflow is registered. -/
theorem outstanding_le_workerConcurrency_registered :
    ∃ s, (workerSystem (fun _ ↦ oneEach) "e" "v").run newProcess
        [enqueueOne "a", enqueueOne "b", .count "q" none, .start "q" 0 0, .dispatch "q" false,
          .acquire "a", .count "q" none, .start "q" 1 1] = some s ∧
      ((s.outstandingIn ("q", none)).length : ℤ) ≤ 1 := by
  obtain ⟨s, hs⟩ := Option.isSome_iff_exists.mp
    (show ((workerSystem (fun _ ↦ oneEach) "e" "v").run newProcess
        [enqueueOne "a", enqueueOne "b", .count "q" none, .start "q" 0 0, .dispatch "q" false,
          .acquire "a", .count "q" none, .start "q" 1 1]).isSome by decide)
  exact ⟨s, hs, outstanding_le_workerConcurrency (fun _ ↦ oneEach) "e" "v" oneEach none 1 rfl rfl
    (by decide) newProcess s (fun _ ↦ rfl) rfl _ (by decide) hs⟩

/-- The second poll comes while the first workflow still waits in the thread pool. -/
theorem outstanding_exceeds_workerConcurrency :
    oneEach.workerConcurrency = some 1 ∧
      ((workerSystem (fun _ ↦ oneEach) "e" "v").run newProcess
        [enqueueOne "a", enqueueOne "b", .count "q" none, .start "q" 0 0, .dispatch "q" false,
          .count "q" none, .start "q" 1 1]).map
        (fun s ↦ (s.outstandingIn ("q", none)).length) = some 2 := by
  decide

end DBOSModel.Queue

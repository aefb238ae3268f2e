import DBOSModel.SysDb.WorkflowStatus

/-!
# The statuses that callers hand to `init_workflow`

Three places of the source build a `WorkflowStatusInternal`: `_init_workflow` in `dbos/_core.py`,
`DBOSClient._build_enqueue_status` (with the debouncer's variant of it), and the persistent
scheduler. `Built` is the set of statuses they produce. The serialized arguments and the JSON text
of the roles are inputs of the builders, since nothing here depends on their form.
-/

namespace DBOSModel.Core

open SysDb

/-- `EnqueueOptionsInternal`. -/
structure EnqueueOptionsInternal where
  deduplicationId : Option String := none
  priority : Option ℤ := none
  appVersion : Option String := none
  queuePartitionKey : Option String := none
  delayUntilEpochMs : Option ℤ := none
  debounceDeadlineEpochMs : Option ℤ := none
  isDebounced : Bool := false
deriving DecidableEq

/-- The fields of `DBOSContext` that `_init_workflow` reads. -/
structure DBOSContext where
  workflowId : String := ""
  idAssignedForNextWorkflow : String := ""
  parentWorkflowId : String := ""
  appId : Option String := none
  executorId : Option String := none
  authenticatedUser : Option String := none
  /-- `json.dumps(ctx.authenticated_roles)`, absent when there are no roles. -/
  authenticatedRoles : Option String := none
  assumedRole : Option String := none
  workflowAttributes : Option String := none
deriving DecidableEq

/-- The arguments of `_init_workflow` that enter the status. -/
structure WorkflowStart where
  ctx : DBOSContext := {}
  wfName : String
  className : Option String := none
  configName : Option String := none
  queue : Option String := none
  workflowTimeoutMs : Option ℤ := none
  workflowDeadlineEpochMs : Option ℤ := none
  enqueueOptions : Option EnqueueOptionsInternal := none
  childWorkflowId : Option String := none
  /-- `GlobalParams.app_version`. -/
  globalAppVersion : String := ""
  /-- `serargs` and `serialization`. -/
  serargs : String := ""
  serialization : String := ""
deriving DecidableEq

namespace WorkflowStart

variable (start : WorkflowStart)

/-- `wfid`: the captured child ID, else the ID of the context, else the assigned one. An empty
string counts as absent. -/
def wfid : String :=
  match start.childWorkflowId with
  | some childId => if childId ≠ "" then childId else fromContext
  | none => fromContext
where
  fromContext : String :=
    if start.ctx.workflowId ≠ "" then start.ctx.workflowId
    else start.ctx.idAssignedForNextWorkflow

/-- The status entry: PENDING without a queue, DELAYED with a delay, else ENQUEUED. -/
def initialStatus : WorkflowStatusString :=
  match start.queue with
  | none => .pending
  | some _ =>
    if (start.enqueueOptions.bind EnqueueOptionsInternal.delayUntilEpochMs).isSome then .delayed
    else .enqueued

/-- `_init_workflow` up to the call of `init_workflow`. -/
def status : Except DBOSError WorkflowStatusInternal :=
  if start.wfid = "" then
    .error (.dbosException ("Attempted to initialize a workflow with an empty workflow ID. " ++
      "The workflow context was likely cleared concurrently (e.g. by " ++
      "shutdown) while the workflow was being recorded."))
  else .ok
    { workflowUuid := start.wfid
      status := start.initialStatus
      name := start.wfName
      className := start.className
      configName := start.configName
      output := none
      error := none
      appId := start.ctx.appId
      appVersion :=
        some ((start.enqueueOptions.bind EnqueueOptionsInternal.appVersion).getD
          start.globalAppVersion)
      executorId := start.ctx.executorId
      authenticatedUser := start.ctx.authenticatedUser
      authenticatedRoles := start.ctx.authenticatedRoles
      assumedRole := start.ctx.assumedRole
      queueName := start.queue
      workflowTimeoutMs := start.workflowTimeoutMs
      workflowDeadlineEpochMs := start.workflowDeadlineEpochMs
      deduplicationId := start.enqueueOptions.bind EnqueueOptionsInternal.deduplicationId
      priority := (start.enqueueOptions.bind EnqueueOptionsInternal.priority).getD 0
      inputs := start.serargs
      queuePartitionKey := start.enqueueOptions.bind EnqueueOptionsInternal.queuePartitionKey
      parentWorkflowId :=
        if start.ctx.parentWorkflowId ≠ "" then some start.ctx.parentWorkflowId else none
      serialization := some start.serialization
      delayUntilEpochMs := start.enqueueOptions.bind EnqueueOptionsInternal.delayUntilEpochMs
      debounceDeadlineEpochMs :=
        start.enqueueOptions.bind EnqueueOptionsInternal.debounceDeadlineEpochMs
      isDebounced := (start.enqueueOptions.map EnqueueOptionsInternal.isDebounced).getD false
      attributes := start.ctx.workflowAttributes
      -- only the persistent scheduler sets a schedule name
      scheduleName := none }

end WorkflowStart

/-! ## The client -/

/-- `EnqueueOptions` of the client. -/
structure EnqueueOptions where
  workflowName : String
  queueName : String
  workflowId : Option String := none
  appVersion : Option String := none
  workflowTimeout : Option ℚ := none
  delaySeconds : Option ℚ := none
  deduplicationId : Option String := none
  priority : Option ℤ := none
  queuePartitionKey : Option String := none
  authenticatedUser : Option String := none
  authenticatedRoles : Option String := none
  className : Option String := none
  instanceName : Option String := none
  attributes : Option String := none
deriving DecidableEq

/-- The characters that Python's `strip` removes. -/
def pyIsSpace (c : Char) : Bool :=
  (0x09 ≤ c.toNat && c.toNat ≤ 0x0d) || (0x1c ≤ c.toNat && c.toNat ≤ 0x20) ||
    c.toNat ∈ [0x85, 0xa0, 0x1680, 0x2028, 0x2029, 0x202f, 0x205f, 0x3000] ||
    (0x2000 ≤ c.toNat && c.toNat ≤ 0x200a)

/-- Python's `repr` of a whitespace character inside a string. -/
def pyReprSpace (c : Char) : String :=
  if c = ' ' then " "
  else if c = '\t' then "\\t"
  else if c = '\n' then "\\n"
  else if c = '\r' then "\\r"
  else if c.toNat < 256 then "\\x" ++ hex 2
  else "\\u" ++ hex 4
where
  hex (width : ℕ) : String :=
    let digits := Nat.toDigits 16 c.toNat
    String.ofList (List.replicate (width - digits.length) '0' ++ digits)

def minPriority : ℤ := 1

def maxPriority : ℤ := 2 ^ 31 - 1

/-- `validate_enqueue_options`. -/
def validateEnqueueOptions (options : EnqueueOptions) : Except DBOSError Unit :=
  match options.priority with
  | some priority =>
    if priority < minPriority ∨ maxPriority < priority then
      .error (.dbosException ("Invalid priority " ++ toString priority ++
        ". Priority must be between " ++ toString minPriority ++ "~" ++ toString maxPriority ++ "."))
    else validateWorkflowId
  | none => validateWorkflowId
where
  /-- `validate_workflow_id`, on an ID that was given. -/
  validateWorkflowId : Except DBOSError Unit :=
    match options.workflowId with
    | some workflowId =>
      if workflowId.toList.all pyIsSpace then
        .error (.dbosException ("Invalid workflow ID '" ++
          String.join (workflowId.toList.map pyReprSpace) ++
          "': workflow IDs must be non-empty and cannot be only whitespace."))
      else .ok ()
    | none => .ok ()

/-- `_build_enqueue_status`; `time` is the clock in seconds and `generated` the fresh UUID. -/
def buildEnqueueStatus (options : EnqueueOptions) (time : ℚ) (generated inputs serialization : String) :
    Except DBOSError WorkflowStatusInternal :=
  match validateEnqueueOptions options with
  | .error error => .error error
  | .ok () =>
    let delayUntilEpochMs := options.delaySeconds.map fun delay ↦ pyInt ((time + delay) * 1000)
    .ok
      { workflowUuid := options.workflowId.getD generated
        status := if delayUntilEpochMs.isSome then .delayed else .enqueued
        name := options.workflowName
        className := options.className
        queueName := some options.queueName
        appVersion := options.appVersion
        configName := options.instanceName
        authenticatedUser := options.authenticatedUser
        authenticatedRoles := options.authenticatedRoles
        workflowTimeoutMs := options.workflowTimeout.map fun timeout ↦ pyInt (timeout * 1000)
        deduplicationId := options.deduplicationId
        priority := options.priority.getD 0
        inputs := inputs
        serialization := some serialization
        queuePartitionKey := options.queuePartitionKey
        delayUntilEpochMs := delayUntilEpochMs
        attributes := options.attributes }

/-- `_enqueue_debounced` stamps the debounce fields on the built status. -/
def stampDebounced (debounceDeadlineEpochMs : Option ℤ) (status : WorkflowStatusInternal) :
    WorkflowStatusInternal :=
  { status with debounceDeadlineEpochMs := debounceDeadlineEpochMs, isDebounced := true }

/-! ## The scheduler -/

/-- The status of `_enqueue_scheduled_workflow`. -/
def scheduledStatus (workflowName workflowId scheduleName latestApplicationVersion inputs : String)
    (className queueName : Option String) : WorkflowStatusInternal where
  workflowUuid := workflowId
  status := .enqueued
  name := workflowName
  className := className
  queueName :=
    match queueName with
    | some queue => if queue ≠ "" then some queue else some internalQueueName
    | none => some internalQueueName
  appVersion := some latestApplicationVersion
  inputs := inputs
  scheduleName := some scheduleName

/-! ## Built statuses -/

/-- The statuses that reach `init_workflow`. -/
inductive Built : WorkflowStatusInternal → Prop
  | workflow (start : WorkflowStart) (status : WorkflowStatusInternal)
      (h : start.status = .ok status) : Built status
  | client (options : EnqueueOptions) (time : ℚ) (generated inputs serialization : String)
      (status : WorkflowStatusInternal)
      (h : buildEnqueueStatus options time generated inputs serialization = .ok status) :
      Built status
  | debounced (options : EnqueueOptions) (time : ℚ) (generated inputs serialization : String)
      (status : WorkflowStatusInternal) (deadline : Option ℤ)
      (h : buildEnqueueStatus options time generated inputs serialization = .ok status) :
      Built (stampDebounced deadline status)
  | scheduled (workflowName workflowId scheduleName latestApplicationVersion inputs : String)
      (className queueName : Option String) :
      Built (scheduledStatus workflowName workflowId scheduleName latestApplicationVersion inputs
        className queueName)

/-- How the status of a new row fits its queue and its delay. -/
def StatusFits (status : WorkflowStatusInternal) : Prop :=
  (status.status = .pending ∧ status.queueName = none) ∨
    (status.status = .enqueued ∧ status.queueName.isSome) ∨
    (status.status = .delayed ∧ status.queueName.isSome ∧ status.delayUntilEpochMs.isSome)

theorem statusFits_of_workflow {start : WorkflowStart} {status : WorkflowStatusInternal}
    (h : start.status = .ok status) : StatusFits status := by
  unfold WorkflowStart.status at h
  split at h
  · cases h
  · cases h
    simp only [StatusFits, WorkflowStart.initialStatus]
    cases start.queue with
    | none => exact Or.inl ⟨rfl, rfl⟩
    | some queue =>
      right
      by_cases hdelay :
          (start.enqueueOptions.bind EnqueueOptionsInternal.delayUntilEpochMs).isSome
      · exact Or.inr ⟨by simp [hdelay], rfl, hdelay⟩
      · exact Or.inl ⟨by simp [hdelay], rfl⟩

theorem statusFits_of_client {options : EnqueueOptions} {time : ℚ}
    {generated inputs serialization : String} {status : WorkflowStatusInternal}
    (h : buildEnqueueStatus options time generated inputs serialization = .ok status) :
    StatusFits status := by
  unfold buildEnqueueStatus at h
  split at h
  · cases h
  · cases h
    right
    cases hdelay : options.delaySeconds with
    | none => exact Or.inl ⟨by simp, rfl⟩
    | some delay => exact Or.inr ⟨by simp, rfl, by simp⟩

/-- Every built status is PENDING off any queue, or waits on a queue. -/
theorem Built.statusFits {status : WorkflowStatusInternal} (h : Built status) :
    StatusFits status := by
  cases h with
  | workflow start _ h => exact statusFits_of_workflow h
  | client options time generated inputs serialization _ h => exact statusFits_of_client h
  | debounced options time generated inputs serialization built deadline h =>
    have hfits := statusFits_of_client h
    simpa [StatusFits, stampDebounced] using hfits
  | scheduled workflowName workflowId scheduleName version inputs className queueName =>
    refine Or.inr (Or.inl ⟨rfl, ?_⟩)
    simp only [scheduledStatus]
    split
    · split <;> rfl
    · rfl

/-! ## Plain statuses -/

/-- A client enqueue with no option but the version. -/
def enqueuedStatus (workflowId queueName appVersion : String) : WorkflowStatusInternal where
  workflowUuid := workflowId
  status := .enqueued
  name := "f"
  queueName := some queueName
  appVersion := some appVersion
  serialization := some "py_pickle"

theorem built_enqueuedStatus (workflowId queueName appVersion : String) :
    Built (enqueuedStatus workflowId queueName appVersion) :=
  .client { workflowName := "f", queueName := queueName, appVersion := some appVersion } 0
    workflowId "" "py_pickle" _ rfl

/-- A direct start of a workflow off any queue. -/
def startedStatus (workflowId : String) : WorkflowStatusInternal where
  workflowUuid := workflowId
  status := .pending
  name := "f"
  appVersion := some ""
  serialization := some "py_pickle"

theorem built_startedStatus {workflowId : String} (h : workflowId ≠ "") :
    Built (startedStatus workflowId) := by
  refine .workflow
    { wfName := "f", ctx := { workflowId := workflowId }, serialization := "py_pickle" } _ ?_
  simp [WorkflowStart.status, WorkflowStart.wfid, WorkflowStart.wfid.fromContext, h, startedStatus,
    WorkflowStart.initialStatus]

theorem built_startedWf : Built (startedStatus "wf") := built_startedStatus (by decide)

end DBOSModel.Core

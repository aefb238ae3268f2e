import DBOSModel.Core.Context

/-!
# Programs over contexts

The context managers of `dbos/_context.py`, the role check of `dbos/_roles.py`, and what the
decorators of `dbos/_core.py` do with contexts around the body of a workflow, a step or a
transaction. A program is the tree of the blocks and calls that an execution goes through. What the
databases answer on the way is part of the tree.
-/

namespace DBOSModel.Core.Contexts

open Managed SysDb

/-! ## Managers of options -/

/-- The settings of a context: all but the IDs, which calls use up, and the authentication. -/
def Context.settings (self : Context) : Context :=
  { self with
    idAssignedForNextWorkflow := ""
    isWithinSetWorkflowIdBlock := false
    functionId := 0
    authenticatedUser := none
    authenticatedRoles := none }

def Context.authentication (self : Context) : Option String × Option (List String) :=
  (self.authenticatedUser, self.authenticatedRoles)

/-- Where the code of a context is: in which workflow, in which step and in which transaction. -/
def Context.place (self : Context) : String × ℤ × Option ℕ :=
  (self.workflowId, self.currStepFunctionId, self.sqlSession)

/-- A manager that changes the current context, which it makes if there is none. On exit it puts
back what it has saved. -/
structure ContextBlock where
  /-- `__init__`. -/
  init : Except ContextError Unit := .ok ()
  enter : Context → Context
  exit (saved : Context) : Context → Context
  settings_exit : ∀ saved ctx, ctx.settings = (enter saved).settings →
    (exit saved ctx).settings = saved.settings
  authentication_exit : ∀ saved ctx, ctx.authentication = (enter saved).authentication →
    (exit saved ctx).authentication = saved.authentication
  place_enter : ∀ ctx, (enter ctx).place = ctx.place
  functionId_enter : ∀ ctx, (enter ctx).functionId = ctx.functionId
  functionId_exit : ∀ saved ctx, (exit saved ctx).functionId = ctx.functionId

/-- `validate_workflow_id`, with the `repr` of a text of white space. -/
def validateWorkflowId (workflowId : String) : Except ContextError Unit :=
  if workflowId.toList.all pyIsSpace then
    .error (.dbosException ("Invalid workflow ID '" ++
      String.join (workflowId.toList.map pyReprSpace) ++
      "': workflow IDs must be non-empty and cannot be only whitespace."))
  else .ok ()

/-- Settings that are equal are equal field by field. -/
theorem settings_eq_iff {ctx ctx' : Context} :
    ctx.settings = ctx'.settings ↔
      ctx = { ctx' with
        idAssignedForNextWorkflow := ctx.idAssignedForNextWorkflow
        isWithinSetWorkflowIdBlock := ctx.isWithinSetWorkflowIdBlock
        functionId := ctx.functionId
        authenticatedUser := ctx.authenticatedUser
        authenticatedRoles := ctx.authenticatedRoles } := by
  cases ctx
  cases ctx'
  simp [Context.settings]

def setWorkflowID (wfid : String) : ContextBlock where
  init := validateWorkflowId wfid
  enter ctx :=
    { ctx with idAssignedForNextWorkflow := wfid, isWithinSetWorkflowIdBlock := true }
  exit _ ctx := { ctx with isWithinSetWorkflowIdBlock := false }
  settings_exit saved ctx h := by
    rw [settings_eq_iff] at h
    rw [h]
    rfl
  authentication_exit _ _ h := h
  place_enter _ := rfl
  functionId_enter _ := rfl
  functionId_exit _ _ := rfl

/-- `SetWorkflowTimeout`, on the timeout in milliseconds. -/
def setWorkflowTimeout (workflowTimeoutMs : Option ℤ) : ContextBlock where
  enter ctx :=
    { ctx with workflowTimeoutMs := workflowTimeoutMs, workflowDeadlineEpochMs := none }
  exit saved ctx :=
    { ctx with
      workflowTimeoutMs := saved.workflowTimeoutMs
      workflowDeadlineEpochMs := saved.workflowDeadlineEpochMs }
  settings_exit saved ctx h := by
    rw [settings_eq_iff] at h
    rw [h]
    rfl
  authentication_exit _ _ h := h
  place_enter _ := rfl
  functionId_enter _ := rfl
  functionId_exit _ _ := rfl

def setWorkflowAttributes (attributes : Option String) : ContextBlock where
  enter ctx := { ctx with workflowAttributes := attributes }
  exit saved ctx := { ctx with workflowAttributes := saved.workflowAttributes }
  settings_exit saved ctx h := by
    rw [settings_eq_iff] at h
    rw [h]
    rfl
  authentication_exit _ _ h := h
  place_enter _ := rfl
  functionId_enter _ := rfl
  functionId_exit _ _ := rfl

/-- `SetEnqueueOptions`, on the time at which the delay ends. -/
def setEnqueueOptions (deduplicationId : Option String) (priority : Option ℤ)
    (appVersion queuePartitionKey : Option String) (delayUntilEpochMs : Option ℤ) :
    ContextBlock where
  init :=
    match priority with
    | none => .ok ()
    | some priority =>
      if priority < minPriority ∨ maxPriority < priority then
        .error (.exception ("Invalid priority " ++ toString priority ++
          ". Priority must be between " ++ toString minPriority ++ "~" ++ toString maxPriority ++
          "."))
      else .ok ()
  enter ctx :=
    { ctx with
      deduplicationId := deduplicationId
      priority := priority
      appVersion := appVersion
      queuePartitionKey := queuePartitionKey
      delayUntilEpochMs := delayUntilEpochMs }
  exit saved ctx :=
    { ctx with
      deduplicationId := saved.deduplicationId
      priority := saved.priority
      appVersion := saved.appVersion
      queuePartitionKey := saved.queuePartitionKey
      delayUntilEpochMs := saved.delayUntilEpochMs }
  settings_exit saved ctx h := by
    rw [settings_eq_iff] at h
    rw [h]
    rfl
  authentication_exit _ _ h := h
  place_enter _ := rfl
  functionId_enter _ := rfl
  functionId_exit _ _ := rfl

def setWorkflowDebounce (deduplicationId : String) (delayUntilEpochMs : ℤ)
    (debounceDeadlineEpochMs : Option ℤ) : ContextBlock where
  enter ctx :=
    { ctx with
      deduplicationId := some deduplicationId
      delayUntilEpochMs := some delayUntilEpochMs
      debounceDeadlineEpochMs := debounceDeadlineEpochMs
      isDebounced := true
      workflowDeadlineEpochMs := none }
  exit saved ctx :=
    { ctx with
      deduplicationId := saved.deduplicationId
      delayUntilEpochMs := saved.delayUntilEpochMs
      debounceDeadlineEpochMs := saved.debounceDeadlineEpochMs
      isDebounced := saved.isDebounced
      workflowDeadlineEpochMs := saved.workflowDeadlineEpochMs }
  settings_exit saved ctx h := by
    rw [settings_eq_iff] at h
    rw [h]
    rfl
  authentication_exit _ _ h := h
  place_enter _ := rfl
  functionId_enter _ := rfl
  functionId_exit _ _ := rfl

/-- `DBOSContextSetAuth`. -/
def contextSetAuth (user : Option String) (roles : Option (List String)) : ContextBlock where
  enter ctx := ctx.setAuthentication user roles
  exit saved ctx := ctx.setAuthentication saved.authenticatedUser saved.authenticatedRoles
  settings_exit saved ctx h := by
    rw [settings_eq_iff] at h
    rw [h]
    rfl
  authentication_exit _ _ _ := rfl
  place_enter _ := rfl
  functionId_enter _ := rfl
  functionId_exit _ _ := rfl

/-- `DBOSContextEnsure`. -/
def contextEnsure : ContextBlock where
  enter ctx := ctx
  exit _ ctx := ctx
  settings_exit _ _ h := h
  authentication_exit _ _ h := h
  place_enter _ := rfl
  functionId_enter _ := rfl
  functionId_exit _ _ := rfl

/-- `__enter__` of such a manager: whether it has made the context, and the context before. -/
def ContextBlock.enterBlock (block : ContextBlock) : ContextCode (Bool × Context) := fun w ↦
  match block.init with
  | .error error => (.error error, w)
  | .ok () =>
    match w.current with
    | none =>
      (.ok (true, {}), (w.allocate (block.enter {})).setCurrent (some w.allocated))
    | some ref =>
      (.ok (false, w.contexts ref), w.modify ref (block.enter (w.contexts ref)))

/-- `__exit__`. -/
def ContextBlock.exitBlock (block : ContextBlock) (saved : Bool × Context) : ContextCode Unit :=
  assertCurrentContext.andThen fun ref ↦
    (changeContext ref (block.exit saved.2)).andThen fun _ ↦
      if saved.1 then .update fun w ↦ w.setCurrent none else .ret ()

/-! ## Managers of calls -/

section Calls

variable (process : Process)

/-- `__enter__` of `EnterDBOSHandler`, which makes a context if there is none. -/
def enterHandler (name : String) : ContextCode Bool := fun w ↦
  match w.current with
  | none =>
    (.ok true, (w.allocate (({} : Context).startSpan process name)).setCurrent
      (some w.allocated))
  | some ref => (.ok false, w.modify ref ((w.contexts ref).startSpan process name))

/-- `__exit__` of `EnterDBOSHandler`. -/
def exitHandler (createdCtx : Bool) : ContextCode Unit :=
  assertCurrentContext.andThen fun ref ↦
    (tryChangeContext ref (Context.endSpan · process)).andThen fun _ ↦
      if createdCtx then .update fun w ↦ w.setCurrent none else .ret ()

/-- `__enter__` of `DBOSAssumeRole`: the prior role. -/
def enterAssumeRole (assumeRole : Option String) : ContextCode (Option String) :=
  assertCurrentContext.andThen fun ref w ↦
    let ctx := w.contexts ref
    (.ok ctx.assumedRole,
      if assumeRole.isSome then w.modify ref { ctx with assumedRole := assumeRole } else w)

/-- `__exit__` of `DBOSAssumeRole`. -/
def exitAssumeRole (assumeRole priorRole : Option String) : ContextCode Unit :=
  assertCurrentContext.andThen fun ref ↦
    (assertContext ref fun ctx ↦ assumeRole.isNone || ctx.assumedRole == assumeRole).andThen
      fun _ ↦ changeContext ref fun ctx ↦ { ctx with assumedRole := priorRole }

/-- What `EnterDBOSWorkflow` saves: the context of the caller, and the context of the workflow as it
was. -/
structure SavedWorkflow where
  prevCtx : Option ℕ
  useCtx : ℕ
  saved : Context

/-- The options that a workflow does not pass on to its children. -/
def Context.unset (self : Context) : Context :=
  { self with
    isWithinSetWorkflowIdBlock := false
    workflowTimeoutMs := none
    deduplicationId := none
    priority := none }

/-- `__enter__` of `EnterDBOSWorkflow`. -/
def enterWorkflow (name : String) (useCtx : ℕ) : ContextCode SavedWorkflow := fun w ↦
  let ctx := w.contexts useCtx
  let w' := w.setCurrent (some useCtx)
  if ctx.isWithinWorkflow then (.error (.assertionError ""), w')
  else
    (.ok { prevCtx := w.current, useCtx := useCtx, saved := ctx },
      { w'.modify useCtx
          (ctx.unset.startWorkflow process (process.generateUuid w.generated) name) with
        generated :=
          if ctx.idAssignedForNextWorkflow = "" then w.generated + 1 else w.generated })

/-- `__exit__` of `EnterDBOSWorkflow`. -/
def exitWorkflow (entered : SavedWorkflow) : ContextCode Unit :=
  assertCurrentContext.andThen fun ref w ↦
    if ref = entered.useCtx ∧ (w.contexts ref).isWithinWorkflow = true then
      match (w.contexts ref).endWorkflow process with
      | .error error => (.error error, w)
      | .ok ctx =>
        (.ok (), (w.modify ref
          { ctx with
            isWithinSetWorkflowIdBlock := entered.saved.isWithinSetWorkflowIdBlock
            workflowTimeoutMs := entered.saved.workflowTimeoutMs
            workflowDeadlineEpochMs := none
            priority := entered.saved.priority
            deduplicationId := entered.saved.deduplicationId }).setCurrent entered.prevCtx)
    else (.error (.assertionError ""), w)

/-- `__enter__` of `EnterDBOSStepCtx`: the context of the caller. -/
def enterStep (name : String) (useCtx : ℕ) : ContextCode ℕ :=
  assertCurrentContext.andThen fun ref ↦
    (assertContext ref Context.isWorkflow).andThen fun _ w ↦
      (.ok ref,
        (w.modify useCtx ((w.contexts useCtx).startStep process (w.contexts useCtx).functionId
          name)).setCurrent (some useCtx))

/-- `__exit__` of `EnterDBOSStepCtx`. -/
def exitStep (prevCtx : ℕ) : ContextCode Unit :=
  assertCurrentContext.andThen fun ref ↦
    (assertContext ref Context.isStep).andThen fun _ ↦
      (tryChangeContext ref (Context.endStep · process)).andThen fun _ ↦
        .update fun w ↦ w.setCurrent (some prevCtx)

/-- `__enter__` of `EnterDBOSTransaction`. -/
def enterTransaction (session : ℕ) (name : String) : ContextCode Unit :=
  assertCurrentContext.andThen fun ref ↦
    (assertContext ref Context.isWorkflow).andThen fun _ w ↦
      let ctx := (w.contexts ref).nextFunctionId
      (.ok (), (w.modify ref (ctx.startTransaction process session name)).emit
        (.assigned ref ctx.functionId))

/-- `__exit__` of `EnterDBOSTransaction`. -/
def exitTransaction : ContextCode Unit :=
  assertCurrentContext.andThen fun ref ↦
    (assertContext ref Context.isTransaction).andThen fun _ ↦
      tryChangeContext ref (Context.endTransaction · process)

/-- `__enter__` of `EnterDBOSStepRetry`; outside a step it does nothing. -/
def enterStepRetry (currentAttempt maxAttempts : ℤ) : ContextCode Unit := fun w ↦
  match w.current with
  | none => (.ok (), w)
  | some ref =>
    let ctx := w.contexts ref
    (.ok (), w.modify ref { ctx with stepStatus := ctx.stepStatus.map fun status ↦
      { status with currentAttempt := some currentAttempt, maxAttempts := some maxAttempts } })

/-- `__exit__` of `EnterDBOSStepRetry`. -/
def exitStepRetry : ContextCode Unit := fun w ↦
  match w.current with
  | none => (.ok (), w)
  | some ref =>
    let ctx := w.contexts ref
    (.ok (), w.modify ref { ctx with stepStatus := ctx.stepStatus.map fun status ↦
      { status with currentAttempt := none, maxAttempts := none } })

/-- `__enter__` of `UseLogAttributes`: whether it has made the context, and the ID of before. -/
def enterLogAttributes (workflowId : String) : ContextCode (Bool × String) := fun w ↦
  match w.current with
  | none =>
    (.ok (true, ""), (w.allocate { workflowId := workflowId }).setCurrent (some w.allocated))
  | some ref =>
    let ctx := w.contexts ref
    (.ok (false, ctx.workflowId), w.modify ref { ctx with workflowId := workflowId })

/-- `__exit__` of `UseLogAttributes`. -/
def exitLogAttributes (saved : Bool × String) : ContextCode Unit :=
  assertCurrentContext.andThen fun ref ↦
    (changeContext ref fun ctx ↦ { ctx with workflowId := saved.2 }).andThen fun _ ↦
      if saved.1 then .update fun w ↦ w.setCurrent none else .ret ()

/-! ## Calls -/

/-- What the decorators know of a function: its name, its `required_roles`, the
`def_required_roles` of its class, and its serialization type. -/
structure Function where
  name : String
  requiredRoles : Option (List String) := none
  defRequiredRoles : Option (List String) := none
  serializationType : Option WorkflowSerializationFormat := none
deriving DecidableEq

/-- The roles of which a caller needs one; with an empty list nothing is checked. -/
def Function.required (func : Function) : List String :=
  (func.requiredRoles <|> func.defRequiredRoles).getD []

/-- `check_required_roles`, on the current context. -/
def checkRequiredRoles (func : Function) : ContextCode (Option String) := fun w ↦
  if func.required = [] then (.ok none, w)
  else
    match w.context.bind Context.authenticatedRoles with
    | none =>
      (.error (.notAuthorized ("Function " ++ func.name ++
        " requires a role, but was called in a context without authentication information")), w)
    | some roles =>
      match func.required.find? (· ∈ roles) with
      | some role => (.ok (some role), w)
      | none =>
        (.error (.notAuthorized ("Function " ++ func.name ++
          " has required roles, but user is not authenticated for any of them")), w)

/-- What the databases answer during a call. -/
structure Reply where
  /-- An outcome that is recorded already: the body does not run. -/
  recorded : Option (Except ContextError Unit) := none
  /-- `_init_workflow`: the deadline of the workflow, or an exception. -/
  initialized : Except ContextError (Option ℤ) := .ok none
  /-- The row of the workflow says that it is serialized as portable JSON. -/
  isPortable : Bool := false
  /-- What the outcome of the body becomes when it is recorded. -/
  finished : Except ContextError Unit → Except ContextError Unit := id

/-- The code, unless its outcome is recorded already. -/
def unlessRecorded (reply : Reply) (code : ContextCode Unit) : ContextCode Unit :=
  match reply.recorded with
  | some outcome => .ofExcept outcome
  | none => code

/-- Record the outcome of a body. -/
def finishing (finished : Except ContextError Unit → Except ContextError Unit)
    (body : ContextCode Unit) : ContextCode Unit :=
  fun w ↦ (finished (body w).1, (body w).2)

/-- A body that is about to run. -/
def entering (kind : CallKind) (func : Function) (body : ContextCode Unit) : ContextCode Unit :=
  (Code.update fun w ↦ w.emit (.entered kind func.required w.context)).andThen fun _ ↦ body

/-- What `_init_workflow` does to the context of the workflow. -/
def initWorkflow (useCtx : ℕ) (reply : Reply) : ContextCode Unit :=
  (changeContext useCtx fun ctx ↦ { ctx with workflowAttributes := none }).andThen fun _ ↦
    (Code.ofExcept reply.initialized).andThen fun deadline ↦
      changeContext useCtx fun ctx ↦ { ctx with workflowDeadlineEpochMs := deadline }

/-- The serialization type of a workflow that is started. -/
def serializationTypeOf (func : Function) (reply : Reply) : WorkflowSerializationFormat :=
  if reply.isPortable then .portable else func.serializationType.getD .default

/-- The decorated function: `required_roles`. If it is `async`, the call returns a coroutine. Its
body runs when it is awaited, and by then the role has been put back. -/
def callDecorated (func : Function) (isAsync : Bool) (body : ContextCode Unit) :
    ContextCode Unit :=
  (checkRequiredRoles func).andThen fun role ↦
    if isAsync then
      (Code.managed (enterAssumeRole role) (exitAssumeRole role) fun _ ↦ .ret ()).andThen fun _ ↦
        entering .coroutine func body
    else
      Code.managed (enterAssumeRole role) (exitAssumeRole role) fun _ ↦
        entering .decorated func body

/-- The context of a called workflow, and the snapshot in which its result is recorded. -/
def workflowContexts : ContextCode ℕ :=
  (createStartWorkflowChild process).andThen fun newwfctx w ↦
    match w.current with
    | none => (.ok newwfctx, w)
    | some ref =>
      if (w.contexts ref).isWorkflow then
        ((snapshotStepCtx ref).andThen fun _ ↦ Code.ret newwfctx) w
      else (.ok newwfctx, w)

/-- `workflow_wrapper`. -/
def callWorkflow (func : Function) (reply : Reply) (body : ContextCode Unit) : ContextCode Unit :=
  (checkRequiredRoles func).andThen fun role ↦
    (workflowContexts process).andThen fun newwfctx ↦
      finishing reply.finished <|
        Code.managed (enterWorkflow process func.name newwfctx) (exitWorkflow process) fun _ ↦
          Code.managed (enterAssumeRole role) (exitAssumeRole role) fun _ ↦
            unlessRecorded reply <|
              (initWorkflow newwfctx reply).andThen fun _ ↦ entering .workflow func body

/-- Code on a thread of its own, which starts without a context and runs to its end at once: it has
no context in common with the thread that starts it. -/
def onThread (body : ContextCode Unit) : ContextCode Unit := fun w ↦
  (.ok (), (body (w.setCurrent none)).2.setCurrent w.current)

/-- `start_workflow`, with the workflow that it runs on another thread if `executes` says so
(`_execute_workflow_wthread`). -/
def startWorkflow (func : Function) (reply : Reply) (executes : Bool) (body : ContextCode Unit) :
    ContextCode Unit :=
  (createStartWorkflowChild process).andThen fun newWfCtx ↦
    unlessRecorded reply <|
      (initWorkflow newWfCtx reply).andThen fun _ ↦
        (changeContext newWfCtx fun ctx ↦
            { ctx with serializationType := serializationTypeOf func reply }).andThen fun _ ↦
          if executes then
            onThread <|
              Code.managed (enterWorkflow process func.name newWfCtx) (exitWorkflow process) fun _ ↦
                (checkRequiredRoles func).andThen fun role ↦
                  Code.managed (enterAssumeRole role) (exitAssumeRole role) fun _ ↦
                    entering .started func body
          else .ret ()

/-- `invoke_step`, in a snapshot of the context. -/
def invokeStep (ref : ℕ) (name : String) (reply : Reply) (body : ContextCode Unit) :
    ContextCode Unit :=
  (snapshotStepCtx ref).andThen fun stepCtx ↦
    Code.managed (enterStep process name stepCtx) (exitStep process) fun _ ↦
      unlessRecorded reply (finishing reply.finished body)

/-- `decorate_step`: outside a workflow the step is a plain function, whose roles nobody checks. -/
def callStep (func : Function) (reply : Reply) (body : ContextCode Unit) : ContextCode Unit :=
  fun w ↦
    match w.current with
    | none => entering .plainStep func body w
    | some ref =>
      if (w.contexts ref).isWorkflow then
        ((checkRequiredRoles func).andThen fun role ↦
          Code.managed (enterAssumeRole role) (exitAssumeRole role) fun _ ↦
            invokeStep process ref func.name reply (entering .step func body)) w
      else entering .plainStep func body w

/-- `decorate_transaction` within a workflow. -/
def callTransactionWithin (func : Function) (session : ℕ) (reply : Reply)
    (body : ContextCode Unit) : ContextCode Unit :=
  (checkRequiredRoles func).andThen fun role ↦
    assertCurrentContext.andThen fun ref ↦
      (assertContext ref Context.isWorkflow
        "Transactions must be called from within workflows").andThen fun _ ↦
          Code.managed (enterAssumeRole role) (exitAssumeRole role) fun _ ↦
            Code.managed (enterTransaction process session func.name)
              (fun _ ↦ exitTransaction process) fun _ ↦
                unlessRecorded reply (finishing reply.finished (entering .transaction func body))

/-- `decorate_transaction`: outside a workflow a temporary one is called, whose body calls the
transaction. -/
def callTransaction (func : Function) (session : ℕ) (workflowReply reply : Reply)
    (body : ContextCode Unit) : ContextCode Unit :=
  (checkRequiredRoles func).andThen fun _ w ↦
    if w.context.any Context.isWithinWorkflow then
      callTransactionWithin process func session reply body w
    else
      callWorkflow process { func with name := "<temp>." ++ func.name } workflowReply
        (callTransactionWithin process func session reply body) w

/-- The operations that run as a step of their own in a workflow, such as `DBOS.set_event`:
elsewhere they do something else, which ends with `otherwise`. -/
def callOperation (name : String) (reserveSleepId : Bool)
    (outcome otherwise : Except ContextError Unit) : ContextCode Unit := fun w ↦
  match w.current with
  | none => (otherwise, w)
  | some ref =>
    if (w.contexts ref).isWorkflow then
      ((snapshotStepCtx ref reserveSleepId).andThen fun stepCtx ↦
        Code.managed (enterStep process name stepCtx) (exitStep process) fun _ ↦
          Code.ofExcept outcome) w
    else (otherwise, w)

/-- `DBOS.set_authentication`. -/
def callSetAuthentication (user : Option String) (roles : Option (List String)) :
    ContextCode Unit :=
  assertCurrentContext.andThen fun ref ↦
    changeContext ref (Context.setAuthentication · user roles)

/-! ## Programs -/

end Calls

inductive Program where
  | pass
  | raising (error : ContextError)
  | sequence (first rest : Program)
  | attempt (body except : Program)
  | block (manager : ContextBlock) (body : Program)
  | handler (name : String) (body : Program)
  | decorated (func : Function) (isAsync : Bool) (body : Program)
  | workflow (func : Function) (reply : Reply) (body : Program)
  | start (func : Function) (reply : Reply) (executes : Bool) (body : Program)
  | step (func : Function) (reply : Reply) (body : Program)
  | transaction (func : Function) (session : ℕ) (workflowReply reply : Reply) (body : Program)
  | operation (name : String) (reserveSleepId : Bool)
      (outcome otherwise : Except ContextError Unit)
  | setAuthentication (user : Option String) (roles : Option (List String))

namespace Program

def run (process : Process) : Program → ContextCode Unit
  | pass => .ret ()
  | raising error => .raise error
  | sequence first rest => (run process first).andThen fun _ ↦ run process rest
  | attempt body except => (run process body).attempt fun _ ↦ run process except
  | block manager body =>
    Code.managed manager.enterBlock manager.exitBlock fun _ ↦ run process body
  | handler name body =>
    Code.managed (enterHandler process name) (exitHandler process) fun _ ↦ run process body
  | decorated func isAsync body => callDecorated func isAsync (run process body)
  | workflow func reply body => callWorkflow process func reply (run process body)
  | start func reply executes body =>
    Contexts.startWorkflow process func reply executes (run process body)
  | step func reply body => callStep process func reply (run process body)
  | transaction func session workflowReply reply body =>
    callTransaction process func session workflowReply reply (run process body)
  | operation name reserveSleepId outcome otherwise =>
    callOperation process name reserveSleepId outcome otherwise
  | setAuthentication user roles => callSetAuthentication user roles

/-- Nothing in the program assigns the authentication of its context for good. A workflow has a
context of its own. -/
def keepsAuthentication : Program → Bool
  | pass | raising _ | operation .. | workflow .. | start .. => true
  | setAuthentication .. => false
  | sequence first rest => first.keepsAuthentication && rest.keepsAuthentication
  | attempt body except => body.keepsAuthentication && except.keepsAuthentication
  | block _ body | handler _ body | decorated _ _ body | step _ _ body
  | transaction _ _ _ _ body => body.keepsAuthentication

end Program

end DBOSModel.Core.Contexts

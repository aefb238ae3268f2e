import DBOSModel.Core.StartWorkflow
import DBOSModel.Relational.Managed
import Mathlib.Logic.Function.Basic

/-!
# Contexts

`DBOSContext` of `dbos/_context.py`. Contexts are objects that their owners change in place, so they
live in a heap, and a context variable holds a reference to the current one. One thread is modelled,
with its own context variable. The executor, the application and the logger of a context are those
of the process and never change; nothing reads `curr_tx_function_id`.

An exception is known by its text. With tracing on, the end of a span writes `str` of the exception
to the span, so that an exception whose `__str__` raises would make it raise; there is none here.
-/

namespace DBOSModel.Core.Contexts

open Managed SysDb Portable

/-- What the code of a context raises; `user` is an exception of the program that it runs, with the
text that its `__str__` returns. -/
inductive ContextError where
  | assertionError (message : String)
  | dbosException (message : String)
  | notAuthorized (message : String)
  | exception (message : String)
  | indexError (message : String)
  | user (message : String)
deriving DecidableEq, Repr

structure StepStatus where
  stepId : ℤ
  currentAttempt : Option ℤ := none
  maxAttempts : Option ℤ := none
deriving DecidableEq, Repr

/-- `DBOSContext`. A session is known by a number, a span by its name, and the attributes of a
workflow by their JSON text. -/
structure Context where
  idAssignedForNextWorkflow : String := ""
  isWithinSetWorkflowIdBlock : Bool := false
  parentWorkflowId : String := ""
  parentWorkflowFid : ℤ := -1
  workflowId : String := ""
  functionId : ℤ := -1
  currStepFunctionId : ℤ := -1
  sqlSession : Option ℕ := none
  contextSpans : List String := []
  authenticatedUser : Option String := none
  authenticatedRoles : Option (List String) := none
  assumedRole : Option String := none
  stepStatus : Option StepStatus := none
  appVersion : Option String := none
  serializationType : WorkflowSerializationFormat := .default
  workflowTimeoutMs : Option ℤ := none
  workflowDeadlineEpochMs : Option ℤ := none
  deduplicationId : Option String := none
  priority : Option ℤ := none
  workflowAttributes : Option String := none
  queuePartitionKey : Option String := none
  delayUntilEpochMs : Option ℤ := none
  debounceDeadlineEpochMs : Option ℤ := none
  isDebounced : Bool := false
deriving DecidableEq

/-- What a context takes from its process. -/
structure Process where
  /-- `dbos_tracer.disable_otlp`. -/
  disableOtlp : Bool := true
  /-- The text of the UUIDs that `generate_uuid` returns, in order. -/
  generateUuid : ℕ → String
  generateUuid_ne : ∀ n, generateUuid n ≠ ""

namespace Context

variable (self : Context)

def isWithinWorkflow : Bool := self.workflowId ≠ ""

def isTransaction : Bool := self.sqlSession.isSome

def isStep : Bool := 0 ≤ self.currStepFunctionId

def isWorkflow : Bool := self.isWithinWorkflow && !self.isStep && !self.isTransaction

def hasParent : Bool := self.parentWorkflowId ≠ ""

/-- The context that `create_child` returns. -/
def createChild (isForWorkflow : Bool) : Context :=
  let rv : Context :=
    { isWithinSetWorkflowIdBlock := self.isWithinSetWorkflowIdBlock
      parentWorkflowId := self.workflowId
      parentWorkflowFid := self.functionId
      authenticatedUser := self.authenticatedUser
      authenticatedRoles := self.authenticatedRoles
      assumedRole := self.assumedRole }
  if isForWorkflow then
    { rv with
      idAssignedForNextWorkflow := self.idAssignedForNextWorkflow
      workflowAttributes := self.workflowAttributes }
  else { rv with serializationType := self.serializationType }

/-- What `create_child` leaves of the context that it is called on: a workflow takes the ID. -/
def afterCreateChild (isForWorkflow : Bool) : Context :=
  if isForWorkflow then { self with idAssignedForNextWorkflow := "" } else self

/-- The next function ID. -/
def nextFunctionId : Context := { self with functionId := self.functionId + 1 }

/-- The context that `snapshot_step_ctx` returns. -/
def snapshotStepCtx : Context :=
  { self.createChild false with
    appVersion := self.appVersion
    workflowId := self.workflowId
    workflowDeadlineEpochMs := self.workflowDeadlineEpochMs
    workflowTimeoutMs := self.workflowTimeoutMs
    deduplicationId := self.deduplicationId
    priority := self.priority
    queuePartitionKey := self.queuePartitionKey
    delayUntilEpochMs := self.delayUntilEpochMs
    debounceDeadlineEpochMs := self.debounceDeadlineEpochMs
    isDebounced := self.isDebounced
    workflowAttributes := self.workflowAttributes
    functionId := self.functionId + 1 }

/-- What `snapshot_step_ctx` leaves of the context that it is called on. -/
def afterSnapshotStepCtx (reserveSleepId : Bool) : Context :=
  if reserveSleepId then self.nextFunctionId.nextFunctionId else self.nextFunctionId

/-- The ID that `create_start_workflow_child` assigns within a workflow. -/
def assignChildId : Context :=
  { self.nextFunctionId with
    idAssignedForNextWorkflow :=
      if self.idAssignedForNextWorkflow = "" then
        self.workflowId ++ "-" ++ toString (self.functionId + 1)
      else self.idAssignedForNextWorkflow }

/-- `assign_workflow_id`, with the UUID that it generates if there is no ID. -/
def assignWorkflowId (uuid : String) : String :=
  if self.idAssignedForNextWorkflow = "" then uuid else self.idAssignedForNextWorkflow

/-- `_start_span`. -/
def startSpan (process : Process) (name : String) : Context :=
  if process.disableOtlp then self else { self with contextSpans := name :: self.contextSpans }

/-- `_end_span`, which pops the last span. What it writes on the span is left out. -/
def endSpan (process : Process) : Except ContextError Context :=
  if process.disableOtlp then .ok self
  else
    match self.contextSpans with
    | [] => .error (.indexError "pop from empty list")
    | _ :: spans => .ok { self with contextSpans := spans }

/-- `start_workflow`, called without an ID. -/
def startWorkflow (process : Process) (uuid name : String) : Context :=
  { self with
    workflowId := self.assignWorkflowId uuid
    idAssignedForNextWorkflow := ""
    functionId := 0 }.startSpan process name

/-- `end_workflow`. -/
def endWorkflow (process : Process) : Except ContextError Context :=
  { self with workflowId := "", functionId := -1 }.endSpan process

def startStep (process : Process) (fid : ℤ) (name : String) : Context :=
  { self with currStepFunctionId := fid, stepStatus := some { stepId := fid } }.startSpan process
    name

def endStep (process : Process) : Except ContextError Context :=
  { self with currStepFunctionId := -1, stepStatus := none }.endSpan process

def startTransaction (process : Process) (session : ℕ) (name : String) : Context :=
  { self with sqlSession := some session }.startSpan process name

def endTransaction (process : Process) : Except ContextError Context :=
  { self with sqlSession := none }.endSpan process

/-- `set_authentication`; what it writes on the span is left out. -/
def setAuthentication (user : Option String) (roles : Option (List String)) : Context :=
  { self with authenticatedUser := user, authenticatedRoles := roles }

end Context

/-! ## The heap of contexts -/

/-- What a function was when its body was about to run. -/
inductive CallKind where
  | workflow
  /-- A workflow that was started, on a thread of its own. -/
  | started
  | step
  /-- A step that is called outside a workflow, as the plain function. -/
  | plainStep
  | transaction
  | decorated
  /-- A decorated `async` function, whose coroutine is awaited. -/
  | coroutine
deriving DecidableEq, Repr

/-- What can be seen of a run. -/
inductive Event where
  /-- The context has given a function ID to an operation. -/
  | assigned (ref : ℕ) (functionId : ℤ)
  /-- The body of a function with required roles is about to run in a context. -/
  | entered (kind : CallKind) (required : List String) (context : Option Context)
deriving DecidableEq

structure World where
  contexts : ℕ → Context
  /-- The number of contexts that have been made. -/
  allocated : ℕ
  /-- `_dbos_context_var`. -/
  current : Option ℕ
  /-- The number of UUIDs that have been generated. -/
  generated : ℕ
  events : List Event

/-- Code that runs with the contexts. -/
abbrev ContextCode (α : Type) := Code World ContextError α

namespace World

variable (w : World)

/-- `get_local_dbos_context`. -/
def context : Option Context := w.current.map w.contexts

/-- A new context object. -/
def allocate (ctx : Context) : World :=
  { w with contexts := Function.update w.contexts w.allocated ctx, allocated := w.allocated + 1 }

def modify (ref : ℕ) (ctx : Context) : World :=
  { w with contexts := Function.update w.contexts ref ctx }

/-- `_set_local_dbos_context`. -/
def setCurrent (ref : Option ℕ) : World := { w with current := ref }

def emit (event : Event) : World := { w with events := event :: w.events }

/-- Some context is current and an object, and no context has a function ID below -1. -/
structure WellFormed : Prop where
  current : ∀ ref, w.current = some ref → ref < w.allocated
  functionId : ∀ ref < w.allocated, -1 ≤ (w.contexts ref).functionId

end World

/-- `assert_current_dbos_context`. -/
def assertCurrentContext : ContextCode ℕ := fun w ↦
  match w.current with
  | none => (.error (.assertionError "No DBOS context found"), w)
  | some ref => (.ok ref, w)

/-- `assert`, on the context behind a reference. -/
def assertContext (ref : ℕ) (condition : Context → Bool) (message : String := "") :
    ContextCode Unit := fun w ↦
  if condition (w.contexts ref) then (.ok (), w) else (.error (.assertionError message), w)

/-- A change of the context behind a reference. -/
def changeContext (ref : ℕ) (f : Context → Context) : ContextCode Unit :=
  .update fun w ↦ w.modify ref (f (w.contexts ref))

/-- A change of the context behind a reference that may raise, and then changes nothing. -/
def tryChangeContext (ref : ℕ) (f : Context → Except ContextError Context) : ContextCode Unit :=
  fun w ↦
    match f (w.contexts ref) with
    | .ok ctx => (.ok (), w.modify ref ctx)
    | .error error => (.error error, w)

/-- `create_start_workflow_child` on the current context; it returns the new context. -/
def createStartWorkflowChild (process : Process) : ContextCode ℕ := fun w ↦
  match w.current with
  | none =>
    (.ok w.allocated,
      { w.allocate { idAssignedForNextWorkflow := process.generateUuid w.generated } with
        generated := w.generated + 1 })
  | some ref =>
    let curCtx := w.contexts ref
    if curCtx.isWithinWorkflow then
      if curCtx.isWorkflow then
        let curCtx := curCtx.assignChildId
        -- the child has an ID by now, so that none is generated
        (.ok w.allocated,
          ((w.modify ref (curCtx.afterCreateChild true)).allocate (curCtx.createChild true)).emit
            (.assigned ref curCtx.functionId))
      else (.error (.assertionError ""), w)
    else
      let child := curCtx.createChild true
      (.ok w.allocated,
        { (w.modify ref (curCtx.afterCreateChild true)).allocate
            { child with
              idAssignedForNextWorkflow :=
                child.assignWorkflowId (process.generateUuid w.generated) } with
          generated :=
            if child.idAssignedForNextWorkflow = "" then w.generated + 1 else w.generated })

/-- `snapshot_step_ctx` on the context behind a reference; it returns the new context. -/
def snapshotStepCtx (ref : ℕ) (reserveSleepId : Bool := false) : ContextCode ℕ := fun w ↦
  let self := w.contexts ref
  let w' := ((w.modify ref (self.afterSnapshotStepCtx reserveSleepId)).allocate
    self.snapshotStepCtx).emit (.assigned ref (self.functionId + 1))
  (.ok w.allocated, if reserveSleepId then w'.emit (.assigned ref (self.functionId + 2)) else w')

end DBOSModel.Core.Contexts

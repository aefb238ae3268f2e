import DBOSModel.Core.ContextRuns

/-!
# What contexts guarantee

Whatever a program does, its caller gets its context back, the function IDs of a context are
consecutive, bodies run under a role that they require, and workflows begin afresh. A call in a
workflow takes a number of function IDs that does not depend on what happens in it: after a
recovery, when recorded bodies do not run, the next operation has the same ID again.
-/

namespace DBOSModel.Core.Contexts

open Managed SysDb

variable {process : Process} {w w' : World} {ref : ℕ} {func : Function}

/-! ## A request -/

/-- A process with tracing. -/
def tracedProcess : Process where
  disableOtlp := false
  generateUuid n := "uuid-" ++ toString n
  generateUuid_ne n h := by
    have hlength := congrArg String.length h
    simp at hlength

/-- The context of a request of an administrator. -/
def requestContext : Context :=
  { authenticatedUser := some "ada", authenticatedRoles := some ["admin", "user"] }

/-- A process whose only context is the one of a request. -/
def requestWorld : World where
  contexts _ := requestContext
  allocated := 1
  current := some 0
  generated := 0
  events := []

theorem requestWorld_wellFormed : requestWorld.WellFormed := by
  refine ⟨fun ref href ↦ ?_, fun ref _ ↦ ?_⟩
  · obtain rfl : 0 = ref := Option.some.inj href
    exact Nat.one_pos
  · show (-1 : ℤ) ≤ -1
    exact le_rfl

/-- A workflow with a chosen ID, of which one step fails and is caught. -/
def refund : Program :=
  .block (setWorkflowID "refund-7") <|
    .workflow { name := "refund", requiredRoles := some ["admin"] } {} <|
      .sequence (.attempt (.step { name := "notify" } {} (.raising (.user "offline"))) .pass)
        (.step { name := "pay", defRequiredRoles := some ["admin"] } {} .pass)

/-! ## The context of the caller -/

/-- Each context gives consecutive function IDs, from the one after its last. -/
theorem Program.run_functionIds (process : Process) (program : Program) (w : World)
    (hw : w.WellFormed) :
    let w' := (program.run process w).2
    ∃ events, w'.events = events ++ w.events ∧
      (∀ ref < w.allocated, idsOf ref events =
        idsBetween (w.contexts ref).functionId (w'.contexts ref).functionId) ∧
        ∀ ref, w.allocated ≤ ref → ∃ before after, before ≤ after ∧
          idsOf ref events = idsBetween before after := by
  obtain ⟨events, htrace⟩ := (program.keeps_run process false (by simp) w hw).2.trace
  exact ⟨events, htrace.append, htrace.assigned, htrace.assigned_new⟩

/-- The workflow gives the function IDs 1 and 2 to its steps. -/
theorem Program.run_functionIds_refund :
    (∃ events, (refund.run tracedProcess requestWorld).2.events = events ++ [] ∧
      (∀ ref < 1, idsOf ref events = idsBetween (-1)
        ((refund.run tracedProcess requestWorld).2.contexts ref).functionId) ∧
        ∀ ref, 1 ≤ ref → ∃ before after, before ≤ after ∧
          idsOf ref events = idsBetween before after) ∧
      idsOf 1 (refund.run tracedProcess requestWorld).2.events = idsBetween 0 2 :=
  ⟨Program.run_functionIds tracedProcess refund requestWorld requestWorld_wellFormed,
    by decide +kernel⟩

/-- A body with required roles runs in a context that assumes one of them, which its user has. Steps
that are called outside workflows are not checked, and a coroutine runs when the role has been put
back. -/
theorem Program.run_authorized (process : Process) (program : Program) (w : World)
    (hw : w.WellFormed) {kind : CallKind} {required : List String} {context : Option Context}
    (hevent : Event.entered kind required context ∈ (program.run process w).2.events)
    (hnew : Event.entered kind required context ∉ w.events) (hrequired : required ≠ [])
    (hkind : kind ≠ .plainStep ∧ kind ≠ .coroutine) :
    ∃ ctx, context = some ctx ∧ ∃ role ∈ required, ctx.assumedRole = some role ∧
      ∃ roles, ctx.authenticatedRoles = some roles ∧ role ∈ roles := by
  obtain ⟨events, htrace⟩ := (program.keeps_run process false (by simp) w hw).2.trace
  rw [htrace.append] at hevent
  have hmem := (List.mem_append.1 hevent).resolve_right hnew
  exact (htrace.allowed _ hmem).1 hrequired hkind.1 hkind.2

/-- The step that pays runs under the role of the administrator. -/
theorem Program.run_authorized_refund :
    ∃ ctx, some ({
        parentWorkflowId := "refund-7"
        parentWorkflowFid := 1
        workflowId := "refund-7"
        functionId := 2
        currStepFunctionId := 2
        authenticatedUser := some "ada"
        authenticatedRoles := some ["admin", "user"]
        assumedRole := some "admin"
        contextSpans := ["pay"]
        stepStatus := some { stepId := 2 } } : Context) = some ctx ∧
      ∃ role ∈ ["admin"], ctx.assumedRole = some role ∧
        ∃ roles, ctx.authenticatedRoles = some roles ∧ role ∈ roles :=
  Program.run_authorized tracedProcess refund requestWorld requestWorld_wellFormed
    (by decide +kernel : Event.entered .step ["admin"] _ ∈ _) (by decide +kernel) (by simp)
    (by simp)

/-- The body of a workflow runs in a context that has its ID, its deadline, its parent and the
authentication, and nothing else of the options that were set around its call. Only a workflow that
was started may have another serialization type than the default one. -/
theorem Program.run_fresh (process : Process) (program : Program) (w : World)
    (hw : w.WellFormed) {kind : CallKind} {required : List String} {context : Option Context}
    (hevent : Event.entered kind required context ∈ (program.run process w).2.events)
    (hnew : Event.entered kind required context ∉ w.events)
    (hkind : kind = .workflow ∨ kind = .started) :
    ∃ ctx, context = some ctx ∧ ctx.workflowId ≠ "" ∧
      ctx =
        { workflowId := ctx.workflowId
          functionId := 0
          parentWorkflowId := ctx.parentWorkflowId
          parentWorkflowFid := ctx.parentWorkflowFid
          authenticatedUser := ctx.authenticatedUser
          authenticatedRoles := ctx.authenticatedRoles
          assumedRole := ctx.assumedRole
          workflowDeadlineEpochMs := ctx.workflowDeadlineEpochMs
          serializationType := ctx.serializationType
          contextSpans := ctx.contextSpans } ∧
      (kind = .workflow → ctx.serializationType = .default) := by
  obtain ⟨events, htrace⟩ := (program.keeps_run process false (by simp) w hw).2.trace
  rw [htrace.append] at hevent
  have hmem := (List.mem_append.1 hevent).resolve_right hnew
  obtain ⟨-, hcalled, hstarted⟩ := htrace.allowed _ hmem
  rcases hkind with rfl | rfl
  · obtain ⟨ctx, hcontext, ⟨hid, hfresh⟩, hdefault⟩ := hcalled rfl
    exact ⟨ctx, hcontext, hid, hfresh, fun _ ↦ hdefault⟩
  · obtain ⟨ctx, hcontext, hid, hfresh⟩ := hstarted rfl
    exact ⟨ctx, hcontext, hid, hfresh, nofun⟩

theorem Program.run_fresh_refund :
    ∃ ctx, some ({
        workflowId := "refund-7"
        functionId := 0
        authenticatedUser := some "ada"
        authenticatedRoles := some ["admin", "user"]
        assumedRole := some "admin"
        contextSpans := ["refund"] } : Context) = some ctx ∧ ctx.workflowId ≠ "" ∧
      ctx =
        { workflowId := ctx.workflowId
          functionId := 0
          parentWorkflowId := ctx.parentWorkflowId
          parentWorkflowFid := ctx.parentWorkflowFid
          authenticatedUser := ctx.authenticatedUser
          authenticatedRoles := ctx.authenticatedRoles
          assumedRole := ctx.assumedRole
          workflowDeadlineEpochMs := ctx.workflowDeadlineEpochMs
          serializationType := ctx.serializationType
          contextSpans := ctx.contextSpans } ∧
      (CallKind.workflow = .workflow → ctx.serializationType = .default) :=
  Program.run_fresh tracedProcess refund requestWorld requestWorld_wellFormed
    (by decide +kernel : Event.entered .workflow ["admin"] _ ∈ _) (by decide +kernel) (Or.inl rfl)

/-! ## Steps and transactions give no function ID -/

/-- In a workflow, but in one of its steps or transactions. -/
def Context.isBusy (self : Context) : Bool := self.isWithinWorkflow && !self.isWorkflow

theorem isBusy_of_place {ctx ctx' : Context} (h : ctx.place = ctx'.place) :
    ctx.isBusy = ctx'.isBusy := by
  unfold Context.place at h
  simp only [Prod.mk.injEq] at h
  simp [Context.isBusy, Context.isWorkflow, Context.isWithinWorkflow, Context.isStep,
    Context.isTransaction, h.1, h.2.1, h.2.2]

theorem place_of_settings {ctx ctx' : Context} (h : ctx.settings = ctx'.settings) :
    ctx.place = ctx'.place := by
  rw [settings_eq_iff] at h
  rw [h]
  rfl

theorem place_startSpan (ctx : Context) (name : String) :
    (ctx.startSpan process name).place = ctx.place := by
  unfold Context.startSpan
  split <;> rfl

theorem place_assuming (ctx : Context) (role : Option String) :
    (ctx.assuming role).place = ctx.place := by
  unfold Context.assuming
  split <;> rfl

/-- A current context that is busy. -/
def World.Busy (w : World) (ref : ℕ) : Prop :=
  w.current = some ref ∧ (w.contexts ref).isBusy = true

theorem World.Busy.isWorkflow (h : w.Busy ref) : (w.contexts ref).isWorkflow = false := by
  have := h.2
  simp only [Context.isBusy, Bool.and_eq_true, Bool.not_eq_true'] at this
  exact this.2

theorem World.Busy.isWithinWorkflow (h : w.Busy ref) :
    (w.contexts ref).isWithinWorkflow = true := by
  have := h.2
  simp only [Context.isBusy, Bool.and_eq_true] at this
  exact this.1

theorem World.Busy.of_frame {strict : Bool} (h : w.Busy ref) (hframe : Frame strict w w') :
    w'.Busy ref :=
  ⟨hframe.current.trans h.1,
    (isBusy_of_place (place_of_settings (hframe.settings ref h.1))).trans h.2⟩

theorem World.Busy.modify (h : w.Busy ref) {ctx : Context}
    (hplace : ctx.place = (w.contexts ref).place) : (w.modify ref ctx).Busy ref := by
  refine ⟨h.1, ?_⟩
  rw [World.modify_self, isBusy_of_place hplace]
  exact h.2

theorem World.Busy.createStartWorkflowChild (h : w.Busy ref) :
    createStartWorkflowChild process w = (.error (.assertionError ""), w) := by
  unfold Contexts.createStartWorkflowChild
  simp [h.1, h.isWithinWorkflow, h.isWorkflow]

/-- Code that leaves the function ID of a busy context. -/
def GivesNone (code : ContextCode Unit) : Prop :=
  ∀ (w : World) (ref : ℕ), w.WellFormed → w.Busy ref →
    ((code w).2.contexts ref).functionId = (w.contexts ref).functionId

/-- Code that is bracketed by changes of the current context. -/
theorem GivesNone.around {code : ContextCode Unit} (h : GivesNone code) (hw : w.WellFormed)
    (hbusy : w.Busy ref) {ctx : Context} (hplace : ctx.place = (w.contexts ref).place)
    (hid : ctx.functionId = (w.contexts ref).functionId) :
    ((code (w.modify ref ctx)).2.contexts ref).functionId = (w.contexts ref).functionId := by
  have hmodified : (w.modify ref ctx).WellFormed := by
    apply hw.modify ref
    rw [hid]
    exact hw.functionId ref (hw.current ref hbusy.1)
  rw [h _ ref hmodified (hbusy.modify hplace), World.modify_self, hid]

theorem givesNone_entering {kind : CallKind} {code : ContextCode Unit} (h : GivesNone code) :
    GivesNone (entering kind func code) :=
  fun w ref hw hbusy ↦ h (w.emit (.entered kind func.required w.context)) ref
    ⟨hw.current, hw.functionId⟩ hbusy

theorem givesNone_callDecorated {isAsync : Bool} {code : ContextCode Unit}
    (hkeeps : Code.Keeps (KeepsFrame false) code) (h : GivesNone code) :
    GivesNone (callDecorated func isAsync code) := by
  intro w ref hw hbusy
  unfold callDecorated
  rcases checkRequiredRoles_cases func w with ⟨error, hcheck⟩ | ⟨role, hcheck⟩
  · rw [Code.andThen_of_error hcheck]
  · rw [Code.andThen_of_ok hcheck]
    cases isAsync with
    | true =>
      have hreturned := keeps_assumeRole_ret false role w hw
      let body : ContextCode Unit := .ret ()
      let assuming := w.modify ref ((w.contexts ref).assuming role)
      have hbody : KeepsFrame false assuming (body assuming).2 := Std.Refl.refl assuming
      have hid := assumeRole_spec hbusy.1 hbody hw
      simp only [if_true]
      unfold Code.andThen
      cases hcode : Code.managed (enterAssumeRole role) (exitAssumeRole role)
          (fun _ ↦ Code.ret ()) w with
      | mk outcome after =>
        rw [hcode] at hreturned hid
        have hsame : (after.contexts ref).functionId = (w.contexts ref).functionId := by
          refine hid.2.trans ?_
          change (assuming.contexts ref).functionId = _
          rw [World.modify_self, functionId_assuming]
        cases outcome with
        | error error => exact hsame
        | ok value =>
          rw [← hsame]
          exact givesNone_entering h after ref hreturned.1 (hbusy.of_frame hreturned.2)
    | false =>
      simp only [Bool.false_eq_true, if_false]
      have hentered : KeepsFrame false (w.modify ref ((w.contexts ref).assuming role))
          (entering .decorated func code
            (w.modify ref ((w.contexts ref).assuming role))).2 := by
        apply keepsFrame_entering hkeeps
        rw [World.context_modify _ hbusy.1]
        refine ⟨fun hrequired _ _ ↦ ⟨_, rfl, authorized_assuming hcheck ?_ hrequired⟩, nofun,
          nofun⟩
        rw [context_of_current hbusy.1, Option.bind_some]
      rw [(assumeRole_spec hbusy.1 hentered hw).2]
      exact (givesNone_entering h).around hw hbusy (place_assuming _ _) (functionId_assuming _)

theorem givesNone_block {block : ContextBlock} {code : ContextCode Unit}
    (hkeeps : Code.Keeps (KeepsFrame false) code) (h : GivesNone code) :
    GivesNone (Code.managed block.enterBlock block.exitBlock fun _ ↦ code) := by
  intro w ref hw hbusy
  have hlt := hw.current ref hbusy.1
  cases hinit : block.init with
  | error error =>
    have henter : block.enterBlock w = (.error error, w) := by
      simp [ContextBlock.enterBlock, hinit]
    rw [Code.managed_of_error henter]
  | ok _ =>
    have henter : block.enterBlock w =
        (.ok (false, w.contexts ref), w.modify ref (block.enter (w.contexts ref))) := by
      simp [ContextBlock.enterBlock, hinit, hbusy.1]
    have hid : -1 ≤ (block.enter (w.contexts ref)).functionId := by
      rw [block.functionId_enter]
      exact hw.functionId ref hlt
    have hinside := hw.modify ref hid
    have hleft := (hkeeps _ hinside).2.current.trans hbusy.1
    rw [Code.managed_of_exit henter (exitBlock_of_current _ hleft)]
    simp only [Bool.false_eq_true, if_false, World.modify_self]
    rw [block.functionId_exit]
    exact h.around hw hbusy (block.place_enter _) (block.functionId_enter _)

theorem givesNone_handler {name : String} {code : ContextCode Unit}
    (hkeeps : Code.Keeps (KeepsFrame false) code) (h : GivesNone code) :
    GivesNone (Code.managed (enterHandler process name) (exitHandler process) fun _ ↦ code) := by
  intro w ref hw hbusy
  have hlt := hw.current ref hbusy.1
  have henter : enterHandler process name w =
      (.ok false, w.modify ref ((w.contexts ref).startSpan process name)) := by
    simp [enterHandler, hbusy.1]
  have hid : -1 ≤ ((w.contexts ref).startSpan process name).functionId := by
    rw [functionId_startSpan]
    exact hw.functionId ref hlt
  have hinside := hw.modify ref hid
  have hframe := (hkeeps _ hinside).2
  have hleft := hframe.current.trans hbusy.1
  have hspans := contextSpans_of_settings (hframe.settings ref hbusy.1)
  rw [World.modify_self, contextSpans_startSpan] at hspans
  have hexit : exitHandler process false (code (w.modify ref
      ((w.contexts ref).startSpan process name))).2 = (.ok (), (code (w.modify ref
        ((w.contexts ref).startSpan process name))).2.modify ref
          { (code (w.modify ref ((w.contexts ref).startSpan process name))).2.contexts ref with
            contextSpans := (w.contexts ref).contextSpans }) := by
    unfold exitHandler
    rw [Code.andThen_of_ok (assertCurrentContext_of_current hleft),
      Code.andThen_of_ok (tryChangeContext_of_ok (endSpan_of_contextSpans hspans))]
    rfl
  rw [Code.managed_of_exit henter hexit, World.modify_self]
  exact h.around hw hbusy (place_startSpan _ _) (functionId_startSpan _ _)

theorem givesNone_callStep {reply : Reply} {code : ContextCode Unit} (h : GivesNone code) :
    GivesNone (callStep process func reply code) := by
  intro w ref hw hbusy
  unfold callStep
  simp only [hbusy.1, hbusy.isWorkflow, Bool.false_eq_true, if_false]
  exact givesNone_entering h w ref hw hbusy

/-- Code that begins with the role check, after which a busy context changes nothing. -/
theorem givesNone_checked {rest : Option String → ContextCode Unit}
    (h : ∀ role w ref, w.Busy ref → (rest role w).2 = w) :
    GivesNone ((checkRequiredRoles func).andThen rest) := by
  intro w ref _ hbusy
  rcases checkRequiredRoles_cases func w with ⟨error, hcheck⟩ | ⟨role, hcheck⟩
  · rw [Code.andThen_of_error hcheck]
  · rw [Code.andThen_of_ok hcheck, h role w ref hbusy]

theorem givesNone_callWorkflow {reply : Reply} {code : ContextCode Unit} :
    GivesNone (callWorkflow process func reply code) := by
  apply givesNone_checked
  intro role w ref hbusy
  have hcontexts : workflowContexts process w = (.error (.assertionError ""), w) :=
    Code.andThen_of_error hbusy.createStartWorkflowChild
  rw [Code.andThen_of_error hcontexts]

theorem givesNone_startWorkflow {reply : Reply} {executes : Bool} {code : ContextCode Unit} :
    GivesNone (startWorkflow process func reply executes code) := by
  intro w ref _ hbusy
  unfold startWorkflow
  rw [Code.andThen_of_error hbusy.createStartWorkflowChild]

theorem givesNone_callTransaction {session : ℕ} {workflowReply reply : Reply}
    {code : ContextCode Unit} :
    GivesNone (callTransaction process func session workflowReply reply code) := by
  apply givesNone_checked
  intro role w ref hbusy
  have hwithin : w.context.any Context.isWithinWorkflow = true := by
    rw [context_of_current hbusy.1]
    exact hbusy.isWithinWorkflow
  simp only [hwithin, if_true]
  apply callTransactionWithin_of_not_workflow
  intro ref' href'
  obtain rfl := Option.some.inj (hbusy.1.symm.trans href')
  exact hbusy.isWorkflow

/-- Nothing gives a function ID of a context in which a step or a transaction runs. -/
theorem Program.givesNone_run (process : Process) (program : Program) :
    GivesNone (program.run process) := by
  have hkeeps := fun program : Program ↦ program.keeps_run process false (by simp)
  induction program with
  | pass => exact fun _ _ _ _ ↦ rfl
  | raising error => exact fun _ _ _ _ ↦ rfl
  | sequence first rest hfirst hrest =>
    intro w ref hw hbusy
    have hframe := hkeeps first w hw
    have hgiven := hfirst w ref hw hbusy
    unfold Program.run
    cases hcode : first.run process w with
    | mk outcome w' =>
      rw [hcode] at hframe hgiven
      cases outcome with
      | error error =>
        rw [Code.andThen_of_error hcode]
        exact hgiven
      | ok value =>
        rw [Code.andThen_of_ok hcode, hrest w' ref hframe.1 (hbusy.of_frame hframe.2)]
        exact hgiven
  | attempt body except hbody hexcept =>
    intro w ref hw hbusy
    have hframe := hkeeps body w hw
    have hgiven := hbody w ref hw hbusy
    unfold Program.run Code.attempt
    cases hcode : body.run process w with
    | mk outcome w' =>
      rw [hcode] at hframe hgiven
      cases outcome with
      | ok value => exact hgiven
      | error error =>
        exact (hexcept w' ref hframe.1 (hbusy.of_frame hframe.2)).trans hgiven
  | block manager body hbody => exact givesNone_block (hkeeps body) hbody
  | handler name body hbody => exact givesNone_handler (hkeeps body) hbody
  | decorated func isAsync body hbody => exact givesNone_callDecorated (hkeeps body) hbody
  | workflow func reply body => exact givesNone_callWorkflow
  | start func reply executes body => exact givesNone_startWorkflow
  | step func reply body hbody => exact givesNone_callStep hbody
  | transaction func session workflowReply reply body => exact givesNone_callTransaction
  | operation name reserveSleepId outcome otherwise =>
    intro w ref _ hbusy
    simp [Program.run, callOperation, hbusy.1, hbusy.isWorkflow]
  | setAuthentication user roles =>
    intro w ref _ hbusy
    unfold Program.run callSetAuthentication
    rw [Code.andThen_of_ok (assertCurrentContext_of_current hbusy.1), changeContext_apply,
      World.modify_self]
    rfl

/-! ## The function IDs that a call takes -/

/-- Whether the role check lets a caller in. -/
def allows (func : Function) (w : World) : Bool := (checkRequiredRoles func w).1.isOk

theorem checkRequiredRoles_of_allows (h : allows func w = true) :
    ∃ role, checkRequiredRoles func w = (.ok role, w) := by
  refine (checkRequiredRoles_cases func w).resolve_left ?_
  rintro ⟨error, hcheck⟩
  simp [allows, hcheck, Except.isOk, Except.toBool] at h

theorem checkRequiredRoles_of_not_allows (h : allows func w = false) :
    ∃ error, checkRequiredRoles func w = (.error error, w) := by
  refine (checkRequiredRoles_cases func w).resolve_right ?_
  rintro ⟨role, hcheck⟩
  simp [allows, hcheck, Except.isOk, Except.toBool] at h

theorem checked_of_not_allows {rest : Option String → ContextCode Unit}
    (h : allows func w = false) : ((checkRequiredRoles func).andThen rest w).2 = w := by
  obtain ⟨error, hcheck⟩ := checkRequiredRoles_of_not_allows h
  rw [Code.andThen_of_error hcheck]

/-- How many function IDs a call takes in the code of a workflow. A called workflow takes one as a
child and one for its recorded result. -/
def Program.taken (w : World) : Program → Option ℕ
  | workflow func _ _ => some (if allows func w then 2 else 0)
  | start .. => some 1
  | step func _ _ | transaction func _ _ _ _ => some (if allows func w then 1 else 0)
  | operation _ reserveSleepId _ _ => some (if reserveSleepId then 2 else 1)
  | _ => none

theorem createStartWorkflowChild_of_isWorkflow (process : Process) (href : w.current = some ref)
    (hworkflow : (w.contexts ref).isWorkflow = true) (hlt : ref < w.allocated) :
    ∃ made, createStartWorkflowChild process w = (.ok w.allocated, made) ∧
      (made.contexts ref).functionId = (w.contexts ref).functionId + 1 := by
  have hwithin : (w.contexts ref).isWithinWorkflow = true := by
    unfold Context.isWorkflow at hworkflow
    simp only [Bool.and_eq_true] at hworkflow
    exact hworkflow.1.1
  refine ⟨((w.modify ref ((w.contexts ref).assignChildId.afterCreateChild true)).allocate
    ((w.contexts ref).assignChildId.createChild true)).emit
      (.assigned ref (w.contexts ref).assignChildId.functionId), ?_, ?_⟩
  · unfold createStartWorkflowChild
    simp [href, hwithin, hworkflow]
  · have hne : ref ≠ w.allocated := hlt.ne
    simp [World.emit, World.allocate, World.modify, hne, Context.afterCreateChild,
      Context.assignChildId, Context.nextFunctionId]

theorem workflowContexts_of_isWorkflow (process : Process) (href : w.current = some ref)
    (hworkflow : (w.contexts ref).isWorkflow = true) (hw : w.WellFormed) :
    ∃ child made, workflowContexts process w = (.ok child, made) ∧
      (made.contexts ref).functionId = (w.contexts ref).functionId + 2 := by
  have hlt := hw.current ref href
  obtain ⟨made, hcreate, hid⟩ :=
    createStartWorkflowChild_of_isWorkflow process href hworkflow hlt
  have hnew := newChild_of_createStartWorkflowChild hw hcreate
  have hthere : made.current = some ref := hnew.frame.current.trans href
  have hstill : (made.contexts ref).isWorkflow = true := by
    rw [isWorkflow_of_settings (hnew.frame.settings ref href), hworkflow]
  have hgiven := snapshotStepCtx_current false (hnew.wellFormed.current ref hthere)
  refine ⟨w.allocated, (snapshotStepCtx ref false made).2, ?_, ?_⟩
  · unfold workflowContexts
    rw [Code.andThen_of_ok hcreate]
    simp only [hthere, hstill, if_true]
    rfl
  · rw [hgiven]
    change (made.contexts ref).functionId + 1 = _
    omega

theorem run_transaction_taken {session : ℕ} {workflowReply reply : Reply} {body : Program}
    (href : w.current = some ref) (hworkflow : (w.contexts ref).isWorkflow = true)
    (hw : w.WellFormed) (hallows : allows func w = true) :
    ((callTransaction process func session workflowReply reply (body.run process) w).2.contexts
      ref).functionId = (w.contexts ref).functionId + 1 := by
  have hwithin : w.context.any Context.isWithinWorkflow = true := by
    rw [context_of_current href]
    unfold Context.isWorkflow at hworkflow
    simp only [Bool.and_eq_true] at hworkflow
    exact hworkflow.1.1
  obtain ⟨role, hcheck⟩ := checkRequiredRoles_of_allows hallows
  unfold callTransaction
  rw [Code.andThen_of_ok hcheck]
  simp only [hwithin, if_true]
  obtain ⟨_, hspec⟩ := callTransactionWithin_spec process session reply
    (body.keeps_run process false (by simp)) href hworkflow hw
  obtain ⟨inside, hinside, hthere, hbegun, hid⟩ := hspec role hcheck
  have hplace : (inside.contexts ref).place = ((w.contexts ref).workflowId,
      (w.contexts ref).currStepFunctionId, some session) := by
    rw [hbegun]
    refine (place_startSpan _ _).trans ?_
    have hassuming := place_assuming (w.contexts ref) role
    simp only [Context.place, Prod.mk.injEq] at hassuming
    simp [Context.place, Context.nextFunctionId, hassuming.1, hassuming.2.1]
  -- the body runs with a session, so that the context is busy
  have hbusy : inside.Busy ref := by
    refine ⟨hthere, ?_⟩
    simp only [Context.place, Prod.mk.injEq] at hplace
    have hinside : (w.contexts ref).workflowId ≠ "" := by
      simpa [context_of_current href, Context.isWithinWorkflow] using hwithin
    simp [Context.isBusy, Context.isWorkflow, Context.isWithinWorkflow, Context.isTransaction,
      hplace.1, hplace.2.2, hinside]
  rw [hid]
  have hstart : (inside.contexts ref).functionId = (w.contexts ref).functionId + 1 := by
    rw [hbegun]
    refine (functionId_startSpan _ _).trans ?_
    exact congrArg (· + 1) (functionId_assuming _)
  rw [← hstart]
  unfold unlessRecorded
  cases reply.recorded with
  | some outcome => rfl
  | none => exact givesNone_entering (body.givesNone_run process) inside ref hinside hbusy

/-- A call in the code of a workflow takes a number of function IDs that depends neither on what its
body does nor on what is recorded. -/
theorem Program.run_taken (process : Process) (program : Program) (w : World) (hw : w.WellFormed)
    {ref n : ℕ} (href : w.current = some ref) (hworkflow : (w.contexts ref).isWorkflow = true)
    (hcall : program.taken w = some n) :
    ((program.run process w).2.contexts ref).functionId = (w.contexts ref).functionId + n := by
  have hlt := hw.current ref href
  have hkeeps := fun body : Program ↦ body.keeps_run process false (by simp)
  cases program with
  | workflow func reply body =>
    obtain rfl : (if allows func w then 2 else 0) = n := Option.some.inj hcall
    by_cases hallows : allows func w = true
    · obtain ⟨role, hcheck⟩ := checkRequiredRoles_of_allows hallows
      obtain ⟨child, made, hmade, hid⟩ := workflowContexts_of_isWorkflow process href hworkflow hw
      have hspec := callWorkflow_spec process func reply (hkeeps body) hw
      have hsame := hspec.2 role child made hcheck hmade ref hlt
      rw [if_pos hallows]
      exact (congrArg Context.functionId hsame).trans hid
    · rw [if_neg hallows]
      unfold Program.run callWorkflow
      rw [checked_of_not_allows (by simpa using hallows)]
      simp
  | start func reply executes body =>
    obtain rfl : 1 = n := Option.some.inj hcall
    obtain ⟨made, hmade, hid⟩ := createStartWorkflowChild_of_isWorkflow process href hworkflow hlt
    have hspec := startWorkflow_spec process func reply executes (hkeeps body) hw
    have hsame := hspec.2 _ made hmade ref hlt
    exact (congrArg Context.functionId hsame).trans hid
  | step func reply body =>
    obtain rfl : (if allows func w then 1 else 0) = n := Option.some.inj hcall
    by_cases hallows : allows func w = true
    · obtain ⟨role, hcheck⟩ := checkRequiredRoles_of_allows hallows
      rw [if_pos hallows]
      exact (callStep_spec reply (hkeeps body) href hworkflow hw).2 role hcheck
    · rw [if_neg hallows]
      unfold Program.run callStep
      simp only [href, hworkflow, if_true]
      rw [checked_of_not_allows (by simpa using hallows)]
      simp
  | transaction func session workflowReply reply body =>
    obtain rfl : (if allows func w then 1 else 0) = n := Option.some.inj hcall
    by_cases hallows : allows func w = true
    · rw [if_pos hallows]
      exact run_transaction_taken href hworkflow hw hallows
    · rw [if_neg hallows]
      unfold Program.run callTransaction
      rw [checked_of_not_allows (by simpa using hallows)]
      simp
  | operation name reserveSleepId outcome otherwise =>
    obtain rfl : (if reserveSleepId then 2 else 1) = n := Option.some.inj hcall
    have hcode : ∀ inside : World, inside.context = some
        ((w.contexts ref).snapshotStepCtx.startStep process ((w.contexts ref).functionId + 1)
          name) →
        KeepsFrame true inside ((Code.ofExcept outcome : ContextCode Unit) inside).2 :=
      fun inside _ ↦ Std.Refl.refl inside
    have hblock := stepBlock_spec true process name reserveSleepId href hworkflow hcode hw
    unfold Program.run callOperation
    simp only [href, hworkflow, if_true]
    refine (congrArg Context.functionId hblock.2).trans ?_
    cases reserveSleepId with
    | false => rfl
    | true =>
      simp only [Context.afterSnapshotStepCtx, if_true, Context.nextFunctionId]
      omega
  | _ => simp [Program.taken] at hcall

/-- The code of a workflow that has called three operations so far. -/
def workflowWorld : World :=
  { requestWorld with
    contexts := fun _ ↦ { requestContext with workflowId := "refund-7", functionId := 3 } }

theorem workflowWorld_wellFormed : workflowWorld.WellFormed :=
  ⟨requestWorld_wellFormed.current, fun _ _ ↦ by simp [workflowWorld]⟩

/-- A child workflow takes the function IDs 4 and 5. -/
theorem Program.run_taken_refund :
    (((Program.workflow { name := "audit", requiredRoles := some ["admin"] } {} refund).run
      tracedProcess workflowWorld).2.contexts 0).functionId = 3 + 2 :=
  Program.run_taken tracedProcess (.workflow { name := "audit", requiredRoles := some ["admin"] } {}
    refund) workflowWorld workflowWorld_wellFormed rfl (by decide +kernel) (by decide +kernel)

/-! ## Leaving does not raise -/

/-- The context managers of `dbos/_context.py`. -/
inductive Manager where
  | options (block : ContextBlock)
  | handler (name : String)
  | assumeRole (role : Option String)
  | workflow (name : String) (useCtx : ℕ)
  | step (name : String) (useCtx : ℕ)
  | stepRetry (currentAttempt maxAttempts : ℤ)
  | transaction (session : ℕ) (name : String)
  | logAttributes (workflowId : String)

namespace Manager

/-- `with` this manager, the code. -/
def around (process : Process) : Manager → ContextCode Unit → ContextCode Unit
  | options block, code => Code.managed block.enterBlock block.exitBlock fun _ ↦ code
  | handler name, code =>
    Code.managed (enterHandler process name) (exitHandler process) fun _ ↦ code
  | assumeRole role, code =>
    Code.managed (enterAssumeRole role) (exitAssumeRole role) fun _ ↦ code
  | workflow name useCtx, code =>
    Code.managed (enterWorkflow process name useCtx) (exitWorkflow process) fun _ ↦ code
  | step name useCtx, code =>
    Code.managed (enterStep process name useCtx) (exitStep process) fun _ ↦ code
  | stepRetry currentAttempt maxAttempts, code =>
    Code.managed (enterStepRetry currentAttempt maxAttempts) (fun _ ↦ exitStepRetry) fun _ ↦ code
  | transaction session name, code =>
    Code.managed (enterTransaction process session name) (fun _ ↦ exitTransaction process)
      fun _ ↦ code
  | logAttributes workflowId, code =>
    Code.managed (enterLogAttributes workflowId) exitLogAttributes fun _ ↦ code

/-- The manager is entered for the code, and not left. -/
def entering (process : Process) : Manager → ContextCode Unit → ContextCode Unit
  | options block, code => block.enterBlock.andThen fun _ ↦ code
  | handler name, code => (enterHandler process name).andThen fun _ ↦ code
  | assumeRole role, code => (enterAssumeRole role).andThen fun _ ↦ code
  | workflow name useCtx, code => (enterWorkflow process name useCtx).andThen fun _ ↦ code
  | step name useCtx, code => (enterStep process name useCtx).andThen fun _ ↦ code
  | stepRetry currentAttempt maxAttempts, code =>
    (enterStepRetry currentAttempt maxAttempts).andThen fun _ ↦ code
  | transaction session name, code => (enterTransaction process session name).andThen fun _ ↦ code
  | logAttributes workflowId, code => (enterLogAttributes workflowId).andThen fun _ ↦ code

/-- A context that is used is an object, and a step context has a function ID. -/
def Fits (w : World) : Manager → Prop
  | workflow _ useCtx => useCtx < w.allocated
  | step _ useCtx => useCtx < w.allocated ∧ 0 ≤ (w.contexts useCtx).functionId
  | _ => True

end Manager

theorem World.WellFormed.inside (hw : w.WellFormed) (hlt : ref < w.allocated) {ctx : Context}
    (hid : -1 ≤ ctx.functionId) : (w.inside ref ctx).WellFormed where
  current ref' href' := by
    obtain rfl := Option.some.inj href'
    exact hlt
  functionId := (hw.modify ref hid).functionId

theorem exitBlock_returns {block : ContextBlock} {program : Program} {saved : Bool × Context}
    (hw : w.WellFormed) (henter : block.enterBlock w = (.ok saved, w')) :
    ∃ left, block.exitBlock saved (program.run process w').2 = (.ok (), left) := by
  have hkeeps := program.keeps_run process false (by simp) w'
  rcases enterBlock_eq_ok henter with ⟨hnone, rfl, rfl⟩ | ⟨ref, href, rfl, rfl⟩
  · have hid : -1 ≤ (block.enter {}).functionId := by rw [block.functionId_enter]
    have henters := enters_created hw hnone hid
    have hframe := (hkeeps henters.wellFormed).2
    exact ⟨_, exitBlock_of_current _ (hframe.current.trans henters.current)⟩
  · have hid : -1 ≤ (block.enter (w.contexts ref)).functionId := by
      rw [block.functionId_enter]
      exact hw.functionId ref (hw.current ref href)
    have hmodified := hw.modify ref hid
    exact ⟨_, exitBlock_of_current _ ((hkeeps hmodified).2.current.trans href)⟩

theorem exitHandler_of_spans {created : Bool} {name : String} {spans : List String}
    (href : w.current = some ref)
    (hspans : (w.contexts ref).contextSpans =
      if process.disableOtlp then spans else name :: spans) :
    ∃ left, exitHandler process created w = (.ok (), left) := by
  unfold exitHandler
  rw [Code.andThen_of_ok (assertCurrentContext_of_current href),
    Code.andThen_of_ok (tryChangeContext_of_ok (endSpan_of_contextSpans hspans))]
  cases created with
  | false => exact ⟨_, rfl⟩
  | true => exact ⟨_, rfl⟩

theorem exitHandler_returns {name : String} {program : Program} {created : Bool}
    (hw : w.WellFormed) (henter : enterHandler process name w = (.ok created, w')) :
    ∃ left, exitHandler process created (program.run process w').2 = (.ok (), left) := by
  have hkeeps := program.keeps_run process false (by simp) w'
  unfold enterHandler at henter
  cases hcurrent : w.current with
  | none =>
    simp only [hcurrent, Prod.mk.injEq] at henter
    obtain ⟨-, rfl⟩ := henter
    have hid : -1 ≤ (({} : Context).startSpan process name).functionId := by
      rw [functionId_startSpan]
    have henters := enters_created hw hcurrent hid
    have hframe := (hkeeps henters.wellFormed).2
    have hspans := contextSpans_of_settings (hframe.settings _ henters.current)
    have hself : ((w.allocate (({} : Context).startSpan process name)).setCurrent
        (some w.allocated)).contexts w.allocated = ({} : Context).startSpan process name :=
      World.allocate_self w _
    rw [hself, contextSpans_startSpan] at hspans
    exact exitHandler_of_spans (hframe.current.trans henters.current) hspans
  | some ref =>
    simp only [hcurrent, Prod.mk.injEq] at henter
    obtain ⟨-, rfl⟩ := henter
    have hid : -1 ≤ ((w.contexts ref).startSpan process name).functionId := by
      rw [functionId_startSpan]
      exact hw.functionId ref (hw.current ref hcurrent)
    have hmodified := hw.modify ref hid
    have hframe := (hkeeps hmodified).2
    have hspans := contextSpans_of_settings (hframe.settings ref hcurrent)
    rw [World.modify_self, contextSpans_startSpan] at hspans
    exact exitHandler_of_spans (hframe.current.trans hcurrent) hspans

theorem exitAssumeRole_returns {role saved : Option String} {program : Program}
    (hw : w.WellFormed) (henter : enterAssumeRole role w = (.ok saved, w')) :
    ∃ left, exitAssumeRole role saved (program.run process w').2 = (.ok (), left) := by
  cases hcurrent : w.current with
  | none =>
    have hraised : enterAssumeRole role w =
        (.error (.assertionError "No DBOS context found"), w) := by
      simp [enterAssumeRole, Code.andThen, assertCurrentContext, hcurrent]
    simp [hraised] at henter
  | some ref =>
    rw [enterAssumeRole_of_current hcurrent] at henter
    obtain rfl := (Prod.mk.inj henter).2
    have hid : -1 ≤ ((w.contexts ref).assuming role).functionId := by
      rw [functionId_assuming]
      exact hw.functionId ref (hw.current ref hcurrent)
    have hmodified := hw.modify ref hid
    have hframe := (program.keeps_run process false (by simp) _ hmodified).2
    have hrole := assumedRole_of_settings (hframe.settings ref hcurrent)
    rw [World.modify_self] at hrole
    refine ⟨_, exitAssumeRole_of_current (hframe.current.trans hcurrent) ?_⟩
    rw [hrole]
    exact assumedRole_assuming (w.contexts ref)

/-- A workflow is left by the code that has entered it. -/
theorem exitWorkflow_of_settings {name uuid : String} {before : Context} {saved : SavedWorkflow}
    (href : w.current = some saved.useCtx) (hid : before.assignWorkflowId uuid ≠ "")
    (hsettings : (w.contexts saved.useCtx).settings =
      (before.startWorkflow process uuid name).settings) :
    ∃ left, exitWorkflow process saved w = (.ok (), left) := by
  have hwithin : (w.contexts saved.useCtx).isWithinWorkflow = true := by
    have hplace := place_of_settings hsettings
    have hstarted : (before.startWorkflow process uuid name).place =
        (before.assignWorkflowId uuid, before.currStepFunctionId, before.sqlSession) :=
      place_startSpan _ _
    rw [hstarted, Context.place, Prod.mk.injEq] at hplace
    simpa [Context.isWithinWorkflow, hplace.1] using hid
  have hspans := (contextSpans_of_settings hsettings).trans (contextSpans_startSpan _ _)
  have hend : ({ w.contexts saved.useCtx with workflowId := "", functionId := -1 } :
      Context).endSpan process = .ok
        { w.contexts saved.useCtx with
          workflowId := ""
          functionId := -1
          contextSpans := before.contextSpans } := endSpan_of_contextSpans hspans
  unfold exitWorkflow Context.endWorkflow
  rw [Code.andThen_of_ok (assertCurrentContext_of_current href)]
  simp only [hwithin, and_self, if_true, hend]
  exact ⟨_, rfl⟩

theorem exitWorkflow_returns {name : String} {useCtx : ℕ} {saved : SavedWorkflow}
    {program : Program} (hw : w.WellFormed) (hlt : useCtx < w.allocated)
    (henter : enterWorkflow process name useCtx w = (.ok saved, w')) :
    ∃ left, exitWorkflow process saved (program.run process w').2 = (.ok (), left) := by
  unfold enterWorkflow at henter
  by_cases hwithin : (w.contexts useCtx).isWithinWorkflow = true
  · simp [hwithin] at henter
  · rw [if_neg hwithin] at henter
    simp only [Prod.mk.injEq, Except.ok.injEq] at henter
    obtain ⟨rfl, hentered⟩ := henter
    have hid : -1 ≤ ((w.contexts useCtx).unset.startWorkflow process
        (process.generateUuid w.generated) name).functionId := by
      unfold Context.startWorkflow
      rw [functionId_startSpan]
      simp
    have hinside := hw.inside hlt hid
    have hwell : w'.WellFormed := by
      rw [← hentered]
      exact ⟨hinside.current, hinside.functionId⟩
    have hcurrent : w'.current = some useCtx := by
      rw [← hentered]
      rfl
    have hself : w'.contexts useCtx = (w.contexts useCtx).unset.startWorkflow process
        (process.generateUuid w.generated) name := by
      rw [← hentered]
      exact World.inside_self _
    have hframe := (program.keeps_run process false (by simp) w' hwell).2
    exact exitWorkflow_of_settings (hframe.current.trans hcurrent) (assignWorkflowId_ne _ _)
      ((hframe.settings useCtx hcurrent).trans (congrArg Context.settings hself))

theorem exitStep_returns {name : String} {useCtx prevCtx : ℕ} {program : Program}
    (hw : w.WellFormed) (hlt : useCtx < w.allocated)
    (hfid : 0 ≤ (w.contexts useCtx).functionId)
    (henter : enterStep process name useCtx w = (.ok prevCtx, w')) :
    ∃ left, exitStep process prevCtx (program.run process w').2 = (.ok (), left) := by
  cases hcurrent : w.current with
  | none => simp [enterStep, Code.andThen, assertCurrentContext, hcurrent] at henter
  | some ref =>
    by_cases hworkflow : (w.contexts ref).isWorkflow = true
    · rw [enterStep_of_current process name useCtx hcurrent hworkflow] at henter
      obtain rfl := (Prod.mk.inj henter).2
      have hid : -1 ≤ ((w.contexts useCtx).startStep process (w.contexts useCtx).functionId
          name).functionId := by
        unfold Context.startStep
        rw [functionId_startSpan]
        simp only
        omega
      have hinside := hw.inside hlt hid
      have hframe := (program.keeps_run process false (by simp) _ hinside).2
      have hsettings := hframe.settings useCtx rfl
      rw [World.inside_self] at hsettings
      exact ⟨_, exitStep_of_settings hframe.current hfid hsettings⟩
    · simp [enterStep, Code.andThen, assertCurrentContext, assertContext, hcurrent,
        hworkflow] at henter

theorem exitTransaction_returns {session : ℕ} {name : String} {program : Program}
    (hw : w.WellFormed) (henter : enterTransaction process session name w = (.ok (), w')) :
    ∃ left, exitTransaction process (program.run process w').2 = (.ok (), left) := by
  cases hcurrent : w.current with
  | none => simp [enterTransaction, Code.andThen, assertCurrentContext, hcurrent] at henter
  | some ref =>
    by_cases hworkflow : (w.contexts ref).isWorkflow = true
    · unfold enterTransaction at henter
      rw [Code.andThen_of_ok (assertCurrentContext_of_current hcurrent),
        Code.andThen_of_ok (assertContext_of hworkflow)] at henter
      have hentered := (Prod.mk.inj henter).2
      have hbound := hw.functionId ref (hw.current ref hcurrent)
      have hid : -1 ≤ ((w.contexts ref).nextFunctionId.startTransaction process session
          name).functionId := by
        unfold Context.startTransaction
        rw [functionId_startSpan]
        simp only [Context.nextFunctionId]
        omega
      have hmodified := hw.modify ref hid
      have hwell : w'.WellFormed := by
        rw [← hentered]
        exact ⟨hmodified.current, hmodified.functionId⟩
      have hthere : w'.current = some ref := by
        rw [← hentered]
        exact hcurrent
      have hself : w'.contexts ref =
          (w.contexts ref).nextFunctionId.startTransaction process session name := by
        rw [← hentered]
        exact World.modify_self w ref _
      have hframe := (program.keeps_run process false (by simp) w' hwell).2
      have hsettings := (hframe.settings ref hthere).trans (congrArg Context.settings hself)
      exact ⟨_, exitTransaction_of_settings (hframe.current.trans hthere) hsettings⟩
    · simp [enterTransaction, Code.andThen, assertCurrentContext, assertContext, hcurrent,
        hworkflow] at henter

/-- Nothing is asserted when the attempt of a step ends. -/
theorem exitStepRetry_returns (w : World) : ∃ left, exitStepRetry w = (.ok (), left) := by
  unfold exitStepRetry
  cases w.current with
  | none => exact ⟨_, rfl⟩
  | some ref => exact ⟨_, rfl⟩

theorem exitLogAttributes_of_current (saved : Bool × String) (h : w.current = some ref) :
    ∃ left, exitLogAttributes saved w = (.ok (), left) := by
  unfold exitLogAttributes
  rw [Code.andThen_of_ok (assertCurrentContext_of_current h)]
  cases saved.1 with
  | false => exact ⟨_, rfl⟩
  | true => exact ⟨_, rfl⟩

theorem exitLogAttributes_returns {workflowId : String} {saved : Bool × String}
    {program : Program} (hw : w.WellFormed)
    (henter : enterLogAttributes workflowId w = (.ok saved, w')) :
    ∃ left, exitLogAttributes saved (program.run process w').2 = (.ok (), left) := by
  have hkeeps := program.keeps_run process false (by simp) w'
  unfold enterLogAttributes at henter
  cases hcurrent : w.current with
  | none =>
    simp only [hcurrent, Prod.mk.injEq] at henter
    obtain ⟨-, rfl⟩ := henter
    let created : Context := { workflowId := workflowId }
    have hid : -1 ≤ created.functionId := le_rfl
    have henters := enters_created hw hcurrent hid
    have hframe := (hkeeps henters.wellFormed).2
    exact exitLogAttributes_of_current saved (hframe.current.trans henters.current)
  | some ref =>
    simp only [hcurrent, Prod.mk.injEq] at henter
    obtain ⟨-, rfl⟩ := henter
    let named : Context := { w.contexts ref with workflowId := workflowId }
    have hid : -1 ≤ named.functionId := hw.functionId ref (hw.current ref hcurrent)
    have hmodified := hw.modify ref hid
    have hframe := (hkeeps hmodified).2
    exact exitLogAttributes_of_current saved (hframe.current.trans hcurrent)

end DBOSModel.Core.Contexts

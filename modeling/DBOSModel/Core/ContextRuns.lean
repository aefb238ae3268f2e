import DBOSModel.Core.ContextFrame

/-!
# Runs of programs over contexts

The calls of workflows, steps, transactions and operations leave the frame, and so does every
program.
-/

namespace DBOSModel.Core.Contexts

open Managed SysDb

section Calls

variable {strict strict' : Bool} {process : Process} {w w' : World} {ref child : ℕ}
  {func : Function} {body : ContextCode Unit}

/-! ## Operations and steps -/

theorem keeps_callOperation (name : String) (reserveSleepId : Bool)
    (outcome otherwise : Except ContextError Unit) :
    Code.Keeps (KeepsFrame strict)
      (callOperation process name reserveSleepId outcome otherwise) := by
  intro w
  unfold callOperation
  cases hcurrent : w.current with
  | none => exact Std.Refl.refl w
  | some ref =>
    by_cases hworkflow : (w.contexts ref).isWorkflow = true
    · simp only [hworkflow, if_true]
      exact fun hw ↦
        (stepBlock_spec strict process name reserveSleepId hcurrent hworkflow
          (fun _ _ ↦ (Std.Refl.refl _ : KeepsFrame strict _ _)) hw).1
    · simp only [hworkflow, if_false, Bool.false_eq_true]
      exact Std.Refl.refl w

theorem context_of_current (href : w.current = some ref) :
    w.context = some (w.contexts ref) := by
  rw [World.context, href, Option.map_some]

theorem isWorkflow_assuming {ctx : Context} {role : Option String} :
    (ctx.assuming role).isWorkflow = ctx.isWorkflow := by
  unfold Context.assuming
  split <;> rfl

/-- The step context assumes the role of the workflow, whose user it has. -/
theorem authorized_startStep {ctx : Context} {required : List String} {fid : ℤ} {name : String}
    (h : ctx.Authorized required) :
    (ctx.snapshotStepCtx.startStep process fid name).Authorized required := by
  unfold Context.startStep Context.startSpan
  split <;> exact h

theorem allowed_plainStep {required : List String} {context : Option Context} :
    (Event.entered .plainStep required context).Allowed :=
  ⟨fun _ hkind ↦ absurd rfl hkind, nofun, nofun⟩

/-- A step in a workflow gives one function ID, whatever its body does. -/
theorem callStep_spec (reply : Reply) (hbody : Code.Keeps (KeepsFrame strict) body)
    (href : w.current = some ref) (hworkflow : (w.contexts ref).isWorkflow = true)
    (hw : w.WellFormed) :
    let after := (callStep process func reply body w).2
    (after.WellFormed ∧ Frame strict w after) ∧
      ∀ role, checkRequiredRoles func w = (.ok role, w) →
        (after.contexts ref).functionId = (w.contexts ref).functionId + 1 := by
  unfold callStep
  simp only [href, hworkflow, if_true]
  rcases checkRequiredRoles_cases func w with ⟨error, hcheck⟩ | ⟨role, hcheck⟩
  · rw [Code.andThen_of_error hcheck]
    exact ⟨⟨hw, Frame.refl w⟩, by simp [hcheck]⟩
  · rw [Code.andThen_of_ok hcheck]
    have hself := World.modify_self w ref ((w.contexts ref).assuming role)
    have hinside : (w.modify ref ((w.contexts ref).assuming role)).WellFormed := by
      apply hw.modify ref
      rw [functionId_assuming]
      exact hw.functionId ref (hw.current ref href)
    have hcode : ∀ inside : World, inside.context = some
        (((w.modify ref
          ((w.contexts ref).assuming role)).contexts ref).snapshotStepCtx.startStep process
          (((w.modify ref ((w.contexts ref).assuming role)).contexts ref).functionId + 1)
          func.name) →
        KeepsFrame strict inside (unlessRecorded reply
          (finishing reply.finished (entering .step func body)) inside).2 := by
      intro inside hcontext
      unfold unlessRecorded
      cases reply.recorded with
      | some outcome => exact Std.Refl.refl inside
      | none =>
        apply keepsFrame_finishing
        apply keepsFrame_entering hbody
        rw [hcontext, hself]
        refine ⟨fun hrequired _ _ ↦ ⟨_, rfl, authorized_startStep ?_⟩, nofun, nofun⟩
        apply authorized_assuming hcheck _ hrequired
        rw [context_of_current href, Option.bind_some]
    have hcurrent : (w.modify ref ((w.contexts ref).assuming role)).current = some ref := href
    have hstep := stepBlock_spec strict process func.name false hcurrent
      (by rw [hself, isWorkflow_assuming, hworkflow]) hcode hinside
    have hassume := assumeRole_spec href (fun _ ↦ hstep.1) hw
    refine ⟨hassume.1, fun _ _ ↦ hassume.2.trans ?_⟩
    refine (congrArg Context.functionId hstep.2).trans ?_
    rw [hself]
    exact congrArg (· + 1) (functionId_assuming _)

theorem keeps_callStep (reply : Reply) (hbody : Code.Keeps (KeepsFrame strict) body) :
    Code.Keeps (KeepsFrame strict) (callStep process func reply body) := by
  intro w hw
  cases hcurrent : w.current with
  | none =>
    unfold callStep
    rw [hcurrent]
    exact keepsFrame_entering hbody allowed_plainStep hw
  | some ref =>
    by_cases hworkflow : (w.contexts ref).isWorkflow = true
    · exact (callStep_spec reply hbody hcurrent hworkflow hw).1
    · unfold callStep
      simp only [hcurrent, hworkflow, if_false, Bool.false_eq_true]
      exact keepsFrame_entering hbody allowed_plainStep hw

/-! ## Transactions -/

theorem exitTransaction_of_settings {before : Context} {session : ℕ} {name : String}
    (h : w.current = some ref)
    (hsettings : (w.contexts ref).settings =
      (before.startTransaction process session name).settings) :
    exitTransaction process w = (.ok (), w.modify ref
      { w.contexts ref with sqlSession := none, contextSpans := before.contextSpans }) := by
  have hspans := (contextSpans_of_settings hsettings).trans (contextSpans_startSpan _ _)
  have htransaction : (w.contexts ref).isTransaction = true := by
    have hsession : (w.contexts ref).sqlSession =
        (before.startTransaction process session name).sqlSession := by
      rw [settings_eq_iff] at hsettings
      rw [hsettings]
    unfold Context.isTransaction
    rw [hsession]
    unfold Context.startTransaction Context.startSpan
    split <;> rfl
  have hend : (w.contexts ref).endTransaction process = .ok
      { w.contexts ref with sqlSession := none, contextSpans := before.contextSpans } := by
    have hspans' : ({ w.contexts ref with sqlSession := none } : Context).contextSpans =
        if process.disableOtlp then before.contextSpans else name :: before.contextSpans := hspans
    unfold Context.endTransaction
    exact endSpan_of_contextSpans hspans'
  unfold exitTransaction
  rw [Code.andThen_of_ok (assertCurrentContext_of_current h),
    Code.andThen_of_ok (assertContext_of htransaction), tryChangeContext_of_ok hend]

theorem settings_endTransaction {ctx before : Context} {session : ℕ} {name : String}
    (hworkflow : before.isWorkflow = true)
    (h : ctx.settings = (before.startTransaction process session name).settings) :
    ({ ctx with sqlSession := none, contextSpans := before.contextSpans } : Context).settings =
      before.settings := by
  have hnone : before.sqlSession = none := by
    unfold Context.isWorkflow Context.isTransaction at hworkflow
    cases hsession : before.sqlSession with
    | none => rfl
    | some session => simp [hsession] at hworkflow
  rw [settings_eq_iff] at h
  rw [h, settings_eq_iff]
  unfold Context.startTransaction Context.startSpan
  split
  · simp [hnone]
  · simp [hnone]

/-- A block in which the current context has a session. -/
theorem transactionBlock_spec {session : ℕ} {name : String} (href : w.current = some ref)
    (hworkflow : (w.contexts ref).isWorkflow = true)
    (hbody : ∀ w', w'.context =
        some ((w.contexts ref).nextFunctionId.startTransaction process session name) →
      KeepsFrame strict w' (body w').2) (hw : w.WellFormed) :
    let after := (Code.managed (enterTransaction process session name)
      (fun _ ↦ exitTransaction process) (fun _ ↦ body) w).2
    (after.WellFormed ∧ Frame strict w after) ∧
      ∃ inside : World, inside.WellFormed ∧ inside.current = some ref ∧
        inside.contexts ref =
          (w.contexts ref).nextFunctionId.startTransaction process session name ∧
        (after.contexts ref).functionId = ((body inside).2.contexts ref).functionId := by
  have hassign := keepsFrame_assign strict (w.contexts ref).nextFunctionId href rfl rfl rfl
  have henter : enterTransaction process session name w =
      (.ok (), ((w.modify ref (w.contexts ref).nextFunctionId).emit
        (.assigned ref ((w.contexts ref).functionId + 1))).modify ref
          ((w.contexts ref).nextFunctionId.startTransaction process session name)) := by
    unfold enterTransaction
    rw [Code.andThen_of_ok (assertCurrentContext_of_current href),
      Code.andThen_of_ok (assertContext_of hworkflow)]
    simp [World.modify, World.emit, Context.nextFunctionId]
  have hself : ((w.modify ref (w.contexts ref).nextFunctionId).emit
      (.assigned ref ((w.contexts ref).functionId + 1))).contexts ref =
        (w.contexts ref).nextFunctionId := World.modify_self w ref _
  have hcurrent : ((w.modify ref (w.contexts ref).nextFunctionId).emit
      (.assigned ref ((w.contexts ref).functionId + 1))).current = some ref := href
  generalize (w.modify ref (w.contexts ref).nextFunctionId).emit
    (.assigned ref ((w.contexts ref).functionId + 1)) = given at hassign henter hself hcurrent
  have hgiven := hassign hw
  have hfid : ((w.contexts ref).nextFunctionId.startTransaction process session name).functionId =
      (given.contexts ref).functionId := by
    rw [hself]
    exact functionId_startSpan _ _
  have hmodified : (given.modify ref ((w.contexts ref).nextFunctionId.startTransaction process
      session name)).WellFormed := by
    apply hgiven.1.modify ref
    rw [hfid]
    exact hgiven.1.functionId ref (hgiven.1.current ref hcurrent)
  have hkeeps := hbody (given.modify ref ((w.contexts ref).nextFunctionId.startTransaction process
    session name)) (World.context_modify _ hcurrent)
  have hframe := hkeeps hmodified
  have hsettings := hframe.2.settings ref hcurrent
  rw [World.modify_self] at hsettings
  rw [Code.managed_of_exit henter
    (exitTransaction_of_settings (hframe.2.current.trans hcurrent) hsettings)]
  refine ⟨hassign.trans (KeepsFrame.around hcurrent hfid hkeeps (fun _ ↦ ?_) ?_ rfl) hw,
    _, hmodified, hcurrent, World.modify_self _ _ _, ?_⟩
  · rw [hself]
    exact settings_endTransaction hworkflow hsettings
  · intro hframe' hstrict
    have hsame := hframe'.authentication hstrict ref hcurrent
    rw [World.modify_self] at hsame
    rw [hself]
    exact hsame.trans (authentication_startSpan _ _)
  · rw [World.modify_self]

/-- A transaction in the code of a workflow gives one function ID, besides those that its body
gives. -/
theorem callTransactionWithin_spec (process : Process) (session : ℕ) (reply : Reply)
    (hbody : Code.Keeps (KeepsFrame strict) body) (href : w.current = some ref)
    (hworkflow : (w.contexts ref).isWorkflow = true) (hw : w.WellFormed) :
    let after := (callTransactionWithin process func session reply body w).2
    (after.WellFormed ∧ Frame strict w after) ∧
      ∀ role, checkRequiredRoles func w = (.ok role, w) →
        ∃ inside : World, inside.WellFormed ∧ inside.current = some ref ∧
          inside.contexts ref = ((w.contexts ref).assuming role).nextFunctionId.startTransaction
            process session func.name ∧
          (after.contexts ref).functionId = ((unlessRecorded reply
            (finishing reply.finished (entering .transaction func body)) inside).2.contexts
              ref).functionId := by
  unfold callTransactionWithin
  rcases checkRequiredRoles_cases func w with ⟨error, hcheck⟩ | ⟨role, hcheck⟩
  · rw [Code.andThen_of_error hcheck]
    exact ⟨⟨hw, Frame.refl w⟩, by simp [hcheck]⟩
  · rw [Code.andThen_of_ok hcheck, Code.andThen_of_ok (assertCurrentContext_of_current href),
      Code.andThen_of_ok (assertContext_of hworkflow)]
    have hself := World.modify_self w ref ((w.contexts ref).assuming role)
    have hcurrent : (w.modify ref ((w.contexts ref).assuming role)).current = some ref := href
    have hassumed : (w.modify ref ((w.contexts ref).assuming role)).WellFormed := by
      apply hw.modify ref
      rw [functionId_assuming]
      exact hw.functionId ref (hw.current ref href)
    have hcode : ∀ inside : World, inside.context = some
        (((w.modify ref ((w.contexts ref).assuming role)).contexts
          ref).nextFunctionId.startTransaction process session func.name) →
        KeepsFrame strict inside (unlessRecorded reply
          (finishing reply.finished (entering .transaction func body)) inside).2 := by
      intro inside hinside
      unfold unlessRecorded
      cases reply.recorded with
      | some outcome => exact Std.Refl.refl inside
      | none =>
        apply keepsFrame_finishing
        apply keepsFrame_entering hbody
        rw [hinside, hself]
        refine ⟨fun hrequired _ _ ↦ ⟨_, rfl, ?_⟩, nofun, nofun⟩
        have hauthorized : ((w.contexts ref).assuming role).Authorized func.required := by
          apply authorized_assuming hcheck _ hrequired
          rw [context_of_current href, Option.bind_some]
        unfold Context.startTransaction Context.startSpan
        split <;> exact hauthorized
    have hblock := transactionBlock_spec hcurrent
      (by rw [hself, isWorkflow_assuming, hworkflow]) hcode hassumed
    have hassume := assumeRole_spec href (fun _ ↦ hblock.1) hw
    obtain ⟨inside, hinside, hthere, hbegun, hid⟩ := hblock.2
    refine ⟨hassume.1, fun role' hrole' ↦ ?_⟩
    obtain rfl : role = role' := Except.ok.inj (Prod.mk.inj (hcheck.symm.trans hrole')).1
    exact ⟨inside, hinside, hthere, hself ▸ hbegun, hassume.2.trans hid⟩

/-- Outside the code of a workflow a transaction is refused. -/
theorem callTransactionWithin_of_not_workflow {session : ℕ} {reply : Reply}
    (h : ∀ ref, w.current = some ref → (w.contexts ref).isWorkflow = false) :
    (callTransactionWithin process func session reply body w).2 = w := by
  unfold callTransactionWithin
  rcases checkRequiredRoles_cases func w with ⟨error, hcheck⟩ | ⟨role, hcheck⟩
  · rw [Code.andThen_of_error hcheck]
  · rw [Code.andThen_of_ok hcheck]
    cases hcurrent : w.current with
    | none =>
      have hnone : assertCurrentContext w =
          (.error (.assertionError "No DBOS context found"), w) := by
        simp [assertCurrentContext, hcurrent]
      rw [Code.andThen_of_error hnone]
    | some ref =>
      have hraised : assertContext ref Context.isWorkflow
          "Transactions must be called from within workflows" w =
            (.error (.assertionError "Transactions must be called from within workflows"),
              w) := by
        simp [assertContext, h ref hcurrent]
      rw [Code.andThen_of_ok (assertCurrentContext_of_current hcurrent),
        Code.andThen_of_error hraised]

theorem keeps_callTransactionWithin (session : ℕ) (reply : Reply)
    (hbody : Code.Keeps (KeepsFrame strict) body) :
    Code.Keeps (KeepsFrame strict) (callTransactionWithin process func session reply body) := by
  intro w hw
  by_cases hworkflow : ∃ ref, w.current = some ref ∧ (w.contexts ref).isWorkflow = true
  · obtain ⟨ref, href, hworkflow⟩ := hworkflow
    exact (callTransactionWithin_spec process session reply hbody href hworkflow hw).1
  · have hrefused : ∀ ref, w.current = some ref → (w.contexts ref).isWorkflow = false := by
      intro ref href
      by_contra h
      exact hworkflow ⟨ref, href, by simpa using h⟩
    rw [callTransactionWithin_of_not_workflow hrefused]
    exact ⟨hw, Frame.refl w⟩

/-! ## Workflows -/

/-- The context that a workflow gets before it begins: an ID, the parent, the authentication, the
attributes and the deadline. -/
def Context.IsChild (self : Context) : Prop :=
  self.idAssignedForNextWorkflow ≠ "" ∧
    self =
      { idAssignedForNextWorkflow := self.idAssignedForNextWorkflow
        isWithinSetWorkflowIdBlock := self.isWithinSetWorkflowIdBlock
        parentWorkflowId := self.parentWorkflowId
        parentWorkflowFid := self.parentWorkflowFid
        authenticatedUser := self.authenticatedUser
        authenticatedRoles := self.authenticatedRoles
        assumedRole := self.assumedRole
        workflowAttributes := self.workflowAttributes
        workflowDeadlineEpochMs := self.workflowDeadlineEpochMs
        serializationType := self.serializationType }

/-- A context for a workflow has been made. -/
structure NewChild (w w' : World) (child : ℕ) : Prop where
  wellFormed : w'.WellFormed
  frame : Frame true w w'
  fresh : w.allocated ≤ child
  allocated : child < w'.allocated
  isChild : (w'.contexts child).IsChild
  roles : (w'.contexts child).authenticatedRoles = w.context.bind Context.authenticatedRoles
  events : ∃ events, w'.events = events ++ w.events ∧
    ∀ ref, w.allocated ≤ ref → idsOf ref events = []

theorem assignWorkflowId_ne (ctx : Context) (n : ℕ) :
    ctx.assignWorkflowId (process.generateUuid n) ≠ "" := by
  unfold Context.assignWorkflowId
  split
  · exact process.generateUuid_ne n
  · assumption

theorem assignChildId_ne (ctx : Context) : ctx.assignChildId.idAssignedForNextWorkflow ≠ "" := by
  unfold Context.assignChildId
  split
  · intro h
    have hlength := congrArg String.length h
    simp at hlength
  · assumption

/-- A context for a workflow is made in a frame. -/
theorem newChild_of_createStartWorkflowChild (hw : w.WellFormed)
    (h : createStartWorkflowChild process w = (.ok child, w')) : NewChild w w' child := by
  unfold createStartWorkflowChild at h
  cases hcurrent : w.current with
  | none =>
    simp only [hcurrent, Prod.mk.injEq, Except.ok.injEq] at h
    obtain ⟨rfl, rfl⟩ := h
    have hkeeps := (keepsFrame_allocate true w
      { idAssignedForNextWorkflow := process.generateUuid w.generated } (by simp)).trans
        (keepsFrame_generated true _ (w.generated + 1)) hw
    refine ⟨hkeeps.1, hkeeps.2, le_rfl, Nat.lt_succ_self _, ?_, ?_, [], rfl, fun _ _ ↦ rfl⟩
    · rw [World.allocate_self]
      exact ⟨process.generateUuid_ne _, rfl⟩
    · rw [World.allocate_self, World.context, hcurrent]
      rfl
  | some ref =>
    have hlt := hw.current ref hcurrent
    simp only [hcurrent] at h
    by_cases hwithin : (w.contexts ref).isWithinWorkflow = true
    · rw [if_pos hwithin] at h
      by_cases hworkflow : (w.contexts ref).isWorkflow = true
      · rw [if_pos hworkflow] at h
        simp only [Prod.mk.injEq, Except.ok.injEq] at h
        obtain ⟨rfl, rfl⟩ := h
        have hassign := keepsFrame_assign true
          ((w.contexts ref).assignChildId.afterCreateChild true) hcurrent rfl rfl rfl
        have hkeeps := hassign.trans (keepsFrame_allocate true _
          ((w.contexts ref).assignChildId.createChild true) (by simp [Context.createChild])) hw
        have hchild := World.allocate_self
          (w.modify ref ((w.contexts ref).assignChildId.afterCreateChild true))
          ((w.contexts ref).assignChildId.createChild true)
        refine ⟨hkeeps.1, hkeeps.2, le_rfl, Nat.lt_succ_self _, ?_, ?_,
          [.assigned ref ((w.contexts ref).functionId + 1)], rfl, ?_⟩
        · exact hchild.symm ▸ ⟨assignChildId_ne (w.contexts ref), rfl⟩
        · rw [context_of_current hcurrent]
          exact (congrArg Context.authenticatedRoles hchild).trans rfl
        · intro ref' hle
          rw [idsOf_assigned, if_neg (by omega), idsOf_nil]
      · rw [if_neg hworkflow] at h
        simp at h
    · rw [if_neg hwithin] at h
      simp only [Prod.mk.injEq, Except.ok.injEq] at h
      obtain ⟨rfl, rfl⟩ := h
      have hmodified := keepsFrame_modify true
        ((w.contexts ref).afterCreateChild true) hcurrent rfl (fun _ ↦ rfl) rfl
      have hkeeps := (hmodified.trans (keepsFrame_allocate true _
          { (w.contexts ref).createChild true with
            idAssignedForNextWorkflow := ((w.contexts ref).createChild true).assignWorkflowId
              (process.generateUuid w.generated) } (by simp [Context.createChild]))).trans
            (keepsFrame_generated true _
              (if ((w.contexts ref).createChild true).idAssignedForNextWorkflow = ""
                then w.generated + 1 else w.generated)) hw
      have hchild := World.allocate_self (w.modify ref ((w.contexts ref).afterCreateChild true))
          { (w.contexts ref).createChild true with
            idAssignedForNextWorkflow := ((w.contexts ref).createChild true).assignWorkflowId
              (process.generateUuid w.generated) }
      refine ⟨hkeeps.1, hkeeps.2, le_rfl, Nat.lt_succ_self _, ?_, ?_, [], rfl, fun _ _ ↦ rfl⟩
      · exact hchild.symm ▸
          ⟨assignWorkflowId_ne ((w.contexts ref).createChild true) w.generated, rfl⟩
      · rw [context_of_current hcurrent]
        exact (congrArg Context.authenticatedRoles hchild).trans rfl

/-- Its serialization type is the default one. -/
theorem serializationType_of_createStartWorkflowChild
    (h : createStartWorkflowChild process w = (.ok child, w')) :
    (w'.contexts child).serializationType = .default := by
  unfold createStartWorkflowChild at h
  cases hcurrent : w.current with
  | none =>
    simp only [hcurrent, Prod.mk.injEq, Except.ok.injEq] at h
    obtain ⟨rfl, rfl⟩ := h
    exact congrArg Context.serializationType (World.allocate_self w _)
  | some ref =>
    simp only [hcurrent] at h
    split at h
    · split at h
      · simp only [Prod.mk.injEq, Except.ok.injEq] at h
        obtain ⟨rfl, rfl⟩ := h
        exact congrArg Context.serializationType (World.allocate_self (w.modify ref _) _)
      · simp at h
    · simp only [Prod.mk.injEq, Except.ok.injEq] at h
      obtain ⟨rfl, rfl⟩ := h
      exact congrArg Context.serializationType (World.allocate_self (w.modify ref _) _)

theorem createStartWorkflowChild_error {error : ContextError}
    (h : createStartWorkflowChild process w = (.error error, w')) : w' = w := by
  unfold createStartWorkflowChild at h
  cases hcurrent : w.current with
  | none => simp [hcurrent] at h
  | some ref =>
    simp only [hcurrent] at h
    split at h
    · split at h
      · simp at h
      · exact (Prod.mk.inj h).2.symm
    · simp at h

theorem newChild_of_workflowContexts (hw : w.WellFormed)
    (h : workflowContexts process w = (.ok child, w')) :
    NewChild w w' child ∧ (w'.contexts child).serializationType = .default := by
  unfold workflowContexts Code.andThen at h
  cases hcreate : createStartWorkflowChild process w with
  | mk outcome w₁ =>
    rw [hcreate] at h
    cases outcome with
    | error error => simp at h
    | ok child' =>
      have hnew := newChild_of_createStartWorkflowChild hw hcreate
      have hdefault := serializationType_of_createStartWorkflowChild hcreate
      cases hcurrent : w₁.current with
      | none =>
        simp only [hcurrent, Prod.mk.injEq, Except.ok.injEq] at h
        obtain ⟨rfl, rfl⟩ := h
        exact ⟨hnew, hdefault⟩
      | some ref =>
        simp only [hcurrent] at h
        by_cases hworkflow : (w₁.contexts ref).isWorkflow = true
        · simp only [hworkflow, if_true, Code.ret_apply] at h
          have hsnapshot := keepsFrame_snapshotStepCtx true hcurrent false hnew.wellFormed
          obtain ⟨events, hevents, hquiet⟩ := events_snapshotStepCtx w₁ ref false
          obtain ⟨rfl, rfl⟩ : child' = child ∧ (snapshotStepCtx ref false w₁).2 = w' := by
            simpa [snapshotStepCtx] using h
          -- the context of the caller is not the one that was made for the workflow
          have hcaller : ref < w.allocated :=
            hw.current ref (hnew.frame.current.symm.trans hcurrent)
          have hfresh := hnew.fresh
          have hself : (snapshotStepCtx ref false w₁).2.contexts child' = w₁.contexts child' := by
            apply hsnapshot.2.others child' hnew.allocated
            rw [hcurrent]
            intro heq
            have := Option.some.inj heq
            omega
          obtain ⟨events', hevents', hquiet'⟩ := hnew.events
          refine ⟨⟨hsnapshot.1, hnew.frame.trans hw.current hsnapshot.2, hnew.fresh,
            hnew.allocated.trans_le hsnapshot.2.allocated, ?_, ?_, events ++ events', ?_, ?_⟩,
            (congrArg Context.serializationType hself).trans hdefault⟩
          · rw [hself]
            exact hnew.isChild
          · rw [hself]
            exact hnew.roles
          · rw [hevents, hevents', List.append_assoc]
          · intro ref' hle
            rw [idsOf_append, hquiet ref' (by omega), hquiet' ref' hle, List.append_nil]
        · simp only [hworkflow, if_false, Bool.false_eq_true, Prod.mk.injEq, Except.ok.injEq] at h
          obtain ⟨rfl, rfl⟩ := h
          exact ⟨hnew, hdefault⟩

theorem workflowContexts_error {error : ContextError}
    (h : workflowContexts process w = (.error error, w')) : w' = w := by
  unfold workflowContexts Code.andThen at h
  cases hcreate : createStartWorkflowChild process w with
  | mk outcome w₁ =>
    rw [hcreate] at h
    cases outcome with
    | error error =>
      obtain rfl := createStartWorkflowChild_error hcreate
      exact (Prod.mk.inj h).2.symm
    | ok child' =>
      cases hcurrent : w₁.current with
      | none => simp [hcurrent] at h
      | some ref =>
        simp only [hcurrent] at h
        split at h
        · simp [snapshotStepCtx] at h
        · simp at h

/-- The context of a workflow when it begins. -/
def Context.started (self : Context) (process : Process) (name : String) : Context :=
  { self.unset with
    workflowId := self.idAssignedForNextWorkflow
    idAssignedForNextWorkflow := ""
    functionId := 0 }.startSpan process name

/-- The world in which a context is current. -/
def World.inside (w : World) (child : ℕ) (ctx : Context) : World :=
  (w.modify child ctx).setCurrent (some child)

theorem World.inside_self (ctx : Context) : (w.inside child ctx).contexts child = ctx :=
  World.modify_self w child ctx

theorem World.modify_inside (ctx ctx' : Context) :
    (w.inside child ctx).modify child ctx' = w.inside child ctx' := by
  simp [World.inside, World.modify, World.setCurrent]

theorem enterWorkflow_of_isChild (name : String) (h : (w.contexts child).IsChild) :
    enterWorkflow process name child w =
      (.ok { prevCtx := w.current, useCtx := child, saved := w.contexts child },
        w.inside child ((w.contexts child).started process name)) := by
  have hwithin : (w.contexts child).isWithinWorkflow = false := by
    unfold Context.isWithinWorkflow
    rw [h.2]
    rfl
  have hassign : (w.contexts child).unset.assignWorkflowId (process.generateUuid w.generated) =
      (w.contexts child).idAssignedForNextWorkflow := if_neg h.1
  unfold enterWorkflow
  simp only [hwithin, Bool.false_eq_true, if_false, h.1]
  unfold Context.startWorkflow Context.started
  rw [hassign]
  rfl

/-- How a workflow context has to be found by the end of the workflow. -/
structure ReadyToLeave (process : Process) (child : ℕ) (name : String) (role : Option String)
    (w : World) : Prop where
  current : w.current = some child
  within : (w.contexts child).workflowId ≠ ""
  spans : (w.contexts child).contextSpans = if process.disableOtlp then [] else [name]
  role : role = none ∨ (w.contexts child).assumedRole = role

/-- What is kept of a workflow context is ready to be left. -/
theorem ReadyToLeave.of_frame {name : String} {role : Option String}
    (h : ReadyToLeave process child name role w) (hframe : Frame strict w w') :
    ReadyToLeave process child name role w' := by
  have hsettings := hframe.settings child h.current
  refine ⟨hframe.current.trans h.current, ?_, ?_, ?_⟩
  · have hsame : (w'.contexts child).workflowId = (w.contexts child).workflowId := by
      rw [settings_eq_iff] at hsettings
      rw [hsettings]
    rw [hsame]
    exact h.within
  · rw [contextSpans_of_settings hsettings]
    exact h.spans
  · rw [assumedRole_of_settings hsettings]
    exact h.role

theorem exitWorkflow_of_ready {name : String} {entered : SavedWorkflow}
    (h : ReadyToLeave process child name none w) (hchild : entered.useCtx = child) :
    exitWorkflow process entered w =
      (.ok (), (w.modify child
        { w.contexts child with
          workflowId := ""
          functionId := -1
          contextSpans := []
          isWithinSetWorkflowIdBlock := entered.saved.isWithinSetWorkflowIdBlock
          workflowTimeoutMs := entered.saved.workflowTimeoutMs
          workflowDeadlineEpochMs := none
          priority := entered.saved.priority
          deduplicationId := entered.saved.deduplicationId }).setCurrent entered.prevCtx) := by
  have hwithin : (w.contexts child).isWithinWorkflow = true := by
    simpa [Context.isWithinWorkflow] using h.within
  have hspans : ({ w.contexts child with workflowId := "", functionId := -1 } :
      Context).contextSpans = if process.disableOtlp then [] else name :: [] := h.spans
  have hend : (w.contexts child).endWorkflow process = .ok
      { w.contexts child with workflowId := "", functionId := -1, contextSpans := [] } := by
    unfold Context.endWorkflow
    exact endSpan_of_contextSpans hspans
  unfold exitWorkflow
  rw [Code.andThen_of_ok (assertCurrentContext_of_current h.current)]
  simp only [hchild, hwithin, and_self, if_true, hend]

/-- The workflow context is left for the frame of its caller, whatever the code in it has kept. -/
theorem leave_workflow {inside after : World} {name : String} {ctx : Context}
    {entered : SavedWorkflow} (hw : w.WellFormed) (henters : Enters w inside child)
    (hkeeps : KeepsFrame strict inside after)
    (hready : ReadyToLeave process child name none (after.modify child ctx))
    (hchild : entered.useCtx = child) :
    ∃ left, exitWorkflow process entered (after.modify child ctx) = (.ok (), left) ∧
      left.current = entered.prevCtx ∧
      (∀ ref < w.allocated, left.contexts ref = inside.contexts ref) ∧
      (left.setCurrent w.current).WellFormed ∧ Frame true w (left.setCurrent w.current) := by
  have hfresh := henters.fresh
  refine ⟨_, exitWorkflow_of_ready hready hchild, rfl, fun ref hlt ↦ ?_, ?_⟩
  · rw [World.setCurrent, World.modify_of_ne _ _ (by omega), World.modify_of_ne _ _ (by omega)]
    exact henters.contexts_eq (hkeeps henters.wellFormed).2 hlt
  have hleave := henters.leave true hw hkeeps
    { (after.modify child ctx).contexts child with
      workflowId := ""
      functionId := -1
      contextSpans := []
      isWithinSetWorkflowIdBlock := entered.saved.isWithinSetWorkflowIdBlock
      workflowTimeoutMs := entered.saved.workflowTimeoutMs
      workflowDeadlineEpochMs := none
      priority := entered.saved.priority
      deduplicationId := entered.saved.deduplicationId } le_rfl
  have hmodify : ∀ ctx', (after.modify child ctx).modify child ctx' = after.modify child ctx' := by
    simp [World.modify]
  simpa only [World.setCurrent, hmodify] using hleave

/-- What is known of the context in which the body of a workflow runs. -/
structure InWorkflow (process : Process) (child : ℕ) (name : String) (role : Option String)
    (before : Context) (ctx : Context) : Prop where
  functionId : ctx.functionId = 0
  within : ctx.workflowId ≠ ""
  spans : ctx.contextSpans = if process.disableOtlp then [] else [name]
  role : role = none ∨ ctx.assumedRole = role
  roles : ctx.authenticatedRoles = before.authenticatedRoles

theorem InWorkflow.ready {name : String} {role : Option String} {before ctx : Context}
    (h : InWorkflow process child name role before ctx) :
    ReadyToLeave process child name role (w.inside child ctx) where
  current := rfl
  within := by
    rw [World.inside_self]
    exact h.within
  spans := by
    rw [World.inside_self]
    exact h.spans
  role := by
    rw [World.inside_self]
    exact h.role

/-- The context that has been made is entered. -/
theorem NewChild.enters (hw : w.WellFormed) (hnew : NewChild w w' child) {name : String}
    {role : Option String} {before ctx : Context}
    (h : InWorkflow process child name role before ctx) : Enters w (w'.inside child ctx) child := by
  obtain ⟨events, hevents, hquiet⟩ := hnew.events
  exact Enters.of_frame hnew.wellFormed hnew.frame hevents hquiet hnew.fresh hnew.allocated
    hw.current (by rw [h.functionId]; simp)

theorem inWorkflow_started (process : Process) (child : ℕ) {before : Context} (name : String)
    (h : before.IsChild) :
    InWorkflow process child name none before (before.started process name) := by
  have hspans : before.contextSpans = [] := by rw [h.2]
  refine ⟨functionId_startSpan _ _, ?_, ?_, .inl rfl, ?_⟩
  · unfold Context.started Context.startSpan
    split <;> exact h.1
  · refine (contextSpans_startSpan _ _).trans ?_
    simp only [Context.unset, hspans]
  · unfold Context.started Context.startSpan
    split <;> rfl

theorem InWorkflow.assuming {name : String} {before ctx : Context}
    (h : InWorkflow process child name none before ctx) (role : Option String) :
    InWorkflow process child name role before (ctx.assuming role) := by
  unfold Context.assuming
  cases role with
  | none => exact h
  | some role => exact ⟨h.functionId, h.within, h.spans, .inr rfl, h.roles⟩

/-- A workflow begins afresh. -/
theorem isFresh_started (process : Process) {before : Context} (name : String)
    (role : Option String) (deadline : Option ℤ) (h : before.IsChild) :
    ({ (before.started process name).assuming role with
      workflowAttributes := none
      workflowDeadlineEpochMs := deadline } : Context).IsFresh := by
  have hid := h.1
  rw [h.2]
  unfold Context.started Context.startSpan Context.assuming
  split <;> split <;> exact ⟨hid, rfl⟩

theorem serializationType_started (process : Process) (before : Context) (name : String)
    (role : Option String) :
    ((before.started process name).assuming role).serializationType = before.serializationType := by
  unfold Context.started Context.startSpan Context.assuming
  split <;> split <;> rfl

/-- A workflow block, when what is left of its code is a change of the workflow context. -/
theorem leave_workflowBlock {name : String} {role : Option String} {caller after : World}
    {code : ContextCode Unit} {ctx ctx' : Context} (hw : w.WellFormed) (hnew : NewChild w w' child)
    (hcaller : caller = w'.setCurrent caller.current)
    (hctx : InWorkflow process child name role (w'.contexts child) ctx)
    (hkeeps : KeepsFrame strict (w'.inside child ctx) after)
    (hcode : (code (w'.inside child ((w'.contexts child).started process name))).2 =
      after.modify child ctx')
    (hready : ReadyToLeave process child name none (after.modify child ctx')) :
    ∃ left, (Code.managed (enterWorkflow process name child) (exitWorkflow process)
        (fun _ ↦ code) caller).2 = left ∧ left.current = caller.current ∧
      (∀ ref < w.allocated, left.contexts ref = w'.contexts ref) ∧
      (left.setCurrent w.current).WellFormed ∧ Frame true w (left.setCurrent w.current) := by
  have hchild : caller.contexts child = w'.contexts child := by
    rw [hcaller]
    rfl
  have henter : enterWorkflow process name child caller =
      (.ok { prevCtx := caller.current, useCtx := child, saved := w'.contexts child },
        w'.inside child ((w'.contexts child).started process name)) := by
    rw [enterWorkflow_of_isChild name (hchild ▸ hnew.isChild), hchild, hcaller]
    rfl
  have hleave : ∀ entered : SavedWorkflow, entered.useCtx = child → _ := fun _ ↦
    leave_workflow hw (hnew.enters hw hctx) hkeeps hready
  obtain ⟨left, hexit, hprev, hcontexts, hleft⟩ := hleave
    { prevCtx := caller.current, useCtx := child, saved := w'.contexts child } rfl
  rw [← hcode] at hexit
  have hends : Code.managed (enterWorkflow process name child) (exitWorkflow process)
      (fun _ ↦ code) caller = (_, left) := Code.managed_of_exit henter hexit
  refine ⟨left, congrArg Prod.snd hends, hprev, fun ref hlt ↦ ?_, hleft⟩
  rw [hcontexts ref hlt]
  have hfresh := hnew.fresh
  exact World.modify_of_ne _ _ (by omega)

/-- Code in a workflow context that has assumed its role. -/
theorem assumeRole_inside {name : String} {role : Option String} {code : ContextCode Unit}
    {ctx : Context} (hw : w.WellFormed) (hnew : NewChild w w' child)
    (hctx : InWorkflow process child name role (w'.contexts child) ctx)
    (hkeeps : KeepsFrame strict (w'.inside child ctx)
      (code (w'.inside child (((w'.contexts child).started process name).assuming role))).2) :
    ∃ ctx', (Code.managed (enterAssumeRole role) (exitAssumeRole role) (fun _ ↦ code)
        (w'.inside child ((w'.contexts child).started process name))).2 =
          (code (w'.inside child
            (((w'.contexts child).started process name).assuming role))).2.modify child ctx' ∧
      ReadyToLeave process child name none
        ((code (w'.inside child
          (((w'.contexts child).started process name).assuming role))).2.modify child ctx') := by
  have hframe := hkeeps (hnew.enters hw hctx).wellFormed
  have hready : ReadyToLeave process child name role _ := hctx.ready.of_frame hframe.2
  have hassume : enterAssumeRole role
      (w'.inside child ((w'.contexts child).started process name)) =
        (.ok ((w'.contexts child).started process name).assumedRole,
          w'.inside child (((w'.contexts child).started process name).assuming role)) := by
    have hcurrent : (w'.inside child ((w'.contexts child).started process name)).current =
        some child := rfl
    rw [enterAssumeRole_of_current hcurrent, World.inside_self, World.modify_inside]
  have hends : Code.managed (enterAssumeRole role) (exitAssumeRole role) (fun _ ↦ code)
      (w'.inside child ((w'.contexts child).started process name)) = _ :=
    Code.managed_of_exit hassume (exitAssumeRole_of_current hready.current hready.role)
  refine ⟨_, congrArg Prod.snd hends, hready.current, ?_, ?_, .inl rfl⟩
  · rw [World.modify_self]
    exact hready.within
  · rw [World.modify_self]
    exact hready.spans

theorem changeContext_inside (f : Context → Context) (ctx : Context) :
    changeContext child f (w.inside child ctx) = (.ok (), w.inside child (f ctx)) := by
  unfold changeContext
  rw [Code.update_apply, World.inside_self, World.modify_inside]

/-- The code of a called workflow keeps what is known of its context. -/
theorem keeps_workflowCode (process : Process) (reply : Reply) {role : Option String}
    {before : World} (hbody : Code.Keeps (KeepsFrame strict) body)
    (hcheck : checkRequiredRoles func before = (.ok role, w))
    (hchild : (w'.contexts child).IsChild)
    (hdefault : (w'.contexts child).serializationType = .default)
    (hroles : (w'.contexts child).authenticatedRoles =
      before.context.bind Context.authenticatedRoles) :
    ∃ ctx, InWorkflow process child func.name role (w'.contexts child) ctx ∧
      KeepsFrame strict (w'.inside child ctx)
        (unlessRecorded reply
          ((initWorkflow child reply).andThen fun _ ↦ entering .workflow func body)
            (w'.inside child
              (((w'.contexts child).started process func.name).assuming role))).2 := by
  have hctx := (inWorkflow_started process child func.name hchild).assuming role
  unfold unlessRecorded
  cases reply.recorded with
  | some outcome => exact ⟨_, hctx, Std.Refl.refl _⟩
  | none =>
    have hauthorized : func.required ≠ [] →
        (((w'.contexts child).started process func.name).assuming role).Authorized
          func.required := by
      apply authorized_assuming hcheck
      rw [(inWorkflow_started process child func.name hchild).roles, hroles]
    generalize hbegun : ((w'.contexts child).started process func.name).assuming role = begun
      at hctx hauthorized
    -- the attributes are consumed first, then the row is inserted
    unfold initWorkflow
    simp only [Code.andThen, changeContext_inside]
    cases reply.initialized with
    | error error =>
      exact ⟨{ begun with workflowAttributes := none },
        ⟨hctx.functionId, hctx.within, hctx.spans, hctx.role, hctx.roles⟩, Std.Refl.refl _⟩
    | ok deadline =>
      simp only [Code.ofExcept_apply, changeContext_inside]
      refine ⟨{ begun with workflowAttributes := none, workflowDeadlineEpochMs := deadline },
        ⟨hctx.functionId, hctx.within, hctx.spans, hctx.role, hctx.roles⟩, ?_⟩
      apply keepsFrame_entering hbody
      have hcontext : (w'.inside child { begun with
          workflowAttributes := none
          workflowDeadlineEpochMs := deadline }).context = some { begun with
            workflowAttributes := none
            workflowDeadlineEpochMs := deadline } := congrArg some (World.inside_self _)
      rw [hcontext]
      have htype : begun.serializationType = .default := by
        rw [← hbegun, serializationType_started, hdefault]
      exact ⟨fun hrequired _ _ ↦ ⟨_, rfl, hauthorized hrequired⟩,
        fun _ ↦ ⟨_, rfl, hbegun ▸ isFresh_started process func.name role deadline hchild, htype⟩,
        fun h ↦ absurd h (by decide)⟩

/-- A called workflow leaves the frame; whatever happens in it, the contexts of before are as they
were when its context was made. -/
theorem callWorkflow_spec (process : Process) (func : Function) (reply : Reply)
    (hbody : Code.Keeps (KeepsFrame strict) body) (hw : w.WellFormed) :
    let after := (callWorkflow process func reply body w).2
    (after.WellFormed ∧ Frame true w after) ∧
      ∀ role child made, checkRequiredRoles func w = (.ok role, w) →
        workflowContexts process w = (.ok child, made) →
          ∀ ref < w.allocated, after.contexts ref = made.contexts ref := by
  unfold callWorkflow
  rcases checkRequiredRoles_cases func w with ⟨error, hcheck⟩ | ⟨role, hcheck⟩
  · rw [Code.andThen_of_error hcheck]
    exact ⟨⟨hw, Frame.refl w⟩, by simp [hcheck]⟩
  · rw [Code.andThen_of_ok hcheck]
    cases hcontexts : workflowContexts process w with
    | mk outcome made =>
      cases outcome with
      | error error =>
        rw [Code.andThen_of_error hcontexts, workflowContexts_error hcontexts]
        exact ⟨⟨hw, Frame.refl w⟩, by simp⟩
      | ok child =>
        rw [Code.andThen_of_ok hcontexts]
        obtain ⟨hnew, hdefault⟩ := newChild_of_workflowContexts hw hcontexts
        obtain ⟨ctx, hctx, hkeeps⟩ := keeps_workflowCode process reply hbody hcheck hnew.isChild
          hdefault hnew.roles
        obtain ⟨ctx', hcode, hready⟩ := assumeRole_inside hw hnew hctx hkeeps
        have hcaller : made = made.setCurrent made.current := rfl
        obtain ⟨left, hleft, hcurrent, hkept, hleave⟩ :=
          leave_workflowBlock hw hnew hcaller hctx hkeeps hcode hready
        have hself : left.setCurrent w.current = left := by
          rw [← hnew.frame.current, ← hcurrent]
          rfl
        rw [hself] at hleave
        unfold finishing
        simp only [hleft]
        refine ⟨hleave, fun _ _ _ _ hmade ref hlt ↦ ?_⟩
        rw [hkept ref hlt, (Prod.mk.inj hmade).2]

theorem keeps_callWorkflow (reply : Reply) (hbody : Code.Keeps (KeepsFrame strict) body) :
    Code.Keeps (KeepsFrame true) (callWorkflow process func reply body) :=
  fun _ hw ↦ (callWorkflow_spec process func reply hbody hw).1

/-! ## Workflows on threads of their own -/

theorem Frame.modify_new (h : Frame strict w w') (hfresh : w.allocated ≤ child)
    (hcurrent : ∀ ref, w.current = some ref → ref < w.allocated) (ctx : Context) :
    Frame strict w (w'.modify child ctx) := by
  have hsame : ∀ ref < w.allocated, (w'.modify child ctx).contexts ref = w'.contexts ref :=
    fun ref hlt ↦ World.modify_of_ne _ _ (by omega)
  refine ⟨h.current, h.allocated, ?_, ?_, ?_, ?_, ?_⟩
  · intro ref hlt hne
    rw [hsame ref hlt, h.others ref hlt hne]
  · intro ref href
    rw [hsame ref (hcurrent ref href), h.settings ref href]
  · intro hstrict ref href
    rw [hsame ref (hcurrent ref href), h.authentication hstrict ref href]
  · intro ref href
    rw [hsame ref (hcurrent ref href)]
    exact h.functionId ref href
  · obtain ⟨events, htrace⟩ := h.trace
    refine ⟨events, htrace.append, htrace.allowed, ?_, htrace.assigned_new, htrace.unallocated⟩
    intro ref hlt
    rw [hsame ref hlt]
    exact htrace.assigned ref hlt

/-- A change of the context that has been made. -/
theorem NewChild.modify (hw : w.WellFormed) (h : NewChild w w' child) {ctx : Context}
    (hctx : ctx.IsChild)
    (hroles : ctx.authenticatedRoles = (w'.contexts child).authenticatedRoles) :
    NewChild w (w'.modify child ctx) child where
  wellFormed := by
    apply h.wellFormed.modify
    rw [hctx.2]
  frame := h.frame.modify_new h.fresh hw.current ctx
  fresh := h.fresh
  allocated := h.allocated
  isChild := by
    rw [World.modify_self]
    exact hctx
  roles := by
    rw [World.modify_self, hroles]
    exact h.roles
  events := h.events

/-- The workflow that a thread runs, on the context that has been made for it. -/
theorem keeps_thread (process : Process) (func : Function) (hw : w.WellFormed)
    (hnew : NewChild w w' child)
    (hattributes : (w'.contexts child).workflowAttributes = none)
    (hbody : Code.Keeps (KeepsFrame strict) body) :
    let after := (onThread (Code.managed (enterWorkflow process func.name child)
      (exitWorkflow process) fun _ ↦ (checkRequiredRoles func).andThen fun role ↦
        Code.managed (enterAssumeRole role) (exitAssumeRole role) fun _ ↦
          entering .started func body) w').2
    (after.WellFormed ∧ Frame true w after) ∧
      ∀ ref < w.allocated, after.contexts ref = w'.contexts ref := by
  have hcaller : w'.setCurrent none = w'.setCurrent (w'.setCurrent none).current := rfl
  have hstarted := inWorkflow_started process child func.name hnew.isChild
  unfold onThread
  rw [hnew.frame.current]
  rcases checkRequiredRoles_cases func (w'.inside child ((w'.contexts child).started process
    func.name)) with ⟨error, hcheck⟩ | ⟨role, hcheck⟩
  · -- the roles are denied in the workflow context, which is then left as it is
    have hcode : (((checkRequiredRoles func).andThen fun role ↦
        Code.managed (enterAssumeRole role) (exitAssumeRole role) fun _ ↦
          entering .started func body)
            (w'.inside child ((w'.contexts child).started process func.name))).2 =
        (w'.inside child ((w'.contexts child).started process func.name)).modify child
          ((w'.contexts child).started process func.name) := by
      rw [Code.andThen_of_error hcheck, World.modify_inside]
    have hunchanged : KeepsFrame strict
        (w'.inside child ((w'.contexts child).started process func.name))
        (w'.inside child ((w'.contexts child).started process func.name)) := Std.Refl.refl _
    obtain ⟨left, hleft, _, hkept, hleave⟩ := leave_workflowBlock hw hnew hcaller hstarted
      hunchanged hcode (by
        rw [World.modify_inside]
        exact hstarted.ready)
    rw [hleft]
    exact ⟨hleave, hkept⟩
  · have hctx := hstarted.assuming role
    have hkeeps : KeepsFrame strict
        (w'.inside child (((w'.contexts child).started process func.name).assuming role))
        (entering .started func body (w'.inside child
          (((w'.contexts child).started process func.name).assuming role))).2 := by
      apply keepsFrame_entering hbody
      have hcontext : (w'.inside child (((w'.contexts child).started process
          func.name).assuming role)).context =
            some (((w'.contexts child).started process func.name).assuming role) :=
        congrArg some (World.inside_self _)
      rw [hcontext]
      refine ⟨fun hrequired _ _ ↦ ⟨_, rfl, authorized_assuming hcheck ?_ hrequired⟩, nofun,
        fun _ ↦ ⟨_, rfl, ?_⟩⟩
      · exact (congrArg Context.authenticatedRoles (World.inside_self _)).symm
      · have hfresh := isFresh_started process func.name role
          (w'.contexts child).workflowDeadlineEpochMs hnew.isChild
        have heq : ({ ((w'.contexts child).started process func.name).assuming role with
            workflowAttributes := none
            workflowDeadlineEpochMs := (w'.contexts child).workflowDeadlineEpochMs } : Context) =
              ((w'.contexts child).started process func.name).assuming role := by
          unfold Context.started Context.startSpan Context.assuming
          split <;> split <;> simp [Context.unset, hattributes]
        rwa [heq] at hfresh
    obtain ⟨ctx', hcode, hready⟩ := assumeRole_inside hw hnew hctx hkeeps
    have hchecked : (((checkRequiredRoles func).andThen fun role ↦
        Code.managed (enterAssumeRole role) (exitAssumeRole role) fun _ ↦
          entering .started func body)
            (w'.inside child ((w'.contexts child).started process func.name))).2 = _ :=
      (congrArg Prod.snd (Code.andThen_of_ok hcheck)).trans hcode
    obtain ⟨left, hleft, _, hkept, hleave⟩ :=
      leave_workflowBlock hw hnew hcaller hctx hkeeps hchecked hready
    rw [hleft]
    exact ⟨hleave, hkept⟩

theorem changeContext_apply (f : Context → Context) :
    changeContext ref f w = (.ok (), w.modify ref (f (w.contexts ref))) := rfl

/-- A started workflow leaves the frame; whatever happens in it, the contexts of before are as they
were when its context was made. -/
theorem startWorkflow_spec (process : Process) (func : Function) (reply : Reply)
    (executes : Bool) (hbody : Code.Keeps (KeepsFrame strict) body) (hw : w.WellFormed) :
    let after := (startWorkflow process func reply executes body w).2
    (after.WellFormed ∧ Frame true w after) ∧
      ∀ child made, createStartWorkflowChild process w = (.ok child, made) →
        ∀ ref < w.allocated, after.contexts ref = made.contexts ref := by
  unfold startWorkflow
  cases hcreate : createStartWorkflowChild process w with
  | mk outcome made =>
    cases outcome with
    | error error =>
      rw [Code.andThen_of_error hcreate, createStartWorkflowChild_error hcreate]
      exact ⟨⟨hw, Frame.refl w⟩, by simp⟩
    | ok child =>
      have hnew := newChild_of_createStartWorkflowChild hw hcreate
      rw [Code.andThen_of_ok hcreate]
      unfold unlessRecorded
      cases reply.recorded with
      | some outcome =>
        refine ⟨⟨hnew.wellFormed, hnew.frame⟩, fun _ _ hmade ref _ ↦ ?_⟩
        rw [← (Prod.mk.inj hmade).2]
        rfl
      | none =>
        have hconsumed : NewChild w (made.modify child
            { made.contexts child with workflowAttributes := none }) child :=
          hnew.modify hw ⟨hnew.isChild.1, by rw [hnew.isChild.2]⟩ rfl
        have hothers : ∀ (w' : World) (ctx : Context), ∀ ref < w.allocated,
            (w'.modify child ctx).contexts ref = w'.contexts ref := by
          have hfresh := hnew.fresh
          exact fun w' ctx ref hlt ↦ World.modify_of_ne _ _ (by omega)
        unfold initWorkflow
        simp only [Code.andThen, changeContext_apply]
        cases reply.initialized with
        | error error =>
          refine ⟨⟨hconsumed.wellFormed, hconsumed.frame⟩, fun _ _ hmade ref hlt ↦ ?_⟩
          rw [← (Prod.mk.inj hmade).2]
          exact hothers _ _ ref hlt
        | ok deadline =>
          simp only [Code.ofExcept_apply]
          have hinitialized : NewChild w ((made.modify child
              { made.contexts child with workflowAttributes := none }).modify child
                { (made.modify child { made.contexts child with
                    workflowAttributes := none }).contexts child with
                  workflowDeadlineEpochMs := deadline }) child :=
            hconsumed.modify hw ⟨hconsumed.isChild.1, by rw [hconsumed.isChild.2]⟩ rfl
          have hattributes : (((made.modify child
              { made.contexts child with workflowAttributes := none }).modify child
                { (made.modify child { made.contexts child with
                    workflowAttributes := none }).contexts child with
                  workflowDeadlineEpochMs := deadline }).contexts child).workflowAttributes =
              none := by simp
          have hbefore : ∀ ref < w.allocated, ((made.modify child
              { made.contexts child with workflowAttributes := none }).modify child
                { (made.modify child { made.contexts child with
                    workflowAttributes := none }).contexts child with
                  workflowDeadlineEpochMs := deadline }).contexts ref = made.contexts ref :=
            fun ref hlt ↦ (hothers _ _ ref hlt).trans (hothers _ _ ref hlt)
          generalize (made.modify child
              { made.contexts child with workflowAttributes := none }).modify child
                { (made.modify child { made.contexts child with
                    workflowAttributes := none }).contexts child with
                  workflowDeadlineEpochMs := deadline } = initialized
            at hinitialized hattributes hbefore ⊢
          have htyped : NewChild w (initialized.modify child
              { initialized.contexts child with
                serializationType := serializationTypeOf func reply }) child :=
            hinitialized.modify hw ⟨hinitialized.isChild.1, by rw [hinitialized.isChild.2]⟩ rfl
          cases executes with
          | false =>
            refine ⟨⟨htyped.wellFormed, htyped.frame⟩, fun _ _ hmade ref hlt ↦ ?_⟩
            rw [← (Prod.mk.inj hmade).2]
            exact (hothers _ _ ref hlt).trans (hbefore ref hlt)
          | true =>
            have hthread := keeps_thread process func hw htyped (by simpa using hattributes) hbody
            refine ⟨hthread.1, fun _ _ hmade ref hlt ↦ ?_⟩
            rw [← (Prod.mk.inj hmade).2]
            exact (hthread.2 ref hlt).trans ((hothers _ _ ref hlt).trans (hbefore ref hlt))

theorem keeps_startWorkflow (reply : Reply) (executes : Bool)
    (hbody : Code.Keeps (KeepsFrame strict) body) :
    Code.Keeps (KeepsFrame true) (startWorkflow process func reply executes body) :=
  fun _ hw ↦ (startWorkflow_spec process func reply executes hbody hw).1

theorem keeps_callTransaction (session : ℕ) (workflowReply reply : Reply)
    (hbody : Code.Keeps (KeepsFrame strict) body) :
    Code.Keeps (KeepsFrame strict)
      (callTransaction process func session workflowReply reply body) := by
  intro w
  unfold callTransaction
  have hwithin : Code.Keeps (KeepsFrame strict)
      (callTransactionWithin process func session reply body) :=
    keeps_callTransactionWithin session reply hbody
  rcases checkRequiredRoles_cases func w with ⟨error, hcheck⟩ | ⟨role, hcheck⟩
  · rw [Code.andThen_of_error hcheck]
    exact Std.Refl.refl w
  · rw [Code.andThen_of_ok hcheck]
    by_cases hinside : w.context.any Context.isWithinWorkflow = true
    · rw [if_pos hinside]
      exact hwithin w
    · rw [if_neg hinside]
      exact (keeps_callWorkflow workflowReply hwithin w).weaken

/-- The authentication of the current context is all that changes. -/
theorem keeps_callSetAuthentication (user : Option String) (roles : Option (List String)) :
    Code.Keeps (KeepsFrame false) (callSetAuthentication user roles) := by
  intro w
  unfold callSetAuthentication
  cases hcurrent : w.current with
  | none =>
    have hnone : assertCurrentContext w =
        (.error (.assertionError "No DBOS context found"), w) := by
      simp [assertCurrentContext, hcurrent]
    rw [Code.andThen_of_error hnone]
    exact Std.Refl.refl w
  | some ref =>
    rw [Code.andThen_of_ok (assertCurrentContext_of_current hcurrent), changeContext_apply]
    exact keepsFrame_modify false _ hcurrent rfl (by simp) rfl

end Calls

/-! ## Programs -/

namespace Program

variable {process : Process}

/-- Every program leaves the frame. -/
theorem keeps_run (process : Process) (program : Program) :
    ∀ strict, (strict = true → program.keepsAuthentication = true) →
      Code.Keeps (KeepsFrame strict) (program.run process) := by
  induction program with
  | pass => exact fun _ _ ↦ Code.keeps_ret ()
  | raising error => exact fun _ _ ↦ Code.keeps_raise error
  | sequence first rest hfirst hrest =>
    intro strict h
    simp only [keepsAuthentication, Bool.and_eq_true] at h
    exact (hfirst strict fun hstrict ↦ (h hstrict).1).andThen
      fun _ ↦ hrest strict fun hstrict ↦ (h hstrict).2
  | attempt body except hbody hexcept =>
    intro strict h
    simp only [keepsAuthentication, Bool.and_eq_true] at h
    exact (hbody strict fun hstrict ↦ (h hstrict).1).attempt
      fun _ ↦ hexcept strict fun hstrict ↦ (h hstrict).2
  | block manager body hbody => exact fun strict h ↦ keeps_block (hbody strict h)
  | handler name body hbody => exact fun strict h ↦ keeps_handler (hbody strict h)
  | decorated func isAsync body hbody => exact fun strict h ↦ keeps_callDecorated (hbody strict h)
  | workflow func reply body hbody =>
    intro strict _ w
    exact (keeps_callWorkflow reply (hbody false (by simp)) w).weaken
  | start func reply executes body hbody =>
    intro strict _ w
    exact (keeps_startWorkflow reply executes (hbody false (by simp)) w).weaken
  | step func reply body hbody => exact fun strict h ↦ keeps_callStep reply (hbody strict h)
  | transaction func session workflowReply reply body hbody =>
    exact fun strict h ↦ keeps_callTransaction session workflowReply reply (hbody strict h)
  | operation name reserveSleepId outcome otherwise =>
    exact fun _ _ ↦ keeps_callOperation name reserveSleepId outcome otherwise
  | setAuthentication user roles =>
    intro strict h
    cases strict with
    | false => exact keeps_callSetAuthentication user roles
    | true => simp [keepsAuthentication] at h

end Program

end DBOSModel.Core.Contexts

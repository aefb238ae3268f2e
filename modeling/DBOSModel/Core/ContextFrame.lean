import DBOSModel.Core.ContextPrograms

/-!
# What a program leaves of the contexts

A program leaves the context variable as it was, and every context object that is not its current
one. Of its current context it only uses up IDs. It may authenticate it for good, but only where it
says so. The function IDs that a context gives to operations are consecutive, whatever happens in
the bodies of the operations, and the body of a function runs under a role that the function requires.
-/

namespace DBOSModel.Core.Contexts

open Managed SysDb

/-! ## Function IDs -/

/-- The function IDs that a context has given, the last one first. -/
def idsOf (ref : ℕ) (events : List Event) : List ℤ :=
  events.filterMap fun event ↦
    match event with
    | .assigned ref' functionId => if ref' = ref then some functionId else none
    | .entered .. => none

/-- The IDs after `before` and up to `after`, the last one first. -/
def idsBetween (before after : ℤ) : List ℤ :=
  (List.range (after - before).toNat).map fun k : ℕ ↦ after - (k : ℤ)

@[simp]
theorem idsOf_nil (ref : ℕ) : idsOf ref [] = [] := rfl

@[simp]
theorem idsOf_append (ref : ℕ) (events events' : List Event) :
    idsOf ref (events ++ events') = idsOf ref events ++ idsOf ref events' := by
  simp [idsOf, List.filterMap_append]

@[simp]
theorem idsOf_entered (ref : ℕ) (kind : CallKind) (required : List String) (ctx : Option Context)
    (events : List Event) :
    idsOf ref (.entered kind required ctx :: events) = idsOf ref events := by
  simp [idsOf]

theorem idsOf_assigned (ref ref' : ℕ) (functionId : ℤ) (events : List Event) :
    idsOf ref (.assigned ref' functionId :: events) =
      if ref' = ref then functionId :: idsOf ref events else idsOf ref events := by
  by_cases h : ref' = ref
  · simp [idsOf, h]
  · simp [idsOf, h]

@[simp]
theorem idsBetween_self (n : ℤ) : idsBetween n n = [] := by
  simp [idsBetween]

theorem idsBetween_succ (n : ℤ) : idsBetween n (n + 1) = [n + 1] := by
  simp [idsBetween]

theorem idsBetween_append {before middle after : ℤ} (h : before ≤ middle) (h' : middle ≤ after) :
    idsBetween middle after ++ idsBetween before middle = idsBetween before after := by
  have hlength : (after - before).toNat = (after - middle).toNat + (middle - before).toNat := by
    omega
  unfold idsBetween
  rw [hlength, List.range_add, List.map_append, List.map_map]
  congr 1
  apply List.map_congr_left
  intro k _
  simp only [Function.comp_apply, Nat.cast_add]
  omega

/-! ## What may be seen -/

/-- The context of a workflow that begins: of what was around its call it has the authentication and
the parent only. The serialization type is its own. -/
def Context.IsFresh (self : Context) : Prop :=
  self.workflowId ≠ "" ∧
    self =
      { workflowId := self.workflowId
        functionId := 0
        parentWorkflowId := self.parentWorkflowId
        parentWorkflowFid := self.parentWorkflowFid
        authenticatedUser := self.authenticatedUser
        authenticatedRoles := self.authenticatedRoles
        assumedRole := self.assumedRole
        workflowDeadlineEpochMs := self.workflowDeadlineEpochMs
        serializationType := self.serializationType
        contextSpans := self.contextSpans }

/-- The role that a context assumes is one of the required ones, and its user has it. -/
def Context.Authorized (self : Context) (required : List String) : Prop :=
  ∃ role ∈ required, self.assumedRole = some role ∧
    ∃ roles, self.authenticatedRoles = some roles ∧ role ∈ roles

/-- A body runs authorized, but for a step outside a workflow and an awaited coroutine. A workflow
begins afresh, and one that is called has the default serialization type. -/
def Event.Allowed : Event → Prop
  | .assigned .. => True
  | .entered kind required context =>
    (required ≠ [] → kind ≠ .plainStep → kind ≠ .coroutine →
      ∃ ctx, context = some ctx ∧ ctx.Authorized required) ∧
    (kind = .workflow →
      ∃ ctx, context = some ctx ∧ ctx.IsFresh ∧ ctx.serializationType = .default) ∧
    (kind = .started → ∃ ctx, context = some ctx ∧ ctx.IsFresh)

/-- The events of a part of a run. -/
structure Trace (w w' : World) (events : List Event) : Prop where
  append : w'.events = events ++ w.events
  allowed : ∀ event ∈ events, event.Allowed
  assigned : ∀ ref < w.allocated, idsOf ref events =
    idsBetween (w.contexts ref).functionId (w'.contexts ref).functionId
  assigned_new : ∀ ref, w.allocated ≤ ref →
    ∃ before after, before ≤ after ∧ idsOf ref events = idsBetween before after
  unallocated : ∀ ref, w'.allocated ≤ ref → idsOf ref events = []

/-- What a part of a run leaves as it was; the authentication only if it is `strict`. -/
structure Frame (strict : Bool) (w w' : World) : Prop where
  current : w'.current = w.current
  allocated : w.allocated ≤ w'.allocated
  others : ∀ ref < w.allocated, w.current ≠ some ref → w'.contexts ref = w.contexts ref
  settings : ∀ ref, w.current = some ref → (w'.contexts ref).settings = (w.contexts ref).settings
  authentication : strict = true → ∀ ref, w.current = some ref →
    (w'.contexts ref).authentication = (w.contexts ref).authentication
  functionId : ∀ ref, w.current = some ref →
    (w.contexts ref).functionId ≤ (w'.contexts ref).functionId
  trace : ∃ events, Trace w w' events

/-- A part of a run that starts in a well-formed world ends in one and leaves the frame. -/
def KeepsFrame (strict : Bool) (w w' : World) : Prop :=
  w.WellFormed → w'.WellFormed ∧ Frame strict w w'

variable {strict strict' : Bool}

theorem Frame.refl (w : World) : Frame strict w w where
  current := rfl
  allocated := le_rfl
  others _ _ _ := rfl
  settings _ _ := rfl
  authentication _ _ _ := rfl
  functionId _ _ := le_rfl
  trace :=
    ⟨[], by simp, by simp, by simp, fun _ _ ↦ ⟨0, 0, by simp⟩, by simp⟩

/-- Function IDs only go up, in every context that there was. -/
theorem Frame.functionId_le {w w' : World} (h : Frame strict w w') {ref : ℕ}
    (hlt : ref < w.allocated) :
    (w.contexts ref).functionId ≤ (w'.contexts ref).functionId := by
  by_cases hcurrent : w.current = some ref
  · exact h.functionId ref hcurrent
  · rw [h.others ref hlt hcurrent]

theorem Frame.trans {w w' w'' : World} (hcurrent : ∀ ref, w.current = some ref → ref < w.allocated)
    (h : Frame strict w w') (h' : Frame strict w' w'') : Frame strict w w'' where
  current := h'.current.trans h.current
  allocated := h.allocated.trans h'.allocated
  others ref hlt hne := by
    rw [h'.others ref (hlt.trans_le h.allocated) (by rwa [h.current]), h.others ref hlt hne]
  settings ref href := by
    rw [h'.settings ref (h.current.trans href), h.settings ref href]
  authentication hstrict ref href := by
    rw [h'.authentication hstrict ref (h.current.trans href), h.authentication hstrict ref href]
  functionId ref href := (h.functionId ref href).trans (h'.functionId ref (h.current.trans href))
  trace := by
    obtain ⟨events, htrace⟩ := h.trace
    obtain ⟨events', htrace'⟩ := h'.trace
    refine ⟨events' ++ events, ?_, ?_, ?_, ?_, ?_⟩
    · rw [htrace'.append, htrace.append, List.append_assoc]
    · intro event hmem
      rcases List.mem_append.1 hmem with hmem | hmem
      · exact htrace'.allowed event hmem
      · exact htrace.allowed event hmem
    · intro ref hlt
      rw [idsOf_append, htrace.assigned ref hlt, htrace'.assigned ref (hlt.trans_le h.allocated)]
      exact idsBetween_append (h.functionId_le hlt)
        (h'.functionId_le (hlt.trans_le h.allocated))
    · intro ref hle
      rw [idsOf_append]
      by_cases hlt : ref < w'.allocated
      · -- a context that the first part has made is no longer current in the second one
        have hne : w'.current ≠ some ref := by
          intro href
          have := hcurrent ref (h.current.symm.trans href)
          omega
        rw [htrace'.assigned ref hlt, h'.others ref hlt hne, idsBetween_self, List.nil_append]
        exact htrace.assigned_new ref hle
      · rw [htrace.unallocated ref (not_lt.1 hlt), List.append_nil]
        exact htrace'.assigned_new ref (not_lt.1 hlt)
    · intro ref hle
      rw [idsOf_append, htrace'.unallocated ref hle,
        htrace.unallocated ref (h'.allocated.trans hle), List.nil_append]

instance : Std.Refl (KeepsFrame strict) where
  refl w hw := ⟨hw, Frame.refl w⟩

instance : IsTrans World (KeepsFrame strict) where
  trans w w' w'' h h' hw := by
    have hfirst := h hw
    have hsecond := h' hfirst.1
    exact ⟨hsecond.1, hfirst.2.trans hw.current hsecond.2⟩

theorem KeepsFrame.trans {w w' w'' : World} (h : KeepsFrame strict w w')
    (h' : KeepsFrame strict w' w'') : KeepsFrame strict w w'' :=
  IsTrans.trans w w' w'' h h'

theorem KeepsFrame.weaken {w w' : World} (h : KeepsFrame true w w') : KeepsFrame strict w w' := by
  intro hw
  obtain ⟨hw', hframe⟩ := h hw
  exact ⟨hw', hframe.current, hframe.allocated, hframe.others, hframe.settings,
    fun _ ↦ hframe.authentication rfl, hframe.functionId, hframe.trace⟩

/-! ## Steps of a run -/

theorem Trace.quiet {w w' : World} (hevents : w'.events = w.events)
    (hids : ∀ ref < w.allocated, (w'.contexts ref).functionId = (w.contexts ref).functionId) :
    Trace w w' [] where
  append := by simpa using hevents
  allowed := by simp
  assigned ref hlt := by rw [hids ref hlt, idsBetween_self, idsOf_nil]
  assigned_new _ _ := ⟨0, 0, by simp⟩
  unallocated _ _ := rfl

variable (strict) in
theorem keepsFrame_generated (w : World) (n : ℕ) : KeepsFrame strict w { w with generated := n } :=
  fun hw ↦ ⟨⟨hw.current, hw.functionId⟩, rfl, le_rfl, fun _ _ _ ↦ rfl, fun _ _ ↦ rfl,
    fun _ _ _ ↦ rfl, fun _ _ ↦ le_rfl, [], Trace.quiet rfl fun _ _ ↦ rfl⟩

theorem keepsFrame_emit {w : World} {kind : CallKind} {required : List String}
    {context : Option Context} (h : (Event.entered kind required context).Allowed) :
    KeepsFrame strict w (w.emit (.entered kind required context)) := by
  intro hw
  refine ⟨⟨hw.current, hw.functionId⟩, rfl, le_rfl, fun _ _ _ ↦ rfl, fun _ _ ↦ rfl,
    fun _ _ _ ↦ rfl, fun _ _ ↦ le_rfl, [.entered kind required context], rfl, ?_, ?_, ?_, ?_⟩
  · intro event hmem
    rw [List.mem_singleton.1 hmem]
    exact h
  · intro ref _
    simp [World.emit]
  · intro ref _
    exact ⟨0, 0, by simp⟩
  · simp

theorem World.WellFormed.allocate {w : World} (hw : w.WellFormed) {ctx : Context}
    (hid : -1 ≤ ctx.functionId) : (w.allocate ctx).WellFormed where
  current ref href := by
    have := hw.current ref href
    simp only [World.allocate]
    omega
  functionId ref hlt := by
    simp only [World.allocate] at hlt ⊢
    by_cases heq : ref = w.allocated
    · simpa [heq] using hid
    · rw [Function.update_of_ne heq]
      exact hw.functionId ref (by omega)

@[simp]
theorem World.allocate_self (w : World) (ctx : Context) :
    (w.allocate ctx).contexts w.allocated = ctx := by
  simp [World.allocate]

variable (strict) in
theorem keepsFrame_allocate (w : World) (ctx : Context) (hid : -1 ≤ ctx.functionId) :
    KeepsFrame strict w (w.allocate ctx) := by
  intro hw
  have hsame : ∀ ref < w.allocated, (w.allocate ctx).contexts ref = w.contexts ref := by
    intro ref hlt
    simp only [World.allocate]
    rw [Function.update_of_ne (by omega)]
  refine ⟨hw.allocate hid, rfl, Nat.le_succ _, fun ref hlt _ ↦ hsame ref hlt, ?_, ?_, ?_, [],
    Trace.quiet rfl fun ref hlt ↦ by rw [hsame ref hlt]⟩
  · intro ref href
    rw [hsame ref (hw.current ref href)]
  · intro _ ref href
    rw [hsame ref (hw.current ref href)]
  · intro ref href
    rw [hsame ref (hw.current ref href)]

theorem World.WellFormed.modify {w : World} (hw : w.WellFormed) (ref : ℕ) {ctx : Context}
    (hid : -1 ≤ ctx.functionId) : (w.modify ref ctx).WellFormed where
  current := hw.current
  functionId ref' hlt := by
    simp only [World.modify] at hlt ⊢
    by_cases heq : ref' = ref
    · simpa [heq] using hid
    · rw [Function.update_of_ne heq]
      exact hw.functionId ref' hlt

@[simp]
theorem World.modify_self (w : World) (ref : ℕ) (ctx : Context) :
    (w.modify ref ctx).contexts ref = ctx := by
  simp [World.modify]

theorem World.modify_of_ne (w : World) {ref ref' : ℕ} (ctx : Context) (h : ref' ≠ ref) :
    (w.modify ref ctx).contexts ref' = w.contexts ref' := by
  simp [World.modify, h]

theorem World.context_modify {w : World} {ref : ℕ} (ctx : Context) (h : w.current = some ref) :
    (w.modify ref ctx).context = some ctx := by
  have hcurrent : (w.modify ref ctx).current = some ref := h
  rw [World.context, hcurrent, Option.map_some, World.modify_self]

variable (strict) in
/-- A change of the current context that is neither one of its settings nor of its function ID. -/
theorem keepsFrame_modify {w : World} {ref : ℕ} (ctx : Context) (href : w.current = some ref)
    (hsettings : ctx.settings = (w.contexts ref).settings)
    (hauthentication : strict = true → ctx.authentication = (w.contexts ref).authentication)
    (hid : ctx.functionId = (w.contexts ref).functionId) :
    KeepsFrame strict w (w.modify ref ctx) := by
  intro hw
  have hbound : -1 ≤ ctx.functionId := by
    rw [hid]
    exact hw.functionId ref (hw.current ref href)
  refine ⟨hw.modify ref hbound, rfl, le_rfl, ?_, ?_, ?_, ?_, [], Trace.quiet rfl ?_⟩
  · intro ref' _ hne
    apply World.modify_of_ne
    rintro rfl
    exact hne href
  · intro ref' href'
    obtain rfl := Option.some.inj (href.symm.trans href')
    rw [World.modify_self, hsettings]
  · intro hstrict ref' href'
    obtain rfl := Option.some.inj (href.symm.trans href')
    rw [World.modify_self, hauthentication hstrict]
  · intro ref' href'
    obtain rfl := Option.some.inj (href.symm.trans href')
    rw [World.modify_self, hid]
  · intro ref' _
    by_cases heq : ref' = ref
    · rw [heq, World.modify_self, hid]
    · rw [World.modify_of_ne _ _ heq]

variable (strict) in
/-- The current context gives its next function ID. -/
theorem keepsFrame_assign {w : World} {ref : ℕ} (ctx : Context) (href : w.current = some ref)
    (hsettings : ctx.settings = (w.contexts ref).settings)
    (hauthentication : ctx.authentication = (w.contexts ref).authentication)
    (hid : ctx.functionId = (w.contexts ref).functionId + 1) :
    KeepsFrame strict w
      ((w.modify ref ctx).emit (.assigned ref ((w.contexts ref).functionId + 1))) := by
  intro hw
  have hbound := hw.functionId ref (hw.current ref href)
  have hmodify : (w.modify ref ctx).WellFormed := hw.modify ref (by omega)
  refine ⟨⟨hmodify.current, hmodify.functionId⟩, rfl, le_rfl, ?_, ?_, ?_, ?_,
    [.assigned ref ((w.contexts ref).functionId + 1)], rfl, ?_, ?_, ?_, ?_⟩
  · intro ref' _ hne
    apply World.modify_of_ne
    rintro rfl
    exact hne href
  · intro ref' href'
    obtain rfl := Option.some.inj (href.symm.trans href')
    exact (congrArg Context.settings (World.modify_self w ref ctx)).trans hsettings
  · intro _ ref' href'
    obtain rfl := Option.some.inj (href.symm.trans href')
    exact (congrArg Context.authentication (World.modify_self w ref ctx)).trans hauthentication
  · intro ref' href'
    obtain rfl := Option.some.inj (href.symm.trans href')
    have := congrArg Context.functionId (World.modify_self w ref ctx)
    simp only [World.emit]
    omega
  · intro event hmem
    rw [List.mem_singleton.1 hmem]
    trivial
  · intro ref' _
    rw [idsOf_assigned, idsOf_nil]
    by_cases heq : ref = ref'
    · subst heq
      have := congrArg Context.functionId (World.modify_self w ref ctx)
      rw [if_pos rfl]
      simp only [World.emit]
      rw [this, hid, idsBetween_succ]
    · rw [if_neg heq]
      simp only [World.emit]
      rw [World.modify_of_ne _ _ (Ne.symm heq), idsBetween_self]
  · intro ref' hle
    have hne : ref ≠ ref' := by
      have := hw.current ref href
      omega
    exact ⟨0, 0, le_rfl, by rw [idsOf_assigned, if_neg hne, idsOf_nil, idsBetween_self]⟩
  · intro ref' hle
    have hne : ref ≠ ref' := by
      have := hw.current ref href
      simp only [World.emit, World.modify] at hle
      omega
    rw [idsOf_assigned, if_neg hne, idsOf_nil]

/-! ## Blocks with a context of their own -/

/-- The run has come into a context that it has made itself, and that has given no ID so far. -/
structure Enters (w w' : World) (child : ℕ) : Prop where
  wellFormed : w'.WellFormed
  current : w'.current = some child
  fresh : w.allocated ≤ child
  allocated : w.allocated ≤ w'.allocated
  others : ∀ ref < w.allocated, w.current ≠ some ref → w'.contexts ref = w.contexts ref
  settings : ∀ ref, w.current = some ref → (w'.contexts ref).settings = (w.contexts ref).settings
  authentication : ∀ ref, w.current = some ref →
    (w'.contexts ref).authentication = (w.contexts ref).authentication
  functionId : ∀ ref, w.current = some ref →
    (w.contexts ref).functionId ≤ (w'.contexts ref).functionId
  trace : ∃ events, Trace w w' events ∧ ∀ ref, w.allocated ≤ ref → idsOf ref events = []

/-- The contexts of before stay as they are in the block. -/
theorem Enters.contexts_eq {w w' w'' : World} {child : ℕ} (h : Enters w w' child)
    (hframe : Frame strict w' w'') {ref : ℕ} (hlt : ref < w.allocated) :
    w''.contexts ref = w'.contexts ref := by
  apply hframe.others ref (hlt.trans_le h.allocated)
  rw [h.current]
  intro heq
  have := h.fresh
  have := Option.some.inj heq
  omega

variable (strict) in
/-- Leaving the context for the one before. -/
theorem Enters.leave {w w' w'' : World} {child : ℕ} (hw : w.WellFormed) (h : Enters w w' child)
    (hbody : KeepsFrame strict' w' w'') (ctx : Context) (hid : -1 ≤ ctx.functionId) :
    ((w''.modify child ctx).setCurrent w.current).WellFormed ∧
      Frame strict w ((w''.modify child ctx).setCurrent w.current) := by
  have hframe := hbody h.wellFormed
  have hsame : ∀ ref < w.allocated, (w''.modify child ctx).contexts ref = w'.contexts ref := by
    intro ref hlt
    have hfresh := h.fresh
    rw [World.modify_of_ne _ _ (by omega), h.contexts_eq hframe.2 hlt]
  have hallocated := h.allocated.trans hframe.2.allocated
  refine ⟨⟨?_, (hframe.1.modify child hid).functionId⟩, rfl, hallocated, ?_, ?_, ?_, ?_, ?_⟩
  · intro ref href
    exact (hw.current ref href).trans_le hallocated
  · intro ref hlt hne
    exact (hsame ref hlt).trans (h.others ref hlt hne)
  · intro ref href
    exact (congrArg Context.settings (hsame ref (hw.current ref href))).trans (h.settings ref href)
  · intro _ ref href
    exact (congrArg Context.authentication (hsame ref (hw.current ref href))).trans
      (h.authentication ref href)
  · intro ref href
    exact (h.functionId ref href).trans_eq
      (congrArg Context.functionId (hsame ref (hw.current ref href))).symm
  · obtain ⟨events, htrace, hquiet⟩ := h.trace
    obtain ⟨events', htrace'⟩ := hframe.2.trace
    refine ⟨events' ++ events, ?_, ?_, ?_, ?_, ?_⟩
    · rw [List.append_assoc, ← htrace.append, ← htrace'.append]
      rfl
    · intro event hmem
      rcases List.mem_append.1 hmem with hmem | hmem
      · exact htrace'.allowed event hmem
      · exact htrace.allowed event hmem
    · intro ref hlt
      have hunchanged : idsOf ref events' = [] := by
        rw [htrace'.assigned ref (hlt.trans_le h.allocated), h.contexts_eq hframe.2 hlt,
          idsBetween_self]
      rw [idsOf_append, hunchanged, List.nil_append, htrace.assigned ref hlt]
      exact congrArg (idsBetween _ <| Context.functionId ·) (hsame ref hlt).symm
    · intro ref hle
      rw [idsOf_append, hquiet ref hle, List.append_nil]
      by_cases hlt : ref < w'.allocated
      · exact ⟨_, _, hframe.2.functionId_le hlt, htrace'.assigned ref hlt⟩
      · exact htrace'.assigned_new ref (not_lt.1 hlt)
    · intro ref hle
      rw [idsOf_append, htrace'.unallocated ref hle, List.nil_append]
      exact hquiet ref (hallocated.trans hle)

/-! ## Blocks in the context of their caller -/

/-- A block that changes settings of the current context and puts them back. -/
theorem KeepsFrame.around {w w' : World} {ref : ℕ} {ctx ctx' : Context}
    (href : w.current = some ref) (hid : ctx.functionId = (w.contexts ref).functionId)
    (hbody : KeepsFrame strict (w.modify ref ctx) w')
    (hsettings : Frame strict (w.modify ref ctx) w' → ctx'.settings = (w.contexts ref).settings)
    (hauthentication : Frame strict (w.modify ref ctx) w' → strict = true →
      ctx'.authentication = (w.contexts ref).authentication)
    (hid' : ctx'.functionId = (w'.contexts ref).functionId) :
    KeepsFrame strict w (w'.modify ref ctx') := by
  intro hw
  have hlt := hw.current ref href
  have hmodified : (w.modify ref ctx).WellFormed :=
    hw.modify ref (by rw [hid]; exact hw.functionId ref hlt)
  have hframe := hbody hmodified
  have hbefore : ∀ ref', ((w.modify ref ctx).contexts ref').functionId =
      (w.contexts ref').functionId := by
    intro ref'
    by_cases heq : ref' = ref
    · rw [heq, World.modify_self, hid]
    · rw [World.modify_of_ne _ _ heq]
  have hafter : ∀ ref', ((w'.modify ref ctx').contexts ref').functionId =
      (w'.contexts ref').functionId := by
    intro ref'
    by_cases heq : ref' = ref
    · rw [heq, World.modify_self, hid']
    · rw [World.modify_of_ne _ _ heq]
  refine ⟨hframe.1.modify ref ?_, hframe.2.current, hframe.2.allocated, ?_, ?_, ?_, ?_, ?_⟩
  · rw [hid']
    exact hframe.1.functionId ref (hlt.trans_le hframe.2.allocated)
  · intro ref' hlt' hne
    have hne' : ref' ≠ ref := by
      rintro rfl
      exact hne href
    rw [World.modify_of_ne _ _ hne', hframe.2.others ref' hlt' hne, World.modify_of_ne _ _ hne']
  · intro ref' href'
    obtain rfl := Option.some.inj (href.symm.trans href')
    rw [World.modify_self]
    exact hsettings hframe.2
  · intro hstrict ref' href'
    obtain rfl := Option.some.inj (href.symm.trans href')
    rw [World.modify_self]
    exact hauthentication hframe.2 hstrict
  · intro ref' href'
    rw [hafter, ← hbefore]
    exact hframe.2.functionId ref' href'
  · obtain ⟨events, htrace⟩ := hframe.2.trace
    refine ⟨events, htrace.append, htrace.allowed, ?_, htrace.assigned_new, htrace.unallocated⟩
    intro ref' hlt'
    rw [hafter, ← hbefore]
    exact htrace.assigned ref' hlt'

/-! ## The managers of options -/

section Blocks

variable {block : ContextBlock} {w w' : World} {ref : ℕ}

theorem assertCurrentContext_of_current (h : w.current = some ref) :
    assertCurrentContext w = (.ok ref, w) := by
  simp [assertCurrentContext, h]

theorem assertContext_of {condition : Context → Bool} {message : String}
    (h : condition (w.contexts ref) = true) :
    assertContext ref condition message w = (.ok (), w) := by
  simp [assertContext, h]

theorem tryChangeContext_of_ok {f : Context → Except ContextError Context} {ctx : Context}
    (h : f (w.contexts ref) = .ok ctx) : tryChangeContext ref f w = (.ok (), w.modify ref ctx) := by
  simp [tryChangeContext, h]

/-- With a current context, leaving a block of options does not raise. -/
theorem exitBlock_of_current (saved : Bool × Context) (h : w.current = some ref) :
    block.exitBlock saved w =
      (.ok (), if saved.1 then
        (w.modify ref (block.exit saved.2 (w.contexts ref))).setCurrent none
        else w.modify ref (block.exit saved.2 (w.contexts ref))) := by
  unfold ContextBlock.exitBlock
  rw [Code.andThen_of_ok (assertCurrentContext_of_current h)]
  cases saved.1 <;> rfl

/-- What entering a block of options does. -/
theorem enterBlock_eq_ok {saved : Bool × Context} (h : block.enterBlock w = (.ok saved, w')) :
    (w.current = none ∧ saved = (true, {}) ∧
      w' = (w.allocate (block.enter {})).setCurrent (some w.allocated)) ∨
    ∃ ref, w.current = some ref ∧ saved = (false, w.contexts ref) ∧
      w' = w.modify ref (block.enter (w.contexts ref)) := by
  unfold ContextBlock.enterBlock at h
  cases hinit : block.init with
  | error error => simp [hinit] at h
  | ok _ =>
    rw [hinit] at h
    cases hcurrent : w.current with
    | none =>
      rw [hcurrent] at h
      simp only [Prod.mk.injEq, Except.ok.injEq] at h
      exact .inl ⟨rfl, h.1.symm, h.2.symm⟩
    | some ref =>
      rw [hcurrent] at h
      simp only [Prod.mk.injEq, Except.ok.injEq] at h
      exact .inr ⟨ref, rfl, h.1.symm, h.2.symm⟩

/-- A context that a block makes because there is none. -/
theorem enters_created (hw : w.WellFormed) (hcurrent : w.current = none) {ctx : Context}
    (hid : -1 ≤ ctx.functionId) :
    Enters w ((w.allocate ctx).setCurrent (some w.allocated)) w.allocated where
  wellFormed := by
    refine ⟨?_, (hw.allocate hid).functionId⟩
    intro ref href
    have := Option.some.inj href
    simp only [World.setCurrent, World.allocate]
    omega
  current := rfl
  fresh := le_rfl
  allocated := Nat.le_succ _
  others ref hlt _ := by
    simp only [World.setCurrent, World.allocate]
    rw [Function.update_of_ne (by omega)]
  settings ref href := by simp [hcurrent] at href
  authentication ref href := by simp [hcurrent] at href
  functionId ref href := by simp [hcurrent] at href
  trace := by
    refine ⟨[], Trace.quiet rfl ?_, fun _ _ ↦ rfl⟩
    intro ref hlt
    simp only [World.setCurrent, World.allocate]
    rw [Function.update_of_ne (by omega)]

/-- A block of options leaves the frame, and ends as its body does. -/
theorem keeps_block {body : ContextCode Unit} (hbody : Code.Keeps (KeepsFrame strict) body) :
    Code.Keeps (KeepsFrame strict)
      (Code.managed block.enterBlock block.exitBlock fun _ ↦ body) := by
  apply Code.Keeps.managed fun _ ↦ hbody
  · intro w w' error henter
    unfold ContextBlock.enterBlock at henter
    cases hinit : block.init with
    | error error =>
      rw [hinit] at henter
      rw [← (Prod.mk.inj henter).2]
      exact Std.Refl.refl w
    | ok _ => cases hcurrent : w.current <;> simp [hinit, hcurrent] at henter
  · intro w w' w'' saved henter hkeeps hw
    rcases enterBlock_eq_ok henter with ⟨hnone, rfl, rfl⟩ | ⟨ref, href, rfl, rfl⟩
    · have hid : -1 ≤ (block.enter {}).functionId := by rw [block.functionId_enter]
      have henters := enters_created hw hnone hid
      have hframe := hkeeps henters.wellFormed
      rw [exitBlock_of_current _ (hframe.2.current.trans henters.current)]
      have hleave := henters.leave strict hw hkeeps (block.exit {} (w''.contexts w.allocated)) (by
        rw [block.functionId_exit]
        apply hframe.1.functionId
        exact (hframe.1.current _ (hframe.2.current.trans henters.current)))
      rw [hnone] at hleave
      exact hleave
    · have hmodified : (w.modify ref (block.enter (w.contexts ref))).WellFormed := by
        apply hw.modify ref
        rw [block.functionId_enter]
        exact hw.functionId ref (hw.current ref href)
      have hframe := hkeeps hmodified
      rw [exitBlock_of_current _ (hframe.2.current.trans href)]
      refine KeepsFrame.around href (block.functionId_enter _) hkeeps ?_ ?_
        (block.functionId_exit _ _) hw
      · intro hframe'
        apply block.settings_exit
        rw [hframe'.settings ref href, World.modify_self]
      · intro hframe' hstrict
        apply block.authentication_exit
        rw [hframe'.authentication hstrict ref href, World.modify_self]

end Blocks

/-! ## Spans -/

section Spans

variable {process : Process} {w w' : World} {ref : ℕ}

theorem contextSpans_of_settings {ctx ctx' : Context} (h : ctx.settings = ctx'.settings) :
    ctx.contextSpans = ctx'.contextSpans := by
  rw [settings_eq_iff] at h
  rw [h]

theorem startSpan_settings_congr {ctx ctx' : Context} {name : String}
    (h : ctx.settings = (ctx'.startSpan process name).settings) :
    ctx.settings =
      { ctx'.settings with contextSpans := (ctx'.startSpan process name).contextSpans } := by
  rw [h]
  unfold Context.startSpan
  split <;> rfl

theorem contextSpans_startSpan (ctx : Context) (name : String) :
    (ctx.startSpan process name).contextSpans =
      if process.disableOtlp then ctx.contextSpans else name :: ctx.contextSpans := by
  unfold Context.startSpan
  split <;> rfl

theorem authentication_startSpan (ctx : Context) (name : String) :
    (ctx.startSpan process name).authentication = ctx.authentication := by
  unfold Context.startSpan
  split <;> rfl

/-- The span that a context has started is there to be ended. -/
theorem endSpan_of_contextSpans {ctx : Context} {spans : List String} {name : String}
    (h : ctx.contextSpans = if process.disableOtlp then spans else name :: spans) :
    ctx.endSpan process = .ok { ctx with contextSpans := spans } := by
  unfold Context.endSpan
  by_cases hdisabled : process.disableOtlp = true
  · rw [if_pos hdisabled] at h
    rw [if_pos hdisabled, ← h]
  · rw [if_neg hdisabled] at h
    rw [if_neg hdisabled, h]

/-- A handler leaves the frame. -/
theorem keeps_handler {name : String} {body : ContextCode Unit}
    (hbody : Code.Keeps (KeepsFrame strict) body) :
    Code.Keeps (KeepsFrame strict)
      (Code.managed (enterHandler process name) (exitHandler process) fun _ ↦ body) := by
  apply Code.Keeps.managed fun _ ↦ hbody
  · intro w w' error henter
    unfold enterHandler at henter
    cases hcurrent : w.current <;> simp [hcurrent] at henter
  · intro w w' w'' created henter hkeeps hw
    unfold enterHandler at henter
    cases hcurrent : w.current with
    | none =>
      rw [hcurrent] at henter
      simp only [Prod.mk.injEq, Except.ok.injEq] at henter
      obtain ⟨rfl, rfl⟩ := henter
      have hid : -1 ≤ (({} : Context).startSpan process name).functionId := by
        unfold Context.startSpan
        split <;> simp
      have henters := enters_created hw hcurrent hid
      have hframe := hkeeps henters.wellFormed
      have hhere : w''.current = some w.allocated := hframe.2.current.trans henters.current
      have hspans : (w''.contexts w.allocated).contextSpans =
          (({} : Context).startSpan process name).contextSpans := by
        have hsame := contextSpans_of_settings (hframe.2.settings _ henters.current)
        exact hsame.trans (by simp [World.setCurrent, World.allocate])
      have hleave := henters.leave strict hw hkeeps
        { w''.contexts w.allocated with contextSpans := [] }
        (hframe.1.functionId _ (hframe.1.current _ hhere))
      rw [hcurrent] at hleave
      unfold exitHandler
      rw [Code.andThen_of_ok (assertCurrentContext_of_current hhere),
        Code.andThen_of_ok (tryChangeContext_of_ok (endSpan_of_contextSpans
          (hspans.trans (contextSpans_startSpan _ _))))]
      exact hleave
    | some ref =>
      rw [hcurrent] at henter
      simp only [Prod.mk.injEq, Except.ok.injEq] at henter
      obtain ⟨rfl, rfl⟩ := henter
      have hid : ((w.contexts ref).startSpan process name).functionId =
          (w.contexts ref).functionId := by
        unfold Context.startSpan
        split <;> rfl
      have hmodified : (w.modify ref ((w.contexts ref).startSpan process name)).WellFormed := by
        apply hw.modify ref
        rw [hid]
        exact hw.functionId ref (hw.current ref hcurrent)
      have hframe := hkeeps hmodified
      have hhere : w''.current = some ref := hframe.2.current.trans hcurrent
      have hsettings : (w''.contexts ref).settings =
          ((w.contexts ref).startSpan process name).settings := by
        rw [hframe.2.settings ref hcurrent, World.modify_self]
      have hspans : (w''.contexts ref).contextSpans =
          ((w.contexts ref).startSpan process name).contextSpans :=
        contextSpans_of_settings hsettings
      unfold exitHandler
      rw [Code.andThen_of_ok (assertCurrentContext_of_current hhere),
        Code.andThen_of_ok (tryChangeContext_of_ok (endSpan_of_contextSpans
          (hspans.trans (contextSpans_startSpan _ _))))]
      refine KeepsFrame.around hcurrent hid hkeeps ?_ ?_ rfl hw
      · intro _
        have := startSpan_settings_congr hsettings
        exact congrArg (fun ctx : Context ↦
          { ctx with contextSpans := (w.contexts ref).contextSpans }) this
      · intro hframe' hstrict
        have hsame := hframe'.authentication hstrict ref hcurrent
        rw [World.modify_self, authentication_startSpan] at hsame
        exact hsame

end Spans

/-! ## Roles -/

/-- The context after `DBOSAssumeRole`. -/
def Context.assuming (self : Context) (role : Option String) : Context :=
  if role.isSome then { self with assumedRole := role } else self

section Roles

variable {w w' : World} {ref : ℕ} {func : Function} {role : Option String}

theorem World.modify_contexts (w : World) (ref : ℕ) : w.modify ref (w.contexts ref) = w := by
  simp [World.modify]

theorem enterAssumeRole_of_current (h : w.current = some ref) :
    enterAssumeRole role w =
      (.ok (w.contexts ref).assumedRole, w.modify ref ((w.contexts ref).assuming role)) := by
  unfold enterAssumeRole
  rw [Code.andThen_of_ok (assertCurrentContext_of_current h)]
  unfold Context.assuming
  cases role with
  | none => simp [World.modify_contexts]
  | some role => rfl

theorem exitAssumeRole_of_current {priorRole : Option String} (h : w.current = some ref)
    (hrole : role = none ∨ (w.contexts ref).assumedRole = role) :
    exitAssumeRole role priorRole w =
      (.ok (), w.modify ref { w.contexts ref with assumedRole := priorRole }) := by
  have hassert : (role.isNone || (w.contexts ref).assumedRole == role) = true := by
    rcases hrole with rfl | hrole
    · rfl
    · simp [hrole]
  unfold exitAssumeRole
  rw [Code.andThen_of_ok (assertCurrentContext_of_current h),
    Code.andThen_of_ok (assertContext_of hassert)]
  rfl

theorem functionId_assuming (ctx : Context) : (ctx.assuming role).functionId = ctx.functionId := by
  unfold Context.assuming
  split <;> rfl

theorem authentication_assuming (ctx : Context) :
    (ctx.assuming role).authentication = ctx.authentication := by
  unfold Context.assuming
  split <;> rfl

/-- Inside the block the role is assumed, if there is one. -/
theorem assumedRole_assuming (ctx : Context) :
    role = none ∨ (ctx.assuming role).assumedRole = role := by
  cases role with
  | none => exact .inl rfl
  | some role => exact .inr rfl

theorem assumedRole_of_settings {ctx ctx' : Context} (h : ctx.settings = ctx'.settings) :
    ctx.assumedRole = ctx'.assumedRole := by
  rw [settings_eq_iff] at h
  rw [h]

theorem settings_assuming_restore {ctx before : Context}
    (h : ctx.settings = (before.assuming role).settings) :
    ({ ctx with assumedRole := before.assumedRole } : Context).settings = before.settings := by
  rw [settings_eq_iff] at h
  rw [h]
  unfold Context.assuming
  split <;> rfl

/-- A role is assumed for a body only. -/
theorem assumeRole_spec {body : ContextCode Unit} (href : w.current = some ref)
    (hbody : KeepsFrame strict (w.modify ref ((w.contexts ref).assuming role))
      (body (w.modify ref ((w.contexts ref).assuming role))).2) (hw : w.WellFormed) :
    let after := (Code.managed (enterAssumeRole role) (exitAssumeRole role) (fun _ ↦ body) w).2
    (after.WellFormed ∧ Frame strict w after) ∧
      (after.contexts ref).functionId =
        ((body (w.modify ref ((w.contexts ref).assuming role))).2.contexts ref).functionId := by
  have hmodified : (w.modify ref ((w.contexts ref).assuming role)).WellFormed := by
    apply hw.modify ref
    rw [functionId_assuming]
    exact hw.functionId ref (hw.current ref href)
  have hframe := hbody hmodified
  have hsettings := hframe.2.settings ref href
  rw [World.modify_self] at hsettings
  have hrole : role = none ∨ ((body (w.modify ref
      ((w.contexts ref).assuming role))).2.contexts ref).assumedRole = role := by
    rw [assumedRole_of_settings hsettings]
    exact assumedRole_assuming (w.contexts ref)
  rw [Code.managed_of_exit (enterAssumeRole_of_current href)
    (exitAssumeRole_of_current (hframe.2.current.trans href) hrole)]
  refine ⟨KeepsFrame.around href (functionId_assuming _) hbody
    (fun _ ↦ settings_assuming_restore hsettings) ?_ rfl hw, ?_⟩
  · intro hframe' hstrict
    have hsame := hframe'.authentication hstrict ref href
    rw [World.modify_self, authentication_assuming] at hsame
    exact hsame
  · rw [World.modify_self]

theorem keepsFrame_assumeRole {body : ContextCode Unit} (href : w.current = some ref)
    (hbody : KeepsFrame strict (w.modify ref ((w.contexts ref).assuming role))
      (body (w.modify ref ((w.contexts ref).assuming role))).2) :
    KeepsFrame strict w
      (Code.managed (enterAssumeRole role) (exitAssumeRole role) (fun _ ↦ body) w).2 :=
  fun hw ↦ (assumeRole_spec href hbody hw).1

theorem assumeRole_of_none {body : ContextCode Unit} (h : w.current = none) :
    (Code.managed (enterAssumeRole role) (exitAssumeRole role) (fun _ ↦ body) w).2 = w := by
  have henter : enterAssumeRole role w =
      (.error (.assertionError "No DBOS context found"), w) := by
    simp [enterAssumeRole, Code.andThen, assertCurrentContext, h]
  rw [Code.managed_of_error henter]

/-- The role check changes nothing. -/
theorem checkRequiredRoles_snd (func : Function) (w : World) :
    (checkRequiredRoles func w).2 = w := by
  unfold checkRequiredRoles
  split
  · rfl
  · split
    · rfl
    · split <;> rfl

theorem checkRequiredRoles_cases (func : Function) (w : World) :
    (∃ error, checkRequiredRoles func w = (.error error, w)) ∨
      ∃ role, checkRequiredRoles func w = (.ok role, w) := by
  have hsame := checkRequiredRoles_snd func w
  cases hcheck : checkRequiredRoles func w with
  | mk outcome w' =>
    obtain rfl : w' = w := by rw [hcheck] at hsame; exact hsame
    cases outcome with
    | error error => exact Or.inl ⟨error, rfl⟩
    | ok role => exact Or.inr ⟨role, rfl⟩

/-- A role that is granted is required, and the user of the current context has it. -/
theorem checkRequiredRoles_granted (h : checkRequiredRoles func w = (.ok role, w'))
    (hrequired : func.required ≠ []) :
    ∃ granted ∈ func.required, role = some granted ∧
      ∃ roles, w.context.bind Context.authenticatedRoles = some roles ∧ granted ∈ roles := by
  unfold checkRequiredRoles at h
  rw [if_neg hrequired] at h
  cases hroles : w.context.bind Context.authenticatedRoles with
  | none => simp [hroles] at h
  | some roles =>
    rw [hroles] at h
    cases hfind : func.required.find? (· ∈ roles) with
    | none => simp [hfind] at h
    | some granted =>
      simp only [hfind] at h
      have hmem := List.mem_of_find?_eq_some hfind
      have hin : granted ∈ roles := by simpa using List.find?_some hfind
      exact ⟨granted, hmem, (Except.ok.inj (Prod.mk.inj h).1).symm, roles, rfl, hin⟩

/-- The context that assumes the granted role is authorized. -/
theorem authorized_assuming {ctx : Context} (h : checkRequiredRoles func w = (.ok role, w'))
    (hroles : ctx.authenticatedRoles = w.context.bind Context.authenticatedRoles)
    (hrequired : func.required ≠ []) : (ctx.assuming role).Authorized func.required := by
  obtain ⟨granted, hmem, rfl, roles, hbind, hin⟩ := checkRequiredRoles_granted h hrequired
  exact ⟨granted, hmem, rfl, roles, hroles.trans hbind, hin⟩

/-- A body that runs in a context that may be seen. -/
theorem keepsFrame_entering {kind : CallKind} {body : ContextCode Unit}
    (hbody : Code.Keeps (KeepsFrame strict) body)
    (hallowed : (Event.entered kind func.required w.context).Allowed) :
    KeepsFrame strict w (entering kind func body w).2 := by
  have hemit : (Code.update fun w : World ↦ w.emit (.entered kind func.required w.context)) w =
      (Except.ok (ε := ContextError) (), w.emit (.entered kind func.required w.context)) := rfl
  unfold entering
  rw [Code.andThen_of_ok hemit]
  exact (keepsFrame_emit hallowed).trans (hbody _)

theorem keepsFrame_finishing {finished : Except ContextError Unit → Except ContextError Unit}
    {body : ContextCode Unit} (h : KeepsFrame strict w (body w).2) :
    KeepsFrame strict w (finishing finished body w).2 :=
  h

variable (strict role) in
/-- A role that is put back at once. -/
theorem keeps_assumeRole_ret :
    Code.Keeps (KeepsFrame strict)
      (Code.managed (enterAssumeRole role) (exitAssumeRole role) fun _ ↦ .ret ()) := by
  intro w
  cases hcurrent : w.current with
  | none =>
    rw [assumeRole_of_none hcurrent]
    exact Std.Refl.refl w
  | some ref => exact keepsFrame_assumeRole hcurrent (Std.Refl.refl _)

theorem allowed_coroutine {required : List String} {context : Option Context} :
    (Event.entered .coroutine required context).Allowed :=
  ⟨fun _ _ hkind ↦ absurd rfl hkind, nofun, nofun⟩

/-- A decorated function. -/
theorem keeps_callDecorated {isAsync : Bool} {body : ContextCode Unit}
    (hbody : Code.Keeps (KeepsFrame strict) body) :
    Code.Keeps (KeepsFrame strict) (callDecorated func isAsync body) := by
  intro w
  unfold callDecorated
  rcases checkRequiredRoles_cases func w with ⟨error, hcheck⟩ | ⟨role, hcheck⟩
  · rw [Code.andThen_of_error hcheck]
    exact Std.Refl.refl w
  · rw [Code.andThen_of_ok hcheck]
    cases isAsync with
    | true =>
      exact (keeps_assumeRole_ret strict role).andThen
        (fun _ inside ↦ keepsFrame_entering hbody allowed_coroutine) w
    | false =>
      simp only [Bool.false_eq_true, if_false]
      cases hcurrent : w.current with
      | none =>
        rw [assumeRole_of_none hcurrent]
        exact Std.Refl.refl w
      | some ref =>
        apply keepsFrame_assumeRole hcurrent
        apply keepsFrame_entering hbody
        rw [World.context_modify _ hcurrent]
        refine ⟨fun hrequired _ _ ↦ ⟨_, rfl, authorized_assuming hcheck ?_ hrequired⟩, nofun,
          nofun⟩
        simp [World.context, hcurrent]

end Roles

/-! ## Steps -/

section Steps

variable {process : Process} {w w' w'' : World} {ref child : ℕ}

/-- A context that was made and given IDs since the start of a part of a run is entered. -/
theorem Enters.of_frame (hw : w'.WellFormed) (hframe : Frame true w w') {events : List Event}
    (hevents : w'.events = events ++ w.events)
    (hquiet : ∀ ref, w.allocated ≤ ref → idsOf ref events = []) (hfresh : w.allocated ≤ child)
    (hlt : child < w'.allocated) (hcurrent : ∀ ref, w.current = some ref → ref < w.allocated)
    {ctx : Context} (hid : -1 ≤ ctx.functionId) :
    Enters w ((w'.modify child ctx).setCurrent (some child)) child where
  wellFormed := by
    refine ⟨?_, (hw.modify child hid).functionId⟩
    intro ref href
    rwa [← Option.some.inj href]
  current := rfl
  fresh := hfresh
  allocated := hframe.allocated
  others ref hlt' hne :=
    (World.modify_of_ne _ _ (by omega)).trans (hframe.others ref hlt' hne)
  settings ref href := by
    have := hcurrent ref href
    exact (congrArg Context.settings (World.modify_of_ne _ _ (by omega))).trans
      (hframe.settings ref href)
  authentication ref href := by
    have := hcurrent ref href
    exact (congrArg Context.authentication (World.modify_of_ne _ _ (by omega))).trans
      (hframe.authentication rfl ref href)
  functionId ref href := by
    have := hcurrent ref href
    exact (hframe.functionId ref href).trans_eq
      (congrArg Context.functionId (World.modify_of_ne w' ctx (by omega))).symm
  trace := by
    obtain ⟨events', htrace⟩ := hframe.trace
    obtain rfl : events' = events :=
      List.append_cancel_right (htrace.append.symm.trans hevents)
    refine ⟨events', ⟨htrace.append, htrace.allowed, ?_, ?_, ?_⟩, hquiet⟩
    · intro ref hlt'
      rw [htrace.assigned ref hlt']
      exact congrArg (idsBetween _ <| Context.functionId ·)
        (World.modify_of_ne w' ctx (by omega)).symm
    · exact htrace.assigned_new
    · exact htrace.unallocated

/-- The world after a snapshot of the current context. -/
theorem snapshotStepCtx_snd (reserveSleepId : Bool) :
    (snapshotStepCtx ref reserveSleepId w).2 =
      let self := w.contexts ref
      let first := (w.modify ref self.nextFunctionId).emit (.assigned ref (self.functionId + 1))
      let given := if reserveSleepId then
          (first.modify ref self.nextFunctionId.nextFunctionId).emit
            (.assigned ref (self.functionId + 2))
        else first
      given.allocate self.snapshotStepCtx := by
  cases reserveSleepId with
  | false => rfl
  | true => simp [snapshotStepCtx, Context.afterSnapshotStepCtx, World.modify, World.emit,
      World.allocate]

variable (strict) in
theorem keepsFrame_snapshotStepCtx (href : w.current = some ref) (reserveSleepId : Bool) :
    KeepsFrame strict w (snapshotStepCtx ref reserveSleepId w).2 := by
  rw [snapshotStepCtx_snd]
  intro hw
  have hbound := hw.functionId ref (hw.current ref href)
  have hfirst := keepsFrame_assign strict (w.contexts ref).nextFunctionId href rfl rfl rfl
  have hsnapshot : -1 ≤ (w.contexts ref).snapshotStepCtx.functionId := by
    simp only [Context.snapshotStepCtx]
    omega
  cases reserveSleepId with
  | false => exact hfirst.trans (keepsFrame_allocate strict _ _ hsnapshot) hw
  | true =>
    have hself : ((w.modify ref (w.contexts ref).nextFunctionId).emit
        (.assigned ref ((w.contexts ref).functionId + 1))).contexts ref =
          (w.contexts ref).nextFunctionId := World.modify_self _ _ _
    have hcurrent : ((w.modify ref (w.contexts ref).nextFunctionId).emit
        (.assigned ref ((w.contexts ref).functionId + 1))).current = some ref := href
    have hsecond := keepsFrame_assign strict (w.contexts ref).nextFunctionId.nextFunctionId hcurrent
      (by rw [hself]; rfl) (by rw [hself]; rfl) (by rw [hself]; rfl)
    rw [hself, show (w.contexts ref).nextFunctionId.functionId + 1 =
      (w.contexts ref).functionId + 2 from by simp only [Context.nextFunctionId]; omega] at hsecond
    exact (hfirst.trans hsecond).trans (keepsFrame_allocate strict _ _ hsnapshot) hw

/-- A snapshot gives IDs of the current context only. -/
theorem events_snapshotStepCtx (w : World) (ref : ℕ) (reserveSleepId : Bool) :
    ∃ events, (snapshotStepCtx ref reserveSleepId w).2.events = events ++ w.events ∧
      ∀ ref', ref' ≠ ref → idsOf ref' events = [] := by
  cases reserveSleepId with
  | false =>
    refine ⟨[.assigned ref ((w.contexts ref).functionId + 1)], rfl, ?_⟩
    intro ref' hne
    rw [idsOf_assigned, if_neg (Ne.symm hne), idsOf_nil]
  | true =>
    refine ⟨[.assigned ref ((w.contexts ref).functionId + 2),
      .assigned ref ((w.contexts ref).functionId + 1)], rfl, ?_⟩
    intro ref' hne
    rw [idsOf_assigned, if_neg (Ne.symm hne), idsOf_assigned, if_neg (Ne.symm hne), idsOf_nil]

/-- The step context of a snapshot. -/
theorem snapshotStepCtx_self (w : World) (ref : ℕ) (reserveSleepId : Bool) :
    (snapshotStepCtx ref reserveSleepId w).2.contexts w.allocated =
        (w.contexts ref).snapshotStepCtx ∧
      (snapshotStepCtx ref reserveSleepId w).2.allocated = w.allocated + 1 := by
  rw [snapshotStepCtx_snd]
  cases reserveSleepId with
  | false => simp [World.allocate, World.emit, World.modify]
  | true => simp [World.allocate, World.emit, World.modify]

theorem snapshotStepCtx_current (reserveSleepId : Bool) (hlt : ref < w.allocated) :
    (snapshotStepCtx ref reserveSleepId w).2.contexts ref =
      (w.contexts ref).afterSnapshotStepCtx reserveSleepId := by
  have hne : ref ≠ w.allocated := hlt.ne
  rw [snapshotStepCtx_snd]
  cases reserveSleepId with
  | false =>
    simp [World.allocate, World.emit, World.modify, hne, Context.afterSnapshotStepCtx]
  | true =>
    simp [World.allocate, World.emit, World.modify, hne, Context.afterSnapshotStepCtx]

theorem isWorkflow_of_settings {ctx ctx' : Context} (h : ctx.settings = ctx'.settings) :
    ctx.isWorkflow = ctx'.isWorkflow := by
  rw [settings_eq_iff] at h
  rw [h]
  rfl

theorem functionId_startSpan (ctx : Context) (name : String) :
    (ctx.startSpan process name).functionId = ctx.functionId := by
  unfold Context.startSpan
  split <;> rfl

theorem currStepFunctionId_startSpan (ctx : Context) (name : String) :
    (ctx.startSpan process name).currStepFunctionId = ctx.currStepFunctionId := by
  unfold Context.startSpan
  split <;> rfl

theorem currStepFunctionId_of_settings {ctx ctx' : Context} (h : ctx.settings = ctx'.settings) :
    ctx.currStepFunctionId = ctx'.currStepFunctionId := by
  rw [settings_eq_iff] at h
  rw [h]

theorem enterStep_of_current (process : Process) (name : String) (child : ℕ)
    (h : w.current = some ref) (hworkflow : (w.contexts ref).isWorkflow = true) :
    enterStep process name child w = (.ok ref, (w.modify child ((w.contexts child).startStep
      process (w.contexts child).functionId name)).setCurrent (some child)) := by
  unfold enterStep
  rw [Code.andThen_of_ok (assertCurrentContext_of_current h),
    Code.andThen_of_ok (assertContext_of hworkflow)]

theorem endStep_of_settings {ctx before : Context} {fid : ℤ} {name : String}
    (h : ctx.settings = (before.startStep process fid name).settings) :
    ctx.endStep process = .ok
      { ctx with
        currStepFunctionId := -1
        stepStatus := none
        contextSpans := before.contextSpans } := by
  have hspans := (contextSpans_of_settings h).trans (contextSpans_startSpan _ _)
  have hend : ({ ctx with currStepFunctionId := -1, stepStatus := none } : Context).contextSpans =
      if process.disableOtlp then before.contextSpans else name :: before.contextSpans := hspans
  unfold Context.endStep
  exact endSpan_of_contextSpans hend

/-- Leaving a step whose context has the settings with which the step has started. -/
theorem exitStep_of_settings {before : Context} {fid : ℤ} {name : String}
    (h : w.current = some child) (hfid : 0 ≤ fid)
    (hsettings : (w.contexts child).settings = (before.startStep process fid name).settings) :
    exitStep process ref w = (.ok (), (w.modify child
      { w.contexts child with
        currStepFunctionId := -1
        stepStatus := none
        contextSpans := before.contextSpans }).setCurrent (some ref)) := by
  have hstep : (w.contexts child).isStep = true := by
    unfold Context.isStep
    rw [currStepFunctionId_of_settings hsettings]
    unfold Context.startStep
    rw [currStepFunctionId_startSpan]
    simpa using hfid
  unfold exitStep
  rw [Code.andThen_of_ok (assertCurrentContext_of_current h),
    Code.andThen_of_ok (assertContext_of hstep),
    Code.andThen_of_ok (tryChangeContext_of_ok (endStep_of_settings hsettings))]
  rfl

variable (strict) in
/-- A block with the snapshot of the current context as its step context; whatever happens in it,
the current context has given the IDs of the snapshot. -/
theorem stepBlock_spec (process : Process) (name : String) (reserveSleepId : Bool)
    {body : ContextCode Unit} (href : w.current = some ref) (hworkflow : (w.contexts ref).isWorkflow = true)
    (hbody : ∀ w', w'.context =
        some ((w.contexts ref).snapshotStepCtx.startStep process ((w.contexts ref).functionId + 1)
          name) → KeepsFrame strict' w' (body w').2) (hw : w.WellFormed) :
    let w' := (((snapshotStepCtx ref reserveSleepId).andThen fun stepCtx ↦
      Code.managed (enterStep process name stepCtx) (exitStep process) fun _ ↦ body) w).2
    (w'.WellFormed ∧ Frame strict w w') ∧
      w'.contexts ref = (w.contexts ref).afterSnapshotStepCtx reserveSleepId := by
  have hlt := hw.current ref href
  have hbound := hw.functionId ref hlt
  have hsnapshot := keepsFrame_snapshotStepCtx true href reserveSleepId hw
  have hself := snapshotStepCtx_self w ref reserveSleepId
  have hgiven := snapshotStepCtx_current reserveSleepId hlt
  obtain ⟨events, hevents, hquiet⟩ := events_snapshotStepCtx w ref reserveSleepId
  have hcode : snapshotStepCtx ref reserveSleepId w =
      (.ok w.allocated, (snapshotStepCtx ref reserveSleepId w).2) := rfl
  rw [Code.andThen_of_ok hcode]
  generalize (snapshotStepCtx ref reserveSleepId w).2 = w' at hsnapshot hself hevents hgiven ⊢
  have henter := enterStep_of_current process name w.allocated
    (hsnapshot.2.current.trans href)
    ((isWorkflow_of_settings (hsnapshot.2.settings ref href)).trans hworkflow)
  rw [hself.1] at henter
  -- the step context, as the body finds it
  have hfid : (w.contexts ref).snapshotStepCtx.functionId = (w.contexts ref).functionId + 1 := rfl
  rw [hfid] at henter
  have hid : -1 ≤ ((w.contexts ref).snapshotStepCtx.startStep process
      ((w.contexts ref).functionId + 1) name).functionId := by
    unfold Context.startStep
    rw [functionId_startSpan]
    simp only [hfid]
    omega
  have henters : Enters w ((w'.modify w.allocated ((w.contexts ref).snapshotStepCtx.startStep
      process ((w.contexts ref).functionId + 1) name)).setCurrent (some w.allocated))
      w.allocated :=
    Enters.of_frame hsnapshot.1 hsnapshot.2 hevents (fun ref' hle ↦ hquiet ref' (by omega))
      le_rfl (by omega) hw.current hid
  have hstarted : ((w'.modify w.allocated ((w.contexts ref).snapshotStepCtx.startStep
      process ((w.contexts ref).functionId + 1) name)).setCurrent (some w.allocated)).contexts
        w.allocated = (w.contexts ref).snapshotStepCtx.startStep process
          ((w.contexts ref).functionId + 1) name := World.modify_self w' w.allocated _
  have hcaller : ((w'.modify w.allocated ((w.contexts ref).snapshotStepCtx.startStep
      process ((w.contexts ref).functionId + 1) name)).setCurrent (some w.allocated)).contexts
        ref = w'.contexts ref := World.modify_of_ne _ _ (by omega)
  generalize (w'.modify w.allocated ((w.contexts ref).snapshotStepCtx.startStep
      process ((w.contexts ref).functionId + 1) name)).setCurrent (some w.allocated) = inside
    at henter henters hstarted hcaller
  have hkeeps := hbody inside (by
    unfold World.context
    rw [henters.current, Option.map_some, hstarted])
  have hframe := hkeeps henters.wellFormed
  have hleft := hframe.2.current.trans henters.current
  have hsettings := hframe.2.settings _ henters.current
  rw [hstarted] at hsettings
  rw [Code.managed_of_exit henter (exitStep_of_settings hleft (by omega) hsettings), ← href]
  refine ⟨henters.leave strict hw hkeeps _ (hframe.1.functionId _ (hframe.1.current _ hleft)), ?_⟩
  refine (World.modify_of_ne _ _ (by omega)).trans ?_
  rw [henters.contexts_eq hframe.2 hlt, hcaller, hgiven]

end Steps

end DBOSModel.Core.Contexts

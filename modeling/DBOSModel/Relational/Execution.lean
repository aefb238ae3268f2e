import Mathlib.Data.List.Induction

/-!
# Runs of a labelled system

A system is a partial step function: an action that is not enabled in a state has no successor.
A run is a finite list of actions taken one after the other, so an interleaving of several
parties is one run of the system whose actions name the party. `Along` says that a condition
on a state and the action taken there holds at every step of a run; the invariant rules carry a
property of states, or of single steps, along a run that meets such a condition.
-/

namespace DBOSModel.Relational

/-- A labelled transition system given by its step function. -/
structure System (σ α : Type) where
  step : σ → α → Option σ

namespace System

variable {σ α : Type} (S : System σ α)

/-- The state after a run, if every action was enabled. -/
def run : σ → List α → Option σ
  | s, [] => some s
  | s, a :: rest => (S.step s a).bind fun s' ↦ run s' rest

/-- A condition on a state and the action taken there, at every step of a run. -/
def Along (G : σ → α → Prop) : σ → List α → Prop
  | _, [] => True
  | s, a :: rest => G s a ∧ ∀ s', S.step s a = some s' → Along G s' rest

/-- The system interleaved with steps of an environment, which are always enabled. -/
def interleave {β : Type} (env : β → σ → σ) : System σ (α ⊕ β) where
  step s
    | .inl a => S.step s a
    | .inr b => some (env b s)

/-- Some run leads from one state to the other. -/
def Reaches (s s' : σ) : Prop := ∃ actions, S.run s actions = some s'

@[simp]
theorem run_nil (s : σ) : S.run s [] = some s := rfl

@[simp]
theorem run_cons (s : σ) (a : α) (rest : List α) :
    S.run s (a :: rest) = (S.step s a).bind fun s' ↦ S.run s' rest := rfl

@[simp]
theorem along_nil (G : σ → α → Prop) (s : σ) : S.Along G s [] := trivial

@[simp]
theorem along_cons (G : σ → α → Prop) (s : σ) (a : α) (rest : List α) :
    S.Along G s (a :: rest) ↔ G s a ∧ ∀ s', S.step s a = some s' → S.Along G s' rest :=
  Iff.rfl

/-- A run can be checked against a decidable condition. -/
instance decidableAlong (G : σ → α → Prop) [∀ s a, Decidable (G s a)] :
    (s : σ) → (actions : List α) → Decidable (S.Along G s actions)
  | _, [] => isTrue trivial
  | s, a :: rest =>
    match h : S.step s a with
    | none => decidable_of_iff (G s a) (by simp [h])
    | some s' =>
      have := decidableAlong G s' rest
      decidable_of_iff (G s a ∧ S.Along G s' rest) (by simp [h])

theorem run_append (s : σ) (first second : List α) :
    S.run s (first ++ second) = (S.run s first).bind fun s' ↦ S.run s' second := by
  induction first generalizing s with
  | nil => rfl
  | cons a rest ih =>
    simp only [List.cons_append, run_cons]
    cases S.step s a with
    | none => rfl
    | some s' => exact ih s'

theorem along_append {G : σ → α → Prop} {s : σ} {first second : List α} :
    S.Along G s (first ++ second) ↔
      S.Along G s first ∧ ∀ s', S.run s first = some s' → S.Along G s' second := by
  induction first generalizing s with
  | nil => simp
  | cons a rest ih =>
    simp only [List.cons_append, along_cons, run_cons, ih]
    constructor
    · rintro ⟨ha, hrest⟩
      refine ⟨⟨ha, fun s' hs' ↦ (hrest s' hs').1⟩, ?_⟩
      intro s'' hrun
      rw [Option.bind_eq_some_iff] at hrun
      obtain ⟨s', hs', hs''⟩ := hrun
      exact (hrest s' hs').2 s'' hs''
    · rintro ⟨⟨ha, hfirst⟩, hsecond⟩
      refine ⟨ha, fun s' hs' ↦ ⟨hfirst s' hs', fun s'' hs'' ↦ hsecond s'' ?_⟩⟩
      rw [hs']
      exact hs''

/-- A condition holds along a run exactly if it holds at each of its steps. -/
theorem along_iff {G : σ → α → Prop} {s : σ} {actions : List α} :
    S.Along G s actions ↔
      ∀ before a after s', actions = before ++ a :: after → S.run s before = some s' → G s' a := by
  constructor
  · rintro h before a after s' rfl hrun
    exact ((S.along_append.mp h).2 s' hrun).1
  · intro h
    induction actions generalizing s with
    | nil => trivial
    | cons a rest ih =>
      refine ⟨h [] a rest s rfl rfl, fun middle hmiddle ↦ ih ?_⟩
      intro before b after s' heq hrun
      apply h (a :: before) b after s'
      · rw [heq, List.cons_append]
      · rw [run_cons, hmiddle]
        exact hrun

theorem along_and {G H : σ → α → Prop} {s : σ} {actions : List α} :
    S.Along (fun s a ↦ G s a ∧ H s a) s actions ↔ S.Along G s actions ∧ S.Along H s actions := by
  induction actions generalizing s with
  | nil => simp
  | cons a rest ih =>
    simp only [along_cons, ih]
    constructor
    · rintro ⟨⟨hG, hH⟩, hrest⟩
      exact ⟨⟨hG, fun s' hs' ↦ (hrest s' hs').1⟩, hH, fun s' hs' ↦ (hrest s' hs').2⟩
    · rintro ⟨⟨hG, hrestG⟩, hH, hrestH⟩
      exact ⟨⟨hG, hH⟩, fun s' hs' ↦ ⟨hrestG s' hs', hrestH s' hs'⟩⟩

/-- A condition on the actions alone, of a run that goes through. -/
theorem along_action_iff {P : α → Prop} {s s' : σ} {actions : List α}
    (hrun : S.run s actions = some s') :
    S.Along (fun _ a ↦ P a) s actions ↔ ∀ a ∈ actions, P a := by
  induction actions generalizing s with
  | nil => simp
  | cons a rest ih =>
    rw [run_cons, Option.bind_eq_some_iff] at hrun
    obtain ⟨middle, hmiddle, hrest⟩ := hrun
    rw [along_cons, List.forall_mem_cons, ← ih hrest]
    refine and_congr_right fun _ ↦ ⟨fun h ↦ h middle hmiddle, ?_⟩
    intro h next hnext
    rw [hmiddle] at hnext
    cases hnext
    exact h

/-- A property that every step meeting the condition keeps holds after every run that meets it. -/
theorem run_invariant {I : σ → Prop} {G : σ → α → Prop}
    (hstep : ∀ s a s', I s → G s a → S.step s a = some s' → I s') {s s' : σ}
    {actions : List α} (hs : I s) (hG : S.Along G s actions) (hrun : S.run s actions = some s') :
    I s' := by
  induction actions generalizing s with
  | nil =>
    cases hrun
    exact hs
  | cons a rest ih =>
    rw [run_cons, Option.bind_eq_some_iff] at hrun
    obtain ⟨middle, hmiddle, hrest⟩ := hrun
    exact ih (hstep s a middle hs hG.1 hmiddle) (hG.2 middle hmiddle) hrest

theorem along_of_forall {G : σ → α → Prop} (h : ∀ s a, G s a) (s : σ) (actions : List α) :
    S.Along G s actions := by
  induction actions generalizing s with
  | nil => trivial
  | cons a rest ih => exact ⟨h s a, fun s' _ ↦ ih s'⟩

/-- A condition on single steps that follows, wherever an invariant holds, from another one. -/
theorem along_of_invariant {I : σ → Prop} {G H : σ → α → Prop}
    (hstep : ∀ s a s', I s → G s a → S.step s a = some s' → I s')
    (hH : ∀ s a, I s → G s a → H s a) {s : σ} {actions : List α} (hs : I s)
    (hG : S.Along G s actions) : S.Along H s actions := by
  induction actions generalizing s with
  | nil => trivial
  | cons a rest ih =>
    refine ⟨hH s a hs hG.1, fun s' hs' ↦ ?_⟩
    exact ih (hstep s a s' hs hG.1 hs') (hG.2 s' hs')

/-- The rule for a property of the whole run so far. -/
theorem run_history {motive : List α → σ → Prop} {G : σ → α → Prop} {s s' : σ} {actions : List α}
    (hnil : motive [] s)
    (hstep : ∀ past a s₁ s₂, S.Along G s past → S.run s past = some s₁ → motive past s₁ → G s₁ a →
      S.step s₁ a = some s₂ → motive (past ++ [a]) s₂)
    (hG : S.Along G s actions) (hrun : S.run s actions = some s') : motive actions s' := by
  induction actions using List.reverseRecOn generalizing s' with
  | nil =>
    cases hrun
    exact hnil
  | append_singleton past a ih =>
    rw [run_append, Option.bind_eq_some_iff] at hrun
    obtain ⟨middle, hpast, hlast⟩ := hrun
    rw [run_cons, Option.bind_eq_some_iff] at hlast
    obtain ⟨after, hafter, hend⟩ := hlast
    cases hend
    obtain ⟨hGpast, hGlast⟩ := S.along_append.mp hG
    exact hstep past a middle _ hGpast hpast (ih hGpast hpast) (hGlast middle hpast).1 hafter

/-- The unconditional invariant rule. -/
theorem reaches_invariant {I : σ → Prop} (hstep : ∀ s a s', I s → S.step s a = some s' → I s')
    {s s' : σ} (hs : I s) (h : S.Reaches s s') : I s' := by
  obtain ⟨actions, hrun⟩ := h
  exact S.run_invariant (G := fun _ _ ↦ True) (fun s a s' hi _ ↦ hstep s a s' hi) hs
    (S.along_of_forall (fun _ _ ↦ trivial) s actions) hrun

/-- Refinement: every step of the concrete system is a step of the abstract one, or is not visible
there. -/
theorem reaches_of_refines {τ β : Type} {A : System τ β} (f : σ → τ)
    (hstep : ∀ s a s', S.step s a = some s' → f s' = f s ∨ ∃ b, A.step (f s) b = some (f s'))
    {s s' : σ} (h : S.Reaches s s') : A.Reaches (f s) (f s') := by
  obtain ⟨actions, hrun⟩ := h
  induction actions generalizing s with
  | nil =>
    cases hrun
    exact ⟨[], rfl⟩
  | cons a rest ih =>
    rw [run_cons, Option.bind_eq_some_iff] at hrun
    obtain ⟨middle, hmiddle, hrest⟩ := hrun
    obtain ⟨abstract, habstract⟩ := ih hrest
    rcases hstep s a middle hmiddle with hsame | ⟨b, hb⟩
    · rw [hsame] at habstract
      exact ⟨abstract, habstract⟩
    · refine ⟨b :: abstract, ?_⟩
      rw [run_cons, hb]
      exact habstract

/-- Progress: while a state is not final, some step that meets the condition lowers its rank. -/
theorem exists_run_of_rank (I final : σ → Prop) (G : σ → α → Prop) (rank : σ → ℕ)
    (hstep : ∀ s, I s → ¬ final s → ∃ a s', G s a ∧ S.step s a = some s' ∧ I s' ∧ rank s' < rank s)
    {s : σ} (hs : I s) :
    ∃ actions s', S.Along G s actions ∧ S.run s actions = some s' ∧ I s' ∧ final s' := by
  induction hrank : rank s using Nat.strongRecOn generalizing s with
  | ind n ih =>
    by_cases hfinal : final s
    · exact ⟨[], s, trivial, rfl, hs, hfinal⟩
    · obtain ⟨a, next, hG, hnext, hI, hlt⟩ := hstep s hs hfinal
      obtain ⟨rest, last, hrest, hrun, hlast⟩ := ih (rank next) (hrank ▸ hlt) hI rfl
      refine ⟨a :: rest, last, ⟨hG, fun s' hs' ↦ ?_⟩, ?_, hlast⟩
      · rw [hnext] at hs'
        cases hs'
        exact hrest
      · rw [run_cons, hnext]
        exact hrun

end System

end DBOSModel.Relational

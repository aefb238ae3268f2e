import DBOSModel.Relational.Execution

/-!
# Autonomous systems

An autonomous system decides alone what it does next: `next` gives one output and one successor,
or ends. Its outputs can be computed with fuel (`emitted`), and a list of outputs is one that it
can make exactly if it is a run of `emitter next`, so that a concurrent system can be shown to
follow an autonomous one step by step. All runs are then prefixes of one list.
-/

namespace DBOSModel.Relational

variable {σ β : Type} (next : σ → Option (β × σ))

/-- The outputs of at most `fuel` steps. -/
def emitted : ℕ → σ → List β
  | 0, _ => []
  | fuel + 1, s =>
    match next s with
    | none => []
    | some (output, s') => output :: emitted fuel s'

/-- The runs of an autonomous system, each action an output. -/
def emitter [DecidableEq β] : System σ β where
  step s output := (next s).bind fun e ↦ if e.1 = output then some e.2 else none

variable [DecidableEq β] {next} {s s' : σ}

theorem emitter_step {output : β} :
    (emitter next).step s output = some s' ↔ next s = some (output, s') := by
  simp only [emitter, Option.bind_eq_some_iff, Option.ite_none_right_eq_some, Option.some.injEq]
  constructor
  · rintro ⟨e, hnext, rfl, rfl⟩
    exact hnext
  · intro hnext
    exact ⟨(output, s'), hnext, rfl, rfl⟩

theorem emitted_succ {output : β} {fuel : ℕ} (hstep : (emitter next).step s output = some s') :
    emitted next (fuel + 1) s = output :: emitted next fuel s' := by
  rw [emitted, emitter_step.mp hstep]

/-- Every run is a prefix of the outputs. -/
theorem prefix_emitted {outputs : List β} {fuel : ℕ}
    (hrun : (emitter next).run s outputs = some s') (hfuel : outputs.length ≤ fuel) :
    outputs <+: emitted next fuel s := by
  induction outputs generalizing s fuel with
  | nil => exact List.nil_prefix
  | cons output rest ih =>
    rw [System.run_cons, Option.bind_eq_some_iff] at hrun
    obtain ⟨middle, hmiddle, hrest⟩ := hrun
    cases fuel with
    | zero => simp at hfuel
    | succ fuel =>
      rw [emitted_succ hmiddle, List.cons_prefix_cons]
      exact ⟨rfl, ih hrest (Nat.le_of_succ_le_succ hfuel)⟩

/-- A run to the end is all of the outputs. -/
theorem emitted_eq {outputs : List β} {fuel : ℕ} (hrun : (emitter next).run s outputs = some s')
    (hend : next s' = none) (hfuel : outputs.length ≤ fuel) : emitted next fuel s = outputs := by
  induction outputs generalizing s fuel with
  | nil =>
    cases hrun
    cases fuel with
    | zero => rfl
    | succ fuel => rw [emitted, hend]
  | cons output rest ih =>
    rw [System.run_cons, Option.bind_eq_some_iff] at hrun
    obtain ⟨middle, hmiddle, hrest⟩ := hrun
    cases fuel with
    | zero => simp at hfuel
    | succ fuel =>
      rw [emitted_succ hmiddle, ih hrest (Nat.le_of_succ_le_succ hfuel)]

/-- A rank that every step lowers bounds the length of every run. -/
theorem length_add_rank_le (rank : σ → ℕ)
    (hrank : ∀ s output s', next s = some (output, s') → rank s' < rank s) {outputs : List β}
    (hrun : (emitter next).run s outputs = some s') : outputs.length + rank s' ≤ rank s := by
  induction outputs generalizing s with
  | nil =>
    cases hrun
    simp
  | cons output rest ih =>
    rw [System.run_cons, Option.bind_eq_some_iff] at hrun
    obtain ⟨middle, hmiddle, hrest⟩ := hrun
    have hlt := hrank s output middle (emitter_step.mp hmiddle)
    have hle := ih hrest
    rw [List.length_cons]
    omega

end DBOSModel.Relational

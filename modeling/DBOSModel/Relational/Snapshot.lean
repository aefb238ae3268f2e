import DBOSModel.Relational.Execution

/-!
# Transactions on snapshots

Transactions under snapshot isolation with row locks, in the form a REPEATABLE READ transaction
has when it selects rows `FOR UPDATE NOWAIT` and then updates some of them. A transaction reads the
state it began in. It locks the selected rows, which fails when a row is locked by another
transaction or was changed since the snapshot. It commits only when no row it writes was changed
since the snapshot, and its writes then go to the current rows. Single statements run in between as
atomic steps; one that would change a locked row is not enabled until the lock is gone.
-/

namespace DBOSModel.Relational

/-- What the transactions of a snapshot system read, lock and write. -/
structure SnapshotSpec (ω α σ κ ρ : Type) where
  /-- The row with a key. -/
  get : σ → κ → Option ρ
  /-- The atomic statements that may run, and their effect. -/
  admits : α → Bool
  apply : α → σ → σ
  /-- The transactions that may begin. -/
  starts : ω → Bool
  /-- The keys a transaction locks and the keys it writes, computed from its snapshot. -/
  selects : ω → σ → List κ
  writes : ω → σ → List κ
  /-- The committed state: the work, its snapshot and the current state. -/
  publish : ω → σ → σ → σ

structure InFlight (ω σ : Type) where
  work : ω
  snapshot : σ
  locked : Bool

structure SnapshotState (ι ω σ : Type) where
  current : σ
  inFlight : List (ι × InFlight ω σ)

inductive SnapshotAction (ι ω α : Type) where
  | apply (statement : α)
  | start (worker : ι) (work : ω)
  | lock (worker : ι)
  | commit (worker : ι)
  | abort (worker : ι)

variable {ι ω α σ κ ρ : Type} [DecidableEq ι] [DecidableEq κ] [DecidableEq ρ]

namespace SnapshotState

/-- The transaction of a worker. -/
def transaction (s : SnapshotState ι ω σ) (worker : ι) : Option (InFlight ω σ) :=
  (s.inFlight.find? fun entry ↦ entry.1 = worker).map Prod.snd

omit [DecidableEq κ] [DecidableEq ρ] in
theorem transaction_mem {s : SnapshotState ι ω σ} {worker : ι} {t : InFlight ω σ}
    (h : s.transaction worker = some t) : (worker, t) ∈ s.inFlight := by
  rw [transaction, Option.map_eq_some_iff] at h
  obtain ⟨entry, hfind, rfl⟩ := h
  have hworker : entry.1 = worker := by simpa using List.find?_some hfind
  rw [← hworker]
  exact List.mem_of_find?_eq_some hfind

/-- The keys locked by the transactions for which `p` holds. -/
def lockedKeys (spec : SnapshotSpec ω α σ κ ρ) (p : ι → Bool) (s : SnapshotState ι ω σ) : List κ :=
  s.inFlight.flatMap fun entry ↦
    if p entry.1 && entry.2.locked then spec.selects entry.2.work entry.2.snapshot else []

def finish (s : SnapshotState ι ω σ) (worker : ι) (current : σ) : SnapshotState ι ω σ where
  current := current
  inFlight := s.inFlight.filter fun entry ↦ entry.1 ≠ worker

def markLocked (s : SnapshotState ι ω σ) (worker : ι) : SnapshotState ι ω σ :=
  { s with
    inFlight := s.inFlight.map fun entry ↦
      if entry.1 = worker then (entry.1, { entry.2 with locked := true }) else entry }

end SnapshotState

/-- The interleaving of any number of workers. -/
def snapshotSystem (spec : SnapshotSpec ω α σ κ ρ) :
    System (SnapshotState ι ω σ) (SnapshotAction ι ω α) where
  step s
    | .apply statement =>
      if spec.admits statement ∧
          ∀ k ∈ s.lockedKeys spec (fun _ ↦ true),
            spec.get (spec.apply statement s.current) k = spec.get s.current k then
        some { s with current := spec.apply statement s.current }
      else none
    | .start worker work =>
      if spec.starts work ∧ (s.transaction worker).isNone then
        some { s with inFlight := s.inFlight ++ [(worker, ⟨work, s.current, false⟩)] }
      else none
    | .lock worker =>
      match s.transaction worker with
      | none => none
      | some t =>
        -- NOWAIT: no waiting for another lock; and no lock on a row changed since the snapshot
        if ∀ k ∈ spec.selects t.work t.snapshot,
            spec.get s.current k = spec.get t.snapshot k ∧
              k ∉ s.lockedKeys spec (fun other ↦ other ≠ worker) then
          some (s.markLocked worker)
        else none
    | .commit worker =>
      match s.transaction worker with
      | none => none
      | some t =>
        if t.locked ∧
            ∀ k ∈ spec.writes t.work t.snapshot,
              spec.get s.current k = spec.get t.snapshot k then
          some (s.finish worker (spec.publish t.work t.snapshot s.current))
        else none
    | .abort worker => some (s.finish worker s.current)

/-- What one step can do. -/
theorem snapshotSystem_step {spec : SnapshotSpec ω α σ κ ρ} {s s' : SnapshotState ι ω σ}
    {a : SnapshotAction ι ω α} (h : (snapshotSystem spec).step s a = some s') :
    (∃ statement, a = .apply statement ∧ spec.admits statement ∧
      s' = { s with current := spec.apply statement s.current }) ∨
    (∃ worker work, a = .start worker work ∧ spec.starts work ∧
      s' = { s with inFlight := s.inFlight ++ [(worker, ⟨work, s.current, false⟩)] }) ∨
    (∃ worker, a = .lock worker ∧ s' = s.markLocked worker) ∨
    (∃ worker t, a = .commit worker ∧ s.transaction worker = some t ∧
      (∀ k ∈ spec.writes t.work t.snapshot, spec.get s.current k = spec.get t.snapshot k) ∧
      s' = s.finish worker (spec.publish t.work t.snapshot s.current)) ∨
    (∃ worker, a = .abort worker ∧ s' = s.finish worker s.current) := by
  cases a with
  | apply statement =>
    simp only [snapshotSystem] at h
    split at h
    · rename_i hadmits
      cases h
      exact Or.inl ⟨statement, rfl, hadmits.1, rfl⟩
    · cases h
  | start worker work =>
    simp only [snapshotSystem] at h
    split at h
    · rename_i hstarts
      cases h
      exact Or.inr (Or.inl ⟨worker, work, rfl, hstarts.1, rfl⟩)
    · cases h
  | lock worker =>
    simp only [snapshotSystem] at h
    split at h
    · cases h
    · split at h
      · cases h
        exact Or.inr (Or.inr (Or.inl ⟨worker, rfl, rfl⟩))
      · cases h
  | commit worker =>
    simp only [snapshotSystem] at h
    split at h
    · cases h
    · rename_i t ht
      split at h
      · rename_i hunchanged
        cases h
        exact Or.inr (Or.inr (Or.inr (Or.inl ⟨worker, t, rfl, ht, hunchanged.2, rfl⟩)))
      · cases h
  | abort worker =>
    cases h
    exact Or.inr (Or.inr (Or.inr (Or.inr ⟨worker, rfl, rfl⟩)))

/-- Every transaction in flight was one that may begin. -/
def StartsInFlight (spec : SnapshotSpec ω α σ κ ρ) (s : SnapshotState ι ω σ) : Prop :=
  ∀ entry ∈ s.inFlight, spec.starts entry.2.work

theorem startsInFlight_step {spec : SnapshotSpec ω α σ κ ρ} {s s' : SnapshotState ι ω σ}
    {a : SnapshotAction ι ω α} (hs : StartsInFlight spec s)
    (h : (snapshotSystem spec).step s a = some s') : StartsInFlight spec s' := by
  rcases snapshotSystem_step h with ⟨_, -, -, rfl⟩ | ⟨worker, work, -, hstarts, rfl⟩ |
    ⟨worker, -, rfl⟩ | ⟨worker, t, -, -, -, rfl⟩ | ⟨worker, -, rfl⟩
  · exact hs
  · intro entry hentry
    rcases List.mem_append.mp hentry with hold | hnew
    · exact hs entry hold
    · rw [List.mem_singleton.mp hnew]
      exact hstarts
  · intro entry hentry
    obtain ⟨old, hold, rfl⟩ := List.mem_map.mp hentry
    have hwork := hs old hold
    split
    · exact hwork
    · exact hwork
  · exact fun entry hentry ↦ hs entry (List.mem_filter.mp hentry).1
  · exact fun entry hentry ↦ hs entry (List.mem_filter.mp hentry).1

end DBOSModel.Relational

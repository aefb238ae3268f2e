import DBOSModel.Core.InitWorkflow
import DBOSModel.Relational.Execution
import Mathlib.Data.List.Dedup
import Mathlib.Data.List.Perm.Basic

/-!
# Schema migrations

`run_dbos_migrations` of `dbos/_migration.py`. A process goes through the list of migrations and
applies those above the stored version. An empty migration only moves the version. An online one
runs with autocommit, after the invalid indexes of an earlier attempt were dropped, and the version
follows in a transaction of its own. Any other migration shares a transaction with its version.

The process may be stopped between any two statements and started again, and an online statement
may be cut off and leave its work half done. One process runs at a time.
-/

namespace DBOSModel.Migration

open Relational DBOSModel.Core

/-! ## The database -/

/-- The database under the migrations, whose schema is of type `σ`. -/
structure Database (σ : Type) where
  /-- One statement; `none` if it raises. -/
  execute : String → σ → Option σ
  /-- What an online statement leaves behind that was cut off, where it leaves anything. -/
  interrupted : String → σ → Option σ
  /-- The names of the indexes that are not valid. -/
  invalidIndexes : σ → List String
  /-- `DROP INDEX CONCURRENTLY IF EXISTS`. -/
  dropIndex : String → σ → σ
  /-- The table `notifications` has a primary key. -/
  hasNotificationsKey : σ → Bool

/-- The arguments of a run. -/
structure Plan (σ : Type) where
  db : Database σ
  /-- `get_dbos_migrations`. -/
  migrations : List String
  /-- `_ONLINE_MIGRATIONS`. -/
  online : List ℕ
  isCockroach : Bool := false

/-- `_ONLINE_MIGRATIONS`, as the source has it. -/
def onlineMigrations : List ℕ := [22, 23, 24, 25, 26, 27, 29, 30, 31, 32, 34, 35, 37]

inductive Kind where
  | empty
  | online
  | transactional
deriving DecidableEq

section Plan

variable {σ : Type} (plan : Plan σ)

/-- The text of a migration; the first has the number 1. -/
def Plan.text (i : ℕ) : String := plan.migrations.getD (i - 1) ""

def Plan.kind (i : ℕ) : Kind :=
  if (plan.text i).toList.all pyIsSpace then .empty
  else if i ∈ plan.online ∧ ¬ plan.isCockroach then .online
  else .transactional

/-- The statement of a transactional migration; the tenth is skipped if there is a key already. -/
def Plan.executeInTransaction (i : ℕ) (schema : σ) : Option σ :=
  if i = 10 ∧ plan.db.hasNotificationsKey schema then some schema
  else plan.db.execute (plan.text i) schema

end Plan

/-- The write to `dbos_migrations`, whose rows have the version as their key. -/
def writeVersion (version lastApplied : ℕ) (versions : List ℕ) : Option (List ℕ) :=
  if lastApplied = 0 then
    if version ∈ versions then none else some (versions ++ [version])
  else if 1 < versions.length then none
  else some (versions.map fun _ ↦ version)

/-! ## The process -/

/-- Where the process is. -/
inductive Phase (σ : Type) where
  /-- No process runs. -/
  | idle
  | reading
  /-- The head of the loop, with the next migration and the version as the process knows it. -/
  | looping (i lastApplied : ℕ)
  /-- Before the query of `_cleanup_invalid_indexes`. -/
  | listing (i lastApplied : ℕ)
  /-- With the names that are left to drop. -/
  | dropping (i lastApplied : ℕ) (names : List String)
  /-- Before the statement of an online migration. -/
  | executing (i lastApplied : ℕ)
  /-- Before the transaction of `_bump_migration_version`. -/
  | bumping (i lastApplied : ℕ)
  /-- Before its commit. -/
  | bumped (i : ℕ) (versions : List ℕ)
  /-- In the transaction of a migration, before the version is written. -/
  | migrating (i lastApplied : ℕ) (working : σ)
  /-- Before its commit. -/
  | migrated (i : ℕ) (working : σ) (versions : List ℕ)
  /-- `run_dbos_migrations` has returned. -/
  | done
deriving DecidableEq

structure MigrationState (σ : Type) where
  schema : σ
  /-- The rows of `dbos_migrations`. -/
  versions : List ℕ := []
  phase : Phase σ := .idle
  /-- The migrations whose statement took effect, in this order. -/
  applied : List ℕ := []
deriving DecidableEq

inductive MigrationAction where
  | start
  | next
  /-- The query for the invalid indexes returns the names in an order of its own. -/
  | list (names : List String)
  /-- The process is stopped in the middle of an online statement. -/
  | interrupt
  | crash
deriving DecidableEq

section System

variable {σ : Type} (plan : Plan σ)

/-- The next statement of the process. -/
def advance (st : MigrationState σ) : Option (MigrationState σ) :=
  match st.phase with
  | .idle | .listing _ _ | .done => none
  | .reading => some { st with phase := .looping 1 (st.versions.headD 0) }
  | .looping i lastApplied =>
    if plan.migrations.length < i then some { st with phase := .done }
    else if i ≤ lastApplied then some { st with phase := .looping (i + 1) lastApplied }
    else
      match plan.kind i with
      | .empty => some { st with phase := .bumping i lastApplied }
      | .online => some { st with phase := .listing i lastApplied }
      | .transactional => (plan.executeInTransaction i st.schema).map fun working ↦
        { st with phase := .migrating i lastApplied working }
  | .dropping i lastApplied [] => some { st with phase := .executing i lastApplied }
  | .dropping i lastApplied (name :: names) => some
      { st with
        schema := plan.db.dropIndex name st.schema
        phase := .dropping i lastApplied names }
  | .executing i lastApplied => (plan.db.execute (plan.text i) st.schema).map fun schema ↦
      { st with
        schema := schema
        applied := st.applied ++ [i]
        phase := .bumping i lastApplied }
  | .bumping i lastApplied => (writeVersion i lastApplied st.versions).map fun versions ↦
      { st with phase := .bumped i versions }
  | .bumped i versions => some { st with versions := versions, phase := .looping (i + 1) i }
  | .migrating i lastApplied working => (writeVersion i lastApplied st.versions).map fun versions ↦
      { st with phase := .migrated i working versions }
  | .migrated i working versions => some
      { st with
        schema := working
        versions := versions
        applied := st.applied ++ [i]
        phase := .looping (i + 1) i }

/-- `run_dbos_migrations`, started and stopped any number of times. -/
def migrationSystem : System (MigrationState σ) MigrationAction where
  step st
    | .start =>
      match st.phase with
      | .idle | .done => some { st with phase := .reading }
      | _ => none
    | .next => advance plan st
    | .list names =>
      match st.phase with
      | .listing i lastApplied =>
        if names.Perm (plan.db.invalidIndexes st.schema) then
          some { st with phase := .dropping i lastApplied names }
        else none
      | _ => none
    | .interrupt =>
      match st.phase with
      | .executing i _ => (plan.db.interrupted (plan.text i) st.schema).map fun schema ↦
        { st with schema := schema, phase := .idle }
      | _ => none
    | .crash => some { st with phase := .idle }

/-! ## What the migrations stand for -/

/-- The schema without its invalid indexes. -/
def Plan.cleanup (schema : σ) : σ :=
  (plan.db.invalidIndexes schema).foldl (fun schema name ↦ plan.db.dropIndex name schema) schema

/-- An online migration from its cleanup on. -/
def Plan.attempt (i : ℕ) (schema : σ) : Option σ :=
  plan.db.execute (plan.text i) (plan.cleanup schema)

/-- The effect of one migration that is not disturbed. -/
def Plan.apply (i : ℕ) (schema : σ) : Option σ :=
  match plan.kind i with
  | .empty => some schema
  | .online => plan.attempt i schema
  | .transactional => plan.executeInTransaction i schema

/-- The schema after the first migrations, each applied once and in order. -/
def Plan.appliedThrough (plan : Plan σ) (schema : σ) : ℕ → Option σ
  | 0 => some schema
  | i + 1 => (plan.appliedThrough schema i).bind (plan.apply (i + 1))

/-- What the runner relies on: `DROP INDEX` removes the index and no other, and online migrations
are idempotent, also where the first attempt was cut off. -/
structure Plan.OnlineIdempotent : Prop where
  nodup_invalid : ∀ schema, (plan.db.invalidIndexes schema).Nodup
  invalid_drop : ∀ schema name, (plan.db.invalidIndexes (plan.db.dropIndex name schema)).Perm
    ((plan.db.invalidIndexes schema).filter (· ≠ name))
  drop_comm : ∀ schema name name',
    plan.db.dropIndex name (plan.db.dropIndex name' schema) =
      plan.db.dropIndex name' (plan.db.dropIndex name schema)
  again : ∀ i, plan.kind i = .online → ∀ schema schema',
    plan.attempt i schema = some schema' → plan.attempt i schema' = some schema'
  resumed : ∀ i, plan.kind i = .online → ∀ schema schema',
    plan.db.interrupted (plan.text i) schema = some schema' →
      plan.attempt i schema' = plan.attempt i schema

/-- Nothing of the migration is left to apply. -/
def MigrationState.FullyApplied (st : MigrationState σ) (i : ℕ) : Prop :=
  plan.kind i = .empty ∨ i ∈ st.applied

/-- No crash and no second run does harm. -/
structure CrashSafe (schema : σ) (st : MigrationState σ) : Prop where
  not_ahead : ∀ version ∈ st.versions, version ≤ plan.migrations.length ∧
    ∀ i, 1 ≤ i → i ≤ version → st.FullyApplied plan i
  once : ∀ i, plan.kind i = .transactional → st.applied.count i ≤ 1
  one_row : st.versions.length ≤ 1
  complete : st.phase = .done →
    plan.appliedThrough schema plan.migrations.length = some st.schema ∧
      (∀ i, 1 ≤ i → i ≤ plan.migrations.length → st.FullyApplied plan i) ∧
      st.applied.Pairwise (· ≤ ·) ∧ st.versions.headD 0 = plan.migrations.length

/-! ## The invariant -/

/-- The table `dbos_migrations` at a version. -/
def versionRows (version : ℕ) : List ℕ :=
  if version = 0 then [] else [version]

/-- The statements that took effect, at a version. -/
structure Logged (version : ℕ) (applied : List ℕ) : Prop where
  complete : ∀ i, 1 ≤ i → i ≤ version → plan.kind i = .empty ∨ i ∈ applied
  bounded : ∀ i ∈ applied, i ≤ version ∨ i = version + 1 ∧ plan.kind i = .online
  once : ∀ i, plan.kind i = .transactional → applied.count i ≤ 1
  sorted : applied.Pairwise (· ≤ ·)

/-- The schema is that of the version, or an online attempt at the next migration is under way. -/
def Resumes (schema : σ) (version : ℕ) (current : σ) : Prop :=
  ∃ base, plan.appliedThrough schema version = some base ∧
    (current = base ∨ plan.kind (version + 1) = .online ∧
      plan.attempt (version + 1) current = plan.attempt (version + 1) base)

/-- What the process knows at each point; the version it read is the stored one. -/
def PhaseOk (schema : σ) (version : ℕ) (st : MigrationState σ) : Prop :=
  match st.phase with
  | .idle | .reading => True
  | .looping i lastApplied => lastApplied = version ∧ i ≤ version + 1
  | .listing i lastApplied => lastApplied = version ∧ i = version + 1 ∧ plan.kind i = .online
  | .dropping i lastApplied names => lastApplied = version ∧ i = version + 1 ∧
      plan.kind i = .online ∧ names.Perm (plan.db.invalidIndexes st.schema)
  | .executing i lastApplied => lastApplied = version ∧ i = version + 1 ∧
      plan.kind i = .online ∧ plan.db.invalidIndexes st.schema = []
  | .bumping i lastApplied => lastApplied = version ∧ i = version + 1 ∧
      i ≤ plan.migrations.length ∧ st.FullyApplied plan i ∧
      plan.appliedThrough schema i = some st.schema
  | .bumped i versions => i = version + 1 ∧ i ≤ plan.migrations.length ∧
      st.FullyApplied plan i ∧ plan.appliedThrough schema i = some st.schema ∧ versions = [i]
  | .migrating i lastApplied working => lastApplied = version ∧ i = version + 1 ∧
      plan.kind i = .transactional ∧ plan.appliedThrough schema i = some working
  | .migrated i working versions => i = version + 1 ∧ plan.kind i = .transactional ∧
      plan.appliedThrough schema i = some working ∧ versions = [i]
  | .done => plan.migrations.length ≤ version

/-- The state at a stored version. -/
structure Consistent (schema : σ) (version : ℕ) (st : MigrationState σ) : Prop where
  versions_eq : st.versions = versionRows version
  le_length : version ≤ plan.migrations.length
  logged : Logged plan version st.applied
  resumes : Resumes plan schema version st.schema
  phase : PhaseOk plan schema version st

@[simp]
theorem headD_versionRows (version : ℕ) : (versionRows version).headD 0 = version := by
  unfold versionRows
  split
  · rename_i h
    exact h.symm
  · rfl

/-- The version moves on by one, whether a row is there or not. -/
@[simp]
theorem writeVersion_versionRows (version : ℕ) :
    writeVersion (version + 1) version (versionRows version) = some [version + 1] := by
  unfold writeVersion versionRows
  by_cases h : version = 0
  · simp [h]
  · simp [h]

variable {plan}

theorem kind_of_length_lt {i : ℕ} (h : plan.migrations.length < i) : plan.kind i = .empty := by
  have htext : plan.text i = "" := by
    rw [Plan.text, List.getD_eq_getElem?_getD, List.getElem?_eq_none (by omega)]
    rfl
  rw [Plan.kind, htext]
  rfl

theorem le_length_of_kind_ne {i : ℕ} (h : plan.kind i ≠ .empty) : i ≤ plan.migrations.length := by
  by_contra hlt
  exact h (kind_of_length_lt (by omega))

theorem cleanup_of_nil {schema : σ} (h : plan.db.invalidIndexes schema = []) :
    plan.cleanup schema = schema := by
  rw [Plan.cleanup, h]
  rfl

/-- A cleanup that was stopped after one of its drops leaves the rest to the next one. -/
theorem cleanup_dropIndex (hidempotent : plan.OnlineIdempotent) {schema : σ} {name : String}
    (hname : name ∈ plan.db.invalidIndexes schema) :
    plan.cleanup (plan.db.dropIndex name schema) = plan.cleanup schema := by
  let drop (schema : σ) (name : String) := plan.db.dropIndex name schema
  have hnodup := hidempotent.nodup_invalid schema
  have hleft : (plan.db.invalidIndexes (drop schema name)).Perm
      ((plan.db.invalidIndexes schema).erase name) := by
    rw [hnodup.erase_eq_filter]
    convert hidempotent.invalid_drop schema name using 2
    ext other
    rw [bne, beq_eq_decide, decide_not]
  have hcomm (a : List String) (b : List String) (hab : a.Perm b) (start : σ) :
      a.foldl drop start = b.foldl drop start := by
    apply hab.foldl_eq'
    intro x _ y _ current
    exact hidempotent.drop_comm current y x
  calc
    plan.cleanup (plan.db.dropIndex name schema)
        = (plan.db.invalidIndexes (drop schema name)).foldl drop (drop schema name) := rfl
    _ = ((plan.db.invalidIndexes schema).erase name).foldl drop (drop schema name) :=
      hcomm _ _ hleft _
    _ = (name :: (plan.db.invalidIndexes schema).erase name).foldl drop schema := rfl
    _ = (plan.db.invalidIndexes schema).foldl drop schema :=
      hcomm _ _ (List.perm_cons_erase hname).symm _

/-! ## Steps -/

section Steps

variable {schema : σ} {version : ℕ} {st st' : MigrationState σ}

theorem Consistent.headD_versions (h : Consistent plan schema version st) :
    st.versions.headD 0 = version := by
  rw [h.versions_eq, headD_versionRows]

theorem Consistent.writeVersion_versions (h : Consistent plan schema version st) :
    writeVersion (version + 1) version st.versions = some [version + 1] := by
  rw [h.versions_eq, writeVersion_versionRows]

/-- The process went on and touched nothing. -/
theorem Consistent.setPhase (h : Consistent plan schema version st) {phase : Phase σ}
    (hphase : PhaseOk plan schema version { st with phase := phase }) :
    Consistent plan schema version { st with phase := phase } :=
  { h with phase := hphase }

/-- A schema that an online attempt may have left. -/
theorem Consistent.setSchema (h : Consistent plan schema version st) {current : σ}
    {phase : Phase σ} (hkind : plan.kind (version + 1) = .online)
    (hattempt : plan.attempt (version + 1) current = plan.attempt (version + 1) st.schema)
    (hphase : PhaseOk plan schema version { st with schema := current, phase := phase }) :
    Consistent plan schema version { st with schema := current, phase := phase } := by
  obtain ⟨base, hbase, hschema⟩ := h.resumes
  have hresumes : Resumes plan schema version current := by
    refine ⟨base, hbase, Or.inr ⟨hkind, ?_⟩⟩
    rcases hschema with heq | ⟨_, heq⟩
    · rw [hattempt, heq]
    · rw [hattempt, heq]
  exact { h with resumes := hresumes, phase := hphase }

/-- Outside of an online migration the schema is that of the version. -/
theorem Consistent.appliedThrough_eq (h : Consistent plan schema version st)
    (hkind : plan.kind (version + 1) ≠ .online) :
    plan.appliedThrough schema version = some st.schema := by
  obtain ⟨base, hbase, heq | ⟨honline, _⟩⟩ := h.resumes
  · rw [heq]
    exact hbase
  · exact absurd honline hkind

theorem Consistent.appliedThrough_succ (h : Consistent plan schema version st)
    (hkind : plan.kind (version + 1) ≠ .online) :
    plan.appliedThrough schema (version + 1) = plan.apply (version + 1) st.schema := by
  rw [Plan.appliedThrough, h.appliedThrough_eq hkind]
  rfl

/-- An attempt on what an earlier one left has the effect of the migration. -/
theorem Consistent.appliedThrough_attempt (h : Consistent plan schema version st)
    (hkind : plan.kind (version + 1) = .online) :
    plan.appliedThrough schema (version + 1) = plan.attempt (version + 1) st.schema := by
  obtain ⟨base, hbase, hschema⟩ := h.resumes
  have hattempt : plan.attempt (version + 1) st.schema = plan.attempt (version + 1) base := by
    rcases hschema with heq | ⟨_, heq⟩
    · rw [heq]
    · exact heq
  rw [Plan.appliedThrough, hbase, hattempt]
  simp [Plan.apply, hkind]

theorem Logged.sorted_append {applied : List ℕ} (h : Logged plan version applied) :
    (applied ++ [version + 1]).Pairwise (· ≤ ·) := by
  apply List.pairwise_append.mpr
  refine ⟨h.sorted, List.pairwise_singleton _ _, ?_⟩
  intro i hi j hj
  rw [List.mem_singleton] at hj
  rcases h.bounded i hi with hle | ⟨heq, _⟩
  · omega
  · omega

/-- The statement of an online migration joins the history. -/
theorem Logged.append_online {applied : List ℕ} (h : Logged plan version applied)
    (hkind : plan.kind (version + 1) = .online) :
    Logged plan version (applied ++ [version + 1]) where
  complete i hpos hle := (h.complete i hpos hle).imp id fun hmem ↦ List.mem_append_left _ hmem
  bounded i hmem := by
    rcases List.mem_append.mp hmem with hold | hnew
    · exact h.bounded i hold
    · rw [List.mem_singleton] at hnew
      exact Or.inr ⟨hnew, hnew ▸ hkind⟩
  once i hi := by
    have hne : version + 1 ≠ i := by
      rintro rfl
      rw [hkind] at hi
      cases hi
    rw [List.count_append, List.count_singleton]
    simpa [hne] using h.once i hi
  sorted := h.sorted_append

/-- The version moves on over a migration that is fully applied. -/
theorem Logged.succ {applied : List ℕ} (h : Logged plan version applied)
    (happlied : plan.kind (version + 1) = .empty ∨ version + 1 ∈ applied) :
    Logged plan (version + 1) applied where
  complete i hpos hle := by
    by_cases heq : i = version + 1
    · rw [heq]
      exact happlied
    · exact h.complete i hpos (by omega)
  bounded i hmem := by
    rcases h.bounded i hmem with hle | ⟨heq, _⟩
    · exact Or.inl (by omega)
    · exact Or.inl (by omega)
  once := h.once
  sorted := h.sorted

/-- A transactional migration and its version are committed together. -/
theorem Logged.append_transactional {applied : List ℕ} (h : Logged plan version applied)
    (hkind : plan.kind (version + 1) = .transactional) :
    Logged plan (version + 1) (applied ++ [version + 1]) where
  complete i hpos hle := by
    by_cases heq : i = version + 1
    · exact Or.inr (List.mem_append_right _ (List.mem_singleton.mpr heq))
    · exact (h.complete i hpos (by omega)).imp id fun hmem ↦ List.mem_append_left _ hmem
  bounded i hmem := by
    rcases List.mem_append.mp hmem with hold | hnew
    · rcases h.bounded i hold with hle | ⟨heq, _⟩
      · exact Or.inl (by omega)
      · exact Or.inl (by omega)
    · exact Or.inl (List.mem_singleton.mp hnew).le
  once i hi := by
    rw [List.count_append]
    by_cases heq : i = version + 1
    · -- it was not in the history: above the version there are online migrations only
      have hnew : version + 1 ∉ applied := by
        intro hmem
        rcases h.bounded _ hmem with hle | ⟨_, honline⟩
        · omega
        · rw [hkind] at honline
          cases honline
      rw [heq, List.count_eq_zero_of_not_mem hnew, List.count_singleton_self]
    · rw [List.count_singleton]
      have hne : version + 1 ≠ i := Ne.symm heq
      simpa [hne] using h.once i hi
  sorted := h.sorted_append

/-- The process at the head of the loop. -/
theorem consistent_looping {i lastApplied : ℕ} (h : Consistent plan schema version st)
    (hphase : st.phase = .looping i lastApplied) (hstep : advance plan st = some st') :
    Consistent plan schema version st' := by
  have hok := h.phase
  simp only [PhaseOk, hphase] at hok
  obtain ⟨rfl, hle⟩ := hok
  simp only [advance, hphase] at hstep
  by_cases hend : plan.migrations.length < i
  · rw [if_pos hend] at hstep
    cases hstep
    apply h.setPhase
    simp only [PhaseOk]
    omega
  · rw [if_neg hend] at hstep
    by_cases hskip : i ≤ lastApplied
    · rw [if_pos hskip] at hstep
      cases hstep
      apply h.setPhase
      simp only [PhaseOk, true_and]
      omega
    · rw [if_neg hskip] at hstep
      obtain rfl : i = lastApplied + 1 := by omega
      cases hkind : plan.kind (lastApplied + 1) with
      | empty =>
        rw [hkind] at hstep
        cases hstep
        have hthrough : plan.appliedThrough schema (lastApplied + 1) = some st.schema := by
          rw [h.appliedThrough_succ (by simp [hkind])]
          simp [Plan.apply, hkind]
        apply h.setPhase
        exact ⟨rfl, rfl, Nat.le_of_not_lt hend, Or.inl hkind, hthrough⟩
      | online =>
        rw [hkind] at hstep
        cases hstep
        apply h.setPhase
        exact ⟨rfl, rfl, hkind⟩
      | transactional =>
        rw [hkind] at hstep
        obtain ⟨working, hworking, rfl⟩ := Option.map_eq_some_iff.mp hstep
        have hthrough : plan.appliedThrough schema (lastApplied + 1) = some working := by
          rw [h.appliedThrough_succ (by simp [hkind])]
          simp [Plan.apply, hkind, hworking]
        apply h.setPhase
        exact ⟨rfl, rfl, hkind, hthrough⟩

/-- The statement of an online migration. -/
theorem consistent_executing {i lastApplied : ℕ} (hidempotent : plan.OnlineIdempotent)
    (h : Consistent plan schema version st) (hphase : st.phase = .executing i lastApplied)
    (hstep : advance plan st = some st') : Consistent plan schema version st' := by
  have hok := h.phase
  simp only [PhaseOk, hphase] at hok
  obtain ⟨rfl, rfl, hkind, hinvalid⟩ := hok
  simp only [advance, hphase] at hstep
  obtain ⟨current, hcurrent, rfl⟩ := Option.map_eq_some_iff.mp hstep
  have hattempt : plan.attempt (lastApplied + 1) st.schema = some current := by
    rw [Plan.attempt, cleanup_of_nil hinvalid]
    exact hcurrent
  have hthrough : plan.appliedThrough schema (lastApplied + 1) = some current := by
    rw [h.appliedThrough_attempt hkind]
    exact hattempt
  have hmoved : Consistent plan schema lastApplied
      { st with schema := current, phase := .idle } := by
    apply h.setSchema hkind
    · rw [hidempotent.again _ hkind _ _ hattempt, hattempt]
    · trivial
  have hmem : lastApplied + 1 ∈ st.applied ++ [lastApplied + 1] :=
    List.mem_append_right _ (List.mem_singleton.mpr rfl)
  exact
    { hmoved with
      logged := h.logged.append_online hkind
      phase := ⟨rfl, rfl, le_length_of_kind_ne (by simp [hkind]), Or.inr hmem, hthrough⟩ }

/-- The next drop of the cleanup. -/
theorem consistent_dropping {i lastApplied : ℕ} {names : List String}
    (hidempotent : plan.OnlineIdempotent) (h : Consistent plan schema version st)
    (hphase : st.phase = .dropping i lastApplied names) (hstep : advance plan st = some st') :
    Consistent plan schema version st' := by
  have hok := h.phase
  simp only [PhaseOk, hphase] at hok
  obtain ⟨rfl, rfl, hkind, hperm⟩ := hok
  cases names with
  | nil =>
    simp only [advance, hphase] at hstep
    cases hstep
    apply h.setPhase
    exact ⟨rfl, rfl, hkind, hperm.symm.eq_nil⟩
  | cons name names =>
    simp only [advance, hphase] at hstep
    cases hstep
    have hname : name ∈ plan.db.invalidIndexes st.schema := hperm.mem_iff.mp List.mem_cons_self
    have hnodup : (name :: names).Nodup := hperm.nodup_iff.mpr (hidempotent.nodup_invalid _)
    have hfilter : (name :: names).filter (· ≠ name) = names := by
      rw [List.filter_cons_of_neg (by simp), List.filter_eq_self]
      intro other hother
      have hne : other ≠ name := by
        rintro rfl
        exact (List.nodup_cons.mp hnodup).1 hother
      exact decide_eq_true hne
    have hleft : names.Perm (plan.db.invalidIndexes (plan.db.dropIndex name st.schema)) := by
      have hrest := hperm.filter (· ≠ name)
      rw [hfilter] at hrest
      exact hrest.trans (hidempotent.invalid_drop st.schema name).symm
    apply h.setSchema hkind
    · rw [Plan.attempt, cleanup_dropIndex hidempotent hname]
      rfl
    · exact ⟨rfl, rfl, hkind, hleft⟩

/-- A commit that moves the version. -/
theorem consistent_commit {i : ℕ} {current : σ} {applied : List ℕ} (hi : i = version + 1)
    (hlogged : Logged plan i applied) (hthrough : plan.appliedThrough schema i = some current)
    (hle : i ≤ plan.migrations.length) :
    Consistent plan schema i
      { schema := current, versions := [i], phase := .looping (i + 1) i, applied := applied } where
  versions_eq := by simp [versionRows, hi]
  le_length := hle
  logged := hlogged
  resumes := ⟨current, hthrough, Or.inl rfl⟩
  phase := ⟨rfl, le_rfl⟩

/-- Every statement keeps the invariant; a commit moves the version. -/
theorem consistent_advance (hidempotent : plan.OnlineIdempotent)
    (h : Consistent plan schema version st) (hstep : advance plan st = some st') :
    ∃ version', Consistent plan schema version' st' := by
  have hok := h.phase
  cases hphase : st.phase with
  | idle => simp [advance, hphase] at hstep
  | listing i lastApplied => simp [advance, hphase] at hstep
  | done => simp [advance, hphase] at hstep
  | reading =>
    simp only [advance, hphase, h.headD_versions] at hstep
    cases hstep
    refine ⟨version, h.setPhase ?_⟩
    simp [PhaseOk]
  | looping i lastApplied => exact ⟨version, consistent_looping h hphase hstep⟩
  | dropping i lastApplied names => exact ⟨version, consistent_dropping hidempotent h hphase hstep⟩
  | executing i lastApplied => exact ⟨version, consistent_executing hidempotent h hphase hstep⟩
  | bumping i lastApplied =>
    simp only [PhaseOk, hphase] at hok
    obtain ⟨rfl, rfl, hle, happlied, hthrough⟩ := hok
    simp only [advance, hphase, h.writeVersion_versions, Option.map_some] at hstep
    cases hstep
    exact ⟨lastApplied, { h with phase := ⟨rfl, hle, happlied, hthrough, rfl⟩ }⟩
  | bumped i versions =>
    simp only [PhaseOk, hphase] at hok
    obtain ⟨rfl, hle, happlied, hthrough, rfl⟩ := hok
    simp only [advance, hphase] at hstep
    cases hstep
    exact ⟨version + 1, consistent_commit rfl (h.logged.succ happlied) hthrough hle⟩
  | migrating i lastApplied working =>
    simp only [PhaseOk, hphase] at hok
    obtain ⟨rfl, rfl, hkind, hthrough⟩ := hok
    simp only [advance, hphase, h.writeVersion_versions, Option.map_some] at hstep
    cases hstep
    exact ⟨lastApplied, { h with phase := ⟨rfl, hkind, hthrough, rfl⟩ }⟩
  | migrated i working versions =>
    simp only [PhaseOk, hphase] at hok
    obtain ⟨rfl, hkind, hthrough, rfl⟩ := hok
    simp only [advance, hphase] at hstep
    cases hstep
    have hle : version + 1 ≤ plan.migrations.length := le_length_of_kind_ne (by simp [hkind])
    exact ⟨version + 1,
      consistent_commit rfl (h.logged.append_transactional hkind) hthrough hle⟩

theorem consistent_step (hidempotent : plan.OnlineIdempotent)
    (h : Consistent plan schema version st) {action : MigrationAction}
    (hstep : (migrationSystem plan).step st action = some st') :
    ∃ version', Consistent plan schema version' st' := by
  have hok := h.phase
  cases action with
  | next => exact consistent_advance hidempotent h hstep
  | crash =>
    cases hstep
    exact ⟨version, h.setPhase trivial⟩
  | start =>
    simp only [migrationSystem] at hstep
    split at hstep
    · cases hstep
      exact ⟨version, h.setPhase trivial⟩
    · cases hstep
      exact ⟨version, h.setPhase trivial⟩
    · cases hstep
  | list names =>
    simp only [migrationSystem] at hstep
    split at hstep
    · rename_i i lastApplied hphase
      split at hstep
      · rename_i hperm
        cases hstep
        simp only [PhaseOk, hphase] at hok
        obtain ⟨hlast, hi, hkind⟩ := hok
        exact ⟨version, h.setPhase ⟨hlast, hi, hkind, hperm⟩⟩
      · cases hstep
    · cases hstep
  | interrupt =>
    simp only [migrationSystem] at hstep
    split at hstep
    · rename_i i lastApplied hphase
      obtain ⟨current, hcurrent, rfl⟩ := Option.map_eq_some_iff.mp hstep
      simp only [PhaseOk, hphase] at hok
      obtain ⟨rfl, rfl, hkind, _⟩ := hok
      have hresumed := hidempotent.resumed _ hkind _ _ hcurrent
      exact ⟨lastApplied, h.setSchema hkind hresumed trivial⟩
    · cases hstep

/-- The database before the first run. -/
def initialState (schema : σ) : MigrationState σ where
  schema := schema

theorem consistent_initialState (plan : Plan σ) (schema : σ) :
    Consistent plan schema 0 (initialState schema) where
  versions_eq := rfl
  le_length := Nat.zero_le _
  logged :=
    { complete := fun i hpos hle ↦ by omega
      bounded := by simp [initialState]
      once := by simp [initialState]
      sorted := List.Pairwise.nil }
  resumes := ⟨schema, rfl, Or.inl rfl⟩
  phase := trivial

theorem Consistent.crashSafe (h : Consistent plan schema version st) :
    CrashSafe plan schema st where
  not_ahead stored hstored := by
    have hversion : stored = version := by
      rw [h.versions_eq, versionRows] at hstored
      split at hstored
      · cases hstored
      · exact List.mem_singleton.mp hstored
    rw [hversion]
    exact ⟨h.le_length, h.logged.complete⟩
  once := h.logged.once
  one_row := by
    rw [h.versions_eq, versionRows]
    split
    · exact Nat.zero_le 1
    · exact le_rfl
  complete hdone := by
    have hok := h.phase
    simp only [PhaseOk, hdone] at hok
    obtain rfl : version = plan.migrations.length := le_antisymm h.le_length hok
    have hkind : plan.kind (plan.migrations.length + 1) = .empty := kind_of_length_lt (by omega)
    have hthrough := h.appliedThrough_eq (by simp [hkind])
    exact ⟨hthrough, h.logged.complete, h.logged.sorted, h.headD_versions⟩

/-- After every sequence of runs and crashes the stored version is not ahead of the migrations, no
transactional migration was applied twice and there is one version row at most. A run that returns
leaves the schema that the migrations give when each is applied once and in order. -/
theorem migrations_crashSafe (plan : Plan σ) (hidempotent : plan.OnlineIdempotent) (schema : σ)
    (actions : List MigrationAction) (st : MigrationState σ)
    (hrun : (migrationSystem plan).run (initialState schema) actions = some st) :
    CrashSafe plan schema st := by
  have hreaches : (migrationSystem plan).Reaches (initialState schema) st := ⟨actions, hrun⟩
  obtain ⟨version, hconsistent⟩ := (migrationSystem plan).reaches_invariant
    (I := fun st ↦ ∃ version, Consistent plan schema version st)
    (fun _ _ _ ⟨_, h⟩ hstep ↦ consistent_step hidempotent h hstep)
    ⟨0, consistent_initialState plan schema⟩ hreaches
  exact hconsistent.crashSafe

end Steps

end System

/-! ## A run that is stopped three times -/

/-- The names of the tables and valid indexes, and of the invalid indexes. -/
structure Catalog where
  objects : List String := []
  invalid : List String := []
deriving DecidableEq

/-- Every statement creates one object, unless it exists. -/
def catalogDatabase : Database Catalog where
  execute name catalog := some <|
    if name ∈ catalog.objects ∨ name ∈ catalog.invalid then catalog
    else { catalog with objects := catalog.objects ++ [name] }
  interrupted name catalog :=
    if name ∈ catalog.objects then none
    else some { catalog with invalid := name :: catalog.invalid }
  invalidIndexes catalog := catalog.invalid.dedup
  dropIndex name catalog := { catalog with invalid := catalog.invalid.filter (· ≠ name) }
  hasNotificationsKey _ := false

/-- A table, an empty migration and an index that is built online. -/
def catalogPlan : Plan Catalog where
  db := catalogDatabase
  migrations := ["table t", "", "index i"]
  online := [3]

theorem foldl_dropIndex (names : List String) (catalog : Catalog) :
    names.foldl (fun catalog name ↦ catalogDatabase.dropIndex name catalog) catalog =
      { catalog with invalid := catalog.invalid.filter (· ∉ names) } := by
  induction names generalizing catalog with
  | nil => simp
  | cons name names ih =>
    rw [List.foldl_cons, ih]
    simp only [catalogDatabase, List.filter_filter, Catalog.mk.injEq, true_and]
    congr 1
    funext other
    simp [Bool.and_comm]

@[simp]
theorem cleanup_catalog (catalog : Catalog) :
    catalogPlan.cleanup catalog = { catalog with invalid := [] } := by
  have hinvalid (catalog : Catalog) :
      catalogDatabase.invalidIndexes catalog = catalog.invalid.dedup := rfl
  rw [Plan.cleanup, catalogPlan, hinvalid, foldl_dropIndex]
  simp

theorem onlineIdempotent_catalog : catalogPlan.OnlineIdempotent where
  nodup_invalid catalog := List.nodup_dedup catalog.invalid
  invalid_drop catalog name := by
    apply (List.perm_ext_iff_of_nodup (List.nodup_dedup _) ((List.nodup_dedup _).filter _)).mpr
    intro other
    simp [catalogPlan, catalogDatabase]
  drop_comm catalog name name' := by
    simp [catalogPlan, catalogDatabase, List.filter_filter, Bool.and_comm]
  again i _ catalog catalog' h := by
    rw [Plan.attempt, cleanup_catalog] at h ⊢
    simp only [catalogPlan, catalogDatabase, Option.some.injEq] at h ⊢
    subst h
    split <;> simp_all
  resumed i _ catalog catalog' h := by
    simp only [catalogPlan, catalogDatabase, Option.ite_none_left_eq_some, Option.some.injEq] at h
    obtain ⟨_, rfl⟩ := h
    simp [Plan.attempt]

/-- The first run is stopped before the commit of the table, the second in the middle of the online
statement, the third before the version follows it. -/
def stoppedThreeTimes : List MigrationAction :=
  ([.start, .next, .next, .next, .crash] : List MigrationAction) ++
    ([.start, .next, .next, .next, .next, .next, .next, .next, .next, .list [], .next, .interrupt] :
      List MigrationAction) ++
    ([.start, .next, .next, .next, .next, .list ["index i"], .next, .next, .next, .crash] :
      List MigrationAction) ++
    ([.start, .next, .next, .next, .next, .list [], .next, .next, .next, .next, .next] :
      List MigrationAction)

theorem migrations_crashSafe_stopped :
    CrashSafe catalogPlan {}
      { schema := { objects := ["table t", "index i"] }
        versions := [3]
        phase := .done
        applied := [1, 3, 3] } :=
  migrations_crashSafe catalogPlan onlineIdempotent_catalog {} stoppedThreeTimes _ (by decide)

end DBOSModel.Migration

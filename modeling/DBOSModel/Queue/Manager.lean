import DBOSModel.Queue.Configuration
import DBOSModel.Supervision.Pool

/-!
# The queue manager

`queue_thread` of `dbos/_queue.py`, which sees every second that there is a worker thread for each
queue that the process listens to, and the part of `queue_worker_thread` that loads the queue again
before every poll. A worker ends when the row of its queue is gone. Between any two steps of the
manager and the workers, anyone may change the table of the queues and declare queues in memory.

A failure to list the table, of which one row that does not load is enough, leaves the manager with
the queues of the registry; a worker then keeps the queue that it has. What the manager and a worker
do besides, polling and the transition of delayed workflows, changes no queue and no worker, unless
it ends the worker by an exception that is no `Exception`.
-/

namespace DBOSModel.Queue

open Relational SysDb Supervision

/-- A `Queue` object with the flag that tells where its configuration is kept. -/
structure PolledQueue extends ConfiguredQueue where
  databaseBackedQueue : Bool

/-- A queue that a row has been loaded from. -/
def ConfiguredQueue.fromDb (queue : ConfiguredQueue) : PolledQueue where
  toConfiguredQueue := queue
  databaseBackedQueue := true

/-- `Queue(INTERNAL_QUEUE_NAME)`. -/
def internalQueue : PolledQueue where
  name := internalQueueName
  concurrency := none
  limiter := none
  workerConcurrency := none
  partitionQueue := false
  priorityEnabled := false
  pollingIntervalSec := .finite 1
  worker_le := rfl
  polling_pos := rfl
  limiter_complete := nofun
  databaseBackedQueue := false

/-- `current_queues` before the table is listed. -/
def registered (listening : Option (List String)) (registry : Dict String PolledQueue) :
    Dict String PolledQueue :=
  match listening with
  | some names => registry.delete fun entry ↦ !names.contains entry.1
  | none => registry

inductive ManagerPhase where
  | waiting
  /-- With `current_queues` of the registry. -/
  | collected (current : Dict String PolledQueue)
  /-- In the loop over `list_queues`, with the rest of them. -/
  | adding (current : Dict String PolledQueue) (rest : List ConfiguredQueue)
  /-- Going through `current_queues`, with the rest of them. -/
  | starting (rest : List (String × PolledQueue))

structure ManagerState where
  /-- `queue_info_map`. -/
  registry : Dict String PolledQueue
  queues : QueuesTable
  workers : Pool String PolledQueue
  /-- The queue that a worker has loaded last, if it has loaded one. -/
  reloaded : ℕ → Option PolledQueue
  phase : ManagerPhase
  stopping : Bool

namespace ManagerState

variable (st : ManagerState)

/-- `queue` in a worker thread. -/
def queueOf (n : ℕ) : Option PolledQueue :=
  (st.reloaded n).or (st.workers.started[n]?.map Prod.snd)

/-- Whether the loop over `list_queues` goes on without adding a queue. -/
def skips (listening : Option (List String)) (current : Dict String PolledQueue) (name : String) :
    Bool :=
  match listening with
  | some names => !names.contains name || (current.get name).isSome
  | none => (st.registry.get name).isSome || st.workers.isAlive name

/-- After the loop. A process that listens to some queues only listens to the internal one too, and
`get_internal_queue` declares it anew. -/
def startAll (listening : Option (List String)) (current : Dict String PolledQueue) :
    ManagerState :=
  match listening with
  | some _ => { st with
      registry := st.registry.set internalQueueName internalQueue
      phase := .starting (current.set internalQueueName internalQueue).rows }
  | none => { st with phase := .starting current.rows }

end ManagerState

inductive ManagerAction where
  /-- An in-memory queue is declared. -/
  | declare (queue : ConfiguredQueue)
  /-- The table of the queues changes. -/
  | configure (queues : QueuesTable)
  | collect
  /-- The table is listed, or an exception is raised on the way to the database. -/
  | list (reachable : Bool)
  | add
  | start
  | wait
  | reload (n : ℕ) (reachable : Bool)
  | stop
  /-- A worker sees the stop event. -/
  | exit (n : ℕ)
  /-- An exception ends a worker. -/
  | fail (n : ℕ)

/-- What a worker loads, where it is none for an exception. -/
def reloadQueue (queues : QueuesTable) (reachable : Bool) (queue : PolledQueue) :
    Option (Option ConfiguredQueue) :=
  if reachable then (getQueue queue.name queues).toOption else none

/-- What the manager lists, where it is nothing for an exception. -/
def listedQueues (queues : QueuesTable) (reachable : Bool) : List ConfiguredQueue :=
  if reachable then (listQueues queues).toOption.getD [] else []

/-- The manager of a process and its workers. -/
def managerSystem (listening : Option (List String)) : System ManagerState ManagerAction where
  step st
    | .declare queue =>
      if (st.registry.get queue.name).isSome && queue.name != internalQueueName then none
      else some { st with
        registry := st.registry.set queue.name
          { toConfiguredQueue := queue, databaseBackedQueue := false } }
    | .configure queues => some { st with queues := queues }
    | .collect =>
      match st.phase, st.stopping with
      | .waiting, false => some { st with phase := .collected (registered listening st.registry) }
      | _, _ => none
    | .list reachable =>
      match st.phase with
      | .collected current => some { st with
          phase := .adding current (listedQueues st.queues reachable) }
      | _ => none
    | .add =>
      match st.phase with
      | .adding current (queue :: rest) => some { st with
          phase := .adding (if st.skips listening current queue.name then current
            else current.set queue.name queue.fromDb) rest }
      | .adding current [] => some (st.startAll listening current)
      | _ => none
    | .start =>
      match st.phase with
      | .starting (entry :: rest) => some { st with
          workers := st.workers.ensure st.workers.live entry.1 entry.2
          phase := .starting rest }
      | _ => none
    | .wait =>
      match st.phase with
      | .starting [] => some { st with phase := .waiting }
      | _ => none
    | .reload n reachable =>
      match st.workers.live n, st.queueOf n with
      | true, some queue =>
        if queue.databaseBackedQueue then
          match reloadQueue st.queues reachable queue with
          | none => some st
          | some none => some { st with workers := st.workers.retire n }
          | some (some latest) => some { st with
              reloaded := Function.update st.reloaded n (some latest.fromDb) }
        else some st
      | _, _ => none
    | .stop => some { st with stopping := true }
    | .exit n =>
      match st.stopping, st.workers.live n with
      | true, true => some { st with workers := st.workers.retire n }
      | _, _ => none
    | .fail n =>
      if st.workers.live n then some { st with workers := st.workers.retire n } else none

/-- When the manager starts: the internal queue has just been declared. -/
def ManagerState.launched (queues : QueuesTable) : ManagerState where
  registry := Dict.set .empty internalQueueName internalQueue
  queues := queues
  workers := .empty
  reloaded _ := none
  phase := .waiting
  stopping := false

/-! ## What the manager collects -/

/-- The process listens to a queue. -/
def Listens (listening : Option (List String)) (name : String) : Prop :=
  ∀ names, listening = some names → name ∈ names ∨ name = internalQueueName

/-- A queue under its name, of those that the process listens to, and of the registry if it is not
in the database. -/
structure Fits (listening : Option (List String)) (registry : Dict String PolledQueue)
    (entry : String × PolledQueue) : Prop where
  name : entry.2.name = entry.1
  listens : Listens listening entry.1
  declared : entry.2.databaseBackedQueue = false → entry.1 ∈ registry.keys

/-- What a registry holds. -/
structure Declared (registry : Dict String PolledQueue) : Prop where
  name : ∀ name queue, registry.get name = some queue → queue.name = name
  internal : internalQueueName ∈ registry.keys

section Collect

variable {listening : Option (List String)} {registry registry' : Dict String PolledQueue}
  {current : Dict String PolledQueue} {name : String} {queue : PolledQueue}
  {entry : String × PolledQueue}

theorem Fits.mono (h : Fits listening registry entry)
    (hsub : ∀ name ∈ registry.keys, name ∈ registry'.keys) : Fits listening registry' entry where
  name := h.name
  listens := h.listens
  declared hdeclared := hsub _ (h.declared hdeclared)

theorem Declared.set (h : Declared registry) (hname : queue.name = name) :
    Declared (registry.set name queue) where
  name name' queue' hget := by
    rw [Dict.get_set] at hget
    split at hget
    · rename_i heq
      rw [Option.some.injEq] at hget
      rw [← hget, hname, heq]
    · exact h.name name' queue' hget
  internal := Dict.mem_keys_set.2 (Or.inl h.internal)

theorem fits_of_declared (h : Declared registry) (hget : registry.get name = some queue)
    (hlistens : Listens listening name) : Fits listening registry (name, queue) where
  name := h.name name queue hget
  listens := hlistens
  declared _ := by
    by_contra hnot
    rw [Dict.get_eq_none.2 hnot] at hget
    simp at hget

theorem fits_fromDb (row : ConfiguredQueue) (hlistens : Listens listening row.name) :
    Fits listening registry (row.name, row.fromDb) where
  name := rfl
  listens := hlistens
  declared := by simp [ConfiguredQueue.fromDb]

theorem fits_internalQueue (hinternal : internalQueueName ∈ registry.keys) :
    Fits listening registry (internalQueueName, internalQueue) where
  name := rfl
  listens _ _ := Or.inr rfl
  declared _ := hinternal

/-- All queues of a dictionary fit. -/
def AllFit (listening : Option (List String)) (registry current : Dict String PolledQueue) : Prop :=
  ∀ name queue, current.get name = some queue → Fits listening registry (name, queue)

theorem AllFit.set (h : AllFit listening registry current)
    (hnew : Fits listening registry (name, queue)) :
    AllFit listening registry (current.set name queue) := by
  intro name' queue' hget
  rw [Dict.get_set] at hget
  split at hget
  · rename_i heq
    obtain rfl := Option.some.inj hget
    exact heq ▸ hnew
  · exact h name' queue' hget

theorem AllFit.mono (h : AllFit listening registry current)
    (hsub : ∀ name ∈ registry.keys, name ∈ registry'.keys) : AllFit listening registry' current :=
  fun name queue hget ↦ (h name queue hget).mono hsub

theorem allFit_registered (h : Declared registry) :
    AllFit listening registry (registered listening registry) := by
  intro name queue hget
  unfold registered at hget
  cases hlistening : listening with
  | none =>
    rw [hlistening] at hget
    exact fits_of_declared h hget (by simp [Listens])
  | some names =>
    rw [hlistening, Dict.get_delete registry (fun name ↦ !names.contains name)] at hget
    split at hget
    · exact absurd hget (by simp)
    · rename_i hnames
      exact fits_of_declared h hget (by simpa [Listens] using Or.inl hnames)

/-- The registry is collected as far as the process listens to it, but for the internal queue. -/
theorem mem_keys_registered (hmem : name ∈ registry.keys) (hlistens : Listens listening name) :
    name ∈ (registered listening registry).keys ∨
      listening.isSome = true ∧ name = internalQueueName := by
  unfold registered
  cases listening with
  | none => exact Or.inl hmem
  | some names =>
    rcases hlistens names rfl with hnames | hinternal
    · left
      rw [Dict.mem_keys_delete (p := fun name ↦ !names.contains name)]
      exact ⟨hmem, by simpa using hnames⟩
    · exact Or.inr ⟨rfl, hinternal⟩

/-- A queue to which the process listens is added, unless it is there already, has been declared or
has a worker. -/
theorem ManagerState.of_skips {st : ManagerState} (h : st.skips listening current name = true)
    (hlistens : Listens listening name) :
    name ∈ current.keys ∨ listening.isSome = true ∧ name = internalQueueName ∨
      name ∈ st.registry.keys ∨ st.workers.isAlive name = true := by
  unfold ManagerState.skips at h
  cases listening with
  | none =>
    simp only [Bool.or_eq_true, ← Dict.mem_keys_iff_isSome] at h
    exact Or.inr (Or.inr h)
  | some names =>
    simp only [Bool.or_eq_true, ← Dict.mem_keys_iff_isSome, Bool.not_eq_true',
      List.contains_eq_mem, decide_eq_false_iff_not] at h
    rcases h with hnot | hmem
    · exact Or.inr (Or.inl ⟨rfl, (hlistens names rfl).resolve_left hnot⟩)
    · exact Or.inl hmem

theorem ManagerState.listens_of_not_skips {st : ManagerState}
    (h : st.skips listening current name = false) : Listens listening name := by
  unfold ManagerState.skips at h
  cases listening with
  | none => simp [Listens]
  | some names =>
    simp only [Bool.or_eq_false_iff, Bool.not_eq_false', List.contains_iff_mem] at h
    simp [Listens, h.1]

end Collect

/-! ## Every run of the manager -/

/-- The queues that have been collected so far. -/
def ManagerPhase.current : ManagerPhase → Dict String PolledQueue
  | .collected current | .adding current _ => current
  | _ => .empty

/-- The queues that are still to be gone through. -/
def ManagerPhase.rest : ManagerPhase → List (String × PolledQueue)
  | .starting rest => rest
  | _ => []

structure ManagerInvariant (listening : Option (List String)) (st : ManagerState) : Prop where
  wellFormed : st.workers.WellFormed
  declared : Declared st.registry
  started : ∀ entry ∈ st.workers.started, Fits listening st.registry entry
  current : AllFit listening st.registry st.phase.current
  rest : ∀ entry ∈ st.phase.rest, Fits listening st.registry entry
  /-- Only workers of the database load their queue again, under its name. -/
  reloaded : ∀ n queue, st.reloaded n = some queue → ∃ entry, st.workers.started[n]? = some entry ∧
    entry.2.databaseBackedQueue = true ∧ queue.databaseBackedQueue = true ∧ queue.name = entry.1

section Invariant

variable {listening : Option (List String)} {st st' : ManagerState} {n : ℕ} {name : String}
  {queue : PolledQueue} {action : ManagerAction} {queues : QueuesTable}

/-- The steps of the manager and its workers, each with its condition. -/
inductive ManagerStep (listening : Option (List String)) (st : ManagerState) :
    ManagerAction → ManagerState → Prop where
  | declare (queue : ConfiguredQueue) :
      ManagerStep listening st (.declare queue) { st with
        registry := st.registry.set queue.name
          { toConfiguredQueue := queue, databaseBackedQueue := false } }
  | configure (queues : QueuesTable) :
      ManagerStep listening st (.configure queues) { st with queues := queues }
  | collect (hphase : st.phase = .waiting) (hrunning : st.stopping = false) :
      ManagerStep listening st .collect { st with
        phase := .collected (registered listening st.registry) }
  | list (reachable : Bool) (current : Dict String PolledQueue)
      (hphase : st.phase = .collected current) :
      ManagerStep listening st (.list reachable) { st with
        phase := .adding current (listedQueues st.queues reachable) }
  | skip (current : Dict String PolledQueue) (row : ConfiguredQueue) (rest : List ConfiguredQueue)
      (hphase : st.phase = .adding current (row :: rest))
      (hskips : st.skips listening current row.name = true) :
      ManagerStep listening st .add { st with phase := .adding current rest }
  | add (current : Dict String PolledQueue) (row : ConfiguredQueue) (rest : List ConfiguredQueue)
      (hphase : st.phase = .adding current (row :: rest))
      (hskips : st.skips listening current row.name = false) :
      ManagerStep listening st .add { st with
        phase := .adding (current.set row.name row.fromDb) rest }
  | startAll (current : Dict String PolledQueue) (hphase : st.phase = .adding current []) :
      ManagerStep listening st .add (st.startAll listening current)
  | start (entry : String × PolledQueue) (rest : List (String × PolledQueue))
      (hphase : st.phase = .starting (entry :: rest)) :
      ManagerStep listening st .start { st with
        workers := st.workers.ensure st.workers.live entry.1 entry.2
        phase := .starting rest }
  | wait (hphase : st.phase = .starting []) :
      ManagerStep listening st .wait { st with phase := .waiting }
  | kept (n : ℕ) (reachable : Bool) (queue : PolledQueue) (hlive : st.workers.live n = true)
      (hqueue : st.queueOf n = some queue)
      (hkept : queue.databaseBackedQueue = false ∨ reloadQueue st.queues reachable queue = none) :
      ManagerStep listening st (.reload n reachable) st
  | deleted (n : ℕ) (reachable : Bool) (queue : PolledQueue) (hlive : st.workers.live n = true)
      (hqueue : st.queueOf n = some queue) (hbacked : queue.databaseBackedQueue = true)
      (hdeleted : reloadQueue st.queues reachable queue = some none) :
      ManagerStep listening st (.reload n reachable) { st with workers := st.workers.retire n }
  | loaded (n : ℕ) (reachable : Bool) (queue : PolledQueue) (latest : ConfiguredQueue)
      (hlive : st.workers.live n = true) (hqueue : st.queueOf n = some queue)
      (hbacked : queue.databaseBackedQueue = true)
      (hloaded : reloadQueue st.queues reachable queue = some (some latest)) :
      ManagerStep listening st (.reload n reachable) { st with
        reloaded := Function.update st.reloaded n (some latest.fromDb) }
  | stop : ManagerStep listening st .stop { st with stopping := true }
  | exit (n : ℕ) (hlive : st.workers.live n = true) (hstopping : st.stopping = true) :
      ManagerStep listening st (.exit n) { st with workers := st.workers.retire n }
  | fail (n : ℕ) (hlive : st.workers.live n = true) :
      ManagerStep listening st (.fail n) { st with workers := st.workers.retire n }

theorem managerStep_of_reload {reachable : Bool}
    (h : (managerSystem listening).step st (.reload n reachable) = some st') :
    ManagerStep listening st (.reload n reachable) st' := by
  unfold managerSystem at h
  cases hlive : st.workers.live n with
  | false => simp [hlive] at h
  | true =>
    cases hqueue : st.queueOf n with
    | none => simp [hlive, hqueue] at h
    | some queue =>
      cases hbacked : queue.databaseBackedQueue with
      | false =>
        simp only [hlive, hqueue, hbacked, Bool.false_eq_true, if_false, Option.some.injEq] at h
        exact h ▸ .kept n reachable queue hlive hqueue (Or.inl hbacked)
      | true =>
        simp only [hlive, hqueue, hbacked, if_true] at h
        cases hreload : reloadQueue st.queues reachable queue with
        | none =>
          simp only [hreload, Option.some.injEq] at h
          exact h ▸ .kept n reachable queue hlive hqueue (Or.inr hreload)
        | some result =>
          cases result with
          | none =>
            simp only [hreload, Option.some.injEq] at h
            exact h ▸ .deleted n reachable queue hlive hqueue hbacked hreload
          | some latest =>
            simp only [hreload, Option.some.injEq] at h
            exact h ▸ .loaded n reachable queue latest hlive hqueue hbacked hreload

theorem managerStep_of_add (h : (managerSystem listening).step st .add = some st') :
    ManagerStep listening st .add st' := by
  unfold managerSystem at h
  cases hphase : st.phase with
  | waiting => simp [hphase] at h
  | collected current => simp [hphase] at h
  | starting rest => simp [hphase] at h
  | adding current rest =>
    cases rest with
    | nil =>
      simp only [hphase, Option.some.injEq] at h
      exact h ▸ .startAll current hphase
    | cons row rest =>
      simp only [hphase, Option.some.injEq] at h
      cases hskips : st.skips listening current row.name with
      | true =>
        rw [hskips, if_pos rfl] at h
        exact h ▸ .skip current row rest hphase hskips
      | false =>
        rw [hskips, if_neg Bool.false_ne_true] at h
        exact h ▸ .add current row rest hphase hskips

theorem managerStep_of_step (h : (managerSystem listening).step st action = some st') :
    ManagerStep listening st action st' := by
  cases action with
  | add => exact managerStep_of_add h
  | reload n reachable => exact managerStep_of_reload h
  | declare queue =>
    unfold managerSystem at h
    simp only [Option.ite_none_left_eq_some, Option.some.injEq] at h
    exact h.2 ▸ .declare queue
  | configure queues =>
    unfold managerSystem at h
    simp only [Option.some.injEq] at h
    exact h ▸ .configure queues
  | collect =>
    unfold managerSystem at h
    cases hphase : st.phase with
    | collected current => simp [hphase] at h
    | adding current rest => simp [hphase] at h
    | starting rest => simp [hphase] at h
    | waiting =>
      cases hstopping : st.stopping with
      | true => simp [hphase, hstopping] at h
      | false =>
        simp only [hphase, hstopping, Option.some.injEq] at h
        exact h ▸ hstopping ▸ .collect hphase hstopping
  | list reachable =>
    unfold managerSystem at h
    cases hphase : st.phase with
    | waiting => simp [hphase] at h
    | adding current rest => simp [hphase] at h
    | starting rest => simp [hphase] at h
    | collected current =>
      simp only [hphase, Option.some.injEq] at h
      exact h ▸ .list reachable current hphase
  | start =>
    unfold managerSystem at h
    cases hphase : st.phase with
    | waiting => simp [hphase] at h
    | collected current => simp [hphase] at h
    | adding current rest => simp [hphase] at h
    | starting rest =>
      cases rest with
      | nil => simp [hphase] at h
      | cons entry rest =>
        simp only [hphase, Option.some.injEq] at h
        exact h ▸ .start entry rest hphase
  | wait =>
    unfold managerSystem at h
    cases hphase : st.phase with
    | waiting => simp [hphase] at h
    | collected current => simp [hphase] at h
    | adding current rest => simp [hphase] at h
    | starting rest =>
      cases rest with
      | nil =>
        simp only [hphase, Option.some.injEq] at h
        exact h ▸ .wait hphase
      | cons entry rest => simp [hphase] at h
  | stop =>
    unfold managerSystem at h
    simp only [Option.some.injEq] at h
    exact h ▸ .stop
  | exit n =>
    unfold managerSystem at h
    cases hstopping : st.stopping with
    | false => simp [hstopping] at h
    | true =>
      cases hlive : st.workers.live n with
      | false => simp [hstopping, hlive] at h
      | true =>
        simp only [hstopping, hlive, Option.some.injEq] at h
        exact h ▸ hstopping ▸ .exit n hlive hstopping
  | fail n =>
    unfold managerSystem at h
    simp only [Option.ite_none_right_eq_some, Option.some.injEq] at h
    exact h.2 ▸ .fail n h.1

/-- Nothing leaves the registry. -/
theorem ManagerStep.registry (hstep : ManagerStep listening st action st') :
    ∀ name ∈ st.registry.keys, name ∈ st'.registry.keys := by
  intro name hmem
  cases hstep with
  | declare queue => exact Dict.mem_keys_set.2 (Or.inl hmem)
  | startAll current hphase =>
    unfold ManagerState.startAll
    cases listening with
    | none => exact hmem
    | some names => exact Dict.mem_keys_set.2 (Or.inl hmem)
  | configure | collect | list | skip | add | start | wait | kept | deleted | loaded | stop | exit
    | fail => exact hmem

theorem name_of_queueFromDbRow {row : QueuesRow} {latest : ConfiguredQueue}
    (h : queueFromDbRow row = .ok latest) : latest.name = row.name := by
  unfold queueFromDbRow ConfiguredQueue.init at h
  split at h
  · exact absurd h (by simp)
  · cases h
    rfl

theorem name_of_reloadQueue {queues : QueuesTable} {reachable : Bool} {latest : ConfiguredQueue}
    (h : reloadQueue queues reachable queue = some (some latest)) : latest.name = queue.name := by
  unfold reloadQueue at h
  cases reachable with
  | false => simp at h
  | true =>
    unfold getQueue at h
    cases hlookup : queues.lookup queue.name with
    | none => simp [hlookup, Except.toOption] at h
    | some row =>
      cases hrow : queueFromDbRow row with
      | error error => simp [hlookup, hrow, Except.toOption, Except.map] at h
      | ok found =>
        simp only [hlookup, hrow, Except.toOption, Except.map, if_true, Option.some.injEq] at h
        rw [← h, name_of_queueFromDbRow hrow]
        exact (queues.lookup_eq_some.1 hlookup).2

/-- A worker keeps the name of its queue, and whether it is in the database. -/
theorem ManagerInvariant.queueOf (h : ManagerInvariant listening st)
    (hqueue : st.queueOf n = some queue) :
    ∃ entry, st.workers.started[n]? = some entry ∧ queue.name = entry.1 ∧
      queue.databaseBackedQueue = entry.2.databaseBackedQueue := by
  unfold ManagerState.queueOf at hqueue
  cases hreloaded : st.reloaded n with
  | none =>
    rw [hreloaded, Option.none_or, Option.map_eq_some_iff] at hqueue
    obtain ⟨entry, hentry, rfl⟩ := hqueue
    exact ⟨entry, hentry, (h.started entry (List.mem_of_getElem? hentry)).name, rfl⟩
  | some latest =>
    rw [hreloaded, Option.some_or, Option.some.injEq] at hqueue
    obtain ⟨entry, hentry, hbacked, hqueueBacked, hname⟩ := h.reloaded n latest hreloaded
    rw [← hqueue]
    exact ⟨entry, hentry, hname, hqueueBacked.trans hbacked.symm⟩

theorem launched_managerInvariant (queues : QueuesTable) :
    ManagerInvariant listening (.launched queues) where
  wellFormed := Pool.wellFormed_empty
  declared := by
    constructor
    · intro name queue hget
      unfold ManagerState.launched at hget
      simp only [Dict.get_set] at hget
      split at hget
      · rename_i hname
        rw [Option.some.injEq] at hget
        rw [← hget, ← hname]
        rfl
      · simp [Dict.get, Table.lookup, Table.empty] at hget
    · exact Dict.mem_keys_set.2 (Or.inr rfl)
  started := by simp [ManagerState.launched, Pool.empty]
  current name queue hget := by
    simp [ManagerState.launched, ManagerPhase.current, Dict.get, Table.lookup, Table.empty] at hget
  rest := by simp [ManagerState.launched, ManagerPhase.rest]
  reloaded n queue h := by simp [ManagerState.launched] at h

/-- A worker ends. -/
theorem ManagerInvariant.retire (h : ManagerInvariant listening st) (n : ℕ) :
    ManagerInvariant listening { st with workers := st.workers.retire n } :=
  { h with wellFormed := h.wellFormed.retire n }

theorem ManagerInvariant.startAll (h : ManagerInvariant listening st)
    {current : Dict String PolledQueue} (hphase : st.phase = .adding current []) :
    ManagerInvariant listening (st.startAll listening current) := by
  have hcurrent : AllFit listening st.registry current := by
    have hfit := h.current
    rw [hphase] at hfit
    exact hfit
  have hnone : ∀ registry, AllFit listening registry .empty := by
    intro registry name queue hget
    simp [Dict.get, Table.lookup, Table.empty] at hget
  unfold ManagerState.startAll
  cases hlistening : listening with
  | none =>
    rw [hlistening] at h hcurrent hnone
    refine ⟨h.wellFormed, h.declared, h.started, hnone _, ?_, h.reloaded⟩
    intro entry hentry
    exact hcurrent _ _ (Dict.get_of_mem hentry)
  | some names =>
    rw [hlistening] at h hcurrent hnone
    have hsub : ∀ name ∈ st.registry.keys,
        name ∈ (st.registry.set internalQueueName internalQueue).keys :=
      fun name hmem ↦ Dict.mem_keys_set.2 (Or.inl hmem)
    have hinternal : Fits (some names) (st.registry.set internalQueueName internalQueue)
        (internalQueueName, internalQueue) := fits_internalQueue (hsub _ h.declared.internal)
    refine ⟨h.wellFormed, h.declared.set rfl, fun entry hentry ↦ (h.started entry hentry).mono hsub,
      hnone _, ?_, h.reloaded⟩
    intro entry hentry
    exact ((hcurrent.mono hsub).set hinternal) _ _ (Dict.get_of_mem hentry)

theorem ManagerInvariant.start (h : ManagerInvariant listening st) {entry : String × PolledQueue}
    {rest : List (String × PolledQueue)} (hphase : st.phase = .starting (entry :: rest)) :
    ManagerInvariant listening { st with
      workers := st.workers.ensure st.workers.live entry.1 entry.2
      phase := .starting rest } := by
  have hrest : ∀ other ∈ entry :: rest, Fits listening st.registry other := by
    have hfit := h.rest
    rw [hphase] at hfit
    exact hfit
  refine ⟨h.wellFormed.ensure _ _ _, h.declared, ?_, ?_, ?_, ?_⟩
  · intro other hother
    rcases Pool.mem_started_ensure hother with hold | rfl
    · exact h.started other hold
    · exact hrest entry List.mem_cons_self
  · intro name queue hget
    simp [ManagerPhase.current, Dict.get, Table.lookup, Table.empty] at hget
  · exact fun other hother ↦ hrest other (List.mem_cons_of_mem entry hother)
  · intro n queue hreloaded
    obtain ⟨old, hold, hfound⟩ := h.reloaded n queue hreloaded
    exact ⟨old, Pool.getElem?_started_ensure hold, hfound⟩

/-- A worker loads its queue. -/
theorem ManagerInvariant.load (h : ManagerInvariant listening st)
    (hqueue : st.queueOf n = some queue) (hbacked : queue.databaseBackedQueue = true)
    {reachable : Bool} {latest : ConfiguredQueue}
    (hloaded : reloadQueue st.queues reachable queue = some (some latest)) :
    ManagerInvariant listening { st with
      reloaded := Function.update st.reloaded n (some latest.fromDb) } := by
  refine { h with reloaded := fun m found hfound ↦ ?_ }
  simp only [Function.update_apply] at hfound
  split at hfound
  · rename_i hm
    rw [Option.some.injEq] at hfound
    obtain ⟨entry, hentry, hname, hentryBacked⟩ := h.queueOf hqueue
    refine ⟨entry, hm ▸ hentry, hentryBacked ▸ hbacked, ?_, ?_⟩
    · rw [← hfound]
      rfl
    · rw [← hfound, ← hname]
      exact name_of_reloadQueue hloaded
  · exact h.reloaded m found hfound

theorem ManagerInvariant.step (h : ManagerInvariant listening st)
    (hstep : (managerSystem listening).step st action = some st') :
    ManagerInvariant listening st' := by
  have hcurrent := h.current
  cases managerStep_of_step hstep with
  | declare queue =>
    have hsub : ∀ name ∈ st.registry.keys, name ∈ (st.registry.set queue.name
        { toConfiguredQueue := queue, databaseBackedQueue := false : PolledQueue }).keys :=
      fun name hmem ↦ Dict.mem_keys_set.2 (Or.inl hmem)
    exact
      { wellFormed := h.wellFormed
        declared := h.declared.set rfl
        started := fun entry hentry ↦ (h.started entry hentry).mono hsub
        current := h.current.mono hsub
        rest := fun entry hentry ↦ (h.rest entry hentry).mono hsub
        reloaded := h.reloaded }
  | configure queues => exact { h with }
  | collect hphase hrunning =>
    exact { h with current := allFit_registered h.declared, rest := List.forall_mem_nil _ }
  | list reachable current hphase =>
    rw [hphase] at hcurrent
    exact { h with current := hcurrent, rest := List.forall_mem_nil _ }
  | skip current row rest hphase hskips =>
    rw [hphase] at hcurrent
    exact { h with current := hcurrent, rest := List.forall_mem_nil _ }
  | add current row rest hphase hskips =>
    rw [hphase] at hcurrent
    have hrow : Fits listening st.registry (row.name, row.fromDb) :=
      fits_fromDb row (ManagerState.listens_of_not_skips hskips)
    exact { h with current := hcurrent.set hrow, rest := List.forall_mem_nil _ }
  | startAll current hphase => exact h.startAll hphase
  | start entry rest hphase => exact h.start hphase
  | wait hphase =>
    rw [hphase] at hcurrent
    exact { h with current := hcurrent, rest := List.forall_mem_nil _ }
  | kept n reachable queue hlive hqueue hkept => exact h
  | deleted n reachable queue hlive hqueue hbacked hdeleted => exact h.retire n
  | loaded n reachable queue latest hlive hqueue hbacked hloaded =>
    exact h.load hqueue hbacked hloaded
  | stop => exact { h with }
  | exit n hlive hstopping => exact h.retire n
  | fail n hlive => exact h.retire n

theorem ManagerInvariant.of_reaches (h : (managerSystem listening).Reaches (.launched queues) st) :
    ManagerInvariant listening st :=
  (managerSystem listening).reaches_invariant (fun _ _ _ hs hstep ↦ hs.step hstep)
    (launched_managerInvariant queues) h

end Invariant

/-! ## One worker for each queue -/

/-- A live worker polls a queue. -/
def ManagerState.Polls (st : ManagerState) (n : ℕ) (queue : PolledQueue) : Prop :=
  st.workers.live n = true ∧ st.queueOf n = some queue

section Workers

variable {listening : Option (List String)} {st st' : ManagerState} {name : String}
  {queue : PolledQueue} {action : ManagerAction} {actions : List ManagerAction}
  {queues : QueuesTable}

/-- A live worker polls a queue under the name that it was started for. -/
theorem ManagerInvariant.exists_polls (h : ManagerInvariant listening st) {n : ℕ}
    (hlive : st.workers.live n = true) : ∃ queue, st.Polls n queue := by
  obtain ⟨key, hget⟩ := h.wellFormed.owned n hlive
  obtain ⟨first, hstarted⟩ := h.wellFormed.tabled key n hget
  unfold ManagerState.Polls ManagerState.queueOf
  rw [hstarted]
  cases hreloaded : st.reloaded n with
  | none => exact ⟨first, hlive, rfl⟩
  | some latest => exact ⟨latest, hlive, rfl⟩

theorem ManagerInvariant.isAlive_iff (h : ManagerInvariant listening st) :
    st.workers.isAlive name = true ↔ ∃ n queue, st.Polls n queue ∧ queue.name = name := by
  rw [h.wellFormed.isAlive_iff]
  constructor
  · rintro ⟨n, first, hlive, hstarted⟩
    obtain ⟨queue, hpolls⟩ := h.exists_polls hlive
    obtain ⟨entry, hentry, hname, -⟩ := h.queueOf hpolls.2
    have heq : entry = (name, first) := Option.some.inj (hentry.symm.trans hstarted)
    exact ⟨n, queue, hpolls, hname.trans (congrArg Prod.fst heq)⟩
  · rintro ⟨n, queue, hpolls, rfl⟩
    obtain ⟨entry, hentry, hname, -⟩ := h.queueOf hpolls.2
    exact ⟨n, entry.2, hpolls.1, hname ▸ hentry⟩

/-- In every run of the manager and its workers, whatever is declared, configured, deleted and
killed meanwhile, no two live workers poll one queue, and every live worker polls a queue that the
process listens to, and that is declared in memory unless it was loaded from the database. -/
theorem manager_oneWorker (h : (managerSystem listening).Reaches (.launched queues) st) :
    (∀ m n left right, st.Polls m left → st.Polls n right → left.name = right.name → m = n) ∧
      ∀ n, st.workers.live n = true → ∃ queue, st.Polls n queue ∧ Listens listening queue.name ∧
        (queue.databaseBackedQueue = false → queue.name ∈ st.registry.keys) := by
  have hinvariant := ManagerInvariant.of_reaches h
  constructor
  · intro m n left right hleft hright hsame
    obtain ⟨first, hfirst, hfirstName, -⟩ := hinvariant.queueOf hleft.2
    obtain ⟨second, hsecond, hsecondName, -⟩ := hinvariant.queueOf hright.2
    have hkey : first.1 = second.1 := by rw [← hfirstName, ← hsecondName, hsame]
    have hsecond' : st.workers.started[n]? = some (first.1, second.2) := by rw [hkey]; exact hsecond
    exact hinvariant.wellFormed.live_unique hleft.1 hright.1 hfirst hsecond'
  · intro n hlive
    obtain ⟨queue, hpolls⟩ := hinvariant.exists_polls hlive
    obtain ⟨entry, hentry, hname, hbacked⟩ := hinvariant.queueOf hpolls.2
    have hfits := hinvariant.started entry (List.mem_of_getElem? hentry)
    refine ⟨queue, hpolls, hname ▸ hfits.listens, ?_⟩
    rw [hname, hbacked]
    exact hfits.declared

def emailsTable : QueuesTable where
  rows := [{ name := "emails" }]
  nodup := by decide

/-- The worker of a queue in the database is killed and started again. -/
def restartedRun : List ManagerAction :=
  [.configure emailsTable, .collect, .list true, .add, .add, .start, .start, .wait, .fail 1,
    .collect, .list true, .add, .add, .start, .start]

theorem manager_oneWorker_restarted :
    ∃ st, (managerSystem none).run (.launched .empty) restartedRun = some st ∧
      (∀ m n left right, st.Polls m left → st.Polls n right → left.name = right.name → m = n) ∧
        ∀ n, st.workers.live n = true → ∃ queue, st.Polls n queue ∧ Listens none queue.name ∧
          (queue.databaseBackedQueue = false → queue.name ∈ st.registry.keys) := by
  obtain ⟨st, hrun⟩ := Option.isSome_iff_exists.1
    (by decide +kernel : ((managerSystem none).run (.launched .empty) restartedRun).isSome = true)
  exact ⟨st, hrun, manager_oneWorker ⟨restartedRun, hrun⟩⟩

/-! ## A pass of the manager -/

/-- A pass has collected a queue, and has not come to it yet. -/
def ManagerPhase.Collects (listening : Option (List String)) (name : String) : ManagerPhase → Prop
  | .waiting => False
  | .collected current | .adding current _ =>
    name ∈ current.keys ∨ listening.isSome = true ∧ name = internalQueueName
  | .starting rest => name ∈ rest.map Prod.fst

/-- A pass goes through a list in which a queue is still to come. -/
def ManagerPhase.Lists (name : String) : ManagerPhase → Prop
  | .adding _ rest => ∃ row ∈ rest, row.name = name
  | _ => False

theorem collects_startAll {current : Dict String PolledQueue}
    (h : name ∈ current.keys ∨ listening.isSome = true ∧ name = internalQueueName) :
    (st.startAll listening current).phase.Collects listening name := by
  unfold ManagerState.startAll
  cases listening with
  | none => exact h.resolve_right (by simp)
  | some names =>
    change name ∈ (current.set internalQueueName internalQueue).keys
    rw [Dict.mem_keys_set]
    exact h.imp id And.right

/-- A queue that has been collected is kept until its worker is live. -/
theorem ManagerInvariant.step_collects (h : ManagerInvariant listening st)
    (hstep : (managerSystem listening).step st action = some st')
    (hcollects : st.phase.Collects listening name) :
    st'.phase.Collects listening name ∨ st'.workers.isAlive name = true := by
  cases managerStep_of_step hstep with
  | collect hphase hrunning =>
    rw [hphase] at hcollects
    exact hcollects.elim
  | list reachable current hphase =>
    rw [hphase] at hcollects
    exact Or.inl hcollects
  | skip current row rest hphase hskips =>
    rw [hphase] at hcollects
    exact Or.inl hcollects
  | add current row rest hphase hskips =>
    rw [hphase] at hcollects
    exact Or.inl (hcollects.imp (fun hmem ↦ Dict.mem_keys_set.2 (Or.inl hmem)) id)
  | startAll current hphase =>
    rw [hphase] at hcollects
    exact Or.inl (collects_startAll hcollects)
  | start entry rest hphase =>
    rw [hphase] at hcollects
    rcases List.mem_cons.1 hcollects with rfl | hrest
    · exact Or.inr (h.wellFormed.isAlive_ensure.2 (Or.inl rfl))
    · exact Or.inl hrest
  | wait hphase =>
    rw [hphase] at hcollects
    exact absurd hcollects (by simp [ManagerPhase.Collects])
  | declare | configure | kept | deleted | loaded | stop | exit | fail => exact Or.inl hcollects

/-- A listed queue is collected, unless it has a worker or has been declared meanwhile. -/
theorem step_lists (hlistens : Listens listening name)
    (hstep : (managerSystem listening).step st action = some st') (hlists : st.phase.Lists name) :
    st'.phase.Lists name ∨ st'.phase.Collects listening name ∨ st.workers.isAlive name = true ∨
      name ∈ st.registry.keys := by
  cases managerStep_of_step hstep with
  | skip current row rest hphase hskips =>
    rw [hphase] at hlists
    obtain ⟨found, hfound, rfl⟩ := hlists
    rcases List.mem_cons.1 hfound with rfl | hrest
    · rcases ManagerState.of_skips hskips hlistens with hcurrent | hinternal | hdeclared | halive
      · exact Or.inr (Or.inl (Or.inl hcurrent))
      · exact Or.inr (Or.inl (Or.inr hinternal))
      · exact Or.inr (Or.inr (Or.inr hdeclared))
      · exact Or.inr (Or.inr (Or.inl halive))
    · exact Or.inl ⟨found, hrest, rfl⟩
  | add current row rest hphase hskips =>
    rw [hphase] at hlists
    obtain ⟨found, hfound, rfl⟩ := hlists
    rcases List.mem_cons.1 hfound with rfl | hrest
    · exact Or.inr (Or.inl (Or.inl (Dict.mem_keys_set.2 (Or.inr rfl))))
    · exact Or.inl ⟨found, hrest, rfl⟩
  | startAll current hphase =>
    rw [hphase] at hlists
    exact absurd hlists (by simp [ManagerPhase.Lists])
  | collect hphase | list _ _ hphase | start _ _ hphase | wait hphase =>
    rw [hphase] at hlists
    exact hlists.elim
  | declare | configure | kept | deleted | loaded | stop | exit | fail => exact Or.inl hlists

/-- At some moment of a run, a live worker polls the queue. -/
def ServedDuring (listening : Option (List String)) (st : ManagerState)
    (actions : List ManagerAction) (name : String) : Prop :=
  ∃ before after middle, actions = before ++ after ∧
    (managerSystem listening).run st before = some middle ∧
      ∃ n queue, middle.Polls n queue ∧ queue.name = name

theorem servedDuring_of_isAlive (h : ManagerInvariant listening st)
    (halive : st.workers.isAlive name = true) : ServedDuring listening st actions name :=
  ⟨[], actions, st, rfl, rfl, h.isAlive_iff.1 halive⟩

theorem ServedDuring.cons (hstep : (managerSystem listening).step st action = some st')
    (h : ServedDuring listening st' actions name) :
    ServedDuring listening st (action :: actions) name := by
  obtain ⟨before, after, middle, rfl, hrun, hpolls⟩ := h
  refine ⟨action :: before, after, middle, rfl, ?_, hpolls⟩
  rw [System.run_cons, hstep]
  exact hrun

/-- A run after which nothing is left to start has served what had been collected. -/
theorem ManagerInvariant.servedDuring_of_collects (h : ManagerInvariant listening st)
    (hcollects : st.phase.Collects listening name)
    (hrun : (managerSystem listening).run st actions = some st')
    (hdone : st'.phase = .starting []) :
    ServedDuring listening st actions name := by
  induction actions generalizing st with
  | nil =>
    obtain rfl := Option.some.inj hrun
    rw [hdone] at hcollects
    exact absurd hcollects (by simp [ManagerPhase.Collects])
  | cons action rest ih =>
    rw [System.run_cons, Option.bind_eq_some_iff] at hrun
    obtain ⟨next, hstep, hrest⟩ := hrun
    rcases h.step_collects hstep hcollects with hnext | halive
    · exact (ih (h.step hstep) hnext hrest).cons hstep
    · exact (servedDuring_of_isAlive (h.step hstep) halive).cons hstep

theorem mem_registry_of_run (hmem : name ∈ st.registry.keys)
    (hrun : (managerSystem listening).run st actions = some st') : name ∈ st'.registry.keys :=
  (managerSystem listening).reaches_invariant
    (fun _ _ _ hs hstep ↦ (managerStep_of_step hstep).registry _ hs) hmem ⟨actions, hrun⟩

/-- So it has what had been listed, but for what has been declared in memory. -/
theorem ManagerInvariant.servedDuring_of_lists (h : ManagerInvariant listening st)
    (hlistens : Listens listening name) (hlists : st.phase.Lists name)
    (hrun : (managerSystem listening).run st actions = some st')
    (hdone : st'.phase = .starting []) :
    ServedDuring listening st actions name ∨ name ∈ st'.registry.keys := by
  induction actions generalizing st with
  | nil =>
    obtain rfl := Option.some.inj hrun
    rw [hdone] at hlists
    exact hlists.elim
  | cons action rest ih =>
    have hall := hrun
    rw [System.run_cons, Option.bind_eq_some_iff] at hrun
    obtain ⟨next, hstep, hrest⟩ := hrun
    rcases step_lists hlistens hstep hlists with hnext | hcollects | halive | hdeclared
    · exact (ih (h.step hstep) hnext hrest).imp (fun hserved ↦ hserved.cons hstep) id
    · exact Or.inl (((h.step hstep).servedDuring_of_collects hcollects hrest hdone).cons hstep)
    · exact Or.inl (servedDuring_of_isAlive h halive)
    · exact Or.inr (mem_registry_of_run hdeclared hall)

variable (listening) in
theorem exists_run_starting (rest : List (String × PolledQueue))
    (hphase : st.phase = .starting rest) :
    ∃ actions st', (managerSystem listening).run st actions = some st' ∧
      st'.phase = .starting [] := by
  induction rest generalizing st with
  | nil => exact ⟨[], st, rfl, hphase⟩
  | cons entry rest ih =>
    let next : ManagerState := { st with
      workers := st.workers.ensure st.workers.live entry.1 entry.2
      phase := .starting rest }
    have hstep : (managerSystem listening).step st .start = some next := by
      simp only [managerSystem, hphase, next]
    have hnext : next.phase = .starting rest := rfl
    obtain ⟨actions, st', hrun, hdone⟩ := ih hnext
    refine ⟨.start :: actions, st', ?_, hdone⟩
    rw [System.run_cons, hstep]
    exact hrun

variable (listening) in
theorem exists_run_adding (current : Dict String PolledQueue) (rest : List ConfiguredQueue)
    (hphase : st.phase = .adding current rest) :
    ∃ actions st', (managerSystem listening).run st actions = some st' ∧
      st'.phase = .starting [] := by
  induction rest generalizing st current with
  | nil =>
    have hstep : (managerSystem listening).step st .add = some (st.startAll listening current) := by
      simp only [managerSystem, hphase]
    obtain ⟨queues, hstarting⟩ : ∃ queues, (st.startAll listening current).phase =
        .starting queues := by
      unfold ManagerState.startAll
      cases listening with
      | none => exact ⟨_, rfl⟩
      | some names => exact ⟨_, rfl⟩
    obtain ⟨actions, st', hrun, hdone⟩ := exists_run_starting listening queues hstarting
    refine ⟨.add :: actions, st', ?_, hdone⟩
    rw [System.run_cons, hstep]
    exact hrun
  | cons row rest ih =>
    let added := if st.skips listening current row.name then current
      else current.set row.name row.fromDb
    let next : ManagerState := { st with phase := .adding added rest }
    have hstep : (managerSystem listening).step st .add = some next := by
      simp only [managerSystem, hphase, next, added]
    have hnext : next.phase = .adding added rest := rfl
    obtain ⟨actions, st', hrun, hdone⟩ := ih added hnext
    refine ⟨.add :: actions, st', ?_, hdone⟩
    rw [System.run_cons, hstep]
    exact hrun

/-- A pass that is left alone comes to its end. -/
theorem exists_run_pass (hphase : st.phase = .waiting) (hrunning : st.stopping = false)
    (reachable : Bool) :
    ∃ actions st', (managerSystem listening).run st (.collect :: .list reachable :: actions) =
      some st' ∧ st'.phase = .starting [] := by
  have hcollect : (managerSystem listening).step st .collect = some
      { st with phase := .collected (registered listening st.registry) } := by
    simp only [managerSystem, hphase, hrunning]
  let next : ManagerState := { st with
    phase := .adding (registered listening st.registry) (listedQueues st.queues reachable) }
  have hnext : next.phase = .adding (registered listening st.registry)
      (listedQueues st.queues reachable) := rfl
  obtain ⟨actions, st', hrun, hdone⟩ := exists_run_adding listening _ _ hnext
  refine ⟨actions, st', ?_, hdone⟩
  rw [System.run_cons, hcollect, Option.bind_some, System.run_cons]
  exact hrun

/-- A pass of the manager comes to its end if it is left alone, whether it reaches the database or
not. Whatever happens meanwhile, by the end of a pass every queue of the registry to which the
process listens has had a live worker at some moment, and so has every queue that the pass lists,
unless it has been declared in memory. -/
theorem manager_pass_serves (h : (managerSystem listening).Reaches (.launched queues) st)
    (hphase : st.phase = .waiting) (hrunning : st.stopping = false) :
    (∀ reachable, ∃ actions st', (managerSystem listening).run st
        (.collect :: .list reachable :: actions) = some st' ∧ st'.phase = .starting []) ∧
      ∀ actions st', (managerSystem listening).run st (.collect :: actions) = some st' →
        st'.phase = .starting [] → ∀ name, Listens listening name →
          (name ∈ st.registry.keys → ServedDuring listening st (.collect :: actions) name) ∧
          ∀ before after middle listed, actions = before ++ .list true :: after →
            (managerSystem listening).run st (.collect :: before) = some middle →
              listQueues middle.queues = .ok listed → name ∈ listed.map ConfiguredQueue.name →
                ServedDuring listening middle (.list true :: after) name ∨
                  name ∈ st'.registry.keys := by
  have hinvariant := ManagerInvariant.of_reaches h
  refine ⟨exists_run_pass hphase hrunning, fun actions st' hrun hdone name hlistens ↦ ⟨?_, ?_⟩⟩
  · intro hmem
    rw [System.run_cons, Option.bind_eq_some_iff] at hrun
    obtain ⟨next, hstep, hrest⟩ := hrun
    refine ((hinvariant.step hstep).servedDuring_of_collects ?_ hrest hdone).cons hstep
    cases managerStep_of_step hstep with
    | collect hphase hrunning => exact mem_keys_registered hmem hlistens
  · rintro before after middle listed rfl hbefore hlisted hname
    have hmiddle : ManagerInvariant listening middle :=
      (managerSystem listening).reaches_invariant (fun _ _ _ hs hstep ↦ hs.step hstep) hinvariant
        ⟨_, hbefore⟩
    rw [← List.cons_append, System.run_append, hbefore, Option.bind_some, System.run_cons,
      Option.bind_eq_some_iff] at hrun
    obtain ⟨next, hstep, hrest⟩ := hrun
    have hlists : next.phase.Lists name := by
      cases managerStep_of_step hstep with
      | list reachable current hphase =>
        obtain ⟨row, hrow, hrowName⟩ := List.mem_map.1 hname
        refine ⟨row, ?_, hrowName⟩
        unfold listedQueues
        rw [hlisted]
        exact hrow
    exact ((hmiddle.step hstep).servedDuring_of_lists hlistens hlists hrest hdone).imp
      (fun hserved ↦ hserved.cons hstep) id

end Workers

theorem manager_pass_serves_emails :
    ∃ st, (managerSystem none).run (.launched .empty) [.configure emailsTable] = some st ∧
      (∀ reachable, ∃ actions st', (managerSystem none).run st
          (.collect :: .list reachable :: actions) = some st' ∧ st'.phase = .starting []) ∧
        ∀ actions st', (managerSystem none).run st (.collect :: actions) = some st' →
          st'.phase = .starting [] → ∀ name, Listens none name →
            (name ∈ st.registry.keys → ServedDuring none st (.collect :: actions) name) ∧
            ∀ before after middle listed, actions = before ++ .list true :: after →
              (managerSystem none).run st (.collect :: before) = some middle →
                listQueues middle.queues = .ok listed → name ∈ listed.map ConfiguredQueue.name →
                  ServedDuring none middle (.list true :: after) name ∨
                    name ∈ st'.registry.keys :=
  ⟨_, rfl, manager_pass_serves ⟨[.configure emailsTable], rfl⟩ rfl rfl⟩

end DBOSModel.Queue

import DBOSModel.Relational.Execution
import DBOSModel.SysDb.Schema

/-!
# The configuration of queues

`register_queue` and the setters of a database-backed queue write the queues table, and every
reader builds `Queue` objects from its rows, so a row that the constructor rejects breaks all of
them. `set_concurrency` and `set_worker_concurrency` check their value against a row they read in
one transaction and write their own column in a later one.

A run interleaves calls of any number of clients, one transaction at a time. Every row stays
loadable exactly if each of these two checks, made again when its write is applied, still passes,
and SQLite is given no limiter with a NaN for its period. The checks accept a NaN, which SQLite
stores as NULL.
-/

namespace DBOSModel.Queue

open Relational SysDb

/-- A `float`. -/
inductive PyFloat where
  | finite (value : ℚ)
  | infinity (negative : Bool)
  | nan
deriving DecidableEq

/-- `value <= 0.0`. -/
def PyFloat.leZero : PyFloat → Bool
  | .finite value => decide (value ≤ 0)
  | .infinity negative => negative
  | .nan => false

/-- The database stores the value as it is. SQLite stores NULL for a NaN. -/
def storesFloat (dialect : Dialect) (value : PyFloat) : Bool :=
  !(dialect == .sqlite && value == .nan)

/-- A `QueueRateLimit` as a caller passes it: a dictionary whose keys can be missing. -/
structure RateLimitArg where
  limit : Option ℤ := none
  period : Option PyFloat := none
deriving DecidableEq

def RateLimitArg.isComplete (limiter : RateLimitArg) : Bool :=
  limiter.limit.isSome && limiter.period.isSome

/-- Both limits are set, and the one of a worker is the larger. -/
def exceedsConcurrency (workerConcurrency concurrency : Option ℤ) : Bool :=
  match workerConcurrency, concurrency with
  | some worker, some total => decide (total < worker)
  | _, _ => false

theorem exceedsConcurrency_eq_false {workerConcurrency concurrency : Option ℤ} :
    exceedsConcurrency workerConcurrency concurrency = false ↔
      ∀ worker ∈ workerConcurrency, ∀ total ∈ concurrency, worker ≤ total := by
  cases workerConcurrency with
  | none => simp [exceedsConcurrency]
  | some worker =>
    cases concurrency with
    | none => simp [exceedsConcurrency]
    | some total => simp [exceedsConcurrency]

/-! ## Queue objects -/

/-- `_validate_queue`. -/
def validateQueue (concurrency workerConcurrency : Option ℤ) (pollingIntervalSec : PyFloat)
    (limiter : Option RateLimitArg) : Except DBOSError Unit :=
  if exceedsConcurrency workerConcurrency concurrency then
    .error (.valueError "concurrency must be greater than or equal to worker_concurrency")
  else if pollingIntervalSec.leZero then
    .error (.valueError "polling_interval_sec must be positive")
  else if limiter.any fun limiter ↦ !limiter.isComplete then
    .error (.valueError "limiter must specify both 'limit' and 'period'")
  else .ok ()

theorem validateQueue_eq_ok {concurrency workerConcurrency : Option ℤ} {pollingIntervalSec : PyFloat}
    {limiter : Option RateLimitArg} :
    validateQueue concurrency workerConcurrency pollingIntervalSec limiter = .ok () ↔
      exceedsConcurrency workerConcurrency concurrency = false ∧
        pollingIntervalSec.leZero = false ∧ ∀ arg ∈ limiter, arg.isComplete := by
  unfold validateQueue
  split
  · simp_all
  · split
    · simp_all
    · split
      · cases limiter <;> simp_all
      · cases limiter <;> simp_all

/-- A `Queue` object. The constructor has checked it, so the fields say what it checks. -/
structure ConfiguredQueue where
  name : String
  concurrency : Option ℤ
  limiter : Option RateLimitArg
  workerConcurrency : Option ℤ
  priorityEnabled : Bool
  partitionQueue : Bool
  pollingIntervalSec : PyFloat
  worker_le : exceedsConcurrency workerConcurrency concurrency = false
  polling_pos : pollingIntervalSec.leZero = false
  limiter_complete : ∀ arg ∈ limiter, arg.isComplete

/-- `Queue.__init__` of a database-backed queue. -/
def ConfiguredQueue.init (name : String) (concurrency : Option ℤ) (limiter : Option RateLimitArg)
    (workerConcurrency : Option ℤ) (priorityEnabled partitionQueue : Bool)
    (pollingIntervalSec : PyFloat) : Except DBOSError ConfiguredQueue :=
  match h : validateQueue concurrency workerConcurrency pollingIntervalSec limiter with
  | .error e => .error e
  | .ok () => .ok
    { name := name
      concurrency := concurrency
      limiter := limiter
      workerConcurrency := workerConcurrency
      partitionQueue := partitionQueue
      priorityEnabled := priorityEnabled
      pollingIntervalSec := pollingIntervalSec
      worker_le := (validateQueue_eq_ok.mp h).1
      polling_pos := (validateQueue_eq_ok.mp h).2.1
      limiter_complete := (validateQueue_eq_ok.mp h).2.2 }

/-! ## The table -/

structure QueuesRow where
  name : String
  concurrency : Option ℤ := none
  workerConcurrency : Option ℤ := none
  rateLimitMax : Option ℤ := none
  rateLimitPeriodSec : Option PyFloat := none
  priorityEnabled : Bool := false
  partitionQueue : Bool := false
  pollingIntervalSec : PyFloat := .finite 1
deriving DecidableEq

abbrev QueuesTable := Table QueuesRow.name

/-- The constraints that the constructor of `Queue` puts on a row. -/
structure QueuesRow.Valid (row : QueuesRow) : Prop where
  worker_le : ∀ worker ∈ row.workerConcurrency, ∀ total ∈ row.concurrency, worker ≤ total
  polling_pos : row.pollingIntervalSec.leZero = false
  limiter_complete : row.rateLimitMax.isSome → row.rateLimitPeriodSec.isSome

/-- The limiter dictionary that `queue_from_db_row` builds. -/
def QueuesRow.limiter (row : QueuesRow) : Option RateLimitArg :=
  row.rateLimitMax.map fun limit ↦ ⟨some limit, row.rateLimitPeriodSec⟩

/-- `queue_from_db_row`. -/
def queueFromDbRow (row : QueuesRow) : Except DBOSError ConfiguredQueue :=
  ConfiguredQueue.init row.name row.concurrency row.limiter row.workerConcurrency
    row.priorityEnabled row.partitionQueue row.pollingIntervalSec

/-- `get_queue`. -/
def getQueue (name : String) (queues : QueuesTable) : Except DBOSError (Option ConfiguredQueue) :=
  match queues.lookup name with
  | none => .ok none
  | some row => (queueFromDbRow row).map some

/-- `list_queues`. -/
def listQueues (queues : QueuesTable) : Except DBOSError (List ConfiguredQueue) :=
  queues.rows.mapM queueFromDbRow

/-- The error of a write that stores NULL for the polling interval. -/
def pollingIntervalNull : DBOSError :=
  .exception "NOT NULL constraint failed: queues.polling_interval_sec"

/-- The row as the database stores it. -/
def QueuesRow.stored (dialect : Dialect) (row : QueuesRow) : QueuesRow :=
  { row with rateLimitPeriodSec := row.rateLimitPeriodSec.filter (storesFloat dialect) }

/-- `upsert_queue`, and whether it inserted the row. -/
def upsertQueue (dialect : Dialect) (row : QueuesRow) (updateExisting : Bool)
    (queues : QueuesTable) : Except DBOSError (Bool × QueuesTable) :=
  if storesFloat dialect row.pollingIntervalSec then
    .ok ((queues.lookup row.name).isNone,
      if updateExisting then
        queues.upsert (row.stored dialect) fun old ↦ { row.stored dialect with name := old.name }
      else queues.insertIgnore (row.stored dialect))
  else .error pollingIntervalNull

/-- The dictionary of `update_queue`. A column that it does not name is left alone. -/
structure QueueFields where
  concurrency : Option (Option ℤ) := none
  workerConcurrency : Option (Option ℤ) := none
  rateLimitMax : Option (Option ℤ) := none
  rateLimitPeriodSec : Option (Option PyFloat) := none
  priorityEnabled : Option Bool := none
  partitionQueue : Option Bool := none
  pollingIntervalSec : Option PyFloat := none
deriving DecidableEq

def QueueFields.assign (fields : QueueFields) (row : QueuesRow) : QueuesRow :=
  { name := row.name
    concurrency := fields.concurrency.getD row.concurrency
    workerConcurrency := fields.workerConcurrency.getD row.workerConcurrency
    rateLimitMax := fields.rateLimitMax.getD row.rateLimitMax
    rateLimitPeriodSec := fields.rateLimitPeriodSec.getD row.rateLimitPeriodSec
    priorityEnabled := fields.priorityEnabled.getD row.priorityEnabled
    partitionQueue := fields.partitionQueue.getD row.partitionQueue
    pollingIntervalSec := fields.pollingIntervalSec.getD row.pollingIntervalSec }

/-- The columns as the database stores them. -/
def QueueFields.stored (dialect : Dialect) (fields : QueueFields) : QueueFields :=
  { fields with
    rateLimitPeriodSec := fields.rateLimitPeriodSec.map (Option.filter (storesFloat dialect)) }

/-- `update_queue`. -/
def updateQueue (dialect : Dialect) (name : String) (fields : QueueFields) (queues : QueuesTable) :
    Except DBOSError QueuesTable :=
  if fields = {} then .ok queues
  else if (queues.lookup name).isSome && fields.pollingIntervalSec.any (!storesFloat dialect ·) then
    .error pollingIntervalNull
  else .ok (queues.update (fun row ↦ row.name = name) (fields.stored dialect).assign)

/-- `delete_queue`. -/
def deleteQueue (name : String) (queues : QueuesTable) : QueuesTable :=
  queues.delete fun row ↦ row.name = name

/-! ## Setters -/

/-- What the setters of `Queue` differ in: a check of the value alone, a check against the row as
`_read_from_db` loads it, and the columns they write. -/
structure Setter where
  validate : Except DBOSError Unit := .ok ()
  check : Option (ConfiguredQueue → Except DBOSError Unit) := none
  fields : QueueFields

def setConcurrency (value : Option ℤ) : Setter where
  check := some fun latest ↦
    if exceedsConcurrency latest.workerConcurrency value then
      .error (.valueError "worker_concurrency must be less than or equal to concurrency")
    else .ok ()
  fields := { concurrency := some value }

def setWorkerConcurrency (value : Option ℤ) : Setter where
  check := some fun latest ↦
    if exceedsConcurrency value latest.concurrency then
      .error (.valueError "worker_concurrency must be less than or equal to concurrency")
    else .ok ()
  fields := { workerConcurrency := some value }

def setLimiter (value : Option RateLimitArg) : Setter where
  validate :=
    if value.any fun limiter ↦ !limiter.isComplete then
      .error (.valueError "limiter must specify both 'limit' and 'period'")
    else .ok ()
  fields :=
    { rateLimitMax := some (value.bind RateLimitArg.limit)
      rateLimitPeriodSec := some (value.bind RateLimitArg.period) }

def setPriorityEnabled (value : Bool) : Setter where
  fields := { priorityEnabled := some value }

def setPartitionQueue (value : Bool) : Setter where
  fields := { partitionQueue := some value }

def setPollingIntervalSec (value : PyFloat) : Setter where
  validate :=
    if value.leZero then .error (.valueError "polling_interval_sec must be positive") else .ok ()
  fields := { pollingIntervalSec := some value }

/-- A call of a setter. -/
inductive SetCall where
  | concurrency (value : Option ℤ)
  | workerConcurrency (value : Option ℤ)
  | limiter (value : Option RateLimitArg)
  | priorityEnabled (value : Bool)
  | partitionQueue (value : Bool)
  | pollingIntervalSec (value : PyFloat)
deriving DecidableEq

def SetCall.setter : SetCall → Setter
  | .concurrency value => setConcurrency value
  | .workerConcurrency value => setWorkerConcurrency value
  | .limiter value => setLimiter value
  | .priorityEnabled value => setPriorityEnabled value
  | .partitionQueue value => setPartitionQueue value
  | .pollingIntervalSec value => setPollingIntervalSec value

/-! ## Calls, one transaction at a time -/

inductive QueueConflictResolution where
  | updateIfLatestVersion
  | alwaysUpdate
  | neverUpdate
deriving DecidableEq

/-- Who registers a queue: a process, with its own version and the answer of
`get_latest_application_version`, or a client. -/
inductive Registrar where
  | dbos (appVersion : String) (latestVersion : Except DBOSError String)
  | client

/-- The arguments of `register_queue`. -/
structure Registration where
  name : String
  workerConcurrency : Option ℤ := none
  concurrency : Option ℤ := none
  limiter : Option RateLimitArg := none
  priorityEnabled : Bool := false
  partitionQueue : Bool := false
  pollingIntervalSec : PyFloat := .finite 1
  onConflict : QueueConflictResolution

/-- The row that `register_queue` passes to `upsert_queue`. A limiter that passed the validation
has both keys. -/
def Registration.row (args : Registration) : QueuesRow where
  name := args.name
  concurrency := args.concurrency
  workerConcurrency := args.workerConcurrency
  rateLimitMax := args.limiter.bind RateLimitArg.limit
  rateLimitPeriodSec := args.limiter.bind RateLimitArg.period
  priorityEnabled := args.priorityEnabled
  partitionQueue := args.partitionQueue
  pollingIntervalSec := args.pollingIntervalSec

/-- `update_existing` of `register_queue`. -/
def Registrar.updateExisting (registrar : Registrar) (onConflict : QueueConflictResolution) :
    Except DBOSError Bool :=
  match onConflict, registrar with
  | .alwaysUpdate, _ => .ok true
  | .neverUpdate, _ => .ok false
  | .updateIfLatestVersion, .dbos appVersion latestVersion =>
    latestVersion.map fun latest ↦ decide (latest = appVersion)
  | .updateIfLatestVersion, .client =>
    .error (.dbosException ("DBOSClient.register_queue does not support " ++
      "on_conflict='update_if_latest_version' because clients are " ++
      "not associated with an application version. Use " ++
      "'always_update' or 'never_update'."))

/-- The transaction that a client's call makes next, or how the call ended. -/
inductive ConfigPhase where
  | idle
  | upsert (row : QueuesRow) (updateExisting : Bool)
  | retrieve (name : String)
  | read (name : String) (call : SetCall)
  | write (name : String) (call : SetCall)
  | returned (queue : Option ConfiguredQueue)
  | raised (e : DBOSError)

/-- `register_queue`, up to its first write. -/
def registerQueue (registrar : Registrar) (args : Registration) : ConfigPhase :=
  match validateQueue args.concurrency args.workerConcurrency args.pollingIntervalSec
      args.limiter with
  | .error e => .raised e
  | .ok () =>
    match registrar.updateExisting args.onConflict with
    | .error e => .raised e
    | .ok updateExisting => .upsert args.row updateExisting

/-- A setter, up to its first transaction. -/
def SetCall.begin (name : String) (databaseBackedQueue : Bool) (call : SetCall) : ConfigPhase :=
  if databaseBackedQueue then
    match call.setter.validate with
    | .error e => .raised e
    | .ok () => if call.setter.check.isSome then .read name call else .write name call
  else
    .raised (.dbosException (s!"Cannot configure queue {name}: dynamic configuration is " ++
      "only supported for queues registered via DBOS.register_queue."))

/-- `_read_from_db`. -/
def readFromDb (name : String) (queues : QueuesTable) : Except DBOSError ConfiguredQueue :=
  match getQueue name queues with
  | .error e => .error e
  | .ok none => .error (.dbosException s!"Queue {name} not found in the database")
  | .ok (some latest) => .ok latest

/-- The next transaction of a call. -/
def ConfigPhase.transaction (dialect : Dialect) (queues : QueuesTable) :
    ConfigPhase → Option (QueuesTable × ConfigPhase)
  | .upsert row updateExisting => some (
    match upsertQueue dialect row updateExisting queues with
    | .error e => (queues, .raised e)
    | .ok (_, queues') => (queues', .retrieve row.name))
  | .retrieve name => some (queues,
    match getQueue name queues with
    | .error e => .raised e
    | .ok none =>
      .raised (.assertionError s!"Queue {name} missing from database after upsert")
    | .ok (some queue) => .returned (some queue))
  | .read name call => some (queues,
    match readFromDb name queues with
    | .error e => .raised e
    | .ok latest =>
      match call.setter.check with
      | none => .write name call
      | some check =>
        match check latest with
        | .error e => .raised e
        | .ok () => .write name call)
  | .write name call => some (
    match updateQueue dialect name call.setter.fields queues with
    | .error e => (queues, .raised e)
    | .ok queues' => (queues', .returned none))
  | .idle => none
  | .returned _ => none
  | .raised _ => none

structure ConfigState where
  queues : QueuesTable
  phase : ℕ → ConfigPhase

inductive ConfigAction where
  | register (client : ℕ) (registrar : Registrar) (args : Registration)
  | set (client : ℕ) (name : String) (databaseBackedQueue : Bool) (call : SetCall)
  | transaction (client : ℕ)
  | delete (name : String)

def ConfigState.initial : ConfigState where
  queues := .empty
  phase := fun _ ↦ .idle

/-- A client that is not between two transactions can make a call. A client that stops there
leaves its call unfinished. -/
def configSystem (dialect : Dialect) : System ConfigState ConfigAction where
  step s
    | .register client registrar args =>
      if ((s.phase client).transaction dialect s.queues).isNone then
        some { s with phase := Function.update s.phase client (registerQueue registrar args) }
      else none
    | .set client name databaseBackedQueue call =>
      if ((s.phase client).transaction dialect s.queues).isNone then
        some { s with
          phase := Function.update s.phase client (call.begin name databaseBackedQueue) }
      else none
    | .transaction client =>
      ((s.phase client).transaction dialect s.queues).map fun result ↦
        { queues := result.1
          phase := Function.update s.phase client result.2 }
    | .delete name => some { s with queues := deleteQueue name s.queues }

/-! ## Loading rows -/

theorem init_eq_ok {name : String} {concurrency workerConcurrency : Option ℤ}
    {limiter : Option RateLimitArg} {priorityEnabled partitionQueue : Bool} {pollingIntervalSec : PyFloat}
    (h : validateQueue concurrency workerConcurrency pollingIntervalSec limiter = .ok ()) :
    ∃ queue, ConfiguredQueue.init name concurrency limiter workerConcurrency priorityEnabled
        partitionQueue pollingIntervalSec = .ok queue ∧
      queue.concurrency = concurrency ∧ queue.workerConcurrency = workerConcurrency := by
  unfold ConfiguredQueue.init
  split
  · rename_i herror
    rw [h] at herror
    cases herror
  · exact ⟨_, rfl, rfl, rfl⟩
/-- The validation accepts what the table stores exactly if the row is valid. -/
theorem QueuesRow.validateQueue_iff (row : QueuesRow) :
    validateQueue row.concurrency row.workerConcurrency row.pollingIntervalSec row.limiter = .ok () ↔
      row.Valid := by
  have hlimiter : (∀ arg ∈ row.limiter, arg.isComplete) ↔
      (row.rateLimitMax.isSome → row.rateLimitPeriodSec.isSome) := by
    cases hmax : row.rateLimitMax with
    | none => simp [QueuesRow.limiter, hmax]
    | some limit => simp [QueuesRow.limiter, hmax, RateLimitArg.isComplete]
  rw [validateQueue_eq_ok, exceedsConcurrency_eq_false, hlimiter]
  exact ⟨fun h ↦ ⟨h.1, h.2.1, h.2.2⟩, fun h ↦ ⟨h.1, h.2, h.3⟩⟩

/-- A valid row loads, with the two limits it stores. -/
theorem QueuesRow.Valid.queueFromDbRow {row : QueuesRow} (h : row.Valid) :
    ∃ queue, Queue.queueFromDbRow row = .ok queue ∧ queue.concurrency = row.concurrency ∧
      queue.workerConcurrency = row.workerConcurrency :=
  init_eq_ok (row.validateQueue_iff.mpr h)
/-- Every row is valid, and neither loading a queue nor listing the queues raises. -/
structure Loads (queues : QueuesTable) : Prop where
  valid : ∀ row ∈ queues.rows, row.Valid
  get : ∀ name, ∃ queue, getQueue name queues = .ok queue
  list : ∃ loaded, listQueues queues = .ok loaded

theorem loads_of_valid {queues : QueuesTable} (h : ∀ row ∈ queues.rows, row.Valid) :
    Loads queues := by
  refine ⟨h, fun name ↦ ?_, ?_⟩
  · cases hlookup : queues.lookup name with
    | none => exact ⟨none, by simp [getQueue, hlookup]⟩
    | some row =>
      obtain ⟨queue, hqueue, -⟩ := (h row (queues.lookup_eq_some.mp hlookup).1).queueFromDbRow
      exact ⟨some queue, by simp [getQueue, hlookup, hqueue, Except.map]⟩
  · unfold listQueues
    generalize queues.rows = rows at h
    induction rows with
    | nil => exact ⟨[], rfl⟩
    | cons row rest ih =>
      obtain ⟨queue, hqueue, -⟩ := (h row List.mem_cons_self).queueFromDbRow
      obtain ⟨loaded, hloaded⟩ := ih fun other hother ↦ h other (List.mem_cons_of_mem row hother)
      exact ⟨queue :: loaded, by simp [List.mapM_cons, hqueue, hloaded, bind, Except.bind, pure,
        Except.pure]⟩

/-! ## Writes -/

/-- A valid row whose limiter has both columns or none stays valid when it is stored exactly if its
period is stored. -/
theorem QueuesRow.stored_valid_iff (dialect : Dialect) {row : QueuesRow} (hrow : row.Valid)
    (hlimiter : row.rateLimitPeriodSec.isSome → row.rateLimitMax.isSome) :
    (row.stored dialect).Valid ↔ ∀ period ∈ row.rateLimitPeriodSec, storesFloat dialect period := by
  constructor
  · intro hstored period hperiod
    have hmax : row.rateLimitMax.isSome := hlimiter (by rw [Option.mem_def.mp hperiod]; rfl)
    have hsome := hstored.limiter_complete hmax
    rw [QueuesRow.stored, Option.mem_def.mp hperiod, Option.isSome_filter] at hsome
    exact hsome
  · intro hstores
    refine ⟨hrow.worker_le, hrow.polling_pos, ?_⟩
    intro hmax
    obtain ⟨period, hperiod⟩ := Option.isSome_iff_exists.mp (hrow.limiter_complete hmax)
    rw [QueuesRow.stored, hperiod, Option.isSome_filter]
    exact hstores period hperiod

/-- An upsert writes its row if it may overwrite or finds none. -/
theorem upsertQueue_valid_iff {dialect : Dialect} {row : QueuesRow} {updateExisting inserted : Bool}
    {queues queues' : QueuesTable} (hqueues : ∀ row ∈ queues.rows, row.Valid) (hrow : row.Valid)
    (hlimiter : row.rateLimitPeriodSec.isSome → row.rateLimitMax.isSome)
    (h : upsertQueue dialect row updateExisting queues = .ok (inserted, queues')) :
    (∀ row' ∈ queues'.rows, row'.Valid) ↔
      (updateExisting = true ∨ queues.lookup row.name = none →
        ∀ period ∈ row.rateLimitPeriodSec, storesFloat dialect period) := by
  unfold upsertQueue at h
  split at h
  swap
  · cases h
  · cases h
    rw [← row.stored_valid_iff dialect hrow hlimiter]
    cases updateExisting with
    | true =>
      have hmem (row' : QueuesRow) := Table.mem_upsert (t := queues) (r := row.stored dialect)
        (s := row') (f := fun old ↦ { row.stored dialect with name := old.name }) (fun _ ↦ rfl)
        (fun old hold ↦ by rw [hold])
      rw [if_pos rfl]
      constructor
      · exact fun hvalid _ ↦ hvalid _ ((hmem _).mpr (Or.inr rfl))
      · intro hstored row' hrow'
        rcases (hmem row').mp hrow' with hold | rfl
        · exact hqueues row' hold.1
        · exact hstored (Or.inl rfl)
    | false =>
      rw [if_neg Bool.false_ne_true, Table.insertIgnore]
      cases hinsert : queues.insertNew (row.stored dialect) with
      | none =>
        rw [Option.getD_none]
        refine iff_of_true hqueues ?_
        rintro (hupdate | hmissing)
        · cases hupdate
        · obtain ⟨old, hold, hname⟩ := Table.insertNew_eq_none.mp hinsert
          exact absurd hname (queues.lookup_eq_none.mp hmissing old hold)
      | some queues' =>
        rw [Option.getD_some]
        constructor
        · exact fun hvalid _ ↦ hvalid _ ((Table.mem_insertNew hinsert).mpr (Or.inr rfl))
        · intro hstored row' hrow'
          rcases (Table.mem_insertNew hinsert).mp hrow' with hold | rfl
          · exact hqueues row' hold
          · refine hstored (Or.inr ?_)
            rw [queues.lookup_eq_none]
            exact (Table.insertNew_eq_some.mp hinsert).1

/-- `update_queue` assigns the row of its name and leaves the others alone. -/
theorem mem_updateQueue {dialect : Dialect} {name : String} {fields : QueueFields}
    {queues queues' : QueuesTable} (h : updateQueue dialect name fields queues = .ok queues')
    {row' : QueuesRow} :
    row' ∈ queues'.rows ↔ ∃ row ∈ queues.rows,
      row' = if row.name = name then (fields.stored dialect).assign row else row := by
  unfold updateQueue at h
  split at h
  · rename_i hempty
    subst hempty
    cases h
    have hassign (row : QueuesRow) : (({} : QueueFields).stored dialect).assign row = row := rfl
    simp [hassign]
  · split at h
    · cases h
    · cases h
      have hmem : row' ∈ (queues.update (fun row ↦ row.name = name)
            (fields.stored dialect).assign).rows ↔
          ∃ row ∈ queues.rows, row' =
            if decide (row.name = name) then (fields.stored dialect).assign row else row :=
        Table.mem_update (t := queues)
      simpa only [decide_eq_true_eq] using hmem

/-- The check of a setter passes on the row, and the database stores the period it writes. -/
def SetCall.Passes (dialect : Dialect) (latest : ConfiguredQueue) (call : SetCall) : Prop :=
  (∀ check ∈ call.setter.check, check latest = .ok ()) ∧
    ∀ period ∈ call.setter.fields.rateLimitPeriodSec.getD none, storesFloat dialect period

/-- A validated setter keeps the row it writes valid exactly if it passes on that row. -/
theorem valid_assign_iff (dialect : Dialect) {call : SetCall} {row : QueuesRow}
    {latest : ConfiguredQueue} (hvalidate : call.setter.validate = .ok ()) (hrow : row.Valid)
    (hconcurrency : latest.concurrency = row.concurrency)
    (hworker : latest.workerConcurrency = row.workerConcurrency) :
    ((call.setter.fields.stored dialect).assign row).Valid ↔ call.Passes dialect latest := by
  have hchecked (condition : Bool) (e : DBOSError) :
      (if condition then (.error e : Except DBOSError Unit) else .ok ()) = .ok () ↔
        condition = false := by
    cases condition <;> simp
  have hkeeps (h : ((call.setter.fields.stored dialect).assign row).Valid)
      (hnone : call.setter.check = none) (hperiod : call.setter.fields.rateLimitPeriodSec = none) :
      ((call.setter.fields.stored dialect).assign row).Valid ↔ call.Passes dialect latest := by
    simp [h, SetCall.Passes, hnone, hperiod]
  cases call with
  | concurrency value =>
    simp only [SetCall.Passes, SetCall.setter, setConcurrency, Option.mem_some_iff, forall_eq',
      hchecked, exceedsConcurrency_eq_false, hworker]
    exact ⟨fun h ↦ ⟨h.worker_le, nofun⟩, fun h ↦ ⟨h.1, hrow.polling_pos, hrow.limiter_complete⟩⟩
  | workerConcurrency value =>
    simp only [SetCall.Passes, SetCall.setter, setWorkerConcurrency, Option.mem_some_iff,
      forall_eq', hchecked, exceedsConcurrency_eq_false, hconcurrency]
    exact ⟨fun h ↦ ⟨h.worker_le, nofun⟩, fun h ↦ ⟨h.1, hrow.polling_pos, hrow.limiter_complete⟩⟩
  | limiter value =>
    rw [SetCall.setter, setLimiter, hchecked] at hvalidate
    cases value with
    | none =>
      refine iff_of_true ⟨hrow.worker_le, hrow.polling_pos, nofun⟩ ⟨nofun, ?_⟩
      intro period hperiod
      cases hperiod
    | some arg =>
      -- the limiter of the new row is the dictionary alone
      simp only [Option.any_some, Bool.not_eq_false', RateLimitArg.isComplete,
        Bool.and_eq_true] at hvalidate
      obtain ⟨hlimit, hperiod⟩ := hvalidate
      let new : QueuesRow := { row with
        rateLimitMax := arg.limit
        rateLimitPeriodSec := arg.period }
      have hnew : new.Valid := ⟨hrow.worker_le, hrow.polling_pos, fun _ ↦ hperiod⟩
      have hstored := new.stored_valid_iff dialect hnew fun _ ↦ hlimit
      exact hstored.trans ⟨fun h ↦ ⟨nofun, h⟩, fun h ↦ h.2⟩
  | priorityEnabled value =>
    exact hkeeps ⟨hrow.worker_le, hrow.polling_pos, hrow.limiter_complete⟩ rfl rfl
  | partitionQueue value =>
    exact hkeeps ⟨hrow.worker_le, hrow.polling_pos, hrow.limiter_complete⟩ rfl rfl
  | pollingIntervalSec value =>
    rw [SetCall.setter, setPollingIntervalSec, hchecked] at hvalidate
    exact hkeeps ⟨hrow.worker_le, hvalidate, hrow.limiter_complete⟩ rfl rfl

/-- The call has passed the checks it makes before its first transaction. -/
def ConfigPhase.Validated : ConfigPhase → Prop
  | .upsert row _ => row.Valid ∧ (row.rateLimitPeriodSec.isSome → row.rateLimitMax.isSome)
  | .read _ call => call.setter.validate = .ok ()
  | .write _ call => call.setter.validate = .ok ()
  | _ => True

theorem registerQueue_validated (registrar : Registrar) (args : Registration) :
    (registerQueue registrar args).Validated := by
  unfold registerQueue
  split
  · trivial
  · rename_i hvalidate
    split
    · trivial
    · obtain ⟨hexceeds, hpolling, hlimiter⟩ := validateQueue_eq_ok.mp hvalidate
      have hboth : args.row.rateLimitMax.isSome = args.row.rateLimitPeriodSec.isSome := by
        cases harg : args.limiter with
        | none => simp [Registration.row, harg]
        | some arg =>
          have hcomplete := hlimiter arg harg
          rw [RateLimitArg.isComplete, Bool.and_eq_true] at hcomplete
          simp [Registration.row, harg, hcomplete.1, hcomplete.2]
      exact ⟨⟨exceedsConcurrency_eq_false.mp hexceeds, hpolling, fun h ↦ hboth ▸ h⟩,
        fun h ↦ hboth ▸ h⟩

theorem begin_validated (name : String) (databaseBackedQueue : Bool) (call : SetCall) :
    (call.begin name databaseBackedQueue).Validated := by
  unfold SetCall.begin
  split
  · split
    · trivial
    · rename_i hvalidate
      split
      · exact hvalidate
      · exact hvalidate
  · trivial

theorem transaction_validated {dialect : Dialect} {phase phase' : ConfigPhase}
    {queues queues' : QueuesTable} (hphase : phase.Validated)
    (h : phase.transaction dialect queues = some (queues', phase')) : phase'.Validated := by
  cases phase with
  | upsert row updateExisting =>
    simp only [ConfigPhase.transaction, Option.some.injEq] at h
    split at h
    · cases h
      trivial
    · cases h
      trivial
  | retrieve name =>
    simp only [ConfigPhase.transaction, Option.some.injEq, Prod.mk.injEq] at h
    rw [← h.2]
    split <;> trivial
  | read name call =>
    simp only [ConfigPhase.transaction, Option.some.injEq, Prod.mk.injEq] at h
    rw [← h.2]
    split
    · trivial
    · split
      · exact hphase
      · split
        · trivial
        · exact hphase
  | write name call =>
    simp only [ConfigPhase.transaction, Option.some.injEq] at h
    split at h
    · cases h
      trivial
    · cases h
      trivial
  | idle => cases h
  | returned queue => cases h
  | raised e => cases h

/-! ## Runs -/

/-- The next transaction of a call, if it writes, writes what the row allows: the check that a setter
made on the row it had read passes on the row as it is now, and SQLite is given no NaN for a period.
An upsert that the polling interval makes fail writes nothing. -/
def ConfigPhase.StillPasses (dialect : Dialect) (queues : QueuesTable) : ConfigPhase → Prop
  | .upsert row updateExisting =>
    storesFloat dialect row.pollingIntervalSec →
      (updateExisting = true ∨ queues.lookup row.name = none) →
        ∀ period ∈ row.rateLimitPeriodSec, storesFloat dialect period
  | .write name call =>
    ∀ latest, getQueue name queues = .ok (some latest) → call.Passes dialect latest
  | _ => True

def StillPasses (dialect : Dialect) (s : ConfigState) : ConfigAction → Prop
  | .transaction client => (s.phase client).StillPasses dialect s.queues
  | _ => True

theorem stillPasses_of_disabled {dialect : Dialect} {s : ConfigState} {action : ConfigAction}
    (h : (configSystem dialect).step s action = none) : StillPasses dialect s action := by
  cases action with
  | transaction client =>
    rw [configSystem, Option.map_eq_none_iff] at h
    rw [StillPasses]
    cases hphase : s.phase client with
    | upsert row updateExisting =>
      rw [hphase] at h
      cases h
    | write name call =>
      rw [hphase] at h
      cases h
    | _ => trivial
  | _ => trivial

/-- A step begins a call, makes the next transaction of one, or deletes a queue. -/
theorem configSystem_step_cases {dialect : Dialect} {s s' : ConfigState} {action : ConfigAction}
    (hstep : (configSystem dialect).step s action = some s') :
    (∃ client phase, phase.Validated ∧ (∀ other, action ≠ .transaction other) ∧
      s' = { s with phase := Function.update s.phase client phase }) ∨
    (∃ client queues phase, action = .transaction client ∧
      (s.phase client).transaction dialect s.queues = some (queues, phase) ∧
      s' = { queues := queues, phase := Function.update s.phase client phase }) ∨
    ∃ name, action = .delete name ∧ s' = { s with queues := deleteQueue name s.queues } := by
  cases action with
  | register client registrar args =>
    left
    obtain ⟨-, hs'⟩ := Option.ite_none_right_eq_some.mp hstep
    exact ⟨client, _, registerQueue_validated registrar args, fun _ ↦ nofun,
      (Option.some.inj hs').symm⟩
  | set client name databaseBackedQueue call =>
    left
    obtain ⟨-, hs'⟩ := Option.ite_none_right_eq_some.mp hstep
    exact ⟨client, _, begin_validated name databaseBackedQueue call, fun _ ↦ nofun,
      (Option.some.inj hs').symm⟩
  | transaction client =>
    right
    left
    obtain ⟨result, hresult, hs'⟩ := Option.map_eq_some_iff.mp hstep
    exact ⟨client, result.1, result.2, rfl, hresult, hs'.symm⟩
  | delete name =>
    right
    right
    exact ⟨name, rfl, (Option.some.inj hstep).symm⟩

/-- The part of the invariant that holds of every run. -/
def PhasesValidated (s : ConfigState) : Prop := ∀ client, (s.phase client).Validated

theorem phasesValidated_initial : PhasesValidated .initial := fun _ ↦ trivial

theorem phasesValidated_update {s : ConfigState} (hs : PhasesValidated s) (client : ℕ)
    {phase : ConfigPhase} (hphase : phase.Validated) (other : ℕ) :
    (Function.update s.phase client phase other).Validated := by
  by_cases hother : other = client
  · rw [hother, Function.update_self]
    exact hphase
  · rw [Function.update_of_ne hother]
    exact hs other

theorem phasesValidated_step {dialect : Dialect} {s s' : ConfigState} {action : ConfigAction}
    (hs : PhasesValidated s) (hstep : (configSystem dialect).step s action = some s') :
    PhasesValidated s' := by
  rcases configSystem_step_cases hstep with ⟨client, phase, hphase, -, rfl⟩ |
    ⟨client, queues, phase, -, htransaction, rfl⟩ | ⟨name, -, rfl⟩
  · exact phasesValidated_update hs client hphase
  · exact phasesValidated_update hs client (transaction_validated (hs client) htransaction)
  · exact hs

/-- A setter's write keeps every row valid exactly if it passes on the row as it is now. -/
theorem updateQueue_valid_iff {dialect : Dialect} {name : String} {call : SetCall}
    {queues queues' : QueuesTable} (hvalidate : call.setter.validate = .ok ())
    (hqueues : ∀ row ∈ queues.rows, row.Valid)
    (h : updateQueue dialect name call.setter.fields queues = .ok queues') :
    (∀ row ∈ queues'.rows, row.Valid) ↔
      ∀ latest, getQueue name queues = .ok (some latest) → call.Passes dialect latest := by
  constructor
  · intro hvalid latest hget
    cases hlookup : queues.lookup name with
    | none => simp [getQueue, hlookup] at hget
    | some row =>
      obtain ⟨hrow, hname⟩ := queues.lookup_eq_some.mp hlookup
      obtain ⟨loaded, hloaded, hconcurrency, hworker⟩ := (hqueues row hrow).queueFromDbRow
      have hlatest : loaded = latest := by
        simpa [getQueue, hlookup, hloaded, Except.map] using hget
      rw [hlatest] at hconcurrency hworker
      have hassigned := hvalid ((call.setter.fields.stored dialect).assign row)
        ((mem_updateQueue h).mpr ⟨row, hrow, by rw [if_pos hname]⟩)
      exact (valid_assign_iff dialect hvalidate (hqueues row hrow) hconcurrency hworker).mp hassigned
  · intro hpasses row' hrow'
    obtain ⟨row, hrow, rfl⟩ := (mem_updateQueue h).mp hrow'
    split
    · rename_i hname
      obtain ⟨latest, hlatest, hconcurrency, hworker⟩ := (hqueues row hrow).queueFromDbRow
      have hget : getQueue name queues = .ok (some latest) := by
        simp [getQueue, queues.lookup_eq_some.mpr ⟨hrow, hname⟩, hlatest, Except.map]
      rw [valid_assign_iff dialect hvalidate (hqueues row hrow) hconcurrency hworker]
      exact hpasses latest hget
    · exact hqueues row hrow

/-- A setter whose write fails writes a polling interval, and no period. -/
theorem passes_of_updateQueue_error {dialect : Dialect} {name : String} {call : SetCall}
    {queues : QueuesTable} {e : DBOSError} (latest : ConfiguredQueue)
    (h : updateQueue dialect name call.setter.fields queues = .error e) :
    call.Passes dialect latest := by
  unfold updateQueue at h
  split at h
  · cases h
  · split at h
    · rename_i hnull
      rw [Bool.and_eq_true] at hnull
      cases call with
      | pollingIntervalSec value =>
        constructor
        · intro check hcheck
          cases hcheck
        · intro period hperiod
          cases hperiod
      | concurrency value => cases hnull.2
      | workerConcurrency value => cases hnull.2
      | limiter value => cases hnull.2
      | priorityEnabled value => cases hnull.2
      | partitionQueue value => cases hnull.2
    · cases h

/-- The next transaction of a call keeps every row valid exactly if it meets the condition. -/
theorem transaction_valid_iff {dialect : Dialect} {phase phase' : ConfigPhase}
    {queues queues' : QueuesTable} (hphase : phase.Validated)
    (hqueues : ∀ row ∈ queues.rows, row.Valid)
    (h : phase.transaction dialect queues = some (queues', phase')) :
    (∀ row ∈ queues'.rows, row.Valid) ↔ phase.StillPasses dialect queues := by
  cases phase with
  | upsert row updateExisting =>
    rw [ConfigPhase.StillPasses]
    simp only [ConfigPhase.transaction, Option.some.injEq] at h
    split at h
    · rename_i e herror
      cases h
      refine iff_of_true hqueues ?_
      intro hstores
      rw [upsertQueue, if_pos hstores] at herror
      cases herror
    · rename_i inserted written hwritten
      cases h
      rw [upsertQueue_valid_iff hqueues hphase.1 hphase.2 hwritten]
      refine ⟨fun hpasses _ ↦ hpasses, fun hpasses ↦ hpasses ?_⟩
      by_contra hnull
      rw [upsertQueue, if_neg hnull] at hwritten
      cases hwritten
  | write name call =>
    rw [ConfigPhase.StillPasses]
    simp only [ConfigPhase.transaction, Option.some.injEq] at h
    split at h
    · rename_i e herror
      cases h
      exact iff_of_true hqueues fun latest _ ↦ passes_of_updateQueue_error latest herror
    · rename_i written hwritten
      cases h
      exact updateQueue_valid_iff hphase hqueues hwritten
  | retrieve name =>
    cases h
    exact iff_of_true hqueues trivial
  | read name call =>
    cases h
    exact iff_of_true hqueues trivial
  | idle => cases h
  | returned queue => cases h
  | raised e => cases h

/-- A step from a valid table keeps it valid exactly if it meets the condition. -/
theorem valid_step_iff {dialect : Dialect} {s s' : ConfigState} {action : ConfigAction}
    (hs : PhasesValidated s) (hqueues : ∀ row ∈ s.queues.rows, row.Valid)
    (hstep : (configSystem dialect).step s action = some s') :
    (∀ row ∈ s'.queues.rows, row.Valid) ↔ StillPasses dialect s action := by
  rcases configSystem_step_cases hstep with ⟨client, phase, -, hbegins, rfl⟩ |
    ⟨client, queues, phase, rfl, htransaction, rfl⟩ | ⟨name, rfl, rfl⟩
  · have hpasses : StillPasses dialect s action := by
      cases action with
      | transaction other => exact absurd rfl (hbegins other)
      | _ => trivial
    exact iff_of_true hqueues hpasses
  · exact transaction_valid_iff (hs client) hqueues htransaction
  · refine iff_of_true (fun row hrow ↦ ?_) trivial
    exact hqueues row (Table.mem_delete.mp hrow).1

/-- In every state of the run, every row is valid and no reader raises. -/
def AlwaysLoads (dialect : Dialect) (actions : List ConfigAction) : Prop :=
  ∀ before after s, actions = before ++ after →
    (configSystem dialect).run .initial before = some s → Loads s.queues

/-- The queues stay loadable in every state of a run that the system can make exactly if every
write of a setter still passes the check the setter made before it, and SQLite is given no NaN for
the period of a limiter. -/
theorem alwaysLoads_iff (dialect : Dialect) (actions : List ConfigAction) :
    AlwaysLoads dialect actions ↔
      (configSystem dialect).Along (StillPasses dialect) .initial actions := by
  constructor
  · intro halways
    rw [System.along_iff]
    intro before action after s hactions hbefore
    have hphases : PhasesValidated s :=
      (configSystem dialect).reaches_invariant (fun _ _ _ ↦ phasesValidated_step)
        phasesValidated_initial ⟨before, hbefore⟩
    have hqueues := (halways before (action :: after) s hactions hbefore).valid
    cases hstep : (configSystem dialect).step s action with
    | none => exact stillPasses_of_disabled hstep
    | some s' =>
      rw [← valid_step_iff hphases hqueues hstep]
      refine (halways (before ++ [action]) after s' (by simp [hactions]) ?_).valid
      rw [System.run_append, hbefore, Option.bind_some, System.run_cons, hstep]
      rfl
  · intro hpasses before after s hactions hbefore
    rw [hactions, System.along_append] at hpasses
    have hinvariant := (configSystem dialect).run_invariant
      (I := fun s ↦ PhasesValidated s ∧ ∀ row ∈ s.queues.rows, row.Valid)
      (fun s action s' hs hpasses hstep ↦ ⟨phasesValidated_step hs.1 hstep,
        (valid_step_iff hs.1 hs.2 hstep).mpr hpasses⟩)
      ⟨phasesValidated_initial, fun row hrow ↦ absurd hrow List.not_mem_nil⟩ hpasses.1 hbefore
    exact loads_of_valid hinvariant.2

/-! ## Two setters at once, and a NaN -/

/-- The queue `q` with room for ten workflows, one on each worker. -/
def tenAndOne : Registration where
  name := "q"
  concurrency := some 10
  workerConcurrency := some 1
  onConflict := .alwaysUpdate

/-- Client 1 lowers `concurrency` to 2 and client 2 raises `worker_concurrency` to 5. Both have
read the row before either writes. -/
def crossedSetters : List ConfigAction :=
  [.register 0 .client tenAndOne, .transaction 0, .transaction 0,
    .set 1 "q" true (.concurrency (some 2)), .set 2 "q" true (.workerConcurrency (some 5)),
    .transaction 1, .transaction 2, .transaction 1, .transaction 2]

/-- Queue `n` is registered with a limiter whose period is no number. -/
def periodNotANumber : List ConfigAction :=
  [.register 0 .client
    { name := "n", limiter := some ⟨some 5, some .nan⟩, onConflict := .alwaysUpdate },
    .transaction 0]

/-- Each of the two values passed its check, and the row that both leave behind loads nowhere. Nor
does the row that SQLite stores for the limiter. -/
theorem crossedSetters_break_loading :
    ((configSystem .postgresql).run .initial crossedSetters).map (fun s ↦
        (s.queues.rows.map fun row ↦ (row.concurrency, row.workerConcurrency),
          (getQueue "q" s.queues).isOk, (listQueues s.queues).isOk)) =
      some ([(some 2, some 5)], false, false) ∧
    ((configSystem .sqlite).run .initial periodNotANumber).map (fun s ↦
        (s.queues.rows.map fun row ↦ (row.rateLimitMax, row.rateLimitPeriodSec),
          (getQueue "n" s.queues).isOk, (listQueues s.queues).isOk)) =
      some ([(some 5, none)], false, false) ∧
    ¬ AlwaysLoads .postgresql crossedSetters ∧ ¬ AlwaysLoads .sqlite periodNotANumber := by
  have hcrossed : ((configSystem .postgresql).run .initial crossedSetters).map (fun s ↦
        (s.queues.rows.map fun row ↦ (row.concurrency, row.workerConcurrency),
          (getQueue "q" s.queues).isOk, (listQueues s.queues).isOk)) =
      some ([(some 2, some 5)], false, false) := by
    rfl
  have hperiod : ((configSystem .sqlite).run .initial periodNotANumber).map (fun s ↦
        (s.queues.rows.map fun row ↦ (row.rateLimitMax, row.rateLimitPeriodSec),
          (getQueue "n" s.queues).isOk, (listQueues s.queues).isOk)) =
      some ([(some 5, none)], false, false) := by
    rfl
  refine ⟨hcrossed, hperiod, ?_, ?_⟩
  · intro halways
    obtain ⟨s, hs, hend⟩ := Option.map_eq_some_iff.mp hcrossed
    obtain ⟨queue, hqueue⟩ := (halways crossedSetters [] s (by simp) hs).get "q"
    simp [hqueue, Except.isOk, Except.toBool] at hend
  · intro halways
    obtain ⟨s, hs, hend⟩ := Option.map_eq_some_iff.mp hperiod
    obtain ⟨queue, hqueue⟩ := (halways periodNotANumber [] s (by simp) hs).get "n"
    simp [hqueue, Except.isOk, Except.toBool] at hend

end DBOSModel.Queue

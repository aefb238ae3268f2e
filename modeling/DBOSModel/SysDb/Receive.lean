import DBOSModel.SysDb.RetryIdempotence

/-!
# Receiving messages

`recv` of `dbos/_sys_db.py`: `recv_setup` looks for the checkpoint of an earlier execution and
records the timeout, then the caller waits, and `recv_consume` takes the oldest message and records
it, in one transaction. Any number of callers, among them several executions of one workflow, run
these transactions interleaved with those of senders; an attempt may fail, its acknowledgement may
be lost, and a caller may crash and begin again.

A run keeps its transactions, each with the database before and after it. What a transaction
consumed and which checkpoints of `recv` it wrote is read off these two.
-/

namespace DBOSModel.SysDb

open Relational

def recvName : String := "DBOS.recv"

def sleepName : String := "DBOS.sleep"

/-! ## `recv_setup` and `record_sleep` -/

section Setup

variable {V : Type} (serializers : Serializers V)

/-- The lookup at the beginning of `recv_setup`: the message of an earlier execution. -/
def recvReplay (workflowUuid : String) (functionId : ℤ) (db : SystemDatabase) :
    Except DBOSError (Option V) := do
  match ← checkOperationExecutionTxn workflowUuid functionId recvName db with
  | none => pure none
  | some recorded =>
    if recorded.output.isSome then
      let message ← serializers.deserializeValue recorded.output recorded.serialization
      pure (some message)
    else .error (.exception "No output recorded in the last recv")

/-- The lookup of `record_sleep`: the recorded end time. -/
def sleepReplay (workflowUuid : String) (functionId : ℤ) (db : SystemDatabase) :
    Except DBOSError (Option V) := do
  match ← checkOperationExecutionTxn workflowUuid functionId sleepName db with
  | none => pure none
  | some recorded =>
    if recorded.output.isSome then
      let endTime ← serializers.deserializeValue recorded.output recorded.serialization
      pure (some endTime)
    else .error (.assertionError "no recorded end time")

/-- The checkpoint that `record_sleep` writes. -/
def sleepResult (workflowUuid : String) (functionId startTime : ℤ) (endTime : V) :
    Except DBOSError OperationResultInternal := do
  let text ← serializers.portable.serialize endTime
  pure
    { workflowUuid := workflowUuid
      functionId := functionId
      functionName := sleepName
      startedAtEpochMs := startTime
      output := some text
      serialization := some portableName }

end Setup

/-! ## Callers -/

/-- A `recv` call: the process that makes it, the two step IDs it reserves, and its topic. -/
structure RecvCall where
  executorId : Option String
  workflowUuid : String
  functionId : ℤ
  timeoutFunctionId : ℤ
  topic : Option String := none

def RecvCall.key (call : RecvCall) : String × ℤ := (call.workflowUuid, call.functionId)

/-- Where a call stands: before each of its transactions, or at its end. -/
inductive RecvPhase (V : Type) where
  /-- Before the lookup of `recv_setup`. -/
  | setup
  /-- Before the lookup of `record_sleep`. -/
  | checkSleep (startTime : ℤ)
  /-- Before `record_operation_result` of `record_sleep`. -/
  | recordSleep (startTime : ℤ) (result : OperationResultInternal) (completedAt : ℤ)
  /-- Before `recv_consume`. -/
  | waiting (startTime : ℤ)
  | finished (result : Except DBOSError V)

/-- The clock readings of a step: the start and the completion, and the end of the timeout. -/
structure RecvReading (V : Type) where
  startTime : ℤ
  completedAt : ℤ
  endTime : V

/-- One attempt of the next transaction of a call. -/
def RecvPhase.advance {V : Type} (serializers : Serializers V) (call : RecvCall)
    (reading : RecvReading V) (fate : Fate) (db : SystemDatabase) :
    RecvPhase V → Option (RecvPhase V × SystemDatabase)
  | .setup =>
    if fate = .acknowledged then
      match recvReplay serializers call.workflowUuid call.functionId db with
      | .error error => some (.finished (.error error), db)
      | .ok (some message) => some (.finished (.ok message), db)
      | .ok none => some (.checkSleep reading.startTime, db)
    else some (.setup, db)
  | .checkSleep startTime =>
    if fate = .acknowledged then
      match sleepReplay serializers call.workflowUuid call.timeoutFunctionId db with
      | .error error => some (.finished (.error error), db)
      | .ok (some _) => some (.waiting startTime, db)
      | .ok none =>
        match sleepResult serializers call.workflowUuid call.timeoutFunctionId reading.startTime
            reading.endTime with
        | .error error => some (.finished (.error error), db)
        | .ok result => some (.recordSleep startTime result reading.completedAt, db)
    else some (.checkSleep startTime, db)
  | .recordSleep startTime result completedAt =>
    let ending := recordOperationResult call.executorId result completedAt db
    match fate with
    | .failed => some (.recordSleep startTime result completedAt, db)
    | .unacknowledged => some (.recordSleep startTime result completedAt, ending.stateAfter db)
    | .acknowledged =>
      match ending.result with
      | .ok () => some (.waiting startTime, ending.stateAfter db)
      -- another execution has recorded its timeout
      | .error (.workflowConflictID _) => some (.waiting startTime, ending.stateAfter db)
      | .error error => some (.finished (.error error), ending.stateAfter db)
  | .waiting startTime =>
    let ending := recvConsume serializers call.executorId call.workflowUuid call.functionId
      call.topic startTime reading.completedAt db
    match fate with
    | .failed => some (.waiting startTime, db)
    | .unacknowledged => some (.waiting startTime, ending.stateAfter db)
    | .acknowledged => some (.finished ending.result, ending.stateAfter db)
  | .finished _ => none

/-! ## Runs -/

/-- A transaction by the database before and after it. -/
structure Transition where
  before : SystemDatabase
  after : SystemDatabase

/-- The notifications that a transaction consumed. -/
def Transition.consumed (t : Transition) : List NotificationRow :=
  t.before.notifications.rows.filter fun row ↦
    !row.consumed && t.after.notifications.rows.any fun row' ↦
      row'.messageUuid = row.messageUuid && row'.consumed

/-- The checkpoints of `recv` that a transaction wrote. -/
def Transition.checkpoints (t : Transition) : List OperationOutputRow :=
  t.after.operationOutputs.rows.filter fun row ↦
    row.functionName = recvName && (t.before.operationOutputs.lookup row.key).isNone

/-- The database, the callers, and the transactions so far. -/
structure RecvState (ι V : Type) where
  db : SystemDatabase
  phase : ι → RecvPhase V
  history : List Transition

inductive RecvAction (ι V : Type) where
  | send (executorId : Option String) (call : SendBulkCall V) (now startTime completedAt : ℤ)
      (uuids : ℕ → String) (fate : Fate)
  | advance (caller : ι) (reading : RecvReading V) (fate : Fate)
  /-- `recv_setup` finds the payload in the notifications map of its process. -/
  | conflict (caller : ι)
  /-- The process of a caller stops; the call is made again. -/
  | crash (caller : ι)

section System

variable {ι V : Type} [DecidableEq ι]

/-- The state after a transaction that leaves the database `db`. -/
def RecvState.commit (s : RecvState ι V) (db : SystemDatabase) : RecvState ι V :=
  { s with db := db, history := s.history ++ [⟨s.db, db⟩] }

def RecvState.setPhase (s : RecvState ι V) (caller : ι) (phase : RecvPhase V) : RecvState ι V :=
  { s with phase := Function.update s.phase caller phase }

omit [DecidableEq ι] in
theorem RecvState.history_commit (s : RecvState ι V) (db : SystemDatabase) :
    (s.commit db).history = s.history ++ [⟨s.db, db⟩] := rfl

theorem RecvState.phase_setPhase (s : RecvState ι V) (caller other : ι) (phase : RecvPhase V) :
    (s.setPhase caller phase).phase other = if other = caller then phase else s.phase other :=
  Function.update_apply s.phase caller phase other

/-- Senders and receivers on one database. -/
def recvSystem (serializers : Serializers V) (calls : ι → RecvCall) :
    System (RecvState ι V) (RecvAction ι V) where
  step s
    | .send executorId call now startTime completedAt uuids fate =>
      -- the callers of `send_bulk` name it `DBOS.send` or `DBOS.send_bulk`
      if call.functionName = recvName then none
      else if fate = .failed then some s
      else
        let ending := sendBulk serializers executorId call now startTime completedAt uuids s.db
        some (s.commit (ending.stateAfter s.db))
    | .advance caller reading fate =>
      ((s.phase caller).advance serializers (calls caller) reading fate s.db).map fun (phase, db) ↦
        (s.commit db).setPhase caller phase
    | .conflict caller =>
      match s.phase caller with
      | .checkSleep _ => some (s.setPhase caller
          (.finished (.error (.workflowConflictID (calls caller).workflowUuid))))
      | _ => none
    | .crash caller => some (s.setPhase caller .setup)

/-- All callers are at the beginning. -/
def RecvState.initial (db : SystemDatabase) : RecvState ι V where
  db := db
  phase _ := .setup
  history := []

end System

/-! ## What one transaction does -/

/-- The message of a notification. -/
def NotificationRow.decode {V : Type} (serializers : Serializers V) (row : NotificationRow) :
    Except DBOSError V :=
  serializers.deserializeValue (some row.message) row.serialization

/-- The output of a checkpoint. -/
def OperationOutputRow.decode {V : Type} (serializers : Serializers V) (row : OperationOutputRow) :
    Except DBOSError V :=
  serializers.deserializeValue row.output row.serialization

/-- A notification that is next: unconsumed, and none of its destination and topic is older. -/
structure NotificationRow.IsNext (db : SystemDatabase) (row : NotificationRow) : Prop where
  mem : row ∈ db.notifications.rows
  unconsumed : row.consumed = false
  oldest : ∀ other ∈ db.notifications.rows, other.consumed = false →
    other.destinationUuid = row.destinationUuid → other.topic = row.topic →
      row.createdAtEpochMs ≤ other.createdAtEpochMs

section Transaction

variable {db db' : SystemDatabase}

theorem oldestUnconsumed_eq_some {workflowUuid topic : String} {row : NotificationRow}
    (h : oldestUnconsumed workflowUuid topic db = some row) :
    row.IsNext db ∧ row.destinationUuid = workflowUuid := by
  have htotal : Std.Total fun a b : NotificationRow ↦ a.createdAtEpochMs ≤ b.createdAtEpochMs :=
    ⟨fun a b ↦ le_total a.createdAtEpochMs b.createdAtEpochMs⟩
  have htrans : IsTrans NotificationRow fun a b ↦ a.createdAtEpochMs ≤ b.createdAtEpochMs :=
    ⟨fun a b c ↦ le_trans⟩
  rw [oldestUnconsumed, List.head?_eq_some_iff] at h
  obtain ⟨rest, hsorted⟩ := h
  have hpairwise := List.pairwise_insertionSort
    (fun a b : NotificationRow ↦ a.createdAtEpochMs ≤ b.createdAtEpochMs)
    (db.notifications.rows.filter fun row ↦
      row.destinationUuid = workflowUuid && row.topic = topic && !row.consumed)
  have hmem (other : NotificationRow) : other ∈ row :: rest ↔ other ∈ db.notifications.rows ∧
      (other.destinationUuid = workflowUuid ∧ other.topic = topic) ∧ other.consumed = false := by
    rw [← hsorted, List.mem_insertionSort, List.mem_filter]
    simp
  rw [hsorted, List.pairwise_cons] at hpairwise
  obtain ⟨hrow, ⟨hdestination, htopic⟩, hunconsumed⟩ := (hmem row).mp List.mem_cons_self
  refine ⟨⟨hrow, hunconsumed, ?_⟩, hdestination⟩
  intro other hother hunread hsame htopic'
  have hin := (hmem other).mpr
    ⟨hother, ⟨hsame.trans hdestination, htopic'.trans htopic⟩, hunread⟩
  rcases List.mem_cons.mp hin with rfl | hrest
  · exact le_refl _
  · exact hpairwise.1 other hrest

/-- A transaction that consumes nothing and writes no checkpoint of `recv`. -/
structure Silent (db db' : SystemDatabase) : Prop where
  outputs : ∀ key row, db.operationOutputs.lookup key = some row →
    db'.operationOutputs.lookup key = some row
  received : ∀ row ∈ db'.operationOutputs.rows, row.functionName = recvName →
    row ∈ db.operationOutputs.rows
  stays : db.notifications.rows ⊆ db'.notifications.rows
  consumed : ∀ row ∈ db'.notifications.rows, row.consumed = true → row ∈ db.notifications.rows
  statuses : ∀ workflowId, (db'.workflowStatus.lookup workflowId).map WorkflowStatusRow.status =
    (db.workflowStatus.lookup workflowId).map WorkflowStatusRow.status

theorem Silent.refl (db : SystemDatabase) : Silent db db where
  outputs _ _ h := h
  received _ h _ := h
  stays := List.Subset.refl _
  consumed _ h _ := h
  statuses _ := rfl

theorem Silent.trans {db'' : SystemDatabase} (h : Silent db db') (h' : Silent db' db'') :
    Silent db db'' where
  outputs key row hrow := h'.outputs key row (h.outputs key row hrow)
  received row hrow hname := h.received row (h'.received row hrow hname) hname
  stays := List.Subset.trans h.stays h'.stays
  consumed row hrow hread := h.consumed row (h'.consumed row hrow hread) hread
  statuses workflowId := (h'.statuses workflowId).trans (h.statuses workflowId)

theorem Silent.consumed_eq (h : Silent db db') : Transition.consumed ⟨db, db'⟩ = [] := by
  rw [Transition.consumed, List.filter_eq_nil_iff]
  intro row hrow hboth
  simp only [Bool.and_eq_true, Bool.not_eq_true', List.any_eq_true, decide_eq_true_eq] at hboth
  obtain ⟨hunread, row', hrow', hid, hread⟩ := hboth
  have hsame := db.notifications.eq_of_key (h.consumed row' hrow' hread) hrow hid
  rw [hsame, hunread] at hread
  cases hread

theorem Silent.checkpoints_eq (h : Silent db db') : Transition.checkpoints ⟨db, db'⟩ = [] := by
  rw [Transition.checkpoints, List.filter_eq_nil_iff]
  intro row hrow hboth
  simp only [Bool.and_eq_true, decide_eq_true_eq, Option.isNone_iff_eq_none] at hboth
  obtain ⟨hname, hnone⟩ := hboth
  rw [db.operationOutputs.lookup_key_of_mem (h.received row hrow hname)] at hnone
  cases hnone

/-- Recording anything but a `recv` is silent. -/
theorem silent_recordOperationResultTxn {executorId : Option String}
    {result : OperationResultInternal} {completedAt : ℤ} (hname : result.functionName ≠ recvName)
    (h : recordOperationResultTxn executorId result completedAt db = .ok db') : Silent db db' := by
  obtain ⟨-, row, -, hupsert⟩ := recordOperationResultTxn_eq_ok h
  have hframe := recordOperationResultTxn_frame h
  have hkeeps : KeepsCheckpoints db (resetExecutor executorId row db) :=
    keepsCheckpoints_resetExecutor
  have hnotifications : db'.notifications = db.notifications := by rw [hframe]
  have hstays : db.notifications.rows ⊆ db'.notifications.rows := by
    rw [hnotifications]
    exact List.Subset.refl _
  have hconsumed : ∀ row ∈ db'.notifications.rows, row.consumed = true →
      row ∈ db.notifications.rows := by
    intro other hother _
    rw [hnotifications] at hother
    exact hother
  have hstatus : ∀ workflowId, (db'.workflowStatus.lookup workflowId).map WorkflowStatusRow.status =
      (db.workflowStatus.lookup workflowId).map WorkflowStatusRow.status := by
    intro workflowId
    rw [workflowStatus_of_upsertResult hupsert]
    exact hkeeps.2 workflowId
  rcases upsertResult_eq_ok hupsert with ⟨-, hinsert, -⟩ | ⟨-, -, -, rfl⟩
  · rw [hkeeps.1] at hinsert
    refine ⟨?_, ?_, hstays, hconsumed, hstatus⟩
    · intro key stored hstored
      exact Table.lookup_insertNew_of_some hinsert hstored
    · intro other hother hrecv
      rcases (Table.mem_insertNew hinsert).mp hother with hold | rfl
      · exact hold
      · exact absurd hrecv hname
  · refine ⟨?_, ?_, hstays, hconsumed, hstatus⟩
    · intro key stored hstored
      rw [hkeeps.1]
      exact hstored
    · intro other hother _
      rw [hkeeps.1] at hother
      exact hother

theorem silent_recordOperationResult {executorId : Option String}
    {result : OperationResultInternal} {completedAt : ℤ} (hname : result.functionName ≠ recvName) :
    Silent db ((recordOperationResult executorId result completedAt db).stateAfter db) := by
  unfold recordOperationResult
  cases hrecord : recordOperationResultTxn executorId result completedAt db with
  | error error => exact .refl db
  | ok db' => exact silent_recordOperationResultTxn hname hrecord

variable {V : Type} {serializers : Serializers V}

theorem silent_deliver {call : SendBulkCall V} {prepared : List PreparedMessage} {now : ℤ}
    {uuids : ℕ → String} (h : deliver call prepared now uuids db = .ok db') : Silent db db' := by
  have hinsert := deliver_eq_ok h
  obtain ⟨hframe, hstays, -⟩ := insertNotifications_eq_some hinsert
  have houtputs : db'.operationOutputs = db.operationOutputs := by rw [hframe]
  have hstatus : db'.workflowStatus = db.workflowStatus := by rw [hframe]
  refine ⟨?_, ?_, hstays, ?_, ?_⟩
  · intro key row hrow
    rw [houtputs]
    exact hrow
  · intro row hrow _
    rw [houtputs] at hrow
    exact hrow
  · intro row hrow hread
    rcases mem_insertNotifications hinsert hrow with hold | hnew
    · exact hold
    · rw [unconsumed_of_mem_notificationRows hnew] at hread
      cases hread
  · intro workflowId
    rw [hstatus]

/-- Sending is silent. -/
theorem silent_sendBulk {executorId : Option String} {call : SendBulkCall V}
    {now startTime completedAt : ℤ} {uuids : ℕ → String} (hname : call.functionName ≠ recvName) :
    Silent db ((sendBulk serializers executorId call now startTime completedAt uuids db).stateAfter
      db) := by
  unfold sendBulk
  cases hsend : sendBulkTxn serializers executorId call now startTime completedAt uuids db with
  | error error => exact .refl db
  | ok db' =>
    obtain ⟨-, prepared, -, ⟨-, hdeliver⟩ | ⟨workflowId, functionId, -, -, hstep⟩⟩ :=
      sendBulkTxn_eq_ok hsend
    · exact silent_deliver hdeliver
    · rcases recordedStep_eq_ok hstep with ⟨-, -, -, rfl⟩ | ⟨-, output, middle, hwork, hrecord⟩
      · exact .refl _
      · obtain ⟨delivered, hdeliver, hpure⟩ := bind_eq_ok.mp hwork
        cases hpure
        exact (silent_deliver hdeliver).trans (silent_recordOperationResultTxn hname hrecord)

/-- A `recv_consume` that writes its checkpoint: `row` is the checkpoint and `message` its output,
which is the message of the next notification, or `None` if there is none. -/
structure Takes (serializers : Serializers V) (db db' : SystemDatabase) (row : OperationOutputRow)
    (message : V) : Prop where
  inserted : db.operationOutputs.insertNew row = some db'.operationOutputs
  name : row.functionName = recvName
  output : row.output.isSome
  decodes : row.decode serializers = .ok message
  workflow : (db.workflowStatus.lookup row.workflowUuid).isSome
  statuses : ∀ workflowId, (db'.workflowStatus.lookup workflowId).map WorkflowStatusRow.status =
    (db.workflowStatus.lookup workflowId).map WorkflowStatusRow.status
  taken : db'.notifications = db.notifications ∧ message = serializers.pyNone ∨
    ∃ next : NotificationRow, next.IsNext db ∧ next.destinationUuid = row.workflowUuid ∧
      next.decode serializers = .ok message ∧
      db'.notifications = db.notifications.update (fun r ↦ r.messageUuid = next.messageUuid)
        (fun r ↦ { r with consumed := true })

variable {executorId topic : Option String} {workflowUuid : String}
  {functionId startTime completedAt : ℤ}

/-- With its checkpoint, `recv_consume` returns the recorded message and changes nothing. -/
theorem recvConsume_recorded {row : OperationOutputRow}
    (h : db.operationOutputs.lookup (workflowUuid, functionId) = some row) :
    recvConsume serializers executorId workflowUuid functionId topic startTime completedAt db =
      .ofExcept ((row.decode serializers).map fun message ↦ (message, db)) := by
  unfold recvConsume OperationOutputRow.decode
  simp only [h]
  congr 1

/-- A message found by the lookup of `recv_setup` is the output of the checkpoint. -/
theorem lookup_of_recvReplay {message : V}
    (h : recvReplay serializers workflowUuid functionId db = .ok (some message)) :
    ∃ row, db.operationOutputs.lookup (workflowUuid, functionId) = some row ∧
      row.decode serializers = .ok message := by
  obtain ⟨found, hcheck, hrest⟩ := bind_eq_ok.mp h
  cases found with
  | none => cases hrest
  | some recorded =>
    obtain ⟨row, hlookup, houtput, -, hserialization⟩ := exists_stored_of_check hcheck
    refine ⟨row, hlookup, ?_⟩
    simp only at hrest
    split at hrest
    · obtain ⟨message', hread, hpure⟩ := bind_eq_ok.mp hrest
      cases hpure
      rw [houtput, hserialization] at hread
      exact hread
    · cases hrest

/-- The message that `recv_consume` takes. -/
theorem consumeMessage_eq_ok {topic : String} {message : V} {serialization : Option String}
    (h : consumeMessage serializers workflowUuid topic db = .ok (message, serialization, db')) :
    db'.notifications = db.notifications ∧ message = serializers.pyNone ∨
      ∃ next : NotificationRow, next.IsNext db ∧ next.destinationUuid = workflowUuid ∧
        next.decode serializers = .ok message ∧
        db'.notifications = db.notifications.update (fun r ↦ r.messageUuid = next.messageUuid)
          (fun r ↦ { r with consumed := true }) := by
  unfold consumeMessage at h
  split at h
  · cases h
    exact Or.inl ⟨rfl, rfl⟩
  · rename_i next holdest
    obtain ⟨hnext, hdestination⟩ := oldestUnconsumed_eq_some holdest
    obtain ⟨message, hread, hpure⟩ := bind_eq_ok.mp h
    cases hpure
    exact Or.inr ⟨next, hnext, hdestination, hread, rfl⟩

/-- Without it, a `recv_consume` that returns has taken a message. -/
theorem recvConsume_new (hlawful : serializers.Lawful) {message : V}
    (hnone : db.operationOutputs.lookup (workflowUuid, functionId) = none)
    (h : recvConsume serializers executorId workflowUuid functionId topic startTime completedAt db =
      .returned message db') :
    ∃ row, row.key = (workflowUuid, functionId) ∧ Takes serializers db db' row message := by
  rw [recvConsume, Ending.ofExcept_eq_returned] at h
  simp only [hnone] at h
  obtain ⟨⟨consumed, serialization, middle⟩, hconsume, hrest⟩ := bind_eq_ok.mp h
  obtain ⟨⟨sermsg, name⟩, hwrite, hrest⟩ := bind_eq_ok.mp hrest
  obtain ⟨recorded, hrecord, hpure⟩ := bind_eq_ok.mp hrest
  cases hpure
  obtain ⟨source, hread⟩ := exists_source_of_consumeMessage hconsume
  have hkeeps := keepsCheckpoints_consumeMessage hconsume
  obtain ⟨-, status, hstatus, hupsert⟩ := recordOperationResultTxn_eq_ok hrecord
  have hreset : KeepsCheckpoints middle (resetExecutor executorId status middle) :=
    keepsCheckpoints_resetExecutor
  have hnotifications : db'.notifications = middle.notifications := by
    rw [recordOperationResultTxn_frame hrecord]
  have hnew := recordOperationResultTxn_new hrecord (by rw [hkeeps.1]; exact hnone)
  rcases upsertResult_eq_ok hupsert with ⟨-, hinsert, -⟩ | ⟨stored, hstored, -, -⟩
  · rw [hreset.1, hkeeps.1] at hinsert
    refine ⟨_, rfl, hinsert, rfl, rfl,
      Serializers.deserializeValue_serializeValueAs hlawful hread hwrite, ?_, ?_, ?_⟩
    · have hsome := hkeeps.2 workflowUuid
      rw [show middle.workflowStatus.lookup workflowUuid = some status from hstatus,
        Option.map_some] at hsome
      change (db.workflowStatus.lookup workflowUuid).isSome
      rw [← Option.isSome_map (f := WorkflowStatusRow.status), ← hsome]
      rfl
    · intro workflowId
      exact (hnew.2 workflowId).trans (hkeeps.2 workflowId)
    · rw [hnotifications]
      exact consumeMessage_eq_ok hconsume
  · rw [hreset.1, hkeeps.1] at hstored
    exact absurd (hnone.symm.trans hstored) (by simp)

end Transaction

/-! ## What every transaction keeps -/

section Progress

variable {V : Type} {serializers : Serializers V} {db db' : SystemDatabase}

/-- A transaction that consumed what its checkpoint returns: the next notification, or none and then
the checkpoint returns `None`. -/
def Transition.Receives (serializers : Serializers V) (t : Transition) (row : OperationOutputRow)
    (message : V) : Prop :=
  t.checkpoints = [row] ∧ row.decode serializers = .ok message ∧
    (t.consumed = [] ∧ message = serializers.pyNone ∨
      ∃ next : NotificationRow, t.consumed = [next] ∧ next.IsNext t.before ∧
        next.destinationUuid = row.workflowUuid ∧ next.decode serializers = .ok message)

/-- A transaction consumes nothing and writes no checkpoint of `recv`, or it receives. -/
def Transition.Sound (serializers : Serializers V) (t : Transition) : Prop :=
  t.consumed = [] ∧ t.checkpoints = [] ∨ ∃ row message, t.Receives serializers row message

/-- What the transactions of senders and receivers have in common. -/
structure Progress (serializers : Serializers V) (db db' : SystemDatabase) : Prop where
  outputs : ∀ key row, db.operationOutputs.lookup key = some row →
    db'.operationOutputs.lookup key = some row
  statuses : ∀ workflowId, (db'.workflowStatus.lookup workflowId).map WorkflowStatusRow.status =
    (db.workflowStatus.lookup workflowId).map WorkflowStatusRow.status
  stays : ∀ row ∈ db.notifications.rows, row.consumed = true →
    ∃ row' ∈ db'.notifications.rows, row'.messageUuid = row.messageUuid ∧ row'.consumed = true
  known : ∀ row' ∈ db'.notifications.rows, row'.consumed = true →
    ∃ row ∈ db.notifications.rows, row.messageUuid = row'.messageUuid
  sound : Transition.Sound serializers ⟨db, db'⟩
  replayable : ∀ row ∈ Transition.checkpoints ⟨db, db'⟩, row.output.isSome ∧
    (db.workflowStatus.lookup row.workflowUuid).isSome

theorem Silent.progress (serializers : Serializers V) (h : Silent db db') :
    Progress serializers db db' where
  outputs := h.outputs
  statuses := h.statuses
  stays row hrow hread := ⟨row, h.stays hrow, rfl, hread⟩
  known row hrow hread := ⟨row, h.consumed row hrow hread, rfl⟩
  sound := Or.inl ⟨h.consumed_eq, h.checkpoints_eq⟩
  replayable row hrow := by
    rw [h.checkpoints_eq] at hrow
    cases hrow

theorem Progress.refl (serializers : Serializers V) (db : SystemDatabase) :
    Progress serializers db db :=
  (Silent.refl db).progress serializers

section Takes

variable {row : OperationOutputRow} {message : V}

theorem Takes.checkpoints_eq (h : Takes serializers db db' row message) :
    Transition.checkpoints ⟨db, db'⟩ = [row] := by
  obtain ⟨hfresh, hrows⟩ := Table.insertNew_eq_some.mp h.inserted
  have hold : db.operationOutputs.rows.filter (fun row ↦ row.functionName = recvName &&
      (db.operationOutputs.lookup row.key).isNone) = [] := by
    rw [List.filter_eq_nil_iff]
    intro stored hstored
    simp [db.operationOutputs.lookup_key_of_mem hstored]
  have hnone : db.operationOutputs.lookup row.key = none := by
    rw [db.operationOutputs.lookup_eq_none]
    exact hfresh
  rw [Transition.checkpoints, hrows, List.filter_append, hold, List.nil_append]
  simp [h.name, hnone]

/-- Marking the next notification consumes it and nothing else. -/
theorem consumed_update {next : NotificationRow} (hnext : next.IsNext db)
    (h : db'.notifications = db.notifications.update (fun r ↦ r.messageUuid = next.messageUuid)
      (fun r ↦ { r with consumed := true })) :
    Transition.consumed ⟨db, db'⟩ = [next] := by
  have hmarks : ∀ row ∈ db.notifications.rows, (!row.consumed &&
      db'.notifications.rows.any fun row' ↦ row'.messageUuid = row.messageUuid && row'.consumed) =
        decide (row = next) := by
    intro row hrow
    rw [Bool.eq_iff_iff]
    simp only [Bool.and_eq_true, Bool.not_eq_true', List.any_eq_true, decide_eq_true_eq, h]
    constructor
    · rintro ⟨hunread, row', hrow', hid, hread⟩
      obtain ⟨source, hsource, heq⟩ := Table.mem_update.mp hrow'
      split at heq
      · rename_i hmatch
        rw [decide_eq_true_eq] at hmatch
        rw [heq] at hid
        exact db.notifications.eq_of_key hrow hnext.mem (hid.symm.trans hmatch)
      · rw [heq] at hid hread
        have hsame := db.notifications.eq_of_key hrow hsource hid.symm
        rw [hsame, hread] at hunread
        cases hunread
    · rintro rfl
      refine ⟨hnext.unconsumed, { row with consumed := true }, ?_, rfl, rfl⟩
      exact Table.mem_update.mpr ⟨row, hrow, by simp⟩
  rw [Transition.consumed, List.filter_congr hmarks, List.filter_eq,
    List.count_eq_one_of_mem (List.Nodup.of_map _ db.notifications.nodup) hnext.mem]
  rfl

theorem Takes.receives (h : Takes serializers db db' row message) :
    Transition.Receives serializers ⟨db, db'⟩ row message := by
  refine ⟨h.checkpoints_eq, h.decodes, ?_⟩
  rcases h.taken with ⟨hsame, hmessage⟩ | ⟨next, hnext, hdestination, hdecodes, hupdate⟩
  · refine Or.inl ⟨?_, hmessage⟩
    rw [Transition.consumed, List.filter_eq_nil_iff]
    intro row hrow hboth
    simp only [Bool.and_eq_true, Bool.not_eq_true', List.any_eq_true, decide_eq_true_eq,
      hsame] at hboth
    obtain ⟨hunread, row', hrow', hid, hread⟩ := hboth
    rw [db.notifications.eq_of_key hrow' hrow hid, hunread] at hread
    cases hread
  · exact Or.inr ⟨next, consumed_update hnext hupdate, hnext, hdestination, hdecodes⟩

theorem Takes.progress (h : Takes serializers db db' row message) : Progress serializers db db' where
  outputs key stored hstored := Table.lookup_insertNew_of_some h.inserted hstored
  statuses := h.statuses
  stays stored hstored hread := by
    rcases h.taken with ⟨hsame, -⟩ | ⟨next, -, -, -, hupdate⟩
    · exact ⟨stored, hsame ▸ hstored, rfl, hread⟩
    · rw [hupdate]
      by_cases hid : stored.messageUuid = next.messageUuid
      · exact ⟨{ stored with consumed := true }, Table.mem_update.mpr ⟨stored, hstored, by simp [hid]⟩,
          rfl, rfl⟩
      · exact ⟨stored, Table.mem_update.mpr ⟨stored, hstored, by simp [hid]⟩, rfl, hread⟩
  known stored hstored _ := by
    rcases h.taken with ⟨hsame, -⟩ | ⟨next, -, -, -, hupdate⟩
    · exact ⟨stored, hsame ▸ hstored, rfl⟩
    · rw [hupdate] at hstored
      obtain ⟨source, hsource, heq⟩ := Table.mem_update.mp hstored
      refine ⟨source, hsource, ?_⟩
      rw [heq]
      split
      · rfl
      · rfl
  sound := Or.inr ⟨row, message, h.receives⟩
  replayable other hother := by
    rw [h.checkpoints_eq, List.mem_singleton] at hother
    rw [hother]
    exact ⟨h.output, h.workflow⟩

end Takes

end Progress

/-! ## Every run -/

section Run

variable {ι V : Type} {serializers : Serializers V} {calls : ι → RecvCall}
  {start db' : SystemDatabase} {s s' : RecvState ι V}

/-- What holds after a run from the database `start`. -/
structure Received (serializers : Serializers V) (calls : ι → RecvCall) (start : SystemDatabase)
    (s : RecvState ι V) : Prop where
  once : ((s.history.flatMap Transition.consumed).map NotificationRow.messageUuid).Nodup
  consumed : ∀ t ∈ s.history, ∀ row ∈ t.consumed, ∃ row' ∈ s.db.notifications.rows,
    row'.messageUuid = row.messageUuid ∧ row'.consumed = true
  sound : ∀ t ∈ s.history, t.Sound serializers
  kept : ∀ t ∈ s.history, ∀ row ∈ t.checkpoints,
    s.db.operationOutputs.lookup row.key = some row ∧ row.output.isSome ∧
      (s.db.workflowStatus.lookup row.workflowUuid).isSome
  recorded : ∀ row ∈ s.db.operationOutputs.rows, row.functionName = recvName →
    row ∈ start.operationOutputs.rows ∨ ∃ t ∈ s.history, row ∈ t.checkpoints
  accounted : ∀ row ∈ s.db.notifications.rows, row.consumed = true →
    (∃ old ∈ start.notifications.rows, old.messageUuid = row.messageUuid ∧ old.consumed = true) ∨
      ∃ t ∈ s.history, ∃ old ∈ t.consumed, old.messageUuid = row.messageUuid
  told : ∀ caller message, s.phase caller = .finished (.ok message) →
    ∃ row, s.db.operationOutputs.lookup (calls caller).key = some row ∧
      row.decode serializers = .ok message
  sleeping : ∀ caller startTime result completedAt,
    s.phase caller = .recordSleep startTime result completedAt → result.functionName = sleepName

theorem received_initial (db : SystemDatabase) :
    Received serializers calls db (RecvState.initial db) where
  once := List.nodup_nil
  consumed _ h := absurd h List.not_mem_nil
  sound _ h := absurd h List.not_mem_nil
  kept _ h := absurd h List.not_mem_nil
  recorded row h _ := Or.inl h
  accounted row h hread := Or.inl ⟨row, h, rfl, hread⟩
  told _ _ h := by cases h
  sleeping _ _ _ _ h := by cases h

/-- A transaction does not consume what was consumed before. -/
theorem Received.once_commit (h : Received serializers calls start s) :
    (((s.commit db').history.flatMap Transition.consumed).map
      NotificationRow.messageUuid).Nodup := by
  rw [RecvState.history_commit, List.flatMap_append, List.flatMap_singleton, List.map_append, List.nodup_append]
  refine ⟨h.once, s.db.notifications.nodup_keys_filter _, ?_⟩
  intro id hold id' hnew heq
  obtain ⟨row, hrow, rfl⟩ := List.mem_map.mp hold
  obtain ⟨t, ht, hconsumed⟩ := List.mem_flatMap.mp hrow
  obtain ⟨row', hrow', hid, hread⟩ := h.consumed t ht row hconsumed
  obtain ⟨fresh, hfresh, rfl⟩ := List.mem_map.mp hnew
  obtain ⟨hmem, hboth⟩ := List.mem_filter.mp hfresh
  rw [Bool.and_eq_true, Bool.not_eq_true'] at hboth
  have hsame := s.db.notifications.eq_of_key hrow' hmem (hid.trans heq)
  rw [hsame, hboth.1] at hread
  cases hread

/-- A transaction keeps what holds after a run. -/
theorem Received.commit (h : Received serializers calls start s)
    (hprogress : Progress serializers s.db db') :
    Received serializers calls start (s.commit db') := by
  have hhistory {t : Transition} : t ∈ (s.commit db').history ↔ t ∈ s.history ∨ t = ⟨s.db, db'⟩ := by
    simp [RecvState.history_commit]
  have hworkflow {workflowId : String} (hsome : (s.db.workflowStatus.lookup workflowId).isSome) :
      (db'.workflowStatus.lookup workflowId).isSome := by
    rw [← Option.isSome_map (f := WorkflowStatusRow.status), hprogress.statuses, Option.isSome_map]
    exact hsome
  refine ⟨h.once_commit, ?_, ?_, ?_, ?_, ?_, ?_, h.sleeping⟩
  · intro t ht row hrow
    rcases hhistory.mp ht with hold | rfl
    · obtain ⟨row', hrow', hid, hread⟩ := h.consumed t hold row hrow
      obtain ⟨row'', hrow'', hid', hread'⟩ := hprogress.stays row' hrow' hread
      exact ⟨row'', hrow'', hid'.trans hid, hread'⟩
    · have hboth := (List.mem_filter.mp hrow).2
      simp only [Bool.and_eq_true, List.any_eq_true, decide_eq_true_eq] at hboth
      exact hboth.2
  · intro t ht
    rcases hhistory.mp ht with hold | rfl
    · exact h.sound t hold
    · exact hprogress.sound
  · intro t ht row hrow
    rcases hhistory.mp ht with hold | rfl
    · obtain ⟨hlookup, houtput, hsome⟩ := h.kept t hold row hrow
      exact ⟨hprogress.outputs _ _ hlookup, houtput, hworkflow hsome⟩
    · obtain ⟨houtput, hsome⟩ := hprogress.replayable row hrow
      refine ⟨?_, houtput, hworkflow hsome⟩
      exact db'.operationOutputs.lookup_key_of_mem (List.mem_filter.mp hrow).1
  · intro row hrow hname
    cases hlookup : s.db.operationOutputs.lookup row.key with
    | none =>
      refine Or.inr ⟨⟨s.db, db'⟩, hhistory.mpr (Or.inr rfl), List.mem_filter.mpr ⟨hrow, ?_⟩⟩
      simp [hname, hlookup]
    | some stored =>
      have hstored := hprogress.outputs _ _ hlookup
      rw [db'.operationOutputs.lookup_key_of_mem hrow, Option.some.injEq] at hstored
      have hmem := (s.db.operationOutputs.lookup_eq_some.mp hlookup).1
      rw [← hstored] at hmem
      rcases h.recorded row hmem hname with hstart | ⟨t, ht, hcheckpoint⟩
      · exact Or.inl hstart
      · exact Or.inr ⟨t, hhistory.mpr (Or.inl ht), hcheckpoint⟩
  · intro row hrow hread
    obtain ⟨old, hold, hid⟩ := hprogress.known row hrow hread
    cases hconsumed : old.consumed with
    | true =>
      rcases h.accounted old hold hconsumed with ⟨first, hfirst, hid', hread'⟩ | ⟨t, ht, first, hfirst, hid'⟩
      · exact Or.inl ⟨first, hfirst, hid'.trans hid, hread'⟩
      · exact Or.inr ⟨t, hhistory.mpr (Or.inl ht), first, hfirst, hid'.trans hid⟩
    | false =>
      refine Or.inr ⟨⟨s.db, db'⟩, hhistory.mpr (Or.inr rfl), old, List.mem_filter.mpr ⟨hold, ?_⟩, hid⟩
      simp only [hconsumed, Bool.not_false, Bool.true_and, List.any_eq_true, Bool.and_eq_true,
        decide_eq_true_eq]
      exact ⟨row, hrow, hid.symm, hread⟩
  · intro caller message hphase
    obtain ⟨row, hlookup, hdecodes⟩ := h.told caller message hphase
    exact ⟨row, hprogress.outputs _ _ hlookup, hdecodes⟩

/-- A phase that may follow on a database. -/
structure RecvPhase.Fits (serializers : Serializers V) (call : RecvCall) (db : SystemDatabase)
    (phase : RecvPhase V) : Prop where
  told : ∀ message, phase = .finished (.ok message) →
    ∃ row, db.operationOutputs.lookup call.key = some row ∧ row.decode serializers = .ok message
  sleeping : ∀ startTime result completedAt, phase = .recordSleep startTime result completedAt →
    result.functionName = sleepName

theorem Received.setPhase [DecidableEq ι] (h : Received serializers calls start s) {caller : ι}
    {phase : RecvPhase V} (hphase : phase.Fits serializers (calls caller) s.db) :
    Received serializers calls start (s.setPhase caller phase) := by
  refine { h with told := ?_, sleeping := ?_ }
  · intro other message hother
    rw [RecvState.phase_setPhase] at hother
    split at hother
    · rename_i heq
      rw [heq]
      exact hphase.told message hother
    · exact h.told other message hother
  · intro other startTime result completedAt hother
    rw [RecvState.phase_setPhase] at hother
    split at hother
    · exact hphase.sleeping startTime result completedAt hother
    · exact h.sleeping other startTime result completedAt hother

/-- What one attempt of `recv_consume` does. -/
theorem recvConsume_spec (hlawful : serializers.Lawful) (call : RecvCall) (startTime completedAt : ℤ)
    (db : SystemDatabase) {ending : Ending SystemDatabase DBOSError V}
    (h : recvConsume serializers call.executorId call.workflowUuid call.functionId call.topic
      startTime completedAt db = ending) :
    Progress serializers db (ending.stateAfter db) ∧
      RecvPhase.Fits serializers call (ending.stateAfter db) (.finished ending.result) := by
  cases ending with
  | raised error => exact ⟨.refl serializers db, by simp, by simp⟩
  | raisedAfterCommit error state =>
    unfold recvConsume Ending.ofExcept at h
    split at h
    · cases h
    · cases h
  | returned message state =>
    cases hlookup : db.operationOutputs.lookup call.key with
    | some row =>
      rw [recvConsume_recorded hlookup, Ending.ofExcept_eq_returned, map_eq_ok] at h
      obtain ⟨decoded, hdecodes, heq⟩ := h
      cases heq
      refine ⟨.refl serializers db, ?_, by simp⟩
      intro message' hmessage
      cases hmessage
      exact ⟨row, hlookup, hdecodes⟩
    | none =>
      obtain ⟨row, hkey, htakes⟩ := recvConsume_new hlawful hlookup h
      refine ⟨htakes.progress, ?_, by simp⟩
      intro message' hmessage
      cases hmessage
      refine ⟨row, ?_, htakes.decodes⟩
      rw [RecvCall.key, ← hkey]
      exact Table.lookup_insertNew_self htakes.inserted

/-- What one attempt of a call's next transaction does. -/
theorem RecvPhase.advance_spec (hlawful : serializers.Lawful) {call : RecvCall}
    {reading : RecvReading V} {fate : Fate} {db : SystemDatabase} {phase phase' : RecvPhase V}
    (hfits : phase.Fits serializers call db)
    (h : phase.advance serializers call reading fate db = some (phase', db')) :
    Progress serializers db db' ∧ phase'.Fits serializers call db' := by
  cases phase with
  | setup =>
    rw [RecvPhase.advance] at h
    split at h
    · split at h
      · cases h
        exact ⟨.refl _ _, by simp, by simp⟩
      · rename_i message hreplay
        cases h
        refine ⟨.refl _ _, ?_, by simp⟩
        intro message' heq
        cases heq
        exact lookup_of_recvReplay hreplay
      · cases h
        exact ⟨.refl _ _, by simp, by simp⟩
    · cases h
      exact ⟨.refl _ _, hfits⟩
  | checkSleep startTime =>
    rw [RecvPhase.advance] at h
    split at h
    · split at h
      · cases h
        exact ⟨.refl _ _, by simp, by simp⟩
      · cases h
        exact ⟨.refl _ _, by simp, by simp⟩
      · split at h
        · cases h
          exact ⟨.refl _ _, by simp, by simp⟩
        · rename_i result hresult
          cases h
          refine ⟨.refl _ _, by simp, ?_⟩
          intro startTime' result' completedAt' heq
          cases heq
          obtain ⟨text, -, hpure⟩ := bind_eq_ok.mp hresult
          cases hpure
          rfl
    · cases h
      exact ⟨.refl _ _, hfits⟩
  | recordSleep startTime result completedAt =>
    have hname : result.functionName ≠ recvName := by
      rw [hfits.sleeping startTime result completedAt rfl]
      decide
    have hprogress : Progress serializers db
        ((recordOperationResult call.executorId result completedAt db).stateAfter db) :=
      (silent_recordOperationResult hname).progress serializers
    cases fate with
    | failed =>
      cases h
      exact ⟨.refl _ _, hfits⟩
    | unacknowledged =>
      cases h
      exact ⟨hprogress, by simp, hfits.sleeping⟩
    | acknowledged =>
      simp only [RecvPhase.advance] at h
      split at h
      · cases h
        exact ⟨hprogress, by simp, by simp⟩
      · cases h
        exact ⟨hprogress, by simp, by simp⟩
      · cases h
        exact ⟨hprogress, by simp, by simp⟩
  | waiting startTime =>
    obtain ⟨hprogress, hfinished⟩ :=
      recvConsume_spec hlawful call startTime reading.completedAt db rfl
    cases fate with
    | failed =>
      cases h
      exact ⟨.refl _ _, hfits⟩
    | unacknowledged =>
      cases h
      exact ⟨hprogress, by simp, by simp⟩
    | acknowledged =>
      cases h
      exact ⟨hprogress, hfinished⟩
  | finished result => cases h

variable [DecidableEq ι]

/-- Every step keeps what holds after a run. -/
theorem received_step (hlawful : serializers.Lawful) {a : RecvAction ι V}
    (h : Received serializers calls start s)
    (hstep : (recvSystem serializers calls).step s a = some s') :
    Received serializers calls start s' := by
  cases a with
  | send executorId call now startTime completedAt uuids fate =>
    simp only [recvSystem] at hstep
    split at hstep
    · cases hstep
    · rename_i hname
      split at hstep
      · cases hstep
        exact h
      · cases hstep
        exact h.commit ((silent_sendBulk hname).progress serializers)
  | advance caller reading fate =>
    simp only [recvSystem, Option.map_eq_some_iff, Prod.exists] at hstep
    obtain ⟨phase, db', hadvance, rfl⟩ := hstep
    have hfits : (s.phase caller).Fits serializers (calls caller) s.db :=
      ⟨h.told caller, h.sleeping caller⟩
    obtain ⟨hprogress, hphase⟩ := RecvPhase.advance_spec hlawful hfits hadvance
    exact (h.commit hprogress).setPhase hphase
  | conflict caller =>
    simp only [recvSystem] at hstep
    split at hstep
    · cases hstep
      exact h.setPhase ⟨by simp, by simp⟩
    · cases hstep
  | crash caller =>
    cases hstep
    exact h.setPhase ⟨by simp, by simp⟩

/-- A `recv` that is executed again returns `message` and changes nothing: `recv_consume` always, and
`recv_setup` unless the workflow is cancelled. -/
def ReplaysAs (serializers : Serializers V) (db : SystemDatabase) (row : OperationOutputRow)
    (message : V) : Prop :=
  (∀ executorId topic startTime completedAt, recvConsume serializers executorId row.workflowUuid
    row.functionId topic startTime completedAt db = .returned message db) ∧
  ∃ status, db.workflowStatus.lookup row.workflowUuid = some status ∧
    recvReplay serializers row.workflowUuid row.functionId db =
      if status.status = .cancelled then
        .error (.workflowCancelled
          ("Workflow " ++ row.workflowUuid ++ " is cancelled. Aborting function."))
      else .ok (some message)

/-- A checkpoint of `recv` that is in the table replays. -/
theorem replaysAs_of_lookup {db : SystemDatabase} {row : OperationOutputRow} {message : V}
    (hlookup : db.operationOutputs.lookup row.key = some row) (hname : row.functionName = recvName)
    (houtput : row.output.isSome) (hdecodes : row.decode serializers = .ok message)
    (hworkflow : (db.workflowStatus.lookup row.workflowUuid).isSome) :
    ReplaysAs serializers db row message := by
  constructor
  · intro executorId topic startTime completedAt
    rw [recvConsume_recorded hlookup, hdecodes]
    rfl
  · obtain ⟨status, hstatus⟩ := Option.isSome_iff_exists.mp hworkflow
    have hstored : db.operationOutputs.lookup (row.workflowUuid, row.functionId) = some row := hlookup
    refine ⟨status, hstatus, ?_⟩
    unfold recvReplay checkOperationExecutionTxn
    simp only [hstatus, hstored, hname]
    split
    · rfl
    · simp only [ne_eq, not_true_eq_false, if_false]
      change (if row.output.isSome then _ else _) = _
      rw [if_pos houtput]
      unfold OperationOutputRow.decode at hdecodes
      rw [hdecodes]
      rfl

/-- Exactly once and in order, after a run from the database `start`. -/
structure ExactlyOnce (serializers : Serializers V) (calls : ι → RecvCall) (start : SystemDatabase)
    (s : RecvState ι V) : Prop where
  /-- No notification is consumed twice. -/
  once : ((s.history.flatMap Transition.consumed).map NotificationRow.messageUuid).Nodup
  /-- A transaction that consumes or writes a checkpoint of `recv` writes one checkpoint, and it
  consumes what the checkpoint returns: the oldest unconsumed notification, or none. -/
  sound : ∀ t ∈ s.history, t.Sound serializers
  /-- What is consumed was consumed by one of the transactions. -/
  accounted : ∀ row ∈ s.db.notifications.rows, row.consumed = true →
    (∃ old ∈ start.notifications.rows, old.messageUuid = row.messageUuid ∧ old.consumed = true) ∨
      ∃ t ∈ s.history, ∃ old ∈ t.consumed, old.messageUuid = row.messageUuid
  /-- Every checkpoint of `recv` was written by one of the transactions. -/
  recorded : ∀ row ∈ s.db.operationOutputs.rows, row.functionName = recvName →
    row ∈ start.operationOutputs.rows ∨ ∃ t ∈ s.history, row ∈ t.checkpoints
  /-- Every such checkpoint is still there, and the call replays it. -/
  replays : ∀ t ∈ s.history, ∀ row message, t.Receives serializers row message →
    s.db.operationOutputs.lookup row.key = some row ∧ ReplaysAs serializers s.db row message
  /-- A call that has returned has returned the output of its checkpoint. -/
  told : ∀ caller message, s.phase caller = .finished (.ok message) →
    ∃ row, s.db.operationOutputs.lookup (calls caller).key = some row ∧
      row.decode serializers = .ok message

/-- In every interleaving of senders and receivers, with crashes and retries, `recv` receives
exactly once and in order. -/
theorem recv_exactlyOnce (hlawful : serializers.Lawful) (calls : ι → RecvCall)
    (start : SystemDatabase) {actions : List (RecvAction ι V)}
    (hrun : (recvSystem serializers calls).run (RecvState.initial start) actions = some s) :
    ExactlyOnce serializers calls start s := by
  have h : Received serializers calls start s :=
    (recvSystem serializers calls).reaches_invariant
      (fun s a s' h hstep ↦ received_step hlawful h hstep) (received_initial start) ⟨actions, hrun⟩
  refine ⟨h.once, h.sound, h.accounted, h.recorded, ?_, h.told⟩
  intro t ht row message hreceives
  have hrow : row ∈ t.checkpoints := by
    rw [hreceives.1]
    exact List.mem_singleton_self row
  obtain ⟨hlookup, houtput, hworkflow⟩ := h.kept t ht row hrow
  have hname : row.functionName = recvName := by
    have hboth := (List.mem_filter.mp hrow).2
    rw [Bool.and_eq_true, decide_eq_true_eq] at hboth
    exact hboth.1
  exact ⟨hlookup, replaysAs_of_lookup hlookup hname houtput hreceives.2.1 hworkflow⟩

end Run

/-! ## A run -/

/-- Two executions of the first step of the running workflow. -/
def twoReceivers (_ : Bool) : RecvCall where
  executorId := some "local"
  workflowUuid := "wf"
  functionId := 1
  timeoutFunctionId := 2

def recvReading : RecvReading (Option Bool) where
  startTime := 10
  completedAt := 10
  endTime := some true

/-- One message is sent; the first execution consumes it, its acknowledgement is lost and the
process stops; the second execution replays. -/
def receiveTwice : List (RecvAction Bool (Option Bool)) :=
  [.send none
      { messages := [{ destinationId := "wf", message := some false }], functionName := "DBOS.send" }
      10 10 10 firstReading.uuids .acknowledged,
    .advance false recvReading .acknowledged,
    .advance false recvReading .acknowledged,
    .advance false recvReading .acknowledged,
    .advance false recvReading .unacknowledged,
    .crash false,
    .advance true recvReading .acknowledged]

theorem exactlyOnce_receiveTwice :
    ∃ s, (recvSystem booleanSerializers twoReceivers).run (RecvState.initial runningWorkflow)
        receiveTwice = some s ∧
      (s.history.flatMap Transition.consumed).length = 1 ∧
      s.phase true = .finished (.ok (some false)) ∧
      ExactlyOnce booleanSerializers twoReceivers runningWorkflow s := by
  obtain ⟨s, hrun, hlength, hphase⟩ :
      ∃ s, (recvSystem booleanSerializers twoReceivers).run (RecvState.initial runningWorkflow)
          receiveTwice = some s ∧
        (s.history.flatMap Transition.consumed).length = 1 ∧
        s.phase true = .finished (.ok (some false)) :=
    ⟨_, rfl, by decide, rfl⟩
  refine ⟨s, hrun, hlength, hphase, ?_⟩
  exact recv_exactlyOnce lawful_booleanSerializers twoReceivers runningWorkflow hrun

end DBOSModel.SysDb

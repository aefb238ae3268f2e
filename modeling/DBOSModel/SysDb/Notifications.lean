import DBOSModel.SysDb.Checkpoint

/-!
# Messages between workflows

`send_bulk` and `recv_consume` of `dbos/_sys_db.py`. A batch is one multi-row insert into
`notifications` that leaves taken message IDs alone; a message with an idempotency key gets the same
ID in every attempt, one without a key gets a generated ID, read from the stream `uuids` at the
position of its row. With `send_to_forks` each message also goes to every fork of its destination,
found by the two walks of `_find_fork_descendants_txn`: level by level over the table, then from each
root over the edges that were found. Both loops are bounded by the number of rows and of edges.
-/

namespace DBOSModel.SysDb

open Relational

/-- `_dbos_null_topic`. -/
def nullTopic : String := "__null__topic__"

structure SendMessage (V : Type) where
  destinationId : String
  message : V
  topic : Option String := none
  idempotencyKey : Option String := none

/-- `sorted` on strings: by code points. -/
def sortedStrings (names : List String) : List String := names.insertionSort (· ≤ ·)

/-! ## Fork descendants -/

/-- The state of the walk over the levels: the edges found, from parent to fork, the workflows seen
and the workflows of the next level. -/
structure ForkWalk where
  children : List (String × String)
  seen : List String
  frontier : List String

/-- The forks of the workflows of one level, each with the workflow it was forked from. -/
def forksOf (db : SystemDatabase) (frontier : List String) : List (String × String) :=
  db.statusRows.filterMap fun row ↦
    row.forkedFrom.bind fun forkedFrom ↦
      if forkedFrom ∈ frontier then some (row.workflowUuid, forkedFrom) else none

namespace ForkWalk

/-- The body of the loop over the rows of one level. -/
def visit (walk : ForkWalk) (row : String × String) : ForkWalk :=
  let children := walk.children ++ [(row.2, row.1)]
  if row.1 ∈ walk.seen then { walk with children := children }
  else
    { children := children
      seen := walk.seen ++ [row.1]
      frontier := walk.frontier ++ [row.1] }

/-- The loop over the levels. -/
def levels (db : SystemDatabase) : ℕ → ForkWalk → ForkWalk
  | 0, walk => walk
  | fuel + 1, walk =>
    if walk.frontier = [] then walk
    else levels db fuel ((forksOf db walk.frontier).foldl visit { walk with frontier := [] })

end ForkWalk

/-- `children.get(node, [])`. -/
def childrenOf (children : List (String × String)) (node : String) : List String :=
  children.filterMap fun edge ↦ if edge.1 = node then some edge.2 else none

/-- The loop that collects the descendants of one root from a stack. -/
def collectDescendants (children : List (String × String)) (root : String) :
    ℕ → List String → List String → List String
  | 0, _, descendants => descendants
  | fuel + 1, stack, descendants =>
    match stack.getLast? with
    | none => descendants
    | some node =>
      if node ≠ root ∧ node ∉ descendants then
        collectDescendants children root fuel (stack.dropLast ++ childrenOf children node)
          (descendants ++ [node])
      else collectDescendants children root fuel stack.dropLast descendants

/-- `_find_fork_descendants_txn`. -/
def findForkDescendantsTxn (workflowIds : List String) (db : SystemDatabase) :
    List (String × List String) :=
  -- every level but the first has a workflow of the table that was not seen before
  let children := (ForkWalk.levels db (db.statusRows.length + 1)
    { children := [], seen := workflowIds, frontier := workflowIds.eraseDups }).children
  -- every edge is put on the stack at most once
  workflowIds.eraseDups.map fun root ↦
    (root, collectDescendants children root (children.length + 1) (childrenOf children root) [])

/-! ## `send_bulk` -/

/-- The arguments of one `send_bulk` call. -/
structure SendBulkCall (V : Type) where
  messages : List (SendMessage V)
  serializationType : WorkflowSerializationFormat := .default
  workflowId : Option String := none
  functionId : Option ℤ := none
  functionName : String
  sendToForks : Bool := false

/-- A message after its serialization. -/
structure PreparedMessage where
  destinationId : String
  topic : String
  idempotencyKey : Option String
  serval : String
  serialization : String

/-- The keys that the duplicate check looks at: an empty key counts as none. -/
def providedKeys {V : Type} (messages : List (SendMessage V)) : List String :=
  messages.filterMap fun m ↦ m.idempotencyKey.filter fun key ↦ key ≠ ""

def rejectDuplicateKeys {V : Type} (messages : List (SendMessage V)) : Except DBOSError Unit :=
  let keys := providedKeys messages
  if keys.Nodup then .ok ()
  else
    let duplicates := sortedStrings (keys.filter fun key ↦ 1 < keys.count key).eraseDups
    .error (.dbosException ("send_bulk received duplicate idempotency keys: " ++
      ", ".intercalate duplicates))

def prepareMessage {V : Type} (serializers : Serializers V) (format : WorkflowSerializationFormat)
    (m : SendMessage V) : Except DBOSError PreparedMessage := do
  let (serval, serialization) ← serializers.serializeValue m.message format
  pure
    { destinationId := m.destinationId
      topic := m.topic.getD nullTopic
      idempotencyKey := m.idempotencyKey
      serval := serval
      serialization := serialization }

/-- The recipients of a message: its destination, and its forks in sorted order. -/
def recipients (sendToForks : Bool) (forkDescendants : List (String × List String))
    (destinationId : String) : List String :=
  destinationId ::
    if sendToForks then sortedStrings ((forkDescendants.lookup destinationId).getD []) else []

/-- One row of the insert; `uuid` is the ID generated for it, used without an idempotency key. -/
def notificationRow (now : ℤ) (uuid : String) (m : PreparedMessage) (dest : String) :
    NotificationRow where
  destinationUuid := dest
  topic := m.topic
  message := m.serval
  createdAtEpochMs := now
  messageUuid :=
    match m.idempotencyKey with
    | none => uuid
    | some key => key ++ "::" ++ dest
  serialization := some m.serialization

/-- The rows of a batch. -/
def notificationRows (now : ℤ) (uuids : ℕ → String) (sendToForks : Bool)
    (prepared : List PreparedMessage) (db : SystemDatabase) : List NotificationRow :=
  let forkDescendants :=
    if sendToForks then findForkDescendantsTxn (prepared.map PreparedMessage.destinationId) db
    else []
  let pairs := prepared.flatMap fun m ↦
    (recipients sendToForks forkDescendants m.destinationId).map fun dest ↦ (m, dest)
  pairs.mapIdx fun i pair ↦ notificationRow now (uuids i) pair.1 pair.2

/-- The multi-row insert with `ON CONFLICT (message_uuid) DO NOTHING`. A row that is inserted for a
workflow that does not exist violates the foreign key. -/
def insertNotifications : List NotificationRow → SystemDatabase → Option SystemDatabase
  | [], db => some db
  | row :: rest, db =>
    match db.notifications.insertNew row with
    | none => insertNotifications rest db
    | some notifications =>
      if db.hasWorkflow row.destinationUuid then
        insertNotifications rest { db with notifications := notifications }
      else none

/-- The part of `_send_bulk_txn` between the checkpoint lookup and the recording. -/
def deliver {V : Type} (call : SendBulkCall V) (prepared : List PreparedMessage) (now : ℤ)
    (uuids : ℕ → String) (db : SystemDatabase) : Except DBOSError SystemDatabase :=
  match insertNotifications (notificationRows now uuids call.sendToForks prepared db) db with
  | some db' => .ok db'
  | none => .error (.nonExistentWorkflow "`send` destination"
      (", ".intercalate (sortedStrings (call.messages.map SendMessage.destinationId).eraseDups)))

/-- `_send_bulk_txn`, with the clock readings and the generated IDs of the attempt. -/
def sendBulkTxn {V : Type} (serializers : Serializers V) (executorId : Option String)
    (call : SendBulkCall V) (now startTime completedAt : ℤ) (uuids : ℕ → String)
    (db : SystemDatabase) : Except DBOSError SystemDatabase := do
  rejectDuplicateKeys call.messages
  let prepared ← call.messages.mapM (prepareMessage serializers call.serializationType)
  match call.workflowId with
  | none => deliver call prepared now uuids db
  | some workflowId =>
    match call.functionId with
    | none => .error (.assertionError "")
    | some functionId =>
      let ((), db') ← recordedStep
        ⟨executorId, workflowId, functionId, call.functionName, startTime, completedAt⟩
        (fun _ ↦ .ok ())
        (fun db ↦ do
          let db' ← deliver call prepared now uuids db
          pure ((), none, db'))
        db
      pure db'

/-- One attempt of `send_bulk`. -/
def sendBulk {V : Type} (serializers : Serializers V) (executorId : Option String)
    (call : SendBulkCall V) (now startTime completedAt : ℤ) (uuids : ℕ → String)
    (db : SystemDatabase) : Ending SystemDatabase DBOSError Unit :=
  .ofExcept ((sendBulkTxn serializers executorId call now startTime completedAt uuids db).map
    fun db' ↦ ((), db'))

/-! ## `recv_consume` -/

/-- The oldest unconsumed message of a workflow on a topic. -/
def oldestUnconsumed (workflowUuid topic : String) (db : SystemDatabase) : Option NotificationRow :=
  ((db.notifications.rows.filter fun row ↦
      row.destinationUuid = workflowUuid && row.topic = topic && !row.consumed).insertionSort
    fun a b ↦ a.createdAtEpochMs ≤ b.createdAtEpochMs).head?

/-- The consuming update, with the message and its serialization. -/
def consumeMessage {V : Type} (serializers : Serializers V) (workflowUuid topic : String)
    (db : SystemDatabase) : Except DBOSError (V × Option String × SystemDatabase) :=
  match oldestUnconsumed workflowUuid topic db with
  | none => .ok (serializers.pyNone, none, db)
  | some row => do
    let message ← serializers.deserializeValue (some row.message) row.serialization
    pure (message, row.serialization,
      { db with
        notifications := db.notifications.update (fun r ↦ r.messageUuid = row.messageUuid)
          (fun r ↦ { r with consumed := true }) })

/-- One attempt of `recv_consume`; the start time was read by `recv_setup`. -/
def recvConsume {V : Type} (serializers : Serializers V) (executorId : Option String)
    (workflowUuid : String) (functionId : ℤ) (topic : Option String) (startTime completedAt : ℤ)
    (db : SystemDatabase) : Ending SystemDatabase DBOSError V :=
  .ofExcept <|
    match db.operationOutputs.lookup (workflowUuid, functionId) with
    | some recorded => do
      let message ← serializers.deserializeValue recorded.output recorded.serialization
      pure (message, db)
    | none => do
      let (message, serialization, db') ←
        consumeMessage serializers workflowUuid (topic.getD nullTopic) db
      let (sermsg, name) ← serializers.serializeValueAs message serialization
      let db'' ← recordOperationResultTxn executorId
        { workflowUuid := workflowUuid
          functionId := functionId
          functionName := "DBOS.recv"
          startedAtEpochMs := startTime
          output := some sermsg
          serialization := some name }
        completedAt db'
      pure (message, db'')

/-! ## Facts about delivery -/

section Delivery

variable {rows : List NotificationRow} {db db' : SystemDatabase}

/-- What an accepted insert leaves: only `notifications` changes, its rows stay, and every message
ID of the batch is taken afterwards. -/
theorem insertNotifications_eq_some (h : insertNotifications rows db = some db') :
    db' = { db with notifications := db'.notifications } ∧
      db.notifications.rows ⊆ db'.notifications.rows ∧
      ∀ row ∈ rows, ∃ s ∈ db'.notifications.rows, s.messageUuid = row.messageUuid := by
  induction rows generalizing db with
  | nil =>
    cases h
    simp
  | cons row rest ih =>
    rw [insertNotifications] at h
    split at h
    · rename_i htaken
      obtain ⟨heq, hsubset, htakenRest⟩ := ih h
      obtain ⟨s, hs, hkey⟩ := Table.insertNew_eq_none.mp htaken
      refine ⟨heq, hsubset, List.forall_mem_cons.mpr ⟨⟨s, hsubset hs, hkey⟩, htakenRest⟩⟩
    · rename_i notifications hinsert
      split at h
      · obtain ⟨heq, hsubset, htakenRest⟩ := ih h
        have hrows := (Table.insertNew_eq_some.mp hinsert).2
        have hmem : row ∈ db'.notifications.rows := hsubset (by simp [hrows])
        refine ⟨heq, fun s hs ↦ hsubset (by simp [hrows, hs]), ?_⟩
        exact List.forall_mem_cons.mpr ⟨⟨row, hmem, rfl⟩, htakenRest⟩
      · cases h

/-- A row found after an insert was there before or is one of the batch. -/
theorem mem_insertNotifications {row : NotificationRow}
    (h : insertNotifications rows db = some db') (hrow : row ∈ db'.notifications.rows) :
    row ∈ db.notifications.rows ∨ row ∈ rows := by
  induction rows generalizing db with
  | nil =>
    cases h
    exact Or.inl hrow
  | cons first rest ih =>
    rw [insertNotifications] at h
    split at h
    · exact (ih h).imp_right (List.mem_cons_of_mem first)
    · rename_i notifications hinsert
      split at h
      · rcases ih h with hold | hrest
        · rcases (Table.mem_insertNew hinsert).mp hold with hdb | rfl
          · exact Or.inl hdb
          · exact Or.inr List.mem_cons_self
        · exact Or.inr (List.mem_cons_of_mem first hrest)
      · cases h

/-- The rows of a batch are unconsumed. -/
theorem unconsumed_of_mem_notificationRows {now : ℤ} {uuids : ℕ → String} {sendToForks : Bool}
    {prepared : List PreparedMessage} {row : NotificationRow}
    (h : row ∈ notificationRows now uuids sendToForks prepared db) : row.consumed = false := by
  obtain ⟨i, hi, rfl⟩ := List.mem_mapIdx.mp h
  rfl

/-- A batch whose message IDs are all taken changes nothing. -/
theorem insertNotifications_of_taken
    (h : ∀ row ∈ rows, ∃ s ∈ db.notifications.rows, s.messageUuid = row.messageUuid) :
    insertNotifications rows db = some db := by
  induction rows with
  | nil => rfl
  | cons row rest ih =>
    obtain ⟨hfirst, hrest⟩ := List.forall_mem_cons.mp h
    rw [insertNotifications, Table.insertNew_eq_none.mpr hfirst]
    exact ih hrest

/-- The recipients depend on the status table only. -/
theorem findForkDescendantsTxn_congr (h : db'.workflowStatus = db.workflowStatus)
    (workflowIds : List String) :
    findForkDescendantsTxn workflowIds db' = findForkDescendantsTxn workflowIds db := by
  have hrows : db'.statusRows = db.statusRows := congrArg Table.rows h
  have hforks : forksOf db' = forksOf db := by
    funext frontier
    simp only [forksOf, hrows]
  have hlevels (fuel : ℕ) : ForkWalk.levels db' fuel = ForkWalk.levels db fuel := by
    induction fuel with
    | zero => rfl
    | succ fuel ih =>
      funext walk
      simp only [ForkWalk.levels, ih, hforks]
  simp only [findForkDescendantsTxn, hlevels, hrows]

/-- With a key for every message, the message IDs of a batch are the same in every attempt. -/
theorem messageUuids_of_keys {prepared : List PreparedMessage} {sendToForks : Bool}
    (hkeys : ∀ m ∈ prepared, m.idempotencyKey.isSome) (h : db'.workflowStatus = db.workflowStatus)
    (now now' : ℤ) (uuids uuids' : ℕ → String) :
    (notificationRows now' uuids' sendToForks prepared db').map NotificationRow.messageUuid =
      (notificationRows now uuids sendToForks prepared db).map NotificationRow.messageUuid := by
  simp only [notificationRows, findForkDescendantsTxn_congr h]
  apply List.ext_getElem
  · simp only [List.length_map, List.length_mapIdx]
  · intro i hi hi'
    simp only [List.getElem_map, List.getElem_mapIdx]
    rw [List.length_map, List.length_mapIdx] at hi
    obtain ⟨m, hm, hpair⟩ := List.mem_flatMap.mp (List.getElem_mem hi)
    obtain ⟨dest, -, heq⟩ := List.mem_map.mp hpair
    rw [← heq]
    obtain ⟨key, hkey⟩ := Option.isSome_iff_exists.mp (hkeys m hm)
    simp only [notificationRow, hkey]

/-- A message without a key gets a generated ID. -/
theorem exists_generated {prepared : List PreparedMessage} {m : PreparedMessage}
    (hm : m ∈ prepared) (hkey : m.idempotencyKey = none) (now : ℤ) (uuids : ℕ → String)
    (sendToForks : Bool) (db : SystemDatabase) :
    ∃ row ∈ notificationRows now uuids sendToForks prepared db, ∃ i, row.messageUuid = uuids i := by
  simp only [notificationRows, List.mem_mapIdx]
  set forkDescendants := if sendToForks
    then findForkDescendantsTxn (prepared.map PreparedMessage.destinationId) db else []
  have hpair : (m, m.destinationId) ∈ prepared.flatMap fun m ↦
      (recipients sendToForks forkDescendants m.destinationId).map fun dest ↦ (m, dest) :=
    List.mem_flatMap.mpr ⟨m, hm, List.mem_map_of_mem List.mem_cons_self⟩
  obtain ⟨i, hi, heq⟩ := List.getElem_of_mem hpair
  refine ⟨_, ⟨i, hi, rfl⟩, i, ?_⟩
  rw [heq]
  simp only [notificationRow, hkey]

variable {V : Type} {serializers : Serializers V} {format : WorkflowSerializationFormat}

section Call

variable {call : SendBulkCall V} {executorId : Option String} {now startTime completedAt : ℤ}
  {uuids : ℕ → String} {prepared : List PreparedMessage}

theorem deliver_eq_ok (h : deliver call prepared now uuids db = .ok db') :
    insertNotifications (notificationRows now uuids call.sendToForks prepared db) db =
      some db' := by
  unfold deliver at h
  split at h
  · rename_i delivered hinsert
    cases h
    exact hinsert
  · cases h

/-- A batch that was sent has passed the duplicate check and was serialized. It was delivered outside
a workflow, or in a step whose checkpoint was found or is recorded with the delivery. -/
theorem sendBulkTxn_eq_ok
    (h : sendBulkTxn serializers executorId call now startTime completedAt uuids db = .ok db') :
    rejectDuplicateKeys call.messages = .ok () ∧
      ∃ prepared, call.messages.mapM (prepareMessage serializers call.serializationType) =
          .ok prepared ∧
        (call.workflowId = none ∧ deliver call prepared now uuids db = .ok db' ∨
          ∃ workflowId functionId, call.workflowId = some workflowId ∧
            call.functionId = some functionId ∧
            recordedStep
              ⟨executorId, workflowId, functionId, call.functionName, startTime, completedAt⟩
              (fun _ ↦ .ok ())
              (fun db ↦ do
                let db' ← deliver call prepared now uuids db
                pure ((), none, db'))
              db = .ok ((), db')) := by
  obtain ⟨⟨⟩, hreject, hrest⟩ := bind_eq_ok.mp h
  obtain ⟨prepared, hprepared, hrest⟩ := bind_eq_ok.mp hrest
  refine ⟨hreject, prepared, hprepared, ?_⟩
  cases hworkflow : call.workflowId with
  | none =>
    simp only [hworkflow] at hrest
    exact Or.inl ⟨rfl, hrest⟩
  | some workflowId =>
    simp only [hworkflow] at hrest
    cases hfunction : call.functionId with
    | none =>
      simp only [hfunction] at hrest
      cases hrest
    | some functionId =>
      simp only [hfunction] at hrest
      obtain ⟨⟨⟨⟩, recorded⟩, hstep, hpure⟩ := bind_eq_ok.mp hrest
      cases hpure
      exact Or.inr ⟨workflowId, functionId, rfl, rfl, hstep⟩

end Call

theorem idempotencyKey_prepareMessage {m : SendMessage V} {prepared : PreparedMessage}
    (h : prepareMessage serializers format m = .ok prepared) :
    prepared.idempotencyKey = m.idempotencyKey := by
  obtain ⟨⟨serval, serialization⟩, -, hpure⟩ := bind_eq_ok.mp h
  cases hpure
  rfl

/-- The prepared messages have the keys of the batch. -/
theorem idempotencyKeys_prepared {messages : List (SendMessage V)} {prepared : List PreparedMessage}
    (h : messages.mapM (prepareMessage serializers format) = .ok prepared) :
    prepared.map PreparedMessage.idempotencyKey = messages.map SendMessage.idempotencyKey := by
  have hall := forall₂_of_mapM h
  clear h
  induction hall with
  | nil => rfl
  | cons hfirst _ ih => rw [List.map_cons, List.map_cons, idempotencyKey_prepareMessage hfirst, ih]

theorem keys_prepared_iff {messages : List (SendMessage V)} {prepared : List PreparedMessage}
    (h : messages.mapM (prepareMessage serializers format) = .ok prepared) :
    (∀ m ∈ prepared, m.idempotencyKey.isSome) ↔ ∀ m ∈ messages, m.idempotencyKey.isSome := by
  calc
    (∀ m ∈ prepared, m.idempotencyKey.isSome) ↔
        ∀ key ∈ prepared.map PreparedMessage.idempotencyKey, key.isSome := by
      rw [List.forall_mem_map]
    _ ↔ ∀ key ∈ messages.map SendMessage.idempotencyKey, key.isSome := by
      rw [idempotencyKeys_prepared h]
    _ ↔ ∀ m ∈ messages, m.idempotencyKey.isSome := by
      rw [List.forall_mem_map]

end Delivery

end DBOSModel.SysDb

import DBOSModel.SysDb.Streams

/-!
# Readers of a stream

`read_stream` and `read_stream_async` of `dbos/_dbos.py` yield the values of a stream from an offset
on. A reader that finds no value looks at the status of the workflow, and waits while the workflow
is active. Once it has seen the workflow inactive it reads on to the first offset without a value,
since values may have been written between its last read and the look at the status.

The two functions take the same steps, each of which is one read of the database; any transactions
may come between two of them. What wakes a waiting reader (a notification or the polling interval)
makes no difference to what it yields, so a wait may end at any time. In a workflow the two looks at
the status are steps with checkpoints, so a replay may be given what another execution saw.

The `try` block holds the comparison of the value with the closed sentinel and the `yield` besides
the read. A `ValueError` of any of the three is taken for a missing value. The truth test of the
comparison raises one for a NumPy array of two or more elements and for a pandas object; a workflow
compares before it writes, so such a value comes from a step, which does not. A consumer may throw
one into a reader that is suspended at its `yield`.
-/

namespace DBOSModel.StreamReader

open Relational SysDb

/-! ## The reader -/

/-- Where a reader is in its loop. -/
inductive Phase where
  /-- About to read the value at the offset. -/
  | reading
  /-- At the `yield`. -/
  | suspended
  /-- Found no value, about to look whether the workflow exists (`retrieve_workflow`). -/
  | retrieving
  /-- About to read the status (`get_status`). -/
  | gettingStatus
  /-- In `event.wait`, or polling the event. -/
  | waiting
  /-- Stopped at the closed sentinel. -/
  | closed
  /-- Stopped at the end of the final read. -/
  | drained
  | raised (error : DBOSError)
  /-- Ended at the `yield` by what the consumer threw, such as the `GeneratorExit` of `close`. -/
  | abandoned
deriving DecidableEq

/-- The local variables of a reader, with the values it has yielded. -/
structure Reader (V : Type) where
  offset : ℤ
  finalRead : Bool := false
  yielded : List V := []
  phase : Phase := .reading

namespace Reader

variable {V : Type}

/-- The `except` clause. -/
def afterError (error : DBOSError) (reader : Reader V) : Reader V :=
  match error with
  | .valueError _ =>
    if reader.finalRead then { reader with phase := .drained }
    else { reader with phase := .retrieving }
  | error => { reader with phase := .raised error }

/-- The reader after `sys_db.read_stream` and the comparison of the value with the sentinel. -/
def afterRead (result : Except DBOSError (V × Bool)) (reader : Reader V) : Reader V :=
  match result with
  | .ok (_, true) => { reader with phase := .closed }
  | .ok (value, false) =>
    { reader with yielded := reader.yielded ++ [value], phase := .suspended }
  | .error error => reader.afterError error

/-- The reader after its `yield`: the consumer asks for the next value or throws. -/
def afterYield (thrown : Option DBOSError) (reader : Reader V) : Reader V :=
  match thrown with
  | none => { reader with offset := reader.offset + 1, phase := .reading }
  | some (.valueError message) => reader.afterError (.valueError message)
  | some _ => { reader with phase := .abandoned }

/-- The first offset whose value has not been yielded. -/
def next (reader : Reader V) : ℤ :=
  match reader.phase with
  | .suspended => reader.offset + 1
  | .abandoned => reader.offset + 1
  | _ => reader.offset

/-- The reader after one of the two looks at the status row; the first only asks if there is one. -/
def afterLook (workflowId : String) (found : Option WorkflowStatusRow) (reader : Reader V) :
    Reader V :=
  match found with
  | none => { reader with phase := .raised (.nonExistentWorkflow "target" workflowId) }
  | some row =>
    if reader.phase = .retrieving then { reader with phase := .gettingStatus }
    else if row.status.isActive then { reader with phase := .waiting }
    else { reader with finalRead := true, phase := .reading }

/-- The clause ends a reader or lets it look at the status. -/
theorem afterError_cases (error : DBOSError) (reader : Reader V) :
    (∃ message, error = .valueError message ∧ reader.finalRead = true ∧
      reader.afterError error = { reader with phase := .drained }) ∨
    (∃ message, error = .valueError message ∧ reader.finalRead = false ∧
      reader.afterError error = { reader with phase := .retrieving }) ∨
    (∀ message, error ≠ .valueError message) ∧
      reader.afterError error = { reader with phase := .raised error } := by
  by_cases hvalue : ∃ message, error = .valueError message
  · obtain ⟨message, rfl⟩ := hvalue
    cases hfinal : reader.finalRead with
    | true => exact Or.inl ⟨message, rfl, rfl, by rw [afterError, hfinal, if_pos rfl]⟩
    | false =>
      refine Or.inr (Or.inl ⟨message, rfl, rfl, ?_⟩)
      rw [afterError, hfinal, if_neg Bool.false_ne_true]
  · push Not at hvalue
    refine Or.inr (Or.inr ⟨hvalue, ?_⟩)
    cases error <;> first | rfl | exact absurd rfl (hvalue _)

theorem next_of_reading {reader : Reader V} (h : reader.phase = .reading) :
    reader.next = reader.offset := by
  rw [next, h]

/-- The consumer goes on, or ends the reader, after the value that was yielded. -/
theorem afterYield_next {reader : Reader V} {thrown : Option DBOSError}
    (hphase : reader.phase = .suspended) (hthrown : ∀ message, thrown ≠ some (.valueError message)) :
    (reader.afterYield thrown).next = reader.next ∧
      (reader.afterYield thrown).yielded = reader.yielded ∧
        (reader.afterYield thrown).phase ≠ .closed := by
  have hnext : reader.next = reader.offset + 1 := by rw [next, hphase]
  rw [hnext]
  unfold afterYield
  split
  · exact ⟨rfl, rfl, nofun⟩
  · rename_i message
    exact absurd rfl (hthrown message)
  · exact ⟨rfl, rfl, nofun⟩

/-- A look at the status leaves the reader where it is. -/
theorem afterLook_next (workflowId : String) (found : Option WorkflowStatusRow) (reader : Reader V)
    (hphase : reader.phase = .retrieving ∨ reader.phase = .gettingStatus) :
    (reader.afterLook workflowId found).next = reader.next ∧
      (reader.afterLook workflowId found).yielded = reader.yielded ∧
        (reader.afterLook workflowId found).phase ≠ .closed := by
  have hnext : reader.next = reader.offset := by
    rcases hphase with hphase | hphase <;> rw [next, hphase]
  rw [hnext]
  unfold afterLook
  repeat' split
  all_goals exact ⟨rfl, rfl, nofun⟩

/-- What a consumer does ends a reader only as abandoned. -/
theorem afterYield_end {thrown : Option DBOSError} (reader : Reader V)
    (hthrown : ∀ message, thrown ≠ some (.valueError message)) :
    (reader.afterYield thrown).finalRead = reader.finalRead ∧
      (reader.afterYield thrown).phase ≠ .drained ∧
        ∀ error, (reader.afterYield thrown).phase ≠ .raised error := by
  unfold afterYield
  split
  · exact ⟨rfl, nofun, nofun⟩
  · rename_i message
    exact absurd rfl (hthrown message)
  · exact ⟨rfl, nofun, nofun⟩

end Reader

/-! ## Runs -/

/-- A reader beside the database. -/
structure ReadState (V : Type) where
  db : SystemDatabase
  reader : Reader V

/-- A step of the reader or of its consumer, or a transaction of anyone. -/
inductive ReadAction (V : Type) where
  | transaction (action : DataAction V)
  /-- The `try` block up to the `yield`. -/
  | read
  /-- The consumer goes on, or throws into the reader. -/
  | resume (thrown : Option DBOSError)
  | look
  /-- A look at the status whose outcome another execution of the reading workflow recorded. -/
  | replayLook (found : Option WorkflowStatusRow)
  | wake

section System

variable {V : Type} (serializers : Serializers V) (comparison : V → Except DBOSError Bool)
  (workflowId key : String)

/-- The value equals the closed sentinel. -/
def isClosed (value : V) : Bool := (comparison value).toOption == some true

/-- The `try` block up to the `yield`: the value, and whether it is the closed sentinel. -/
def readValue (offset : ℤ) (db : SystemDatabase) : Except DBOSError (V × Bool) :=
  match readStream serializers workflowId key offset db with
  | .error error => .error error
  | .ok value => (comparison value).map fun closed ↦ (value, closed)

/-- A reader of one stream, interleaved with all transactions on the data of workflows. -/
def readSystem : System (ReadState V) (ReadAction V) where
  step s
    | .transaction action =>
      ((dataSystem serializers (isClosed comparison)).step s.db action).map fun db ↦
        { s with db := db }
    | .read =>
      if s.reader.phase = .reading then
        some { s with
          reader := s.reader.afterRead
            (readValue serializers comparison workflowId key s.reader.offset s.db) }
      else none
    | .resume thrown =>
      if s.reader.phase = .suspended then some { s with reader := s.reader.afterYield thrown }
      else none
    | .look =>
      if s.reader.phase = .retrieving ∨ s.reader.phase = .gettingStatus then
        some { s with
          reader := s.reader.afterLook workflowId (s.db.workflowStatus.lookup workflowId) }
      else none
    | .replayLook found =>
      if s.reader.phase = .retrieving ∨ s.reader.phase = .gettingStatus then
        some { s with reader := s.reader.afterLook workflowId found }
      else none
    | .wake =>
      if s.reader.phase = .waiting then some { s with reader := { s.reader with phase := .reading } }
      else none

/-- A reader that starts at an offset. -/
def start (offset : ℕ) (db : SystemDatabase) : ReadState V where
  db := db
  reader := { offset := offset }

/-- What the readers of a stream rely on, at one step: its offsets are contiguous, its values can
be deserialized without a `ValueError`, and its workflow is not deleted. -/
structure Reliable (s : ReadState V) (action : ReadAction V) : Prop where
  contiguous : ∃ n : ℕ, ∀ offset, HasOffset s.db workflowId key offset ↔ 0 ≤ offset ∧ offset < n
  readable : ∀ row ∈ s.db.streams.rows, row.workflowUuid = workflowId → row.key = key →
    ∀ message, serializers.deserializeValue (some row.value) row.serialization ≠
      .error (.valueError message)
  kept : ∀ s', (readSystem serializers comparison workflowId key).step s action = some s' →
    s.db.hasWorkflow workflowId = true → s'.db.hasWorkflow workflowId = true

/-- In one step, no `ValueError` is taken for a missing value: the comparison raises none for the
value at the offset, and the consumer throws none. -/
structure MistakesNone (s : ReadState V) (action : ReadAction V) : Prop where
  compared : action = .read → ∀ value,
    readStream serializers workflowId key s.reader.offset s.db = .ok value →
      ∀ message, comparison value ≠ .error (.valueError message)
  resumed : ∀ message, action ≠ .resume (some (.valueError message))

/-- After the first actions `seen` of a run, the workflow is inactive. -/
def InactiveAfter (s₀ : ReadState V) (seen : List (ReadAction V)) : Prop :=
  ∃ s₁, (readSystem serializers comparison workflowId key).run s₀ seen = some s₁ ∧
    ∃ row ∈ s₁.db.statusRows, row.workflowUuid = workflowId ∧ row.status.isActive = false

/-- The workflow is inactive after the first actions `seen` of a run, or the last of them replays a
look of another execution that saw it inactive. -/
def SeenInactive (s₀ : ReadState V) (seen : List (ReadAction V)) : Prop :=
  InactiveAfter serializers comparison workflowId key s₀ seen ∨
    ∃ earlier row, seen = earlier ++ [.replayLook (some row)] ∧ row.status.isActive = false

/-- Every value from offset `k` on that was stored at some time in the first actions `seen` of a run
has an offset below the bound. -/
def BelowUpTo (s₀ : ReadState V) (k : ℕ) (seen : List (ReadAction V)) (bound : ℤ) : Prop :=
  ∀ earlier rest s₁, seen = earlier ++ rest →
    (readSystem serializers comparison workflowId key).run s₀ earlier = some s₁ →
      ∀ offset : ℤ, k ≤ offset → HasOffset s₁.db workflowId key offset → offset < bound

/-- What a run from `start k db₀` owes to the consumer: the stored values from `k` on in order, and
no end but at the closed sentinel or past everything that was stored when the workflow was seen
inactive. A reader raises only if the workflow does not exist or what it reads raises. -/
structure Complete (k : ℕ) (db₀ : SystemDatabase) (actions : List (ReadAction V))
    (s : ReadState V) : Prop where
  yielded : ∀ (i : ℕ) value, s.reader.yielded[i]? = some value →
    readStream serializers workflowId key (k + i) s.db = .ok value ∧ comparison value = .ok false
  closed : s.reader.phase = .closed → ∃ value,
    readStream serializers workflowId key (k + s.reader.yielded.length) s.db = .ok value ∧
      comparison value = .ok true
  drained : s.reader.phase = .drained → ∃ seen later, actions = seen ++ later ∧
    SeenInactive serializers comparison workflowId key (start k db₀) seen ∧
      BelowUpTo serializers comparison workflowId key (start k db₀) k seen
        (k + s.reader.yielded.length)
  raised : ∀ error, s.reader.phase = .raised error →
    db₀.hasWorkflow workflowId = false ∨ .replayLook none ∈ actions ∨
      readValue serializers comparison workflowId key (k + s.reader.yielded.length) s.db =
        .error error

end System

/-! ## What a step keeps -/

section Kept

variable {V : Type} {serializers : Serializers V} {comparison : V → Except DBOSError Bool}
  {workflowId key : String} {db db' : SystemDatabase} {s s' : ReadState V} {action : ReadAction V}

/-- A transaction that does not delete the workflow keeps its stream values. -/
theorem mem_streams_of_transaction {transaction : DataAction V} (hintegral : Integral db)
    (hstep : (dataSystem serializers (isClosed comparison)).step db transaction = some db')
    (hkept : db.hasWorkflow workflowId = true → db'.hasWorkflow workflowId = true) {row : StreamRow}
    (hrow : row ∈ db.streams.rows) (howner : row.workflowUuid = workflowId) :
    row ∈ db'.streams.rows := by
  have hworkflow : db.hasWorkflow row.workflowUuid = true := (hintegral.streams row hrow).1
  cases dataEffect_of_step hstep with
  | quiet hquiet =>
    rw [hquiet.streams]
    exact hrow
  | event write serval serialization haction hid hexists hquiet =>
    rw [hquiet.streams]
    exact hrow
  | stream write value serialization middle hid hexists happend hquiet =>
    rw [hquiet.streams, mem_streams_appendStream happend]
    exact Or.inl hrow
  | fork call now haction hfresh hforked =>
    refine ((leavesOthers hforked).streams row ?_).mpr hrow
    intro hfork
    obtain ⟨entry, hentry, hid⟩ := List.mem_map.mp hfork
    have hnew := hfresh.fresh entry hentry
    rw [hid, hworkflow] at hnew
    cases hnew
  | delete p hdelete =>
    rw [hdelete] at hkept ⊢
    rw [← howner] at hkept
    exact (mem_cascade fun row hrow ↦ (hintegral.streams row hrow).1).mpr ⟨hrow, hkept hworkflow⟩

/-- What a step can do. -/
inductive ReadEffect (serializers : Serializers V) (comparison : V → Except DBOSError Bool)
    (workflowId key : String) (s s' : ReadState V) : ReadAction V → Prop
  | transaction (transaction : DataAction V)
      (hstep : (dataSystem serializers (isClosed comparison)).step s.db transaction = some s'.db)
      (hreader : s'.reader = s.reader) :
      ReadEffect serializers comparison workflowId key s s' (.transaction transaction)
  | read (hphase : s.reader.phase = .reading) (hdb : s'.db = s.db)
      (hreader : s'.reader = s.reader.afterRead
        (readValue serializers comparison workflowId key s.reader.offset s.db)) :
      ReadEffect serializers comparison workflowId key s s' .read
  | resume (thrown : Option DBOSError) (hphase : s.reader.phase = .suspended) (hdb : s'.db = s.db)
      (hreader : s'.reader = s.reader.afterYield thrown) :
      ReadEffect serializers comparison workflowId key s s' (.resume thrown)
  | look (found : Option WorkflowStatusRow) (action : ReadAction V)
      (hfound : action = .look ∧ found = s.db.workflowStatus.lookup workflowId ∨
        action = .replayLook found)
      (hphase : s.reader.phase = .retrieving ∨ s.reader.phase = .gettingStatus)
      (hdb : s'.db = s.db) (hreader : s'.reader = s.reader.afterLook workflowId found) :
      ReadEffect serializers comparison workflowId key s s' action
  | wake (hphase : s.reader.phase = .waiting) (hdb : s'.db = s.db)
      (hreader : s'.reader = { s.reader with phase := .reading }) :
      ReadEffect serializers comparison workflowId key s s' .wake

theorem readEffect_of_step
    (h : (readSystem serializers comparison workflowId key).step s action = some s') :
    ReadEffect serializers comparison workflowId key s s' action := by
  cases action with
  | transaction transaction =>
    obtain ⟨db, hdb, rfl⟩ := Option.map_eq_some_iff.mp h
    exact .transaction transaction hdb rfl
  | read =>
    obtain ⟨hphase, heq⟩ := Option.ite_none_right_eq_some.mp h
    cases heq
    exact .read hphase rfl rfl
  | resume thrown =>
    obtain ⟨hphase, heq⟩ := Option.ite_none_right_eq_some.mp h
    cases heq
    exact .resume thrown hphase rfl rfl
  | look =>
    obtain ⟨hphase, heq⟩ := Option.ite_none_right_eq_some.mp h
    cases heq
    exact .look _ .look (Or.inl ⟨rfl, rfl⟩) hphase rfl rfl
  | replayLook found =>
    obtain ⟨hphase, heq⟩ := Option.ite_none_right_eq_some.mp h
    cases heq
    exact .look found _ (Or.inr rfl) hphase rfl rfl
  | wake =>
    obtain ⟨hphase, heq⟩ := Option.ite_none_right_eq_some.mp h
    cases heq
    exact .wake hphase rfl rfl

/-- A step of the reader leaves the database alone. -/
theorem ReadEffect.db_cases (h : ReadEffect serializers comparison workflowId key s s' action) :
    (∃ transaction, action = .transaction transaction ∧
      (dataSystem serializers (isClosed comparison)).step s.db transaction = some s'.db ∧
        s'.reader = s.reader) ∨ s'.db = s.db := by
  cases h with
  | transaction transaction hstep hreader => exact Or.inl ⟨transaction, rfl, hstep, hreader⟩
  | read hphase hdb hreader => exact Or.inr hdb
  | resume thrown hphase hdb hreader => exact Or.inr hdb
  | look found action hfound hphase hdb hreader => exact Or.inr hdb
  | wake hphase hdb hreader => exact Or.inr hdb

/-- The rows of the stream that are stored stay stored. -/
structure Keeps (workflowId : String) (db db' : SystemDatabase) : Prop where
  workflow : db.hasWorkflow workflowId = true → db'.hasWorkflow workflowId = true
  streams : ∀ row ∈ db.streams.rows, row.workflowUuid = workflowId → row ∈ db'.streams.rows

theorem Keeps.refl (db : SystemDatabase) : Keeps workflowId db db := ⟨fun h ↦ h, fun _ h _ ↦ h⟩

theorem Keeps.trans {db'' : SystemDatabase} (first : Keeps workflowId db db')
    (second : Keeps workflowId db' db'') : Keeps workflowId db db'' :=
  ⟨fun h ↦ second.workflow (first.workflow h),
    fun row hrow howner ↦ second.streams row (first.streams row hrow howner) howner⟩

theorem keeps_step (hintegral : Integral s.db)
    (hreliable : Reliable serializers comparison workflowId key s action)
    (hstep : (readSystem serializers comparison workflowId key).step s action = some s') :
    Integral s'.db ∧ Keeps workflowId s.db s'.db := by
  rcases (readEffect_of_step hstep).db_cases with ⟨transaction, -, htransaction, -⟩ | hdb
  · refine ⟨integral_step hintegral htransaction, hreliable.kept s' hstep, ?_⟩
    intro row hrow howner
    exact mem_streams_of_transaction hintegral htransaction (hreliable.kept s' hstep) hrow howner
  · rw [hdb]
    exact ⟨hintegral, Keeps.refl s.db⟩

/-- What is stored at some point of a run stays stored to its end. -/
theorem keeps_run {actions : List (ReadAction V)} (hintegral : Integral s.db)
    (hreliable : (readSystem serializers comparison workflowId key).Along
      (Reliable serializers comparison workflowId key) s actions)
    (hrun : (readSystem serializers comparison workflowId key).run s actions = some s') :
    Integral s'.db ∧ Keeps workflowId s.db s'.db := by
  refine System.run_invariant _ (I := fun t ↦ Integral t.db ∧ Keeps workflowId s.db t.db) ?_
    ⟨hintegral, Keeps.refl s.db⟩ hreliable hrun
  intro t action t' ht hG hstep
  have hnext := keeps_step ht.1 hG hstep
  exact ⟨hnext.1, ht.2.trans hnext.2⟩

/-! ## Reads -/

theorem hasOffset_of_keeps (hkeeps : Keeps workflowId db db') {offset : ℤ}
    (h : HasOffset db workflowId key offset) : HasOffset db' workflowId key offset := by
  obtain ⟨row, hrow, howner, hkey, hoffset⟩ := h
  exact ⟨row, hkeeps.streams row hrow howner, howner, hkey, hoffset⟩

/-- A stored value is read by deserializing it. -/
theorem readStream_of_mem {row : StreamRow} (hrow : row ∈ db.streams.rows) :
    readStream serializers row.workflowUuid row.key row.offset db =
      serializers.deserializeValue (some row.value) row.serialization := by
  have hlookup : db.streams.lookup (row.workflowUuid, row.key, row.offset) = some row :=
    db.streams.lookup_key_of_mem hrow
  rw [readStream, hlookup]

/-- A stored value reads the same for ever. -/
theorem readStream_of_keeps (hkeeps : Keeps workflowId db db') {offset : ℤ}
    (h : HasOffset db workflowId key offset) :
    readStream serializers workflowId key offset db' =
      readStream serializers workflowId key offset db := by
  obtain ⟨row, hrow, rfl, rfl, rfl⟩ := h
  rw [readStream_of_mem hrow, readStream_of_mem (hkeeps.streams row hrow rfl)]

/-- Then the `try` block does the same for ever. -/
theorem readValue_of_keeps (hkeeps : Keeps workflowId db db') {offset : ℤ}
    (h : HasOffset db workflowId key offset) :
    readValue serializers comparison workflowId key offset db' =
      readValue serializers comparison workflowId key offset db := by
  rw [readValue, readValue, readStream_of_keeps hkeeps h]

theorem readValue_eq_ok {offset : ℤ} {value : V} {closed : Bool}
    (h : readValue serializers comparison workflowId key offset db = .ok (value, closed)) :
    readStream serializers workflowId key offset db = .ok value ∧ comparison value = .ok closed := by
  unfold readValue at h
  split at h
  · cases h
  · rename_i stored hread
    cases hcompare : comparison stored with
    | error error =>
      rw [hcompare] at h
      cases h
    | ok outcome =>
      rw [hcompare] at h
      cases h
      exact ⟨hread, hcompare⟩

/-- What the block raises comes from the read or from the comparison. -/
theorem readValue_eq_error {offset : ℤ} {error : DBOSError}
    (h : readValue serializers comparison workflowId key offset db = .error error) :
    readStream serializers workflowId key offset db = .error error ∨
      ∃ value, readStream serializers workflowId key offset db = .ok value ∧
        comparison value = .error error := by
  unfold readValue at h
  split at h
  · rename_i raised hread
    cases h
    exact Or.inl hread
  · rename_i stored hread
    cases hcompare : comparison stored with
    | error raised =>
      rw [hcompare] at h
      cases h
      exact Or.inr ⟨stored, hread, hcompare⟩
    | ok outcome =>
      rw [hcompare] at h
      cases h

/-- A reader takes a `ValueError` for a missing value. That is what it means if the stored values are
read without one. -/
theorem not_hasOffset_of_valueError {offset : ℤ} {message : String}
    (hreadable : ∀ row ∈ db.streams.rows, row.workflowUuid = workflowId → row.key = key →
      ∀ message, serializers.deserializeValue (some row.value) row.serialization ≠
        .error (.valueError message))
    (hcompared : ∀ value, readStream serializers workflowId key offset db = .ok value →
      ∀ message, comparison value ≠ .error (.valueError message))
    (h : readValue serializers comparison workflowId key offset db = .error (.valueError message)) :
    ¬HasOffset db workflowId key offset := by
  rintro ⟨row, hrow, rfl, rfl, rfl⟩
  rcases readValue_eq_error h with hread | ⟨value, hread, hcompare⟩
  · rw [readStream_of_mem hrow] at hread
    exact hreadable row hrow rfl rfl message hread
  · exact hcompared value hread message hcompare

variable (serializers comparison) in
/-- Any other outcome comes from a stored value. -/
theorem hasOffset_of_readValue {offset : ℤ}
    (h : ∀ message, readValue serializers comparison workflowId key offset db ≠
      .error (.valueError message)) : HasOffset db workflowId key offset := by
  by_contra hmissing
  have hread := readStream_eq_error serializers hmissing
  exact h _ (by rw [readValue, hread])

/-- What has been yielded, and why a reader has ended. -/
structure ReaderInvariant (serializers : Serializers V) (comparison : V → Except DBOSError Bool)
    (workflowId key : String) (k : ℕ) (db₀ : SystemDatabase) (s : ReadState V) : Prop where
  integral : Integral s.db
  keeps : Keeps workflowId db₀ s.db
  next : s.reader.next = k + s.reader.yielded.length
  yielded : ∀ (i : ℕ) value, s.reader.yielded[i]? = some value →
    HasOffset s.db workflowId key (k + i) ∧
      readValue serializers comparison workflowId key (k + i) s.db = .ok (value, false)
  closed : s.reader.phase = .closed → HasOffset s.db workflowId key s.reader.next ∧
    ∃ value, readValue serializers comparison workflowId key s.reader.next s.db = .ok (value, true)

variable {k : ℕ} {db₀ : SystemDatabase}

/-- Other transactions do not change what the reader relies on. -/
theorem ReaderInvariant.of_keeps (h : ReaderInvariant serializers comparison workflowId key k db₀ s)
    (hintegral : Integral s'.db) (hkeeps : Keeps workflowId s.db s'.db)
    (hreader : s'.reader = s.reader) :
    ReaderInvariant serializers comparison workflowId key k db₀ s' := by
  constructor
  · exact hintegral
  · exact h.keeps.trans hkeeps
  · rw [hreader]
    exact h.next
  · intro i value hvalue
    rw [hreader] at hvalue
    obtain ⟨hoffset, hread⟩ := h.yielded i value hvalue
    refine ⟨hasOffset_of_keeps hkeeps hoffset, ?_⟩
    rw [readValue_of_keeps hkeeps hoffset]
    exact hread
  · intro hphase
    rw [hreader] at hphase ⊢
    obtain ⟨hoffset, hread⟩ := h.closed hphase
    refine ⟨hasOffset_of_keeps hkeeps hoffset, ?_⟩
    rw [readValue_of_keeps hkeeps hoffset]
    exact hread

/-- The status rows of a workflow that was there at the start. -/
theorem ReaderInvariant.lookup (h : ReaderInvariant serializers comparison workflowId key k db₀ s)
    (hmissing : s.db.workflowStatus.lookup workflowId = none) :
    db₀.hasWorkflow workflowId = false := by
  rw [← Bool.not_eq_true]
  intro hworkflow
  have hfound := h.keeps.workflow hworkflow
  rw [SystemDatabase.hasWorkflow, hmissing] at hfound
  cases hfound

/-- A reader that stays at its value, and does not close. -/
theorem ReaderInvariant.of_phase (h : ReaderInvariant serializers comparison workflowId key k db₀ s)
    (hdb : s'.db = s.db) (hnext : s'.reader.next = s.reader.next)
    (hyielded : s'.reader.yielded = s.reader.yielded) (hclosed : s'.reader.phase ≠ .closed) :
    ReaderInvariant serializers comparison workflowId key k db₀ s' := by
  constructor
  · exact hdb ▸ h.integral
  · exact hdb ▸ h.keeps
  · rw [hnext, hyielded]
    exact h.next
  · rw [hdb, hyielded]
    exact h.yielded
  · exact fun hphase ↦ absurd hphase hclosed

/-- One read of the stream. -/
theorem readerInvariant_read (h : ReaderInvariant serializers comparison workflowId key k db₀ s)
    (hdb : s'.db = s.db) (hphase : s.reader.phase = .reading)
    (hreader : s'.reader = s.reader.afterRead
      (readValue serializers comparison workflowId key s.reader.offset s.db)) :
    ReaderInvariant serializers comparison workflowId key k db₀ s' := by
  have hnext : s.reader.next = s.reader.offset := Reader.next_of_reading hphase
  cases hread : readValue serializers comparison workflowId key s.reader.offset s.db with
  | ok result =>
    obtain ⟨value, closed⟩ := result
    have hstored : HasOffset s.db workflowId key s.reader.offset := by
      apply hasOffset_of_readValue serializers comparison
      intro message herror
      rw [hread] at herror
      cases herror
    rw [hread] at hreader
    cases closed with
    | true =>
      constructor
      · exact hdb ▸ h.integral
      · exact hdb ▸ h.keeps
      · have hlength := h.next
        rw [hnext] at hlength
        rw [hreader]
        exact hlength
      · rw [hdb, hreader]
        exact h.yielded
      · intro _
        rw [hdb, hreader]
        exact ⟨hstored, value, hread⟩
    | false =>
      constructor
      · exact hdb ▸ h.integral
      · exact hdb ▸ h.keeps
      · have hlength := h.next
        rw [hreader]
        simp only [Reader.afterRead, Reader.next, List.length_append, List.length_singleton]
        push_cast
        omega
      · intro i other hother
        rw [hdb]
        rw [hreader, Reader.afterRead, List.getElem?_append] at hother
        split at hother
        · exact h.yielded i other hother
        · rename_i hlast
          obtain ⟨hi, rfl⟩ : i = s.reader.yielded.length ∧ other = value := by
            rw [List.getElem?_singleton, Option.ite_none_right_eq_some] at hother
            obtain ⟨hzero, heq⟩ := hother
            cases heq
            exact ⟨by omega, rfl⟩
          rw [hi, ← h.next, hnext]
          exact ⟨hstored, hread⟩
      · rw [hreader, Reader.afterRead]
        exact nofun
  | error error =>
    rw [hread, Reader.afterRead] at hreader
    rcases s.reader.afterError_cases error with
      ⟨message, -, -, hafter⟩ | ⟨message, -, -, hafter⟩ | ⟨-, hafter⟩
    all_goals
      rw [hafter] at hreader
      apply h.of_phase hdb <;> rw [hreader]
      · exact hnext.symm
      · exact nofun

/-- One step of the reader or its consumer, or a transaction of anyone. -/
theorem readerInvariant_step (h : ReaderInvariant serializers comparison workflowId key k db₀ s)
    (hreliable : Reliable serializers comparison workflowId key s action)
    (hmistakes : MistakesNone serializers comparison workflowId key s action)
    (hstep : (readSystem serializers comparison workflowId key).step s action = some s') :
    ReaderInvariant serializers comparison workflowId key k db₀ s' := by
  obtain ⟨hintegral, hkeeps⟩ := keeps_step h.integral hreliable hstep
  cases readEffect_of_step hstep with
  | transaction transaction htransaction hreader => exact h.of_keeps hintegral hkeeps hreader
  | read hphase hdb hreader => exact readerInvariant_read h hdb hphase hreader
  | resume thrown hphase hdb hreader =>
    obtain ⟨hnext, hyielded, hclosed⟩ := Reader.afterYield_next hphase (fun message heq ↦
      hmistakes.resumed message (congrArg ReadAction.resume heq))
    exact h.of_phase hdb (hreader ▸ hnext) (hreader ▸ hyielded) (hreader ▸ hclosed)
  | look found action hfound hphase hdb hreader =>
    obtain ⟨hnext, hyielded, hclosed⟩ := s.reader.afterLook_next workflowId found hphase
    exact h.of_phase hdb (hreader ▸ hnext) (hreader ▸ hyielded) (hreader ▸ hclosed)
  | wake hphase hdb hreader =>
    apply h.of_phase hdb <;> rw [hreader]
    · rw [Reader.next, Reader.next, hphase]
    · exact nofun

/-! ## The end of a reader -/

/-- The invariant with the run so far: a reader on its final read has seen the workflow inactive, and
one that has drained the stream has passed all that was stored until then. -/
structure ReaderHistory (serializers : Serializers V) (comparison : V → Except DBOSError Bool)
    (workflowId key : String) (k : ℕ) (db₀ : SystemDatabase) (past : List (ReadAction V))
    (s : ReadState V) : Prop where
  invariant : ReaderInvariant serializers comparison workflowId key k db₀ s
  final : s.reader.finalRead = true → ∃ seen later, past = seen ++ later ∧
    SeenInactive serializers comparison workflowId key (start k db₀) seen
  drained : s.reader.phase = .drained → ∃ seen later, past = seen ++ later ∧
    SeenInactive serializers comparison workflowId key (start k db₀) seen ∧
      BelowUpTo serializers comparison workflowId key (start k db₀) k seen s.reader.next
  raised : ∀ error, s.reader.phase = .raised error →
    db₀.hasWorkflow workflowId = false ∨ .replayLook none ∈ past ∨
      HasOffset s.db workflowId key s.reader.next ∧
        readValue serializers comparison workflowId key s.reader.next s.db = .error error

/-- A final read that finds nothing is past everything stored so far. -/
theorem belowUpTo_of_missing {seen later : List (ReadAction V)} (hintegral : Integral db₀)
    (hreliable : (readSystem serializers comparison workflowId key).Along
      (Reliable serializers comparison workflowId key) (start k db₀) (seen ++ later))
    (hrun : (readSystem serializers comparison workflowId key).run (start k db₀) (seen ++ later) =
      some s)
    (hcontiguous : ∃ n : ℕ, ∀ offset, HasOffset s.db workflowId key offset ↔ 0 ≤ offset ∧ offset < n)
    {bound : ℤ} (hbound : 0 ≤ bound) (hmissing : ¬HasOffset s.db workflowId key bound) :
    BelowUpTo serializers comparison workflowId key (start k db₀) k seen bound := by
  rintro earlier rest s₁ rfl hearlier offset - hstored
  rw [List.append_assoc, System.run_append, hearlier] at hrun
  rw [List.append_assoc, System.along_append] at hreliable
  have hfirst := keeps_run hintegral hreliable.1 hearlier
  have hsecond := keeps_run hfirst.1 (hreliable.2 s₁ hearlier) hrun
  obtain ⟨n, hn⟩ := hcontiguous
  have hlt := (hn offset).mp (hasOffset_of_keeps hsecond.2 hstored)
  have hnot := (hn bound).not.mp hmissing
  omega

/-- A step that is no read and no inactive look keeps what is known of the end of a reader. -/
theorem ReaderHistory.of_same {past : List (ReadAction V)}
    (h : ReaderHistory serializers comparison workflowId key k db₀ past s)
    (hinvariant : ReaderInvariant serializers comparison workflowId key k db₀ s')
    (hkeeps : Keeps workflowId s.db s'.db) (hfinal : s'.reader.finalRead = s.reader.finalRead)
    (hdrained : s'.reader.phase = .drained → s'.reader = s.reader)
    (hraised : ∀ error, s'.reader.phase = .raised error → s'.reader = s.reader ∨
      db₀.hasWorkflow workflowId = false ∨ .replayLook none ∈ past ++ [action]) :
    ReaderHistory serializers comparison workflowId key k db₀ (past ++ [action]) s' := by
  refine ⟨hinvariant, ?_, ?_, ?_⟩
  · intro hfinal'
    obtain ⟨seen, later, rfl, hseen⟩ := h.final (hfinal ▸ hfinal')
    exact ⟨seen, later ++ [action], List.append_assoc .., hseen⟩
  · intro hphase
    have hreader := hdrained hphase
    rw [hreader] at hphase ⊢
    obtain ⟨seen, later, rfl, hseen⟩ := h.drained hphase
    exact ⟨seen, later ++ [action], List.append_assoc .., hseen⟩
  · intro error hphase
    rcases hraised error hphase with hreader | hmissing | hreplayed
    · rw [hreader] at hphase ⊢
      rcases h.raised error hphase with hmissing | hreplayed | ⟨hstored, hread⟩
      · exact Or.inl hmissing
      · exact Or.inr (Or.inl (List.mem_append_left _ hreplayed))
      · refine Or.inr (Or.inr ⟨hasOffset_of_keeps hkeeps hstored, ?_⟩)
        rw [readValue_of_keeps hkeeps hstored]
        exact hread
    · exact Or.inl hmissing
    · exact Or.inr (Or.inl hreplayed)

/-- One read of the stream; a final read that finds nothing drains it. -/
theorem readerHistory_read (hintegral : Integral db₀) {past : List (ReadAction V)}
    (hpast : (readSystem serializers comparison workflowId key).Along
      (Reliable serializers comparison workflowId key) (start k db₀) past)
    (hrun : (readSystem serializers comparison workflowId key).run (start k db₀) past = some s)
    (h : ReaderHistory serializers comparison workflowId key k db₀ past s)
    (hreliable : Reliable serializers comparison workflowId key s .read)
    (hmistakes : MistakesNone serializers comparison workflowId key s .read)
    (hphase : s.reader.phase = .reading) (hdb : s'.db = s.db)
    (hreader : s'.reader = s.reader.afterRead
      (readValue serializers comparison workflowId key s.reader.offset s.db))
    (hinvariant : ReaderInvariant serializers comparison workflowId key k db₀ s') :
    ReaderHistory serializers comparison workflowId key k db₀ (past ++ [.read]) s' := by
  have hkeeps : Keeps workflowId s.db s'.db := by
    rw [hdb]
    exact Keeps.refl s.db
  have hnext : s.reader.next = s.reader.offset := Reader.next_of_reading hphase
  cases hread : readValue serializers comparison workflowId key s.reader.offset s.db with
  | ok result =>
    obtain ⟨value, closed⟩ := result
    rw [hread] at hreader
    cases closed with
    | true => exact h.of_same hinvariant hkeeps (hreader ▸ rfl) (hreader ▸ nofun) (hreader ▸ nofun)
    | false => exact h.of_same hinvariant hkeeps (hreader ▸ rfl) (hreader ▸ nofun) (hreader ▸ nofun)
  | error error =>
    rw [hread, Reader.afterRead] at hreader
    rcases s.reader.afterError_cases error with
      ⟨message, rfl, hfinal, hafter⟩ | ⟨message, -, -, hafter⟩ | ⟨hvalue, hafter⟩
    · rw [hafter] at hreader
      obtain ⟨seen, later, rfl, hseen⟩ := h.final hfinal
      have hbelow : BelowUpTo serializers comparison workflowId key (start k db₀) k seen
          s.reader.offset := by
        have hpositive : 0 ≤ s.reader.offset := by
          rw [← hnext, h.invariant.next]
          omega
        exact belowUpTo_of_missing hintegral hpast hrun hreliable.contiguous hpositive
          (not_hasOffset_of_valueError hreliable.readable (hmistakes.compared rfl) hread)
      refine ⟨hinvariant, ?_, ?_, ?_⟩
      · intro _
        exact ⟨seen, later ++ [.read], List.append_assoc .., hseen⟩
      · intro _
        rw [hreader]
        exact ⟨seen, later ++ [.read], List.append_assoc .., hseen, hbelow⟩
      · rw [hreader]
        exact nofun
    · rw [hafter] at hreader
      exact h.of_same hinvariant hkeeps (hreader ▸ rfl) (hreader ▸ nofun) (hreader ▸ nofun)
    · rw [hafter] at hreader
      have hstored : HasOffset s.db workflowId key s.reader.offset := by
        apply hasOffset_of_readValue serializers comparison
        intro message herror
        rw [hread] at herror
        exact hvalue message (Except.error.inj herror)
      refine ⟨hinvariant, ?_, ?_, ?_⟩
      · intro hfinal
        rw [hreader] at hfinal
        obtain ⟨seen, later, rfl, hseen⟩ := h.final hfinal
        exact ⟨seen, later ++ [.read], List.append_assoc .., hseen⟩
      · rw [hreader]
        exact nofun
      · intro other hother
        rw [hreader] at hother ⊢
        cases hother
        rw [hdb]
        exact Or.inr (Or.inr ⟨hstored, hread⟩)

/-- One look at the status; an inactive one starts the final read. -/
theorem readerHistory_look {past : List (ReadAction V)} {found : Option WorkflowStatusRow}
    (hrun : (readSystem serializers comparison workflowId key).run (start k db₀) past = some s)
    (h : ReaderHistory serializers comparison workflowId key k db₀ past s)
    (hfound : action = .look ∧ found = s.db.workflowStatus.lookup workflowId ∨
      action = .replayLook found)
    (hdb : s'.db = s.db) (hreader : s'.reader = s.reader.afterLook workflowId found)
    (hinvariant : ReaderInvariant serializers comparison workflowId key k db₀ s') :
    ReaderHistory serializers comparison workflowId key k db₀ (past ++ [action]) s' := by
  have hkeeps : Keeps workflowId s.db s'.db := by
    rw [hdb]
    exact Keeps.refl s.db
  cases found with
  | none =>
    rw [Reader.afterLook] at hreader
    refine h.of_same hinvariant hkeeps (hreader ▸ rfl) (hreader ▸ nofun) ?_
    intro _ _
    rcases hfound with ⟨-, hmissing⟩ | rfl
    · exact Or.inr (Or.inl (h.invariant.lookup hmissing.symm))
    · exact Or.inr (Or.inr (List.mem_append_right _ (List.mem_singleton_self _)))
  | some row =>
    rw [Reader.afterLook] at hreader
    split at hreader
    · exact h.of_same hinvariant hkeeps (hreader ▸ rfl) (hreader ▸ nofun) (hreader ▸ nofun)
    · split at hreader
      · exact h.of_same hinvariant hkeeps (hreader ▸ rfl) (hreader ▸ nofun) (hreader ▸ nofun)
      · rename_i hinactive
        rw [Bool.not_eq_true] at hinactive
        refine ⟨hinvariant, ?_, hreader ▸ nofun, hreader ▸ nofun⟩
        intro _
        rcases hfound with ⟨rfl, hlookup⟩ | rfl
        · -- the workflow is inactive at this very point of the run
          obtain ⟨hmem, howner⟩ := s.db.workflowStatus.lookup_eq_some.mp hlookup.symm
          exact ⟨past, [.look], rfl, Or.inl ⟨s, hrun, row, hmem, howner, hinactive⟩⟩
        · exact ⟨past ++ [.replayLook (some row)], [], (List.append_nil _).symm,
            Or.inr ⟨past, row, rfl, hinactive⟩⟩

theorem readerHistory_step (hintegral : Integral db₀) {past : List (ReadAction V)}
    (hpast : (readSystem serializers comparison workflowId key).Along
      (Reliable serializers comparison workflowId key) (start k db₀) past)
    (hrun : (readSystem serializers comparison workflowId key).run (start k db₀) past = some s)
    (h : ReaderHistory serializers comparison workflowId key k db₀ past s)
    (hreliable : Reliable serializers comparison workflowId key s action)
    (hmistakes : MistakesNone serializers comparison workflowId key s action)
    (hstep : (readSystem serializers comparison workflowId key).step s action = some s') :
    ReaderHistory serializers comparison workflowId key k db₀ (past ++ [action]) s' := by
  have hinvariant := readerInvariant_step h.invariant hreliable hmistakes hstep
  obtain ⟨-, hkeeps⟩ := keeps_step h.invariant.integral hreliable hstep
  cases readEffect_of_step hstep with
  | transaction transaction htransaction hreader =>
    exact h.of_same hinvariant hkeeps (hreader ▸ rfl) (fun _ ↦ hreader) (fun _ _ ↦ Or.inl hreader)
  | read hphase hdb hreader =>
    exact readerHistory_read hintegral hpast hrun h hreliable hmistakes hphase hdb hreader hinvariant
  | resume thrown hphase hdb hreader =>
    obtain ⟨hfinal, hdrained, hraised⟩ := s.reader.afterYield_end fun message heq ↦
      hmistakes.resumed message (congrArg ReadAction.resume heq)
    rw [← hreader] at hfinal hdrained hraised
    exact h.of_same hinvariant hkeeps hfinal (fun heq ↦ absurd heq hdrained)
      (fun error heq ↦ absurd heq (hraised error))
  | look found action hfound hphase hdb hreader =>
    exact readerHistory_look hrun h hfound hdb hreader hinvariant
  | wake hphase hdb hreader =>
    exact h.of_same hinvariant hkeeps (hreader ▸ rfl) (hreader ▸ nofun) (hreader ▸ nofun)

end Kept

/-- A finished workflow. One of its steps wrote the two values `True`, `False` to its stream. -/
def finishedStream : SystemDatabase where
  workflowStatus :=
    { rows := [{ workflowUuid := "wf", status := .success, name := "f" }]
      nodup := by decide }
  operationOutputs := Table.empty
  notifications := Table.empty
  workflowEvents := Table.empty
  workflowEventsHistory := Table.empty
  streams :=
    { rows := [⟨"wf", "s", "gASILg==", 0, 1, some "py_pickle"⟩,
        ⟨"wf", "s", "gASJLg==", 1, 1, some "py_pickle"⟩]
      nodup := by decide }
  applicationVersions := Table.empty

theorem integral_finishedStream : Integral finishedStream := by
  refine ⟨?_, ?_, ?_, by decide⟩
  all_goals exact fun _ hrow ↦ absurd hrow List.not_mem_nil

/-- The reader alone finds what it relies on. -/
theorem reliable_finishedStream {comparison : Option Bool → Except DBOSError Bool}
    {s : ReadState (Option Bool)} {action : ReadAction (Option Bool)} (hdb : s.db = finishedStream)
    (haction : ∀ transaction, action ≠ .transaction transaction) :
    Reliable booleanSerializers comparison "wf" "s" s action := by
  refine ⟨⟨2, ?_⟩, ?_, ?_⟩
  · intro offset
    rw [hdb]
    constructor
    · rintro ⟨row, hrow, -, -, rfl⟩
      revert row
      decide
    · rintro ⟨hle, hlt⟩
      obtain rfl | rfl : offset = 0 ∨ offset = 1 := by omega
      · exact ⟨⟨"wf", "s", "gASILg==", 0, 1, some "py_pickle"⟩, by decide, rfl, rfl, rfl⟩
      · exact ⟨⟨"wf", "s", "gASJLg==", 1, 1, some "py_pickle"⟩, by decide, rfl, rfl, rfl⟩
  · rw [hdb]
    intro row hrow _ _ message herror
    have hvalues : ∀ row ∈ finishedStream.streams.rows, ∃ value,
        booleanSerializers.deserializeValue (some row.value) row.serialization = .ok value := by
      intro row hrow
      change row ∈ [_, _] at hrow
      rw [List.mem_pair] at hrow
      rcases hrow with rfl | rfl
      · exact ⟨some true, rfl⟩
      · exact ⟨some false, rfl⟩
    obtain ⟨value, hvalue⟩ := hvalues row hrow
    rw [hvalue] at herror
    cases herror
  · intro s' hstep hworkflow
    rcases (readEffect_of_step hstep).db_cases with ⟨transaction, htransaction, -⟩ | hsame
    · exact absurd htransaction (haction transaction)
    · rw [hsame]
      exact hworkflow

/-- In a run of the reader alone it can rely on the database at every step. -/
theorem along_finishedStream (comparison : Option Bool → Except DBOSError Bool)
    (actions : List (ReadAction (Option Bool)))
    (hactions : ∀ transaction, .transaction transaction ∉ actions) :
    (readSystem booleanSerializers comparison "wf" "s").Along
      (Reliable booleanSerializers comparison "wf" "s") (start 0 finishedStream) actions := by
  refine System.along_of_invariant _ (I := fun s ↦ s.db = finishedStream)
    (G := fun _ action ↦ ∀ transaction, action ≠ .transaction transaction) ?_
    (fun s action hdb haction ↦ reliable_finishedStream hdb haction) rfl ?_
  · intro s action s' hdb haction hstep
    rcases (readEffect_of_step hstep).db_cases with ⟨transaction, htransaction, -⟩ | hsame
    · exact absurd htransaction (haction transaction)
    · exact hsame.trans hdb
  · rw [System.along_iff]
    rintro before action after s' rfl - transaction rfl
    exact hactions transaction (List.mem_append_right _ List.mem_cons_self)

/-- A comparison whose truth test raises for `True`, as it does for an array of two elements. -/
def arrayComparison : Option Bool → Except DBOSError Bool
  | some true =>
    .error (.valueError ("The truth value of an array with more than one element is ambiguous. " ++
      "Use a.any() or a.all()"))
  | _ => .ok false

end DBOSModel.StreamReader

import DBOSModel.Core.Replay

/-!
# The serializer that decodes a replayed value

A process records the value of an operation as a text, and a later process, whose configured
serializer may be another one, replays it. Each kind of operation has its own code on both sides:
which serializer writes the text, which name is stored beside it, and which name the replay hands to
`deserialize_value`. Here that code is kept up to the call of `deserialize`, so that the serializer
it is called on can be compared with the one that wrote the text.

Most kinds store the name of the serializer and select by it, and then the recording serializer is
found or missed. The replay of a transaction passes the column `child_workflow_id` where the name
belongs, `transaction_outputs` has no column for it, and `call_txn_as_step` stores none: these three
decode with whatever serializer is configured at the time of the replay.
-/

namespace DBOSModel.Core

open Relational DBOSModel.SysDb

/-! ## Texts and their serializers -/

/-- A recorded text, the serializer that wrote it, and the name stored beside it. -/
structure Encoding (V : Type) where
  serializer : Serializer V
  text : String
  serialization : Option String

/-- What a replay does with a checkpoint. -/
inductive Replayed (V : Type) where
  /-- It calls `deserialize` on the text of an output. -/
  | decodes (serializer : Serializer V) (text : String)
  /-- It raises the recorded exception. -/
  | raisesRecorded (text : String) (serialization : Option String)
  | raises (error : DBOSError)

section Codes

variable {V : Type} (serializers : Serializers V)

/-- `serialize_value_as`, with the serializer it selects. -/
def encodeAs (value : V) (serialization : Option String) : Except DBOSError (Encoding V) := do
  let s ← serializers.select serialization
  let text ← s.serialize value
  pure ⟨s, text, some s.name⟩

/-- `deserialize_value` on a text. -/
def decode (text : String) (serialization : Option String) : Replayed V :=
  match serializers.select serialization with
  | .ok s => .decodes s text
  | .error error => .raises error

/-- The serializers of a process that configures another one. -/
def reconfigured (configured : Serializer V) : Serializers V :=
  { serializers with configured := configured }

/-! ## Recording -/

/-- `serialize_value(output, None, serializer)` of steps, transactions and
`call_function_as_step`. -/
def encodeDefault (value : V) : Except DBOSError (Encoding V) :=
  encodeAs serializers value (some serializers.configured.name)

/-- `transaction_outputs` keeps the text alone. -/
def encodeTransactionOutput (value : V) : Except DBOSError (Encoding V) :=
  (encodeDefault serializers value).map fun encoding ↦ { encoding with serialization := none }

/-- `record_sleep`. -/
def encodeSleep (endTime : V) : Except DBOSError (Encoding V) := do
  let text ← serializers.portable.serialize endTime
  pure ⟨serializers.portable, text, some portableName⟩

/-- `call_txn_as_step`. -/
def encodeCallTxnAsStep (value : V) : Except DBOSError (Encoding V) := do
  let text ← serializers.configured.serialize value
  pure ⟨serializers.configured, text, none⟩

/-! ## Replaying -/

/-- The lookup of an operation that records outputs only. -/
def decodeOutput (missing : DBOSError) (recorded : RecordedResult) : Replayed V :=
  match recorded.output with
  | some text => decode serializers text recorded.serialization
  | none => .raises missing

/-- `recv_setup`. -/
def decodeRecv : RecordedResult → Replayed V :=
  decodeOutput serializers (.exception "No output recorded in the last recv")

/-- `get_event_setup`. -/
def decodeGetEvent : RecordedResult → Replayed V :=
  decodeOutput serializers (.exception "No output recorded in the last get_event")

/-- `record_sleep`. -/
def decodeSleep : RecordedResult → Replayed V :=
  decodeOutput serializers (.assertionError "no recorded end time")

/-- `check_existing_result` of `invoke_step`. -/
def decodeStep (recorded : RecordedResult) : Replayed V :=
  match recorded.error, recorded.output with
  | some error, _ => .raisesRecorded error recorded.serialization
  | none, some text => decode serializers text recorded.serialization
  | none, none => .raises (.exception "Output and error are both None")

/-- `call_function_as_step` looks at the output first. -/
def decodeCallFunctionAsStep (functionName : String) (recorded : RecordedResult) : Replayed V :=
  match recorded.output, recorded.error with
  | some text, _ => decode serializers text recorded.serialization
  | none, some error => .raisesRecorded error recorded.serialization
  | none, none =>
    .raises (.exception ("Recorded output and error are both None for " ++ functionName))

/-- The two lookups of `invoke_tx`, which treat an empty text as none; `serialization` is what they
pass to `deserialize_value`. -/
def decodeTruthy (serialization : RecordedResult → Option String) (recorded : RecordedResult) :
    Replayed V :=
  match truthy recorded.error, truthy recorded.output with
  | some error, _ => .raisesRecorded error recorded.serialization
  | none, some text => decode serializers text (serialization recorded)
  | none, none => .raises (.exception "Output and error are both None")

/-- The lookup in the system database, with the wrong column. -/
def decodeTransaction : RecordedResult → Replayed V :=
  decodeTruthy serializers RecordedResult.childWorkflowId

/-- The lookup in `transaction_outputs`. -/
def decodeTransactionOutput : RecordedResult → Replayed V :=
  decodeTruthy serializers RecordedResult.serialization

/-- `call_txn_as_step`. -/
def decodeCallTxnAsStep (recorded : RecordedResult) : Replayed V :=
  match recorded.output with
  | some text => .decodes serializers.configured text
  | none => .raises (.assertionError "")

end Codes

/-! ## The operations these codes belong to -/

/-- The outcome of a replay, in the exceptions of the language. -/
def Replayed.outcome {V E : Type} (ofDBOS : DBOSError → E)
    (raiseRecorded : String → Option String → Except E V) : Replayed V → Except E V
  | .decodes s text => (s.deserialize text).mapError ofDBOS
  | .raisesRecorded text serialization => raiseRecorded text serialization
  | .raises error => .error (ofDBOS error)

section Operations

variable {V E : Type} (serializers : Serializers V)

theorem mapError_id {β : Type} (outcome : Except DBOSError β) : outcome.mapError id = outcome := by
  cases outcome <;> rfl

theorem serializeValueAs_eq_encodeAs (value : V) (serialization : Option String) :
    serializers.serializeValueAs value serialization =
      (encodeAs serializers value serialization).map fun encoding ↦
        (encoding.text, encoding.serializer.name) := by
  simp only [Serializers.serializeValueAs, encodeAs]
  cases serializers.select serialization with
  | error error => rfl
  | ok s => cases hserialize : s.serialize value <;> simp [hserialize, bind, Except.bind, pure,
      Except.pure, Except.map]

theorem deserializeValue_eq_decode (ofDBOS : DBOSError → E)
    (raiseRecorded : String → Option String → Except E V) (text : String)
    (serialization : Option String) :
    (serializers.deserializeValue (some text) serialization).mapError ofDBOS =
      (decode serializers text serialization).outcome ofDBOS raiseRecorded := by
  simp only [Serializers.deserializeValue, decode]
  cases serializers.select serialization with
  | error error => rfl
  | ok s => rfl

/-- The lookup of an operation that records outputs only, as the code has it. -/
theorem decodeOutput_eq (raiseRecorded : String → Option String → Except DBOSError V)
    (missing : DBOSError) (recorded : RecordedResult) :
    (if recorded.output.isSome then do
        let value ← serializers.deserializeValue recorded.output recorded.serialization
        pure (some value)
      else .error missing) =
      ((decodeOutput serializers missing recorded).outcome id raiseRecorded).map some := by
  cases houtput : recorded.output with
  | none => simp [houtput, decodeOutput, Replayed.outcome, Except.map]
  | some text =>
    have hdecode := deserializeValue_eq_decode serializers id raiseRecorded text
      recorded.serialization
    rw [mapError_id] at hdecode
    simp only [decodeOutput, houtput, ← hdecode, Option.isSome_some, if_true]
    cases serializers.deserializeValue (some text) recorded.serialization <;> rfl

/-- The lookup of `recv_setup`. -/
theorem recvReplay_eq (raiseRecorded : String → Option String → Except DBOSError V)
    (workflowUuid : String) (functionId : ℤ) (db : SystemDatabase) :
    recvReplay serializers workflowUuid functionId db =
      (checkOperationExecutionTxn workflowUuid functionId recvName db).bind fun
        | none => .ok none
        | some recorded =>
          ((decodeRecv serializers recorded).outcome id raiseRecorded).map some := by
  unfold recvReplay
  cases checkOperationExecutionTxn workflowUuid functionId recvName db with
  | error error => rfl
  | ok found =>
    cases found with
    | none => rfl
    | some recorded => exact decodeOutput_eq serializers raiseRecorded _ recorded

/-- The lookup of `record_sleep`. -/
theorem sleepReplay_eq (raiseRecorded : String → Option String → Except DBOSError V)
    (workflowUuid : String) (functionId : ℤ) (db : SystemDatabase) :
    sleepReplay serializers workflowUuid functionId db =
      (checkOperationExecutionTxn workflowUuid functionId sleepName db).bind fun
        | none => .ok none
        | some recorded =>
          ((decodeSleep serializers recorded).outcome id raiseRecorded).map some := by
  unfold sleepReplay
  cases checkOperationExecutionTxn workflowUuid functionId sleepName db with
  | error error => rfl
  | ok found =>
    cases found with
    | none => rfl
    | some recorded => exact decodeOutput_eq serializers raiseRecorded _ recorded

theorem sleepResult_eq (workflowUuid : String) (functionId startTime : ℤ) (endTime : V) :
    sleepResult serializers workflowUuid functionId startTime endTime =
      (encodeSleep serializers endTime).map fun encoding ↦
        { workflowUuid := workflowUuid
          functionId := functionId
          functionName := sleepName
          startedAtEpochMs := startTime
          output := some encoding.text
          serialization := encoding.serialization } := by
  simp only [sleepResult, encodeSleep]
  cases serializers.portable.serialize endTime <;> rfl

/-- The first lookup of `invoke_tx`. -/
theorem replayStep_eq (env : TxEnv V E) (recorded : RecordedResult) :
    replayStep env recorded = (decodeTransaction env.serializers recorded).outcome
      env.exceptions.ofDBOS fun text serialization ↦
        (env.exceptions.deserializeException text serialization).bind .error := by
  unfold replayStep decodeTransaction decodeTruthy
  cases truthy recorded.error with
  | some error => rfl
  | none =>
    cases truthy recorded.output with
    | some text => exact deserializeValue_eq_decode env.serializers _ _ _ _
    | none => rfl

/-- The checkpoint that `invoke_tx` writes after its loop. -/
theorem afterLoop_eq (env : TxEnv V E) (call : TxCall) (startedAt completedAt : ℤ) (value : V) :
    afterLoop env call startedAt completedAt value =
      match encodeDefault env.serializers value with
      | .error error => .finished (.error (env.exceptions.ofDBOS error))
      | .ok encoding => .recordingStep
          (call.stepOutput startedAt (some encoding.text) none (some encoding.serializer.name))
          completedAt (.return value) := by
  unfold afterLoop Serializers.serializeValue encodeDefault
  rw [serializeValueAs_eq_encodeAs]
  cases encodeAs env.serializers value (some env.serializers.configured.name) <;> rfl

theorem callTxnAsStep_eq (raiseRecorded : String → Option String → Except DBOSError V)
    (step : StepRecord) (op : SystemDatabase → Except DBOSError (V × SystemDatabase))
    (db : SystemDatabase) :
    callTxnAsStep serializers step op db = .ofExcept (recordedStep step
      (fun recorded ↦ (decodeCallTxnAsStep serializers recorded).outcome id raiseRecorded)
      (fun db ↦ do
        let (value, db') ← op db
        let encoding ← encodeCallTxnAsStep serializers value
        pure (value, some encoding.text, db'))
      db) := by
  unfold callTxnAsStep
  congr 2
  · funext recorded
    unfold decodeCallTxnAsStep
    cases recorded.output with
    | none => rfl
    | some text => exact (mapError_id _).symm
  · funext db
    cases op db with
    | error error => rfl
    | ok pair =>
      simp only [bind, Except.bind, encodeCallTxnAsStep]
      cases serializers.configured.serialize pair.1 <;> rfl

end Operations

/-! ## Kinds of operations -/

inductive OperationKind where
  | step
  /-- The checkpoint that `invoke_tx` writes after its loop. -/
  | transaction
  /-- The row in `transaction_outputs`. -/
  | transactionOutput
  /-- The checkpoint that `invoke_tx` copies from that row. -/
  | transactionCopy
  | recv
  | getEvent
  | sleep
  | callFunctionAsStep
  | callTxnAsStep
deriving DecidableEq

/-- The result of a run: a new record, or a replay. -/
inductive Ran (V : Type) where
  | recorded (encoding : Encoding V)
  | replayed (replay : Replayed V)

namespace OperationKind

variable {V α : Type}

/-- The name that is recorded, fixed for the operations of the library. -/
def functionName (kind : OperationKind) (given : String) : String :=
  match kind with
  | recv => recvName
  | getEvent => getEventName
  | sleep => sleepName
  | _ => given

/-- The text of a value. A message and an event carry the name under which they were sent or set;
the other kinds do not look at `source`. -/
def encode (kind : OperationKind) (serializers : Serializers V) (value : V)
    (source : Option String) : Except DBOSError (Encoding V) :=
  match kind with
  | step => encodeDefault serializers value
  | transaction => encodeDefault serializers value
  | transactionOutput => encodeTransactionOutput serializers value
  | transactionCopy => encodeTransactionOutput serializers value
  | recv => encodeAs serializers value source
  | getEvent => encodeAs serializers value source
  | sleep => encodeSleep serializers value
  | callFunctionAsStep => encodeDefault serializers value
  | callTxnAsStep => encodeCallTxnAsStep serializers value

def replay (kind : OperationKind) (serializers : Serializers V) (name : String) :
    RecordedResult → Replayed V :=
  match kind with
  | step => decodeStep serializers
  | transaction => decodeTransaction serializers
  | transactionOutput => decodeTransactionOutput serializers
  | transactionCopy => decodeTransaction serializers
  | recv => decodeRecv serializers
  | getEvent => decodeGetEvent serializers
  | sleep => decodeSleep serializers
  | callFunctionAsStep => decodeCallFunctionAsStep serializers name
  | callTxnAsStep => decodeCallTxnAsStep serializers

/-- The step of a transaction on the application database. -/
def txCall (step : StepRecord) : TxCall where
  workflowId := step.workflowUuid
  functionId := step.functionId
  transactionName := step.functionName
  executorId := step.executorId

def find (kind : OperationKind) (step : StepRecord) (db : Databases α) :
    Except DBOSError (Option RecordedResult) :=
  if kind = transactionOutput then checkTransactionExecution (txCall step) db.app
  else checkOperationExecutionTxn step.workflowUuid step.functionId
    (kind.functionName step.functionName) db.sys

def record (kind : OperationKind) (step : StepRecord) (encoding : Encoding V) (db : Databases α) :
    Except DBOSError (Databases α) :=
  if kind = transactionOutput then
    (recordTransactionOutput (txCall step) encoding.text db.app).map fun app ↦
      { db with app := app }
  else
    (recordOperationResultTxn step.executorId
      { workflowUuid := step.workflowUuid
        functionId := step.functionId
        functionName := kind.functionName step.functionName
        startedAtEpochMs := step.startTime
        output := some encoding.text
        serialization := encoding.serialization }
      step.completedAt db.sys).map fun sys ↦ { db with sys := sys }

/-- One execution of an operation: what is recorded is replayed, else the value, which comes from
outside, is recorded. -/
def run (kind : OperationKind) (serializers : Serializers V) (step : StepRecord) (value : V)
    (source : Option String) (db : Databases α) : Except DBOSError (Ran V × Databases α) := do
  match ← kind.find step db with
  | some recorded =>
    pure (.replayed (kind.replay serializers (kind.functionName step.functionName) recorded), db)
  | none =>
    let encoding ← kind.encode serializers value source
    let db' ← kind.record step encoding db
    pure (.recorded encoding, db')

end OperationKind

/-! ## The property and the condition -/

section Statements

variable {V α : Type}

/-- The exception for a name that no serializer of the process has. -/
def unavailable (name : String) : DBOSError :=
  .typeError ("Serialization " ++ name ++ " is not available")

/-- The text is decoded by the serializer that wrote it and gives the value back, or the replay
raises because that serializer is not available. -/
def ReplaysRecorded (recording : Serializer V) (value : V) : Replayed V → Prop
  | .decodes s text => s = recording ∧ s.deserialize text = .ok value
  | .raisesRecorded _ _ => False
  | .raises error => error = unavailable recording.name

/-- What a replay relies on: the record is still there, and the workflow is not cancelled. -/
structure Kept (step : StepRecord) (db db' : Databases α) : Prop where
  checkpoint : db'.sys.operationOutputs.lookup (step.workflowUuid, step.functionId) =
    db.sys.operationOutputs.lookup (step.workflowUuid, step.functionId)
  output : db'.app.transactionOutputs.lookup (step.workflowUuid, step.functionId) =
    db.app.transactionOutputs.lookup (step.workflowUuid, step.functionId)
  active : ∃ row, db'.sys.workflowStatus.lookup step.workflowUuid = some row ∧
    row.status ≠ .cancelled

/-- No other serializer of the replaying process answers to the name of the recording one. A replay
without the name needs the recording serializer to be the configured one; that of a transaction also
needs a text that is not empty. -/
def FindsRecording (serializers : Serializers V) (encoding : Encoding V) : OperationKind → Prop
  | .transaction => encoding.text ≠ "" ∧ serializers.configured = encoding.serializer
  | .transactionOutput => encoding.text ≠ "" ∧ serializers.configured = encoding.serializer
  | .transactionCopy => encoding.text ≠ "" ∧ serializers.configured = encoding.serializer
  | .callTxnAsStep => serializers.configured = encoding.serializer
  | _ => ∀ s, serializers.select (some encoding.serializer.name) = .ok s → s = encoding.serializer

end Statements

section Decoding

variable {V α : Type} {serializers : Serializers V} {kind : OperationKind} {step : StepRecord}
  {value : V} {source serialization : Option String} {encoding : Encoding V} {text : String}
  {db db' db'' : Databases α}

/-! ## Encodings -/

theorem encodeAs_eq_ok (h : encodeAs serializers value serialization = .ok encoding) :
    encoding.serializer.serialize value = .ok encoding.text ∧
      encoding.serialization = some encoding.serializer.name := by
  obtain ⟨s, -, hrest⟩ := bind_eq_ok.mp h
  obtain ⟨text, htext, hpure⟩ := bind_eq_ok.mp hrest
  cases hpure
  exact ⟨htext, rfl⟩

/-- The text that is stored is the one that the recording serializer writes. -/
theorem serialize_of_encode (h : kind.encode serializers value source = .ok encoding) :
    encoding.serializer.serialize value = .ok encoding.text := by
  have hcopied (h : encodeTransactionOutput serializers value = .ok encoding) :
      encoding.serializer.serialize value = .ok encoding.text := by
    obtain ⟨full, hfull, rfl⟩ := map_eq_ok.mp h
    exact (encodeAs_eq_ok hfull).1
  cases kind with
  | step => exact (encodeAs_eq_ok h).1
  | transaction => exact (encodeAs_eq_ok h).1
  | transactionOutput => exact hcopied h
  | transactionCopy => exact hcopied h
  | recv => exact (encodeAs_eq_ok h).1
  | getEvent => exact (encodeAs_eq_ok h).1
  | sleep =>
    obtain ⟨text, htext, hpure⟩ := bind_eq_ok.mp h
    cases hpure
    exact htext
  | callFunctionAsStep => exact (encodeAs_eq_ok h).1
  | callTxnAsStep =>
    obtain ⟨text, htext, hpure⟩ := bind_eq_ok.mp h
    cases hpure
    exact htext

theorem encodeSleep_eq_ok (h : encodeSleep serializers value = .ok encoding) :
    encoding.serialization = some encoding.serializer.name := by
  obtain ⟨text, -, hpure⟩ := bind_eq_ok.mp h
  cases hpure
  exact congrArg some serializers.portable_name.symm

/-! ## The record that a replay finds -/

/-- The columns of a record. -/
def recordedEncoding (kind : OperationKind) (encoding : Encoding V) : RecordedResult where
  output := some encoding.text
  error := none
  serialization := if kind = .transactionOutput then none else encoding.serialization
  childWorkflowId := none

theorem lookup_of_find_eq_none (h : kind.find step db = .ok none) :
    if kind = .transactionOutput then
      db.app.transactionOutputs.lookup (step.workflowUuid, step.functionId) = none
    else db.sys.operationOutputs.lookup (step.workflowUuid, step.functionId) = none := by
  unfold OperationKind.find at h
  split
  · rename_i hkind
    rw [if_pos hkind] at h
    unfold checkTransactionExecution at h
    split at h
    · assumption
    · split at h
      · cases h
      · cases h
  · rename_i hkind
    rw [if_neg hkind] at h
    unfold checkOperationExecutionTxn at h
    split at h
    · cases h
    · split at h
      · cases h
      · split at h
        · assumption
        · split at h
          · cases h
          · cases h

/-- What was recorded on a step without a record is found as long as it is kept. -/
theorem find_of_record (hnone : kind.find step db = .ok none)
    (hrecord : kind.record step encoding db = .ok db') (hkept : Kept step db' db'') :
    kind.find step db'' = .ok (some (recordedEncoding kind encoding)) := by
  have hfresh := lookup_of_find_eq_none hnone
  unfold OperationKind.record at hrecord
  unfold OperationKind.find recordedEncoding
  by_cases hkind : kind = .transactionOutput
  · rw [if_pos hkind] at hfresh hrecord
    obtain ⟨app, happ, rfl⟩ := map_eq_ok.mp hrecord
    unfold recordTransactionOutput insertTransactionRow at happ
    split at happ
    · cases happ
    · rename_i outputs hinsert
      cases happ
      have hstored := Table.lookup_insertNew_self hinsert
      have hlookup : db''.app.transactionOutputs.lookup (OperationKind.txCall step).key = _ :=
        hkept.output.trans hstored
      rw [if_pos hkind, if_pos hkind, checkTransactionExecution, hlookup]
      exact if_neg fun hne ↦ hne rfl
  · rw [if_neg hkind] at hfresh hrecord
    obtain ⟨sys, hsys, rfl⟩ := map_eq_ok.mp hrecord
    have hstored := (recordOperationResultTxn_new hsys hfresh).1
    have hlookup := hkept.checkpoint.trans hstored
    obtain ⟨row, hrow, hactive⟩ := hkept.active
    rw [if_neg hkind, if_neg hkind]
    simp only [checkOperationExecutionTxn, hrow, if_neg hactive, hlookup]
    exact if_neg fun hne ↦ hne rfl

/-- A run that records has found nothing, and a later one replays what it has recorded. -/
theorem run_eq_replayed (later : Serializers V) (other : V) (otherSource : Option String)
    (h : kind.run serializers step value source db = .ok (.recorded encoding, db'))
    (hkept : Kept step db' db'') :
    kind.encode serializers value source = .ok encoding ∧
      kind.run later step other otherSource db'' = .ok (.replayed (kind.replay later
        (kind.functionName step.functionName) (recordedEncoding kind encoding)), db'') := by
  obtain ⟨found, hfound, hrest⟩ := bind_eq_ok.mp h
  cases found with
  | some recorded => cases hrest
  | none =>
    obtain ⟨encoding', hencode, hrest⟩ := bind_eq_ok.mp hrest
    obtain ⟨db₁, hrecord, hpure⟩ := bind_eq_ok.mp hrest
    cases hpure
    refine ⟨hencode, ?_⟩
    have hfind := find_of_record hfound hrecord hkept
    exact bind_eq_ok.mpr ⟨_, hfind, rfl⟩

/-! ## Decoding -/

/-- Decoding by the stored name is right exactly if the name leads to no other serializer. -/
theorem replaysRecorded_decode {recording : Serializer V}
    (hwrite : recording.serialize value = .ok text) (hround : recording.RoundTrips value) :
    ReplaysRecorded recording value (decode serializers text (some recording.name)) ↔
      ∀ s, serializers.select (some recording.name) = .ok s → s = recording := by
  unfold decode
  cases hselect : serializers.select (some recording.name) with
  | error error =>
    have herror : error = unavailable recording.name := Serializers.select_eq_error hselect
    constructor
    · intro _ s hs
      cases hs
    · exact fun _ ↦ herror
  | ok found =>
    constructor
    · rintro ⟨hsame, -⟩ s hs
      cases hs
      exact hsame
    · intro hfinds
      have hsame := hfinds found rfl
      exact ⟨hsame, hsame ▸ hround text hwrite⟩

/-- Decoding with a fixed serializer is right exactly if it is the recording one. -/
theorem replaysRecorded_decodes {recording s : Serializer V}
    (hwrite : recording.serialize value = .ok text) (hround : recording.RoundTrips value) :
    ReplaysRecorded recording value (.decodes s text) ↔ s = recording := by
  constructor
  · exact fun h ↦ h.1
  · intro hsame
    exact ⟨hsame, hsame ▸ hround text hwrite⟩

/-- Without a name, the configured serializer decodes. -/
theorem decode_none (text : String) :
    decode serializers text none = .decodes serializers.configured text := by
  simp [decode, Serializers.select]

/-- A lookup of `invoke_tx` that passes no name. -/
theorem replaysRecorded_decodeTruthy {recording : Serializer V} {recorded : RecordedResult}
    {passed : RecordedResult → Option String} (herror : recorded.error = none)
    (houtput : recorded.output = some text) (hpassed : passed recorded = none)
    (hwrite : recording.serialize value = .ok text) (hround : recording.RoundTrips value) :
    ReplaysRecorded recording value (decodeTruthy serializers passed recorded) ↔
      text ≠ "" ∧ serializers.configured = recording := by
  unfold decodeTruthy
  rw [herror, houtput, hpassed]
  have hnone : truthy none = none := rfl
  by_cases hempty : text = ""
  · have hsome : truthy (some text) = none := by
      rw [hempty]
      rfl
    rw [hnone, hsome]
    simp [ReplaysRecorded, unavailable, hempty]
  · have hsome : truthy (some text) = some text := by
      simp [truthy, hempty]
    simp only [hnone, hsome, decode_none, replaysRecorded_decodes hwrite hround, ne_eq, hempty,
      not_false_eq_true, true_and]

/-- For every kind, every value that the recording serializer reads back and every change of the
configured serializer: the replay decodes with the recording serializer, or raises because it is not
available, exactly under the condition. -/
theorem replaysRecorded_iff (kind : OperationKind) (serializers : Serializers V)
    (configured : Serializer V) (step : StepRecord) (value other : V)
    (source otherSource : Option String) (encoding : Encoding V) (db db' db'' : Databases α)
    (hrun : kind.run serializers step value source db = .ok (.recorded encoding, db'))
    (hround : encoding.serializer.RoundTrips value) (hkept : Kept step db' db'') :
    (∃ replayed, kind.run (reconfigured serializers configured) step other otherSource db'' =
        .ok (.replayed replayed, db'') ∧ ReplaysRecorded encoding.serializer value replayed) ↔
      FindsRecording (reconfigured serializers configured) encoding kind := by
  obtain ⟨hencode, hreplay⟩ :=
    run_eq_replayed (reconfigured serializers configured) other otherSource hrun hkept
  have hwrite := serialize_of_encode hencode
  have hreplayed : (∃ replayed, kind.run (reconfigured serializers configured) step other
      otherSource db'' = .ok (.replayed replayed, db'') ∧
        ReplaysRecorded encoding.serializer value replayed) ↔
      ReplaysRecorded encoding.serializer value (kind.replay (reconfigured serializers configured)
        (kind.functionName step.functionName) (recordedEncoding kind encoding)) := by
    rw [hreplay]
    constructor
    · rintro ⟨replayed, heq, hrecorded⟩
      cases heq
      exact hrecorded
    · exact fun h ↦ ⟨_, rfl, h⟩
  have hnamed (h : encoding.serialization = some encoding.serializer.name) :
      ReplaysRecorded encoding.serializer value
          (decode (reconfigured serializers configured) encoding.text encoding.serialization) ↔
        ∀ s, (reconfigured serializers configured).select (some encoding.serializer.name) = .ok s →
          s = encoding.serializer := by
    rw [h]
    exact replaysRecorded_decode hwrite hround
  rw [hreplayed]
  cases kind with
  | step => exact hnamed (encodeAs_eq_ok hencode).2
  | transaction => exact replaysRecorded_decodeTruthy rfl rfl rfl hwrite hround
  | transactionOutput => exact replaysRecorded_decodeTruthy rfl rfl rfl hwrite hround
  | transactionCopy => exact replaysRecorded_decodeTruthy rfl rfl rfl hwrite hround
  | recv => exact hnamed (encodeAs_eq_ok hencode).2
  | getEvent => exact hnamed (encodeAs_eq_ok hencode).2
  | sleep => exact hnamed (encodeSleep_eq_ok hencode)
  | callFunctionAsStep => exact hnamed (encodeAs_eq_ok hencode).2
  | callTxnAsStep => exact replaysRecorded_decodes hwrite hround

end Decoding

/-! ## A process that changes from pickle to portable JSON -/

/-- A workflow that has recorded nothing. -/
def freshDatabases : Databases ℕ where
  sys := beforeIncrement.sys
  app := beforeIncrement.app

def firstStep : StepRecord where
  executorId := none
  workflowUuid := "wf"
  functionId := 1
  functionName := "f"
  startTime := 0
  completedAt := 1

/-- The value `True` as a pickle. -/
def pickledTrue : Encoding (Option Bool) where
  serializer := booleanSerializers.native
  text := "gASILg=="
  serialization := some defaultName

/-- The databases after an operation has recorded `True`. -/
def withRecordedTrue (kind : OperationKind) : Databases ℕ :=
  match kind.run booleanSerializers firstStep (some true) none freshDatabases with
  | .ok (_, db) => db
  | .error _ => freshDatabases

theorem roundTrips_pickledTrue : pickledTrue.serializer.RoundTrips (some true) :=
  lawful_booleanSerializers.native.2 (some true) "gASILg==" rfl

theorem replaysRecorded_portableStep :
    ∃ replayed, OperationKind.step.run (reconfigured booleanSerializers booleanSerializers.portable)
        firstStep (some true) none (withRecordedTrue .step) =
          .ok (.replayed replayed, withRecordedTrue .step) ∧
      ReplaysRecorded pickledTrue.serializer (some true) replayed := by
  refine (replaysRecorded_iff .step booleanSerializers booleanSerializers.portable firstStep
    (some true) (some true) none none pickledTrue freshDatabases (withRecordedTrue .step)
    (withRecordedTrue .step) rfl roundTrips_pickledTrue ⟨rfl, rfl, _, rfl, by decide⟩).mpr ?_
  intro s hs
  cases hs
  rfl

/-- Every replay decodes with the recording serializer, or raises because it is not available. -/
def AlwaysReplaysRecorded (V α : Type) : Prop :=
  ∀ (kind : OperationKind) (serializers : Serializers V) (configured : Serializer V)
    (step : StepRecord) (value other : V) (source otherSource : Option String)
    (encoding : Encoding V) (db db' db'' : Databases α),
    kind.run serializers step value source db = .ok (.recorded encoding, db') →
      encoding.serializer.RoundTrips value → Kept step db' db'' →
        ∃ replayed, kind.run (reconfigured serializers configured) step other otherSource db'' =
            .ok (.replayed replayed, db'') ∧
          ReplaysRecorded encoding.serializer value replayed

/-- The pickled output of a transaction is parsed as JSON. -/
theorem not_alwaysReplaysRecorded : ¬AlwaysReplaysRecorded (Option Bool) ℕ := by
  intro halways
  obtain ⟨replayed, hrun, hreplays⟩ := halways .transaction booleanSerializers
    booleanSerializers.portable firstStep (some true) (some true) none none pickledTrue
    freshDatabases (withRecordedTrue .transaction) (withRecordedTrue .transaction) rfl
    roundTrips_pickledTrue ⟨rfl, rfl, _, rfl, by decide⟩
  cases hrun
  have hname := congrArg Serializer.name hreplays.1
  exact absurd hname (by decide)

end DBOSModel.Core

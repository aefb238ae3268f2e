import DBOSModel.SysDb.Checkpoint

/-!
# Events and streams of a workflow

`set_event_from_workflow` and `write_stream_from_workflow` of `dbos/_sys_db.py`. Both run in one
transaction with the checkpoint of their step. An event is overwritten and its value kept in the
history under the function ID; a stream value goes to the offset after the largest one, computed by
the insert itself. Inside a step, `set_event_from_step` and `write_stream_from_step` do the same
without a checkpoint, under the function ID of the step.
-/

namespace DBOSModel.SysDb

open Relational

/-- The upserts of an event and of its history entry. -/
def putEvent (workflowUuid : String) (functionId : ℤ) (key serval serialization : String)
    (db : SystemDatabase) : SystemDatabase :=
  { db with
    workflowEvents := db.workflowEvents.upsert
      { workflowUuid := workflowUuid, key := key, value := serval,
        serialization := some serialization }
      (fun row ↦ { row with value := serval, serialization := some serialization })
    workflowEventsHistory := db.workflowEventsHistory.upsert
      { workflowUuid := workflowUuid, key := key, value := serval, functionId := functionId,
        serialization := some serialization }
      (fun row ↦ { row with value := serval, serialization := some serialization }) }

/-- One attempt of `set_event_from_workflow`. -/
def setEventFromWorkflow {V : Type} (serializers : Serializers V) (executorId : Option String)
    (workflowUuid : String) (functionId : ℤ) (key : String) (message : V)
    (serializationType : WorkflowSerializationFormat) (startTime completedAt : ℤ)
    (db : SystemDatabase) : Ending SystemDatabase DBOSError Unit :=
  .ofExcept do
    let (serval, serialization) ← serializers.serializeValue message serializationType
    recordedStep
      ⟨executorId, workflowUuid, functionId, "DBOS.setEvent", startTime, completedAt⟩
      (fun _ ↦ .ok ())
      (fun db ↦ .ok ((), none, putEvent workflowUuid functionId key serval serialization db))
      db

/-- `set_event_from_step`. -/
def setEventFromStep {V : Type} (serializers : Serializers V) (workflowUuid : String)
    (functionId : ℤ) (key : String) (message : V) (serializationType : WorkflowSerializationFormat)
    (db : SystemDatabase) : Ending SystemDatabase DBOSError Unit :=
  .ofExcept do
    let (serval, serialization) ← serializers.serializeValue message serializationType
    if db.hasWorkflow workflowUuid then
      pure ((), putEvent workflowUuid functionId key serval serialization db)
    else
      throw (.foreignKeyViolation "workflow_events")

/-- The offset that `_stream_insert_stmt` computes. -/
def nextOffset (workflowUuid key : String) (db : SystemDatabase) : ℤ :=
  let offsets := (db.streams.rows.filter fun row ↦
    row.workflowUuid = workflowUuid && row.key = key).map StreamRow.offset
  match offsets.max? with
  | none => 0
  | some offset => offset + 1

/-- The insert of `_stream_insert_stmt`. -/
def appendStream (workflowUuid : String) (functionId : ℤ) (key value serialization : String)
    (db : SystemDatabase) : Except DBOSError SystemDatabase :=
  match db.streams.insertNew
      { workflowUuid := workflowUuid, key := key, value := value,
        offset := nextOffset workflowUuid key db, functionId := functionId,
        serialization := some serialization } with
  | some streams => .ok { db with streams := streams }
  | none => .error (.uniqueViolation "streams")

/-- One attempt of `write_stream_from_workflow`; `isClosed` is the comparison with the closed
sentinel. A conflict on the offset comes from a concurrent writer and is an attempt without
effect. -/
def writeStreamFromWorkflow {V : Type} (serializers : Serializers V) (executorId : Option String)
    (isClosed : V → Bool) (workflowUuid : String) (functionId : ℤ) (key : String) (value : V)
    (serializationType : WorkflowSerializationFormat) (startTime completedAt : ℤ)
    (db : SystemDatabase) : Ending SystemDatabase DBOSError Unit :=
  .ofExcept do
    let (serializedValue, serialization) ← serializers.serializeValue value serializationType
    let functionName := if isClosed value then "DBOS.closeStream" else "DBOS.writeStream"
    recordedStep
      ⟨executorId, workflowUuid, functionId, functionName, startTime, completedAt⟩
      (fun _ ↦ .ok ())
      (fun db ↦ do
        let db' ← appendStream workflowUuid functionId key serializedValue serialization db
        pure ((), none, db'))
      db

/-- One attempt of `write_stream_from_step`. Every integrity error, that of a concurrent writer and
that of a missing workflow, is an attempt without effect. -/
def writeStreamFromStep {V : Type} (serializers : Serializers V) (workflowUuid : String)
    (functionId : ℤ) (key : String) (value : V) (serializationType : WorkflowSerializationFormat)
    (db : SystemDatabase) : Ending SystemDatabase DBOSError Unit :=
  .ofExcept do
    let (serializedValue, serialization) ← serializers.serializeValue value serializationType
    if db.hasWorkflow workflowUuid then
      let db' ← appendStream workflowUuid functionId key serializedValue serialization db
      pure ((), db')
    else
      throw (.foreignKeyViolation "streams")

variable {workflowUuid key value serialization : String} {functionId : ℤ} {db db' : SystemDatabase}

/-- The largest offset bounds all, so an append alone on the database is never rejected. -/
theorem exists_appendStream (workflowUuid : String) (functionId : ℤ)
    (key value serialization : String) (db : SystemDatabase) :
    ∃ db', appendStream workflowUuid functionId key value serialization db = .ok db' := by
  unfold appendStream
  split
  · exact ⟨_, rfl⟩
  · rename_i htaken
    obtain ⟨row, hrow, hkey⟩ := Table.insertNew_eq_none.mp htaken
    simp only [StreamRow.primaryKey, Prod.mk.injEq] at hkey
    obtain ⟨hworkflow, hname, hoffset⟩ := hkey
    have hmem : row.offset ∈ (db.streams.rows.filter fun row ↦
        row.workflowUuid = workflowUuid && row.key = key).map StreamRow.offset :=
      List.mem_map_of_mem (List.mem_filter.mpr ⟨hrow, by simp [hworkflow, hname]⟩)
    rw [nextOffset] at hoffset
    split at hoffset
    · rename_i hnone
      rw [List.max?_eq_none_iff.mp hnone] at hmem
      cases hmem
    · rename_i offset hmax
      have hle := (List.max?_eq_some_iff.mp hmax).2 row.offset hmem
      omega

theorem appendStream_eq_ok
    (h : appendStream workflowUuid functionId key value serialization db = .ok db') :
    db' = { db with streams := db'.streams } := by
  unfold appendStream at h
  split at h
  · cases h
    rfl
  · cases h

end DBOSModel.SysDb

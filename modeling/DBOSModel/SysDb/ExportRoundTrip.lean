import DBOSModel.SysDb.Export

/-!
# An export can be imported

An import inserts row by row, so it succeeds when no key is taken twice, no deduplication ID clashes
and each row comes after the status row it refers to. The rows of an export of distinct workflows
meet these conditions in a database without their IDs. The imported workflows then have in the
target what they have in the source, and the same descendants if no other workflow of the target
names one of them as its parent.
-/

namespace DBOSModel.SysDb

open Relational

/-! ## The inserts of an import -/

namespace ImportedRow

def statusRow? : ImportedRow → Option WorkflowStatusRow
  | workflowStatus row => some row
  | _ => none

def operationOutput? : ImportedRow → Option OperationOutputRow
  | operationOutput row => some row
  | _ => none

def workflowEvent? : ImportedRow → Option WorkflowEventRow
  | workflowEvent row => some row
  | _ => none

def workflowEventHistory? : ImportedRow → Option WorkflowEventHistoryRow
  | workflowEventHistory row => some row
  | _ => none

def stream? : ImportedRow → Option StreamRow
  | stream row => some row
  | _ => none

/-- The workflow that the row refers to. -/
def owner? : ImportedRow → Option String
  | workflowStatus _ => none
  | operationOutput row => some row.workflowUuid
  | workflowEvent row => some row.workflowUuid
  | workflowEventHistory row => some row.workflowUuid
  | stream row => some row.workflowUuid

end ImportedRow

open ImportedRow

/-- Every row refers to a known workflow or to one whose status row comes before it. -/
def OwnedFrom : List String → List ImportedRow → Prop
  | _, [] => True
  | known, row :: rest =>
    (∀ id, row.owner? = some id → id ∈ known) ∧
      OwnedFrom (known ++ row.statusRow?.toList.map WorkflowStatusRow.workflowUuid) rest

/-- The rows can be inserted in order. -/
structure Insertable (db : SystemDatabase) (rows : List ImportedRow) : Prop where
  statusKeys :
    ((db.statusRows ++ rows.filterMap statusRow?).map WorkflowStatusRow.workflowUuid).Nodup
  outputKeys :
    ((db.operationOutputs.rows ++ rows.filterMap operationOutput?).map OperationOutputRow.key).Nodup
  eventKeys :
    ((db.workflowEvents.rows ++ rows.filterMap workflowEvent?).map WorkflowEventRow.primaryKey).Nodup
  historyKeys : ((db.workflowEventsHistory.rows ++ rows.filterMap workflowEventHistory?).map
    WorkflowEventHistoryRow.primaryKey).Nodup
  streamKeys : ((db.streams.rows ++ rows.filterMap stream?).map StreamRow.primaryKey).Nodup
  noClash : ∀ other ∈ db.statusRows, ∀ row ∈ rows.filterMap statusRow?,
    ¬SameDeduplication other row
  deduplicated : (rows.filterMap statusRow?).Pairwise fun left right ↦ ¬SameDeduplication left right
  owned : OwnedFrom (db.statusRows.map WorkflowStatusRow.workflowUuid) rows

/-- The second database holds the rows of the first and the new ones. -/
structure Inserted (db : SystemDatabase) (rows : List ImportedRow) (db' : SystemDatabase) :
    Prop where
  statuses : db'.statusRows = db.statusRows ++ rows.filterMap statusRow?
  outputs : db'.operationOutputs.rows = db.operationOutputs.rows ++ rows.filterMap operationOutput?
  events : db'.workflowEvents.rows = db.workflowEvents.rows ++ rows.filterMap workflowEvent?
  history : db'.workflowEventsHistory.rows =
    db.workflowEventsHistory.rows ++ rows.filterMap workflowEventHistory?
  streams : db'.streams.rows = db.streams.rows ++ rows.filterMap stream?

section Insert

variable {db db' db'' : SystemDatabase} {row : ImportedRow} {rows rest : List ImportedRow}

theorem inserted_nil : Inserted db [] db := by
  constructor <;> simp

theorem Inserted.trans (h : Inserted db [row] db') (h' : Inserted db' rest db'') :
    Inserted db (row :: rest) db'' := by
  have hcons {β : Type} (f : ImportedRow → Option β) :
      (row :: rest).filterMap f = [row].filterMap f ++ rest.filterMap f := by
    rw [← List.filterMap_append]
    rfl
  constructor
  · rw [h'.statuses, h.statuses, hcons, List.append_assoc]
  · rw [h'.outputs, h.outputs, hcons, List.append_assoc]
  · rw [h'.events, h.events, hcons, List.append_assoc]
  · rw [h'.history, h.history, hcons, List.append_assoc]
  · rw [h'.streams, h.streams, hcons, List.append_assoc]

/-- After the first insert the other rows can be inserted. -/
theorem Insertable.tail (h : Insertable db (row :: rest)) (hinserted : Inserted db [row] db') :
    Insertable db' rest := by
  have hcons {β : Type} (f : ImportedRow → Option β) :
      (row :: rest).filterMap f = [row].filterMap f ++ rest.filterMap f := by
    rw [← List.filterMap_append]
    rfl
  have hdeduplicated := h.deduplicated
  rw [hcons, List.pairwise_append] at hdeduplicated
  constructor
  · rw [hinserted.statuses, List.append_assoc, ← hcons]
    exact h.statusKeys
  · rw [hinserted.outputs, List.append_assoc, ← hcons]
    exact h.outputKeys
  · rw [hinserted.events, List.append_assoc, ← hcons]
    exact h.eventKeys
  · rw [hinserted.history, List.append_assoc, ← hcons]
    exact h.historyKeys
  · rw [hinserted.streams, List.append_assoc, ← hcons]
    exact h.streamKeys
  · intro other hother new hnew
    rw [hinserted.statuses, List.mem_append] at hother
    rcases hother with hold | hfirst
    · exact h.noClash other hold new (by rw [hcons]; exact List.mem_append_right _ hnew)
    · exact hdeduplicated.2.2 other hfirst new hnew
  · exact hdeduplicated.2.1
  · have hids : [row].filterMap statusRow? = row.statusRow?.toList := by
      cases hstatus : row.statusRow? <;> simp [hstatus]
    rw [hinserted.statuses, List.map_append, hids]
    exact h.owned.2

/-- An insert whose key is not among the rows succeeds. -/
theorem exists_insertNew_of_nodup {κ ρ : Type} [DecidableEq κ] {key : ρ → κ} {table : Table key}
    {new : ρ} {later : List ρ} (h : ((table.rows ++ new :: later).map key).Nodup) :
    ∃ table', table.insertNew new = some table' ∧ table'.rows = table.rows ++ [new] := by
  have hfresh : ∀ old ∈ table.rows, key old ≠ key new := by
    rw [List.map_append, List.nodup_append] at h
    intro old hold
    exact h.2.2 _ (List.mem_map_of_mem hold) _ (by simp)
  obtain ⟨table', hinsert⟩ := table.exists_insertNew (table.lookup_eq_none.mpr hfresh)
  exact ⟨table', hinsert, (Table.insertNew_eq_some.mp hinsert).2⟩

theorem exists_insertOwned {κ ρ : Type} [DecidableEq κ] {key : ρ → κ} {table : Table key}
    {new : ρ} {later : List ρ} (name : String) {workflowId : String}
    (h : ((table.rows ++ new :: later).map key).Nodup)
    (howner : workflowId ∈ db.statusRows.map WorkflowStatusRow.workflowUuid) :
    ∃ table', insertOwned name db workflowId table new = .ok table' ∧
      table'.rows = table.rows ++ [new] := by
  obtain ⟨table', hinsert, hrows⟩ := exists_insertNew_of_nodup h
  have hworkflow : db.hasWorkflow workflowId :=
    SystemDatabase.hasWorkflow_iff.mpr (List.mem_map.mp howner)
  exact ⟨table', by rw [insertOwned, if_pos hworkflow, hinsert], hrows⟩

/-- One insert of the import. -/
theorem exists_insertRow (h : Insertable db (row :: rest)) :
    ∃ db', insertRow db row = .ok db' ∧ Inserted db [row] db' := by
  cases row with
  | workflowStatus new =>
    obtain ⟨table, hinsert, hrows⟩ := exists_insertNew_of_nodup h.statusKeys
    have hclash : (db.statusRows.any fun other ↦ decide (SameDeduplication other new)) = false := by
      rw [← Bool.not_eq_true, List.any_eq_true]
      rintro ⟨other, hother, hsame⟩
      exact h.noClash other hother new List.mem_cons_self (of_decide_eq_true hsame)
    refine ⟨{ db with workflowStatus := table }, ?_, ?_⟩
    · simp only [insertRow, hclash, hinsert, Bool.false_eq_true, if_false]
    · refine ⟨hrows, ?_, ?_, ?_, ?_⟩ <;> exact (List.append_nil _).symm
  | operationOutput new =>
    obtain ⟨table, hinsert, hrows⟩ := exists_insertOwned "operation_outputs" h.outputKeys
      (h.owned.1 _ rfl)
    refine ⟨{ db with operationOutputs := table }, by rw [insertRow, hinsert]; rfl, ?_⟩
    refine ⟨?_, hrows, ?_, ?_, ?_⟩ <;> exact (List.append_nil _).symm
  | workflowEvent new =>
    obtain ⟨table, hinsert, hrows⟩ := exists_insertOwned "workflow_events" h.eventKeys
      (h.owned.1 _ rfl)
    refine ⟨{ db with workflowEvents := table }, by rw [insertRow, hinsert]; rfl, ?_⟩
    refine ⟨?_, ?_, hrows, ?_, ?_⟩ <;> exact (List.append_nil _).symm
  | workflowEventHistory new =>
    obtain ⟨table, hinsert, hrows⟩ := exists_insertOwned "workflow_events_history" h.historyKeys
      (h.owned.1 _ rfl)
    refine ⟨{ db with workflowEventsHistory := table }, by rw [insertRow, hinsert]; rfl, ?_⟩
    refine ⟨?_, ?_, ?_, hrows, ?_⟩ <;> exact (List.append_nil _).symm
  | stream new =>
    obtain ⟨table, hinsert, hrows⟩ := exists_insertOwned "streams" h.streamKeys (h.owned.1 _ rfl)
    refine ⟨{ db with streams := table }, by rw [insertRow, hinsert]; rfl, ?_⟩
    refine ⟨?_, ?_, ?_, ?_, hrows⟩ <;> exact (List.append_nil _).symm

/-- All inserts of the import. -/
theorem exists_insertRows (index : ℕ) (h : Insertable db rows) :
    ∃ db', insertRows (fun _ ↦ none) index rows db = (.ok (), db') ∧ Inserted db rows db' := by
  induction rows generalizing db index with
  | nil => exact ⟨db, rfl, inserted_nil⟩
  | cons row rest ih =>
    obtain ⟨middle, hfirst, hinserted⟩ := exists_insertRow h
    obtain ⟨db', hrest, hall⟩ := ih (index + 1) (h.tail hinserted)
    exact ⟨db', by rw [insertRows, hfirst]; exact hrest, hinserted.trans hall⟩

end Insert

/-! ## The rows of an export -/

section Rows

variable {db source target : SystemDatabase} {rows : List WorkflowStatusRow}

theorem exportAll_of_rows (h : ∀ row ∈ rows, row ∈ db.statusRows) :
    exportAll db (rows.map WorkflowStatusRow.workflowUuid) =
      .ok (rows.map (exportedWorkflow db)) := by
  induction rows with
  | nil => rfl
  | cons row rest ih =>
    have hlookup := db.workflowStatus.lookup_key_of_mem (h row List.mem_cons_self)
    rw [List.map_cons, exportAll, hlookup, ih fun other hother ↦ h other (List.mem_cons_of_mem _ hother)]
    rfl

/-- The status rows of workflows that exist. -/
theorem exists_statusRows {ids : List String} (h : ∀ id ∈ ids, db.hasWorkflow id) :
    ∃ rows : List WorkflowStatusRow, rows.map WorkflowStatusRow.workflowUuid = ids ∧
      ∀ row ∈ rows, row ∈ db.statusRows := by
  induction ids with
  | nil => exact ⟨[], rfl, by simp⟩
  | cons id rest ih =>
    obtain ⟨row, hrow, hid⟩ := SystemDatabase.hasWorkflow_iff.mp (h id List.mem_cons_self)
    obtain ⟨others, hothers, hmem⟩ := ih fun other hother ↦ h other (List.mem_cons_of_mem _ hother)
    refine ⟨row :: others, by rw [List.map_cons, hid, hothers], ?_⟩
    intro other hother
    rcases List.mem_cons.mp hother with rfl | htail
    · exact hrow
    · exact hmem other htail

theorem filterMap_rows {β : Type} (f : ImportedRow → Option β) (workflow : ExportedWorkflow) :
    workflow.rows.filterMap f =
      (f (.workflowStatus (importedStatus workflow.workflowStatus))).toList ++
        (workflow.operationOutputs.filterMap (fun row ↦ f (.operationOutput (importedOutput row))) ++
        workflow.workflowEvents.filterMap (fun row ↦ f (.workflowEvent (importedEvent row))) ++
        workflow.workflowEventsHistory.filterMap
          (fun row ↦ f (.workflowEventHistory (importedHistory row))) ++
        workflow.streams.filterMap fun row ↦ f (.stream (importedStream row))) := by
  rw [ExportedWorkflow.rows, List.filterMap_cons, List.filterMap_append, List.filterMap_append,
    List.filterMap_append, List.filterMap_map, List.filterMap_map, List.filterMap_map,
    List.filterMap_map]
  cases f (.workflowStatus (importedStatus workflow.workflowStatus)) <;> rfl

theorem filterMap_statusRow? (workflow : ExportedWorkflow) :
    workflow.rows.filterMap statusRow? = [importedStatus workflow.workflowStatus] := by
  simp [filterMap_rows, statusRow?]

theorem filterMap_operationOutput? (workflow : ExportedWorkflow) :
    workflow.rows.filterMap operationOutput? = workflow.operationOutputs := by
  simp [filterMap_rows, operationOutput?, importedOutput]

theorem filterMap_workflowEvent? (workflow : ExportedWorkflow) :
    workflow.rows.filterMap workflowEvent? = workflow.workflowEvents := by
  simp [filterMap_rows, workflowEvent?, importedEvent]

theorem filterMap_workflowEventHistory? (workflow : ExportedWorkflow) :
    workflow.rows.filterMap workflowEventHistory? = workflow.workflowEventsHistory := by
  simp [filterMap_rows, workflowEventHistory?, importedHistory]

theorem filterMap_stream? (workflow : ExportedWorkflow) :
    workflow.rows.filterMap stream? = workflow.streams := by
  simp [filterMap_rows, stream?, importedStream]

/-- Rows of known workflows may come first. -/
theorem ownedFrom_append {known : List String} {owned rest : List ImportedRow}
    (h : ∀ row ∈ owned, row.statusRow? = none ∧ ∀ id, row.owner? = some id → id ∈ known)
    (hrest : OwnedFrom known rest) : OwnedFrom known (owned ++ rest) := by
  induction owned with
  | nil => exact hrest
  | cons row others ih =>
    obtain ⟨hstatus, howner⟩ := h row List.mem_cons_self
    refine ⟨howner, ?_⟩
    rw [hstatus, Option.toList_none, List.map_nil, List.append_nil]
    exact ih fun other hother ↦ h other (List.mem_cons_of_mem _ hother)

/-- In an export every row refers to the workflow it was read for. -/
theorem ownedFrom_exported (known : List String) :
    OwnedFrom known ((rows.map (exportedWorkflow source)).flatMap ExportedWorkflow.rows) := by
  induction rows generalizing known with
  | nil => trivial
  | cons row rest ih =>
    refine ⟨by simp [owner?], ?_⟩
    apply ownedFrom_append _ (ih _)
    intro child hchild
    simp only [exportedWorkflow, List.mem_append, List.mem_map, List.mem_filter,
      decide_eq_true_eq, Function.comp_apply] at hchild
    rcases hchild with ((⟨_, ⟨copied, ⟨-, hid⟩, rfl⟩, rfl⟩ | ⟨_, ⟨copied, ⟨-, hid⟩, rfl⟩, rfl⟩) |
        ⟨_, ⟨copied, ⟨-, hid⟩, rfl⟩, rfl⟩) | ⟨_, ⟨copied, ⟨-, hid⟩, rfl⟩, rfl⟩ <;>
      refine ⟨rfl, ?_⟩ <;>
      · rintro id heq
        cases heq
        exact List.mem_append_right _ (List.mem_singleton.mpr hid)

theorem filterMap_flatMap_rows {β : Type} (f : ImportedRow → Option β)
    (g : ExportedWorkflow → List β) (h : ∀ workflow, workflow.rows.filterMap f = g workflow) :
    ((rows.map (exportedWorkflow source)).flatMap ExportedWorkflow.rows).filterMap f =
      rows.flatMap fun row ↦ g (exportedWorkflow source row) := by
  rw [List.filterMap_flatMap, List.flatMap_map]
  congr 1
  funext row
  exact h _

theorem operationOutputs_exportedWorkflow (row : WorkflowStatusRow) :
    (exportedWorkflow db row).operationOutputs =
      db.operationOutputs.rows.filter fun output ↦ output.workflowUuid = row.workflowUuid :=
  List.map_id _

theorem workflowEvents_exportedWorkflow (row : WorkflowStatusRow) :
    (exportedWorkflow db row).workflowEvents =
      db.workflowEvents.rows.filter fun event ↦ event.workflowUuid = row.workflowUuid :=
  List.map_id _

theorem workflowEventsHistory_exportedWorkflow (row : WorkflowStatusRow) :
    (exportedWorkflow db row).workflowEventsHistory =
      db.workflowEventsHistory.rows.filter fun history ↦
        history.workflowUuid = row.workflowUuid :=
  List.map_id _

theorem streams_exportedWorkflow (row : WorkflowStatusRow) :
    (exportedWorkflow db row).streams =
      db.streams.rows.filter fun stream ↦ stream.workflowUuid = row.workflowUuid :=
  List.map_id _

/-- What the inserts of an export add to the five tables. -/
structure Added (source target : SystemDatabase) (rows : List WorkflowStatusRow)
    (target' : SystemDatabase) : Prop where
  statuses : target'.statusRows =
    target.statusRows ++ rows.map fun row ↦ importedStatus (exportedStatus row)
  outputs : target'.operationOutputs.rows = target.operationOutputs.rows ++
    (rows.map WorkflowStatusRow.workflowUuid).flatMap fun id ↦
      source.operationOutputs.rows.filter fun row ↦ row.workflowUuid = id
  events : target'.workflowEvents.rows = target.workflowEvents.rows ++
    (rows.map WorkflowStatusRow.workflowUuid).flatMap fun id ↦
      source.workflowEvents.rows.filter fun row ↦ row.workflowUuid = id
  history : target'.workflowEventsHistory.rows = target.workflowEventsHistory.rows ++
    (rows.map WorkflowStatusRow.workflowUuid).flatMap fun id ↦
      source.workflowEventsHistory.rows.filter fun row ↦ row.workflowUuid = id
  streams : target'.streams.rows = target.streams.rows ++
    (rows.map WorkflowStatusRow.workflowUuid).flatMap fun id ↦
      source.streams.rows.filter fun row ↦ row.workflowUuid = id

theorem statuses_exported :
    ((rows.map (exportedWorkflow source)).flatMap ExportedWorkflow.rows).filterMap statusRow? =
      rows.map fun row ↦ importedStatus (exportedStatus row) := by
  rw [filterMap_flatMap_rows _ _ filterMap_statusRow?]
  exact List.map_eq_flatMap.symm

theorem outputs_exported :
    ((rows.map (exportedWorkflow source)).flatMap ExportedWorkflow.rows).filterMap
        operationOutput? =
      (rows.map WorkflowStatusRow.workflowUuid).flatMap fun id ↦
        source.operationOutputs.rows.filter fun row ↦ row.workflowUuid = id := by
  rw [filterMap_flatMap_rows _ _ filterMap_operationOutput?, List.flatMap_map]
  simp only [operationOutputs_exportedWorkflow]

theorem events_exported :
    ((rows.map (exportedWorkflow source)).flatMap ExportedWorkflow.rows).filterMap workflowEvent? =
      (rows.map WorkflowStatusRow.workflowUuid).flatMap fun id ↦
        source.workflowEvents.rows.filter fun row ↦ row.workflowUuid = id := by
  rw [filterMap_flatMap_rows _ _ filterMap_workflowEvent?, List.flatMap_map]
  simp only [workflowEvents_exportedWorkflow]

theorem history_exported :
    ((rows.map (exportedWorkflow source)).flatMap ExportedWorkflow.rows).filterMap
        workflowEventHistory? =
      (rows.map WorkflowStatusRow.workflowUuid).flatMap fun id ↦
        source.workflowEventsHistory.rows.filter fun row ↦ row.workflowUuid = id := by
  rw [filterMap_flatMap_rows _ _ filterMap_workflowEventHistory?, List.flatMap_map]
  simp only [workflowEventsHistory_exportedWorkflow]

theorem streams_exported :
    ((rows.map (exportedWorkflow source)).flatMap ExportedWorkflow.rows).filterMap stream? =
      (rows.map WorkflowStatusRow.workflowUuid).flatMap fun id ↦
        source.streams.rows.filter fun row ↦ row.workflowUuid = id := by
  rw [filterMap_flatMap_rows _ _ filterMap_stream?, List.flatMap_map]
  simp only [streams_exportedWorkflow]

theorem added_of_inserted {target' : SystemDatabase} (h : Inserted target
    ((rows.map (exportedWorkflow source)).flatMap ExportedWorkflow.rows) target') :
    Added source target rows target' :=
  ⟨statuses_exported ▸ h.statuses, outputs_exported ▸ h.outputs, events_exported ▸ h.events,
    history_exported ▸ h.history, streams_exported ▸ h.streams⟩

/-- The database holds nothing of the workflows. -/
structure HoldsNone (ids : List String) (db : SystemDatabase) : Prop where
  statuses : ∀ row ∈ db.statusRows, row.workflowUuid ∉ ids
  outputs : ∀ row ∈ db.operationOutputs.rows, row.workflowUuid ∉ ids
  events : ∀ row ∈ db.workflowEvents.rows, row.workflowUuid ∉ ids
  history : ∀ row ∈ db.workflowEventsHistory.rows, row.workflowUuid ∉ ids
  streams : ∀ row ∈ db.streams.rows, row.workflowUuid ∉ ids

/-- The unique index on queue and deduplication ID. -/
def DeduplicationUnique (db : SystemDatabase) : Prop :=
  ∀ row ∈ db.statusRows, ∀ other ∈ db.statusRows, SameDeduplication row other → row = other

/-- No imported workflow has the queue and deduplication ID of a workflow of the database. -/
def NoClash (exported : List ExportedWorkflow) (db : SystemDatabase) : Prop :=
  ∀ other ∈ db.statusRows, ∀ workflow ∈ exported,
    ¬SameDeduplication other (importedStatus workflow.workflowStatus)

/-- The rows of an export of distinct workflows can be inserted into a database without them. -/
theorem insertable_exported (hrows : ∀ row ∈ rows, row ∈ source.statusRows)
    (hnodup : (rows.map WorkflowStatusRow.workflowUuid).Nodup) (hunique : DeduplicationUnique source)
    (hnone : HoldsNone (rows.map WorkflowStatusRow.workflowUuid) target)
    (hclash : NoClash (rows.map (exportedWorkflow source)) target) :
    Insertable target ((rows.map (exportedWorkflow source)).flatMap ExportedWorkflow.rows) := by
  constructor
  · rw [statuses_exported, List.map_append, List.map_map, List.nodup_append]
    refine ⟨target.workflowStatus.nodup, hnodup, ?_⟩
    intro id hid other hother heq
    obtain ⟨row, hrow, rfl⟩ := List.mem_map.mp hid
    exact hnone.statuses row hrow (heq ▸ hother)
  · rw [outputs_exported]
    exact Table.nodup_keys_append_owned (fun _ _ h ↦ congrArg Prod.fst h) hnodup hnone.outputs
  · rw [events_exported]
    exact Table.nodup_keys_append_owned (fun _ _ h ↦ congrArg Prod.fst h) hnodup hnone.events
  · rw [history_exported]
    exact Table.nodup_keys_append_owned (fun _ _ h ↦ congrArg Prod.fst h) hnodup hnone.history
  · rw [streams_exported]
    exact Table.nodup_keys_append_owned (fun _ _ h ↦ congrArg Prod.fst h) hnodup hnone.streams
  · rw [statuses_exported]
    intro other hother new hnew
    obtain ⟨row, hrow, rfl⟩ := List.mem_map.mp hnew
    exact hclash other hother _ (List.mem_map_of_mem hrow)
  · rw [statuses_exported, List.pairwise_map]
    refine (List.pairwise_map.mp hnodup).imp_of_mem ?_
    intro left right hleft hright hne hsame
    exact hne (congrArg _ (hunique left (hrows left hleft) right (hrows right hright) hsame))
  · exact ownedFrom_exported _

/-! ## Exporting again -/

/-- The same status dictionary, and the same dictionaries of the other tables as sets. -/
structure SameWorkflow (left right : ExportedWorkflow) : Prop where
  status : left.workflowStatus = right.workflowStatus
  outputs : ∀ row, row ∈ left.operationOutputs ↔ row ∈ right.operationOutputs
  events : ∀ row, row ∈ left.workflowEvents ↔ row ∈ right.workflowEvents
  history : ∀ row, row ∈ left.workflowEventsHistory ↔ row ∈ right.workflowEventsHistory
  streams : ∀ row, row ∈ left.streams ↔ row ∈ right.streams

/-- The same workflows with the same data. -/
def SameExport (left right : List ExportedWorkflow) : Prop :=
  (∀ workflow ∈ left, ∃ other ∈ right, SameWorkflow workflow other) ∧
    ∀ other ∈ right, ∃ workflow ∈ left, SameWorkflow workflow other

variable {target' : SystemDatabase}

/-- The rows of one workflow in one table, exported from the source and from the target. -/
theorem mem_exported_iff {κ ρ : Type} {key : ρ → κ} {source target target' : Table key}
    {owner : ρ → String} {ids : List String} (hfresh : ∀ r ∈ target.rows, owner r ∉ ids)
    (hadded : target'.rows =
      target.rows ++ ids.flatMap fun id ↦ source.rows.filter fun r ↦ owner r = id)
    {id : String} (hid : id ∈ ids) (row : ρ) :
    row ∈ target'.rows.filter (fun r ↦ owner r = id) ↔
      row ∈ source.rows.filter fun r ↦ owner r = id := by
  rw [List.mem_filter, List.mem_filter, decide_eq_true_eq, hadded]
  exact Table.mem_append_owned hfresh hid

/-- An imported workflow is exported as it was in the source. -/
theorem sameWorkflow_of_added (hadded : Added source target rows target')
    (hnone : HoldsNone (rows.map WorkflowStatusRow.workflowUuid) target) {row : WorkflowStatusRow}
    (hrow : row ∈ rows) :
    SameWorkflow (exportedWorkflow target' (importedStatus (exportedStatus row)))
      (exportedWorkflow source row) := by
  have hid : row.workflowUuid ∈ rows.map WorkflowStatusRow.workflowUuid := List.mem_map_of_mem hrow
  refine ⟨rfl, ?_, ?_, ?_, ?_⟩
  · simp only [operationOutputs_exportedWorkflow]
    exact mem_exported_iff hnone.outputs hadded.outputs hid
  · simp only [workflowEvents_exportedWorkflow]
    exact mem_exported_iff hnone.events hadded.events hid
  · simp only [workflowEventsHistory_exportedWorkflow]
    exact mem_exported_iff hnone.history hadded.history hid
  · simp only [streams_exportedWorkflow]
    exact mem_exported_iff hnone.streams hadded.streams hid

/-- The status rows of the imported workflows in the target. -/
theorem mem_statusRows_added (hadded : Added source target rows target')
    (hnone : HoldsNone (rows.map WorkflowStatusRow.workflowUuid) target) {row' : WorkflowStatusRow} :
    row' ∈ target'.statusRows ∧ row'.workflowUuid ∈ rows.map WorkflowStatusRow.workflowUuid ↔
      ∃ row ∈ rows, importedStatus (exportedStatus row) = row' := by
  rw [hadded.statuses, List.mem_append, List.mem_map]
  constructor
  · rintro ⟨hold | hnew, hid⟩
    · exact absurd hid (hnone.statuses row' hold)
    · exact hnew
  · rintro ⟨row, hrow, rfl⟩
    exact ⟨Or.inr ⟨row, hrow, rfl⟩, List.mem_map.mpr ⟨row, hrow, rfl⟩⟩

/-- An export of imported workflows is an export of the same workflows from the source. -/
theorem sameExport_of_added (hadded : Added source target rows target')
    (hnone : HoldsNone (rows.map WorkflowStatusRow.workflowUuid) target)
    (hrows : ∀ row ∈ rows, row ∈ source.statusRows) {ids : List String}
    (hids : ∀ id, id ∈ ids ↔ id ∈ rows.map WorkflowStatusRow.workflowUuid) :
    ∃ again, exportAll target' ids = .ok again ∧
      SameExport again (rows.map (exportedWorkflow source)) := by
  have hpresent : ∀ id ∈ ids, target'.hasWorkflow id := by
    intro id hid
    obtain ⟨row, hrow, rfl⟩ := List.mem_map.mp ((hids id).mp hid)
    have hmem := (mem_statusRows_added hadded hnone).mpr ⟨row, hrow, rfl⟩
    exact SystemDatabase.hasWorkflow_iff.mpr ⟨_, hmem.1, rfl⟩
  obtain ⟨rows', hrowsIds, hrows'⟩ := exists_statusRows hpresent
  have hsame : ∀ row' ∈ rows', ∃ row ∈ rows, importedStatus (exportedStatus row) = row' := by
    intro row' hrow'
    have hid : row'.workflowUuid ∈ ids := hrowsIds ▸ List.mem_map_of_mem hrow'
    exact (mem_statusRows_added hadded hnone).mp ⟨hrows' row' hrow', (hids _).mp hid⟩
  refine ⟨rows'.map (exportedWorkflow target'), by rw [← hrowsIds, exportAll_of_rows hrows'], ?_, ?_⟩
  · intro workflow hworkflow
    obtain ⟨row', hrow', rfl⟩ := List.mem_map.mp hworkflow
    obtain ⟨row, hrow, rfl⟩ := hsame row' hrow'
    exact ⟨_, List.mem_map_of_mem hrow, sameWorkflow_of_added hadded hnone hrow⟩
  · intro other hother
    obtain ⟨row, hrow, rfl⟩ := List.mem_map.mp hother
    have hid : row.workflowUuid ∈ rows'.map WorkflowStatusRow.workflowUuid := by
      rw [hrowsIds, hids]
      exact List.mem_map_of_mem hrow
    obtain ⟨row', hrow', hrowId⟩ := List.mem_map.mp hid
    obtain ⟨copied, hcopied, rfl⟩ := hsame row' hrow'
    have heq : copied = row :=
      source.workflowStatus.eq_of_key (hrows copied hcopied) (hrows row hrow) hrowId
    subst heq
    exact ⟨_, List.mem_map_of_mem hrow', sameWorkflow_of_added hadded hnone hrow⟩

/-- The imported workflows have the children they have in the source. -/
theorem parentOf_added (hadded : Added source target rows target')
    (hrows : ∀ row ∈ rows, row ∈ source.statusRows)
    (hclosed : ∀ parent child, parent ∈ rows.map WorkflowStatusRow.workflowUuid →
      ParentOf source parent child → child ∈ rows.map WorkflowStatusRow.workflowUuid)
    (hparents : ∀ row ∈ target.statusRows, ∀ parent, row.parentWorkflowId = some parent →
      parent ∉ rows.map WorkflowStatusRow.workflowUuid) (parent child : String)
    (hparent : parent ∈ rows.map WorkflowStatusRow.workflowUuid) :
    ParentOf target' parent child ↔ ParentOf source parent child := by
  constructor
  · rintro ⟨row', hrow', hlink, hchild⟩
    rw [hadded.statuses, List.mem_append] at hrow'
    rcases hrow' with hold | hnew
    · exact absurd hparent (hparents row' hold parent hlink)
    · obtain ⟨row, hrow, rfl⟩ := List.mem_map.mp hnew
      exact ⟨row, hrows row hrow, hlink, hchild⟩
  · intro hsource
    obtain ⟨row, hrow, hid⟩ := List.mem_map.mp (hclosed parent child hparent hsource)
    obtain ⟨original, horiginal, hlink, hchild⟩ := hsource
    have heq : original = row :=
      source.workflowStatus.eq_of_key horiginal (hrows row hrow) (hchild.trans hid.symm)
    subst heq
    refine ⟨importedStatus (exportedStatus original), ?_, hlink, hchild⟩
    rw [hadded.statuses, List.mem_append]
    exact Or.inr (List.mem_map_of_mem hrow)

end Rows

/-- An import that fails leaves the database as it was. -/
theorem stateAfter_importWorkflow_of_error {fault : ℕ → Option DBOSError}
    {workflows : List ExportedWorkflow} {db : SystemDatabase} {error : DBOSError}
    (h : (importWorkflow fault workflows db).result = .error error) :
    (importWorkflow fault workflows db).stateAfter db = db := by
  unfold importWorkflow at *
  match hrun : insertRows fault 0 (workflows.flatMap ExportedWorkflow.rows) db with
  | (.ok (), working) =>
    rw [hrun] at h
    cases h
  | (.error _, _) => rfl

/-- A finished workflow with a child that waits in a queue, to be exported as one tree. -/
def parentAndChild : SystemDatabase where
  workflowStatus :=
    { rows :=
        [{ workflowUuid := "parent", status := .success, name := "f", output := some "1" },
          { workflowUuid := "child", status := .enqueued, name := "g", queueName := some "queue",
            deduplicationId := some "key", parentWorkflowId := some "parent" }]
      nodup := by decide }
  operationOutputs :=
    { rows := [{ workflowUuid := "parent", functionId := 1, functionName := "g",
                 childWorkflowId := some "child" }]
      nodup := by decide }
  notifications := Table.empty
  workflowEvents :=
    { rows := [{ workflowUuid := "parent", key := "progress", value := "2" }]
      nodup := by decide }
  workflowEventsHistory :=
    { rows :=
        [{ workflowUuid := "parent", key := "progress", value := "1", functionId := 2 },
          { workflowUuid := "parent", key := "progress", value := "2", functionId := 3 }]
      nodup := by decide }
  streams :=
    { rows :=
        [{ workflowUuid := "parent", key := "log", value := "begin", offset := 0, functionId := 4 },
          { workflowUuid := "parent", key := "log", value := "end", offset := 1, functionId := 5 }]
      nodup := by decide }
  applicationVersions := Table.empty

theorem parentOf_parentAndChild {parent child : String} (h : ParentOf parentAndChild parent child) :
    parent = "parent" ∧ child = "child" := by
  obtain ⟨row, hrow, hparent, hchild⟩ := h
  change row ∈ [_, _] at hrow
  rw [List.mem_pair] at hrow
  rcases hrow with rfl | rfl
  · cases hparent
  · cases hparent
    exact ⟨rfl, hchild.symm⟩

theorem holdsNone_empty (ids : List String) : HoldsNone ids SystemDatabase.empty := by
  constructor <;> exact fun _ h ↦ absurd h List.not_mem_nil

end DBOSModel.SysDb

import DBOSModel.Relational.Execution
import DBOSModel.Relational.Table
import DBOSModel.SysDb.Schema

/-!
# The schedules table

The functions on `workflow_schedules` of `dbos/_sys_db.py`, and the transaction of `apply_schedules`
of `dbos/_dbos.py`, whose checks of its arguments come before. Schedules are known by their name to
the callers and by their ID to the scheduler loop; both are unique.

Applying a list of definitions changes the definitions of existing schedules and nothing else of
them, and applying the same definitions again changes nothing, even where they name a schedule
twice.
-/

namespace DBOSModel.Scheduler

open Relational SysDb

/-- A row of `workflow_schedules`. -/
structure WorkflowSchedule where
  scheduleId : String
  scheduleName : String
  workflowName : String
  workflowClassName : Option String := none
  schedule : String
  status : String := "ACTIVE"
  /-- The serialized context. -/
  context : String
  lastFiredAt : Option String := none
  automaticBackfill : Bool := false
  cronTimezone : Option String := none
  queueName : Option String := none
deriving DecidableEq

/-- What no statement changes of a row. -/
def WorkflowSchedule.identity (schedule : WorkflowSchedule) : String × String :=
  (schedule.scheduleId, schedule.scheduleName)

/-- The two unique columns. -/
structure SchedulesTable where
  table : Table WorkflowSchedule.scheduleName
  ids_nodup : (table.rows.map WorkflowSchedule.scheduleId).Nodup

namespace SchedulesTable

variable (t : SchedulesTable)

def rows : List WorkflowSchedule := t.table.rows

def empty : SchedulesTable where
  table := .empty
  ids_nodup := List.nodup_nil

/-- `INSERT`, unless the ID or the name is taken. -/
def insert (schedule : WorkflowSchedule) : Option SchedulesTable :=
  if hid : schedule.scheduleId ∈ t.rows.map WorkflowSchedule.scheduleId then none
  else
    match h : t.table.insertNew schedule with
    | none => none
    | some table => some
      { table := table
        ids_nodup := by
          rw [(Table.insertNew_eq_some.mp h).2, List.map_append, List.nodup_append]
          refine ⟨t.ids_nodup, by simp, ?_⟩
          intro id hmem id' hmem'
          simp only [List.map_cons, List.map_nil, List.mem_singleton] at hmem'
          rintro rfl
          exact hid (hmem' ▸ hmem) }

/-- `UPDATE` of the row with a name, which keeps the name and the ID. -/
def update (name : String) (f : WorkflowSchedule → WorkflowSchedule)
    (hf : ∀ row, (f row).identity = row.identity) : SchedulesTable where
  table := t.table.update (fun row ↦ row.scheduleName = name) f
    fun row ↦ congrArg Prod.snd (hf row)
  ids_nodup := by
    have hids : (t.table.update (fun row ↦ row.scheduleName = name) f
        fun row ↦ congrArg Prod.snd (hf row)).rows.map WorkflowSchedule.scheduleId =
          t.table.rows.map WorkflowSchedule.scheduleId := by
      unfold Table.update
      rw [List.map_map]
      apply List.map_congr_left
      intro row _
      simp only [Function.comp_apply]
      split
      · exact congrArg Prod.fst (hf row)
      · rfl
    rw [hids]
    exact t.ids_nodup

end SchedulesTable

/-- `create_schedule`. -/
def createSchedule (schedule : WorkflowSchedule) (t : SchedulesTable) :
    Except DBOSError SchedulesTable :=
  match t.insert schedule with
  | some t' => .ok t'
  | none => .error (.dbosException ("Schedule '" ++ schedule.scheduleName ++ "' already exists"))

/-- The columns that `upsert_schedule` sets on conflict. -/
def WorkflowSchedule.redefine (schedule old : WorkflowSchedule) : WorkflowSchedule :=
  { old with
    workflowName := schedule.workflowName
    workflowClassName := schedule.workflowClassName
    schedule := schedule.schedule
    context := schedule.context
    automaticBackfill := schedule.automaticBackfill
    cronTimezone := schedule.cronTimezone
    queueName := schedule.queueName }

theorem identity_redefine (schedule row : WorkflowSchedule) :
    (schedule.redefine row).identity = row.identity := rfl

/-- `upsert_schedule`: only a taken name is handled. -/
def upsertSchedule (t : SchedulesTable) (schedule : WorkflowSchedule) :
    Except DBOSError SchedulesTable :=
  if schedule.scheduleName ∈ t.rows.map WorkflowSchedule.scheduleName then
    .ok (t.update schedule.scheduleName schedule.redefine (identity_redefine schedule))
  else
    match t.insert schedule with
    | some t' => .ok t'
    | none => .error (.uniqueViolation "workflow_schedules")

/-- The transaction of `apply_schedules`: an exception rolls it back. -/
def applySchedules (schedules : List WorkflowSchedule) (t : SchedulesTable) :
    Except DBOSError SchedulesTable :=
  schedules.foldlM upsertSchedule t

/-- `get_schedule`. -/
def getSchedule (name : String) (t : SchedulesTable) : Option WorkflowSchedule :=
  t.table.lookup name

def WorkflowSchedule.setStatus (status : String) (row : WorkflowSchedule) : WorkflowSchedule :=
  { row with status := status }

theorem identity_setStatus (status : String) (row : WorkflowSchedule) :
    (row.setStatus status).identity = row.identity := rfl

/-- `_set_schedule_status`. -/
def setScheduleStatus (name status : String) (t : SchedulesTable) : SchedulesTable :=
  t.update name (WorkflowSchedule.setStatus status) (identity_setStatus status)

def pauseSchedule (name : String) : SchedulesTable → SchedulesTable :=
  setScheduleStatus name "PAUSED"

def resumeSchedule (name : String) : SchedulesTable → SchedulesTable :=
  setScheduleStatus name "ACTIVE"

def WorkflowSchedule.setLastFiredAt (lastFiredAt : String) (row : WorkflowSchedule) :
    WorkflowSchedule :=
  { row with lastFiredAt := some lastFiredAt }

theorem identity_setLastFiredAt (lastFiredAt : String) (row : WorkflowSchedule) :
    (row.setLastFiredAt lastFiredAt).identity = row.identity := rfl

def updateLastFiredAt (name lastFiredAt : String) (t : SchedulesTable) : SchedulesTable :=
  t.update name (WorkflowSchedule.setLastFiredAt lastFiredAt) (identity_setLastFiredAt lastFiredAt)

/-- `delete_schedule`. -/
def deleteSchedule (name : String) (t : SchedulesTable) : SchedulesTable where
  table := t.table.delete fun row ↦ row.scheduleName = name
  ids_nodup := (List.filter_sublist.map WorkflowSchedule.scheduleId).nodup t.ids_nodup

/-! ## What the statements leave -/

section Rows

variable {t t' : SchedulesTable} {schedule row : WorkflowSchedule} {name : String}

theorem SchedulesTable.ext_rows (h : t.rows = t'.rows) : t = t' := by
  cases t with
  | mk table ids =>
    cases t' with
    | mk table' ids' =>
      obtain rfl : table = table' := Table.ext h
      rfl

theorem rows_insert (h : t.insert schedule = some t') : t'.rows = t.rows ++ [schedule] := by
  unfold SchedulesTable.insert at h
  split at h
  · exact absurd h (by simp)
  · split at h
    · exact absurd h (by simp)
    · rename_i table hinsert
      cases h
      exact (Table.insertNew_eq_some.mp hinsert).2

theorem rows_update {f : WorkflowSchedule → WorkflowSchedule}
    {hf : ∀ row, (f row).identity = row.identity} :
    (t.update name f hf).rows =
      t.rows.map fun row ↦ if row.scheduleName = name then f row else row := by
  unfold SchedulesTable.update SchedulesTable.rows Table.update
  simp

theorem mem_identity_update {f : WorkflowSchedule → WorkflowSchedule}
    (hf : ∀ row, (f row).identity = row.identity) (h : row ∈ (t.update name f hf).rows) :
    row.identity ∈ t.rows.map WorkflowSchedule.identity := by
  rw [rows_update] at h
  obtain ⟨old, hold, rfl⟩ := List.mem_map.1 h
  rw [List.mem_map]
  refine ⟨old, hold, ?_⟩
  split
  · exact (hf old).symm
  · rfl

theorem rows_deleteSchedule :
    (deleteSchedule name t).rows = t.rows.filter fun row ↦ !decide (row.scheduleName = name) := rfl

end Rows

/-! ## Applying definitions -/

/-- The definition that a list of schedules leaves a row with: the last one of its name. -/
def redefineAll (schedules : List WorkflowSchedule) (row : WorkflowSchedule) : WorkflowSchedule :=
  match schedules.reverse.find? fun schedule ↦ schedule.scheduleName = row.scheduleName with
  | none => row
  | some schedule => schedule.redefine row

section Apply

variable {t t' : SchedulesTable} {schedules : List WorkflowSchedule}
  {schedule row : WorkflowSchedule}

theorem redefineAll_nil : redefineAll [] row = row := rfl

theorem redefineAll_concat :
    redefineAll (schedules ++ [schedule]) row =
      if schedule.scheduleName = row.scheduleName then schedule.redefine row
      else redefineAll schedules row := by
  unfold redefineAll
  rw [List.reverse_append, List.reverse_singleton, List.singleton_append, List.find?_cons]
  by_cases h : schedule.scheduleName = row.scheduleName
  · simp [h]
  · simp [h]

theorem redefineAll_singleton :
    redefineAll [schedule] row =
      if schedule.scheduleName = row.scheduleName then schedule.redefine row else row := by
  rw [← List.nil_append [schedule], redefineAll_concat, redefineAll_nil]

theorem scheduleName_redefineAll : (redefineAll schedules row).scheduleName = row.scheduleName := by
  unfold redefineAll
  split <;> rfl

/-- What a schedule is defined to do: all but its ID and what happens to it. -/
def WorkflowSchedule.definition (schedule : WorkflowSchedule) : WorkflowSchedule :=
  { schedule with scheduleId := "", status := "ACTIVE", lastFiredAt := none }

theorem redefineAll_definition :
    redefineAll (schedules.map WorkflowSchedule.definition) row = redefineAll schedules row := by
  induction schedules using List.reverseRecOn with
  | nil => rfl
  | append_singleton rest schedule ih =>
    rw [List.map_append, List.map_singleton, redefineAll_concat, redefineAll_concat, ih]
    rfl
theorem applySchedules_concat :
    applySchedules (schedules ++ [schedule]) t =
      (applySchedules schedules t).bind fun t' ↦ upsertSchedule t' schedule := by
  unfold applySchedules
  rw [List.foldlM_append]
  simp only [List.foldlM_cons, List.foldlM_nil, bind_pure]
  rfl

theorem map_scheduleName_redefineAll (rows : List WorkflowSchedule) :
    (rows.map (redefineAll schedules)).map WorkflowSchedule.scheduleName =
      rows.map WorkflowSchedule.scheduleName := by
  rw [List.map_map]
  apply List.map_congr_left
  intro row _
  exact scheduleName_redefineAll

/-- Definitions of schedules that there are. -/
theorem applySchedules_of_names
    (h : ∀ schedule ∈ schedules,
      schedule.scheduleName ∈ t.rows.map WorkflowSchedule.scheduleName) :
    ∃ t', applySchedules schedules t = .ok t' ∧ t'.rows = t.rows.map (redefineAll schedules) := by
  induction schedules using List.reverseRecOn with
  | nil =>
    refine ⟨t, rfl, ?_⟩
    have hid : redefineAll [] = id := rfl
    rw [hid, List.map_id]
  | append_singleton rest schedule ih =>
    have hmem : schedule.scheduleName ∈ t.rows.map WorkflowSchedule.scheduleName :=
      h schedule (by simp)
    obtain ⟨t₁, happly, hrows⟩ := ih fun other hother ↦ h other (List.mem_append_left _ hother)
    have htaken : schedule.scheduleName ∈ t₁.rows.map WorkflowSchedule.scheduleName := by
      rw [hrows, map_scheduleName_redefineAll]
      exact hmem
    refine ⟨t₁.update schedule.scheduleName schedule.redefine (identity_redefine schedule), ?_, ?_⟩
    · rw [applySchedules_concat, happly]
      exact if_pos htaken
    · rw [rows_update, hrows, List.map_map]
      apply List.map_congr_left
      intro row _
      rw [redefineAll_concat, Function.comp_apply, scheduleName_redefineAll]
      by_cases hname : row.scheduleName = schedule.scheduleName
      · rw [if_pos hname, if_pos hname.symm]
        unfold redefineAll
        split <;> rfl
      · rw [if_neg hname, if_neg (Ne.symm hname)]

/-- What an upsert leaves: the rows with the new definition, and the row itself if it is new. -/
theorem upsertSchedule_rows (h : upsertSchedule t schedule = .ok t') :
    ∃ new, t'.rows = t.rows.map (redefineAll [schedule]) ++ new ∧
      (new = [] ∧ schedule.scheduleName ∈ t.rows.map WorkflowSchedule.scheduleName ∨
        new = [schedule] ∧ schedule.scheduleName ∉ t.rows.map WorkflowSchedule.scheduleName) := by
  unfold upsertSchedule at h
  split at h
  · rename_i htaken
    cases h
    refine ⟨[], ?_, Or.inl ⟨rfl, htaken⟩⟩
    rw [rows_update, List.append_nil]
    apply List.map_congr_left
    intro row _
    rw [redefineAll_singleton]
    simp only [eq_comm]
  · rename_i hfree
    split at h
    · rename_i t₁ hinsert
      cases h
      refine ⟨[schedule], ?_, Or.inr ⟨rfl, hfree⟩⟩
      rw [rows_insert hinsert]
      congr 1
      rw [eq_comm]
      refine (List.map_congr_left fun row hmem ↦ ?_).trans (List.map_id _)
      rw [redefineAll_singleton, if_neg, id]
      intro hname
      exact hfree (hname ▸ List.mem_map_of_mem hmem)
    · exact absurd h (by simp)

/-- What a transaction leaves: the rows with their new definitions, and rows that already have
theirs. -/
theorem applySchedules_rows (h : applySchedules schedules t = .ok t') :
    (∀ row ∈ t'.rows, redefineAll schedules row = row) ∧
      (∀ schedule ∈ schedules,
        schedule.scheduleName ∈ t'.rows.map WorkflowSchedule.scheduleName) ∧
      ∃ new, t'.rows = t.rows.map (redefineAll schedules) ++ new ∧
        ∀ row ∈ new, row.scheduleName ∉ t.rows.map WorkflowSchedule.scheduleName := by
  induction schedules using List.reverseRecOn generalizing t' with
  | nil =>
    obtain rfl : t = t' := Except.ok.inj h
    exact ⟨fun _ _ ↦ rfl, by simp, [], by simp [show redefineAll [] = id from rfl], by simp⟩
  | append_singleton rest schedule ih =>
    rw [applySchedules_concat] at h
    cases happly : applySchedules rest t with
    | error error => simp [happly, Except.bind] at h
    | ok t₁ =>
      rw [happly] at h
      obtain ⟨hkept, hnames, new, hrows, hfresh⟩ := ih happly
      obtain ⟨added, hrows', hadded⟩ := upsertSchedule_rows h
      have hsame : ∀ row : WorkflowSchedule, redefineAll rest row = row →
          redefineAll (rest ++ [schedule]) row = redefineAll [schedule] row := by
        intro row hrow
        rw [redefineAll_concat, redefineAll_singleton, hrow]
      refine ⟨?_, ?_, ?_⟩
      · intro row hmem
        rw [hrows', List.mem_append] at hmem
        rcases hmem with hmem | hmem
        · obtain ⟨old, hold, rfl⟩ := List.mem_map.1 hmem
          rw [redefineAll_concat, scheduleName_redefineAll, redefineAll_singleton]
          split
          · rfl
          · exact hkept old hold
        · rcases hadded with ⟨rfl, -⟩ | ⟨rfl, -⟩
          · exact absurd hmem List.not_mem_nil
          · obtain rfl := List.mem_singleton.1 hmem
            rw [redefineAll_concat, if_pos rfl]
            rfl
      · intro other hother
        rw [hrows', List.map_append, map_scheduleName_redefineAll]
        rcases List.mem_append.1 hother with hother | hother
        · exact List.mem_append_left _ (hnames other hother)
        · obtain rfl := List.mem_singleton.1 hother
          rcases hadded with ⟨-, htaken⟩ | ⟨rfl, -⟩
          · exact List.mem_append_left _ htaken
          · exact List.mem_append_right _ (by simp)
      · refine ⟨new.map (redefineAll [schedule]) ++ added, ?_, ?_⟩
        · rw [hrows', hrows, List.map_append, List.map_map, List.append_assoc]
          congr 1
          apply List.map_congr_left
          intro row _
          rw [Function.comp_apply, redefineAll_singleton, scheduleName_redefineAll,
            redefineAll_concat]
          by_cases hname : schedule.scheduleName = row.scheduleName
          · rw [if_pos hname, if_pos hname]
            unfold redefineAll
            split <;> rfl
          · rw [if_neg hname, if_neg hname]
        · intro row hmem
          rcases List.mem_append.1 hmem with hmem | hmem
          · obtain ⟨old, hold, rfl⟩ := List.mem_map.1 hmem
            rw [scheduleName_redefineAll]
            exact hfresh old hold
          · rcases hadded with ⟨rfl, -⟩ | ⟨rfl, hfree⟩
            · exact absurd hmem List.not_mem_nil
            · obtain rfl := List.mem_singleton.1 hmem
              intro htaken
              apply hfree
              rw [hrows, List.map_append, map_scheduleName_redefineAll]
              exact List.mem_append_left _ htaken

/-- `apply_schedules` gives every schedule that there was the last definition of its name and leaves
all else of it, adds schedules under new names only, and does nothing when it is called again with
the same definitions, whatever IDs are generated for them. -/
theorem applySchedules_again (h : applySchedules schedules t = .ok t') :
    (∃ new, t'.rows = t.rows.map (redefineAll schedules) ++ new ∧
      ∀ row ∈ new, row.scheduleName ∉ t.rows.map WorkflowSchedule.scheduleName) ∧
      ∀ schedules' : List WorkflowSchedule,
        schedules'.map WorkflowSchedule.definition = schedules.map WorkflowSchedule.definition →
          applySchedules schedules' t' = .ok t' := by
  obtain ⟨hkept, hnames, hrows⟩ := applySchedules_rows h
  refine ⟨hrows, fun schedules' hsame ↦ ?_⟩
  have hnames' : ∀ schedule ∈ schedules',
      schedule.scheduleName ∈ t'.rows.map WorkflowSchedule.scheduleName := by
    intro schedule hmem
    have hdefinition : schedule.definition ∈ schedules.map WorkflowSchedule.definition :=
      hsame ▸ List.mem_map_of_mem hmem
    obtain ⟨other, hother, heq⟩ := List.mem_map.1 hdefinition
    have hname := congrArg WorkflowSchedule.scheduleName heq
    change other.scheduleName = schedule.scheduleName at hname
    rw [← hname]
    exact hnames other hother
  obtain ⟨t'', happly, hrows''⟩ := applySchedules_of_names hnames'
  rw [happly]
  congr 1
  apply SchedulesTable.ext_rows
  rw [hrows'']
  refine (List.map_congr_left fun row hmem ↦ ?_).trans (List.map_id _)
  rw [← redefineAll_definition, hsame, redefineAll_definition]
  exact hkept row hmem

end Apply

/-- A schedule that is deployed twice in one list. -/
def nightly : List WorkflowSchedule :=
  [{ scheduleId := "id-1", scheduleName := "nightly", workflowName := "report"
     schedule := "0 0 * * *", context := "null" },
   { scheduleId := "id-2", scheduleName := "nightly", workflowName := "report"
     schedule := "0 1 * * *", context := "null" }]

/-- The second definition, under the first ID. -/
def deployed : SchedulesTable where
  table :=
    { rows :=
        [{ scheduleId := "id-1", scheduleName := "nightly", workflowName := "report"
           schedule := "0 1 * * *", context := "null" }]
      nodup := by decide }
  ids_nodup := by decide

theorem applySchedules_again_nightly :
    (∃ new, deployed.rows = SchedulesTable.empty.rows.map (redefineAll nightly) ++ new ∧
      ∀ row ∈ new, row.scheduleName ∉
        SchedulesTable.empty.rows.map WorkflowSchedule.scheduleName) ∧
      ∀ schedules' : List WorkflowSchedule,
        schedules'.map WorkflowSchedule.definition = nightly.map WorkflowSchedule.definition →
          applySchedules schedules' deployed = .ok deployed :=
  applySchedules_again (by rfl : applySchedules nightly .empty = .ok deployed)

end DBOSModel.Scheduler

import DBOSModel.SysDb.WorkflowData

/-!
# Events and their history

`workflow_events` keeps the value that was written last, `workflow_events_history` one value for
each function ID. A fork takes its events from the history, so the event of a key must be the entry
with the greatest function ID. A write that comes after one with a greater function ID breaks this:
`set_event_from_step` and `set_event_from_workflow` overwrite the event whatever the function ID.
-/

namespace DBOSModel.SysDb

open Relational DBOSModel.Core

/-- No entry of the history of the same event has a greater function ID. -/
def IsLast (db : SystemDatabase) (last : WorkflowEventHistoryRow) : Prop :=
  ∀ other ∈ db.workflowEventsHistory.rows, other.workflowUuid = last.workflowUuid →
    other.key = last.key → other.functionId ≤ last.functionId

/-- The current events are the last entries of the history. -/
def EventsAgree (db : SystemDatabase) : Prop :=
  ∀ event, event ∈ db.workflowEvents.rows ↔ ∃ last ∈ db.workflowEventsHistory.rows,
    IsLast db last ∧ event = ⟨last.workflowUuid, last.key, last.value, last.serialization⟩

/-- An event that the step writes comes after the entries of its history. -/
def SetsInOrder {V : Type} (db : SystemDatabase) (action : DataAction V) : Prop :=
  ∀ write ∈ action.eventWrite db, ∀ row ∈ db.workflowEventsHistory.rows,
    row.workflowUuid = write.workflowUuid → row.key = write.key →
      row.functionId ≤ write.functionId

/-- The events of a batch that the step forks are apart. -/
def ForksApart {V : Type} (db : SystemDatabase) (action : DataAction V) : Prop :=
  ∀ call ∈ action.forkCall, EventsApart call db

instance {V : Type} (db : SystemDatabase) (action : DataAction V) :
    Decidable (SetsInOrder db action) :=
  inferInstanceAs (Decidable (∀ write ∈ action.eventWrite db, _))

section Step

variable {V : Type} {serializers : Serializers V} {isClosed : V → Bool} {db db' : SystemDatabase}
  {action : DataAction V}

theorem EventsAgree.of_tables (h : EventsAgree db)
    (hhistory : db'.workflowEventsHistory = db.workflowEventsHistory)
    (hevents : db'.workflowEvents = db.workflowEvents) : EventsAgree db' := by
  intro event
  unfold IsLast
  rw [hhistory, hevents]
  exact h event

theorem isLast_congr {last : WorkflowEventHistoryRow}
    (hhistory : ∀ row, row.workflowUuid = last.workflowUuid →
      (row ∈ db'.workflowEventsHistory.rows ↔ row ∈ db.workflowEventsHistory.rows)) :
    IsLast db' last ↔ IsLast db last := by
  constructor
  · intro hlast other hmem huuid hkey
    exact hlast other ((hhistory other huuid).mpr hmem) huuid hkey
  · intro hlast other hmem huuid hkey
    exact hlast other ((hhistory other huuid).mp hmem) huuid hkey

/-- The last entries of a workflow depend on its own history only. -/
theorem exists_isLast_congr {event : WorkflowEventRow}
    (hhistory : ∀ row, row.workflowUuid = event.workflowUuid →
      (row ∈ db'.workflowEventsHistory.rows ↔ row ∈ db.workflowEventsHistory.rows)) :
    (∃ last ∈ db'.workflowEventsHistory.rows, IsLast db' last ∧
        event = ⟨last.workflowUuid, last.key, last.value, last.serialization⟩) ↔
      ∃ last ∈ db.workflowEventsHistory.rows, IsLast db last ∧
        event = ⟨last.workflowUuid, last.key, last.value, last.serialization⟩ := by
  constructor
  · rintro ⟨last, hmem, hlast, rfl⟩
    exact ⟨last, (hhistory last rfl).mp hmem, (isLast_congr hhistory).mp hlast, rfl⟩
  · rintro ⟨last, hmem, hlast, rfl⟩
    exact ⟨last, (hhistory last rfl).mpr hmem, (isLast_congr hhistory).mpr hlast, rfl⟩

section Put

variable {workflowUuid key : String} {functionId : ℤ}

/-- The last entries after a write in order: the new one, and those of the other events. -/
theorem isLast_putEvent_iff (serval serialization : String) {last : WorkflowEventHistoryRow}
    (horder : ∀ row ∈ db.workflowEventsHistory.rows, row.workflowUuid = workflowUuid →
      row.key = key → row.functionId ≤ functionId) :
    (last ∈ (putEvent workflowUuid functionId key serval serialization
        db).workflowEventsHistory.rows ∧
      IsLast (putEvent workflowUuid functionId key serval serialization db) last) ↔
      (last ∈ db.workflowEventsHistory.rows ∧ IsLast db last ∧
        (last.workflowUuid, last.key) ≠ (workflowUuid, key)) ∨
      last = ⟨workflowUuid, key, serval, functionId, some serialization⟩ := by
  have hnew : (⟨workflowUuid, key, serval, functionId, some serialization⟩ :
      WorkflowEventHistoryRow) ∈ (putEvent workflowUuid functionId key serval serialization
        db).workflowEventsHistory.rows := mem_history_putEvent.mpr (Or.inr rfl)
  constructor
  · rintro ⟨hmem, hlast⟩
    rcases mem_history_putEvent.mp hmem with ⟨hold, hne⟩ | hsame
    · left
      refine ⟨hold, ?_, ?_⟩
      · intro other hother huuid hname
        by_cases hreplaced : other.primaryKey = (workflowUuid, key, functionId)
        · obtain ⟨huuid', hname', hid⟩ := by
            simpa [WorkflowEventHistoryRow.primaryKey] using hreplaced
          have hle := hlast _ hnew (huuid'.symm.trans huuid) (hname'.symm.trans hname)
          rw [hid]
          exact hle
        · exact hlast other (mem_history_putEvent.mpr (Or.inl ⟨hother, hreplaced⟩)) huuid hname
      · intro hkey
        obtain ⟨huuid, hname⟩ := Prod.mk.inj hkey
        have hle := hlast _ hnew huuid.symm hname.symm
        have hid : last.functionId = functionId := le_antisymm (horder last hold huuid hname) hle
        apply hne
        rw [WorkflowEventHistoryRow.primaryKey, huuid, hname, hid]
    · exact Or.inr hsame
  · rintro (⟨hold, hlast, hne⟩ | rfl)
    · refine ⟨mem_history_putEvent.mpr (Or.inl ⟨hold, ?_⟩), ?_⟩
      · intro hkey
        obtain ⟨huuid, hname, -⟩ := by simpa [WorkflowEventHistoryRow.primaryKey] using hkey
        exact hne (by rw [huuid, hname])
      · intro other hother huuid hname
        rcases mem_history_putEvent.mp hother with ⟨hother, -⟩ | rfl
        · exact hlast other hother huuid hname
        · exact absurd (Prod.ext huuid.symm hname.symm) hne
    · refine ⟨hnew, ?_⟩
      intro other hother huuid hname
      rcases mem_history_putEvent.mp hother with ⟨hother, -⟩ | rfl
      · exact horder other hother huuid hname
      · exact le_refl _

theorem eventsAgree_putEvent (serval serialization : String) (h : EventsAgree db)
    (horder : ∀ row ∈ db.workflowEventsHistory.rows, row.workflowUuid = workflowUuid →
      row.key = key → row.functionId ≤ functionId) :
    EventsAgree (putEvent workflowUuid functionId key serval serialization db) := by
  intro event
  rw [mem_events_putEvent, h event]
  constructor
  · rintro (⟨⟨last, hmem, hlast, rfl⟩, hne⟩ | rfl)
    · have hafter := (isLast_putEvent_iff serval serialization horder).mpr
        (Or.inl ⟨hmem, hlast, hne⟩)
      exact ⟨last, hafter.1, hafter.2, rfl⟩
    · have hafter := (isLast_putEvent_iff serval serialization horder).mpr (Or.inr rfl)
      exact ⟨_, hafter.1, hafter.2, rfl⟩
  · rintro ⟨last, hmem, hlast, rfl⟩
    rcases (isLast_putEvent_iff serval serialization horder).mp ⟨hmem, hlast⟩ with ⟨hold, hlast, hne⟩ | rfl
    · exact Or.inl ⟨⟨last, hold, hlast, rfl⟩, hne⟩
    · exact Or.inr rfl

end Put

/-- A deletion takes the events of a workflow and their history. -/
theorem eventsAgree_deleteStatusWhere (h : EventsAgree db) (hintegral : Integral db)
    (p : WorkflowStatusRow → Bool) : EventsAgree (db.deleteStatusWhere p) := by
  have hhistory : ∀ row, row ∈ (db.deleteStatusWhere p).workflowEventsHistory.rows ↔
      row ∈ db.workflowEventsHistory.rows ∧
        (db.deleteStatusWhere p).hasWorkflow row.workflowUuid = true :=
    fun row ↦ mem_cascade fun row hrow ↦ (hintegral.history row hrow).1
  intro event
  have hevents : event ∈ (db.deleteStatusWhere p).workflowEvents.rows ↔
      event ∈ db.workflowEvents.rows ∧
        (db.deleteStatusWhere p).hasWorkflow event.workflowUuid = true :=
    mem_cascade hintegral.events
  rw [hevents]
  by_cases hkept : (db.deleteStatusWhere p).hasWorkflow event.workflowUuid = true
  · have hsame : ∀ row, row.workflowUuid = event.workflowUuid →
        (row ∈ (db.deleteStatusWhere p).workflowEventsHistory.rows ↔
          row ∈ db.workflowEventsHistory.rows) := by
      intro row huuid
      rw [hhistory row, huuid]
      exact and_iff_left hkept
    rw [exists_isLast_congr hsame, ← h event]
    exact and_iff_left hkept
  · constructor
    · intro hevent
      exact absurd hevent.2 hkept
    · rintro ⟨last, hmem, -, rfl⟩
      exact absurd ((hhistory last).mp hmem).2 hkept

/-- The events of a fork are the last entries of its history, and the other workflows keep both. -/
theorem eventsAgree_forked {call : ForkCall} {now : ℤ} (h : EventsAgree db)
    (hintegral : Integral db) (hfresh : FreshBatch call db) (hforked : Forked call now db db')
    (hapart : EventsApart call db) : EventsAgree db' := by
  have hothers := leavesOthers hforked
  intro event
  by_cases hfork : event.workflowUuid ∈ call.entries.map ForkEntry.forkedWorkflowId
  · obtain ⟨entry, hentry, huuid⟩ := List.mem_map.mp hfork
    have hevents := events_forked hintegral hfresh hforked hapart hentry event
    constructor
    · intro hevent
      obtain ⟨last, hmem, howner, hmax, heq⟩ := hevents.mp ⟨hevent, huuid.symm⟩
      refine ⟨last, hmem, ?_, ?_⟩
      · intro other hother hsame hkey
        exact hmax other hother (hsame.trans howner) hkey
      · rw [heq, howner]
    · rintro ⟨last, hmem, hmax, rfl⟩
      have howner : last.workflowUuid = entry.forkedWorkflowId := huuid.symm
      refine (hevents.mpr ⟨last, hmem, howner, ?_, by rw [howner]⟩).1
      intro other hother hsame hkey
      exact hmax other hother (hsame.trans howner.symm) hkey
  · rw [hothers.events event hfork, h event]
    have hsame : ∀ row, row.workflowUuid = event.workflowUuid →
        (row ∈ db'.workflowEventsHistory.rows ↔ row ∈ db.workflowEventsHistory.rows) := by
      intro row huuid
      rw [← huuid] at hfork
      exact hothers.history row hfork
    exact (exists_isLast_congr hsame).symm

theorem eventsAgree_step (h : EventsAgree db) (hintegral : Integral db)
    (horder : SetsInOrder db action) (hapart : ForksApart db action)
    (hstep : (dataSystem serializers isClosed).step db action = some db') : EventsAgree db' := by
  cases dataEffect_of_step hstep with
  | quiet hquiet => exact h.of_tables hquiet.history hquiet.events
  | event write serval serialization haction hid hworkflow hquiet =>
    have hput := eventsAgree_putEvent serval serialization h (horder write haction)
    exact hput.of_tables hquiet.history hquiet.events
  | stream write value serialization middle hid hworkflow happend hquiet =>
    have hframe := appendStream_eq_ok happend
    have hhistory : middle.workflowEventsHistory = db.workflowEventsHistory := by rw [hframe]
    have hevents : middle.workflowEvents = db.workflowEvents := by rw [hframe]
    exact h.of_tables (hquiet.history.trans hhistory) (hquiet.events.trans hevents)
  | fork call now haction hfresh hforked =>
    exact eventsAgree_forked h hintegral hfresh hforked (hapart call haction)
  | delete p hdelete =>
    rw [hdelete]
    exact eventsAgree_deleteStatusWhere h hintegral p

end Step

/-- In every run that writes the events of each key in the order of their function IDs and keeps the
events of a batch of forks apart, the current events are the last entries of the history in every
state. -/
theorem eventsAgree_of_setsInOrder {V : Type} (serializers : Serializers V)
    (isClosed : V → Bool) {actions : List (DataAction V)} {db : SystemDatabase}
    (hcondition : (dataSystem serializers isClosed).Along
      (fun db action ↦ SetsInOrder db action ∧ ForksApart db action) SystemDatabase.empty actions)
    (hrun : (dataSystem serializers isClosed).run SystemDatabase.empty actions = some db) :
    EventsAgree db := by
  have hboth : Integral db ∧ EventsAgree db := by
    refine System.run_invariant _ (I := fun db ↦ Integral db ∧ EventsAgree db) ?_ ?_ hcondition hrun
    · rintro s action s' ⟨hintegral, hagree⟩ ⟨horder, hapart⟩ hstep
      exact ⟨integral_step hintegral hstep, eventsAgree_step hagree hintegral horder hapart hstep⟩
    · refine ⟨integral_empty, ?_⟩
      intro event
      constructor
      · intro hevent
        cases hevent
      · rintro ⟨last, hmem, -⟩
        cases hmem
  exact hboth.2

/-- Two steps of a workflow set the same event, in the given order; then the workflow is forked after
its last step. -/
def setThenFork (first second : ℤ) : List (DataAction (Option Bool)) :=
  [.status (.init { status := startedStatus "wf" } built_startedWf) 0,
    .setEventFromStep ⟨"wf", first, "k", some true, .default⟩,
    .setEventFromStep ⟨"wf", second, "k", some false, .default⟩,
    .status (.fork { entries := [⟨"wf", "copy", 3⟩] }) 5]

theorem eventsAgree_setThenFork_inOrder :
    ∃ db, (dataSystem booleanSerializers fun _ ↦ false).run SystemDatabase.empty
        (setThenFork 1 2) = some db ∧ EventsAgree db := by
  obtain ⟨db, hrun⟩ : ∃ db, (dataSystem booleanSerializers fun _ ↦ false).run SystemDatabase.empty
      (setThenFork 1 2) = some db := ⟨_, rfl⟩
  refine ⟨db, hrun, ?_⟩
  apply eventsAgree_of_setsInOrder booleanSerializers (fun _ ↦ false) _ hrun
  refine (System.along_and _).mpr ⟨by decide, ?_⟩
  refine ⟨?_, fun _ _ ↦ ⟨?_, fun _ _ ↦ ⟨?_, fun _ _ ↦ ⟨?_, fun _ _ ↦ trivial⟩⟩⟩⟩
  all_goals
    intro call hcall
    cases hcall
  exact List.pairwise_singleton _ _

/-- The event of the workflow is that of step 1, which came last, and the fork has that of step 2. -/
theorem not_eventsAgree_setThenFork :
    ∃ db, (dataSystem booleanSerializers fun _ ↦ false).run SystemDatabase.empty
        (setThenFork 2 1) = some db ∧ ¬ EventsAgree db ∧
      (db.workflowEvents.rows.map fun row ↦ (row.workflowUuid, row.value)) =
        [("wf", "gASJLg=="), ("copy", "gASILg==")] := by
  refine ⟨_, rfl, ?_, by decide⟩
  intro hagree
  obtain ⟨last, hmem, hlast, hevent⟩ := (hagree ⟨"wf", "k", "gASJLg==", some "py_pickle"⟩).mp
    (by decide)
  have hfirst : ∀ row ∈ (((dataSystem booleanSerializers fun _ ↦ false).run SystemDatabase.empty
      (setThenFork 2 1)).get rfl).workflowEventsHistory.rows,
      row.value = "gASJLg==" → row.functionId < 2 := by decide
  have hid := hfirst last hmem (congrArg WorkflowEventRow.value hevent).symm
  have hle := hlast ⟨"wf", "k", "gASILg==", 2, some "py_pickle"⟩ (by decide)
    (congrArg WorkflowEventRow.workflowUuid hevent) (congrArg WorkflowEventRow.key hevent)
  exact absurd hle (not_le.mpr hid)

end DBOSModel.SysDb

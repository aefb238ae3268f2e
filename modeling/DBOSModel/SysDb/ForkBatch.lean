import DBOSModel.SysDb.Events
import DBOSModel.SysDb.StatusOperation
import Mathlib.Data.Finset.Max
import Mathlib.Data.List.Pairwise

/-!
# A batch of forks

What `fork_workflow` should leave behind: each fork has the checkpoints, the event history and the
streams of its original below its start step, and as current events the last entry of that history
for each key; nothing else changes but the mark on the originals; and the batch does what its
entries would do one at a time.

All of this holds but for the current events. They are chosen by a window function that partitions
the joined history by the ID of the original and the key, not by the fork. If two entries of a batch
have the same original, and a key has entries below both start steps, only one of the two forks
receives the event.
-/

namespace DBOSModel.SysDb

open Relational DBOSModel.Core

/-- What the foreign keys of the schema and the function counter, which starts at 1, give. -/
structure Integral (db : SystemDatabase) : Prop where
  outputs : ∀ row ∈ db.operationOutputs.rows, db.hasWorkflow row.workflowUuid ∧ 1 ≤ row.functionId
  history : ∀ row ∈ db.workflowEventsHistory.rows,
    db.hasWorkflow row.workflowUuid ∧ 1 ≤ row.functionId
  events : ∀ row ∈ db.workflowEvents.rows, db.hasWorkflow row.workflowUuid
  streams : ∀ row ∈ db.streams.rows, db.hasWorkflow row.workflowUuid ∧ 1 ≤ row.functionId

/-! ## What a fork should be -/

/-- The rows of one fork are those of its original below the start step. -/
structure CopiesPrefix (call : ForkCall) (db db' : SystemDatabase) (entry : ForkEntry) : Prop where
  outputs : ∀ row, row ∈ db'.operationOutputs.rows ∧ row.workflowUuid = entry.forkedWorkflowId ↔
    ∃ source ∈ db.operationOutputs.rows, source.workflowUuid = entry.originalWorkflowId ∧
      source.functionId < entry.startStep ∧
      row = { source with
        workflowUuid := entry.forkedWorkflowId
        childWorkflowId := call.replaceChild source.childWorkflowId }
  history : ∀ row, row ∈ db'.workflowEventsHistory.rows ∧ row.workflowUuid = entry.forkedWorkflowId ↔
    ∃ source ∈ db.workflowEventsHistory.rows, source.workflowUuid = entry.originalWorkflowId ∧
      source.functionId < entry.startStep ∧
      row = { source with workflowUuid := entry.forkedWorkflowId }
  streams : ∀ row, row ∈ db'.streams.rows ∧ row.workflowUuid = entry.forkedWorkflowId ↔
    ∃ source ∈ db.streams.rows, source.workflowUuid = entry.originalWorkflowId ∧
      source.functionId < entry.startStep ∧
      row = { source with workflowUuid := entry.forkedWorkflowId }
  /-- The current events are the last entries of the history of the fork. -/
  events : ∀ row, row ∈ db'.workflowEvents.rows ∧ row.workflowUuid = entry.forkedWorkflowId ↔
    ∃ last ∈ db'.workflowEventsHistory.rows, last.workflowUuid = entry.forkedWorkflowId ∧
      (∀ other ∈ db'.workflowEventsHistory.rows, other.workflowUuid = entry.forkedWorkflowId →
        other.key = last.key → other.functionId ≤ last.functionId) ∧
      row = ⟨entry.forkedWorkflowId, last.key, last.value, last.serialization⟩

/-- The mark on the originals of a batch. -/
def ForkCall.mark (call : ForkCall) (row : WorkflowStatusRow) : WorkflowStatusRow :=
  if row.workflowUuid ∈ call.entries.map ForkEntry.originalWorkflowId then wasForkedUpdate row else row

/-- The rows that belong to none of the forks, but for the mark on the originals. -/
structure LeavesOthers (call : ForkCall) (db db' : SystemDatabase) : Prop where
  statuses : ∀ row, row.workflowUuid ∉ call.entries.map ForkEntry.forkedWorkflowId →
    (row ∈ db'.statusRows ↔ ∃ old ∈ db.statusRows, row = call.mark old)
  outputs : ∀ row, row.workflowUuid ∉ call.entries.map ForkEntry.forkedWorkflowId →
    (row ∈ db'.operationOutputs.rows ↔ row ∈ db.operationOutputs.rows)
  history : ∀ row, row.workflowUuid ∉ call.entries.map ForkEntry.forkedWorkflowId →
    (row ∈ db'.workflowEventsHistory.rows ↔ row ∈ db.workflowEventsHistory.rows)
  events : ∀ row, row.workflowUuid ∉ call.entries.map ForkEntry.forkedWorkflowId →
    (row ∈ db'.workflowEvents.rows ↔ row ∈ db.workflowEvents.rows)
  streams : ∀ row, row.workflowUuid ∉ call.entries.map ForkEntry.forkedWorkflowId →
    (row ∈ db'.streams.rows ↔ row ∈ db.streams.rows)
  notifications : db'.notifications = db.notifications
  applicationVersions : db'.applicationVersions = db.applicationVersions

/-- The batch, one entry at a time, each with its own reading of the clock. -/
def forkOneByOne (call : ForkCall) :
    List (ForkEntry × ℤ) → SystemDatabase → Except DBOSError SystemDatabase
  | [], db => .ok db
  | (entry, now) :: rest, db =>
    match forkWorkflow { call with entries := [entry] } now db with
    | .returned _ db' => forkOneByOne call rest db'
    | .raised error => .error error
    | .raisedAfterCommit error _ => .error error

/-- A status row without its creation timestamps. -/
def WorkflowStatusRow.withoutTimes (row : WorkflowStatusRow) : WorkflowStatusRow :=
  { row with createdAt := 0, updatedAt := 0 }

/-- The same rows, up to the timestamps of the status rows. -/
structure SameButTimes (left right : SystemDatabase) : Prop where
  statuses : left.statusRows.map WorkflowStatusRow.withoutTimes =
    right.statusRows.map WorkflowStatusRow.withoutTimes
  outputs : left.operationOutputs.rows = right.operationOutputs.rows
  history : left.workflowEventsHistory.rows = right.workflowEventsHistory.rows
  events : left.workflowEvents.rows = right.workflowEvents.rows
  streams : left.streams.rows = right.streams.rows
  notifications : left.notifications = right.notifications
  applicationVersions : left.applicationVersions = right.applicationVersions

/-- The batch raises if an original is missing, and else copies each prefix, leaves all else alone
and agrees with the forks made one at a time. -/
structure ForksExactly (call : ForkCall) (now : ℤ) (db : SystemDatabase) : Prop where
  missing : (∃ entry ∈ call.entries, db.hasWorkflow entry.originalWorkflowId = false) →
    ∃ error, forkWorkflow call now db = .raised error
  copies : (∀ entry ∈ call.entries, db.hasWorkflow entry.originalWorkflowId = true) →
    ∃ db', forkWorkflow call now db =
        .returned (call.entries.map ForkEntry.forkedWorkflowId) db' ∧
      (∀ entry ∈ call.entries, CopiesPrefix call db db' entry) ∧ LeavesOthers call db db' ∧
      ∀ times : List ℤ, times.length = call.entries.length →
        ∃ db'', forkOneByOne call (call.entries.zip times) db = .ok db'' ∧ SameButTimes db' db''

/-- The original of an entry has set an event of this key below the start step. -/
def ForkEntry.setsEvent (entry : ForkEntry) (db : SystemDatabase) (key : String) : Prop :=
  ∃ row ∈ db.workflowEventsHistory.rows, row.workflowUuid = entry.originalWorkflowId ∧
    row.key = key ∧ row.functionId < entry.startStep

/-- No two entries of the batch have the same original with an event of one key below both start
steps. -/
def EventsApart (call : ForkCall) (db : SystemDatabase) : Prop :=
  call.entries.Pairwise fun first second ↦
    first.originalWorkflowId = second.originalWorkflowId →
      ∀ key, ¬ (first.setsEvent db key ∧ second.setsEvent db key)

/-! ## The join with the batch -/

section Join

variable {call : ForkCall} {ρ κ : Type} {workflowUuid : ρ → String} {functionId : ρ → ℤ}
  {rows : List ρ} {entry : ForkEntry} {row : ρ}

theorem mem_join : (entry, row) ∈ call.join workflowUuid functionId rows ↔
    entry ∈ call.entries ∧ 1 < entry.startStep ∧ row ∈ rows ∧
      workflowUuid row = entry.originalWorkflowId ∧ functionId row < entry.startStep := by
  simp only [ForkCall.join, ForkCall.mappings, List.mem_flatMap, List.mem_map, List.mem_filter,
    decide_eq_true_eq, Bool.and_eq_true]
  constructor
  · rintro ⟨source, ⟨hsource, hstep⟩, copied, ⟨hcopied, huuid, hid⟩, heq⟩
    cases heq
    exact ⟨hsource, hstep, hcopied, huuid, hid⟩
  · rintro ⟨hentry, hstep, hrow, huuid, hid⟩
    exact ⟨entry, ⟨hentry, hstep⟩, row, ⟨hrow, huuid, hid⟩, rfl⟩

/-- Function IDs start at 1, so the filter on the start step loses no row. -/
theorem mem_join_of_pos (hpos : ∀ row ∈ rows, 1 ≤ functionId row) :
    (entry, row) ∈ call.join workflowUuid functionId rows ↔
      entry ∈ call.entries ∧ row ∈ rows ∧ workflowUuid row = entry.originalWorkflowId ∧
        functionId row < entry.startStep := by
  rw [mem_join]
  constructor
  · rintro ⟨hentry, -, hrow, huuid, hid⟩
    exact ⟨hentry, hrow, huuid, hid⟩
  · rintro ⟨hentry, hrow, huuid, hid⟩
    have := hpos row hrow
    exact ⟨hentry, by omega, hrow, huuid, hid⟩

/-- A copy of a table: one row for each entry and each row of its original below the start step. -/
theorem mem_copies {copy : ForkEntry × ρ → ρ} {copied : ρ}
    (hpos : ∀ row ∈ rows, 1 ≤ functionId row) :
    copied ∈ (call.join workflowUuid functionId rows).map copy ↔
      ∃ entry ∈ call.entries, ∃ source ∈ rows, workflowUuid source = entry.originalWorkflowId ∧
        functionId source < entry.startStep ∧ copied = copy (entry, source) := by
  simp only [List.mem_map, Prod.exists, mem_join_of_pos hpos]
  constructor
  · rintro ⟨entry, source, ⟨hentry, hsource, huuid, hid⟩, rfl⟩
    exact ⟨entry, hentry, source, hsource, huuid, hid, rfl⟩
  · rintro ⟨entry, hentry, source, hsource, huuid, hid, rfl⟩
    exact ⟨entry, source, ⟨hentry, hsource, huuid, hid⟩, rfl⟩

/-- The copies belong to the forks. -/
theorem owner_mem_of_copies {copy : ForkEntry × ρ → ρ}
    (howner : ∀ pair, workflowUuid (copy pair) = pair.1.forkedWorkflowId) :
    ∀ copied ∈ (call.join workflowUuid functionId rows).map copy,
      workflowUuid copied ∈ call.entries.map ForkEntry.forkedWorkflowId := by
  intro copied hcopied
  obtain ⟨pair, hpair, rfl⟩ := List.mem_map.mp hcopied
  rw [howner]
  exact List.mem_map_of_mem (mem_join.mp hpair).1

/-- The keys of the copies are distinct: the fork tells the entries apart, and the rest of the key
the rows of one original. -/
theorem nodup_join (key : ρ → κ) (hforks : (call.entries.map ForkEntry.forkedWorkflowId).Nodup)
    (hrows : ∀ original, ((rows.filter fun row ↦ workflowUuid row = original).map key).Nodup) :
    ((call.join workflowUuid functionId rows).map fun pair ↦
      (pair.1.forkedWorkflowId, key pair.2)).Nodup := by
  have hmappings : (call.mappings.map ForkEntry.forkedWorkflowId).Nodup :=
    (List.filter_sublist.map _).nodup hforks
  rw [ForkCall.join, List.map_flatMap, List.nodup_flatMap]
  constructor
  · intro entry _
    rw [List.map_map]
    have hsplit : ((rows.filter fun row ↦ workflowUuid row = entry.originalWorkflowId &&
        decide (functionId row < entry.startStep)).map key).Nodup := by
      have hfilter : rows.filter (fun row ↦ workflowUuid row = entry.originalWorkflowId &&
          decide (functionId row < entry.startStep)) =
          (rows.filter fun row ↦ workflowUuid row = entry.originalWorkflowId).filter
            fun row ↦ decide (functionId row < entry.startStep) := by
        rw [List.filter_filter]
        apply List.filter_congr
        intro row _
        exact Bool.and_comm _ _
      rw [hfilter]
      exact (List.filter_sublist.map key).nodup (hrows entry.originalWorkflowId)
    have hpairs := hsplit.map (f := fun value ↦ (entry.forkedWorkflowId, value)) fun _ _ heq ↦
      (Prod.mk.inj heq).2
    rw [List.map_map] at hpairs
    exact hpairs
  · rw [List.Nodup, List.pairwise_map] at hmappings
    refine hmappings.imp ?_
    intro first second hne
    change List.Disjoint _ _
    rw [List.disjoint_left]
    intro pair hfirst hsecond
    simp only [List.mem_map, List.map_map, Function.comp] at hfirst hsecond
    obtain ⟨row, -, rfl⟩ := hfirst
    obtain ⟨row', -, heq⟩ := hsecond
    exact hne (Prod.mk.inj heq).1.symm

/-- The join of the first entry, then that of the others. -/
theorem join_cons (entries : List ForkEntry) (hcall : call.entries = entry :: entries) :
    call.join workflowUuid functionId rows =
      ({ call with entries := [entry] } : ForkCall).join workflowUuid functionId rows ++
        ({ call with entries := entries } : ForkCall).join workflowUuid functionId rows := by
  simp only [ForkCall.join, ForkCall.mappings, hcall]
  rw [← List.flatMap_append, ← List.filter_append]
  rfl

/-- Rows of other workflows are not joined. -/
theorem join_append_of_ne {more : List ρ}
    (hother : ∀ row ∈ more, ∀ entry ∈ call.entries, workflowUuid row ≠ entry.originalWorkflowId) :
    call.join workflowUuid functionId (rows ++ more) = call.join workflowUuid functionId rows := by
  unfold ForkCall.join
  apply List.flatMap_congr
  intro entry hentry
  have hmem : entry ∈ call.entries := List.mem_of_mem_filter hentry
  have hnone : more.filter (fun row ↦ workflowUuid row = entry.originalWorkflowId &&
      decide (functionId row < entry.startStep)) = [] := by
    rw [List.filter_eq_nil_iff]
    intro row hrow
    simp [hother row hrow entry hmem]
  rw [List.filter_append, hnone, List.append_nil]

end Join

/-! ## The window function -/

section Latest

variable {joined first second : List (ForkEntry × WorkflowEventHistoryRow)}
  {pair other : ForkEntry × WorkflowEventHistoryRow}

/-- The partition of a joined row: the original and the key. -/
def eventGroup (pair : ForkEntry × WorkflowEventHistoryRow) : String × String :=
  (pair.2.workflowUuid, pair.2.key)

/-- The row with `row_number() = 1` of a partition. -/
def latestOf (joined : List (ForkEntry × WorkflowEventHistoryRow)) (group : String × String) :
    Option (ForkEntry × WorkflowEventHistoryRow) :=
  ((joined.filter fun pair ↦ eventGroup pair = group).insertionSort
    fun left right ↦ right.2.functionId ≤ left.2.functionId).head?

theorem latestEvents_eq :
    ForkCall.latestEvents joined = (joined.map eventGroup).dedup.filterMap (latestOf joined) :=
  rfl

theorem latestOf_eq_some {group : String × String} (h : latestOf joined group = some pair) :
    pair ∈ joined ∧ eventGroup pair = group ∧
      ∀ other ∈ joined, eventGroup other = group → other.2.functionId ≤ pair.2.functionId := by
  unfold latestOf at h
  have hsorted := List.pairwise_insertionSort
    (fun left right : ForkEntry × WorkflowEventHistoryRow ↦ right.2.functionId ≤ left.2.functionId)
    (joined.filter fun pair ↦ eventGroup pair = group)
  have hmem : ∀ other, other ∈ (joined.filter fun pair ↦ eventGroup pair = group).insertionSort
      (fun left right ↦ right.2.functionId ≤ left.2.functionId) ↔
        other ∈ joined ∧ eventGroup other = group := by
    intro other
    rw [List.mem_insertionSort, List.mem_filter, decide_eq_true_eq]
  obtain ⟨rest, hrest⟩ := List.head?_eq_some_iff.mp h
  rw [hrest] at hsorted hmem
  obtain ⟨hpair, hgroup⟩ := (hmem pair).mp List.mem_cons_self
  refine ⟨hpair, hgroup, ?_⟩
  intro other hother hsame
  rcases List.mem_cons.mp ((hmem other).mpr ⟨hother, hsame⟩) with rfl | hlater
  · exact le_refl _
  · exact List.rel_of_pairwise_cons hsorted hlater

theorem exists_latestOf (hpair : pair ∈ joined) :
    ∃ latest, latestOf joined (eventGroup pair) = some latest := by
  cases hlatest : latestOf joined (eventGroup pair) with
  | some latest => exact ⟨latest, rfl⟩
  | none =>
    unfold latestOf at hlatest
    rw [List.head?_eq_none_iff] at hlatest
    have hmem : pair ∈ (joined.filter fun other ↦ eventGroup other = eventGroup pair).insertionSort
        (fun left right ↦ right.2.functionId ≤ left.2.functionId) := by
      rw [List.mem_insertionSort, List.mem_filter, decide_eq_true_eq]
      exact ⟨hpair, rfl⟩
    rw [hlatest] at hmem
    cases hmem

theorem mem_latestEvents :
    pair ∈ ForkCall.latestEvents joined ↔ latestOf joined (eventGroup pair) = some pair := by
  rw [latestEvents_eq, List.mem_filterMap]
  constructor
  · rintro ⟨group, -, hlatest⟩
    rw [(latestOf_eq_some hlatest).2.1]
    exact hlatest
  · intro hlatest
    refine ⟨eventGroup pair, ?_, hlatest⟩
    rw [List.mem_dedup]
    exact List.mem_map_of_mem (latestOf_eq_some hlatest).1

/-- A partition has one first row. -/
theorem latestEvents_unique (hpair : pair ∈ ForkCall.latestEvents joined)
    (hother : other ∈ ForkCall.latestEvents joined) (hgroup : eventGroup pair = eventGroup other) :
    pair = other := by
  rw [mem_latestEvents] at hpair hother
  rw [hgroup, hother] at hpair
  exact (Option.some.inj hpair).symm

theorem nodup_latestEvents : (ForkCall.latestEvents joined).Nodup := by
  rw [latestEvents_eq]
  apply (List.nodup_dedup _).filterMap
  intro group group' pair hpair hpair'
  rw [← (latestOf_eq_some hpair).2.1, ← (latestOf_eq_some hpair').2.1]

/-- Joins without a common partition have their first rows side by side. -/
theorem latestEvents_append
    (hapart : ∀ pair ∈ first, ∀ other ∈ second, eventGroup pair ≠ eventGroup other) :
    ForkCall.latestEvents (first ++ second) =
      ForkCall.latestEvents first ++ ForkCall.latestEvents second := by
  have hdisjoint : List.Disjoint (first.map eventGroup) (second.map eventGroup) := by
    rw [List.disjoint_left]
    intro group hfirst hsecond
    obtain ⟨pair, hpair, rfl⟩ := List.mem_map.mp hfirst
    obtain ⟨other, hother, hsame⟩ := List.mem_map.mp hsecond
    exact hapart pair hpair other hother hsame.symm
  have hleft : ∀ group ∈ (first.map eventGroup).dedup,
      latestOf (first ++ second) group = latestOf first group := by
    intro group hgroup
    obtain ⟨pair, hpair, rfl⟩ := List.mem_map.mp (List.mem_dedup.mp hgroup)
    have hnone : second.filter (fun other ↦ eventGroup other = eventGroup pair) = [] := by
      rw [List.filter_eq_nil_iff]
      intro other hother
      simpa using (hapart pair hpair other hother).symm
    rw [latestOf, List.filter_append, hnone, List.append_nil]
    rfl
  have hright : ∀ group ∈ (second.map eventGroup).dedup,
      latestOf (first ++ second) group = latestOf second group := by
    intro group hgroup
    obtain ⟨other, hother, rfl⟩ := List.mem_map.mp (List.mem_dedup.mp hgroup)
    have hnone : first.filter (fun pair ↦ eventGroup pair = eventGroup other) = [] := by
      rw [List.filter_eq_nil_iff]
      intro pair hpair
      simpa using hapart pair hpair other hother
    rw [latestOf, List.filter_append, hnone, List.nil_append]
    rfl
  rw [latestEvents_eq, List.map_append, hdisjoint.dedup_append, List.filterMap_append,
    List.filterMap_congr hleft, List.filterMap_congr hright]
  rfl

end Latest

/-! ## The tables that a fork leaves -/

/-- The tables after `fork_workflow` has returned. -/
structure Forked (call : ForkCall) (now : ℤ) (db db' : SystemDatabase) : Prop where
  statuses : ∃ rows, call.forkedRows now db call.entries = .ok rows ∧
    db'.statusRows = (db.statusRows ++ rows).map call.mark
  outputs : db'.operationOutputs.rows = db.operationOutputs.rows ++ call.copiedOutputs db
  history : db'.workflowEventsHistory.rows = db.workflowEventsHistory.rows ++ call.copiedHistory db
  events : db'.workflowEvents.rows = db.workflowEvents.rows ++ call.copiedEvents db
  streams : db'.streams.rows = db.streams.rows ++ call.copiedStreams db
  notifications : db'.notifications = db.notifications
  applicationVersions : db'.applicationVersions = db.applicationVersions

section Returned

variable {call : ForkCall} {now : ℤ} {db db' : SystemDatabase} {entry : ForkEntry}

theorem mark_of_nil {row : WorkflowStatusRow} (hcall : call.entries = []) : call.mark row = row := by
  simp [ForkCall.mark, hcall]

/-- The four copies. -/
theorem copyForkData_eq_ok (h : copyForkData call db = .ok db') :
    db'.operationOutputs.rows = db.operationOutputs.rows ++ call.copiedOutputs db ∧
    db'.workflowEventsHistory.rows = db.workflowEventsHistory.rows ++ call.copiedHistory db ∧
    db'.workflowEvents.rows = db.workflowEvents.rows ++ call.copiedEvents db ∧
    db'.streams.rows = db.streams.rows ++ call.copiedStreams db ∧
    db'.notifications = db.notifications ∧ db'.applicationVersions = db.applicationVersions := by
  unfold copyForkData at h
  cases houtputs : db.operationOutputs.insertAll (call.copiedOutputs db) with
  | none =>
    simp only [houtputs] at h
    cases h
  | some outputs =>
    cases hhistory : db.workflowEventsHistory.insertAll (call.copiedHistory db) with
    | none =>
      simp only [houtputs, hhistory] at h
      cases h
    | some history =>
      cases hevents : db.workflowEvents.insertAll (call.copiedEvents db) with
      | none =>
        simp only [houtputs, hhistory, hevents] at h
        cases h
      | some events =>
        cases hstreams : db.streams.insertAll (call.copiedStreams db) with
        | none =>
          simp only [houtputs, hhistory, hevents, hstreams] at h
          cases h
        | some streams =>
          simp only [houtputs, hhistory, hevents, hstreams, Except.ok.injEq] at h
          subst h
          exact ⟨(Table.insertAll_eq_some houtputs).1, (Table.insertAll_eq_some hhistory).1,
            (Table.insertAll_eq_some hevents).1, (Table.insertAll_eq_some hstreams).1, rfl, rfl⟩

/-- A returned fork has written its tables. -/
theorem forked_of_returned {ids : List String} (h : forkWorkflow call now db = .returned ids db') :
    Forked call now db db' ∧ ids = call.entries.map ForkEntry.forkedWorkflowId := by
  unfold forkWorkflow at h
  split at h
  · rename_i hnil
    cases h
    refine ⟨⟨⟨[], by rw [hnil]; rfl, ?_⟩, ?_, ?_, ?_, ?_, rfl, rfl⟩, by rw [hnil]; rfl⟩
    · rw [List.append_nil]
      exact (List.map_id'' (fun row ↦ mark_of_nil hnil) _).symm
    all_goals simp [ForkCall.copiedOutputs, ForkCall.copiedHistory, ForkCall.copiedEvents,
      ForkCall.copiedStreams, ForkCall.joinedHistory, ForkCall.join, ForkCall.mappings, hnil,
      ForkCall.latestEvents]
  · split at h
    · cases h
    · rename_i rows hrows
      split at h
      · cases h
      · rename_i statuses hstatuses
        simp only at h
        split at h
        · cases h
        · rename_i copied hcopy
          cases h
          obtain ⟨houtputs, hhistory, hevents, hstreams, hnotifications, hversions⟩ :=
            copyForkData_eq_ok hcopy
          refine ⟨⟨⟨rows, hrows, ?_⟩, houtputs, hhistory, hevents, hstreams, hnotifications,
            hversions⟩, rfl⟩
          have hmarked : db'.statusRows = statuses.rows.map call.mark := by
            rw [SystemDatabase.statusRows, copyForkData_workflowStatus hcopy]
            simp only [Table.update, decide_eq_true_eq]
            rfl
          rw [hmarked, (Table.insertAll_eq_some hstatuses).1]
          rfl

/-- The status rows of the forks: one for each entry, built from its original. -/
theorem forkedRows_eq_ok {entries : List ForkEntry} {rows : List WorkflowStatusRow} :
    call.forkedRows now db entries = .ok rows ↔
      List.Forall₂ (fun entry row ↦ ∃ original,
        db.workflowStatus.lookup entry.originalWorkflowId = some original ∧
          row = call.forkedRow now entry original) entries rows := by
  induction entries generalizing rows with
  | nil =>
    simp only [ForkCall.forkedRows, Except.ok.injEq, List.forall₂_nil_left_iff]
    exact eq_comm
  | cons entry rest ih =>
    rw [ForkCall.forkedRows, List.forall₂_cons_left_iff]
    cases horiginal : db.workflowStatus.lookup entry.originalWorkflowId with
    | none => simp
    | some original =>
      cases hrest : call.forkedRows now db rest with
      | error error =>
        have hnone : ∀ rows, ¬ List.Forall₂ (fun entry row ↦ ∃ original,
            db.workflowStatus.lookup entry.originalWorkflowId = some original ∧
              row = call.forkedRow now entry original) rest rows := by
          intro rows hrows
          rw [ih.mpr hrows] at hrest
          cases hrest
        simp [hnone]
      | ok tail =>
        have htail := ih.mp hrest
        simp only [Except.ok.injEq]
        constructor
        · rintro rfl
          exact ⟨_, tail, ⟨original, rfl, rfl⟩, htail, rfl⟩
        · rintro ⟨row, tail', ⟨other, hother, rfl⟩, htail', rfl⟩
          cases hother
          have hsame := ih.mpr htail'
          rw [hrest] at hsame
          cases hsame
          rfl

/-- The IDs of the new status rows. -/
theorem map_forkedRows {entries : List ForkEntry} {rows : List WorkflowStatusRow}
    (h : call.forkedRows now db entries = .ok rows) :
    rows.map WorkflowStatusRow.workflowUuid = entries.map ForkEntry.forkedWorkflowId := by
  have hall := forkedRows_eq_ok.mp h
  clear h
  induction hall with
  | nil => rfl
  | cons hrow _ ih =>
    obtain ⟨original, -, rfl⟩ := hrow
    rw [List.map_cons, List.map_cons, ih]
    rfl

/-- The status rows exist exactly if every original does. -/
theorem exists_forkedRows_iff (entries : List ForkEntry) :
    (∃ rows, call.forkedRows now db entries = .ok rows) ↔
      ∀ entry ∈ entries, db.hasWorkflow entry.originalWorkflowId = true := by
  simp only [forkedRows_eq_ok]
  induction entries with
  | nil => simp
  | cons entry rest ih =>
    rw [List.forall_mem_cons, ← ih, SystemDatabase.hasWorkflow, Option.isSome_iff_exists]
    simp only [List.forall₂_cons_left_iff]
    constructor
    · rintro ⟨rows, row, tail, ⟨original, horiginal, -⟩, htail, rfl⟩
      exact ⟨⟨original, horiginal⟩, tail, htail⟩
    · rintro ⟨⟨original, horiginal⟩, tail, htail⟩
      exact ⟨_, _, tail, ⟨original, horiginal, rfl⟩, htail, rfl⟩

/-- A batch with a missing original raises. -/
theorem forkWorkflow_of_missing (hentry : entry ∈ call.entries)
    (hmissing : db.hasWorkflow entry.originalWorkflowId = false) :
    ∃ error, forkWorkflow call now db = .raised error := by
  have hne : call.entries ≠ [] := List.ne_nil_of_mem hentry
  unfold forkWorkflow
  rw [if_neg hne]
  cases hrows : call.forkedRows now db call.entries with
  | error error => exact ⟨error, rfl⟩
  | ok rows =>
    have hall := (exists_forkedRows_iff call.entries).mp ⟨rows, hrows⟩ entry hentry
    rw [hmissing] at hall
    cases hall

end Returned

/-! ## A fresh batch is never rejected -/

/-- The new IDs are distinct and no workflow has them. -/
structure FreshBatch (call : ForkCall) (db : SystemDatabase) : Prop where
  distinct : (call.entries.map ForkEntry.forkedWorkflowId).Nodup
  fresh : ∀ entry ∈ call.entries, db.hasWorkflow entry.forkedWorkflowId = false

section Fresh

variable {call : ForkCall} {now : ℤ} {db db' : SystemDatabase} {entry : ForkEntry}

/-- The rows of one workflow have distinct keys below its ID. -/
theorem nodup_of_owner {ρ κ : Type} {key : ρ → String × κ} (t : Table key) (original : String) :
    ((t.rows.filter fun row ↦ (key row).1 = original).map fun row ↦ (key row).2).Nodup := by
  have hkeys := t.nodup_keys_filter fun row ↦ (key row).1 = original
  have hpairs : (t.rows.filter fun row ↦ (key row).1 = original).map key =
      ((t.rows.filter fun row ↦ (key row).1 = original).map fun row ↦ (key row).2).map
        (Prod.mk original) := by
    rw [List.map_map]
    apply List.map_congr_left
    intro row hrow
    have howner : (key row).1 = original := by simpa using (List.mem_filter.mp hrow).2
    exact Prod.ext howner rfl
  rw [hpairs] at hkeys
  exact hkeys.of_map _

/-- A copied row is none of the rows of existing workflows. -/
theorem FreshBatch.key_ne (hfresh : FreshBatch call db) (hentry : entry ∈ call.entries)
    {workflowId : String} (hworkflow : db.hasWorkflow workflowId = true) :
    workflowId ≠ entry.forkedWorkflowId := by
  rintro rfl
  rw [hfresh.fresh entry hentry] at hworkflow
  cases hworkflow

theorem mem_copiedOutputs {row : OperationOutputRow} (hintegral : Integral db) :
    row ∈ call.copiedOutputs db ↔ ∃ entry ∈ call.entries, ∃ source ∈ db.operationOutputs.rows,
      source.workflowUuid = entry.originalWorkflowId ∧ source.functionId < entry.startStep ∧
      row = { source with
        workflowUuid := entry.forkedWorkflowId
        childWorkflowId := call.replaceChild source.childWorkflowId } :=
  mem_copies fun row hrow ↦ (hintegral.outputs row hrow).2

theorem mem_joinedHistory {source : WorkflowEventHistoryRow} (hintegral : Integral db) :
    (entry, source) ∈ call.joinedHistory db ↔ entry ∈ call.entries ∧
      source ∈ db.workflowEventsHistory.rows ∧ source.workflowUuid = entry.originalWorkflowId ∧
        source.functionId < entry.startStep :=
  mem_join_of_pos fun row hrow ↦ (hintegral.history row hrow).2

theorem mem_copiedHistory {row : WorkflowEventHistoryRow} (hintegral : Integral db) :
    row ∈ call.copiedHistory db ↔ ∃ entry ∈ call.entries,
      ∃ source ∈ db.workflowEventsHistory.rows, source.workflowUuid = entry.originalWorkflowId ∧
        source.functionId < entry.startStep ∧
        row = { source with workflowUuid := entry.forkedWorkflowId } :=
  mem_copies fun row hrow ↦ (hintegral.history row hrow).2

theorem mem_copiedStreams {row : StreamRow} (hintegral : Integral db) :
    row ∈ call.copiedStreams db ↔ ∃ entry ∈ call.entries, ∃ source ∈ db.streams.rows,
      source.workflowUuid = entry.originalWorkflowId ∧ source.functionId < entry.startStep ∧
        row = { source with workflowUuid := entry.forkedWorkflowId } :=
  mem_copies fun row hrow ↦ (hintegral.streams row hrow).2

theorem mem_copiedEvents {row : WorkflowEventRow} :
    row ∈ call.copiedEvents db ↔ ∃ pair ∈ ForkCall.latestEvents (call.joinedHistory db),
      row = ⟨pair.1.forkedWorkflowId, pair.2.key, pair.2.value, pair.2.serialization⟩ := by
  simp only [ForkCall.copiedEvents, List.mem_map]
  exact exists_congr fun pair ↦ and_congr_right fun _ ↦ eq_comm

/-- A latest event is one of the joined history. -/
theorem mem_joinedHistory_of_latest {pair : ForkEntry × WorkflowEventHistoryRow}
    (hpair : pair ∈ ForkCall.latestEvents (call.joinedHistory db)) :
    pair ∈ call.joinedHistory db :=
  (latestOf_eq_some (mem_latestEvents.mp hpair)).1

theorem owner_mem_of_copiedOutputs : ∀ row ∈ call.copiedOutputs db,
    row.workflowUuid ∈ call.entries.map ForkEntry.forkedWorkflowId :=
  owner_mem_of_copies fun _ ↦ rfl

theorem owner_mem_of_copiedHistory : ∀ row ∈ call.copiedHistory db,
    row.workflowUuid ∈ call.entries.map ForkEntry.forkedWorkflowId :=
  owner_mem_of_copies fun _ ↦ rfl

theorem owner_mem_of_copiedStreams : ∀ row ∈ call.copiedStreams db,
    row.workflowUuid ∈ call.entries.map ForkEntry.forkedWorkflowId :=
  owner_mem_of_copies fun _ ↦ rfl

theorem owner_mem_of_copiedEvents : ∀ row ∈ call.copiedEvents db,
    row.workflowUuid ∈ call.entries.map ForkEntry.forkedWorkflowId := by
  intro row hrow
  obtain ⟨pair, hpair, rfl⟩ := mem_copiedEvents.mp hrow
  exact List.mem_map_of_mem (mem_join.mp (mem_joinedHistory_of_latest hpair)).1

theorem nodup_copiedEvents (hfresh : FreshBatch call db) :
    ((call.copiedEvents db).map WorkflowEventRow.primaryKey).Nodup := by
  unfold ForkCall.copiedEvents
  rw [List.map_map]
  refine nodup_latestEvents.map_on ?_
  intro pair hpair other hother hkey
  apply latestEvents_unique hpair hother
  obtain ⟨hentry, -, -, huuid, -⟩ := mem_join.mp (mem_joinedHistory_of_latest hpair)
  obtain ⟨hentry', -, -, huuid', -⟩ := mem_join.mp (mem_joinedHistory_of_latest hother)
  simp only [Function.comp, WorkflowEventRow.primaryKey, Prod.mk.injEq] at hkey
  have hsame : pair.1 = other.1 :=
    List.inj_on_of_nodup_map hfresh.distinct hentry hentry' hkey.1
  rw [eventGroup, eventGroup, huuid, huuid', hsame, hkey.2]

/-- Rows of the forks with distinct keys are inserted into a table of existing workflows. -/
theorem FreshBatch.exists_insertAll {ρ κ : Type} [DecidableEq κ] {key : ρ → String × κ} {t : Table key}
    {copied : List ρ} (hfresh : FreshBatch call db)
    (hold : ∀ row ∈ t.rows, db.hasWorkflow (key row).1 = true)
    (howner : ∀ row ∈ copied, (key row).1 ∈ call.entries.map ForkEntry.forkedWorkflowId)
    (hkeys : (copied.map key).Nodup) : ∃ t', t.insertAll copied = some t' := by
  apply t.exists_insertAll hkeys
  intro row hrow old hmem hkey
  obtain ⟨entry, hentry, hfork⟩ := List.mem_map.mp (howner row hrow)
  apply hfresh.key_ne hentry (hold old hmem)
  rw [hkey, hfork]

/-- The copies of a fresh batch are inserted. -/
theorem exists_copyForkData (hintegral : Integral db) (hfresh : FreshBatch call db) :
    ∃ db', copyForkData call db = .ok db' := by
  have houtputs : ∃ outputs, db.operationOutputs.insertAll (call.copiedOutputs db) = some outputs := by
    apply hfresh.exists_insertAll (fun row hrow ↦ (hintegral.outputs row hrow).1)
      owner_mem_of_copiedOutputs
    rw [ForkCall.copiedOutputs, List.map_map]
    exact nodup_join OperationOutputRow.functionId hfresh.distinct
      (nodup_of_owner db.operationOutputs)
  have hhistory : ∃ history,
      db.workflowEventsHistory.insertAll (call.copiedHistory db) = some history := by
    apply hfresh.exists_insertAll (fun row hrow ↦ (hintegral.history row hrow).1)
      owner_mem_of_copiedHistory
    rw [ForkCall.copiedHistory, List.map_map]
    exact nodup_join (fun row : WorkflowEventHistoryRow ↦ (row.key, row.functionId))
      hfresh.distinct (nodup_of_owner db.workflowEventsHistory)
  have hevents : ∃ events, db.workflowEvents.insertAll (call.copiedEvents db) = some events :=
    hfresh.exists_insertAll hintegral.events owner_mem_of_copiedEvents (nodup_copiedEvents hfresh)
  have hstreams : ∃ streams, db.streams.insertAll (call.copiedStreams db) = some streams := by
    apply hfresh.exists_insertAll (fun row hrow ↦ (hintegral.streams row hrow).1)
      owner_mem_of_copiedStreams
    rw [ForkCall.copiedStreams, List.map_map]
    exact nodup_join (fun row : StreamRow ↦ (row.key, row.offset)) hfresh.distinct
      (nodup_of_owner db.streams)
  obtain ⟨outputs, houtputs⟩ := houtputs
  obtain ⟨history, hhistory⟩ := hhistory
  obtain ⟨events, hevents⟩ := hevents
  obtain ⟨streams, hstreams⟩ := hstreams
  unfold copyForkData
  rw [houtputs]
  simp only [hhistory, hevents, hstreams]
  exact ⟨_, rfl⟩

/-- The copies do not depend on the status table. -/
theorem exists_copyForkData_marked (statuses : Table WorkflowStatusRow.workflowUuid)
    (h : ∃ db', copyForkData call db = .ok db') :
    ∃ db', copyForkData call { db with workflowStatus := statuses } = .ok db' := by
  obtain ⟨db', hcopy⟩ := h
  unfold copyForkData at hcopy ⊢
  repeat' split at hcopy
  all_goals cases hcopy
  rename_i _ outputs houtputs _ history hhistory _ events hevents _ streams hstreams
  have houtputs' : ({ db with workflowStatus := statuses } : SystemDatabase).operationOutputs.insertAll
      (call.copiedOutputs { db with workflowStatus := statuses }) = some outputs := houtputs
  have hhistory' : ({ db with workflowStatus := statuses } :
      SystemDatabase).workflowEventsHistory.insertAll
        (call.copiedHistory { db with workflowStatus := statuses }) = some history := hhistory
  have hevents' : ({ db with workflowStatus := statuses } : SystemDatabase).workflowEvents.insertAll
      (call.copiedEvents { db with workflowStatus := statuses }) = some events := hevents
  have hstreams' : ({ db with workflowStatus := statuses } : SystemDatabase).streams.insertAll
      (call.copiedStreams { db with workflowStatus := statuses }) = some streams := hstreams
  rw [houtputs']
  simp only [hhistory', hevents', hstreams']
  exact ⟨_, rfl⟩

/-- A fresh batch of forks of existing workflows returns. -/
theorem exists_forkWorkflow (now : ℤ) (hintegral : Integral db) (hfresh : FreshBatch call db)
    (hexist : ∀ entry ∈ call.entries, db.hasWorkflow entry.originalWorkflowId = true) :
    ∃ db', forkWorkflow call now db =
      .returned (call.entries.map ForkEntry.forkedWorkflowId) db' := by
  unfold forkWorkflow
  split
  · rename_i hnil
    exact ⟨db, by rw [hnil]; rfl⟩
  · have hfound : ∃ rows, call.forkedRows now db call.entries = .ok rows :=
      (exists_forkedRows_iff call.entries).mpr hexist
    obtain ⟨rows, hrows⟩ := hfound
    have hkeys := map_forkedRows hrows
    have hstatuses : ∃ statuses, db.workflowStatus.insertAll rows = some statuses := by
      apply Table.exists_insertAll
      · rw [hkeys]
        exact hfresh.distinct
      · intro row hrow old hold hkey
        have hid : row.workflowUuid ∈ call.entries.map ForkEntry.forkedWorkflowId := by
          rw [← hkeys]
          exact List.mem_map_of_mem hrow
        obtain ⟨entry, hentry, hfork⟩ := List.mem_map.mp hid
        have hworkflow : db.hasWorkflow old.workflowUuid = true :=
          SystemDatabase.hasWorkflow_iff.mpr ⟨old, hold, rfl⟩
        exact hfresh.key_ne hentry hworkflow (hkey.trans hfork.symm)
    obtain ⟨statuses, hstatuses⟩ := hstatuses
    obtain ⟨db', hcopy⟩ := exists_copyForkData_marked
      (statuses.update (fun row ↦ row.workflowUuid ∈ call.entries.map ForkEntry.originalWorkflowId)
        wasForkedUpdate) (exists_copyForkData hintegral hfresh)
    rw [hrows]
    simp only [hstatuses, hcopy]
    exact ⟨db', rfl⟩

end Fresh

/-! ## The copied prefixes -/

section Prefix

variable {call : ForkCall} {now : ℤ} {db db' : SystemDatabase} {entry : ForkEntry}

/-- The fork tells the entries apart. -/
theorem FreshBatch.entry_eq (hfresh : FreshBatch call db) {other : ForkEntry}
    (hentry : entry ∈ call.entries) (hother : other ∈ call.entries)
    (h : other.forkedWorkflowId = entry.forkedWorkflowId) : other = entry :=
  List.inj_on_of_nodup_map hfresh.distinct hother hentry h

/-- The rows of a fork are the copies made for its entry. -/
theorem mem_append_copied {ρ : Type} {workflowUuid : ρ → String} {old copied : List ρ}
    {source : ForkEntry → ρ → Prop} (hfresh : FreshBatch call db) (hentry : entry ∈ call.entries)
    (hold : ∀ row ∈ old, db.hasWorkflow (workflowUuid row) = true)
    (hcopied : ∀ row, row ∈ copied ↔ ∃ entry ∈ call.entries, source entry row)
    (hsource : ∀ entry row, source entry row → workflowUuid row = entry.forkedWorkflowId) (row : ρ) :
    row ∈ old ++ copied ∧ workflowUuid row = entry.forkedWorkflowId ↔ source entry row := by
  constructor
  · rintro ⟨hrow, huuid⟩
    rcases List.mem_append.mp hrow with hrow | hrow
    · exact absurd huuid (hfresh.key_ne hentry (hold row hrow))
    · obtain ⟨other, hother, hrow⟩ := (hcopied row).mp hrow
      rw [← hfresh.entry_eq hentry hother ((hsource other row hrow).symm.trans huuid)]
      exact hrow
  · intro hrow
    refine ⟨List.mem_append_right old ?_, hsource entry row hrow⟩
    exact (hcopied row).mpr ⟨entry, hentry, hrow⟩

/-- The history of a fork. -/
theorem mem_history_forked (hintegral : Integral db) (hfresh : FreshBatch call db)
    (hforked : Forked call now db db') (hentry : entry ∈ call.entries)
    (row : WorkflowEventHistoryRow) :
    row ∈ db'.workflowEventsHistory.rows ∧ row.workflowUuid = entry.forkedWorkflowId ↔
      ∃ source ∈ db.workflowEventsHistory.rows, source.workflowUuid = entry.originalWorkflowId ∧
        source.functionId < entry.startStep ∧
        row = { source with workflowUuid := entry.forkedWorkflowId } := by
  rw [hforked.history]
  apply mem_append_copied hfresh hentry (fun row hrow ↦ (hintegral.history row hrow).1)
    (fun row ↦ mem_copiedHistory hintegral)
  rintro entry row ⟨source, -, -, -, rfl⟩
  rfl

/-- The streams of a fork. -/
theorem mem_streams_forked (hintegral : Integral db) (hfresh : FreshBatch call db)
    (hforked : Forked call now db db') (hentry : entry ∈ call.entries) (row : StreamRow) :
    row ∈ db'.streams.rows ∧ row.workflowUuid = entry.forkedWorkflowId ↔
      ∃ source ∈ db.streams.rows, source.workflowUuid = entry.originalWorkflowId ∧
        source.functionId < entry.startStep ∧
        row = { source with workflowUuid := entry.forkedWorkflowId } := by
  rw [hforked.streams]
  apply mem_append_copied hfresh hentry (fun row hrow ↦ (hintegral.streams row hrow).1)
    (fun row ↦ mem_copiedStreams hintegral)
  rintro entry row ⟨source, -, -, -, rfl⟩
  rfl

/-- The events of a fork are among the latest of the joined history. -/
theorem mem_events_forked (hintegral : Integral db) (hfresh : FreshBatch call db)
    (hforked : Forked call now db db') (hentry : entry ∈ call.entries) (row : WorkflowEventRow) :
    row ∈ db'.workflowEvents.rows ∧ row.workflowUuid = entry.forkedWorkflowId ↔
      ∃ source, (entry, source) ∈ ForkCall.latestEvents (call.joinedHistory db) ∧
        row = ⟨entry.forkedWorkflowId, source.key, source.value, source.serialization⟩ := by
  rw [hforked.events]
  apply mem_append_copied hfresh hentry hintegral.events
  · intro row
    rw [mem_copiedEvents]
    constructor
    · rintro ⟨⟨entry, source⟩, hpair, rfl⟩
      exact ⟨entry, (mem_join.mp (mem_joinedHistory_of_latest hpair)).1, source, hpair, rfl⟩
    · rintro ⟨entry, -, source, hpair, rfl⟩
      exact ⟨(entry, source), hpair, rfl⟩
  · rintro entry row ⟨source, -, rfl⟩
    rfl

/-- A joined row is an event of its entry below the start step. -/
theorem setsEvent_of_joined (hintegral : Integral db)
    {pair : ForkEntry × WorkflowEventHistoryRow} (hpair : pair ∈ call.joinedHistory db) :
    pair.1.setsEvent db pair.2.key := by
  obtain ⟨-, hrow, huuid, hid⟩ := (mem_joinedHistory hintegral).mp hpair
  exact ⟨pair.2, hrow, huuid, rfl, hid⟩

/-- Two joined rows of one partition are of one original and one key. -/
theorem original_eq_of_eventGroup {call' : ForkCall}
    {pair other : ForkEntry × WorkflowEventHistoryRow} (hpair : pair ∈ call.joinedHistory db)
    (hother : other ∈ call'.joinedHistory db)
    (hgroup : eventGroup pair = eventGroup other) :
    pair.1.originalWorkflowId = other.1.originalWorkflowId ∧ pair.2.key = other.2.key := by
  obtain ⟨-, -, -, huuid, -⟩ := mem_join.mp hpair
  obtain ⟨-, -, -, huuid', -⟩ := mem_join.mp hother
  obtain ⟨hsame, hkey⟩ := Prod.mk.inj hgroup
  have horiginal : pair.1.originalWorkflowId = other.1.originalWorkflowId := by
    calc
      pair.1.originalWorkflowId = pair.2.workflowUuid := huuid.symm
      _ = other.2.workflowUuid := hsame
      _ = other.1.originalWorkflowId := huuid'
  exact ⟨horiginal, hkey⟩

/-- With the events of the batch apart, the first row of a partition belongs to the fork that asks
for it. -/
theorem latest_entry_eq (hintegral : Integral db) (hapart : EventsApart call db)
    {pair other : ForkEntry × WorkflowEventHistoryRow} (hpair : pair ∈ call.joinedHistory db)
    (hother : other ∈ call.joinedHistory db) (hgroup : eventGroup pair = eventGroup other) :
    pair.1 = other.1 := by
  obtain ⟨horiginal, hkey⟩ := original_eq_of_eventGroup hpair hother hgroup
  have hsets := setsEvent_of_joined hintegral hpair
  have hsets' := setsEvent_of_joined hintegral hother
  rw [← hkey] at hsets'
  by_contra hne
  have hsymm : Std.Symm fun first second : ForkEntry ↦
      first.originalWorkflowId = second.originalWorkflowId →
        ∀ key, ¬ (first.setsEvent db key ∧ second.setsEvent db key) :=
    ⟨fun first second hrel horiginal key hsets ↦ hrel horiginal.symm key hsets.symm⟩
  exact hapart.forall (mem_join.mp hpair).1 (mem_join.mp hother).1 hne horiginal pair.2.key
    ⟨hsets, hsets'⟩

/-- The events of a fork are the last entries of its history. -/
theorem events_forked (hintegral : Integral db) (hfresh : FreshBatch call db)
    (hforked : Forked call now db db') (hapart : EventsApart call db)
    (hentry : entry ∈ call.entries) (row : WorkflowEventRow) :
    row ∈ db'.workflowEvents.rows ∧ row.workflowUuid = entry.forkedWorkflowId ↔
      ∃ last ∈ db'.workflowEventsHistory.rows, last.workflowUuid = entry.forkedWorkflowId ∧
        (∀ other ∈ db'.workflowEventsHistory.rows, other.workflowUuid = entry.forkedWorkflowId →
          other.key = last.key → other.functionId ≤ last.functionId) ∧
        row = ⟨entry.forkedWorkflowId, last.key, last.value, last.serialization⟩ := by
  have hhistory := mem_history_forked hintegral hfresh hforked hentry
  rw [mem_events_forked hintegral hfresh hforked hentry]
  constructor
  · rintro ⟨source, hlatest, rfl⟩
    obtain ⟨hjoined, -, hmax⟩ := latestOf_eq_some (mem_latestEvents.mp hlatest)
    obtain ⟨-, hsource, huuid, hid⟩ := (mem_joinedHistory hintegral).mp hjoined
    have hlast := (hhistory { source with workflowUuid := entry.forkedWorkflowId }).mpr
      ⟨source, hsource, huuid, hid, rfl⟩
    refine ⟨_, hlast.1, rfl, ?_, rfl⟩
    intro other hother howner hkey
    obtain ⟨source', hsource', huuid', hid', rfl⟩ := (hhistory other).mp ⟨hother, howner⟩
    have hjoined' : (entry, source') ∈ call.joinedHistory db :=
      (mem_joinedHistory hintegral).mpr ⟨hentry, hsource', huuid', hid'⟩
    apply hmax (entry, source') hjoined'
    rw [eventGroup, eventGroup, huuid, huuid']
    exact Prod.ext rfl hkey
  · rintro ⟨last, hlast, howner, hmax, rfl⟩
    obtain ⟨source, hsource, huuid, hid, rfl⟩ := (hhistory last).mp ⟨hlast, howner⟩
    have hjoined : (entry, source) ∈ call.joinedHistory db :=
      (mem_joinedHistory hintegral).mpr ⟨hentry, hsource, huuid, hid⟩
    obtain ⟨⟨winner, latest⟩, hlatest⟩ := exists_latestOf hjoined
    obtain ⟨hlatestJoined, hgroup, hlatestMax⟩ := latestOf_eq_some hlatest
    have hwinner : winner = entry := latest_entry_eq hintegral hapart hlatestJoined hjoined hgroup
    subst hwinner
    -- The first row of the partition and the last entry of the history bound each other.
    obtain ⟨-, hlatestMem, hlatestUuid, hlatestId⟩ := (mem_joinedHistory hintegral).mp hlatestJoined
    have hkey : latest.key = source.key := (Prod.mk.inj hgroup).2
    have hge := hlatestMax (winner, source) hjoined rfl
    have hle := hmax { latest with workflowUuid := winner.forkedWorkflowId }
      ((hhistory _).mpr ⟨latest, hlatestMem, hlatestUuid, hlatestId, rfl⟩).1 rfl hkey
    have hsame : latest = source := by
      apply db.workflowEventsHistory.eq_of_key hlatestMem hsource
      simp only [WorkflowEventHistoryRow.primaryKey, Prod.mk.injEq]
      exact ⟨hlatestUuid.trans huuid.symm, hkey, le_antisymm hle hge⟩
    refine ⟨source, ?_, rfl⟩
    rw [mem_latestEvents, ← hsame]
    exact hgroup ▸ hlatest

/-- Every fork of a fresh batch whose events are apart copies its prefix. -/
theorem copiesPrefix (hintegral : Integral db) (hfresh : FreshBatch call db)
    (hforked : Forked call now db db') (hapart : EventsApart call db)
    (hentry : entry ∈ call.entries) : CopiesPrefix call db db' entry where
  outputs := by
    rw [hforked.outputs]
    apply mem_append_copied hfresh hentry (fun row hrow ↦ (hintegral.outputs row hrow).1)
      (fun row ↦ mem_copiedOutputs hintegral)
    rintro entry row ⟨source, -, -, -, rfl⟩
    rfl
  history := mem_history_forked hintegral hfresh hforked hentry
  streams := mem_streams_forked hintegral hfresh hforked hentry
  events := events_forked hintegral hfresh hforked hapart hentry

end Prefix

/-! ## The other rows -/

section Others

variable {call : ForkCall} {now : ℤ} {db db' : SystemDatabase} {entry : ForkEntry}

@[simp]
theorem ForkCall.mark_workflowUuid (row : WorkflowStatusRow) :
    (call.mark row).workflowUuid = row.workflowUuid := by
  unfold ForkCall.mark
  split
  · rfl
  · rfl

theorem mem_append_of_not_forked {ρ : Type} {workflowUuid : ρ → String} {old copied : List ρ}
    (hcopied : ∀ row ∈ copied, workflowUuid row ∈ call.entries.map ForkEntry.forkedWorkflowId)
    {row : ρ} (hrow : workflowUuid row ∉ call.entries.map ForkEntry.forkedWorkflowId) :
    row ∈ old ++ copied ↔ row ∈ old := by
  rw [List.mem_append]
  constructor
  · rintro (hold | hnew)
    · exact hold
    · exact absurd (hcopied row hnew) hrow
  · exact Or.inl

theorem leavesOthers (hforked : Forked call now db db') :
    LeavesOthers call db db' where
  statuses := by
    intro row hrow
    obtain ⟨rows, hrows, hstatuses⟩ := hforked.statuses
    rw [hstatuses, List.mem_map]
    constructor
    · rintro ⟨old, hold, rfl⟩
      refine ⟨old, ?_, rfl⟩
      rw [ForkCall.mark_workflowUuid] at hrow
      refine (mem_append_of_not_forked ?_ hrow).mp hold
      intro new hnew
      rw [← map_forkedRows hrows]
      exact List.mem_map_of_mem hnew
    · rintro ⟨old, hold, rfl⟩
      exact ⟨old, List.mem_append_left rows hold, rfl⟩
  outputs := by
    intro row hrow
    rw [hforked.outputs]
    exact mem_append_of_not_forked owner_mem_of_copiedOutputs hrow
  history := by
    intro row hrow
    rw [hforked.history]
    exact mem_append_of_not_forked owner_mem_of_copiedHistory hrow
  events := by
    intro row hrow
    rw [hforked.events]
    exact mem_append_of_not_forked owner_mem_of_copiedEvents hrow
  streams := by
    intro row hrow
    rw [hforked.streams]
    exact mem_append_of_not_forked owner_mem_of_copiedStreams hrow
  notifications := hforked.notifications
  applicationVersions := hforked.applicationVersions

/-- The workflows after a fork. -/
theorem hasWorkflow_forked (hforked : Forked call now db db') (workflowId : String) :
    db'.hasWorkflow workflowId = true ↔ db.hasWorkflow workflowId = true ∨
      workflowId ∈ call.entries.map ForkEntry.forkedWorkflowId := by
  obtain ⟨rows, hrows, hstatuses⟩ := hforked.statuses
  rw [← map_forkedRows hrows, SystemDatabase.hasWorkflow_iff, SystemDatabase.hasWorkflow_iff,
    hstatuses]
  constructor
  · rintro ⟨row, hrow, rfl⟩
    obtain ⟨old, hold, rfl⟩ := List.mem_map.mp hrow
    rw [ForkCall.mark_workflowUuid]
    rcases List.mem_append.mp hold with hold | hnew
    · exact Or.inl ⟨old, hold, rfl⟩
    · exact Or.inr (List.mem_map_of_mem hnew)
  · rintro (⟨old, hold, rfl⟩ | hnew)
    · exact ⟨call.mark old, List.mem_map_of_mem (List.mem_append_left rows hold), by simp⟩
    · obtain ⟨row, hrow, rfl⟩ := List.mem_map.mp hnew
      exact ⟨call.mark row, List.mem_map_of_mem (List.mem_append_right _ hrow), by simp⟩

/-- The rows of existing workflows and those of the forks belong to workflows after the fork. -/
theorem owner_append_copied {ρ : Type} {workflowUuid : ρ → String} {old copied : List ρ}
    (hforked : Forked call now db db')
    (hold : ∀ row ∈ old, db.hasWorkflow (workflowUuid row) = true)
    (howner : ∀ row ∈ copied, workflowUuid row ∈ call.entries.map ForkEntry.forkedWorkflowId) :
    ∀ row ∈ old ++ copied, db'.hasWorkflow (workflowUuid row) = true := by
  intro row hrow
  rw [hasWorkflow_forked hforked]
  rcases List.mem_append.mp hrow with hrow | hrow
  · exact Or.inl (hold row hrow)
  · exact Or.inr (howner row hrow)

/-- The copies have the function IDs of their originals. -/
theorem integral_append_copies {ρ : Type} {workflowUuid : ρ → String} {functionId : ρ → ℤ}
    {rows : List ρ} {copy : ForkEntry × ρ → ρ} (hforked : Forked call now db db')
    (howner : ∀ pair, workflowUuid (copy pair) = pair.1.forkedWorkflowId)
    (hid : ∀ pair, functionId (copy pair) = functionId pair.2)
    (hrows : ∀ row ∈ rows, db.hasWorkflow (workflowUuid row) = true ∧ 1 ≤ functionId row) :
    ∀ row ∈ rows ++ (call.join workflowUuid functionId rows).map copy,
      db'.hasWorkflow (workflowUuid row) = true ∧ 1 ≤ functionId row := by
  intro row hrow
  refine ⟨owner_append_copied hforked (fun row hrow ↦ (hrows row hrow).1)
    (owner_mem_of_copies howner) row hrow, ?_⟩
  rcases List.mem_append.mp hrow with hrow | hrow
  · exact (hrows row hrow).2
  · obtain ⟨pair, hpair, rfl⟩ := List.mem_map.mp hrow
    rw [hid]
    exact (hrows pair.2 (mem_join.mp hpair).2.2.1).2

/-- A fork keeps the foreign keys and the function IDs. -/
theorem integral_forked (hintegral : Integral db) (hforked : Forked call now db db') :
    Integral db' where
  outputs := by
    rw [hforked.outputs]
    exact integral_append_copies hforked (fun _ ↦ rfl) (fun _ ↦ rfl) hintegral.outputs
  history := by
    rw [hforked.history]
    exact integral_append_copies hforked (fun _ ↦ rfl) (fun _ ↦ rfl) hintegral.history
  events := by
    rw [hforked.events]
    exact owner_append_copied hforked hintegral.events owner_mem_of_copiedEvents
  streams := by
    rw [hforked.streams]
    exact integral_append_copies hforked (fun _ ↦ rfl) (fun _ ↦ rfl) hintegral.streams

/-- A fork that has set an event below its start step has it as a current event. -/
theorem exists_event_of_copiesPrefix (hintegral : Integral db) (hfresh : FreshBatch call db)
    (hforked : Forked call now db db') (hentry : entry ∈ call.entries)
    (hcopies : CopiesPrefix call db db' entry) {key : String} (hsets : entry.setsEvent db key) :
    ∃ source, (entry, source) ∈ ForkCall.latestEvents (call.joinedHistory db) ∧
      source.key = key := by
  obtain ⟨source, hsource, huuid, hkey, hid⟩ := hsets
  let entries := (db'.workflowEventsHistory.rows.filter fun row ↦
    row.workflowUuid = entry.forkedWorkflowId && row.key = key).toFinset
  have hmem : ∀ row, row ∈ entries ↔ row ∈ db'.workflowEventsHistory.rows ∧
      row.workflowUuid = entry.forkedWorkflowId ∧ row.key = key := by
    intro row
    simp [entries]
  have hnonempty : entries.Nonempty := by
    refine ⟨{ source with workflowUuid := entry.forkedWorkflowId }, ?_⟩
    rw [hmem]
    exact ⟨((hcopies.history _).mpr ⟨source, hsource, huuid, hid, rfl⟩).1, rfl, hkey⟩
  obtain ⟨last, hlast, hmax⟩ :=
    entries.exists_max_image WorkflowEventHistoryRow.functionId hnonempty
  obtain ⟨hlastMem, hlastUuid, hlastKey⟩ := (hmem last).mp hlast
  have hevent := (hcopies.events
    ⟨entry.forkedWorkflowId, last.key, last.value, last.serialization⟩).mpr
      ⟨last, hlastMem, hlastUuid, fun other hother howner hsame ↦
        hmax other ((hmem other).mpr ⟨hother, howner, hsame.trans hlastKey⟩), rfl⟩
  obtain ⟨latest, hlatest, heq⟩ := (mem_events_forked hintegral hfresh hforked hentry _).mp hevent
  have hsame : last.key = latest.key := (WorkflowEventRow.mk.inj heq).2.1
  exact ⟨latest, hlatest, hsame.symm.trans hlastKey⟩

/-- If every fork has its events, the events of the batch are apart. -/
theorem eventsApart_of_copiesPrefix (hintegral : Integral db) (hfresh : FreshBatch call db)
    (hforked : Forked call now db db')
    (hcopies : ∀ entry ∈ call.entries, CopiesPrefix call db db' entry) : EventsApart call db := by
  have hforks := hfresh.distinct
  rw [List.Nodup, List.pairwise_map] at hforks
  refine hforks.imp_of_mem ?_
  rintro first second hfirst hsecond hne horiginal key ⟨hsets, hsets'⟩
  obtain ⟨source, hlatest, hkey⟩ :=
    exists_event_of_copiesPrefix hintegral hfresh hforked hfirst (hcopies first hfirst) hsets
  obtain ⟨source', hlatest', hkey'⟩ :=
    exists_event_of_copiesPrefix hintegral hfresh hforked hsecond (hcopies second hsecond) hsets'
  have huuid := (mem_join.mp (mem_joinedHistory_of_latest hlatest)).2.2.2.1
  have huuid' := (mem_join.mp (mem_joinedHistory_of_latest hlatest')).2.2.2.1
  have hgroup : eventGroup (first, source) = eventGroup (second, source') := by
    rw [eventGroup, eventGroup, huuid, huuid', horiginal, hkey, hkey']
  have hsame := latestEvents_unique hlatest hlatest' hgroup
  exact hne (congrArg ForkEntry.forkedWorkflowId (Prod.mk.inj hsame).1)

end Others

/-! ## One at a time -/

section OneByOne

variable {call : ForkCall} {entry : ForkEntry} {rest : List ForkEntry} {now time : ℤ}
  {db db' first last : SystemDatabase}

/-- The call on other entries. -/
def ForkCall.on (call : ForkCall) (entries : List ForkEntry) : ForkCall :=
  { call with entries := entries }

theorem SameButTimes.refl (db : SystemDatabase) : SameButTimes db db :=
  ⟨rfl, rfl, rfl, rfl, rfl, rfl, rfl⟩

theorem SameButTimes.trans {left middle right : SystemDatabase} (h : SameButTimes left middle)
    (h' : SameButTimes middle right) : SameButTimes left right :=
  ⟨h.statuses.trans h'.statuses, h.outputs.trans h'.outputs, h.history.trans h'.history,
    h.events.trans h'.events, h.streams.trans h'.streams, h.notifications.trans h'.notifications,
    h.applicationVersions.trans h'.applicationVersions⟩

/-- The marks of a batch, one entry after the other. -/
theorem mark_cons (row : WorkflowStatusRow) :
    (call.on (entry :: rest)).mark row = (call.on rest).mark ((call.on [entry]).mark row) := by
  have hid : ((call.on [entry]).mark row).workflowUuid = row.workflowUuid :=
    ForkCall.mark_workflowUuid row
  simp only [ForkCall.mark, ForkCall.on, List.map_cons, List.map_nil, List.mem_cons,
    List.not_mem_nil, or_false] at hid ⊢
  by_cases hfirst : row.workflowUuid = entry.originalWorkflowId
  · by_cases hrest : row.workflowUuid ∈ rest.map ForkEntry.originalWorkflowId
    · simp [hfirst, wasForkedUpdate]
    · simp [hfirst, wasForkedUpdate]
  · simp [hfirst]

theorem withoutTimes_mark (row : WorkflowStatusRow) :
    (call.mark row).withoutTimes = call.mark row.withoutTimes := by
  have hid : row.withoutTimes.workflowUuid = row.workflowUuid := rfl
  unfold ForkCall.mark
  rw [hid]
  by_cases hmarked : row.workflowUuid ∈ call.entries.map ForkEntry.originalWorkflowId
  · rw [if_pos hmarked, if_pos hmarked]
    rfl
  · rw [if_neg hmarked, if_neg hmarked]

/-- The mark on an original does not show in its forks. -/
theorem forkedRow_mark (other : ForkCall) (row : WorkflowStatusRow) :
    call.forkedRow now entry (other.mark row) = call.forkedRow now entry row := by
  unfold ForkCall.mark
  split
  · rfl
  · rfl

theorem lookup_forked (hforked : Forked call now db db') {workflowId : String}
    {original : WorkflowStatusRow} (h : db.workflowStatus.lookup workflowId = some original) :
    db'.workflowStatus.lookup workflowId = some (call.mark original) := by
  obtain ⟨rows, -, hstatuses⟩ := hforked.statuses
  obtain ⟨hrow, hid⟩ := db.workflowStatus.lookup_eq_some.mp h
  apply db'.workflowStatus.lookup_eq_some.mpr
  refine ⟨?_, by rw [ForkCall.mark_workflowUuid, hid]⟩
  change _ ∈ db'.statusRows
  rw [hstatuses]
  exact List.mem_map_of_mem (List.mem_append_left rows hrow)

/-- The status rows of the later entries are the same after the first fork. -/
theorem forkedRows_forked (hforked : Forked (call.on [entry]) time db first)
    {rows : List WorkflowStatusRow} (h : (call.on rest).forkedRows now db rest = .ok rows) :
    (call.on rest).forkedRows now first rest = .ok rows := by
  rw [forkedRows_eq_ok] at h ⊢
  refine h.imp ?_
  rintro entry row ⟨original, horiginal, rfl⟩
  exact ⟨_, lookup_forked hforked horiginal, (forkedRow_mark _ original).symm⟩

/-- What a fresh batch says of its first entry and of the others. -/
theorem FreshBatch.of_cons (hfresh : FreshBatch (call.on (entry :: rest)) db) :
    FreshBatch (call.on [entry]) db ∧ FreshBatch (call.on rest) db ∧
      entry.forkedWorkflowId ∉ rest.map ForkEntry.forkedWorkflowId := by
  obtain ⟨hnotin, hnodup⟩ := List.nodup_cons.mp hfresh.distinct
  refine ⟨⟨List.nodup_singleton _, ?_⟩, ⟨hnodup, ?_⟩, hnotin⟩
  · intro other hother
    rw [List.mem_singleton.mp hother]
    exact hfresh.fresh entry List.mem_cons_self
  · intro other hother
    exact hfresh.fresh other (List.mem_cons_of_mem entry hother)

/-- The later entries are fresh after the first fork. -/
theorem FreshBatch.after_first (hfresh : FreshBatch (call.on (entry :: rest)) db)
    (hforked : Forked (call.on [entry]) time db first) : FreshBatch (call.on rest) first := by
  obtain ⟨-, hrest, hnotin⟩ := hfresh.of_cons
  refine ⟨hrest.distinct, ?_⟩
  intro other hother
  apply Bool.eq_false_of_not_eq_true
  rw [hasWorkflow_forked hforked]
  rintro (hold | hnew)
  · rw [hrest.fresh other hother] at hold
    cases hold
  · apply hnotin
    rw [← List.mem_singleton.mp hnew]
    exact List.mem_map_of_mem hother

/-- The first fork adds no row to the originals of the others. -/
theorem join_after_first {ρ : Type} {workflowUuid : ρ → String} {functionId : ρ → ℤ}
    {rows copied : List ρ} (hfresh : FreshBatch (call.on (entry :: rest)) db)
    (hexist : ∀ other ∈ rest, db.hasWorkflow other.originalWorkflowId = true)
    (howner : ∀ row ∈ copied,
      workflowUuid row ∈ (call.on [entry]).entries.map ForkEntry.forkedWorkflowId) :
    (call.on rest).join workflowUuid functionId (rows ++ copied) =
      (call.on rest).join workflowUuid functionId rows := by
  apply join_append_of_ne
  intro row hrow other hother hsame
  have hne : other.originalWorkflowId ≠ entry.forkedWorkflowId :=
    hfresh.key_ne List.mem_cons_self (hexist other hother)
  exact hne (hsame.symm.trans (List.mem_singleton.mp (howner row hrow)))

/-- The copies of a batch are those of its first entry, followed by those of the others after the
first fork. -/
theorem copies_cons {ρ : Type} {workflowUuid : ρ → String} {functionId : ρ → ℤ}
    {rows copied : List ρ} (copy : ForkEntry × ρ → ρ)
    (hfresh : FreshBatch (call.on (entry :: rest)) db)
    (hexist : ∀ other ∈ rest, db.hasWorkflow other.originalWorkflowId = true)
    (howner : ∀ row ∈ copied,
      workflowUuid row ∈ (call.on [entry]).entries.map ForkEntry.forkedWorkflowId) :
    ((call.on [entry]).join workflowUuid functionId rows).map copy ++
        ((call.on rest).join workflowUuid functionId (rows ++ copied)).map copy =
      ((call.on (entry :: rest)).join workflowUuid functionId rows).map copy := by
  have hsplit : (call.on (entry :: rest)).join workflowUuid functionId rows =
      (call.on [entry]).join workflowUuid functionId rows ++
        (call.on rest).join workflowUuid functionId rows := join_cons rest rfl
  calc
    _ = ((call.on [entry]).join workflowUuid functionId rows).map copy ++
        ((call.on rest).join workflowUuid functionId rows).map copy := by
      rw [join_after_first hfresh hexist howner]
    _ = ((call.on (entry :: rest)).join workflowUuid functionId rows).map copy := by
      rw [hsplit, List.map_append]

/-- The status rows of a batch are those of its first entry followed by those of the others. -/
theorem statuses_forked_cons (hfresh : FreshBatch (call.on (entry :: rest)) db)
    (hexist : db.hasWorkflow entry.originalWorkflowId = true)
    (hbatch : Forked (call.on (entry :: rest)) now db db')
    (hfirst : Forked (call.on [entry]) time db first)
    (hrest : Forked (call.on rest) now first last) :
    db'.statusRows.map WorkflowStatusRow.withoutTimes =
      last.statusRows.map WorkflowStatusRow.withoutTimes := by
  obtain ⟨rows, hrows, hstatuses⟩ := hbatch.statuses
  obtain ⟨firstRows, hfirstRows, hfirstStatuses⟩ := hfirst.statuses
  obtain ⟨restRows, hrestRows, hrestStatuses⟩ := hrest.statuses
  obtain ⟨row, later, ⟨original, horiginal, rfl⟩, hlater, rfl⟩ :=
    List.forall₂_cons_left_iff.mp (forkedRows_eq_ok.mp hrows)
  obtain ⟨row', none, ⟨original', horiginal', rfl⟩, hnone, rfl⟩ :=
    List.forall₂_cons_left_iff.mp (forkedRows_eq_ok.mp hfirstRows)
  rw [List.forall₂_nil_left_iff.mp hnone] at hfirstStatuses
  rw [horiginal] at horiginal'
  cases horiginal'
  have hlaterRows : (call.on rest).forkedRows now db rest = .ok later := forkedRows_eq_ok.mpr hlater
  have hsame : restRows = later := by
    have hagain := forkedRows_forked hfirst hlaterRows
    rw [show (call.on rest).entries = rest from rfl, hagain] at hrestRows
    exact (Except.ok.inj hrestRows).symm
  -- The new rows of the others are not marked by the first entry.
  have hunmarked : ∀ row ∈ later, (call.on [entry]).mark row = row := by
    intro row hrow
    have hid : row.workflowUuid ∈ rest.map ForkEntry.forkedWorkflowId := by
      rw [← map_forkedRows hlaterRows]
      exact List.mem_map_of_mem hrow
    obtain ⟨other, hother, hfork⟩ := List.mem_map.mp hid
    have hne : entry.originalWorkflowId ≠ row.workflowUuid := by
      rw [← hfork]
      exact hfresh.key_ne (List.mem_cons_of_mem entry hother) hexist
    have hnot : row.workflowUuid ∉ (call.on [entry]).entries.map ForkEntry.originalWorkflowId := by
      intro hmem
      exact hne (List.mem_singleton.mp hmem).symm
    rw [ForkCall.mark, if_neg hnot]
  have hmarks : later.map (call.on (entry :: rest)).mark = later.map (call.on rest).mark := by
    apply List.map_congr_left
    intro row hrow
    rw [mark_cons, hunmarked row hrow]
  have hold : db.statusRows.map (call.on (entry :: rest)).mark =
      (db.statusRows.map (call.on [entry]).mark).map (call.on rest).mark := by
    rw [List.map_map]
    apply List.map_congr_left
    intro row _
    exact mark_cons row
  have hnew : ((call.on (entry :: rest)).mark
        ((call.on (entry :: rest)).forkedRow now entry original)).withoutTimes =
      ((call.on rest).mark ((call.on [entry]).mark
        ((call.on [entry]).forkedRow time entry original))).withoutTimes := by
    rw [mark_cons, withoutTimes_mark, withoutTimes_mark, withoutTimes_mark, withoutTimes_mark]
    rfl
  rw [hstatuses, hrestStatuses, hfirstStatuses, hsame]
  simp only [List.map_append, List.map_cons, List.map_nil, hmarks, hold, hnew, List.append_assoc,
    List.singleton_append]

/-- The entries of a batch share their other arguments, so the copies of the batch are those of
its first entry followed by those of the others. -/
theorem forked_cons (hintegral : Integral db) (hfresh : FreshBatch (call.on (entry :: rest)) db)
    (hexist : ∀ other ∈ entry :: rest, db.hasWorkflow other.originalWorkflowId = true)
    (hapart : EventsApart (call.on (entry :: rest)) db)
    (hbatch : Forked (call.on (entry :: rest)) now db db')
    (hfirst : Forked (call.on [entry]) time db first)
    (hrest : Forked (call.on rest) now first last) : SameButTimes db' last := by
  have hexistRest : ∀ other ∈ rest, db.hasWorkflow other.originalWorkflowId = true :=
    fun other hother ↦ hexist other (List.mem_cons_of_mem entry hother)
  refine ⟨?_, ?_, ?_, ?_, ?_, ?_, ?_⟩
  · exact statuses_forked_cons hfresh (hexist entry List.mem_cons_self) hbatch hfirst hrest
  · rw [hrest.outputs, hfirst.outputs, hbatch.outputs, List.append_assoc,
      ForkCall.copiedOutputs.eq_def (call.on rest), hfirst.outputs]
    exact congrArg (db.operationOutputs.rows ++ ·)
      (copies_cons _ hfresh hexistRest owner_mem_of_copiedOutputs).symm
  · rw [hrest.history, hfirst.history, hbatch.history, List.append_assoc,
      ForkCall.copiedHistory.eq_def (call.on rest), ForkCall.joinedHistory, hfirst.history]
    exact congrArg (db.workflowEventsHistory.rows ++ ·)
      (copies_cons _ hfresh hexistRest owner_mem_of_copiedHistory).symm
  · rw [hrest.events, hfirst.events, hbatch.events, List.append_assoc]
    congr 1
    have hhistory : (call.on rest).joinedHistory first = (call.on rest).joinedHistory db := by
      rw [ForkCall.joinedHistory, hfirst.history]
      exact join_after_first hfresh hexistRest owner_mem_of_copiedHistory
    have hsplit : (call.on (entry :: rest)).joinedHistory db =
        (call.on [entry]).joinedHistory db ++ (call.on rest).joinedHistory db := join_cons rest rfl
    have hgroups : ∀ pair ∈ (call.on [entry]).joinedHistory db,
        ∀ other ∈ (call.on rest).joinedHistory db, eventGroup pair ≠ eventGroup other := by
      intro pair hpair other hother hgroup
      obtain ⟨horiginal, hkey⟩ := original_eq_of_eventGroup hpair hother hgroup
      have hentry : pair.1 = entry := List.mem_singleton.mp (mem_join.mp hpair).1
      have hsets := setsEvent_of_joined hintegral hpair
      have hsets' := setsEvent_of_joined hintegral hother
      rw [hentry] at horiginal hsets
      rw [← hkey] at hsets'
      exact (List.pairwise_cons.mp hapart).1 other.1 (mem_join.mp hother).1 horiginal pair.2.key
        ⟨hsets, hsets'⟩
    rw [ForkCall.copiedEvents, hsplit, latestEvents_append hgroups, List.map_append,
      ForkCall.copiedEvents, ForkCall.copiedEvents, hhistory]
  · rw [hrest.streams, hfirst.streams, hbatch.streams, List.append_assoc,
      ForkCall.copiedStreams.eq_def (call.on rest), hfirst.streams]
    exact congrArg (db.streams.rows ++ ·)
      (copies_cons _ hfresh hexistRest owner_mem_of_copiedStreams).symm
  · rw [hrest.notifications, hfirst.notifications, hbatch.notifications]
  · rw [hrest.applicationVersions, hfirst.applicationVersions, hbatch.applicationVersions]

/-- The events of the later entries are apart after the first fork as well. -/
theorem EventsApart.after_first (hintegral : Integral db)
    (hfresh : FreshBatch (call.on (entry :: rest)) db)
    (hexist : ∀ other ∈ rest, db.hasWorkflow other.originalWorkflowId = true)
    (hapart : EventsApart (call.on (entry :: rest)) db)
    (hforked : Forked (call.on [entry]) time db first) : EventsApart (call.on rest) first := by
  have hsets : ∀ other ∈ rest, ∀ key, other.setsEvent first key → other.setsEvent db key := by
    rintro other hother key ⟨row, hrow, huuid, hkey, hid⟩
    rw [hforked.history] at hrow
    rcases List.mem_append.mp hrow with hrow | hrow
    · exact ⟨row, hrow, huuid, hkey, hid⟩
    · obtain ⟨copied, hcopied, source, -, -, -, rfl⟩ := (mem_copiedHistory hintegral).mp hrow
      have hne : other.originalWorkflowId ≠ entry.forkedWorkflowId :=
        hfresh.key_ne List.mem_cons_self (hexist other hother)
      rw [List.mem_singleton.mp hcopied] at huuid
      exact absurd huuid.symm hne
  refine (List.pairwise_cons.mp hapart).2.imp_of_mem ?_
  intro left right hleft hright hrel horiginal key hboth
  exact hrel horiginal key ⟨hsets left hleft key hboth.1, hsets right hright key hboth.2⟩

/-- Forking one entry after the other ends, and in the database of the batch up to timestamps. -/
theorem forkOneByOne_spec (call : ForkCall) (entries : List ForkEntry) {times : List ℤ}
    (hintegral : Integral db) (hfresh : FreshBatch (call.on entries) db)
    (hexist : ∀ entry ∈ entries, db.hasWorkflow entry.originalWorkflowId = true)
    (hapart : EventsApart (call.on entries) db) (hforked : Forked (call.on entries) now db db')
    (htimes : times.length = entries.length) :
    ∃ db'', forkOneByOne call (entries.zip times) db = .ok db'' ∧ SameButTimes db' db'' := by
  induction entries generalizing db db' times with
  | nil =>
    refine ⟨db, rfl, ?_⟩
    obtain ⟨rows, hrows, hstatuses⟩ := hforked.statuses
    have hnone : rows = [] := (Except.ok.inj hrows).symm
    have hmarks : db'.statusRows = db.statusRows := by
      rw [hstatuses, hnone, List.append_nil]
      exact List.map_id'' (fun row ↦ mark_of_nil rfl) _
    exact ⟨by rw [hmarks], hforked.outputs.trans (List.append_nil _),
      hforked.history.trans (List.append_nil _), hforked.events.trans (List.append_nil _),
      hforked.streams.trans (List.append_nil _), hforked.notifications, hforked.applicationVersions⟩
  | cons entry rest ih =>
    cases times with
    | nil => cases htimes
    | cons time times =>
      have hexistRest : ∀ other ∈ rest, db.hasWorkflow other.originalWorkflowId = true :=
        fun other hother ↦ hexist other (List.mem_cons_of_mem entry hother)
      have hexistFirst : ∀ other ∈ (call.on [entry]).entries,
          db.hasWorkflow other.originalWorkflowId = true := by
        intro other hother
        rw [List.mem_singleton.mp hother]
        exact hexist entry List.mem_cons_self
      obtain ⟨first, hreturned⟩ := exists_forkWorkflow time hintegral hfresh.of_cons.1 hexistFirst
      have hfirst := (forked_of_returned hreturned).1
      have hintegralFirst := integral_forked hintegral hfirst
      have hfreshRest := hfresh.after_first hfirst
      have hexistAfter : ∀ other ∈ rest, first.hasWorkflow other.originalWorkflowId = true :=
        fun other hother ↦ (hasWorkflow_forked hfirst _).mpr (Or.inl (hexistRest other hother))
      obtain ⟨last, hlast⟩ := exists_forkWorkflow now hintegralFirst hfreshRest hexistAfter
      have hrest := (forked_of_returned hlast).1
      obtain ⟨db'', hone, hsame⟩ := ih hintegralFirst hfreshRest hexistAfter
        (hapart.after_first hintegral hfresh hexistRest hfirst) hrest
        (Nat.succ_injective htimes)
      refine ⟨db'', ?_, (forked_cons hintegral hfresh hexist hapart hforked hfirst hrest).trans hsame⟩
      rw [List.zip_cons_cons, forkOneByOne,
        show ({ call with entries := [entry] } : ForkCall) = call.on [entry] from rfl, hreturned]
      exact hone

end OneByOne

/-- A batch with distinct new IDs forks exactly, and like its entries one at a time, if and only if
no two of its entries share an original with an event of one key below both start steps; a batch
with a missing original always raises. -/
theorem forksExactly_iff (call : ForkCall) (now : ℤ) {db : SystemDatabase} (hintegral : Integral db)
    (hfresh : FreshBatch call db) :
    ForksExactly call now db ↔
      ((∀ entry ∈ call.entries, db.hasWorkflow entry.originalWorkflowId = true) →
        EventsApart call db) := by
  constructor
  · intro hexact hexist
    obtain ⟨db', hreturned, hcopies, -⟩ := hexact.copies hexist
    exact eventsApart_of_copiesPrefix hintegral hfresh (forked_of_returned hreturned).1 hcopies
  · intro hcondition
    constructor
    · rintro ⟨entry, hentry, hmissing⟩
      exact forkWorkflow_of_missing hentry hmissing
    · intro hexist
      have hapart := hcondition hexist
      obtain ⟨db', hreturned⟩ := exists_forkWorkflow now hintegral hfresh hexist
      have hforked := (forked_of_returned hreturned).1
      refine ⟨db', hreturned, ?_, leavesOthers hforked, ?_⟩
      · intro entry hentry
        exact copiesPrefix hintegral hfresh hforked hapart hentry
      · intro times htimes
        exact forkOneByOne_spec call call.entries hintegral hfresh hexist hapart hforked htimes

/-- A workflow that has set an event in its first step. -/
def eventfulDatabase : SystemDatabase :=
  putEvent "wf" 1 "k" "v" "py_pickle"
    ((StatusOp.init { status := startedStatus "wf" } built_startedWf).apply 0
      SystemDatabase.empty)

theorem integral_eventfulDatabase : Integral eventfulDatabase := by
  refine ⟨?_, ?_, ?_, ?_⟩
  · intro row hrow
    cases hrow
  · intro row hrow
    rw [List.mem_singleton.mp hrow]
    decide
  · intro row hrow
    rw [List.mem_singleton.mp hrow]
    decide
  · intro row hrow
    cases hrow

/-- Two forks of the workflow, the first one from its beginning. -/
def forkTwice (startStep : ℤ) : ForkCall where
  entries := [⟨"wf", "first", startStep⟩, ⟨"wf", "second", 2⟩]

theorem freshBatch_forkTwice (startStep : ℤ) : FreshBatch (forkTwice startStep) eventfulDatabase := by
  have hids : (forkTwice startStep).entries.map ForkEntry.forkedWorkflowId = ["first", "second"] :=
    rfl
  constructor
  · rw [hids]
    decide
  · intro entry hentry
    have hid : entry.forkedWorkflowId ∈ ["first", "second"] := by
      rw [← hids]
      exact List.mem_map_of_mem hentry
    have hnew : ∀ id ∈ ["first", "second"], eventfulDatabase.hasWorkflow id = false := by decide
    exact hnew _ hid

theorem forksExactly_oneWithEvents : ForksExactly (forkTwice 1) 5 eventfulDatabase := by
  apply (forksExactly_iff (forkTwice 1) 5 integral_eventfulDatabase (freshBatch_forkTwice 1)).mpr
  intro _
  refine List.Pairwise.cons ?_ (List.pairwise_singleton _ _)
  rintro other - - key ⟨⟨row, hrow, -, -, hid⟩, -⟩
  rw [List.mem_singleton.mp hrow] at hid
  exact absurd hid (by decide)

/-- Two forks below the step: both have the history entry, and only the first has the event. -/
theorem not_forksExactly_bothWithEvents :
    ¬ ForksExactly (forkTwice 2) 5 eventfulDatabase ∧
      (((forkWorkflow (forkTwice 2) 5 eventfulDatabase).stateAfter
        eventfulDatabase).workflowEventsHistory.rows.map WorkflowEventHistoryRow.workflowUuid =
          ["wf", "first", "second"]) ∧
      (((forkWorkflow (forkTwice 2) 5 eventfulDatabase).stateAfter
        eventfulDatabase).workflowEvents.rows.map WorkflowEventRow.workflowUuid =
          ["wf", "first"]) := by
  refine ⟨?_, by decide, by decide⟩
  intro hexact
  have hexist : ∀ entry ∈ (forkTwice 2).entries,
      eventfulDatabase.hasWorkflow entry.originalWorkflowId = true := by decide
  obtain ⟨db', hreturned, hcopies, -⟩ := hexact.copies hexist
  have hapart := eventsApart_of_copiesPrefix integral_eventfulDatabase (freshBatch_forkTwice 2)
    (forked_of_returned hreturned).1 hcopies
  have hsets : ∀ entry ∈ (forkTwice 2).entries, entry.setsEvent eventfulDatabase "k" := by
    intro entry hentry
    refine ⟨⟨"wf", "k", "v", 1, some "py_pickle"⟩, by decide, ?_⟩
    revert entry
    decide
  exact (List.pairwise_cons.mp hapart).1 ⟨"wf", "second", 2⟩ (List.mem_singleton.mpr rfl) rfl "k"
    ⟨hsets _ List.mem_cons_self, hsets _ (List.mem_cons_of_mem _ (List.mem_singleton.mpr rfl))⟩

end DBOSModel.SysDb

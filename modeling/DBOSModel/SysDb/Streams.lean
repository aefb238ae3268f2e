import DBOSModel.SysDb.WorkflowData

/-!
# Stream offsets

A reader of a stream counts up from 0 and waits where it finds no value, so the offsets of a stream
must be 0, 1, …, n - 1. An insert takes the offset after the largest one and a deletion takes a
stream as a whole, so both keep this. A fork copies the values of the steps below its start step:
its offsets have no gap exactly if these values are the first ones of their stream. Steps that run
concurrently write in any order, so the value of a later step can come before that of an earlier
one, and the fork then starts with a gap.
-/

namespace DBOSModel.SysDb

open Relational DBOSModel.Core

/-- A stored value of the stream is at the offset. -/
def HasOffset (db : SystemDatabase) (workflowUuid key : String) (offset : ℤ) : Prop :=
  ∃ row ∈ db.streams.rows, row.workflowUuid = workflowUuid ∧ row.key = key ∧ row.offset = offset

/-- The offsets of every stream are 0, 1, …, n - 1. -/
def Contiguous (db : SystemDatabase) : Prop :=
  ∀ workflowUuid key, ∃ n : ℕ, ∀ offset,
    HasOffset db workflowUuid key offset ↔ 0 ≤ offset ∧ offset < n

/-- `read_stream`. -/
def readStream {V : Type} (serializers : Serializers V) (workflowUuid key : String) (offset : ℤ)
    (db : SystemDatabase) : Except DBOSError V :=
  match db.streams.lookup (workflowUuid, key, offset) with
  | none => .error (.valueError ("No value found for workflow_uuid=" ++ workflowUuid ++ ", key=" ++
      key ++ ", offset=" ++ toString offset))
  | some row => serializers.deserializeValue (some row.value) row.serialization

/-- The values of the original below the start step are the first ones of their streams. -/
def ForkEntry.CutsStreams (entry : ForkEntry) (db : SystemDatabase) : Prop :=
  ∀ copied ∈ db.streams.rows, ∀ left ∈ db.streams.rows,
    copied.workflowUuid = entry.originalWorkflowId → copied.functionId < entry.startStep →
    left.workflowUuid = entry.originalWorkflowId → entry.startStep ≤ left.functionId →
    copied.key = left.key → copied.offset < left.offset

/-- If the step forks, it cuts every stream it copies after its first values. -/
def ForksCutStreams {V : Type} (db : SystemDatabase) (action : DataAction V) : Prop :=
  ∀ call ∈ action.forkCall, ∀ entry ∈ call.entries, entry.CutsStreams db

instance (entry : ForkEntry) (db : SystemDatabase) : Decidable (entry.CutsStreams db) :=
  inferInstanceAs (Decidable (∀ copied ∈ db.streams.rows, ∀ left ∈ db.streams.rows, _))

instance {V : Type} (db : SystemDatabase) (action : DataAction V) :
    Decidable (ForksCutStreams db action) :=
  inferInstanceAs (Decidable (∀ call ∈ action.forkCall, ∀ entry ∈ call.entries, _))

section Offsets

variable {db db' : SystemDatabase} {workflowUuid key : String} {n : ℕ}

/-- A set of numbers below a bound that has all the smaller ones of each of its elements. -/
theorem exists_bound_of_downward {S : ℤ → Prop} (n : ℕ) (hbound : ∀ a, S a → 0 ≤ a ∧ a < n)
    (hdown : ∀ a b, 0 ≤ a → a ≤ b → S b → S a) : ∃ m : ℕ, ∀ a, S a ↔ 0 ≤ a ∧ a < m := by
  induction n with
  | zero =>
    refine ⟨0, ?_⟩
    intro a
    refine ⟨hbound a, ?_⟩
    rintro ⟨hle, hlt⟩
    exact absurd hlt (by simpa using hle)
  | succ n ih =>
    by_cases hlast : S n
    · refine ⟨n + 1, ?_⟩
      intro a
      refine ⟨hbound a, ?_⟩
      rintro ⟨hle, hlt⟩
      exact hdown a n hle (by push_cast at hlt; omega) hlast
    · apply ih
      intro a ha
      have hne : a ≠ n := by
        rintro rfl
        exact hlast ha
      have hlt := hbound a ha
      push_cast at hlt
      omega

/-- The insert goes to the first free offset. -/
theorem nextOffset_eq (h : ∀ offset, HasOffset db workflowUuid key offset ↔ 0 ≤ offset ∧ offset < n) :
    nextOffset workflowUuid key db = n := by
  have hmem : ∀ offset, offset ∈ (db.streams.rows.filter fun row ↦
      row.workflowUuid = workflowUuid && row.key = key).map StreamRow.offset ↔
        0 ≤ offset ∧ offset < n := by
    intro offset
    rw [← h offset, List.mem_map]
    simp only [List.mem_filter, Bool.and_eq_true, decide_eq_true_eq]
    constructor
    · rintro ⟨row, ⟨hrow, huuid, hkey⟩, hoffset⟩
      exact ⟨row, hrow, huuid, hkey, hoffset⟩
    · rintro ⟨row, hrow, huuid, hkey, hoffset⟩
      exact ⟨row, ⟨hrow, huuid, hkey⟩, hoffset⟩
  unfold nextOffset
  simp only
  split
  · rename_i hnone
    have hempty := List.max?_eq_none_iff.mp hnone
    rw [hempty] at hmem
    have hzero := (hmem 0).mpr.mt (List.not_mem_nil)
    omega
  · rename_i largest hmax
    obtain ⟨hin, hall⟩ := List.max?_eq_some_iff.mp hmax
    have hlargest := (hmem largest).mp hin
    have hlast := hall (n - 1) ((hmem (n - 1)).mpr (by omega))
    omega

/-- What a reader finds at an offset. -/
theorem readStream_eq_error {V : Type} (serializers : Serializers V) {offset : ℤ}
    (h : ¬ HasOffset db workflowUuid key offset) :
    readStream serializers workflowUuid key offset db = .error (.valueError
      ("No value found for workflow_uuid=" ++ workflowUuid ++ ", key=" ++ key ++ ", offset=" ++
        toString offset)) := by
  unfold readStream
  cases hrow : db.streams.lookup (workflowUuid, key, offset) with
  | none => rfl
  | some row =>
    obtain ⟨hmem, hkey⟩ := db.streams.lookup_eq_some.mp hrow
    obtain ⟨huuid, hname, hoffset⟩ := by simpa [StreamRow.primaryKey] using hkey
    exact absurd ⟨row, hmem, huuid, hname, hoffset⟩ h

end Offsets

/-! ## One step -/

section Step

variable {V : Type} {serializers : Serializers V} {isClosed : V → Bool} {db db' : SystemDatabase}
  {action : DataAction V}

theorem Contiguous.of_streams (h : Contiguous db) (hsame : db'.streams = db.streams) :
    Contiguous db' := by
  intro workflowUuid key
  obtain ⟨n, hn⟩ := h workflowUuid key
  refine ⟨n, ?_⟩
  intro offset
  rw [← hn offset, HasOffset, HasOffset, hsame]

theorem contiguous_appendStream {workflowUuid key value serialization : String} {functionId : ℤ}
    (h : Contiguous db)
    (happend : appendStream workflowUuid functionId key value serialization db = .ok db') :
    Contiguous db' := by
  intro uuid name
  obtain ⟨n, hn⟩ := h uuid name
  by_cases hstream : uuid = workflowUuid ∧ name = key
  · obtain ⟨rfl, rfl⟩ := hstream
    have hnext : nextOffset uuid name db = n := nextOffset_eq hn
    refine ⟨n + 1, ?_⟩
    intro offset
    have hoffset : HasOffset db' uuid name offset ↔ HasOffset db uuid name offset ∨ offset = n := by
      unfold HasOffset
      simp only [mem_streams_appendStream happend, hnext]
      constructor
      · rintro ⟨row, hold | rfl, huuid, hname, rfl⟩
        · exact Or.inl ⟨row, hold, huuid, hname, rfl⟩
        · exact Or.inr rfl
      · rintro (⟨row, hold, hrow⟩ | rfl)
        · exact ⟨row, Or.inl hold, hrow⟩
        · exact ⟨_, Or.inr rfl, rfl, rfl, rfl⟩
    rw [hoffset, hn]
    push_cast
    omega
  · refine ⟨n, ?_⟩
    intro offset
    rw [← hn offset]
    unfold HasOffset
    simp only [mem_streams_appendStream happend]
    constructor
    · rintro ⟨row, hold | rfl, huuid, hname, hoffset⟩
      · exact ⟨row, hold, huuid, hname, hoffset⟩
      · exact absurd ⟨huuid.symm, hname.symm⟩ hstream
    · rintro ⟨row, hold, hrow⟩
      exact ⟨row, Or.inl hold, hrow⟩

/-- A deletion takes the streams of a workflow as a whole. -/
theorem contiguous_deleteStatusWhere (h : Contiguous db) (hintegral : Integral db)
    (p : WorkflowStatusRow → Bool) : Contiguous (db.deleteStatusWhere p) := by
  intro workflowUuid key
  have hrows : ∀ row, row ∈ (db.deleteStatusWhere p).streams.rows ↔ row ∈ db.streams.rows ∧
      (db.deleteStatusWhere p).hasWorkflow row.workflowUuid = true :=
    fun row ↦ mem_cascade fun row hrow ↦ (hintegral.streams row hrow).1
  by_cases hkept : (db.deleteStatusWhere p).hasWorkflow workflowUuid = true
  · obtain ⟨n, hn⟩ := h workflowUuid key
    refine ⟨n, ?_⟩
    intro offset
    rw [← hn offset]
    constructor
    · rintro ⟨row, hrow, hoffset⟩
      exact ⟨row, ((hrows row).mp hrow).1, hoffset⟩
    · rintro ⟨row, hrow, rfl, hoffset⟩
      exact ⟨row, (hrows row).mpr ⟨hrow, hkept⟩, rfl, hoffset⟩
  · refine ⟨0, ?_⟩
    intro offset
    constructor
    · rintro ⟨row, hrow, rfl, -⟩
      exact absurd ((hrows row).mp hrow).2 hkept
    · rintro ⟨hle, hlt⟩
      exact absurd hlt (by simpa using hle)

section Forked

variable {call : ForkCall} {now : ℤ} {entry : ForkEntry} {key : String} {offset : ℤ}

/-- The streams of a fork. -/
theorem hasOffset_forked (hintegral : Integral db) (hfresh : FreshBatch call db)
    (hforked : Forked call now db db') (hentry : entry ∈ call.entries) :
    HasOffset db' entry.forkedWorkflowId key offset ↔ ∃ source ∈ db.streams.rows,
      source.workflowUuid = entry.originalWorkflowId ∧ source.functionId < entry.startStep ∧
        source.key = key ∧ source.offset = offset := by
  have hrows := mem_streams_forked hintegral hfresh hforked hentry
  constructor
  · rintro ⟨row, hrow, huuid, rfl, rfl⟩
    obtain ⟨source, hsource, howner, hid, rfl⟩ := (hrows row).mp ⟨hrow, huuid⟩
    exact ⟨source, hsource, howner, hid, rfl, rfl⟩
  · rintro ⟨source, hsource, howner, hid, rfl, rfl⟩
    have hcopied := (hrows { source with workflowUuid := entry.forkedWorkflowId }).mpr
      ⟨source, hsource, howner, hid, rfl⟩
    exact ⟨_, hcopied.1, rfl, rfl, rfl⟩

/-- The streams of the other workflows. -/
theorem hasOffset_others {workflowUuid : String} (hforked : Forked call now db db')
    (hother : workflowUuid ∉ call.entries.map ForkEntry.forkedWorkflowId) :
    HasOffset db' workflowUuid key offset ↔ HasOffset db workflowUuid key offset := by
  constructor
  · rintro ⟨row, hrow, rfl, hoffset⟩
    exact ⟨row, ((leavesOthers hforked).streams row hother).mp hrow, rfl, hoffset⟩
  · rintro ⟨row, hrow, rfl, hoffset⟩
    exact ⟨row, ((leavesOthers hforked).streams row hother).mpr hrow, rfl, hoffset⟩

/-- A batch of forks leaves contiguous streams exactly if it cuts each after its first values. -/
theorem contiguous_forked_iff (h : Contiguous db) (hintegral : Integral db)
    (hfresh : FreshBatch call db) (hforked : Forked call now db db') :
    Contiguous db' ↔ ∀ entry ∈ call.entries, entry.CutsStreams db := by
  constructor
  · intro hafter entry hentry copied hcopied left hleft howner hid howner' hid' hkey
    obtain ⟨n, hn⟩ := hafter entry.forkedWorkflowId left.key
    have hoffset : ∀ offset, HasOffset db' entry.forkedWorkflowId left.key offset ↔ _ :=
      fun offset ↦ hasOffset_forked hintegral hfresh hforked hentry
    have hin := (hn copied.offset).mp
      ((hoffset _).mpr ⟨copied, hcopied, howner, hid, hkey, rfl⟩)
    by_contra hle
    -- The left value has an offset below that of a copied one, so it was copied as well.
    obtain ⟨bound, hbound⟩ := h entry.originalWorkflowId left.key
    have hpos := (hbound left.offset).mp ⟨left, hleft, howner', rfl, rfl⟩
    have hfound := (hn left.offset).mpr ⟨hpos.1, by omega⟩
    obtain ⟨source, hsource, howner'', hid'', hkey'', hoffset''⟩ := (hoffset _).mp hfound
    have hsame : source = left := by
      apply db.streams.eq_of_key hsource hleft
      rw [StreamRow.primaryKey, StreamRow.primaryKey, howner'', howner', hkey'', hoffset'']
    rw [hsame] at hid''
    omega
  · intro hcuts workflowUuid key
    by_cases hfork : workflowUuid ∈ call.entries.map ForkEntry.forkedWorkflowId
    · obtain ⟨entry, hentry, rfl⟩ := List.mem_map.mp hfork
      have hoffset : ∀ offset, HasOffset db' entry.forkedWorkflowId key offset ↔ _ :=
        fun offset ↦ hasOffset_forked hintegral hfresh hforked hentry
      obtain ⟨n, hn⟩ := h entry.originalWorkflowId key
      apply exists_bound_of_downward n
      · intro offset hin
        obtain ⟨source, hsource, howner, -, hkey, rfl⟩ := (hoffset offset).mp hin
        exact (hn _).mp ⟨source, hsource, howner, hkey, rfl⟩
      · intro smaller offset hnonneg hle hin
        obtain ⟨source, hsource, howner, hid, hkey, rfl⟩ := (hoffset offset).mp hin
        have hbound := (hn source.offset).mp ⟨source, hsource, howner, hkey, rfl⟩
        obtain ⟨row, hrow, howner', hkey', rfl⟩ := (hn smaller).mpr ⟨hnonneg, by omega⟩
        refine (hoffset _).mpr ⟨row, hrow, howner', ?_, hkey', rfl⟩
        by_contra hlate
        have hlt := hcuts entry hentry source hsource row hrow howner hid howner'
          (not_lt.mp hlate) (hkey.trans hkey'.symm)
        omega
    · obtain ⟨n, hn⟩ := h workflowUuid key
      refine ⟨n, ?_⟩
      intro offset
      rw [hasOffset_others hforked hfork]
      exact hn offset

end Forked

theorem contiguous_step (h : Contiguous db) (hintegral : Integral db)
    (hcuts : ForksCutStreams db action)
    (hstep : (dataSystem serializers isClosed).step db action = some db') : Contiguous db' := by
  cases dataEffect_of_step hstep with
  | quiet hquiet => exact h.of_streams hquiet.streams
  | event write serval serialization haction hid hworkflow hquiet =>
    exact h.of_streams hquiet.streams
  | stream write value serialization middle hid hworkflow happend hquiet =>
    exact (contiguous_appendStream h happend).of_streams hquiet.streams
  | fork call now haction hfresh hforked =>
    exact (contiguous_forked_iff h hintegral hfresh hforked).mpr (hcuts call haction)
  | delete p hdelete =>
    rw [hdelete]
    exact contiguous_deleteStatusWhere h hintegral p

end Step

/-- In every run whose forks cut the streams after their first values, the offsets of every stream
are 0, 1, …, n - 1 in every state. -/
theorem contiguous_of_forksCutStreams {V : Type} (serializers : Serializers V) (isClosed : V → Bool)
    {actions : List (DataAction V)} {db : SystemDatabase}
    (hcuts : (dataSystem serializers isClosed).Along ForksCutStreams SystemDatabase.empty actions)
    (hrun : (dataSystem serializers isClosed).run SystemDatabase.empty actions = some db) :
    Contiguous db := by
  have hboth : Integral db ∧ Contiguous db := by
    refine System.run_invariant _ (I := fun db ↦ Integral db ∧ Contiguous db) ?_ ?_ hcuts hrun
    · rintro s action s' ⟨hintegral, hcontiguous⟩ hcut hstep
      exact ⟨integral_step hintegral hstep, contiguous_step hcontiguous hintegral hcut hstep⟩
    · refine ⟨integral_empty, ?_⟩
      intro workflowUuid key
      refine ⟨0, ?_⟩
      intro offset
      constructor
      · rintro ⟨row, hrow, -⟩
        cases hrow
      · rintro ⟨hle, hlt⟩
        exact absurd hlt (by simpa using hle)
  exact hboth.2

/-- Two steps of a workflow write one value each, in the given order; then the workflow is forked
from step 2. -/
def writeThenFork (first second : ℤ) : List (DataAction (Option Bool)) :=
  [.status (.init { status := startedStatus "wf" } built_startedWf) 0,
    .writeStreamFromStep ⟨"wf", first, "s", some true, .default⟩,
    .writeStreamFromStep ⟨"wf", second, "s", some false, .default⟩,
    .status (.fork { entries := [⟨"wf", "copy", 2⟩] }) 5]

theorem contiguous_writeThenFork_inOrder :
    ∃ db, (dataSystem booleanSerializers fun _ ↦ false).run SystemDatabase.empty
        (writeThenFork 1 2) = some db ∧ Contiguous db := by
  obtain ⟨db, hrun⟩ : ∃ db, (dataSystem booleanSerializers fun _ ↦ false).run SystemDatabase.empty
      (writeThenFork 1 2) = some db := ⟨_, rfl⟩
  refine ⟨db, hrun, ?_⟩
  apply contiguous_of_forksCutStreams booleanSerializers (fun _ ↦ false) _ hrun
  decide

/-- The value of step 2 is written first, and the fork has the one of step 1 at offset 1 only. -/
theorem not_contiguous_writeThenFork :
    ∃ db, (dataSystem booleanSerializers fun _ ↦ false).run SystemDatabase.empty
        (writeThenFork 2 1) = some db ∧ ¬ Contiguous db ∧
      (db.streams.rows.map fun row ↦ (row.workflowUuid, row.offset)) =
        [("wf", 0), ("wf", 1), ("copy", 1)] := by
  refine ⟨_, rfl, ?_, by decide⟩
  intro hcontiguous
  obtain ⟨n, hn⟩ := hcontiguous "copy" "s"
  have hone := (hn 1).mp ⟨⟨"copy", "s", "gASJLg==", 1, 1, some "py_pickle"⟩, by decide, rfl, rfl, rfl⟩
  obtain ⟨row, hrow, huuid, -, hoffset⟩ := (hn 0).mpr ⟨le_refl 0, by omega⟩
  have hnone : ∀ row ∈ (((dataSystem booleanSerializers fun _ ↦ false).run SystemDatabase.empty
      (writeThenFork 2 1)).get rfl).streams.rows, row.workflowUuid = "copy" → row.offset ≠ 0 := by
    decide
  exact hnone row hrow huuid hoffset

end DBOSModel.SysDb

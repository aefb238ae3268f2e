import DBOSModel.SysDb.Dequeue

/-!
# What one dequeue starts

`start_queued_workflows` reads its limits at two places: the concurrency limits become the `LIMIT`
of the selection, and the limiter stops the loop over the selected rows. Run alone on one state,
the two come to one bound. The call starts a prefix of the eligible rows in
`(priority, created_at)` order, as long as the least limit allows, and touches no other row.
-/

namespace DBOSModel.SysDb

open Relational

namespace DequeueCall

variable (call : DequeueCall)

/-- The limits on the selection, each floored at zero. -/
def concurrencyLimits (db : SystemDatabase) : List ℕ :=
  (call.queue.workerConcurrency.map fun limit ↦ (limit - call.localRunningCount).toNat).toList ++
    (call.queue.concurrency.map fun limit ↦ (limit - (call.globalPending db : ℤ)).toNat).toList

/-- All limits of a call on a state: those on the selection and the limiter's. -/
def limits (db : SystemDatabase) : List ℕ :=
  call.concurrencyLimits db ++
    (call.queue.limiter.map fun limiter ↦
      (limiter.limit - (call.numRecent limiter db : ℤ)).toNat).toList

/-- The least of the limits and the number of eligible rows. -/
def startCount (db : SystemDatabase) : ℕ :=
  (call.limits db).foldr min (db.workflowStatus.count (call.isEligible db))

/-- The eligible rows in `(priority, created_at)` order. -/
def eligibleRows (db : SystemDatabase) : List WorkflowStatusRow :=
  (db.statusRows.filter (call.isEligible db)).insertionSort before

/-- The IDs that the loop starts out of `ids` when `started` rows of the period are counted. -/
def withinQuota (started : ℕ) (ids : List String) : List String :=
  match call.queue.limiter with
  | none => ids
  | some limiter => ids.take (limiter.limit - started).toNat

variable {call : DequeueCall} {now : ℤ} {db : SystemDatabase}

/-! ## The order of the selection -/

theorem before_total (left right : WorkflowStatusRow) :
    before left right ∨ before right left := by
  unfold before
  omega

theorem before_trans {left middle right : WorkflowStatusRow} (h : before left middle)
    (h' : before middle right) : before left right := by
  unfold before at *
  omega

instance : Std.Total before := ⟨before_total⟩

instance : IsTrans WorkflowStatusRow before := ⟨fun _ _ _ h h' ↦ before_trans h h'⟩

theorem pairwise_eligibleRows : (call.eligibleRows db).Pairwise before :=
  List.pairwise_insertionSort before _

theorem perm_eligibleRows :
    (call.eligibleRows db).Perm (db.statusRows.filter (call.isEligible db)) :=
  List.perm_insertionSort before _

theorem length_eligibleRows :
    (call.eligibleRows db).length = db.workflowStatus.count (call.isEligible db) := by
  rw [Table.count_eq_length_filter]
  exact perm_eligibleRows.length_eq

theorem mem_eligibleRows {row : WorkflowStatusRow} :
    row ∈ call.eligibleRows db ↔ row ∈ db.statusRows ∧ call.isEligible db row := by
  rw [perm_eligibleRows.mem_iff, List.mem_filter]

/-! ## The loop with its early exit -/

/-- An ENQUEUED row that the loop has not started yet is found by its guarded update. -/
theorem count_enqueued_pos {id : String} {started : List String}
    (henqueued : ∃ row ∈ db.statusRows, row.workflowUuid = id ∧ row.status = .enqueued)
    (hfresh : id ∉ started) :
    (call.startAll now started db).workflowStatus.count
      (fun row ↦ row.workflowUuid = id && row.status = .enqueued) ≠ 0 := by
  obtain ⟨row, hrow, hid, hstatus⟩ := henqueued
  have hmem : row ∈ (call.startAll now started db).statusRows := by
    rw [mem_startAll]
    refine ⟨row, hrow, ?_⟩
    rw [if_neg (by rwa [hid])]
  have hpos : 0 < (call.startAll now started db).workflowStatus.count
      (fun row ↦ row.workflowUuid = id && row.status = .enqueued) :=
    List.countP_pos_iff.mpr ⟨row, hmem, by simp [hid, hstatus]⟩
  omega

theorem withinQuota_nil (started : ℕ) : call.withinQuota started [] = [] := by
  unfold withinQuota
  cases call.queue.limiter <;> simp

/-- Once the quota is used up, the loop starts nothing more. -/
theorem withinQuota_of_quotaUsed {numRecent : ℕ} {started ids : List String}
    (h : call.quotaUsed numRecent started) :
    call.withinQuota (started.length + numRecent) ids = [] := by
  unfold quotaUsed at h
  unfold withinQuota
  cases hlimiter : call.queue.limiter with
  | none => simp [hlimiter] at h
  | some limiter =>
    simp only [hlimiter, decide_eq_true_eq] at h
    have hzero : (limiter.limit - (started.length + numRecent : ℕ)).toNat = 0 := by omega
    simp only [hzero, List.take_zero]

/-- Before that, it starts the next ID. -/
theorem withinQuota_cons {numRecent : ℕ} {started : List String} (id : String)
    (rest : List String) (h : call.quotaUsed numRecent started = false) :
    call.withinQuota (started.length + numRecent) (id :: rest) =
      id :: call.withinQuota ((started ++ [id]).length + numRecent) rest := by
  unfold quotaUsed at h
  unfold withinQuota
  cases hlimiter : call.queue.limiter with
  | none => simp
  | some limiter =>
    simp only [hlimiter, decide_eq_false_iff_not, not_le] at h
    have hsucc : (limiter.limit - (started.length + numRecent : ℕ)).toNat =
        (limiter.limit - ((started ++ [id]).length + numRecent : ℕ)).toNat + 1 := by
      simp only [List.length_append, List.length_cons, List.length_nil]
      omega
    simp only [hsucc, List.take_succ_cons]

/-- The loop over distinct ENQUEUED rows starts them up to the quota. -/
theorem startLoop_eq_withinQuota (call : DequeueCall) (now : ℤ) (numRecent : ℕ)
    {ids : List String} (started : List String) (hnodup : ids.Nodup)
    (hfresh : ∀ id ∈ ids, id ∉ started)
    (henqueued : ∀ id ∈ ids, ∃ row ∈ db.statusRows,
      row.workflowUuid = id ∧ row.status = .enqueued) :
    call.startLoop now numRecent ids started (call.startAll now started db) =
      (started ++ call.withinQuota (started.length + numRecent) ids,
        call.startAll now (started ++ call.withinQuota (started.length + numRecent) ids) db) := by
  induction ids generalizing started with
  | nil => simp [startLoop, withinQuota_nil]
  | cons id rest ih =>
    have hid := henqueued id (by simp)
    have hrest := List.nodup_cons.mp hnodup
    have hsame : ∀ row ∈ db.statusRows, row.workflowUuid = id → row.status = .enqueued := by
      intro row hrow hrowId
      obtain ⟨selected, hselected, hselectedId, hstatus⟩ := hid
      rw [db.workflowStatus.eq_of_key hrow hselected (hrowId.trans hselectedId.symm)]
      exact hstatus
    have hnext : ∀ i ∈ rest, i ∉ started ++ [id] := by
      intro i hi hmem
      rw [List.mem_append, List.mem_singleton] at hmem
      cases hmem with
      | inl hold => exact hfresh i (by simp [hi]) hold
      | inr heq => exact hrest.1 (heq ▸ hi)
    rw [startLoop]
    by_cases hquota : call.quotaUsed numRecent started
    · rw [if_pos hquota, withinQuota_of_quotaUsed hquota, List.append_nil]
    · rw [if_neg hquota, if_neg (count_enqueued_pos hid (hfresh id (by simp))),
        startOne_startAll hsame,
        ih (started ++ [id]) hrest.2 hnext fun i hi ↦ henqueued i (by simp [hi]),
        withinQuota_cons id rest (by simpa using hquota)]
      simp only [List.append_assoc, List.singleton_append]

/-! ## The whole call -/

theorem foldr_min_append_singleton (limits : List ℕ) (limit bound : ℕ) :
    (limits ++ [limit]).foldr min bound = min limit (limits.foldr min bound) := by
  induction limits with
  | nil => rfl
  | cons head tail ih =>
    rw [List.cons_append, List.foldr_cons, List.foldr_cons, ih]
    exact min_left_comm head limit _

/-- The selection is the eligible rows up to the two concurrency limits. -/
theorem dequeuedIds_eq (call : DequeueCall) (db : SystemDatabase) :
    call.dequeuedIds db = ((call.eligibleRows db).take
      ((call.concurrencyLimits db).foldr min (call.eligibleRows db).length)).map
        WorkflowStatusRow.workflowUuid := by
  have htake (tasks : ℕ) : (call.eligibleRows db).take tasks =
      (call.eligibleRows db).take (min tasks (call.eligibleRows db).length) := by
    rw [← List.take_take, List.take_length]
  have hselected : call.dequeuedIds db = ((call.maxTasks db).elim (call.eligibleRows db) fun tasks ↦
      (call.eligibleRows db).take tasks).map WorkflowStatusRow.workflowUuid := by
    unfold dequeuedIds
    cases call.maxTasks db with
    | none => rfl
    | some tasks => rfl
  rw [hselected]
  congr 1
  unfold maxTasks concurrencyLimits
  cases call.queue.workerConcurrency with
  | none =>
    cases call.queue.concurrency with
    | none => exact List.take_length.symm
    | some limit => exact htake _
  | some worker =>
    cases call.queue.concurrency with
    | none => exact htake _
    | some limit => exact (htake _).trans (by rw [min_assoc]; rfl)

/-- The quota shortens the selection to `startCount`. -/
theorem withinQuota_dequeuedIds (call : DequeueCall) (db : SystemDatabase) (numRecent : ℕ)
    (h : ∀ limiter, call.queue.limiter = some limiter → call.numRecent limiter db = numRecent) :
    call.withinQuota numRecent (call.dequeuedIds db) =
      ((call.eligibleRows db).take (call.startCount db)).map WorkflowStatusRow.workflowUuid := by
  rw [dequeuedIds_eq, startCount, limits, ← length_eligibleRows]
  unfold withinQuota
  cases hlimiter : call.queue.limiter with
  | none => simp
  | some limiter =>
    simp only [Option.map_some, Option.toList_some, h limiter hlimiter]
    rw [foldr_min_append_singleton, ← List.map_take, List.take_take]

/-- The assignment by ID is the assignment to the selected rows, as IDs are distinct. -/
theorem statusRows_startAll {selected : List WorkflowStatusRow}
    (h : ∀ row ∈ selected, row ∈ db.statusRows) :
    (call.startAll now (selected.map WorkflowStatusRow.workflowUuid) db).statusRows =
      db.statusRows.map fun row ↦ if row ∈ selected then call.startUpdate now row else row := by
  apply List.map_congr_left
  intro row hrow
  have hiff : row.workflowUuid ∈ selected.map WorkflowStatusRow.workflowUuid ↔
      row ∈ selected := by
    rw [List.mem_map]
    constructor
    · rintro ⟨other, hother, hid⟩
      rwa [← db.workflowStatus.eq_of_key (h other hother) hrow hid]
    · intro hmem
      exact ⟨row, hmem, rfl⟩
  simp only [decide_eq_true_eq, hiff]

end DequeueCall

open DequeueCall in
/-- The returned IDs and the new state of a dequeue run alone. -/
theorem startQueuedWorkflows_eq_startCount (call : DequeueCall) (now : ℤ) (db : SystemDatabase) :
    startQueuedWorkflows call now db =
      (((call.eligibleRows db).take (call.startCount db)).map WorkflowStatusRow.workflowUuid,
        call.startAll now
          (((call.eligibleRows db).take (call.startCount db)).map WorkflowStatusRow.workflowUuid)
          db) := by
  have henqueued : ∀ id ∈ call.dequeuedIds db, ∃ row ∈ db.statusRows,
      row.workflowUuid = id ∧ row.status = .enqueued := by
    intro id hid
    obtain ⟨row, hrow, hrowId, heligible⟩ := exists_eligible hid
    exact ⟨row, hrow, hrowId, isEligible_status heligible⟩
  have hloop (numRecent : ℕ) := startLoop_eq_withinQuota call now numRecent []
    dequeuedIds_nodup (by simp) henqueued
  simp only [startAll_nil, List.nil_append, List.length_nil, Nat.zero_add] at hloop
  unfold startQueuedWorkflows
  cases hlimiter : call.queue.limiter with
  | none =>
    have hquota := withinQuota_dequeuedIds call db 0 (by simp [hlimiter])
    rw [← hquota]
    exact hloop 0
  | some limiter =>
    have hquota := withinQuota_dequeuedIds call db (call.numRecent limiter db)
      (by simp [hlimiter])
    rw [← hquota]
    simp only
    split
    · rename_i hused
      -- the early return is the loop that starts nothing
      have hnil : call.withinQuota (call.numRecent limiter db) (call.dequeuedIds db) = [] := by
        have hused' : call.quotaUsed (call.numRecent limiter db) [] := by
          simp [quotaUsed, hlimiter, hused]
        simpa using withinQuota_of_quotaUsed hused'
      rw [hnil, startAll_nil]
    · exact hloop (call.numRecent limiter db)

open DequeueCall in
/-- One dequeue starts the first `startCount` eligible rows in `(priority, created_at)` order, for
some order of ties. Nothing else changes. -/
theorem startQueuedWorkflows_starts_first (call : DequeueCall) (now : ℤ) (db : SystemDatabase) :
    ∃ ordered : List WorkflowStatusRow,
      ordered.Perm (db.statusRows.filter (call.isEligible db)) ∧
      ordered.Pairwise before ∧
      (startQueuedWorkflows call now db).1 =
        (ordered.take (call.startCount db)).map WorkflowStatusRow.workflowUuid ∧
      (startQueuedWorkflows call now db).2.statusRows =
        (db.statusRows.map fun row ↦
          if row ∈ ordered.take (call.startCount db) then call.startUpdate now row else row) ∧
      { (startQueuedWorkflows call now db).2 with workflowStatus := db.workflowStatus } = db := by
  have hselected : ∀ row ∈ (call.eligibleRows db).take (call.startCount db),
      row ∈ db.statusRows := by
    intro row hrow
    exact (mem_eligibleRows.mp (List.mem_of_mem_take hrow)).1
  refine ⟨call.eligibleRows db, perm_eligibleRows, pairwise_eligibleRows, ?_⟩
  rw [startQueuedWorkflows_eq_startCount]
  exact ⟨rfl, statusRows_startAll hselected, rfl⟩

end DBOSModel.SysDb

import DBOSModel.SysDb.StatusOperation
import Mathlib.Tactic.Linarith
import Mathlib.Tactic.NormNum

/-!
# The rate limiter of a queue

The limiter counts recent starts from the current columns of `workflow_status`. A run here carries
a log of the starts that really happened, so the count can be compared with it. Dequeues run one at
a time, and the clock never goes back.

Every start in the log that is still in the window is backed by its own counted row, as long as no
operation erases a recent start: a cancellation, a resumption, a recovery, a dead-lettering or a
deletion of a workflow that started within the last period. Along such runs the limit holds in
every window. It fails when a recent start is erased, and when the period is not a whole number of
milliseconds, because the limiter rounds it down.
-/

namespace DBOSModel.Queue

open Relational SysDb DBOSModel.Core

/-- A workflow moved to PENDING by a dequeue of a queue, or of one partition of it. -/
structure StartEvent where
  queueName : String
  partitionKey : Option String
  workflowId : String
  time : ℤ
deriving DecidableEq

def StartEvent.isOn (queueName : String) (partitionKey : Option String) (e : StartEvent) : Bool :=
  e.queueName = queueName && e.partitionKey = partitionKey

structure RateState where
  db : SystemDatabase
  clock : ℤ
  events : List StartEvent

/-- The starts that an operation makes. -/
def startEvents (action : StatusAction) (db : SystemDatabase) : List StartEvent :=
  match action.1 with
  | .startQueued call => (startQueuedWorkflows call action.2 db).1.map fun id ↦
      { queueName := call.queue.name
        partitionKey := call.queuePartitionKey
        workflowId := id
        time := call.startTimeMs }
  | _ => []

/-- A dequeue is a poll of the registered queue that reads the common clock. -/
def isTimedPoll (config : String → SysDb.Queue) (action : StatusAction) : Bool :=
  match action.1 with
  | .startQueued call => isPoll config call && decide (call.startTimeMs = action.2)
  | _ => true

/-- Any sequence of status operations on one clock that does not go back. -/
def rateSystem (config : String → SysDb.Queue) : System RateState StatusAction where
  step s action :=
    if s.clock ≤ action.2 ∧ isTimedPoll config action then
      some
        { db := action.1.apply action.2 s.db
          clock := action.2
          events := s.events ++ startEvents action s.db }
    else none

/-- The starts of a bucket in the window `(t - period, t]`, in milliseconds. -/
def windowStarts (queueName : String) (partitionKey : Option String) (limiter : QueueRateLimit)
    (t : ℚ) (events : List StartEvent) : List StartEvent :=
  events.filter fun e ↦ e.isOn queueName partitionKey &&
    decide (t - limiter.period * 1000 < e.time ∧ (e.time : ℚ) ≤ t)

/-- The columns that `num_recent_queries` counts, for starts after a given time. -/
def isRecentStart (queueName : String) (partitionKey : Option String) (since : ℤ)
    (row : WorkflowStatusRow) : Bool :=
  onBucket queueName partitionKey row && row.rateLimited && !row.status.isEnqueued &&
    (match row.startedAtEpochMs with
    | some startedAt => decide (since < startedAt)
    | none => false)

/-- The operation takes a row out of the limiter's count. -/
def erases (op : StatusOp) (now : ℤ) (row : WorkflowStatusRow) : Bool :=
  match op with
  | .init call _ => row.workflowUuid = call.status.workflowUuid && row.status = .pending &&
      call.mismatch row = none && call.exceedsRecoveryAttempts (call.conflictUpdate now row)
  | .cancel workflowIds => row.workflowUuid ∈ workflowIds && !row.status.isComplete
  | .resume workflowIds _ => row.workflowUuid ∈ workflowIds && !row.status.isComplete
  | .clear workflowId =>
    row.workflowUuid = workflowId && row.queueName.isSome && row.status = .pending
  | .delete workflowIds => row.workflowUuid ∈ workflowIds
  | .collect cutoff batch => gcMatches cutoff batch row
  | _ => false

/-- No operation erases a start of the bucket that is less than one period old. -/
def KeepsRecentStarts (queueName : String) (partitionKey : Option String) (limiter : QueueRateLimit)
    (s : RateState) (action : StatusAction) : Prop :=
  ∀ row ∈ s.db.statusRows,
    isRecentStart queueName partitionKey (action.2 - limiter.periodMs) row →
      erases action.1 action.2 row = false

instance (queueName : String) (partitionKey : Option String) (limiter : QueueRateLimit)
    (s : RateState) (action : StatusAction) :
    Decidable (KeepsRecentStarts queueName partitionKey limiter s action) :=
  inferInstanceAs (Decidable (∀ row ∈ s.db.statusRows, _ → _))

/-- The row that stands for a start in the limiter's count. -/
structure Backs (queueName : String) (partitionKey : Option String) (e : StartEvent)
    (row : WorkflowStatusRow) : Prop where
  workflowId : row.workflowUuid = e.workflowId
  bucket : onBucket queueName partitionKey row
  rateLimited : row.rateLimited = true
  dequeued : row.status.isEnqueued = false
  startedAt : row.startedAtEpochMs = some e.time

/-- The starts of a bucket after a given time. -/
def recentStarts (queueName : String) (partitionKey : Option String) (since : ℤ)
    (events : List StartEvent) : List StartEvent :=
  events.filter fun e ↦ e.isOn queueName partitionKey && decide (since < e.time)

/-- Every start less than one period old has a counted row of its own. -/
structure Accounted (queueName : String) (partitionKey : Option String) (limiter : QueueRateLimit)
    (s : RateState) : Prop where
  past : ∀ e ∈ s.events, e.time ≤ s.clock
  distinct : ((recentStarts queueName partitionKey (s.clock - limiter.periodMs)
    s.events).map StartEvent.workflowId).Nodup
  backed : ∀ e ∈ recentStarts queueName partitionKey (s.clock - limiter.periodMs) s.events,
    ∃ row ∈ s.db.statusRows, Backs queueName partitionKey e row

section Limit

variable {config : String → SysDb.Queue} {queueName : String} {partitionKey : Option String}
  {limiter : QueueRateLimit} {s s' : RateState} {action : StatusAction}
  {e : StartEvent} {row row' : WorkflowStatusRow} {now : ℤ} {db : SystemDatabase} {op : StatusOp}

theorem rateSystem_step (h : (rateSystem config).step s action = some s') :
    s.clock ≤ action.2 ∧ isTimedPoll config action ∧
      s' = { db := action.1.apply action.2 s.db
             clock := action.2
             events := s.events ++ startEvents action s.db } := by
  simp only [rateSystem] at h
  split at h
  · rename_i hguard
    cases h
    exact ⟨hguard.1, hguard.2, rfl⟩
  · cases h

/-! ## Rows behind starts -/

theorem Backs.isRecentStart {since : ℤ} (h : Backs queueName partitionKey e row)
    (hsince : since < e.time) : isRecentStart queueName partitionKey since row := by
  simp [Queue.isRecentStart, h.bucket, h.rateLimited, h.dequeued, h.startedAt, hsince]

/-- A row that stands for a start keeps doing so unless the operation erases it. -/
theorem backs_of_rowChange (h : Backs queueName partitionKey e row)
    (hkeeps : erases op now row = false) (hchange : RowChange now db op row row') :
    Backs queueName partitionKey e row' := by
  have hdequeued := h.dequeued
  cases hchange with
  | unchanged => exact h
  | conflict => exact ⟨h.workflowId, h.bucket, h.rateLimited, h.dequeued, h.startedAt⟩
  | deadLetter call built row hid hstatus hmatch hexceeds =>
    simp [erases, hid, hstatus, hmatch, hexceeds] at hkeeps
  | outcome workflowId status complete output error row hid hstatus =>
    have hstatus : status.isEnqueued = false := by
      cases status with
      | enqueued => cases complete
      | delayed => cases complete
      | _ => rfl
    exact ⟨h.workflowId, h.bucket, h.rateLimited, hstatus, h.startedAt⟩
  | cancel workflowIds row hid hstatus => simp [erases, hid, hstatus] at hkeeps
  | resume workflowIds queueName row hid hstatus => simp [erases, hid, hstatus] at hkeeps
  | setDelay => exact ⟨h.workflowId, h.bucket, h.rateLimited, h.dequeued, h.startedAt⟩
  | debounce => exact ⟨h.workflowId, h.bucket, h.rateLimited, h.dequeued, h.startedAt⟩
  | transition nowMs row hstatus =>
    rw [hstatus] at hdequeued
    cases hdequeued
  | startQueued call row hid heligible =>
    rw [DequeueCall.isEligible_status heligible] at hdequeued
    cases hdequeued
  | clear workflowId row hid hqueue hstatus => simp [erases, hid, hqueue, hstatus] at hkeeps
  | fork => exact ⟨h.workflowId, h.bucket, h.rateLimited, h.dequeued, h.startedAt⟩

theorem deletes_of_erases (h : erases op now row = false) : op.deletes row = false := by
  cases op with
  | delete => exact h
  | collect => exact h
  | _ => rfl

theorem backs_apply (hrow : row ∈ db.statusRows) (h : Backs queueName partitionKey e row)
    (hkeeps : erases op now row = false) :
    ∃ row' ∈ (op.apply now db).statusRows, Backs queueName partitionKey e row' := by
  obtain ⟨row', hrow', -, hchange⟩ := exists_rowChange now hrow (deletes_of_erases hkeeps)
  exact ⟨row', hrow', backs_of_rowChange h hkeeps hchange⟩

/-- A dequeue leaves a counted row behind each of its starts. -/
theorem exists_backs_of_startEvents {call : DequeueCall}
    (hlimiter : call.queue.limiter.isSome)
    (he : e ∈ startEvents (.startQueued call, now) db) :
    ∃ row' ∈ ((StatusOp.startQueued call).apply now db).statusRows,
      Backs call.queue.name call.queuePartitionKey e row' := by
  obtain ⟨id, hid, rfl⟩ := List.mem_map.mp he
  obtain ⟨ids, hsublist, heq, -⟩ := startQueuedWorkflows_eq call now db
  simp only [heq] at hid
  obtain ⟨row, hrow, rfl, heligible⟩ := DequeueCall.exists_eligible (hsublist.subset hid)
  have honQueue : call.onQueue row := DequeueCall.isEligible_onQueue heligible
  refine ⟨call.startUpdate now row, ?_, rfl, honQueue, hlimiter, rfl, rfl⟩
  simp only [StatusOp.apply, heq]
  exact DequeueCall.mem_startAll.mpr ⟨row, hrow, by rw [if_pos hid]⟩

/-- A workflow that starts now is not one that stands for an earlier start. -/
theorem not_started_of_backs {call : DequeueCall} {id : String}
    (hid : id ∈ (startQueuedWorkflows call now db).1) (hrow : row ∈ db.statusRows)
    (h : Backs queueName partitionKey e row) : id ≠ e.workflowId := by
  intro hsame
  obtain ⟨selected, hselected, hselectedId, heligible⟩ :=
    DequeueCall.exists_eligible ((startQueuedWorkflows_sublist call now db).subset hid)
  have hrowEq := db.workflowStatus.eq_of_key hrow hselected
    (h.workflowId.trans (hsame.symm.trans hselectedId.symm))
  have hdequeued := h.dequeued
  rw [hrowEq, DequeueCall.isEligible_status heligible] at hdequeued
  cases hdequeued

/-! ## Starts in the log -/

theorem mem_recentStarts {since : ℤ} {events : List StartEvent} :
    e ∈ recentStarts queueName partitionKey since events ↔
      e ∈ events ∧ e.isOn queueName partitionKey ∧ since < e.time := by
  simp [recentStarts]

theorem recentStarts_append (since : ℤ) (events new : List StartEvent) :
    recentStarts queueName partitionKey since (events ++ new) =
      recentStarts queueName partitionKey since events ++
        recentStarts queueName partitionKey since new :=
  List.filter_append events new

/-- As time goes on, fewer of the same starts are recent. -/
theorem recentStarts_sublist {since later : ℤ} (h : since ≤ later) (events : List StartEvent) :
    (recentStarts queueName partitionKey later events).Sublist
      (recentStarts queueName partitionKey since events) := by
  apply List.monotone_filter_right
  intro e he
  simp only [Bool.and_eq_true, decide_eq_true_eq] at he ⊢
  exact ⟨he.1, by omega⟩

/-- A start of a bucket comes from a poll of that bucket. -/
theorem exists_call_of_startEvents (he : e ∈ startEvents action db)
    (hon : e.isOn queueName partitionKey) :
    ∃ call, action.1 = .startQueued call ∧ call.queue.name = queueName ∧
      call.queuePartitionKey = partitionKey ∧ e.time = call.startTimeMs ∧
      e.workflowId ∈ (startQueuedWorkflows call action.2 db).1 := by
  obtain ⟨op, now⟩ := action
  cases op with
  | startQueued call =>
    obtain ⟨id, hid, rfl⟩ := List.mem_map.mp he
    simp only [StartEvent.isOn, Bool.and_eq_true, decide_eq_true_eq] at hon
    exact ⟨call, rfl, hon.1, hon.2, rfl, hid⟩
  | _ => cases he

theorem nodup_startEvents (action : StatusAction) (db : SystemDatabase) :
    ((startEvents action db).map StartEvent.workflowId).Nodup := by
  obtain ⟨op, now⟩ := action
  cases op with
  | startQueued call =>
    have hids : ((startEvents (.startQueued call, now) db).map StartEvent.workflowId) =
        (startQueuedWorkflows call now db).1 := by
      simp only [startEvents, List.map_map]
      exact List.map_id _
    rw [hids]
    exact (startQueuedWorkflows_sublist call now db).nodup DequeueCall.dequeuedIds_nodup
  | _ => exact List.nodup_nil

/-- The count of the limiter covers the recent starts of the log. -/
theorem length_recentStarts_le {since : ℤ} {events : List StartEvent}
    (hdistinct : ((recentStarts queueName partitionKey since events).map
      StartEvent.workflowId).Nodup)
    (hbacked : ∀ e ∈ recentStarts queueName partitionKey since events,
      ∃ row ∈ db.statusRows, Backs queueName partitionKey e row) :
    (recentStarts queueName partitionKey since events).length ≤
      db.workflowStatus.count (isRecentStart queueName partitionKey since) := by
  rw [← List.length_map StartEvent.workflowId]
  apply Table.length_le_count _ _ hdistinct
  intro id hid
  obtain ⟨e, he, rfl⟩ := List.mem_map.mp hid
  obtain ⟨row, hrow, hbacks⟩ := hbacked e he
  exact ⟨row, hrow, hbacks.workflowId, hbacks.isRecentStart (mem_recentStarts.mp he).2.2⟩

/-! ## One step -/

/-- Every start carries the clock reading of its dequeue. -/
theorem time_of_startEvents (hpoll : isTimedPoll config action) (he : e ∈ startEvents action db) :
    e.time = action.2 := by
  have hon : e.isOn e.queueName e.partitionKey := by simp [StartEvent.isOn]
  obtain ⟨call, hcall, -, -, htime, -⟩ := exists_call_of_startEvents he hon
  simp only [isTimedPoll, hcall, Bool.and_eq_true, decide_eq_true_eq] at hpoll
  exact htime.trans hpoll.2

theorem accounted_step (hlimiter : (config queueName).limiter = some limiter)
    (h : Accounted queueName partitionKey limiter s)
    (hkeeps : KeepsRecentStarts queueName partitionKey limiter s action)
    (hstep : (rateSystem config).step s action = some s') :
    Accounted queueName partitionKey limiter s' := by
  obtain ⟨hclock, hpoll, rfl⟩ := rateSystem_step hstep
  have hsince : s.clock - limiter.periodMs ≤ action.2 - limiter.periodMs := by omega
  have hold : (recentStarts queueName partitionKey (action.2 - limiter.periodMs) s.events).Sublist
      (recentStarts queueName partitionKey (s.clock - limiter.periodMs) s.events) :=
    recentStarts_sublist hsince s.events
  refine ⟨?_, ?_, ?_⟩
  · intro e he
    rcases List.mem_append.mp he with hmem | hnew
    · exact (h.past e hmem).trans hclock
    · exact (time_of_startEvents hpoll hnew).le
  · simp only [recentStarts_append, List.map_append]
    apply List.nodup_append.mpr
    refine ⟨(hold.map _).nodup h.distinct,
      (List.filter_sublist.map _).nodup (nodup_startEvents action s.db), ?_⟩
    intro id hid id' hid'
    obtain ⟨e, he, rfl⟩ := List.mem_map.mp hid
    obtain ⟨e', he', rfl⟩ := List.mem_map.mp hid'
    obtain ⟨row, hrow, hbacks⟩ := h.backed e (hold.subset he)
    obtain ⟨hnew, hon, -⟩ := mem_recentStarts.mp he'
    obtain ⟨call, -, -, -, -, hstarted⟩ := exists_call_of_startEvents hnew hon
    exact (not_started_of_backs hstarted hrow hbacks).symm
  · intro e he
    rw [recentStarts_append, List.mem_append] at he
    rcases he with hmem | hnew
    · obtain ⟨row, hrow, hbacks⟩ := h.backed e (hold.subset hmem)
      have hrecent := hbacks.isRecentStart (mem_recentStarts.mp hmem).2.2
      exact backs_apply hrow hbacks (hkeeps row hrow hrecent)
    · obtain ⟨hstart, hon, -⟩ := mem_recentStarts.mp hnew
      obtain ⟨call, hcall, rfl, rfl, -, -⟩ := exists_call_of_startEvents hstart hon
      obtain ⟨op, now⟩ := action
      simp only at hcall
      subst hcall
      simp only [isTimedPoll, isPoll, Bool.and_eq_true, decide_eq_true_eq] at hpoll
      have hsome : call.queue.limiter.isSome := by
        rw [hpoll.1.1, hlimiter]
        rfl
      exact exists_backs_of_startEvents hsome hstart

/-- In a window that ends at or after the clock, the log has no more starts than the limiter
counts at the clock. -/
theorem length_windowStarts_le {t : ℚ} (h : Accounted queueName partitionKey limiter s)
    (hperiod : limiter.period * 1000 ≤ limiter.periodMs) (hclock : s.clock ≤ now)
    (ht : (now : ℚ) ≤ t) :
    (windowStarts queueName partitionKey limiter t s.events).length ≤
      s.db.workflowStatus.count
        (isRecentStart queueName partitionKey (now - limiter.periodMs)) := by
  have hsince : s.clock - limiter.periodMs ≤ now - limiter.periodMs := by omega
  have hold : (recentStarts queueName partitionKey (now - limiter.periodMs) s.events).Sublist
      (recentStarts queueName partitionKey (s.clock - limiter.periodMs) s.events) :=
    recentStarts_sublist hsince s.events
  have hwindow : (windowStarts queueName partitionKey limiter t s.events).Sublist
      (recentStarts queueName partitionKey (now - limiter.periodMs) s.events) := by
    apply List.monotone_filter_right
    intro e he
    simp only [Bool.and_eq_true, decide_eq_true_eq] at he ⊢
    refine ⟨he.1, ?_⟩
    have hlt : (now : ℚ) - limiter.periodMs < e.time := by linarith [he.2.1]
    exact_mod_cast hlt
  calc
    (windowStarts queueName partitionKey limiter t s.events).length
        ≤ (recentStarts queueName partitionKey (now - limiter.periodMs) s.events).length :=
      hwindow.length_le
    _ ≤ s.db.workflowStatus.count
        (isRecentStart queueName partitionKey (now - limiter.periodMs)) :=
      length_recentStarts_le ((hold.map _).nodup h.distinct)
        fun e he ↦ h.backed e (hold.subset he)

/-- The limit holds in every window. -/
def WithinRate (queueName : String) (partitionKey : Option String) (limiter : QueueRateLimit)
    (s : RateState) : Prop :=
  ∀ t : ℚ, ((windowStarts queueName partitionKey limiter t s.events).length : ℤ) ≤ limiter.limit

theorem withinRate_step (hlimiter : (config queueName).limiter = some limiter)
    (hperiod : limiter.period * 1000 ≤ limiter.periodMs)
    (h : Accounted queueName partitionKey limiter s)
    (hrate : WithinRate queueName partitionKey limiter s)
    (hstep : (rateSystem config).step s action = some s') :
    WithinRate queueName partitionKey limiter s' := by
  obtain ⟨hclock, hpoll, rfl⟩ := rateSystem_step hstep
  intro t
  have happend : windowStarts queueName partitionKey limiter t (s.events ++ startEvents action s.db) =
      windowStarts queueName partitionKey limiter t s.events ++
        windowStarts queueName partitionKey limiter t (startEvents action s.db) :=
    List.filter_append _ _
  have hold := hrate t
  rw [happend, List.length_append]
  cases hnew : windowStarts queueName partitionKey limiter t (startEvents action s.db) with
  | nil => simpa using hold
  | cons e rest =>
    -- a start in the window was made now, so the window ends at or after the clock
    have he : e ∈ windowStarts queueName partitionKey limiter t (startEvents action s.db) := by
      rw [hnew]
      exact List.mem_cons_self
    simp only [windowStarts, List.mem_filter, Bool.and_eq_true, decide_eq_true_eq] at he
    obtain ⟨hmem, hon, -, hle⟩ := he
    obtain ⟨call, hcall, rfl, rfl, htime, hstarted⟩ := exists_call_of_startEvents hmem hon
    have hnow := time_of_startEvents hpoll hmem
    rw [hnow] at hle
    have hcounted := length_windowStarts_le h hperiod hclock hle
    obtain ⟨op, now⟩ := action
    simp only at hcall
    subst hcall
    obtain ⟨ids, -, heq, hbound⟩ := startQueuedWorkflows_eq call now s.db
    simp only [isTimedPoll, isPoll, Bool.and_eq_true, decide_eq_true_eq] at hpoll
    have hquota := hbound limiter (by rw [hpoll.1.1, hlimiter]) (by
      intro hnil
      simp only [heq, hnil] at hstarted
      cases hstarted)
    have hrecent : call.numRecent limiter s.db = s.db.workflowStatus.count
        (isRecentStart call.queue.name call.queuePartitionKey (now - limiter.periodMs)) := by
      rw [← hpoll.2]
      rfl
    have hlength : (e :: rest).length ≤ ids.length := by
      rw [← hnew]
      calc
        (windowStarts call.queue.name call.queuePartitionKey limiter t
            (startEvents (.startQueued call, now) s.db)).length
            ≤ (startEvents (.startQueued call, now) s.db).length := List.length_filter_le _ _
        _ = ids.length := by simp [startEvents, heq]
    simp only [← hrecent] at hcounted
    push_cast
    omega

/-- The limit holds in every window of every run that erases no recent start. -/
theorem starts_le_limit (config : String → SysDb.Queue) (queue : SysDb.Queue)
    (partitionKey : Option String) (limiter : QueueRateLimit) (hqueue : config queue.name = queue)
    (hlimiter : queue.limiter = some limiter) (hlimit : 0 ≤ limiter.limit)
    (hperiod : limiter.period * 1000 ≤ limiter.periodMs) (db : SystemDatabase) (clock : ℤ)
    (actions : List StatusAction) (s : RateState)
    (hkeeps : (rateSystem config).Along (KeepsRecentStarts queue.name partitionKey limiter)
      { db := db, clock := clock, events := [] } actions)
    (hrun : (rateSystem config).run { db := db, clock := clock, events := [] } actions = some s)
    (t : ℚ) :
    ((windowStarts queue.name partitionKey limiter t s.events).length : ℤ) ≤ limiter.limit := by
  have hconfig : (config queue.name).limiter = some limiter := by rw [hqueue, hlimiter]
  have hinvariant := (rateSystem config).run_invariant
    (I := fun s ↦ Accounted queue.name partitionKey limiter s ∧
      WithinRate queue.name partitionKey limiter s)
    (fun s a s' hs hkeeps hstep ↦ ⟨accounted_step hconfig hs.1 hkeeps hstep,
      withinRate_step hconfig hperiod hs.1 hs.2 hstep⟩)
    ⟨⟨by simp, by simp [recentStarts], by simp [recentStarts]⟩,
      fun t ↦ by simpa [windowStarts] using hlimit⟩ hkeeps hrun
  exact hinvariant.2 t

end Limit

/-! ## One start in ten seconds -/

/-- A queue that may start one workflow in any ten seconds. -/
def oneInTenSeconds : SysDb.Queue := { name := "q", limiter := some ⟨1, 10⟩ }

def enqueueAt (workflowId : String) (now : ℤ) : StatusAction :=
  (.init { status := enqueuedStatus workflowId "q" "v" } (built_enqueuedStatus workflowId "q" "v"), now)

def pollAt (now : ℤ) : StatusAction :=
  (.startQueued
    { queue := oneInTenSeconds, executorId := "e", appVersion := "v", startTimeMs := now }, now)

def emptyAt (clock : ℤ) : RateState where
  db := SystemDatabase.empty
  clock := clock
  events := []

/-- The second workflow starts when the first start has left the window. -/
theorem starts_le_limit_after_period :
    ∃ s, (rateSystem fun _ ↦ oneInTenSeconds).run (emptyAt 0)
        [enqueueAt "a" 0, enqueueAt "b" 0, pollAt 0, pollAt 1, (.cancel ["a"], 10000),
          pollAt 10001] = some s ∧
      ((windowStarts "q" none ⟨1, 10⟩ 10001 s.events).length : ℤ) ≤ 1 := by
  obtain ⟨s, hs⟩ := Option.isSome_iff_exists.mp
    (show ((rateSystem fun _ ↦ oneInTenSeconds).run (emptyAt 0)
        [enqueueAt "a" 0, enqueueAt "b" 0, pollAt 0, pollAt 1, (.cancel ["a"], 10000),
          pollAt 10001]).isSome by decide +kernel)
  exact ⟨s, hs, starts_le_limit (fun _ ↦ oneInTenSeconds) oneInTenSeconds none ⟨1, 10⟩ rfl rfl
    (by decide) (by decide +kernel) SystemDatabase.empty 0 _ s (by decide +kernel) hs 10001⟩

/-- A cancellation takes the first start out of the count, and a second workflow starts two
milliseconds after it. -/
theorem starts_exceed_limit_after_cancel :
    oneInTenSeconds.limiter = some ⟨1, 10⟩ ∧
      ((rateSystem fun _ ↦ oneInTenSeconds).run (emptyAt 0)
        [enqueueAt "a" 0, enqueueAt "b" 0, pollAt 0, (.cancel ["a"], 1), pollAt 2]).map
        (fun s ↦ (windowStarts "q" none ⟨1, 10⟩ 2 s.events).length) = some 2 := by
  decide +kernel

end DBOSModel.Queue

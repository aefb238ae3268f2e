import DBOSModel.Debouncer
import Mathlib.Data.Rat.Floor
import Mathlib.Tactic.Linarith
import Mathlib.Tactic.Ring

/-!
# The debounce cap

The delay of a debounced workflow should not pass its debounce deadline. The bounce caps the new
delay in its `UPDATE`, and `Debouncer` takes the minimum of two integers. `DebouncerClient` takes the
minimum of two durations, and `_build_enqueue_status` adds it to another reading of the clock. So the
client writes a delay past the deadline when the clock has gone on to the next millisecond and
the period does not end before the deadline.

The bound is about the rows when a call writes them: `set_workflow_delay` has no cap.
-/

namespace DBOSModel.Debouncer

open Relational SysDb DBOSModel.Core Queue

/-! ## Python's `int` -/

section PyInt

variable {x y : ℚ}

theorem pyInt_of_nonneg (h : 0 ≤ x) : pyInt x = ⌊x⌋ := by
  have hnum : 0 ≤ x.num := Rat.num_nonneg.mpr h
  rw [pyInt, Int.tdiv_eq_ediv_of_nonneg hnum, Rat.floor_def']

theorem pyInt_neg (x : ℚ) : pyInt (-x) = -pyInt x := by
  rw [pyInt, pyInt, Rat.num_neg_eq_neg_num, Rat.den_neg_eq_den, Int.neg_tdiv]

theorem pyInt_of_nonpos (h : x ≤ 0) : pyInt x = ⌈x⌉ := by
  calc
    pyInt x = -pyInt (-x) := by rw [pyInt_neg, neg_neg]
    _ = -⌊-x⌋ := by rw [pyInt_of_nonneg (neg_nonneg.mpr h)]
    _ = ⌈x⌉ := by rw [Int.floor_neg, neg_neg]

@[simp]
theorem pyInt_intCast (n : ℤ) : pyInt n = n := by
  simp [pyInt]

theorem pyInt_mono (h : x ≤ y) : pyInt x ≤ pyInt y := by
  rcases le_total 0 x with hx | hx
  · rw [pyInt_of_nonneg hx, pyInt_of_nonneg (hx.trans h)]
    exact Int.floor_le_floor h
  · rcases le_total 0 y with hy | hy
    · have hnonpos : ⌈x⌉ ≤ 0 := Int.ceil_le.mpr (by exact_mod_cast hx)
      have hnonneg : 0 ≤ ⌊y⌋ := Int.floor_nonneg.mpr hy
      rw [pyInt_of_nonpos hx, pyInt_of_nonneg hy]
      exact hnonpos.trans hnonneg
    · rw [pyInt_of_nonpos hx, pyInt_of_nonpos hy]
      exact Int.ceil_le_ceil h

theorem pyInt_min (x y : ℚ) : pyInt (min x y) = min (pyInt x) (pyInt y) :=
  Monotone.map_min fun _ _ ↦ pyInt_mono

/-- A duration of whole milliseconds is added after the truncation. -/
theorem pyInt_add_intCast (h : 0 ≤ x) {n : ℤ} (hn : 0 ≤ n) : pyInt (x + n) = pyInt x + n := by
  have hsum : 0 ≤ x + n := add_nonneg h (by exact_mod_cast hn)
  rw [pyInt_of_nonneg hsum, pyInt_of_nonneg h, Int.floor_add_intCast]

/-- Before the epoch the truncation of the sum can only be less. -/
theorem pyInt_add_intCast_le (x : ℚ) {n : ℤ} (hn : 0 ≤ n) : pyInt (x + n) ≤ pyInt x + n := by
  rcases le_total 0 x with hx | hx
  · exact (pyInt_add_intCast hx hn).le
  · rw [pyInt_of_nonpos hx]
    rcases le_total 0 (x + n) with hsum | hsum
    · rw [pyInt_of_nonneg hsum, Int.floor_add_intCast]
      exact Int.add_le_add_right (Int.floor_le_ceil x) n
    · rw [pyInt_of_nonpos hsum, Int.ceil_add_intCast]

end PyInt

/-! ## The rows that the calls write -/

/-- The delay is at most the debounce deadline, if the row has one. -/
def Capped (row : WorkflowStatusRow) : Prop :=
  ∀ deadline ∈ row.debounceDeadlineEpochMs, ∃ delay ∈ row.delayUntilEpochMs, delay ≤ deadline

instance (row : WorkflowStatusRow) : Decidable (Capped row) :=
  inferInstanceAs (Decidable (∀ deadline ∈ row.debounceDeadlineEpochMs,
    ∃ delay ∈ row.delayUntilEpochMs, delay ≤ deadline))

section Calls

variable {ι : Type} [DecidableEq ι] (requests : ι → DebounceRequest)

/-- The calls, interleaved with every operation on the status table. The ID of an enqueue is
generated or pinned by the caller, and a pinned one may be that of an existing workflow. -/
def debounceCalls : System (DebounceState ι) (DebounceAction ι) where
  step s
    | .bounce caller time now =>
      if s.phase caller = .bouncing then some (bounceStep requests s caller time now) else none
    | .enqueue caller time later workflowId now =>
      if s.phase caller = .enqueueing ∧ workflowId ≠ "" then
        some (enqueueStep requests s caller time later workflowId now)
      else none
    | .write op now => some { s with db := op.apply now s.db }

/-- The rows after a step of a call whose delay it writes: those that its bounce matches, or the
one that its enqueue inserts. An enqueue under the ID of an existing workflow leaves the delay. -/
def rowsWritten (s : DebounceState ι) (action : DebounceAction ι) : List WorkflowStatusRow :=
  match (debounceCalls requests).step s action, action with
  | some s', .bounce caller time _ =>
    s'.db.statusRows.filter ((requests caller).bounceCall time).bounces
  | some s', .enqueue _ _ _ workflowId _ =>
    if s.db.hasWorkflow workflowId then []
    else s'.db.statusRows.filter (·.workflowUuid = workflowId)
  | _, _ => []

/-- Every row that the calls of the run write is capped then. -/
def DebounceCapped (actions : List (DebounceAction ι)) : Prop :=
  (debounceCalls requests).Along (fun s action ↦ ∀ row ∈ rowsWritten requests s action, Capped row)
    (beforeDebounce requests) actions

end Calls

/-- The readings of the callers' clock, in seconds. -/
def DebounceAction.readings {ι : Type} : DebounceAction ι → List ℚ
  | .bounce _ time _ => [time]
  | .enqueue _ time later _ _ => [time, later]
  | .write _ _ => []

/-- The client's second reading is in the millisecond of the first one, or the debounce period that
starts there ends by the deadline. -/
def DebounceRequest.KeepsPace (request : DebounceRequest) (time later : ℚ) : Prop :=
  match request.origin with
  | .debouncer _ _ _ _ _ _ _ => True
  | .client _ _ =>
    ∀ deadline, request.deadlineMs (pyInt (time * 1000)) = some deadline →
      pyInt (later * 1000) ≤ pyInt (time * 1000) ∨
        pyInt ((later + request.debouncePeriodSec) * 1000) ≤ deadline

def DebounceAction.KeepsPace {ι : Type} (requests : ι → DebounceRequest) : DebounceAction ι → Prop
  | .enqueue caller time later _ _ => (requests caller).KeepsPace time later
  | .bounce _ _ _ => True
  | .write _ _ => True

/-- Every enqueue of the run that inserts a row keeps pace. -/
def PacedEnqueues {ι : Type} [DecidableEq ι] (requests : ι → DebounceRequest)
    (actions : List (DebounceAction ι)) : Prop :=
  (debounceCalls requests).Along
    (fun s action ↦ rowsWritten requests s action ≠ [] → action.KeepsPace requests)
    (beforeDebounce requests) actions

/-! ## The first enqueue -/

namespace DebounceRequest

variable (request : DebounceRequest) {time later : ℚ} {workflowId : String} {call : InitCall}

/-- The delay of a fresh debounced workflow. -/
def freshDelayMs (time later : ℚ) : ℤ :=
  let nowMs := pyInt (time * 1000)
  match request.origin, request.deadlineMs nowMs with
  | .debouncer _ _ _ _ _ _ _, some deadline =>
    min (nowMs + pyInt (request.debouncePeriodSec * 1000)) deadline
  | .debouncer _ _ _ _ _ _ _, none => nowMs + pyInt (request.debouncePeriodSec * 1000)
  | .client _ _, some deadline =>
    pyInt ((later + min request.debouncePeriodSec (max ((deadline - nowMs) / 1000) 0)) * 1000)
  | .client _ _, none => pyInt ((later + request.debouncePeriodSec) * 1000)

variable {request}

theorem enqueueCall_delay (hid : workflowId ≠ "")
    (h : request.enqueueCall time later workflowId = .ok call) :
    call.status.debounceDeadlineEpochMs = request.deadlineMs (pyInt (time * 1000)) ∧
      call.status.delayUntilEpochMs = some (request.freshDelayMs time later) := by
  unfold enqueueCall at h
  cases horigin : request.origin with
  | debouncer queue ctx delayUntilEpochMs appVersion start maxRecoveryAttempts ownerXid =>
    simp only [horigin] at h
    obtain ⟨⟨⟩, -, hrest⟩ := bind_eq_ok.mp h
    obtain ⟨status, hstatus, hpure⟩ := bind_eq_ok.mp hrest
    cases hpure
    rw [WorkflowStart.status, WorkflowStart.wfid] at hstatus
    simp only [ne_eq, hid, not_false_eq_true, if_true, if_false, Except.ok.injEq] at hstatus
    subst hstatus
    refine ⟨rfl, ?_⟩
    simp only [freshDelayMs, horigin, Option.bind_some]
    cases request.deadlineMs (pyInt (time * 1000)) with
    | none => rfl
    | some deadline => rfl
  | client queueName options =>
    simp only [horigin] at h
    obtain ⟨status, hstatus, hpure⟩ := bind_eq_ok.mp h
    cases hpure
    unfold buildEnqueueStatus at hstatus
    split at hstatus
    · cases hstatus
    · cases hstatus
      refine ⟨rfl, ?_⟩
      simp only [freshDelayMs, horigin, stampDebounced, Option.map_some]
      cases request.deadlineMs (pyInt (time * 1000)) with
      | none => rfl
      | some deadline => rfl

/-- A positive timeout puts the deadline at or after the reading it counts from. -/
theorem le_deadlineMs (htimeout : ∀ timeout, request.debounceTimeoutSec = some timeout → 0 < timeout)
    {nowMs deadline : ℤ} (h : request.deadlineMs nowMs = some deadline) : nowMs ≤ deadline := by
  unfold deadlineMs at h
  split at h
  · rename_i timeout hsome
    have hpositive : 0 < timeout := htimeout timeout hsome
    rw [if_neg hpositive.ne', Option.some.injEq] at h
    calc
      nowMs = pyInt nowMs := (pyInt_intCast nowMs).symm
      _ ≤ pyInt (nowMs + timeout * 1000) := pyInt_mono (by linarith)
      _ = deadline := h
  · cases h

/-- The client's delay is the lesser of the period and of the wait until the deadline, both counted
from its second reading. -/
theorem clientDelay_eq {nowMs deadline : ℤ} (hle : nowMs ≤ deadline) (period later : ℚ) :
    pyInt ((later + min period (max (((deadline : ℚ) - nowMs) / 1000) 0)) * 1000) =
      min (pyInt ((later + period) * 1000)) (pyInt (later * 1000 + (deadline - nowMs : ℤ))) := by
  have hwait : (0 : ℚ) ≤ (deadline - nowMs) / 1000 := by
    have hcast : (nowMs : ℚ) ≤ deadline := by exact_mod_cast hle
    exact div_nonneg (sub_nonneg.mpr hcast) (by norm_num)
  rw [← pyInt_min, max_eq_left hwait]
  congr 1
  rw [← min_add_add_left, min_mul_of_nonneg _ _ (by norm_num : (0 : ℚ) ≤ 1000)]
  congr 1
  push_cast
  ring

theorem freshDelayMs_le
    (htimeout : ∀ timeout, request.debounceTimeoutSec = some timeout → 0 < timeout)
    {deadline : ℤ} (hdeadline : request.deadlineMs (pyInt (time * 1000)) = some deadline)
    (hpace : request.KeepsPace time later) : request.freshDelayMs time later ≤ deadline := by
  have hle : pyInt (time * 1000) ≤ deadline := le_deadlineMs htimeout hdeadline
  unfold KeepsPace at hpace
  unfold freshDelayMs
  cases horigin : request.origin with
  | debouncer queue ctx delayUntilEpochMs appVersion start maxRecoveryAttempts ownerXid =>
    simp only [hdeadline]
    exact min_le_right _ _
  | client queueName options =>
    simp only [horigin] at hpace
    simp only [hdeadline]
    rw [clientDelay_eq hle]
    rcases hpace deadline hdeadline with hsame | hends
    · apply min_le_of_right_le
      calc
        pyInt (later * 1000 + (deadline - pyInt (time * 1000) : ℤ)) ≤
            pyInt (later * 1000) + (deadline - pyInt (time * 1000)) :=
          pyInt_add_intCast_le _ (by omega)
        _ ≤ deadline := by omega
    · exact min_le_of_left_le hends

theorem keepsPace_of_freshDelayMs_le
    (htimeout : ∀ timeout, request.debounceTimeoutSec = some timeout → 0 < timeout)
    (hlater : 0 ≤ later)
    (hcapped : ∀ deadline, request.deadlineMs (pyInt (time * 1000)) = some deadline →
      request.freshDelayMs time later ≤ deadline) : request.KeepsPace time later := by
  unfold KeepsPace
  cases horigin : request.origin with
  | debouncer queue ctx delayUntilEpochMs appVersion start maxRecoveryAttempts ownerXid => trivial
  | client queueName options =>
    intro deadline hdeadline
    have hle : pyInt (time * 1000) ≤ deadline := le_deadlineMs htimeout hdeadline
    have hdelay := hcapped deadline hdeadline
    simp only [freshDelayMs, horigin, hdeadline] at hdelay
    rw [clientDelay_eq hle, min_le_iff] at hdelay
    rcases hdelay with hends | hwaits
    · exact Or.inr hends
    · left
      rw [pyInt_add_intCast (by positivity) (by omega)] at hwaits
      omega

end DebounceRequest

/-- A fresh row is capped exactly if its enqueue keeps pace. -/
theorem capped_insertedRow_iff {call : InitCall} {deadlineMs : Option ℤ} {delayMs : ℤ}
    (hdeadline : call.status.debounceDeadlineEpochMs = deadlineMs)
    (hdelay : call.status.delayUntilEpochMs = some delayMs) (now : ℤ) :
    Capped (call.insertedRow now) ↔ ∀ deadline, deadlineMs = some deadline → delayMs ≤ deadline := by
  simp only [Capped, InitCall.insertedRow, hdeadline, hdelay, Option.mem_def, Option.some.injEq,
    exists_eq_left']

/-! ## The bounce -/

theorem capped_bounceUpdate (call : DebounceCall) (now : ℤ) (row : WorkflowStatusRow) :
    Capped (call.bounceUpdate now row) := by
  intro deadline hdeadline
  have hrow : row.debounceDeadlineEpochMs = some deadline := hdeadline
  refine ⟨call.cappedDelay row, rfl, ?_⟩
  simp only [DebounceCall.cappedDelay, hrow]
  split
  · exact le_rfl
  · rename_i hnot
    exact not_lt.mp hnot

theorem db_bounceStep {ι : Type} [DecidableEq ι] (requests : ι → DebounceRequest)
    (s : DebounceState ι) (caller : ι) (time : ℚ) (now : ℤ) :
    (bounceStep requests s caller time now).db =
      (debounceDelayedWorkflow ((requests caller).bounceCall time) now s.db).2 := by
  rcases bounceStep_cases requests s caller time now with ⟨row, -, -, heq⟩ | ⟨phase, -, -, heq⟩
  · rw [heq]
    rfl
  · rw [heq]
    rfl

/-! ## Every step -/

section Steps

variable {ι : Type} [DecidableEq ι] {requests : ι → DebounceRequest} {s s' : DebounceState ι}

theorem capped_of_bounced {caller : ι} {time : ℚ} {now : ℤ} {row' : WorkflowStatusRow}
    (hrow' : row' ∈ (bounceStep requests s caller time now).db.statusRows)
    (hbounces : ((requests caller).bounceCall time).bounces row' = true) : Capped row' := by
  rw [db_bounceStep, db_debounceDelayedWorkflow] at hrow'
  obtain ⟨row, hrow, rfl⟩ := Table.mem_update.mp hrow'
  by_cases hbounced : ((requests caller).bounceCall time).bounces row = true
  · rw [if_pos hbounced]
    exact capped_bounceUpdate _ now row
  · rw [if_neg hbounced] at hbounces
    exact absurd hbounces hbounced

/-- A fresh enqueue writes no row, or the row of its call. -/
theorem filter_enqueueStep {caller : ι} {time later : ℚ} {workflowId : String} {now : ℤ}
    (hid : workflowId ≠ "") (hfresh : s.db.hasWorkflow workflowId = false) :
    (enqueueStep requests s caller time later workflowId now).db.statusRows.filter
        (·.workflowUuid = workflowId) = [] ∨
      ∃ call, (requests caller).enqueueCall time later workflowId = .ok call ∧
        (enqueueStep requests s caller time later workflowId now).db.statusRows.filter
          (·.workflowUuid = workflowId) = [call.insertedRow now] := by
  have hnone : s.db.statusRows.filter (·.workflowUuid = workflowId) = [] := by
    rw [List.filter_eq_nil_iff]
    intro row hrow hsame
    rw [SystemDatabase.hasWorkflow_iff.mpr ⟨row, hrow, by simpa using hsame⟩] at hfresh
    cases hfresh
  rcases enqueueStep_cases requests caller time later now hid hfresh with
    ⟨call, rows, hcall, hisFresh, hinsert, -, heq⟩ | ⟨phase, -, heq⟩
  · right
    refine ⟨call, hcall, ?_⟩
    have hrows : rows.rows = s.db.statusRows ++ [call.insertedRow now] :=
      (Table.insertNew_eq_some.mp hinsert).2
    rw [heq]
    calc
      rows.rows.filter (·.workflowUuid = workflowId) =
          s.db.statusRows.filter (·.workflowUuid = workflowId) ++
            [call.insertedRow now].filter (·.workflowUuid = workflowId) := by
        rw [hrows, List.filter_append]
      _ = [call.insertedRow now] := by
        rw [hnone]
        simp [InitCall.insertedRow, hisFresh.workflowUuid]
  · left
    rw [heq]
    exact hnone

/-- What the rows of one step say about its pace. -/
theorem capped_rowsWritten
    (htimeout : ∀ caller timeout, (requests caller).debounceTimeoutSec = some timeout → 0 < timeout)
    (s : DebounceState ι) (action : DebounceAction ι) :
    ((rowsWritten requests s action ≠ [] → action.KeepsPace requests) →
        ∀ row ∈ rowsWritten requests s action, Capped row) ∧
      ((∀ reading ∈ action.readings, 0 ≤ reading) →
        (∀ row ∈ rowsWritten requests s action, Capped row) →
        rowsWritten requests s action ≠ [] → action.KeepsPace requests) := by
  cases action with
  | bounce caller time now =>
    refine ⟨fun _ row hrow ↦ ?_, fun _ _ _ ↦ trivial⟩
    by_cases hphase : s.phase caller = .bouncing
    · simp only [rowsWritten, debounceCalls, if_pos hphase, List.mem_filter] at hrow
      exact capped_of_bounced hrow.1 hrow.2
    · simp only [rowsWritten, debounceCalls, if_neg hphase] at hrow
      cases hrow
  | enqueue caller time later workflowId now =>
    by_cases henabled : (s.phase caller = .enqueueing ∧ workflowId ≠ "") ∧
        s.db.hasWorkflow workflowId = false
    · obtain ⟨⟨hphase, hid⟩, hfresh⟩ := henabled
      have hwritten : rowsWritten requests s (.enqueue caller time later workflowId now) =
          (enqueueStep requests s caller time later workflowId now).db.statusRows.filter
            (·.workflowUuid = workflowId) := by
        simp only [rowsWritten, debounceCalls, if_pos (And.intro hphase hid), hfresh]
        rfl
      rw [hwritten]
      rcases filter_enqueueStep hid hfresh with hempty | ⟨call, hcall, hsingle⟩
      · rw [hempty]
        simp
      · obtain ⟨hdeadline, hdelay⟩ := DebounceRequest.enqueueCall_delay hid hcall
        have hcapped := capped_insertedRow_iff hdeadline hdelay now
        rw [hsingle]
        simp only [List.mem_singleton, forall_eq, ne_eq, List.cons_ne_self, not_false_eq_true,
          true_implies, hcapped, DebounceAction.KeepsPace]
        constructor
        · intro hpace deadline hsome
          exact DebounceRequest.freshDelayMs_le (htimeout caller) hsome hpace
        · intro hreadings hle
          exact DebounceRequest.keepsPace_of_freshDelayMs_le (htimeout caller)
            (hreadings later (by simp [DebounceAction.readings])) hle
    · have hempty : rowsWritten requests s (.enqueue caller time later workflowId now) = [] := by
        simp only [rowsWritten, debounceCalls]
        split
        · rename_i hstep hstep'
          cases hstep'
        · rename_i hstep hstep'
          cases hstep'
          simp only [Option.ite_none_right_eq_some] at hstep
          rw [if_pos]
          by_contra hnot
          exact henabled ⟨hstep.1, by simpa using hnot⟩
        · rfl
      rw [hempty]
      simp
  | write op now =>
    refine ⟨fun _ row hrow ↦ ?_, fun _ _ _ ↦ trivial⟩
    simp only [rowsWritten, debounceCalls] at hrow
    cases hrow

end Steps

/-- Every row that debounce calls write is capped, in every run whose client enqueues keep pace; and
with readings since the epoch in no other run. -/
theorem debounceCapped_iff_paced {ι : Type} [DecidableEq ι] (requests : ι → DebounceRequest)
    (htimeout : ∀ caller timeout, (requests caller).debounceTimeoutSec = some timeout → 0 < timeout)
    (actions : List (DebounceAction ι)) :
    (PacedEnqueues requests actions → DebounceCapped requests actions) ∧
      ((∀ action ∈ actions, ∀ reading ∈ action.readings, 0 ≤ reading) →
        DebounceCapped requests actions → PacedEnqueues requests actions) := by
  constructor
  · intro hpaced
    rw [PacedEnqueues, System.along_iff] at hpaced
    rw [DebounceCapped, System.along_iff]
    intro before action after s heq hrun
    exact (capped_rowsWritten htimeout s action).1 (hpaced before action after s heq hrun)
  · intro hreadings hcapped
    rw [DebounceCapped, System.along_iff] at hcapped
    rw [PacedEnqueues, System.along_iff]
    intro before action after s heq hrun
    have hmem : action ∈ actions := by
      rw [heq]
      simp
    exact (capped_rowsWritten htimeout s action).2 (hreadings action hmem)
      (hcapped before action after s heq hrun)

/-- A client debounces with a period of ten seconds and a timeout of five. -/
def longPeriod (_ : Unit) : DebounceRequest where
  origin := .client none { workflowName := "f", queueName := "q" }
  workflowName := "f"
  debounceKey := "k"
  debouncePeriodSec := 10
  debounceTimeoutSec := some 5
  inputs := "in"
  serialization := "py_pickle"

/-- It reads the clock for the delay `lag` seconds after the one for the deadline. -/
def laggingEnqueue (lag : ℚ) : List (DebounceAction Unit) :=
  [.bounce () 0 0, .enqueue () 0 lag "wf" 0]

/-- Without a lag it keeps pace. -/
theorem debounceCapped_without_lag :
    PacedEnqueues longPeriod (laggingEnqueue 0) ∧ DebounceCapped longPeriod (laggingEnqueue 0) := by
  have htimeout : ∀ caller timeout, (longPeriod caller).debounceTimeoutSec = some timeout →
      0 < timeout := by
    intro caller timeout hsome
    cases hsome
    norm_num
  have hpaced : PacedEnqueues longPeriod (laggingEnqueue 0) := by
    refine ⟨fun _ ↦ trivial, fun _ _ ↦ ⟨fun _ ↦ ?_, fun _ _ ↦ trivial⟩⟩
    intro deadline _
    exact Or.inl le_rfl
  exact ⟨hpaced, (debounceCapped_iff_paced longPeriod htimeout _).1 hpaced⟩

/-- One millisecond between the two readings puts the delay one millisecond past the deadline. -/
theorem lagging_not_capped :
    (∀ caller timeout, (longPeriod caller).debounceTimeoutSec = some timeout → 0 < timeout) ∧
      ((laggingEnqueue (1 / 1000)).flatMap DebounceAction.readings).Pairwise (· ≤ ·) ∧
      (∃ s, (debounceCalls longPeriod).run (beforeDebounce longPeriod)
          (laggingEnqueue (1 / 1000)) = some s ∧
        (s.db.statusRows.map fun row ↦ (row.delayUntilEpochMs, row.debounceDeadlineEpochMs)) =
          [(some 5001, some 5000)]) ∧
      ¬ DebounceCapped longPeriod (laggingEnqueue (1 / 1000)) := by
  refine ⟨?_, ?_, ⟨_, rfl, by decide +kernel⟩, ?_⟩
  · intro caller timeout hsome
    cases hsome
    norm_num
  · simp [laggingEnqueue, DebounceAction.readings]
  · unfold DebounceCapped
    decide +kernel

end DBOSModel.Debouncer

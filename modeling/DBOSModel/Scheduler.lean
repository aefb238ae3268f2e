import DBOSModel.SysDb.StatusOperation

/-!
# The scheduler

`dynamic_scheduler_loop`, `_ScheduleThread._loop` and `backfill_schedule` of `dbos/_scheduler.py`,
for one schedule with automatic backfill. The loop reads `last_fired_at`, enqueues the ticks after it
up to its own reading of the clock, and starts the thread of the schedule, which reads the clock
again and enqueues the ticks from then on. The thread moves `last_fired_at` to each tick it has
enqueued. It logs an exception and goes on with the next tick, which then moves `last_fired_at` past
the tick that failed.

Any number of loops and threads share `last_fired_at`: those of several processes, and a stopped
thread that still finishes its iteration.
-/

namespace DBOSModel.Scheduler

open Relational SysDb DBOSModel.Core

/-- The ticks of a cron expression and its iterator: `getNext` is the least tick strictly after a
time. -/
structure Cron (T : Type) [LinearOrder T] where
  isTick : T → Prop
  getNext : T → T
  isTick_getNext : ∀ time, isTick (getNext time)
  lt_getNext : ∀ time, time < getNext time
  getNext_le : ∀ time tick, isTick tick → time < tick → getNext time ≤ tick

/-- The definition of a schedule. The serializer gets the scheduled time and the context. -/
structure Schedule (T : Type) where
  scheduleName : String
  workflowName : String
  className : Option String := none
  queueName : Option String := none
  isoformat : T → String
  serialize : T → Except DBOSError String

/-- `workflow_id` of a tick. -/
def Schedule.workflowId {T : Type} (schedule : Schedule T) (tick : T) : String :=
  "sched-" ++ schedule.scheduleName ++ "-" ++ schedule.isoformat tick

/-- `_enqueue_scheduled_workflow`. -/
def enqueueScheduledWorkflow {T : Type} (schedule : Schedule T) (scheduledAt : T)
    (workflowId : String) (now : ℤ) (db : SystemDatabase) : Ending SystemDatabase DBOSError Unit :=
  match DequeueCall.latestVersion db with
  | none => .raised (.dbosException "No application versions found")
  | some latestApplicationVersion =>
    match schedule.serialize scheduledAt with
    | .error error => .raised error
    | .ok inputs =>
      let status := scheduledStatus schedule.workflowName workflowId schedule.scheduleName
        latestApplicationVersion inputs schedule.className schedule.queueName
      match initWorkflow { status := status } now db with
      | .returned _ db' => .returned () db'
      | .raised error => .raised error
      | .raisedAfterCommit error db' => .raisedAfterCommit error db'

/-- The enqueue of a tick, by the thread and by the backfill: an existing workflow is enough. -/
def enqueueTick {T : Type} (schedule : Schedule T) (tick : T) (now : ℤ) (db : SystemDatabase) :
    Ending SystemDatabase DBOSError Unit :=
  if db.hasWorkflow (schedule.workflowId tick) then .returned () db
  else enqueueScheduledWorkflow schedule tick (schedule.workflowId tick) now db

/-! ## The system -/

/-- Where a loop, and then the thread it starts, is with the schedule. -/
inductive SchedulerPhase (T : Type) where
  /-- The loop has no thread for the schedule. -/
  | idle
  /-- `backfill_schedule`: the time of the iterator, and `end`. -/
  | backfilling (time end_ : T)
  /-- The loop is about to start the thread. Its backfill has come up to a time, if it has read a
  `last_fired_at`. -/
  | starting (reached : Option T)
  /-- The thread waits for the tick after the time of its iterator. -/
  | waiting (time : T)
  /-- The thread has enqueued the tick, and is about to update `last_fired_at`. -/
  | marking (tick : T)

/-- The time up to which the ticks are dealt with. -/
def SchedulerPhase.reached {T : Type} : SchedulerPhase T → Option T
  | idle => none
  | backfilling time _ => some time
  | starting reached => reached
  | waiting time => some time
  | marking tick => some tick

structure SchedulerState (ι T : Type) where
  db : SystemDatabase
  lastFiredAt : Option T
  phase : ι → SchedulerPhase T
  /-- The first value of `last_fired_at`. -/
  firstFiredAt : Option T
  /-- The IDs of the workflows that there have been so far. -/
  seen : List String

inductive SchedulerAction (ι T : Type) where
  /-- The loop finds the schedule active and without a thread. -/
  | launch (loop : ι) (now : T)
  /-- One turn of `backfill_schedule`, which may raise. -/
  | backfill (loop : ι) (failure : Option DBOSError) (now : ℤ)
  /-- The thread starts and reads the clock. -/
  | start (loop : ι) (now : T)
  /-- The thread enqueues the next tick, which may raise. -/
  | fire (loop : ι) (failure : Option DBOSError) (now : ℤ)
  /-- `update_last_fired_at`, which may raise. -/
  | mark (loop : ι) (failure : Option DBOSError)
  /-- A pause, a stop or a crash. -/
  | stop (loop : ι)
  /-- Any other transaction on the status table. -/
  | write (op : StatusOp) (now : ℤ)

section System

variable {ι T : Type} [DecidableEq ι] [LinearOrder T] (cron : Cron T) (schedule : Schedule T)

namespace SchedulerState

variable (s : SchedulerState ι T)

/-- The workflows of a database have been there. -/
def store (db : SystemDatabase) : SchedulerState ι T :=
  { s with db := db, seen := db.statusRows.map WorkflowStatusRow.workflowUuid ++ s.seen }

def goTo (loop : ι) (phase : SchedulerPhase T) : SchedulerState ι T :=
  { s with phase := Function.update s.phase loop phase }

/-- The enqueue of a tick, then one phase if it returns and another one if it raises. -/
def tryEnqueue (loop : ι) (tick : T) (failure : Option DBOSError) (now : ℤ)
    (done failed : SchedulerPhase T) : SchedulerState ι T :=
  match failure with
  | some _ => s.goTo loop failed
  | none =>
    match enqueueTick schedule tick now s.db with
    | .returned _ db => (s.store db).goTo loop done
    | .raised _ => s.goTo loop failed
    | .raisedAfterCommit _ db => (s.store db).goTo loop failed

end SchedulerState

def schedulerSystem : System (SchedulerState ι T) (SchedulerAction ι T) where
  step s
    | .launch loop now =>
      match s.phase loop with
      | .idle => some <| s.goTo loop <|
        match s.lastFiredAt with
        | some lastFired =>
          if lastFired < now then .backfilling lastFired now else .starting (some lastFired)
        | none => .starting none
      | _ => none
    | .backfill loop failure now =>
      match s.phase loop with
      | .backfilling time end_ =>
        let nextTime := cron.getNext time
        if end_ ≤ nextTime then some (s.goTo loop (.starting (some time)))
        else some (s.tryEnqueue schedule loop nextTime failure now (.backfilling nextTime end_)
          (.starting (some time)))
      | _ => none
    | .start loop now =>
      match s.phase loop with
      | .starting _ => some (s.goTo loop (.waiting now))
      | _ => none
    | .fire loop failure now =>
      match s.phase loop with
      | .waiting time =>
        let nextExecTime := cron.getNext time
        some (s.tryEnqueue schedule loop nextExecTime failure now (.marking nextExecTime)
          (.waiting nextExecTime))
      | _ => none
    | .mark loop failure =>
      match s.phase loop with
      | .marking tick => some <|
        match failure with
        | some _ => s.goTo loop (.waiting tick)
        | none => { s.goTo loop (.waiting tick) with
            lastFiredAt := some tick
            firstFiredAt := some (s.firstFiredAt.getD tick) }
      | _ => none
    | .stop loop => some (s.goTo loop .idle)
    | .write op now => some (s.store (op.apply now s.db))

/-- A schedule that has not fired yet. -/
def beforeFirst (db : SystemDatabase) : SchedulerState ι T where
  db := db
  lastFiredAt := none
  phase _ := .idle
  firstFiredAt := none
  seen := db.statusRows.map WorkflowStatusRow.workflowUuid

/-- Every tick after the first `last_fired_at` and up to a time has had its workflow. -/
def Covers (s : SchedulerState ι T) (time : T) : Prop :=
  ∀ first, s.firstFiredAt = some first → ∀ tick, cron.isTick tick → first < tick → tick ≤ time →
    schedule.workflowId tick ∈ s.seen

/-- No tick up to `last_fired_at` is lost. -/
def NoTickLost (s : SchedulerState ι T) : Prop :=
  ∀ lastFired, s.lastFiredAt = some lastFired → Covers cron schedule s lastFired

/-- The step leaves no tick out: the thread's enqueue does not raise before there is a workflow for
the tick; no tick falls between the time that the loop has reached and the time that the thread
reads, or between the first `last_fired_at` and that time if the loop has read none; and when
`last_fired_at` is set for the first time, no other loop or thread is past the tick after it. -/
def KeepsTicks (s : SchedulerState ι T) : SchedulerAction ι T → Prop
  | .fire loop failure now =>
    match s.phase loop with
    | .waiting time => schedule.workflowId (cron.getNext time) ∈ s.seen ∨
        failure = none ∧ (enqueueTick schedule (cron.getNext time) now s.db).result = .ok ()
    | _ => True
  | .start loop now =>
    match s.phase loop with
    | .starting (some time) => now < cron.getNext time
    | .starting none => ∀ first ∈ s.firstFiredAt, now < cron.getNext first
    | _ => True
  | .mark loop _ =>
    match s.phase loop with
    | .marking tick => s.firstFiredAt = none →
        ∀ other, ∀ time ∈ (s.phase other).reached, time < cron.getNext tick
    | _ => True
  | _ => True

end System

/-! ## Ticks -/

section Ticks

variable {ι T : Type} [LinearOrder T] {cron : Cron T} {schedule : Schedule T}
  {s s' : SchedulerState ι T} {time later : T}

/-- There is no tick between a time and the next one. -/
theorem Covers.of_lt_getNext (h : Covers cron schedule s time) (hlater : later < cron.getNext time) :
    Covers cron schedule s later := by
  intro first hfirst tick htick hlt hle
  rcases le_or_gt tick time with hbefore | hafter
  · exact h first hfirst tick htick hlt hbefore
  · have hnext := cron.getNext_le time tick htick hafter
    exact absurd (hnext.trans hle) (not_le.mpr hlater)

/-- The workflow of the next tick extends the ticks that are covered. -/
theorem Covers.getNext (h : Covers cron schedule s time)
    (hseen : schedule.workflowId (cron.getNext time) ∈ s.seen) :
    Covers cron schedule s (cron.getNext time) := by
  intro first hfirst tick htick hlt hle
  rcases le_or_gt tick time with hbefore | hafter
  · exact h first hfirst tick htick hlt hbefore
  · rw [le_antisymm hle (cron.getNext_le time tick htick hafter)]
    exact hseen

/-- No tick lies between the first `last_fired_at` and a time before the next one. -/
theorem covers_of_first (first : T) (hfirst : ∀ value, s.firstFiredAt = some value → value = first)
    (htime : time < cron.getNext first) : Covers cron schedule s time := by
  intro value hvalue tick htick hlt hle
  rw [hfirst value hvalue] at hlt
  have hnext := cron.getNext_le first tick htick hlt
  exact absurd (hnext.trans hle) (not_le.mpr htime)

theorem Covers.mono (h : Covers cron schedule s time) (hfirst : s'.firstFiredAt = s.firstFiredAt)
    (hseen : s.seen ⊆ s'.seen) : Covers cron schedule s' time := by
  intro first hfirst' tick htick hlt hle
  rw [hfirst] at hfirst'
  exact hseen (h first hfirst' tick htick hlt hle)

end Ticks

/-! ## Enqueues -/

section Enqueue

variable {T : Type} {schedule : Schedule T} {tick : T} {now : ℤ} {db db' : SystemDatabase}

/-- An enqueue that returns leaves the workflow of the tick in the database. -/
theorem hasWorkflow_of_enqueueTick (h : enqueueTick schedule tick now db = .returned () db') :
    db'.hasWorkflow (schedule.workflowId tick) = true := by
  unfold enqueueTick at h
  split at h
  · rename_i hexists
    cases h
    exact hexists
  · unfold enqueueScheduledWorkflow at h
    split at h
    · cases h
    · split at h
      · cases h
      · simp only at h
        split at h
        · rename_i result db'' hinit
          cases h
          have hafter := congrArg (Ending.stateAfter db) hinit
          rw [Ending.stateAfter_returned] at hafter
          rcases initWorkflow_eq_returned hinit with
            ⟨row, hrow, hid, -⟩ | ⟨-, -, -, -, rows, hrows, rfl⟩
          · obtain ⟨row', hrow', hid'⟩ := exists_key_initWorkflow _ now hrow
            rw [hafter] at hrow'
            exact SystemDatabase.hasWorkflow_iff.mpr ⟨row', hrow', hid'.trans hid⟩
          · exact SystemDatabase.hasWorkflow_iff.mpr
              ⟨_, (Table.mem_insertNew hrows).mpr (Or.inr rfl), rfl⟩
        · cases h
        · cases h

end Enqueue

/-! ## The invariant -/

section Invariant

variable {ι T : Type} [LinearOrder T] {cron : Cron T} {schedule : Schedule T}
  {s s' : SchedulerState ι T} {loop : ι} {phase : SchedulerPhase T}

/-- All that a loop or thread has dealt with is covered, and so is all up to `last_fired_at`. -/
structure SchedulerInvariant (cron : Cron T) (schedule : Schedule T) (s : SchedulerState ι T) :
    Prop where
  noTickLost : NoTickLost cron schedule s
  reached : ∀ loop time, (s.phase loop).reached = some time → Covers cron schedule s time

theorem SchedulerInvariant.store (h : SchedulerInvariant cron schedule s) (db : SystemDatabase) :
    SchedulerInvariant cron schedule (s.store db) := by
  have hseen : s.seen ⊆ (s.store db).seen := List.subset_append_right _ _
  refine ⟨?_, ?_⟩
  · intro lastFired hlast
    exact (h.noTickLost lastFired hlast).mono rfl hseen
  · intro loop time htime
    exact (h.reached loop time htime).mono rfl hseen

omit [LinearOrder T] in
theorem mem_seen_store {workflowId : String} {db : SystemDatabase}
    (h : db.hasWorkflow workflowId = true) : workflowId ∈ (s.store db).seen := by
  obtain ⟨row, hrow, rfl⟩ := SystemDatabase.hasWorkflow_iff.mp h
  exact List.mem_append_left _ (List.mem_map_of_mem hrow)

theorem invariant_beforeFirst (db : SystemDatabase) :
    SchedulerInvariant cron schedule (beforeFirst db : SchedulerState ι T) := by
  refine ⟨?_, ?_⟩
  · intro lastFired hlast
    cases hlast
  · intro loop time htime
    cases htime

/-- The time that the phase of a loop has reached is covered. -/
theorem SchedulerInvariant.covers (h : SchedulerInvariant cron schedule s)
    (hphase : s.phase loop = phase) {time : T} (htime : phase.reached = some time) :
    Covers cron schedule s time := by
  apply h.reached loop
  rw [hphase]
  exact htime

variable [DecidableEq ι]

/-- A step of one loop that leaves `last_fired_at` and reaches covered ticks only. -/
theorem SchedulerInvariant.goTo (h : SchedulerInvariant cron schedule s)
    (hphase : ∀ time, phase.reached = some time → Covers cron schedule s time) :
    SchedulerInvariant cron schedule (s.goTo loop phase) := by
  refine ⟨h.noTickLost, ?_⟩
  intro other time htime
  simp only [SchedulerState.goTo, Function.update_apply] at htime
  split at htime
  · exact hphase time htime
  · exact h.reached other time htime

/-- An enqueue of the tick after a covered time: what it goes to if it returns is covered, and so
must be what it goes to if it raises. -/
theorem invariant_tryEnqueue (h : SchedulerInvariant cron schedule s) {time : T}
    {failure : Option DBOSError} {now : ℤ} {done failed : SchedulerPhase T}
    (htime : Covers cron schedule s time) (hdone : done.reached = some (cron.getNext time))
    (hfailed : failure = none ∧ (enqueueTick schedule (cron.getNext time) now s.db).result = .ok () ∨
      ∀ reached, failed.reached = some reached → Covers cron schedule s reached) :
    SchedulerInvariant cron schedule
      (s.tryEnqueue schedule loop (cron.getNext time) failure now done failed) := by
  unfold SchedulerState.tryEnqueue
  cases failure with
  | some error =>
    have hcovers := hfailed.resolve_left fun hok ↦ Option.some_ne_none _ hok.1
    exact h.goTo hcovers
  | none =>
    cases hending : enqueueTick schedule (cron.getNext time) now s.db with
    | returned value db =>
      have hfound := hasWorkflow_of_enqueueTick hending
      apply (h.store db).goTo
      intro reached hreached
      rw [hdone] at hreached
      cases hreached
      have hstored : Covers cron schedule (s.store db) time :=
        htime.mono rfl (List.subset_append_right _ _)
      exact hstored.getNext (mem_seen_store hfound)
    | raised error =>
      have hcovers := hfailed.resolve_left fun hok ↦ by simp [hending] at hok
      exact h.goTo hcovers
    | raisedAfterCommit error db =>
      have hcovers := hfailed.resolve_left fun hok ↦ by simp [hending] at hok
      apply (h.store db).goTo
      intro reached hreached
      exact (hcovers reached hreached).mono rfl (List.subset_append_right _ _)

/-- `last_fired_at` moves to a covered tick. -/
theorem invariant_mark (h : SchedulerInvariant cron schedule s) {tick : T}
    (hphase : s.phase loop = .marking tick)
    (hfirst : s.firstFiredAt = none → ∀ other, ∀ time ∈ (s.phase other).reached,
      time < cron.getNext tick) :
    SchedulerInvariant cron schedule { s.goTo loop (.waiting tick) with
      lastFiredAt := some tick
      firstFiredAt := some (s.firstFiredAt.getD tick) } := by
  have htick : (s.phase loop).reached = some tick := by
    rw [hphase]
    rfl
  -- A time that was reached before is covered, whether `last_fired_at` was set before or not.
  have hcovers : ∀ other time, (s.phase other).reached = some time →
      Covers cron schedule { s.goTo loop (.waiting tick) with
        lastFiredAt := some tick
        firstFiredAt := some (s.firstFiredAt.getD tick) } time := by
    intro other time htime
    cases hset : s.firstFiredAt with
    | some first =>
      apply (h.reached other time htime).mono
      · rw [hset]
        rfl
      · exact List.Subset.refl _
    | none =>
      apply covers_of_first tick
      · intro value hvalue
        exact (Option.some.inj hvalue).symm
      · exact hfirst hset other time htime
  refine ⟨?_, ?_⟩
  · intro lastFired hlast
    rw [← Option.some.inj hlast]
    exact hcovers loop tick htick
  · intro other time htime
    simp only [SchedulerState.goTo, Function.update_apply] at htime
    split at htime
    · rw [← Option.some.inj htime]
      exact hcovers loop tick htick
    · exact hcovers other time htime

theorem invariant_step (h : SchedulerInvariant cron schedule s) {action : SchedulerAction ι T}
    (hkeeps : KeepsTicks cron schedule s action)
    (hstep : (schedulerSystem cron schedule).step s action = some s') :
    SchedulerInvariant cron schedule s' := by
  cases action with
  | launch loop now =>
    cases hphase : s.phase loop with
    | idle =>
      simp only [schedulerSystem, hphase, Option.some.injEq] at hstep
      subst hstep
      apply h.goTo
      cases hlast : s.lastFiredAt with
      | none =>
        intro time htime
        cases htime
      | some lastFired =>
        intro time htime
        have hsame : time = lastFired := by
          simp only at htime
          split at htime
          · exact (Option.some.inj htime).symm
          · exact (Option.some.inj htime).symm
        rw [hsame]
        exact h.noTickLost lastFired hlast
    | _ => simp only [schedulerSystem, hphase, reduceCtorEq] at hstep
  | backfill loop failure now =>
    cases hphase : s.phase loop with
    | backfilling time end_ =>
      have htime : Covers cron schedule s time := h.covers hphase rfl
      simp only [schedulerSystem, hphase] at hstep
      split at hstep
      · cases hstep
        apply h.goTo
        intro reached hreached
        cases hreached
        exact htime
      · cases hstep
        apply invariant_tryEnqueue h htime rfl
        right
        intro reached hreached
        cases hreached
        exact htime
    | _ => simp only [schedulerSystem, hphase, reduceCtorEq] at hstep
  | start loop now =>
    cases hphase : s.phase loop with
    | starting reached =>
      simp only [schedulerSystem, hphase, Option.some.injEq] at hstep
      simp only [KeepsTicks, hphase] at hkeeps
      subst hstep
      apply h.goTo
      intro time htime
      cases htime
      cases reached with
      | some time =>
        have htime : Covers cron schedule s time := h.covers hphase rfl
        exact htime.of_lt_getNext hkeeps
      | none =>
        cases hfirst : s.firstFiredAt with
        | none =>
          intro first hset
          rw [hfirst] at hset
          cases hset
        | some first =>
          apply covers_of_first first
          · intro value hvalue
            rw [hfirst] at hvalue
            exact (Option.some.inj hvalue).symm
          · exact hkeeps first hfirst
    | _ => simp only [schedulerSystem, hphase, reduceCtorEq] at hstep
  | fire loop failure now =>
    cases hphase : s.phase loop with
    | waiting time =>
      have htime : Covers cron schedule s time := h.covers hphase rfl
      simp only [schedulerSystem, hphase, Option.some.injEq] at hstep
      simp only [KeepsTicks, hphase] at hkeeps
      subst hstep
      apply invariant_tryEnqueue h htime rfl
      rcases hkeeps with hseen | hok
      · right
        intro reached hreached
        cases hreached
        exact htime.getNext hseen
      · exact Or.inl hok
    | _ => simp only [schedulerSystem, hphase, reduceCtorEq] at hstep
  | mark loop failure =>
    cases hphase : s.phase loop with
    | marking tick =>
      simp only [schedulerSystem, hphase, Option.some.injEq] at hstep
      subst hstep
      cases failure with
      | some error =>
        apply h.goTo
        intro reached hreached
        exact h.covers hphase hreached
      | none =>
        simp only [KeepsTicks, hphase] at hkeeps
        exact invariant_mark h hphase hkeeps
    | _ => simp only [schedulerSystem, hphase, reduceCtorEq] at hstep
  | stop loop =>
    cases hstep
    apply h.goTo
    intro time htime
    cases htime
  | write op now =>
    cases hstep
    exact h.store _

end Invariant

/-- In every run whose steps leave no tick out, every tick after the first `last_fired_at` and up to
the current one has had its workflow, in every state. -/
theorem noTickLost_of_keepsTicks {ι T : Type} [DecidableEq ι] [LinearOrder T] (cron : Cron T)
    (schedule : Schedule T) (db : SystemDatabase) {actions : List (SchedulerAction ι T)}
    {s : SchedulerState ι T}
    (hkeeps : (schedulerSystem cron schedule).Along (KeepsTicks cron schedule) (beforeFirst db)
      actions)
    (hrun : (schedulerSystem cron schedule).run (beforeFirst db) actions = some s) :
    NoTickLost cron schedule s := by
  have hinvariant : SchedulerInvariant cron schedule s :=
    System.run_invariant _ (fun _ _ _ h hkeeps hstep ↦ invariant_step h hkeeps hstep)
      (invariant_beforeFirst db) hkeeps hrun
  exact hinvariant.noTickLost

/-- A tick every second. -/
def everySecond : Cron ℤ where
  isTick _ := True
  getNext time := time + 1
  isTick_getNext _ := trivial
  lt_getNext time := lt_add_one time
  getNext_le _ _ _ hlt := Int.add_one_le_of_lt hlt

def everySecondSchedule : Schedule ℤ where
  scheduleName := "s"
  workflowName := "f"
  isoformat time := toString time
  serialize _ := .ok ""

def registeredDatabase : SystemDatabase :=
  { SystemDatabase.empty with
    applicationVersions := SystemDatabase.empty.applicationVersions.insertIgnore ⟨"id", "v", 0⟩ }

/-- A thread fires the first tick, then the given steps, then the third tick. -/
def fireAround (second : List (SchedulerAction Unit ℤ)) : List (SchedulerAction Unit ℤ) :=
  [.launch () 0, .start () 0, .fire () none 1, .mark () none] ++ second ++
    [.fire () none 3, .mark () none]

theorem noTickLost_fireAround :
    ∃ s, (schedulerSystem everySecond everySecondSchedule).run (beforeFirst registeredDatabase)
        (fireAround [.fire () none 2, .mark () none]) = some s ∧
      NoTickLost everySecond everySecondSchedule s := by
  obtain ⟨s, hrun⟩ : ∃ s, (schedulerSystem everySecond everySecondSchedule).run
      (beforeFirst registeredDatabase) (fireAround [.fire () none 2, .mark () none]) = some s :=
    ⟨_, rfl⟩
  refine ⟨s, hrun, noTickLost_of_keepsTicks everySecond everySecondSchedule registeredDatabase ?_
    hrun⟩
  refine ⟨trivial, ?_⟩
  rintro _ ⟨⟩
  refine ⟨fun first hfirst ↦ (nomatch hfirst), ?_⟩
  rintro _ ⟨⟩
  refine ⟨Or.inr ⟨rfl, rfl⟩, ?_⟩
  rintro _ ⟨⟩
  refine ⟨fun _ _ time htime ↦ ?_, ?_⟩
  · cases htime
    decide
  rintro _ ⟨⟩
  refine ⟨Or.inr ⟨rfl, rfl⟩, ?_⟩
  rintro _ ⟨⟩
  refine ⟨fun hnone ↦ (nomatch hnone), ?_⟩
  rintro _ ⟨⟩
  refine ⟨Or.inr ⟨rfl, rfl⟩, ?_⟩
  rintro _ ⟨⟩
  exact ⟨fun hnone ↦ (nomatch hnone), fun _ _ ↦ trivial⟩

/-- The second tick fails, and the third one moves `last_fired_at` past it. -/
theorem not_noTickLost_fireAround :
    ∃ s, (schedulerSystem everySecond everySecondSchedule).run (beforeFirst registeredDatabase)
        (fireAround [.fire () (some (.exception "connection lost")) 2]) = some s ∧
      s.firstFiredAt = some 1 ∧ s.lastFiredAt = some 3 ∧
      ¬ NoTickLost everySecond everySecondSchedule s := by
  refine ⟨_, rfl, rfl, rfl, ?_⟩
  intro hnone
  have hseen := hnone 3 rfl 1 rfl 2 trivial (by decide) (by decide)
  revert hseen
  decide

end DBOSModel.Scheduler

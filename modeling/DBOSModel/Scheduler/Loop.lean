import DBOSModel.Scheduler.Schedules
import DBOSModel.Supervision.Pool

/-!
# The scheduler loop

`dynamic_scheduler_loop` of `dbos/_scheduler.py` and what it needs of `_ScheduleThread`, for all
schedules of a database together. The loop lists the schedules, stops the threads of those that are
gone, and then sees for one schedule after the other that the right thread runs or none. Between any
two of its steps, everyone may call the functions on the table. A thread is live here as long as it
has not been told to stop.

The constructor of a thread deserializes the context and looks the timezone up; the loop does not
catch what it raises.
-/

namespace DBOSModel.Scheduler

open Relational SysDb Supervision

/-- `compute_signature`. -/
structure Signature where
  workflowName : String
  workflowClassName : Option String
  schedule : String
  context : String
  cronTimezone : Option String
  queueName : Option String
deriving DecidableEq

def WorkflowSchedule.computeSignature (schedule : WorkflowSchedule) : Signature where
  workflowName := schedule.workflowName
  workflowClassName := schedule.workflowClassName
  schedule := schedule.schedule
  context := schedule.context
  cronTimezone := schedule.cronTimezone
  queueName := schedule.queueName

def WorkflowSchedule.isActive (schedule : WorkflowSchedule) : Bool := schedule.status == "ACTIVE"

/-- What a thread keeps of its schedule. -/
structure ScheduleThread where
  scheduleName : String
  signature : Signature
deriving DecidableEq

/-- The serializer of the process and its timezone database. -/
structure ScheduleEnv where
  deserializes : String → Bool
  zoneInfo : String → Bool

namespace ScheduleEnv

variable (env : ScheduleEnv)

/-- Whether the constructor raises nothing. An empty name of a timezone is UTC, like none. -/
def constructs (signature : Signature) : Bool :=
  env.deserializes signature.context &&
    match signature.cronTimezone with
    | none => true
    | some tzName => tzName.isEmpty || env.zoneInfo tzName

def thread (schedule : WorkflowSchedule) : Option ScheduleThread :=
  if env.constructs schedule.computeSignature then
    some { scheduleName := schedule.scheduleName, signature := schedule.computeSignature }
  else none

/-- The body of the loop over the listed schedules, or the threads at the moment where the
constructor raises. -/
def processSchedule (pool : Pool String ScheduleThread) (schedule : WorkflowSchedule) :
    Except (Pool String ScheduleThread) (Pool String ScheduleThread) :=
  if !schedule.isActive then
    .ok (pool.stopWhere fun scheduleId ↦ scheduleId == schedule.scheduleId)
  else
    match pool.table.get schedule.scheduleId with
    | some n =>
      if pool.started[n]?.map (fun entry ↦ entry.2.signature) = some schedule.computeSignature then
        .ok pool
      else
        match env.thread schedule with
        | some thread => .ok ((pool.retire n).start schedule.scheduleId thread)
        | none => .error (pool.retire n)
    | none =>
      match env.thread schedule with
      | some thread => .ok (pool.start schedule.scheduleId thread)
      | none => .error pool

end ScheduleEnv

/-- A call on the table. -/
inductive ScheduleCall where
  | create (schedule : WorkflowSchedule)
  | apply (schedules : List WorkflowSchedule)
  | pause (name : String)
  | resume (name : String)
  | fired (name lastFiredAt : String)
  | delete (name : String)

namespace ScheduleCall

/-- The IDs that a call generates, with the names of their schedules. -/
def generates : ScheduleCall → List (String × String)
  | .create schedule => [schedule.identity]
  | .apply schedules => schedules.map WorkflowSchedule.identity
  | _ => []

/-- The table after a call. A call that raises leaves it as it is. -/
def run (t : SchedulesTable) : ScheduleCall → SchedulesTable
  | .create schedule => (createSchedule schedule t).toOption.getD t
  | .apply schedules => (applySchedules schedules t).toOption.getD t
  | .pause name => pauseSchedule name t
  | .resume name => resumeSchedule name t
  | .fired name lastFiredAt => updateLastFiredAt name lastFiredAt t
  | .delete name => deleteSchedule name t

end ScheduleCall

/-- Where the loop is. -/
inductive LoopPhase where
  | waiting
  | listed (schedules : List WorkflowSchedule)
  /-- Going through the listed schedules, with the rest of them. -/
  | processing (schedules rest : List WorkflowSchedule)
  /-- Ended by an exception, while it went through the listed schedules. -/
  | raised (schedules : List WorkflowSchedule)
  | stopped
deriving DecidableEq

structure LoopState where
  schedules : SchedulesTable
  /-- The IDs that have been generated so far, with the names of their schedules. -/
  generated : Dict String String
  threads : Pool String ScheduleThread
  phase : LoopPhase

inductive LoopAction where
  | call (call : ScheduleCall)
  /-- `list_schedules`, which has no order, or an exception. -/
  | list (result : Option (List WorkflowSchedule))
  | stopDeleted
  | process
  | wait
  | shutdown

/-- The loop of one process, and the calls of all processes. -/
def loopSystem (env : ScheduleEnv) : System LoopState LoopAction where
  step st
    | .call call =>
      match st.generated.insertAll call.generates with
      | some generated => some { st with schedules := call.run st.schedules, generated := generated }
      | none => none
    | .list result =>
      match st.phase, result with
      | .waiting, some schedules =>
        if schedules.Perm st.schedules.rows then some { st with phase := .listed schedules } else none
      | .waiting, none => some st
      | _, _ => none
    | .stopDeleted =>
      match st.phase with
      | .listed schedules =>
        let currentIds := schedules.map WorkflowSchedule.scheduleId
        some { st with
          threads := st.threads.stopWhere fun scheduleId ↦ !currentIds.contains scheduleId
          phase := .processing schedules schedules }
      | _ => none
    | .process =>
      match st.phase with
      | .processing schedules (schedule :: rest) =>
        match env.processSchedule st.threads schedule with
        | .ok threads => some { st with threads := threads, phase := .processing schedules rest }
        | .error threads => some { st with threads := threads, phase := .raised schedules }
      | _ => none
    | .wait =>
      match st.phase with
      | .processing _ [] => some { st with phase := .waiting }
      | _ => none
    | .shutdown =>
      match st.phase with
      | .waiting => some { st with threads := st.threads.stopWhere fun _ ↦ true, phase := .stopped }
      | _ => none

/-- Before the first listing. -/
def LoopState.launched (t : SchedulesTable) : LoopState where
  schedules := t
  generated := { rows := t.rows.map WorkflowSchedule.identity
                 nodup := by rw [List.map_map]; exact t.ids_nodup }
  threads := .empty
  phase := .waiting

/-! ## Which thread a schedule gets -/

/-- What a listed schedule wants of its key: no thread, or one for its definition. -/
def WorkflowSchedule.want (schedule : WorkflowSchedule) : String × Option ScheduleThread :=
  (schedule.scheduleId,
    if schedule.isActive then
      some { scheduleName := schedule.scheduleName, signature := schedule.computeSignature }
    else none)

/-- Every thread was started for an ID and the name that goes with it, and has been constructed. -/
structure Traceable (env : ScheduleEnv) (generated : Dict String String)
    (pool : Pool String ScheduleThread) : Prop where
  identity : ∀ entry ∈ pool.started, (entry.1, entry.2.scheduleName) ∈ generated.rows
  constructs : ∀ entry ∈ pool.started, env.constructs entry.2.signature = true

/-- The result of `list_schedules`. -/
structure Listing (generated : Dict String String) (schedules : List WorkflowSchedule) : Prop where
  identity : ∀ schedule ∈ schedules, schedule.identity ∈ generated.rows
  ids_nodup : (schedules.map WorkflowSchedule.scheduleId).Nodup
  names_nodup : (schedules.map WorkflowSchedule.scheduleName).Nodup

/-- The threads that have not been told to stop are those of different names. -/
def OneForEachName (pool : Pool String ScheduleThread) : Prop :=
  ∀ ⦃m n : ℕ⦄ ⦃left right : String × ScheduleThread⦄, pool.live m = true → pool.live n = true →
    pool.started[m]? = some left → pool.started[n]? = some right →
      left.2.scheduleName = right.2.scheduleName → m = n

section Threads

variable {env : ScheduleEnv} {generated generated' : Dict String String}
  {pool pool' : Pool String ScheduleThread} {schedules : List WorkflowSchedule}
  {schedule : WorkflowSchedule}

theorem Traceable.mono (h : Traceable env generated pool) (hsub : generated.rows ⊆ generated'.rows) :
    Traceable env generated' pool where
  identity entry hentry := hsub (h.identity entry hentry)
  constructs := h.constructs

theorem Listing.mono (h : Listing generated schedules) (hsub : generated.rows ⊆ generated'.rows) :
    Listing generated' schedules where
  identity schedule hschedule := hsub (h.identity schedule hschedule)
  ids_nodup := h.ids_nodup
  names_nodup := h.names_nodup

theorem name_unique {id name name' : String} (h : (id, name) ∈ generated.rows)
    (h' : (id, name') ∈ generated.rows) : name = name' :=
  congrArg Prod.snd (generated.eq_of_key h h' rfl)

/-- While all keys are those of one listing, no two threads have one name. -/
theorem oneForEachName_of_keys (hwf : pool.WellFormed) (htrace : Traceable env generated pool)
    (hlisting : Listing generated schedules)
    (hkeys : ∀ id n, pool.table.get id = some n →
      id ∈ schedules.map WorkflowSchedule.scheduleId) : OneForEachName pool := by
  intro m n left right hm hn hleft hright hname
  have hschedule : ∀ i entry, pool.live i = true → pool.started[i]? = some entry →
      ∃ schedule ∈ schedules, schedule.scheduleId = entry.1 ∧
        schedule.scheduleName = entry.2.scheduleName := by
    intro i entry hlive hstarted
    obtain ⟨id, hget⟩ := hwf.owned i hlive
    obtain ⟨thread, hthread⟩ := hwf.tabled id i hget
    have hentry : entry = (id, thread) := Option.some.inj (hstarted.symm.trans hthread)
    obtain ⟨schedule, hmem, hid⟩ := List.mem_map.1 (hkeys id i hget)
    have hidentity := hlisting.identity schedule hmem
    have htraced := htrace.identity entry (List.mem_of_getElem? hstarted)
    unfold WorkflowSchedule.identity at hidentity
    rw [hid] at hidentity
    rw [hentry] at htraced
    rw [hentry]
    exact ⟨schedule, hmem, hid, name_unique hidentity htraced⟩
  obtain ⟨first, hfirst, hfirstId, hfirstName⟩ := hschedule m left hm hleft
  obtain ⟨second, hsecond, hsecondId, hsecondName⟩ := hschedule n right hn hright
  have hsame : first = second := by
    apply List.inj_on_of_nodup_map hlisting.names_nodup hfirst hsecond
    rw [hfirstName, hsecondName, hname]
  have hkey : left.1 = right.1 := by rw [← hfirstId, ← hsecondId, hsame]
  have hright' : pool.started[n]? = some (left.1, right.2) := by rw [hkey]; exact hright
  exact hwf.live_unique hm hn hleft hright'

/-- Stopping threads leaves no more of a name. -/
theorem OneForEachName.of_live (h : OneForEachName pool) (hstarted : pool'.started = pool.started)
    (hlive : ∀ n, pool'.live n = true → pool.live n = true) : OneForEachName pool' := by
  intro m n left right hm hn hleft hright hname
  rw [hstarted] at hleft hright
  exact h (hlive m hm) (hlive n hn) hleft hright hname

theorem OneForEachName.stopWhere (h : OneForEachName pool) (p : String → Bool) :
    OneForEachName (pool.stopWhere p) := by
  apply h.of_live (pool.started_stopWhere p)
  intro n hlive
  rw [Pool.live_stopWhere, Bool.and_eq_true] at hlive
  exact hlive.1

/-- The loop restarts a thread for another definition: its key and its name do not change. -/
theorem Traceable.startedWith_eq (htrace : Traceable env generated pool)
    (hidentity : schedule.identity ∈ generated.rows) {n : ℕ} {thread : ScheduleThread}
    (hstarted : pool.started[n]? = some (schedule.scheduleId, thread)) :
    pool.startedWith { scheduleName := schedule.scheduleName
                       signature := schedule.computeSignature } n =
      decide (thread.signature = schedule.computeSignature) := by
  have hname : thread.scheduleName = schedule.scheduleName :=
    name_unique (htrace.identity _ (List.mem_of_getElem? hstarted)) hidentity
  unfold Pool.startedWith
  rw [hstarted, Bool.eq_iff_iff, beq_iff_eq, decide_eq_true_eq, Option.map_some,
    Option.some.injEq, ← hname]
  constructor
  · exact fun h ↦ congrArg ScheduleThread.signature h
  · exact fun h ↦ h ▸ rfl

/-- A schedule that can be constructed or needs no thread. -/
def ScheduleEnv.Accepts (env : ScheduleEnv) (schedule : WorkflowSchedule) : Prop :=
  schedule.isActive = true → env.constructs schedule.computeSignature = true

instance (env : ScheduleEnv) (schedule : WorkflowSchedule) : Decidable (env.Accepts schedule) :=
  inferInstanceAs (Decidable (_ → _))

theorem ScheduleEnv.processSchedule_of_accepts (hwf : pool.WellFormed)
    (htrace : Traceable env generated pool) (hidentity : schedule.identity ∈ generated.rows)
    (haccepts : env.Accepts schedule) :
    env.processSchedule pool schedule = .ok (pool.reconcileOne schedule.want) := by
  unfold processSchedule Pool.reconcileOne WorkflowSchedule.want
  by_cases hactive : schedule.isActive = true
  · have hthread : env.thread schedule =
        some { scheduleName := schedule.scheduleName, signature := schedule.computeSignature } :=
      if_pos (haccepts hactive)
    simp only [hactive, Bool.not_true, Bool.false_eq_true, if_false, if_true, hthread]
    unfold Pool.ensure
    cases hget : pool.table.get schedule.scheduleId with
    | none => rfl
    | some n =>
      obtain ⟨thread, hstarted⟩ := hwf.tabled _ n hget
      simp only [hstarted, Option.map_some, Option.some.injEq,
        htrace.startedWith_eq hidentity hstarted, decide_eq_true_eq]
      split <;> rfl
  · simp [hactive]

/-- Where the constructor raises, the thread with the old definition is stopped and still in the
dictionary. -/
theorem ScheduleEnv.processSchedule_of_not_accepts (hwf : pool.WellFormed)
    (htrace : Traceable env generated pool) (haccepts : ¬ env.Accepts schedule) :
    ∃ pool', env.processSchedule pool schedule = .error pool' ∧
      (pool' = pool ∨ ∃ n, pool' = pool.retire n) := by
  unfold Accepts at haccepts
  push Not at haccepts
  obtain ⟨hactive, hconstructs⟩ := haccepts
  have hthread : env.thread schedule = none := if_neg hconstructs
  unfold processSchedule
  simp only [hactive, Bool.not_true, Bool.false_eq_true, if_false, hthread]
  cases hget : pool.table.get schedule.scheduleId with
  | none => exact ⟨pool, rfl, Or.inl rfl⟩
  | some n =>
    obtain ⟨thread, hstarted⟩ := hwf.tabled _ n hget
    have hchanged : thread.signature ≠ schedule.computeSignature := by
      intro hsame
      apply hconstructs
      rw [← hsame]
      exact htrace.constructs _ (List.mem_of_getElem? hstarted)
    refine ⟨pool.retire n, ?_, Or.inr ⟨n, rfl⟩⟩
    simp only [hstarted, Option.map_some, Option.some.injEq, hchanged, if_false]

theorem Traceable.reconcileOne (h : Traceable env generated pool)
    (hidentity : schedule.identity ∈ generated.rows) (haccepts : env.Accepts schedule) :
    Traceable env generated (pool.reconcileOne schedule.want) := by
  have hstarted : ∀ entry ∈ (pool.reconcileOne schedule.want).started,
      entry ∈ pool.started ∨ schedule.isActive = true ∧ entry.1 = schedule.scheduleId ∧
        entry.2 = { scheduleName := schedule.scheduleName
                    signature := schedule.computeSignature } := by
    intro entry hentry
    have hfold : entry ∈ ([schedule.want].foldl Pool.reconcileOne pool).started := hentry
    rcases Pool.mem_started_foldl hfold with hold | hnew
    · exact Or.inl hold
    · right
      rw [List.mem_singleton] at hnew
      unfold WorkflowSchedule.want at hnew
      by_cases hactive : schedule.isActive = true
      · simp only [hactive, if_true, Prod.mk.injEq, Option.some.injEq] at hnew
        exact ⟨hactive, hnew⟩
      · simp [hactive] at hnew
  constructor
  · intro entry hentry
    rcases hstarted entry hentry with hold | ⟨-, hkey, hthread⟩
    · exact h.identity entry hold
    · rw [hkey, hthread]
      exact hidentity
  · intro entry hentry
    rcases hstarted entry hentry with hold | ⟨hactive, -, hthread⟩
    · exact h.constructs entry hold
    · rw [hthread]
      exact haccepts hactive

theorem map_want_fst :
    (schedules.map WorkflowSchedule.want).map Prod.fst =
      schedules.map WorkflowSchedule.scheduleId := by
  rw [List.map_map]
  rfl

end Threads

/-! ## What a call does to the identities -/

section Calls

variable {t t' : SchedulesTable} {schedules : List WorkflowSchedule} {schedule : WorkflowSchedule}

theorem identity_redefineAll {row : WorkflowSchedule} :
    (redefineAll schedules row).identity = row.identity := by
  unfold redefineAll
  split <;> rfl

theorem mem_identity_applySchedules (h : applySchedules schedules t = .ok t')
    {row : WorkflowSchedule} (hrow : row ∈ t'.rows) :
    row.identity ∈ t.rows.map WorkflowSchedule.identity ∨
      row.identity ∈ schedules.map WorkflowSchedule.identity := by
  induction schedules using List.reverseRecOn generalizing t' row with
  | nil =>
    obtain rfl : t = t' := Except.ok.inj h
    exact Or.inl (List.mem_map_of_mem hrow)
  | append_singleton rest schedule ih =>
    rw [applySchedules_concat] at h
    cases happly : applySchedules rest t with
    | error error => simp [happly, Except.bind] at h
    | ok t₁ =>
      rw [happly] at h
      obtain ⟨new, hrows, hnew⟩ := upsertSchedule_rows h
      rw [List.map_append, List.mem_append]
      rw [hrows, List.mem_append] at hrow
      rcases hrow with hold | hadded
      · obtain ⟨old, hmem, rfl⟩ := List.mem_map.1 hold
        rw [identity_redefineAll]
        rcases ih happly hmem with h' | h'
        · exact Or.inl h'
        · exact Or.inr (Or.inl h')
      · right
        right
        rcases hnew with ⟨rfl, -⟩ | ⟨rfl, -⟩
        · exact absurd hadded List.not_mem_nil
        · rw [List.mem_singleton.1 hadded]
          exact List.mem_singleton_self _

/-- A call leaves identities that were there and ones that it has generated. -/
theorem ScheduleCall.mem_identity_run {call : ScheduleCall} {row : WorkflowSchedule}
    (h : row ∈ (call.run t).rows) :
    row.identity ∈ t.rows.map WorkflowSchedule.identity ∨ row.identity ∈ call.generates := by
  cases call with
  | create schedule =>
    change row ∈ ((createSchedule schedule t).toOption.getD t).rows at h
    unfold createSchedule at h
    cases hinsert : t.insert schedule with
    | none =>
      rw [hinsert] at h
      exact Or.inl (List.mem_map_of_mem h)
    | some t₁ =>
      rw [hinsert] at h
      change row ∈ t₁.rows at h
      rw [rows_insert hinsert, List.mem_append, List.mem_singleton] at h
      rcases h with hold | rfl
      · exact Or.inl (List.mem_map_of_mem hold)
      · exact Or.inr (List.mem_singleton_self _)
  | apply schedules =>
    change row ∈ ((applySchedules schedules t).toOption.getD t).rows at h
    cases happly : applySchedules schedules t with
    | error error =>
      rw [happly] at h
      exact Or.inl (List.mem_map_of_mem h)
    | ok t₁ =>
      rw [happly] at h
      exact mem_identity_applySchedules happly h
  | pause name => exact Or.inl (mem_identity_update (identity_setStatus "PAUSED") h)
  | resume name => exact Or.inl (mem_identity_update (identity_setStatus "ACTIVE") h)
  | fired name lastFiredAt =>
    exact Or.inl (mem_identity_update (identity_setLastFiredAt lastFiredAt) h)
  | delete name =>
    change row ∈ (deleteSchedule name t).rows at h
    rw [rows_deleteSchedule, List.mem_filter] at h
    exact Or.inl (List.mem_map_of_mem h.1)

end Calls

/-! ## Every run of the loop -/

/-- What holds in each phase. Between the listing and the end of a pass, the threads are those that
the schedules processed so far have made of the threads before. -/
def LoopPhase.Holds (env : ScheduleEnv) (generated : Dict String String)
    (pool : Pool String ScheduleThread) : LoopPhase → Prop
  | .waiting | .stopped => pool.Settled ∧ OneForEachName pool
  | .listed schedules => pool.Settled ∧ OneForEachName pool ∧ Listing generated schedules
  | .processing schedules rest =>
    Listing generated schedules ∧ ∃ (before : Pool String ScheduleThread)
      (done : List WorkflowSchedule), before.Settled ∧ schedules = done ++ rest ∧
      (∀ schedule ∈ done, env.Accepts schedule) ∧
        pool = (done.map WorkflowSchedule.want).foldl Pool.reconcileOne
          (before.stopWhere fun id ↦ !(schedules.map WorkflowSchedule.scheduleId).contains id)
  | .raised schedules =>
    pool.WellFormed ∧ OneForEachName pool ∧ ∃ schedule ∈ schedules, ¬ env.Accepts schedule

structure LoopInvariant (env : ScheduleEnv) (st : LoopState) : Prop where
  rows : ∀ row ∈ st.schedules.rows, row.identity ∈ st.generated.rows
  traceable : Traceable env st.generated st.threads
  phase : st.phase.Holds env st.generated st.threads

section Invariant

variable {env : ScheduleEnv} {generated generated' : Dict String String}
  {pool : Pool String ScheduleThread} {schedules rest : List WorkflowSchedule}
  {st st' : LoopState} {phase : LoopPhase}

theorem LoopPhase.Holds.mono (h : phase.Holds env generated pool)
    (hsub : generated.rows ⊆ generated'.rows) : phase.Holds env generated' pool := by
  cases phase with
  | waiting => exact h
  | listed schedules => exact ⟨h.1, h.2.1, h.2.2.mono hsub⟩
  | processing schedules rest => exact ⟨h.1.mono hsub, h.2⟩
  | raised schedules => exact h
  | stopped => exact h

/-- A pass keeps to the IDs that are listed. -/
theorem LoopPhase.Holds.keys (h : (processing schedules rest).Holds env generated pool) :
    pool.Settled ∧ ∀ id n, pool.table.get id = some n →
      id ∈ schedules.map WorkflowSchedule.scheduleId := by
  obtain ⟨hlisting, before, done, hbefore, hdone, -, hpool⟩ := h
  have hsublist : (done.map WorkflowSchedule.scheduleId).Sublist
      (schedules.map WorkflowSchedule.scheduleId) := by
    rw [hdone]
    exact (List.sublist_append_left done rest).map _
  have hnodup : ((done.map WorkflowSchedule.want).map Prod.fst).Nodup := by
    rw [map_want_fst]
    exact hsublist.nodup hlisting.ids_nodup
  rw [hpool]
  refine ⟨(Pool.Settled.foldl_spec _ hnodup (hbefore.stopWhere _)).1, fun id n hget ↦ ?_⟩
  apply hbefore.mem_keys_of_foldl hnodup _ hget
  rw [map_want_fst]
  exact hsublist.subset

theorem LoopPhase.Holds.oneForEachName (h : phase.Holds env generated pool)
    (htrace : Traceable env generated pool) : OneForEachName pool := by
  cases phase with
  | waiting => exact h.2
  | listed schedules => exact h.2.1
  | processing schedules rest =>
    exact oneForEachName_of_keys h.keys.1.toWellFormed htrace h.1 h.keys.2
  | raised schedules => exact h.2.1
  | stopped => exact h.2

theorem launched_invariant (t : SchedulesTable) : LoopInvariant env (.launched t) where
  rows row hrow := List.mem_map_of_mem hrow
  traceable :=
    { identity := by simp [LoopState.launched, Pool.empty]
      constructs := by simp [LoopState.launched, Pool.empty] }
  phase := by
    refine ⟨Pool.settled_empty, ?_⟩
    intro m n left right hm
    simp [LoopState.launched, Pool.empty] at hm

/-- The steps of the loop, each with its condition. -/
inductive LoopStep (env : ScheduleEnv) (st : LoopState) : LoopAction → LoopState → Prop where
  | call (call : ScheduleCall) (generated : Dict String String)
      (hgenerated : st.generated.insertAll call.generates = some generated) :
      LoopStep env st (.call call)
        { st with schedules := call.run st.schedules, generated := generated }
  | list (schedules : List WorkflowSchedule) (hphase : st.phase = .waiting)
      (hrows : schedules.Perm st.schedules.rows) :
      LoopStep env st (.list (some schedules)) { st with phase := .listed schedules }
  | listFailed (hphase : st.phase = .waiting) : LoopStep env st (.list none) st
  | stopDeleted (schedules : List WorkflowSchedule) (hphase : st.phase = .listed schedules) :
      LoopStep env st .stopDeleted
        { st with
          threads := st.threads.stopWhere fun id ↦
            !(schedules.map WorkflowSchedule.scheduleId).contains id
          phase := .processing schedules schedules }
  | processed (schedules : List WorkflowSchedule) (schedule : WorkflowSchedule)
      (rest : List WorkflowSchedule) (threads : Pool String ScheduleThread)
      (hphase : st.phase = .processing schedules (schedule :: rest))
      (hprocess : env.processSchedule st.threads schedule = .ok threads) :
      LoopStep env st .process { st with threads := threads, phase := .processing schedules rest }
  | raised (schedules : List WorkflowSchedule) (schedule : WorkflowSchedule)
      (rest : List WorkflowSchedule) (threads : Pool String ScheduleThread)
      (hphase : st.phase = .processing schedules (schedule :: rest))
      (hprocess : env.processSchedule st.threads schedule = .error threads) :
      LoopStep env st .process { st with threads := threads, phase := .raised schedules }
  | wait (schedules : List WorkflowSchedule) (hphase : st.phase = .processing schedules []) :
      LoopStep env st .wait { st with phase := .waiting }
  | shutdown (hphase : st.phase = .waiting) :
      LoopStep env st .shutdown
        { st with threads := st.threads.stopWhere fun _ ↦ true, phase := .stopped }

theorem loopStep_of_step {action : LoopAction} (h : (loopSystem env).step st action = some st') :
    LoopStep env st action st' := by
  unfold loopSystem at h
  cases action with
  | call call =>
    cases hgenerated : st.generated.insertAll call.generates with
    | none => simp [hgenerated] at h
    | some generated =>
      simp only [hgenerated, Option.some.injEq] at h
      exact h ▸ .call call generated hgenerated
  | list result =>
    cases hphase : st.phase with
    | waiting =>
      cases result with
      | none =>
        simp only [hphase, Option.some.injEq] at h
        exact h ▸ .listFailed hphase
      | some schedules =>
        simp only [hphase, Option.ite_none_right_eq_some, Option.some.injEq] at h
        exact h.2 ▸ .list schedules hphase h.1
    | _ => simp [hphase] at h
  | stopDeleted =>
    cases hphase : st.phase with
    | listed schedules =>
      simp only [hphase, Option.some.injEq] at h
      exact h ▸ .stopDeleted schedules hphase
    | _ => simp [hphase] at h
  | process =>
    cases hphase : st.phase with
    | processing schedules rest =>
      cases rest with
      | nil => simp [hphase] at h
      | cons schedule rest =>
        simp only [hphase] at h
        cases hprocess : env.processSchedule st.threads schedule with
        | ok threads =>
          simp only [hprocess, Option.some.injEq] at h
          exact h ▸ .processed schedules schedule rest threads hphase hprocess
        | error threads =>
          simp only [hprocess, Option.some.injEq] at h
          exact h ▸ .raised schedules schedule rest threads hphase hprocess
    | _ => simp [hphase] at h
  | wait =>
    cases hphase : st.phase with
    | processing schedules rest =>
      cases rest with
      | nil =>
        simp only [hphase, Option.some.injEq] at h
        exact h ▸ .wait schedules hphase
      | cons schedule rest => simp [hphase] at h
    | _ => simp [hphase] at h
  | shutdown =>
    cases hphase : st.phase with
    | waiting =>
      simp only [hphase, Option.some.injEq] at h
      exact h ▸ .shutdown hphase
    | _ => simp [hphase] at h

/-- What a processed schedule makes of a pass. -/
theorem LoopPhase.Holds.processed {schedule : WorkflowSchedule}
    (h : (processing schedules (schedule :: rest)).Holds env generated pool)
    (haccepts : env.Accepts schedule) :
    (processing schedules rest).Holds env generated (pool.reconcileOne schedule.want) := by
  obtain ⟨hlisting, before, done, hbefore, hdone, hdoneAccepts, hpool⟩ := h
  refine ⟨hlisting, before, done ++ [schedule], hbefore, by simp [hdone], ?_, ?_⟩
  · intro other hother
    rcases List.mem_append.1 hother with hother | hother
    · exact hdoneAccepts other hother
    · rw [List.mem_singleton.1 hother]
      exact haccepts
  · rw [List.map_append, List.foldl_append, ← hpool]
    rfl

/-- The schedule that comes next is one of the listed ones. -/
theorem LoopPhase.Holds.next {schedule : WorkflowSchedule}
    (h : (processing schedules (schedule :: rest)).Holds env generated pool) :
    schedule ∈ schedules ∧ schedule.identity ∈ generated.rows := by
  obtain ⟨hlisting, -, done, -, hdone, -⟩ := h
  have hmem : schedule ∈ schedules := by simp [hdone]
  exact ⟨hmem, hlisting.identity schedule hmem⟩

theorem LoopPhase.Holds.raised {schedule : WorkflowSchedule}
    (h : (processing schedules (schedule :: rest)).Holds env generated pool)
    (htrace : Traceable env generated pool) (haccepts : ¬ env.Accepts schedule)
    {pool' : Pool String ScheduleThread} (hpool : pool' = pool ∨ ∃ n, pool' = pool.retire n) :
    (LoopPhase.raised schedules).Holds env generated pool' := by
  have hwf := h.keys.1.toWellFormed
  have hone := h.oneForEachName htrace
  have hraised : ∃ schedule ∈ schedules, ¬ env.Accepts schedule := ⟨schedule, h.next.1, haccepts⟩
  rcases hpool with rfl | ⟨n, rfl⟩
  · exact ⟨hwf, hone, hraised⟩
  · refine ⟨hwf.retire n, hone.of_live rfl ?_, hraised⟩
    intro m hlive
    rw [Pool.live_retire] at hlive
    split at hlive
    · exact absurd hlive Bool.false_ne_true
    · exact hlive

theorem Traceable.of_started {pool' : Pool String ScheduleThread}
    (h : Traceable env generated pool) (hstarted : pool'.started = pool.started) :
    Traceable env generated pool' where
  identity := hstarted ▸ h.identity
  constructs := hstarted ▸ h.constructs

theorem LoopInvariant.step {action : LoopAction} (h : LoopInvariant env st)
    (hstep : (loopSystem env).step st action = some st') : LoopInvariant env st' := by
  have hphase := h.phase
  cases loopStep_of_step hstep with
  | call call generated hgenerated =>
    have hrows := (Table.insertAll_eq_some hgenerated).1
    have hsub : st.generated.rows ⊆ generated.rows := by
      rw [hrows]
      exact List.subset_append_left _ _
    refine ⟨?_, h.traceable.mono hsub, hphase.mono hsub⟩
    intro row hrow
    rcases ScheduleCall.mem_identity_run hrow with hold | hnew
    · obtain ⟨old, hmem, hidentity⟩ := List.mem_map.1 hold
      rw [← hidentity]
      exact hsub (h.rows old hmem)
    · change row.identity ∈ generated.rows
      rw [hrows]
      exact List.mem_append_right _ hnew
  | list schedules hwaiting hperm =>
    rw [hwaiting] at hphase
    refine ⟨h.rows, h.traceable, hphase.1, hphase.2, ?_⟩
    constructor
    · intro schedule hschedule
      exact h.rows schedule (hperm.mem_iff.1 hschedule)
    · exact (hperm.map _).nodup_iff.2 st.schedules.ids_nodup
    · exact (hperm.map _).nodup_iff.2 st.schedules.table.nodup
  | listFailed => exact h
  | stopDeleted schedules hlisted =>
    rw [hlisted] at hphase
    refine ⟨h.rows, h.traceable.of_started rfl, hphase.2.2, st.threads, [], hphase.1, rfl, ?_, rfl⟩
    simp
  | processed schedules schedule rest threads hprocessing hprocess =>
    rw [hprocessing] at hphase
    have hwf := hphase.keys.1.toWellFormed
    have haccepts : env.Accepts schedule := by
      by_contra hnot
      obtain ⟨pool', herror, -⟩ := env.processSchedule_of_not_accepts hwf h.traceable hnot
      rw [hprocess] at herror
      simp at herror
    have hok := env.processSchedule_of_accepts hwf h.traceable hphase.next.2 haccepts
    obtain rfl : threads = _ := Except.ok.inj (hprocess.symm.trans hok)
    exact ⟨h.rows, h.traceable.reconcileOne hphase.next.2 haccepts, hphase.processed haccepts⟩
  | raised schedules schedule rest threads hprocessing hprocess =>
    rw [hprocessing] at hphase
    have hwf := hphase.keys.1.toWellFormed
    have haccepts : ¬ env.Accepts schedule := by
      intro haccepts
      rw [env.processSchedule_of_accepts hwf h.traceable hphase.next.2 haccepts] at hprocess
      simp at hprocess
    obtain ⟨pool', herror, hpool⟩ := env.processSchedule_of_not_accepts hwf h.traceable haccepts
    obtain rfl : threads = pool' := Except.error.inj (hprocess.symm.trans herror)
    refine ⟨h.rows, h.traceable.of_started ?_, hphase.raised h.traceable haccepts hpool⟩
    rcases hpool with rfl | ⟨n, rfl⟩
    · rfl
    · rfl
  | wait schedules hprocessing =>
    rw [hprocessing] at hphase
    exact ⟨h.rows, h.traceable, hphase.keys.1, hphase.oneForEachName h.traceable⟩
  | shutdown hwaiting =>
    rw [hwaiting] at hphase
    exact ⟨h.rows, h.traceable.of_started rfl, hphase.1.stopWhere _, hphase.2.stopWhere _⟩

theorem LoopInvariant.of_reaches {t : SchedulesTable}
    (h : (loopSystem env).Reaches (.launched t) st) : LoopInvariant env st :=
  (loopSystem env).reaches_invariant (fun _ _ _ hs hstep ↦ hs.step hstep) (launched_invariant t) h

/-! ## Guarantees of the loop -/

theorem want_eq_some {id : String} {thread : ScheduleThread} :
    (id, some thread) ∈ schedules.map WorkflowSchedule.want ↔
      ∃ schedule ∈ schedules, schedule.isActive = true ∧ schedule.scheduleId = id ∧
        schedule.scheduleName = thread.scheduleName ∧
          schedule.computeSignature = thread.signature := by
  rw [List.mem_map]
  refine exists_congr fun schedule ↦ and_congr_right fun _ ↦ ?_
  unfold WorkflowSchedule.want
  rw [Prod.mk.injEq, Option.ite_none_right_eq_some, Option.some.injEq]
  constructor
  · rintro ⟨hid, hactive, rfl⟩
    exact ⟨hactive, hid, rfl, rfl⟩
  · rintro ⟨hactive, hid, hname, hsignature⟩
    refine ⟨hid, hactive, ?_⟩
    rw [hname, hsignature]

theorem accepts_iff {schedule : WorkflowSchedule} :
    env.Accepts schedule ↔
      ∀ thread, schedule.want.2 = some thread → env.constructs thread.signature = true := by
  unfold ScheduleEnv.Accepts WorkflowSchedule.want
  constructor
  · intro h thread hthread
    rw [Option.ite_none_right_eq_some, Option.some.injEq] at hthread
    rw [← hthread.2]
    exact h hthread.1
  · intro h hactive
    exact h _ (if_pos hactive)

/-- After a pass. -/
theorem LoopPhase.Holds.passed (h : (processing schedules []).Holds env generated pool) :
    (∀ schedule ∈ schedules, env.Accepts schedule) ∧ pool.Settled ∧
      ∀ id thread, pool.Serves id thread ↔
        (id, some thread) ∈ schedules.map WorkflowSchedule.want := by
  obtain ⟨hlisting, before, done, hbefore, hdone, haccepts, hpool⟩ := h
  obtain rfl : schedules = done := by rw [hdone, List.append_nil]
  have hnodup : ((schedules.map WorkflowSchedule.want).map Prod.fst).Nodup := by
    rw [map_want_fst]
    exact hlisting.ids_nodup
  have hreconcile : pool = before.reconcile (schedules.map WorkflowSchedule.want) := by
    unfold Pool.reconcile
    rw [map_want_fst, hpool]
  rw [hreconcile]
  exact ⟨haccepts, hbefore.reconcile_spec hnodup⟩

/-- In every run, whatever is created, replaced, paused, resumed or deleted while the loop works, no
two threads of one name are left to fire, whatever their IDs and definitions: all but one have been
told to stop. -/
theorem loop_oneForEachName {t : SchedulesTable}
    (h : (loopSystem env).Reaches (.launched t) st) : OneForEachName st.threads :=
  (LoopInvariant.of_reaches h).phase.oneForEachName (LoopInvariant.of_reaches h).traceable

/-- A process whose serializer reads JSON. -/
def jsonEnv : ScheduleEnv where
  deserializes context := context == "null"
  zoneInfo _ := true

def firstNightly : WorkflowSchedule where
  scheduleId := "id-1"
  scheduleName := "nightly"
  workflowName := "report"
  schedule := "0 0 * * *"
  context := "null"

/-- Another schedule under the same name. -/
def secondNightly : WorkflowSchedule := { firstNightly with scheduleId := "id-2" }

/-- A schedule is deleted after a pass and created again, before the next one is through. -/
def recreatedRun : List LoopAction :=
  [.call (.create firstNightly), .list (some [firstNightly]), .stopDeleted, .process,
    .call (.delete "nightly"), .wait, .call (.create secondNightly), .list (some [secondNightly]),
    .stopDeleted, .process]

theorem loop_oneForEachName_recreated :
    ∃ st, (loopSystem jsonEnv).run (.launched .empty) recreatedRun = some st ∧
      OneForEachName st.threads := by
  obtain ⟨st, hrun⟩ := Option.isSome_iff_exists.1
    (by decide +kernel : ((loopSystem jsonEnv).run (.launched .empty) recreatedRun).isSome = true)
  exact ⟨st, hrun, loop_oneForEachName ⟨recreatedRun, hrun⟩⟩

/-- When the loop has gone through a listing, the threads that are not told to stop are exactly one
for each active schedule of the listing, with its definition. -/
theorem loop_live_iff {t : SchedulesTable} (h : (loopSystem env).Reaches (.launched t) st)
    (hphase : st.phase = .processing schedules []) (id : String) (thread : ScheduleThread) :
    (∃ n, st.threads.live n = true ∧ st.threads.started[n]? = some (id, thread)) ↔
      ∃ schedule ∈ schedules, schedule.isActive = true ∧ schedule.scheduleId = id ∧
        schedule.scheduleName = thread.scheduleName ∧
          schedule.computeSignature = thread.signature := by
  have hholds := (LoopInvariant.of_reaches h).phase
  rw [hphase] at hholds
  obtain ⟨-, hsettled, hserves⟩ := hholds.passed
  rw [← hsettled.serves_iff_live, hserves, want_eq_some]

/-- The state after the second pass. -/
theorem recreatedRun_passed :
    ∃ st, (loopSystem jsonEnv).run (.launched .empty) recreatedRun = some st ∧
      st.phase = .processing [secondNightly] [] :=
  Option.map_eq_some_iff.1 (by decide +kernel :
    ((loopSystem jsonEnv).run (.launched .empty) recreatedRun).map LoopState.phase =
      some (.processing [secondNightly] []))

theorem loop_live_iff_recreated :
    ∃ st, (loopSystem jsonEnv).run (.launched .empty) recreatedRun = some st ∧
      ∀ id thread, (∃ n, st.threads.live n = true ∧ st.threads.started[n]? = some (id, thread)) ↔
        ∃ schedule ∈ [secondNightly], schedule.isActive = true ∧ schedule.scheduleId = id ∧
          schedule.scheduleName = thread.scheduleName ∧
            schedule.computeSignature = thread.signature := by
  obtain ⟨st, hrun, hphase⟩ := recreatedRun_passed
  exact ⟨st, hrun, fun id thread ↦ loop_live_iff ⟨recreatedRun, hrun⟩ hphase id thread⟩

/-- The threads stay the same in a phase: those before the loop, and what is listed wants them. -/
def LoopPhase.Keeps (wants : List (String × Option ScheduleThread)) : LoopPhase → Prop
  | .waiting => True
  | .listed schedules => (schedules.map WorkflowSchedule.want).Perm wants
  | .processing schedules rest =>
    (schedules.map WorkflowSchedule.want).Perm wants ∧ rest ⊆ schedules
  | .raised _ | .stopped => False

section Stable

variable {wants : List (String × Option ScheduleThread)}

/-- A step of the loop that finds what it wants. -/
theorem keeps_step {action : LoopAction} (h : LoopInvariant env st)
    (hsettled : st.threads.Settled) (hnodup : (wants.map Prod.fst).Nodup)
    (hserves : ∀ id thread, st.threads.Serves id thread ↔ (id, some thread) ∈ wants)
    (haccepts : ∀ want ∈ wants, ∀ thread, want.2 = some thread →
      env.constructs thread.signature = true)
    (hkeeps : st.phase.Keeps wants)
    (hsame : ∀ again, action = .list (some again) →
      (again.map WorkflowSchedule.want).Perm wants)
    (hrunning : action ≠ .shutdown) (hstep : (loopSystem env).step st action = some st') :
    st'.threads = st.threads ∧ st'.phase.Keeps wants := by
  have hholds := h.phase
  cases loopStep_of_step hstep with
  | call call generated hgenerated => exact ⟨rfl, hkeeps⟩
  | list again hwaiting hperm => exact ⟨rfl, hsame again rfl⟩
  | listFailed hwaiting => exact ⟨rfl, hkeeps⟩
  | stopDeleted schedules hlisted =>
    rw [hlisted] at hkeeps
    refine ⟨?_, hkeeps, List.Subset.refl schedules⟩
    apply hsettled.stopWhere_eq_self
    intro id thread hserved
    rw [← map_want_fst, (hkeeps.map Prod.fst).mem_iff]
    exact List.mem_map_of_mem ((hserves id thread).1 hserved)
  | processed schedules schedule rest threads hprocessing hprocess =>
    rw [hprocessing] at hkeeps hholds
    have hwant : schedule.want ∈ wants :=
      hkeeps.1.mem_iff.1 (List.mem_map_of_mem (hkeeps.2 List.mem_cons_self))
    have hok := env.processSchedule_of_accepts hsettled.toWellFormed h.traceable hholds.next.2
      (accepts_iff.2 (haccepts _ hwant))
    obtain rfl : threads = _ := Except.ok.inj (hprocess.symm.trans hok)
    refine ⟨hsettled.reconcileOne_eq_self fun thread ↦ ?_, hkeeps.1, ?_⟩
    · rw [hserves]
      constructor
      · intro hmem
        rw [← List.inj_on_of_nodup_map hnodup hmem hwant rfl]
      · intro hthread
        rw [← hthread]
        exact hwant
    · exact fun _ hmem ↦ hkeeps.2 (List.mem_cons_of_mem schedule hmem)
  | raised schedules schedule rest threads hprocessing hprocess =>
    rw [hprocessing] at hkeeps hholds
    have hwant : schedule.want ∈ wants :=
      hkeeps.1.mem_iff.1 (List.mem_map_of_mem (hkeeps.2 List.mem_cons_self))
    rw [env.processSchedule_of_accepts hsettled.toWellFormed h.traceable hholds.next.2
      (accepts_iff.2 (haccepts _ hwant))] at hprocess
    simp at hprocess
  | wait schedules hprocessing => exact ⟨rfl, trivial⟩
  | shutdown hwaiting => exact absurd rfl hrunning

end Stable

/-- The loop goes through what it has listed, or an exception ends it. -/
theorem exists_run_process (h : LoopInvariant env st)
    (hphase : st.phase = .processing schedules rest) :
    ∃ k st', (loopSystem env).run st (List.replicate k .process) = some st' ∧
      (st'.phase = .processing schedules [] ∨ st'.phase = .raised schedules) := by
  induction rest generalizing st with
  | nil => exact ⟨0, st, rfl, Or.inl hphase⟩
  | cons schedule rest ih =>
    cases hprocess : env.processSchedule st.threads schedule with
    | error threads =>
      refine ⟨1, { st with threads := threads, phase := .raised schedules }, ?_, Or.inr rfl⟩
      simp [loopSystem, hphase, hprocess]
    | ok threads =>
      have hstep : (loopSystem env).step st .process =
          some { st with threads := threads, phase := .processing schedules rest } := by
        simp [loopSystem, hphase, hprocess]
      obtain ⟨k, st', hrun, hend⟩ := ih (h.step hstep) rfl
      refine ⟨k + 1, st', ?_, hend⟩
      rw [List.replicate_succ, System.run_cons, hstep]
      exact hrun

/-- Only calls go on after an exception. -/
theorem threads_of_raised (hphase : st.phase = .raised schedules) {actions : List LoopAction}
    (hrun : (loopSystem env).run st actions = some st') : st'.threads = st.threads := by
  have hend := (loopSystem env).run_invariant
    (I := fun s ↦ s.threads = st.threads ∧ s.phase = .raised schedules) (G := fun _ _ ↦ True)
    (fun s action s' hs _ hstep ↦ by
      cases loopStep_of_step hstep with
      | call call generated hgenerated => exact hs
      | list again hwaiting => simp [hs.2] at hwaiting
      | listFailed hwaiting => exact hs
      | stopDeleted again hlisted => simp [hs.2] at hlisted
      | processed again schedule rest threads hprocessing => simp [hs.2] at hprocessing
      | raised again schedule rest threads hprocessing => simp [hs.2] at hprocessing
      | wait again hprocessing => simp [hs.2] at hprocessing
      | shutdown hwaiting => simp [hs.2] at hwaiting)
    ⟨rfl, hphase⟩ ((loopSystem env).along_of_forall (fun _ _ ↦ trivial) st actions) hrun
  exact hend.1

/-- A context that the process cannot read, behind a schedule that it can. -/
def pickled : WorkflowSchedule where
  scheduleId := "id-3"
  scheduleName := "hourly"
  workflowName := "report"
  schedule := "0 * * * *"
  context := "gASVAAAA"

end Invariant

end DBOSModel.Scheduler

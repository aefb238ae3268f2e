import DBOSModel.Relational.Dict
import DBOSModel.Relational.Emission
import Mathlib.Algebra.Order.BigOperators.Group.Finset
import Mathlib.Data.Finset.Sort
import Mathlib.Data.String.Basic

/-!
# Seeded interleavings

The actors of an `Interleaving` run on threads of their own and meet at labelled steps. A
scheduler thread grants one actor a turn at a time: it waits until nobody runs and every live
actor is parked, and picks by the seed among their sorted names.

`harnessSystem` lets the threads act in any order, one critical section of the condition variable
at a time. It follows an autonomous system, `Progress.next`, which knows only the seed and the
labels each actor still has to release. So at most one actor is ever past its grant, and the
recorded trace is the one that `traceOf` computes.
-/

namespace DBOSModel.Workers

open Relational

/-! ## The seed -/

/-- `x & _MASK64`. -/
def mask64 (x : ℕ) : ℕ := x % 2 ^ 64

/-- `_splitmix64`. -/
def splitmix64 (x : ℕ) : ℕ :=
  let x := mask64 (x + 0x9E3779B97F4A7C15)
  let x := mask64 ((x ^^^ (x >>> 30)) * 0xBF58476D1CE4E5B9)
  let x := mask64 ((x ^^^ (x >>> 27)) * 0x94D049BB133111EB)
  x ^^^ (x >>> 31)

/-- `_hash_str`: FNV-1a over the UTF-8 bytes. -/
def hashStr (s : String) : ℕ :=
  (s.toList.flatMap String.utf8EncodeChar).foldl
    (fun h b ↦ mask64 ((h ^^^ b.toNat) * 0x100000001B3)) 0xCBF29CE484222325

def substream (seed : ℕ) (axis : String) : ℕ := splitmix64 (mask64 seed ^^^ hashStr axis)

def randBelow (seed : ℕ) (axis : String) (n : ℕ) : ℕ :=
  if n ≤ 1 then 0 else substream seed axis % n

theorem randBelow_lt (seed : ℕ) (axis : String) {n : ℕ} (hn : 0 < n) :
    randBelow seed axis n < n := by
  unfold randBelow
  split
  · exact hn
  · exact Nat.mod_lt _ hn

/-- The seeded release policy. -/
structure Schedule where
  seed : ℕ
  decision : ℕ
deriving DecidableEq

/-- `Schedule.__init__`, for a seed of either sign. -/
def Schedule.init (seed : ℤ) : Schedule where
  seed := (seed % 2 ^ 64).toNat
  decision := 0

/-- `Schedule.pick`. It is not called with nobody ready. -/
def Schedule.pick (schedule : Schedule) (ready : List String) : Option (String × Schedule) :=
  ready[randBelow schedule.seed s!"sched:{schedule.decision}" ready.length]?.map fun name ↦
    (name, { schedule with decision := schedule.decision + 1 })

theorem Schedule.pick_mem {schedule schedule' : Schedule} {ready : List String} {name : String}
    (h : schedule.pick ready = some (name, schedule')) : name ∈ ready := by
  obtain ⟨picked, hpicked, heq⟩ := Option.map_eq_some_iff.mp h
  cases heq
  exact List.mem_of_getElem? hpicked

theorem Schedule.exists_pick (schedule : Schedule) {ready : List String} (h : ready ≠ []) :
    ∃ name schedule', schedule.pick ready = some (name, schedule') := by
  have hlt := randBelow_lt schedule.seed s!"sched:{schedule.decision}"
    (List.length_pos_of_ne_nil h)
  exact ⟨_, _, by rw [Schedule.pick, List.getElem?_eq_getElem hlt]; rfl⟩

/-! ## The harness -/

/-- The registered actors by name, each with the labels of its steps in order. -/
abbrev Actors := Dict String (List String)

def Actors.names (actors : Actors) : Finset String := (Dict.keys actors).toFinset

def Actors.labels (actors : Actors) (name : String) : List String :=
  (Dict.get actors name).getD []

/-- Where the thread of an actor is. The labels are those of the steps it has not reached. -/
inductive ThreadState where
  | notStarted
  /-- In a wait for its turn. -/
  | blocked (rest : List String)
  /-- Past its grant. -/
  | running (rest : List String)
  | finished
deriving DecidableEq

/-- The fields that the condition variable guards, and the threads. -/
structure Harness where
  schedule : Schedule
  running : Option String := none
  waiting : String → Option String := fun _ ↦ none
  parked : Finset String := ∅
  finished : Finset String := ∅
  trace : List (String × String) := []
  thread : String → ThreadState := fun _ ↦ .notStarted

def Harness.init (seed : ℤ) : Harness where
  schedule := .init seed

namespace Harness

variable (s : Harness)

/-- An actor's thread registers at `<start>`. -/
def arrive (actors : Actors) (name : String) : Harness :=
  { s with
    waiting := Function.update s.waiting name (some "<start>")
    parked := insert name s.parked
    thread := Function.update s.thread name (.blocked (actors.labels name)) }

/-- A wait returns to the actor that has the turn. -/
def resume (name : String) (rest : List String) : Harness :=
  { s with thread := Function.update s.thread name (.running rest) }

/-- `_rendezvous`, up to its wait. -/
def rendezvous (name label : String) (rest : List String) : Harness :=
  { s with
    waiting := Function.update s.waiting name (some label)
    parked := insert name s.parked
    running := none
    thread := Function.update s.thread name (.blocked rest) }

/-- The `finally` of `_run_actor_thread`. -/
def leave (name : String) : Harness :=
  { s with
    finished := insert name s.finished
    parked := s.parked.erase name
    waiting := Function.update s.waiting name none
    running := none
    thread := Function.update s.thread name .finished }

/-- The scheduler releases the actor that it has picked. -/
def grant (pick : String) (schedule : Schedule) : Harness :=
  { s with
    schedule := schedule
    trace := s.trace ++ [(pick, (s.waiting pick).getD "<start>")]
    parked := s.parked.erase pick
    running := some pick }

end Harness

inductive HarnessAction where
  /-- The thread of an actor starts. -/
  | arrive (name : String)
  /-- A wait returns, and the thread looks whether it has its turn. -/
  | wake (name : String)
  /-- `ctx.step` at the next label. -/
  | step (name : String)
  /-- The body of an actor ends, by returning or by raising. -/
  | finish (name : String)
  /-- An iteration of `_scheduler_loop`. -/
  | schedule
deriving DecidableEq

/-- One critical section at a time, in the order in which the operating system runs the threads.
No wait times out. -/
def harnessSystem (actors : Actors) : System Harness HarnessAction where
  step s
    | .arrive name =>
      if name ∈ actors.names ∧ s.thread name = .notStarted then some (s.arrive actors name)
      else none
    | .wake name =>
      match s.thread name with
      | .blocked rest => if s.running = some name then some (s.resume name rest) else some s
      | _ => none
    | .step name =>
      match s.thread name with
      | .running (label :: rest) => some (s.rendezvous name label rest)
      | _ => none
    | .finish name =>
      match s.thread name with
      | .running [] => some (s.leave name)
      | _ => none
    | .schedule =>
      if s.finished = actors.names then none
      else if s.running.isSome then some s
      else if actors.names \ s.finished ≠ s.parked then some s
      else
        match s.schedule.pick (s.parked.sort (· ≤ ·)) with
        | none => some s
        | some (pick, schedule) => some (s.grant pick schedule)

/-! ## What the seed decides -/

/-- The releases still to come: the state of the schedule and the labels of each actor. -/
structure Progress where
  schedule : Schedule
  pending : String → List String

namespace Progress

variable (actors : Actors)

def init (seed : ℤ) : Progress where
  schedule := .init seed
  pending name := "<start>" :: actors.labels name

/-- The actors that have a release to come. -/
def live (p : Progress) : Finset String := actors.names.filter fun name ↦ p.pending name ≠ []

/-- The next release, with no regard to threads. -/
def next (p : Progress) : Option ((String × String) × Progress) :=
  (p.schedule.pick ((p.live actors).sort (· ≤ ·))).bind fun picked ↦
    match p.pending picked.1 with
    | [] => none
    | label :: rest => some ((picked.1, label),
        { schedule := picked.2, pending := Function.update p.pending picked.1 rest })

def total (p : Progress) : ℕ := ∑ name ∈ actors.names, (p.pending name).length

end Progress

/-- The trace of a seed and the label sequences of the actors. -/
def traceOf (seed : ℤ) (actors : Actors) : List (String × String) :=
  emitted (Progress.next actors) ((Progress.init actors seed).total actors)
    (Progress.init actors seed)

section Runs

variable {actors : Actors} {s s' : Harness} {p p' : Progress} {name : String}

theorem next_cases {e : String × String} (h : p.next actors = some (e, p')) :
    ∃ rest, e.1 ∈ p.live actors ∧ p.pending e.1 = e.2 :: rest ∧
      p'.pending = Function.update p.pending e.1 rest := by
  obtain ⟨picked, hpick, hrelease⟩ := Option.bind_eq_some_iff.mp h
  cases hpending : p.pending picked.1 with
  | nil => simp [hpending] at hrelease
  | cons label rest =>
    simp only [hpending, Option.some.injEq, Prod.mk.injEq] at hrelease
    obtain ⟨rfl, rfl⟩ := hrelease
    exact ⟨rest, (Finset.mem_sort _).mp (Schedule.pick_mem hpick), hpending, rfl⟩

theorem total_next_lt (e : String × String) (h : p.next actors = some (e, p')) :
    p'.total actors < p.total actors := by
  obtain ⟨rest, hlive, hpending, hupdate⟩ := next_cases h
  apply Finset.sum_lt_sum
  · intro name _
    rw [hupdate]
    by_cases hname : name = e.1
    · rw [hname, Function.update_self, hpending]
      exact Nat.le_succ _
    · rw [Function.update_of_ne hname]
  · refine ⟨e.1, (Finset.mem_filter.mp hlive).1, ?_⟩
    rw [hupdate, Function.update_self, hpending]
    exact Nat.lt_succ_self _

theorem next_eq_none (h : ∀ name ∈ actors.names, p.pending name = []) :
    p.next actors = none := by
  cases hnext : p.next actors with
  | none => rfl
  | some result =>
    obtain ⟨e, p'⟩ := result
    obtain ⟨rest, hlive, hpending, -⟩ := next_cases hnext
    rw [h _ (Finset.mem_filter.mp hlive).1] at hpending
    cases hpending

/-! ## Threads follow the seed -/

/-- What an actor still has to release, by where its thread is. A parked actor has not released
the label it waits at, and one with the turn has. -/
def Tracks (labels : List String) (s : Harness) (name : String) (pending : List String) : Prop :=
  match s.thread name with
  | .notStarted => name ∉ s.parked ∧ name ∉ s.finished ∧ s.running ≠ some name ∧
      pending = "<start>" :: labels
  | .blocked rest => name ∉ s.finished ∧
      (name ∈ s.parked ∧ s.running ≠ some name ∧
          (∃ label, s.waiting name = some label ∧ pending = label :: rest) ∨
        name ∉ s.parked ∧ s.running = some name ∧ pending = rest)
  | .running rest => name ∉ s.parked ∧ name ∉ s.finished ∧ s.running = some name ∧ pending = rest
  | .finished => name ∉ s.parked ∧ name ∈ s.finished ∧ s.running ≠ some name ∧ pending = []

/-- The harness has released what the autonomous system has. -/
structure Follows (actors : Actors) (s : Harness) (p : Progress) : Prop where
  schedule : s.schedule = p.schedule
  tracks : ∀ name ∈ actors.names, Tracks (actors.labels name) s name (p.pending name)
  outside : ∀ name ∉ actors.names, s.thread name = .notStarted
  parked : s.parked ⊆ actors.names
  finished : s.finished ⊆ actors.names
  running : ∀ name, s.running = some name → name ∈ actors.names

theorem follows_init (seed : ℤ) :
    Follows actors (.init seed) (.init actors seed) where
  schedule := rfl
  tracks _ _ := ⟨Finset.notMem_empty _, Finset.notMem_empty _, nofun, rfl⟩
  outside _ _ := rfl
  parked := Finset.empty_subset _
  finished := Finset.empty_subset _
  running := nofun

/-- The two states agree on everything that concerns one actor. -/
structure SameFor (name : String) (s s' : Harness) : Prop where
  thread : s'.thread name = s.thread name
  parked : name ∈ s'.parked ↔ name ∈ s.parked
  finished : name ∈ s'.finished ↔ name ∈ s.finished
  running : s'.running = some name ↔ s.running = some name
  waiting : s'.waiting name = s.waiting name

theorem SameFor.tracks {labels pending : List String} (hsame : SameFor name s s')
    (h : Tracks labels s name pending) : Tracks labels s' name pending := by
  unfold Tracks at h ⊢
  simp only [hsame.thread, hsame.parked, hsame.finished, hsame.running, hsame.waiting, ne_eq]
  exact h

namespace SameFor

variable {other : String} (hne : other ≠ name)

include hne

theorem arrive : SameFor other s (s.arrive actors name) where
  thread := Function.update_of_ne hne _ _
  parked := by simp [Harness.arrive, hne]
  finished := Iff.rfl
  running := Iff.rfl
  waiting := Function.update_of_ne hne _ _

theorem resume (rest : List String) : SameFor other s (s.resume name rest) where
  thread := Function.update_of_ne hne _ _
  parked := Iff.rfl
  finished := Iff.rfl
  running := Iff.rfl
  waiting := rfl

theorem rendezvous (hrunning : s.running = some name) (label : String) (rest : List String) :
    SameFor other s (s.rendezvous name label rest) where
  thread := Function.update_of_ne hne _ _
  parked := by simp [Harness.rendezvous, hne]
  finished := Iff.rfl
  running := by simp [Harness.rendezvous, hrunning, Ne.symm hne]
  waiting := Function.update_of_ne hne _ _

theorem leave (hrunning : s.running = some name) : SameFor other s (s.leave name) where
  thread := Function.update_of_ne hne _ _
  parked := by simp [Harness.leave, hne]
  finished := by simp [Harness.leave, hne]
  running := by simp [Harness.leave, hrunning, Ne.symm hne]
  waiting := Function.update_of_ne hne _ _

theorem grant (hrunning : s.running = none) (schedule : Schedule) :
    SameFor other s (s.grant name schedule) where
  thread := rfl
  parked := by simp [Harness.grant, hne]
  finished := Iff.rfl
  running := by simp [Harness.grant, hrunning, Ne.symm hne]
  waiting := rfl

end SameFor

/-- A step of one actor leaves what the others track. -/
theorem follows_update (h : Follows actors s p) (hname : name ∈ actors.names)
    (hschedule : s'.schedule = p'.schedule) (hothers : ∀ other ≠ name, SameFor other s s')
    (hpending : ∀ other ≠ name, p'.pending other = p.pending other)
    (htracks : Tracks (actors.labels name) s' name (p'.pending name)) : Follows actors s' p' where
  schedule := hschedule
  tracks other hother := by
    by_cases hsame : other = name
    · rw [hsame]
      exact htracks
    · rw [hpending other hsame]
      exact (hothers other hsame).tracks (h.tracks other hother)
  outside other hother := by
    have hne : other ≠ name := fun hsame ↦ hother (hsame ▸ hname)
    rw [(hothers other hne).thread]
    exact h.outside other hother
  parked other hother := by
    by_cases hsame : other = name
    · rw [hsame]
      exact hname
    · exact h.parked ((hothers other hsame).parked.mp hother)
  finished other hother := by
    by_cases hsame : other = name
    · rw [hsame]
      exact hname
    · exact h.finished ((hothers other hsame).finished.mp hother)
  running other hother := by
    by_cases hsame : other = name
    · rw [hsame]
      exact hname
    · exact h.running other ((hothers other hsame).running.mp hother)

namespace Follows

variable (h : Follows actors s p)

include h

theorem mem_names_of_thread (hthread : s.thread name ≠ .notStarted) : name ∈ actors.names := by
  by_contra houtside
  exact hthread (h.outside name houtside)

theorem tracks_of_blocked {rest : List String} (hthread : s.thread name = .blocked rest) :
    name ∉ s.finished ∧
      (name ∈ s.parked ∧ s.running ≠ some name ∧
          (∃ label, s.waiting name = some label ∧ p.pending name = label :: rest) ∨
        name ∉ s.parked ∧ s.running = some name ∧ p.pending name = rest) := by
  have htracks := h.tracks name (h.mem_names_of_thread (by simp [hthread]))
  rw [Tracks, hthread] at htracks
  exact htracks

theorem tracks_of_running {rest : List String} (hthread : s.thread name = .running rest) :
    name ∉ s.parked ∧ name ∉ s.finished ∧ s.running = some name ∧ p.pending name = rest := by
  have htracks := h.tracks name (h.mem_names_of_thread (by simp [hthread]))
  rw [Tracks, hthread] at htracks
  exact htracks

/-- Between turns, the parked actors are those that have a release to come. -/
theorem live_eq_parked (hparked : actors.names \ s.finished = s.parked) :
    p.live actors = s.parked := by
  ext name
  rw [Progress.live, Finset.mem_filter]
  constructor
  · rintro ⟨hname, hpending⟩
    rw [← hparked, Finset.mem_sdiff]
    refine ⟨hname, fun hfinished ↦ ?_⟩
    have htracks := h.tracks name hname
    unfold Tracks at htracks
    split at htracks
    · exact htracks.2.1 hfinished
    · exact htracks.1 hfinished
    · exact htracks.2.1 hfinished
    · exact hpending htracks.2.2.2
  · intro hname
    refine ⟨h.parked hname, ?_⟩
    have htracks := h.tracks name (h.parked hname)
    unfold Tracks at htracks
    split at htracks
    · exact absurd hname htracks.1
    · obtain ⟨-, ⟨-, -, label, -, hpending⟩ | ⟨hnot, -⟩⟩ := htracks
      · rw [hpending]
        exact List.cons_ne_nil label _
      · exact absurd hname hnot
    · exact absurd hname htracks.1
    · exact absurd hname htracks.1

end Follows

/-- A parked actor waits at the label it has to release. -/
theorem Follows.exists_waiting (h : Follows actors s p) (hparked : name ∈ s.parked) :
    ∃ label rest, s.thread name = .blocked rest ∧ name ∉ s.finished ∧
      s.waiting name = some label ∧ p.pending name = label :: rest := by
  have htracks := h.tracks name (h.parked hparked)
  unfold Tracks at htracks
  split at htracks
  · exact absurd hparked htracks.1
  · rename_i rest hthread
    obtain ⟨hfinished, ⟨-, -, label, hwaiting, hpending⟩ | ⟨hnot, -⟩⟩ := htracks
    · exact ⟨label, rest, hthread, hfinished, hwaiting, hpending⟩
    · exact absurd hparked hnot
  · exact absurd hparked htracks.1
  · exact absurd hparked htracks.1

/-- A pick of the scheduler is the next release of the autonomous system. -/
theorem follows_grant {pick : String} {schedule : Schedule} (h : Follows actors s p)
    (hrunning : s.running = none) (hparked : actors.names \ s.finished = s.parked)
    (hpick : s.schedule.pick (s.parked.sort (· ≤ ·)) = some (pick, schedule)) :
    ∃ e p', p.next actors = some (e, p') ∧ (s.grant pick schedule).trace = s.trace ++ [e] ∧
      Follows actors (s.grant pick schedule) p' := by
  have hmem : pick ∈ s.parked := (Finset.mem_sort _).mp (Schedule.pick_mem hpick)
  obtain ⟨label, rest, hthread, hfinished, hwaiting, hpending⟩ := h.exists_waiting hmem
  have hnext : p.next actors = some ((pick, label),
      { schedule := schedule, pending := Function.update p.pending pick rest }) := by
    rw [Progress.next, h.live_eq_parked hparked, ← h.schedule, hpick, Option.bind_some, hpending]
  refine ⟨(pick, label), _, hnext, by rw [Harness.grant, hwaiting, Option.getD_some], ?_⟩
  apply follows_update h (h.parked hmem) rfl
  · exact fun other hother ↦ .grant hother hrunning schedule
  · exact fun other hother ↦ Function.update_of_ne hother _ _
  · simp [Tracks, Harness.grant, hthread, hfinished]

/-- A step of the threads is a release of the autonomous system, or no release at all. -/
theorem follows_step {action : HarnessAction} (h : Follows actors s p)
    (hstep : (harnessSystem actors).step s action = some s') :
    (s'.trace = s.trace ∧ Follows actors s' p) ∨
    ∃ e p', p.next actors = some (e, p') ∧ s'.trace = s.trace ++ [e] ∧ Follows actors s' p' := by
  cases action with
  | arrive name =>
    left
    obtain ⟨⟨hname, hthread⟩, hs'⟩ := Option.ite_none_right_eq_some.mp hstep
    cases hs'
    have htracks := h.tracks name hname
    rw [Tracks, hthread] at htracks
    obtain ⟨-, hfinished, hrunning, hpending⟩ := htracks
    refine ⟨rfl, follows_update h hname h.schedule ?_ (fun _ _ ↦ rfl) ?_⟩
    · exact fun other hother ↦ .arrive hother
    · simp [Tracks, Harness.arrive, hfinished, hrunning, hpending]
  | wake name =>
    left
    simp only [harnessSystem] at hstep
    split at hstep
    · rename_i rest hthread
      split at hstep
      · rename_i hturn
        cases hstep
        obtain ⟨hfinished, ⟨-, hnot, -⟩ | ⟨hparked, hrunning, hpending⟩⟩ :=
          h.tracks_of_blocked hthread
        · exact absurd hturn hnot
        · refine ⟨rfl, follows_update h (h.running name hturn) h.schedule ?_ (fun _ _ ↦ rfl) ?_⟩
          · exact fun other hother ↦ .resume hother rest
          · simp [Tracks, Harness.resume, hparked, hfinished, hrunning, hpending]
      · cases hstep
        exact ⟨rfl, h⟩
    · cases hstep
  | step name =>
    left
    simp only [harnessSystem] at hstep
    split at hstep
    · rename_i label rest hthread
      cases hstep
      obtain ⟨-, hfinished, hrunning, hpending⟩ := h.tracks_of_running hthread
      refine ⟨rfl, follows_update h (h.running name hrunning) h.schedule ?_ (fun _ _ ↦ rfl) ?_⟩
      · exact fun other hother ↦ .rendezvous hother hrunning label rest
      · simp [Tracks, Harness.rendezvous, hfinished, hpending]
    · cases hstep
  | finish name =>
    left
    simp only [harnessSystem] at hstep
    split at hstep
    · rename_i hthread
      cases hstep
      obtain ⟨-, -, hrunning, hpending⟩ := h.tracks_of_running hthread
      refine ⟨rfl, follows_update h (h.running name hrunning) h.schedule ?_ (fun _ _ ↦ rfl) ?_⟩
      · exact fun other hother ↦ .leave hother hrunning
      · simp [Tracks, Harness.leave, hpending]
    · cases hstep
  | schedule =>
    simp only [harnessSystem] at hstep
    split at hstep
    · cases hstep
    · split at hstep
      · cases hstep
        exact Or.inl ⟨rfl, h⟩
      · rename_i hrunning
        rw [Bool.not_eq_true, Option.isSome_eq_false_iff, Option.isNone_iff_eq_none] at hrunning
        split at hstep
        · cases hstep
          exact Or.inl ⟨rfl, h⟩
        · rename_i hparked
          rw [not_not] at hparked
          split at hstep
          · cases hstep
            exact Or.inl ⟨rfl, h⟩
          · rename_i pick schedule hpick
            cases hstep
            exact Or.inr (follows_grant h hrunning hparked hpick)

/-! ## Runs -/

/-- In every run the trace is one of the autonomous system, in the state the harness follows. -/
theorem exists_follows (seed : ℤ) {actions : List HarnessAction}
    (hrun : (harnessSystem actors).run (.init seed) actions = some s) :
    ∃ p, Follows actors s p ∧
      (emitter (Progress.next actors)).run (.init actors seed) s.trace = some p := by
  apply (harnessSystem actors).reaches_invariant
    (I := fun s ↦ ∃ p, Follows actors s p ∧
      (emitter (Progress.next actors)).run (.init actors seed) s.trace = some p)
    ?_ ⟨_, follows_init seed, rfl⟩ ⟨actions, hrun⟩
  rintro s action s' ⟨p, hfollows, htrace⟩ hstep
  rcases follows_step hfollows hstep with ⟨hsame, hfollows'⟩ | ⟨e, p', hnext, hlast, hfollows'⟩
  · rw [← hsame] at htrace
    exact ⟨p, hfollows', htrace⟩
  · refine ⟨p', hfollows', ?_⟩
    rw [hlast, System.run_append, htrace, Option.bind_some, System.run_cons,
      emitter_step.mpr hnext]
    rfl

/-- The steps that are left for an actor. -/
def Harness.weight (actors : Actors) (s : Harness) (name : String) : ℕ :=
  (match s.thread name with
    | .notStarted => 4 * (actors.labels name).length + 5
    | .blocked rest => 4 * rest.length + 3
    | .running rest => 4 * rest.length + 2
    | .finished => 0) + if name ∈ s.parked then 1 else 0

def Harness.rank (actors : Actors) (s : Harness) : ℕ := ∑ name ∈ actors.names, s.weight actors name

theorem rank_lt (hname : name ∈ actors.names) (hothers : ∀ other ≠ name, SameFor other s s')
    (hlt : s'.weight actors name < s.weight actors name) : s'.rank actors < s.rank actors := by
  apply Finset.sum_lt_sum
  · intro other _
    by_cases hsame : other = name
    · rw [hsame]
      exact hlt.le
    · have hother := hothers other hsame
      simp only [Harness.weight, hother.thread, hother.parked]
      exact le_rfl
  · exact ⟨name, hname, hlt⟩

/-- While an actor is not finished, some thread can go on: the harness has no deadlock. -/
theorem exists_progress (h : Follows actors s p) (hfinished : s.finished ≠ actors.names) :
    ∃ action s', (harnessSystem actors).step s action = some s' ∧
      s'.rank actors < s.rank actors := by
  cases hrunning : s.running with
  | some name =>
    have hname := h.running name hrunning
    have htracks := h.tracks name hname
    cases hthread : s.thread name with
    | notStarted =>
      rw [Tracks, hthread] at htracks
      exact absurd hrunning htracks.2.2.1
    | blocked rest =>
      have hparked : name ∉ s.parked := by
        obtain ⟨-, ⟨-, hnot, -⟩ | ⟨hparked, -⟩⟩ := h.tracks_of_blocked hthread
        · exact absurd hrunning hnot
        · exact hparked
      refine ⟨.wake name, s.resume name rest, by simp [harnessSystem, hthread, hrunning], ?_⟩
      apply rank_lt hname fun other hother ↦ .resume hother rest
      simp [Harness.weight, Harness.resume, hthread, hparked]
    | running rest =>
      have hparked := (h.tracks_of_running hthread).1
      cases rest with
      | cons label rest =>
        refine ⟨.step name, s.rendezvous name label rest, by simp [harnessSystem, hthread], ?_⟩
        apply rank_lt hname fun other hother ↦ .rendezvous hother hrunning label rest
        have hlt (n : ℕ) : 4 * n + 3 < 4 * (n + 1) + 1 := by omega
        simpa [Harness.weight, Harness.rendezvous, hthread, hparked] using hlt rest.length
      | nil =>
        refine ⟨.finish name, s.leave name, by simp [harnessSystem, hthread], ?_⟩
        apply rank_lt hname fun other hother ↦ .leave hother hrunning
        simp [Harness.weight, Harness.leave, hthread]
    | finished =>
      rw [Tracks, hthread] at htracks
      exact absurd hrunning htracks.2.2.1
  | none =>
    by_cases hstarted : ∃ name ∈ actors.names, s.thread name = .notStarted
    · obtain ⟨name, hname, hthread⟩ := hstarted
      have htracks := h.tracks name hname
      rw [Tracks, hthread] at htracks
      refine ⟨.arrive name, s.arrive actors name, by simp [harnessSystem, hname, hthread], ?_⟩
      apply rank_lt hname fun other hother ↦ .arrive hother
      simp [Harness.weight, Harness.arrive, hthread, htracks.1]
    · push Not at hstarted
      have hparked : actors.names \ s.finished = s.parked := by
        ext name
        rw [Finset.mem_sdiff]
        constructor
        · rintro ⟨hname, hnot⟩
          have htracks := h.tracks name hname
          unfold Tracks at htracks
          split at htracks
          · rename_i hthread
            exact absurd hthread (hstarted name hname)
          · obtain ⟨-, ⟨hmem, -⟩ | ⟨-, hturn, -⟩⟩ := htracks
            · exact hmem
            · rw [hrunning] at hturn
              cases hturn
          · rw [hrunning] at htracks
            exact absurd htracks.2.2.1 nofun
          · exact absurd htracks.2.1 hnot
        · intro hmem
          obtain ⟨_, _, -, hnot, -⟩ := h.exists_waiting hmem
          exact ⟨h.parked hmem, hnot⟩
      have hready : s.parked.sort (· ≤ ·) ≠ [] := by
        intro hempty
        have hnone : s.parked = ∅ := by
          rw [← Finset.sort_toFinset s.parked (· ≤ ·), hempty, List.toFinset_nil]
        rw [hnone, Finset.sdiff_eq_empty_iff_subset] at hparked
        exact hfinished (Finset.Subset.antisymm h.finished hparked)
      obtain ⟨pick, schedule, hpick⟩ := s.schedule.exists_pick hready
      have hmem : pick ∈ s.parked := (Finset.mem_sort _).mp (Schedule.pick_mem hpick)
      refine ⟨.schedule, s.grant pick schedule, ?_, ?_⟩
      · simp [harnessSystem, hfinished, hrunning, hparked, hpick]
      · apply rank_lt (h.parked hmem) fun other hother ↦ .grant hother hrunning schedule
        simp [Harness.weight, Harness.grant, hmem]

/-- Every run can be continued until all actors have finished. -/
theorem exists_completion (h : Follows actors s p) :
    ∃ actions s', (harnessSystem actors).run s actions = some s' ∧ s'.finished = actors.names := by
  have hprogress : ∀ s₁ : Harness, (∃ p, Follows actors s₁ p) → ¬ s₁.finished = actors.names →
      ∃ action s₂, True ∧ (harnessSystem actors).step s₁ action = some s₂ ∧
        (∃ p, Follows actors s₂ p) ∧ s₂.rank actors < s₁.rank actors := by
    rintro s₁ ⟨p₁, hs₁⟩ hfinal
    obtain ⟨action, s₂, hstep, hlt⟩ := exists_progress hs₁ hfinal
    refine ⟨action, s₂, trivial, hstep, ?_, hlt⟩
    rcases follows_step hs₁ hstep with ⟨-, hs₂⟩ | ⟨_, p₂, -, -, hs₂⟩
    · exact ⟨p₁, hs₂⟩
    · exact ⟨p₂, hs₂⟩
  obtain ⟨actions, s', -, hrun, -, hfinished⟩ := (harnessSystem actors).exists_run_of_rank
    _ _ (fun _ _ ↦ True) _ hprogress ⟨p, h⟩
  exact ⟨actions, s', hrun, hfinished⟩

/-- Whatever the operating system does, at most one actor is past its grant and running, the trace
so far is a prefix of the one that the seed and the label sequences determine, and the trace of a
completed run is that one. -/
theorem interleaving_reproducible (seed : ℤ) (actors : Actors) (actions : List HarnessAction)
    (s : Harness) (hrun : (harnessSystem actors).run (.init seed) actions = some s) :
    (∀ a b resta restb, s.thread a = .running resta → s.thread b = .running restb → a = b) ∧
      s.trace <+: traceOf seed actors ∧
      (s.finished = actors.names → s.trace = traceOf seed actors) := by
  obtain ⟨p, hfollows, htrace⟩ := exists_follows seed hrun
  have hlength : s.trace.length ≤ (Progress.init actors seed).total actors := by
    have hle := length_add_rank_le (Progress.total actors) (fun _ e _ ↦ total_next_lt e) htrace
    omega
  refine ⟨fun a b resta restb ha hb ↦ ?_, prefix_emitted htrace hlength, fun hfinished ↦ ?_⟩
  · have haturn := (hfollows.tracks_of_running ha).2.2.1
    rw [(hfollows.tracks_of_running hb).2.2.1] at haturn
    exact (Option.some.inj haturn).symm
  · have hend : p.next actors = none := by
      apply next_eq_none
      intro name hname
      have htracks := hfollows.tracks name hname
      rw [← hfinished] at hname
      unfold Tracks at htracks
      split at htracks
      · exact absurd hname htracks.2.1
      · exact absurd hname htracks.1
      · exact absurd hname htracks.2.1
      · exact htracks.2.2.2
    exact (emitted_eq htrace hend hlength).symm

end Runs

/-- An actor `a` with one step, and an actor `b` with none. -/
def twoActors : Actors := Dict.set (Dict.set .empty "a" ["x"]) "b" []

theorem names_twoActors : Actors.names twoActors = {"a", "b"} := by decide

theorem sort_twoActors : ({"a", "b"} : Finset String).sort (· ≤ ·) = ["a", "b"] := by
  have hcons : ({"a", "b"} : Finset String) = Finset.cons "a" {"b"} (by decide) := by decide
  rw [hcons, Finset.sort_cons]
  · rw [Finset.sort_singleton]
  · simp

/-- `a` registers first, and the seed gives the first turn to `b`. -/
def bFirst : List HarnessAction :=
  [.arrive "a", .arrive "b", .schedule, .wake "a", .wake "b", .finish "b", .schedule, .wake "a",
    .step "a", .schedule, .wake "a", .finish "a"]

theorem interleaving_reproducible_bFirst :
    ∃ s, (harnessSystem twoActors).run (.init 2) bFirst = some s ∧
      s.trace = [("b", "<start>"), ("a", "<start>"), ("a", "x")] ∧
      s.trace = traceOf 2 twoActors := by
  have hlabels : Actors.labels twoActors "a" = ["x"] ∧ Actors.labels twoActors "b" = [] := by
    decide
  have hpick : randBelow 2 (toString "sched:" ++ Nat.repr 0) 2 = 1 := by decide
  have halone (seed : ℕ) (axis : String) : randBelow seed axis 1 = 0 := rfl
  have hsets : (∅ : Finset String) ≠ {"a", "b"} ∧ ({"b"} : Finset String) ≠ {"a", "b"} ∧
      ({"a", "b"} : Finset String).erase "b" = {"a"} ∧
      ({"a", "b"} : Finset String) \ {"b"} = {"a"} := by
    decide
  obtain ⟨s, hrun, hfinished, htrace⟩ : ∃ s,
      (harnessSystem twoActors).run (.init 2) bFirst = some s ∧
        s.finished = Actors.names twoActors ∧
        s.trace = [("b", "<start>"), ("a", "<start>"), ("a", "x")] := by
    simp [bFirst, harnessSystem, names_twoActors, hlabels, Harness.init, Harness.arrive,
      Harness.grant, Harness.resume, Harness.rendezvous, Harness.leave, Schedule.pick,
      Schedule.init, Finset.pair_comm "b" "a", sort_twoActors, hpick, halone, hsets]
  exact ⟨s, hrun, htrace, (interleaving_reproducible 2 twoActors bFirst s hrun).2.2 hfinished⟩

end DBOSModel.Workers

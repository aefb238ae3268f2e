import DBOSModel.Relational.Execution
import DBOSModel.SysDb.Notifications

/-!
# Waiters of one process

`recv` and `get_event` wait on an event that they register in `notifications_map` or
`workflow_events_map` under the string `workflow_uuid::topic` or `workflow_uuid::key`. A second
`recv` under the same string undoes its registration and raises `DBOSWorkflowConflictIDError`; a
second `get_event` waits on the event that is already there.

The string does not determine its two parts, since both may contain the separator. And the count of
an entry also includes calls that do not wait: a `recv` that is about to undo its registration, and
the set-up thread of a call that was cancelled a second time.
-/

namespace DBOSModel.SysDb

open Relational

/-! ## `ThreadSafeEventDict` -/

/-- `EventCount`. The event is given by its identity. -/
structure EventCount where
  event : ℕ
  count : ℤ
  components : String × String
deriving DecidableEq

abbrev ThreadSafeEventDict := String → Option EventCount

namespace ThreadSafeEventDict

/-- `set`: whether the event was stored, and the event to wait on. -/
def set (dict : ThreadSafeEventDict) (key : String) (value : ℕ) (components : String × String) :
    (Bool × ℕ) × ThreadSafeEventDict :=
  match dict key with
  | some ec =>
    ((false, ec.event), Function.update dict key (some { ec with count := ec.count + 1 }))
  | none => ((true, value), Function.update dict key (some ⟨value, 1, components⟩))

/-- `pop`. -/
def pop (dict : ThreadSafeEventDict) (key : String) : ThreadSafeEventDict :=
  match dict key with
  | some ec =>
    if ec.count - 1 = 0 then Function.update dict key none
    else Function.update dict key (some { ec with count := ec.count - 1 })
  | none => dict

/-- The count of an entry. -/
def refs (dict : ThreadSafeEventDict) (key : String) : ℤ := (dict key).elim 0 EventCount.count

section Lemmas

variable {dict : ThreadSafeEventDict} {key other : String} {value : ℕ}
  {components : String × String} {ec : EventCount}

theorem refs_set :
    (dict.set key value components).2.refs other =
      dict.refs other + if other = key then 1 else 0 := by
  unfold set refs
  cases hentry : dict key with
  | none =>
    by_cases hkey : other = key
    · simp [hkey, hentry]
    · simp [hkey]
  | some ec =>
    by_cases hkey : other = key
    · simp [hkey, hentry]
    · simp [hkey]

theorem refs_pop (hentry : dict key = some ec) :
    (dict.pop key).refs other = dict.refs other - if other = key then 1 else 0 := by
  simp only [pop, refs, hentry]
  by_cases hkey : other = key
  · by_cases hlast : ec.count - 1 = 0
    · simp only [hkey, hlast, hentry, if_true, Function.update_self, Option.elim]
    · simp [hkey, hlast, hentry]
  · by_cases hlast : ec.count - 1 = 0
    · simp [hkey, hlast]
    · simp [hkey, hlast]

/-- The entries after `set`: an old one with its event, or the new one. -/
theorem set_eq_some (h : (dict.set key value components).2 other = some ec) :
    (∃ old, dict other = some old ∧ ec.event = old.event ∧ old.count ≤ ec.count) ∨
      (other = key ∧ dict key = none ∧ ec.event = value ∧ ec.count = 1) := by
  unfold set at h
  cases hentry : dict key with
  | none =>
    simp only [hentry] at h
    by_cases hkey : other = key
    · subst hkey
      rw [Function.update_self] at h
      cases h
      exact Or.inr ⟨rfl, rfl, rfl, rfl⟩
    · rw [Function.update_of_ne hkey] at h
      exact Or.inl ⟨ec, h, rfl, le_refl _⟩
  | some old =>
    simp only [hentry] at h
    by_cases hkey : other = key
    · subst hkey
      rw [Function.update_self] at h
      cases h
      exact Or.inl ⟨old, hentry, rfl, Int.le_add_one (Int.le_refl _)⟩
    · rw [Function.update_of_ne hkey] at h
      exact Or.inl ⟨ec, h, rfl, le_refl _⟩

/-- The entries after `pop` are old ones, with their events and positive counts. -/
theorem pop_eq_some (hpositive : ∀ other ec, dict other = some ec → 0 < ec.count)
    (h : (dict.pop key) other = some ec) :
    ∃ old, dict other = some old ∧ ec.event = old.event ∧ 0 < ec.count := by
  unfold pop at h
  cases hentry : dict key with
  | none =>
    simp only [hentry] at h
    exact ⟨ec, h, rfl, hpositive other ec h⟩
  | some old =>
    have hcount := hpositive key old hentry
    simp only [hentry] at h
    split at h
    · by_cases hkey : other = key
      · rw [hkey, Function.update_self] at h
        cases h
      · rw [Function.update_of_ne hkey] at h
        exact ⟨ec, h, rfl, hpositive other ec h⟩
    · by_cases hkey : other = key
      · subst hkey
        rw [Function.update_self] at h
        cases h
        refine ⟨old, hentry, rfl, ?_⟩
        simp only
        omega
      · rw [Function.update_of_ne hkey] at h
        exact ⟨ec, h, rfl, hpositive other ec h⟩

end Lemmas

end ThreadSafeEventDict

/-! ## Calls of `recv` and `get_event` -/

inductive WaitKind where
  /-- `recv`, registered in `notifications_map`. -/
  | recv
  /-- `get_event`, registered in `workflow_events_map`. -/
  | getEvent
deriving DecidableEq

/-- Where a call is. -/
inductive WaiterPhase where
  /-- Before its registration. -/
  | starting
  /-- A `recv` that found an entry; its `pop` is outstanding. -/
  | undoing
  /-- Registered, with the event it waits on. -/
  | waiting (event : ℕ)
  /-- Raised `DBOSWorkflowConflictIDError`. -/
  | conflict
  /-- Returned, or raised something else. -/
  | finished
deriving DecidableEq

structure Waiter where
  kind : WaitKind
  /-- The workflow ID and the topic or key. -/
  components : String × String
  phase : WaiterPhase := .starting
  /-- Cancelled again while its set-up thread ran: the call has returned, and the thread or a
  callback undoes the registration. -/
  abandoned : Bool := false
deriving DecidableEq

namespace Waiter

/-- `recv(workflow_uuid, topic)`. -/
def ofRecv (workflowUuid : String) (topic : Option String) : Waiter :=
  { kind := .recv, components := (workflowUuid, topic.getD nullTopic) }

/-- `get_event(target_uuid, key)`. -/
def ofGetEvent (targetUuid key : String) : Waiter :=
  { kind := .getEvent, components := (targetUuid, key) }

/-- The string under which the call registers. -/
def payload (w : Waiter) : String := w.components.1 ++ "::" ++ w.components.2

/-- The call is counted in the map. -/
def isCounted (w : Waiter) : Bool :=
  match w.phase with
  | .undoing => true
  | .waiting _ => true
  | _ => false

/-- The call waits on an event. -/
def isWaiting (w : Waiter) : Bool :=
  match w.phase with
  | .waiting _ => true
  | _ => false

/-- The call is counted under a key. -/
def holds (kind : WaitKind) (key : String) (w : Waiter) : Bool :=
  w.kind = kind && w.payload = key && w.isCounted

/-- A `recv` or `get_event` that waits and has not been abandoned. -/
def isLive (kind : WaitKind) (w : Waiter) : Bool := w.kind = kind && w.isWaiting && !w.abandoned

end Waiter

/-- The maps of a process, and the calls made so far. -/
structure WaiterState where
  maps : WaitKind → ThreadSafeEventDict
  waiters : List Waiter
  /-- The identity of the next event to be created. -/
  nextEvent : ℕ

def WaiterState.initial : WaiterState := ⟨fun _ _ ↦ none, [], 0⟩

inductive WaiterAction where
  | recv (workflowUuid : String) (topic : Option String)
  | getEvent (targetUuid key : String)
  /-- The registration of a call. -/
  | set (i : ℕ)
  /-- The removal of a registration. -/
  | pop (i : ℕ)
  /-- The set-up fails after the registration, removes it and is attempted again by `db_retry`. -/
  | retry (i : ℕ)
  /-- The call returns a recorded result or raises before it registers. -/
  | leave (i : ℕ)
  /-- The second cancellation of an asynchronous call. -/
  | abandon (i : ℕ)
deriving DecidableEq

namespace WaiterState

/-- Replace a call. -/
def move (s : WaiterState) (i : ℕ) (w : Waiter) : WaiterState :=
  { s with waiters := s.waiters.set i w }

def setMap (s : WaiterState) (kind : WaitKind) (dict : ThreadSafeEventDict) : WaiterState :=
  { s with maps := Function.update s.maps kind dict }

/-- The phase after `set`. Only `recv` insists on having stored its own event. -/
def phaseAfterSet (kind : WaitKind) (success : Bool) (event : ℕ) : WaiterPhase :=
  match kind, success with
  | .recv, false => .undoing
  | _, _ => .waiting event

/-- What the registration of a call answers. -/
def answer (s : WaiterState) (w : Waiter) : Bool × ℕ :=
  ((s.maps w.kind).set w.payload s.nextEvent w.components).1

/-- The call after its registration. -/
def registered (s : WaiterState) (w : Waiter) : Waiter :=
  { w with phase := phaseAfterSet w.kind (s.answer w).1 (s.answer w).2 }

/-- Registration of the call `w`, which is number `i`. -/
def register (s : WaiterState) (i : ℕ) (w : Waiter) : WaiterState :=
  { s.setMap w.kind ((s.maps w.kind).set w.payload s.nextEvent w.components).2 with
    nextEvent := s.nextEvent + 1 }.move i (s.registered w)

/-- Removal of the registration of the call `w`, which goes on in `phase`. -/
def unregister (s : WaiterState) (i : ℕ) (w : Waiter) (phase : WaiterPhase) : WaiterState :=
  (s.setMap w.kind ((s.maps w.kind).pop w.payload)).move i { w with phase := phase }

end WaiterState

/-- Any number of concurrent calls of one process. -/
def waiterSystem : System WaiterState WaiterAction where
  step s
    | .recv workflowUuid topic =>
      some { s with waiters := s.waiters ++ [Waiter.ofRecv workflowUuid topic] }
    | .getEvent targetUuid key =>
      some { s with waiters := s.waiters ++ [Waiter.ofGetEvent targetUuid key] }
    | .set i =>
      match s.waiters[i]? with
      | some w => if w.phase = .starting then some (s.register i w) else none
      | none => none
    | .pop i =>
      match s.waiters[i]? with
      | some w =>
        match w.phase with
        | .undoing => some (s.unregister i w .conflict)
        | .waiting _ => some (s.unregister i w .finished)
        | _ => none
      | none => none
    | .retry i =>
      match s.waiters[i]? with
      | some w => if w.isWaiting then some (s.unregister i w .starting) else none
      | none => none
    | .leave i =>
      match s.waiters[i]? with
      | some w =>
        if w.phase = .starting then some (s.move i { w with phase := .finished }) else none
      | none => none
    | .abandon i =>
      match s.waiters[i]? with
      | some w => some (s.move i { w with abandoned := true })
      | none => none

/-! ## What a conflict and a shared entry should mean -/

/-- The registration of a `recv` finds no entry, or another live `recv` waits on the same workflow
ID and the same topic. -/
def ConflictIsReal (s : WaiterState) : WaiterAction → Prop
  | .set i => ∀ w, s.waiters[i]? = some w → w.phase = .starting → w.kind = .recv →
      (s.answer w).1 = false →
        ∃ other ∈ s.waiters, other.isLive .recv ∧ other.components = w.components
  | _ => True

/-- Calls of `get_event` that wait on the same event wait for the same key of the same workflow. -/
def SharedEntriesAgree (s : WaiterState) : Prop :=
  ∀ w ∈ s.waiters, ∀ other ∈ s.waiters, ∀ event, w.kind = .getEvent → other.kind = .getEvent →
    w.phase = .waiting event → other.phase = .waiting event → w.components = other.components

/-- No registered call of other components has the same string; and the entry that a `recv` finds is
not one that only calls which do not wait have left behind. -/
def Distinguishable (s : WaiterState) : WaiterAction → Prop
  | .set i => ∀ w, s.waiters[i]? = some w → w.phase = .starting →
      (∀ other ∈ s.waiters, other.kind = w.kind → other.isWaiting → other.payload = w.payload →
        other.components = w.components) ∧
      (w.kind = .recv → (∃ other ∈ s.waiters, other.holds .recv w.payload) →
        ∃ other ∈ s.waiters, other.isLive .recv ∧ other.payload = w.payload)
  | _ => True

/-! ## The maps count the calls -/

/-- The maps as the calls have left them. -/
structure Consistent (s : WaiterState) : Prop where
  counts : ∀ kind key, (s.maps kind).refs key = s.waiters.countP (Waiter.holds kind key)
  positive : ∀ kind key ec, s.maps kind key = some ec → 0 < ec.count
  /-- A call waits on the event of its entry. -/
  events : ∀ w ∈ s.waiters, ∀ event, w.phase = .waiting event →
    ∃ ec, s.maps w.kind w.payload = some ec ∧ ec.event = event
  fresh : ∀ kind key ec, s.maps kind key = some ec → ec.event < s.nextEvent
  distinct : ∀ kind key key' ec ec', s.maps kind key = some ec → s.maps kind key' = some ec' →
    ec.event = ec'.event → key = key'
  /-- A `recv` that waits is the only one under its string. -/
  owner : ∀ w ∈ s.waiters, ∀ other ∈ s.waiters, w.kind = .recv → other.kind = .recv →
    w.isWaiting → other.isWaiting → w.payload = other.payload → w.components = other.components

namespace WaiterState

variable {s : WaiterState} {i : ℕ} {w w' : Waiter} {kind : WaitKind} {key : String}
  {ec : EventCount} {phase : WaiterPhase}

/-- Replacing a call changes the number of calls with a property by this call alone. -/
theorem countP_set_add (p : Waiter → Bool) (w' : Waiter) (hget : s.waiters[i]? = some w) :
    (s.waiters.set i w').countP p + (if p w then 1 else 0) =
      s.waiters.countP p + (if p w' then 1 else 0) := by
  obtain ⟨hi, hw⟩ := List.getElem?_eq_some_iff.mp hget
  rw [List.countP_set hi, hw]
  have hpos : p w = true → 0 < s.waiters.countP p := by
    intro hp
    exact List.countP_pos_iff.mpr ⟨w, List.mem_of_getElem? hget, hp⟩
  split
  · rename_i hp
    have := hpos hp
    omega
  · omega

theorem register_maps_self :
    (s.register i w).maps w.kind = ((s.maps w.kind).set w.payload s.nextEvent w.components).2 := by
  simp [register, setMap, move]

theorem register_maps_of_ne (hkind : kind ≠ w.kind) :
    (s.register i w).maps kind = s.maps kind := by
  simp [register, setMap, move, Function.update_of_ne hkind]

theorem register_maps_eq_some (h : (s.register i w).maps kind key = some ec) :
    (∃ old, s.maps kind key = some old ∧ ec.event = old.event ∧ old.count ≤ ec.count) ∨
      (kind = w.kind ∧ key = w.payload ∧ s.maps kind key = none ∧ ec.event = s.nextEvent ∧
        ec.count = 1) := by
  by_cases hkind : kind = w.kind
  · subst hkind
    rw [register_maps_self] at h
    rcases ThreadSafeEventDict.set_eq_some h with hold | ⟨hkey, hnone, hevent, hcount⟩
    · exact Or.inl hold
    · exact Or.inr ⟨rfl, hkey, hkey ▸ hnone, hevent, hcount⟩
  · rw [register_maps_of_ne hkind] at h
    exact Or.inl ⟨ec, h, rfl, Int.le_refl _⟩

theorem register_refs :
    ((s.register i w).maps kind).refs key =
      (s.maps kind).refs key + if kind = w.kind ∧ key = w.payload then 1 else 0 := by
  by_cases hkind : kind = w.kind
  · subst hkind
    rw [register_maps_self, ThreadSafeEventDict.refs_set]
    simp
  · rw [register_maps_of_ne hkind]
    simp [hkind]

theorem unregister_maps_self :
    (s.unregister i w phase).maps w.kind = (s.maps w.kind).pop w.payload := by
  simp [unregister, setMap, move]

theorem unregister_maps_of_ne (hkind : kind ≠ w.kind) :
    (s.unregister i w phase).maps kind = s.maps kind := by
  simp [unregister, setMap, move, Function.update_of_ne hkind]

theorem unregister_maps_eq_some
    (hpositive : ∀ kind key ec, s.maps kind key = some ec → 0 < ec.count)
    (h : (s.unregister i w phase).maps kind key = some ec) :
    ∃ old, s.maps kind key = some old ∧ ec.event = old.event ∧ 0 < ec.count := by
  by_cases hkind : kind = w.kind
  · subst hkind
    rw [unregister_maps_self] at h
    exact ThreadSafeEventDict.pop_eq_some (hpositive _) h
  · rw [unregister_maps_of_ne hkind] at h
    exact ⟨ec, h, rfl, hpositive _ _ _ h⟩

theorem unregister_refs (hentry : s.maps w.kind w.payload = some ec) :
    ((s.unregister i w phase).maps kind).refs key =
      (s.maps kind).refs key - if kind = w.kind ∧ key = w.payload then 1 else 0 := by
  by_cases hkind : kind = w.kind
  · subst hkind
    rw [unregister_maps_self, ThreadSafeEventDict.refs_pop hentry]
    simp
  · rw [unregister_maps_of_ne hkind]
    simp [hkind]

theorem answer_of_none (hentry : s.maps w.kind w.payload = none) :
    s.answer w = (true, s.nextEvent) := by
  simp [answer, ThreadSafeEventDict.set, hentry]

theorem answer_of_some (hentry : s.maps w.kind w.payload = some ec) :
    s.answer w = (false, ec.event) := by
  simp [answer, ThreadSafeEventDict.set, hentry]

/-- An entry outlives every registration, with its event. -/
theorem register_keeps (hentry : s.maps kind key = some ec) :
    ∃ ec', (s.register i w).maps kind key = some ec' ∧ ec'.event = ec.event := by
  by_cases hkind : kind = w.kind
  · subst hkind
    rw [register_maps_self]
    by_cases hkey : key = w.payload
    · subst hkey
      simp [ThreadSafeEventDict.set, hentry]
    · unfold ThreadSafeEventDict.set
      split
      · exact ⟨ec, by simp [Function.update_of_ne hkey, hentry], rfl⟩
      · exact ⟨ec, by simp [Function.update_of_ne hkey, hentry], rfl⟩
  · rw [register_maps_of_ne hkind]
    exact ⟨ec, hentry, rfl⟩

/-- The entry of a call that has registered. -/
theorem register_entry :
    ∃ ec, (s.register i w).maps w.kind w.payload = some ec ∧ ec.event = (s.answer w).2 := by
  rw [register_maps_self]
  cases hentry : s.maps w.kind w.payload with
  | none => simp [ThreadSafeEventDict.set, answer, hentry]
  | some ec => simp [ThreadSafeEventDict.set, answer, hentry]

theorem registered_isCounted : (s.registered w).isCounted = true := by
  unfold registered Waiter.isCounted phaseAfterSet
  cases w.kind <;> cases (s.answer w).1 <;> rfl

/-- A call that waits after its registration waits on the event that `set` returned. -/
theorem registered_phase {event : ℕ} (h : (s.registered w).phase = .waiting event) :
    event = (s.answer w).2 ∧ (w.kind = .recv → (s.answer w).1 = true) := by
  unfold registered phaseAfterSet at h
  cases hkind : w.kind <;> cases hanswer : (s.answer w).1 <;> simp_all

/-- Only the `recv` that found an entry does not wait. -/
theorem registered_isWaiting :
    (s.registered w).isWaiting = true ↔ (w.kind = .recv → (s.answer w).1 = true) := by
  unfold registered phaseAfterSet Waiter.isWaiting
  cases hkind : w.kind <;> cases hanswer : (s.answer w).1 <;> simp

end WaiterState

section Consistency

open WaiterState

variable {s s' : WaiterState} {i : ℕ} {w w' : Waiter} {kind : WaitKind} {key : String}
  {phase : WaiterPhase}

theorem Waiter.exists_waiting (h : w.isWaiting = true) : ∃ event, w.phase = .waiting event := by
  unfold Waiter.isWaiting at h
  split at h
  · rename_i event hphase
    exact ⟨event, hphase⟩
  · cases h

theorem Waiter.isCounted_of_isWaiting (h : w.isWaiting = true) : w.isCounted = true := by
  obtain ⟨event, hphase⟩ := Waiter.exists_waiting h
  simp [Waiter.isCounted, hphase]

theorem Waiter.isWaiting_of_phase {event : ℕ} (h : w.phase = .waiting event) :
    w.isWaiting = true := by
  simp [Waiter.isWaiting, h]

theorem Waiter.holds_iff (hcounted : w.isCounted = true) :
    w.holds kind key = true ↔ kind = w.kind ∧ key = w.payload := by
  simp only [Waiter.holds, hcounted, Bool.and_true, Bool.and_eq_true, decide_eq_true_eq]
  rw [eq_comm, eq_comm (a := key)]

theorem Waiter.holds_of_not_counted (huncounted : w.isCounted = false) :
    w.holds kind key = false := by
  simp [Waiter.holds, huncounted]

/-- A counted call has an entry. -/
theorem Consistent.exists_entry (hs : Consistent s) (hw : w ∈ s.waiters)
    (hcounted : w.isCounted = true) : ∃ ec, s.maps w.kind w.payload = some ec := by
  cases hentry : s.maps w.kind w.payload with
  | some ec => exact ⟨ec, rfl⟩
  | none =>
    have hcount := hs.counts w.kind w.payload
    have hpos : 0 < s.waiters.countP (Waiter.holds w.kind w.payload) :=
      List.countP_pos_iff.mpr ⟨w, hw, by simp [Waiter.holds, hcounted]⟩
    simp only [ThreadSafeEventDict.refs, hentry, Option.elim] at hcount
    omega

/-- An entry has a counted call. -/
theorem Consistent.exists_holder (hs : Consistent s) {ec : EventCount}
    (hentry : s.maps kind key = some ec) :
    ∃ w ∈ s.waiters, w.holds kind key = true := by
  have hcount := hs.counts kind key
  have hpositive := hs.positive kind key ec hentry
  simp only [ThreadSafeEventDict.refs, hentry, Option.elim] at hcount
  apply List.countP_pos_iff.mp
  omega

/-- A new call. -/
theorem consistent_append (hs : Consistent s) (hphase : w.phase = .starting) :
    Consistent { s with waiters := s.waiters ++ [w] } := by
  have huncounted : ∀ kind key, w.holds kind key = false := by
    intro kind key
    simp [Waiter.holds, Waiter.isCounted, hphase]
  have hwaiting : w.isWaiting = false := by simp [Waiter.isWaiting, hphase]
  refine ⟨?_, hs.positive, ?_, hs.fresh, hs.distinct, ?_⟩
  · intro kind key
    simp only [List.countP_append, List.countP_singleton, huncounted]
    simpa using hs.counts kind key
  · intro other hother event hevent
    rcases List.mem_append.mp hother with hmem | hmem
    · exact hs.events other hmem event hevent
    · rw [List.mem_singleton.mp hmem, hphase] at hevent
      cases hevent
  · intro first hfirst second hsecond hkind hkind' hwait hwait' hpayload
    rcases List.mem_append.mp hfirst with hmem | hmem
    · rcases List.mem_append.mp hsecond with hmem' | hmem'
      · exact hs.owner first hmem second hmem' hkind hkind' hwait hwait' hpayload
      · rw [List.mem_singleton.mp hmem', hwaiting] at hwait'
        cases hwait'
    · rw [List.mem_singleton.mp hmem, hwaiting] at hwait
      cases hwait

/-- A call that goes on without touching the maps. -/
theorem consistent_move (hs : Consistent s) (hget : s.waiters[i]? = some w)
    (hkind : w'.kind = w.kind) (hcomponents : w'.components = w.components)
    (hcounted : w'.isCounted = w.isCounted)
    (hphase : ∀ event, w'.phase = .waiting event → w.phase = .waiting event) :
    Consistent (s.move i w') := by
  have hpayload : w'.payload = w.payload := by simp only [Waiter.payload, hcomponents]
  have hw := List.mem_of_getElem? hget
  have hwaiting : w'.isWaiting = true → w.isWaiting = true := by
    intro hwait
    obtain ⟨event, hevent⟩ := Waiter.exists_waiting hwait
    exact Waiter.isWaiting_of_phase (hphase event hevent)
  refine ⟨?_, hs.positive, ?_, hs.fresh, hs.distinct, ?_⟩
  · intro kind key
    have hcount := countP_set_add (Waiter.holds kind key) w' hget
    have hsame : w'.holds kind key = w.holds kind key := by
      simp only [Waiter.holds, hkind, hpayload, hcounted]
    rw [hsame] at hcount
    have hcounts := hs.counts kind key
    simp only [move]
    omega
  · intro other hother event hevent
    rcases List.mem_or_eq_of_mem_set hother with hmem | rfl
    · exact hs.events other hmem event hevent
    · rw [hkind, hpayload]
      exact hs.events w hw event (hphase event hevent)
  · intro first hfirst second hsecond hkind₁ hkind₂ hwait₁ hwait₂ hsame
    rcases List.mem_or_eq_of_mem_set hfirst with hmem | rfl
    · rcases List.mem_or_eq_of_mem_set hsecond with hmem' | rfl
      · exact hs.owner first hmem second hmem' hkind₁ hkind₂ hwait₁ hwait₂ hsame
      · rw [hcomponents]
        exact hs.owner first hmem w hw hkind₁ (hkind ▸ hkind₂) hwait₁ (hwaiting hwait₂)
          (hsame.trans hpayload)
    · rcases List.mem_or_eq_of_mem_set hsecond with hmem' | rfl
      · rw [hcomponents]
        exact hs.owner w hw second hmem' (hkind ▸ hkind₁) hkind₂ (hwaiting hwait₁) hwait₂
          (hpayload.symm.trans hsame)
      · rfl

/-- The registration of a call. -/
theorem consistent_register (hs : Consistent s) (hget : s.waiters[i]? = some w)
    (hphase : w.phase = .starting) : Consistent (s.register i w) := by
  refine ⟨?_, ?_, ?_, ?_, ?_, ?_⟩
  · intro kind key
    have hcount := countP_set_add (Waiter.holds kind key) (s.registered w) hget
    have hbefore : w.holds kind key = false :=
      Waiter.holds_of_not_counted (by simp [Waiter.isCounted, hphase])
    have hafter : (s.registered w).holds kind key = true ↔ kind = w.kind ∧ key = w.payload :=
      Waiter.holds_iff registered_isCounted
    simp only [hbefore, hafter, Bool.false_eq_true, if_false, Nat.add_zero] at hcount
    rw [register_refs, hs.counts]
    change _ = (((s.waiters.set i (s.registered w)).countP (Waiter.holds kind key) : ℕ) : ℤ)
    rw [hcount]
    by_cases hsame : kind = w.kind ∧ key = w.payload
    · simp [hsame]
    · simp [hsame]
  · intro kind key ec hentry
    rcases register_maps_eq_some hentry with ⟨old, hold, -, hcount⟩ | ⟨-, -, -, -, hcount⟩
    · have := hs.positive kind key old hold
      omega
    · omega
  · intro other hother event hevent
    rcases List.mem_or_eq_of_mem_set hother with hmem | rfl
    · obtain ⟨ec, hentry, hec⟩ := hs.events other hmem event hevent
      obtain ⟨ec', hentry', hec'⟩ := register_keeps (i := i) (w := w) hentry
      exact ⟨ec', hentry', hec'.trans hec⟩
    · rw [(registered_phase hevent).1]
      exact register_entry
  · intro kind key ec hentry
    change ec.event < s.nextEvent + 1
    rcases register_maps_eq_some hentry with ⟨old, hold, hevent, -⟩ | ⟨-, -, -, hevent, -⟩
    · have := hs.fresh kind key old hold
      omega
    · omega
  · intro kind key key' ec ec' hentry hentry' hsame
    rcases register_maps_eq_some hentry with ⟨old, hold, hevent, -⟩ | ⟨-, hkey, -, hevent, -⟩
    · have hfresh := hs.fresh kind key old hold
      rcases register_maps_eq_some hentry' with ⟨old', hold', hevent', -⟩ | ⟨-, -, -, hevent', -⟩
      · apply hs.distinct kind key key' old old' hold hold'
        calc
          old.event = ec.event := hevent.symm
          _ = ec'.event := hsame
          _ = old'.event := hevent'
      · omega
    · rcases register_maps_eq_some hentry' with ⟨old', hold', hevent', -⟩ | ⟨-, hkey', -⟩
      · have hfresh := hs.fresh kind key' old' hold'
        omega
      · exact hkey.trans hkey'.symm
  · -- A `recv` waits only if its string had no entry, so that no other call was counted under it.
    have hfirst : ∀ other ∈ s.waiters, other.kind = .recv → other.isWaiting = true →
        w.kind = .recv → (s.registered w).isWaiting = true → other.payload ≠ w.payload := by
      intro other hother hkind hwait hrecv hregistered hsame
      obtain ⟨ec, hentry⟩ := hs.exists_entry hother (Waiter.isCounted_of_isWaiting hwait)
      rw [hkind, ← hrecv, hsame] at hentry
      have hanswer := registered_isWaiting.mp hregistered hrecv
      rw [answer_of_some hentry] at hanswer
      cases hanswer
    intro first hmem₁ second hmem₂ hkind₁ hkind₂ hwait₁ hwait₂ hsame
    rcases List.mem_or_eq_of_mem_set hmem₁ with hmem₁ | rfl
    · rcases List.mem_or_eq_of_mem_set hmem₂ with hmem₂ | rfl
      · exact hs.owner first hmem₁ second hmem₂ hkind₁ hkind₂ hwait₁ hwait₂ hsame
      · exact absurd hsame (hfirst first hmem₁ hkind₁ hwait₁ hkind₂ hwait₂)
    · rcases List.mem_or_eq_of_mem_set hmem₂ with hmem₂ | rfl
      · exact absurd hsame.symm (hfirst second hmem₂ hkind₂ hwait₂ hkind₁ hwait₁)
      · rfl

/-- The removal of a registration. -/
theorem consistent_unregister (hs : Consistent s) (hget : s.waiters[i]? = some w)
    (hcounted : w.isCounted = true)
    (hphase : ({ w with phase := phase } : Waiter).isCounted = false) :
    Consistent (s.unregister i w phase) := by
  obtain ⟨ec, hentry⟩ := hs.exists_entry (List.mem_of_getElem? hget) hcounted
  have hnotWaiting : ({ w with phase := phase } : Waiter).isWaiting = false := by
    by_contra hwait
    rw [Waiter.isCounted_of_isWaiting (Bool.eq_true_of_not_eq_false hwait)] at hphase
    cases hphase
  have hcounts : ∀ kind key, ((s.unregister i w phase).maps kind).refs key =
      (s.unregister i w phase).waiters.countP (Waiter.holds kind key) := by
    intro kind key
    have hcount := countP_set_add (Waiter.holds kind key) { w with phase := phase } hget
    simp only [Waiter.holds_of_not_counted hphase, Waiter.holds_iff hcounted, Bool.false_eq_true,
      if_false, Nat.add_zero] at hcount
    rw [unregister_refs hentry, hs.counts, ← hcount]
    change _ = (((s.waiters.set i { w with phase := phase }).countP (Waiter.holds kind key) : ℕ) : ℤ)
    by_cases hsame : kind = w.kind ∧ key = w.payload
    · simp [hsame]
    · simp [hsame]
  have hold : ∀ {kind key ec}, (s.unregister i w phase).maps kind key = some ec →
      ∃ old, s.maps kind key = some old ∧ ec.event = old.event ∧ 0 < ec.count :=
    fun hnew ↦ unregister_maps_eq_some hs.positive hnew
  refine ⟨hcounts, ?_, ?_, ?_, ?_, ?_⟩
  · intro kind key ec hnew
    obtain ⟨-, -, -, hpositive⟩ := hold hnew
    exact hpositive
  · intro other hother event hevent
    have hwait := Waiter.isWaiting_of_phase hevent
    -- The entry is still there, since this call is counted.
    cases hnew : (s.unregister i w phase).maps other.kind other.payload with
    | none =>
      have hcount := hcounts other.kind other.payload
      have hpos : 0 < (s.unregister i w phase).waiters.countP
          (Waiter.holds other.kind other.payload) :=
        List.countP_pos_iff.mpr ⟨other, hother, by
          simp [Waiter.holds, Waiter.isCounted_of_isWaiting hwait]⟩
      simp only [ThreadSafeEventDict.refs, hnew, Option.elim] at hcount
      omega
    | some ec' =>
      refine ⟨ec', rfl, ?_⟩
      rcases List.mem_or_eq_of_mem_set hother with hmem | rfl
      · obtain ⟨old, hentry', hec⟩ := hs.events other hmem event hevent
        obtain ⟨old', hentry'', hec', -⟩ := hold hnew
        rw [hentry'] at hentry''
        cases hentry''
        exact hec'.trans hec
      · rw [hnotWaiting] at hwait
        cases hwait
  · intro kind key ec hnew
    obtain ⟨old, hentry', hevent, -⟩ := hold hnew
    rw [hevent]
    exact hs.fresh kind key old hentry'
  · intro kind key key' ec ec' hnew hnew' hsame
    obtain ⟨old, hentry₁, hevent₁, -⟩ := hold hnew
    obtain ⟨old', hentry₂, hevent₂, -⟩ := hold hnew'
    apply hs.distinct kind key key' old old' hentry₁ hentry₂
    calc
      old.event = ec.event := hevent₁.symm
      _ = ec'.event := hsame
      _ = old'.event := hevent₂
  · intro first hmem₁ second hmem₂ hkind₁ hkind₂ hwait₁ hwait₂ hsame
    rcases List.mem_or_eq_of_mem_set hmem₁ with hmem₁ | rfl
    · rcases List.mem_or_eq_of_mem_set hmem₂ with hmem₂ | rfl
      · exact hs.owner first hmem₁ second hmem₂ hkind₁ hkind₂ hwait₁ hwait₂ hsame
      · rw [hnotWaiting] at hwait₂
        cases hwait₂
    · rw [hnotWaiting] at hwait₁
      cases hwait₁

/-- Every step is one of four: a new call, a registration, the removal of a registration, or a call
that goes on without touching the maps. -/
theorem waiterSystem_step_cases {action : WaiterAction}
    (hstep : waiterSystem.step s action = some s') :
    (∃ w : Waiter, w.phase = .starting ∧ s' = { s with waiters := s.waiters ++ [w] }) ∨
    (∃ i w, action = .set i ∧ s.waiters[i]? = some w ∧ w.phase = .starting ∧
      s' = s.register i w) ∨
    (∃ i w phase, s.waiters[i]? = some w ∧ w.isCounted = true ∧
      ({ w with phase := phase } : Waiter).isCounted = false ∧ s' = s.unregister i w phase) ∨
    ∃ i w w', s.waiters[i]? = some w ∧ w'.kind = w.kind ∧ w'.components = w.components ∧
      w'.isCounted = w.isCounted ∧ (∀ event, w'.phase = .waiting event → w.phase = .waiting event) ∧
      s' = s.move i w' := by
  cases action with
  | recv workflowUuid topic =>
    cases hstep
    exact Or.inl ⟨Waiter.ofRecv workflowUuid topic, rfl, rfl⟩
  | getEvent targetUuid key =>
    cases hstep
    exact Or.inl ⟨Waiter.ofGetEvent targetUuid key, rfl, rfl⟩
  | set i =>
    simp only [waiterSystem] at hstep
    split at hstep
    · rename_i w hget
      simp only [Option.ite_none_right_eq_some, Option.some.injEq] at hstep
      obtain ⟨hphase, rfl⟩ := hstep
      exact Or.inr (Or.inl ⟨i, w, rfl, hget, hphase, rfl⟩)
    · cases hstep
  | pop i =>
    simp only [waiterSystem] at hstep
    split at hstep
    · rename_i w hget
      split at hstep
      · rename_i hphase
        cases hstep
        exact Or.inr (Or.inr (Or.inl
          ⟨i, w, .conflict, hget, by simp [Waiter.isCounted, hphase], rfl, rfl⟩))
      · rename_i hphase
        cases hstep
        exact Or.inr (Or.inr (Or.inl
          ⟨i, w, .finished, hget, by simp [Waiter.isCounted, hphase], rfl, rfl⟩))
      · cases hstep
    · cases hstep
  | retry i =>
    simp only [waiterSystem] at hstep
    split at hstep
    · rename_i w hget
      simp only [Option.ite_none_right_eq_some, Option.some.injEq] at hstep
      obtain ⟨hwait, rfl⟩ := hstep
      exact Or.inr (Or.inr (Or.inl
        ⟨i, w, .starting, hget, Waiter.isCounted_of_isWaiting hwait, rfl, rfl⟩))
    · cases hstep
  | leave i =>
    simp only [waiterSystem] at hstep
    split at hstep
    · rename_i w hget
      simp only [Option.ite_none_right_eq_some, Option.some.injEq] at hstep
      obtain ⟨hphase, rfl⟩ := hstep
      refine Or.inr (Or.inr (Or.inr ⟨i, w, { w with phase := .finished }, hget, rfl, rfl,
        by simp [Waiter.isCounted, hphase], ?_, rfl⟩))
      intro event hevent
      cases hevent
    · cases hstep
  | abandon i =>
    simp only [waiterSystem] at hstep
    split at hstep
    · rename_i w hget
      cases hstep
      exact Or.inr (Or.inr (Or.inr ⟨i, w, { w with abandoned := true }, hget, rfl, rfl, rfl,
        fun event hevent ↦ hevent, rfl⟩))
    · cases hstep

theorem consistent_step {action : WaiterAction} (hs : Consistent s)
    (hstep : waiterSystem.step s action = some s') : Consistent s' := by
  rcases waiterSystem_step_cases hstep with ⟨w, hphase, rfl⟩ | ⟨i, w, -, hget, hphase, rfl⟩ |
    ⟨i, w, phase, hget, hcounted, hphase, rfl⟩ |
    ⟨i, w, w', hget, hkind, hcomponents, hcounted, hphase, rfl⟩
  · exact consistent_append hs hphase
  · exact consistent_register hs hget hphase
  · exact consistent_unregister hs hget hcounted hphase
  · exact consistent_move hs hget hkind hcomponents hcounted hphase

theorem consistent_initial : Consistent WaiterState.initial := by
  refine ⟨fun kind key ↦ rfl, ?_, ?_, ?_, ?_, ?_⟩
  · intro kind key ec hentry
    cases hentry
  · intro w hw
    cases hw
  · intro kind key ec hentry
    cases hentry
  · intro kind key key' ec ec' hentry
    cases hentry
  · intro w hw
    cases hw

end Consistency

/-! ## Conflicts and shared entries along a run -/

section Sharing

open WaiterState

variable {s s' : WaiterState} {i : ℕ} {w w' : Waiter} {phase : WaiterPhase} {action : WaiterAction}

/-- A step that lets no further call wait. -/
theorem sharedEntriesAgree_of_subset (hs : SharedEntriesAgree s)
    (hsub : ∀ w' ∈ s'.waiters, ∀ event, w'.phase = .waiting event →
      ∃ w ∈ s.waiters, w.kind = w'.kind ∧ w.components = w'.components ∧ w.phase = w'.phase) :
    SharedEntriesAgree s' := by
  intro first hfirst second hsecond event hkind₁ hkind₂ hphase₁ hphase₂
  obtain ⟨w₁, hw₁, hk₁, hc₁, hp₁⟩ := hsub first hfirst event hphase₁
  obtain ⟨w₂, hw₂, hk₂, hc₂, hp₂⟩ := hsub second hsecond event hphase₂
  rw [← hc₁, ← hc₂]
  exact hs w₁ hw₁ w₂ hw₂ event (hk₁.trans hkind₁) (hk₂.trans hkind₂) (hp₁.trans hphase₁)
    (hp₂.trans hphase₂)

theorem sharedEntriesAgree_move (hs : SharedEntriesAgree s) (hget : s.waiters[i]? = some w)
    (hwaiters : s'.waiters = s.waiters.set i w') (hkind : w'.kind = w.kind)
    (hcomponents : w'.components = w.components)
    (hphase : ∀ event, w'.phase = .waiting event → w.phase = .waiting event) :
    SharedEntriesAgree s' := by
  apply sharedEntriesAgree_of_subset hs
  intro other hother event hevent
  rw [hwaiters] at hother
  rcases List.mem_or_eq_of_mem_set hother with hmem | rfl
  · exact ⟨other, hmem, rfl, rfl, rfl⟩
  · exact ⟨w, List.mem_of_getElem? hget, hkind.symm, hcomponents.symm,
      (hphase event hevent).trans hevent.symm⟩

/-- A call of `get_event` that registers joins calls for the same key of the same workflow. -/
theorem sharedEntriesAgree_register (hconsistent : Consistent s) (hs : SharedEntriesAgree s)
    (hdistinct : ∀ other ∈ s.waiters, other.kind = w.kind → other.isWaiting →
      other.payload = w.payload → other.components = w.components) :
    SharedEntriesAgree (s.register i w) := by
  -- Two calls that wait on one event are counted in one entry.
  have hjoin : ∀ other ∈ s.waiters, ∀ event, other.kind = .getEvent → w.kind = .getEvent →
      other.phase = .waiting event → (s.registered w).phase = .waiting event →
      other.components = w.components := by
    intro other hother event hkind hkind' hphase hphase'
    apply hdistinct other hother (hkind.trans hkind'.symm) (Waiter.isWaiting_of_phase hphase)
    obtain ⟨ec, hentry, hec⟩ := hconsistent.events other hother event hphase
    have hevent := (registered_phase hphase').1
    cases hmap : s.maps w.kind w.payload with
    | none =>
      rw [answer_of_none hmap] at hevent
      have := hconsistent.fresh _ _ ec hentry
      simp only at hevent
      omega
    | some ec' =>
      rw [answer_of_some hmap] at hevent
      rw [hkind, ← hkind'] at hentry
      exact hconsistent.distinct _ _ _ ec ec' hentry hmap (hec.trans hevent)
  intro first hmem₁ second hmem₂ event hkind₁ hkind₂ hphase₁ hphase₂
  rcases List.mem_or_eq_of_mem_set hmem₁ with hmem₁ | rfl
  · rcases List.mem_or_eq_of_mem_set hmem₂ with hmem₂ | rfl
    · exact hs first hmem₁ second hmem₂ event hkind₁ hkind₂ hphase₁ hphase₂
    · exact hjoin first hmem₁ event hkind₁ hkind₂ hphase₁ hphase₂
  · rcases List.mem_or_eq_of_mem_set hmem₂ with hmem₂ | rfl
    · exact (hjoin second hmem₂ event hkind₂ hkind₁ hphase₂ hphase₁).symm
    · rfl

theorem sharedEntriesAgree_step (hconsistent : Consistent s) (hs : SharedEntriesAgree s)
    (hdistinct : Distinguishable s action) (hstep : waiterSystem.step s action = some s') :
    SharedEntriesAgree s' := by
  rcases waiterSystem_step_cases hstep with ⟨w, hphase, rfl⟩ | ⟨i, w, rfl, hget, hphase, rfl⟩ |
    ⟨i, w, phase, hget, -, hphase, rfl⟩ | ⟨i, w, w', hget, hkind, hcomponents, -, hphase, rfl⟩
  · apply sharedEntriesAgree_of_subset hs
    intro other hother event hevent
    rcases List.mem_append.mp hother with hmem | hmem
    · exact ⟨other, hmem, rfl, rfl, rfl⟩
    · rw [List.mem_singleton.mp hmem, hphase] at hevent
      cases hevent
  · exact sharedEntriesAgree_register hconsistent hs (hdistinct w hget hphase).1
  · have hwaiters : (s.unregister i w phase).waiters = s.waiters.set i { w with phase := phase } :=
      rfl
    apply sharedEntriesAgree_move hs hget hwaiters rfl rfl
    intro event hevent
    rw [Waiter.isCounted_of_isWaiting (Waiter.isWaiting_of_phase hevent)] at hphase
    cases hphase
  · exact sharedEntriesAgree_move hs hget rfl hkind hcomponents hphase

/-- Where the strings distinguish the calls, a conflict is a real one. -/
theorem conflictIsReal_of_distinguishable (hconsistent : Consistent s)
    (hdistinct : Distinguishable s action) : ConflictIsReal s action := by
  cases action with
  | set i =>
    intro w hget hphase hkind hanswer
    obtain ⟨hcomponents, hleftover⟩ := hdistinct w hget hphase
    cases hmap : s.maps w.kind w.payload with
    | none =>
      rw [answer_of_none hmap] at hanswer
      cases hanswer
    | some ec =>
      have hholder := hconsistent.exists_holder hmap
      rw [hkind] at hholder
      obtain ⟨other, hother, hlive, hpayload⟩ := hleftover hkind hholder
      refine ⟨other, hother, hlive, ?_⟩
      simp only [Waiter.isLive, Bool.and_eq_true, decide_eq_true_eq] at hlive
      exact hcomponents other hother (hlive.1.1.trans hkind.symm) hlive.1.2 hpayload
  | _ => trivial

/-- A real conflict of `recv` is one that the strings distinguish. -/
theorem distinguishable_of_conflictIsReal (hconsistent : Consistent s)
    (hget : s.waiters[i]? = some w) (hphase : w.phase = .starting) (hkind : w.kind = .recv)
    (hreal : ConflictIsReal s (.set i)) :
    (∀ other ∈ s.waiters, other.kind = w.kind → other.isWaiting → other.payload = w.payload →
      other.components = w.components) ∧
    (w.kind = .recv → (∃ other ∈ s.waiters, other.holds .recv w.payload) →
      ∃ other ∈ s.waiters, other.isLive .recv ∧ other.payload = w.payload) := by
  have hfound : (∃ other ∈ s.waiters, other.holds .recv w.payload) →
      ∃ other ∈ s.waiters, other.isLive .recv ∧ other.components = w.components := by
    rintro ⟨other, hother, hholds⟩
    simp only [Waiter.holds, Bool.and_eq_true, decide_eq_true_eq] at hholds
    obtain ⟨⟨hotherKind, hpayload⟩, hcounted⟩ := hholds
    obtain ⟨ec, hentry⟩ := hconsistent.exists_entry hother hcounted
    rw [hotherKind, hpayload, ← hkind] at hentry
    exact hreal w hget hphase hkind (by rw [answer_of_some hentry])
  constructor
  · intro other hother hotherKind hwait hpayload
    have hholds : other.holds .recv w.payload = true := by
      simp [Waiter.holds, hotherKind, hkind, hpayload, Waiter.isCounted_of_isWaiting hwait]
    obtain ⟨live, hlive, hisLive, hcomponents⟩ := hfound ⟨other, hother, hholds⟩
    simp only [Waiter.isLive, Bool.and_eq_true, decide_eq_true_eq] at hisLive
    rw [← hcomponents]
    apply hconsistent.owner other hother live hlive (hotherKind.trans hkind) hisLive.1.1 hwait
      hisLive.1.2
    rw [hpayload, Waiter.payload, Waiter.payload, hcomponents]
  · intro _ hholder
    obtain ⟨live, hlive, hisLive, hcomponents⟩ := hfound hholder
    exact ⟨live, hlive, hisLive, by simp only [Waiter.payload, hcomponents]⟩

/-- A `get_event` that joins an entry waits with every other call of that entry. -/
theorem distinguishable_of_sharedEntriesAgree (hconsistent : Consistent s)
    (hget : s.waiters[i]? = some w) (hphase : w.phase = .starting) (hkind : w.kind = .getEvent)
    (hafter : SharedEntriesAgree (s.register i w)) :
    ∀ other ∈ s.waiters, other.kind = w.kind → other.isWaiting → other.payload = w.payload →
      other.components = w.components := by
  intro other hother hotherKind hwait hpayload
  obtain ⟨event, hevent⟩ := Waiter.exists_waiting hwait
  obtain ⟨ec, hentry, hec⟩ := hconsistent.events other hother event hevent
  rw [hotherKind, hpayload] at hentry
  have hregistered : (s.registered w).phase = .waiting event := by
    simp [registered, phaseAfterSet, hkind, answer_of_some hentry, hec]
  obtain ⟨hi, -⟩ := List.getElem?_eq_some_iff.mp hget
  obtain ⟨j, hj⟩ := List.getElem?_of_mem hother
  have hne : i ≠ j := by
    rintro rfl
    rw [hget] at hj
    cases hj
    rw [hphase] at hevent
    cases hevent
  have hmem : other ∈ (s.register i w).waiters := by
    refine List.mem_of_getElem? (i := j) ?_
    change (s.waiters.set i (s.registered w))[j]? = some other
    rw [List.getElem?_set_ne hne, hj]
  have hself : s.registered w ∈ (s.register i w).waiters := List.mem_set hi _
  exact hafter other hmem (s.registered w) hself event (hotherKind.trans hkind) hkind hevent
    hregistered

/-- Over the whole run, a `recv` raises a conflict only because of another live `recv` on the same
workflow ID and topic, and calls of `get_event` share an entry only for the same key of the same
workflow. -/
def WaitersAgree (actions : List WaiterAction) : Prop :=
  waiterSystem.Along ConflictIsReal .initial actions ∧
    ∀ before after s, actions = before ++ after → waiterSystem.run .initial before = some s →
      SharedEntriesAgree s

/-- This is the case exactly if at every registration the string of the call distinguishes it from
the calls that are registered, and is not held by calls alone that do not wait. -/
theorem waitersAgree_iff (actions : List WaiterAction) :
    WaitersAgree actions ↔ waiterSystem.Along Distinguishable .initial actions := by
  have hstep : ∀ s action s', Consistent s ∧ SharedEntriesAgree s → Distinguishable s action →
      waiterSystem.step s action = some s' → Consistent s' ∧ SharedEntriesAgree s' :=
    fun s action s' hs hdistinct hstep ↦
      ⟨consistent_step hs.1 hstep, sharedEntriesAgree_step hs.1 hs.2 hdistinct hstep⟩
  have hinitial : Consistent .initial ∧ SharedEntriesAgree .initial := by
    refine ⟨consistent_initial, ?_⟩
    intro w hw
    cases hw
  constructor
  · rintro ⟨hreal, hshared⟩
    rw [System.along_iff] at hreal ⊢
    intro before action after s hactions hrun
    have hconsistent : Consistent s :=
      waiterSystem.reaches_invariant (fun _ _ _ ↦ consistent_step) consistent_initial
        ⟨before, hrun⟩
    cases action with
    | set i =>
      intro w hget hphase
      by_cases hkind : w.kind = .recv
      · exact distinguishable_of_conflictIsReal hconsistent hget hphase hkind
          (hreal before (.set i) after s hactions hrun)
      · have hgetEvent : w.kind = .getEvent := by
          cases hcase : w.kind with
          | recv => exact absurd hcase hkind
          | getEvent => rfl
        have hafter : SharedEntriesAgree (s.register i w) := by
          apply hshared (before ++ [.set i]) after
          · simp [hactions]
          · rw [System.run_append, hrun, Option.bind_some, System.run_cons]
            simp [waiterSystem, hget, hphase]
        exact ⟨distinguishable_of_sharedEntriesAgree hconsistent hget hphase hgetEvent hafter,
          fun hrecv ↦ absurd hrecv hkind⟩
    | _ => trivial
  · intro hdistinct
    constructor
    · exact waiterSystem.along_of_invariant hstep
        (fun s action hs hdistinct ↦ conflictIsReal_of_distinguishable hs.1 hdistinct) hinitial
        hdistinct
    · intro before after s hactions hrun
      rw [hactions, System.along_append] at hdistinct
      exact (waiterSystem.run_invariant hstep hinitial hdistinct.1 hrun).2

end Sharing

/-- A `recv` on workflow `a` and topic `b::c` and one on workflow `a::b` and topic `c`. -/
def collidingRecvs : List WaiterAction :=
  [.recv "a" (some "b::c"), .recv "a::b" (some "c"), .set 0, .set 1]

/-- The same pairs in two calls of `get_event`. -/
def collidingGetEvents : List WaiterAction :=
  [.getEvent "a" "b::c", .getEvent "a::b" "c", .set 0, .set 1]

/-- The second `recv` raises a conflict although nobody waits on its workflow, and the calls of
`get_event` share an entry. -/
theorem not_waitersAgree_colliding :
    ¬ WaitersAgree collidingRecvs ∧ ¬ WaitersAgree collidingGetEvents := by
  constructor
  · rintro ⟨hreal, -⟩
    have hfails : ∃ s w, waiterSystem.run .initial
        [.recv "a" (some "b::c"), .recv "a::b" (some "c"), .set 0] = some s ∧
        s.waiters[1]? = some w ∧ w.phase = .starting ∧ w.kind = .recv ∧ (s.answer w).1 = false ∧
        ∀ other ∈ s.waiters, other.isLive .recv → other.components ≠ w.components :=
      ⟨_, _, rfl, rfl, by decide⟩
    obtain ⟨s, w, hrun, hget, hphase, hkind, hanswer, hnone⟩ := hfails
    rw [System.along_iff] at hreal
    obtain ⟨other, hother, hlive, hcomponents⟩ :=
      hreal _ (.set 1) [] s rfl hrun w hget hphase hkind hanswer
    exact hnone other hother hlive hcomponents
  · rintro ⟨-, hshared⟩
    have hfails : ∃ s w w', waiterSystem.run .initial collidingGetEvents = some s ∧
        w ∈ s.waiters ∧ w' ∈ s.waiters ∧ w.kind = .getEvent ∧ w'.kind = .getEvent ∧
        w.phase = .waiting 0 ∧ w'.phase = .waiting 0 ∧ w.components ≠ w'.components := by
      refine ⟨_, { Waiter.ofGetEvent "a" "b::c" with phase := .waiting 0 },
        { Waiter.ofGetEvent "a::b" "c" with phase := .waiting 0 }, rfl, ?_⟩
      decide
    obtain ⟨s, w, w', hrun, hw, hw', hkind, hkind', hphase, hphase', hne⟩ := hfails
    exact hne (hshared collidingGetEvents [] s rfl hrun w hw w' hw' 0 hkind hkind' hphase hphase')

end DBOSModel.SysDb

import DBOSModel.Relational.Dict
import Mathlib.Logic.Function.Basic

/-!
# Supervised workers

A supervisor keeps the worker that it has for each key in a dictionary. It compares the dictionary
with what is wanted, and starts, replaces and stops workers. Workers are numbered in the order in
which they are started; a live worker is one that has neither ended nor been told to stop.

As long as every live worker is the one of its key (`Pool.WellFormed`), there is at most one for
each key. A pass over the wanted keys leaves exactly the workers that are wanted, and a second pass
changes nothing.
-/

namespace Supervision

open DBOSModel.Relational

/-- The workers of a supervisor, for keys `K`, each started with a value of `S`. -/
structure Pool (K S : Type) where
  /-- The workers, in the order in which they were started. -/
  started : List (K × S)
  live : ℕ → Bool
  /-- The worker that the supervisor has for each key. -/
  table : Dict K ℕ

namespace Pool

variable {K S : Type}

def empty : Pool K S where
  started := []
  live _ := false
  table := .empty

section Operations

variable [DecidableEq K] (pool : Pool K S)

/-- Start a worker, in the place of the one that there is for the key. -/
def start (k : K) (s : S) : Pool K S where
  started := pool.started ++ [(k, s)]
  live := Function.update pool.live pool.started.length true
  table := pool.table.set k pool.started.length

/-- A worker ends or is told to stop. -/
def retire (n : ℕ) : Pool K S := { pool with live := Function.update pool.live n false }

/-- Whether a worker is in the table, under a key of a kind. -/
def holds (p : K → Bool) (n : ℕ) : Bool := pool.table.rows.any fun entry ↦ p entry.1 && entry.2 == n

/-- Stop the workers of all keys of a kind and forget them. -/
def stopWhere (p : K → Bool) : Pool K S where
  started := pool.started
  live n := pool.live n && !pool.holds p n
  table := pool.table.delete fun entry ↦ p entry.1

/-- See that there is a worker for a key: the one that there is if it is to be kept, else a new one
in its place. -/
def ensure (keeps : ℕ → Bool) (k : K) (s : S) : Pool K S :=
  match pool.table.get k with
  | some n => if keeps n then pool else (pool.retire n).start k s
  | none => pool.start k s

theorem get_start (k : K) (s : S) (k' : K) :
    (pool.start k s).table.get k' =
      if k = k' then some pool.started.length else pool.table.get k' :=
  Dict.get_set pool.table k pool.started.length k'

theorem live_start (k : K) (s : S) (n : ℕ) :
    (pool.start k s).live n = if n = pool.started.length then true else pool.live n := by
  unfold start
  by_cases h : n = pool.started.length
  · simp [h]
  · simp [h]

@[simp]
theorem started_start (k : K) (s : S) : (pool.start k s).started = pool.started ++ [(k, s)] := rfl

omit [DecidableEq K] in
theorem live_retire (m n : ℕ) : (pool.retire m).live n = if n = m then false else pool.live n := by
  unfold retire
  by_cases h : n = m
  · simp [h]
  · simp [h]

omit [DecidableEq K] in
@[simp]
theorem table_retire (n : ℕ) : (pool.retire n).table = pool.table := rfl

omit [DecidableEq K] in
@[simp]
theorem started_retire (n : ℕ) : (pool.retire n).started = pool.started := rfl

omit [DecidableEq K] in
@[simp]
theorem started_stopWhere (p : K → Bool) : (pool.stopWhere p).started = pool.started := rfl

theorem get_stopWhere (p : K → Bool) (k : K) :
    (pool.stopWhere p).table.get k = if p k then none else pool.table.get k :=
  Dict.get_delete pool.table p k

omit [DecidableEq K] in
theorem live_stopWhere (p : K → Bool) (n : ℕ) :
    (pool.stopWhere p).live n = (pool.live n && !pool.holds p n) := rfl

end Operations

/-! ## One live worker for each key -/

/-- Every worker in the table was started for its key, and every live worker is in the table. -/
structure WellFormed [DecidableEq K] (pool : Pool K S) : Prop where
  tabled : ∀ k n, pool.table.get k = some n → ∃ s, pool.started[n]? = some (k, s)
  owned : ∀ n, pool.live n = true → ∃ k, pool.table.get k = some n

variable [DecidableEq K] {pool : Pool K S} {k : K} {s : S} {n : ℕ}

theorem wellFormed_empty : (empty : Pool K S).WellFormed where
  tabled k n h := by simp [empty, Dict.get, Table.lookup, Table.empty] at h
  owned n h := by simp [empty] at h

/-- No two live workers were started for one key. -/
theorem WellFormed.live_unique (h : pool.WellFormed) {m n : ℕ} {s s' : S}
    (hm : pool.live m = true) (hn : pool.live n = true) (hms : pool.started[m]? = some (k, s))
    (hns : pool.started[n]? = some (k, s')) : m = n := by
  have hkey : ∀ i s, pool.live i = true → pool.started[i]? = some (k, s) →
      pool.table.get k = some i := by
    intro i s hlive hstarted
    obtain ⟨k', hget⟩ := h.owned i hlive
    obtain ⟨s', hstarted'⟩ := h.tabled k' i hget
    rw [hstarted] at hstarted'
    rw [(Prod.mk.inj (Option.some.inj hstarted')).1]
    exact hget
  have hboth := (hkey m s hm hms).symm.trans (hkey n s' hn hns)
  exact Option.some.inj hboth

theorem WellFormed.lt_length (h : pool.WellFormed) (hget : pool.table.get k = some n) :
    n < pool.started.length := by
  obtain ⟨s, hstarted⟩ := h.tabled k n hget
  exact (List.getElem?_eq_some_iff.1 hstarted).1

theorem WellFormed.start (h : pool.WellFormed)
    (hold : ∀ n, pool.table.get k = some n → pool.live n = false) :
    (pool.start k s).WellFormed where
  tabled k' n hget := by
    rw [get_start] at hget
    rw [started_start]
    by_cases heq : k = k'
    · rw [if_pos heq] at hget
      obtain rfl := Option.some.inj hget
      exact ⟨s, by simp [heq]⟩
    · rw [if_neg heq] at hget
      obtain ⟨s', hstarted⟩ := h.tabled k' n hget
      exact ⟨s', by rw [List.getElem?_append_left (h.lt_length hget)]; exact hstarted⟩
  owned n hlive := by
    rw [live_start] at hlive
    by_cases hnew : n = pool.started.length
    · exact ⟨k, by rw [get_start, if_pos rfl, hnew]⟩
    · rw [if_neg hnew] at hlive
      obtain ⟨k', hget⟩ := h.owned n hlive
      have hne : k ≠ k' := by
        rintro rfl
        rw [hold n hget] at hlive
        exact Bool.false_ne_true hlive
      exact ⟨k', by rw [get_start, if_neg hne, hget]⟩

theorem WellFormed.retire (h : pool.WellFormed) (n : ℕ) : (pool.retire n).WellFormed where
  tabled := h.tabled
  owned m hlive := by
    rw [live_retire] at hlive
    split at hlive
    · exact absurd hlive Bool.false_ne_true
    · exact h.owned m hlive

theorem holds_eq_true {p : K → Bool} :
    pool.holds p n = true ↔ ∃ k, pool.table.get k = some n ∧ p k = true := by
  unfold Pool.holds
  rw [List.any_eq_true]
  constructor
  · rintro ⟨entry, hmem, hentry⟩
    simp only [Bool.and_eq_true, beq_iff_eq] at hentry
    exact ⟨entry.1, by rw [Dict.get_of_mem hmem, hentry.2], hentry.1⟩
  · rintro ⟨k, hget, hp⟩
    unfold Dict.get at hget
    obtain ⟨entry, hlookup, hn⟩ := Option.map_eq_some_iff.1 hget
    obtain ⟨hmem, hkey⟩ := pool.table.lookup_eq_some.1 hlookup
    exact ⟨entry, hmem, by simp [hn, hkey, hp]⟩

theorem WellFormed.stopWhere (h : pool.WellFormed) (p : K → Bool) :
    (pool.stopWhere p).WellFormed where
  tabled k n hget := by
    rw [get_stopWhere] at hget
    split at hget
    · exact absurd hget (by simp)
    · exact h.tabled k n hget
  owned n hlive := by
    rw [live_stopWhere] at hlive
    simp only [Bool.and_eq_true, Bool.not_eq_true'] at hlive
    obtain ⟨k, hget⟩ := h.owned n hlive.1
    refine ⟨k, ?_⟩
    rw [get_stopWhere]
    split
    · rename_i hp
      have := holds_eq_true.2 ⟨k, hget, hp⟩
      rw [hlive.2] at this
      exact absurd this Bool.false_ne_true
    · exact hget

theorem WellFormed.ensure (h : pool.WellFormed) (keeps : ℕ → Bool) (k : K) (s : S) :
    (pool.ensure keeps k s).WellFormed := by
  unfold Pool.ensure
  cases hget : pool.table.get k with
  | none => exact h.start (by simp [hget])
  | some n =>
    simp only
    split
    · exact h
    · apply (h.retire n).start
      intro m hm
      obtain rfl : n = m := Option.some.inj (hget.symm.trans hm)
      simp [live_retire]

/-- There is a live worker for a key. -/
def isAlive (pool : Pool K S) (k : K) : Bool := (pool.table.get k).any pool.live

theorem isAlive_eq_true :
    pool.isAlive k = true ↔ ∃ n, pool.table.get k = some n ∧ pool.live n = true := by
  unfold isAlive
  rw [Option.any_eq_true]

theorem WellFormed.isAlive_iff (h : pool.WellFormed) :
    pool.isAlive k = true ↔ ∃ n s, pool.live n = true ∧ pool.started[n]? = some (k, s) := by
  rw [isAlive_eq_true]
  constructor
  · rintro ⟨n, hget, hlive⟩
    obtain ⟨s, hstarted⟩ := h.tabled k n hget
    exact ⟨n, s, hlive, hstarted⟩
  · rintro ⟨n, s, hlive, hstarted⟩
    obtain ⟨k', hget⟩ := h.owned n hlive
    obtain ⟨s', hstarted'⟩ := h.tabled k' n hget
    have hkey : k' = k := congrArg Prod.fst (Option.some.inj (hstarted'.symm.trans hstarted))
    exact ⟨n, hkey ▸ hget, hlive⟩

theorem WellFormed.isAlive_start (h : pool.WellFormed) {k' : K} :
    (pool.start k s).isAlive k' = true ↔ k' = k ∨ pool.isAlive k' = true := by
  simp only [isAlive_eq_true, get_start, live_start]
  by_cases heq : k = k'
  · simp [heq]
  · have hne : k' ≠ k := fun h ↦ heq h.symm
    simp only [heq, hne, if_false, false_or]
    refine exists_congr fun n ↦ and_congr_right fun hget ↦ ?_
    rw [if_neg (h.lt_length hget).ne]

/-- Workers that have ended are replaced, the others are kept. -/
theorem WellFormed.isAlive_ensure (h : pool.WellFormed) {k' : K} :
    (pool.ensure pool.live k s).isAlive k' = true ↔ k' = k ∨ pool.isAlive k' = true := by
  unfold Pool.ensure
  cases hget : pool.table.get k with
  | none => exact h.isAlive_start
  | some n =>
    by_cases hlive : pool.live n = true
    · simp only [hlive, if_true]
      constructor
      · exact Or.inr
      · rintro (rfl | halive)
        · exact isAlive_eq_true.2 ⟨n, hget, hlive⟩
        · exact halive
    · have hretire : pool.retire n = pool := by
        unfold Pool.retire
        rw [Function.update_eq_self_iff.2 (by simpa using hlive)]
      simp only [hlive, Bool.false_eq_true, if_false, hretire]
      exact h.isAlive_start
theorem mem_started_ensure {keeps : ℕ → Bool} {entry : K × S}
    (h : entry ∈ (pool.ensure keeps k s).started) : entry ∈ pool.started ∨ entry = (k, s) := by
  unfold ensure at h
  split at h
  · split at h
    · exact Or.inl h
    · simpa using h
  · simpa using h

/-- What has been started stays on record. -/
theorem getElem?_started_ensure {keeps : ℕ → Bool} {entry : K × S}
    (h : pool.started[n]? = some entry) : (pool.ensure keeps k s).started[n]? = some entry := by
  have happend : (pool.started ++ [(k, s)])[n]? = some entry := by
    rw [List.getElem?_append_left (List.getElem?_eq_some_iff.1 h).1]
    exact h
  unfold ensure
  split
  · split
    · exact h
    · exact happend
  · exact happend

/-! ## A pass over what is wanted -/

section Reconcile

variable [DecidableEq S]

/-- Whether a worker was started with a value. -/
def startedWith (pool : Pool K S) (s : S) (n : ℕ) : Bool :=
  pool.started[n]?.map Prod.snd == some s

/-- No worker for a key that is paused, one with the wanted value for another. -/
def reconcileOne (pool : Pool K S) (want : K × Option S) : Pool K S :=
  match want.2 with
  | none => pool.stopWhere fun k ↦ k == want.1
  | some s => pool.ensure (pool.startedWith s) want.1 s

/-- Stop the workers of the keys that are not mentioned, and go through the others. -/
def reconcile (pool : Pool K S) (wants : List (K × Option S)) : Pool K S :=
  wants.foldl reconcileOne (pool.stopWhere fun k ↦ !(wants.map Prod.fst).contains k)

/-- There is a live worker for a key, started with a value. -/
def Serves (pool : Pool K S) (k : K) (s : S) : Prop :=
  ∃ n, pool.table.get k = some n ∧ pool.started[n]? = some (k, s) ∧ pool.live n = true

/-- Where workers do not end by themselves, those in the table are live. -/
structure Settled (pool : Pool K S) : Prop extends pool.WellFormed where
  live_of_get : ∀ k n, pool.table.get k = some n → pool.live n = true

omit [DecidableEq S] in
theorem settled_empty : (empty : Pool K S).Settled where
  toWellFormed := wellFormed_empty
  live_of_get k n h := by simp [empty, Dict.get, Table.lookup, Table.empty] at h

omit [DecidableEq S] in
theorem WellFormed.key_unique (h : pool.WellFormed) {k k' : K}
    (hk : pool.table.get k = some n) (hk' : pool.table.get k' = some n) : k = k' := by
  obtain ⟨s, hs⟩ := h.tabled k n hk
  obtain ⟨s', hs'⟩ := h.tabled k' n hk'
  rw [hs] at hs'
  exact (Prod.mk.inj (Option.some.inj hs')).1

omit [DecidableEq S] in
theorem Settled.stopWhere (h : pool.Settled) (p : K → Bool) : (pool.stopWhere p).Settled where
  toWellFormed := h.toWellFormed.stopWhere p
  live_of_get k n hget := by
    rw [get_stopWhere] at hget
    split at hget
    · exact absurd hget (by simp)
    · rename_i hp
      rw [live_stopWhere, h.live_of_get k n hget, Bool.true_and, Bool.not_eq_true']
      rw [← Bool.not_eq_true, holds_eq_true]
      rintro ⟨k', hget', hp'⟩
      rw [h.key_unique hget' hget] at hp'
      exact hp hp'

omit [DecidableEq S] in
theorem Settled.serves_stopWhere (h : pool.Settled) (p : K → Bool) :
    (pool.stopWhere p).Serves k s ↔ p k = false ∧ pool.Serves k s := by
  unfold Serves
  simp only [get_stopWhere, started_stopWhere]
  constructor
  · rintro ⟨n, hget, hstarted, -⟩
    split at hget
    · exact absurd hget (by simp)
    · rename_i hp
      exact ⟨by simpa using hp, n, hget, hstarted, h.live_of_get k n hget⟩
  · rintro ⟨hp, n, hget, hstarted, -⟩
    have hkept : (pool.stopWhere p).table.get k = some n := by
      rw [get_stopWhere, hp]
      exact hget
    exact ⟨n, by rw [hp]; exact hget, hstarted, (h.stopWhere p).live_of_get k n hkept⟩

omit [DecidableEq S] in
/-- A worker started in the place of one that is live no longer. -/
theorem WellFormed.settled_start (h : pool.WellFormed)
    (hold : ∀ n, pool.table.get k = some n → pool.live n = false)
    (hothers : ∀ k' n, k' ≠ k → pool.table.get k' = some n → pool.live n = true) :
    (pool.start k s).Settled where
  toWellFormed := h.start hold
  live_of_get k' n hget := by
    rw [get_start] at hget
    rw [live_start]
    by_cases heq : k = k'
    · rw [if_pos heq] at hget
      rw [if_pos (Option.some.inj hget).symm]
    · rw [if_neg heq] at hget
      have hlive := hothers k' n (Ne.symm heq) hget
      split
      · rfl
      · exact hlive

omit [DecidableEq S] in
theorem WellFormed.serves_start (h : pool.WellFormed) {k' : K} {s' : S} :
    (pool.start k s).Serves k' s' ↔ if k' = k then s' = s else pool.Serves k' s' := by
  unfold Serves
  simp only [get_start, started_start, live_start]
  by_cases heq : k = k'
  · subst heq
    simp only [if_true]
    constructor
    · rintro ⟨n, hget, hstarted, -⟩
      obtain rfl := Option.some.inj hget
      simp only [List.getElem?_concat_length, Option.some.injEq, Prod.mk.injEq] at hstarted
      exact hstarted.2.symm
    · rintro rfl
      exact ⟨pool.started.length, by simp⟩
  · rw [if_neg (Ne.symm heq)]
    have hget' : ∀ n, (if k = k' then some pool.started.length else pool.table.get k') = some n ↔
        pool.table.get k' = some n := by
      intro n
      rw [if_neg heq]
    constructor
    · rintro ⟨n, hget, hstarted, hlive⟩
      rw [hget'] at hget
      have hlt := h.lt_length hget
      rw [List.getElem?_append_left hlt] at hstarted
      rw [if_neg hlt.ne] at hlive
      exact ⟨n, hget, hstarted, hlive⟩
    · rintro ⟨n, hget, hstarted, hlive⟩
      have hlt := h.lt_length hget
      refine ⟨n, (hget' n).2 hget, ?_, ?_⟩
      · rw [List.getElem?_append_left hlt]
        exact hstarted
      · rw [if_neg hlt.ne]
        exact hlive

omit [DecidableEq K] in
theorem startedWith_eq_true :
    pool.startedWith s n = true ↔ ∃ k, pool.started[n]? = some (k, s) := by
  unfold startedWith
  rw [beq_iff_eq, Option.map_eq_some_iff]
  constructor
  · rintro ⟨entry, hstarted, rfl⟩
    exact ⟨entry.1, hstarted⟩
  · rintro ⟨k, hstarted⟩
    exact ⟨(k, s), hstarted, rfl⟩

/-- One key that is wanted to be served with a value, and is served so already. -/
theorem Serves.ensure_eq (h : pool.Serves k s) : pool.ensure (pool.startedWith s) k s = pool := by
  obtain ⟨n, hget, hstarted, -⟩ := h
  have hkeeps := startedWith_eq_true.2 ⟨k, hstarted⟩
  unfold ensure
  simp only [hget, hkeeps, if_true]

theorem Settled.ensure_spec (h : pool.Settled) (k : K) (s : S) :
    (pool.ensure (pool.startedWith s) k s).Settled ∧
      ∀ k' s', (pool.ensure (pool.startedWith s) k s).Serves k' s' ↔
        if k' = k then s' = s else pool.Serves k' s' := by
  cases hget : pool.table.get k with
  | none =>
    have hstart : pool.ensure (pool.startedWith s) k s = pool.start k s := by
      unfold ensure
      rw [hget]
    rw [hstart]
    refine ⟨h.toWellFormed.settled_start (by simp [hget]) fun k' n _ ↦ h.live_of_get k' n, ?_⟩
    exact fun k' s' ↦ h.toWellFormed.serves_start
  | some n =>
    obtain ⟨old, hstarted⟩ := h.tabled k n hget
    by_cases hsame : old = s
    · subst hsame
      have hserves : pool.Serves k old := ⟨n, hget, hstarted, h.live_of_get k n hget⟩
      rw [hserves.ensure_eq]
      refine ⟨h, fun k' s' ↦ ?_⟩
      by_cases heq : k' = k
      · subst heq
        rw [if_pos rfl]
        constructor
        · rintro ⟨m, hm, hstarted', -⟩
          obtain rfl := Option.some.inj (hget.symm.trans hm)
          exact (Prod.mk.inj (Option.some.inj (hstarted'.symm.trans hstarted))).2
        · rintro rfl
          exact hserves
      · rw [if_neg heq]
    · -- the worker was started with another value: it is stopped, and a new one takes its place
      have hdrops : pool.startedWith s n = false := by
        rw [← Bool.not_eq_true, startedWith_eq_true]
        rintro ⟨k', hstarted'⟩
        exact hsame (Prod.mk.inj (Option.some.inj (hstarted.symm.trans hstarted'))).2
      have hstart : pool.ensure (pool.startedWith s) k s = (pool.retire n).start k s := by
        unfold ensure
        simp only [hget, hdrops, Bool.false_eq_true, if_false]
      have hretired := h.toWellFormed.retire n
      rw [hstart]
      refine ⟨hretired.settled_start ?_ ?_, fun k' s' ↦ ?_⟩
      · intro m hm
        obtain rfl := Option.some.inj (hget.symm.trans hm)
        rw [live_retire, if_pos rfl]
      · intro k' m hne hm
        rw [live_retire, if_neg]
        · exact h.live_of_get k' m hm
        · rintro rfl
          exact hne (h.toWellFormed.key_unique hm hget)
      · rw [hretired.serves_start]
        by_cases heq : k' = k
        · rw [if_pos heq, if_pos heq]
        · rw [if_neg heq, if_neg heq]
          unfold Serves
          simp only [table_retire, started_retire, live_retire]
          refine exists_congr fun m ↦ and_congr_right fun hm ↦ and_congr_right fun _ ↦ ?_
          rw [if_neg]
          rintro rfl
          exact heq (h.toWellFormed.key_unique hm hget)

theorem Settled.reconcileOne_spec (h : pool.Settled) (want : K × Option S) :
    (pool.reconcileOne want).Settled ∧
      ∀ k s, (pool.reconcileOne want).Serves k s ↔
        if k = want.1 then want.2 = some s else pool.Serves k s := by
  unfold reconcileOne
  cases hwant : want.2 with
  | none =>
    refine ⟨h.stopWhere _, fun k s ↦ ?_⟩
    rw [h.serves_stopWhere]
    by_cases heq : k = want.1
    · simp [heq]
    · simp [heq]
  | some wanted =>
    refine ⟨(h.ensure_spec want.1 wanted).1, fun k s ↦ ?_⟩
    rw [(h.ensure_spec want.1 wanted).2]
    simp only [Option.some.injEq, eq_comm]

theorem Settled.foldl_spec (wants : List (K × Option S)) (hnodup : (wants.map Prod.fst).Nodup)
    (h : pool.Settled) :
    (wants.foldl reconcileOne pool).Settled ∧
      ∀ k s, (wants.foldl reconcileOne pool).Serves k s ↔
        if k ∈ wants.map Prod.fst then (k, some s) ∈ wants else pool.Serves k s := by
  induction wants generalizing pool with
  | nil => exact ⟨h, by simp⟩
  | cons want rest ih =>
    rw [List.map_cons, List.nodup_cons] at hnodup
    have hone := h.reconcileOne_spec want
    obtain ⟨hsettled, hserves⟩ := ih hnodup.2 hone.1
    refine ⟨hsettled, fun k s ↦ ?_⟩
    rw [List.foldl_cons, hserves, hone.2]
    by_cases hhead : k = want.1
    · -- the key does not come again
      have hrest : k ∉ rest.map Prod.fst := hhead ▸ hnodup.1
      have hnot : (k, some s) ∉ rest := fun hmem ↦ hrest (List.mem_map_of_mem hmem)
      rw [if_neg hrest, if_pos hhead, if_pos (by simp [hhead]), List.mem_cons]
      constructor
      · intro hwant
        exact Or.inl (Prod.ext hhead hwant.symm)
      · rintro (heq | hmem)
        · rw [← heq]
        · exact absurd hmem hnot
    · by_cases hrest : k ∈ rest.map Prod.fst
      · rw [if_pos hrest, if_pos (by simp only [List.map_cons, List.mem_cons, hrest, or_true]),
          List.mem_cons]
        constructor
        · exact Or.inr
        · rintro (heq | hmem)
          · exact absurd (congrArg Prod.fst heq) hhead
          · exact hmem
      · rw [if_neg hrest, if_neg hhead, if_neg]
        simp only [List.map_cons, List.mem_cons, not_or]
        exact ⟨hhead, hrest⟩

theorem mem_started_foldl {wants : List (K × Option S)} {entry : K × S}
    (h : entry ∈ (wants.foldl reconcileOne pool).started) :
    entry ∈ pool.started ∨ (entry.1, some entry.2) ∈ wants := by
  induction wants generalizing pool with
  | nil => exact Or.inl h
  | cons want rest ih =>
    rcases ih h with hone | hrest
    · unfold reconcileOne at hone
      split at hone
      · exact Or.inl hone
      · rename_i wanted hwanted
        rcases mem_started_ensure hone with hold | rfl
        · exact Or.inl hold
        · right
          rw [← hwanted]
          exact List.mem_cons_self
    · exact Or.inr (List.mem_cons_of_mem want hrest)

/-- During a pass, only keys that are mentioned have a worker. -/
theorem Settled.mem_keys_of_foldl (h : pool.Settled) {keys : List K} {wants : List (K × Option S)}
    (hnodup : (wants.map Prod.fst).Nodup) (hsub : wants.map Prod.fst ⊆ keys)
    (hget : (wants.foldl reconcileOne (pool.stopWhere fun k ↦ !keys.contains k)).table.get k =
      some n) : k ∈ keys := by
  obtain ⟨hsettled, hserves⟩ := Settled.foldl_spec wants hnodup (h.stopWhere fun k ↦ !keys.contains k)
  obtain ⟨s, hstarted⟩ := hsettled.tabled k n hget
  have hserved := (hserves k s).1 ⟨n, hget, hstarted, hsettled.live_of_get k n hget⟩
  by_cases hmem : k ∈ wants.map Prod.fst
  · exact hsub hmem
  · rw [if_neg hmem, h.serves_stopWhere, Bool.not_eq_false', List.contains_iff_mem] at hserved
    exact hserved.1

/-- After a pass, exactly the keys that are wanted are served, each with its value. -/
theorem Settled.reconcile_spec (h : pool.Settled) {wants : List (K × Option S)}
    (hnodup : (wants.map Prod.fst).Nodup) :
    (pool.reconcile wants).Settled ∧
      ∀ k s, (pool.reconcile wants).Serves k s ↔ (k, some s) ∈ wants := by
  have hstopped := h.stopWhere fun k ↦ !(wants.map Prod.fst).contains k
  obtain ⟨hsettled, hserves⟩ := Settled.foldl_spec wants hnodup hstopped
  refine ⟨hsettled, fun k s ↦ ?_⟩
  unfold reconcile
  rw [hserves]
  by_cases hmem : k ∈ wants.map Prod.fst
  · rw [if_pos hmem]
  · rw [if_neg hmem, h.serves_stopWhere]
    have hnot : (k, some s) ∉ wants := fun hwant ↦ hmem (List.mem_map_of_mem hwant)
    simp only [hnot, iff_false, not_and]
    intro hkept
    rw [Bool.not_eq_false', List.contains_iff_mem] at hkept
    exact absurd hkept hmem

omit [DecidableEq S] in
/-- Nothing is stopped when there is no key of the kind. -/
theorem WellFormed.stopWhere_eq_self {p : K → Bool}
    (hnone : ∀ k n, pool.table.get k = some n → p k = false) : pool.stopWhere p = pool := by
  have htable : pool.table.delete (fun entry ↦ p entry.1) = pool.table := by
    apply Table.delete_eq_self
    intro entry hmem
    exact hnone entry.1 entry.2 (Dict.get_of_mem hmem)
  have hlive : (fun n ↦ pool.live n && !pool.holds p n) = pool.live := by
    funext n
    have hholds : pool.holds p n = false := by
      rw [← Bool.not_eq_true, holds_eq_true]
      rintro ⟨k, hget, hp⟩
      rw [hnone k n hget] at hp
      exact Bool.false_ne_true hp
    rw [hholds, Bool.not_false, Bool.and_true]
  unfold Pool.stopWhere
  rw [htable, hlive]

/-- Nothing is done for a key that is served as it is wanted, or not wanted and not served. -/
theorem Settled.reconcileOne_eq_self (h : pool.Settled) {want : K × Option S}
    (hserves : ∀ s, pool.Serves want.1 s ↔ want.2 = some s) : pool.reconcileOne want = pool := by
  unfold reconcileOne
  cases hwant : want.2 with
  | none =>
    apply WellFormed.stopWhere_eq_self
    intro k n hget
    rw [beq_eq_false_iff_ne]
    rintro rfl
    obtain ⟨s, hstarted⟩ := h.tabled _ n hget
    have hnone := (hserves s).1 ⟨n, hget, hstarted, h.live_of_get _ n hget⟩
    rw [hwant] at hnone
    simp at hnone
  | some s => exact ((hserves s).2 hwant).ensure_eq

omit [DecidableEq S] in
/-- No worker is stopped where only keys that are mentioned are served. -/
theorem Settled.stopWhere_eq_self (h : pool.Settled) {keys : List K}
    (hserves : ∀ k s, pool.Serves k s → k ∈ keys) :
    (pool.stopWhere fun k ↦ !keys.contains k) = pool := by
  apply WellFormed.stopWhere_eq_self
  intro k n hget
  obtain ⟨s, hstarted⟩ := h.tabled k n hget
  have hmem : k ∈ keys := hserves k s ⟨n, hget, hstarted, h.live_of_get k n hget⟩
  simp [hmem]

omit [DecidableEq S] in
/-- The live workers are those that serve. -/
theorem WellFormed.serves_iff_live (h : pool.WellFormed) :
    pool.Serves k s ↔ ∃ n, pool.live n = true ∧ pool.started[n]? = some (k, s) := by
  constructor
  · rintro ⟨n, -, hstarted, hlive⟩
    exact ⟨n, hlive, hstarted⟩
  · rintro ⟨n, hlive, hstarted⟩
    obtain ⟨k', hget⟩ := h.owned n hlive
    obtain ⟨s', hstarted'⟩ := h.tabled k' n hget
    have hkey : k' = k := congrArg Prod.fst (Option.some.inj (hstarted'.symm.trans hstarted))
    exact ⟨n, hkey ▸ hget, hstarted, hlive⟩

end Reconcile

end Pool

end Supervision

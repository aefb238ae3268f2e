import DBOSModel.Relational.Table

/-!
# Dictionaries that keep insertion order

A dictionary is a table of pairs whose key is the first component. Assigning a new key appends
it, and assigning a key again leaves it in its place, so the keys after a sequence of assignments
depend only on the keys assigned. A second sequence over the same keys overwrites the first one
completely (`setAll_setAll`).
-/

namespace DBOSModel.Relational

/-- Pairs of a key and a value, in the order in which the keys were first assigned. -/
abbrev Dict (κ ν : Type) := Table (Prod.fst : κ × ν → κ)

namespace Dict

variable {κ ν : Type}

def keys (d : Dict κ ν) : List κ := d.rows.map Prod.fst

variable [DecidableEq κ]

def get (d : Dict κ ν) (k : κ) : Option ν := (d.lookup k).map Prod.snd

/-- `d[k] = v`. -/
def set (d : Dict κ ν) (k : κ) (v : ν) : Dict κ ν := d.upsert (k, v) fun old ↦ (old.1, v)

def setAll (d : Dict κ ν) (entries : List (κ × ν)) : Dict κ ν :=
  entries.foldl (fun d entry ↦ d.set entry.1 entry.2) d

@[simp]
theorem setAll_nil (d : Dict κ ν) : d.setAll [] = d := rfl

@[simp]
theorem setAll_cons (d : Dict κ ν) (entry : κ × ν) (rest : List (κ × ν)) :
    d.setAll (entry :: rest) = (d.set entry.1 entry.2).setAll rest := rfl

theorem get_eq_none {d : Dict κ ν} {k : κ} : d.get k = none ↔ k ∉ d.keys := by
  rw [get, Option.map_eq_none_iff, Table.lookup_eq_none, keys, List.mem_map]
  push Not
  rfl

theorem get_of_mem {d : Dict κ ν} {entry : κ × ν} (h : entry ∈ d.rows) :
    d.get entry.1 = some entry.2 := by
  rw [get, d.lookup_key_of_mem h, Option.map_some]

theorem set_of_insertNew {d d' : Dict κ ν} {k : κ} {v : ν} (h : d.insertNew (k, v) = some d') :
    d.set k v = d' := by
  rw [set, Table.upsert, h, Option.getD_some]

theorem set_of_taken {d : Dict κ ν} {k : κ} {v : ν} (h : d.insertNew (k, v) = none) :
    d.set k v = d.update (fun old ↦ old.1 = k) fun old ↦ (old.1, v) := by
  rw [set, Table.upsert, h, Option.getD_none]

theorem get_set (d : Dict κ ν) (k : κ) (v : ν) (k' : κ) :
    (d.set k v).get k' = if k = k' then some v else d.get k' := by
  cases hinsert : d.insertNew (k, v) with
  | some d' =>
    rw [set_of_insertNew hinsert, get, Table.lookup_insertNew hinsert]
    split
    · rfl
    · rfl
  | none =>
    rw [set_of_taken hinsert, get, Table.lookup_update]
    obtain ⟨old, hold, hkey⟩ := Table.insertNew_eq_none.mp hinsert
    split
    · rename_i hsame
      have hlookup : d.lookup k' = some old := d.lookup_eq_some.mpr ⟨hold, hkey.trans hsame⟩
      simp [hlookup, hkey]
    · rename_i hother
      cases hlookup : d.lookup k' with
      | none => simp [get, hlookup]
      | some entry =>
        have hentry := (d.lookup_eq_some.mp hlookup).2
        have hne : entry.1 ≠ k := fun h ↦ hother (h.symm.trans hentry)
        simp [get, hlookup, hne]

theorem get_delete (d : Dict κ ν) (p : κ → Bool) (k : κ) :
    Dict.get (d.delete fun entry ↦ p entry.1) k = if p k then none else d.get k := by
  split
  · rename_i hp
    rw [get_eq_none, keys, List.mem_map]
    rintro ⟨entry, hmem, rfl⟩
    simpa [hp] using Table.mem_delete.mp hmem
  · rename_i hp
    cases hget : d.get k with
    | none =>
      rw [get_eq_none, keys, List.mem_map] at hget ⊢
      rintro ⟨entry, hmem, hkey⟩
      exact hget ⟨entry, (Table.mem_delete.mp hmem).1, hkey⟩
    | some v =>
      obtain ⟨entry, hlookup, rfl⟩ := Option.map_eq_some_iff.mp hget
      obtain ⟨hmem, rfl⟩ := d.lookup_eq_some.mp hlookup
      exact get_of_mem (Table.mem_delete.mpr ⟨hmem, by simpa using hp⟩)

theorem keys_set (d : Dict κ ν) (k : κ) (v : ν) :
    (d.set k v).keys = if k ∈ d.keys then d.keys else d.keys ++ [k] := by
  cases hinsert : d.insertNew (k, v) with
  | some d' =>
    obtain ⟨hfresh, hrows⟩ := Table.insertNew_eq_some.mp hinsert
    have hnew : k ∉ d.keys := by
      intro hk
      obtain ⟨entry, hentry, hkey⟩ := List.mem_map.mp hk
      exact hfresh entry hentry hkey
    rw [set_of_insertNew hinsert, if_neg hnew, keys, hrows, List.map_append]
    rfl
  | none =>
    obtain ⟨old, hold, hkey⟩ := Table.insertNew_eq_none.mp hinsert
    have htaken : k ∈ d.keys := List.mem_map.mpr ⟨old, hold, hkey⟩
    rw [set_of_taken hinsert, if_pos htaken, keys, keys, Table.update, List.map_map]
    apply List.map_congr_left
    intro entry _
    simp only [Function.comp_apply]
    split <;> rfl

theorem mem_keys_set {d : Dict κ ν} {k k' : κ} {v : ν} :
    k' ∈ (d.set k v).keys ↔ k' ∈ d.keys ∨ k' = k := by
  rw [keys_set]
  split
  · rename_i htaken
    exact ⟨Or.inl, fun h ↦ h.elim id fun hk ↦ hk ▸ htaken⟩
  · rw [List.mem_append, List.mem_singleton]

theorem mem_keys_delete {d : Dict κ ν} {p : κ → Bool} {k : κ} :
    k ∈ Dict.keys (d.delete fun entry ↦ p entry.1) ↔ k ∈ d.keys ∧ p k = false := by
  rw [← not_iff_not, ← get_eq_none, get_delete]
  by_cases hp : p k = true
  · simp [hp]
  · simp only [hp, Bool.false_eq_true, if_false, and_true]
    exact get_eq_none

theorem mem_keys_iff_isSome {d : Dict κ ν} {k : κ} : k ∈ d.keys ↔ (d.get k).isSome = true := by
  rw [← not_iff_not, ← get_eq_none, Bool.not_eq_true, Option.isSome_eq_false_iff,
    Option.isNone_iff_eq_none]

/-- A dictionary is its keys in order together with the value of each. -/
theorem eq_of_keys_of_get {d d' : Dict κ ν} (hkeys : d.keys = d'.keys)
    (hget : ∀ k, d.get k = d'.get k) : d = d' := by
  have hrows (d : Dict κ ν) : d.rows = d.keys.filterMap fun k ↦ (d.get k).map (Prod.mk k) := by
    rw [keys, List.filterMap_map]
    calc
      d.rows = d.rows.filterMap some := List.filterMap_some.symm
      _ = _ := by
        apply List.filterMap_congr
        intro entry hentry
        simp [get_of_mem hentry]
  apply Table.ext
  rw [hrows d, hrows d', hkeys]
  simp only [hget]

/-! ## Sequences of assignments -/

theorem keys_setAll_congr {d d' : Dict κ ν} {entries entries' : List (κ × ν)}
    (hkeys : d.keys = d'.keys) (hentries : entries.map Prod.fst = entries'.map Prod.fst) :
    (d.setAll entries).keys = (d'.setAll entries').keys := by
  induction entries generalizing d d' entries' with
  | nil =>
    rw [List.map_nil, eq_comm, List.map_eq_nil_iff] at hentries
    rw [hentries]
    exact hkeys
  | cons entry rest ih =>
    cases entries' with
    | nil => simp at hentries
    | cons entry' rest' =>
      rw [List.map_cons, List.map_cons, List.cons.injEq] at hentries
      apply ih _ hentries.2
      rw [keys_set, keys_set, hkeys, hentries.1]

theorem mem_keys_setAll {d : Dict κ ν} {entries : List (κ × ν)} {k : κ} :
    k ∈ (d.setAll entries).keys ↔ k ∈ d.keys ∨ k ∈ entries.map Prod.fst := by
  induction entries generalizing d with
  | nil => simp
  | cons entry rest ih =>
    have hset : k ∈ (d.set entry.1 entry.2).keys ↔ k ∈ d.keys ∨ k = entry.1 := by
      rw [keys_set]
      split
      · rename_i htaken
        exact ⟨Or.inl, fun h ↦ h.elim id fun hk ↦ hk ▸ htaken⟩
      · rw [List.mem_append, List.mem_singleton]
    rw [setAll_cons, ih, hset, List.map_cons, List.mem_cons, or_assoc]

theorem keys_setAll_of_subset {d : Dict κ ν} {entries : List (κ × ν)}
    (h : ∀ entry ∈ entries, entry.1 ∈ d.keys) : (d.setAll entries).keys = d.keys := by
  induction entries generalizing d with
  | nil => rfl
  | cons entry rest ih =>
    have hset : (d.set entry.1 entry.2).keys = d.keys := by
      rw [keys_set, if_pos (h entry List.mem_cons_self)]
    rw [setAll_cons, ih, hset]
    intro other hother
    rw [hset]
    exact h other (List.mem_cons_of_mem entry hother)

theorem get_setAll_congr {d d' : Dict κ ν} {entries : List (κ × ν)} {k : κ}
    (h : k ∉ entries.map Prod.fst → d.get k = d'.get k) :
    (d.setAll entries).get k = (d'.setAll entries).get k := by
  induction entries generalizing d d' with
  | nil => exact h List.not_mem_nil
  | cons entry rest ih =>
    rw [setAll_cons, setAll_cons]
    apply ih
    intro hrest
    rw [get_set, get_set]
    split
    · rfl
    · rename_i hne
      apply h
      rw [List.map_cons, List.mem_cons, not_or]
      exact ⟨fun hk ↦ hne hk.symm, hrest⟩

/-- Assigning the same keys again leaves nothing of the first values. -/
theorem setAll_setAll {entries entries' : List (κ × ν)}
    (h : entries.map Prod.fst = entries'.map Prod.fst) :
    (setAll .empty entries).setAll entries' = setAll .empty entries' := by
  have hkeys : (setAll .empty entries).keys = (setAll .empty entries').keys :=
    keys_setAll_congr rfl h
  apply eq_of_keys_of_get
  · rw [keys_setAll_of_subset, hkeys]
    intro entry hentry
    rw [hkeys, mem_keys_setAll]
    exact Or.inr (List.mem_map_of_mem hentry)
  · intro k
    apply get_setAll_congr
    intro hk
    rw [get_eq_none.mpr, get_eq_none.mpr]
    · exact List.not_mem_nil
    · rw [mem_keys_setAll, h, not_or]
      exact ⟨List.not_mem_nil, hk⟩

end Dict

end DBOSModel.Relational

import Mathlib.Data.List.Nodup
import Mathlib.Data.List.Count
import Mathlib.Data.List.Sort
import Mathlib.Data.List.Dedup

/-!
# Keyed tables

A relational table is a list of rows whose primary keys are pairwise distinct, so a row with a
taken key cannot be stored. The statements are the ones SQL has: a guarded `UPDATE`, a guarded
`DELETE`, an `INSERT` that fails on a taken key, and `ON CONFLICT DO NOTHING`. Row order is the
order of insertion; no statement below depends on it except for the order of ties in a sort.

The facts are of three kinds: which rows a statement leaves (`mem_update`, `mem_delete`,
`mem_insertNew`), what a lookup by key finds afterwards, and how a count of rows can change.
-/

namespace DBOSModel.Relational

/-- Rows with pairwise distinct primary keys. -/
structure Table {κ ρ : Type} (key : ρ → κ) where
  rows : List ρ
  nodup : (rows.map key).Nodup

namespace Table

variable {κ ρ : Type} {key : ρ → κ}

@[ext]
theorem ext {left right : Table key} (h : left.rows = right.rows) : left = right := by
  cases left
  cases right
  subst h
  rfl

/-- The key determines the row. -/
theorem eq_of_key (t : Table key) {r s : ρ} (hr : r ∈ t.rows) (hs : s ∈ t.rows)
    (h : key r = key s) : r = s :=
  List.inj_on_of_nodup_map t.nodup hr hs h

def empty : Table key where
  rows := []
  nodup := List.nodup_nil

@[simp]
theorem rows_empty : (empty : Table key).rows = [] := rfl

/-! ## Statements -/

/-- `SELECT COUNT(*) ... WHERE p`. -/
def count (t : Table key) (p : ρ → Bool) : ℕ := t.rows.countP p

/-- `UPDATE ... SET f WHERE p`, for an assignment that leaves the key alone. -/
def update (t : Table key) (p : ρ → Bool) (f : ρ → ρ)
    (hkey : ∀ r, key (f r) = key r := by intro _; rfl) : Table key where
  rows := t.rows.map fun r ↦ if p r then f r else r
  nodup := by
    have hkeys : (t.rows.map fun r ↦ if p r then f r else r).map key = t.rows.map key := by
      rw [List.map_map]
      apply List.map_congr_left
      intro r _
      simp only [Function.comp]
      split
      · exact hkey r
      · rfl
    rw [hkeys]
    exact t.nodup

/-- `DELETE ... WHERE p`. -/
def delete (t : Table key) (p : ρ → Bool) : Table key where
  rows := t.rows.filter fun r ↦ !p r
  nodup := (List.filter_sublist.map key).nodup t.nodup

variable [DecidableEq κ]

/-- The row with a given key. -/
def lookup (t : Table key) (k : κ) : Option ρ := t.rows.find? fun r ↦ key r = k

theorem lookup_eq_some (t : Table key) {k : κ} {r : ρ} :
    t.lookup k = some r ↔ r ∈ t.rows ∧ key r = k := by
  constructor
  · intro h
    exact ⟨List.mem_of_find?_eq_some h, by simpa using List.find?_some h⟩
  · rintro ⟨hr, rfl⟩
    cases hfind : t.lookup (key r) with
    | none =>
      have hall := List.find?_eq_none.mp hfind r hr
      simp at hall
    | some s =>
      have hs := List.mem_of_find?_eq_some hfind
      have hkey : key s = key r := by simpa using List.find?_some hfind
      rw [t.eq_of_key hs hr hkey]

theorem lookup_eq_none (t : Table key) {k : κ} :
    t.lookup k = none ↔ ∀ r ∈ t.rows, key r ≠ k := by
  simp [lookup, List.find?_eq_none]

theorem lookup_key_of_mem (t : Table key) {r : ρ} (hr : r ∈ t.rows) :
    t.lookup (key r) = some r :=
  t.lookup_eq_some.mpr ⟨hr, rfl⟩

/-- `INSERT`: fails with a unique violation when the key is taken. -/
def insertNew (t : Table key) (r : ρ) : Option (Table key) :=
  if h : key r ∈ t.rows.map key then none
  else some
    { rows := t.rows ++ [r]
      nodup := by
        rw [List.map_append, List.nodup_append]
        refine ⟨t.nodup, by simp, ?_⟩
        intro a ha b hb
        simp only [List.map_cons, List.map_nil, List.mem_singleton] at hb
        subst hb
        rintro rfl
        exact h ha }

/-- `INSERT ... ON CONFLICT DO NOTHING`. -/
def insertIgnore (t : Table key) (r : ρ) : Table key := (t.insertNew r).getD t

/-- `INSERT ... ON CONFLICT DO UPDATE SET f`. -/
def upsert (t : Table key) (r : ρ) (f : ρ → ρ)
    (hkey : ∀ r, key (f r) = key r := by intro _; rfl) : Table key :=
  (t.insertNew r).getD (t.update (fun s ↦ key s = key r) f hkey)

/-- A multi-row `INSERT`: one taken key fails the whole statement. -/
def insertAll (t : Table key) : List ρ → Option (Table key)
  | [] => some t
  | r :: rest => (t.insertNew r).bind fun t' ↦ t'.insertAll rest

/-! ## Rows after a statement -/

omit [DecidableEq κ] in
/-- The rows after an update, which do not depend on the proof that the key is kept. -/
theorem mem_update {t : Table key} {p : ρ → Bool} {f : ρ → ρ} {r' : ρ} :
    (r' ∈ t.rows.map fun r ↦ if p r then f r else r) ↔
      ∃ r ∈ t.rows, r' = if p r then f r else r := by
  rw [List.mem_map]
  exact exists_congr fun r ↦ and_congr_right fun _ ↦ eq_comm

omit [DecidableEq κ] in
/-- A row is still there after an update, under its key. -/
theorem exists_mem_update {t : Table key} {p : ρ → Bool} {f : ρ → ρ} {r : ρ} (hr : r ∈ t.rows)
    (hkey : ∀ r, key (f r) = key r := by intro _; rfl) :
    ∃ r' ∈ (t.update p f hkey).rows, key r' = key r := by
  refine ⟨_, mem_update.mpr ⟨r, hr, rfl⟩, ?_⟩
  split
  · exact hkey r
  · rfl

omit [DecidableEq κ] in
/-- The row that an update leaves under the key of a row. -/
theorem eq_of_mem_update {t : Table key} {p : ρ → Bool} {f : ρ → ρ} {r r' : ρ}
    (hr : r ∈ t.rows) (hr' : r' ∈ t.rows.map fun r ↦ if p r then f r else r) (h : key r' = key r)
    (hkey : ∀ r, key (f r) = key r := by intro _; rfl) : r' = if p r then f r else r := by
  obtain ⟨source, hsource, rfl⟩ := mem_update.mp hr'
  have hsame : key source = key r := by
    rw [← h]
    split
    · exact (hkey source).symm
    · rfl
  rw [t.eq_of_key hsource hr hsame]

omit [DecidableEq κ] in
theorem mem_delete {t : Table key} {p : ρ → Bool} {r : ρ} :
    r ∈ (t.delete p).rows ↔ r ∈ t.rows ∧ p r = false := by
  simp [delete]

omit [DecidableEq κ] in
theorem delete_eq_self (t : Table key) {p : ρ → Bool} (h : ∀ r ∈ t.rows, p r = false) :
    t.delete p = t := by
  apply Table.ext
  rw [delete, List.filter_eq_self]
  intro r hr
  rw [h r hr, Bool.not_false]

omit [DecidableEq κ] in
theorem delete_delete (t : Table key) {p q both : ρ → Bool}
    (hboth : ∀ r, both r = (p r || q r)) : (t.delete p).delete q = t.delete both := by
  apply Table.ext
  simp only [delete, List.filter_filter]
  apply List.filter_congr
  intro r _
  rw [hboth, Bool.not_or, Bool.and_comm]

theorem insertNew_eq_none {t : Table key} {r : ρ} :
    t.insertNew r = none ↔ ∃ s ∈ t.rows, key s = key r := by
  unfold insertNew
  split
  · rename_i h
    simpa [List.mem_map] using h
  · rename_i h
    simpa [List.mem_map] using h

theorem insertNew_eq_some {t t' : Table key} {r : ρ} :
    t.insertNew r = some t' ↔ (∀ s ∈ t.rows, key s ≠ key r) ∧ t'.rows = t.rows ++ [r] := by
  unfold insertNew
  split
  · rename_i h
    rw [List.mem_map] at h
    obtain ⟨s, hs, hkey⟩ := h
    constructor
    · intro habs
      cases habs
    · rintro ⟨hfresh, -⟩
      exact absurd hkey (hfresh s hs)
  · rename_i h
    constructor
    · intro heq
      cases heq
      refine ⟨fun s hs hkey ↦ h ?_, rfl⟩
      rw [← hkey]
      exact List.mem_map_of_mem hs
    · rintro ⟨-, hrows⟩
      congr 1
      exact Table.ext hrows.symm

theorem mem_insertNew {t t' : Table key} {r s : ρ} (h : t.insertNew r = some t') :
    s ∈ t'.rows ↔ s ∈ t.rows ∨ s = r := by
  rw [(insertNew_eq_some.mp h).2]
  simp

/-- A key is taken once it was inserted. -/
theorem insertNew_again {t t' : Table key} {r : ρ} (h : t.insertNew r = some t') :
    t'.insertNew r = none :=
  insertNew_eq_none.mpr ⟨r, (mem_insertNew h).mpr (Or.inr rfl), rfl⟩

/-- The rows after an upsert whose assignment makes the old row the new one. -/
theorem mem_upsert {t : Table key} {r s : ρ} {f : ρ → ρ} (hkey : ∀ r, key (f r) = key r)
    (hf : ∀ old, key old = key r → f old = r) :
    s ∈ (t.upsert r f hkey).rows ↔ (s ∈ t.rows ∧ key s ≠ key r) ∨ s = r := by
  unfold upsert
  cases hinsert : t.insertNew r with
  | some t' =>
    rw [Option.getD_some, mem_insertNew hinsert]
    have hfresh := (insertNew_eq_some.mp hinsert).1
    constructor
    · rintro (hs | hs)
      · exact Or.inl ⟨hs, hfresh s hs⟩
      · exact Or.inr hs
    · rintro (hs | hs)
      · exact Or.inl hs.1
      · exact Or.inr hs
  | none =>
    obtain ⟨old, hold, holdKey⟩ := insertNew_eq_none.mp hinsert
    rw [Option.getD_none]
    constructor
    · intro hs
      obtain ⟨source, hsource, rfl⟩ := mem_update.mp hs
      by_cases hsame : key source = key r
      · right
        simp only [hsame, decide_true, if_true]
        exact hf source hsame
      · left
        simp only [hsame, decide_false, Bool.false_eq_true, if_false]
        exact ⟨hsource, hsame⟩
    · rintro (⟨hs, hne⟩ | rfl)
      · exact mem_update.mpr ⟨s, hs, by simp [hne]⟩
      · exact mem_update.mpr ⟨old, hold, by simp [holdKey, hf old holdKey]⟩

theorem insertAll_eq_some {t t' : Table key} {new : List ρ} (h : t.insertAll new = some t') :
    t'.rows = t.rows ++ new ∧ ∀ r ∈ new, ∀ s ∈ t.rows, key s ≠ key r := by
  induction new generalizing t with
  | nil =>
    cases h
    simp
  | cons first rest ih =>
    simp only [insertAll, Option.bind_eq_some_iff] at h
    obtain ⟨middle, hfirst, hrest⟩ := h
    obtain ⟨hfresh, hmiddle⟩ := insertNew_eq_some.mp hfirst
    obtain ⟨hrows, hall⟩ := ih hrest
    refine ⟨by simp [hrows, hmiddle], ?_⟩
    intro r hr s hs
    rcases List.mem_cons.mp hr with rfl | hr
    · exact hfresh s hs
    · exact hall r hr s (by simp [hmiddle, hs])

/-- An insert of a fresh key always succeeds. -/
theorem exists_insertNew (t : Table key) {r : ρ} (h : t.lookup (key r) = none) :
    ∃ t', t.insertNew r = some t' := by
  cases hnew : t.insertNew r with
  | none =>
    obtain ⟨s, hs, hkey⟩ := insertNew_eq_none.mp hnew
    exact absurd hkey (t.lookup_eq_none.mp h s hs)
  | some t' => exact ⟨t', rfl⟩

/-- A multi-row insert of distinct fresh keys succeeds. -/
theorem exists_insertAll (t : Table key) {new : List ρ} (hnodup : (new.map key).Nodup)
    (hfresh : ∀ r ∈ new, ∀ s ∈ t.rows, key s ≠ key r) : ∃ t', t.insertAll new = some t' := by
  induction new generalizing t with
  | nil => exact ⟨t, rfl⟩
  | cons first rest ih =>
    have hfirst : t.lookup (key first) = none :=
      t.lookup_eq_none.mpr (hfresh first List.mem_cons_self)
    obtain ⟨middle, hmiddle⟩ := t.exists_insertNew hfirst
    obtain ⟨hnotin, hrest⟩ := List.nodup_cons.mp hnodup
    have hfreshRest : ∀ r ∈ rest, ∀ s ∈ middle.rows, key s ≠ key r := by
      intro r hr s hs
      rcases (mem_insertNew hmiddle).mp hs with hs | rfl
      · exact hfresh r (List.mem_cons_of_mem first hr) s hs
      · intro hkey
        apply hnotin
        rw [hkey]
        exact List.mem_map_of_mem hr
    obtain ⟨last, hlast⟩ := ih middle hrest hfreshRest
    exact ⟨last, by simp only [insertAll, hmiddle, Option.bind_some, hlast]⟩

/-! ## Lookups after a statement -/

theorem lookup_update (t : Table key) (p : ρ → Bool) (f : ρ → ρ)
    (hkey : ∀ r, key (f r) = key r) (k : κ) :
    (t.update p f hkey).lookup k = (t.lookup k).map fun r ↦ if p r then f r else r := by
  cases hold : t.lookup k with
  | none =>
    rw [Option.map_none, lookup_eq_none]
    intro r' hr'
    obtain ⟨r, hr, rfl⟩ := mem_update.mp hr'
    have hne := t.lookup_eq_none.mp hold r hr
    split
    · rw [hkey]
      exact hne
    · exact hne
  | some r =>
    obtain ⟨hr, rfl⟩ := t.lookup_eq_some.mp hold
    rw [Option.map_some, lookup_eq_some]
    refine ⟨mem_update.mpr ⟨r, hr, rfl⟩, ?_⟩
    split
    · exact hkey r
    · rfl

theorem lookup_insertNew {t t' : Table key} {r : ρ} (h : t.insertNew r = some t') (k : κ) :
    t'.lookup k = if key r = k then some r else t.lookup k := by
  have hmem (s : ρ) := mem_insertNew (s := s) h
  have hfresh := (insertNew_eq_some.mp h).1
  split
  · rename_i hk
    exact t'.lookup_eq_some.mpr ⟨(hmem r).mpr (Or.inr rfl), hk⟩
  · rename_i hk
    cases hold : t.lookup k with
    | none =>
      rw [lookup_eq_none]
      intro s hs
      rcases (hmem s).mp hs with hs | rfl
      · exact t.lookup_eq_none.mp hold s hs
      · exact hk
    | some s =>
      obtain ⟨hs, hsk⟩ := t.lookup_eq_some.mp hold
      exact t'.lookup_eq_some.mpr ⟨(hmem s).mpr (Or.inl hs), hsk⟩

theorem lookup_insertNew_self {t t' : Table key} {r : ρ} (h : t.insertNew r = some t') :
    t'.lookup (key r) = some r := by
  rw [lookup_insertNew h]
  exact if_pos rfl

/-- An insert does not change the rows that are there. -/
theorem lookup_insertNew_of_some {t t' : Table key} {r s : ρ} {k : κ}
    (h : t.insertNew r = some t') (hs : t.lookup k = some s) : t'.lookup k = some s := by
  have hfresh := (insertNew_eq_some.mp h).1
  obtain ⟨hmem, hk⟩ := t.lookup_eq_some.mp hs
  have hne : key r ≠ k := fun hr ↦ hfresh s hmem (hk.trans hr.symm)
  rw [lookup_insertNew h, if_neg hne]
  exact hs

/-! ## Counts -/

omit [DecidableEq κ] in
theorem count_eq_length_filter (t : Table key) (p : ρ → Bool) :
    t.count p = (t.rows.filter p).length :=
  List.countP_eq_length_filter

omit [DecidableEq κ] in
/-- Keys of the counted rows, without repetitions. -/
theorem nodup_keys_filter (t : Table key) (p : ρ → Bool) : ((t.rows.filter p).map key).Nodup :=
  (List.filter_sublist.map key).nodup t.nodup

omit [DecidableEq κ] in
/-- If every row counted on the left shares its key with a row counted on the right, or has one
of the keys in `extra`, the left count is bounded by the right count and the length of `extra`. -/
theorem count_le_add_of_keys (left right : Table key) (p q : ρ → Bool) (extra : List κ)
    (h : ∀ r ∈ left.rows, p r → (∃ s ∈ right.rows, key s = key r ∧ q s) ∨ key r ∈ extra) :
    left.count p ≤ right.count q + extra.length := by
  suffices hlength : ((left.rows.filter p).map key).length ≤
      ((right.rows.filter q).map key ++ extra).length by
    simpa only [count_eq_length_filter, List.length_append, List.length_map] using hlength
  apply List.Subperm.length_le
  apply List.subperm_of_subset (left.nodup_keys_filter p)
  intro k hk
  obtain ⟨r, hr, rfl⟩ := List.mem_map.mp hk
  obtain ⟨hmem, hp⟩ := List.mem_filter.mp hr
  rw [List.mem_append]
  rcases h r hmem hp with ⟨s, hs, hkey, hq⟩ | hextra
  · left
    rw [← hkey]
    exact List.mem_map_of_mem (List.mem_filter.mpr ⟨hs, hq⟩)
  · exact Or.inr hextra

omit [DecidableEq κ] in
/-- Distinct keys of counted rows are at most as many as the count. -/
theorem length_le_count (t : Table key) (p : ρ → Bool) {keys : List κ} (hnodup : keys.Nodup)
    (h : ∀ k ∈ keys, ∃ r ∈ t.rows, key r = k ∧ p r) : keys.length ≤ t.count p := by
  have hsubset : keys ⊆ (t.rows.filter p).map key := by
    intro k hk
    obtain ⟨r, hr, rfl, hp⟩ := h k hk
    exact List.mem_map_of_mem (List.mem_filter.mpr ⟨hr, hp⟩)
  calc
    keys.length ≤ ((t.rows.filter p).map key).length :=
      (List.subperm_of_subset hnodup hsubset).length_le
    _ = t.count p := by rw [List.length_map, count_eq_length_filter]

omit [DecidableEq κ] in
theorem count_le_of_keys (left right : Table key) (p q : ρ → Bool)
    (h : ∀ r ∈ left.rows, p r → ∃ s ∈ right.rows, key s = key r ∧ q s) :
    left.count p ≤ right.count q := by
  have hle := count_le_add_of_keys left right p q []
    (fun r hr hp ↦ Or.inl (h r hr hp))
  simpa using hle

omit [DecidableEq κ] in
/-- A row counted on the right under a key of its own makes the bound strict. -/
theorem count_lt_of_keys (left right : Table key) (p q : ρ → Bool)
    (h : ∀ r ∈ left.rows, p r → ∃ s ∈ right.rows, key s = key r ∧ q s) {s : ρ}
    (hs : s ∈ right.rows) (hq : q s) (hnew : ∀ r ∈ left.rows, p r → key r ≠ key s) :
    left.count p < right.count q := by
  have hfresh : key s ∉ (left.rows.filter p).map key := by
    intro hmem
    obtain ⟨r, hr, hkey⟩ := List.mem_map.mp hmem
    exact hnew r (List.mem_filter.mp hr).1 (List.mem_filter.mp hr).2 hkey
  have hnodup : (key s :: (left.rows.filter p).map key).Nodup :=
    List.nodup_cons.mpr ⟨hfresh, left.nodup_keys_filter p⟩
  have hle := right.length_le_count q hnodup (by
    intro k hk
    rcases List.mem_cons.mp hk with rfl | hk
    · exact ⟨s, hs, rfl, hq⟩
    · obtain ⟨r, hr, rfl⟩ := List.mem_map.mp hk
      exact h r (List.mem_filter.mp hr).1 (List.mem_filter.mp hr).2)
  rw [List.length_cons, List.length_map, ← count_eq_length_filter] at hle
  omega

/-! ## Rows copied by owner -/

section Owned

variable {ι : Type} [DecidableEq ι] {source target : Table key} {owner : ρ → ι} {ids : List ι}

omit [DecidableEq κ] in
/-- Copying the rows of distinct owners to a table without them takes no key twice. -/
theorem nodup_keys_append_owned (howner : ∀ r s, key r = key s → owner r = owner s)
    (hids : ids.Nodup) (hfresh : ∀ r ∈ target.rows, owner r ∉ ids) :
    ((target.rows ++ ids.flatMap fun i ↦ source.rows.filter fun r ↦ owner r = i).map key).Nodup := by
  rw [List.map_append, List.map_flatMap, List.nodup_append, List.nodup_flatMap]
  refine ⟨target.nodup, ⟨fun i _ ↦ source.nodup_keys_filter _, ?_⟩, ?_⟩
  · apply hids.imp
    intro i j hne k hi hj
    obtain ⟨r, hr, rfl⟩ := List.mem_map.mp hi
    obtain ⟨s, hs, hkey⟩ := List.mem_map.mp hj
    have hri : owner r = i := by simpa using (List.mem_filter.mp hr).2
    have hsj : owner s = j := by simpa using (List.mem_filter.mp hs).2
    exact hne (by rw [← hri, ← hsj, howner s r hkey])
  · intro k hk k' hk' hkey
    obtain ⟨r, hr, rfl⟩ := List.mem_map.mp hk
    obtain ⟨i, hi, hcopied⟩ := List.mem_flatMap.mp hk'
    obtain ⟨s, hs, rfl⟩ := List.mem_map.mp hcopied
    have hsi : owner s = i := by simpa using (List.mem_filter.mp hs).2
    exact hfresh r hr (by rwa [howner r s hkey, hsi])

omit [DecidableEq κ] in
/-- An owner has the same rows in the target as in the source. -/
theorem mem_append_owned (hfresh : ∀ r ∈ target.rows, owner r ∉ ids) {i : ι} (hi : i ∈ ids)
    {r : ρ} :
    r ∈ target.rows ++ (ids.flatMap fun i ↦ source.rows.filter fun r ↦ owner r = i) ∧ owner r = i ↔
      r ∈ source.rows ∧ owner r = i := by
  rw [List.mem_append, List.mem_flatMap]
  constructor
  · rintro ⟨hold | ⟨j, -, hcopied⟩, howner⟩
    · exact absurd (howner ▸ hi) (hfresh r hold)
    · exact ⟨(List.mem_filter.mp hcopied).1, howner⟩
  · rintro ⟨hr, howner⟩
    exact ⟨Or.inr ⟨i, hi, List.mem_filter.mpr ⟨hr, by simpa using howner⟩⟩, howner⟩

end Owned

end Table

/-- A weaker predicate that holds of one more element counts more. -/
theorem countP_lt_of_imp {α : Type} {l : List α} {p q : α → Bool} (h : ∀ a ∈ l, p a → q a) {a : α}
    (ha : a ∈ l) (hq : q a) (hp : p a = false) : l.countP p < l.countP q := by
  induction l with
  | nil => exact absurd ha List.not_mem_nil
  | cons head tail ih =>
    have htail : ∀ b ∈ tail, p b → q b := fun b hb ↦ h b (List.mem_cons_of_mem _ hb)
    rw [List.countP_cons, List.countP_cons]
    rcases List.mem_cons.mp ha with rfl | hmem
    · have hle := List.countP_mono_left htail
      simp only [hp, hq, Bool.false_eq_true, if_true, if_false]
      omega
    · have hlt := ih htail hmem
      have hhead := h head List.mem_cons_self
      split <;> split <;> first | omega | simp_all

/-! ## Ordered selection -/

/-- In a descending list the entry at an offset lies above a bound exactly if more entries than
the offset do. -/
theorem exists_getElem?_lt_iff {α : Type} [LinearOrder α] {values : List α}
    (hsorted : values.Pairwise (· ≥ ·)) (bound : α) (offset : ℕ) :
    (∃ x, values[offset]? = some x ∧ bound < x) ↔ offset < values.countP (bound < ·) := by
  induction values generalizing offset with
  | nil => simp
  | cons first rest ih =>
    obtain ⟨hfirst, hrest⟩ := List.pairwise_cons.mp hsorted
    by_cases hbound : bound < first
    · cases offset with
      | zero => simp [hbound]
      | succ offset =>
        rw [List.countP_cons_of_pos (by simpa using hbound), List.getElem?_cons_succ, ih hrest]
        omega
    · have hnone : ∀ x ∈ first :: rest, ¬bound < x := by
        intro x hx
        rcases List.mem_cons.mp hx with rfl | hx
        · exact hbound
        · exact fun hlt ↦ hbound (hlt.trans_le (hfirst x hx))
      have hcount : (first :: rest).countP (bound < ·) = 0 := by
        simpa [List.countP_eq_zero] using hnone
      rw [hcount]
      constructor
      · rintro ⟨x, hx, hlt⟩
        exact absurd hlt (hnone x (List.mem_of_getElem? hx))
      · intro hlt
        omega

end DBOSModel.Relational

import DBOSModel.Workers.FrontmatterInline

/-!
# Containers of the parsed front matter

The parser changes the containers on its stack in place, by their keys from the root. The changes at a
path compose, and the assignments of distinct keys to an empty dict make up its entries.
-/

namespace DBOSModel.Frontmatter

theorem find?_map_entry (entries : List (Str × Value)) (key : Str) (f : Value → Value) :
    ((entries.map fun entry ↦ if entry.1 = key then (key, f entry.2) else entry).find?
        fun entry ↦ entry.1 = key) =
      (entries.find? fun entry ↦ entry.1 = key).map fun entry ↦ (key, f entry.2) := by
  induction entries with
  | nil => rfl
  | cons entry rest ih =>
    by_cases hkey : entry.1 = key
    · simp [hkey]
    · simpa [hkey] using ih

theorem get_modify (f : Value → Value) (p : Path) (v : Value) :
    (v.modify f p).get p = (v.get p).map f := by
  induction p generalizing v with
  | nil => rfl
  | cons key p ih =>
    cases v with
    | dict entries =>
      rw [Value.modify, Value.get, Value.get, find?_map_entry]
      cases entries.find? fun entry ↦ entry.1 = key with
      | none => rfl
      | some entry => exact ih entry.2
    | _ => rfl

theorem modify_modify (f g : Value → Value) (p : Path) (v : Value) :
    (v.modify f p).modify g p = v.modify (fun w ↦ g (f w)) p := by
  induction p generalizing v with
  | nil => rfl
  | cons key p ih =>
    cases v with
    | dict entries =>
      rw [Value.modify, Value.modify, Value.modify, List.map_map]
      congr 1
      apply List.map_congr_left
      intro entry _
      by_cases hkey : entry.1 = key
      · simp [hkey, ih]
      · simp [hkey]
    | _ => rfl

theorem modify_id (p : Path) (v : Value) : v.modify (fun w ↦ w) p = v := by
  induction p generalizing v with
  | nil => rfl
  | cons key p ih =>
    cases v with
    | dict entries =>
      rw [Value.modify]
      congr 1
      calc
        (entries.map fun entry ↦
            if entry.1 = key then (key, Value.modify (fun w ↦ w) p entry.2) else entry) =
            entries.map id := by
          apply List.map_congr_left
          intro entry _
          by_cases hkey : entry.1 = key
          · simp [ih, ← hkey]
          · simp [hkey]
        _ = entries := List.map_id entries
    | _ => rfl

/-- A change of a container is a change of the container that holds it. -/
theorem modify_append (f : Value → Value) (p q : Path) (v : Value) :
    v.modify f (p ++ q) = v.modify (fun w ↦ w.modify f q) p := by
  induction p generalizing v with
  | nil => rfl
  | cons key p ih =>
    cases v with
    | dict entries =>
      rw [List.cons_append, Value.modify, Value.modify]
      simp only [ih]
    | _ => rfl

theorem get_append (p q : Path) (v : Value) : v.get (p ++ q) = (v.get p).bind (Value.get q) := by
  induction p generalizing v with
  | nil => rfl
  | cons key p ih =>
    cases v with
    | dict entries =>
      rw [List.cons_append, Value.get, Value.get]
      cases entries.find? fun entry ↦ entry.1 = key with
      | none => rfl
      | some entry => exact ih entry.2
    | _ => rfl

theorem find?_setItem (d : List (Str × Value)) (key : Str) (value : Value) :
    (setItem d key value).find? (fun entry ↦ entry.1 = key) = some (key, value) := by
  unfold setItem
  split
  · rename_i hany
    rw [find?_map_entry d key fun _ ↦ value]
    obtain ⟨entry, hentry, hkey⟩ := List.any_eq_true.mp hany
    cases hfind : d.find? fun entry ↦ entry.1 = key with
    | none => exact absurd hkey (List.find?_eq_none.mp hfind entry hentry)
    | some entry => rfl
  · rename_i hany
    rw [List.find?_append, List.find?_eq_none.mpr]
    · simp
    · intro entry hentry hkey
      exact hany (List.any_eq_true.mpr ⟨entry, hentry, hkey⟩)

/-- To change a new item is to assign it changed. -/
theorem modify_setItem (f : Value → Value) (key : Str) (value v : Value) :
    (Value.setItem key value v).modify f [key] = Value.setItem key (f value) v := by
  cases v with
  | dict d =>
    rw [Value.setItem, Value.setItem, Value.modify]
    congr 1
    unfold setItem
    split
    · rw [List.map_map]
      apply List.map_congr_left
      intro entry _
      by_cases hkey : entry.1 = key
      · simp [hkey, Value.modify]
      · simp [hkey]
    · rename_i hany
      have hsame : (d.map fun entry ↦
          if entry.1 = key then (key, Value.modify f [] entry.2) else entry) = d.map id := by
        apply List.map_congr_left
        intro entry hentry
        rw [if_neg]
        · rfl
        · intro hkey
          exact hany (List.any_eq_true.mpr ⟨entry, hentry, by simpa using hkey⟩)
      rw [List.map_append, hsame, List.map_id]
      simp [Value.modify]
  | _ => rfl

theorem exists_dict {v : Option Value} (h : v.any Value.isDict = true) : ∃ d, v = some (.dict d) := by
  cases v with
  | none => cases h
  | some v =>
    cases v with
    | dict d => exact ⟨d, rfl⟩
    | _ => cases h

/-- The assignment of an item leaves a dict at the end of the path. -/
theorem any_isDict_modify {root : Value} {cur : Path} (h : (root.get cur).any Value.isDict = true)
    (key : Str) (value : Value) :
    ((root.modify (Value.setItem key value) cur).get cur).any Value.isDict = true := by
  obtain ⟨d, hget⟩ := exists_dict h
  rw [get_modify, hget]
  rfl

theorem get_setItem {root : Value} {cur : Path} (h : (root.get cur).any Value.isDict = true)
    (key : Str) (value : Value) :
    (root.modify (Value.setItem key value) cur).get (cur ++ [key]) = some value := by
  obtain ⟨d, hget⟩ := exists_dict h
  rw [get_append, get_modify, hget, Option.map_some, Option.bind_some, Value.setItem, Value.get,
    find?_setItem]
  rfl

/-- `cur[key] = value` for each of the entries. -/
def assign : List (Str × Value) → Value → Value
  | [], v => v
  | (key, value) :: rest, v => assign rest (Value.setItem key value v)

theorem assign_dict {entries d : List (Str × Value)} (hnodup : (entries.map Prod.fst).Nodup)
    (hdisjoint : ∀ k ∈ d.map Prod.fst, k ∉ entries.map Prod.fst) :
    assign entries (.dict d) = .dict (d ++ entries) := by
  induction entries generalizing d with
  | nil => rw [assign, List.append_nil]
  | cons entry rest ih =>
    obtain ⟨key, value⟩ := entry
    rw [List.map_cons, List.nodup_cons] at hnodup
    have hkey : key ∉ d.map Prod.fst := fun hmem ↦ hdisjoint key hmem (by simp)
    rw [assign, Value.setItem, setItem_of_notMem hkey, ih hnodup.2]
    · rw [List.append_assoc, List.singleton_append]
    · intro k hk
      rw [List.map_append, List.mem_append] at hk
      rcases hk with hk | hk
      · exact fun hmem ↦ hdisjoint k hk (List.mem_cons_of_mem _ hmem)
      · rw [List.mem_singleton.mp hk]
        exact hnodup.1

end DBOSModel.Frontmatter

import DBOSModel.Workers.FrontmatterLines
import DBOSModel.Workers.FrontmatterParsed

/-!
# The layout of a dump

The parser reads the lines that `dump` writes for a map entry by entry: they assign each key what
`blockBack` says, if the keys and the strings of the map keep to their lines.
-/

namespace DBOSModel.Frontmatter

open Text DBOSModel.Core

/-! ## The lines of a dump -/

mutual

/-- The lines that `dump` writes. -/
def layout : List (Str × Value) → ℕ → List Str
  | [], _ => []
  | (k, v) :: rest, n => layoutEntry k v n ++ layout rest n

def layoutEntry (k : Str) (v : Value) (n : ℕ) : List Str :=
  match v with
  | .dict entries =>
    if isNested entries then (pad n ++ (k ++ [':'])) :: layout entries (n + 2)
    else [pad n ++ (k ++ ':' :: ' ' :: dumpInline v)]
  | .str s =>
    if '\n' ∈ s then
      (pad n ++ (k ++ ':' :: " |".toList)) ::
        (s.splitOn '\n').map fun ln ↦ pad n ++ "  ".toList ++ ln
    else [pad n ++ (k ++ ':' :: ' ' :: dumpInline v)]
  | _ => [pad n ++ (k ++ ':' :: ' ' :: dumpInline v)]

end

/-! ## What is required of a map -/

/-- A requirement on the keys and on the strings of a map, by where they stand. -/
structure Requirement where
  key : Str → Prop
  /-- The key of a line of its own. -/
  blockKey : Str → Prop
  /-- A string inside of a list or of an inline dict. -/
  text : Str → Prop
  /-- A string after a key on a line of its own. -/
  blockText : Str → Prop

mutual

def Value.Meets (r : Requirement) : Value → Prop
  | .dict entries => if isNested entries then EntriesMeet r entries else EachEntry r.text r.key entries
  | .str s => r.blockText s
  | v => v.Each r.text r.key

def EntriesMeet (r : Requirement) : List (Str × Value) → Prop
  | [] => True
  | (k, v) :: rest => r.key k ∧ r.blockKey k ∧ v.Meets r ∧ EntriesMeet r rest

end

/-- The parser finds the entries and the block scalars in the lines where the writer put them. -/
def keepsLines : Requirement where
  key := Trimmed pyIsSpace
  blockKey k := k.take 2 ≠ "- ".toList
  text := OneLine pyIsLineBreak
  blockText := OnlyNewlines

mutual

/-- What the parser reads from the lines of an entry. -/
def Value.blockBack : Value → Value
  | .dict entries => .dict (if isNested entries then blockBackEntries entries else backEntries entries)
  | .str s =>
    if '\n' ∈ s then .str (blockText false ((s.splitOn '\n').map keptLine))
    else if s ∈ blockMarkers then .str []
    else (Value.str s).back
  | v => v.back

def blockBackEntries : List (Str × Value) → List (Str × Value)
  | [] => []
  | (k, v) :: rest => (k, v.blockBack) :: blockBackEntries rest

end

/-! ## Reading a dump -/

theorem entryBody_inline {k : Str} {v : Value} (hk : LineKey k) (hv : v.Documented) :
    EntryBody k (' ' :: dumpInline v) := by
  refine ⟨hk, ?_⟩
  have hbody := trimmed_dumpEntry hk.key hk.trimmed hv
  rwa [List.append_assoc] at hbody

theorem entryBody_of_last {k tail middle : Str} {c : Char} (hk : LineKey k)
    (htail : ':' :: tail = middle ++ [c]) (hc : pyIsSpace c = false) : EntryBody k tail := by
  refine ⟨hk, ?_⟩
  have hlast : Trimmed pyIsSpace [c] := trimmed_of_forall (by simpa using hc)
  rw [htail, ← List.append_assoc]
  exact trimmed_append hk.trimmed hlast hk.key.nonempty (List.cons_ne_nil _ _) middle

theorem entryBody_nested {k : Str} (hk : LineKey k) : EntryBody k [] :=
  @entryBody_of_last k [] [] ':' hk rfl (by decide)

theorem entryBody_marker {k : Str} (hk : LineKey k) : EntryBody k " |".toList :=
  @entryBody_of_last k " |".toList ": ".toList '|' hk rfl (by decide)

/-- The first line of an entry. -/
theorem layoutEntry_cons {k : Str} {v : Value} (hk : LineKey k) (hv : v.Documented) (n : ℕ) :
    ∃ tail lines, layoutEntry k v n = (pad n ++ (k ++ ':' :: tail)) :: lines ∧ EntryBody k tail := by
  have hinline := entryBody_inline hk hv
  cases v with
  | dict entries =>
    rw [layoutEntry]
    split
    · exact ⟨[], _, rfl, entryBody_nested hk⟩
    · exact ⟨_, _, rfl, hinline⟩
  | str s =>
    rw [layoutEntry]
    split
    · exact ⟨_, _, rfl, entryBody_marker hk⟩
    · exact ⟨_, _, rfl, hinline⟩
  | _ => exact ⟨_, _, rfl, hinline⟩

/-- The lines of a block dict, followed by lines that are not deeper. -/
theorem ends_layout {entries : List (Str × Value)} (h : DocumentedEntries entries)
    (hlines : EntriesMeet keepsLines entries) {n : ℕ} {rest : List Str} (hrest : Ends n rest) :
    Ends n (layout entries n ++ rest) := by
  cases entries with
  | nil => exact hrest
  | cons entry entries =>
    obtain ⟨k, v⟩ := entry
    obtain ⟨tail, lines, heq, hbody⟩ := layoutEntry_cons ⟨h.1, hlines.1, hlines.2.1⟩ h.2.1 n
    rw [layout, heq, List.cons_append, List.cons_append]
    exact hbody.ends le_rfl _

/-- Only the text of a string can be taken for the beginning of a block scalar. -/
theorem dumpInline_mem_blockMarkers {v : Value} (hv : v.Documented)
    (h : dumpInline v ∈ blockMarkers) : ∃ s ∈ blockMarkers, v = .str s := by
  have hhead : (dumpInline v).head? = some '>' ∨ (dumpInline v).head? = some '|' := by
    revert h
    generalize dumpInline v = t
    intro h
    simp only [blockMarkers, List.mem_cons, List.not_mem_nil, or_false] at h
    rcases h with rfl | rfl | rfl | rfl
    all_goals decide
  cases v with
  | null => exact absurd h (by decide)
  | bool b =>
    cases b with
    | true => exact absurd h (by decide)
    | false => exact absurd h (by decide)
  | int n =>
    have hchars (c : Char) (hc : (reprInt n).head? = some c) := mem_reprInt (List.mem_of_mem_head? hc)
    rcases hhead with hhead | hhead
    · exact absurd (hchars _ hhead) (by decide)
    · exact absurd (hchars _ hhead) (by decide)
  | float text => exact False.elim hv
  | str s =>
    refine ⟨s, ?_, rfl⟩
    rw [dumpInline] at h hhead
    by_cases hquotes : needsQuotes s = true
    · rw [if_pos hquotes] at hhead
      simp at hhead
    · rwa [if_neg hquotes] at h
  | list items => simp [dumpInline] at hhead
  | dict entries => simp [dumpInline] at hhead

theorem needsQuotes_of_marker {s : Str} (h : s ∈ blockMarkers) : needsQuotes s = false := by
  simp only [blockMarkers, List.mem_cons, List.not_mem_nil, or_false] at h
  rcases h with rfl | rfl | rfl | rfl
  all_goals decide

/-- The parser is ready for a line of the container on the entry with the indentation `n`: what is
above it on the stack is at least as deep. -/
structure Ready (n : ℕ) (entry : ℤ × Path) (below : List (ℤ × Path)) (s : ParseState) : Prop where
  pendingKey : s.pendingKey = none
  stack : (s.stack.dropWhile fun e ↦ (n : ℤ) ≤ e.1) = entry :: below
  isDict : (s.root.get entry.2).any Value.isDict = true

section Ready

variable {n lineno : ℕ} {entry : ℤ × Path} {below : List (ℤ × Path)} {s : ParseState} {k tail : Str}
  {rest : List Str}

theorem Ready.lt (h : Ready n entry below s) : entry.1 < n := by
  have hnot := List.head?_dropWhile_not (fun e : ℤ × Path ↦ decide ((n : ℤ) ≤ e.1)) s.stack
  rw [h.stack] at hnot
  simpa using hnot

/-- After an assignment the parser is ready for the next line of the container. -/
theorem Ready.assigned (h : Ready n entry below s) (key : Str) (value : Value) :
    Ready n entry below
      { s with
        root := s.root.modify (Value.setItem key value) entry.2
        stack := entry :: below } where
  pendingKey := h.pendingKey
  stack := by
    have hlt := h.lt
    rw [List.dropWhile_cons_of_neg]
    simpa using hlt
  isDict := any_isDict_modify h.isDict key value

/-- The line of an entry is read by `readEntry`. -/
theorem readLines_entry (hready : Ready n entry below s) (h : EntryBody k tail) :
    s.readLines lineno 0 ((pad n ++ (k ++ ':' :: tail)) :: rest) =
      (ParseState.readEntry { s with stack := entry :: below } entry.2 lineno n (k ++ ':' :: tail)
        rest).bind fun result ↦ result.1.readLines (lineno + 1) result.2 rest := by
  have hresolve : s.resolve n (k ++ ':' :: tail) = s := resolve_of_none hready.pendingKey n _
  have hstack : ((s.resolve n (k ++ ':' :: tail)).stack.dropWhile fun e ↦ (n : ℤ) ≤ e.1) =
      (entry.1, entry.2) :: below := by
    rw [hresolve]
    exact hready.stack
  have hdict : ((s.resolve n (k ++ ':' :: tail)).root.get entry.2).any Value.isDict = true := by
    rw [hresolve]
    exact hready.isDict
  rw [ParseState.readLines, readLine_entry h hstack hdict, hresolve]
  rfl

/-- The line of an inline value. -/
theorem readLines_inlineEntry (hready : Ready n entry below s) (hk : LineKey k) {v : Value}
    (hv : v.Documented) {text : Str → Prop} (hkeys : v.Each text (Trimmed pyIsSpace))
    (hends : Ends n rest) :
    s.readLines lineno 0 ((pad n ++ (k ++ ':' :: ' ' :: dumpInline v)) :: rest) =
      ParseState.readLines
        { s with
          root := s.root.modify (Value.setItem k
            (if dumpInline v ∈ blockMarkers then .str [] else v.back)) entry.2
          stack := entry :: below }
        (lineno + 1) 0 rest := by
  have hstrip : strip (' ' :: dumpInline v) = dumpInline v :=
    strip_spaced (Or.inr rfl) (trimmed_dumpInline hv)
  have hbody := entryBody_inline hk hv
  rw [readLines_entry hready hbody, readEntry_eq hbody, hstrip]
  by_cases hmarker : dumpInline v ∈ blockMarkers
  · rw [if_pos hmarker, if_pos hmarker, blockLines_of_ends hends]
    simp [Except.bind, blockText]
  · have hread : inline (dumpInline v) lineno = .ok v.back :=
      inlineWith_dumpInline lineno v hv hkeys _ _ (strip_of_trimmed (trimmed_dumpInline hv)) le_rfl
    rw [if_neg hmarker, if_neg hmarker, if_neg (piece_dumpInline v hv).nonempty, hread]
    rfl

/-- The lines of a block scalar. -/
theorem readLines_blockEntry (hready : Ready n entry below s) (hk : LineKey k) (lines : List Str)
    (hends : Ends n rest) :
    s.readLines lineno 0 ((pad n ++ (k ++ ':' :: " |".toList)) ::
        ((lines.map fun ln ↦ pad n ++ "  ".toList ++ ln) ++ rest)) =
      ParseState.readLines
        { s with
          root := s.root.modify (Value.setItem k
            (.str (blockText false (lines.map keptLine)))) entry.2
          stack := entry :: below }
        (lineno + 1 + lines.length) 0 rest := by
  have hstrip : strip " |".toList = "|".toList := by decide
  have hbody := entryBody_marker hk
  have hmarker : "|".toList ∈ blockMarkers := by decide
  have hfolded : decide ("|".toList.head? = some '>') = false := by decide
  have hlength : (lines.map keptLine).length =
      (lines.map fun ln ↦ pad n ++ "  ".toList ++ ln).length := by
    rw [List.length_map, List.length_map]
  rw [readLines_entry hready hbody, readEntry_eq hbody, hstrip, if_pos hmarker, hfolded,
    blockLines_append hends, hlength]
  calc
    _ = ParseState.readLines _ (lineno + 1) (lines.map fun ln ↦ pad n ++ "  ".toList ++ ln).length
        ((lines.map fun ln ↦ pad n ++ "  ".toList ++ ln) ++ rest) := rfl
    _ = _ := by rw [readLines_skip, List.length_map]

/-- After the line of a nested block the parser is ready for the lines of the block. -/
theorem readLines_nestedEntry (hready : Ready n entry below s) (hk : LineKey k) {k' tail' : Str}
    (hbody' : EntryBody k' tail') :
    ∃ s', s.readLines lineno 0 ((pad n ++ (k ++ [':'])) ::
          (pad (n + 2) ++ (k' ++ ':' :: tail')) :: rest) =
        s'.readLines (lineno + 1) 0 ((pad (n + 2) ++ (k' ++ ':' :: tail')) :: rest) ∧
      s'.root = s.root.modify (Value.setItem k (.dict [])) entry.2 ∧
      Ready (n + 2) (n, entry.2 ++ [k]) (entry :: below) s' := by
  have hbody := entryBody_nested hk
  have hstrip : strip [] = [] := rfl
  have hmarker : ([] : Str) ∉ blockMarkers := by decide
  have hdeeper : (n : ℤ) < (n + 2 : ℕ) := by omega
  refine ⟨{ root := s.root.modify (Value.setItem k (.dict [])) entry.2
            stack := (n, entry.2 ++ [k]) :: entry :: below
            pendingKey := none }, ?_, rfl, rfl, ?_, ?_⟩
  · rw [readLines_entry hready hbody, readEntry_eq hbody, hstrip, if_neg hmarker, if_pos rfl]
    change ParseState.readLines
        { s with stack := entry :: below, pendingKey := some (n, entry.2, k) } _ 0 _ = _
    rw [ParseState.readLines, readLine_resolve hbody', ParseState.resolve]
    simp only [hdeeper, if_true, hbody'.isDash, Bool.false_eq_true, if_false]
    rfl
  · rw [List.dropWhile_cons_of_neg]
    simp
  · rw [get_setItem hready.isDict]
    rfl

/-- After the lines of a nested block the parser is ready for the next line of the container. -/
theorem Ready.of_nested {s' : ParseState} {path : Path}
    (hready : Ready n entry below s) (hnested : Ready (n + 2) (n, path) (entry :: below) s')
    {f : Value → Value} (hroot : s'.root = s.root.modify (Value.setItem k (f (.dict []))) entry.2) :
    Ready n entry below s' where
  pendingKey := hnested.pendingKey
  stack := by
    have hlt := hready.lt
    have htwice : (s'.stack.dropWhile fun e ↦ (n : ℤ) ≤ e.1) =
        ((s'.stack.dropWhile fun e ↦ ((n + 2 : ℕ) : ℤ) ≤ e.1).dropWhile fun e ↦ (n : ℤ) ≤ e.1) := by
      generalize s'.stack = stack
      induction stack with
      | nil => rfl
      | cons e stack ih =>
        by_cases hdeep : ((n + 2 : ℕ) : ℤ) ≤ e.1
        · have hat : (n : ℤ) ≤ e.1 := by omega
          rw [List.dropWhile_cons_of_pos (by simpa using hat),
            List.dropWhile_cons_of_pos (by simpa using hdeep), ih]
        · rw [List.dropWhile_cons_of_neg (l := stack) (p := fun e : ℤ × Path ↦
            decide (((n + 2 : ℕ) : ℤ) ≤ e.1)) (by simpa using hdeep)]
    rw [htwice, hnested.stack, List.dropWhile_cons_of_pos (by simp), List.dropWhile_cons_of_neg]
    simpa using hlt
  isDict := by
    rw [hroot]
    exact any_isDict_modify hready.isDict k _

end Ready

theorem keys_blockBackEntries (entries : List (Str × Value)) :
    (blockBackEntries entries).map Prod.fst = entries.map Prod.fst := by
  induction entries with
  | nil => rfl
  | cons entry rest ih => rw [blockBackEntries, List.map_cons, List.map_cons, ih]

theorem nodup_of_documented {entries : List (Str × Value)} (h : DocumentedEntries entries) :
    (entries.map Prod.fst).Nodup := by
  induction entries with
  | nil => exact List.nodup_nil
  | cons entry rest ih =>
    rw [List.map_cons, List.nodup_cons]
    exact ⟨h.2.2.1, ih h.2.2.2⟩

/-- The parser reads the lines, and what it has done then is to assign a change to the container. -/
def Reads (n : ℕ) (entry : ℤ × Path) (below : List (ℤ × Path)) (s : ParseState) (lines : List Str)
    (f : Value → Value) : Prop :=
  ∀ (lineno : ℕ) (rest : List Str), Ends n rest → ∃ s',
    s.readLines lineno 0 (lines ++ rest) = s'.readLines (lineno + lines.length) 0 rest ∧
      s'.root = s.root.modify f entry.2 ∧ Ready n entry below s'

section Reads

variable {n : ℕ} {entry : ℤ × Path} {below : List (ℤ × Path)} {s : ParseState} {k : Str}

theorem reads_inline (hready : Ready n entry below s) (hk : LineKey k) {v : Value}
    (hv : v.Documented) {text : Str → Prop} (hkeys : v.Each text (Trimmed pyIsSpace)) :
    Reads n entry below s [pad n ++ (k ++ ':' :: ' ' :: dumpInline v)]
      (Value.setItem k (if dumpInline v ∈ blockMarkers then .str [] else v.back)) := by
  intro lineno rest hends
  exact ⟨_, readLines_inlineEntry hready hk hv hkeys hends, rfl,
    hready.assigned k _⟩

/-- Other values than strings are not taken for the beginning of a block scalar. -/
theorem reads_inline_of_ne (hready : Ready n entry below s) (hk : LineKey k) {v : Value}
    (hv : v.Documented) (hne : ∀ text, v ≠ .str text) (text : Str → Prop)
    (hkeys : v.Each text (Trimmed pyIsSpace)) :
    Reads n entry below s [pad n ++ (k ++ ':' :: ' ' :: dumpInline v)]
      (Value.setItem k v.back) := by
  have hmarker : dumpInline v ∉ blockMarkers := by
    intro hmem
    obtain ⟨t, -, heq⟩ := dumpInline_mem_blockMarkers hv hmem
    exact hne t heq
  have hreads := reads_inline hready hk hv hkeys
  rwa [if_neg hmarker] at hreads

theorem reads_str (hready : Ready n entry below s) (hk : LineKey k) (t : Str) :
    Reads n entry below s (layoutEntry k (.str t) n)
      (Value.setItem k (Value.str t).blockBack) := by
  rw [layoutEntry, Value.blockBack]
  by_cases hnewline : '\n' ∈ t
  · rw [if_pos hnewline, if_pos hnewline]
    intro lineno rest hends
    refine ⟨_, ?_, rfl, hready.assigned k _⟩
    rw [List.cons_append, readLines_blockEntry hready hk _ hends,
      List.length_cons, List.length_map, Nat.add_right_comm, Nat.add_assoc]
  · rw [if_neg hnewline, if_neg hnewline]
    have hreads := @reads_inline n entry below s k hready hk (.str t) trivial
      (fun _ ↦ True) trivial
    by_cases hmarker : t ∈ blockMarkers
    · have hdump : dumpInline (.str t) = t := by
        rw [dumpInline, needsQuotes_of_marker hmarker, if_neg Bool.false_ne_true]
      have hmem : dumpInline (.str t) ∈ blockMarkers := by rwa [hdump]
      rw [if_pos hmarker]
      rwa [if_pos hmem] at hreads
    · have hmem : dumpInline (.str t) ∉ blockMarkers := by
        intro hmem
        obtain ⟨u, hu, heq⟩ := @dumpInline_mem_blockMarkers (.str t) trivial hmem
        cases heq
        exact hmarker hu
      rw [if_neg hmarker]
      rwa [if_neg hmem] at hreads

/-- A nested block is read line by line into a new container. -/
theorem reads_nested (hready : Ready n entry below s) (hk : LineKey k)
    {entries : List (Str × Value)} (hnested : isNested entries = true)
    (h : DocumentedEntries entries) (hlines : EntriesMeet keepsLines entries)
    (hreads : ∀ s', Ready (n + 2) (n, entry.2 ++ [k]) (entry :: below) s' →
      Reads (n + 2) (n, entry.2 ++ [k]) (entry :: below) s' (layout entries (n + 2))
        (assign (blockBackEntries entries))) :
    Reads n entry below s ((pad n ++ (k ++ [':'])) :: layout entries (n + 2))
      (Value.setItem k (.dict (blockBackEntries entries))) := by
  intro lineno rest hends
  cases entries with
  | nil => cases hnested
  | cons item items =>
    obtain ⟨tail', more, hlayout, hbody'⟩ :=
      layoutEntry_cons ⟨h.1, hlines.1, hlines.2.1⟩ h.2.1 (n + 2)
    obtain ⟨s₁, hread₁, hroot₁, hready₁⟩ :=
      @readLines_nestedEntry n lineno entry below s k (more ++ layout items (n + 2) ++ rest)
        hready hk item.1 tail' hbody'
    obtain ⟨s₂, hread₂, hroot₂, hready₂⟩ :=
      hreads s₁ hready₁ (lineno + 1) rest (hends.mono (by omega))
    have hroot : s₂.root = s.root.modify
        (Value.setItem k (assign (blockBackEntries (item :: items)) (.dict []))) entry.2 := by
      rw [hroot₂, hroot₁, modify_append, modify_modify]
      simp only [modify_setItem]
    refine ⟨s₂, ?_, ?_, hready.of_nested hready₂ hroot⟩
    · have hfirst : layout (item :: items) (n + 2) ++ rest =
          (pad (n + 2) ++ (item.1 ++ ':' :: tail')) :: (more ++ layout items (n + 2) ++ rest) := by
        rw [layout, hlayout]
        simp
      rw [List.cons_append, hfirst, hread₁, ← hfirst, hread₂, List.length_cons, Nat.add_assoc,
        Nat.add_comm 1]
    · have hnodup : ((blockBackEntries (item :: items)).map Prod.fst).Nodup := by
        rw [keys_blockBackEntries]
        exact nodup_of_documented h
      rw [hroot, assign_dict hnodup (by simp), List.nil_append]

end Reads

mutual

/-- The lines of an entry assign its key what the parser reads from them. -/
theorem reads_layoutEntry (k : Str) : (v : Value) → LineKey k → v.Documented → v.Meets keepsLines →
    ∀ (n : ℕ) (entry : ℤ × Path) (below : List (ℤ × Path)) (s : ParseState),
    Ready n entry below s →
    Reads n entry below s (layoutEntry k v n) (Value.setItem k v.blockBack)
  | .dict entries, hk, hv, hlines, n, entry, below, s, hready => by
    rw [Value.Meets] at hlines
    rw [layoutEntry, Value.blockBack]
    by_cases hnested : isNested entries = true
    · rw [if_pos hnested] at hlines
      rw [if_pos hnested, if_pos hnested]
      exact reads_nested hready hk hnested hv hlines
        fun s' hready' ↦ reads_layout entries hv hlines (n + 2) _ _ s' hready'
    · rw [if_neg hnested] at hlines
      rw [if_neg hnested, if_neg hnested]
      exact reads_inline_of_ne hready hk hv (fun _ h ↦ nomatch h) keepsLines.text hlines
  | .str t, hk, _, _, _, _, _, _, hready =>
    reads_str hready hk t
  | .list items, hk, hv, hlines, _, _, _, _, hready =>
    reads_inline_of_ne hready hk hv (fun _ h ↦ nomatch h) keepsLines.text hlines
  | .null, hk, hv, hlines, _, _, _, _, hready =>
    reads_inline_of_ne hready hk hv (fun _ h ↦ nomatch h) keepsLines.text hlines
  | .bool _, hk, hv, hlines, _, _, _, _, hready =>
    reads_inline_of_ne hready hk hv (fun _ h ↦ nomatch h) keepsLines.text hlines
  | .int _, hk, hv, hlines, _, _, _, _, hready =>
    reads_inline_of_ne hready hk hv (fun _ h ↦ nomatch h) keepsLines.text hlines
  | .float _, _, hv, _, _, _, _, _, _ => False.elim hv

/-- The lines of a block dict assign its keys what the parser reads from them. -/
theorem reads_layout : (entries : List (Str × Value)) → DocumentedEntries entries →
    EntriesMeet keepsLines entries →
    ∀ (n : ℕ) (entry : ℤ × Path) (below : List (ℤ × Path)) (s : ParseState),
    Ready n entry below s →
    Reads n entry below s (layout entries n) (assign (blockBackEntries entries))
  | [], _, _, _, entry, _, s, hready => by
    intro lineno rest _
    exact ⟨s, rfl, (modify_id entry.2 s.root).symm, hready⟩
  | (k, v) :: entries, h, hlines, n, entry, below, s, hready => by
    intro lineno rest hends
    obtain ⟨s₁, hread₁, hroot₁, hready₁⟩ := reads_layoutEntry k v ⟨h.1, hlines.1, hlines.2.1⟩ h.2.1
      hlines.2.2.1 n entry below s hready lineno (layout entries n ++ rest)
      (ends_layout h.2.2.2 hlines.2.2.2 hends)
    obtain ⟨s₂, hread₂, hroot₂, hready₂⟩ := reads_layout entries h.2.2.2 hlines.2.2.2 n entry below
      s₁ hready₁ (lineno + (layoutEntry k v n).length) rest hends
    refine ⟨s₂, ?_, ?_, hready₂⟩
    · rw [layout, List.append_assoc, hread₁, hread₂, List.length_append, Nat.add_assoc]
    · rw [hroot₂, hroot₁, modify_modify]
      rfl

end

end DBOSModel.Frontmatter

import DBOSModel.Workers.FrontmatterLayout

/-!
# The round trip of the front matter

`dump` documents that `parse` undoes it. For a map whose keys and strings leave the lines of the text
where the writer put them, `parse` reads the map with its strings changed (`blockBack`), so the round
trip holds exactly if each string is read as it is, by the way that `dump` writes it at its place.
-/

namespace DBOSModel.Frontmatter

open Text Relational DBOSModel.Core

/-! ## The text of a dump -/

theorem layoutEntry_ne_nil (k : Str) (v : Value) (n : ℕ) : layoutEntry k v n ≠ [] := by
  cases v with
  | dict entries =>
    rw [layoutEntry]
    split
    · exact List.cons_ne_nil _ _
    · exact List.cons_ne_nil _ _
  | str t =>
    rw [layoutEntry]
    split
    · exact List.cons_ne_nil _ _
    · exact List.cons_ne_nil _ _
  | _ => exact List.cons_ne_nil _ _

theorem layout_ne_nil {entries : List (Str × Value)} (h : entries ≠ []) (n : ℕ) :
    layout entries n ≠ [] := by
  cases entries with
  | nil => exact absurd rfl h
  | cons entry rest =>
    rw [layout]
    exact List.append_ne_nil_of_left_ne_nil (layoutEntry_ne_nil entry.1 entry.2 n) _

theorem dumpEntry_ne_nil (k : Str) (v : Value) (n : ℕ) : dumpEntry k v n ≠ [] := by
  cases v with
  | dict entries =>
    rw [dumpEntry]
    split
    · exact List.cons_ne_nil _ _
    · exact List.cons_ne_nil _ _
  | str t =>
    rw [dumpEntry]
    split
    · exact List.cons_ne_nil _ _
    · exact List.cons_ne_nil _ _
  | _ => exact List.cons_ne_nil _ _

theorem inlineLine_eq (k : Str) (v : Value) (n : ℕ) :
    [List.replicate n ' ' ++ k ++ ": ".toList ++ dumpInline v] =
      [pad n ++ (k ++ ':' :: ' ' :: dumpInline v)] := by
  rw [pad, List.append_assoc, List.append_assoc]
  rfl

mutual

theorem intercalate_dumpEntry (k : Str) : (v : Value) → (n : ℕ) →
    ['\n'].intercalate (dumpEntry k v n) = ['\n'].intercalate (layoutEntry k v n)
  | .dict entries, n => by
    rw [dumpEntry, layoutEntry]
    by_cases hnested : isNested entries = true
    · have hne : entries ≠ [] := by
        rintro rfl
        cases hnested
      rw [if_pos hnested, if_pos hnested, List.intercalate_cons_of_ne_nil (List.cons_ne_nil _ _),
        List.intercalate_singleton, intercalate_dumpOut entries (n + 2),
        List.intercalate_cons_of_ne_nil (layout_ne_nil hne (n + 2)), pad, List.append_assoc _ k]
    · rw [if_neg hnested, if_neg hnested]
      exact congrArg _ (inlineLine_eq k (.dict entries) n)
  | .str t, n => by
    rw [dumpEntry, layoutEntry]
    by_cases hnewline : '\n' ∈ t
    · rw [if_pos hnewline, if_pos hnewline, pad, List.append_assoc]
      rfl
    · rw [if_neg hnewline, if_neg hnewline]
      exact congrArg _ (inlineLine_eq k (.str t) n)
  | .list items, n => congrArg _ (inlineLine_eq k (.list items) n)
  | .null, n => congrArg _ (inlineLine_eq k .null n)
  | .bool b, n => congrArg _ (inlineLine_eq k (.bool b) n)
  | .int i, n => congrArg _ (inlineLine_eq k (.int i) n)
  | .float t, n => congrArg _ (inlineLine_eq k (.float t) n)

/-- A dump is the join of its lines. -/
theorem intercalate_dumpOut : (entries : List (Str × Value)) → (n : ℕ) →
    ['\n'].intercalate (dumpOut entries n) = ['\n'].intercalate (layout entries n)
  | [], _ => by
    rw [dumpOut, layout]
  | [(k, v)], n => by
    rw [dumpOut, dumpOut, layout, layout, List.append_nil, List.append_nil,
      intercalate_dumpEntry k v n]
  | (k, v) :: next :: rest, n => by
    have htail := intercalate_dumpOut (next :: rest) n
    have hout : dumpOut (next :: rest) n ≠ [] := by
      rw [dumpOut]
      exact List.append_ne_nil_of_left_ne_nil (dumpEntry_ne_nil next.1 next.2 n) _
    rw [dumpOut, layout, intercalate_append _ (dumpEntry_ne_nil k v n) hout, htail,
      intercalate_append _ (layoutEntry_ne_nil k v n) (layout_ne_nil (List.cons_ne_nil _ _) n),
      intercalate_dumpEntry k v n]

end

theorem oneLine_unquoted {s : Str} (h : OneLine pyIsLineBreak s) :
    OneLine pyIsLineBreak (unquoted s) := by
  intro c hc
  obtain ⟨d, hd, hdc⟩ := List.mem_map.mp hc
  split at hdc
  · rw [← hdc]
    decide
  · rw [← hdc]
    exact h d hd

theorem IsKey.oneLine {k : Str} (h : IsKey k) : OneLine pyIsLineBreak k := fun c hc ↦ (h.free c hc).2

theorem oneLine_reprInt (n : ℤ) : OneLine pyIsLineBreak (reprInt n) := by
  intro c hc
  rcases mem_reprInt hc with hdigit | rfl
  · simp only [Char.isDigit, Bool.and_eq_true, decide_eq_true_eq, UInt32.le_iff_toNat_le] at hdigit
    have hlow : 48 ≤ c.toNat := hdigit.1
    have hhigh : c.toNat ≤ 57 := hdigit.2
    simp only [pyIsLineBreak, List.mem_cons, List.not_mem_nil, or_false, Bool.or_eq_false_iff,
      Bool.and_eq_false_iff, decide_eq_false_iff_not]
    omega
  · decide

theorem oneLine_enclosed {opening closing : Char} {t : Str} (hopening : pyIsLineBreak opening = false)
    (hclosing : pyIsLineBreak closing = false) (ht : OneLine pyIsLineBreak t) :
    OneLine pyIsLineBreak ([opening] ++ t ++ [closing]) := by
  apply OneLine.append
  · apply OneLine.append _ ht
    intro c hc
    rwa [List.mem_singleton.mp hc]
  · intro c hc
    rwa [List.mem_singleton.mp hc]

section OneLine

variable {key : Str → Prop}

mutual

/-- An inline value whose strings are on one line is written on one line. -/
theorem oneLine_dumpInline : (v : Value) → v.Documented → v.Each (OneLine pyIsLineBreak) key →
    OneLine pyIsLineBreak (dumpInline v)
  | .null, _, _ => by decide
  | .bool true, _, _ => by decide
  | .bool false, _, _ => by decide
  | .int n, _, _ => oneLine_reprInt n
  | .float _, h, _ => False.elim h
  | .str s, _, hs => by
    rw [dumpInline]
    split
    · exact oneLine_enclosed (by decide) (by decide) (oneLine_unquoted hs)
    · exact hs
  | .list items, h, hs =>
    oneLine_enclosed (by decide) (by decide)
      (oneLine_intercalate (by decide) (oneLine_dumpItems items h hs))
  | .dict entries, h, hs =>
    oneLine_enclosed (by decide) (by decide)
      (oneLine_intercalate (by decide) (oneLine_dumpEntries entries h hs))

theorem oneLine_dumpItems : (items : List Value) → DocumentedItems items →
    EachItem (OneLine pyIsLineBreak) key items → ∀ p ∈ dumpItems items, OneLine pyIsLineBreak p
  | [], _, _, _, hp => nomatch hp
  | v :: rest, h, hs, p, hp => by
    rcases List.mem_cons.mp hp with rfl | hp
    · exact oneLine_dumpInline v h.1 hs.1
    · exact oneLine_dumpItems rest h.2 hs.2 p hp

theorem oneLine_dumpEntries : (entries : List (Str × Value)) → DocumentedEntries entries →
    EachEntry (OneLine pyIsLineBreak) key entries → ∀ p ∈ dumpEntries entries, OneLine pyIsLineBreak p
  | [], _, _, _, hp => nomatch hp
  | (k, v) :: rest, h, hs, p, hp => by
    rcases List.mem_cons.mp hp with rfl | hp
    · exact (h.1.oneLine.append (by decide)).append (oneLine_dumpInline v h.2.1 hs.2.1)
    · exact oneLine_dumpEntries rest h.2.2.2 hs.2.2 p hp

end

end OneLine

theorem oneLine_pad (n : ℕ) : OneLine pyIsLineBreak (pad n) := by
  intro c hc
  rw [List.eq_of_mem_replicate hc]
  decide

/-- A line of the dump: not empty, and without a line break. -/
def IsLine (line : Str) : Prop := line ≠ [] ∧ OneLine pyIsLineBreak line

theorem isLine_entry {k tail : Str} (hkey : IsKey k) (htail : OneLine pyIsLineBreak (':' :: tail))
    (n : ℕ) : IsLine (pad n ++ (k ++ ':' :: tail)) :=
  ⟨by simp, (oneLine_pad n).append (hkey.oneLine.append htail)⟩

theorem isLine_inline {k : Str} {v : Value} (hkey : IsKey k) (hv : v.Documented)
    (key : Str → Prop) (hlines : v.Each (OneLine pyIsLineBreak) key) (n : ℕ) :
    ∀ line ∈ [pad n ++ (k ++ ':' :: ' ' :: dumpInline v)], IsLine line := by
  intro line hline
  rw [List.mem_singleton.mp hline]
  have htail : OneLine pyIsLineBreak (": ".toList ++ dumpInline v) :=
    OneLine.append (by decide) (oneLine_dumpInline v hv hlines)
  exact isLine_entry hkey htail n

/-- The lines of a block scalar have no line break but the ones between them. -/
theorem oneLine_of_mem_splitOn {s ln : Str} (h : keepsLines.blockText s) (hln : ln ∈ s.splitOn '\n') :
    OneLine pyIsLineBreak ln := by
  obtain ⟨hnewline, hsub⟩ := of_mem_splitOn hln
  intro c hc
  by_contra hbreak
  have heq := h c (hsub c hc) (by simpa using hbreak)
  rw [heq] at hc
  exact hnewline hc

mutual

theorem isLine_layoutEntry (k : Str) : (v : Value) → IsKey k → v.Documented → v.Meets keepsLines →
    ∀ (n : ℕ), ∀ line ∈ layoutEntry k v n, IsLine line
  | .dict entries, hkey, hv, hlines, n => by
    rw [Value.Meets] at hlines
    rw [layoutEntry]
    by_cases hnested : isNested entries = true
    · rw [if_pos hnested] at hlines
      rw [if_pos hnested]
      intro line hline
      rcases List.mem_cons.mp hline with rfl | hline
      · exact isLine_entry hkey (by decide) n
      · exact isLine_layout entries hv hlines (n + 2) line hline
    · rw [if_neg hnested] at hlines
      rw [if_neg hnested]
      exact isLine_inline hkey hv keepsLines.key hlines n
  | .str t, hkey, hv, hlines, n => by
    rw [layoutEntry]
    by_cases hnewline : '\n' ∈ t
    · rw [if_pos hnewline]
      intro line hline
      rcases List.mem_cons.mp hline with rfl | hline
      · exact isLine_entry hkey (by decide) n
      · obtain ⟨ln, hln, rfl⟩ := List.mem_map.mp hline
        refine ⟨by simp, ?_⟩
        exact ((oneLine_pad n).append (by decide)).append (oneLine_of_mem_splitOn hlines hln)
    · rw [if_neg hnewline]
      refine isLine_inline hkey hv keepsLines.key ?_ n
      intro c hc
      by_contra hbreak
      rw [hlines c hc (by simpa using hbreak)] at hc
      exact hnewline hc
  | .list items, hkey, hv, hlines, n => isLine_inline hkey hv keepsLines.key hlines n
  | .null, hkey, hv, hlines, n => isLine_inline hkey hv keepsLines.key hlines n
  | .bool _, hkey, hv, hlines, n => isLine_inline hkey hv keepsLines.key hlines n
  | .int _, hkey, hv, hlines, n => isLine_inline hkey hv keepsLines.key hlines n
  | .float _, _, hv, _, _ => False.elim hv

theorem isLine_layout : (entries : List (Str × Value)) → DocumentedEntries entries →
    EntriesMeet keepsLines entries → ∀ (n : ℕ), ∀ line ∈ layout entries n, IsLine line
  | [], _, _, _, _, hline => nomatch hline
  | (k, v) :: rest, h, hlines, n, line, hline => by
    rcases List.mem_append.mp hline with hline | hline
    · exact isLine_layoutEntry k v h.1 h.2.1 hlines.2.2.1 n line hline
    · exact isLine_layout rest h.2.2.2 hlines.2.2.2 n line hline

end

/-- `parse` reads from a dump the map with its strings changed. -/
theorem parse_dump {metadata : List (Str × Value)} (h : DocumentedEntries metadata)
    (hlines : EntriesMeet keepsLines metadata) :
    parse (dump metadata 0) = .ok (.dict (blockBackEntries metadata)) := by
  have hsplit : splitlines pyIsLineBreak (dump metadata 0) = layout metadata 0 := by
    rw [dump, intercalate_dumpOut]
    apply splitlines_intercalate (by decide)
    · exact fun line hline ↦ (isLine_layout metadata h hlines 0 line hline).2
    · exact fun line hline ↦
        (isLine_layout metadata h hlines 0 line (List.mem_of_mem_getLast? hline)).1
  have hready : Ready 0 (-1, []) [] ParseState.initial := ⟨rfl, by decide, rfl⟩
  obtain ⟨s, hread, hroot, hready'⟩ :=
    reads_layout metadata h hlines 0 (-1, []) [] _ hready 1 [] (ends_nil 0)
  have hnodup : ((blockBackEntries metadata).map Prod.fst).Nodup := by
    rw [keys_blockBackEntries]
    exact nodup_of_documented h
  rw [List.append_nil] at hread
  have hroot' : s.root = .dict (blockBackEntries metadata) := by
    rw [hroot]
    exact assign_dict hnodup (by simp)
  rw [← hsplit, ParseState.readLines] at hread
  refine bind_eq_ok.mpr ⟨s, hread, ?_⟩
  rw [hready'.pendingKey, hroot']
  rfl

/-! ## When a dump is read back -/

/-- The string on one line is read as it is: it has no quotes that `dump` would replace, and is not
the text of a number without quotes around it. -/
def ReadsAsText (s : Str) : Prop :=
  '"' ∉ s ∧ (needsQuotes s = false → intOf s = none ∧ isFloat s = false)

instance (s : Str) : Decidable (ReadsAsText s) :=
  inferInstanceAs (Decidable ('"' ∉ s ∧ (needsQuotes s = false → intOf s = none ∧ isFloat s = false)))

/-- The string on several lines is read as it is: its last line is not empty, and no line is made of
whitespace only. -/
def ReadsAsBlock (s : Str) : Prop :=
  (∀ last ∈ (s.splitOn '\n').getLast?, last ≠ []) ∧
    ∀ ln ∈ s.splitOn '\n', strip ln = [] → ln = []

instance (s : Str) : Decidable (ReadsAsBlock s) :=
  inferInstanceAs (Decidable ((∀ last ∈ (s.splitOn '\n').getLast?, last ≠ []) ∧
    ∀ ln ∈ s.splitOn '\n', strip ln = [] → ln = []))

/-- Each string is read as it is, from the text that the writer has for it at its place. -/
def readsBack : Requirement where
  key _ := True
  blockKey _ := True
  text := ReadsAsText
  blockText s := if '\n' ∈ s then ReadsAsBlock s else ReadsAsText s ∧ s ∉ blockMarkers

theorem back_str_iff (s : Str) : (Value.str s).back = .str s ↔ ReadsAsText s := by
  rw [Value.back, ReadsAsText]
  by_cases hquotes : needsQuotes s = true
  · rw [if_pos hquotes, Value.str.injEq, unquoted_eq_self_iff]
    simp [hquotes]
  · have hbare := bare_of_needsQuotes (by simpa using hquotes)
    have hnoQuote : '"' ∉ s := fun hmem ↦ hbare.plain _ hmem (by decide)
    rw [if_neg hquotes, scalar_of_bare hbare]
    cases hint : intOf s with
    | some n => simp [hquotes]
    | none =>
      cases hfloat : isFloat s with
      | true => simp [hquotes]
      | false => simp [hnoQuote]

mutual

theorem back_eq_self_iff : (v : Value) → (v.back = v ↔ v.Each ReadsAsText fun _ ↦ True)
  | .str s => back_str_iff s
  | .list items => by
    rw [Value.back, Value.list.injEq, Value.Each]
    exact backItems_eq_self_iff items
  | .dict entries => by
    rw [Value.back, Value.dict.injEq, Value.Each]
    exact backEntries_eq_self_iff entries
  | .null => by simp [Value.back, Value.Each]
  | .bool _ => by simp [Value.back, Value.Each]
  | .int _ => by simp [Value.back, Value.Each]
  | .float _ => by simp [Value.back, Value.Each]

theorem backItems_eq_self_iff : (items : List Value) →
    (backItems items = items ↔ EachItem ReadsAsText (fun _ ↦ True) items)
  | [] => by simp [backItems, EachItem]
  | v :: rest => by
    rw [backItems, List.cons.injEq, EachItem, back_eq_self_iff v, backItems_eq_self_iff rest]

theorem backEntries_eq_self_iff : (entries : List (Str × Value)) →
    (backEntries entries = entries ↔ EachEntry ReadsAsText (fun _ ↦ True) entries)
  | [] => by simp [backEntries, EachEntry]
  | (k, v) :: rest => by
    rw [backEntries, List.cons.injEq, EachEntry, Prod.mk.injEq, back_eq_self_iff v,
      backEntries_eq_self_iff rest]
    simp

end

/-- The lines that the parser keeps of a block scalar, without the empty ones at its end. -/
def keptLines (s : Str) : List Str :=
  ((s.splitOn '\n').map keptLine).rdropWhile fun line ↦ line = []

theorem keptLines_subset {s line : Str} (h : line ∈ keptLines s) :
    ∃ ln ∈ s.splitOn '\n', keptLine ln = line :=
  List.mem_map.mp ((List.rdropWhile_prefix _ _).subset h)

/-- If the lines that are kept make up the string, they are its lines. -/
theorem keptLines_eq_splitOn {s : Str} (hnewline : '\n' ∈ s)
    (h : ['\n'].intercalate (keptLines s) = s) : keptLines s = s.splitOn '\n' := by
  have hne : keptLines s ≠ [] := by
    intro hnil
    rw [hnil] at h
    rw [← h] at hnewline
    cases hnewline
  have hfree : ∀ line ∈ keptLines s, '\n' ∉ line := by
    intro line hline
    obtain ⟨ln, hln, rfl⟩ := keptLines_subset hline
    unfold keptLine
    split
    · exact List.not_mem_nil
    · exact (of_mem_splitOn hln).1
  calc
    keptLines s = (['\n'].intercalate (keptLines s)).splitOn '\n' :=
      (List.splitOn_intercalate '\n' hfree hne).symm
    _ = s.splitOn '\n' := by rw [h]

theorem readsAsBlock_of_keptLines {s : Str} (h : keptLines s = s.splitOn '\n') : ReadsAsBlock s := by
  have hall : (s.splitOn '\n').map keptLine = s.splitOn '\n' := by
    have hdropped : keptLines s <+: (s.splitOn '\n').map keptLine := List.rdropWhile_prefix _ _
    have hlength : (keptLines s).length = ((s.splitOn '\n').map keptLine).length := by
      rw [h, List.length_map]
    rw [← hdropped.eq_of_length hlength, h]
  constructor
  · intro last hlast
    have hne : keptLines s ≠ [] := by
      rw [h]
      exact List.splitOn_ne_nil '\n' s
    have hnot : ¬ decide ((keptLines s).getLast hne = []) = true := List.rdropWhile_last_not _ _ hne
    rw [← h, Option.mem_def, List.getLast?_eq_some_getLast hne, Option.some.injEq] at hlast
    rw [← hlast]
    simpa using hnot
  · intro ln hln hblank
    have hsame : (s.splitOn '\n').map keptLine = (s.splitOn '\n').map id := by
      rw [hall, List.map_id]
    have hkept := List.map_inj_left.mp hsame ln hln
    rw [keptLine, if_pos hblank] at hkept
    exact hkept.symm

theorem keptLines_of_readsAsBlock {s : Str} (h : ReadsAsBlock s) : keptLines s = s.splitOn '\n' := by
  have hkept : (s.splitOn '\n').map keptLine = s.splitOn '\n' := by
    calc
      (s.splitOn '\n').map keptLine = (s.splitOn '\n').map id := by
        apply List.map_congr_left
        intro ln hln
        unfold keptLine
        split
        · rename_i hnil
          exact (h.2 ln hln hnil).symm
        · rfl
      _ = s.splitOn '\n' := List.map_id _
  rw [keptLines, hkept]
  exact rdropWhile_eq_self fun last hmem ↦ by simpa using h.1 last hmem

/-- The lines that the parser keeps of a block scalar make up the string, exactly if it keeps all. -/
theorem blockText_eq_self_iff {s : Str} (hnewline : '\n' ∈ s) :
    blockText false ((s.splitOn '\n').map keptLine) = s ↔ ReadsAsBlock s := by
  constructor
  · intro h
    exact readsAsBlock_of_keptLines (keptLines_eq_splitOn hnewline h)
  · intro h
    calc
      blockText false ((s.splitOn '\n').map keptLine) = ['\n'].intercalate (keptLines s) := rfl
      _ = ['\n'].intercalate (s.splitOn '\n') := by rw [keptLines_of_readsAsBlock h]
      _ = s := List.intercalate_splitOn '\n'

theorem blockBack_str_iff (s : Str) :
    (Value.str s).blockBack = .str s ↔ readsBack.blockText s := by
  simp only [Value.blockBack, readsBack]
  by_cases hnewline : '\n' ∈ s
  · rw [if_pos hnewline, if_pos hnewline, Value.str.injEq]
    exact blockText_eq_self_iff hnewline
  · rw [if_neg hnewline, if_neg hnewline]
    by_cases hmarker : s ∈ blockMarkers
    · have hne : s ≠ [] := by
        rintro rfl
        revert hmarker
        decide
      rw [if_pos hmarker, Value.str.injEq]
      constructor
      · intro hnil
        exact absurd hnil.symm hne
      · intro h
        exact absurd hmarker h.2
    · rw [if_neg hmarker, back_str_iff]
      simp [hmarker]

mutual

theorem blockBack_eq_self_iff : (v : Value) → (v.blockBack = v ↔ v.Meets readsBack)
  | .str s => blockBack_str_iff s
  | .dict entries => by
    rw [Value.blockBack, Value.dict.injEq, Value.Meets]
    by_cases hnested : isNested entries = true
    · rw [if_pos hnested, if_pos hnested]
      exact blockBackEntries_eq_self_iff entries
    · rw [if_neg hnested, if_neg hnested]
      exact backEntries_eq_self_iff entries
  | .list items => back_eq_self_iff (.list items)
  | .null => back_eq_self_iff .null
  | .bool b => back_eq_self_iff (.bool b)
  | .int n => back_eq_self_iff (.int n)
  | .float text => back_eq_self_iff (.float text)

/-- The parser reads the same map, exactly if each string reads back. -/
theorem blockBackEntries_eq_self_iff : (entries : List (Str × Value)) →
    (blockBackEntries entries = entries ↔ EntriesMeet readsBack entries)
  | [] => by simp [blockBackEntries, EntriesMeet]
  | (k, v) :: rest => by
    rw [blockBackEntries, List.cons.injEq, EntriesMeet, Prod.mk.injEq, blockBack_eq_self_iff v,
      blockBackEntries_eq_self_iff rest]
    simp [readsBack]

end

/-! ## The round trip -/

/-- The keys are where the parser looks for them, and the writer has lines for each newline. -/
def keepsEntries : Requirement where
  key := Trimmed pyIsSpace
  blockKey k := k.take 2 ≠ "- ".toList
  text s := '\n' ∉ s
  blockText _ := True

theorem oneLine_of_onlyNewlines {s : Str} (hnewline : '\n' ∉ s) (h : OnlyNewlines s) :
    OneLine pyIsLineBreak s := by
  intro c hc
  by_contra hbreak
  rw [h c hc (by simpa using hbreak)] at hc
  exact hnewline hc

theorem each_keepsLines {v : Value} (h : v.Each keepsEntries.text keepsEntries.key)
    (hlines : v.Strings OnlyNewlines) : v.Each keepsLines.text keepsLines.key :=
  Value.Each.imp_both (fun _ ↦ oneLine_of_onlyNewlines) (fun _ hk _ ↦ hk) v h hlines

mutual

theorem meets_keepsLines : (v : Value) → v.Meets keepsEntries → v.Strings OnlyNewlines →
    v.Meets keepsLines
  | .str _, _, hlines => hlines
  | .dict entries, h, hlines => by
    rw [Value.Meets] at h
    rw [Value.Meets]
    by_cases hnested : isNested entries = true
    · rw [if_pos hnested] at h
      rw [if_pos hnested]
      exact entriesMeet_keepsLines entries h hlines
    · rw [if_neg hnested] at h
      rw [if_neg hnested]
      exact @each_keepsLines (.dict entries) h hlines
  | .list items, h, hlines => @each_keepsLines (.list items) h hlines
  | .null, _, _ => trivial
  | .bool _, _, _ => trivial
  | .int _, _, _ => trivial
  | .float _, _, _ => trivial

theorem entriesMeet_keepsLines : (entries : List (Str × Value)) → EntriesMeet keepsEntries entries →
    (Value.dict entries).Strings OnlyNewlines → EntriesMeet keepsLines entries
  | [], _, _ => trivial
  | (_, v) :: rest, h, hlines =>
    ⟨h.1, h.2.1, meets_keepsLines v h.2.2.1 hlines.2.1,
      entriesMeet_keepsLines rest h.2.2.2 hlines.2.2⟩

end

/-- `parse` undoes `dump` on the maps that keep the lines and whose strings read back, and of the maps
whose keys are found and whose newlines have lines, on no others. -/
theorem parse_dump_eq {metadata : List (Str × Value)} (h : DocumentedEntries metadata) :
    (EntriesMeet keepsLines metadata → EntriesMeet readsBack metadata →
      parse (dump metadata 0) = .ok (.dict metadata)) ∧
    (EntriesMeet keepsEntries metadata → parse (dump metadata 0) = .ok (.dict metadata) →
      EntriesMeet keepsLines metadata ∧ EntriesMeet readsBack metadata) := by
  constructor
  · intro hlines hback
    rw [parse_dump h hlines, (blockBackEntries_eq_self_iff metadata).mpr hback]
  · intro hentries hparse
    have hlines : EntriesMeet keepsLines metadata :=
      entriesMeet_keepsLines metadata hentries (strings_parse hparse)
    refine ⟨hlines, (blockBackEntries_eq_self_iff metadata).mp ?_⟩
    rw [parse_dump h hlines, Except.ok.injEq, Value.dict.injEq] at hparse
    exact hparse

/-- `{"title": "queue: one", "tags": ["a", None, -3], "notes": "x\n\n y", "owner": {"name": "ops",
"limits": {"cpu": 2}}}`. -/
def workload : List (Str × Value) :=
  [("title".toList, .str "queue: one".toList),
    ("tags".toList, .list [.str "a".toList, .null, .int (-3)]),
    ("notes".toList, .str "x\n\n y".toList),
    ("owner".toList, .dict [("name".toList, .str "ops".toList),
      ("limits".toList, .dict [("cpu".toList, .int 2)])])]

theorem parse_dump_workload : parse (dump workload 0) = .ok (.dict workload) := by
  have hdocumented : DocumentedEntries workload := by
    simp only [workload, DocumentedEntries, Value.Documented, DocumentedItems]
    decide
  have hlines : EntriesMeet keepsLines workload := by
    simp only [workload, EntriesMeet, Value.Meets, isNested, Value.isDict, Value.isList, List.any_cons,
      List.any_nil, Bool.or_false, Bool.or_true, Bool.false_eq_true, if_true, if_false, Value.Each,
      EachItem, EachEntry, keepsLines]
    decide
  have hback : EntriesMeet readsBack workload := by
    simp only [workload, EntriesMeet, Value.Meets, isNested, Value.isDict, Value.isList, List.any_cons,
      List.any_nil, Bool.or_false, Bool.or_true, Bool.false_eq_true, if_true, if_false, Value.Each,
      EachItem, EachEntry, readsBack]
    decide
  exact (parse_dump_eq hdocumented).1 hlines hback

/-- The text of a number is written without quotes, and read as the number. -/
theorem digits_not_read_back :
    DocumentedEntries [("a".toList, .str "123".toList)] ∧
      parse (dump [("a".toList, .str "123".toList)] 0) ≠
        .ok (.dict [("a".toList, .str "123".toList)]) := by
  have hparse : parse (dump [("a".toList, .str "123".toList)] 0) =
      .ok (.dict [("a".toList, .int 123)]) := rfl
  constructor
  · simp only [DocumentedEntries, Value.Documented]
    decide
  · rw [hparse]
    simp

end DBOSModel.Frontmatter

import DBOSModel.Relational.Transaction
import DBOSModel.Workers.FrontmatterInline

/-!
# The strings of a parsed front matter

The parser reads its text line by line, and joins lines only in a block scalar. So the strings of
what it returns have no line break but newlines, whatever the text is.
-/

namespace DBOSModel.Frontmatter

open Text Relational DBOSModel.Core

/-! ## The strings of a value -/

section Each

variable {text text' text'' key key' key'' : Str → Prop}

theorem eachItem_iff {items : List Value} :
    EachItem text key items ↔ ∀ v ∈ items, v.Each text key := by
  induction items with
  | nil => simp [EachItem]
  | cons v rest ih => rw [EachItem, ih, List.forall_mem_cons]

theorem eachEntry_iff {entries : List (Str × Value)} :
    EachEntry text key entries ↔ ∀ entry ∈ entries, key entry.1 ∧ entry.2.Each text key := by
  induction entries with
  | nil => simp [EachEntry]
  | cons entry rest ih => rw [EachEntry, ih, List.forall_mem_cons, and_assoc]

mutual

theorem Value.Each.imp_both (htext : ∀ s, text s → text' s → text'' s)
    (hkey : ∀ k, key k → key' k → key'' k) :
    (v : Value) → v.Each text key → v.Each text' key' → v.Each text'' key''
  | .str s, h, h' => htext s h h'
  | .list items, h, h' => EachItem.imp_both htext hkey items h h'
  | .dict entries, h, h' => EachEntry.imp_both htext hkey entries h h'
  | .null, _, _ => trivial
  | .bool _, _, _ => trivial
  | .int _, _, _ => trivial
  | .float _, _, _ => trivial

theorem EachItem.imp_both (htext : ∀ s, text s → text' s → text'' s)
    (hkey : ∀ k, key k → key' k → key'' k) : (items : List Value) →
    EachItem text key items → EachItem text' key' items → EachItem text'' key'' items
  | [], _, _ => trivial
  | v :: rest, h, h' =>
    ⟨Value.Each.imp_both htext hkey v h.1 h'.1, EachItem.imp_both htext hkey rest h.2 h'.2⟩

theorem EachEntry.imp_both (htext : ∀ s, text s → text' s → text'' s)
    (hkey : ∀ k, key k → key' k → key'' k) : (entries : List (Str × Value)) →
    EachEntry text key entries → EachEntry text' key' entries → EachEntry text'' key'' entries
  | [], _, _ => trivial
  | (k, v) :: rest, h, h' =>
    ⟨hkey k h.1 h'.1, Value.Each.imp_both htext hkey v h.2.1 h'.2.1,
      EachEntry.imp_both htext hkey rest h.2.2 h'.2.2⟩

end

theorem Value.Each.mono (htext : ∀ s, text s → text' s) {v : Value} (h : v.Each text key) :
    v.Each text' key :=
  Value.Each.imp_both (fun s hs _ ↦ htext s hs) (fun _ hk _ ↦ hk) v h h

end Each

/-- A value all whose strings satisfy `text`. -/
abbrev Value.Strings (text : Str → Prop) (v : Value) : Prop := v.Each text fun _ ↦ True

section Strings

variable {text : Str → Prop}

theorem strings_list {items : List Value} (h : ∀ v ∈ items, v.Strings text) :
    (Value.list items).Strings text := eachItem_iff.mpr h

theorem strings_dict {entries : List (Str × Value)} (h : ∀ entry ∈ entries, entry.2.Strings text) :
    (Value.dict entries).Strings text := eachEntry_iff.mpr fun entry hentry ↦ ⟨trivial, h entry hentry⟩

theorem strings_null : Value.null.Strings text := trivial

theorem strings_of_mem_items {items : List Value} (h : (Value.list items).Strings text) :
    ∀ v ∈ items, v.Strings text := eachItem_iff.mp h

theorem strings_of_mem_entries {entries : List (Str × Value)}
    (h : (Value.dict entries).Strings text) : ∀ entry ∈ entries, entry.2.Strings text :=
  fun entry hentry ↦ (eachEntry_iff.mp h entry hentry).2

theorem strings_setItem {d : List (Str × Value)} (hd : ∀ entry ∈ d, entry.2.Strings text) (key : Str)
    {value : Value} (hvalue : value.Strings text) :
    ∀ entry ∈ setItem d key value, entry.2.Strings text := by
  intro entry hentry
  unfold setItem at hentry
  split at hentry
  · obtain ⟨old, hold, rfl⟩ := List.mem_map.mp hentry
    split
    · exact hvalue
    · exact hd old hold
  · rcases List.mem_append.mp hentry with hentry | hentry
    · exact hd entry hentry
    · rw [List.mem_singleton.mp hentry]
      exact hvalue

theorem Value.Strings.setItem {v : Value} (h : v.Strings text) (key : Str) {value : Value}
    (hvalue : value.Strings text) : (Value.setItem key value v).Strings text := by
  cases v with
  | dict d => exact strings_dict (strings_setItem (strings_of_mem_entries h) key hvalue)
  | _ => exact h

theorem Value.Strings.append {v : Value} (h : v.Strings text) {item : Value}
    (hitem : item.Strings text) : (Value.append item v).Strings text := by
  cases v with
  | list items =>
    apply strings_list
    intro w hw
    rcases List.mem_append.mp hw with hw | hw
    · exact strings_of_mem_items h w hw
    · rw [List.mem_singleton.mp hw]
      exact hitem
  | _ => exact h

/-- A change of a container leaves the strings outside of it. -/
theorem Value.Strings.modify {f : Value → Value} (hf : ∀ v, v.Strings text → (f v).Strings text)
    (p : Path) {v : Value} (h : v.Strings text) : (v.modify f p).Strings text := by
  induction p generalizing v with
  | nil => exact hf v h
  | cons key p ih =>
    cases v with
    | dict entries =>
      apply strings_dict
      intro entry hentry
      obtain ⟨old, hold, rfl⟩ := List.mem_map.mp hentry
      have hold' := strings_of_mem_entries h old hold
      split
      · exact ih hold'
      · exact hold'
    | _ => exact h

end Strings

/-! ## Inline values -/

theorem inside_subset (t : Str) : inside t ⊆ t :=
  List.Subset.trans (List.dropLast_subset _) (List.tail_suffix t).subset

theorem splitColon_subset (s : Str) : (splitColon s).1 ⊆ s ∧ (splitColon s).2 ⊆ s :=
  ⟨(List.takeWhile_prefix _).subset,
    List.Subset.trans (List.tail_suffix _).subset (List.dropWhile_suffix _).subset⟩

/-- What `_split_top` has read is on one line. -/
structure SplitState.OnOneLine (s : SplitState) : Prop where
  out : ∀ p ∈ s.out, OneLine pyIsLineBreak p
  buf : OneLine pyIsLineBreak s.buf

theorem SplitState.OnOneLine.read {s : SplitState} (h : s.OnOneLine) {ch : Char}
    (hch : pyIsLineBreak ch = false) : (s.read ch).OnOneLine := by
  have hbuf : OneLine pyIsLineBreak (s.buf ++ [ch]) := by
    apply h.buf.append
    intro c hc
    rwa [List.mem_singleton.mp hc]
  have hout : ∀ p ∈ s.out ++ [s.buf], OneLine pyIsLineBreak p := by
    intro p hp
    rcases List.mem_append.mp hp with hp | hp
    · exact h.out p hp
    · rw [List.mem_singleton.mp hp]
      exact h.buf
  unfold SplitState.read
  split
  · exact ⟨h.out, hbuf⟩
  · split_ifs
    · exact ⟨h.out, hbuf⟩
    · exact ⟨h.out, hbuf⟩
    · exact ⟨h.out, hbuf⟩
    · exact ⟨hout, oneLine_nil⟩
    · exact ⟨h.out, hbuf⟩

theorem SplitState.OnOneLine.foldl {t : Str} (ht : OneLine pyIsLineBreak t) {s : SplitState}
    (h : s.OnOneLine) : (t.foldl SplitState.read s).OnOneLine := by
  induction t generalizing s with
  | nil => exact h
  | cons ch t ih =>
    have hch := ht ch List.mem_cons_self
    exact ih (fun c hc ↦ ht c (List.mem_cons_of_mem _ hc)) (h.read hch)

theorem oneLine_of_mem_splitTop {t p : Str} (ht : OneLine pyIsLineBreak t) (hp : p ∈ splitTop t) :
    OneLine pyIsLineBreak p := by
  have hinitial : ({} : SplitState).OnOneLine := ⟨List.forall_mem_nil _, oneLine_nil⟩
  have hread := hinitial.foldl ht
  simp only [splitTop] at hp
  split at hp
  · rcases List.mem_append.mp hp with hp | hp
    · exact hread.out p hp
    · rw [List.mem_singleton.mp hp]
      exact hread.buf
  · exact hread.out p hp

theorem strings_scalar {tok : Str} (h : OneLine pyIsLineBreak tok) :
    (scalar tok).Strings (OneLine pyIsLineBreak) := by
  have hstrip : OneLine pyIsLineBreak (strip tok) := h.subset (strip_subset pyIsSpace tok)
  rw [scalar]
  split
  · trivial
  · split
    · trivial
    · split
      · trivial
      · split
        · exact hstrip.subset (inside_subset _)
        · split
          · trivial
          · split
            · trivial
            · exact hstrip

section Inline

variable {read : Str → Except ParseError Value} {lineno : ℕ}

/-- The values of the texts on one line have their strings on one line. -/
def ReadsLines (read : Str → Except ParseError Value) : Prop :=
  ∀ tok v, OneLine pyIsLineBreak tok → read tok = .ok v → v.Strings (OneLine pyIsLineBreak)

theorem strings_inlineItems (hread : ReadsLines read) {toks : List Str} {items : List Value}
    (htoks : ∀ p ∈ toks, OneLine pyIsLineBreak p) (h : inlineItems read toks = .ok items) :
    ∀ v ∈ items, v.Strings (OneLine pyIsLineBreak) := by
  induction toks generalizing items with
  | nil =>
    cases h
    intro v hv
    cases hv
  | cons p rest ih =>
    obtain ⟨item, hitem, htail⟩ := bind_eq_ok.mp h
    obtain ⟨items', hrest, hpure⟩ := bind_eq_ok.mp htail
    cases hpure
    rw [List.forall_mem_cons]
    exact ⟨hread p item (htoks p List.mem_cons_self) hitem,
      ih (fun q hq ↦ htoks q (List.mem_cons_of_mem _ hq)) hrest⟩

theorem strings_inlineEntries (hread : ReadsLines read) {parts : List Str}
    {d d' : List (Str × Value)} (hparts : ∀ p ∈ parts, OneLine pyIsLineBreak p)
    (hd : ∀ entry ∈ d, entry.2.Strings (OneLine pyIsLineBreak))
    (h : inlineEntries read lineno parts d = .ok d') :
    ∀ entry ∈ d', entry.2.Strings (OneLine pyIsLineBreak) := by
  induction parts generalizing d with
  | nil =>
    cases h
    exact hd
  | cons part rest ih =>
    rw [inlineEntries] at h
    split at h
    · have hpart := (hparts part List.mem_cons_self).subset (splitColon_subset part).2
      obtain ⟨value, hvalue, htail⟩ := bind_eq_ok.mp h
      obtain ⟨key, -, hrest⟩ := bind_eq_ok.mp htail
      exact ih (fun p hp ↦ hparts p (List.mem_cons_of_mem _ hp))
        (strings_setItem hd key (hread _ value hpart hvalue)) hrest
    · cases h

theorem readsLines_inlineWith (lineno fuel : ℕ) : ReadsLines (inlineWith lineno fuel) := by
  induction fuel with
  | zero =>
    intro tok v htok h
    cases h
    exact strings_scalar htok
  | succ fuel ih =>
    intro tok v htok h
    have hstrip : OneLine pyIsLineBreak (strip tok) := htok.subset (strip_subset pyIsSpace tok)
    have hinner : OneLine pyIsLineBreak (strip (inside (strip tok))) :=
      (hstrip.subset (inside_subset _)).subset (strip_subset pyIsSpace _)
    have hparts : ∀ p ∈ splitTop (strip (inside (strip tok))), OneLine pyIsLineBreak p :=
      fun p hp ↦ oneLine_of_mem_splitTop hinner hp
    simp only [inlineWith] at h
    split at h
    · split at h
      · cases h
        trivial
      · obtain ⟨items, hitems, hpure⟩ := bind_eq_ok.mp h
        cases hpure
        exact strings_list (strings_inlineItems ih hparts hitems)
    · split at h
      · split at h
        · cases h
          trivial
        · obtain ⟨d, hd, hpure⟩ := bind_eq_ok.mp h
          cases hpure
          exact strings_dict (strings_inlineEntries ih hparts (List.forall_mem_nil _) hd)
      · split at h
        · cases h
        · cases h
          exact strings_scalar hstrip

end Inline

theorem strings_inline {tok : Str} (htok : OneLine pyIsLineBreak tok) {lineno : ℕ} {v : Value}
    (h : inline tok lineno = .ok v) : v.Strings (OneLine pyIsLineBreak) :=
  readsLines_inlineWith lineno tok.length tok v htok h

/-! ## Lines -/

/-- The string has no line break but newlines. -/
def OnlyNewlines (s : Str) : Prop := ∀ c ∈ s, pyIsLineBreak c = true → c = '\n'

instance (s : Str) : Decidable (OnlyNewlines s) := List.decidableBAll _ s

theorem OnlyNewlines.of_oneLine {s : Str} (h : OneLine pyIsLineBreak s) : OnlyNewlines s := by
  intro c hc hbreak
  rw [h c hc] at hbreak
  cases hbreak

theorem oneLine_blockLines {ind : ℕ} {folded : Bool} {lines : List Str}
    (h : ∀ line ∈ lines, OneLine pyIsLineBreak line) :
    ∀ line ∈ blockLines ind folded lines, OneLine pyIsLineBreak line := by
  induction lines with
  | nil => exact List.forall_mem_nil _
  | cons nxt rest ih =>
    have hnxt := h nxt List.mem_cons_self
    have hrest := ih fun line hline ↦ h line (List.mem_cons_of_mem _ hline)
    rw [blockLines]
    split
    · exact List.forall_mem_cons.mpr ⟨oneLine_nil, hrest⟩
    · split
      · exact List.forall_mem_nil _
      · refine List.forall_mem_cons.mpr ⟨?_, hrest⟩
        split
        · exact hnxt.subset (strip_subset pyIsSpace nxt)
        · exact hnxt.subset (List.drop_subset _ _)

/-- Lines are joined only by newlines. -/
theorem onlyNewlines_blockText {folded : Bool} {block : List Str}
    (h : ∀ line ∈ block, OneLine pyIsLineBreak line) : OnlyNewlines (blockText folded block) := by
  intro c hc hbreak
  rcases of_mem_intercalate hc with hsep | ⟨line, hline, hc⟩
  · cases folded with
    | true =>
      rw [if_pos rfl, List.mem_singleton] at hsep
      rw [hsep] at hbreak
      cases hbreak
    | false =>
      rw [if_neg Bool.false_ne_true, List.mem_singleton] at hsep
      exact hsep
  · have hmem := (List.rdropWhile_prefix _ block).subset hline
    exact OnlyNewlines.of_oneLine (h line hmem) c hc hbreak

/-- An assignment at the end of the path. -/
theorem strings_assigned {root : Value} (h : root.Strings OnlyNewlines) (cur : Path) (key : Str) {value : Value}
    (hvalue : value.Strings OnlyNewlines) :
    (root.modify (Value.setItem key value) cur).Strings OnlyNewlines :=
  h.modify (fun _ hv ↦ hv.setItem key hvalue) cur

theorem strings_resolve {s : ParseState} (h : s.root.Strings OnlyNewlines) (ind : ℕ) (body : Str) :
    (s.resolve ind body).root.Strings OnlyNewlines := by
  unfold ParseState.resolve
  split
  · exact h
  · split
    · have hcontainer :
          (if isDash body then Value.list [] else Value.dict []).Strings OnlyNewlines := by
        split
        · exact strings_list (List.forall_mem_nil _)
        · exact strings_dict (List.forall_mem_nil _)
      exact strings_assigned h _ _ hcontainer
    · exact strings_assigned h _ _ strings_null

section Step

variable {s s' : ParseState} {lineno skip : ℕ} {rest : List Str}

theorem strings_readEntry (h : s.root.Strings OnlyNewlines) {cur : Path} {ind : ℕ} {body : Str}
    (hbody : OneLine pyIsLineBreak body) (hrest : ∀ line ∈ rest, OneLine pyIsLineBreak line)
    (hread : s.readEntry cur lineno ind body rest = .ok (s', skip)) :
    s'.root.Strings OnlyNewlines := by
  have hvalue : OneLine pyIsLineBreak (strip (splitColon body).2) :=
    (hbody.subset (splitColon_subset body).2).subset (strip_subset pyIsSpace _)
  rw [ParseState.readEntry] at hread
  split at hread
  · obtain ⟨key, -, hread⟩ := bind_eq_ok.mp hread
    simp only at hread
    split at hread
    · cases hread
      exact strings_assigned h cur key (onlyNewlines_blockText (oneLine_blockLines hrest))
    · split at hread
      · cases hread
        exact h
      · obtain ⟨value, hinline, hpure⟩ := bind_eq_ok.mp hread
        cases hpure
        have hstrings := strings_inline hvalue hinline
        exact strings_assigned h cur key (hstrings.mono fun _ ↦ OnlyNewlines.of_oneLine)
  · cases hread

theorem strings_readLine (h : s.root.Strings OnlyNewlines) {raw : Str}
    (hraw : OneLine pyIsLineBreak raw) (hrest : ∀ line ∈ rest, OneLine pyIsLineBreak line)
    (hread : s.readLine lineno raw rest = .ok (s', skip)) : s'.root.Strings OnlyNewlines := by
  have hbody : OneLine pyIsLineBreak (strip raw) := hraw.subset (strip_subset pyIsSpace raw)
  have hresolve := strings_resolve h (indentOf raw) (strip raw)
  rw [ParseState.readLine] at hread
  split at hread
  · cases hread
    exact h
  · split at hread
    · cases hread
    · simp only at hread
      split at hread
      · cases hread
      · split at hread
        · split at hread
          · split at hread
            · cases hread
            · obtain ⟨value, hinline, hpure⟩ := bind_eq_ok.mp hread
              cases hpure
              have hitem : OneLine pyIsLineBreak (strip (strip raw).tail) :=
                (hbody.subset (List.tail_suffix _).subset).subset (strip_subset pyIsSpace _)
              have hstrings := strings_inline hitem hinline
              exact hresolve.modify
                (fun _ hv ↦ hv.append (hstrings.mono fun _ ↦ OnlyNewlines.of_oneLine)) _
          · cases hread
        · split at hread
          · apply strings_readEntry _ hbody hrest hread
            exact hresolve
          · cases hread

/-- The run over the lines. -/
theorem strings_readLines {lines : List Str} (h : s.root.Strings OnlyNewlines)
    (hlines : ∀ line ∈ lines, OneLine pyIsLineBreak line)
    (hread : s.readLines lineno skip lines = .ok s') : s'.root.Strings OnlyNewlines := by
  induction lines generalizing s lineno skip with
  | nil =>
    rw [ParseState.readLines] at hread
    cases hread
    exact h
  | cons raw rest ih =>
    have hrest : ∀ line ∈ rest, OneLine pyIsLineBreak line :=
      fun line hline ↦ hlines line (List.mem_cons_of_mem _ hline)
    cases skip with
    | zero =>
      obtain ⟨⟨s₁, skip₁⟩, hstep, hread⟩ := bind_eq_ok.mp hread
      exact ih (strings_readLine h (hlines raw List.mem_cons_self) hrest hstep) hrest hread
    | succ skip => exact ih h hrest hread

end Step

/-- No string that `parse` returns has a line break but newlines. -/
theorem strings_parse {text : Str} {v : Value} (h : parse text = .ok v) :
    v.Strings OnlyNewlines := by
  obtain ⟨s, hread, hpure⟩ := bind_eq_ok.mp h
  cases hpure
  have hinitial : ParseState.initial.root.Strings OnlyNewlines :=
    strings_dict (List.forall_mem_nil _)
  have hroot : s.root.Strings OnlyNewlines :=
    strings_readLines hinitial (fun _ hline ↦ oneLine_of_mem_splitlines hline) hread
  split
  · exact strings_assigned hroot _ _ strings_null
  · exact hroot

end DBOSModel.Frontmatter

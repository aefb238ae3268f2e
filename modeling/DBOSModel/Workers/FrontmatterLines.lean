import DBOSModel.Workers.FrontmatterContainers

/-!
# Lines of the front matter

What one turn of the loop of `parse` does with the line of an entry, and which lines it takes for the
block scalar after it.
-/

namespace DBOSModel.Frontmatter

open Text DBOSModel.Core

/-! ## Lines -/

def pad (n : ℕ) : Str := List.replicate n ' '

theorem pyIsSpace_of_mem_pad {n : ℕ} {c : Char} (h : c ∈ pad n) : pyIsSpace c = true := by
  rw [List.eq_of_mem_replicate h]
  decide

theorem strip_pad (n : ℕ) (s : Str) : strip (pad n ++ s) = strip s :=
  strip_append_left (fun _ hc ↦ pyIsSpace_of_mem_pad hc) s

/-- A key that the parser finds at the head of a line. -/
structure LineKey (k : Str) : Prop where
  key : IsKey k
  trimmed : Trimmed pyIsSpace k
  notDash : k.take 2 ≠ "- ".toList

/-- The line of an entry, less its indentation: the key, a colon, and what follows it. -/
structure EntryBody (k tail : Str) : Prop extends LineKey k where
  body : Trimmed pyIsSpace (k ++ ':' :: tail)

section EntryLine

variable {k tail : Str} {n : ℕ}

theorem EntryBody.head (h : EntryBody k tail) :
    ∃ c rest, k ++ ':' :: tail = c :: rest ∧ pyIsSpace c = false ∧ c ≠ '#' := by
  cases hk : k with
  | nil => exact absurd hk h.key.nonempty
  | cons c rest =>
    refine ⟨c, rest ++ ':' :: tail, rfl, h.trimmed.head c (by rw [hk]; rfl), ?_⟩
    rintro rfl
    exact (h.key.free '#' (by rw [hk]; exact List.mem_cons_self)).1 (by decide)

theorem EntryBody.strip (h : EntryBody k tail) :
    strip (pad n ++ (k ++ ':' :: tail)) = k ++ ':' :: tail := by
  rw [strip_pad]
  exact strip_of_trimmed h.body

theorem EntryBody.indentOf (h : EntryBody k tail) : indentOf (pad n ++ (k ++ ':' :: tail)) = n := by
  obtain ⟨c, rest, hbody, hspace, -⟩ := h.head
  have hne : c ≠ ' ' := by
    rintro rfl
    cases hspace
  have hpad : ∀ d ∈ pad n, decide (d = ' ') = true := by
    intro d hd
    rw [decide_eq_true_eq]
    exact List.eq_of_mem_replicate hd
  rw [Frontmatter.indentOf, hbody, List.takeWhile_append_of_pos hpad]
  simp [hne, pad]

theorem EntryBody.isDash (h : EntryBody k tail) : isDash (k ++ ':' :: tail) = false := by
  have hnotDash := h.notDash
  rw [Frontmatter.isDash, Bool.or_eq_false_iff, decide_eq_false_iff_not, decide_eq_false_iff_not]
  cases hk : k with
  | nil => exact absurd hk h.key.nonempty
  | cons c rest =>
    cases rest with
    | nil => simp
    | cons d rest =>
      rw [hk] at hnotDash
      refine ⟨by simpa using hnotDash, by simp⟩

theorem EntryBody.notSkipped (h : EntryBody k tail) :
    ¬(Frontmatter.strip (pad n ++ (k ++ ':' :: tail)) = [] ∨
      ((pad n ++ (k ++ ':' :: tail)).dropWhile pyIsSpace).head? = some '#') := by
  obtain ⟨c, chars, hbody, hspace, hcomment⟩ := h.head
  have hdrop : (pad n ++ (k ++ ':' :: tail)).dropWhile pyIsSpace = c :: chars := by
    rw [List.dropWhile_append_of_pos fun _ hc ↦ pyIsSpace_of_mem_pad hc, hbody,
      List.dropWhile_cons_of_neg (by simp [hspace])]
  rw [h.strip, hdrop, hbody]
  simp [hcomment]

theorem EntryBody.noTab (h : EntryBody k tail) :
    '\t' ∉ (pad n ++ (k ++ ':' :: tail)).takeWhile pyIsSpace := by
  obtain ⟨c, chars, hbody, hspace, -⟩ := h.head
  have htake : (pad n ++ (k ++ ':' :: tail)).takeWhile pyIsSpace = pad n := by
    rw [List.takeWhile_append_of_pos fun _ hc ↦ pyIsSpace_of_mem_pad hc, hbody,
      List.takeWhile_cons_of_neg (by simp [hspace]), List.append_nil]
  rw [htake]
  intro hmem
  cases List.eq_of_mem_replicate hmem

/-- The parser takes the line as an entry of the container on the top of the stack. -/
theorem readLine_entry (h : EntryBody k tail) {s : ParseState} {lineno : ℕ} {rest : List Str}
    {curInd : ℤ} {cur : Path} {below : List (ℤ × Path)}
    (hstack : ((s.resolve n (k ++ ':' :: tail)).stack.dropWhile fun entry ↦ (n : ℤ) ≤ entry.1) =
      (curInd, cur) :: below)
    (hdict : ((s.resolve n (k ++ ':' :: tail)).root.get cur).any Value.isDict = true) :
    s.readLine lineno (pad n ++ (k ++ ':' :: tail)) rest =
      ParseState.readEntry
        { s.resolve n (k ++ ':' :: tail) with stack := (curInd, cur) :: below }
        cur lineno n (k ++ ':' :: tail) rest := by
  rw [ParseState.readLine, if_neg h.notSkipped, if_neg h.noTab]
  simp only [h.strip, h.indentOf, hstack, h.isDash, Bool.false_eq_true, if_false, hdict, if_true]

theorem pendingKey_resolve (s : ParseState) (ind : ℕ) (body : Str) :
    (s.resolve ind body).pendingKey = none := by
  unfold ParseState.resolve
  split
  · assumption
  · split
    · rfl
    · rfl

theorem resolve_of_none {s : ParseState} (h : s.pendingKey = none) (ind : ℕ) (body : Str) :
    s.resolve ind body = s := by
  rw [ParseState.resolve, h]

/-- A pending key is resolved by the line, whatever else it does. -/
theorem readLine_resolve (h : EntryBody k tail) (s : ParseState) (lineno : ℕ) (rest : List Str) :
    s.readLine lineno (pad n ++ (k ++ ':' :: tail)) rest =
      (s.resolve n (k ++ ':' :: tail)).readLine lineno (pad n ++ (k ++ ':' :: tail)) rest := by
  rw [ParseState.readLine, ParseState.readLine, if_neg h.notSkipped, if_neg h.notSkipped]
  simp only [h.strip, h.indentOf, resolve_of_none (pendingKey_resolve s n (k ++ ':' :: tail))]

/-! ### The kinds of entries -/

variable {s : ParseState} {cur : Path} {lineno : ℕ} {rest : List Str}

theorem readEntry_eq (h : EntryBody k tail) :
    s.readEntry cur lineno n (k ++ ':' :: tail) rest =
      if strip tail ∈ blockMarkers then
        .ok ({ s with root := s.root.modify (Value.setItem k (.str (blockText
            ((strip tail).head? = some '>')
            (blockLines n ((strip tail).head? = some '>') rest)))) cur },
          (blockLines n ((strip tail).head? = some '>') rest).length)
      else if strip tail = [] then .ok ({ s with pendingKey := some (n, cur, k) }, 0)
      else (inline (strip tail) lineno).map fun value ↦
        ({ s with root := s.root.modify (Value.setItem k value) cur }, 0) := by
  have hcolon : ':' ∈ k ++ ':' :: tail := by simp
  have hkey : ':' ∉ k := fun hmem ↦ (h.key.free _ hmem).1 (by decide)
  have hread : readKey k lineno = .ok k := readKey_of_isKey h.key (strip_of_trimmed h.trimmed) lineno
  rw [ParseState.readEntry, if_pos hcolon, splitColon_append hkey]
  simp only [hread]
  split
  · rfl
  · split
    · rfl
    · rfl

end EntryLine

/-! ## Block scalars -/

/-- What the parser keeps of a line of a block scalar. -/
def keptLine (ln : Str) : Str := if strip ln = [] then [] else ln

/-- Nothing that follows belongs to a block with more indentation than `n`. -/
def Ends (n : ℕ) (rest : List Str) : Prop :=
  ∀ line ∈ rest.head?, strip line ≠ [] ∧ indentOf line ≤ n

theorem ends_nil (n : ℕ) : Ends n [] := by
  intro line hline
  cases hline

theorem EntryBody.ends {k tail : Str} {n m : ℕ} (h : EntryBody k tail) (hle : n ≤ m)
    (rest : List Str) : Ends m ((pad n ++ (k ++ ':' :: tail)) :: rest) := by
  intro line hline
  cases hline
  rw [h.strip, h.indentOf]
  obtain ⟨c, chars, hbody, -⟩ := h.head
  rw [hbody]
  exact ⟨List.cons_ne_nil _ _, hle⟩

theorem Ends.mono {n m : ℕ} {rest : List Str} (h : Ends n rest) (hle : n ≤ m) : Ends m rest := by
  intro line hline
  exact ⟨(h line hline).1, (h line hline).2.trans hle⟩

theorem blockLines_of_ends {n : ℕ} {rest : List Str} (h : Ends n rest) (folded : Bool) :
    blockLines n folded rest = [] := by
  cases rest with
  | nil => rfl
  | cons line rest =>
    obtain ⟨hblank, hindent⟩ := h line rfl
    rw [blockLines, if_neg hblank, if_pos hindent]

/-- The lines of a block scalar are read up to the next line of the dump. -/
theorem blockLines_append {n : ℕ} {rest : List Str} (h : Ends n rest) (lines : List Str) :
    blockLines n false ((lines.map fun ln ↦ pad n ++ "  ".toList ++ ln) ++ rest) =
      lines.map keptLine := by
  induction lines with
  | nil => exact blockLines_of_ends h false
  | cons ln lines ih =>
    have hspaces : pad n ++ "  ".toList = pad (n + 2) := by
      rw [pad, pad, List.replicate_add]
      rfl
    rw [List.map_cons, List.cons_append, blockLines, hspaces, strip_pad, List.map_cons, keptLine]
    rw [hspaces] at ih
    by_cases hblank : strip ln = []
    · rw [if_pos hblank, if_pos hblank, ih]
    · have hindent : ¬ indentOf (pad (n + 2) ++ ln) ≤ n := by
        have hpad : ∀ d ∈ pad (n + 2), decide (d = ' ') = true := by
          intro d hd
          rw [decide_eq_true_eq]
          exact List.eq_of_mem_replicate hd
        rw [indentOf, List.takeWhile_append_of_pos hpad, List.length_append, pad,
          List.length_replicate]
        omega
      have hdrop : (pad (n + 2) ++ ln).drop (n + 2) = ln := by
        rw [List.drop_append_of_le_length (by simp [pad])]
        simp [pad]
      rw [if_neg hblank, if_neg hindent, if_neg Bool.false_ne_true, hdrop, if_neg hblank, ih]

/-- The loop goes over the lines of a block scalar. -/
theorem readLines_skip (s : ParseState) (lineno : ℕ) (lines rest : List Str) :
    s.readLines lineno lines.length (lines ++ rest) =
      s.readLines (lineno + lines.length) 0 rest := by
  induction lines generalizing lineno with
  | nil => rfl
  | cons line lines ih =>
    rw [List.cons_append, List.length_cons, ParseState.readLines, ih]
    congr 1
    omega

end DBOSModel.Frontmatter

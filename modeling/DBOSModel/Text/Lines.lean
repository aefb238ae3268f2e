import Mathlib.Data.List.DropRight

/-!
# Texts as lists of characters

The string functions of line-oriented formats, with Python's results: `strip`, `splitlines`, `split`
at the first separator, and `join`. What counts as whitespace or as the end of a line is a
parameter. Each splitting function undoes a join of texts that are free of what it splits at.
-/

namespace DBOSModel.Text

/-! ## Join -/

theorem intercalate_ne_nil {α : Type} {sep p : List α} {rest : List (List α)} (h : p ≠ []) :
    sep.intercalate (p :: rest) ≠ [] := by
  cases rest with
  | nil => rwa [List.intercalate_singleton]
  | cons q rest =>
    rw [List.intercalate_cons_cons]
    simp [h]

theorem intercalate_append {α : Type} (sep : List α) {first second : List (List α)}
    (hfirst : first ≠ []) (hsecond : second ≠ []) :
    sep.intercalate (first ++ second) = sep.intercalate first ++ sep ++ sep.intercalate second := by
  induction first with
  | nil => exact absurd rfl hfirst
  | cons p rest ih =>
    cases rest with
    | nil =>
      rw [List.singleton_append, List.intercalate_cons_of_ne_nil hsecond, List.intercalate_singleton]
    | cons q rest =>
      have htail := ih (List.cons_ne_nil _ _)
      rw [List.cons_append] at htail
      rw [List.cons_append, List.cons_append, List.intercalate_cons_cons, htail,
        List.intercalate_cons_cons]
      simp only [List.append_assoc]

/-- Every character of a join is one of a part or of the separator. -/
theorem of_mem_intercalate {α : Type} {sep : List α} {parts : List (List α)} {c : α}
    (h : c ∈ sep.intercalate parts) : c ∈ sep ∨ ∃ p ∈ parts, c ∈ p := by
  induction parts with
  | nil => cases h
  | cons p rest ih =>
    cases rest with
    | nil =>
      rw [List.intercalate_singleton] at h
      exact Or.inr ⟨p, List.mem_cons_self, h⟩
    | cons q rest =>
      rw [List.intercalate_cons_cons, List.mem_append, List.mem_append] at h
      rcases h with (h | h) | h
      · exact Or.inr ⟨p, List.mem_cons_self, h⟩
      · exact Or.inl h
      · rcases ih h with hsep | ⟨part, hpart, hc⟩
        · exact Or.inl hsep
        · exact Or.inr ⟨part, List.mem_cons_of_mem _ hpart, hc⟩

theorem length_le_intercalate {α : Type} {sep p : List α} {parts : List (List α)} (h : p ∈ parts) :
    p.length ≤ (sep.intercalate parts).length := by
  induction parts with
  | nil => cases h
  | cons q rest ih =>
    cases rest with
    | nil =>
      rw [List.mem_singleton] at h
      rw [List.intercalate_singleton, h]
    | cons r rest =>
      rw [List.intercalate_cons_cons, List.length_append, List.length_append]
      rcases List.mem_cons.mp h with rfl | hmem
      · omega
      · have := ih hmem
        omega

/-- A part between separators has no separator, and no other characters than the text. -/
theorem of_mem_splitOn {α : Type} [DecidableEq α] {sep : α} {s part : List α}
    (h : part ∈ s.splitOn sep) : sep ∉ part ∧ ∀ c ∈ part, c ∈ s := by
  induction s generalizing part with
  | nil =>
    rw [List.splitOn_nil, List.mem_singleton] at h
    simp [h]
  | cons c s ih =>
    rw [List.splitOn_cons_eq_if_modifyHead] at h
    split at h
    · rcases List.mem_cons.mp h with rfl | h
      · simp
      · exact ⟨(ih h).1, fun d hd ↦ List.mem_cons_of_mem _ ((ih h).2 d hd)⟩
    · rename_i hne
      have hc : sep ≠ c := fun heq ↦ hne (by simp [heq])
      cases hsplit : s.splitOn sep with
      | nil => exact absurd hsplit (List.splitOn_ne_nil sep s)
      | cons first rest =>
        rw [hsplit, List.modifyHead_cons] at h
        rw [hsplit] at ih
        rcases List.mem_cons.mp h with rfl | h
        · obtain ⟨hsep, hsub⟩ := ih List.mem_cons_self
          constructor
          · simp [hc, hsep]
          · intro d hd
            rcases List.mem_cons.mp hd with rfl | hd
            · exact List.mem_cons_self
            · exact List.mem_cons_of_mem _ (hsub d hd)
        · obtain ⟨hsep, hsub⟩ := ih (List.mem_cons_of_mem _ h)
          exact ⟨hsep, fun d hd ↦ List.mem_cons_of_mem _ (hsub d hd)⟩

/-! ## Strip -/

section Strip

variable {α : Type} {space : α → Bool} {s t : List α}

/-- `s.strip()`. -/
def strip (space : α → Bool) (s : List α) : List α := (s.dropWhile space).rdropWhile space

/-- The text neither begins nor ends with whitespace. -/
structure Trimmed (space : α → Bool) (s : List α) : Prop where
  head : ∀ c ∈ s.head?, space c = false
  last : ∀ c ∈ s.getLast?, space c = false

instance (space : α → Bool) (s : List α) : Decidable (Trimmed space s) :=
  decidable_of_iff ((∀ c ∈ s.head?, space c = false) ∧ ∀ c ∈ s.getLast?, space c = false)
    ⟨fun h ↦ ⟨h.1, h.2⟩, fun h ↦ ⟨h.head, h.last⟩⟩

theorem dropWhile_eq_self (h : ∀ c ∈ s.head?, space c = false) : s.dropWhile space = s := by
  cases s with
  | nil => rfl
  | cons c rest => rw [List.dropWhile_cons_of_neg (by simp [h c rfl])]

theorem rdropWhile_eq_self (h : ∀ c ∈ s.getLast?, space c = false) : s.rdropWhile space = s := by
  rw [List.rdropWhile_eq_self_iff]
  intro hne
  simp [h _ (List.getLast?_eq_some_getLast hne)]

theorem strip_of_trimmed (h : Trimmed space s) : strip space s = s := by
  rw [strip, dropWhile_eq_self h.head, rdropWhile_eq_self h.last]

theorem strip_subset (space : α → Bool) (s : List α) : strip space s ⊆ s :=
  List.Subset.trans (List.rdropWhile_prefix space _).subset (List.dropWhile_suffix space).subset

theorem strip_append_left (hs : ∀ c ∈ s, space c = true) (t : List α) :
    strip space (s ++ t) = strip space t := by
  rw [strip, List.dropWhile_append_of_pos hs, strip]

theorem trimmed_of_forall (h : ∀ c ∈ s, space c = false) : Trimmed space s where
  head c hc := h c (List.mem_of_mem_head? hc)
  last c hc := h c (List.mem_of_mem_getLast? hc)

theorem trimmed_append (hs : Trimmed space s) (ht : Trimmed space t) (hne : s ≠ [])
    (hne' : t ≠ []) (middle : List α) : Trimmed space (s ++ middle ++ t) := by
  constructor
  · intro c hc
    rw [List.append_assoc, List.head?_append_of_ne_nil _ hne] at hc
    exact hs.head c hc
  · intro c hc
    rw [List.getLast?_append_of_ne_nil _ hne'] at hc
    exact ht.last c hc

/-- A join of trimmed texts is trimmed. -/
theorem trimmed_intercalate {sep : List α} {parts : List (List α)}
    (h : ∀ p ∈ parts, p ≠ [] ∧ Trimmed space p) : Trimmed space (sep.intercalate parts) := by
  induction parts with
  | nil =>
    rw [List.intercalate_nil]
    exact trimmed_of_forall (by simp)
  | cons p rest ih =>
    obtain ⟨hne, hp⟩ := h p List.mem_cons_self
    have hrest := ih fun q hq ↦ h q (List.mem_cons_of_mem _ hq)
    cases rest with
    | nil => rwa [List.intercalate_singleton]
    | cons q rest =>
      have hq : q ≠ [] := (h q (List.mem_cons_of_mem _ List.mem_cons_self)).1
      rw [List.intercalate_cons_cons]
      exact trimmed_append hp hrest hne (intercalate_ne_nil hq) sep

theorem trimmed_strip (space : α → Bool) (s : List α) : Trimmed space (strip space s) := by
  constructor
  · intro c hc
    obtain ⟨rest, hdropped⟩ := List.rdropWhile_prefix space (l := s.dropWhile space)
    have hhead : (s.dropWhile space).head? = some c := by
      rw [← hdropped, List.head?_append]
      rw [strip] at hc
      rw [hc]
      rfl
    have hnot := List.head?_dropWhile_not space s
    rw [hhead] at hnot
    exact hnot
  · intro c hc
    have hne : strip space s ≠ [] := by
      rintro hnil
      rw [hnil] at hc
      cases hc
    have hlast := List.rdropWhile_last_not space (s.dropWhile space) hne
    rw [Option.mem_def, List.getLast?_eq_some_getLast hne, Option.some.injEq] at hc
    rw [← hc]
    simpa [strip] using hlast

end Strip

/-! ## Lines -/

section Lines

variable {isBreak : Char → Bool}

/-- `text.splitlines()`, from a place where `line` has been read of the current line. A carriage
return and the newline after it end one line; `afterReturn` says that there was one just before. -/
def splitlinesFrom (isBreak : Char → Bool) (line : List Char) (afterReturn : Bool) :
    List Char → List (List Char)
  | [] => if line = [] then [] else [line]
  | c :: rest =>
    if afterReturn && c = '\n' then splitlinesFrom isBreak [] false rest
    else if isBreak c then line :: splitlinesFrom isBreak [] (c = '\r') rest
    else splitlinesFrom isBreak (line ++ [c]) false rest

def splitlines (isBreak : Char → Bool) (text : List Char) : List (List Char) :=
  splitlinesFrom isBreak [] false text

/-- Nothing in the text ends a line. -/
def OneLine (isBreak : Char → Bool) (s : List Char) : Prop := ∀ c ∈ s, isBreak c = false

instance (isBreak : Char → Bool) (s : List Char) : Decidable (OneLine isBreak s) :=
  List.decidableBAll _ s

theorem oneLine_nil : OneLine isBreak [] := by
  intro c hc
  cases hc

theorem OneLine.append {s t : List Char} (hs : OneLine isBreak s) (ht : OneLine isBreak t) :
    OneLine isBreak (s ++ t) := by
  intro c hc
  rcases List.mem_append.mp hc with hc | hc
  · exact hs c hc
  · exact ht c hc

theorem OneLine.subset {s t : List Char} (hs : OneLine isBreak s) (h : t ⊆ s) : OneLine isBreak t :=
  fun c hc ↦ hs c (h hc)

theorem oneLine_intercalate {sep : List Char} {parts : List (List Char)} (hsep : OneLine isBreak sep)
    (h : ∀ p ∈ parts, OneLine isBreak p) : OneLine isBreak (sep.intercalate parts) := by
  intro c hc
  rcases of_mem_intercalate hc with hc | ⟨p, hp, hc⟩
  · exact hsep c hc
  · exact h p hp c hc

theorem splitlinesFrom_append {s : List Char} (hs : OneLine isBreak s) (line rest : List Char) :
    splitlinesFrom isBreak line false (s ++ rest) =
      splitlinesFrom isBreak (line ++ s) false rest := by
  induction s generalizing line with
  | nil => rw [List.nil_append, List.append_nil]
  | cons c s ih =>
    have hc : isBreak c = false := hs c List.mem_cons_self
    have htail : OneLine isBreak s := fun d hd ↦ hs d (List.mem_cons_of_mem _ hd)
    rw [List.cons_append, splitlinesFrom, Bool.false_and, if_neg Bool.false_ne_true, hc,
      if_neg Bool.false_ne_true, ih htail, List.append_assoc, List.singleton_append]

theorem oneLine_of_mem_splitlinesFrom {text line : List Char} {afterReturn : Bool}
    (hline : OneLine isBreak line) :
    ∀ part ∈ splitlinesFrom isBreak line afterReturn text, OneLine isBreak part := by
  induction text generalizing line afterReturn with
  | nil =>
    intro part hpart
    rw [splitlinesFrom] at hpart
    split at hpart
    · cases hpart
    · rw [List.mem_singleton.mp hpart]
      exact hline
  | cons c rest ih =>
    intro part hpart
    rw [splitlinesFrom] at hpart
    split at hpart
    · exact ih oneLine_nil part hpart
    · split at hpart
      · rcases List.mem_cons.mp hpart with rfl | hpart
        · exact hline
        · exact ih oneLine_nil part hpart
      · rename_i hc
        have hext : OneLine isBreak (line ++ [c]) := by
          apply hline.append
          intro d hd
          rw [List.mem_singleton.mp hd]
          simpa using hc
        exact ih hext part hpart

/-- Nothing in a line of `splitlines` ends a line. -/
theorem oneLine_of_mem_splitlines {text part : List Char} (h : part ∈ splitlines isBreak text) :
    OneLine isBreak part :=
  oneLine_of_mem_splitlinesFrom oneLine_nil part h

/-- `splitlines` undoes `"\n".join` of lines, if the last one is not empty. -/
theorem splitlines_intercalate (hbreak : isBreak '\n' = true) {lines : List (List Char)}
    (hlines : ∀ line ∈ lines, OneLine isBreak line) (hlast : ∀ line ∈ lines.getLast?, line ≠ []) :
    splitlines isBreak (['\n'].intercalate lines) = lines := by
  unfold splitlines
  induction lines with
  | nil => rfl
  | cons line rest ih =>
    have hline : OneLine isBreak line := hlines line List.mem_cons_self
    cases rest with
    | nil =>
      have hne : line ≠ [] := hlast line rfl
      calc
        splitlinesFrom isBreak [] false (['\n'].intercalate [line]) =
            splitlinesFrom isBreak [] false (line ++ []) := by
          rw [List.intercalate_singleton, List.append_nil]
        _ = splitlinesFrom isBreak line false [] := by
          rw [splitlinesFrom_append hline, List.nil_append]
        _ = [line] := by rw [splitlinesFrom, if_neg hne]
    | cons next rest =>
      have htail : splitlinesFrom isBreak [] false (['\n'].intercalate (next :: rest)) =
          next :: rest := by
        apply ih
        · exact fun other hother ↦ hlines other (List.mem_cons_of_mem _ hother)
        · intro last hmem
          exact hlast last (by rwa [List.getLast?_cons_cons])
      rw [List.intercalate_cons_cons, List.append_assoc, splitlinesFrom_append hline,
        List.nil_append, List.singleton_append, splitlinesFrom, Bool.false_and,
        if_neg Bool.false_ne_true, if_pos hbreak]
      simp only [Char.reduceEq, decide_false, htail]

end Lines

end DBOSModel.Text

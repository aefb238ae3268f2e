import DBOSModel.Workers.Frontmatter

/-!
# Inline values of the front matter

What `_inline` reads from the text that `_dump_inline` writes: the value itself, but for its
strings (`Value.back`). A text of a value is in one piece for `_split_top`, also where it has
commas, because these are inside brackets or quotes (`Neutral`).
-/

namespace DBOSModel.Frontmatter

open Text DBOSModel.Core

/-! ## The documented values -/

/-- A key that is free of separators: of the characters for which `dump` quotes a string, and of the
ends of lines. -/
structure IsKey (k : Str) : Prop where
  nonempty : k ≠ []
  free : ∀ c ∈ k, c ∉ quotedChars ∧ pyIsLineBreak c = false

instance (k : Str) : Decidable (IsKey k) :=
  have : Decidable (∀ c ∈ k, c ∉ quotedChars ∧ pyIsLineBreak c = false) := List.decidableBAll _ k
  decidable_of_iff (k ≠ [] ∧ ∀ c ∈ k, c ∉ quotedChars ∧ pyIsLineBreak c = false)
    ⟨fun h ↦ ⟨h.1, h.2⟩, fun h ↦ ⟨h.nonempty, h.free⟩⟩

mutual

/-- A value without floats whose dicts have distinct keys free of separators. -/
def Value.Documented : Value → Prop
  | .float _ => False
  | .list items => DocumentedItems items
  | .dict entries => DocumentedEntries entries
  | .null | .bool _ | .int _ | .str _ => True

def DocumentedItems : List Value → Prop
  | [] => True
  | v :: rest => v.Documented ∧ DocumentedItems rest

def DocumentedEntries : List (Str × Value) → Prop
  | [] => True
  | (k, v) :: rest =>
    IsKey k ∧ v.Documented ∧ k ∉ rest.map Prod.fst ∧ DocumentedEntries rest

end

mutual

/-- Every string in the value satisfies `text`, and every key of its dicts `key`. -/
def Value.Each (text key : Str → Prop) : Value → Prop
  | .str s => text s
  | .list items => EachItem text key items
  | .dict entries => EachEntry text key entries
  | .null | .bool _ | .int _ | .float _ => True

def EachItem (text key : Str → Prop) : List Value → Prop
  | [] => True
  | v :: rest => v.Each text key ∧ EachItem text key rest

def EachEntry (text key : Str → Prop) : List (Str × Value) → Prop
  | [] => True
  | (k, v) :: rest => key k ∧ v.Each text key ∧ EachEntry text key rest

end

/-! ## Numbers -/

theorem toAscii_of_isDigit {c : Char} (h : c.isDigit = true) : toAscii c = c := by
  have hlt : c.toNat < 127 := by
    simp only [Char.isDigit, Bool.and_eq_true, decide_eq_true_eq, UInt32.le_iff_toNat_le] at h
    have hnine : c.val.toNat ≤ 57 := h.2
    exact Nat.lt_of_le_of_lt hnine (by decide)
  rw [toAscii, if_pos hlt]

theorem isDigits_of_all {s : Str} (h : ∀ c ∈ s, c.isDigit = true) (afterDigit : Bool)
    (hne : s ≠ [] ∨ afterDigit = true) : isDigits afterDigit s = true := by
  induction s generalizing afterDigit with
  | nil =>
    rw [isDigits]
    simpa using hne
  | cons c rest ih =>
    rw [isDigits, if_pos (h c List.mem_cons_self)]
    exact ih (fun d hd ↦ h d (List.mem_cons_of_mem _ hd)) true (Or.inr rfl)

theorem isDigit_of_mem_toDigits {n : ℕ} {c : Char} (h : c ∈ Nat.toDigits 10 n) :
    c.isDigit = true :=
  Nat.isDigit_of_mem_toDigits (by decide) (by decide) h

theorem splitSign_of_isDigit {s : Str} (h : ∀ c ∈ s, c.isDigit = true) :
    splitSign s = (false, s) := by
  unfold splitSign
  split
  · cases h '-' List.mem_cons_self
  · cases h '+' List.mem_cons_self
  · rfl

theorem filter_underscore {s : Str} (h : ∀ c ∈ s, c.isDigit = true) :
    s.filter (· ≠ '_') = s := by
  rw [List.filter_eq_self]
  intro c hc
  have hdigit := h c hc
  rw [decide_eq_true_eq]
  rintro rfl
  cases hdigit

theorem map_toAscii {s : Str} (h : ∀ c ∈ s, c.isDigit = true) : s.map toAscii = s := by
  calc
    s.map toAscii = s.map id := List.map_congr_left fun c hc ↦ toAscii_of_isDigit (h c hc)
    _ = s := List.map_id s

/-- `int` reads the `repr` of an integer. -/
theorem intOf_reprInt (n : ℤ) : intOf (reprInt n) = some n := by
  have hdigits : ∀ c ∈ Nat.toDigits 10 n.natAbs, c.isDigit = true :=
    fun c hc ↦ isDigit_of_mem_toDigits hc
  have hread : isDigits false (Nat.toDigits 10 n.natAbs) = true :=
    isDigits_of_all hdigits false (Or.inl Nat.toDigits_ne_nil)
  by_cases hneg : n < 0
  · have hsign : splitSign ((reprInt n).map toAscii) = (true, Nat.toDigits 10 n.natAbs) := by
      rw [reprInt, if_pos hneg, List.map_cons, map_toAscii hdigits]
      rfl
    rw [intOf, hsign]
    simp only [hread, if_true, filter_underscore hdigits, Nat.ofDigitChars_ten_toDigits]
    congr 1
    omega
  · have hsign : splitSign ((reprInt n).map toAscii) = (false, Nat.toDigits 10 n.natAbs) := by
      rw [reprInt, if_neg hneg, map_toAscii hdigits, splitSign_of_isDigit hdigits]
    rw [intOf, hsign]
    simp only [hread, if_true, filter_underscore hdigits, Nat.ofDigitChars_ten_toDigits,
      Bool.false_eq_true, if_false]
    congr 1
    omega

/-! ## Strings -/

theorem quotedChars_eq :
    quotedChars = [':', '#', '\x7b', '\x7d', '[', ']', ',', '"', '\'', '\n'] := rfl

/-- No character is one for which `dump` puts a string in quotes. -/
def Plain (s : Str) : Prop := ∀ c ∈ s, c ∉ quotedChars

instance (s : Str) : Decidable (Plain s) := List.decidableBAll _ s

/-- A string that `dump` writes as it is. -/
structure Bare (s : Str) : Prop where
  nonempty : s ≠ []
  trimmed : Trimmed pyIsSpace s
  plain : Plain s
  notKeyword : s ∉ ["null".toList, "~".toList, "true".toList, "false".toList]

theorem bare_of_needsQuotes {s : Str} (h : needsQuotes s = false) : Bare s := by
  simp only [needsQuotes, Bool.or_eq_false_iff, decide_eq_false_iff_not, not_not,
    List.any_eq_false, decide_eq_true_eq] at h
  obtain ⟨⟨⟨hne, hstrip⟩, hplain⟩, hkeyword⟩ := h
  refine ⟨hne, ?_, hplain, hkeyword⟩
  rw [hstrip]
  exact trimmed_strip pyIsSpace s

theorem isBetween_of_notMem {first last : Char} {t : Str} (h : first ∉ t) :
    isBetween first last t = false := by
  rw [isBetween, Bool.and_eq_false_iff, decide_eq_false_iff_not]
  left
  intro hhead
  exact h (List.mem_of_mem_head? hhead)

/-- A bare string is read as a number if it is the text of one. -/
theorem scalar_of_bare {s : Str} (h : Bare s) :
    scalar s = match intOf s with
      | some n => .int n
      | none => if isFloat s then .float s else .str s := by
  have hquote : '"' ∉ s := fun hmem ↦ h.plain _ hmem (by decide)
  have hsingle : '\'' ∉ s := fun hmem ↦ h.plain _ hmem (by decide)
  have hkeyword := h.notKeyword
  simp only [List.mem_cons, not_or] at hkeyword
  obtain ⟨hnull, htilde, htrue, hfalse, -⟩ := hkeyword
  have hstrip : strip s = s := strip_of_trimmed h.trimmed
  have hquoted : (isBetween '"' '"' s || isBetween '\'' '\'' s) = false := by
    rw [isBetween_of_notMem hquote, isBetween_of_notMem hsingle, Bool.or_self]
  cases hint : intOf s with
  | some n =>
    simp only [scalar, hstrip, h.nonempty, hnull, htilde, htrue, hfalse, hquoted, or_self, if_false,
      Bool.false_and, Bool.false_eq_true, hint]
  | none =>
    simp only [scalar, hstrip, h.nonempty, hnull, htilde, htrue, hfalse, hquoted, or_self, if_false,
      Bool.false_and, Bool.false_eq_true, hint]

theorem pyIsSpace_of_isDigit {c : Char} (h : c.isDigit = true) : pyIsSpace c = false := by
  simp only [Char.isDigit, Bool.and_eq_true, decide_eq_true_eq, UInt32.le_iff_toNat_le] at h
  have hlow : 48 ≤ c.toNat := h.1
  have hhigh : c.toNat ≤ 57 := h.2
  simp only [pyIsSpace, List.mem_cons, List.not_mem_nil, or_false, Bool.or_eq_false_iff,
    Bool.and_eq_false_iff, decide_eq_false_iff_not]
  omega

theorem mem_reprInt {n : ℤ} {c : Char} (h : c ∈ reprInt n) : c.isDigit = true ∨ c = '-' := by
  unfold reprInt at h
  split at h
  · rcases List.mem_cons.mp h with rfl | hmem
    · exact Or.inr rfl
    · exact Or.inl (isDigit_of_mem_toDigits hmem)
  · exact Or.inl (isDigit_of_mem_toDigits h)

theorem reprInt_ne_nil (n : ℤ) : reprInt n ≠ [] := by
  unfold reprInt
  split
  · exact List.cons_ne_nil _ _
  · exact Nat.toDigits_ne_nil

theorem bare_reprInt (n : ℤ) : Bare (reprInt n) where
  nonempty := reprInt_ne_nil n
  trimmed := by
    apply trimmed_of_forall
    intro c hc
    rcases mem_reprInt hc with hdigit | rfl
    · exact pyIsSpace_of_isDigit hdigit
    · decide
  plain := by
    intro c hc hquoted
    rcases mem_reprInt hc with hdigit | rfl
    · simp only [quotedChars_eq, List.mem_cons, List.not_mem_nil, or_false] at hquoted
      rcases hquoted with rfl | rfl | rfl | rfl | rfl | rfl | rfl | rfl | rfl | rfl
      all_goals cases hdigit
    · revert hquoted
      decide
  notKeyword := by
    intro hkeyword
    simp only [List.mem_cons, List.not_mem_nil, or_false] at hkeyword
    have hchars (c : Char) (hc : c ∈ reprInt n) := mem_reprInt hc
    rcases hkeyword with h | h | h | h
    all_goals rw [h] at hchars
    · exact absurd (hchars 'n' List.mem_cons_self) (by decide)
    · exact absurd (hchars '~' List.mem_cons_self) (by decide)
    · exact absurd (hchars 't' List.mem_cons_self) (by decide)
    · exact absurd (hchars 'f' List.mem_cons_self) (by decide)

theorem scalar_reprInt (n : ℤ) : scalar (reprInt n) = .int n := by
  rw [scalar_of_bare (bare_reprInt n), intOf_reprInt]

theorem notMem_unquoted (s : Str) : '"' ∉ unquoted s := by
  intro h
  obtain ⟨c, -, hc⟩ := List.mem_map.mp h
  split at hc
  · cases hc
  · rename_i hne
    exact hne hc

/-- Replacing the quotes leaves a string without quotes, and no other. -/
theorem unquoted_eq_self_iff {s : Str} : unquoted s = s ↔ '"' ∉ s := by
  constructor
  · intro h
    rw [← h]
    exact notMem_unquoted s
  · intro h
    have hmap : unquoted s = s.map id := by
      apply List.map_congr_left
      intro c hc
      rw [if_neg]
      · rfl
      · rintro rfl
        exact h hc
    rw [hmap, List.map_id]

theorem trimmed_quoted (s : Str) : Trimmed pyIsSpace (['"'] ++ s ++ ['"']) := by
  constructor
  · intro c hc
    cases hc
    decide
  · intro c hc
    rw [List.getLast?_concat] at hc
    cases hc
    decide

/-- A string in quotes is read as what stands between them. -/
theorem scalar_quoted (s : Str) : scalar (['"'] ++ s ++ ['"']) = .str s := by
  have hbetween : isBetween '"' '"' (['"'] ++ s ++ ['"']) = true := by
    rw [isBetween, List.getLast?_concat]
    rfl
  have hlength : 2 ≤ (['"'] ++ s ++ ['"']).length := by
    simp only [List.length_append, List.length_singleton]
    omega
  have hinside : inside (['"'] ++ s ++ ['"']) = s := by
    rw [inside, List.append_assoc, List.singleton_append, List.tail_cons, List.dropLast_concat]
  have hhead (c : Char) (rest : Str) (hc : c ≠ '"') : ['"'] ++ s ++ ['"'] ≠ c :: rest := by
    rw [List.append_assoc, List.singleton_append]
    intro h
    exact hc (List.cons.inj h).1.symm
  have hnot : ∀ word ∈ ["null".toList, "~".toList, "true".toList, "false".toList],
      ['"'] ++ s ++ ['"'] ≠ word := by
    intro word hword
    simp only [List.mem_cons, List.not_mem_nil, or_false] at hword
    rcases hword with rfl | rfl | rfl | rfl
    all_goals exact hhead _ _ (by decide)
  have hnil : ['"'] ++ s ++ ['"'] ≠ [] := by simp
  simp only [scalar, strip, strip_of_trimmed (trimmed_quoted s), hnil, hnot _ (List.mem_cons_self),
    hnot "~".toList (by simp), hnot "true".toList (by simp), hnot "false".toList (by simp), hbetween,
    hlength, hinside, or_self, if_false, Bool.true_or, decide_true, Bool.and_self, if_true]

/-! ## Texts in one piece -/

section Neutral

variable {n : ℤ} {t u : Str}

/-- The text goes to the buffer as it is. -/
def SplitState.push (s : SplitState) (t : Str) : SplitState := { s with buf := s.buf ++ t }

@[simp]
theorem SplitState.push_quote (s : SplitState) (t : Str) : (s.push t).quote = s.quote := rfl

@[simp]
theorem SplitState.push_depth (s : SplitState) (t : Str) : (s.push t).depth = s.depth := rfl

@[simp]
theorem SplitState.push_push (s : SplitState) (t u : Str) : (s.push t).push u = s.push (t ++ u) := by
  simp [push]

@[simp]
theorem SplitState.push_nil (s : SplitState) : s.push [] = s := by
  simp [push]

/-- Outside of quotes and at a depth of at least `n`, nothing in the text splits it. -/
def Neutral (n : ℤ) (t : Str) : Prop :=
  ∀ s : SplitState, s.quote = none → n ≤ s.depth → t.foldl SplitState.read s = s.push t

theorem Neutral.nil : Neutral n [] := by
  intro s _ _
  simp

theorem Neutral.append (ht : Neutral n t) (hu : Neutral n u) : Neutral n (t ++ u) := by
  intro s hquote hdepth
  rw [List.foldl_append, ht s hquote hdepth, hu (s.push t) hquote hdepth, SplitState.push_push]

theorem Neutral.mono {m : ℤ} (h : Neutral n t) (hle : n ≤ m) : Neutral m t := by
  intro s hquote hdepth
  exact h s hquote (hle.trans hdepth)

theorem neutral_of_plain (h : Plain t) : Neutral 0 t := by
  induction t with
  | nil => exact Neutral.nil
  | cons c t ih =>
    intro s hquote hdepth
    have hc := h c List.mem_cons_self
    simp only [quotedChars_eq, List.mem_cons, not_or] at hc
    have hread : s.read c = s.push [c] := by
      simp [SplitState.read, SplitState.push, hquote, hc]
    have htail := ih (fun d hd ↦ h d (List.mem_cons_of_mem _ hd)) (s.push [c]) hquote hdepth
    rw [List.foldl_cons, hread, htail, SplitState.push_push, List.singleton_append]

/-- Inside of brackets a comma is a character like any other. -/
theorem neutral_separator : Neutral 1 ", ".toList := by
  intro s hquote hdepth
  have hne : s.depth ≠ 0 := by omega
  simp [SplitState.read, SplitState.push, hquote, hne]

/-- So is every character but the quote inside of quotes. -/
theorem foldl_inside_quotes {s : SplitState} {quote : Char} (h : quote ∉ t)
    (hquote : s.quote = some quote) : t.foldl SplitState.read s = s.push t := by
  induction t generalizing s with
  | nil => simp
  | cons c t ih =>
    have hc : c ≠ quote := fun heq ↦ h (heq ▸ List.mem_cons_self)
    have hread : s.read c = s.push [c] := by
      simp [SplitState.read, SplitState.push, hquote, hc]
    have htail : quote ∉ t := fun hmem ↦ h (List.mem_cons_of_mem _ hmem)
    have hquote' : (s.push [c]).quote = some quote := hquote
    rw [List.foldl_cons, hread, ih htail hquote', SplitState.push_push, List.singleton_append]

theorem neutral_quoted (h : '"' ∉ t) : Neutral 0 (['"'] ++ t ++ ['"']) := by
  intro s hquote _
  have hopening : ['"'].foldl SplitState.read s = { s.push ['"'] with quote := some '"' } := by
    simp [SplitState.read, SplitState.push, hquote]
  rw [List.foldl_append, List.foldl_append, hopening, foldl_inside_quotes h rfl]
  simp [SplitState.read, SplitState.push, hquote]

/-- Commas at depth one are inside of the brackets. -/
theorem neutral_enclosed {opening closing : Char} (h : Neutral 1 t)
    (hopening : opening = '[' ∨ opening = '\x7b') (hclosing : closing = ']' ∨ closing = '\x7d') :
    Neutral 0 ([opening] ++ t ++ [closing]) := by
  intro s hquote hdepth
  have hopen : [opening].foldl SplitState.read s =
      { s.push [opening] with depth := s.depth + 1 } := by
    rcases hopening with rfl | rfl
    all_goals simp [SplitState.read, SplitState.push, hquote]
  have hinner := h { s.push [opening] with depth := s.depth + 1 } hquote (by simpa using hdepth)
  rw [List.foldl_append, List.foldl_append, hopen, hinner]
  rcases hclosing with rfl | rfl
  all_goals simp [SplitState.read, SplitState.push, hquote]

theorem neutral_intercalate {parts : List Str} (h : ∀ p ∈ parts, Neutral 0 p) :
    Neutral 1 (", ".toList.intercalate parts) := by
  induction parts with
  | nil => exact Neutral.nil
  | cons p rest ih =>
    have hp : Neutral 1 p := (h p List.mem_cons_self).mono (by decide)
    have hrest := ih fun q hq ↦ h q (List.mem_cons_of_mem _ hq)
    cases rest with
    | nil => rwa [List.intercalate_singleton]
    | cons q rest =>
      rw [List.intercalate_cons_cons]
      exact (hp.append neutral_separator).append hrest

/-- The text of a value, or of an entry of an inline dict. -/
structure Piece (t : Str) : Prop where
  nonempty : t ≠ []
  neutral : Neutral 0 t

/-- The loop of `_split_top` over a join of pieces. -/
theorem foldl_intercalate {p : Str} {rest : List Str} (h : ∀ q ∈ p :: rest, Piece q)
    {s : SplitState} (hquote : s.quote = none) (hdepth : s.depth = 0) :
    ((", ".toList.intercalate (p :: rest)).foldl SplitState.read s).buf ≠ [] ∧
      ((", ".toList.intercalate (p :: rest)).foldl SplitState.read s).out ++
          [((", ".toList.intercalate (p :: rest)).foldl SplitState.read s).buf] =
        s.out ++ (s.buf ++ p) :: rest.map (' ' :: ·) := by
  have hp := h p List.mem_cons_self
  induction rest generalizing p s with
  | nil =>
    rw [List.intercalate_singleton, hp.neutral s hquote hdepth.ge]
    simp [SplitState.push, hp.nonempty]
  | cons q rest ih =>
    have hcomma : ", ".toList.foldl SplitState.read (s.push p) =
        { s with out := s.out ++ [s.buf ++ p], buf := [' '] } := by
      simp [SplitState.read, SplitState.push, hquote, hdepth]
    have hrest : ∀ r ∈ q :: rest, Piece r := fun r hr ↦ h r (List.mem_cons_of_mem _ hr)
    have hnext := @ih q hrest { s with out := s.out ++ [s.buf ++ p], buf := [' '] } hquote hdepth
      (hrest q List.mem_cons_self)
    rw [List.intercalate_cons_cons, List.foldl_append, List.foldl_append,
      hp.neutral s hquote hdepth.ge, hcomma]
    refine ⟨hnext.1, ?_⟩
    rw [hnext.2]
    simp

/-- `_split_top` undoes the join, but for the space after each comma. -/
theorem splitTop_intercalate {p : Str} {rest : List Str} (h : ∀ q ∈ p :: rest, Piece q) :
    splitTop (", ".toList.intercalate (p :: rest)) = p :: rest.map (' ' :: ·) := by
  obtain ⟨hne, hsplit⟩ := @foldl_intercalate p rest h {} rfl rfl
  rw [splitTop]
  simp only [hne, ne_eq, not_false_eq_true, true_or, if_true, hsplit]
  rfl

end Neutral

/-! ## The texts of values -/

theorem Bare.piece {s : Str} (h : Bare s) : Piece s := ⟨h.nonempty, neutral_of_plain h.plain⟩

theorem IsKey.neutral {k : Str} (h : IsKey k) : Neutral 0 k :=
  neutral_of_plain fun c hc ↦ (h.free c hc).1

theorem trimmed_enclosed {opening closing : Char} (hopening : pyIsSpace opening = false)
    (hclosing : pyIsSpace closing = false) (t : Str) :
    Trimmed pyIsSpace ([opening] ++ t ++ [closing]) := by
  apply trimmed_append
  · exact trimmed_of_forall (by simpa using hopening)
  · exact trimmed_of_forall (by simpa using hclosing)
  · exact List.cons_ne_nil _ _
  · exact List.cons_ne_nil _ _

theorem trimmed_dumpInline {v : Value} (h : v.Documented) : Trimmed pyIsSpace (dumpInline v) := by
  cases v with
  | null => exact by decide
  | bool b =>
    cases b with
    | true => exact by decide
    | false => exact by decide
  | int n => exact (bare_reprInt n).trimmed
  | float text => exact False.elim h
  | str s =>
    rw [dumpInline]
    split
    · exact trimmed_quoted _
    · rename_i hbare
      exact (bare_of_needsQuotes (by simpa using hbare)).trimmed
  | list items => exact trimmed_enclosed (by decide) (by decide) _
  | dict entries => exact trimmed_enclosed (by decide) (by decide) _

theorem neutral_colon : Neutral 0 ": ".toList := by
  intro s hquote _
  simp [SplitState.read, SplitState.push, hquote]

mutual

theorem piece_dumpInline : (v : Value) → v.Documented → Piece (dumpInline v)
  | .null, _ => ⟨by decide, neutral_of_plain (by decide)⟩
  | .bool true, _ => ⟨by decide, neutral_of_plain (by decide)⟩
  | .bool false, _ => ⟨by decide, neutral_of_plain (by decide)⟩
  | .int n, _ => (bare_reprInt n).piece
  | .float _, h => False.elim h
  | .str s, _ => by
    rw [dumpInline]
    split
    · exact ⟨by simp, neutral_quoted (notMem_unquoted s)⟩
    · rename_i hbare
      exact (bare_of_needsQuotes (by simpa using hbare)).piece
  | .list items, h => by
    refine ⟨by simp [dumpInline], neutral_enclosed ?_ (Or.inl rfl) (Or.inl rfl)⟩
    exact neutral_intercalate fun p hp ↦ (piece_dumpItems items h p hp).neutral
  | .dict entries, h => by
    refine ⟨by simp [dumpInline], neutral_enclosed ?_ (Or.inr rfl) (Or.inr rfl)⟩
    exact neutral_intercalate fun p hp ↦ (piece_dumpEntries entries h p hp).neutral

theorem piece_dumpItems : (items : List Value) → DocumentedItems items →
    ∀ p ∈ dumpItems items, Piece p
  | [], _, _, hp => nomatch hp
  | v :: rest, h, p, hp => by
    rcases List.mem_cons.mp hp with rfl | hp
    · exact piece_dumpInline v h.1
    · exact piece_dumpItems rest h.2 p hp

theorem piece_dumpEntries : (entries : List (Str × Value)) → DocumentedEntries entries →
    ∀ p ∈ dumpEntries entries, Piece p
  | [], _, _, hp => nomatch hp
  | (k, v) :: rest, h, p, hp => by
    obtain ⟨hkey, hv, -, hrest⟩ := h
    rcases List.mem_cons.mp hp with rfl | hp
    · refine ⟨by simp, ?_⟩
      exact (hkey.neutral.append neutral_colon).append (piece_dumpInline v hv).neutral
    · exact piece_dumpEntries rest hrest p hp

end

/-! ## Reading them back -/

mutual

/-- What `_inline` reads from the text of a value. -/
def Value.back : Value → Value
  | .str s => if needsQuotes s then .str (unquoted s) else scalar s
  | .list items => .list (backItems items)
  | .dict entries => .dict (backEntries entries)
  | .null => .null
  | .bool b => .bool b
  | .int n => .int n
  | .float text => .float text

def backItems : List Value → List Value
  | [] => []
  | v :: rest => v.back :: backItems rest

def backEntries : List (Str × Value) → List (Str × Value)
  | [] => []
  | (k, v) :: rest => (k, v.back) :: backEntries rest

end

/-- A part of a collection, with or without the space after a comma. -/
def Spaced (p tok : Str) : Prop := tok = p ∨ tok = ' ' :: p

theorem strip_spaced {p tok : Str} (h : Spaced p tok) (htrimmed : Trimmed pyIsSpace p) :
    strip tok = p := by
  rcases h with rfl | rfl
  · exact strip_of_trimmed htrimmed
  · calc
      strip (' ' :: p) = strip p := strip_append_left (List.forall_mem_singleton.mpr rfl) p
      _ = p := strip_of_trimmed htrimmed

theorem spaced_split (p : Str) (rest : List Str) :
    List.Forall₂ Spaced (p :: rest) (p :: rest.map (' ' :: ·)) := by
  refine .cons (Or.inl rfl) ?_
  rw [List.forall₂_map_right_iff, List.forall₂_same]
  exact fun q _ ↦ Or.inr rfl

theorem setItem_of_notMem {d : List (Str × Value)} {k : Str} (h : k ∉ d.map Prod.fst) (v : Value) :
    setItem d k v = d ++ [(k, v)] := by
  rw [setItem, if_neg]
  rw [List.any_eq_true]
  rintro ⟨entry, hentry, hkey⟩
  exact h (List.mem_map.mpr ⟨entry, hentry, by simpa using hkey⟩)

theorem splitColon_append {k : Str} (h : ':' ∉ k) (v : Str) : splitColon (k ++ ':' :: v) = (k, v) := by
  have hall : ∀ c ∈ k, (decide (c ≠ ':')) = true := by
    intro c hc
    rw [decide_eq_true_eq]
    rintro rfl
    exact h hc
  rw [splitColon, List.takeWhile_append_of_pos hall, List.dropWhile_append_of_pos hall]
  simp

/-- A key is read as it is, without the whitespace around it. -/
theorem readKey_of_isKey {k tok : Str} (hkey : IsKey k) (htrimmed : strip tok = k) (lineno : ℕ) :
    readKey tok lineno = .ok k := by
  have hdouble : '"' ∉ k := fun hmem ↦ (hkey.free _ hmem).1 (by decide)
  have hsingle : '\'' ∉ k := fun hmem ↦ (hkey.free _ hmem).1 (by decide)
  simp only [readKey, htrimmed, isBetween_of_notMem hdouble, isBetween_of_notMem hsingle,
    Bool.or_self, Bool.false_eq_true, if_false, hkey.nonempty]

/-- A text that no bracket opens is read as a scalar. -/
theorem inlineWith_scalar {lineno fuel : ℕ} {tok t : Str} (hstrip : strip tok = t)
    (htrimmed : Trimmed pyIsSpace t) (hbracket : t.head? ≠ some '[')
    (hbrace : t.head? ≠ some '\x7b') : inlineWith lineno fuel tok = .ok (scalar t) := by
  have hsame : strip tok = strip t := hstrip.trans (strip_of_trimmed htrimmed).symm
  cases fuel with
  | zero =>
    rw [inlineWith]
    simp only [scalar, hsame]
  | succ fuel => simp [inlineWith, hstrip, isBetween, hbracket, hbrace]

/-- The text of a collection is read by its parts. -/
theorem inside_enclosed (opening closing : Char) (t : Str) :
    inside ([opening] ++ t ++ [closing]) = t := by
  rw [inside, List.append_assoc, List.singleton_append, List.tail_cons, List.dropLast_concat]

theorem isBetween_enclosed (opening closing : Char) (t : Str) :
    isBetween opening closing ([opening] ++ t ++ [closing]) = true := by
  rw [isBetween, List.getLast?_concat]
  simp

/-- The join of the parts is not empty, and has no whitespace around it. -/
theorem strip_intercalate {p : Str} {rest : List Str} (hpieces : ∀ q ∈ p :: rest, Piece q)
    (htrimmed : ∀ q ∈ p :: rest, Trimmed pyIsSpace q) :
    ", ".toList.intercalate (p :: rest) ≠ [] ∧
      strip (", ".toList.intercalate (p :: rest)) = ", ".toList.intercalate (p :: rest) := by
  constructor
  · exact intercalate_ne_nil (hpieces p List.mem_cons_self).nonempty
  · apply strip_of_trimmed
    exact trimmed_intercalate fun q hq ↦ ⟨(hpieces q hq).nonempty, htrimmed q hq⟩

theorem inlineWith_list {lineno fuel : ℕ} {tok p : Str} {rest : List Str}
    (hstrip : strip tok = ['['] ++ ", ".toList.intercalate (p :: rest) ++ [']'])
    (hpieces : ∀ q ∈ p :: rest, Piece q) (htrimmed : ∀ q ∈ p :: rest, Trimmed pyIsSpace q) :
    inlineWith lineno (fuel + 1) tok =
      (inlineItems (inlineWith lineno fuel) (p :: rest.map (' ' :: ·))).map .list := by
  obtain ⟨hjoin, hinner⟩ := strip_intercalate hpieces htrimmed
  rw [inlineWith]
  simp only [hstrip, inside_enclosed, isBetween_enclosed, hinner, hjoin, if_true, if_false,
    splitTop_intercalate hpieces]
  rfl

theorem inlineWith_dict {lineno fuel : ℕ} {tok p : Str} {rest : List Str}
    (hstrip : strip tok = ['\x7b'] ++ ", ".toList.intercalate (p :: rest) ++ ['\x7d'])
    (hpieces : ∀ q ∈ p :: rest, Piece q) (htrimmed : ∀ q ∈ p :: rest, Trimmed pyIsSpace q) :
    inlineWith lineno (fuel + 1) tok =
      (inlineEntries (inlineWith lineno fuel) lineno (p :: rest.map (' ' :: ·)) []).map .dict := by
  obtain ⟨hjoin, hinner⟩ := strip_intercalate hpieces htrimmed
  have hbracket : isBetween '[' ']'
      (['\x7b'] ++ ", ".toList.intercalate (p :: rest) ++ ['\x7d']) = false := by
    simp [isBetween]
  rw [inlineWith]
  simp only [hstrip, inside_enclosed, isBetween_enclosed, hbracket, hinner, hjoin, if_true, if_false,
    Bool.false_eq_true, splitTop_intercalate hpieces]
  rfl

/-- The parts of a collection are shorter than its text. -/
theorem length_lt_of_enclosed {opening closing : Char} {sep p : Str} {parts : List Str} {fuel : ℕ}
    (h : ([opening] ++ sep.intercalate parts ++ [closing]).length ≤ fuel + 1) (hp : p ∈ parts) :
    p.length ≤ fuel := by
  have hle := @length_le_intercalate Char sep p parts hp
  simp only [List.length_append, List.length_singleton] at h
  omega

theorem trimmed_dumpEntry {k : Str} {v : Value} (hkey : IsKey k) (htrimmed : Trimmed pyIsSpace k)
    (hv : v.Documented) : Trimmed pyIsSpace (k ++ ": ".toList ++ dumpInline v) :=
  trimmed_append htrimmed (trimmed_dumpInline hv) hkey.nonempty (piece_dumpInline v hv).nonempty _

theorem trimmed_dumpItems : {items : List Value} → DocumentedItems items →
    ∀ p ∈ dumpItems items, Trimmed pyIsSpace p
  | [], _, _, hp => nomatch hp
  | _ :: _, h, p, hp => by
    rcases List.mem_cons.mp hp with rfl | hp
    · exact trimmed_dumpInline h.1
    · exact trimmed_dumpItems h.2 p hp

theorem trimmed_dumpEntries {text : Str → Prop} : {entries : List (Str × Value)} →
    DocumentedEntries entries → EachEntry text (Trimmed pyIsSpace) entries →
    ∀ p ∈ dumpEntries entries, Trimmed pyIsSpace p
  | [], _, _, _, hp => nomatch hp
  | (_, _) :: _, h, hkeys, p, hp => by
    rcases List.mem_cons.mp hp with rfl | hp
    · exact trimmed_dumpEntry h.1 hkeys.1 h.2.1
    · exact trimmed_dumpEntries h.2.2.2 hkeys.2.2 p hp

section ReadBack

variable {text : Str → Prop} (lineno : ℕ)

mutual

/-- `_inline` reads a documented value back, if it has fuel for the length of the text. -/
theorem inlineWith_dumpInline : (v : Value) → v.Documented →
    v.Each text (Trimmed pyIsSpace) → ∀ (fuel : ℕ) (tok : Str), strip tok = dumpInline v →
    (dumpInline v).length ≤ fuel → inlineWith lineno fuel tok = .ok v.back
  | .null, _, _, _, _, hstrip, _ => inlineWith_scalar hstrip (by decide) (by decide) (by decide)
  | .bool true, _, _, _, _, hstrip, _ => inlineWith_scalar hstrip (by decide) (by decide) (by decide)
  | .bool false, _, _, _, _, hstrip, _ =>
    inlineWith_scalar hstrip (by decide) (by decide) (by decide)
  | .int n, h, _, fuel, tok, hstrip, _ => by
    have hread := @inlineWith_scalar lineno fuel tok (reprInt n) hstrip (trimmed_dumpInline h)
      ?_ ?_
    · rw [hread, scalar_reprInt]
      rfl
    all_goals
      intro hhead
      exact (bare_reprInt n).plain _ (List.mem_of_mem_head? hhead) (by decide)
  | .float _, h, _, _, _, _, _ => False.elim h
  | .str s, h, _, fuel, tok, hstrip, _ => by
    have htrimmed := trimmed_dumpInline h
    rw [dumpInline] at hstrip htrimmed
    rw [Value.back]
    by_cases hquotes : needsQuotes s = true
    · rw [if_pos hquotes] at hstrip htrimmed
      rw [if_pos hquotes, ← scalar_quoted (unquoted s)]
      exact inlineWith_scalar hstrip htrimmed (by simp) (by simp)
    · have hbare := bare_of_needsQuotes (by simpa using hquotes)
      rw [if_neg hquotes] at hstrip htrimmed
      rw [if_neg hquotes]
      apply inlineWith_scalar hstrip htrimmed
      all_goals
        intro hhead
        exact hbare.plain _ (List.mem_of_mem_head? hhead) (by decide)
  | .list [], _, _, 0, _, _, hfuel => by simp [dumpInline, dumpItems] at hfuel
  | .list [], _, _, fuel + 1, tok, hstrip, _ => by
    rw [inlineWith, hstrip]
    rfl
  | .list (v :: rest), h, hkeys, 0, _, _, hfuel => by simp [dumpInline] at hfuel
  | .list (v :: rest), h, hkeys, fuel + 1, tok, hstrip, hfuel => by
    have hitems := inlineItems_dumpItems (v :: rest) h hkeys fuel _
      (spaced_split (dumpInline v) (dumpItems rest)) fun p hp ↦ length_lt_of_enclosed hfuel hp
    rw [inlineWith_list hstrip (piece_dumpItems (v :: rest) h) (trimmed_dumpItems h), hitems]
    rfl
  | .dict [], _, _, 0, _, _, hfuel => by simp [dumpInline, dumpEntries] at hfuel
  | .dict [], _, _, fuel + 1, tok, hstrip, _ => by
    rw [inlineWith, hstrip]
    rfl
  | .dict ((k, v) :: rest), h, hkeys, 0, _, _, hfuel => by simp [dumpInline] at hfuel
  | .dict ((k, v) :: rest), h, hkeys, fuel + 1, tok, hstrip, hfuel => by
    have hentries := inlineEntries_dumpEntries ((k, v) :: rest) h hkeys fuel _ []
      (spaced_split _ (dumpEntries rest)) (fun p hp ↦ length_lt_of_enclosed hfuel hp) (by simp)
    rw [inlineWith_dict hstrip (piece_dumpEntries ((k, v) :: rest) h) (trimmed_dumpEntries h hkeys),
      hentries]
    rfl

theorem inlineItems_dumpItems : (items : List Value) → DocumentedItems items →
    EachItem text (Trimmed pyIsSpace) items → ∀ (fuel : ℕ) (toks : List Str),
    List.Forall₂ Spaced (dumpItems items) toks → (∀ p ∈ dumpItems items, p.length ≤ fuel) →
    inlineItems (inlineWith lineno fuel) toks = .ok (backItems items)
  | [], _, _, _, _, .nil, _ => rfl
  | v :: rest, h, hkeys, fuel, tok :: toks, .cons hspaced hrest, hfuel => by
    have hv := inlineWith_dumpInline v h.1 hkeys.1 fuel tok
      (strip_spaced hspaced (trimmed_dumpInline h.1)) (hfuel _ List.mem_cons_self)
    have htail := inlineItems_dumpItems rest h.2 hkeys.2 fuel toks hrest
      fun p hp ↦ hfuel p (List.mem_cons_of_mem _ hp)
    rw [inlineItems, hv, htail]
    rfl

theorem inlineEntries_dumpEntries : (entries : List (Str × Value)) → DocumentedEntries entries →
    EachEntry text (Trimmed pyIsSpace) entries → ∀ (fuel : ℕ) (toks : List Str)
    (d : List (Str × Value)), List.Forall₂ Spaced (dumpEntries entries) toks →
    (∀ p ∈ dumpEntries entries, p.length ≤ fuel) →
    (∀ k ∈ d.map Prod.fst, k ∉ entries.map Prod.fst) →
    inlineEntries (inlineWith lineno fuel) lineno toks d = .ok (d ++ backEntries entries)
  | [], _, _, _, _, d, .nil, _, _ => by
    rw [inlineEntries, backEntries, List.append_nil]
  | (k, v) :: rest, h, hkeys, fuel, tok :: toks, d, .cons hspaced hrest, hfuel, hdisjoint => by
    obtain ⟨hkey, hv, hnew, hrestDocumented⟩ := h
    obtain ⟨lead, hlead, htok⟩ : ∃ lead, Spaced k lead ∧ tok = lead ++ ':' :: ' ' :: dumpInline v := by
      rcases hspaced with rfl | rfl
      · exact ⟨k, Or.inl rfl, by simp⟩
      · exact ⟨' ' :: k, Or.inr rfl, by simp⟩
    have hnoColon : ':' ∉ lead := by
      intro hmem
      have hk : ':' ∈ k := by
        rcases hlead with rfl | rfl
        · exact hmem
        · simpa using hmem
      exact (hkey.free _ hk).1 (by decide)
    have hcolon : ':' ∈ tok := by
      rw [htok]
      simp
    have hlength : (dumpInline v).length ≤ fuel := by
      have hpart := hfuel _ List.mem_cons_self
      simp only [List.length_append] at hpart
      omega
    have hread := inlineWith_dumpInline v hv hkeys.2.1 fuel (' ' :: dumpInline v)
      (strip_spaced (Or.inr rfl) (trimmed_dumpInline hv)) hlength
    have hk : k ∉ d.map Prod.fst := fun hmem ↦ hdisjoint k hmem (by simp)
    have htail := inlineEntries_dumpEntries rest hrestDocumented hkeys.2.2 fuel toks
      (d ++ [(k, v.back)]) hrest (fun p hp ↦ hfuel p (List.mem_cons_of_mem _ hp)) (by
        intro key hmem
        rw [List.map_append, List.mem_append] at hmem
        rcases hmem with hmem | hmem
        · exact fun hlater ↦ hdisjoint key hmem (List.mem_cons_of_mem _ hlater)
        · rw [List.mem_singleton.mp hmem]
          exact hnew)
    rw [inlineEntries, if_pos hcolon, htok, splitColon_append hnoColon]
    simp only [hread, readKey_of_isKey hkey (strip_spaced hlead hkeys.1)]
    change inlineEntries (inlineWith lineno fuel) lineno toks (setItem d k v.back) = _
    rw [setItem_of_notMem hk, htail, backEntries, List.append_assoc, List.singleton_append]

end

end ReadBack

end DBOSModel.Frontmatter

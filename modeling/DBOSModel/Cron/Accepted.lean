import DBOSModel.Cron.Expand
import Mathlib.Data.List.Forall2

/-!
# Accepted expressions are well formed

Whatever the text of an expression is, the fields that `expand` returns satisfy what the iterator
relies on: each one has a wildcard, or is a sorted list of numbers in the range of the field, which
is not empty and ends with `l` at most in the field for the day of the month.
-/

namespace DBOSModel.Cron

open Relational

/-! ## Folds of fallible steps -/

/-- What every step keeps holds after a fold. -/
theorem foldlM_keeps {ε α β : Type} {step : β → α → Except ε β} {P : β → Prop}
    (hstep : ∀ b a b', P b → step b a = .ok b' → P b') :
    ∀ {inputs : List α} {b b' : β}, P b → inputs.foldlM step b = .ok b' → P b' := by
  intro inputs
  induction inputs with
  | nil =>
    intro b b' hb hfold
    cases hfold
    exact hb
  | cons a rest ih =>
    intro b b' hb hfold
    rw [List.foldlM_cons] at hfold
    obtain ⟨c, hc, hrest⟩ := bind_eq_ok.mp hfold
    exact ih (hstep b a c hb hc) hrest

/-- What every step brings about holds after a fold over some input. -/
theorem foldlM_brings {ε α β : Type} {step : β → α → Except ε β} {P : β → Prop}
    (hstep : ∀ b a b', step b a = .ok b' → P b') {inputs : List α} (hne : inputs ≠ []) {b b' : β}
    (hfold : inputs.foldlM step b = .ok b') : P b' := by
  cases inputs with
  | nil => exact absurd rfl hne
  | cons a rest =>
    rw [List.foldlM_cons] at hfold
    obtain ⟨c, hc, hrest⟩ := bind_eq_ok.mp hfold
    exact foldlM_keeps (fun b a b' _ hb ↦ hstep b a b' hb) (hstep b a c hc) hrest

/-! ## Values -/

/-- A value that a field may have, in an expression with a number of fields. -/
def ItemValid (length : ℕ) (field : FieldName) : Item → Prop
  | .star => True
  | .num n => field.low ≤ n ∧ n ≤ field.high ∧ (length = 5 → field = .dow → n ≠ 7)
  | .last => field = .day

/-- With five fields, 7 is Sunday. -/
theorem mapped_dow_ne_seven (n : ℕ) : FieldName.dow.mapped 5 n ≠ 7 := by
  have hkeeps : FieldName.dow.keepsLow 5 = false := rfl
  unfold FieldName.mapped
  rw [hkeeps, if_neg Bool.false_ne_true]
  by_cases hseven : n = 7
  · subst hseven
    decide
  · have hnone : FieldName.dow.lowMap n = none := by
      unfold FieldName.lowMap
      split <;> simp_all
    rw [hnone]
    exact hseven

theorem itemValid_of_checkValue {expression : Expression} {field : FieldName} {item item' : Item}
    (hlast : item = .last → field = .day) (h : checkValue expression field item = .ok item') :
    ItemValid expression.fields.length field item' := by
  cases item with
  | star =>
    cases h
    trivial
  | last =>
    cases h
    exact hlast rfl
  | num n =>
    rw [checkValue] at h
    split at h
    · simp at h
    · next hrange =>
      rw [not_or, not_lt, not_lt] at hrange
      cases h
      refine ⟨hrange.1, hrange.2, ?_⟩
      rintro hlength rfl
      rw [hlength]
      exact mapped_dow_ne_seven n

theorem day_of_alphaconv_last {expression : Expression} {field : FieldName} {key : List Char}
    (h : alphaconv expression field key = .ok .last) : field = .day := by
  cases field with
  | day => rfl
  | month =>
    simp only [alphaconv] at h
    cases hname : nameIndex monthNames key <;> simp [hname] at h
  | dow =>
    simp only [alphaconv] at h
    cases hname : nameIndex weekdayNames key <;> simp [hname] at h
  | _ => simp [alphaconv] at h

section Parser

variable {unicode : Unicode} {expression : Expression} {field : FieldName}

theorem itemValid_of_singleValue {t : List Char} {item : Item}
    (h : singleValue unicode expression field t = .ok item) :
    ItemValid expression.fields.length field item := by
  unfold singleValue at h
  split at h
  · simp at h
  · split at h
    · exact itemValid_of_checkValue (by simp) h
    · split at h
      · exact itemValid_of_checkValue (by simp) h
      · split at h
        · next item' halpha =>
          apply itemValid_of_checkValue _ h
          rintro rfl
          exact day_of_alphaconv_last halpha
        · simp at h

/-- An n-th weekday is between 1 and 5. -/
theorem nth_of_weekdayOf {text e : List Char} {nth : Option Nth}
    (h : weekdayOf unicode expression field text = .ok (e, nth)) :
    ∀ n, nth = some (.nth n) → 1 ≤ n ∧ n ≤ 5 := by
  intro n hnth
  unfold weekdayOf at h
  split at h
  · split at h
    · simp only at h
      split at h
      · next hrange =>
        simp only [Except.ok.injEq, Prod.mk.injEq] at h
        rw [← h.2, Option.some.injEq, Nth.nth.injEq] at hnth
        exact hnth ▸ hrange
      · simp at h
    · simp only [Except.ok.injEq, Prod.mk.injEq] at h
      rw [← h.2] at hnth
      simp at hnth
    · simp only [Except.ok.injEq, Prod.mk.injEq] at h
      rw [← h.2] at hnth
      simp at hnth
  · simp only [Except.ok.injEq, Prod.mk.injEq] at h
    rw [← h.2] at hnth
    simp at hnth

theorem stepRange_ne_nil (low high step : ℕ) : stepRange low high step ≠ [] := by
  simp [stepRange]

/-- A range has a number, and each of its numbers has the n-th weekday of the range or none. -/
theorem of_rangeNumbers {nth : Option Nth} {low high step : ℕ} {numbers : List (ℕ × Option Nth)}
    (h : rangeNumbers expression field nth low high step = .ok numbers) :
    numbers ≠ [] ∧ ∀ number ∈ numbers, ∀ k, number.2 = some k → nth = some k := by
  unfold rangeNumbers at h
  split at h
  · simp at h
  · split at h
    · simp at h
    · cases h
      constructor
      · simp [stepRange_ne_nil]
      · intro number hmem k hk
        obtain ⟨n, _, rfl⟩ := List.mem_map.1 hmem
        simp only at hk
        split at hk
        · rw [Option.filter_eq_some_iff] at hk
          exact hk.1
        · simp at hk

theorem of_expandRange {nth : Option Nth} {low high : List Char} {step : Option (List Char)}
    {numbers : List (ℕ × Option Nth)}
    (h : expandRange unicode expression field nth low high step = .ok numbers) :
    numbers ≠ [] ∧ ∀ number ∈ numbers, ∀ k, number.2 = some k → nth = some k := by
  unfold expandRange at h
  simp only at h
  split at h
  · simp at h
  · split at h
    · simp at h
    · split at h
      · split at h
        · simp at h
        · exact of_rangeNumbers h
      · simp at h

/-- What the parser has collected: values of the field, and n-th weekdays. -/
def Collected.Valid (length : ℕ) (field : FieldName) (collected : Collected) : Prop :=
  (∀ item ∈ collected.res, ItemValid length field item) ∧ NthWellFormed collected.nth

theorem Collected.Valid.add {length : ℕ} {collected : Collected}
    (h : collected.Valid length field) {item : Item} (hitem : ItemValid length field item)
    {nth : Option Nth} (hnth : ∀ n, nth = some (.nth n) → 1 ≤ n ∧ n ≤ 5) :
    (collected.add field item nth).Valid length field := by
  constructor
  · intro item' hmem
    unfold Collected.add at hmem
    simp only at hmem
    split at hmem
    · exact h.1 item' hmem
    · rcases List.mem_cons.1 hmem with rfl | hmem
      · exact hitem
      · exact h.1 item' hmem
  · intro wday n hmem
    unfold Collected.add at hmem
    simp only at hmem
    split at hmem
    · split at hmem
      · exact h.2 wday n hmem
      · rcases List.mem_cons.1 hmem with heq | hmem
        · rw [Prod.mk.injEq] at heq
          exact hnth n (congrArg some heq.2.symm)
        · exact h.2 wday n hmem
    · exact h.2 wday n hmem

theorem Collected.add_res_ne_nil (collected : Collected) (item : Item) (nth : Option Nth) :
    (collected.add field item nth).res ≠ [] := by
  unfold Collected.add
  simp only
  split
  · next hmem => exact List.ne_nil_of_mem hmem
  · simp

theorem Collected.Valid.collectNumber {collected collected' : Collected}
    (h : collected.Valid expression.fields.length field) {number : ℕ × Option Nth}
    (hnth : ∀ n, number.2 = some (.nth n) → 1 ≤ n ∧ n ≤ 5)
    (hstep : Cron.collectNumber expression field collected number = .ok collected') :
    collected'.Valid expression.fields.length field := by
  obtain ⟨item, hitem, rfl⟩ := map_eq_ok.mp hstep
  exact h.add (itemValid_of_checkValue (by simp) hitem) hnth

/-- One text of a field: it adds valid values, at least one. -/
theorem Collected.Valid.collectText {collected collected' : Collected}
    (h : collected.Valid expression.fields.length field) {text : List Char}
    (hstep : Cron.collectText unicode expression field collected text = .ok collected') :
    collected'.Valid expression.fields.length field ∧ collected'.res ≠ [] := by
  unfold Cron.collectText expandText at hstep
  split at hstep
  · simp at hstep
  · next numbers hexpand =>
    split at hexpand
    · simp at hexpand
    · next e nth hweekday =>
      simp only at hexpand
      split at hexpand
      · obtain ⟨numbers', hrange, hnumbers⟩ := map_eq_ok.mp hexpand
        rw [Expansion.numbers.injEq] at hnumbers
        subst hnumbers
        have hspec := of_expandRange hrange
        constructor
        · have hall : ∀ number ∈ numbers'.reverse, ∀ n, number.2 = some (.nth n) →
              1 ≤ n ∧ n ≤ 5 := by
            intro number hmem n hn
            exact nth_of_weekdayOf hweekday n (hspec.2 number (List.mem_reverse.1 hmem) _ hn)
          generalize numbers'.reverse = inputs at hstep hall
          induction inputs generalizing collected with
          | nil =>
            cases hstep
            exact h
          | cons number rest ih =>
            rw [List.foldlM_cons] at hstep
            obtain ⟨next, hnext, hrest⟩ := bind_eq_ok.mp hstep
            apply ih _ hrest
            · intro number' hmem
              exact hall number' (List.mem_cons_of_mem number hmem)
            · exact h.collectNumber (hall number List.mem_cons_self) hnext
        · apply foldlM_brings (P := fun collected ↦ collected.res ≠ []) _ _ hstep
          · intro b number b' hb
            obtain ⟨item, _, rfl⟩ := map_eq_ok.mp hb
            exact b.add_res_ne_nil item number.2
          · simp [hspec.1]
      · obtain ⟨item, _, hvalue⟩ := map_eq_ok.mp hexpand
        simp at hvalue
  · next item nth hexpand =>
    split at hexpand
    · simp at hexpand
    · next e nth' hweekday =>
      simp only at hexpand
      split at hexpand
      · obtain ⟨numbers', _, hnumbers⟩ := map_eq_ok.mp hexpand
        simp at hnumbers
      · obtain ⟨item', hsingle, hvalue⟩ := map_eq_ok.mp hexpand
        rw [Expansion.value.injEq] at hvalue
        obtain ⟨rfl, rfl⟩ := hvalue
        cases hstep
        constructor
        · exact h.add (itemValid_of_singleValue hsingle) (nth_of_weekdayOf hweekday)
        · exact collected.add_res_ne_nil item' nth'

/-! ## Fields -/

theorem mem_numbersOf {res : List Item} {n : ℕ} : n ∈ numbersOf res ↔ Item.num n ∈ res := by
  unfold numbersOf
  rw [List.mem_insertionSort, List.mem_dedup, List.mem_filterMap]
  constructor
  · rintro ⟨item, hmem, hsome⟩
    cases item <;> simp_all [Item.number?]
  · intro hmem
    exact ⟨.num n, hmem, rfl⟩

theorem pairwise_numbersOf (res : List Item) : (numbersOf res).Pairwise (· < ·) := by
  unfold numbersOf
  have hle := List.pairwise_insertionSort (· ≤ ·) (res.filterMap Item.number?).dedup
  have hne : ((res.filterMap Item.number?).dedup.insertionSort (· ≤ ·)).Nodup :=
    (List.perm_insertionSort _ _).nodup_iff.2 (List.nodup_dedup _)
  exact hle.imp₂ (fun _ _ hle hne ↦ lt_of_le_of_ne hle hne) hne

/-- The sorted values of a field are well formed. -/
theorem fieldWellFormed_sortedItems {length : ℕ} {res : List Item} (hne : res ≠ [])
    (hvalid : ∀ item ∈ res, ItemValid length field item) :
    FieldWellFormed (sortedItems res) field.low field.high (field = .day) := by
  unfold sortedItems
  by_cases hstar : Item.star ∈ res
  · left
    simp [hstar]
  right
  refine ⟨numbersOf res, decide (Item.last ∈ res), ⟨?_, ?_, pairwise_numbersOf res, ?_, ?_⟩, ?_⟩
  · simp [hstar]
  · intro hnil
    obtain ⟨item, hmem⟩ := List.exists_mem_of_ne_nil res hne
    simp only [List.append_eq_nil_iff, List.map_eq_nil_iff] at hnil
    cases item with
    | star => exact hstar hmem
    | num n =>
      have hnum := mem_numbersOf.2 hmem
      rw [hnil.1.2] at hnum
      exact absurd hnum List.not_mem_nil
    | last => simp [hmem] at hnil
  · intro n hmem
    exact (hvalid _ (mem_numbersOf.1 hmem)).1
  · intro n hmem
    exact (hvalid _ (mem_numbersOf.1 hmem)).2.1
  · intro hlast
    rw [decide_eq_true_eq] at hlast ⊢
    exact hvalid _ hlast

theorem num_mem_sortedItems {res : List Item} {n : ℕ} :
    Item.num n ∈ sortedItems res ↔ Item.num n ∈ res := by
  unfold sortedItems
  rw [List.mem_append, List.mem_append, List.mem_map]
  constructor
  · rintro ((hstar | ⟨m, hmem, heq⟩) | hlast)
    · split at hstar <;> simp at hstar
    · rw [Item.num.injEq] at heq
      exact heq ▸ mem_numbersOf.1 hmem
    · split at hlast <;> simp at hlast
  · intro hmem
    exact Or.inl (Or.inr ⟨n, mem_numbersOf.2 hmem, rfl⟩)

/-- What one field of an accepted expression is. -/
structure FieldAccepted (length : ℕ) (field : FieldName) (items : List Item) : Prop where
  wellFormed : FieldWellFormed items field.low field.high (field = .day)
  /-- With five fields, Sunday is never 7. -/
  notSeven : length = 5 → field = .dow → Item.num 7 ∉ items

theorem fieldAccepted_finishField {res : List Item} (hne : res ≠ [])
    (hvalid : ∀ item ∈ res, ItemValid expression.fields.length field item) :
    FieldAccepted expression.fields.length field (finishField expression field res) := by
  unfold finishField
  simp only
  split
  · exact ⟨Or.inl List.mem_cons_self, by simp⟩
  · refine ⟨fieldWellFormed_sortedItems hne hvalid, ?_⟩
    intro hlength hdow hmem
    exact (hvalid _ (num_mem_sortedItems.1 hmem)).2.2 hlength hdow rfl

/-- The texts of a field: together they add at least one value. -/
theorem of_collectTexts {texts : List (List Char)} (hne : texts ≠ [])
    {collected collected' : Collected} (h : collected.Valid expression.fields.length field)
    (hfold : texts.foldlM (collectText unicode expression field) collected = .ok collected') :
    collected'.Valid expression.fields.length field ∧ collected'.res ≠ [] := by
  cases texts with
  | nil => exact absurd rfl hne
  | cons text rest =>
    rw [List.foldlM_cons] at hfold
    obtain ⟨next, hnext, hrest⟩ := bind_eq_ok.mp hfold
    exact foldlM_keeps (P := fun collected : Collected ↦
      collected.Valid expression.fields.length field ∧ collected.res ≠ [])
      (fun b text b' hb hstep ↦ hb.1.collectText hstep) (h.collectText hnext) hrest

/-- One field: its values are well formed, and so are the n-th weekdays with those that it adds. -/
theorem of_expandField {hash : HashSource} {expr : List Char} {nth nth' : NthWeekdays}
    {items : List Item} (hnth : NthWellFormed nth)
    (h : expandField unicode hash expression field expr nth = .ok (items, nth')) :
    FieldAccepted expression.fields.length field items ∧ NthWellFormed nth' := by
  unfold expandField at h
  split at h
  · simp at h
  · split at h
    · simp at h
    · split at h
      · simp at h
      · next collected hfold =>
        simp only [Except.ok.injEq, Prod.mk.injEq] at h
        obtain ⟨rfl, rfl⟩ := h
        have hspec := of_collectTexts (by simp [List.splitOn_ne_nil]) ⟨by simp, hnth⟩ hfold
        exact ⟨fieldAccepted_finishField hspec.2 hspec.1.1, hspec.1.2⟩

theorem expandFields_cons_eq_ok {hash : HashSource} {expr : List Char}
    {rest : List (FieldName × List Char)} {nth nth' : NthWeekdays} {itemss : List (List Item)}
    (h : expandFields unicode hash expression ((field, expr) :: rest) nth = .ok (itemss, nth')) :
    ∃ items next itemss', itemss = items :: itemss' ∧
      expandField unicode hash expression field expr nth = .ok (items, next) ∧
        expandFields unicode hash expression rest next = .ok (itemss', nth') := by
  rw [expandFields] at h
  split at h
  · simp at h
  · next items next hfield =>
    split at h
    · simp at h
    · next itemss' last hrest =>
      simp only [Except.ok.injEq, Prod.mk.injEq] at h
      exact ⟨items, next, itemss', h.1.symm, hfield, h.2 ▸ hrest⟩

/-- The fields one after the other. -/
theorem of_expandFields {hash : HashSource} {inputs : List (FieldName × List Char)}
    {nth nth' : NthWeekdays} {itemss : List (List Item)} (hnth : NthWellFormed nth)
    (h : expandFields unicode hash expression inputs nth = .ok (itemss, nth')) :
    List.Forall₂ (fun input items ↦ FieldAccepted expression.fields.length input.1 items)
      inputs itemss ∧ NthWellFormed nth' := by
  induction inputs generalizing nth itemss with
  | nil =>
    cases h
    exact ⟨.nil, hnth⟩
  | cons input rest ih =>
    obtain ⟨items, next, itemss', rfl, hfield, hrest⟩ := expandFields_cons_eq_ok h
    have hfirst := of_expandField hnth hfield
    have hlast := ih hfirst.2 hrest
    exact ⟨.cons hfirst.1 hlast.1, hlast.2⟩

/-! ## Expressions -/

/-- The fields for the seconds and the years, if there are any. -/
theorem accepted_second_year {length : ℕ} {rest : List (List Char)} {itemss : List (List Item)}
    (h : List.Forall₂ (fun input items ↦ FieldAccepted length input.1 items)
      ([FieldName.second, FieldName.year].zip rest) itemss) :
    (∀ items ∈ itemss[0]?, FieldAccepted length .second items) ∧
      (∀ items ∈ itemss[1]?, FieldAccepted length .year items) ∧
        (itemss[0]? = none → rest = []) := by
  rcases rest with _ | ⟨e5, _ | ⟨e6, rest⟩⟩
  · rcases h with _ | _
    simp
  · rcases h with _ | ⟨h5, _ | _⟩
    simp [h5]
  · rcases h with _ | ⟨h5, _ | ⟨h6, hrest⟩⟩
    rcases hrest with _ | _
    simp [h5, h6]

theorem expand_accepted {hash : HashSource} {secondAtBeginning : Bool} {exprFormat : String}
    {expanded : Expanded} {nth : NthWeekdays}
    (h : expand unicode hash secondAtBeginning exprFormat = .ok (expanded, nth)) :
    expanded.WellFormed ∧ NthWellFormed nth ∧
      (expanded.second = none → Item.num 7 ∉ expanded.dow) := by
  unfold expand at h
  simp only at h
  generalize splitExpression unicode hash secondAtBeginning exprFormat = expressions at h
  split at h
  · simp at h
  · next hlength =>
    rw [not_or, not_lt, not_lt] at hlength
    split at h
    · simp at h
    · next itemss nth' hfields =>
      split at h
      · simp at h
      · simp only [Except.ok.injEq, Prod.mk.injEq] at h
        obtain ⟨rfl, rfl⟩ := h
        have hspec := of_expandFields (fun wday n hmem ↦ absurd hmem List.not_mem_nil) hfields
        rcases expressions with _ | ⟨e0, _ | ⟨e1, _ | ⟨e2, _ | ⟨e3, _ | ⟨e4, rest⟩⟩⟩⟩⟩
        iterate 5 simp at hlength
        obtain ⟨hall, hnth⟩ := hspec
        simp only [FieldName.all, List.zip_cons_cons] at hall
        rcases hall with _ | ⟨h0, _ | ⟨h1, _ | ⟨h2, _ | ⟨h3, _ | ⟨h4, hrest⟩⟩⟩⟩⟩
        have hlast := accepted_second_year hrest
        refine ⟨⟨h0.wellFormed, h1.wellFormed, h2.wellFormed, h3.wellFormed, h4.wellFormed,
          fun items hmem ↦ (hlast.1 items hmem).wellFormed,
          fun items hmem ↦ (hlast.2.1 items hmem).wellFormed⟩, hnth, ?_⟩
        intro hsecond
        apply h4.notSeven _ rfl
        rw [hlast.2.2 hsecond]
        rfl

theorem expand_wellFormed_of {hash : HashSource} {secondAtBeginning : Bool} {exprFormat : String}
    {expanded : Expanded} {nth : NthWeekdays}
    (h : expand unicode hash secondAtBeginning exprFormat = .ok (expanded, nth)) :
    expanded.WellFormed ∧ NthWellFormed nth :=
  ⟨(expand_accepted h).1, (expand_accepted h).2.1⟩

/-- Whatever text `expand` accepts, what it returns is well formed. With five fields, no day of the
week is 7, which no day has. -/
theorem expand_wellFormed {hash : HashSource} {secondAtBeginning : Bool} {exprFormat : String}
    {expanded : Expanded} {nth : NthWeekdays}
    (h : expand unicode hash secondAtBeginning exprFormat = .ok (expanded, nth)) :
    expanded.WellFormed ∧ NthWellFormed nth ∧
      (expanded.second = none → Item.num 7 ∉ expanded.dow) :=
  expand_accepted h

/-- `0 0 * * sat-sun`. -/
def weekend : Expanded where
  minute := [.num 0]
  hour := [.num 0]
  day := [.star]
  month := [.star]
  dow := [.num 0, .num 6]

theorem weekend_expand : expand Unicode.ascii {} true "0 0 * * sat-sun" = .ok (weekend, []) := by
  decide +kernel

theorem expand_wellFormed_weekend :
    weekend.WellFormed ∧ NthWellFormed [] ∧ (weekend.second = none → Item.num 7 ∉ weekend.dow) :=
  expand_wellFormed weekend_expand

/-! ## Weekday 7 with six fields -/

/-- Only the field for the day of the week has n-th weekdays. -/
theorem nth_of_expandField {hash : HashSource} {expr : List Char} {nth nth' : NthWeekdays}
    {items : List Item} (hfield : field ≠ .dow)
    (h : expandField unicode hash expression field expr nth = .ok (items, nth')) : nth' = nth := by
  have hadd : ∀ (collected : Collected) (item : Item) (k : Option Nth),
      (collected.add field item k).nth = collected.nth := by
    intro collected item k
    unfold Collected.add
    simp only
    split
    · exact absurd rfl hfield
    · rfl
  have hnumber : ∀ (collected collected' : Collected) (number : ℕ × Option Nth),
      collected.nth = nth → collectNumber expression field collected number = .ok collected' →
        collected'.nth = nth := by
    intro collected collected' number hnth hstep
    obtain ⟨item, _, rfl⟩ := map_eq_ok.mp hstep
    rw [hadd]
    exact hnth
  have htext : ∀ (collected collected' : Collected) (text : List Char),
      collected.nth = nth → collectText unicode expression field collected text = .ok collected' →
        collected'.nth = nth := by
    intro collected collected' text hnth hstep
    unfold collectText at hstep
    split at hstep
    · simp at hstep
    · exact foldlM_keeps (P := fun collected : Collected ↦ collected.nth = nth)
        (fun b number b' hb hnext ↦ hnumber b b' number hb hnext) hnth hstep
    · cases hstep
      rw [hadd]
      exact hnth
  unfold expandField at h
  split at h
  · simp at h
  · split at h
    · simp at h
    · split at h
      · simp at h
      · next collected hfold =>
        simp only [Except.ok.injEq, Prod.mk.injEq] at h
        rw [← h.2]
        exact foldlM_keeps (P := fun collected : Collected ↦ collected.nth = nth)
          (fun b text b' hb hnext ↦ htext b b' text hb hnext) rfl hfold

/-- With six fields, 7 is not mapped to Sunday. -/
theorem expandField_seven {hash : HashSource} {nth : NthWeekdays}
    (hdigit : unicode.digit '7' = some 7) (hlength : expression.fields.length = 6) :
    expandField unicode hash expression .dow ['7'] nth = .ok ([.num 7], nth) := by
  have hint : onlyInt unicode ['7'] = true := by simp [onlyInt, hdigit]
  have hvalue : intOf unicode ['7'] = some 7 := by simp [intOf, hint, hdigit]
  have hhash : hashExpand unicode hash .dow ['7'] = .ok ['7'] := by
    simp [hashExpand, hashExpression]
  have hweekday : weekdayOf unicode expression .dow ['7'] = .ok (['7'], none) := by
    simp [weekdayOf, specialDow, splitFirst]
  have hstar : starStep .dow ['7'] = ['7'] := rfl
  have hslash : slashStep .dow ['7'] = ['7'] := rfl
  have hstep : stepSearch unicode ['7'] = none := by simp [stepSearch, splitFirst]
  have hcheck : checkValue expression .dow (.num 7) = .ok (.num 7) := by
    unfold checkValue
    rw [hlength]
    rfl
  have hsingle : singleValue unicode expression .dow ['7'] = .ok (.num 7) := by
    simp [singleValue, hvalue, hcheck]
  have htext : collectText unicode expression .dow { nth := nth } ['7'] =
      .ok { res := [.num 7], nth := nth } := by
    simp [collectText, expandText, hweekday, hstar, hslash, hstep, hsingle, Except.map,
      Collected.add]
  have hsplit : (['7'] : List Char).splitOn ',' = [['7']] := by decide
  have hquestion : questionMark expression .dow ['7'] = .ok ['7'] := by simp [questionMark]
  have hsorted : sortedItems [.num 7] = [.num 7] := by
    simp [sortedItems, numbersOf, Item.number?]
  have hfinish : finishField expression .dow [.num 7] = [.num 7] := by
    unfold finishField
    rw [hsorted]
    exact if_neg fun h ↦ absurd h.1 (by decide)
  have hfold : ([['7']] : List (List Char)).foldlM (collectText unicode expression .dow)
      { nth := nth } = .ok { res := [.num 7], nth := nth } := by
    rw [List.foldlM_cons, htext]
    rfl
  unfold expandField
  rw [hhash]
  simp only [hquestion, hsplit, List.reverse_singleton, hfold, hfinish]

/-- An accepted expression with six fields and weekday 7 has 7 as its only weekday. -/
theorem expand_seven {hash : HashSource} {secondAtBeginning : Bool} {exprFormat : String}
    {expanded : Expanded} {nth : NthWeekdays} {e0 e1 e2 e3 e5 : List Char}
    (hdigit : unicode.digit '7' = some 7)
    (hfields : splitExpression unicode hash secondAtBeginning exprFormat =
      [e0, e1, e2, e3, ['7'], e5])
    (h : expand unicode hash secondAtBeginning exprFormat = .ok (expanded, nth)) :
    expanded.dow = [.num 7] ∧ nth = [] := by
  unfold expand at h
  rw [hfields] at h
  simp only [List.length_cons, List.length_nil, FieldName.all, List.zip_cons_cons,
    List.zip_nil_right] at h
  rw [if_neg (by decide)] at h
  split at h
  · simp at h
  · next itemss nth' hexpand =>
    split at h
    · simp at h
    · simp only [Except.ok.injEq, Prod.mk.injEq] at h
      obtain ⟨rfl, rfl⟩ := h
      obtain ⟨_, nth0, _, rfl, h0, hexpand⟩ := expandFields_cons_eq_ok hexpand
      obtain ⟨_, nth1, _, rfl, h1, hexpand⟩ := expandFields_cons_eq_ok hexpand
      obtain ⟨_, nth2, _, rfl, h2, hexpand⟩ := expandFields_cons_eq_ok hexpand
      obtain ⟨_, nth3, _, rfl, h3, hexpand⟩ := expandFields_cons_eq_ok hexpand
      obtain ⟨_, nth4, _, rfl, h4, hexpand⟩ := expandFields_cons_eq_ok hexpand
      obtain ⟨_, nth5, _, rfl, h5, hexpand⟩ := expandFields_cons_eq_ok hexpand
      rw [expandField_seven hdigit rfl, Except.ok.injEq, Prod.mk.injEq] at h4
      rw [expandFields, Except.ok.injEq, Prod.mk.injEq] at hexpand
      refine ⟨h4.1.symm, ?_⟩
      rw [← hexpand.2, nth_of_expandField (by decide) h5, ← h4.2,
        nth_of_expandField (by decide) h3, nth_of_expandField (by decide) h2,
        nth_of_expandField (by decide) h1, nth_of_expandField (by decide) h0]

end Parser

end DBOSModel.Cron

import DBOSModel.Calendar.Clock
import Mathlib.Data.List.Pairwise
import Mathlib.Order.Basic

/-!
# The fields of a cron expression

What `expand` of `dbos/_croniter.py` leaves of an expression: a list of values for each field, which
is a wildcard or a sorted list of numbers. The list for the day of the month may end with `l`, the
last day. The iterator asks one question about such a list, how far the nearest value is from the
current one, going forwards or backwards, and around the end of the range when no value is left.
-/

namespace DBOSModel.Cron

open Calendar

/-- A value of an expanded field: `*`, a number, or `l`. -/
inductive Item where
  | star
  | num (n : ℕ)
  | last
deriving DecidableEq, Repr

/-- `n` or `l` in `nth_weekday_of_month`: the n-th or the last such weekday of a month. -/
inductive Nth where
  | nth (n : ℕ)
  | last
deriving DecidableEq, Repr

/-- `expanded`. Its length says whether there are seconds, and whether there are years. -/
structure Expanded where
  minute : List Item
  hour : List Item
  day : List Item
  month : List Item
  dow : List Item
  second : Option (List Item) := none
  year : Option (List Item) := none
deriving DecidableEq, Repr

/-- `nth_weekday_of_month`, as the pairs of a weekday and an element of its set. -/
abbrev NthWeekdays := List (ℕ × Nth)

/-! ## The nearest value -/

/-- The number to compare with: `l` is `range_val`. -/
def Item.value (rangeVal : Option ℤ) : Item → Option ℤ
  | .num n => some n
  | .last => rangeVal
  | .star => none

/-- How far the value of an item is ahead, when it is not behind. -/
def Item.ahead (x : ℤ) (rangeVal : Option ℤ) (item : Item) : Option ℤ :=
  match item.value rangeVal with
  | some value => if x ≤ value then some (value - x) else none
  | none => none

/-- `_get_next_nearest_diff`. Without `range_val`, `none` says that no value is left. -/
def getNextNearestDiff (x : ℤ) (toCheck : List Item) (rangeVal : Option ℤ) : Option ℤ :=
  match toCheck.findSome? (Item.ahead x rangeVal) with
  | some diff => some diff
  | none =>
    match rangeVal, toCheck.head? with
    | some range, some (.num first) => some (first - x + range)
    | _, _ => none

/-- The number of an item, when it is at most `x`. -/
def Item.atMost (x : ℤ) : Item → Option ℤ
  | .num n => if (n : ℤ) ≤ x then some n else none
  | _ => none

/-- `_get_prev_nearest_diff`. Without `range_val`, `none` says that no value is left. -/
def getPrevNearestDiff (x : ℤ) (toCheck : List Item) (rangeVal : Option ℤ) : Option ℤ :=
  let candidates := toCheck.reverse
  match candidates.findSome? (Item.atMost x) with
  | some value => some (value - x)
  | none =>
    if Item.last ∈ candidates then some (-x)
    else
      match rangeVal, candidates.head? with
      | some range, some (.num first) =>
        let candidate := (candidates.findSome? (Item.atMost range)).getD first
        if range < candidate then some (-x) else some (candidate - x - range)
      | _, _ => none

/-! ## Well-formed fields -/

/-- The numbers of a field without a wildcard, in order, and whether it ends with `l`. -/
structure Listing (items : List Item) (low high : ℕ) (nums : List ℕ) (hasLast : Bool) : Prop where
  items_eq : items = nums.map Item.num ++ if hasLast then [Item.last] else []
  nonempty : items ≠ []
  sorted : nums.Pairwise (· < ·)
  low_le : ∀ n ∈ nums, low ≤ n
  le_high : ∀ n ∈ nums, n ≤ high

/-- A field whose values are in a range. -/
def FieldWellFormed (items : List Item) (low high : ℕ) (lastAllowed : Bool) : Prop :=
  Item.star ∈ items ∨
    ∃ nums hasLast, Listing items low high nums hasLast ∧ (hasLast → lastAllowed)

/-- `RANGES`. -/
structure Expanded.WellFormed (expanded : Expanded) : Prop where
  minute : FieldWellFormed expanded.minute 0 59 false
  hour : FieldWellFormed expanded.hour 0 23 false
  day : FieldWellFormed expanded.day 1 31 true
  month : FieldWellFormed expanded.month 1 12 false
  dow : FieldWellFormed expanded.dow 0 7 false
  second : ∀ items ∈ expanded.second, FieldWellFormed items 0 59 false
  year : ∀ items ∈ expanded.year, FieldWellFormed items 1970 2099 false

/-- The numbers of `nth_weekday_of_month`. -/
def NthWellFormed (nth : NthWeekdays) : Prop :=
  ∀ wday n, (wday, Nth.nth n) ∈ nth → 1 ≤ n ∧ n ≤ 5

namespace Listing

variable {items : List Item} {low high : ℕ} {nums : List ℕ} {hasLast : Bool}

theorem num_mem (h : Listing items low high nums hasLast) {n : ℕ} :
    Item.num n ∈ items ↔ n ∈ nums := by
  rw [h.items_eq]
  cases hasLast <;> simp

theorem last_mem (h : Listing items low high nums hasLast) :
    Item.last ∈ items ↔ hasLast = true := by
  rw [h.items_eq]
  cases hasLast <;> simp

theorem star_notMem (h : Listing items low high nums hasLast) : Item.star ∉ items := by
  rw [h.items_eq]
  cases hasLast <;> simp

end Listing

/-! ## The nearest value forwards -/

/-- The first number from `x` on, in a sorted list. -/
theorem findSome?_ahead {nums : List ℕ} (hsorted : nums.Pairwise (· < ·)) (x : ℤ)
    (range : Option ℤ) :
    (∃ n ∈ nums, x ≤ n ∧ (nums.map Item.num).findSome? (Item.ahead x range) = some (n - x) ∧
        ∀ n' ∈ nums, x ≤ n' → n ≤ n') ∨
      ((∀ n ∈ nums, (n : ℤ) < x) ∧
        (nums.map Item.num).findSome? (Item.ahead x range) = none) := by
  induction nums with
  | nil => simp
  | cons first rest ih =>
    rw [List.pairwise_cons] at hsorted
    rw [List.map_cons, List.findSome?_cons]
    by_cases hle : x ≤ first
    · left
      refine ⟨first, List.mem_cons_self, hle, ?_, ?_⟩
      · simp [Item.ahead, Item.value, hle]
      · intro n' hmem _
        rcases List.mem_cons.1 hmem with rfl | hmem
        · exact le_rfl
        · exact (hsorted.1 n' hmem).le
    · have hskip : Item.ahead x range (Item.num first) = none := by
        simp [Item.ahead, Item.value, hle]
      rw [hskip]
      rcases ih hsorted.2 with ⟨n, hmem, hxn, hfind, hleast⟩ | ⟨hall, hfind⟩
      · left
        refine ⟨n, List.mem_cons_of_mem first hmem, hxn, hfind, ?_⟩
        intro n' hmem' hxn'
        rcases List.mem_cons.1 hmem' with rfl | hmem'
        · exact absurd hxn' hle
        · exact hleast n' hmem' hxn'
      · right
        refine ⟨?_, hfind⟩
        intro n' hmem'
        rcases List.mem_cons.1 hmem' with rfl | hmem'
        · exact not_le.1 hle
        · exact hall n' hmem'

/-- What the next value is: the first number from `x` on, then `l`, then the first number of the
next round. -/
inductive NextNearest (x : ℤ) (nums : List ℕ) (hasLast : Bool) (range : Option ℤ) :
    Option ℤ → Prop where
  | number (n : ℕ) (hmem : n ∈ nums) (hle : x ≤ n) (hleast : ∀ n' ∈ nums, x ≤ n' → n ≤ n') :
      NextNearest x nums hasLast range (some (n - x))
  | last (r : ℤ) (hrange : range = some r) (hlast : hasLast = true) (hle : x ≤ r)
      (hbehind : ∀ n ∈ nums, (n : ℤ) < x) : NextNearest x nums hasLast range (some (r - x))
  | round (r : ℤ) (first : ℕ) (hrange : range = some r) (hmem : first ∈ nums)
      (hleast : ∀ n ∈ nums, first ≤ n) (hlast : hasLast = true → r < x)
      (hbehind : ∀ n ∈ nums, (n : ℤ) < x) :
      NextNearest x nums hasLast range (some (first - x + r))
  | noneLeft (hrange : range = none) (hbehind : ∀ n ∈ nums, (n : ℤ) < x) :
      NextNearest x nums hasLast range none
  | onlyLast (r : ℤ) (hrange : range = some r) (hlt : r < x) (hnums : nums = []) :
      NextNearest x nums hasLast range none

theorem getNextNearestDiff_spec {items : List Item} {low high : ℕ} {nums : List ℕ}
    {hasLast : Bool} (h : Listing items low high nums hasLast) (x : ℤ) (range : Option ℤ) :
    NextNearest x nums hasLast range (getNextNearestDiff x items range) := by
  have hitems := h.items_eq
  unfold getNextNearestDiff
  rw [hitems, List.findSome?_append]
  rcases findSome?_ahead h.sorted x range with ⟨n, hmem, hle, hfind, hleast⟩ | ⟨hbehind, hfind⟩
  · rw [hfind]
    exact .number n hmem hle hleast
  · rw [hfind, Option.none_or]
    cases hnums : nums with
    | nil =>
      have hlast : hasLast = true := by
        by_contra hno
        apply h.nonempty
        rw [hitems, hnums]
        simp [hno]
      subst hlast
      cases range with
      | none =>
        have hnone : [Item.last].findSome? (Item.ahead x none) = none := by
          simp [Item.ahead, Item.value]
        simp only [if_true, hnone]
        exact .noneLeft rfl (by simp)
      | some r =>
        by_cases hle : x ≤ r
        · have hsome : [Item.last].findSome? (Item.ahead x (some r)) = some (r - x) := by
            simp [Item.ahead, Item.value, hle]
          simp only [if_true, hsome]
          exact .last r rfl rfl hle (by simp)
        · have hnone : [Item.last].findSome? (Item.ahead x (some r)) = none := by
            simp [Item.ahead, Item.value, hle]
          simp only [if_true, hnone, List.map_nil, List.nil_append, List.head?_cons]
          exact .onlyLast r rfl (not_le.1 hle) rfl
    | cons first rest =>
      have hsorted := h.sorted
      rw [hnums] at hbehind hsorted
      have hleast : ∀ n ∈ first :: rest, first ≤ n := by
        intro n hmem
        rcases List.mem_cons.1 hmem with rfl | hmem
        · exact le_rfl
        · exact ((List.pairwise_cons.1 hsorted).1 n hmem).le
      cases range with
      | none =>
        have hnone : (if hasLast then [Item.last] else []).findSome? (Item.ahead x none) = none := by
          cases hasLast <;> simp [Item.ahead, Item.value]
        simp only [hnone]
        exact .noneLeft rfl hbehind
      | some r =>
        by_cases hlast : hasLast = true ∧ x ≤ r
        · have hsome : (if hasLast then [Item.last] else []).findSome? (Item.ahead x (some r)) =
              some (r - x) := by
            simp [hlast.1, Item.ahead, Item.value, hlast.2]
          simp only [hsome]
          exact .last r rfl hlast.1 hlast.2 hbehind
        · have hnone : (if hasLast then [Item.last] else []).findSome? (Item.ahead x (some r)) =
              none := by
            cases hl : hasLast with
            | false => simp
            | true =>
              have : ¬ x ≤ r := fun hle ↦ hlast ⟨hl, hle⟩
              simp [Item.ahead, Item.value, this]
          simp only [hnone, List.map_cons, List.cons_append, List.head?_cons]
          apply NextNearest.round r first rfl List.mem_cons_self hleast _ hbehind
          intro hl
          exact not_le.1 fun hle ↦ hlast ⟨hl, hle⟩

end DBOSModel.Cron

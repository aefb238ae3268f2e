import DBOSModel.SysDb.Serialization
import Mathlib.Data.List.Forall2
import Mathlib.Data.List.Infix
import Mathlib.Data.List.Nodup

/-!
# Portable values

`_portableify` of `dbos/_serialization.py` turns a Python object into plain JSON values before
`json.dumps`. It goes through the object depth first and stops at the first part that it cannot
convert. JSON values are a part of the Python values, so the function maps `PyValue` to itself.

`_to_rfc3339_utc` moves an aware `datetime` to UTC. Close to the first and the last year the result
is not a `datetime`, and Python raises `OverflowError` (an `exception` of the model) where every
other failure is a `TypeError`.
-/

namespace DBOSModel.Portable

open Relational SysDb

/-! ## Python values -/

/-- The number of days from 0001-01-01 to 9999-12-31. -/
def maxOrdinal : ℕ := 3652059

/-- The microseconds of a day. -/
def dayMicroseconds : ℕ := 86400000000

/-- A `date`: the days since 0001-01-01. -/
abbrev PyDate := Fin maxOrdinal

/-- A `datetime`. -/
structure PyDatetime where
  /-- The microseconds that the fields show since 0001-01-01T00:00:00. -/
  shown : Fin (maxOrdinal * dayMicroseconds)
  /-- The offset of an aware `datetime` in microseconds. -/
  utcoffset : Option ℤ := none
deriving DecidableEq

/-- A `Decimal`. -/
inductive PyDecimal where
  | finite (negative : Bool) (coefficient : ℕ) (exponent : ℤ)
  | infinity (negative : Bool)
  | nan (negative signaling : Bool) (payload : Option ℕ)
deriving DecidableEq

/-- The key of a mapping. -/
inductive PyKey where
  | str (text : String)
  /-- Any object but a string. -/
  | other
deriving DecidableEq

inductive PyValue where
  | none
  | bool (value : Bool)
  | int (value : ℤ)
  /-- A double, by its bits. -/
  | float (bits : UInt64)
  | str (text : String)
  | datetime (value : PyDatetime)
  | date (value : PyDate)
  | decimal (value : PyDecimal)
  | list (items : List PyValue)
  | tuple (items : List PyValue)
  /-- In the order of iteration. -/
  | set (items : List PyValue)
  | mapping (items : List (PyKey × PyValue))
  /-- An object of any other kind, with the name of its type. -/
  | other (typeName : String)

/-! ## Texts -/

/-- `%0{width}d`. -/
def zeroPadded (width n : ℕ) : String :=
  let digits := toString n
  String.ofList (List.replicate (width - digits.length) '0') ++ digits

def daysInMonth : List ℕ := [0, 31, 28, 31, 30, 31, 30, 31, 31, 30, 31, 30, 31]

def daysBeforeMonth : List ℕ := [0, 0, 31, 59, 90, 120, 151, 181, 212, 243, 273, 304, 334]

/-- The year, the month and the day. -/
def ord2ymd (days : ℕ) : ℕ × ℕ × ℕ :=
  let n400 := days / 146097
  let n := days % 146097
  let n100 := n / 36524
  let n := n % 36524
  let n4 := n / 1461
  let n := n % 1461
  let n1 := n / 365
  let n := n % 365
  let year := n400 * 400 + 1 + n100 * 100 + n4 * 4 + n1
  if n1 = 4 ∨ n100 = 4 then (year - 1, 12, 31)
  else
    let isLeap := n1 = 3 ∧ (n4 ≠ 24 ∨ n100 = 3)
    -- the estimate is the month or the one after it
    let month := (n + 50) / 32
    let preceding := daysBeforeMonth.getD month 0 + if 2 < month ∧ isLeap then 1 else 0
    if n < preceding then
      let preceding := preceding -
        (daysInMonth.getD (month - 1) 0 + if month - 1 = 2 ∧ isLeap then 1 else 0)
      (year, month - 1, n - preceding + 1)
    else (year, month, n - preceding + 1)

/-- `date.isoformat()`. -/
def isoformat (days : ℕ) : String :=
  let (year, month, day) := ord2ymd days
  zeroPadded 4 year ++ "-" ++ zeroPadded 2 month ++ "-" ++ zeroPadded 2 day

/-- `isoformat(timespec="milliseconds")` of a `datetime` in UTC, with `Z` for its offset. -/
def isoformatUtc (microseconds : ℕ) : String :=
  let seconds := microseconds / 1000000
  isoformat (seconds / 86400) ++ "T" ++ zeroPadded 2 (seconds / 3600 % 24) ++ ":" ++
    zeroPadded 2 (seconds / 60 % 60) ++ ":" ++ zeroPadded 2 (seconds % 60) ++ "." ++
    zeroPadded 3 (microseconds / 1000 % 1000) ++ "Z"

/-- The time in UTC can be a `datetime`. -/
def PyDatetime.inUtcRange (dt : PyDatetime) : Bool :=
  match dt.utcoffset with
  | none => true
  | some offset =>
    0 ≤ (dt.shown : ℤ) - offset && (dt.shown : ℤ) - offset < maxOrdinal * dayMicroseconds

/-- `_to_rfc3339_utc`. -/
def toRfc3339Utc (dt : PyDatetime) : Except DBOSError String :=
  if dt.inUtcRange then .ok (isoformatUtc ((dt.shown : ℤ) - dt.utcoffset.getD 0).toNat)
  else .error (.exception "date value out of range")

/-- `format(value, "f")`. -/
def formatF : PyDecimal → String
  | .finite negative coefficient exponent =>
    let sign := if negative then "-" else ""
    -- a zero is written without the zeros of a positive exponent
    let exponent := if coefficient = 0 ∧ 0 < exponent then 0 else exponent
    let digits := (toString coefficient).toList
    let dotplace := exponent + digits.length
    let (intpart, fracpart) :=
      if dotplace < 0 then (['0'], List.replicate (-dotplace).toNat '0' ++ digits)
      else if (digits.length : ℤ) < dotplace then
        (digits ++ List.replicate (dotplace - digits.length).toNat '0', [])
      else
        let leading := digits.take dotplace.toNat
        (if leading.isEmpty then ['0'] else leading, digits.drop dotplace.toNat)
    sign ++ String.ofList intpart ++
      if fracpart.isEmpty then "" else "." ++ String.ofList fracpart
  | .infinity negative => (if negative then "-" else "") ++ "Infinity"
  | .nan negative signaling payload =>
    (if negative then "-" else "") ++ (if signaling then "sNaN" else "NaN") ++
      (payload.map toString).getD ""

/-! ## `_portableify` -/

/-- `out[k] = value`. -/
def setItem (out : List (PyKey × PyValue)) (k : String) (value : PyValue) :
    List (PyKey × PyValue) :=
  if out.any fun item ↦ item.1 = .str k then
    out.map fun item ↦ if item.1 = .str k then (.str k, value) else item
  else out ++ [(.str k, value)]

mutual

/-- `_portableify`. -/
def portableify : PyValue → Except DBOSError PyValue
  | .none => .ok .none
  | .bool value => .ok (.bool value)
  | .int value => .ok (.int value)
  | .float bits => .ok (.float bits)
  | .str text => .ok (.str text)
  | .datetime value => do
    let text ← toRfc3339Utc value
    pure (.str text)
  | .date value => .ok (.str (isoformat value))
  | .decimal value => .ok (.str (formatF value))
  | .list items => do
    let items ← portableifyAll items
    pure (.list items)
  | .tuple items => do
    let items ← portableifyAll items
    pure (.list items)
  | .set items => do
    let items ← portableifyAll items
    pure (.list items)
  | .mapping items => do
    let out ← portableifyItems items []
    pure (.mapping out)
  | .other typeName =>
    .error (.typeError ("Object of type " ++ typeName ++ " is not portable JSON serializable"))

/-- `[_portableify(v) for v in value]`. -/
def portableifyAll : List PyValue → Except DBOSError (List PyValue)
  | [] => .ok []
  | v :: rest => do
    let v ← portableify v
    let rest ← portableifyAll rest
    pure (v :: rest)

/-- The loop over the items of a mapping. -/
def portableifyItems : List (PyKey × PyValue) → List (PyKey × PyValue) →
    Except DBOSError (List (PyKey × PyValue))
  | [], out => .ok out
  | (.other, _) :: _, _ => .error (.typeError
      "Attempt to do portable JSON serialization of a map with non-string keys")
  | (.str k, v) :: rest, out => do
    let v ← portableify v
    portableifyItems rest (setItem out k v)

end

/-! ## The parts of a value -/

/-- The values directly inside. -/
def PyValue.children : PyValue → List PyValue
  | .list items => items
  | .tuple items => items
  | .set items => items
  | .mapping items => items.map Prod.snd
  | _ => []

mutual

/-- The value and everything in it, at every depth. -/
def PyValue.parts : PyValue → List PyValue
  | .list items => .list items :: partsAll items
  | .tuple items => .tuple items :: partsAll items
  | .set items => .set items :: partsAll items
  | .mapping items => .mapping items :: partsItems items
  | v => [v]

def PyValue.partsAll : List PyValue → List PyValue
  | [] => []
  | v :: rest => v.parts ++ partsAll rest

def PyValue.partsItems : List (PyKey × PyValue) → List PyValue
  | [] => []
  | (_, v) :: rest => v.parts ++ partsItems rest

end

/-- A kind of value that JSON has; a map has distinct string keys. -/
def PyValue.isJsonNode : PyValue → Bool
  | .none | .bool _ | .int _ | .float _ | .str _ | .list _ => true
  | .mapping items => items.all (fun item ↦ item.1 ≠ .other) && (items.map Prod.fst).Nodup
  | _ => false

/-- A JSON value. -/
def PyValue.IsJson (v : PyValue) : Prop :=
  ∀ part ∈ v.parts, part.isJsonNode

/-- An object of another kind, or a mapping with a non-string key. -/
def PyValue.isForeign : PyValue → Bool
  | .other _ => true
  | .mapping items => items.any fun item ↦ item.1 = .other
  | _ => false

/-- A `datetime` whose time in UTC is outside of the years 1 to 9999. -/
def PyValue.isOutOfRange : PyValue → Bool
  | .datetime value => !value.inUtcRange
  | _ => false

namespace PyValue

@[simp]
theorem mem_partsAll {part : PyValue} {items : List PyValue} :
    part ∈ partsAll items ↔ ∃ v ∈ items, part ∈ v.parts := by
  induction items with
  | nil => simp [partsAll]
  | cons v rest ih => simp [partsAll, ih]

@[simp]
theorem mem_partsItems {part : PyValue} {items : List (PyKey × PyValue)} :
    part ∈ partsItems items ↔ ∃ v ∈ items.map Prod.snd, part ∈ v.parts := by
  induction items with
  | nil => simp [partsItems]
  | cons item rest ih => simp [partsItems, ih]

/-- The parts are the value and the parts of its children. -/
theorem mem_parts {part v : PyValue} :
    part ∈ v.parts ↔ part = v ∨ ∃ child ∈ v.children, part ∈ child.parts := by
  cases v <;> simp [parts, children]

theorem sizeOf_lt_of_mem_children {child v : PyValue} (h : child ∈ v.children) :
    sizeOf child < sizeOf v := by
  have hitems (items : List PyValue) (hchild : child ∈ items) : sizeOf child < sizeOf items :=
    List.sizeOf_lt_of_mem hchild
  cases v with
  | list items | tuple items | set items =>
    have hlt := hitems items h
    simp only [list.sizeOf_spec, tuple.sizeOf_spec, set.sizeOf_spec]
    omega
  | mapping items =>
    obtain ⟨item, hitem, rfl⟩ := List.mem_map.mp h
    have hlt := List.sizeOf_lt_of_mem hitem
    obtain ⟨key, value⟩ := item
    simp only [mapping.sizeOf_spec, Prod.mk.sizeOf_spec] at hlt ⊢
    omega
  | _ => simp [children] at h

/-- What holds of a value whenever it holds of its children holds of every value. -/
theorem childrenInduction {motive : PyValue → Prop}
    (h : ∀ v : PyValue, (∀ child ∈ v.children, motive child) → motive v) (v : PyValue) :
    motive v :=
  h v fun child _ ↦ childrenInduction h child
termination_by sizeOf v
decreasing_by exact sizeOf_lt_of_mem_children ‹_›

theorem isJson_iff {v : PyValue} :
    v.IsJson ↔ v.isJsonNode ∧ ∀ child ∈ v.children, child.IsJson := by
  constructor
  · intro h
    refine ⟨h v (mem_parts.mpr (Or.inl rfl)), ?_⟩
    intro child hchild part hpart
    exact h part (mem_parts.mpr (Or.inr ⟨child, hchild, hpart⟩))
  · rintro ⟨hnode, hchildren⟩ part hpart
    rcases mem_parts.mp hpart with rfl | ⟨child, hchild, hpart⟩
    · exact hnode
    · exact hchildren child hchild part hpart

end PyValue

/-! ## When the conversion raises -/

/-- The error is a `TypeError`. -/
def isTypeError : DBOSError → Bool
  | .typeError _ => true
  | _ => false

theorem portableifyAll_eq_error {items : List PyValue} {error : DBOSError}
    (h : portableifyAll items = .error error) :
    ∃ v ∈ items, portableify v = .error error := by
  induction items with
  | nil => cases h
  | cons v rest ih =>
    rw [portableifyAll] at h
    cases hv : portableify v with
    | error error' =>
      rw [hv] at h
      cases h
      exact ⟨v, List.mem_cons_self, hv⟩
    | ok w =>
      cases hrest : portableifyAll rest with
      | error error' =>
        rw [hv, hrest] at h
        cases h
        obtain ⟨v', hmem, hv'⟩ := ih hrest
        exact ⟨v', List.mem_cons_of_mem v hmem, hv'⟩
      | ok out =>
        rw [hv, hrest] at h
        cases h

theorem portableifyItems_eq_error {items out : List (PyKey × PyValue)} {error : DBOSError}
    (h : portableifyItems items out = .error error) :
    (isTypeError error ∧ ∃ item ∈ items, item.1 = .other) ∨
      ∃ v ∈ items.map Prod.snd, portableify v = .error error := by
  induction items generalizing out with
  | nil => cases h
  | cons item rest ih =>
    obtain ⟨key, v⟩ := item
    cases key with
    | other =>
      cases h
      exact Or.inl ⟨rfl, _, List.mem_cons_self, rfl⟩
    | str k =>
      rw [portableifyItems] at h
      cases hv : portableify v with
      | error error' =>
        rw [hv] at h
        cases h
        exact Or.inr ⟨v, List.mem_cons_self, hv⟩
      | ok w =>
        rw [hv] at h
        rcases ih h with ⟨htype, item, hmem, hitem⟩ | ⟨v', hmem, hv'⟩
        · exact Or.inl ⟨htype, item, List.mem_cons_of_mem _ hmem, hitem⟩
        · exact Or.inr ⟨v', List.mem_cons_of_mem _ hmem, hv'⟩

/-- The error of a value is its own or that of a child. -/
theorem portableify_eq_error {v : PyValue} {error : DBOSError}
    (h : portableify v = .error error) :
    (v.isForeign ∧ isTypeError error) ∨ (v.isOutOfRange ∧ ¬ isTypeError error) ∨
      ∃ child ∈ v.children, portableify child = .error error := by
  cases v with
  | none | bool | int | float | str | date | decimal => cases h
  | other typeName =>
    cases h
    exact Or.inl ⟨rfl, rfl⟩
  | datetime value =>
    rw [portableify, toRfc3339Utc] at h
    by_cases hrange : value.inUtcRange
    · rw [if_pos hrange] at h
      cases h
    · rw [if_neg hrange] at h
      cases h
      refine Or.inr (Or.inl ⟨?_, by simp [isTypeError]⟩)
      simpa [PyValue.isOutOfRange] using hrange
  | list items | tuple items | set items =>
    rw [portableify] at h
    cases hitems : portableifyAll items with
    | error error' =>
      rw [hitems] at h
      cases h
      exact Or.inr (Or.inr (portableifyAll_eq_error hitems))
    | ok out =>
      rw [hitems] at h
      cases h
  | mapping items =>
    rw [portableify] at h
    cases hitems : portableifyItems items [] with
    | error error' =>
      rw [hitems] at h
      cases h
      rcases portableifyItems_eq_error hitems with ⟨htype, item, hmem, hitem⟩ | hchild
      · refine Or.inl ⟨?_, htype⟩
        simp only [PyValue.isForeign, List.any_eq_true, decide_eq_true_eq]
        exact ⟨item, hmem, hitem⟩
      · exact Or.inr (Or.inr hchild)
    | ok out =>
      rw [hitems] at h
      cases h

/-- The conversion of a list converts its members. -/
theorem portableifyAll_eq_ok {items out : List PyValue} (h : portableifyAll items = .ok out) :
    List.Forall₂ (fun v w ↦ portableify v = .ok w) items out := by
  induction items generalizing out with
  | nil =>
    cases h
    exact List.Forall₂.nil
  | cons v rest ih =>
    rw [portableifyAll] at h
    obtain ⟨w, hv, hrest⟩ := bind_eq_ok.mp h
    obtain ⟨out', hout, hpure⟩ := bind_eq_ok.mp hrest
    cases hpure
    exact List.Forall₂.cons hv (ih hout)

theorem portableifyItems_eq_ok {items out out' : List (PyKey × PyValue)}
    (h : portableifyItems items out = .ok out') :
    ∀ item ∈ items, item.1 ≠ .other ∧ ∃ w, portableify item.2 = .ok w := by
  induction items generalizing out with
  | nil => simp
  | cons item rest ih =>
    obtain ⟨key, v⟩ := item
    cases key with
    | other => cases h
    | str k =>
      rw [portableifyItems] at h
      obtain ⟨w, hv, hrest⟩ := bind_eq_ok.mp h
      intro item hitem
      rcases List.mem_cons.mp hitem with rfl | hmem
      · exact ⟨by simp, w, hv⟩
      · exact ih hrest item hmem

/-- A value that is converted is of a kind with a conversion, and so are its children. -/
theorem portableify_eq_ok {v w : PyValue} (h : portableify v = .ok w) :
    ¬ v.isForeign ∧ ¬ v.isOutOfRange ∧ ∀ child ∈ v.children, ∃ w, portableify child = .ok w := by
  have hall {items out : List PyValue} (hitems : portableifyAll items = .ok out) :
      ∀ child ∈ items, ∃ w, portableify child = .ok w := by
    intro child hchild
    obtain ⟨i, hi, rfl⟩ := List.getElem_of_mem hchild
    have hforall := List.forall₂_iff_get.mp (portableifyAll_eq_ok hitems)
    have hi' : i < out.length := hforall.1 ▸ hi
    exact ⟨out[i], hforall.2 i hi hi'⟩
  cases v with
  | none | bool | int | float | str | date | decimal =>
    simp [PyValue.isForeign, PyValue.isOutOfRange, PyValue.children]
  | other typeName => cases h
  | datetime value =>
    rw [portableify, toRfc3339Utc] at h
    by_cases hrange : value.inUtcRange
    · simp [PyValue.isForeign, PyValue.isOutOfRange, PyValue.children, hrange]
    · rw [if_neg hrange] at h
      cases h
  | list items | tuple items | set items =>
    rw [portableify] at h
    obtain ⟨out, hitems, hpure⟩ := bind_eq_ok.mp h
    exact ⟨by simp [PyValue.isForeign], by simp [PyValue.isOutOfRange], hall hitems⟩
  | mapping items =>
    rw [portableify] at h
    obtain ⟨out, hitems, hpure⟩ := bind_eq_ok.mp h
    have hspec := portableifyItems_eq_ok hitems
    refine ⟨?_, by simp [PyValue.isOutOfRange], ?_⟩
    · simp only [PyValue.isForeign, List.any_eq_true, decide_eq_true_eq, not_exists, not_and]
      intro item hitem
      exact (hspec item hitem).1
    · intro child hchild
      obtain ⟨item, hitem, rfl⟩ := List.mem_map.mp hchild
      exact (hspec item hitem).2

/-- The error comes from a part that has no conversion, and its class tells which kind. -/
theorem exists_part_of_error {v : PyValue} {error : DBOSError}
    (h : portableify v = .error error) :
    (isTypeError error ∧ ∃ part ∈ v.parts, part.isForeign) ∨
      (¬ isTypeError error ∧ ∃ part ∈ v.parts, part.isOutOfRange) := by
  induction v using PyValue.childrenInduction with
  | h v ih =>
    rcases portableify_eq_error h with ⟨hforeign, htype⟩ | ⟨hrange, htype⟩ | ⟨child, hchild, herror⟩
    · exact Or.inl ⟨htype, v, PyValue.mem_parts.mpr (Or.inl rfl), hforeign⟩
    · exact Or.inr ⟨htype, v, PyValue.mem_parts.mpr (Or.inl rfl), hrange⟩
    · have hsub {part : PyValue} (hpart : part ∈ child.parts) : part ∈ v.parts :=
        PyValue.mem_parts.mpr (Or.inr ⟨child, hchild, hpart⟩)
      rcases ih child hchild herror with ⟨htype, part, hpart, hforeign⟩ | ⟨htype, part, hpart, hrange⟩
      · exact Or.inl ⟨htype, part, hsub hpart, hforeign⟩
      · exact Or.inr ⟨htype, part, hsub hpart, hrange⟩

/-- Every part of a value that is converted has a conversion. -/
theorem parts_of_ok {v w : PyValue} (h : portableify v = .ok w) :
    ∀ part ∈ v.parts, ¬ part.isForeign ∧ ¬ part.isOutOfRange := by
  induction v using PyValue.childrenInduction generalizing w with
  | h v ih =>
    have ⟨hforeign, hrange, hchildren⟩ := portableify_eq_ok h
    intro part hpart
    rcases PyValue.mem_parts.mp hpart with rfl | ⟨child, hchild, hpart⟩
    · exact ⟨hforeign, hrange⟩
    · obtain ⟨w', hw'⟩ := hchildren child hchild
      exact ih child hchild hw' part hpart

/-- The conversion raises exactly on the values with such a part. -/
theorem portableify_raises_iff {v : PyValue} :
    (∃ error, portableify v = .error error) ↔
      (∃ part ∈ v.parts, part.isForeign) ∨ ∃ part ∈ v.parts, part.isOutOfRange := by
  constructor
  · rintro ⟨error, herror⟩
    rcases exists_part_of_error herror with ⟨_, hforeign⟩ | ⟨_, hrange⟩
    · exact Or.inl hforeign
    · exact Or.inr hrange
  · intro hparts
    cases hv : portableify v with
    | error error => exact ⟨error, rfl⟩
    | ok w =>
      have hok := parts_of_ok hv
      rcases hparts with ⟨part, hpart, hforeign⟩ | ⟨part, hpart, hrange⟩
      · exact absurd hforeign (hok part hpart).1
      · exact absurd hrange (hok part hpart).2

/-! ## JSON values -/

theorem setItem_of_notMem {out : List (PyKey × PyValue)} {k : String} {value : PyValue}
    (h : .str k ∉ out.map Prod.fst) : setItem out k value = out ++ [(.str k, value)] := by
  have hany : (out.any fun item ↦ item.1 = .str k) = false := by
    simp only [List.any_eq_false, decide_eq_true_eq]
    intro item hitem hkey
    exact h (List.mem_map.mpr ⟨item, hitem, hkey⟩)
  rw [setItem, hany]
  simp

/-- An assignment leaves the keys or adds the new one behind them. -/
theorem keys_setItem (out : List (PyKey × PyValue)) (k : String) (value : PyValue) :
    (setItem out k value).map Prod.fst =
      if .str k ∈ out.map Prod.fst then out.map Prod.fst else out.map Prod.fst ++ [.str k] := by
  by_cases hmem : .str k ∈ out.map Prod.fst
  · have hany : (out.any fun item ↦ item.1 = .str k) = true := by
      obtain ⟨item, hitem, hkey⟩ := List.mem_map.mp hmem
      simp only [List.any_eq_true, decide_eq_true_eq]
      exact ⟨item, hitem, hkey⟩
    rw [setItem, hany, if_pos rfl, if_pos hmem, List.map_map]
    apply List.map_congr_left
    intro item _
    by_cases hkey : item.1 = .str k
    · simp [hkey]
    · simp [hkey]
  · rw [setItem_of_notMem hmem, if_neg hmem, List.map_append]
    rfl

theorem mem_values_setItem {out : List (PyKey × PyValue)} {k : String} {value v : PyValue}
    (h : v ∈ (setItem out k value).map Prod.snd) : v = value ∨ v ∈ out.map Prod.snd := by
  rw [setItem] at h
  split at h
  · obtain ⟨item', hitem', rfl⟩ := List.mem_map.mp h
    obtain ⟨item, hitem, rfl⟩ := List.mem_map.mp hitem'
    by_cases hkey : item.1 = .str k
    · exact Or.inl (by rw [if_pos hkey])
    · rw [if_neg hkey]
      exact Or.inr (List.mem_map_of_mem hitem)
  · rw [List.map_append, List.mem_append] at h
    rcases h with hold | hnew
    · exact Or.inr hold
    · exact Or.inl (List.mem_singleton.mp hnew)

theorem isJson_mapping {items : List (PyKey × PyValue)} :
    (PyValue.mapping items).IsJson ↔
      .other ∉ items.map Prod.fst ∧ (items.map Prod.fst).Nodup ∧
        ∀ v ∈ items.map Prod.snd, v.IsJson := by
  rw [PyValue.isJson_iff, and_assoc.symm]
  apply and_congr_left
  intro _
  have hall : (items.all fun item ↦ item.1 ≠ .other) ↔ .other ∉ items.map Prod.fst := by
    simp only [List.all_eq_true, decide_eq_true_eq, List.mem_map, not_exists, not_and]
  rw [PyValue.isJsonNode, Bool.and_eq_true, hall, decide_eq_true_eq]

theorem isJson_list {items : List PyValue} :
    (PyValue.list items).IsJson ↔ ∀ v ∈ items, v.IsJson := by
  rw [PyValue.isJson_iff]
  simp [PyValue.isJsonNode, PyValue.children]

theorem isJson_none : PyValue.none.IsJson :=
  PyValue.isJson_iff.mpr ⟨rfl, by simp [PyValue.children]⟩

theorem isJson_str (text : String) : (PyValue.str text).IsJson :=
  PyValue.isJson_iff.mpr ⟨rfl, by simp [PyValue.children]⟩

theorem isJson_setItem {out : List (PyKey × PyValue)} {k : String} {value : PyValue}
    (hout : (PyValue.mapping out).IsJson) (hvalue : value.IsJson) :
    (PyValue.mapping (setItem out k value)).IsJson := by
  obtain ⟨hkeys, hnodup, hvalues⟩ := isJson_mapping.mp hout
  apply isJson_mapping.mpr
  rw [keys_setItem]
  refine ⟨?_, ?_, ?_⟩
  · split <;> simp_all
  · split
    · exact hnodup
    · rename_i hmem
      exact List.nodup_append.mpr ⟨hnodup, List.nodup_singleton _, by
        rintro key hkey _ hsingle rfl
        exact hmem (List.mem_singleton.mp hsingle ▸ hkey)⟩
  · intro v hv
    rcases mem_values_setItem hv with rfl | hold
    · exact hvalue
    · exact hvalues v hold

theorem isJson_portableifyItems {items out out' : List (PyKey × PyValue)}
    (hitems : ∀ v ∈ items.map Prod.snd, ∀ w, portableify v = .ok w → w.IsJson)
    (hout : (PyValue.mapping out).IsJson) (h : portableifyItems items out = .ok out') :
    (PyValue.mapping out').IsJson := by
  induction items generalizing out with
  | nil =>
    cases h
    exact hout
  | cons item rest ih =>
    obtain ⟨key, v⟩ := item
    cases key with
    | other => cases h
    | str k =>
      rw [portableifyItems] at h
      obtain ⟨w, hv, hrest⟩ := bind_eq_ok.mp h
      have hw : w.IsJson := hitems v List.mem_cons_self w hv
      exact ih (fun v hv ↦ hitems v (List.mem_cons_of_mem _ hv)) (isJson_setItem hout hw) hrest

/-- What the conversion returns is a JSON value. -/
theorem isJson_portableify {v w : PyValue} (h : portableify v = .ok w) : w.IsJson := by
  induction v using PyValue.childrenInduction generalizing w with
  | h v ih =>
    have hlist {items out : List PyValue} (hv : v.children = items)
        (hitems : portableifyAll items = .ok out) : (PyValue.list out).IsJson := by
      apply isJson_list.mpr
      intro w hw
      obtain ⟨i, hi, rfl⟩ := List.getElem_of_mem hw
      have hforall := List.forall₂_iff_get.mp (portableifyAll_eq_ok hitems)
      have hi' : i < items.length := hforall.1 ▸ hi
      have hmem : items[i] ∈ v.children := by
        rw [hv]
        exact List.getElem_mem hi'
      exact ih items[i] hmem (hforall.2 i hi' hi)
    cases v with
    | none | bool | int | float | str =>
      cases h
      exact PyValue.isJson_iff.mpr ⟨rfl, by simp [PyValue.children]⟩
    | date | decimal =>
      cases h
      exact isJson_str _
    | other typeName => cases h
    | datetime value =>
      rw [portableify] at h
      obtain ⟨text, _, hpure⟩ := bind_eq_ok.mp h
      cases hpure
      exact isJson_str text
    | list items | tuple items | set items =>
      rw [portableify] at h
      obtain ⟨out, hitems, hpure⟩ := bind_eq_ok.mp h
      cases hpure
      exact hlist rfl hitems
    | mapping items =>
      rw [portableify] at h
      obtain ⟨out, hitems, hpure⟩ := bind_eq_ok.mp h
      cases hpure
      have hempty : (PyValue.mapping []).IsJson := isJson_mapping.mpr (by simp)
      exact isJson_portableifyItems (fun v hv w hw ↦ ih v hv hw) hempty hitems

theorem portableifyAll_self {items : List PyValue}
    (h : ∀ v ∈ items, portableify v = .ok v) : portableifyAll items = .ok items := by
  induction items with
  | nil => rfl
  | cons v rest ih =>
    rw [portableifyAll, h v List.mem_cons_self, ih fun v hv ↦ h v (List.mem_cons_of_mem _ hv)]
    rfl

/-- The loop over items with new, distinct keys appends them. -/
theorem portableifyItems_self {items out : List (PyKey × PyValue)}
    (hkeys : .other ∉ items.map Prod.fst) (hnodup : ((out ++ items).map Prod.fst).Nodup)
    (hvalues : ∀ v ∈ items.map Prod.snd, portableify v = .ok v) :
    portableifyItems items out = .ok (out ++ items) := by
  induction items generalizing out with
  | nil => rw [portableifyItems, List.append_nil]
  | cons item rest ih =>
    obtain ⟨key, v⟩ := item
    cases key with
    | other => simp at hkeys
    | str k =>
      have hnew : .str k ∉ out.map Prod.fst := by
        rw [List.map_append, List.nodup_append] at hnodup
        intro hmem
        exact hnodup.2.2 _ hmem _ List.mem_cons_self rfl
      have hassoc : out ++ (.str k, v) :: rest = out ++ [(.str k, v)] ++ rest := by simp
      have hv : portableify v = .ok v := hvalues v List.mem_cons_self
      calc
        portableifyItems ((.str k, v) :: rest) out
            = portableifyItems rest (setItem out k v) := by
          rw [portableifyItems, hv]
          rfl
        _ = portableifyItems rest (out ++ [(.str k, v)]) := by rw [setItem_of_notMem hnew]
        _ = .ok (out ++ [(.str k, v)] ++ rest) := by
          apply ih
          · intro hmem
            exact hkeys (List.mem_cons_of_mem _ hmem)
          · rwa [← hassoc]
          · intro v hv
            exact hvalues v (List.mem_cons_of_mem _ hv)
        _ = .ok (out ++ (.str k, v) :: rest) := by rw [hassoc]

/-- The conversion is the identity on JSON values. -/
theorem portableify_of_isJson {v : PyValue} (h : v.IsJson) : portableify v = .ok v := by
  induction v using PyValue.childrenInduction with
  | h v ih =>
    have ⟨hnode, hchildren⟩ := PyValue.isJson_iff.mp h
    cases v with
    | none | bool | int | float | str => rfl
    | datetime | date | decimal | tuple | set | other => cases hnode
    | list items =>
      have hitems : portableifyAll items = .ok items :=
        portableifyAll_self fun v hv ↦ ih v hv (hchildren v hv)
      rw [portableify, hitems]
      rfl
    | mapping items =>
      have ⟨hkeys, hnodup, _⟩ := isJson_mapping.mp h
      have hitems : portableifyItems items [] = .ok ([] ++ items) :=
        portableifyItems_self hkeys hnodup fun v hv ↦ ih v hv (hchildren v hv)
      rw [portableify, hitems]
      rfl

/-! ## The arguments of a workflow -/

/-- `dumps` and `loads` of `json` or of `pickle`. -/
structure Codec where
  dumps : PyValue → Except DBOSError String
  loads : String → Except DBOSError PyValue

/-- `loads` undoes `dumps` on the value. -/
def Codec.Undoes (json : Codec) (v : PyValue) : Prop :=
  ∃ text, json.dumps v = .ok text ∧ json.loads text = .ok v

/-- `DBOSPortableJSON`. -/
def portableJSON (json : Codec) : Serializer PyValue where
  name := portableName
  serialize value := do
    let portable ← portableify value
    json.dumps portable
  deserialize := json.loads

/-- The serializers of a process, with the texts of pickle left open. -/
def portableSerializers (json pickle : Codec) (configured : Serializer PyValue) :
    Serializers PyValue where
  pyNone := .none
  portable := portableJSON json
  native := ⟨defaultName, pickle.dumps, pickle.loads⟩
  configured := configured
  portable_name := rfl
  native_name := rfl

section Arguments

variable (serializers : Serializers PyValue)

/-- `serialization_for_type`. -/
def serializationForType : WorkflowSerializationFormat → String
  | .portable => portableName
  | .native => defaultName
  | .default => serializers.configured.name

/-- `JsonWorkflowArgs`. -/
def jsonWorkflowArgs (args : List PyValue) (kwargs : List (PyKey × PyValue)) : PyValue :=
  .mapping [(.str "namedArgs", .mapping kwargs), (.str "positionalArgs", .list args)]

/-- `WorkflowInputs`. -/
def workflowInputs (args : List PyValue) (kwargs : List (PyKey × PyValue)) : PyValue :=
  .mapping [(.str "args", .tuple args), (.str "kwargs", .mapping kwargs)]

/-- `serialize_args`. -/
def serializeArgs (args : List PyValue) (kwargs : List (PyKey × PyValue))
    (format : WorkflowSerializationFormat) : Except DBOSError (String × String) :=
  let serialization := serializationForType serializers format
  let value :=
    if serialization = portableName then jsonWorkflowArgs args kwargs
    else workflowInputs args kwargs
  serializers.serializeValueAs value (some serialization)

/-- `value[key]` of a map that came from JSON. -/
def getItem (items : List (PyKey × PyValue)) (key : String) : Option PyValue :=
  (items.find? fun item ↦ item.1 = .str key).map Prod.snd

/-- `if (not key in args) or args[key] is None: args[key] = value`. -/
def setDefault (items : List (PyKey × PyValue)) (key : String) (value : PyValue) :
    List (PyKey × PyValue) :=
  match getItem items key with
  | none | some .none => setItem items key value
  | some _ => items

/-- What `key in value` and the access after it raise on a value that is not a map. -/
def subscriptError (key : String) : PyValue → DBOSError
  | .none => .typeError "argument of type 'NoneType' is not iterable"
  | .bool _ => .typeError "argument of type 'bool' is not iterable"
  | .int _ => .typeError "argument of type 'int' is not iterable"
  | .float _ => .typeError "argument of type 'float' is not iterable"
  | .str text =>
    if key.toList <:+: text.toList then .typeError "string indices must be integers, not 'str'"
    else .typeError "'str' object does not support item assignment"
  | _ => .typeError "list indices must be integers or slices, not str"

/-- `tuple(value)` of a value that came from JSON. -/
def tupleOf : PyValue → Except DBOSError (List PyValue)
  | .list items => .ok items
  | .str text => .ok (text.toList.map fun c ↦ .str (String.singleton c))
  | .mapping items => .ok <| items.filterMap fun
    | (.str k, _) => some (.str k)
    | (.other, _) => none
  | .bool _ => .error (.typeError "'bool' object is not iterable")
  | .float _ => .error (.typeError "'float' object is not iterable")
  | _ => .error (.typeError "'int' object is not iterable")

/-- The inputs that portable JSON text stands for. -/
def inputsOfPortable : PyValue → Except DBOSError PyValue
  | .mapping items => do
    let items := setDefault items "positionalArgs" (.list [])
    let items := setDefault items "namedArgs" (.mapping [])
    let args ← tupleOf ((getItem items "positionalArgs").getD .none)
    pure (.mapping [(.str "args", .tuple args),
      (.str "kwargs", (getItem items "namedArgs").getD .none)])
  | value => .error (subscriptError "positionalArgs" value)

/-- `deserialize_args`. -/
def deserializeArgs (serializedValue serialization : Option String) : Except DBOSError PyValue := do
  let value ← serializers.deserializeValue serializedValue serialization
  if serializedValue.isSome ∧ serialization = some portableName then inputsOfPortable value
  else pure value

end Arguments

theorem isJson_jsonWorkflowArgs {args : List PyValue} {kwargs : List (PyKey × PyValue)}
    (hargs : ∀ arg ∈ args, arg.IsJson) (hkwargs : (PyValue.mapping kwargs).IsJson) :
    (jsonWorkflowArgs args kwargs).IsJson := by
  apply isJson_mapping.mpr
  refine ⟨by simp, by simp, ?_⟩
  intro v hv
  simp only [List.map_cons, List.map_nil, List.mem_cons, List.not_mem_nil, or_false] at hv
  rcases hv with rfl | rfl
  · exact hkwargs
  · exact isJson_list.mpr hargs

/-- The envelope of the arguments is opened again. -/
theorem inputsOfPortable_jsonWorkflowArgs (args : List PyValue)
    (kwargs : List (PyKey × PyValue)) :
    inputsOfPortable (jsonWorkflowArgs args kwargs) = .ok (workflowInputs args kwargs) := by
  simp [inputsOfPortable, jsonWorkflowArgs, workflowInputs, setDefault, getItem, tupleOf, bind,
    Except.bind, pure, Except.pure]

section RoundTrip

variable (json pickle : Codec) (configured : Serializer PyValue)

/-- Arguments made of JSON values come back from their portable text. -/
theorem deserializeArgs_serializeArgs {args : List PyValue} {kwargs : List (PyKey × PyValue)}
    {format : WorkflowSerializationFormat}
    (hformat :
      serializationForType (portableSerializers json pickle configured) format = portableName)
    (hargs : ∀ arg ∈ args, arg.IsJson) (hkwargs : (PyValue.mapping kwargs).IsJson)
    (hjson : json.Undoes (jsonWorkflowArgs args kwargs)) :
    ∃ text,
      serializeArgs (portableSerializers json pickle configured) args kwargs format =
          .ok (text, portableName) ∧
        deserializeArgs (portableSerializers json pickle configured) (some text)
          (some portableName) = .ok (workflowInputs args kwargs) := by
  obtain ⟨text, hdumps, hloads⟩ := hjson
  have hselect : (portableSerializers json pickle configured).select (some portableName) =
      .ok (portableJSON json) := Serializers.select_portable
  refine ⟨text, ?_, ?_⟩
  · have hportable := portableify_of_isJson (isJson_jsonWorkflowArgs hargs hkwargs)
    have hserialize : (portableJSON json).serialize (jsonWorkflowArgs args kwargs) = .ok text :=
      bind_eq_ok.mpr ⟨_, hportable, hdumps⟩
    rw [serializeArgs, hformat, if_pos rfl]
    apply bind_eq_ok.mpr
    exact ⟨portableJSON json, hselect, bind_eq_ok.mpr ⟨text, hserialize, rfl⟩⟩
  · have hvalue : (portableSerializers json pickle configured).deserializeValue (some text)
        (some portableName) = .ok (jsonWorkflowArgs args kwargs) :=
      bind_eq_ok.mpr ⟨portableJSON json, hselect, hloads⟩
    rw [deserializeArgs, hvalue]
    exact inputsOfPortable_jsonWorkflowArgs args kwargs

/-- The conversion leaves JSON values as they are, returns JSON values only and so is idempotent. It
raises exactly on a value that holds an object of another kind, a non-string key or a `datetime`
without a time in UTC, with a `TypeError` for the first two only. Arguments made of JSON values
survive the round trip. -/
theorem portableify_spec :
    (∀ v : PyValue, v.IsJson → portableify v = .ok v) ∧
      (∀ v w : PyValue, portableify v = .ok w → w.IsJson ∧ portableify w = .ok w) ∧
      (∀ v : PyValue, (∃ error, portableify v = .error error) ↔
        (∃ part ∈ v.parts, part.isForeign) ∨ ∃ part ∈ v.parts, part.isOutOfRange) ∧
      (∀ (v : PyValue) (message : String), portableify v = .error (.typeError message) →
        ∃ part ∈ v.parts, part.isForeign) ∧
      (∀ v : PyValue, (∀ part ∈ v.parts, ¬ part.isOutOfRange) →
        ((∃ message, portableify v = .error (.typeError message)) ↔
          ∃ part ∈ v.parts, part.isForeign)) ∧
      ∀ (args : List PyValue) (kwargs : List (PyKey × PyValue))
        (format : WorkflowSerializationFormat),
        serializationForType (portableSerializers json pickle configured) format = portableName →
        (∀ arg ∈ args, arg.IsJson) → (PyValue.mapping kwargs).IsJson →
        json.Undoes (jsonWorkflowArgs args kwargs) →
        ∃ text,
          serializeArgs (portableSerializers json pickle configured) args kwargs format =
              .ok (text, portableName) ∧
            deserializeArgs (portableSerializers json pickle configured) (some text)
              (some portableName) = .ok (workflowInputs args kwargs) := by
  have hforeign (v : PyValue) (message : String)
      (h : portableify v = .error (.typeError message)) : ∃ part ∈ v.parts, part.isForeign := by
    rcases exists_part_of_error h with ⟨_, hparts⟩ | ⟨htype, _⟩
    · exact hparts
    · exact absurd rfl htype
  refine ⟨fun v ↦ portableify_of_isJson, ?_, fun v ↦ portableify_raises_iff, hforeign, ?_, ?_⟩
  · intro v w h
    have hw := isJson_portableify h
    exact ⟨hw, portableify_of_isJson hw⟩
  · intro v hrange
    constructor
    · rintro ⟨message, h⟩
      exact hforeign v message h
    · intro hparts
      have ⟨error, herror⟩ := portableify_raises_iff.mpr (Or.inl hparts)
      rcases exists_part_of_error herror with ⟨htype, _⟩ | ⟨_, part, hpart, hout⟩
      · cases error with
        | typeError message => exact ⟨message, herror⟩
        | _ => cases htype
      · exact absurd hout (hrange part hpart)
  · intro args kwargs format hformat hargs hkwargs hjson
    exact deserializeArgs_serializeArgs json pickle configured hformat hargs hkwargs hjson

end RoundTrip

/-- `json` on one pair of arguments. -/
def limitJson : Codec where
  dumps _ := .ok
    "\x7b\"namedArgs\":\x7b\"limit\":null\x7d,\"positionalArgs\":[[1,true]]\x7d"
  loads _ := .ok (jsonWorkflowArgs [.list [.int 1, .bool true]] [(.str "limit", .none)])

/-- A `pickle` that refuses every value. -/
def refusingPickle : Codec where
  dumps _ := .error (.typeError "cannot pickle object")
  loads _ := .error (.exception "pickle data was truncated")

theorem portableify_spec_limit :
    ∃ text,
      serializeArgs (portableSerializers limitJson refusingPickle (portableJSON limitJson))
          [.list [.int 1, .bool true]] [(.str "limit", .none)] .default =
          .ok (text, portableName) ∧
        deserializeArgs (portableSerializers limitJson refusingPickle (portableJSON limitJson))
          (some text) (some portableName) =
          .ok (workflowInputs [.list [.int 1, .bool true]] [(.str "limit", .none)]) := by
  apply (portableify_spec limitJson refusingPickle (portableJSON limitJson)).2.2.2.2.2
  · rfl
  · simp [PyValue.IsJson, PyValue.parts, PyValue.partsAll, PyValue.isJsonNode]
  · simp [PyValue.IsJson, PyValue.parts, PyValue.partsItems, PyValue.isJsonNode]
  · exact ⟨_, rfl, rfl⟩

/-! ## A time before the first year -/

/-- Midnight of 0001-01-01 at UTC+1, in front of an object that has no conversion. -/
def earlyThenObject : PyValue :=
  .list [.datetime ⟨⟨0, by decide⟩, some 3600000000⟩, .other "object"]

/-- The value holds an object of another kind, and what is raised is not a `TypeError`. -/
theorem earlyThenObject_no_typeError :
    ¬ ((∃ message, portableify earlyThenObject = .error (.typeError message)) ↔
      ∃ part ∈ earlyThenObject.parts, part.isForeign) := by
  have hraises : portableify earlyThenObject = .error (.exception "date value out of range") := by
    rfl
  intro h
  obtain ⟨message, hmessage⟩ := h.mpr ⟨.other "object", by simp [earlyThenObject, PyValue.parts,
    PyValue.partsAll], rfl⟩
  rw [hraises] at hmessage
  cases hmessage

end DBOSModel.Portable

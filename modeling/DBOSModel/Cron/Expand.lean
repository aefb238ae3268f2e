import DBOSModel.Cron.Fields
import DBOSModel.Relational.Transaction
import Mathlib.Data.List.Dedup
import Mathlib.Data.List.Sort

/-!
# Parsing a cron expression

`expand` of `dbos/_croniter.py`, from the text of an expression to the values of its fields. A text
is a list of characters. What the parser uses of Unicode is a parameter: lower case, whitespace, the
decimal digits and the characters of a word. The crontab macros, hashed and random values, ranges,
steps, names and n-th weekdays are all there. The values of a field are collected from a stack: a
range is replaced by its numbers, which come before what is under it.
-/

namespace DBOSModel.Cron

/-- What the parser uses of Unicode. -/
structure Unicode where
  lower : List Char → List Char
  isSpace : Char → Bool
  digit : Char → Option ℕ
  isWord : Char → Bool

/-- A table of the ASCII characters. -/
def Unicode.ascii : Unicode where
  lower := List.map Char.toLower
  isSpace c := c == ' ' || c == '\t' || c == '\n' || c == '\r'
  digit c := if c.isDigit then some (c.toNat - '0'.toNat) else none
  isWord c := c.isAlphanum || c == '_'

/-- The exceptions of the parser. The last one is a `ValueError` that `expand` wraps. -/
inductive CronError where
  | badCron (message : String)
  | notAlpha (message : String)
  | unsupportedSyntax (dow : List Item) (nth : NthWeekdays)
  | valueError
deriving DecidableEq, Repr

/-- The fields of an expression, by their index. -/
inductive FieldName where
  | minute
  | hour
  | day
  | month
  | dow
  | second
  | year
deriving DecidableEq, Repr

namespace FieldName

/-- `CRON_FIELDS`, in the order of the indices. -/
def all : List FieldName := [minute, hour, day, month, dow, second, year]

def index : FieldName → ℕ
  | minute => 0
  | hour => 1
  | day => 2
  | month => 3
  | dow => 4
  | second => 5
  | year => 6

/-- `RANGES`. -/
def low : FieldName → ℕ
  | minute | hour | dow | second => 0
  | day | month => 1
  | year => 1970

def high : FieldName → ℕ
  | minute | second => 59
  | hour => 23
  | day => 31
  | month => 12
  | dow => 7
  | year => 2099

/-- `LEN_MEANS_ALL`. -/
def lenMeansAll : FieldName → ℕ
  | minute | second => 60
  | hour => 24
  | day => 31
  | month => 12
  | dow => 7
  | year => 130

/-- `LOWMAP`. -/
def lowMap : FieldName → ℕ → Option ℕ
  | day, 0 | month, 0 => some 1
  | dow, 7 => some 0
  | _, _ => none

/-- The fields for which `LOWMAP` does not apply, by the number of fields. -/
def keepsLow (field : FieldName) (length : ℕ) : Bool :=
  match length with
  | 5 => field = day || field = month
  | 6 => field = month || field = dow
  | 7 => field = day || field = month || field = dow
  | _ => false

/-- A number after `LOWMAP`. -/
def mapped (field : FieldName) (length n : ℕ) : ℕ :=
  if field.keepsLow length then n else (field.lowMap n).getD n

end FieldName

def monthNames : List String :=
  ["jan", "feb", "mar", "apr", "may", "jun", "jul", "aug", "sep", "oct", "nov", "dec"]

def weekdayNames : List String := ["sun", "mon", "tue", "wed", "thu", "fri", "sat"]

/-- The index of a name, if it is one. -/
def nameIndex (names : List String) (key : List Char) : Option ℕ :=
  if String.ofList key ∈ names then some (names.idxOf (String.ofList key)) else none

section Parser

variable (unicode : Unicode)

/-! ## Regular expressions -/

/-- `only_int_re`: one digit or more. -/
def onlyInt (text : List Char) : Bool :=
  text ≠ [] && text.all fun c ↦ (unicode.digit c).isSome

/-- `int` of a text of digits. -/
def intOf (text : List Char) : Option ℕ :=
  if onlyInt unicode text then
    some (text.foldl (fun n c ↦ 10 * n + (unicode.digit c).getD 0) 0)
  else none

/-- The text before and after the first occurrence of a character. -/
def splitFirst (sep : Char) (text : List Char) : Option (List Char × List Char) :=
  match text.dropWhile (· ≠ sep) with
  | [] => none
  | _ :: rest => some (text.takeWhile (· ≠ sep), rest)

/-- `step_search_re`: the start, the end and the step of a range. -/
def stepSearch (text : List Char) : Option (List Char × List Char × Option (List Char)) :=
  match splitFirst '-' text with
  | none => none
  | some (low, rest) =>
    if low = [] ∨ '-' ∈ rest then none
    else
      match splitFirst '/' rest with
      | none => if rest = [] then none else some (low, rest, none)
      | some (high, step) =>
        if high = [] ∨ !onlyInt unicode step then none else some (low, high, some step)

/-- `^\*(\/.+)$`, replaced by the whole range of the field. -/
def starStep (field : FieldName) (text : List Char) : List Char :=
  match text with
  | '*' :: '/' :: c :: rest =>
    s!"{field.low}-{field.high}".toList ++ '/' :: c :: rest
  | _ => text

/-- `^(.+)\/(.+)$`: the text before and after the last slash that is not at an end. -/
def splitLastSlash (text : List Char) : Option (List Char × List Char) :=
  ((List.range text.length).reverse.find? fun i ↦
    text[i]? = some '/' ∧ 0 < i ∧ i + 1 < text.length).map
      fun i ↦ (text.take i, text.drop (i + 1))

/-- A start and a step, to the end of the range of the field. -/
def slashStep (field : FieldName) (text : List Char) : List Char :=
  match splitLastSlash text with
  | some (start, step) => start ++ s!"-{field.high}/".toList ++ step
  | none => text

/-- The part `he` of `special_dow_re`: a weekday or a month, or a range of two of them, or a word. -/
def isNthPrefix (text : List Char) : Bool :=
  let named (names : List String) :=
    (nameIndex names text).isSome ||
      match splitFirst '-' text with
      | some (first, second) =>
        (nameIndex names first).isSome && (nameIndex names second).isSome
      | none => false
  named weekdayNames || named monthNames || (text ≠ [] && text.all unicode.isWord)

/-- `special_dow_re`: the groups `he` and `last`. Without `he` the text is `l` and a number. -/
def specialDow (text : List Char) : Option (Option (List Char) × List Char) :=
  match splitFirst '#' text with
  | some (he, last) =>
    if isNthPrefix unicode he ∧ onlyInt unicode last then some (some he, last) else none
  | none =>
    match text with
    | 'l' :: last => if onlyInt unicode last then some (none, last) else none
    | _ => none

/-- `hash_expression_re`: the type, the bounds of the range and the divisor. -/
def hashExpression (text : List Char) :
    Option (Char × Option (List Char × List Char) × Option (List Char)) :=
  match text with
  | [] => none
  | hashType :: rest =>
    if hashType ≠ 'h' ∧ hashType ≠ 'r' then none
    else
      let divisorOf (tail : List Char) : Option (Option (List Char)) :=
        match tail with
        | [] => some none
        | '/' :: divisor => if onlyInt unicode divisor then some (some divisor) else none
        | _ => none
      match rest with
      | '(' :: inner =>
        match splitFirst ')' inner with
        | none => none
        | some (range, tail) =>
          match splitFirst '-' range with
          | none => none
          | some (rangeBegin, rangeEnd) =>
            if onlyInt unicode rangeBegin ∧ onlyInt unicode rangeEnd then
              (divisorOf tail).map fun divisor ↦ (hashType, some (rangeBegin, rangeEnd), divisor)
            else none
      | _ => (divisorOf rest).map fun divisor ↦ (hashType, none, divisor)

/-! ## Hashed and random values -/

/-- Where hashed and random values come from: the checksum of the hash ID, if there is one, and the
random number for each field. -/
structure HashSource where
  crc : Option ℕ := none
  random : FieldName → ℕ := fun _ ↦ 0

/-- `HashExpander.do`. -/
def hashDo (field : FieldName) (checksum rangeBegin rangeEnd : ℕ) : ℕ :=
  (checksum >>> field.index) % (rangeEnd - rangeBegin + 1) + rangeBegin

/-- `HashExpander.expand`. -/
def hashExpand (hash : HashSource) (field : FieldName) (expr : List Char) :
    Except CronError (List Char) :=
  match hashExpression unicode expr with
  | none => .ok expr
  | some (hashType, range, divisor) =>
    match if hashType = 'r' then some (hash.random field) else hash.crc with
    | none => .error (.badCron "Hashed definitions must include hash_id")
    | some checksum =>
      let number (text : List Char) : ℕ := (intOf unicode text).getD 0
      match range, divisor with
      | some (rangeBegin, rangeEnd), divisor =>
        if number rangeEnd ≤ number rangeBegin then
          .error (.badCron "Range end must be greater than range begin")
        else
          match divisor with
          | some divisor =>
            if number divisor = 0 then
              .error (.badCron s!"Bad expression: {String.ofList expr}")
            else
              let start := hashDo field checksum (number rangeBegin)
                (number divisor - 1 + number rangeBegin)
              .ok s!"{start}-{number rangeEnd}/{number divisor}".toList
          | none =>
            .ok (toString (hashDo field checksum (number rangeBegin) (number rangeEnd))).toList
      | none, some divisor =>
        if number divisor = 0 then .error (.badCron s!"Bad expression: {String.ofList expr}")
        else
          let start := hashDo field checksum field.low (number divisor - 1 + field.low)
          .ok s!"{start}-{field.high}/{number divisor}".toList
      | none, none => .ok (toString (hashDo field checksum field.low field.high)).toList

/-! ## One value -/

/-- The expression: its text as given, and its fields. -/
structure Expression where
  format : String
  fields : List (List Char)

/-- `_alphaconv`. -/
def alphaconv (expression : Expression) (field : FieldName) (key : List Char) :
    Except CronError Item :=
  let found : Option Item :=
    match field with
    | .day => if key = ['l'] then some .last else none
    | .month => (nameIndex monthNames key).map fun i ↦ .num (i + 1)
    | .dow => (nameIndex weekdayNames key).map .num
    | _ => none
  match found with
  | some item => .ok item
  | none =>
    let fields := " ".intercalate (expression.fields.map String.ofList)
    .error (.notAlpha s!"[{fields}] is not acceptable")

/-- A bound of a range as a text of digits, unless it is `l`. -/
def boundText (expression : Expression) (field : FieldName) (text : List Char) :
    Except CronError (List Char) :=
  if onlyInt unicode text then .ok text
  else
    match alphaconv expression field text with
    | .ok (.num n) => .ok (toString n).toList
    | .ok _ => .ok ['l']
    | .error error => .error error

/-- `range(low, high + 1, step)`. -/
def stepRange (low high step : ℕ) : List ℕ :=
  (List.range ((high - low) / step + 1)).map fun i ↦ low + step * i

/-- The numbers of a range, each with the n-th weekday of the range. Only an n-th weekday is put back
with its numbers, not a last one. -/
def rangeNumbers (expression : Expression) (field : FieldName) (nth : Option Nth)
    (low high step : ℕ) : Except CronError (List (ℕ × Option Nth)) :=
  if field.high < max low high then .error (.badCron s!"{expression.format} is out of bands")
  else if step = 0 then .error (.badCron "invalid range: range() arg 3 must not be zero")
  else
    let nth := if field = .dow then nth.filter (· ≠ .last) else none
    .ok ((stepRange low high step).map fun n ↦ (n, nth))

/-- A range, from the texts of its bounds and its step. -/
def expandRange (expression : Expression) (field : FieldName) (nth : Option Nth)
    (low high : List Char) (step : Option (List Char)) :
    Except CronError (List (ℕ × Option Nth)) :=
  let notAcceptable : CronError := .badCron s!"[{expression.format}] is not acceptable"
  let high := if field = .day ∧ high = ['l'] then "31".toList else high
  match boundText unicode expression field low with
  | .error error => .error error
  | .ok low =>
    match boundText unicode expression field high with
    | .error error => .error error
    | .ok high =>
      match intOf unicode low, intOf unicode high with
      | some lowNum, some highNum =>
        -- "-Sun" is 7
        if highNum < lowNum ∧ ¬ (field = .dow ∧ high = ['0']) then .error notAcceptable
        else
          rangeNumbers expression field nth lowNum (if highNum < lowNum then 7 else highNum)
            ((step.bind (intOf unicode)).getD 1)
      | _, _ => .error .valueError

/-- A value of a field that is not a range: it must be in the range of the field. -/
def checkValue (expression : Expression) (field : FieldName) (item : Item) :
    Except CronError Item :=
  match item with
  | .num n =>
    if field.mapped expression.fields.length n < field.low ∨
        field.high < field.mapped expression.fields.length n then
      .error (.badCron s!"[{expression.format}] is not acceptable, out of range")
    else .ok (.num (field.mapped expression.fields.length n))
  | _ => .ok item

/-- `e` and `nth`, after the special cases of the day of the week. -/
def weekdayOf (expression : Expression) (field : FieldName) (e : List Char) :
    Except CronError (List Char × Option Nth) :=
  if field = .dow then
    match specialDow unicode e with
    | some (some he, last) =>
      let n := (intOf unicode last).getD 0
      if 1 ≤ n ∧ n ≤ 5 then .ok (he, some (.nth n))
      else
        .error (.badCron
          s!"[{expression.format}] is not acceptable.  Invalid day_of_week value: '{n}'")
    | some (none, last) => .ok (last, some .last)
    | none => .ok (e, none)
  else .ok (e, none)

/-- What a text of the stack is: numbers to put back on it, or a value. -/
inductive Expansion where
  | numbers (numbers : List (ℕ × Option Nth))
  | value (item : Item) (nth : Option Nth)
deriving DecidableEq, Repr

/-- A text that is not a range. -/
def singleValue (expression : Expression) (field : FieldName) (t : List Char) :
    Except CronError Item :=
  if t.head? = some '-' then
    .error (.badCron s!"[{expression.format}] is not acceptable,negative numbers not allowed")
  else
    match intOf unicode t with
    | some n => checkValue expression field (.num n)
    | none =>
      if t = ['*'] then checkValue expression field .star
      else
        match alphaconv expression field t with
        | .ok item => checkValue expression field item
        | .error error => .error error

/-- One text of the stack. -/
def expandText (expression : Expression) (field : FieldName) (text : List Char) :
    Except CronError Expansion :=
  match weekdayOf unicode expression field text with
  | .error error => .error error
  | .ok (e, nth) =>
    let fromStar := stepSearch unicode (starStep field e)
    match if fromStar.isSome then fromStar else stepSearch unicode (slashStep field e) with
    | some (low, high, step) =>
      (expandRange unicode expression field nth low high step).map .numbers
    | none => (singleValue unicode expression field (slashStep field e)).map fun item ↦
        .value item nth

/-! ## One field -/

/-- `res` and `nth_weekday_of_month`. -/
structure Collected where
  res : List Item := []
  nth : NthWeekdays := []

/-- The sets grow by what they do not have yet. -/
def Collected.add (collected : Collected) (field : FieldName) (item : Item) (nth : Option Nth) :
    Collected where
  res := if item ∈ collected.res then collected.res else item :: collected.res
  nth :=
    match field, item, nth with
    | .dow, .num n, some k =>
      if (n, k) ∈ collected.nth then collected.nth else (n, k) :: collected.nth
    | _, _, _ => collected.nth

/-- A number of a range, popped off the stack. -/
def collectNumber (expression : Expression) (field : FieldName) (collected : Collected)
    (number : ℕ × Option Nth) : Except CronError Collected :=
  (checkValue expression field (.num number.1)).map fun item ↦ collected.add field item number.2

/-- A text, popped off the stack. The numbers of a range come off it right after the text, from the
last one. -/
def collectText (expression : Expression) (field : FieldName) (collected : Collected)
    (text : List Char) : Except CronError Collected :=
  match expandText unicode expression field text with
  | .error error => .error error
  | .ok (.numbers numbers) => numbers.reverse.foldlM (collectNumber expression field) collected
  | .ok (.value item nth) => .ok (collected.add field item nth)

def Item.number? : Item → Option ℕ
  | .num n => some n
  | _ => none

/-- The numbers of the values, in order. -/
def numbersOf (res : List Item) : List ℕ :=
  (res.filterMap Item.number?).dedup.insertionSort (· ≤ ·)

/-- `sorted`: the wildcard, the numbers in order, `l`. -/
def sortedItems (res : List Item) : List Item :=
  (if .star ∈ res then [.star] else []) ++ (numbersOf res).map .num ++
    if .last ∈ res then [.last] else []

/-- `expressions[i]`. -/
def Expression.fieldText (expression : Expression) (field : FieldName) : List Char :=
  expression.fields.getD field.index []

/-- The values of a field. All values together are a wildcard, but for the days when the other
field for the days is not one. -/
def finishField (expression : Expression) (field : FieldName) (res : List Item) : List Item :=
  let sorted := sortedItems res
  if sorted.length = field.lenMeansAll ∧
      ¬ (field = .day ∧ '*' ∉ expression.fieldText .dow) ∧
      ¬ (field = .dow ∧ '*' ∉ expression.fieldText .day) then [.star]
  else sorted

/-- A question mark is a wildcard, on its own and in a field for the days. -/
def questionMark (expression : Expression) (field : FieldName) (expr : List Char) :
    Except CronError (List Char) :=
  if '?' ∈ expr then
    if expr ≠ ['?'] then
      .error (.badCron (s!"[{expression.format}] is not acceptable.  " ++
        "Question mark can not used with other characters"))
    else if field ≠ .day ∧ field ≠ .dow then
      .error (.badCron (s!"[{expression.format}] is not acceptable.  " ++
        "Question mark can only used in day_of_month or day_of_week"))
    else .ok ['*']
  else .ok expr

/-- The values of one field, and the n-th weekdays with those that it adds. -/
def expandField (hash : HashSource) (expression : Expression) (field : FieldName)
    (expr : List Char) (nth : NthWeekdays) : Except CronError (List Item × NthWeekdays) :=
  match hashExpand unicode hash field expr with
  | .error error => .error error
  | .ok expr =>
    match questionMark expression field expr with
    | .error error => .error error
    | .ok expr =>
      match (expr.splitOn ',').reverse.foldlM (collectText unicode expression field)
        { nth := nth } with
      | .error error => .error error
      | .ok collected => .ok (finishField expression field collected.res, collected.nth)

/-! ## The expression -/

/-- `expr_aliases`, without and with a hash ID. -/
def exprAliases : List (String × String × String) :=
  [("@midnight", "0 0 * * *", "h h(0-2) * * * h"),
    ("@hourly", "0 * * * *", "h * * * * h"),
    ("@daily", "0 0 * * *", "h h * * * h"),
    ("@weekly", "0 0 * * 0", "h h * * h h"),
    ("@monthly", "0 0 1 * *", "h h h * * h"),
    ("@yearly", "0 0 1 1 *", "h h h h * h"),
    ("@annually", "0 0 1 1 *", "h h h h * h")]

/-- `expressions`: the fields of an expression, with the seconds moved behind the others. -/
def splitExpression (hash : HashSource) (secondAtBeginning : Bool) (exprFormat : String) :
    List (List Char) :=
  let lowered := unicode.lower exprFormat.toList
  let efl :=
    match exprAliases.find? fun entry ↦ entry.1.toList = lowered with
    | some (_, plain, hashed) => (if hash.crc.isSome then hashed else plain).toList
    | none => lowered
  let expressions := (efl.splitOnP unicode.isSpace).filter (· ≠ [])
  if secondAtBeginning ∧ 5 < expressions.length then
    match expressions with
    | first :: rest => rest.insertIdx 5 first
    | [] => []
  else expressions

/-- Literal weekdays beside n-th ones are not supported, unless they are all the weekdays. -/
def mixesWeekdays (dow : List Item) (nth : NthWeekdays) : Bool :=
  nth ≠ [] && dow.any (fun item ↦ item ≠ .star && !nth.any fun entry ↦ item = .num entry.1) &&
    dow.dedup.length ≠ FieldName.dow.lenMeansAll

/-- The fields one after the other. -/
def expandFields (hash : HashSource) (expression : Expression) :
    List (FieldName × List Char) → NthWeekdays → Except CronError (List (List Item) × NthWeekdays)
  | [], nth => .ok ([], nth)
  | (field, expr) :: rest, nth =>
    match expandField unicode hash expression field expr nth with
    | .error error => .error error
    | .ok (items, nth) =>
      match expandFields hash expression rest nth with
      | .error error => .error error
      | .ok (itemss, nth) => .ok (items :: itemss, nth)

/-- `expand`. -/
def expand (hash : HashSource) (secondAtBeginning : Bool) (exprFormat : String) :
    Except CronError (Expanded × NthWeekdays) :=
  let expressions := splitExpression unicode hash secondAtBeginning exprFormat
  if expressions.length < 5 ∨ 7 < expressions.length then
    .error (.badCron
      "Exactly 5, 6 or 7 columns has to be specified for iterator expression.")
  else
    let expression : Expression := { format := exprFormat, fields := expressions }
    match expandFields unicode hash expression (FieldName.all.zip expressions) [] with
    | .error error => .error error
    | .ok (itemss, nth) =>
      let expanded : Expanded :=
        { minute := itemss.getD 0 [], hour := itemss.getD 1 [], day := itemss.getD 2 [],
          month := itemss.getD 3 [], dow := itemss.getD 4 [], second := itemss[5]?,
          year := itemss[6]? }
      if mixesWeekdays expanded.dow nth then .error (.unsupportedSyntax expanded.dow nth)
      else .ok (expanded, nth)

/-- `is_valid`. -/
def isValid (hash : HashSource) (secondAtBeginning : Bool) (exprFormat : String) : Bool :=
  (expand unicode hash secondAtBeginning exprFormat).isOk

end Parser

end DBOSModel.Cron

import DBOSModel.Core.InitWorkflow
import DBOSModel.Text.Lines

/-!
# Front matter

`parse` and `dump` of `.workers/lib/frontmatter.py`: a subset of YAML, read line by line. A string is
a list of characters.

A container of the result that the parser can still add to is named by the keys that lead to
it from the root. This is its reference: to assign a key of a container again, the parser first drops
every container below it from the stack.

An integer of any length has a text here; the interpreter's limit on its digits is left out.
-/

namespace DBOSModel.Frontmatter

open Text DBOSModel.Core

abbrev Str := List Char

/-- What the metadata is made of. A dict keeps the order in which its keys were assigned. -/
inductive Value where
  | null
  | bool (value : Bool)
  | int (value : ℤ)
  /-- A float, by a text that `float` reads as it. One such text is its `repr`. -/
  | float (text : Str)
  | str (text : Str)
  | list (items : List Value)
  | dict (entries : List (Str × Value))

/-- The `ValueError`s, with the number of the line. -/
inductive ParseError where
  /-- `bad inline dict entry {part!r}` -/
  | badInlineDictEntry (lineno : ℕ) (part : Str)
  /-- `unterminated inline collection {t!r}` -/
  | unterminatedInlineCollection (lineno : ℕ) (t : Str)
  /-- `empty key` -/
  | emptyKey (lineno : ℕ)
  /-- `tabs in indentation` -/
  | tabsInIndentation (lineno : ℕ)
  /-- `bad indentation` -/
  | badIndentation (lineno : ℕ)
  /-- `list item outside a list context` -/
  | listItemOutsideList (lineno : ℕ)
  /-- `empty list item` -/
  | emptyListItem (lineno : ℕ)
  /-- `mapping entry inside a list` -/
  | mappingEntryInsideList (lineno : ℕ)
  /-- `expected 'key: value', got {body!r}` -/
  | expectedKeyValue (lineno : ℕ) (body : Str)
deriving DecidableEq

/-! ## Characters -/

/-- The characters at which `splitlines` ends a line. -/
def pyIsLineBreak (c : Char) : Bool :=
  (0x0a ≤ c.toNat && c.toNat ≤ 0x0d) || (0x1c ≤ c.toNat && c.toNat ≤ 0x1e) ||
    c.toNat ∈ [0x85, 0x2028, 0x2029]

/-- The zeros of the decimal digits of Unicode, each followed by the other nine. -/
def decimalZeros : List ℕ :=
  [0x30, 0x660, 0x6f0, 0x7c0, 0x966, 0x9e6, 0xa66, 0xae6, 0xb66, 0xbe6, 0xc66, 0xce6, 0xd66, 0xde6,
    0xe50, 0xed0, 0xf20, 0x1040, 0x1090, 0x17e0, 0x1810, 0x1946, 0x19d0, 0x1a80, 0x1a90, 0x1b50,
    0x1bb0, 0x1c40, 0x1c50, 0xa620, 0xa8d0, 0xa900, 0xa9d0, 0xa9f0, 0xaa50, 0xabf0, 0xff10, 0x104a0,
    0x10d30, 0x11066, 0x110f0, 0x11136, 0x111d0, 0x112f0, 0x11450, 0x114d0, 0x11650, 0x116c0,
    0x11730, 0x118e0, 0x11950, 0x11c50, 0x11d50, 0x11da0, 0x16a60, 0x16ac0, 0x16b50, 0x1d7ce,
    0x1d7d8, 0x1d7e2, 0x1d7ec, 0x1d7f6, 0x1e140, 0x1e2f0, 0x1e950, 0x1fbf0]

/-- `int` and `float` read decimal digits as the ASCII ones, whitespace as a space, and no other
character beyond ASCII. -/
def toAscii (c : Char) : Char :=
  if c.toNat < 127 then c
  else if pyIsSpace c then ' '
  else match decimalZeros.find? fun start ↦ start ≤ c.toNat && c.toNat < start + 10 with
    | some start => Nat.digitChar (c.toNat - start)
    | none => '?'

/-! ## Numbers -/

def splitSign : Str → Bool × Str
  | '-' :: rest => (true, rest)
  | '+' :: rest => (false, rest)
  | s => (false, s)

/-- Digits with single underscores between them; `afterDigit` says that one was read just before. -/
def isDigits (afterDigit : Bool) : Str → Bool
  | [] => afterDigit
  | c :: rest =>
    if c.isDigit then isDigits true rest else c = '_' && afterDigit && isDigits false rest

/-- `int(t)` of a text without whitespace around it. -/
def intOf (t : Str) : Option ℤ :=
  let (negative, digits) := splitSign (t.map toAscii)
  if isDigits false digits then
    let n := Nat.ofDigitChars 10 (digits.filter (· ≠ '_')) 0
    some (if negative then -n else n)
  else none

/-- Digits with a point or without, and an exponent or none. -/
def isDecimal (s : Str) : Bool :=
  let mantissa := s.takeWhile fun c ↦ c ≠ 'e' && c ≠ 'E'
  let whole := mantissa.takeWhile (· ≠ '.')
  (match mantissa.dropWhile (· ≠ '.') with
    | _ :: c :: fraction => (whole = [] || isDigits false whole) && isDigits false (c :: fraction)
    | _ => isDigits false whole) &&
  (match s.dropWhile fun c ↦ c ≠ 'e' && c ≠ 'E' with
    | _ :: exponent => isDigits false (splitSign exponent).2
    | [] => true)

/-- `float(t)` of a text without whitespace around it does not raise. -/
def isFloat (t : Str) : Bool :=
  let (_, s) := splitSign (t.map toAscii)
  isDecimal s || s.map Char.toLower ∈ ["inf".toList, "infinity".toList, "nan".toList]

/-- `repr` of an integer. -/
def reprInt (n : ℤ) : Str :=
  if n < 0 then '-' :: Nat.toDigits 10 n.natAbs else Nat.toDigits 10 n.natAbs

/-! ## Reading a line -/

def strip (s : Str) : Str := Text.strip pyIsSpace s

/-- `t.startswith(first) and t.endswith(last)`. -/
def isBetween (first last : Char) (t : Str) : Bool := t.head? = some first && t.getLast? = some last

/-- `t[1:-1]`. -/
def inside (t : Str) : Str := t.tail.dropLast

/-- `_scalar`. -/
def scalar (tok : Str) : Value :=
  let t := strip tok
  if t = [] ∨ t = "null".toList ∨ t = "~".toList then .null
  else if t = "true".toList then .bool true
  else if t = "false".toList then .bool false
  else if (isBetween '"' '"' t || isBetween '\'' '\'' t) && 2 ≤ t.length then .str (inside t)
  else match intOf t with
    | some n => .int n
    | none => if isFloat t then .float t else .str t

/-- The locals of `_split_top`. -/
structure SplitState where
  out : List Str := []
  buf : Str := []
  depth : ℤ := 0
  quote : Option Char := none

/-- One turn of the loop of `_split_top` with `sep = ","`. -/
def SplitState.read (s : SplitState) (ch : Char) : SplitState :=
  match s.quote with
  | some quote => { s with buf := s.buf ++ [ch], quote := if ch = quote then none else some quote }
  | none =>
    if ch = '"' ∨ ch = '\'' then { s with quote := some ch, buf := s.buf ++ [ch] }
    else if ch = '[' ∨ ch = '\x7b' then { s with depth := s.depth + 1, buf := s.buf ++ [ch] }
    else if ch = ']' ∨ ch = '\x7d' then { s with depth := s.depth - 1, buf := s.buf ++ [ch] }
    else if ch = ',' ∧ s.depth = 0 then { s with out := s.out ++ [s.buf], buf := [] }
    else { s with buf := s.buf ++ [ch] }

/-- `_split_top`. -/
def splitTop (text : Str) : List Str :=
  let s := text.foldl SplitState.read {}
  if s.buf ≠ [] ∨ s.out ≠ [] then s.out ++ [s.buf] else s.out

/-- `d[key] = value`. -/
def setItem (d : List (Str × Value)) (key : Str) (value : Value) : List (Str × Value) :=
  if d.any fun entry ↦ entry.1 = key then
    d.map fun entry ↦ if entry.1 = key then (key, value) else entry
  else d ++ [(key, value)]

/-- `_key`. -/
def readKey (tok : Str) (lineno : ℕ) : Except ParseError Str :=
  let k := strip tok
  let k := if isBetween '"' '"' k || isBetween '\'' '\'' k then inside k else k
  if k = [] then .error (.emptyKey lineno) else .ok k

/-- `s.split(":", 1)` of a text with a colon. -/
def splitColon (s : Str) : Str × Str := (s.takeWhile (· ≠ ':'), (s.dropWhile (· ≠ ':')).tail)

/-- `[_inline(p, lineno) for p in parts]`. -/
def inlineItems (read : Str → Except ParseError Value) : List Str → Except ParseError (List Value)
  | [] => .ok []
  | p :: rest => do
    let item ← read p
    let items ← inlineItems read rest
    pure (item :: items)

/-- The loop over the parts of an inline dict. -/
def inlineEntries (read : Str → Except ParseError Value) (lineno : ℕ) :
    List Str → List (Str × Value) → Except ParseError (List (Str × Value))
  | [], d => .ok d
  | part :: rest, d =>
    if ':' ∈ part then do
      let (k, v) := splitColon part
      let value ← read v
      let key ← readKey k lineno
      inlineEntries read lineno rest (setItem d key value)
    else .error (.badInlineDictEntry lineno part)

/-- `_inline`. Every recursive call is on a shorter text, and what is left without fuel is the empty
text. -/
def inlineWith (lineno : ℕ) : ℕ → Str → Except ParseError Value
  | 0, tok => .ok (scalar tok)
  | fuel + 1, tok =>
    let t := strip tok
    let inner := strip (inside t)
    if isBetween '[' ']' t then
      if inner = [] then .ok (.list [])
      else do
        let items ← inlineItems (inlineWith lineno fuel) (splitTop inner)
        pure (.list items)
    else if isBetween '\x7b' '\x7d' t then
      if inner = [] then .ok (.dict [])
      else do
        let d ← inlineEntries (inlineWith lineno fuel) lineno (splitTop inner) []
        pure (.dict d)
    else if t.head? = some '[' ∨ t.head? = some '\x7b' then
      .error (.unterminatedInlineCollection lineno t)
    else .ok (scalar t)

def inline (tok : Str) (lineno : ℕ) : Except ParseError Value := inlineWith lineno tok.length tok

/-! ## The parser -/

/-- The keys that lead to a container from the root. -/
abbrev Path := List Str

def Value.get : Path → Value → Option Value
  | [], v => some v
  | key :: path, .dict entries =>
    match entries.find? fun entry ↦ entry.1 = key with
    | some entry => Value.get path entry.2
    | none => none
  | _ :: _, _ => none

/-- A change of the container at the end of the path. -/
def Value.modify (f : Value → Value) : Path → Value → Value
  | [], v => f v
  | key :: path, .dict entries =>
    .dict (entries.map fun entry ↦
      if entry.1 = key then (key, Value.modify f path entry.2) else entry)
  | _ :: _, v => v

/-- `cur[key] = value`. -/
def Value.setItem (key : Str) (value : Value) : Value → Value
  | .dict entries => .dict (Frontmatter.setItem entries key value)
  | v => v

/-- `cur.append(item)`. -/
def Value.append (item : Value) : Value → Value
  | .list items => .list (items ++ [item])
  | v => v

def Value.isList : Value → Bool
  | .list _ => true
  | _ => false

def Value.isDict : Value → Bool
  | .dict _ => true
  | _ => false

/-- The locals of `parse`. The top of the stack comes first. -/
structure ParseState where
  root : Value
  stack : List (ℤ × Path)
  pendingKey : Option (ℤ × Path × Str)

def ParseState.initial : ParseState where
  root := .dict []
  stack := [(-1, [])]
  pendingKey := none

/-- `_indent_of`. -/
def indentOf (line : Str) : ℕ := (line.takeWhile (· = ' ')).length

/-- `body.startswith("- ") or body == "-"`. -/
def isDash (body : Str) : Bool := body.take 2 = "- ".toList || body = "-".toList

/-- The nested block of a pending key starts strictly deeper. -/
def ParseState.resolve (s : ParseState) (ind : ℕ) (body : Str) : ParseState :=
  match s.pendingKey with
  | none => s
  | some (pkInd, pkParent, pkKey) =>
    if pkInd < ind then
      let container := if isDash body then .list [] else .dict []
      { root := s.root.modify (Value.setItem pkKey container) pkParent
        stack := (pkInd, pkParent ++ [pkKey]) :: s.stack
        pendingKey := none }
    else
      { s with root := s.root.modify (Value.setItem pkKey .null) pkParent, pendingKey := none }

/-- The lines of a block scalar, from the one after its key. -/
def blockLines (ind : ℕ) (folded : Bool) : List Str → List Str
  | [] => []
  | nxt :: rest =>
    if strip nxt = [] then [] :: blockLines ind folded rest
    else if indentOf nxt ≤ ind then []
    else (if folded then strip nxt else nxt.drop (ind + 2)) :: blockLines ind folded rest

def blockMarkers : List Str := [">-".toList, ">".toList, "|".toList, "|-".toList]

instance (v : Str) : Decidable (v ∈ blockMarkers) := inferInstance

/-- The text of a block scalar. -/
def blockText (folded : Bool) (block : List Str) : Str :=
  (if folded then [' '] else ['\n']).intercalate (block.rdropWhile fun line ↦ line = [])

/-- An entry of a block dict, with the number of lines after it that belong to its block scalar. -/
def ParseState.readEntry (s : ParseState) (cur : Path) (lineno ind : ℕ) (body : Str)
    (rest : List Str) : Except ParseError (ParseState × ℕ) :=
  if ':' ∈ body then do
    let (ktok, vtok) := splitColon body
    let key ← readKey ktok lineno
    let v := strip vtok
    if v ∈ blockMarkers then
      let folded := v.head? = some '>'
      let block := blockLines ind folded rest
      let value := .str (blockText folded block)
      pure ({ s with root := s.root.modify (Value.setItem key value) cur }, block.length)
    else if v = [] then
      pure ({ s with pendingKey := some (ind, cur, key) }, 0)
    else
      let value ← inline v lineno
      pure ({ s with root := s.root.modify (Value.setItem key value) cur }, 0)
  else .error (.expectedKeyValue lineno body)

/-- One turn of the loop of `parse`, with the number of lines after it that the loop skips. -/
def ParseState.readLine (s : ParseState) (lineno : ℕ) (raw : Str) (rest : List Str) :
    Except ParseError (ParseState × ℕ) :=
  if strip raw = [] ∨ (raw.dropWhile pyIsSpace).head? = some '#' then .ok (s, 0)
  else if '\t' ∈ raw.takeWhile pyIsSpace then .error (.tabsInIndentation lineno)
  else
    let ind := indentOf raw
    let body := strip raw
    let s := s.resolve ind body
    match s.stack.dropWhile fun entry ↦ (ind : ℤ) ≤ entry.1 with
    | [] => .error (.badIndentation lineno)
    | (curInd, cur) :: below =>
      let s := { s with stack := (curInd, cur) :: below }
      let container := s.root.get cur
      if isDash body then
        if container.any Value.isList then
          let item := strip body.tail
          if item = [] then .error (.emptyListItem lineno)
          else do
            let value ← inline item lineno
            pure ({ s with root := s.root.modify (Value.append value) cur }, 0)
        else .error (.listItemOutsideList lineno)
      else if container.any Value.isDict then s.readEntry cur lineno ind body rest
      else .error (.mappingEntryInsideList lineno)

/-- The loop of `parse` over the lines that are left, of which `skip` have been read already. -/
def ParseState.readLines : ParseState → ℕ → ℕ → List Str → Except ParseError ParseState
  | s, _, _, [] => .ok s
  | s, lineno, skip + 1, _ :: rest => s.readLines (lineno + 1) skip rest
  | s, lineno, 0, raw :: rest => do
    let (s, skip) ← s.readLine lineno raw rest
    s.readLines (lineno + 1) skip rest

/-- `parse`. -/
def parse (text : Str) : Except ParseError Value := do
  let s ← ParseState.initial.readLines 1 0 (splitlines pyIsLineBreak text)
  pure (match s.pendingKey with
    | some (_, pkParent, pkKey) => s.root.modify (Value.setItem pkKey .null) pkParent
    | none => s.root)

/-! ## The writer -/

/-- The characters for which `_dump_scalar` puts a string in quotes. -/
def quotedChars : Str := ":#\x7b\x7d[],\"'\n".toList

def needsQuotes (s : Str) : Bool :=
  s = [] || s ≠ strip s || s.any (· ∈ quotedChars) ||
    s ∈ ["null".toList, "~".toList, "true".toList, "false".toList]

/-- `s.replace('"', "'")`. -/
def unquoted (s : Str) : Str := s.map fun c ↦ if c = '"' then '\'' else c

mutual

/-- `_dump_inline`, and `_dump_scalar` for what is neither a dict nor a list. -/
def dumpInline : Value → Str
  | .dict entries => ['\x7b'] ++ ", ".toList.intercalate (dumpEntries entries) ++ ['\x7d']
  | .list items => ['['] ++ ", ".toList.intercalate (dumpItems items) ++ [']']
  | .null => "null".toList
  | .bool true => "true".toList
  | .bool false => "false".toList
  | .int n => reprInt n
  | .float text => text
  | .str s => if needsQuotes s then ['"'] ++ unquoted s ++ ['"'] else s

def dumpItems : List Value → List Str
  | [] => []
  | x :: rest => dumpInline x :: dumpItems rest

def dumpEntries : List (Str × Value) → List Str
  | [] => []
  | (k, x) :: rest => (k ++ ": ".toList ++ dumpInline x) :: dumpEntries rest

end

/-- A dict that `dump` writes as a nested block: one of its values is a dict or a list. -/
def isNested (entries : List (Str × Value)) : Bool :=
  entries.any fun entry ↦ entry.2.isDict || entry.2.isList

mutual

/-- The `out` of `dump`. -/
def dumpOut : List (Str × Value) → ℕ → List Str
  | [], _ => []
  | (k, v) :: rest, indent => dumpEntry k v indent ++ dumpOut rest indent

/-- What one turn of the loop of `dump` appends to `out`. -/
def dumpEntry (k : Str) (v : Value) (indent : ℕ) : List Str :=
  let pad := List.replicate indent ' '
  match v with
  | .dict entries =>
    -- the second text is `dump(v, _indent + 2)`
    if isNested entries then
      [pad ++ k ++ [':'], ['\n'].intercalate (dumpOut entries (indent + 2))]
    else [pad ++ k ++ ": ".toList ++ dumpInline v]
  | .str s =>
    if '\n' ∈ s then
      (pad ++ k ++ ": |".toList) :: (s.splitOn '\n').map fun ln ↦ pad ++ "  ".toList ++ ln
    else [pad ++ k ++ ": ".toList ++ dumpInline v]
  | _ => [pad ++ k ++ ": ".toList ++ dumpInline v]

end

/-- `dump`. -/
def dump (metadata : List (Str × Value)) (indent : ℕ) : Str :=
  ['\n'].intercalate (dumpOut metadata indent)

end DBOSModel.Frontmatter

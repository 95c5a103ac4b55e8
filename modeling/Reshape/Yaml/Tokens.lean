import Reshape.Yaml.BlockScalar
import Reshape.Yaml.Name
import Reshape.Yaml.Scalar

/-!
# The tokens of a text

A scalar or a bracket can turn out to be a key when a colon follows it. Such a key stands on one
line and has at most 1024 bytes. The column in which a dash or a key stands tells which collection
it belongs to.

* `Scan`: the tokens read so far, and what can follow.
* `Scan.next?`: the tokens with the next one.
* `Yaml.tokens?`: the tokens of a text.
-/

namespace Reshape.Yaml

/-- What may turn out to be a key: where it starts, how many tokens are before it, and whether it
has to be one because of its column. -/
structure KeyStart where
  before : Nat
  index : Nat
  lines : Nat
  column : Nat
  required : Bool
  deriving DecidableEq, Repr

/-- The tokens read so far, and what can follow. -/
structure Scan where
  cursor : Cursor
  tokens : Array Token
  /-- The columns of the block collections that are open, the last one first. -/
  columns : List Nat
  /-- What may turn out to be a key outside of brackets, and then in each pair of brackets that is
  open, the last one first. -/
  outerKey : Option KeyStart
  keys : List (Option KeyStart)
  /-- Whether a key can start here. -/
  keyAllowed : Bool
  deriving Repr

namespace Scan

/-- The start of a text. -/
def start (cs : List Char) : Scan := ⟨.start cs, #[], [], none, [], true⟩

/-- Whether brackets are open. -/
def flow (s : Scan) : Bool := !s.keys.isEmpty

/-- The first column of what belongs to the last block collection. -/
def least (s : Scan) : Nat := (s.columns.head?.map (· + 1)).getD 0

/-- Passes to another place. -/
def moveTo (s : Scan) (c : Cursor) : Scan := { s with cursor := c }

/-- Adds a token. -/
def push (s : Scan) (t : Token) : Scan := { s with tokens := s.tokens.push t }

/-- Tells whether a key can start. -/
def allow (s : Scan) (allowed : Bool) : Scan := { s with keyAllowed := allowed }

/-! ## Keys -/

/-- What may turn out to be a key in the last pair of brackets. -/
def key (s : Scan) : Option KeyStart :=
  match s.keys with
  | [] => s.outerKey
  | k :: _ => k

/-- Tells what may turn out to be a key in the last pair of brackets. -/
def withKey (s : Scan) (k : Option KeyStart) : Scan :=
  match s.keys with
  | [] => { s with outerKey := k }
  | _ :: ks => { s with keys := k :: ks }

/-- The longest key. -/
def maxKey : Nat := 1024

/-- Whether what starts there can no longer be a key at the cursor. -/
def isStale (c : Cursor) (k : KeyStart) : Bool :=
  decide (k.lines < c.lines) || decide (k.index + maxKey < c.index)

/-- Forgets a key that is too long; one that is required is missed. -/
def freshKey? (c : Cursor) : Option KeyStart → Option (Option KeyStart)
  | none => some none
  | some k => if isStale c k then if k.required then none else some none else some (some k)

/-- Forgets keys that are too long. -/
def freshKeys? (s : Scan) : Option Scan := do
  return { s with
    outerKey := ← freshKey? s.cursor s.outerKey
    keys := ← s.keys.mapM (freshKey? s.cursor) }

/-- Forgets the key of the last pair of brackets; one that is required is missed. -/
def dropKey? (s : Scan) : Option Scan :=
  if (s.key.map (·.required)) = some true then none else some (s.withKey none)

/-- Notes that a key may start at the cursor. -/
def noteKey? (s : Scan) : Option Scan :=
  if s.keyAllowed then do
    let c := s.cursor
    let required := !s.flow && s.columns.head? == some c.column
    let s ← s.dropKey?
    return s.withKey (some ⟨s.tokens.size, c.index, c.lines, c.column, required⟩)
  else some s

/-! ## Block collections -/

/-- Closes the block collections that are right of a column, or all of them. -/
def closeBlocks (column : Option Nat) : List Nat → Array Token → List Nat × Array Token
  | [], ts => ([], ts)
  | n :: ns, ts =>
    if (column.map fun m => decide (n ≤ m)) = some true then (n :: ns, ts)
    else closeBlocks column ns (ts.push .blockEnd)

/-- Closes the block collections that are right of a column, or all of them, if no brackets are
open. -/
def unwind (s : Scan) (column : Option Nat) : Scan :=
  if s.flow then s
  else
    let (columns, tokens) := closeBlocks column s.columns s.tokens
    { s with columns := columns, tokens := tokens }

/-- Opens a block collection in a column, unless brackets or one in this column are open. Its token
comes after `before` tokens. -/
def openBlock (s : Scan) (column before : Nat) (t : Token) : Scan :=
  if s.flow || decide (column < s.least) then s
  else { s with
    columns := column :: s.columns
    tokens := s.tokens.insertIdxIfInBounds before t }

/-! ## Marks -/

/-- Passes characters that are a token. -/
def mark (s : Scan) (n : Nat) (t : Token) : Scan := (s.moveTo (s.cursor.advance n)).push t

/-- The end of the text. -/
def end? (s : Scan) : Option Scan := do
  let s ← (s.unwind none).dropKey?
  return (s.allow false).push .streamEnd

/-- A directive. -/
def directive? (s : Scan) : Option Scan := do
  let s ← (s.unwind none).dropKey?
  let (t, c) ← readDirective s.cursor
  return ((s.allow false).moveTo c).push t

/-- Three marks that separate documents. -/
def separator? (s : Scan) (t : Token) : Option Scan := do
  let s ← (s.unwind none).dropKey?
  return (s.allow false).mark 3 t

/-- An opening bracket. -/
def openBracket? (s : Scan) (t : Token) : Option Scan := do
  let s ← s.noteKey?
  return ({ s with keys := none :: s.keys }.allow true).mark 1 t

/-- A closing bracket. -/
def closeBracket? (s : Scan) (t : Token) : Option Scan := do
  let s ← s.dropKey?
  return ({ s with keys := s.keys.tail }.allow false).mark 1 t

/-- A comma. -/
def flowEntry? (s : Scan) : Option Scan := do
  return ((← s.dropKey?).allow true).mark 1 .flowEntry

/-- A dash before an element. -/
def blockEntry? (s : Scan) : Option Scan :=
  if !s.flow && !s.keyAllowed then none
  else do
    let s ← (s.openBlock s.cursor.column s.tokens.size .blockSequenceStart).dropKey?
    return (s.allow true).mark 1 .blockEntry

/-- A question mark before a key. -/
def explicitKey? (s : Scan) : Option Scan :=
  if !s.flow && !s.keyAllowed then none
  else do
    let s ← (s.openBlock s.cursor.column s.tokens.size .blockMappingStart).dropKey?
    return (s.allow !s.flow).mark 1 .key

/-- A colon before a value. -/
def value? (s : Scan) : Option Scan :=
  match s.key with
  | some k =>
    let s := { s with tokens := s.tokens.insertIdxIfInBounds k.before .key }
    let s := s.openBlock k.column k.before .blockMappingStart
    some (((s.withKey none).allow false).mark 1 .value)
  | none =>
    if !s.flow && !s.keyAllowed then none
    else
      let s := s.openBlock s.cursor.column s.tokens.size .blockMappingStart
      some ((s.allow !s.flow).mark 1 .value)

/-! ## Names and scalars -/

/-- The name of a node. -/
def name? (s : Scan) (t : List Char → Token) : Option Scan := do
  let s ← s.noteKey?
  let (name, c) ← readName s.cursor
  return ((s.allow false).moveTo c).push (t name)

/-- A tag. -/
def tag? (s : Scan) : Option Scan := do
  let s ← s.noteKey?
  let (t, c) ← readTag s.flow s.cursor
  return ((s.allow false).moveTo c).push (.tag t)

/-- A scalar of whole lines. -/
def blockScalar? (s : Scan) : Option Scan := do
  let s ← s.dropKey?
  let (text, c) ← readBlockScalar s.least s.cursor
  return ((s.allow true).moveTo c).push (.scalar text false)

/-- A scalar in quotes. -/
def quoted? (s : Scan) (close : Char) : Option Scan := do
  let s ← s.noteKey?
  let (text, c) ← readQuoted close s.cursor
  return ((s.allow false).moveTo c).push (.scalar text false)

/-- A scalar without quotes. A key can follow it if it ends a line. -/
def plain? (s : Scan) : Option Scan := do
  let s ← s.noteKey?
  let p ← readPlain s.flow s.least s.cursor
  return ((s.allow p.endsLine).moveTo p.after).push (.scalar p.text true)

/-! ## All tokens -/

/-- The token at the cursor. -/
def token? (s : Scan) : Option Scan :=
  let c := s.cursor
  match c.rest with
  | [] => s.end?
  | x :: cs =>
    if x = '%' ∧ c.column = 0 then s.directive?
    else if c.isMark '-' then s.separator? .documentStart
    else if c.isMark '.' then s.separator? .documentEnd
    else match x with
      | '[' => s.openBracket? .flowSequenceStart
      | '\x7b' => s.openBracket? .flowMappingStart
      | ']' => s.closeBracket? .flowSequenceEnd
      | '\x7d' => s.closeBracket? .flowMappingEnd
      | ',' => s.flowEntry?
      | '*' => s.name? .alias
      | '&' => s.name? .anchor
      | '!' => s.tag?
      | '\'' => s.quoted? '\''
      | '"' => s.quoted? '"'
      | _ =>
        if x = '-' ∧ atBlank cs then s.blockEntry?
        else if x = '?' ∧ (s.flow ∨ atBlank cs) then s.explicitKey?
        else if x = ':' ∧ (s.flow ∨ atBlank cs) then s.value?
        else if (x = '|' ∨ x = '>') ∧ !s.flow then s.blockScalar?
        else if startsPlain s.flow c.rest then s.plain?
        else none

/-- The tokens with the next one. -/
def next? (s : Scan) : Option Scan := do
  let (c, keyAllowed) := s.cursor.skipGap s.flow s.keyAllowed
  let s ← ((s.moveTo c).allow keyAllowed).freshKeys?
  (s.unwind (some c.column)).token?

/-- All tokens. -/
def run : Nat → Scan → Option (Array Token)
  | 0, _ => none
  | fuel + 1, s =>
    if s.tokens.back? = some .streamEnd then some s.tokens
    else match s.next? with
      | none => none
      | some s => run fuel s

end Scan

/-- The tokens of a text. -/
def tokens? (cs : List Char) : Option (List Token) :=
  ((Scan.start cs).run (cs.length + 2)).map (·.toList)

end Reshape.Yaml

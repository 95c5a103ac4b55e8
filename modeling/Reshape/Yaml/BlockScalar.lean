import Reshape.Yaml.Cursor

/-!
# Scalars of whole lines

A bar keeps the ends of the lines, and a greater-than sign folds them. A sign after it tells what
becomes of the line ends at the end of the text, and a digit how far the lines are indented.

* `Yaml.readBlockScalar`: the text of the lines.
-/

namespace Reshape.Yaml

/-- What becomes of the line ends at the end of a text. -/
inductive Chomping
  /-- None of them remains. -/
  | strip
  /-- One of them remains. -/
  | clip
  /-- All of them remain. -/
  | keep
  deriving DecidableEq, Repr

/-- The sign that tells what becomes of line ends. -/
def Chomping.ofChar? (c : Char) : Option Chomping :=
  match c with
  | '-' => some .strip
  | '+' => some .keep
  | _ => none

/-- The digit that tells how far lines are indented. -/
def indentDigit? (c : Char) : Option Nat :=
  if '0' ≤ c ∧ c ≤ '9' then some (c.toNat - '0'.toNat) else none

/-- What stands after the bar or the greater-than sign: a sign and a digit, in either order, of
which one or both can be missing. The digit is not zero. -/
def readHeader (c : Cursor) : Option (Chomping × Option Nat × Cursor) :=
  let digitAfter (c : Cursor) : Option (Option Nat × Cursor) :=
    match c.rest.head?.bind indentDigit? with
    | none => some (none, c)
    | some 0 => none
    | some n => some (some n, c.advance 1)
  match c.rest.head?.bind Chomping.ofChar? with
  | some chomping => (digitAfter (c.advance 1)).map fun (n, c) => (chomping, n, c)
  | none => match digitAfter c with
    | none => none
    | some (none, c) => some (.clip, none, c)
    | some (some n, c) => match c.rest.head?.bind Chomping.ofChar? with
      | some chomping => some (chomping, some n, c.advance 1)
      | none => some (.clip, some n, c)

/-- Line ends between lines of text, the greatest column among them, and what follows. -/
structure BlankLines where
  breaks : List Char
  widest : Nat
  after : Cursor
  deriving DecidableEq, Repr

/-- Passes line ends and the blanks that indent lines, up to the column `indent` if it is known. A
tab does not indent a line. -/
def readBlankLinesFrom (indent : Option Nat) (breaks : List Char)
    (widest index lines column : Nat) : List Char → Option BlankLines
  | [] => some ⟨breaks.reverse, max widest column, ⟨[], index, lines, column⟩⟩
  | c :: cs =>
    let indents := (indent.map fun n => decide (column < n)).getD true
    if c = ' ' ∧ indents then
      readBlankLinesFrom indent breaks widest (index + c.utf8Size) lines (column + 1) cs
    else if c = '\t' ∧ indents then none
    else if isBreak c then
      readBlankLinesFrom indent (c :: breaks) (max widest column) (index + c.utf8Size) (lines + 1)
        0 cs
    else some ⟨breaks.reverse, max widest column, ⟨c :: cs, index, lines, column⟩⟩

/-- Passes line ends and the blanks that indent lines. -/
def readBlankLines (indent : Option Nat) (c : Cursor) : Option BlankLines :=
  readBlankLinesFrom indent [] 0 c.index c.lines c.column c.rest

/-- Lines of text that were read. -/
structure BlockText where
  /-- The text in reverse, without the line ends at its end. -/
  rev : List Char
  /-- The end of the last line, and the ends of the blank lines after it. -/
  lastBreak : List Char
  blankLines : List Char
  /-- Whether the last line starts with a blank. -/
  indented : Bool
  after : Cursor
  deriving DecidableEq, Repr

namespace BlockText

/-- What stands between the last line and the next one. Line ends are folded between lines that do
not start with blanks. -/
def joint (t : BlockText) (literal indented : Bool) : List Char :=
  if !literal && t.lastBreak == ['\n'] && !t.indented && !indented then
    if t.blankLines.isEmpty then [' '] else t.blankLines
  else t.lastBreak ++ t.blankLines

/-- Reads the lines in the column `indent`. -/
def readFrom (literal : Bool) (indent : Nat) : Nat → BlockText → Option BlockText
  | 0, _ => none
  | fuel + 1, t =>
    if t.after.column ≠ indent ∨ t.after.rest.isEmpty then some t
    else
      let indented := (t.after.rest.head?.map isBlank).getD false
      let content := t.after.rest.takeWhile (!isBreak ·)
      let next := t.after.advance content.length
      match readBlankLines (some indent) next.nextLine with
      | none => none
      | some blank =>
        readFrom literal indent fuel
          ⟨content.reverse ++ ((t.joint literal indented).reverse ++ t.rev),
            next.rest.take 1, blank.breaks, indented, blank.after⟩

/-- The whole text. -/
def text (t : BlockText) (chomping : Chomping) : List Char :=
  t.rev.reverse ++ match chomping with
    | .strip => []
    | .clip => t.lastBreak
    | .keep => t.lastBreak ++ t.blankLines

end BlockText

/-- The text of the lines after the cursor, which is at a bar or a greater-than sign, in a block
whose content is indented up to the column `least`. -/
def readBlockScalar (least : Nat) (c : Cursor) : Option (List Char × Cursor) := do
  let (chomping, digit, c') ← readHeader (c.advance 1)
  let start ← c'.endLine?
  let known := digit.map fun n => (least - 1) + n
  let blank ← readBlankLines known start
  let indent := known.getD (max blank.widest (max least 1))
  let t ← BlockText.readFrom (c.rest.head? == some '|') indent (c.rest.length + 1)
    ⟨[], [], blank.breaks, false, blank.after⟩
  return (t.text chomping, t.after)

end Reshape.Yaml

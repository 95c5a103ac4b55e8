/-!
# Reading by lines and columns

* `Yaml.Cursor`: the rest of a text, and where that starts.
* `Cursor.skipGap`: passes blanks, comments and line ends between tokens.
* `Gap.read?`: passes blanks and line ends inside a scalar; `Gap.text` is what they amount to.
-/

namespace Reshape.Yaml

/-- Whether the character ends a line. -/
def isBreak (c : Char) : Bool := c == '\n' || c == '\u2028' || c == '\u2029'

def isBlank (c : Char) : Bool := c == ' ' || c == '\t'

/-- Whether a text ends, or goes on with a blank or a new line. -/
def atBlank : List Char → Bool
  | [] => true
  | c :: _ => isBlank c || isBreak c

/-- Whether a text ends, or goes on with a new line. -/
def atBreak : List Char → Bool
  | [] => true
  | c :: _ => isBreak c

/-- The number of bytes of characters. -/
def byteLength (cs : List Char) : Nat := cs.foldl (fun n c => n + c.utf8Size) 0

/-- The rest of a text, and where that starts: after how many bytes of the text, after how many
lines, and after how many characters of its line. -/
structure Cursor where
  rest : List Char
  index : Nat
  lines : Nat
  column : Nat
  deriving DecidableEq, Repr

namespace Cursor

/-- The start of a text. -/
def start (cs : List Char) : Cursor := ⟨cs, 0, 0, 0⟩

/-- Passes characters of the line. -/
def advance (c : Cursor) (n : Nat) : Cursor :=
  ⟨c.rest.drop n, c.index + byteLength (c.rest.take n), c.lines, c.column + n⟩

/-- Passes the end of the line, if it is here. -/
def nextLine (c : Cursor) : Cursor :=
  match c.rest with
  | [] => c
  | x :: cs => if isBreak x then ⟨cs, c.index + x.utf8Size, c.lines + 1, 0⟩ else c

/-- Whether a line starts here with three equal marks that separate documents. -/
def isMark (c : Cursor) (mark : Char) : Bool :=
  c.column == 0 && (List.replicate 3 mark).isPrefixOf c.rest && atBlank (c.rest.drop 3)

/-- Whether documents are separated here. -/
def isSeparator (c : Cursor) : Bool := c.isMark '-' || c.isMark '.'

/-- Passes the characters of a kind. -/
def skipWhile (p : Char → Bool) (c : Cursor) : Cursor := c.advance (c.rest.takeWhile p).length

/-- Passes blanks. -/
def skipBlanks (c : Cursor) : Cursor := c.skipWhile isBlank

/-- Passes what is left of the line. -/
def skipLine (c : Cursor) : Cursor := c.skipWhile (!isBreak ·)

/-- Passes blanks, a comment and the end of the line; there can be nothing else. -/
def endLine? (c : Cursor) : Option Cursor :=
  let c := c.skipBlanks
  let c := if c.rest.head? = some '#' then c.skipLine else c
  if atBreak c.rest then some c.nextLine else none

/-- Passes blanks, comments and line ends. In block style, where no brackets are open, a key is
allowed on a new line, and no tabs stand before it. A byte order mark is passed at the start of a
line. The answer says whether a key is allowed. -/
def skipGapFrom (flow keyAllowed comment : Bool) (index lines column : Nat) :
    List Char → Cursor × Bool
  | [] => (⟨[], index, lines, column⟩, keyAllowed)
  | c :: cs =>
    if isBreak c then
      skipGapFrom flow (keyAllowed || !flow) false (index + c.utf8Size) (lines + 1) 0 cs
    else if comment || c == ' ' || (c == '\t' && (flow || !keyAllowed)) ||
        (c == '\ufeff' && column == 0) then
      skipGapFrom flow keyAllowed comment (index + c.utf8Size) lines (column + 1) cs
    else if c = '#' then skipGapFrom flow keyAllowed true (index + c.utf8Size) lines (column + 1) cs
    else (⟨c :: cs, index, lines, column⟩, keyAllowed)

/-- Passes blanks, comments and line ends. -/
def skipGap (c : Cursor) (flow keyAllowed : Bool) : Cursor × Bool :=
  skipGapFrom flow keyAllowed false c.index c.lines c.column c.rest

end Cursor

/-! ## Blanks inside scalars -/

/-- Blanks and line ends. -/
structure Gap where
  /-- The blanks before the first line end. -/
  blanks : List Char
  breaks : List Char
  deriving DecidableEq, Repr

namespace Gap

/-- No blanks. -/
def none : Gap := ⟨[], []⟩

/-- Passes blanks and line ends; a tab that indents a line up to the column `least` is wrong. -/
def readFrom (least index lines column : Nat) (blanks breaks : List Char) :
    List Char → Option (Gap × Cursor)
  | [] => some (⟨blanks.reverse, breaks.reverse⟩, ⟨[], index, lines, column⟩)
  | c :: cs =>
    if isBreak c then readFrom least (index + c.utf8Size) (lines + 1) 0 blanks (c :: breaks) cs
    else if isBlank c then
      if breaks.isEmpty then
        readFrom least (index + c.utf8Size) lines (column + 1) (c :: blanks) breaks cs
      else if c = '\t' ∧ column < least then Option.none
      else readFrom least (index + c.utf8Size) lines (column + 1) blanks breaks cs
    else some (⟨blanks.reverse, breaks.reverse⟩, ⟨c :: cs, index, lines, column⟩)

/-- Passes blanks and line ends. -/
def read? (least : Nat) (c : Cursor) : Option (Gap × Cursor) :=
  readFrom least c.index c.lines c.column [] [] c.rest

/-- What line ends amount to: a single one is a space, and of several all but the first remain. -/
def fold : List Char → List Char
  | ['\n'] => [' ']
  | '\n' :: bs => bs
  | bs => bs

/-- What blanks and line ends amount to. -/
def text (g : Gap) : List Char := if g.breaks.isEmpty then g.blanks else fold g.breaks

end Gap

end Reshape.Yaml

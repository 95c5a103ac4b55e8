/-!
# Markup

* `Markup.Event`: the parts of marked-up text.
* `Markup.events`: the parts in order. What is not well formed ends them.
* `Markup.escape`, `Markup.unescape?`: text with the characters of markup written as names.
-/

namespace Reshape.Markup

inductive Event
  | opened (name : List Char)
  | closed (name : List Char)
  | text (cs : List Char)
  /-- A comment, an instruction, or text that is not to be read. -/
  | other
  /-- The text is not well formed from here on. -/
  | broken
  deriving DecidableEq, Repr

/-- Whether the character is blank between the parts of a tag. -/
def isBlank (c : Char) : Bool := c = ' ' || c = '\t' || c = '\n' || c = '\r'

/-- The characters in small letters. -/
def lowerLetters (cs : List Char) : List Char := cs.map Char.toLower

/-- How many `<` are not closed by a `>`, or none if a `>` closes nothing. -/
def openBrackets (cs : List Char) : Int :=
  cs.foldl (fun n c => if c = '<' then n + 1 else if c = '>' then n - 1 else n) 0

/-- Whether a `>` ends a tag, of which the characters after `<` are given in reverse. `quote` is the
quotation mark that is open. -/
def endsTag (quote : Option Char) (rev : List Char) : Bool :=
  match rev.reverse with
  | '!' :: '-' :: cs => decide (3 ≤ cs.length) && ['-', '-'].isPrefixOf rev
  | '!' :: '[' :: _ => [']', ']'].isPrefixOf rev
  | '!' :: 'D' :: cs => openBrackets cs = 0
  | '!' :: 'd' :: cs => openBrackets cs = 0
  | '?' :: cs => !cs.isEmpty && rev.head? = some '?'
  | '!' :: _ => true
  | '/' :: _ => true
  | _ => quote.isNone

/-- The parts that a tag stands for, of which the characters between `<` and `>` are given. -/
def tagEvents (cs : List Char) : List Event :=
  match cs with
  | '!' :: rest =>
    let isDeclared := "doctype".toList.isPrefixOf (lowerLetters rest)
    if ['-', '-'].isPrefixOf rest || "[cdata[".toList.isPrefixOf (lowerLetters rest) then [.other]
    else if isDeclared && (rest.drop 7).any (!isBlank ·) then [.other]
    else [.broken]
  | '?' :: _ => [.other]
  | '/' :: rest => [.closed (rest.reverse.dropWhile isBlank).reverse]
  | _ =>
    if cs.getLast? = some '/' then
      let name := cs.dropLast.takeWhile (!isBlank ·)
      [.opened name, .closed name]
    else [.opened (cs.takeWhile (!isBlank ·))]

/-- Where a character stands. What was read of the part is given in reverse. -/
inductive Place
  | text (rev : List Char)
  | tag (quote : Option Char) (rev : List Char)
  deriving DecidableEq, Repr

/-- The quotation mark that is open after a character. -/
def nextQuote (quote : Option Char) (c : Char) : Option Char :=
  match quote with
  | some q => if c = q then none else some q
  | none => if c = '"' ∨ c = '\'' then some c else none

/-- The text read so far. -/
def textEvents (rev : List Char) : List Event := if rev.isEmpty then [] else [.text rev.reverse]

/-- The parts from a place on. -/
def eventsAt : Place → List Char → List Event
  | .text rev, [] => textEvents rev
  | .tag _ _, [] => [.broken]
  | .text rev, c :: cs =>
    if c = '<' then textEvents rev ++ eventsAt (.tag none []) cs
    else eventsAt (.text (c :: rev)) cs
  | .tag quote rev, c :: cs =>
    if c = '>' ∧ endsTag quote rev then tagEvents rev.reverse ++ eventsAt (.text []) cs
    else eventsAt (.tag (nextQuote quote c) (c :: rev)) cs

/-- The parts of a text. -/
def events (cs : List Char) : List Event := eventsAt (.text []) cs

/-- The part of a name after the first colon. -/
def localName (name : List Char) : List Char :=
  match name.dropWhile (· ≠ ':') with
  | [] => name
  | _ :: cs => cs

/-! ## Characters as names -/

/-- The character, or its name. -/
def escapeChar (c : Char) : List Char :=
  match c with
  | '&' => "&amp;".toList
  | '<' => "&lt;".toList
  | '>' => "&gt;".toList
  | c => [c]

/-- The text with names for the characters of markup. -/
def escape (cs : List Char) : List Char := cs.flatMap escapeChar

/-- The value of a digit of a base up to 16. -/
def digit? (base : Nat) (c : Char) : Option Nat :=
  let n :=
    if '0' ≤ c ∧ c ≤ '9' then c.toNat - '0'.toNat
    else if 'a' ≤ c ∧ c ≤ 'f' then c.toNat - 'a'.toNat + 10
    else if 'A' ≤ c ∧ c ≤ 'F' then c.toNat - 'A'.toNat + 10
    else base
  if n < base then some n else none

/-- The number that digits give, if it fits into 32 bits. -/
def number? (base : Nat) (cs : List Char) : Option Nat :=
  if cs.isEmpty then none
  else (cs.mapM (digit? base)).bind fun ds =>
    let n := ds.foldl (fun n d => n * base + d) 0
    if n < 4294967296 then some n else none

/-- The character of a number. -/
def charOf? (n : Nat) : Option Char :=
  if n = 0 ∨ (0xd800 ≤ n ∧ n ≤ 0xdfff) ∨ 0x10ffff < n then none else some (Char.ofNat n)

/-- The character of a name. -/
def named? (cs : List Char) : Option Char :=
  match cs with
  | '#' :: 'x' :: cs => (number? 16 cs).bind charOf?
  | '#' :: cs => (number? 10 cs).bind charOf?
  | _ =>
    [("amp", '&'), ("lt", '<'), ("gt", '>'), ("apos", '\''), ("quot", '"')].lookup
      (String.ofList cs)

/-- The text without names; the name being read is given in reverse. -/
def unescapeAt : Option (List Char) → List Char → Option (List Char)
  | none, [] => some []
  | some _, [] => none
  | none, c :: cs =>
    if c = '&' then unescapeAt (some []) cs else (unescapeAt none cs).map (c :: ·)
  | some name, c :: cs =>
    if c = ';' then
      (named? name.reverse).bind fun c => (unescapeAt none cs).map (c :: ·)
    else if c = '&' then none
    else unescapeAt (some (c :: name)) cs

/-- The text without names. -/
def unescape? (cs : List Char) : Option (List Char) := unescapeAt none cs

end Reshape.Markup

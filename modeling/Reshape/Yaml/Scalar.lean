import Reshape.Json.Literal
import Reshape.Yaml.Cursor

/-!
# Scalars on a line or between brackets

* `Yaml.readPlain`: the text of a scalar without quotes.
* `Yaml.readQuoted`: the text of a scalar in single or double quotes.
-/

namespace Reshape.Yaml

/-! ## Without quotes -/

/-- The characters that end a scalar between brackets. -/
def isFlowMark (c : Char) : Bool := [',', '[', ']', '\x7b', '\x7d'].contains c

/-- The characters that mark something else than a scalar. -/
def isIndicator (c : Char) : Bool :=
  isFlowMark c || ['#', '&', '*', '!', '|', '>', '\'', '"', '%', '@', '\x60'].contains c

/-- Whether a scalar without quotes starts here. -/
def startsPlain (flow : Bool) : List Char → Bool
  | [] => false
  | '-' :: cs => !atBlank cs
  | '?' :: cs | ':' :: cs => !flow && !atBlank cs
  | c :: _ => !isBlank c && !isBreak c && !isIndicator c

/-- The characters up to a blank, a colon before a blank or, between brackets, a mark; they are
added in front of `word`, in reverse. A colon between brackets does not stand before a mark. -/
def readWord (flow : Bool) (word : List Char) : List Char → Option (List Char)
  | [] => some word
  | c :: cs =>
    if c = ':' ∧ flow ∧ (cs.head?.map fun d => isFlowMark d || d == '?') = some true then none
    else if atBlank (c :: cs) || (c == ':' && atBlank cs) || (flow && isFlowMark c) then some word
    else readWord flow (c :: word) cs

/-- A scalar without quotes, after it is read. -/
structure PlainText where
  text : List Char
  /-- Whether line ends after it are passed too. -/
  endsLine : Bool
  after : Cursor
  deriving DecidableEq, Repr

/-- A scalar that ends with a gap. -/
def PlainText.ofReverse (rev : List Char) (gap : Gap) (after : Cursor) : PlainText :=
  ⟨rev.reverse, !gap.breaks.isEmpty, after⟩

/-- The text of a scalar without quotes, after what is given in reverse and the gap after that. The
lines it goes on in are indented up to the column `least`, in block style. -/
def readPlainFrom (flow : Bool) (least : Nat) : Nat → List Char → Gap → Cursor → Option PlainText
  | 0, _, _, _ => none
  | fuel + 1, rev, gap, c =>
    if c.isSeparator || c.rest.head? = some '#' then some (.ofReverse rev gap c)
    else match readWord flow [] c.rest with
      | none => none
      | some [] => some (.ofReverse rev gap c)
      | some word =>
        let rev := word ++ (gap.text.reverse ++ rev)
        match Gap.read? least (c.advance word.length) with
        | none => none
        | some (gap, next) =>
          if gap = .none || (!flow && next.column < least) then some (.ofReverse rev gap next)
          else readPlainFrom flow least fuel rev gap next

/-- The text of a scalar without quotes. -/
def readPlain (flow : Bool) (least : Nat) (c : Cursor) : Option PlainText :=
  readPlainFrom flow least (c.rest.length + 1) [] .none c

/-! ## In quotes -/

/-- The character that a letter after a backslash stands for. -/
def unescape (c : Char) : Option Char :=
  match c with
  | '0' => some '\x00'
  | 'a' => some '\x07'
  | 'b' => some '\x08'
  | 't' | '\t' => some '\t'
  | 'n' => some '\n'
  | 'v' => some '\x0b'
  | 'f' => some '\x0c'
  | 'r' => some '\r'
  | 'e' => some '\x1b'
  | ' ' | '"' | '/' | '\\' => some c
  | 'N' => some '\u0085'
  | '_' => some '\u00a0'
  | 'L' => some '\u2028'
  | 'P' => some '\u2029'
  | _ => none

/-- The number of digits after a letter that starts a code point. -/
def codeLength (c : Char) : Option Nat :=
  match c with
  | 'x' => some 2
  | 'u' => some 4
  | 'U' => some 8
  | _ => none

/-- The value of hexadecimal digits. -/
def codePoint (digits : List Char) : Option Nat :=
  digits.foldl (fun n d => do return (← n) * 16 + (← Json.hexValue d)) (some 0)

/-- The character that the text after a backslash stands for, and the length of that text. -/
def readEscape : List Char → Option (Char × Nat)
  | [] => none
  | c :: cs => match codeLength c with
    | none => (unescape c).map (·, 1)
    | some n =>
      match codePoint (cs.take n) with
      | some code =>
        if n ≤ cs.length ∧ code.isValidChar then some (Char.ofNat code, n + 1) else none
      | none => none

/-- The text up to the closing quote, after what is given in reverse. Lines are folded; in double
quotes a backslash escapes. -/
def readQuotedFrom (close : Char) : Nat → List Char → Cursor → Option (List Char × Cursor)
  | 0, _, _ => none
  | fuel + 1, rev, c =>
    match c.rest with
    | [] => none
    | x :: cs =>
      if c.isSeparator then none
      else if isBlank x || isBreak x then
        match Gap.read? 0 c with
        | none => none
        | some (gap, next) => readQuotedFrom close fuel (gap.text.reverse ++ rev) next
      else if x = close then
        if close = '\'' ∧ cs.head? = some '\'' then
          readQuotedFrom close fuel ('\'' :: rev) (c.advance 2)
        else some (rev.reverse, c.advance 1)
      else if close = '"' ∧ x = '\\' then
        if (cs.head?.map isBreak) = some true then
          match Gap.read? 0 (c.advance 1) with
          | none => none
          | some (gap, next) =>
            readQuotedFrom close fuel ((gap.breaks.drop 1).reverse ++ rev) next
        else match readEscape cs with
          | none => none
          | some (e, n) => readQuotedFrom close fuel (e :: rev) (c.advance (n + 1))
      else readQuotedFrom close fuel (x :: rev) (c.advance 1)

/-- The text in quotes, of which the cursor is at the first. -/
def readQuoted (close : Char) (c : Cursor) : Option (List Char × Cursor) :=
  readQuotedFrom close (c.rest.length + 1) [] (c.advance 1)

end Reshape.Yaml

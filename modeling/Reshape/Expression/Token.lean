import Reshape.Expression.Syntax
import Reshape.Expression.SyntaxError
import Reshape.Text.Blank
import Reshape.Text.Letter

/-!
# Tokens of the expression language

* `Token`: field names, keywords, literals and symbols. A quoted name is never a keyword.
* `Lexeme`: a token and the byte offset of its first character.
* `Token.read`: the token that a text starts with and the number of characters after its first.
* `Lexeme.scan`: all tokens of a text, blanks between them left out.
-/

namespace Reshape

inductive Token
  | field (name : String)
  | keyword (k : Keyword)
  | literal (v : Value)
  | comparison (c : Comparison)
  | assign | plus | minus | comma | semicolon | openParen | closeParen
  deriving DecidableEq

structure Lexeme where
  token : Token
  /-- In bytes of the text. -/
  offset : Nat
  deriving DecidableEq

/-- The length of a text in bytes. -/
def byteLength : List Char → Nat
  | [] => 0
  | c :: cs => c.utf8Size + byteLength cs

namespace Token

/-- The character that a backslash and `c` stand for in a string. -/
def unescape (c : Char) : Char := if c = 'n' then '\n' else if c = 't' then '\t' else c

/-- The text up to the closing quote, and the number of characters up to and including that. -/
def readString (close : Char) : List Char → Option (List Char × Nat)
  | [] => none
  | c :: cs =>
    if c = close then some ([], 1)
    else if c = '\\' then
      match cs with
      | [] => none
      | e :: cs => (readString close cs).map fun (s, n) => (unescape e :: s, n + 2)
    else (readString close cs).map fun (s, n) => (c :: s, n + 1)

/-- The mark before and after a quoted name. -/
def nameQuote : Char := '\x60'

/-- The name up to the closing mark, and the number of characters up to and including that. -/
def readQuotedName : List Char → Option (List Char × Nat)
  | [] => none
  | c :: cs =>
    if c = nameQuote then some ([], 1)
    else (readQuotedName cs).map fun (s, n) => (c :: s, n + 1)

def isNumberPart (c : Char) : Bool := isDigit c || c == '.'

def isNameStart (c : Char) : Bool := Text.isAlphabetic c || c == '_'

def isNamePart (c : Char) : Bool := Text.isAlphabetic c || Text.isNumeric c || c == '_'

/-- The token of a word. -/
def ofWord (s : String) : Token :=
  match Keyword.ofText? s with
  | some k => .keyword k
  | none => .field s

/-- The symbol that starts with `c`, and the number of further characters in it. -/
def symbol? (c : Char) (cs : List Char) : Option (Token × Nat) :=
  match c, cs with
  | '=', '=' :: _ => some (.comparison .eq, 1)
  | '!', '=' :: _ => some (.comparison .ne, 1)
  | '<', '=' :: _ => some (.comparison .le, 1)
  | '>', '=' :: _ => some (.comparison .ge, 1)
  | '=', _ => some (.assign, 0)
  | '<', _ => some (.comparison .lt, 0)
  | '>', _ => some (.comparison .gt, 0)
  | '+', _ => some (.plus, 0)
  | '-', _ => some (.minus, 0)
  | ',', _ => some (.comma, 0)
  | ';', _ => some (.semicolon, 0)
  | '(', _ => some (.openParen, 0)
  | ')', _ => some (.closeParen, 0)
  | _, _ => none

/-- The token that starts with the character `c`, which is not blank, and the number of further
characters in it. -/
def read (c : Char) (cs : List Char) : Except SyntaxCause (Token × Nat) :=
  if c = '\'' ∨ c = '"' then
    match readString c cs with
    | some (s, n) => .ok (.literal (.string (String.ofList s)), n)
    | none => .error .unterminatedString
  else if c = nameQuote then
    match readQuotedName cs with
    | some (s, n) => .ok (.field (String.ofList s), n)
    | none => .error .unterminatedName
  else if isDigit c then
    let text := c :: cs.takeWhile isNumberPart
    match Decimal.ofChars? text with
    | some d => .ok (.literal (Value.ofBinary64? d.nearest?), text.length - 1)
    | none => .error (.invalidNumber (String.ofList text))
  else if isNameStart c then
    let word := c :: cs.takeWhile isNamePart
    .ok (ofWord (String.ofList word), word.length - 1)
  else match symbol? c cs with
    | some t => .ok t
    | none => .error (.unexpectedCharacter c)

end Token

namespace Lexeme

/-- The tokens of a text that starts at the given offset. -/
def scanFrom (offset : Nat) : List Char → Except SyntaxError (List Lexeme)
  | [] => .ok []
  | c :: cs =>
    if Text.isBlank c then scanFrom (offset + c.utf8Size) cs
    else match Token.read c cs with
      | .error cause => .error ⟨offset, cause⟩
      | .ok (token, n) =>
        match scanFrom (offset + byteLength (c :: cs.take n)) (cs.drop n) with
        | .error e => .error e
        | .ok lexemes => .ok (⟨token, offset⟩ :: lexemes)
termination_by cs => cs.length

/-- The tokens of a text. -/
def scan (text : String) : Except SyntaxError (List Lexeme) := scanFrom 0 text.toList

end Lexeme

end Reshape

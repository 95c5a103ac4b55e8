/-!
# Syntax errors

* `Keyword`: the words that are no field names unless they are quoted.
* `SyntaxCause`: what is wrong with a program text; `SyntaxCause.message` words it.
* `SyntaxError`: a cause and the byte offset at which it was found.
-/

namespace Reshape

inductive Keyword
  | if | then | else | and | or | not | delete | true | false | null
  deriving DecidableEq, Repr

namespace Keyword

def all : List Keyword := [.if, .then, .else, .and, .or, .not, .delete, .true, .false, .null]

def text : Keyword → String
  | .if => "if"
  | .then => "then"
  | .else => "else"
  | .and => "and"
  | .or => "or"
  | .not => "not"
  | .delete => "delete"
  | .true => "true"
  | .false => "false"
  | .null => "null"

/-- The keyword that a word is. -/
def ofText? (s : String) : Option Keyword := all.find? (·.text = s)

end Keyword

inductive SyntaxCause
  | unterminatedString
  | unterminatedName
  | invalidNumber (text : String)
  | unexpectedCharacter (c : Char)
  | expectedSemicolon
  | expectedThen
  | expectedFieldName
  | expectedAssign
  | expectedClose
  | expectedValue
  | unexpectedKeyword (k : Keyword)
  | unexpectedEnd
  | emptyProgram
  deriving DecidableEq, Repr

def SyntaxCause.message : SyntaxCause → String
  | .unterminatedString => "unterminated string"
  | .unterminatedName => "unterminated field name"
  | .invalidNumber text => "invalid number '" ++ text ++ "'"
  | .unexpectedCharacter c => "unexpected character '" ++ String.singleton c ++ "'"
  | .expectedSemicolon => "expected ';'"
  | .expectedThen => "expected 'then'"
  | .expectedFieldName => "expected a field name"
  | .expectedAssign => "expected '='"
  | .expectedClose => "expected ')'"
  | .expectedValue => "expected a value"
  | .unexpectedKeyword k => "unexpected keyword '" ++ k.text ++ "'"
  | .unexpectedEnd => "unexpected end of expression"
  | .emptyProgram => "empty expression"

structure SyntaxError where
  /-- In bytes of the program text. -/
  offset : Nat
  cause : SyntaxCause
  deriving DecidableEq, Repr

def SyntaxError.message (e : SyntaxError) : String :=
  "at offset " ++ String.ofList (Nat.toDigits 10 e.offset) ++ ": " ++ e.cause.message

end Reshape

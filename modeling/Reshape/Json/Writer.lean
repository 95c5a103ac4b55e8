import Reshape.Value.Basic

/-!
# Values as text

* `Json.quote`: a string between quotes.
* `Json.compact`, `Value.text`: a value without blanks.
* `Json.pretty`, `Value.prettyText`: a value on indented lines.
* `Value.display`: a value as a cell shows it, strings unquoted and null empty.
-/

namespace Reshape

namespace Json

/-- The escape of a character inside quotes: the short ones for quote, backslash, backspace, tab,
line feed, form feed and carriage return, four hexadecimal digits for other control characters. -/
def escape (c : Char) : List Char :=
  if c = '"' then ['\\', '"']
  else if c = '\\' then ['\\', '\\']
  else if c = '\x08' then ['\\', 'b']
  else if c = '\t' then ['\\', 't']
  else if c = '\n' then ['\\', 'n']
  else if c = '\x0c' then ['\\', 'f']
  else if c = '\r' then ['\\', 'r']
  else if c.toNat < 0x20 then
    ['\\', 'u', '0', '0', Nat.digitChar (c.toNat / 16), Nat.digitChar (c.toNat % 16)]
  else [c]

/-- A string between quotes. -/
def quote (s : String) : List Char := '"' :: s.toList.flatMap escape ++ ['"']

mutual

/-- A value without blanks. -/
def compact : Value → List Char
  | .null => ['n', 'u', 'l', 'l']
  | .bool true => ['t', 'r', 'u', 'e']
  | .bool false => ['f', 'a', 'l', 's', 'e']
  | .number n => n.text.toList
  | .string s => quote s
  | .array [] => ['[', ']']
  | .array (x :: r) => '[' :: compact x ++ compactItems r
  | .object [] => ['\x7b', '\x7d']
  | .object ((k, x) :: r) => '\x7b' :: quote k ++ ':' :: compact x ++ compactFields r

/-- Further elements and the closing bracket. -/
def compactItems : List Value → List Char
  | [] => [']']
  | x :: r => ',' :: compact x ++ compactItems r

/-- Further fields and the closing brace. -/
def compactFields : List (String × Value) → List Char
  | [] => ['\x7d']
  | (k, x) :: r => ',' :: quote k ++ ':' :: compact x ++ compactFields r

end

/-- A line break and two blanks for each level. -/
def newline (level : Nat) : List Char := '\n' :: List.replicate (2 * level) ' '

mutual

/-- A value with each element and field on a line of its own. -/
def pretty (level : Nat) : Value → List Char
  | .array [] => ['[', ']']
  | .array (x :: r) =>
    '[' :: newline (level + 1) ++ pretty (level + 1) x ++ prettyItems level r
  | .object [] => ['\x7b', '\x7d']
  | .object ((k, x) :: r) =>
    '\x7b' :: newline (level + 1) ++ quote k ++ ':' :: ' ' :: pretty (level + 1) x ++
      prettyFields level r
  | .null => compact .null
  | .bool b => compact (.bool b)
  | .number n => compact (.number n)
  | .string s => compact (.string s)

/-- Further elements and the closing bracket. -/
def prettyItems (level : Nat) : List Value → List Char
  | [] => newline level ++ [']']
  | x :: r => ',' :: newline (level + 1) ++ pretty (level + 1) x ++ prettyItems level r

/-- Further fields and the closing brace. -/
def prettyFields (level : Nat) : List (String × Value) → List Char
  | [] => newline level ++ ['\x7d']
  | (k, x) :: r =>
    ',' :: newline (level + 1) ++ quote k ++ ':' :: ' ' :: pretty (level + 1) x ++
      prettyFields level r

end

end Json

namespace Value

/-- The value as compact text. -/
def text (v : Value) : String := String.ofList (Json.compact v)

/-- The value as indented text. -/
def prettyText (v : Value) : String := String.ofList (Json.pretty 0 v)

/-- The value as a cell shows it. -/
def display : Value → String
  | .null => ""
  | .string s => s
  | v => v.text

end Value

end Reshape

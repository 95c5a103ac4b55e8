import Reshape.Json.Literal
import Reshape.Value.Basic

/-!
# Nodes

* `Yaml.Node`: a scalar as it is written, a sequence, a mapping, or an alias of a node.
* `Scalar.value?`: what a scalar stands for.
-/

namespace Reshape.Yaml

/-- The text of a scalar, whether it is written without quotes, and its tag. -/
structure Scalar where
  text : String
  plain : Bool
  tag : Option String
  deriving DecidableEq, Repr

/-- Sequences and mappings have a tag too. A node with an anchor has a number, by which aliases tell
it. -/
inductive Node
  | scalar (anchor : Option Nat) (s : Scalar)
  | sequence (anchor : Option Nat) (tag : Option String) (items : List Node)
  | mapping (anchor : Option Nat) (tag : Option String) (fields : List (Node × Node))
  | alias (anchor : Nat)

/-! ## Scalars -/

namespace Scalar

/-- Whether nothing is written. -/
def isEmpty (s : Scalar) : Bool := s.plain && s.text == ""

/-- Whether a text is a word for null. -/
def isNullWord (text : String) : Bool := ["null", "Null", "NULL", "~"].contains text

/-- Whether a tag is of one's own making. Such a tag is not accepted where any value is. -/
def isLocal (tag : Option String) : Bool :=
  match tag with
  | some t => t.startsWith "!"
  | none => false

/-- The truth value that a text spells. -/
def bool? (text : String) : Option Bool :=
  if ["true", "True", "TRUE"].contains text then some true
  else if ["false", "False", "FALSE"].contains text then some false
  else none

/-- The value of a digit in a base up to sixteen. -/
def digit? (base : Nat) (c : Char) : Option Nat := (Json.hexValue c).filter (· < base)

/-- The number that digits in a base spell; there has to be one. -/
def natural? (base : Nat) (cs : List Char) : Option Nat :=
  if cs.isEmpty then none
  else cs.foldl (fun n c => do return (← n) * base + (← digit? base c)) (some 0)

/-- The number that digits spell after an optional mark of their base. -/
def marked? (cs : List Char) : Option Nat :=
  match cs with
  | '0' :: 'x' :: ds => natural? 16 ds
  | '0' :: 'o' :: ds => natural? 8 ds
  | '0' :: 'b' :: ds => natural? 2 ds
  | ds => natural? 10 ds

/-- Whether digits start with a zero that is not the only one. Such a text is no number. -/
def isPadded : List Char → Bool
  | '0' :: d :: ds => (d :: ds).all isDigit
  | _ => false

/-- The whole number that a text spells. -/
def int? (cs : List Char) : Option Int :=
  match cs with
  | '-' :: ds => if isPadded ds then none else (marked? ds).map fun n => -(n : Int)
  | '+' :: ds => if isPadded ds then none else (marked? ds).map fun n => (n : Int)
  | ds => if isPadded ds then none else (marked? ds).map fun n => (n : Int)

/-- The binary64 number that a text spells. -/
def anyFloat? (cs : List Char) : Option Binary64 := (Decimal.ofChars? cs).bind Decimal.nearest?

/-- The binary64 number that a text without a padding zero spells. -/
def float? (cs : List Char) : Option Binary64 :=
  let unsigned := match cs with
    | '-' :: ds | '+' :: ds => ds
    | ds => ds
  if isPadded unsigned then none else anyFloat? cs

/-- The words for numbers that are not finite. -/
def boundless : List String :=
  [".inf", ".Inf", ".INF", "+.inf", "+.Inf", "+.INF", "-.inf", "-.Inf", "-.INF", ".nan", ".NaN",
    ".NAN"]

/-- What a text without quotes stands for if it is no whole number. -/
def otherwise (text : String) : Value :=
  if boundless.contains text then .null
  else match float? text.toList with
    | some x => .number (.float x)
    | none => .string text

/-- Whether a whole number has at most 128 bits, with or without a sign. -/
def fitsTwoWords (n : Int) : Bool :=
  decide (-(Nat.pow 2 127 : Nat) ≤ n) && decide (n < (Nat.pow 2 128 : Nat))

/-- What a text without quotes stands for. Whole numbers of more than 64 bits are refused; of more
than 128 bits they are binary64 numbers. -/
def plainValue? (text : String) : Option Value :=
  match bool? text with
  | some b => some (.bool b)
  | none => match int? text.toList with
    | none => some (otherwise text)
    | some n => match Number.ofInt? n with
      | some n => some (.number n)
      | none => if fitsTwoWords n then none else some (otherwise text)

/-- The number that a text without quotes spells; none if it is null or a truth value, or refused.
-/
def int64? (text : String) : Option Value :=
  (int? text.toList).bind fun n => (Number.ofInt? n).map .number

/-- The tags of the language. -/
def tagPrefix : String := "tag:yaml.org,2002:"

/-- What a scalar with a tag stands for; tags that are not known leave its text. -/
def taggedValue? (tag text : String) : Option Value :=
  if tag = tagPrefix ++ "bool" then (bool? text).map .bool
  else if tag = tagPrefix ++ "int" then int64? text
  else if tag = tagPrefix ++ "float" then
    if boundless.contains text then some .null
    else (anyFloat? text.toList).map fun x => .number (.float x)
  else if tag = tagPrefix ++ "null" then if isNullWord text then some .null else none
  else some (.string text)

/-- What a scalar stands for. -/
def value? (s : Scalar) : Option Value :=
  match s.tag with
  | some t => if isLocal s.tag then none else taggedValue? t s.text
  | none =>
    if !s.plain then some (.string s.text)
    else if s.isEmpty || isNullWord s.text then some .null
    else plainValue? s.text

/-- What a scalar stands for where it can be left out: null is nothing there, unless it is written
in quotes. The outer answer is none if the scalar is refused. -/
def optionalValue? (s : Scalar) : Option (Option Value) :=
  let given := s.value?.map some
  if !s.plain then given
  else match s.tag with
    | some t =>
      if t = tagPrefix ++ "null" then if isNullWord s.text then some none else none
      else given
    | none => if s.isEmpty || isNullWord s.text then some none else given

end Scalar

end Reshape.Yaml

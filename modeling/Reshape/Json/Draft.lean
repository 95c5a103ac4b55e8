import Reshape.Value.Basic
import Reshape.Json.Literal

/-!
# Texts read as far as they go

A reader that checks the shape of a text from left to right has to know what stands before the place
where the text breaks off. A `Draft` keeps that.

* `Draft`: a value, or the part of one that could be read.
* `Draft.read`: the draft of a text.
* `Draft.value?`: the value of a complete draft nested at most 127 deep.
* `Value.ofText?`: the value that a text is written for.
-/

namespace Reshape

inductive Draft
  | null
  | bool (b : Bool)
  | number (n : Number)
  | string (s : String)
  /-- A literal without a value: a number beyond the range, or half of a surrogate pair. -/
  | unreadable
  /-- The elements that were read, and whether the closing bracket was. -/
  | array (items : List Draft) (closed : Bool)
  /-- The fields that were read, and whether the closing brace was. -/
  | object (fields : List (Option String × Draft)) (closed : Bool)
  /-- The text breaks off here. -/
  | broken

namespace Draft

instance : Inhabited Draft := ⟨.broken⟩

def isBlank (c : Char) : Bool := c == ' ' || c == '\n' || c == '\t' || c == '\r'

def skipBlanks (cs : List Char) : List Char := cs.dropWhile isBlank

/-- The rest of the text after a word. -/
def word? (w : List Char) (cs : List Char) : Option (List Char) :=
  if w.isPrefixOf cs then some (cs.drop w.length) else none

/-- A word or number. -/
def readScalar (cs : List Char) : Draft × Option (List Char) :=
  let word (w : List Char) (d : Draft) := match word? w cs with
    | some rest => (d, some rest)
    | none => (.broken, none)
  match cs with
  | 'n' :: _ => word ['n', 'u', 'l', 'l'] .null
  | 't' :: _ => word ['t', 'r', 'u', 'e'] (.bool true)
  | 'f' :: _ => word ['f', 'a', 'l', 's', 'e'] (.bool false)
  | _ => match Json.scanNumeral cs with
    | some (l, rest) =>
      (match l.number? with
        | some n => .number n
        | none => .unreadable, some rest)
    | none => (.broken, none)

mutual

/-- A value after blanks, and the rest of the text unless it breaks off. -/
def readValue : Nat → List Char → Draft × Option (List Char)
  | 0, _ => (.broken, none)
  | fuel + 1, cs =>
    match skipBlanks cs with
    | '"' :: cs => match Json.scanString cs with
      | some (some s, rest) => (.string s, some rest)
      | some (none, rest) => (.unreadable, some rest)
      | none => (.broken, none)
    | '[' :: cs => match skipBlanks cs with
      | ']' :: rest => (.array [] true, some rest)
      | cs =>
        let (items, rest) := readItems fuel cs
        (.array items rest.isSome, rest)
    | '\x7b' :: cs => match skipBlanks cs with
      | '\x7d' :: rest => (.object [] true, some rest)
      | cs =>
        let (fields, rest) := readFields fuel cs
        (.object fields rest.isSome, rest)
    | cs => readScalar cs

/-- At least one element, up to the closing bracket. -/
def readItems : Nat → List Char → List Draft × Option (List Char)
  | 0, _ => ([], none)
  | fuel + 1, cs =>
    match readValue fuel cs with
    | (item, none) => ([item], none)
    | (item, some rest) => match skipBlanks rest with
      | ']' :: rest => ([item], some rest)
      | ',' :: rest => match skipBlanks rest with
        | ']' :: _ => ([item], none)
        | rest =>
          let (items, rest) := readItems fuel rest
          (item :: items, rest)
      | _ => ([item], none)

/-- At least one field, up to the closing brace. -/
def readFields : Nat → List Char → List (Option String × Draft) × Option (List Char)
  | 0, _ => ([], none)
  | fuel + 1, cs =>
    match skipBlanks cs with
    | '"' :: cs => match Json.scanString cs with
      | none => ([], none)
      | some (key, rest) => match skipBlanks rest with
        | ':' :: rest => match readValue fuel rest with
          | (value, none) => ([(key, value)], none)
          | (value, some rest) => match skipBlanks rest with
            | '\x7d' :: rest => ([(key, value)], some rest)
            | ',' :: rest =>
              let (fields, rest) := readFields fuel rest
              ((key, value) :: fields, rest)
            | _ => ([(key, value)], none)
        | _ => ([(key, .broken)], none)
    | _ => ([], none)

end

/-- The draft of a text, and whether nothing but blanks follows it. -/
def read (text : String) : Draft × Bool :=
  let cs := text.toList
  match readValue (2 * cs.length + 2) cs with
  | (d, some rest) => (d, (skipBlanks rest).isEmpty)
  | (d, none) => (d, false)

/-! ## Values of complete drafts -/

mutual

/-- The value of a complete draft whose arrays and objects nest at most `depth` deep. -/
def value? (depth : Nat) : Draft → Option Value
  | .null => some .null
  | .bool b => some (.bool b)
  | .number n => some (.number n)
  | .string s => some (.string s)
  | .array items closed =>
    if depth = 0 ∨ !closed then none else (values? (depth - 1) items).map .array
  | .object fields closed =>
    if depth = 0 ∨ !closed then none
    else (fieldValues? (depth - 1) fields).map fun fs => .object (Record.ofList fs)
  | .unreadable | .broken => none

def values? (depth : Nat) : List Draft → Option (List Value)
  | [] => some []
  | d :: ds => do return (← value? depth d) :: (← values? depth ds)

def fieldValues? (depth : Nat) :
    List (Option String × Draft) → Option (List (String × Value))
  | [] => some []
  | (k, d) :: ds => do return (← k, ← value? depth d) :: (← fieldValues? depth ds)

end

/-- How deep arrays and objects may nest. -/
def maxDepth : Nat := 127

end Draft

/-- The value that a text is written for. -/
def Value.ofText? (text : String) : Option Value :=
  let (d, complete) := Draft.read text
  if complete then d.value? Draft.maxDepth else none

end Reshape

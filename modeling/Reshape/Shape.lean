import Reshape.Json.Writer
import Reshape.Text.Escaped

/-!
# Reading values of a given shape

* `ShapeError`: how a value differs from the shape that is asked for, and `ShapeError.message`.
* `Shape.Field`: a field of a structure, which holds a text, an optional text or anything.
* `Shape.readRecord`: the fields of a structure from an object, or from an array that gives them in
  the order of their declaration.
-/

namespace Reshape

inductive ShapeError
  | invalidType (found expected : String)
  | invalidLength (n : Nat) (expected : String)
  | missingField (name : String)
  | duplicateField (name : String)
  deriving DecidableEq, Repr

namespace ShapeError

def message : ShapeError → String
  | .invalidType found expected => "invalid type: " ++ found ++ ", expected " ++ expected
  | .invalidLength n expected =>
    "invalid length " ++ Number.intText n ++ ", expected " ++ expected
  | .missingField name => "missing field `" ++ name ++ "`"
  | .duplicateField name => "duplicate field `" ++ name ++ "`"

end ShapeError

namespace Shape

/-- What a value is called in an error. -/
def describe : Value → String
  | .null => "null"
  | .bool true => "boolean `true`"
  | .bool false => "boolean `false`"
  | .number (.int n _) => "integer `" ++ Number.intText n ++ "`"
  | .number (.float x) => "floating point `" ++ x.text ++ "`"
  | .string s => "string " ++ Text.escaped s
  | .array _ => "sequence"
  | .object _ => "map"

/-- The error of a value that is not what is expected. -/
def mismatch (v : Value) (expected : String) : ShapeError := .invalidType (describe v) expected

/-- What a field may hold. -/
inductive Content
  | text | optionalText | anything
  deriving DecidableEq, Repr

structure Field where
  name : String
  content : Content
  /-- Whether an array may end before the field. -/
  optional : Bool
  deriving DecidableEq, Repr

/-- A structure: its name and its fields in the order of their declaration. -/
structure Struct where
  name : String
  fields : List Field

namespace Struct

/-- What a value of the structure is called. -/
def expected (s : Struct) : String := "struct " ++ s.name

/-- What an array of the structure's fields is called. -/
def expectedLength (s : Struct) : String :=
  s.expected ++ " with " ++ Number.intText s.fields.length ++
    (if s.fields.length = 1 then " element" else " elements")

end Struct

/-- Whether the field may hold the value. -/
def Field.check (f : Field) (v : Value) : Except ShapeError Unit :=
  match f.content, v with
  | .anything, _ | .text, .string _ | .optionalText, .string _ | .optionalText, .null => .ok ()
  | _, v => .error (mismatch v "a string")

/-- Checks the fields of an object in their order; others are ignored. -/
def checkFields (fields : List Field) : Record → Except ShapeError Unit
  | [] => .ok ()
  | (k, v) :: r =>
    match fields.find? (·.name = k) with
    | none => checkFields fields r
    | some f => match f.check v with
      | .error e => .error e
      | .ok () => checkFields fields r

/-- Pairs the fields with the elements of an array; `n` fields came before. -/
def pairFields (s : Struct) (length : Nat) :
    Nat → List Field → List Value → Except ShapeError Record
  | _, [], [] => .ok []
  | _, [], _ :: _ => .error (.invalidLength length "fewer elements in array")
  | n, f :: fs, [] =>
    if f.optional then pairFields s length (n + 1) fs []
    else .error (.invalidLength n s.expectedLength)
  | n, f :: fs, v :: vs =>
    match f.check v with
    | .error e => .error e
    | .ok () => match pairFields s length (n + 1) fs vs with
      | .error e => .error e
      | .ok r => .ok ((f.name, v) :: r)

/-- The first field without which an object is not complete. -/
def firstMissing? (fields : List Field) (r : Record) : Option Field :=
  fields.find? fun f => f.content = .text && !r.contains f.name

/-- The fields of a structure. -/
def readRecord (s : Struct) : Value → Except ShapeError Record
  | .object fields =>
    match checkFields s.fields fields with
    | .error e => .error e
    | .ok () => match firstMissing? s.fields fields with
      | some f => .error (.missingField f.name)
      | none => .ok fields
  | .array items => pairFields s items.length 0 s.fields items
  | v => .error (mismatch v s.expected)

/-- The elements of an array. -/
def readList : Value → Except ShapeError (List Value)
  | .array items => .ok items
  | v => .error (mismatch v "a sequence")

/-- A string. -/
def readText : Value → Except ShapeError String
  | .string s => .ok s
  | v => .error (mismatch v "a string")

end Shape

namespace Record

/-- The text that a field holds. -/
def text? (r : Record) (k : String) : Option String :=
  match r.get? k with
  | some (.string s) => some s
  | _ => none

/-- The value of a field, null being none. -/
def value? (r : Record) (k : String) : Option Value :=
  match r.get? k with
  | none | some .null => none
  | some v => some v

end Record

end Reshape

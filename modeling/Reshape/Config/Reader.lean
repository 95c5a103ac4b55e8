import Reshape.Config.Basic
import Reshape.Json.Draft
import Reshape.Shape

/-!
# Configurations as JSON

The shape of a text is checked from left to right while it is read, so that of two faults the first
one counts.

* `ReadError`: the text is no JSON, or JSON of another shape.
* `Config.ofDraft`: the configuration of a draft.
* `Config.ofJson`: the configuration of a text.
-/

namespace Reshape

inductive ReadError
  | malformed
  | shape (e : ShapeError)
  deriving DecidableEq, Repr

namespace Draft

mutual

/-- Whether nothing is missing; literals without a value do not matter. -/
def isComplete : Draft → Bool
  | .array items closed => closed && areComplete items
  | .object fields closed => closed && fieldsComplete fields
  | .broken => false
  | .null | .bool _ | .number _ | .string _ | .unreadable => true

def areComplete : List Draft → Bool
  | [] => true
  | d :: ds => isComplete d && areComplete ds

def fieldsComplete : List (Option String × Draft) → Bool
  | [] => true
  | (_, d) :: ds => isComplete d && fieldsComplete ds

end

/-- The value, arrays and objects being left empty. -/
def outline? : Draft → Option Value
  | .null => some .null
  | .bool b => some (.bool b)
  | .number n => some (.number n)
  | .string s => some (.string s)
  | .array _ _ => some (.array [])
  | .object _ _ => some (.object [])
  | .unreadable | .broken => none

/-- The error of a draft that is not what is expected. -/
def mismatch (d : Draft) (expected : String) : ReadError :=
  match d.outline? with
  | some v => .shape (Shape.mismatch v expected)
  | none => .malformed

end Draft

namespace Operation

/-- Reads the fields of an operation after those of which the operators are `seen`. A null gives an
operator no parameters. -/
def readFields (depth : Nat) (seen : List Operator) (given : List (Operator × Value))
    (unknown : Catalog Value) : List (Option String × Draft) → Except ReadError Operation
  | [] => .ok (ofList given unknown)
  | (none, _) :: _ => .error .malformed
  | (some k, d) :: fields =>
    match Operator.ofName? k with
    | some o =>
      if seen.contains o then .error (.shape (.duplicateField k))
      else match d.value? depth with
        | none => .error .malformed
        | some .null => readFields depth (o :: seen) given unknown fields
        | some v => readFields depth (o :: seen) ((o, v) :: given) unknown fields
    | none => match d.value? depth with
      | none => .error .malformed
      | some v => readFields depth seen given (unknown.insert k v) fields

/-- The operation of a draft. -/
def ofDraft (depth : Nat) : Draft → Except ReadError Operation
  | .object fields closed =>
    if depth = 0 then .error .malformed
    else match readFields (depth - 1) [] [] .empty fields with
      | .error e => .error e
      | .ok o => if closed then .ok o else .error .malformed
  | d => .error (d.mismatch "struct Op")

/-- The operations of a list. -/
def ofDrafts (depth : Nat) : List Draft → Except ReadError (List Operation)
  | [] => .ok []
  | d :: ds => match ofDraft depth d with
    | .error e => .error e
    | .ok o => (ofDrafts depth ds).map (o :: ·)

/-- The operations of a draft that has to be a list. -/
def listOfDraft (depth : Nat) : Draft → Except ReadError (List Operation)
  | .array items closed =>
    if depth = 0 then .error .malformed
    else match ofDrafts (depth - 1) items with
      | .error e => .error e
      | .ok os => if closed then .ok os else .error .malformed
  | d => .error (d.mismatch "a sequence")

end Operation

namespace Job

/-- The name that a draft is. -/
def nameOfDraft : Draft → Except ReadError String
  | .string s => .ok s
  | d => .error (d.mismatch "a string")

/-- Reads the fields of a job, given the name and the operations that came before. Fields of other
names are skipped. -/
def readFields (depth : Nat) (closed : Bool) (name : Option String)
    (operations : Option (List Operation)) :
    List (Option String × Draft) → Except ReadError Job
  | [] =>
    if !closed then .error .malformed
    else match name with
      | none => .error (.shape (.missingField "name"))
      | some name => .ok ⟨name, operations.getD []⟩
  | (none, _) :: _ => .error .malformed
  | (some k, d) :: fields =>
    if k = "name" then
      if name.isSome then .error (.shape (.duplicateField "name"))
      else match nameOfDraft d with
        | .error e => .error e
        | .ok s => readFields depth closed (some s) operations fields
    else if k = "ops" ∨ k = "jobs" then
      if operations.isSome then .error (.shape (.duplicateField "ops"))
      else match Operation.listOfDraft depth d with
        | .error e => .error e
        | .ok os => readFields depth closed name (some os) fields
    else if d.isComplete then readFields depth closed name operations fields
    else .error .malformed

end Job

namespace Config

mutual

/-- The configuration of a draft nested at most `depth` deep. -/
def ofDraft (depth : Nat) : Draft → Except ReadError Config
  | .array items closed =>
    if depth = 0 then .error .malformed
    else match ofDrafts (depth - 1) items with
      | .error e => .error e
      | .ok cs => if closed then .ok (.sequence cs) else .error .malformed
  | .object fields closed =>
    if depth = 0 then .error .malformed
    else (Job.readFields (depth - 1) closed none none fields).map .job
  | d => .error (d.mismatch "a job map or a sequence of configs")

def ofDrafts (depth : Nat) : List Draft → Except ReadError (List Config)
  | [] => .ok []
  | d :: ds => match ofDraft depth d with
    | .error e => .error e
    | .ok c => match ofDrafts depth ds with
      | .error e => .error e
      | .ok cs => .ok (c :: cs)

end

/-- The configuration of a JSON text. -/
def ofJson (text : String) : Except ReadError Config :=
  let (d, complete) := Draft.read text
  match ofDraft Draft.maxDepth d with
  | .error e => .error e
  | .ok c => if complete then .ok c else .error .malformed

/-- The configuration as compact JSON. -/
def toJson (c : Config) : String := c.toValue.text

end Config

end Reshape

import Reshape.Reference
import Reshape.Session
import Reshape.Shape

/-!
# Parameters of operators

* `Operator.expects`: what an operator's parameters should be.
* `Operator.readWith`: the parameters, or the error that they are not of that shape.
* `Record.required`: a text that has to be given.
-/

namespace Reshape

namespace Operator

/-- What an operator's parameters should be. -/
def expects : Operator → String
  | .load => "a \x7bpath, sheetName?, rangeFrom?, rangeTo?\x7d object"
  | .copyTo => "a collection name"
  | .cloneObjects => "a \x7bfield, filter, values\x7d object"
  | .filterObjects => "a list of \x7bfield, include|exclude\x7d predicates"
  | .filterFields => "an \x7binclude|exclude\x7d object"
  | .mapFields => "a list of field mappings or a collection name"
  | .mapValues => "a list of value mappings or a collection name"
  | .copyToArray => "a \x7bcopyTo, field\x7d object"
  | .mergeObjects => "a \x7bname, key, strict?\x7d object"
  | .aggregate => "an \x7baggregatedField, aggregationField, name?\x7d object"
  | .save => "a \x7bpath, sheetName?\x7d object"

/-- Reads an operator's parameters. -/
def readWith (o : Operator) (read : Value → Except ShapeError α) (raw : Value) : Except Cause α :=
  match read raw with
  | .ok a => .ok a
  | .error e => .error (.invalidParameter o.name (o.expects ++ " (" ++ e.message ++ ")"))

theorem readWith_eq_ok {o : Operator} {read : Value → Except ShapeError α} {raw : Value} {a : α} :
    o.readWith read raw = .ok a ↔ read raw = .ok a := by
  rw [readWith]
  cases read raw <;> simp

end Operator

/-- A text that has to be given. -/
def Record.required (r : Record) (k : String) : Except Cause String :=
  match r.text? k with
  | some s => .ok s
  | none => .error (.missingParameter k)

theorem Record.required_eq_ok {r : Record} {k s : String} :
    r.required k = .ok s ↔ r.text? k = some s := by
  rw [required]
  cases r.text? k <;> simp

/-- A list that has to be given, literally or by name. -/
def Record.requiredList (r : Record) (s : Store) (k : String) : Except Cause (List Value) :=
  match r.value? k with
  | some v => (Reference.ofValue v).resolve s k
  | none => .error (.missingParameter k)

end Reshape

import Reshape.Operators.Parameter
import Reshape.Value.Equality

/-!
# Cloning records

* `Clone.block`: a record and, if its field holds one of the listed values, its clones.
* `Clone.run`: replaces every record of a collection by its block.
-/

namespace Reshape.Clone

/-- The record with another value in a field. -/
def variant (field : String) (v value : Value) : Value := v.mapFields (·.insert field value)

/-- A record and its clones, one for each value. -/
def block (field : String) (filter values : List Value) (v : Value) : List Value :=
  v :: if Value.elem filter (v.field? field) then values.map (variant field v) else []

/-- All records and their clones. -/
def cloneAll (field : String) (filter values : List Value) (c : Collection) : Collection :=
  c.flatMap (block field filter values)

/-- The parameters of `cloneObjects`. -/
def struct : Shape.Struct :=
  ⟨"CloneParams", [⟨"field", .optionalText, false⟩, ⟨"filter", .anything, false⟩,
    ⟨"values", .anything, false⟩]⟩

/-- The records of a collection with the clones that the parameters ask for. -/
def records (s : Store) (job : String) (raw : Value) : Except Cause Collection := do
  let params ← Operator.cloneObjects.readWith (Shape.readRecord struct) raw
  let field ← params.required "field"
  let c ← s.find job
  let filter ← params.requiredList s "filter"
  let values ← params.requiredList s "values"
  return cloneAll field filter values c

/-- The operator `cloneObjects`. -/
def run (job : String) (raw : Value) : Attempt Cause Unit := do
  let c ← Attempt.ask (records ·.store job raw)
  Attempt.put job c

end Reshape.Clone

import Reshape.Operators.Parameter

/-!
# Copying to the end of another collection

* `Copy.run`: copies all records.
* `Copy.runField`: copies the values of one field, null where it is missing.
-/

namespace Reshape.Copy

/-- The collection to add to, and the records to add. -/
def records (s : Store) (job : String) (raw : Value) : Except Cause (String × Collection) := do
  let target ← Operator.copyTo.readWith Shape.readText raw
  let c ← s.find job
  return (target, c)

/-- The operator `copyTo`. -/
def run (job : String) (raw : Value) : Attempt Cause Unit := do
  let (target, c) ← Attempt.ask (records ·.store job raw)
  Attempt.append target c

/-- The values of a field, null where it is missing. -/
def fieldValues (c : Collection) (field : String) : List Value :=
  c.map fun v => (v.field? field).getD .null

/-- The parameters of `copyToArray`. -/
def fieldStruct : Shape.Struct :=
  ⟨"CopyToArrayParams", [⟨"copyTo", .optionalText, false⟩, ⟨"field", .optionalText, false⟩]⟩

/-- The collection to add to, and the values to add. -/
def values (s : Store) (job : String) (raw : Value) : Except Cause (String × Collection) := do
  let params ← Operator.copyToArray.readWith (Shape.readRecord fieldStruct) raw
  let target ← params.required "copyTo"
  let field ← params.required "field"
  let c ← s.find job
  return (target, fieldValues c field)

/-- The operator `copyToArray`. -/
def runField (job : String) (raw : Value) : Attempt Cause Unit := do
  let (target, vs) ← Attempt.ask (values ·.store job raw)
  Attempt.append target vs

end Reshape.Copy

import Reshape.Operators.Parameter

/-!
# Renaming fields

* `Renaming`: the field to take, the name to give its value, and whether to leave the field there.
* `Renaming.apply`: the record after one renaming.
* `Renaming.run`: the operator `mapFields`.
-/

namespace Reshape

structure Renaming where
  source : String
  target : String
  /-- Whether the source stays. -/
  copy : Bool
  deriving DecidableEq, Repr

namespace Renaming

/-- The record after the renaming. A field renamed to itself stays in its place. -/
def apply (m : Renaming) (r : Record) : Record :=
  if m.source = m.target then r
  else match r.get? m.source with
    | none => r
    | some v => if m.copy then r.insert m.target v else (r.insert m.target v).erase m.source

/-- One entry of `mapFields`. -/
def struct : Shape.Struct :=
  ⟨"FieldMapping", [⟨"from", .text, false⟩, ⟨"to", .text, false⟩, ⟨"copy", .anything, true⟩]⟩

/-- The renaming of an entry. -/
def ofValue? (v : Value) : Option Renaming :=
  match Shape.readRecord struct v with
  | .error _ => none
  | .ok r => do
    return ⟨← r.text? "from", ← r.text? "to", ((r.get? "copy").getD .null).truthy⟩

/-- The renaming of a field of the short form, which names the target. -/
def ofField : String × Value → Except Cause Renaming
  | (source, .string target) => .ok ⟨source, target, false⟩
  | _ => .error (.invalidParameter "mapping" "a map of field names")

/-- The renamings that the parameter stands for: those of an object's fields, of a list, or of a
collection. -/
def readAll (s : Store) : Value → Except Cause (List Renaming)
  | .object fields => fields.mapM ofField
  | v => (Reference.ofValue v).resolveAs s "mapping" "an array of \x7bfrom, to, copy\x7d entries"
      ofValue?

/-- The renamings for a collection, which has to be there. -/
def renamings (s : Store) (job : String) (raw : Value) : Except Cause (List Renaming) := do
  let _ ← s.find job
  readAll s raw

/-- The operator `mapFields`. Each renaming is applied to all records before the next one. -/
def run (job : String) (raw : Value) : Attempt Cause Unit := do
  let ms ← Attempt.ask (renamings ·.store job raw)
  forM ms fun m => Attempt.revise job m.apply

end Renaming

end Reshape

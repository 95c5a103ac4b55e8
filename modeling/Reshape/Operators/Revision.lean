import Reshape.Operators.Parameter
import Reshape.Expression.Parser
import Reshape.Expression.Eval
import Reshape.Mapper

/-!
# Revising values

* `Revision.Entry`: a replacement of one value of a field, an expression, or the name of a mapper.
* `Revision`: what an entry does; `Revision.ofEntry` reads the expression or finds the mapper.
* `Revision.apply`: the record after one revision.
* `Revision.run`: the operator `mapValues`.
-/

namespace Reshape

inductive Revision
  /-- Replaces the value of a field by another one. -/
  | replace (field : String) (old new : Value)
  | program (p : Program)
  | mapper (f : Mapper)

namespace Revision

inductive Entry
  | replace (field : String) (old new : Value)
  | expression (text : String)
  | call (name : String)
  deriving DecidableEq

/-- The entry that the fields of an object make: a replacement if they can make one, else an
expression, else a call. -/
def Entry.ofRecord? (r : Record) : Option Entry :=
  match r.text? "field", r.get? "from", r.get? "to" with
  | some field, some old, some new => some (.replace field old new)
  | _, _, _ => match r.text? "map", r.text? "call" with
    | some text, _ => some (.expression text)
    | none, some name => some (.call name)
    | none, none => none

/-- The entry that a value is. -/
def Entry.ofValue? (v : Value) : Option Entry := v.fields?.bind Entry.ofRecord?

/-- What the entry does. -/
def ofEntry (mappers : Mappers) : Entry → Except Cause Revision
  | .replace field old new => .ok (.replace field old new)
  | .expression text => match Program.parse text with
    | .ok p => .ok (.program p)
    | .error e => .error (.invalidExpression e)
  | .call name => match mappers.get? name with
    | some f => .ok (.mapper f)
    | none => .error (.unknownMapper name)

/-- The record after the revision. -/
def apply (r : Record) : Revision → Record
  | .replace field old new => match r.get? field with
    | some v => if v.strictEq old then r.insert field new else r
    | none => r
  | .program p => p.apply r
  | .mapper f => f r

/-- The revisions that the parameter stands for. -/
def readAll (mappers : Mappers) (s : Store) (raw : Value) : Except Cause (List Revision) := do
  let entries ← (Reference.ofValue raw).resolveAs s "mapping"
    "an array of \x7bfield, from, to\x7d, \x7bmap\x7d or \x7bcall\x7d entries" Entry.ofValue?
  entries.mapM (ofEntry mappers)

/-- The revisions for a collection, which has to be there. -/
def revisions (mappers : Mappers) (s : Store) (job : String) (raw : Value) :
    Except Cause (List Revision) := do
  let _ ← s.find job
  readAll mappers s raw

/-- The operator `mapValues`. Each revision is applied to all records before the next one. -/
def run (mappers : Mappers) (job : String) (raw : Value) : Attempt Cause Unit := do
  let rs ← Attempt.ask (revisions mappers ·.store job raw)
  forM rs fun r => Attempt.revise job fun fields => apply fields r

end Revision

end Reshape

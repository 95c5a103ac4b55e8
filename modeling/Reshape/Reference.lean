import Reshape.Store
import Reshape.Error

/-!
# References

A parameter that takes a list is either the list itself or the name of a collection that holds it.

* `Store.find`: a collection that has to be there.
* `Reference`: a name or a value; `Reference.ofValue` takes every string for a name.
* `Reference.resolve`: the list, given the store.
-/

namespace Reshape

/-- A collection that has to be there. -/
def Store.find (s : Store) (name : String) : Except Cause Collection :=
  match s.get? name with
  | some c => .ok c
  | none => .error (.missingCollection name)

@[simp] theorem Store.find_eq_ok {s : Store} {name : String} {c : Collection} :
    s.find name = .ok c ↔ s.get? name = some c := by
  unfold Store.find
  cases s.get? name <;> simp

inductive Reference
  | named (name : String)
  | literal (v : Value)
  deriving DecidableEq

namespace Reference

/-- A string is a name, and anything else is meant literally. -/
def ofValue : Value → Reference
  | .string name => .named name
  | v => .literal v

/-- The list that is meant. -/
def resolve (s : Store) (param : String) : Reference → Except Cause (List Value)
  | .named name => s.find name
  | .literal (.array items) => .ok items
  | .literal _ => .error (.invalidParameter param "an array")

/-- The list that is meant, each element read by `read?`. -/
def resolveAs (s : Store) (param expected : String) (read? : Value → Option α)
    (r : Reference) : Except Cause (List α) :=
  match r.resolve s param with
  | .error e => .error e
  | .ok items => match items.mapM read? with
    | some as => .ok as
    | none => .error (.invalidParameter param expected)

end Reference

end Reshape

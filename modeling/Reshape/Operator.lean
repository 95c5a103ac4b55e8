/-!
# Operators

* `Operator`: what can be done to a collection.
* `Operator.all`: the operators in the order in which those of one operation run.
* `Operator.name`: how a configuration names an operator.
-/

namespace Reshape

inductive Operator
  | load | copyTo | cloneObjects | filterObjects | filterFields | mapFields | mapValues
  | copyToArray | mergeObjects | aggregate | save
  deriving DecidableEq, Repr

namespace Operator

/-- All operators, in the order in which those of one operation run. -/
def all : List Operator :=
  [.load, .copyTo, .cloneObjects, .filterObjects, .filterFields, .mapFields, .mapValues,
    .copyToArray, .mergeObjects, .aggregate, .save]

def name : Operator → String
  | .load => "load"
  | .copyTo => "copyTo"
  | .cloneObjects => "cloneObjects"
  | .filterObjects => "filterObjects"
  | .filterFields => "filterFields"
  | .mapFields => "mapFields"
  | .mapValues => "mapValues"
  | .copyToArray => "copyToArray"
  | .mergeObjects => "mergeObjects"
  | .aggregate => "aggregate"
  | .save => "save"

/-- The operator of a name. -/
def ofName? (s : String) : Option Operator := all.find? (·.name = s)

theorem mem_all (o : Operator) : o ∈ all := by cases o <;> decide

end Operator

end Reshape

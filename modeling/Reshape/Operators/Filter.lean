import Reshape.Operators.Parameter
import Reshape.Value.Equality

/-!
# Filtering records and fields

* `Filter.Rule`: a field and the values that it has to hold or must not hold.
* `Filter.keep`: the records that every rule accepts.
* `Filter.restrict`: a record with only the listed fields, or without them.
* `Filter.run`, `Filter.runFields`: the operators.
-/

namespace Reshape.Filter

/-- Whether the listed values are those to be kept. -/
inductive Mode
  | include | exclude
  deriving DecidableEq, Repr

def Mode.name : Mode → String
  | .include => "include"
  | .exclude => "exclude"

/-- Which of the two lists is given; exactly one has to be. -/
def mode (params : Record) : Except Cause (Mode × Value) :=
  match params.value? "include", params.value? "exclude" with
  | some _, some _ => .error (.conflictingParameters "include and exclude")
  | some v, none => .ok (.include, v)
  | none, some v => .ok (.exclude, v)
  | none, none => .error (.missingParameter "include or exclude")

/-! ## Records -/

structure Rule where
  field : String
  mode : Mode
  list : List Value
  deriving DecidableEq

/-- Whether the rule keeps a record. A missing field is in no list. -/
def Rule.accepts (r : Rule) (v : Value) : Bool :=
  match r.mode with
  | .include => Value.elem r.list (v.field? r.field)
  | .exclude => !Value.elem r.list (v.field? r.field)

/-- The records that every rule accepts. -/
def keep (rules : List Rule) (c : Collection) : Collection :=
  c.filter fun v => rules.all (·.accepts v)

/-- One predicate of `filterObjects`. -/
def predicateStruct : Shape.Struct :=
  ⟨"Predicate", [⟨"field", .optionalText, false⟩, ⟨"include", .anything, true⟩,
    ⟨"exclude", .anything, true⟩]⟩

/-- The rule of a predicate. -/
def rule (s : Store) (params : Record) : Except Cause Rule := do
  let field ← params.required "field"
  let (mode, v) ← mode params
  let list ← (Reference.ofValue v).resolve s mode.name
  return ⟨field, mode, list⟩

/-- The predicates of a list. -/
def readPredicates (raw : Value) : Except ShapeError (List Record) := do
  (← Shape.readList raw).mapM (Shape.readRecord predicateStruct)

/-- The records of a collection that the parameters ask to keep. -/
def records (s : Store) (job : String) (raw : Value) : Except Cause Collection := do
  let predicates ← Operator.filterObjects.readWith readPredicates raw
  let c ← s.find job
  let rules ← predicates.mapM (rule s)
  return keep rules c

/-- The operator `filterObjects`. -/
def run (job : String) (raw : Value) : Attempt Cause Unit := do
  let c ← Attempt.ask (records ·.store job raw)
  Attempt.put job c

/-! ## Fields -/

/-- Keeps the listed fields, or all others. -/
def restrict (mode : Mode) (names : List String) (r : Record) : Record :=
  r.filter fun f => match mode with
    | .include => names.contains f.1
    | .exclude => !names.contains f.1

/-- The parameters of `filterFields`. -/
def fieldsStruct : Shape.Struct :=
  ⟨"FilterFieldsParams", [⟨"include", .anything, true⟩, ⟨"exclude", .anything, true⟩]⟩

/-- The string that a value is. -/
def name? : Value → Option String
  | .string s => some s
  | _ => none

/-- The fields to keep or to drop. -/
def fields (s : Store) (job : String) (raw : Value) : Except Cause (Mode × List String) := do
  let params ← Operator.filterFields.readWith (Shape.readRecord fieldsStruct) raw
  let _ ← s.find job
  let (mode, v) ← mode params
  let names ← (Reference.ofValue v).resolveAs s mode.name "an array of field names" name?
  return (mode, names)

/-- The operator `filterFields`. -/
def runFields (job : String) (raw : Value) : Attempt Cause Unit := do
  let (mode, names) ← Attempt.ask (fields ·.store job raw)
  Attempt.revise job (restrict mode names)

end Reshape.Filter

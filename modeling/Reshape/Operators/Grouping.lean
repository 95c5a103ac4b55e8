import Reshape.Operators.Parameter

/-!
# Grouping values

* `Grouping.label`: the text by which keys are told apart; numbers of one value have one label.
* `Grouping.contributions`: the keys of a collection, each with the value that it contributes.
* `Grouping.groups`: one group for each label, in order of first appearance.
* `Grouping.run`: the operator `aggregate`.
-/

namespace Reshape.Grouping

/-- The text by which keys are told apart. -/
def label : Value → String
  | .number n => (Number.ofBinary64 n.toBinary64).text
  | v => v.text

structure Group where
  label : String
  /-- The first key of the group. -/
  key : Value
  values : List Value
  deriving DecidableEq

/-- The groups with one more value, which belongs to a key with the given label. -/
def add (name : String) (key value : Value) : List Group → List Group
  | [] => [⟨name, key, [value]⟩]
  | g :: gs =>
    if g.label = name then { g with values := g.values ++ [value] } :: gs
    else g :: add name key value gs

/-- The keys in a field: the elements of an array, or the one value. -/
def keys : Value → List Value
  | .array items => items
  | v => [v]

/-- The keys of a record, each with the value that it contributes. -/
def contribution (aggregated aggregation : String) (v : Value) : List (Value × Value) :=
  match v.field? aggregation with
  | none => []
  | some key => (keys key).map fun k => (k, (v.field? aggregated).getD .null)

/-- The keys of all records, each with the value that it contributes. -/
def contributions (aggregated aggregation : String) (c : Collection) : List (Value × Value) :=
  c.flatMap (contribution aggregated aggregation)

/-- The groups of keys with their values. -/
def groups (pairs : List (Value × Value)) : List Group :=
  pairs.foldl (fun gs p => add (label p.1) p.1 p.2 gs) []

/-- The record of a group. -/
def Group.toValue (aggregated aggregation : String) (g : Group) : Value :=
  .object (Record.insert [(aggregation, g.key)] aggregated (.array g.values))

/-- The records of all groups. -/
def group (aggregated aggregation : String) (c : Collection) : Collection :=
  (groups (contributions aggregated aggregation c)).map (·.toValue aggregated aggregation)

/-- How many records lack the field. -/
def lacking (aggregation : String) (c : Collection) : Nat :=
  c.countP fun v => (v.field? aggregation).isNone

/-- A warning if there are records that lack the field. -/
def warnings (job aggregation : String) (c : Collection) : Log :=
  if lacking aggregation c = 0 then []
  else [⟨.warning, Number.intText (lacking aggregation c) ++ " records of '" ++ job ++
    "' have no '" ++ aggregation ++ "' and were not aggregated", 1⟩]

/-- The parameters of `aggregate`. -/
def struct : Shape.Struct :=
  ⟨"AggregateParams", [⟨"name", .optionalText, true⟩, ⟨"aggregatedField", .optionalText, false⟩,
    ⟨"aggregationField", .optionalText, false⟩]⟩

/-- The collection to set, its records, and the warnings about those that were left out. -/
def records (s : Store) (job : String) (raw : Value) :
    Except Cause (String × Collection × Log) := do
  let params ← Operator.aggregate.readWith (Shape.readRecord struct) raw
  let aggregated ← params.required "aggregatedField"
  let aggregation ← params.required "aggregationField"
  let c ← s.find job
  return ((params.text? "name").getD job, group aggregated aggregation c,
    warnings job aggregation c)

/-- The operator `aggregate`. -/
def run (job : String) (raw : Value) : Attempt Cause Unit := do
  let (target, c, entries) ← Attempt.ask (records ·.store job raw)
  Attempt.note entries
  Attempt.put target c

end Reshape.Grouping

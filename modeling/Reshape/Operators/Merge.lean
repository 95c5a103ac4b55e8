import Reshape.Operators.Parameter
import Reshape.Value.Equality

/-!
# Merging a collection into another one

* `Merge.keysMatch`: whether two records agree on all key fields; two absent fields agree.
* `Merge.overlay`: a record with the fields of another one.
* `Merge.absorb`: a collection after one incoming record.
* `Merge.mergeAll`: the collection after all of them, and those that matched no record.
* `Merge.run`: the operator `mergeObjects`.
-/

namespace Reshape.Merge

/-- Whether two records agree on all key fields. -/
def keysMatch (keys : List String) (a b : Value) : Bool :=
  keys.all fun k => Value.fieldEq (a.field? k) (b.field? k)

/-- The record with the fields of another one, which replace its own. -/
def overlay (a b : Value) : Value :=
  match a, b with
  | .object r, .object fields => .object (fields.foldl (fun r f => Record.insert r f.1 f.2) r)
  | a, _ => a

/-- The collection with the incoming record laid over every record that it matches. -/
def absorb (keys : List String) (c : Collection) (incoming : Value) : Collection :=
  c.map fun v => if keysMatch keys v incoming then overlay v incoming else v

/-- The collection after all incoming records, and those that matched no record when their turn
came. -/
def mergeAll (keys : List String) (c : Collection) : List Value → Collection × Collection
  | [] => (c, [])
  | incoming :: rest =>
    let (merged, unmatched) := mergeAll keys (absorb keys c incoming) rest
    (merged, if c.any (keysMatch keys · incoming) then unmatched else incoming :: unmatched)

/-- The merged collection; unless the merge is strict, the unmatched records follow. -/
def merge (keys : List String) (strict : Bool) (c incoming : Collection) : Collection :=
  let (merged, unmatched) := mergeAll keys c incoming
  if strict then merged else merged ++ unmatched

/-- The parameters of `mergeObjects`. -/
def struct : Shape.Struct :=
  ⟨"MergeParams", [⟨"name", .optionalText, false⟩, ⟨"key", .anything, false⟩,
    ⟨"strict", .anything, true⟩]⟩

/-- The key fields, of which there has to be one. -/
def readKeys (params : Record) : Except Cause (List String) :=
  match params.value? "key" with
  | none | some (.array []) => .error (.missingParameter "key")
  | some (.array items) => items.mapM fun
    | .string k => .ok k
    | _ => .error (.invalidParameter "key" "an array of field names")
  | some _ => .error (.invalidParameter "key" "an array of field names")

/-- The records of a collection merged with those that the parameters name. -/
def records (s : Store) (job : String) (raw : Value) : Except Cause Collection := do
  let params ← Operator.mergeObjects.readWith (Shape.readRecord struct) raw
  let other ← params.required "name"
  let keys ← readKeys params
  let strict := ((params.get? "strict").getD .null).truthy
  let c ← s.find job
  let incoming ← s.find other
  return merge keys strict c incoming

/-- The operator `mergeObjects`. -/
def run (job : String) (raw : Value) : Attempt Cause Unit := do
  let c ← Attempt.ask (records ·.store job raw)
  Attempt.put job c

end Reshape.Merge

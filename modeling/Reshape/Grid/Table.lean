import Reshape.Value.Basic

/-!
# Tables of records

* `Table`: the names of columns and rows with one cell for each.
* `Table.ofRecords`: the fields of all records in the order of their first appearance, and each
  record's values under them.
-/

namespace Reshape

structure Table where
  headers : List String
  rows : List (List Value)
  deriving DecidableEq

namespace Table

/-- The names of all fields, in the order of their first appearance. -/
def fieldNames (c : Collection) : List String :=
  (c.flatMap fun v => (v.fields?.getD []).keys).foldl
    (fun names k => if names.contains k then names else names ++ [k]) []

/-- The values of a record under the names, null where a field is missing. -/
def row (names : List String) (v : Value) : List Value :=
  names.map fun k => (v.field? k).getD .null

/-- The records as a table. -/
def ofRecords (c : Collection) : Table :=
  ⟨fieldNames c, c.map (row (fieldNames c))⟩

end Table

end Reshape

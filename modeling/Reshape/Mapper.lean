import Reshape.Catalog
import Reshape.Text.Escaped
import Reshape.Value.Basic

/-!
# Mappers

* `Mapper`: a change of records that a program brings along.
* `Mappers`: mappers by name; `Mappers.describe` lists the names.
-/

namespace Reshape

/-- A change of records. -/
abbrev Mapper := Record → Record

/-- Mappers by name. -/
abbrev Mappers := Catalog Mapper

/-- The names of the mappers, for inspection. -/
def Mappers.describe (m : Mappers) : String :=
  "MapperRegistry \x7b mappers: [" ++ String.intercalate ", " (m.names.map Text.escaped) ++ "] \x7d"

end Reshape

import Reshape.Catalog
import Reshape.Value.Basic

/-!
# Stores

* `Store`: collections by name.
* `Store.append`: adds to the end of a collection, making it if it is not there.
* `Store.modify?`: changes a collection that is there.
-/

namespace Reshape

/-- Collections by name. -/
abbrev Store := Catalog Collection

namespace Store

/-- Adds values to the end of a collection, making it if it is not there. -/
def append (s : Store) (name : String) (values : Collection) : Store :=
  s.insert name ((s.get? name).getD [] ++ values)

/-- Changes a collection that is there. -/
def modify? (s : Store) (name : String) (f : Collection → Collection) : Option Store :=
  (s.get? name).map fun c => s.insert name (f c)

theorem get?_append (s : Store) (name n : String) (values : Collection) :
    (s.append name values).get? n =
      if n = name then some ((s.get? name).getD [] ++ values) else s.get? n :=
  Catalog.get?_insert s name n _

end Store

end Reshape

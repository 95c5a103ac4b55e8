import Reshape.Command.Basic

/-!
# Files of commands

* `Config.paths`: the files that a configuration loads and saves.
* `Command.paths`: the files that a command deals with.
-/

namespace Reshape

/-- The path among the parameters of an operator. -/
def Shape.Struct.path? (s : Shape.Struct) (base : Option String) (raw : Value) : Option String :=
  match Shape.readRecord s raw with
  | .ok params => (params.text? "path").map (Path.joinTo base)
  | .error _ => none

/-- The files that an operation loads and saves. -/
def Operation.paths (base : Option String) (o : Operation) : List String :=
  ((o.get? .load).bind (Transfer.loadStruct.path? base)).toList ++
    ((o.get? .save).bind (Transfer.saveStruct.path? base)).toList

/-- The files that a configuration loads and saves. -/
def Config.paths (base : Option String) (c : Config) : List String :=
  c.jobs.flatMap fun j => j.operations.flatMap (·.paths base)

/-- The files that a command deals with, as far as the files that are known tell. -/
def Command.paths (files : Files) : Command → List String
  | .run config _ relative =>
    config :: match Config.ofFile files config with
      | .ok c => c.paths (if relative then some (Path.parent config) else none)
      | .error _ => []
  | .check config => [config]
  | .read path _ _ _ output => path :: output.toList
  | .sheets path => [path]
  | .operators | .exampleConfig | .help _ => []

end Reshape

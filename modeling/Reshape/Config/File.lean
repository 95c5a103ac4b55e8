import Reshape.Config.Reader
import Reshape.Config.Yaml
import Reshape.Records

/-!
# Configurations in files

* `ConfigError`: why there is no configuration.
* `Config.ofText`: the configuration of a YAML text.
* `Config.ofFile`: the configuration of a file, which is JSON if its extension says so.
-/

namespace Reshape

inductive ConfigError
  /-- A file could not be read. -/
  | io
  | yaml
  | json (e : ReadError)
  deriving DecidableEq, Repr

/-- The text of the error, up to where it goes on with the words of a reader. -/
def ConfigError.message : ConfigError → String
  | .io => "Failed to read config:"
  | .yaml => "Invalid YAML config:"
  | .json _ => "Invalid JSON config:"

namespace Config

/-- The configuration of a YAML text. -/
def ofText (text : String) : Except ConfigError Config :=
  match ofYaml? text with
  | some c => .ok c
  | none => .error .yaml

/-- The configuration of a file. -/
def ofFile (f : Files) (path : String) : Except ConfigError Config :=
  match f.text? path with
  | none => .error .io
  | some text =>
    if Records.isJson path then match ofJson text with
      | .ok c => .ok c
      | .error e => .error (.json e)
    else ofText text

end Config

end Reshape

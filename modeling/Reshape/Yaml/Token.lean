/-!
# Tokens

* `Yaml.Token`: the marks, names and scalars of a text. The starts and ends of collections in block
  style, which lines and columns tell, are tokens too.
* `Yaml.Tag`: what is said about the kind of a node.
-/

namespace Reshape.Yaml

/-- What is said about the kind of a node: a name, and the handle that stands for how it starts. -/
structure Tag where
  handle : List Char
  suffix : List Char
  deriving DecidableEq, Repr

inductive Token
  /-- The version of the language. -/
  | version (major minor : Nat)
  /-- A handle, and what it stands for. -/
  | handle (name start : List Char)
  | documentStart
  | documentEnd
  | blockSequenceStart
  | blockMappingStart
  | blockEnd
  | flowSequenceStart
  | flowSequenceEnd
  | flowMappingStart
  | flowMappingEnd
  /-- A dash before an element. -/
  | blockEntry
  /-- A comma. -/
  | flowEntry
  | key
  | value
  | alias (name : List Char)
  | anchor (name : List Char)
  | tag (t : Tag)
  | scalar (text : List Char) (plain : Bool)
  | streamEnd
  deriving DecidableEq, Repr

end Reshape.Yaml

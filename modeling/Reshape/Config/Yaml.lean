import Reshape.Config.Basic
import Reshape.Yaml.Document

/-!
# Configurations as YAML

Sequences and mappings nest only so deep, and aliases are followed only so often; what is skipped
does not count.

* `YamlReading`: what a document is read as, given how many aliases can be followed.
* `Config.ofDocument?`: the configuration of a document.
* `Config.ofYaml?`: the configuration of a text.
-/

namespace Reshape

open Yaml (Document Node Scalar)

/-- What a document is read as, given how many aliases can be followed; and how many can be followed
after that. -/
abbrev YamlReading := StateT Nat Option

namespace YamlReading

/-- Refuses what is read. -/
def refuse {α : Type} : YamlReading α := fun _ => none

/-- Accepts what is there. -/
def accept {α : Type} (a : Option α) : YamlReading α := fun jumps => a.map (·, jumps)

/-- The node itself, or the one that it is an alias of. -/
def follow (d : Document) (n : Node) : YamlReading Node :=
  match n with
  | .alias anchor => fun jumps => match jumps with
    | 0 => none
    | jumps + 1 => (d.target? anchor).map (·, jumps)
  | n => return n

/-- The text of a scalar, such as a key. Where only texts are keys, it has to stand for one. -/
def text (d : Document) (onlyTexts : Bool) (n : Node) : YamlReading String := do
  match ← follow d n with
  | .scalar _ s =>
    if onlyTexts then
      match s.value? with
      | some (.string key) => return key
      | _ => refuse
    else return s.text
  | _ => refuse

/-- The value of a node in which sequences and mappings nest to a depth at most. -/
def value (d : Document) (onlyTexts : Bool) : Nat → Node → YamlReading Value
  | 0, n => do
    match ← follow d n with
    | .scalar _ s => accept s.value?
    | _ => refuse
  | depth + 1, n => do
    match ← follow d n with
    | .scalar _ s => accept s.value?
    | .sequence _ tag items =>
      if Scalar.isLocal tag then refuse
      else return .array (← items.mapM (value d onlyTexts depth))
    | .mapping _ tag fields =>
      if Scalar.isLocal tag then refuse
      else
        let fields ← fields.mapM fun (k, v) => do
          return (← text d onlyTexts k, ← value d onlyTexts depth v)
        return .object (Record.ofList fields)
    | .alias _ => refuse

end YamlReading

open YamlReading

namespace Operation

/-- Reads the fields of an operation after those of which the operators are `seen`. A null gives an
operator no parameters. -/
def readNodes (d : Document) (depth : Nat) (seen : List Operator) (given : List (Operator × Value))
    (unknown : Catalog Value) : List (Node × Node) → YamlReading Operation
  | [] => return ofList given unknown
  | (k, n) :: fields => do
    let name ← text d false k
    match Operator.ofName? name with
    | none =>
      let v ← value d true depth n
      readNodes d depth seen given (unknown.insert name v) fields
    | some o =>
      if seen.contains o then refuse
      else match ← follow d n with
        | .scalar _ s => match ← accept s.optionalValue? with
          | none => readNodes d depth (o :: seen) given unknown fields
          | some v => readNodes d depth (o :: seen) ((o, v) :: given) unknown fields
        | n =>
          let v ← value d false depth n
          readNodes d depth (o :: seen) ((o, v) :: given) unknown fields

/-- The operation of a node; one that is left out has no settings. -/
def ofNode (d : Document) (depth : Nat) (n : Node) : YamlReading Operation := do
  match depth, ← follow d n with
  | depth + 1, .mapping _ _ fields => readNodes d depth [] [] .empty fields
  | _, .scalar _ s => if s.isEmpty then return ofList [] .empty else refuse
  | _, _ => refuse

/-- The operations of a node; one that is left out has none. -/
def listOfNode (d : Document) (depth : Nat) (n : Node) : YamlReading (List Operation) := do
  match depth, ← follow d n with
  | depth + 1, .sequence _ _ items => items.mapM (ofNode d depth)
  | _, .scalar _ s => if s.isEmpty then return [] else refuse
  | _, _ => refuse

end Operation

namespace Job

/-- Reads the fields of a job, given the name and the operations that came before. Fields of other
names are skipped. -/
def readNodes (d : Document) (depth : Nat) (name : Option String)
    (operations : Option (List Operation)) : List (Node × Node) → YamlReading Job
  | [] => accept (name.map fun name => ⟨name, operations.getD []⟩)
  | (k, n) :: fields => do
    let field ← text d false k
    if field = "name" then
      if name.isSome then refuse
      else
        let name ← text d false n
        readNodes d depth (some name) operations fields
    else if field = "ops" ∨ field = "jobs" then
      if operations.isSome then refuse
      else
        let operations ← Operation.listOfNode d depth n
        readNodes d depth name (some operations) fields
    else readNodes d depth name operations fields

end Job

namespace Config

/-- The configuration of a node in which sequences and mappings nest to a depth at most. -/
def ofNode (d : Document) : Nat → Node → YamlReading Config
  | 0, _ => refuse
  | depth + 1, n => do
    match ← follow d n with
    | .mapping _ tag fields =>
      if Scalar.isLocal tag then refuse else return .job (← Job.readNodes d depth none none fields)
    | .sequence _ tag items =>
      if Scalar.isLocal tag then refuse else return .sequence (← items.mapM (ofNode d depth))
    | _ => refuse

/-- How deep sequences and mappings may nest. -/
def maxYamlDepth : Nat := 128

/-- How often aliases may be followed for each part of a document. -/
def maxAliasUse : Nat := 100

/-- The configuration of a document. -/
def ofDocument? (d : Document) : Option Config :=
  (ofNode d maxYamlDepth d.root (maxAliasUse * d.root.size)).map (·.1)

/-- The configuration of a YAML text. -/
def ofYaml? (text : String) : Option Config := (Document.ofText? text).bind ofDocument?

end Config

end Reshape

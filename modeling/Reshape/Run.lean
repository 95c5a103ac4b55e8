import Reshape.Config.Basic
import Reshape.Operators.Clone
import Reshape.Operators.Copy
import Reshape.Operators.Filter
import Reshape.Operators.Grouping
import Reshape.Operators.Merge
import Reshape.Operators.Renaming
import Reshape.Operators.Revision
import Reshape.Operators.Transfer

/-!
# Running configurations

* `Run`: an attempt the failure of which tells the collection and the operator.
* `Operator.act`: what one operator does to the collection of a job.
* `Operation.run`, `Job.run`, `Config.run`: all operators of an operation, a job, a configuration.
-/

namespace Reshape

/-- What a run is given. -/
structure Setting where
  /-- The directory that relative paths start from. -/
  base : Option String
  mappers : Mappers

/-- What changes a session and may fail on the way. -/
abbrev Run := Attempt RunError

/-- How much was run. -/
structure Summary where
  jobs : Nat
  operations : Nat
  deriving DecidableEq, Repr

namespace Operator

/-- What an operator does to the collection of a job. -/
def act (setting : Setting) (job : String) (raw : Value) : Operator → Attempt Cause Unit
  | .load => Transfer.load setting.base job raw
  | .copyTo => Copy.run job raw
  | .cloneObjects => Clone.run job raw
  | .filterObjects => Filter.run job raw
  | .filterFields => Filter.runFields job raw
  | .mapFields => Renaming.run job raw
  | .mapValues => Revision.run setting.mappers job raw
  | .copyToArray => Copy.runField job raw
  | .mergeObjects => Merge.run job raw
  | .aggregate => Grouping.run job raw
  | .save => Transfer.save setting.base job raw

/-- The entry of an operator that is done: the number of records of the job's collection. -/
def doneEntry (o : Operator) (job : String) (s : Store) : LogEntry :=
  ⟨.success, match s.get? job with
    | some c => o.name ++ " (" ++ Number.intText c.length ++ " records)"
    | none => o.name, 1⟩

/-- One operator on the collection of a job. -/
def run (setting : Setting) (job : String) (o : Operator) (raw : Value) : Run Unit := do
  (o.act setting job raw).adapt (RunError.mk job o)
  modify fun s => s.note [doneEntry o job s.store]

end Operator

namespace Operation

/-- The warning about a setting that names no operator. -/
def unknownEntry (name : String) : LogEntry :=
  ⟨.warning, "Ignoring unknown operator '" ++ name ++ "'", 1⟩

/-- One operator, if it has parameters; the number of those run, given that `n` were run before. -/
def runOperator (setting : Setting) (job : String) (o : Operation) (n : Nat) (k : Operator) :
    Run Nat :=
  match o.get? k with
  | none => return n
  | some raw => do
    k.run setting job raw
    return n + 1

/-- All operators of the operation in their order; the number of them. -/
def run (setting : Setting) (job : String) (o : Operation) : Run Nat := do
  Attempt.note (o.unknown.names.map unknownEntry)
  let n ← o.runOperator setting job 0 .load
  let n ← o.runOperator setting job n .copyTo
  let n ← o.runOperator setting job n .cloneObjects
  let n ← o.runOperator setting job n .filterObjects
  let n ← o.runOperator setting job n .filterFields
  let n ← o.runOperator setting job n .mapFields
  let n ← o.runOperator setting job n .mapValues
  let n ← o.runOperator setting job n .copyToArray
  let n ← o.runOperator setting job n .mergeObjects
  let n ← o.runOperator setting job n .aggregate
  o.runOperator setting job n .save

end Operation

namespace Job

/-- The entry that a job begins with. -/
def startEntry (name : String) : LogEntry := ⟨.info, "Job '" ++ name ++ "'", 0⟩

/-- Notes a failure in the log. -/
def noteFailure {α : Type} (x : Run α) : Run α := fun s =>
  match x s with
  | (.ok a, s) => (.ok a, s)
  | (.error e, s) => (.error e, s.note [⟨.error, e.message, 1⟩])

/-- The operations of a list in turn; the number of operators. -/
def runOperations (setting : Setting) (job : String) : List Operation → Run Nat
  | [] => return 0
  | o :: rest => do
    let n ← noteFailure (o.run setting job)
    return n + (← runOperations setting job rest)

/-- All operations of the job; the number of operators. -/
def run (setting : Setting) (j : Job) : Run Nat := do
  Attempt.note [startEntry j.name]
  runOperations setting j.name j.operations

end Job

namespace Config

mutual

/-- All jobs of the configuration from left to right, on top of what was run before. -/
def runFrom (setting : Setting) (before : Summary) : Config → Run Summary
  | .job j => do
    let n ← j.run setting
    return ⟨before.jobs + 1, before.operations + n⟩
  | .sequence cs => runList setting before cs

def runList (setting : Setting) (before : Summary) : List Config → Run Summary
  | [] => pure before
  | c :: cs => do
    let done ← runFrom setting before c
    runList setting done cs

end

/-- All jobs of the configuration from left to right. -/
def run (setting : Setting) (c : Config) : Run Summary := runFrom setting ⟨0, 0⟩ c

end Config

end Reshape

import Reshape.Config.File
import Reshape.Run

/-!
# Pipelines

* `Pipeline`: how configurations are run.
* `Pipeline.runFile`, `Pipeline.runText`: run a configuration, starting with an empty store.
* `Summary.text`: how much was run, in words.
-/

namespace Reshape

/-- How configurations are run. -/
structure Pipeline where
  /-- The directory that relative paths start from. -/
  base : Option String
  /-- Whether they start from the directory of the configuration if no other is given. -/
  relative : Bool
  mappers : Mappers

inductive PipelineError
  | config (e : ConfigError)
  | run (e : RunError)
  deriving DecidableEq, Repr

def PipelineError.message : PipelineError → String
  | .config e => "Config error: " ++ e.message
  | .run e => "Run failed: " ++ e.message

/-- How much was run, in words. -/
def Summary.text (s : Summary) (store : Store) : String :=
  Number.intText s.jobs ++ " jobs, " ++ Number.intText s.operations ++ " operations, " ++
    Number.intText store.size ++ " collections"

namespace Pipeline

/-- What a run of a configuration in the directory `dir` is given. -/
def setting (p : Pipeline) (dir : Option String) : Setting :=
  ⟨p.base <|> (if p.relative then dir else none), p.mappers⟩

/-- A session that starts with the files. -/
def start (files : Files) : Session := ⟨.empty, files, []⟩

/-- Runs a configuration, unless it could not be read. -/
def run (p : Pipeline) (dir : Option String) (files : Files) (c : Except ConfigError Config) :
    Session × Except PipelineError Summary :=
  match c with
  | .error e => (start files, .error (.config e))
  | .ok c => match c.run (p.setting dir) (start files) with
    | (.ok summary, s) => (s, .ok summary)
    | (.error e, s) => (s, .error (.run e))

/-- Runs the configuration of a file. -/
def runFile (p : Pipeline) (files : Files) (path : String) :
    Session × Except PipelineError Summary :=
  p.run (some (Path.parent path)) files (Config.ofFile files path)

/-- Runs the configuration of a YAML text. -/
def runText (p : Pipeline) (files : Files) (text : String) :
    Session × Except PipelineError Summary :=
  p.run none files (Config.ofText text)

end Pipeline

end Reshape

import Reshape.Command.Help
import Reshape.Config.Example
import Reshape.Pipeline

/-!
# Commands

* `Command`: what can be asked for on the command line.
* `Command.ofArguments?`: the command of arguments.
* `Command.perform`: what a command prints and how it changes files.
-/

namespace Reshape

inductive Command
  /-- Run a configuration and print collections. -/
  | run (config : String) (dump : List String) (relative : Bool)
  /-- List the jobs of a configuration. -/
  | check (config : String)
  /-- Print the records of a file, or write them to another one. -/
  | read (path : String) (sheet first last output : Option String)
  /-- List the sheets of a workbook. -/
  | sheets (path : String)
  /-- List the operators. -/
  | operators
  /-- Print an example configuration. -/
  | exampleConfig
  /-- Print help. -/
  | help (topic : HelpTopic)
  deriving DecidableEq, Repr

/-- What a command prints. -/
inductive Line
  /-- A result, for the standard output. -/
  | result (text : String)
  /-- A note, for the standard error. -/
  | note (text : String)
  deriving DecidableEq, Repr

structure Outcome where
  files : Files
  lines : List Line
  error : Option String

namespace Outcome

/-- The text of the results. -/
def output (o : Outcome) : String :=
  String.join (o.lines.map fun
    | .result text => text
    | .note _ => "")

/-- The line that tells of the error. -/
def errorLine (o : Outcome) : Option String := o.error.map ("❌ Error: " ++ ·)

/-- The exit code. -/
def code (o : Outcome) : Nat := if o.error.isSome then 1 else 0

end Outcome

namespace Command

/-! ## Arguments -/

/-- The one argument that is no option, a path. -/
def path (a : Arguments) : String := (a.others.head?).getD ""

/-- The command of its name and the arguments after it. -/
def ofTopic (topic : HelpTopic) (args : List String) : Except ArgumentStop Command := do
  match topic with
  | .run =>
    let a ← Arguments.read runOptions 1 args
    return .run (path a) (a.values "dump") (a.has "relative")
  | .check => return .check (path (← Arguments.read [] 1 args))
  | .read =>
    let a ← Arguments.read readOptions 1 args
    return .read (path a) (a.value? "sheet") (a.value? "range-from") (a.value? "range-to")
      (a.value? "output")
  | .sheets => return .sheets (path (← Arguments.read [] 1 args))
  | .operators =>
    let _ ← Arguments.read [] 0 args
    return .operators
  | .exampleConfig =>
    let _ ← Arguments.read [] 0 args
    return .exampleConfig
  | .help =>
    match args with
    | [] => return .help .program
    | [name] => match HelpTopic.ofName? name with
      | some topic => return .help topic
      | none => throw .misuse
    | _ => throw .misuse
  | .program =>
    let _ ← Arguments.read [] 0 args
    throw .misuse

/-- The command of arguments. What the arguments of a command ask help for is that command. -/
def ofArguments? (args : List String) : Option Command :=
  let (topic, rest) := match args with
    | [] => (.program, [])
    | name :: rest => match HelpTopic.ofName? name with
      | some topic => (topic, rest)
      | none => (.program, args)
  match ofTopic topic rest with
  | .ok c => some c
  | .error .help => some (.help topic)
  | .error .misuse => none

/-- The exit code if the arguments are no command. -/
def usageCode : Nat := 2

/-! ## Running -/

/-- The collections of a store as they are printed; the error if one is missing. -/
def dumpLines (s : Store) : List String → List Line × Option String
  | [] => ([], none)
  | name :: names =>
    match s.get? name with
    | none => ([], some ("Collection '" ++ name ++ "' is missing"))
    | some c =>
      let (lines, error) := dumpLines s names
      (.note ("\n📦 " ++ name ++ " (" ++ Number.intText c.length ++ " records)\n") ::
        .result ((Value.array c).prettyText ++ "\n") :: lines, error)

/-- Runs a configuration and prints collections. -/
def performRun (files : Files) (config : String) (dump : List String) (relative : Bool) :
    Outcome :=
  let begun := Line.note ("📄 Running: " ++ config ++ "\n")
  match Pipeline.runFile ⟨none, relative, .empty⟩ files config with
  | (s, .error e) => ⟨s.files, [begun], some e.message⟩
  | (s, .ok summary) => match dumpLines s.store dump with
    | (lines, some e) => ⟨s.files, begun :: lines, some e⟩
    | (lines, none) =>
      ⟨s.files, begun :: lines ++ [.note ("\n✨ Done: " ++ summary.text s.store ++ "\n")], none⟩

/-! ## Checking -/

/-- The settings of an operation, those that name no operator marked. -/
def settingNames (o : Operation) : List String :=
  o.operators.map Operator.name ++ o.unknown.names.map (· ++ " (unknown)")

/-- The lines about a job. -/
def jobLines (j : Job) : List Line :=
  .result ("  " ++ j.name ++ "\n") :: j.operations.map fun o =>
    .result ("    - " ++ String.intercalate ", " (settingNames o) ++ "\n")

/-- Lists the jobs of a configuration. -/
def performCheck (files : Files) (config : String) : Outcome :=
  match Config.ofFile files config with
  | .error e => ⟨files, [], some e.message⟩
  | .ok c =>
    let count := Line.note ("✅ " ++ Number.intText c.jobs.length ++ " jobs\n\n")
    ⟨files, count :: c.jobs.flatMap jobLines, none⟩

/-! ## Reading -/

/-- The sheet to read: the first one if none is given. Texts have no sheets. -/
def sheetOf (files : Files) (path : String) (sheet : Option String) : Except String String :=
  match sheet with
  | some name => .ok name
  | none =>
    if Records.isJson path || Records.isCsv path then .ok ""
    else match Records.sheetNames files path with
      | .error e => .error e.message
      | .ok [] => .error "workbook has no sheets"
      | .ok (name :: _) => .ok name

/-- Prints the records of a file, or writes them to another one. -/
def performRead (files : Files) (path : String) (sheet first last output : Option String) :
    Outcome :=
  let begun := Line.note ("📄 Reading: " ++ path ++ "\n")
  match sheetOf files path sheet with
  | .error e => ⟨files, [begun], some e⟩
  | .ok name => match Records.read files path ⟨name, first, last⟩ with
    | .error e => ⟨files, [begun], some e.message⟩
    | .ok records =>
      let lines := [begun, .note ("✅ Read " ++ Number.intText records.length ++ " records\n")]
      let text := (Value.array records).prettyText
      match output with
      | none => ⟨files, lines ++ [.result (text ++ "\n")], none⟩
      | some target => match files.write target (.text text) with
        | .error e => ⟨files, lines, some e.message⟩
        | .ok files => ⟨files, lines ++ [.note ("💾 Output written to: " ++ target ++ "\n")], none⟩

/-- Lists the sheets of a workbook. -/
def performSheets (files : Files) (path : String) : Outcome :=
  match Records.sheetNames files path with
  | .error e => ⟨files, [], some e.message⟩
  | .ok names => ⟨files, names.map fun name => .result (name ++ "\n"), none⟩

/-! ## Operators -/

/-- What an operator takes and does. -/
def describe : Operator → String
  | .load => "\x7bpath, sheetName?, rangeFrom?, rangeTo?\x7d read a sheet/csv/json into the " ++
      "collection"
  | .copyTo => "NAME append copies of every record to another collection"
  | .cloneObjects => "\x7bfield, filter, values\x7d add clones of matching records with new " ++
      "field values"
  | .filterObjects => "[\x7bfield, include|exclude\x7d] keep records matching every predicate"
  | .filterFields => "\x7binclude|exclude\x7d keep or drop fields"
  | .mapFields => "[\x7bfrom, to, copy?\x7d] or \x7bfrom: to\x7d rename or copy fields"
  | .mapValues => "[\x7bfield, from, to\x7d | \x7bmap: EXPR\x7d | \x7bcall: NAME\x7d] " ++
      "rewrite values"
  | .copyToArray => "\x7bcopyTo, field\x7d append one field of every record to a value array"
  | .mergeObjects => "\x7bname, key, strict?\x7d merge another collection on a composite key"
  | .aggregate => "\x7bname, aggregatedField, aggregationField\x7d group values into a new " ++
      "collection"
  | .save => "\x7bpath, sheetName?\x7d write a workbook plus a .json mirror"

/-- The lines about all operators. -/
def operatorLines : List Line :=
  .result "Operators (run in this order when an op holds several):\n\n" ::
    Operator.all.map fun o =>
      .result ("  " ++ HelpPage.padded 14 o.name ++ " " ++ describe o ++ "\n")

/-- What a command prints and how it changes files. -/
def perform (files : Files) : Command → Outcome
  | .run config dump relative => performRun files config dump relative
  | .check config => performCheck files config
  | .read path sheet first last output => performRead files path sheet first last output
  | .sheets path => performSheets files path
  | .operators => ⟨files, operatorLines, none⟩
  | .exampleConfig => ⟨files, [.result Config.exampleText], none⟩
  | .help topic => ⟨files, [.result topic.text], none⟩

end Command

end Reshape

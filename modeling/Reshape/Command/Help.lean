import Reshape.Command.Arguments

/-!
# Help

* `HelpTopic`: what there is help on.
* `HelpTopic.page`: what the help tells, and `HelpPage.text`: how it is laid out.
-/

namespace Reshape

/-- What there is help on: the program and its commands. -/
inductive HelpTopic
  | program | run | check | read | sheets | operators | exampleConfig | help
  deriving DecidableEq, Repr

/-- What help tells. -/
structure HelpPage where
  about : String
  /-- What follows the program's name. -/
  usage : String
  /-- Sections in two columns. -/
  sections : List (String × List (String × String))

namespace HelpPage

/-- The name that the program is called by. -/
def programName : String := "tabmap"

/-- The text with blanks after it, up to a length. -/
def padded (length : Nat) (s : String) : String :=
  s ++ String.ofList (List.replicate (length - s.length) ' ')

/-- A section, in which the second column stands two blanks right of the widest text before. -/
def sectionText (title : String) (entries : List (String × String)) : String :=
  let width := (entries.map (·.1.length)).foldl max 0
  "\n" ++ title ++ ":\n" ++
    String.join (entries.map fun e => "  " ++ padded width e.1 ++ "  " ++ e.2 ++ "\n")

/-- The whole text. -/
def text (p : HelpPage) : String :=
  p.about ++ "\n\nUsage: " ++ programName ++ " " ++ p.usage ++ "\n" ++
    String.join (p.sections.map fun s => sectionText s.1 s.2)

/-- The name of an option's value. -/
def valueName (name : String) : String :=
  String.ofList (name.toList.map fun c => if c = '-' then '_' else c.toUpper)

/-- How an option is given. -/
def optionForm (o : CommandOption) : String :=
  (match o.letter with
    | some c => String.ofList ['-', c, ',', ' ']
    | none => "    ") ++
  "--" ++ o.name ++ (if o.valued then " <" ++ valueName o.name ++ ">" else "")

/-- The section about options. -/
def optionSection (options : List CommandOption) : String × List (String × String) :=
  ("Options", (options ++ [Arguments.helpOption]).map fun o => (optionForm o, o.purpose))

end HelpPage

/-! ## Options -/

namespace Command

def runOptions : List CommandOption :=
  [⟨"dump", some 'd', true, true, false, "Print a collection as JSON after the run (repeatable)"⟩,
    ⟨"relative", some 'r', false, false, false,
      "Resolve load/save paths relative to the config file"⟩]

def readOptions : List CommandOption :=
  [⟨"sheet", some 's', true, false, false, "Sheet name (default: first sheet)"⟩,
    ⟨"range-from", none, true, false, false, "Top-left cell of the region to read, e.g. D4"⟩,
    ⟨"range-to", none, true, false, false, "Bottom-right cell of the region to read, e.g. E18"⟩,
    ⟨"output", some 'o', true, false, true, "Output JSON file (default: stdout)"⟩]

end Command

namespace HelpTopic

/-- The name of the command. -/
def name : HelpTopic → String
  | .program => HelpPage.programName
  | .run => "run"
  | .check => "check"
  | .read => "read"
  | .sheets => "sheets"
  | .operators => "operators"
  | .exampleConfig => "example-config"
  | .help => "help"

/-- The commands. -/
def commands : List HelpTopic := [.run, .check, .read, .sheets, .operators, .exampleConfig, .help]

/-- What the program or the command is for. -/
def about : HelpTopic → String
  | .program => "Declarative transformations of spreadsheet records"
  | .run => "Run a pipeline config (YAML or JSON)"
  | .check => "Parse a config and list its jobs without running them"
  | .read => "Read a sheet, CSV or JSON file and print its records as JSON"
  | .sheets => "List the sheets of a workbook"
  | .operators => "Show available operators"
  | .exampleConfig => "Print an example pipeline config"
  | .help => "Print this message or the help of the given subcommand(s)"

/-- The command of a name. -/
def ofName? (name : String) : Option HelpTopic := commands.find? (·.name = name)

/-- What the help on a topic tells. -/
def page (topic : HelpTopic) : HelpPage :=
  match topic with
  | .program =>
    ⟨topic.about, "<COMMAND>",
      [("Commands", commands.map fun c => (c.name, c.about)), HelpPage.optionSection []]⟩
  | .run =>
    ⟨topic.about, "run [OPTIONS] <CONFIG>",
      [("Arguments", [("<CONFIG>", "Config file")]), HelpPage.optionSection Command.runOptions]⟩
  | .check =>
    ⟨topic.about, "check <CONFIG>",
      [("Arguments", [("<CONFIG>", "Config file")]), HelpPage.optionSection []]⟩
  | .read =>
    ⟨topic.about, "read [OPTIONS] <PATH>",
      [("Arguments", [("<PATH>", "Input file")]), HelpPage.optionSection Command.readOptions]⟩
  | .sheets =>
    ⟨topic.about, "sheets <PATH>",
      [("Arguments", [("<PATH>", "Workbook file")]), HelpPage.optionSection []]⟩
  | .operators => ⟨topic.about, "operators", [HelpPage.optionSection []]⟩
  | .exampleConfig => ⟨topic.about, "example-config", [HelpPage.optionSection []]⟩
  | .help =>
    ⟨topic.about, "help [COMMAND]...",
      [("Arguments", [("[COMMAND]...", "Print help for the subcommand(s)")])]⟩

/-- The help on a topic. -/
def text (topic : HelpTopic) : String := topic.page.text

end HelpTopic

end Reshape

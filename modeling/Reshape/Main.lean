import Reshape.Command.Access

/-!
# The program

Reads the texts that a command deals with, performs it, prints what it prints and writes the texts
that it changed. Workbooks stay inside one run.
-/

namespace Reshape.Main

/-- The path of a place. -/
def absolute (place : List String) : String := "/" ++ Files.key place

/-- Whether a directory is there. -/
def isDirectory (path : String) : IO Bool := do
  try
    return ← (← IO.FS.realPath path).isDir
  catch _ => return false

/-- The text of a file, if it is there and is a text. -/
def textOf (path : String) : IO (Option String) := do
  try
    return String.fromUTF8? (← IO.FS.readBinFile path)
  catch _ => return none

/-- Adds the file that a path leads to, and its directory. -/
def addFile (files : Files) (path : String) : IO Files := do
  let place := Path.place files.home path
  let directories ← if ← isDirectory (absolute place.dropLast) then
      pure (place.dropLast :: files.directories)
    else pure files.directories
  match ← textOf (absolute place) with
  | some text =>
    return { files with
      entries := files.entries.insert (Files.key place) (.text text), directories := directories }
  | none => return { files with directories := directories }

/-- Adds the files that a command deals with. -/
def addFiles (files : Files) (c : Command) : IO Files := do
  (c.paths files).foldlM addFile files

/-- Writes the texts that are new. -/
def writeFiles (before after : Files) : IO Unit := do
  for (key, content) in after.entries.entries do
    match content with
    | .text s =>
      if before.entries.get? key ≠ some content then IO.FS.writeFile ("/" ++ key) s
    | .workbook _ => pure ()

/-- Prints a line. -/
def printLine : Line → IO Unit
  | .result text => IO.print text
  | .note text => IO.eprint text

/-- Performs a command. -/
def perform (c : Command) : IO UInt32 := do
  let home := (← IO.currentDir).toString
  let known ← addFiles ⟨.empty, Path.place [] home, []⟩ c
  let files ← addFiles known c
  let outcome := c.perform files
  writeFiles files outcome.files
  outcome.lines.forM printLine
  match outcome.errorLine with
  | some line => IO.eprintln line
  | none => pure ()
  return UInt32.ofNat outcome.code

end Reshape.Main

/-- Performs the command that the arguments are. -/
def main (args : List String) : IO UInt32 := do
  match Reshape.Command.ofArguments? args with
  | some c => Reshape.Main.perform c
  | none =>
    IO.eprint Reshape.HelpTopic.program.text
    return UInt32.ofNat Reshape.Command.usageCode

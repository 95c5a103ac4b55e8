import Reshape.Json.Writer

/-!
# Logs

* `LogEntry`: a level, a message and how far it is indented.
* `LogEntry.toValue`: the entry as an object.
* `Log.atLevel`: the entries of one level.
-/

namespace Reshape

inductive LogLevel
  | info | success | warning | error
  deriving DecidableEq, Repr

def LogLevel.name : LogLevel → String
  | .info => "info"
  | .success => "success"
  | .warning => "warning"
  | .error => "error"

def LogLevel.all : List LogLevel := [.info, .success, .warning, .error]

/-- The level of a name. -/
def LogLevel.ofName? (s : String) : Option LogLevel := all.find? (·.name = s)

structure LogEntry where
  level : LogLevel
  message : String
  /-- Entries of a job have none, those of its operators one. -/
  indent : Nat
  deriving DecidableEq, Repr

/-- Entries in the order in which they were made. -/
abbrev Log := List LogEntry

namespace LogEntry

/-- The entry as an object. -/
def toValue (e : LogEntry) : Value :=
  .object [("level", .string e.level.name), ("message", .string e.message),
    ("indent", ((Number.ofInt? e.indent).map .number).getD .null)]

end LogEntry

/-- The entries of one level. -/
def Log.atLevel (log : Log) (level : LogLevel) : Log := log.filter (·.level = level)

end Reshape

/-!
# Arguments of commands

Arguments are read from left to right, and the first one that is wrong or asks for help ends the
reading.

* `CommandOption`: an option that a command has. All commands have the option for help.
* `Arguments`: the options and other arguments that are given.
* `Arguments.read`: the arguments of a command that has certain options.
-/

namespace Reshape

/-- An option that a command has. -/
structure CommandOption where
  name : String
  /-- The letter that stands for the name after a single dash. -/
  letter : Option Char
  /-- Whether a value follows. -/
  valued : Bool
  /-- Whether it can be given more than once. -/
  repeatable : Bool
  /-- Whether the value is a path, which cannot be empty. -/
  isPath : Bool
  /-- What it is for. -/
  purpose : String
  deriving DecidableEq, Repr

structure Arguments where
  /-- The options that are given and their values, which are empty where an option has none. -/
  options : List (CommandOption × String)
  /-- The other arguments, which are paths. -/
  others : List String
  deriving DecidableEq, Repr

/-- Why arguments are not read to their end. -/
inductive ArgumentStop
  /-- An argument is wrong or lacks its value. -/
  | misuse
  /-- An argument asks for help. -/
  | help
  deriving DecidableEq, Repr

namespace Arguments

/-- The option that asks for help. -/
def helpOption : CommandOption := ⟨"help", some 'h', false, true, false, "Print help"⟩

/-- The values given to an option. -/
def values (a : Arguments) (name : String) : List String :=
  (a.options.filter (·.1.name = name)).map (·.2)

/-- The value given to an option. -/
def value? (a : Arguments) (name : String) : Option String := (a.values name).head?

/-- Whether an option is given. -/
def has (a : Arguments) (name : String) : Bool := (a.value? name).isSome

/-- The arguments with one more option. -/
def addOption (a : Arguments) (o : CommandOption) (value : String) :
    Except ArgumentStop Arguments :=
  if o.name = helpOption.name then .error .help
  else if (a.has o.name && !o.repeatable) || (o.isPath && value = "") then .error .misuse
  else .ok { a with options := a.options ++ [(o, value)] }

/-- The arguments with one more of those that are no options, of which there can be `count`. -/
def addOther (count : Nat) (a : Arguments) (value : String) : Except ArgumentStop Arguments :=
  if count ≤ a.others.length ∨ value = "" then .error .misuse
  else .ok { a with others := a.others ++ [value] }

/-- Whether the argument starts an option. -/
def isOption (arg : String) : Bool :=
  match arg.toList with
  | '-' :: _ :: _ => true
  | _ => false

/-- Adds the options that letters after a dash give; the text after one with a value is that value.
An option whose value is the next argument is handed back. -/
def addLetters (options : List CommandOption) (a : Arguments) :
    List Char → Except ArgumentStop (Arguments × Option CommandOption)
  | [] => .ok (a, none)
  | c :: cs =>
    match options.find? (·.letter = some c) with
    | none => .error .misuse
    | some o =>
      if !o.valued then do addLetters options (← a.addOption o "") cs
      else if cs.isEmpty then .ok (a, some o)
      else do
        let value := if cs.head? = some '=' then cs.tail else cs
        return (← a.addOption o (String.ofList value), none)

/-- Adds the option that a name after two dashes gives, with a value after an equals sign. An option
whose value is the next argument is handed back. -/
def addName (options : List CommandOption) (a : Arguments) (cs : List Char) :
    Except ArgumentStop (Arguments × Option CommandOption) :=
  let name := cs.takeWhile (· ≠ '=')
  match options.find? (·.name = String.ofList name), cs.drop name.length with
  | none, _ => .error .misuse
  | some o, [] => if o.valued then .ok (a, some o) else return (← a.addOption o "", none)
  | some o, _ :: value =>
    if o.valued then return (← a.addOption o (String.ofList value), none) else .error .misuse

/-- Adds the options that an argument gives. -/
def addOpening (options : List CommandOption) (a : Arguments) (arg : String) :
    Except ArgumentStop (Arguments × Option CommandOption) :=
  match arg.toList with
  | '-' :: '-' :: cs => addName options a cs
  | '-' :: cs => addLetters options a cs
  | _ => .error .misuse

/-- Adds arguments in order; after two dashes alone no argument is an option. -/
def scan (options : List CommandOption) (count : Nat) (plain : Bool) (a : Arguments) :
    List String → Except ArgumentStop Arguments
  | [] => .ok a
  | arg :: args =>
    if plain ∨ !isOption arg then do scan options count plain (← addOther count a arg) args
    else if arg = "--" then scan options count true a args
    else
      match addOpening options a arg with
      | .error stop => .error stop
      | .ok (a, none) => scan options count plain a args
      | .ok (a, some o) => match args with
        | [] => .error .misuse
        | value :: args =>
          if isOption value then .error .misuse
          else do scan options count plain (← a.addOption o value) args

/-- The arguments of a command with `count` arguments that are no options. -/
def read (options : List CommandOption) (count : Nat) (args : List String) :
    Except ArgumentStop Arguments := do
  let a ← scan (options ++ [helpOption]) count false ⟨[], []⟩ args
  if a.others.length = count then return a else throw .misuse

end Arguments

end Reshape

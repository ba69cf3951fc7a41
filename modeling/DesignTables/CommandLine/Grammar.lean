import DesignTables.Number.Integer

/-!
What a command line may hold: options with their roles, the argument of a command, and commands.
-/
namespace DesignTables.CommandLine

/-- What the value of an option or of an argument must be. -/
inductive ValueKind where
  | text
  /-- A path, which has at least one character. -/
  | path
  | count
  | choice (names : List String)
deriving DecidableEq, Repr

/-- What an option is for. -/
inductive OptionRole where
  /-- Asks for help instead of a run. -/
  | help
  /-- Asks for the version instead of a run. -/
  | version
  /-- Given once, without a value. -/
  | switch
  /-- Given any number of times, without a value. -/
  | counter
  /-- Given once, with a value. -/
  | single (kind : ValueKind)
  /-- Given any number of times, each time with a value. -/
  | repeated (kind : ValueKind)
deriving DecidableEq, Repr

/-- The kind of value that an option of a role takes, if it takes any. -/
def OptionRole.valueKind? : OptionRole → Option ValueKind
  | single kind | repeated kind => some kind
  | help | version | switch | counter => none

/-- An option. -/
structure OptionSpec where
  /-- The name after two dashes. -/
  name : String
  /-- The letter after one dash, if there is one. -/
  letter : Option Char
  role : OptionRole
  /-- The name of an option that cannot be given beside this one. -/
  excludes : Option String
deriving DecidableEq, Repr

/-- What a command line holds, or what follows a command. -/
structure CommandSpec where
  options : List OptionSpec
  /-- The kind of the one required argument; absent where a command is required. -/
  argument : Option ValueKind
  /-- The commands of which one is required. -/
  commands : List String
deriving DecidableEq, Repr

/-- Why a command line is not run. -/
inductive UsageError where
  /-- Help was asked for. -/
  | help
  /-- The version was asked for. -/
  | version
  /-- Nothing at all was given. -/
  | nothingGiven
  | missingCommand
  | unknownCommand
  | missingArgument
  /-- An option that there is not, or an argument too many. -/
  | unknownArgument
  /-- A value that is missing, none of the choices, or a path without a character. -/
  | invalidValue
  /-- A value that is no number. -/
  | malformedNumber
  /-- An option given twice that can be given once, or beside one that it excludes. -/
  | conflict
  /-- A value for an option that takes none. -/
  | surplusValue
deriving DecidableEq, Repr

/-- The exit code after a usage error: to show help or the version as asked is no failure. -/
def UsageError.exitCode : UsageError → Nat
  | help | version => 0
  | _ => 2

/-- What is told after a usage error. -/
def UsageError.message : UsageError → String
  | help => "usage: (build | list) [OPTIONS] <INPUT_DIR>"
  | version => "design tables"
  | nothingGiven | missingCommand => "a command is required: build or list"
  | unknownCommand => "there is no such command"
  | missingArgument => "an input directory is required"
  | unknownArgument => "there is no such option, or there is an argument too many"
  | invalidValue => "a value is missing or is not allowed"
  | malformedNumber => "a value is not a number"
  | conflict => "an option is given twice, or beside one that it excludes"
  | surplusValue => "a value is given to an option that takes none"

namespace ValueKind

/-- What is wrong with a value, if anything is. -/
def fault? (kind : ValueKind) (value : String) : Option UsageError :=
  match kind with
  | text => none
  | path => if value.isEmpty then some .invalidValue else none
  | count => if (readCount? value).isSome then none else some .malformedNumber
  | choice names => if names.contains value then none else some .invalidValue

end ValueKind

end DesignTables.CommandLine

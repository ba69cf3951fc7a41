import DesignTables.CommandLine.Grammar

/-!
Reading a command line against its grammar.

The words are read from left to right. A value that stands as a word of its own is looked at only
when the word after it has been recognized, so an unknown option wins over a wrong value in front of
it, and a fault behind a command wins over a wrong value right before the command.
-/
namespace DesignTables.CommandLine

/-- An option or the argument, with the value that was given for it. -/
structure Given where
  /-- The name of the option; absent for the argument. -/
  name : Option String
  value : Option String
deriving DecidableEq, Repr

/-- A value that is still to be looked at. -/
structure Pending where
  /-- The option; absent for the argument. -/
  option : Option OptionSpec
  kind : ValueKind
  /-- Absent while the value is awaited. -/
  value : Option String
deriving DecidableEq, Repr

/-- How far a command line was read. -/
structure Progress where
  given : List Given
  pending : Option Pending
  /-- Two dashes were read: what follows is no option. -/
  isEscaped : Bool
  /-- The argument was read. -/
  hasArgument : Bool
deriving DecidableEq, Repr

namespace Progress

/-- Before the first word. -/
def start : Progress := ⟨[], none, false, false⟩

/-- Whether an option was given. -/
def has (progress : Progress) (name : String) : Bool :=
  progress.given.any (·.name == some name)

/-- Notes an option or the argument. -/
def note (progress : Progress) (name value : Option String) : Progress :=
  { progress with given := progress.given ++ [⟨name, value⟩] }

/-- Takes an option with the value that it was given. -/
def takeOption (progress : Progress) (option : OptionSpec) (value : Option String) :
    Except UsageError Progress :=
  match option.role with
  | .help => .error .help
  | .version => .error .version
  | .counter => .ok (progress.note (some option.name) none)
  | .switch =>
    if progress.has option.name then .error .conflict
    else .ok (progress.note (some option.name) none)
  | .single kind =>
    match value with
    | none => .error .invalidValue
    | some text =>
      if progress.has option.name then .error .conflict
      else match kind.fault? text with
        | some fault => .error fault
        | none => .ok (progress.note (some option.name) value)
  | .repeated kind =>
    match value with
    | none => .error .invalidValue
    | some text =>
      match kind.fault? text with
      | some fault => .error fault
      | none => .ok (progress.note (some option.name) value)

/-- Looks at the value that is still to be looked at. -/
def settle (progress : Progress) : Except UsageError Progress :=
  let settled := { progress with pending := none }
  match progress.pending with
  | none => .ok settled
  | some ⟨some option, _, value⟩ => settled.takeOption option value
  | some ⟨none, kind, value⟩ =>
    match kind.fault? (value.getD "") with
    | some fault => .error fault
    | none => .ok (settled.note none value)

/-- Whether the next word is the value of an option. -/
def awaitsValue (progress : Progress) : Bool := progress.pending.any (·.value.isNone)

/-- Takes an option, with a value that stands in the same word if there is one. -/
def meetOption (progress : Progress) (option : OptionSpec) (attached : Option String) :
    Except UsageError Progress :=
  match option.role.valueKind?, attached with
  | some kind, none =>
    progress.settle.map fun settled => { settled with pending := some ⟨some option, kind, none⟩ }
  | some _, some value => progress.settle.bind (·.takeOption option (some value))
  | none, some _ => .error .surplusValue
  | none, none => progress.settle.bind (·.takeOption option none)

/-- Takes the options behind one dash. The first that takes a value takes the rest of the word, an
equals sign in front of it aside, or else the next word. -/
def meetLetters (spec : CommandSpec) : List Char → Progress → Except UsageError Progress
  | [], progress => .ok progress
  | c :: rest, progress =>
    match spec.options.find? (·.letter == some c) with
    | none => .error .unknownArgument
    | some option =>
      if option.role.valueKind?.isSome then
        match rest with
        | [] => progress.meetOption option none
        | '=' :: value => progress.meetOption option (some (String.ofList value))
        | value => progress.meetOption option (some (String.ofList value))
      else (progress.meetOption option none).bind (meetLetters spec rest)

/-- Takes an option behind two dashes, with a value behind an equals sign. -/
def meetName (spec : CommandSpec) (word : List Char) (progress : Progress) :
    Except UsageError Progress :=
  let (name, rest) := word.span (· ≠ '=')
  let attached :=
    match rest with
    | [] => none
    | _ :: value => some (String.ofList value)
  match spec.options.find? (·.name == String.ofList name) with
  | none => .error .unknownArgument
  | some option => progress.meetOption option attached

/-- Takes a word that is no option. -/
def meetWord (spec : CommandSpec) (word : String) (progress : Progress) :
    Except UsageError Progress :=
  match spec.argument, progress.hasArgument with
  | some kind, false =>
    progress.settle.map fun settled =>
      { settled with pending := some ⟨none, kind, some word⟩, hasArgument := true }
  | _, _ =>
    if spec.commands.isEmpty || (progress.isEscaped && spec.commands.contains word) then
      .error .unknownArgument
    else .error .unknownCommand

/-- Takes the next word, which is no command. -/
def meet (spec : CommandSpec) (word : String) (progress : Progress) :
    Except UsageError Progress :=
  if progress.isEscaped then progress.meetWord spec word
  else match word.toList with
    | ['-', '-'] => .ok { progress with isEscaped := true }
    | '-' :: '-' :: rest => progress.meetName spec rest
    | '-' :: c :: rest => progress.meetLetters spec (c :: rest)
    | _ =>
      match progress.pending with
      | some ⟨option, kind, none⟩ =>
        .ok { progress with pending := some ⟨option, kind, some word⟩ }
      | _ => progress.meetWord spec word

/-- Whether a word is a command. -/
def meetsCommand (spec : CommandSpec) (word : String) (progress : Progress) : Bool :=
  !progress.isEscaped && !progress.awaitsValue && spec.commands.contains word

/-- Reads words up to the first command, which is given with the words behind it. -/
def readWords (spec : CommandSpec) :
    List String → Progress → Except UsageError (Progress × Option (String × List String))
  | [], progress => .ok (progress, none)
  | word :: rest, progress =>
    if progress.meetsCommand spec word then .ok (progress, some (word, rest))
    else (progress.meet spec word).bind (readWords spec rest)

/-- Whether two options were given that exclude each other. -/
def conflicts (progress : Progress) (spec : CommandSpec) : Bool :=
  spec.options.any fun option =>
    progress.has option.name && option.excludes.any progress.has

end Progress

/-- The words behind a command, read. -/
def readArguments (spec : CommandSpec) (words : List String) :
    Except UsageError (List Given) := do
  let (progress, _) ← Progress.readWords spec words .start
  let progress ← progress.settle
  if progress.conflicts spec then throw .conflict
  if spec.argument.isSome && !progress.hasArgument then throw .missingArgument
  return progress.given

end DesignTables.CommandLine

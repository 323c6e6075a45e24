import EditorSession.Config.Loader

/-! # Reading the command line

Arguments are read from left to right. An option that takes a value takes the text attached to it or
the next argument, unless that looks like another option; its value is examined when the option
after it is recognised, or at the end.

This is how clap reads the options that ortho_config declares, and how ortho_config makes a layer of
them, as far as observed; neither is part of this library. It belongs to `Config.loader`. What is
proved of loading is proved of every `Loader` and rests on none of it. -/

namespace EditorSession

/-- Why a command line is refused. -/
inductive CommandLineError where
  | unknownArgument
  /-- An option has no value, or one that it cannot have. -/
  | invalidValue
  | valueValidation
  /-- An option is given twice. -/
  | argumentConflict
  /-- A flag has a value. -/
  | tooManyValues
  /-- The command line asks for help. -/
  | displayHelp
deriving DecidableEq, Repr

namespace CommandLine

/-- The command line without arguments. -/
def empty : CommandLine := ⟨none, none, none, false, none⟩

/-! ### Options -/

/-- An option that takes a value. -/
inductive Valued where
  | logFilter
  | logFormat
  | configurationSection
  | configPath
deriving DecidableEq, Repr

/-- Anything that a command line may name. -/
inductive Switch where
  | valued (option : Valued)
  | formatOnType
  | help
deriving DecidableEq, Repr

/-- The switches by their long names. -/
def longNames : List (String × Switch) := [
  ("log-filter", .valued .logFilter), ("log-format", .valued .logFormat),
  ("configuration-section", .valued .configurationSection), ("format-on-type", .formatOnType),
  ("config-path", .valued .configPath), ("help", .help)]

/-- The switches by their letters. -/
def letters : List (Char × Switch) := [
  ('l', .valued .logFilter), ('L', .valued .logFormat), ('c', .valued .configurationSection),
  ('f', .formatOnType), ('h', .help)]

/-- Gives an option its value. -/
def assign (c : CommandLine) (option : Valued) (value : String) :
    Except CommandLineError CommandLine :=
  match option with
  | .logFilter =>
    if c.logFilter.isSome then .error .argumentConflict else .ok { c with logFilter := some value }
  | .logFormat =>
    if c.logFormat.isSome then .error .argumentConflict
    else match LogFormat.ofName? value with
      | some format => .ok { c with logFormat := some format }
      | none => .error .valueValidation
  | .configurationSection =>
    if c.configurationSection.isSome then .error .argumentConflict
    else .ok { c with configurationSection := some value }
  | .configPath =>
    if c.configPath.isSome then .error .argumentConflict
    else if value.isEmpty then .error .invalidValue
    else .ok { c with configPath := some value }

/-! ### Reading -/

/-- What was read so far: the settled part, and the last option with its value, if it has one yet.
-/
structure Progress where
  settled : CommandLine
  waiting : Option (Valued × Option String)

namespace Progress

/-- Settles the option that waits. -/
def settle (p : Progress) : Except CommandLineError CommandLine :=
  match p.waiting with
  | none => .ok p.settled
  | some (_, none) => .error .invalidValue
  | some (option, some value) => p.settled.assign option value

/-- Takes an option with a value attached to it. -/
def takeAttached (p : Progress) (option : Valued) (value : String) :
    Except CommandLineError Progress := do
  let settled ← p.settle
  let settled ← settled.assign option value
  return ⟨settled, none⟩

/-- Takes an option whose value is still to come. -/
def takeWaiting (p : Progress) (option : Valued) : Except CommandLineError Progress := do
  let settled ← p.settle
  return ⟨settled, some (option, none)⟩

/-- Takes the flag for formatting while typing. -/
def takeFlag (p : Progress) : Except CommandLineError Progress := do
  let settled ← p.settle
  if settled.formatOnType then .error .argumentConflict
  else return ⟨{ settled with formatOnType := true }, none⟩

/-- Takes the call for help. -/
def takeHelp (p : Progress) : Except CommandLineError Progress := do
  let _ ← p.settle
  .error .displayHelp

/-- Takes the letters after a single dash. What follows the letter of an option is its value, with
or without an equals sign in between. -/
def takeLetters (p : Progress) : List Char → Except CommandLineError Progress
  | [] => .ok p
  | c :: rest =>
    match letters.lookup c with
    | none => .error .unknownArgument
    | some .formatOnType => do (← p.takeFlag).takeLetters rest
    | some .help => p.takeHelp
    | some (.valued option) =>
      match rest with
      | [] => p.takeWaiting option
      | '=' :: value => p.takeAttached option (String.ofList value)
      | value => p.takeAttached option (String.ofList value)

/-- Takes what follows two dashes: a name, and a value behind an equals sign. -/
def takeLong (p : Progress) (text : List Char) : Except CommandLineError Progress :=
  let name := text.takeWhile (· ≠ '=')
  let value? : Option (List Char) := match text.dropWhile (· ≠ '=') with
    | _ :: value => some value
    | [] => none
  match longNames.lookup (String.ofList name), value? with
  | none, _ => .error .unknownArgument
  | some (.valued option), some value => p.takeAttached option (String.ofList value)
  | some (.valued option), none => p.takeWaiting option
  | some _, some _ => .error .tooManyValues
  | some .formatOnType, none => p.takeFlag
  | some .help, none => p.takeHelp

/-- Takes a plain text: the value that an option waits for, and nothing else. -/
def takePlain (p : Progress) (text : String) : Except CommandLineError Progress :=
  match p.waiting with
  | some (option, none) => .ok { p with waiting := some (option, some text) }
  | _ => .error .unknownArgument

/-- Takes one argument. -/
def take (p : Progress) (argument : String) : Except CommandLineError Progress :=
  match argument.toList with
  | '-' :: '-' :: text => p.takeLong text
  | '-' :: c :: rest => p.takeLetters (c :: rest)
  | _ => p.takePlain argument

end Progress

/-- Reads the arguments that are left. Nothing may follow two dashes. -/
def parseFrom (p : Progress) : List String → Except CommandLineError CommandLine
  | [] => p.settle
  | argument :: rest =>
    if argument = "--" then
      match rest with
      | [] => p.settle
      | _ :: _ => .error .unknownArgument
    else do
      let p ← p.take argument
      parseFrom p rest

/-- Reads a command line. -/
def parse (arguments : List String) : Except CommandLineError CommandLine :=
  parseFrom ⟨empty, none⟩ arguments

/-! ### The layer -/

/-- The member of an option, if it is given. -/
def optionMember (name : String) (value : Option String) : List (String × Json) :=
  (value.map fun v => (name, .string v)).toList

/-- The layer of a command line. It always says whether to format while typing. -/
def layer (c : CommandLine) : Layer where
  origin := .commandLine
  value := Json.ofMembers (
    optionMember Config.logFilterKey c.logFilter
      ++ optionMember Config.logFormatKey (c.logFormat.map LogFormat.name)
      ++ optionMember Config.sectionKey c.configurationSection
      ++ [(Config.formatOnTypeKey, .boolean c.formatOnType)])

end CommandLine

end EditorSession

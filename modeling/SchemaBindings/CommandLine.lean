import SchemaBindings.Project.Run

/-!
The command line: options in front of a command, and the command `generate` with its own options.
-/

namespace SchemaBindings.CommandLine

/-- A reason why no command is run; a wish for help or for the version is one too. -/
inductive Refusal
  | unknownArgument
  | invalidSubcommand
  | invalidValue
  | argumentConflict
  | tooManyValues
  | displayHelp
  | displayVersion
  deriving Repr, DecidableEq, Inhabited

/-- What a command line asks for. -/
structure Invocation where
  verbose : Bool := false
  command? : Option GenerateCommand := none
  deriving Repr, DecidableEq, Inhabited

/-- An argument, by its form. -/
inductive Form
  /-- Two dashes: no option follows. -/
  | terminator
  /-- A long option, with what stands after an equals sign. -/
  | long (name : List Char) (value? : Option (List Char))
  /-- One or more short options after one dash. -/
  | short (letters : List Char)
  /-- Anything else. -/
  | plain
  deriving Repr, DecidableEq

/-- The form of an argument. -/
def Form.of (argument : String) : Form :=
  match argument.toList with
  | ['-', '-'] => .terminator
  | '-' :: '-' :: rest =>
    let name := rest.takeWhile (· != '=')
    .long name (if name.length < rest.length then some (rest.drop (name.length + 1)) else none)
  | '-' :: c :: rest => .short (c :: rest)
  | _ => .plain

/-- An option of `generate` that takes a value. -/
inductive ValueOption
  | config
  | extensions
  deriving Repr, DecidableEq

/-- The options of `generate` read so far. An option whose value is a separate argument waits for
it, and is set when the next option comes or the arguments end. -/
structure GenerateArguments where
  config? : Option String := none
  dryRun : Bool := false
  extensions? : Option (List String) := none
  waiting? : Option (ValueOption × Option String) := none
  deriving Repr, DecidableEq, Inhabited

namespace GenerateArguments

/-- Sets an option. The configuration is named at most once and not by an empty text; extensions,
between commas, may be given any number of times. -/
def setValue (arguments : GenerateArguments) (option : ValueOption) (value : String) :
    Except Refusal GenerateArguments :=
  match option with
  | .config =>
    if arguments.config?.isSome then .error .argumentConflict
    else if value.isEmpty then .error .invalidValue
    else .ok { arguments with config? := some value }
  | .extensions =>
    let extensions := arguments.extensions?.getD [] ++ Text.splitAt ',' value
    .ok { arguments with extensions? := some extensions }

/-- Sets the option that waits, if one does. -/
def settle (arguments : GenerateArguments) : Except Refusal GenerateArguments :=
  match arguments.waiting? with
  | none => .ok arguments
  | some (_, none) => .error .invalidValue
  | some (option, some value) => { arguments with waiting? := none }.setValue option value

/-- Takes an option that needs a value, which may be attached to it. -/
def takeOption (arguments : GenerateArguments) (option : ValueOption)
    (value? : Option (List Char)) : Except Refusal GenerateArguments := do
  let arguments ← arguments.settle
  match value? with
  | some value => arguments.setValue option (String.ofList value)
  | none => return { arguments with waiting? := some (option, none) }

/-- Takes a long option. -/
def takeLong (arguments : GenerateArguments) (name : List Char) (value? : Option (List Char)) :
    Except Refusal GenerateArguments :=
  match String.ofList name with
  | "config" => arguments.takeOption .config value?
  | "graphql-file-exts" => arguments.takeOption .extensions value?
  | "dry-run" => do
    if value?.isSome then throw .tooManyValues
    let arguments ← arguments.settle
    if arguments.dryRun then throw .argumentConflict
    return { arguments with dryRun := true }
  | "help" => do
    if value?.isSome then throw .tooManyValues
    let _ ← arguments.settle
    throw .displayHelp
  | _ => .error .unknownArgument

/-- Takes short options. The value of one that needs it is what follows its letter, with or without
an equals sign. -/
def takeShort (arguments : GenerateArguments) : List Char → Except Refusal GenerateArguments
  | 'c' :: [] => arguments.takeOption .config none
  | 'c' :: '=' :: value => arguments.takeOption .config (some value)
  | 'c' :: value => arguments.takeOption .config (some value)
  | 'h' :: _ => do
    let _ ← arguments.settle
    throw .displayHelp
  | _ => .error .unknownArgument

/-- Takes an argument that is no option: only an option that waits has a use for it. -/
def takePlain (arguments : GenerateArguments) (argument : String) :
    Except Refusal GenerateArguments :=
  match arguments.waiting? with
  | some (option, none) => .ok { arguments with waiting? := some (option, some argument) }
  | _ => .error .unknownArgument

/-- Takes the arguments after `generate`. -/
def take (arguments : GenerateArguments) : List String → Except Refusal GenerateArguments
  | [] => arguments.settle
  | argument :: rest =>
    match Form.of argument with
    | .terminator => if rest.isEmpty then arguments.settle else .error .unknownArgument
    | .long name value? => do (← arguments.takeLong name value?).take rest
    | .short letters => do (← arguments.takeShort letters).take rest
    | .plain => do (← arguments.takePlain argument).take rest

/-- The command that the options make. -/
def command (arguments : GenerateArguments) : GenerateCommand :=
  let default : GenerateCommand := {}
  { config := arguments.config?.getD default.config
    dryRun := arguments.dryRun
    extensions := arguments.extensions?.getD default.extensions }

end GenerateArguments

/-- What follows the word `help`: at most one command. -/
def readHelp : List String → Refusal
  | [] => .displayHelp
  | ["help"] => .displayHelp
  | ["generate"] => .displayHelp
  | _ => .invalidSubcommand

/-- Takes the short options in front of a command. -/
def takeShort (verbose : Bool) : List Char → Except Refusal Bool
  | [] => .ok verbose
  | 'v' :: rest => if verbose then .error .argumentConflict else takeShort true rest
  | 'h' :: _ => .error .displayHelp
  | 'V' :: _ => .error .displayVersion
  | _ => .error .unknownArgument

/-- Takes a long option in front of a command. -/
def takeLong (verbose : Bool) (name : List Char) (value? : Option (List Char)) :
    Except Refusal Bool :=
  let known := ["verbose", "help", "version"].contains (String.ofList name)
  if !known then .error .unknownArgument
  else if value?.isSome then .error .tooManyValues
  else
    match String.ofList name with
    | "help" => .error .displayHelp
    | "version" => .error .displayVersion
    | _ => if verbose then .error .argumentConflict else .ok true

/-- What follows two dashes in front of a command. No command can follow. -/
def readTerminated (verbose : Bool) : List String → Except Refusal Invocation
  | [] => .ok { verbose }
  | argument :: _ =>
    .error (if ["generate", "help"].contains argument then .unknownArgument
      else .invalidSubcommand)

/-- Reads a command line, `verbose` having been asked for already or not. -/
def readFrom (verbose : Bool) : List String → Except Refusal Invocation
  | [] => .ok { verbose }
  | argument :: rest =>
    match Form.of argument with
    | .terminator => readTerminated verbose rest
    | .long name value? => do readFrom (← takeLong verbose name value?) rest
    | .short letters => do readFrom (← takeShort verbose letters) rest
    | .plain =>
      match argument with
      | "generate" => do
        let arguments ← ({} : GenerateArguments).take rest
        return { verbose, command? := some arguments.command }
      | "help" => .error (readHelp rest)
      | _ => .error .invalidSubcommand

/-- Reads the arguments after the name of the program. -/
def read (arguments : List String) : Except Refusal Invocation := readFrom false arguments

end SchemaBindings.CommandLine

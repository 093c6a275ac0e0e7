import WsTrust.Configuration

/-!
# Invocations

What the arguments of the program ask for.  Options that belong to the whole
program may stand before the command or after it; what stands after it goes
first.  An option takes the argument after it as its value, or what is attached
to it, and its value is looked at only when the next option, the next operand or
the end of the arguments is reached.
-/

namespace WsTrust.CommandLine

inductive Command where
  /-- Show the message in a file. -/
  | parse (file : String) (format : Option OutputFormat)
  /-- Say whether a namespace is known. -/
  | supports (namespaceUri : String)
  deriving DecidableEq, Repr

structure Invocation where
  configFile : Option String
  verbose : Bool
  command : Command
  deriving DecidableEq, Repr

inductive Stop where
  /-- The arguments cannot be understood. -/
  | usage
  /-- Help is asked for. -/
  | help
  /-- The version of the program, or of one of its commands, is asked for. -/
  | version (command : Option String)
  deriving DecidableEq, Repr

/-! ## Options -/

/-- Where options stand: before any command, or after one. -/
inductive Level where
  | program
  | parse
  | supports
  deriving DecidableEq, Repr

def Level.ofName? (name : String) : Option Level :=
  if name = "parse" then some .parse
  else if name = "supports" then some .supports
  else none

/-- The name of a command, none before any. -/
def Level.name? : Level → Option String
  | .program => none
  | .parse => some "parse"
  | .supports => some "supports"

inductive ValueOption where
  | config
  | output
  deriving DecidableEq, Repr

inductive Switch where
  | withValue (option : ValueOption)
  | verbose
  | help
  | version
  deriving DecidableEq, Repr

def Level.switches (level : Level) : List (String × Char × Switch) :=
  [("config", 'c', .withValue .config), ("verbose", 'v', .verbose),
    ("help", 'h', .help), ("version", 'V', .version)] ++
    (if level = .parse then [("output", 'o', .withValue .output)] else [])

def Level.long? (level : Level) (name : String) : Option Switch :=
  (level.switches.find? fun entry => entry.1 == name).map (·.2.2)

def Level.short? (level : Level) (name : Char) : Option Switch :=
  (level.switches.find? fun entry => entry.2.1 == name).map (·.2.2)

/-! ## Reading one level -/

structure Progress where
  configFile : Option String := none
  verbose : Bool := false
  format : Option OutputFormat := none
  operand : Option String := none
  /-- The option read last, with its value if it stands after it; it is not yet
  looked at. -/
  pending : Option (ValueOption × Option String) := none
  /-- Whether only operands follow. -/
  operandsOnly : Bool := false
  deriving DecidableEq, Repr

namespace Progress

/-- Whether the option read last still needs a value. -/
def awaitsValue (progress : Progress) : Bool :=
  progress.pending.any fun entry => entry.2.isNone

/-- Takes the value of an option, which may be given only once. -/
def assign (progress : Progress) (option : ValueOption) (value : String) :
    Except Stop Progress :=
  match option with
  | .config =>
      if value.isEmpty ∨ progress.configFile.isSome then
        .error .usage
      else
        .ok { progress with configFile := some value }
  | .output =>
      match OutputFormat.ofName? value, progress.format with
      | some format, none => .ok { progress with format := some format }
      | _, _ => .error .usage

/-- Looks at the option that was read last. -/
def settle (progress : Progress) : Except Stop Progress :=
  match progress.pending with
  | none => .ok progress
  | some (_, none) => .error .usage
  | some (option, some value) =>
      { progress with pending := none }.assign option value

/-- Takes an operand, of which a command has one.  The name of a file is not
empty. -/
def addOperand (level : Level) (progress : Progress) (operand : String) :
    Except Stop Progress :=
  if level = .program ∨ progress.operand.isSome then
    .error .usage
  else if level = .parse ∧ operand.isEmpty then
    .error .usage
  else do
    let settled ← progress.settle
    return { settled with operand := some operand }

/-- Takes an option, with the value that is attached to it. -/
def addSwitch (level : Level) (progress : Progress) (switch : Switch)
    (attached : Option String) : Except Stop Progress :=
  match switch, attached with
  | .withValue option, some value => do
      (← progress.settle).assign option value
  | .withValue option, none => do
      return { ← progress.settle with pending := some (option, none) }
  | _, some _ => .error .usage
  | .verbose, none => do
      let settled ← progress.settle
      if settled.verbose then
        throw .usage
      else
        return { settled with verbose := true }
  | .help, none => do
      let _ ← progress.settle
      throw .help
  | .version, none => do
      let _ ← progress.settle
      throw (.version level.name?)

/-- Takes the short options of one argument.  What follows one that takes a
value is attached to it, an equals sign being left out. -/
def addShort (level : Level) (progress : Progress) :
    List Char → Except Stop Progress
  | [] => .ok progress
  | name :: rest =>
      match level.short? name with
      | none => .error .usage
      | some (.withValue option) =>
          let attached :=
            match rest with
            | [] => none
            | '=' :: value => some (String.ofList value)
            | value => some (String.ofList value)
          progress.addSwitch level (.withValue option) attached
      | some switch => do
          (← progress.addSwitch level switch none).addShort level rest

/-- Takes a long option, with a value after an equals sign. -/
def addLong (level : Level) (progress : Progress) (characters : List Char) :
    Except Stop Progress :=
  let name := characters.takeWhile (· != '=')
  let attached :=
    match characters.dropWhile (· != '=') with
    | [] => none
    | _ :: value => some (String.ofList value)
  match level.long? (String.ofList name) with
  | some switch => progress.addSwitch level switch attached
  | none => .error .usage

def add (level : Level) (progress : Progress) (argument : String) :
    Except Stop Progress :=
  if progress.operandsOnly then
    progress.addOperand level argument
  else
    match argument.toList with
    | ['-', '-'] => .ok { progress with operandsOnly := true }
    | '-' :: '-' :: characters => progress.addLong level characters
    | '-' :: c :: rest => progress.addShort level (c :: rest)
    | _ =>
        match progress.pending with
        | some (option, none) =>
            .ok { progress with pending := some (option, some argument) }
        | _ => progress.addOperand level argument

/-- Settles what was read at one level and takes the configuration file from
the environment, unless the arguments name one. -/
def finish (environmentFile : Option String) (progress : Progress) :
    Except Stop Progress := do
  let settled ← progress.settle
  match environmentFile, settled.configFile with
  | some "", none => throw .usage
  | _, _ => return settled

end Progress

/-- Reads the arguments after the name of a command. -/
def readCommand (environmentFile : Option String) (level : Level)
    (arguments : List String) : Except Stop Progress := do
  (← arguments.foldlM (Progress.add level) {}).finish environmentFile

def Progress.command (level : Level) (progress : Progress) :
    Except Stop Command :=
  match level, progress.operand with
  | .parse, some file => .ok (.parse file progress.format)
  | .supports, some namespaceUri => .ok (.supports namespaceUri)
  | _, _ => .error .usage

/-- Reads arguments from the first one that belongs to the whole program. -/
def readProgram (environmentFile : Option String) (progress : Progress) :
    List String → Except Stop Invocation
  | [] => .error .usage
  | argument :: rest =>
      let isOperand := progress.operandsOnly || progress.awaitsValue
      match if isOperand then none else Level.ofName? argument with
      | some level => do
          let inner ← readCommand environmentFile level rest
          let command ← inner.command level
          let outer ← progress.finish environmentFile
          return {
            configFile :=
              (inner.configFile.or outer.configFile).or environmentFile
            verbose := inner.verbose || outer.verbose
            command }
      | none =>
          if argument = "help" ∧ !isOperand then
            .error
              (match rest with
              | [] => .help
              | [name] =>
                  if name = "help" ∨ (Level.ofName? name).isSome then .help
                  else .usage
              | _ => .usage)
          else do
            let progress ← progress.add .program argument
            readProgram environmentFile progress rest

/-- Reads the arguments of the program.  `environmentFile` is the configuration
file that the environment names. -/
def Invocation.read (environmentFile : Option String)
    (arguments : List String) : Except Stop Invocation :=
  readProgram environmentFile {} arguments

end WsTrust.CommandLine

import ModelHub.Text.Split

/-!
# Command lines

A command line consists of levels: the program, its command, perhaps a command of that one. Each
level has options, and operands or further commands. Options may stand anywhere within their
level; a value follows its option, after an equals sign or as the next argument; short options may
be run together; and after `--` every argument is an operand.
-/

namespace ModelHub.CommandLine

/-- What an option is for: a flag is given once, a count any number of times; a value is given
once, values any number of times; the last two end the reading. -/
inductive Role where
  | flag
  | count
  | value
  | values
  | help
  | version
  deriving DecidableEq, Repr

def Role.takesValue : Role → Bool
  | .value | .values => true
  | _ => false

def Role.isSingle : Role → Bool
  | .flag | .value => true
  | _ => false

/-- An option: its long name, its short one if it has one, and the values that it accepts. -/
structure OptionSpec where
  long : String
  short : Option Char
  role : Role
  accepts : String → Bool

/-- A level of a command line: its options, how many operands it takes, at least and perhaps at
most, and its further commands. A level with commands takes no operands. -/
inductive Level where
  | mk (options : List OptionSpec) (least : Nat) (most : Option Nat)
      (commands : List (String × Level))

namespace Level

def options : Level → List OptionSpec
  | mk options _ _ _ => options

def least : Level → Nat
  | mk _ least _ _ => least

def most : Level → Option Nat
  | mk _ _ most _ => most

def commands : Level → List (String × Level)
  | mk _ _ _ commands => commands

def long? (level : Level) (name : String) : Option OptionSpec :=
  level.options.find? fun option => option.long = name

def short? (level : Level) (name : Char) : Option OptionSpec :=
  level.options.find? fun option => option.short = some name

end Level

/-- What was given in one level: options by their long names, with their values, and operands. -/
structure Given where
  options : List (String × String)
  operands : List String
  deriving DecidableEq, Repr

namespace Given

def nothing : Given := ⟨[], []⟩

def has (given : Given) (name : String) : Bool := given.options.any fun option => option.1 = name

/-- The values of an option, in the order in which they were given. -/
def values (given : Given) (name : String) : List String :=
  given.options.filterMap fun option => if option.1 = name then some option.2 else none

def value? (given : Given) (name : String) : Option String := (given.values name).head?

end Given

/-- Why reading ends early: the line is no command line, or it asks for help or for the version. -/
inductive Stop where
  | misuse
  | help
  | version
  deriving DecidableEq, Repr

/-- Adds an option that was given, unless it is one too many or its value is not accepted. -/
def addOption (given : Given) (option : OptionSpec) (value : String) : Except Stop Given :=
  match option.role with
  | .help => .error .help
  | .version => .error .version
  | role =>
    if role.isSingle && given.has option.long then .error .misuse
    else if role.takesValue && !option.accepts value then .error .misuse
    else .ok { given with options := given.options ++ [(option.long, value)] }

/-- What an argument does within a level. -/
inductive Effect where
  | complete (given : Given)
  | awaiting (given : Given) (option : OptionSpec)

/-- A long option, after its dashes. Only an option that takes a value may have one attached. -/
def readLong (level : Level) (given : Given) (body : List Char) : Except Stop Effect :=
  let parts :=
    match Text.splitFirst '=' body with
    | none => (body, none)
    | some (name, value) => (name, some (String.ofList value))
  match level.long? (String.ofList parts.1), parts.2 with
  | none, _ => .error .misuse
  | some option, none =>
    if option.role.takesValue then .ok (.awaiting given option)
    else (addOption given option "").map .complete
  | some option, some value =>
    if option.role.takesValue then (addOption given option value).map .complete
    else .error .misuse

/-- A row of short options, after its dash. What follows an option that takes a value is its
value, with or without an equals sign. -/
def readShorts (level : Level) : Given → List Char → Except Stop Effect
  | given, [] => .ok (.complete given)
  | given, name :: rest =>
    match level.short? name with
    | none => .error .misuse
    | some option =>
      if option.role.takesValue then
        match rest with
        | [] => .ok (.awaiting given option)
        | '=' :: value => (addOption given option (String.ofList value)).map .complete
        | value => (addOption given option (String.ofList value)).map .complete
      else
        match addOption given option "" with
        | .error stop => .error stop
        | .ok given => readShorts level given rest

/-- The argument can only be an option, or the mark after which there are none. -/
def isOptionLike (argument : String) : Bool :=
  match argument.toList with
  | '-' :: _ :: _ => true
  | _ => false

def Level.descend? (level : Level) : List String → Option Level
  | [] => some level
  | name :: rest =>
    match level.commands.lookup name with
    | none => none
    | some next => next.descend? rest

def helpCommand : String := "help"

/-- Asks for help on a command. -/
def askHelp (level : Level) (names : List String) : Stop :=
  if (level.descend? names).isSome then .help else .misuse

/-- Closes a level: it needs its operands, and a command if it has any. -/
def close (level : Level) (given : Given) : Except Stop Given :=
  let count := given.operands.length
  if !level.commands.isEmpty then .error .misuse
  else if count < level.least then .error .misuse
  else
    match level.most with
    | none => .ok given
    | some most => if most < count then .error .misuse else .ok given

/-- What was given from an argument on: for every level its command's name, empty for the program
itself, and what was given there. -/
def readLevel (name : String) :
    Level → Given → List String → Except Stop (List (String × Given))
  | level, given, [] => (close level given).map fun given => [(name, given)]
  | level, given, argument :: rest =>
    match argument.toList with
    | ['-', '-'] =>
      (close level { given with operands := given.operands ++ rest }).map fun given =>
        [(name, given)]
    | '-' :: first :: body =>
      let effect :=
        if first = '-' then readLong level given body else readShorts level given (first :: body)
      match effect with
      | .error stop => .error stop
      | .ok (.complete given) => readLevel name level given rest
      | .ok (.awaiting given option) =>
        match rest with
        | [] => .error .misuse
        | value :: rest =>
          if isOptionLike value then .error .misuse
          else
            match addOption given option value with
            | .error stop => .error stop
            | .ok given => readLevel name level given rest
    | _ =>
      if level.commands.isEmpty then
        readLevel name level { given with operands := given.operands ++ [argument] } rest
      else if argument = helpCommand then .error (askHelp level rest)
      else
        match level.commands.lookup argument with
        | none => .error .misuse
        | some next =>
          (readLevel argument next Given.nothing rest).map fun found => (name, given) :: found

def read (program : Level) (arguments : List String) : Except Stop (List (String × Given)) :=
  readLevel "" program Given.nothing arguments

end ModelHub.CommandLine

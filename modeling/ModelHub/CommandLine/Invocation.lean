import ModelHub.CommandLine.Grammar
import ModelHub.Hub
import ModelHub.Message
import ModelHub.Text.Digits

/-!
# Invocations

What can be asked of the program on its command line: plan, sync and list models, resolve
requests, describe or delete a model, and create, describe or delete the hub.
-/

namespace ModelHub

/-- How a listing is written. -/
inductive OutputFormat where
  | table
  | json
  | headerlessTable
  deriving DecidableEq, Repr

namespace OutputFormat

def name : OutputFormat → String
  | .table => "table"
  | .json => "json"
  | .headerlessTable => "headerless-table"

def ofName? (text : String) : Option OutputFormat :=
  [OutputFormat.table, .json, .headerlessTable].find? fun format => format.name = text

end OutputFormat

/-- Where hub and catalog are, as far as the command line says so. -/
structure Sources where
  hub : Option String
  manifest : Option String
  deriving DecidableEq, Repr

/-- What a plan is asked for. -/
structure PlanOptions where
  specs : List String
  modelsFile : Option String
  listing : Option String
  skipUnresolved : Bool
  sources : Sources
  format : OutputFormat
  deriving DecidableEq, Repr

/-- What a sync is asked for. -/
structure SyncOptions where
  plan : PlanOptions
  dryRun : Bool
  maxConcurrency : Option Nat
  deriving DecidableEq, Repr

/-- What a listing is asked for. -/
structure ListOptions where
  all : Bool
  listing : Option String
  sources : Sources
  format : OutputFormat
  deriving DecidableEq, Repr

/-- Which requests are to be resolved. -/
structure ResolveOptions where
  specs : List String
  sources : Sources
  format : OutputFormat
  deriving DecidableEq, Repr

/-- Which model of the hub is meant. -/
structure ModelOptions where
  model : String
  version : Option String
  sources : Sources
  deriving DecidableEq, Repr

/-- What the program is asked to do. -/
inductive Command where
  | plan (options : PlanOptions)
  | sync (options : SyncOptions)
  | list (options : ListOptions)
  | resolve (options : ResolveOptions)
  | describe (options : ModelOptions)
  | delete (options : ModelOptions)
  | createHub (settings : HubSettings) (sources : Sources)
  | describeHub (sources : Sources)
  | deleteHub (sources : Sources)
  deriving DecidableEq, Repr

/-- A command with what is said for all of them. -/
structure Invocation where
  color : ColorChoice
  configPath : Option String
  command : Command
  deriving DecidableEq, Repr

namespace Invocation

open CommandLine

/-! ## Values -/

/-- Numbers on the command line lie below this bound. -/
def countBound : Nat := Nat.pow 2 64

/-- The number that a text denotes; it may have a plus sign. -/
def readCount? (text : String) : Option Nat :=
  let digits :=
    match text.toList with
    | '+' :: rest => rest
    | digits => digits
  if !digits.isEmpty && digits.all Char.isDigit && decide (Text.ofDigits digits < countBound) then
    some (Text.ofDigits digits)
  else none

/-- A tag of the hub, written with an equals sign between key and value. Both are trimmed, and the
key may not be blank. -/
def readTag? (text : String) : Option (String × String) :=
  match Text.splitFirst '=' text.toList with
  | none => none
  | some (key, value) =>
    let key := Text.trimBoth key
    if key.isEmpty then none
    else some (String.ofList key, String.ofList (Text.trimBoth value))

/-- The words in which a tag is refused; it is quoted as it was given. -/
def tagMessage (text : String) : String := s!"tag \"{text}\" is not of the form KEY=VALUE"

/-! ## Grammar -/

def textOption (long : String) (role : Role) : OptionSpec := ⟨long, none, role, fun _ => true⟩

def fileOption (long : String) (short : Option Char) : OptionSpec :=
  ⟨long, short, .value, fun value => value ≠ ""⟩

def flagOption (long : String) (short : Option Char) : OptionSpec :=
  ⟨long, short, .flag, fun _ => true⟩

def commonOptions : List OptionSpec :=
  [⟨"color", none, .value, fun value => (ColorChoice.ofName? value).isSome⟩,
    fileOption "config" none, ⟨"verbose", some 'v', .count, fun _ => true⟩,
    ⟨"help", some 'h', .help, fun _ => true⟩]

def sourceOptions : List OptionSpec := [textOption "hub" .value, textOption "manifest" .value]

def formatOption : OptionSpec :=
  ⟨"format", some 'f', .value, fun value => (OutputFormat.ofName? value).isSome⟩

def planOptions : List OptionSpec :=
  commonOptions ++ sourceOptions ++
    [fileOption "models" (some 'm'), fileOption "listing" none,
      flagOption "skip-unresolved" none, formatOption]

def syncOptions : List OptionSpec :=
  planOptions ++
    [flagOption "dry-run" none,
      ⟨"max-concurrency", none, .value, fun value => (readCount? value).isSome⟩]

def listOptions : List OptionSpec :=
  commonOptions ++ sourceOptions ++
    [flagOption "all" (some 'a'), fileOption "listing" none, formatOption]

def creationOptions : List OptionSpec :=
  commonOptions ++ sourceOptions ++
    [textOption "description" .value, textOption "display-name" .value,
      textOption "search-keyword" .values, textOption "bucket" .value,
      ⟨"tag", none, .values, fun value => (readTag? value).isSome⟩]

def hubCommands : List (String × Level) :=
  let target := Level.mk (commonOptions ++ sourceOptions) 0 (some 0) []
  [("create", .mk creationOptions 0 (some 0) []), ("describe", target), ("delete", target)]

def commands : List (String × Level) :=
  let model := Level.mk (commonOptions ++ sourceOptions) 1 (some 2) []
  [("plan", .mk planOptions 0 none []), ("sync", .mk syncOptions 0 none []),
    ("list", .mk listOptions 0 (some 0) []),
    ("resolve", .mk (commonOptions ++ sourceOptions ++ [formatOption]) 1 none []),
    ("describe", model), ("delete", model), ("hub", .mk commonOptions 0 (some 0) hubCommands)]

def program : Level :=
  .mk (commonOptions ++ [⟨"version", some 'V', .version, fun _ => true⟩]) 0 (some 0) commands

/-! ## Reading -/

def sourcesOf (given : Given) : Sources := ⟨given.value? "hub", given.value? "manifest"⟩

def formatOf (given : Given) : OutputFormat :=
  ((given.value? "format").bind OutputFormat.ofName?).getD .table

def planOf (given : Given) : PlanOptions :=
  { specs := given.operands
    modelsFile := given.value? "models"
    listing := given.value? "listing"
    skipUnresolved := given.has "skip-unresolved"
    sources := sourcesOf given
    format := formatOf given }

def modelOf? (given : Given) : Option ModelOptions :=
  match given.operands with
  | [] => none
  | model :: rest => some ⟨model, rest.head?, sourcesOf given⟩

/-- What a new hub is created with; it needs a description. -/
def settingsOf? (given : Given) : Option HubSettings :=
  (given.value? "description").map fun description =>
    { description := description
      displayName := given.value? "display-name"
      searchKeywords := given.values "search-keyword"
      bucket := given.value? "bucket"
      tags := (given.values "tag").filterMap readTag? }

/-- The command that the names of the levels give, with what was given in the last one. -/
def commandOf? (names : List String) (given : Given) : Option Command :=
  match names with
  | ["plan"] => some (.plan (planOf given))
  | ["sync"] =>
    some (.sync
      { plan := planOf given
        dryRun := given.has "dry-run"
        maxConcurrency := (given.value? "max-concurrency").bind readCount? })
  | ["list"] =>
    some (.list
      { all := given.has "all"
        listing := given.value? "listing"
        sources := sourcesOf given
        format := formatOf given })
  | ["resolve"] => some (.resolve ⟨given.operands, sourcesOf given, formatOf given⟩)
  | ["describe"] => (modelOf? given).map .describe
  | ["delete"] => (modelOf? given).map .delete
  | ["hub", "create"] =>
    (settingsOf? given).map fun settings => .createHub settings (sourcesOf given)
  | ["hub", "describe"] => some (.describeHub (sourcesOf given))
  | ["hub", "delete"] => some (.deleteHub (sourcesOf given))
  | _ => none

/-- The value of an option that every level has, as the innermost level gives it. -/
def commonValue? (levels : List (String × Given)) (name : String) : Option String :=
  (levels.filterMap fun level => level.2.value? name).getLast?

def ofLevels? (levels : List (String × Given)) : Option Invocation :=
  match levels.getLast? with
  | none => none
  | some (_, given) =>
    (commandOf? ((levels.drop 1).map (·.1)) given).map fun command =>
      { color := ((commonValue? levels "color").bind ColorChoice.ofName?).getD .auto
        configPath := commonValue? levels "config"
        command := command }

def read (arguments : List String) : Except Stop Invocation :=
  match CommandLine.read program arguments with
  | .error stop => .error stop
  | .ok levels =>
    match ofLevels? levels with
    | none => .error .misuse
    | some invocation => .ok invocation

end Invocation

end ModelHub

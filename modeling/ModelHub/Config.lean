import ModelHub.Dispatch
import ModelHub.Failure
import ModelHub.Toml.Document
import ModelHub.Toml.Surplus

/-!
# Configuration

The configuration names the hub, the catalog and how models are synced. It is a TOML document with
a section for each. A section is a table; it may also be written as the array of its fields.
Keys that are not known are reported and otherwise ignored; a known key has to have a value of its
kind.
-/

namespace ModelHub

/-- Where the hub is. -/
structure HubConfig where
  name : Option String
  apiBase : Option String
  deriving DecidableEq, Repr

/-- Where the catalog is. -/
structure CatalogConfig where
  manifestUrl : Option String
  manifestPath : Option String
  deriving DecidableEq, Repr

/-- How models are synced. -/
structure SyncConfig where
  maxConcurrency : Nat
  dryRun : Bool
  deriving DecidableEq, Repr

/-- The configuration of a run. -/
structure Config where
  hub : HubConfig
  catalog : CatalogConfig
  sync : SyncConfig
  deriving DecidableEq, Repr

namespace Config

def default : Config :=
  { hub := ⟨none, none⟩, catalog := ⟨none, none⟩, sync := ⟨Dispatch.defaultLimit, false⟩ }

/-- The sections with the names of their fields, in the order in which an array gives them. -/
def sections : List (String × List String) :=
  [("hub", ["name", "api_base"]), ("catalog", ["manifest_url", "manifest_path"]),
    ("sync", ["max_concurrency", "dry_run"])]

def fieldNames? (name : String) : Option (List String) := sections.lookup name

/-! ## Reading -/

/-- The values of the fields of a section, in their order. A section that is missing, or that
holds a time, sets no field; an array has to set as many fields as are required, and what it holds
beyond them is ignored. -/
def sectionFields? (required : Nat) (names : List String) :
    Option Toml → Option (List (Option Toml))
  | none => some (names.map fun _ => none)
  | some (.time _) => some (names.map fun _ => none)
  | some (.table entries) => some (names.map fun name => entries.lookup name)
  | some (.array items) =>
    if items.length < required then none
    else some ((List.range names.length).map fun index => items[index]?)
  | some _ => none

/-- The text of a field; it may be missing. -/
def textField? : Option Toml → Option (Option String)
  | none => some none
  | some (.string text) => some (some text)
  | some _ => none

def countField? (absent : Nat) : Option Toml → Option Nat
  | none => some absent
  | some (.integer value) => if 0 ≤ value then some value.toNat else none
  | some _ => none

/-- The truth value in a field, or one to use in its absence. -/
def flagField? (absent : Bool) : Option Toml → Option Bool
  | none => some absent
  | some (.boolean value) => some value
  | some _ => none

/-- The two texts of a section; an array gives both. -/
def textSection? (names : List String) (value : Option Toml) :
    Option (Option String × Option String) :=
  match sectionFields? 2 names value with
  | some [first, second] =>
    match textField? first, textField? second with
    | some first, some second => some (first, second)
    | _, _ => none
  | _ => none

/-- The section on syncing; an array may give less than all. -/
def syncSection? (names : List String) (value : Option Toml) : Option SyncConfig :=
  match sectionFields? 0 names value with
  | some [maxConcurrency, dryRun] =>
    match countField? Dispatch.defaultLimit maxConcurrency, flagField? false dryRun with
    | some maxConcurrency, some dryRun => some ⟨maxConcurrency, dryRun⟩
    | _, _ => none
  | _ => none

/-- The configuration that a document gives, if its sections are what they should be. -/
def ofEntries? (entries : List (String × Toml)) : Option Config :=
  let names := fun name => (fieldNames? name).getD []
  match textSection? (names "hub") (entries.lookup "hub"),
      textSection? (names "catalog") (entries.lookup "catalog"),
      syncSection? (names "sync") (entries.lookup "sync") with
  | some hub, some catalog, some sync => some ⟨⟨hub.1, hub.2⟩, ⟨catalog.1, catalog.2⟩, sync⟩
  | _, _, _ => none

/-! ## Keys that are not known -/

/-- The fields of a section that are set, each under its name. -/
def setFields (names : List String) (fields : List (Option Toml)) : List (String × Toml) :=
  (names.zip fields).filterMap fun field => field.2.map fun value => (field.1, value)

/-- A section as an entry of a document. -/
def writtenSection (name : String) (fields : List (Option Toml)) : String × Toml :=
  (name, .table (setFields ((fieldNames? name).getD []) fields))

/-- The document that a configuration is written as, if its count is within the bound of an
integer. -/
def toEntries? (config : Config) : Option (List (String × Toml)) :=
  (Toml.integer? false config.sync.maxConcurrency).map fun maxConcurrency =>
    [writtenSection "hub" [config.hub.name.map .string, config.hub.apiBase.map .string],
      writtenSection "catalog"
        [config.catalog.manifestUrl.map .string, config.catalog.manifestPath.map .string],
      writtenSection "sync" [some maxConcurrency, some (.boolean config.sync.dryRun)]]

/-- The keys that a document brings in vain, with dots between their parts: those that it has beyond
what its configuration is written as. -/
def extraneous? (config : Config) (entries : List (String × Toml)) : Option (List String) :=
  config.toEntries?.map fun own =>
    (Toml.surplus (.table entries) (.table own)).map (String.intercalate ".")

def extraneousMessage (key : String) : String :=
  s!"config contains extraneous key \"{key}\", ignoring"

/-! ## Files -/

/-- Why there is no configuration. -/
inductive Error where
  | unreadable (path : String) (fault : FileFault)
  | malformed
  deriving DecidableEq, Repr

def Error.message : Error → String
  | .unreadable path fault => "failed to read config " ++ path ++ ": " ++ fault.message
  | .malformed => "failed to parse config: " ++ malformedText

/-- The configuration that a document gives, and the keys that it brings in vain. -/
def ofDocument? (entries : List (String × Toml)) : Option (Config × List String) :=
  match ofEntries? entries with
  | none => none
  | some config => (config.extraneous? entries).map fun keys => (config, keys)

/-- The configuration in a text, and the keys that it brings in vain. -/
def parse? (text : String) : Option (Config × List String) :=
  (Toml.parse? text).bind ofDocument?

/-- The configuration that a file at a path holds, if its text is available. -/
def ofFile (path : String) (file : Except FileFault String) :
    Except Error (Config × List String) :=
  match file with
  | .error fault => .error (.unreadable path fault)
  | .ok text =>
    match parse? text with
    | none => .error .malformed
    | some found => .ok found

/-- The files in the home directory that may hold the configuration; the first one that is there
is used. -/
def userPaths : List String := [".config/hubsync/config.toml", ".hubsync.toml"]

/-- The file that holds the configuration when the user has none. -/
def systemPath : String := "/etc/hubsync.toml"

/-- A path below a directory; below no directory it stays as it is. -/
def below (directory path : String) : String :=
  if directory = "" then path
  else if directory.toList.getLast? = some '/' then directory ++ path
  else directory ++ "/" ++ path

/-- The files that may hold the configuration, in the order in which they are looked for. -/
def candidatePaths (home : Option String) : List String :=
  (match home with
    | none => []
    | some home => userPaths.map (below home)) ++ [systemPath]

end Config

end ModelHub

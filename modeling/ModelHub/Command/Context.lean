import ModelHub.Catalog
import ModelHub.CommandLine.Invocation
import ModelHub.Config
import ModelHub.ModelList
import ModelHub.Report

/-!
# The context of a command

What every command starts from: how messages are painted, the configuration, and from both the
hub and the catalog that are meant. The command line comes before the configuration. A command
that cannot go on says why and ends the session with the exit code of a failure.
-/

namespace ModelHub

/-- What a command starts from. The limit bounds the pages of a listing. -/
structure Context where
  color : Color
  config : Config
  pageLimit : Nat

def failureCode : Nat := 1

namespace Context

variable {α : Type}

def error (context : Context) (text : String) : Session Unit :=
  Session.report (Severity.error.format context.color text)

def warn (context : Context) (text : String) : Session Unit :=
  Session.report (Severity.warning.format context.color text)

def die (context : Context) (text : String) : Session α := do
  context.error text
  Session.exit failureCode

/-- Goes on with a result, or ends the session with the words for its error. -/
def require {ε : Type} (context : Context) (words : ε → String) :
    Except ε α → Session α
  | .ok value => pure value
  | .error reason => context.die (words reason)

/-! ## The catalog -/

def isServiceUrl (location : String) : Bool :=
  Text.beginsWith "http://" location || Text.beginsWith "https://" location

def catalogInFile (context : Context) (path : String) : Session Catalog := do
  let file ← Session.readFile path
  let manifest ← context.require Cause.message (Manifest.ofFile path file)
  pure (.saved manifest)

def catalogAt (context : Context) (location : String) : Session Catalog :=
  if isServiceUrl location then
    context.require
      (fun failure => s!"catalog manifest URL \"{location}\" is invalid: " ++ failure.message)
      (Catalog.connect location)
  else context.catalogInFile location

def noCatalogMessage : String :=
  "no upstream catalog is configured, set catalog.manifest_url in the config or pass --manifest"

def catalog (context : Context) (sources : Sources) : Session Catalog :=
  match sources.manifest, context.config.catalog.manifestUrl,
      context.config.catalog.manifestPath with
  | some location, _, _ => context.catalogAt location
  | none, some url, _ => context.catalogAt url
  | none, none, some path => context.catalogInFile path
  | none, none, none => context.die noCatalogMessage

/-! ## The hub -/

def noHubMessage : String := "no hub is configured, set hub.name in the config or pass --hub"

/-- What is said when the hub is configured without the base of its API. -/
def noApiBaseMessage : String :=
  "the hub API base is not configured, set hub.api_base in the config"

def hub (context : Context) (sources : Sources) : Session Hub :=
  match sources.hub.or context.config.hub.name, context.config.hub.apiBase with
  | none, _ => context.die noHubMessage
  | some _, none => context.die noApiBaseMessage
  | some name, some apiBase =>
    context.require
      (fun failure => s!"hub API base \"{apiBase}\" is invalid: " ++ failure.message)
      (Hub.connect apiBase name)

/-! ## Requests -/

def noRequestsMessage : String := "no models were requested, pass model ids or --models FILE"

def requestsInFile (context : Context) (path : String) : Session (List Request) := do
  let file ← Session.readFile path
  context.require ModelList.Error.message (ModelList.ofFile path file)

/-- The requests that model specs make, followed by those in a models file; there has to be
one. -/
def requests (context : Context) (specs : List String) (modelsFile : Option String) :
    Session (List Request) := do
  let fromSpecs ← context.require Request.SpecError.message (Request.ofSpecs specs)
  let fromFile ←
    match modelsFile with
    | none => pure []
    | some path => context.requestsInFile path
  let requests := fromSpecs ++ fromFile
  if requests.isEmpty then context.die noRequestsMessage else pure requests

/-! ## Output -/

def showReport (format : OutputFormat) (report : Report) : Session Unit :=
  Session.print (report.render format)

def showDocument (document : Json) : Session Unit := Session.print (document.pretty ++ "\n")

end Context

end ModelHub

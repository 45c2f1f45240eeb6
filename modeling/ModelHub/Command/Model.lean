import ModelHub.Command.Context

/-!
# Models and hubs

Commands on one model of the hub, and on the hub itself. A model is meant at a version; where none
is given it is the latest one of the catalog.
-/

namespace ModelHub.Context

/-! ## Models -/

def requestOf (options : ModelOptions) : Request :=
  match options.version with
  | some version => ⟨options.model, version⟩
  | none => Request.latest options.model

def modelVersion (context : Context) (options : ModelOptions) : Session String := do
  let request := requestOf options
  if request.isLatest then
    let catalog ← context.catalog options.sources
    let resolved ← Resolution.resolve catalog.latest request
    let request ← context.require ResolveError.message resolved
    pure request.version
  else pure request.version

def modelFailedMessage (verb model version : String) (failure : Failure) : String :=
  s!"failed to {verb} \"{model}\" version {version}: " ++ failure.message

def describe (context : Context) (options : ModelOptions) : Session Unit := do
  let hub ← context.hub options.sources
  let version ← context.modelVersion options
  let described ← hub.describeModel options.model version
  let description ←
    context.require (modelFailedMessage "describe" options.model version) described
  Session.report s!"{description.name} version {description.version}"
  showDocument description.document

def delete (context : Context) (options : ModelOptions) : Session Unit := do
  let hub ← context.hub options.sources
  let version ← context.modelVersion options
  let deleted ← hub.deleteModel options.model version
  context.require (modelFailedMessage "delete" options.model version) deleted
  Session.report s!"deleted \"{options.model}\" version {version}"

/-! ## Hubs -/

def hubFailedMessage (verb name : String) (failure : Failure) : String :=
  s!"failed to {verb} hub \"{name}\": " ++ failure.message

def createHub (context : Context) (settings : HubSettings) (sources : Sources) :
    Session Unit := do
  let hub ← context.hub sources
  let created ← hub.create settings
  let document ← context.require (hubFailedMessage "create" hub.name) created
  showDocument document

def describeHub (context : Context) (sources : Sources) : Session Unit := do
  let hub ← context.hub sources
  let described ← hub.describe
  let document ← context.require (hubFailedMessage "describe" hub.name) described
  showDocument document

def deleteHub (context : Context) (sources : Sources) : Session Unit := do
  let hub ← context.hub sources
  let deleted ← hub.delete
  context.require (hubFailedMessage "delete" hub.name) deleted
  Session.report s!"deleted hub \"{hub.name}\""

end ModelHub.Context

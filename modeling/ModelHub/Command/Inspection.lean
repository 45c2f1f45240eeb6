import ModelHub.Command.Context

/-!
# Listing and resolving

`list` shows the models in the hub, and `resolve` the versions that requests come to. Neither
changes anything.
-/

namespace ModelHub.Context

/-! ## Listing -/

/-- The records of the hub that is meant, or of a saved listing. -/
def listedRecords (context : Context) (options : ListOptions) :
    Session (Except Failure (List Record)) :=
  match options.listing with
  | some path => do
    let file ← Session.readFile path
    pure ((Listing.ofFile path file).mapError Listing.failureOf)
  | none => do
    let hub ← context.hub options.sources
    hub.listRecords context.pageLimit

def listFailedMessage (failure : Failure) : String :=
  "failed to list hub contents: " ++ failure.message

def list (context : Context) (options : ListOptions) : Session Unit := do
  let listed ← context.listedRecords options
  let records ← context.require listFailedMessage listed
  showReport options.format (Report.ofListed (ListedModel.ofRecords options.all records))

/-! ## Resolving -/

/-- Reports the requests that could not be resolved and gives the others. -/
def collectResolved (context : Context) :
    List (Request × Except ResolveError Request) → Session (List ResolvedModel)
  | [] => pure []
  | (request, result) :: rest => do
    match result with
    | .ok resolved =>
      let models ← context.collectResolved rest
      pure (ResolvedModel.ofResolution request resolved :: models)
    | .error reason =>
      context.error reason.message
      context.collectResolved rest

/-- Shows the versions that requests come to. The run fails if one of them could not be
resolved. -/
def resolve (context : Context) (options : ResolveOptions) : Session Unit := do
  let requests ← context.requests options.specs none
  let catalog ← context.catalog options.sources
  let results ← Resolution.resolveAll catalog.latest requests
  let models ← context.collectResolved (requests.zip results)
  showReport options.format (Report.ofResolved models)
  if models.length < requests.length then Session.exit failureCode else pure ()

end ModelHub.Context

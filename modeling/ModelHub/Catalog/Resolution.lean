import ModelHub.Failure
import ModelHub.Request

/-!
# Resolving requests

A request that names a version stands as it is. A request for the latest version is looked up in
the catalog, once for every request: resolving the same model twice asks the catalog twice.
-/

namespace ModelHub

/-- Why the latest version of a model is not known. -/
inductive ResolveError where
  | notInCatalog (modelId : String)
  | lookupFailed (modelId : String) (failure : Failure)
  deriving DecidableEq, Repr

/-- The words for a version that is not known. -/
def ResolveError.message : ResolveError → String
  | .notInCatalog modelId => s!"model \"{modelId}\" was not found in the upstream catalog"
  | .lookupFailed modelId failure =>
    s!"failed to look up the latest version of \"{modelId}\": " ++ failure.message

namespace Resolution

/-- What the answer of the catalog makes of a request for the latest version. -/
def ofAnswer (request : Request) : Except Failure String → Except ResolveError Request
  | .ok version => .ok (request.withVersion version)
  | .error failure =>
    if failure.kind = .notFound then .error (.notInCatalog request.modelId)
    else .error (.lookupFailed request.modelId failure)

/-- Resolves a request by a lookup in the catalog. -/
def resolve {m : Type → Type} [Monad m] (lookup : String → m (Except Failure String))
    (request : Request) : m (Except ResolveError Request) :=
  if request.isLatest then do
    let answer ← lookup request.modelId
    pure (ofAnswer request answer)
  else pure (.ok request)

/-- Resolves requests one by one; a lookup that fails concerns its own request only. -/
def resolveAll {m : Type → Type} [Monad m] (lookup : String → m (Except Failure String)) :
    List Request → m (List (Except ResolveError Request))
  | [] => pure []
  | request :: rest => do
    let result ← resolve lookup request
    let results ← resolveAll lookup rest
    pure (result :: results)

end Resolution

end ModelHub

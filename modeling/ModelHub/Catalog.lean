import ModelHub.Catalog.Manifest
import ModelHub.Http.Client

/-!
# The catalog

The catalog is known by its manifest, either from a copy that was read once, or from the service
that publishes it. The service is asked anew for every lookup, so a lookup never answers with less
than what is published at that time.
-/

namespace ModelHub

/-- A catalog: a manifest at hand, or the URL where it is published. -/
inductive Catalog where
  | saved (manifest : Manifest)
  | published (url : Url)

namespace Catalog

def connect (url : String) : Except Failure Catalog :=
  match Url.parse url with
  | .error reason => .error (Failure.because .badRequest (.badUrl reason))
  | .ok url => .ok (.published url)

/-- Looks up the latest version of a model. -/
def latest : Catalog → String → Session (Except Failure String)
  | .saved manifest, modelId => pure (manifest.lookup modelId)
  | .published url, modelId => do
    match ← Http.askFor Manifest.parse? ⟨.get, url, none⟩ with
    | .error failure => pure (.error failure)
    | .ok manifest => pure (manifest.lookup modelId)

end Catalog

end ModelHub

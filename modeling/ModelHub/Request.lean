import ModelHub.Text.Blank
import ModelHub.Text.Split

/-!
# Requests

A request names a model of the catalog that the hub should carry, and the version of it. The
version `*`, a blank one and a missing one ask for whatever version the catalog lists as its
latest. On a command line a request is written as a model spec, the model id and, after the first
`@`, the version.
-/

namespace ModelHub

/-- A model and the version wanted of it. -/
structure Request where
  modelId : String
  version : String
  deriving DecidableEq, Repr

namespace Request

/-- The version that asks for the latest one. -/
def latestMark : String := "*"

/-- The request for the latest version of a model. -/
def latest (modelId : String) : Request := ⟨modelId, latestMark⟩

/-- A version asks for the latest one when nothing or the mark alone is left of it after
trimming. -/
def isLatestMark (version : String) : Bool :=
  let trimmed := Text.trim version
  trimmed = "" || trimmed = latestMark

/-- The version of this request still has to be looked up in the catalog. -/
def isLatest (request : Request) : Bool := isLatestMark request.version

/-- The same request at another version. -/
def withVersion (request : Request) (version : String) : Request :=
  { request with version := version }

/-- A request as a model spec; the latest version is always written with its mark. -/
def label (request : Request) : String :=
  request.modelId ++ "@" ++ (if request.isLatest then latestMark else request.version)

/-- Why a model spec is no request. -/
inductive SpecError where
  | emptyModelId (spec : String)
  deriving DecidableEq, Repr

/-- The words in which a refusal is reported; the spec is quoted as it was given. -/
def SpecError.message : SpecError → String
  | .emptyModelId spec => s!"model spec \"{spec}\" has an empty model id"

/-- The two halves of a model spec, trimmed. Without `@` the version is the latest mark. -/
def specHalves (spec : String) : List Char × List Char :=
  match Text.splitFirst '@' spec.toList with
  | some (modelId, version) => (Text.trimBoth modelId, Text.trimBoth version)
  | none => (Text.trimBoth spec.toList, latestMark.toList)

/-- Reads a model spec. An empty version asks for the latest one. -/
def ofSpec (spec : String) : Except SpecError Request :=
  let halves := specHalves spec
  if halves.1.isEmpty then .error (.emptyModelId spec)
  else
    .ok
      { modelId := String.ofList halves.1
        version := if halves.2.isEmpty then latestMark else String.ofList halves.2 }

/-- Reads model specs. The first one that is no request makes the others void. -/
def ofSpecs (specs : List String) : Except SpecError (List Request) := specs.mapM ofSpec

end Request

end ModelHub

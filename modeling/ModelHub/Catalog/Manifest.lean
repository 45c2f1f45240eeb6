import ModelHub.Failure
import ModelHub.Json.Shape
import ModelHub.Version

/-!
# The manifest of the catalog

The catalog publishes a manifest, a JSON array with an entry for every model and every version of
it. The latest version of a model is the highest one among its entries.
-/

namespace ModelHub

/-- One version of one model that the catalog lists. -/
structure ManifestEntry where
  modelId : String
  version : String
  deriving DecidableEq, Repr

/-- All entries of the catalog. -/
abbrev Manifest : Type := List ManifestEntry

namespace Manifest

/-- Reads an entry; it has to name both model and version. -/
def readEntry? (document : Json.Document) : Option ManifestEntry :=
  match Json.fields? ["model_id", "version"] document with
  | some [some modelId, some version] =>
    match Json.textField? modelId, Json.textField? version with
    | some modelId, some version => some ⟨modelId, version⟩
    | _, _ => none
  | _ => none

def parse? (text : String) : Option Manifest :=
  (Json.Document.read? text).bind (Json.listField? readEntry?)

/-- The versions that the manifest lists for a model, in its order. -/
def versionsOf (manifest : Manifest) (modelId : String) : List String :=
  (manifest.filter fun entry => entry.modelId = modelId).map (·.version)

def latest (manifest : Manifest) (modelId : String) : Except Cause String :=
  match versionsOf manifest modelId with
  | [] => .error (.modelNotListed modelId)
  | versions =>
    match Version.latest versions with
    | none => .error (.noValidVersion modelId)
    | some version => .ok version

/-- A model without a latest version is not found; a manifest that cannot be read is
unexpected. -/
def failureOf : Cause → Failure
  | .unreadableManifest path fault =>
    Failure.because .unexpectedResponse (.unreadableManifest path fault)
  | .malformedManifest => Failure.because .unexpectedResponse .malformedManifest
  | cause => Failure.because .notFound cause

def lookup (manifest : Manifest) (modelId : String) : Except Failure String :=
  (manifest.latest modelId).mapError failureOf

/-- The manifest that a file at a path holds, if its text is available. -/
def ofFile (path : String) (file : Except FileFault String) : Except Cause Manifest :=
  match file with
  | .error fault => .error (.unreadableManifest path fault)
  | .ok text =>
    match parse? text with
    | none => .error .malformedManifest
    | some manifest => .ok manifest

end Manifest

end ModelHub

import ModelHub.Failure
import ModelHub.Json.Shape
import ModelHub.Request

/-!
# Model lists

A model list is a file with requests: a JSON array whose items name a model and perhaps a version.
Nothing in it is trimmed or read as a model spec.
-/

namespace ModelHub

abbrev ModelList : Type := List Request

namespace ModelList

/-- Reads a request. A version that is missing or null asks for the latest one. -/
def readRequest? (document : Json.Document) : Option Request :=
  match Json.fields? ["model_id", "version"] document with
  | some [some modelId, version] =>
    match Json.textField? modelId, Json.optionalTextField? version with
    | some modelId, some version => some ⟨modelId, version.getD Request.latestMark⟩
    | _, _ => none
  | _ => none

def parse? (text : String) : Option ModelList :=
  (Json.Document.read? text).bind (Json.listField? readRequest?)

/-- Why there is no model list. -/
inductive Error where
  | unreadable (path : String) (fault : FileFault)
  | malformed (path : String)
  deriving DecidableEq, Repr

def Error.message : Error → String
  | .unreadable path fault => "failed to read model list " ++ path ++ ": " ++ fault.message
  | .malformed path => "failed to parse model list " ++ path ++ ": " ++ malformedText

/-- The model list that a file at a path holds, if its text is available. -/
def ofFile (path : String) (file : Except FileFault String) : Except Error ModelList :=
  match file with
  | .error fault => .error (.unreadable path fault)
  | .ok text =>
    match parse? text with
    | none => .error (.malformed path)
    | some requests => .ok requests

end ModelList

end ModelHub

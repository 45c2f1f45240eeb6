import ModelHub.Text.Blank
import ModelHub.Text.Split

/-!
# Tags

An entry of the hub that was copied from the catalog says so with two keywords, one with the id of
the model in the catalog and one with the version that was copied. Both have to be there exactly
once and with a value; anything else is no tag.
-/

namespace ModelHub

/-- The catalog model that a hub entry was copied from, at the version it had then. -/
structure Tag where
  modelId : String
  version : String
  deriving DecidableEq, Repr

namespace Tag

/-- The beginning of the keyword that names the model. -/
def modelIdStart : String := "@jumpstart-model-id:"

/-- The beginning of the keyword that names the version. -/
def versionStart : String := "@jumpstart-model-version:"

/-- What a keyword says after a beginning, trimmed, if it begins so. -/
def valueAfter? (start keyword : String) : Option String :=
  (Text.dropStart? start.toList keyword.toList).map fun rest =>
    String.ofList (Text.trimBoth rest)

/-- The only value, if there is exactly one and it is not empty. -/
def onlyValue? : List String → Option String
  | [value] => if value.isEmpty then none else some value
  | _ => none

/-- The tag that a row of keywords carries. -/
def ofKeywords? (keywords : List String) : Option Tag :=
  match onlyValue? (keywords.filterMap (valueAfter? modelIdStart)),
      onlyValue? (keywords.filterMap (valueAfter? versionStart)) with
  | some modelId, some version => some ⟨modelId, version⟩
  | _, _ => none

/-- The two keywords that carry a tag. -/
def keywords (tag : Tag) : List String :=
  [modelIdStart ++ tag.modelId, versionStart ++ tag.version]

end Tag

end ModelHub

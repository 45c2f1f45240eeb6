import ModelHub.Url.Parser

/-!
# Endpoints

An endpoint is a base URL with segments added to its path. A segment is added as text: nothing in
it can end the path, start a query or open a further segment.
-/

namespace ModelHub.Url

/-- The path of a base without one empty segment at its end, unless the path is a slash alone. -/
def trimFinalEmpty (path : List String) : List String :=
  if path.length > 1 ∧ path.getLast? = some "" then path.dropLast else path

/-- A path to which a segment is to be added: a slash alone takes the segment in place of its
empty one. -/
def openPath (path : List String) : List String :=
  if path = [""] then [] else path

/-- A segment as it is written in a path. Tabs and line ends are dropped. -/
def writeSegment (special : Bool) (segment : String) : List Char :=
  percentEncode (segmentReserved special)
    (segment.toList.filter fun character => !isDropped character)

/-- Adds a segment to a path. A segment that is given as a dot segment adds nothing; text that only
becomes one by dropping characters acts as one. -/
def addSegment (scheme : String) (path : List String) (segment : String) : List String :=
  if segment = "." ∨ segment = ".." then path
  else
    let written := writeSegment (isSpecialScheme scheme) segment
    if written = ['.'] then openPath path ++ [""]
    else if written = ['.', '.'] then ascend (openPath path) ++ [""]
    else addWritten (scheme = "file") (openPath path) written

def addSegments (scheme : String) (path segments : List String) : List String :=
  segments.foldl (addSegment scheme) path

/-- The base with segments added to its path, if the base has a path of segments. -/
def endpoint? (base : Url) (segments : List String) : Option Url :=
  match base.path with
  | .rootless _ => none
  | .segments path =>
    some { base with path := .segments (addSegments base.scheme (trimFinalEmpty path) segments) }

def addQueryField (url : Url) (name value : String) : Url :=
  let field := formEncode name ++ "=" ++ formEncode value
  let query := url.query.getD ""
  { url with query := some (if query.isEmpty then field else query ++ "&" ++ field) }

end ModelHub.Url

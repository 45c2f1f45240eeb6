import ModelHub.Http.Client
import ModelHub.Hub.Decision
import ModelHub.Hub.Listing
import ModelHub.Url.Endpoint

/-!
# The hub

A hub is a service with a name under an API base. It can be listed and described, models can be
imported into it, described and deleted, and the hub itself can be created and deleted.
-/

namespace ModelHub

/-- A hub and where it is reached. -/
structure Hub where
  apiBase : Url
  name : String
  deriving Repr

/-- What a new hub is created with. -/
structure HubSettings where
  description : String
  displayName : Option String
  searchKeywords : List String
  bucket : Option String
  tags : List (String × String)
  deriving DecidableEq, Repr

/-- What the hub says about a model: the document it sent, with name and version taken from it. -/
structure ModelDescription where
  name : String
  version : String
  document : Json

namespace Hub

def connect (apiBase name : String) : Except Failure Hub :=
  match Url.parse apiBase with
  | .error reason => .error (Failure.because .badRequest (.badUrl reason))
  | .ok url => .ok ⟨url, name⟩

/-! ## URLs -/

def endpointOf (base : Url) (segments : List String) : Except Failure Url :=
  match Url.endpoint? base segments with
  | none => .error (Failure.because .badRequest (.unusableBase base.render))
  | some url => .ok url

def collectionUrl (hub : Hub) : Except Failure Url := endpointOf hub.apiBase ["hubs"]

def url (hub : Hub) (segments : List String) : Except Failure Url :=
  endpointOf hub.apiBase (["hubs", hub.name] ++ segments)

def modelContent : String := "Model"

def modelUrl (hub : Hub) (name version : String) : Except Failure Url :=
  hub.url ["contents", modelContent, name, version]

def importsUrl (hub : Hub) : Except Failure Url := hub.url ["imports"]

/-- The URL of the page of the listing that a token leads to, or of the first one. -/
def pageUrl (hub : Hub) (token : Option String) : Except Failure Url :=
  match hub.url ["contents"] with
  | .error failure => .error failure
  | .ok url =>
    let url := url.addQueryField "HubContentType" modelContent
    .ok (match token with
      | none => url
      | some token => url.addQueryField "NextToken" token)

/-! ## Bodies -/

def objectOf (members : List (String × Option Json)) : Json :=
  .object (members.filterMap fun member => member.2.map fun value => (member.1, value))

def listUnlessEmpty (items : List Json) : Option Json :=
  if items.isEmpty then none else some (.array items)

def creationBody (hub : Hub) (settings : HubSettings) : Json :=
  objectOf
    [("HubName", some (.string hub.name)),
      ("HubDescription", some (.string settings.description)),
      ("HubDisplayName", settings.displayName.map .string),
      ("HubSearchKeywords", listUnlessEmpty (settings.searchKeywords.map .string)),
      ("S3StorageConfig",
        settings.bucket.map fun bucket => .object [("S3OutputPath", .string ("s3://" ++ bucket))]),
      ("Tags",
        listUnlessEmpty (settings.tags.map fun tag =>
          .object [("Key", .string tag.1), ("Value", .string tag.2)]))]

/-- The body of a request to import a model. Its keywords are those of the tag of the model. -/
def importBody (request : Request) : Json :=
  .object
    [("ModelId", .string request.modelId),
      ("ModelVersion", .string request.version),
      ("HubContentSearchKeywords",
        .array ((Tag.keywords ⟨request.modelId, request.version⟩).map .string))]

/-! ## Operations -/

/-- Goes on with a URL, if there is one. -/
def withUrl {α : Type} (url : Except Failure Url) (next : Url → Session (Except Failure α)) :
    Session (Except Failure α) :=
  match url with
  | .error failure => pure (.error failure)
  | .ok url => next url

def fetchPage (hub : Hub) (token : Option String) : Session (Except Failure Listing.Page) :=
  withUrl (hub.pageUrl token) fun url => Http.askFor Listing.Page.read? ⟨.get, url, none⟩

/-- All records of the hub, page by page. The session halts where more pages follow than a limit
allows. -/
def listRecords (hub : Hub) (pageLimit : Nat) : Session (Except Failure (List Record)) := do
  match ← Listing.collectPages hub.fetchPage pageLimit none [] with
  | none => .halt .unfinished
  | some result => pure result

/-- A document at a URL; it has to be an object. -/
def fetchDocument (url : Url) : Session (Except Failure Json) := do
  match ← Http.askFor Json.read? ⟨.get, url, none⟩ with
  | .error failure => pure (.error failure)
  | .ok (.object members) => pure (.ok (.object members))
  | .ok _ => pure (.error (Failure.ofKind .unexpectedResponse))

def create (hub : Hub) (settings : HubSettings) : Session (Except Failure Json) :=
  withUrl hub.collectionUrl fun url =>
    Http.askFor Json.read? ⟨.post, url, some (hub.creationBody settings)⟩

def describe (hub : Hub) : Session (Except Failure Json) := withUrl (hub.url []) fetchDocument

def delete (hub : Hub) : Session (Except Failure Unit) :=
  withUrl (hub.url []) fun url => Http.order ⟨.delete, url, none⟩

def textIn (document : Json) (key absent : String) : String :=
  ((document.get? key).bind Json.asString?).getD absent

def describeModel (hub : Hub) (name version : String) :
    Session (Except Failure ModelDescription) :=
  withUrl (hub.modelUrl name version) fun url => do
    match ← fetchDocument url with
    | .error failure => pure (.error failure)
    | .ok document =>
      pure (.ok
        { name := textIn document Entry.nameKey name
          version := textIn document Entry.versionKey version
          document := document })

def deleteModel (hub : Hub) (name version : String) : Session (Except Failure Unit) :=
  withUrl (hub.modelUrl name version) fun url => Http.order ⟨.delete, url, none⟩

/-- Imports the model that a decision asks for. -/
def syncModel (hub : Hub) (decision : Decision) : Session (Except Failure Unit) :=
  withUrl hub.importsUrl fun url =>
    Http.order ⟨.post, url, some (importBody decision.request)⟩

end Hub

end ModelHub

import ModelHub.Json.Value
import ModelHub.Text.Utf8
import ModelHub.Url.Basic

/-!
# Requests and replies

What passes between this program and a service: a request with a method, a URL and perhaps a JSON
body, and a reply with a status and a body of any octets.
-/

namespace ModelHub.Http

/-- What a request asks a service to do. -/
inductive Method where
  | get
  | post
  | delete
  deriving DecidableEq, Repr

def Method.name : Method → String
  | .get => "GET"
  | .post => "POST"
  | .delete => "DELETE"

/-- A request to a service. -/
structure Request where
  method : Method
  url : Url
  body : Option Json
  deriving Repr

/-- What a service answers. The location is where it says to look instead. -/
structure Reply where
  status : Nat
  location : Option String
  body : List Nat
  deriving DecidableEq, Repr

namespace Reply

/-- A reply with a text as its body. -/
def ofText (status : Nat) (location : Option String) (text : String) : Reply :=
  ⟨status, location, Text.encode text.toList⟩

/-- The text of the body, if its octets are well formed. -/
def text? (reply : Reply) : Option String := (Text.decode? reply.body).map String.ofList

/-- What is shown of the body, whatever its octets. -/
def shownText (reply : Reply) : String := String.ofList (Text.mend reply.body)

end Reply

/-- Status codes have three digits. -/
def isStatusCode (code : Nat) : Bool := decide (100 ≤ code) && decide (code ≤ 999)

def Reply.isSuccess (reply : Reply) : Bool :=
  decide (200 ≤ reply.status) && decide (reply.status < 300)

/-- What comes of a request: a reply, a connection that is closed without one, or none at all. -/
inductive Answer where
  | reply (reply : Reply)
  | dropped
  | unreachable
  deriving DecidableEq, Repr

/-- Services are asked over these schemes. -/
def schemes : List String := ["http", "https"]

/-- Signs that may stand in the host of a URL, but not in the address of a request. -/
def unaskableSigns : List Char := ['"', '\x60', '\x7b', '\x7d', '%']

/-- No longer address can be asked. -/
def addressLimit : Nat := 65534

/-- The URL can be the address of a request, over whatever scheme. -/
def isAddress (url : Url) : Bool :=
  url.host.any (fun host => !host.toList.any unaskableSigns.contains)
    && decide (url.render.length ≤ addressLimit)

def isAskable (url : Url) : Bool := schemes.contains url.scheme && isAddress url

end ModelHub.Http

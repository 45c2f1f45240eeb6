/-!
# URLs

A URL in its parsed form. The path of a URL that can serve as a base is a list of segments; other
URLs, such as `mailto:` ones, have a text in its place. All parts are held as they are written.
-/

namespace ModelHub

/-- The path of a URL. -/
inductive Url.Path where
  | rootless (text : String)
  | segments (list : List String)
  deriving DecidableEq, Repr

/-- A URL in its parsed form. Without a host, a path that starts with an empty segment would be
taken for a host when it is read again; it is then held apart from the scheme by `/.`, and stays
so when the path is changed. -/
structure Url where
  scheme : String
  username : String
  password : String
  host : Option String
  tcpPort : Option Nat
  heldApart : Bool
  path : Url.Path
  query : Option String
  fragment : Option String
  deriving DecidableEq, Repr

namespace Url

/-- The schemes whose URLs always have a host and a path, with the service number each one means
when none is written. -/
def specialSchemes : List (String × Option Nat) :=
  [("http", some 80), ("https", some 443), ("ws", some 80), ("wss", some 443), ("ftp", some 21),
    ("file", none)]

def isSpecialScheme (scheme : String) : Bool :=
  specialSchemes.any fun entry => entry.1 = scheme

/-- The service number that a scheme means when none is written. -/
def defaultTcpPort (scheme : String) : Option Nat :=
  (specialSchemes.lookup scheme).join

def isSpecial (url : Url) : Bool := isSpecialScheme url.scheme

/-- A path as it is written: every segment after a slash. -/
def Path.render : Path → String
  | .rootless text => text
  | .segments list => String.join (list.map ("/" ++ ·))

/-- User name and password in front of the host. -/
def renderCredentials (url : Url) : String :=
  if url.username.isEmpty && url.password.isEmpty then ""
  else url.username ++ (if url.password.isEmpty then "" else ":" ++ url.password) ++ "@"

/-- The path could be taken for a host: it starts with an empty segment that is not its only
one. -/
def Path.startsEmpty : Path → Bool
  | .segments ("" :: _ :: _) => true
  | _ => false

/-- Host and service number with what stands before them, or what holds the path apart from the
scheme. -/
def renderAuthority (url : Url) : String :=
  match url.host with
  | some host =>
    "//" ++ url.renderCredentials ++ host
      ++ (match url.tcpPort with | none => "" | some number => ":" ++ Nat.repr number)
  | none => if url.heldApart then "/." else ""

def render (url : Url) : String :=
  url.scheme ++ ":" ++ url.renderAuthority ++ url.path.render
    ++ (match url.query with | none => "" | some query => "?" ++ query)
    ++ (match url.fragment with | none => "" | some fragment => "#" ++ fragment)

def withoutFragment (url : Url) : Url := { url with fragment := none }

def withoutCredentials (url : Url) : Url := { url with username := "", password := "" }

end Url

end ModelHub

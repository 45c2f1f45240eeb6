import ModelHub.Url.Host

/-!
# Failures

A failure says of what kind it is, so that a missing model can be told from a service that cannot
be reached, and carries what caused it. The words of a failure are those of its kind, followed by
those of its cause.
-/

namespace ModelHub

/-- Why the text of a file is not available. -/
inductive FileFault where
  | missing
  | unreadable
  deriving DecidableEq, Repr

def FileFault.message : FileFault → String
  | .missing => "no such file"
  | .unreadable => "not a readable text"

/-- What became of a request that got no usable answer. -/
inductive TransportFault where
  | sending
  | redirecting
  | decoding
  | building
  deriving DecidableEq, Repr

/-- The words for a request that got no usable answer; the body alone is named without the URL it
came from. -/
def TransportFault.message (url : String) : TransportFault → String
  | .sending => s!"error sending request for url ({url})"
  | .redirecting => s!"error following redirect for url ({url})"
  | .decoding => "error decoding response body"
  | .building => s!"builder error for url ({url})"

/-- The words that a status code is usually given, for the codes that have them. -/
def statusReasons : List (Nat × String) :=
  [(100, "Continue"), (101, "Switching Protocols"), (102, "Processing"), (200, "OK"),
    (201, "Created"), (202, "Accepted"), (203, "Non Authoritative Information"),
    (204, "No Content"), (205, "Reset Content"), (206, "Partial Content"), (207, "Multi-Status"),
    (208, "Already Reported"), (226, "IM Used"), (300, "Multiple Choices"),
    (301, "Moved Permanently"), (302, "Found"), (303, "See Other"), (304, "Not Modified"),
    (305, "Use Proxy"), (307, "Temporary Redirect"), (308, "Permanent Redirect"),
    (400, "Bad Request"), (401, "Unauthorized"), (402, "Payment Required"), (403, "Forbidden"),
    (404, "Not Found"), (405, "Method Not Allowed"), (406, "Not Acceptable"),
    (407, "Proxy Authentication Required"), (408, "Request Timeout"), (409, "Conflict"),
    (410, "Gone"), (411, "Length Required"), (412, "Precondition Failed"),
    (413, "Payload Too Large"), (414, "URI Too Long"), (415, "Unsupported Media Type"),
    (416, "Range Not Satisfiable"), (417, "Expectation Failed"), (418, "I'm a teapot"),
    (421, "Misdirected Request"), (422, "Unprocessable Entity"), (423, "Locked"),
    (424, "Failed Dependency"), (425, "Too Early"), (426, "Upgrade Required"),
    (428, "Precondition Required"), (429, "Too Many Requests"),
    (431, "Request Header Fields Too Large"), (451, "Unavailable For Legal Reasons"),
    (500, "Internal Server Error"), (501, "Not Implemented"), (502, "Bad Gateway"),
    (503, "Service Unavailable"), (504, "Gateway Timeout"), (505, "HTTP Version Not Supported"),
    (506, "Variant Also Negotiates"), (507, "Insufficient Storage"), (508, "Loop Detected"),
    (510, "Not Extended"), (511, "Network Authentication Required")]

def statusText (code : Nat) : String :=
  Nat.repr code ++ " " ++ (statusReasons.lookup code).getD "<unknown status code>"

/-- What a failure goes back to. -/
inductive Cause where
  | text (message : String)
  | status (url : String) (code : Nat) (body : String)
  | unusableBase (url : String)
  | repeatedToken (token : String)
  | modelNotListed (modelId : String)
  | noValidVersion (modelId : String)
  | transport (fault : TransportFault) (url : String)
  | badUrl (reason : Url.ParseError)
  | unreadableManifest (path : String) (fault : FileFault)
  | malformedManifest
  | unreadableListing (path : String) (fault : FileFault)
  | malformedListing (path : String)
  deriving DecidableEq, Repr

/-- What is said of a text that is not the JSON it should be. -/
def malformedText : String := "unexpected content"

def Cause.message : Cause → String
  | .text message => message
  | .status url code body => url ++ " returned " ++ statusText code ++ ": " ++ body
  | .unusableBase url => s!"{url} cannot be used as an API base"
  | .repeatedToken token => s!"hub returned the page token \"{token}\" twice in a row"
  | .modelNotListed modelId => s!"model \"{modelId}\" is not listed in the catalog manifest"
  | .noValidVersion modelId => s!"model \"{modelId}\" has no valid version in the catalog manifest"
  | .transport fault url => fault.message url
  | .badUrl reason => reason.message
  | .unreadableManifest path fault =>
    "failed to read catalog manifest " ++ path ++ ": " ++ fault.message
  | .malformedManifest => "failed to parse catalog manifest: " ++ malformedText
  | .unreadableListing path fault =>
    "failed to read hub listing " ++ path ++ ": " ++ fault.message
  | .malformedListing path => "failed to parse hub listing " ++ path ++ ": " ++ malformedText

/-- The kinds of failure. -/
inductive FailureKind where
  | connection
  | timedOut
  | notFound
  | badRequest
  | internalError
  | unexpectedResponse
  | unspecified
  deriving DecidableEq, Repr

def FailureKind.message : FailureKind → String
  | .connection => "failed to connect to the service"
  | .timedOut => "request timed out"
  | .notFound => "the requested resource was not found"
  | .badRequest => "the request was bad or malformed"
  | .internalError => "the service encountered an internal error"
  | .unexpectedResponse => "response was unexpected or malformed"
  | .unspecified => "an unspecified error occurred"

/-- The kind of failure that a status code without success means. -/
def FailureKind.ofStatus (code : Nat) : FailureKind :=
  if code = 404 then .notFound
  else if code = 408 ∨ code = 504 then .timedOut
  else if 400 ≤ code ∧ code ≤ 499 then .badRequest
  else if 500 ≤ code ∧ code ≤ 599 then .internalError
  else .unspecified

/-- A failure of a service or of a file. -/
structure Failure where
  kind : FailureKind
  cause : Option Cause
  deriving DecidableEq, Repr

namespace Failure

def ofKind (kind : FailureKind) : Failure := ⟨kind, none⟩

def because (kind : FailureKind) (cause : Cause) : Failure := ⟨kind, some cause⟩

def message (failure : Failure) : String :=
  match failure.cause with
  | none => failure.kind.message
  | some cause => failure.kind.message ++ ": " ++ cause.message

end Failure

end ModelHub

import ModelHub.Session
import ModelHub.Url.Parser

/-!
# Asking services

A request is sent to where its URL says and from there to where redirects lead, up to a limit.
What comes back is a reply or the failure to get a usable one.
-/

namespace ModelHub.Http

/-- So many redirects are followed. -/
def redirectLimit : Nat := 10

/-- After these statuses the location is asked with a request that only gets. -/
def gettingRedirects : List Nat := [301, 302, 303]

/-- After these statuses the location is asked with the same request. -/
def keepingRedirects : List Nat := [307, 308]

/-- The request that a reply redirects to, if it does and its location is an address. -/
def redirect? (request : Request) (reply : Reply) : Option Request :=
  match reply.location.map (Url.join request.url) with
  | some (.ok url) =>
    if !isAddress url then none
    else if gettingRedirects.contains reply.status then some ⟨.get, url, none⟩
    else if keepingRedirects.contains reply.status then some { request with url := url }
    else none
  | _ => none

def transportFailure (kind : FailureKind) (fault : TransportFault) (url : Url) : Failure :=
  Failure.because kind (.transport fault url.render)

/-- Sends a request that can be sent, and follows redirects as long as the number allows it. Gives
the last reply with the URL it came from. -/
def follow : Nat → Request → Session (Except Failure (Url × Reply))
  | remaining, request => do
    match ← Session.exchange request with
    | .unreachable => pure (.error (transportFailure .connection .sending request.url))
    | .dropped => pure (.error (transportFailure .unspecified .sending request.url))
    | .reply reply =>
      match redirect? request reply with
      | none => pure (.ok (request.url, reply))
      | some redirected =>
        match remaining with
        | 0 => pure (.error (transportFailure .unexpectedResponse .redirecting request.url))
        | remaining + 1 =>
          if schemes.contains redirected.url.scheme then follow remaining redirected
          else pure (.error (transportFailure .unspecified .building redirected.url))

/-- Sends a request. User name and password do not travel in the URL. -/
def send (request : Request) : Session (Except Failure (Url × Reply)) :=
  let url := request.url.withoutCredentials
  if isAskable url then follow redirectLimit { request with url := url }
  else pure (.error (transportFailure .unspecified .building url))

/-- A reply without success is a failure, which shows the body as it came. -/
def requireSuccess (url : Url) (reply : Reply) : Except Failure Reply :=
  if reply.isSuccess then .ok reply
  else
    .error
      (Failure.because (FailureKind.ofStatus reply.status)
        (.status url.render reply.status reply.shownText))

/-- Sends a request and gives a reply that says it was served. -/
def ask (request : Request) : Session (Except Failure Reply) := do
  match ← send request with
  | .error failure => pure (.error failure)
  | .ok (url, reply) => pure (requireSuccess url reply)

def unreadableBody (url : Url) : Failure := transportFailure .unexpectedResponse .decoding url

/-- Asks for something that is read from the text of the body. -/
def askFor {α : Type} (read? : String → Option α) (request : Request) :
    Session (Except Failure α) := do
  match ← ask request with
  | .error failure => pure (.error failure)
  | .ok reply =>
    match reply.text?.bind read? with
    | none => pure (.error (unreadableBody request.url))
    | some value => pure (.ok value)

def order (request : Request) : Session (Except Failure Unit) := do
  match ← ask request with
  | .error failure => pure (.error failure)
  | .ok _ => pure (.ok ())

end ModelHub.Http

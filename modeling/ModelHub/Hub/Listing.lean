import ModelHub.Failure
import ModelHub.Hub.Record
import ModelHub.Json.Shape

/-!
# Listings

A listing of a hub comes in pages from the hub itself, or from a file. The file holds either a
page as the hub sends it or the bare list of records. It is read in full or refused.
-/

namespace ModelHub.Listing

def recordsKey : String := "HubContentSummaries"

def tokenKey : String := "NextToken"

/-- One page of a listing, with the token for the next one. -/
structure Page where
  records : List Record
  nextToken : Option String

/-- The records of a list whose items are all objects, with values nested at most that deep. -/
def readRecords? (depth : Nat) : Json.Document → Option (List Record) :=
  Json.listField? fun document => (Json.mapField? depth document).map Record.mk

/-- Reads a page. Records and token may be missing. -/
def Page.read? (text : String) : Option Page :=
  match (Json.Document.read? text).bind (Json.fields? [recordsKey, tokenKey]) with
  | some [records, token] =>
    match (match records with
        | none => some []
        | some document => readRecords? (Json.nestingLimit - 2) document),
      Json.optionalTextField? token with
    | some records, some nextToken => some ⟨records, nextToken⟩
    | _, _ => none
  | _ => none

/-- The items of a list that are all records. -/
def recordsOf? (value : Json) : Option (List Record) :=
  value.asArray?.bind fun items => items.mapM Record.ofJson?

/-- A listing document whose keys are as they were written: the records under the only occurrence
of their key. -/
def recordsUnder? (members : List (String × Json)) : Option (List Record) :=
  match members.filter fun member => member.1 = recordsKey with
  | [(_, value)] => recordsOf? value
  | _ => none

/-- The members of an object with values nested at most that deep, in the order and with the
repetitions in which they are written. -/
def writtenMembers? (depth : Nat) (members : List (List Json.Piece × Json.Document)) :
    Option (List (String × Json)) :=
  members.mapM fun member =>
    match Json.decodeText member.1, Json.decode depth member.2 with
    | some key, some value => some (key, value)
    | _, _ => none

/-- Reads a listing: a list of records, or an object that has the key of the records exactly
once. Every value in it has to be readable, also where it is not used. -/
def parse? (text : String) : Option (List Record) :=
  match Json.Document.read? text with
  | some (.object members) =>
    (writtenMembers? (Json.nestingLimit - 1) members).bind recordsUnder?
  | some document => (Json.decode Json.nestingLimit document).bind recordsOf?
  | none => none

/-- The listing that a file at a path holds, if its text is available. -/
def ofFile (path : String) (file : Except FileFault String) : Except Cause (List Record) :=
  match file with
  | .error fault => .error (.unreadableListing path fault)
  | .ok text =>
    match parse? text with
    | none => .error (.malformedListing path)
    | some records => .ok records

/-- A listing file that is missing is not found; one that cannot be read is unexpected. -/
def failureOf : Cause → Failure
  | .unreadableListing path .missing =>
    Failure.because .notFound (.unreadableListing path .missing)
  | cause => Failure.because .unexpectedResponse cause

/-! ## Pages -/

/-- Fetches pages until one has no token or an empty one, each further page with the token of the
page before it. A token that repeats the one before it is a failure, because the listing could
never end. There is no answer when the listing does not end within that many pages. -/
def collectPages {m : Type → Type} [Monad m]
    (fetch : Option String → m (Except Failure Page)) :
    Nat → Option String → List Record → m (Option (Except Failure (List Record)))
  | 0, _, _ => pure none
  | limit + 1, token, collected => do
    match ← fetch token with
    | .error failure => pure (some (.error failure))
    | .ok page =>
      let records := collected ++ page.records
      match page.nextToken with
      | none => pure (some (.ok records))
      | some next =>
        if next.isEmpty then pure (some (.ok records))
        else if token = some next then
          pure (some (.error (Failure.because .unexpectedResponse (.repeatedToken next))))
        else collectPages fetch limit (some next) records

end ModelHub.Listing

import ModelHub.Text.Split
import ModelHub.Url.Basic
import ModelHub.Url.Host

/-!
# Reading URLs

A URL is read as browsers read it: leading and trailing space and every tab and line end are
dropped, scheme and host come in lower case, the dot segments of the path are resolved, and
characters that may not stand in a part are percent-encoded.
-/

namespace ModelHub.Url

/-- Tabs and line ends are dropped wherever they stand. -/
def isDropped (character : Char) : Bool :=
  character = '\t' || character = '\n' || character = '\r'

/-- Control characters and spaces are dropped at either end. -/
def isTrimmed (character : Char) : Bool := decide (character.toNat ≤ 0x20)

/-- The characters of a URL that count. -/
def cleanInput (text : String) : List Char :=
  let trimmed := (text.toList.dropWhile isTrimmed).reverse.dropWhile isTrimmed
  trimmed.reverse.filter fun character => !isDropped character

def isSchemeChar (character : Char) : Bool :=
  character.isAlphanum || character = '+' || character = '-' || character = '.'

def splitScheme? (input : List Char) : Option (String × List Char) :=
  match input with
  | [] => none
  | first :: _ =>
    if first.isAlpha then
      match input.dropWhile isSchemeChar with
      | ':' :: rest =>
        some (String.ofList ((input.takeWhile isSchemeChar).map Char.toLower), rest)
      | _ => none
    else none

/-- What stands before a mark, and what stands after it if the mark occurs. -/
def cutAt (mark : Char) (input : List Char) : List Char × Option (List Char) :=
  match Text.splitFirst mark input with
  | none => (input, none)
  | some (front, back) => (front, some back)

/-- The parts of a URL after its scheme: body, query and fragment. -/
structure Parts where
  body : List Char
  query : Option String
  fragment : Option String

/-- Divides what follows the scheme. -/
def splitParts (special : Bool) (input : List Char) : Parts :=
  let outer := cutAt '#' input
  let inner := cutAt '?' outer.1
  { body := inner.1
    query := inner.2.map fun query => String.ofList (percentEncode (queryReserved special) query)
    fragment :=
      outer.2.map fun fragment => String.ofList (percentEncode fragmentReserved fragment) }

/-- A slash separates segments; under a special scheme a backslash does so too. -/
def isSlash (special : Bool) (character : Char) : Bool :=
  character = '/' || (special && character = '\\')

/-! ## Paths -/

def isSingleDot (segment : List Char) : Bool :=
  let folded := segment.map Char.toLower
  folded = ['.'] || folded = ['%', '2', 'e']

def isDoubleDot (segment : List Char) : Bool :=
  let dot := ['.']
  let coded := ['%', '2', 'e']
  let folded := segment.map Char.toLower
  folded = dot ++ dot || folded = dot ++ coded || folded = coded ++ dot || folded = coded ++ coded

def rawSegments (special : Bool) (path : List Char) : List (List Char) :=
  (path.map fun character => if isSlash special character then '/' else character).splitOn '/'

/-- A drive letter: a letter with a colon or, in its place, a bar. -/
def isDriveLetter : List Char → Bool
  | [letter, mark] => letter.isAlpha && (mark = ':' || mark = '|')
  | _ => false

/-- No path leads from a drive to what is above it. A backslash ends the name of a drive too. -/
def holdsDrive (segment : String) : Bool :=
  isDriveLetter (segment.toList.takeWhile (· ≠ '\\'))

/-- The directory above. Under any scheme, that of a drive is the drive itself. -/
def ascend (path : List String) : List String :=
  if path.getLast?.any holdsDrive then path else path.dropLast

/-- Adds a segment, as it is written, to the directories before it. At the start of a file path, a
drive letter is written with a colon, and what follows the colon is a segment of its own. -/
def addWritten (file : Bool) (path : List String) (segment : List Char) : List String :=
  match file && path.isEmpty, segment with
  | true, [letter, '|'] =>
    if letter.isAlpha then [String.ofList [letter, ':']] else [String.ofList segment]
  | true, letter :: ':' :: first :: rest =>
    if letter.isAlpha then [String.ofList [letter, ':'], String.ofList (first :: rest)]
    else [String.ofList segment]
  | _, _ => path ++ [String.ofList segment]

/-- Goes on from a directory by one raw segment. -/
def followSegment (file : Bool) (path : List String) (segment : List Char) : List String :=
  if isDoubleDot segment then ascend path
  else if isSingleDot segment then path
  else addWritten file path (percentEncode pathReserved segment)

/-- Follows raw segments from a directory. A dot segment at the end leaves an empty segment. -/
def resolveSegments (file : Bool) (path : List String) (segments : List (List Char)) :
    List String :=
  let reached := segments.foldl (followSegment file) path
  if segments.getLast?.any fun last => isDoubleDot last || isSingleDot last then reached ++ [""]
  else reached

/-- The raw segments of a path, whose first slash does not count. -/
def pathSegments (special : Bool) (input : List Char) : List (List Char) :=
  match input with
  | [] => [[]]
  | first :: rest => rawSegments special (if isSlash special first then rest else input)

/-- The path after a host. Under a special scheme it is never empty. -/
def hostedPath (special : Bool) (input : List Char) : List String :=
  if input.isEmpty && !special then [] else resolveSegments false [] (pathSegments special input)

/-- A path without the empty segments at its start. The last segment stays. -/
def dropEmptyStart : List String → List String
  | "" :: next :: rest => dropEmptyStart (next :: rest)
  | path => path

def filePath (input : List Char) : List String :=
  dropEmptyStart (resolveSegments true [] (pathSegments true input))

/-- While raw segments are followed from a directory, a drive letter comes first at some point. -/
def reachesDrive (path : List String) : List (List Char) → Bool
  | [] => false
  | segment :: rest =>
    (path.isEmpty && isDriveLetter segment)
      || reachesDrive (followSegment true path segment) rest

def isDrivePath (input : List Char) : Bool := reachesDrive [] (pathSegments true input)

/-! ## Authorities -/

/-- User name, password, host and service number of a URL, and what is left of the text they are
read from. -/
structure Authority where
  username : String
  password : String
  host : String
  tcpPort : Option Nat
  rest : List Char

/-- The characters before and after the last occurrence of a mark. -/
def splitLast (mark : Char) (input : List Char) : Option (List Char × List Char) :=
  (Text.splitFirst mark input.reverse).map fun halves => (halves.2.reverse, halves.1.reverse)

/-- Divides host and service number at the first colon outside brackets. -/
def splitHost (inside : Bool) : List Char → List Char × Option (List Char)
  | [] => ([], none)
  | character :: rest =>
    if character = ':' ∧ inside = false then ([], some rest)
    else
      let now := if character = '[' then true else if character = ']' then false else inside
      let found := splitHost now rest
      (character :: found.1, found.2)

/-- The service number; an empty one and the default one of the scheme are left out. -/
def readTcpPort (scheme : String) (digits : List Char) : Except ParseError (Option Nat) :=
  if digits.all Char.isDigit then
    match Text.numberInBase? 10 digits with
    | none => .error .invalidTcpPort
    | some number =>
      if 65535 < number then .error .invalidTcpPort
      else if digits.isEmpty ∨ defaultTcpPort scheme = some number then .ok none
      else .ok (some number)
  else .error .invalidTcpPort

def writeCredential (text : List Char) : String :=
  String.ofList (percentEncode credentialReserved text)

/-- Only a URL without a special scheme may have an empty host, and then neither user name nor
password nor service number. A sole mark of a user name is let through at the end of the URL. -/
def admitsEmptyHost (special final : Bool) (credentials : Option (List Char))
    (numbered : Bool) : Bool :=
  !special && !numbered &&
    match credentials with
    | none => true
    | some [] => final
    | some text => text = [':']

/-- Reads what stands between the two slashes and the next one. A backslash ends the service
number, and with it what is read here. -/
def readAuthority (scheme : String) (final : Bool) (input : List Char) :
    Except ParseError Authority :=
  let special := isSpecialScheme scheme
  let parts := splitLast '@' input
  let credentials := cutAt ':' (parts.elim [] Prod.fst)
  let found := splitHost false (parts.elim input Prod.snd)
  let number := found.2.getD []
  if found.1.isEmpty && !admitsEmptyHost special final (parts.map Prod.fst) found.2.isSome then
    .error .emptyHost
  else
    match (if special then specialHost found.1 else plainHost found.1) with
    | .error reason => .error reason
    | .ok host =>
      match readTcpPort scheme (number.takeWhile (· ≠ '\\')) with
      | .error reason => .error reason
      | .ok tcpPort =>
        .ok
          { username := writeCredential credentials.1
            password := writeCredential (credentials.2.getD [])
            host := String.ofList host
            tcpPort := tcpPort
            rest := number.dropWhile (· ≠ '\\') }

def readHosted (scheme : String) (parts : Parts) (input : List Char) : Except ParseError Url :=
  let special := isSpecialScheme scheme
  let isWithin := fun character => !isSlash special character
  let after := input.dropWhile isWithin
  let final := after.isEmpty && parts.query.isNone && parts.fragment.isNone
  match readAuthority scheme final (input.takeWhile isWithin) with
  | .error reason => .error reason
  | .ok authority =>
    .ok
      { scheme := scheme
        username := authority.username
        password := authority.password
        host := some authority.host
        tcpPort := authority.tcpPort
        heldApart := false
        path := .segments (hostedPath special (authority.rest ++ after))
        query := parts.query
        fragment := parts.fragment }

/-- A file URL of its host and the text of its path. On a drive there is no host. -/
def fileUrl (parts : Parts) (host path : List Char) : Url :=
  { scheme := "file"
    username := ""
    password := ""
    host := some (if isDrivePath path then "" else String.ofList host)
    tcpPort := none
    heldApart := false
    path := .segments (filePath path)
    query := parts.query
    fragment := parts.fragment }

def localHost : List Char := "localhost".toList

/-- A URL of the scheme `file`, whose host may be empty. A drive letter is no host. -/
def readFile (parts : Parts) (input : List Char) : Except ParseError Url :=
  match input with
  | first :: second :: rest =>
    if isSlash true first && isSlash true second then
      let host := rest.takeWhile fun character => !isSlash true character
      if host.isEmpty || isDriveLetter host then .ok (fileUrl parts [] rest)
      else
        match specialHost host with
        | .error reason => .error reason
        | .ok name =>
          .ok (fileUrl parts (if name = localHost then [] else name)
            (rest.dropWhile fun character => !isSlash true character))
    else .ok (fileUrl parts [] input)
  | _ => .ok (fileUrl parts [] input)

def hostless (scheme : String) (path : Path) (parts : Parts) : Url :=
  { scheme := scheme
    username := ""
    password := ""
    host := none
    tcpPort := none
    heldApart := path.startsEmpty
    path := path
    query := parts.query
    fragment := parts.fragment }

def readAfterScheme (scheme : String) (rest : List Char) : Except ParseError Url :=
  let special := isSpecialScheme scheme
  let parts := splitParts special rest
  if scheme = "file" then readFile parts parts.body
  else if special then readHosted scheme parts (parts.body.dropWhile (isSlash true))
  else
    match parts.body with
    | '/' :: '/' :: rest => readHosted scheme parts rest
    | '/' :: rest =>
      .ok (hostless scheme (.segments (resolveSegments false [] (rawSegments false rest))) parts)
    | body => .ok (hostless scheme (.rootless (String.ofList (percentEncode [] body))) parts)

def parse (text : String) : Except ParseError Url :=
  match splitScheme? (cleanInput text) with
  | none => .error .relativeWithoutBase
  | some (scheme, rest) => readAfterScheme scheme rest

/-! ## References -/

/-- The segments of a path; a text in its place has none. -/
def Path.list : Path → List String
  | .rootless _ => []
  | .segments list => list

def withPath (base : Url) (parts : Parts) (segments : List String) : Url :=
  { base with
    heldApart := base.host.isNone && (Path.segments segments).startsEmpty
    path := .segments segments
    query := parts.query
    fragment := parts.fragment }

/-- Reads a reference without a scheme against a URL that can serve as a base. At its start a
backslash is a slash under any scheme. Two slashes start an authority; where they are not both
plain ones, all that follow them are dropped too. -/
def resolveReference (base : Url) (input : List Char) : Except ParseError Url :=
  let special := base.isSpecial
  let parts := splitParts special input
  let resolve := resolveSegments (base.scheme = "file")
  match parts.body with
  | [] =>
    .ok { base with query := parts.query.orElse fun _ => base.query, fragment := parts.fragment }
  | '/' :: '/' :: authority => readHosted base.scheme parts authority
  | first :: rest =>
    if isSlash true first then
      if rest.head?.any (isSlash true) then
        readHosted base.scheme parts (rest.dropWhile (isSlash true))
      else .ok (withPath base parts (resolve [] (rawSegments special rest)))
    else
      .ok (withPath base parts
        (resolve base.path.list.dropLast (rawSegments special parts.body)))

def startsWithAuthority (input : List Char) : Bool :=
  decide ((input.takeWhile (isSlash true)).length ≥ 2)

/-- Reads a reference as it stands in a URL: a URL of its own, or relative to the base. -/
def join (base : Url) (text : String) : Except ParseError Url :=
  let input := cleanInput text
  match splitScheme? input with
  | some (scheme, rest) =>
    if isSpecialScheme scheme && scheme = base.scheme && !startsWithAuthority rest then
      resolveReference base rest
    else readAfterScheme scheme rest
  | none =>
    match base.path with
    | .segments _ => resolveReference base input
    | .rootless _ =>
      match input with
      | '#' :: _ => .ok { base with fragment := (splitParts false input).fragment }
      | _ => .error .relativeToRootless

end ModelHub.Url

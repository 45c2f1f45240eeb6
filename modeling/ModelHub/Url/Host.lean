import ModelHub.Url.Label
import ModelHub.Url.Percent

/-!
# Hosts

The host of a URL with a special scheme is a domain name, an IPv4 address or, in brackets, an IPv6
address; it is held in its normal spelling. The host of any other URL is a text or an IPv6
address.
-/

namespace ModelHub.Url

/-- Why a text is no URL. -/
inductive ParseError where
  | relativeWithoutBase
  | relativeToRootless
  | emptyHost
  | invalidTcpPort
  | invalidIpv4
  | invalidIpv6
  | invalidDomainName
  | invalidHostCharacter
  deriving DecidableEq, Repr

def ParseError.message : ParseError → String
  | .relativeWithoutBase => "relative URL without a base"
  | .relativeToRootless => "relative URL with a cannot-be-a-base base"
  | .emptyHost => "empty host"
  | .invalidTcpPort => "invalid port number"
  | .invalidIpv4 => "invalid IPv4 address"
  | .invalidIpv6 => "invalid IPv6 address"
  | .invalidDomainName => "invalid international domain name"
  | .invalidHostCharacter => "invalid domain character"

def hostReserved : List Char :=
  ['\x00', '\t', '\n', '\r', ' ', '#', '/', ':', '<', '>', '?', '@', '[', '\\', ']', '^', '|']

def isDomainForbidden (character : Char) : Bool :=
  hostReserved.contains character || character = '%' || decide (character.toNat < 0x20)
    || character = '\x7f'

/-! ## IPv4 -/

/-- A number of an IPv4 address: hexadecimal after `0x`, octal after `0`, else decimal. -/
def ipv4Number? : List Char → Option Nat
  | [] => none
  | '0' :: 'x' :: digits => Text.numberInBase? 16 digits
  | '0' :: 'X' :: digits => Text.numberInBase? 16 digits
  | '0' :: digit :: digits => Text.numberInBase? 8 (digit :: digits)
  | digits => Text.numberInBase? 10 digits

/-- The labels of a name; an empty one at the end does not count. -/
def countedLabels (name : List Char) : List (List Char) :=
  let labels := name.splitOn '.'
  if labels.length > 1 ∧ labels.getLast? = some [] then labels.dropLast else labels

/-- A name whose last label is a number has to be an IPv4 address. -/
def endsInNumber (name : List Char) : Bool :=
  match (countedLabels name).getLast? with
  | none => false
  | some last => !last.isEmpty && (last.all Char.isDigit || (ipv4Number? last).isSome)

/-- The address that one to four numbers denote; the last one fills all remaining octets. -/
def ipv4Value? (numbers : List Nat) : Option Nat :=
  match numbers.reverse with
  | [] => none
  | last :: reversed =>
    let octets := reversed.reverse
    let width := Nat.pow 256 (4 - octets.length)
    if 4 < numbers.length ∨ width ≤ last ∨ octets.any (fun octet => decide (255 < octet)) then none
    else some (octets.foldl (fun value octet => value * 256 + octet) 0 * width + last)

def renderIpv4 (value : Nat) : List Char :=
  let octet := fun place => (Nat.repr (value / Nat.pow 256 place % 256)).toList
  octet 3 ++ '.' :: octet 2 ++ '.' :: octet 1 ++ '.' :: octet 0

def ipv4? (name : List Char) : Option (List Char) :=
  ((countedLabels name).mapM ipv4Number?).bind fun numbers =>
    (ipv4Value? numbers).map renderIpv4

/-! ## IPv6 -/

/-- One to four hexadecimal digits of an IPv6 address. -/
def ipv6Piece? (digits : List Char) : Option Nat :=
  if digits.isEmpty ∨ 4 < digits.length then none else Text.numberInBase? 16 digits

/-- An octet of an IPv4 address inside an IPv6 address: decimal, without leading zeros. -/
def strictOctet? (digits : List Char) : Option Nat :=
  match digits with
  | [] => none
  | '0' :: _ :: _ => none
  | digits => (Text.numberInBase? 10 digits).filter fun value => decide (value < 256)

/-- The last part of an IPv6 address: a piece, or an IPv4 address that fills two pieces. -/
def ipv6Last? (part : List Char) : Option (List Nat) :=
  if part.contains '.' then
    match (part.splitOn '.').mapM strictOctet? with
    | some [a, b, c, d] => some [a * 256 + b, c * 256 + d]
    | _ => none
  else (ipv6Piece? part).map fun piece => [piece]

/-- The pieces of a row of parts with colons between them. Only the last part of an address may be
an IPv4 address. -/
def ipv6Pieces? (parts : List (List Char)) (final : Bool) : Option (List Nat) :=
  match parts.reverse with
  | [] => some []
  | last :: reversed =>
    match reversed.reverse.mapM ipv6Piece?,
        (if final then ipv6Last? last else (ipv6Piece? last).map fun piece => [piece]) with
    | some pieces, some lastPieces => some (pieces ++ lastPieces)
    | _, _ => none

def splitDoubleColon : List Char → Option (List Char × List Char)
  | ':' :: ':' :: rest => some ([], rest)
  | character :: rest =>
    (splitDoubleColon rest).map fun halves => (character :: halves.1, halves.2)
  | [] => none

/-- The parts between colons; an empty text has none. -/
def colonParts (text : List Char) : List (List Char) :=
  if text.isEmpty then [] else text.splitOn ':'

/-- The eight pieces of an IPv6 address. A double colon stands for one or more zeros. -/
def ipv6Value? (text : List Char) : Option (List Nat) :=
  match splitDoubleColon text with
  | none => (ipv6Pieces? (colonParts text) true).filter fun pieces => decide (pieces.length = 8)
  | some (front, back) =>
    match ipv6Pieces? (colonParts front) false, ipv6Pieces? (colonParts back) true with
    | some front, some back =>
      if 7 < front.length + back.length then none
      else some (front ++ List.replicate (8 - front.length - back.length) 0 ++ back)
    | _, _ => none

def zeroRun (pieces : List Nat) : Nat := (pieces.takeWhile (· = 0)).length

/-- The place and the length of the first longest row of zeros. -/
def longestZeroRun (pieces : List Nat) : Nat × Nat :=
  (List.range pieces.length).foldl
    (fun best place =>
      let length := zeroRun (pieces.drop place)
      if best.2 < length then (place, length) else best)
    (0, 0)

def renderIpv6Piece (piece : Nat) : List Char := Nat.toDigits 16 piece

/-- Pieces with colons between them. -/
def joinIpv6 (pieces : List Nat) : List Char :=
  [':'].intercalate (pieces.map renderIpv6Piece)

/-- An IPv6 address in its normal spelling: a double colon for the first longest row of at least
two zeros. -/
def renderIpv6 (pieces : List Nat) : List Char :=
  let run := longestZeroRun pieces
  if run.2 < 2 then joinIpv6 pieces
  else joinIpv6 (pieces.take run.1) ++ [':', ':'] ++ joinIpv6 (pieces.drop (run.1 + run.2))

/-! ## Hosts -/

def bracketedHost (rest : List Char) : Except ParseError (List Char) :=
  match rest.reverse with
  | ']' :: reversed =>
    match ipv6Value? reversed.reverse with
    | some pieces => .ok ('[' :: renderIpv6 pieces ++ [']'])
    | none => .error .invalidIpv6
  | _ => .error .invalidIpv6

/-- A domain name in ASCII: octets decoded, characters replaced by their forms and composed, and
labels with others than ASCII characters written as codes. -/
def asciiDomain? (text : List Char) : Option (List Char) :=
  (Text.decode? (percentDecode text)).bind fun decoded =>
    (hostForms? decoded).bind fun forms =>
      let name := Text.composed forms
      if name.any isDomainForbidden then none else Label.writeName? name

def specialHost (text : List Char) : Except ParseError (List Char) :=
  match text with
  | [] => .error .emptyHost
  | '[' :: rest => bracketedHost rest
  | _ =>
    match asciiDomain? text with
    | none => .error .invalidDomainName
    | some name =>
      if name.isEmpty then .error .emptyHost
      else if endsInNumber name then
        match ipv4? name with
        | some address => .ok address
        | none => .error .invalidIpv4
      else .ok name

def plainHost (text : List Char) : Except ParseError (List Char) :=
  match text with
  | '[' :: rest => bracketedHost rest
  | _ =>
    if text.any hostReserved.contains then .error .invalidHostCharacter
    else .ok (percentEncode [] text)

end ModelHub.Url

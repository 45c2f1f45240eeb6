import ModelHub.Text.Digits
import ModelHub.Text.Utf8

/-!
# Percent-encoding

A character that may not stand for itself is written as its octets, each as a percent sign and
two hexadecimal digits in upper case. Which characters stand for themselves depends on the part of
the URL; control characters and characters beyond ASCII never do.
-/

namespace ModelHub.Url

/-- Printable ASCII: everything from the space to the tilde. -/
def isPrintable (character : Char) : Bool :=
  decide (0x20 ≤ character.toNat) && decide (character.toNat < 0x7F)

def fragmentReserved : List Char := [' ', '"', '<', '>', '\x60']

def pathReserved : List Char := fragmentReserved ++ ['#', '?', '\x7b', '\x7d']

/-- The characters that are encoded in a single segment added to a path. Where a backslash
separates segments it is encoded too. -/
def segmentReserved (special : Bool) : List Char :=
  pathReserved ++ ['/', '%'] ++ (if special then ['\\'] else [])

/-- The characters that are encoded in a user name or a password. -/
def credentialReserved : List Char :=
  pathReserved ++ ['/', ':', ';', '=', '@', '[', '\\', ']', '^', '|']

def queryReserved (special : Bool) : List Char :=
  [' ', '"', '#', '<', '>'] ++ (if special then ['\''] else [])

def upperHexDigit (value : Nat) : Char :=
  Char.ofNat (if value < 10 then 48 + value else 55 + value)

def encodeOctet (octet : Nat) : List Char :=
  ['%', upperHexDigit (octet / 16), upperHexDigit (octet % 16)]

/-- A character, encoded unless it is printable and not reserved. -/
def encodeChar (reserved : List Char) (character : Char) : List Char :=
  if isPrintable character && !reserved.contains character then [character]
  else (Text.octets character).flatMap encodeOctet

def percentEncode (reserved : List Char) (characters : List Char) : List Char :=
  characters.flatMap (encodeChar reserved)

/-- The octets of a text in which a percent sign with two digits stands for one octet. -/
def percentDecode : List Char → List Nat
  | [] => []
  | '%' :: high :: low :: rest =>
    match Text.hexValue? high, Text.hexValue? low with
    | some high, some low => (high * 16 + low) :: percentDecode rest
    | _, _ => 0x25 :: percentDecode (high :: low :: rest)
  | character :: rest => Text.octets character ++ percentDecode rest

/-! ## Form fields -/

/-- The characters of a form field that stand for themselves. -/
def isFormSafe (character : Char) : Bool :=
  character.isAlphanum || ['*', '-', '.', '_'].contains character

/-- A character of a form field: a space becomes a plus sign. -/
def formEncodeChar (character : Char) : List Char :=
  if character = ' ' then ['+']
  else if isFormSafe character then [character]
  else (Text.octets character).flatMap encodeOctet

def formEncode (text : String) : String :=
  String.ofList (text.toList.flatMap formEncodeChar)

end ModelHub.Url

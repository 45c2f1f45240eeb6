import ModelHub.Decimal.Shortest
import ModelHub.Json.Value

/-!
# Writing JSON

A value is written compactly on one line, or indented by two spaces with one item a line. Members
are written in the order in which the object holds them.
-/

namespace ModelHub.Json

/-! ## Numbers -/

/-- The number of zeros at the end of a row of digits, least significant digit first. -/
def stripZeros : List Char → List Char
  | '0' :: rest => stripZeros rest
  | digits => digits

def zeros (count : Nat) : List Char := List.replicate count '0'

/-- Numbers with their first digit from this place on are written out. -/
def leastPlainPlace : Int := -5

/-- Numbers with their first digit up to this place are written out. -/
def greatestPlainPlace : Int := 15

/-- A number written out: its digits with the point in its place and at least one digit on either
side of it. -/
def plainNotation (digits : List Char) (place : Int) : List Char :=
  if place < 0 then ['0', '.'] ++ zeros (-place - 1).toNat ++ digits
  else
    let whole := place.toNat + 1
    let padded := digits ++ zeros (whole - digits.length)
    let fraction := padded.drop whole
    padded.take whole ++ '.' :: (if fraction.isEmpty then ['0'] else fraction)

/-- A number with one digit before the point and an exponent with its sign. -/
def scientificNotation (digits : List Char) (place : Int) : List Char :=
  let mantissa :=
    match digits with
    | [] => []
    | [digit] => [digit]
    | digit :: rest => digit :: '.' :: rest
  let sign := if place < 0 then '-' else '+'
  mantissa ++ 'e' :: sign :: (Nat.repr place.natAbs).toList

def renderInteger (value : Int) : String :=
  if value < 0 then "-" ++ Nat.repr value.natAbs else Nat.repr value.natAbs

/-- A floating-point number in its shortest decimal. Zero keeps its sign. -/
def renderDouble (number : Binary64) : String :=
  let magnitude :=
    if number.mantissa = 0 then ['0', '.', '0']
    else
      let shortest := Decimal.shortest number
      let written := (Nat.repr shortest.digits).toList
      let place := shortest.exponent + (written.length : Int) - 1
      let digits := (stripZeros written.reverse).reverse
      if leastPlainPlace ≤ place ∧ place ≤ greatestPlainPlace then plainNotation digits place
      else scientificNotation digits place
  String.ofList (if number.negative then '-' :: magnitude else magnitude)

/-! ## Strings -/

def hexDigit (value : Nat) : Char :=
  Char.ofNat (if value < 10 then 48 + value else 87 + value)

/-- A character inside a string: the quote, the backslash and the control characters are escaped,
and nothing else. -/
def escapeChar (character : Char) : List Char :=
  if character = '"' then ['\\', '"']
  else if character = '\\' then ['\\', '\\']
  else if character = '\x08' then ['\\', 'b']
  else if character = '\x0c' then ['\\', 'f']
  else if character = '\n' then ['\\', 'n']
  else if character = '\r' then ['\\', 'r']
  else if character = '\t' then ['\\', 't']
  else if character.toNat < 0x20 then
    ['\\', 'u', '0', '0', hexDigit (character.toNat / 16), hexDigit (character.toNat % 16)]
  else [character]

def quote (text : String) : String :=
  String.ofList ('"' :: text.toList.flatMap escapeChar ++ ['"'])

/-! ## Values -/

def braced (content : String) : String := "\x7b" ++ content ++ "\x7d"

mutual

def compact : Json → String
  | .null => "null"
  | .bool true => "true"
  | .bool false => "false"
  | .integer value => renderInteger value
  | .double value => renderDouble value
  | .string value => quote value
  | .array items => "[" ++ ",".intercalate (compactItems items) ++ "]"
  | .object members => braced (",".intercalate (compactMembers members))

def compactItems : List Json → List String
  | [] => []
  | item :: rest => compact item :: compactItems rest

def compactMembers : List (String × Json) → List String
  | [] => []
  | (key, value) :: rest => (quote key ++ ":" ++ compact value) :: compactMembers rest

end

def newLine (level : Nat) : String :=
  String.ofList ('\n' :: List.replicate (2 * level) ' ')

/-- Rows between an opening and a closing mark, one a line; the marks alone around no rows. -/
def block (opening closing : String) (level : Nat) (rows : List String) : String :=
  if rows.isEmpty then opening ++ closing
  else
    opening ++ newLine (level + 1) ++ ("," ++ newLine (level + 1)).intercalate rows
      ++ newLine level ++ closing

mutual

def prettyAt (level : Nat) : Json → String
  | .array items => block "[" "]" level (prettyItems (level + 1) items)
  | .object members => block "\x7b" "\x7d" level (prettyMembers (level + 1) members)
  | .null => "null"
  | .bool true => "true"
  | .bool false => "false"
  | .integer value => renderInteger value
  | .double value => renderDouble value
  | .string value => quote value

def prettyItems (level : Nat) : List Json → List String
  | [] => []
  | item :: rest => prettyAt level item :: prettyItems level rest

def prettyMembers (level : Nat) : List (String × Json) → List String
  | [] => []
  | (key, value) :: rest => (quote key ++ ": " ++ prettyAt level value) :: prettyMembers level rest

end

def pretty (value : Json) : String := prettyAt 0 value

/-- A value for display: a string as it is, anything else on one line. -/
def display : Json → String
  | .string value => value
  | other => compact other

end ModelHub.Json

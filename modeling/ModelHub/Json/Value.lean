import ModelHub.Decimal.Binary64
import ModelHub.Json.Document

/-!
# JSON values

A value is what a JSON text means: strings are texts, the keys of an object are distinct and
sorted, and numbers are integers of 64 bits where they are written as such and binary
floating-point numbers otherwise. Decoding a document fails where a number is too large, where an
escape gives half of a character, and where the nesting is too deep.
-/

namespace ModelHub

/-- A JSON value. -/
inductive Json where
  | null
  | bool (value : Bool)
  | integer (value : Int)
  | double (value : Binary64)
  | string (value : String)
  | array (items : List Json)
  | object (members : List (String × Json))
  deriving Repr, Inhabited

namespace Json

/-! ## Texts -/

def isLeading (code : Nat) : Bool := decide (0xD800 ≤ code) && decide (code < 0xDC00)

def isTrailing (code : Nat) : Bool := decide (0xDC00 ≤ code) && decide (code < 0xE000)

def joinHalves (leading trailing : Nat) : Char :=
  Char.ofNat (0x10000 + (leading - 0xD800) * 0x400 + (trailing - 0xDC00))

/-- The characters of a string. A half of a character is allowed only next to its other half. -/
def decodePieces : List Piece → Option (List Char)
  | [] => some []
  | .char character :: rest => (decodePieces rest).map (character :: ·)
  | .unit code :: rest =>
    if isTrailing code then none
    else if isLeading code then
      match rest with
      | .unit other :: rest =>
        if isTrailing other then (decodePieces rest).map (joinHalves code other :: ·) else none
      | _ => none
    else (decodePieces rest).map (Char.ofNat code :: ·)

def decodeText (pieces : List Piece) : Option String :=
  (decodePieces pieces).map String.ofList

/-! ## Numbers -/

def significandBound : Nat := Nat.pow 2 64

/-- Takes digits into a significand as long as it stays below the bound, and returns the digits
that are left. -/
def absorbDigits (significand : Nat) : List Char → Nat × List Char
  | [] => (significand, [])
  | digit :: rest =>
    let next := significand * 10 + Text.digitValue digit
    if next < significandBound then absorbDigits next rest else (significand, digit :: rest)

def exponentValue : Option (Bool × List Char) → Int
  | none => 0
  | some (negative, digits) =>
    if negative then -(Text.ofDigits digits : Int) else (Text.ofDigits digits : Int)

/-- A number with a fraction or an exponent, or one too large for an integer. Digits beyond the
significand count only by their place. -/
def decodeDouble (numeral : Numeral) : Option Binary64 :=
  let whole := absorbDigits 0 numeral.whole
  let written := numeral.fraction.getD []
  let fraction := absorbDigits whole.1 written
  let taken := written.length - fraction.2.length
  Binary64.ofDecimal? numeral.negative fraction.1
    ((whole.2.length : Int) - (taken : Int) + exponentValue numeral.exponent)

/-- A number written without fraction and exponent is an integer when it fits 64 bits; negative
zero is not. Every other number is a double. -/
def decodeNumber (numeral : Numeral) : Option Json :=
  let value := Text.ofDigits numeral.whole
  let plain := numeral.fraction.isNone && numeral.exponent.isNone
  if plain && !numeral.negative && decide (value < Nat.pow 2 64) then some (.integer value)
  else if plain && numeral.negative && decide (0 < value) && decide (value ≤ Nat.pow 2 63) then
    some (.integer (-(value : Int)))
  else (decodeDouble numeral).map .double

/-! ## Objects -/

/-- Puts a member into members sorted by key; it replaces a member with the same key. -/
def insertMember (key : String) (value : Json) : List (String × Json) → List (String × Json)
  | [] => [(key, value)]
  | (otherKey, other) :: rest =>
    if key < otherKey then (key, value) :: (otherKey, other) :: rest
    else if key = otherKey then (key, value) :: rest
    else (otherKey, other) :: insertMember key value rest

/-- The members of an object: sorted by key, the last of repeated keys. -/
def sortMembers (members : List (String × Json)) : List (String × Json) :=
  members.foldl (fun sorted member => insertMember member.1 member.2 sorted) []

/-! ## Documents -/

/-- The value of a document whose arrays and objects are nested at most that deep. -/
def decode : Nat → Document → Option Json
  | _, .null => some .null
  | _, .bool value => some (.bool value)
  | _, .number numeral => decodeNumber numeral
  | _, .string pieces => (decodeText pieces).map .string
  | 0, .array _ => none
  | 0, .object _ => none
  | depth + 1, .array items => (items.mapM (decode depth)).map .array
  | depth + 1, .object members =>
    let decodeMember := fun member : List Piece × Document =>
      match decodeText member.1, decode depth member.2 with
      | some key, some value => some (key, value)
      | _, _ => none
    (members.mapM decodeMember).map fun members => .object (sortMembers members)

/-- Arrays and objects may be nested this deep. -/
def nestingLimit : Nat := 127

def read? (text : String) : Option Json :=
  (Document.read? text).bind (decode nestingLimit)

/-! ## Parts of values -/

def asString? : Json → Option String
  | .string value => some value
  | _ => none

def asArray? : Json → Option (List Json)
  | .array items => some items
  | _ => none

def asObject? : Json → Option (List (String × Json))
  | .object members => some members
  | _ => none

def get? (value : Json) (key : String) : Option Json :=
  value.asObject?.bind (List.lookup key)

def ofText? : Option String → Json
  | none => .null
  | some text => .string text

end Json

end ModelHub

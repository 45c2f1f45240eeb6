import ModelHub.Text.Reader
import ModelHub.Text.Split

/-!
# JSON texts as written

A document keeps a JSON text as it is written: numbers keep their digits, strings their escapes,
and objects the order and the repetition of their members. Reading is strict (no comments, no
trailing commas, no byte order mark, nothing after the value) but sets no bound on nesting and on
the size of numbers; these are decided when a document is decoded.
-/

namespace ModelHub.Json

open Text

/-- A piece of a string: a character, or a 16-bit unit given by an escape with four digits. -/
inductive Piece where
  | char (character : Char)
  | unit (code : Nat)
  deriving DecidableEq, Repr

/-- The digits of a number as written. -/
structure Numeral where
  negative : Bool
  whole : List Char
  fraction : Option (List Char)
  exponent : Option (Bool × List Char)
  deriving DecidableEq, Repr

/-- A JSON text as written. -/
inductive Document where
  | null
  | bool (value : Bool)
  | number (numeral : Numeral)
  | string (pieces : List Piece)
  | array (items : List Document)
  | object (members : List (List Piece × Document))
  deriving Repr

/-- Space, tab, line feed and carriage return may stand between tokens. -/
def isSpace (character : Char) : Bool :=
  character = ' ' || character = '\t' || character = '\n' || character = '\r'

def skipSpace (input : List Char) : List Char :=
  input.dropWhile isSpace

def readUnit : Reader Nat := readFixed 16 4

def simpleEscape? : Char → Option Char
  | '"' => some '"'
  | '\\' => some '\\'
  | '/' => some '/'
  | 'b' => some '\x08'
  | 'f' => some '\x0c'
  | 'n' => some '\n'
  | 'r' => some '\r'
  | 't' => some '\t'
  | _ => none

/-- The pieces of a string up to its closing quote, the opening one being read already. Each step
takes at least one character, so a count of the characters bounds the steps. -/
def readPieces : Nat → Reader (List Piece)
  | 0, _ => none
  | _ + 1, [] => none
  | _ + 1, '"' :: rest => some ([], rest)
  | steps + 1, '\\' :: 'u' :: rest =>
    match readUnit rest with
    | none => none
    | some (code, rest) =>
      match readPieces steps rest with
      | none => none
      | some (pieces, rest) => some (.unit code :: pieces, rest)
  | steps + 1, '\\' :: letter :: rest =>
    match simpleEscape? letter with
    | none => none
    | some character =>
      match readPieces steps rest with
      | none => none
      | some (pieces, rest) => some (.char character :: pieces, rest)
  | steps + 1, character :: rest =>
    if character.toNat < 0x20 ∨ character = '\\' then none
    else
      match readPieces steps rest with
      | none => none
      | some (pieces, rest) => some (.char character :: pieces, rest)

def readString : Reader (List Piece)
  | '"' :: rest => readPieces rest.length rest
  | _ => none

def readFraction : Reader (Option (List Char))
  | '.' :: rest => (readDigits rest).map fun found => (some found.1, found.2)
  | input => some (none, input)

/-- The sign of an exponent: whether it is negative. -/
def readExponentSign : List Char → Bool × List Char
  | '-' :: rest => (true, rest)
  | '+' :: rest => (false, rest)
  | input => (false, input)

def readExponent : Reader (Option (Bool × List Char))
  | [] => some (none, [])
  | mark :: rest =>
    if mark = 'e' ∨ mark = 'E' then
      let sign := readExponentSign rest
      (readDigits sign.2).map fun found => (some (sign.1, found.1), found.2)
    else some (none, mark :: rest)

/-- The whole part of a number: a zero alone, or digits that do not start with zero. -/
def readWhole (input : List Char) : Option (List Char × List Char) :=
  match readDigits input with
  | some ('0' :: _ :: _, _) => none
  | found => found

def readUnsigned (negative : Bool) (input : List Char) : Option (Numeral × List Char) :=
  match readWhole input with
  | none => none
  | some (whole, rest) =>
    match readFraction rest with
    | none => none
    | some (fraction, rest) =>
      match readExponent rest with
      | none => none
      | some (exponent, rest) => some (⟨negative, whole, fraction, exponent⟩, rest)

def readNumeral : Reader Numeral
  | '-' :: rest => readUnsigned true rest
  | input => readUnsigned false input

/-- Items with commas between them up to a closing mark, at least one item. -/
def readItems {α : Type} (item : Reader α) (closing : Char) : Nat → Reader (List α)
  | 0, _ => none
  | steps + 1, input =>
    match item (skipSpace input) with
    | none => none
    | some (first, rest) =>
      match skipSpace rest with
      | [] => none
      | mark :: rest =>
        if mark = closing then some ([first], rest)
        else if mark = ',' then
          match readItems item closing steps rest with
          | none => none
          | some (others, rest) => some (first :: others, rest)
        else none

/-- Items with commas between them up to a closing mark, possibly none. -/
def readSequence {α : Type} (item : Reader α) (closing : Char) : Reader (List α) := fun input =>
  match skipSpace input with
  | [] => none
  | mark :: rest =>
    if mark = closing then some ([], rest)
    else readItems item closing (mark :: rest).length (mark :: rest)

/-- A member of an object: a key, a colon and a value. -/
def readMember (value : Reader Document) : Reader (List Piece × Document) := fun input =>
  match readString input with
  | none => none
  | some (key, rest) =>
    match skipSpace rest with
    | ':' :: rest => (value (skipSpace rest)).map fun found => ((key, found.1), found.2)
    | _ => none

/-- A value from its first character on. The number bounds the nesting. -/
def readValue : Nat → Reader Document
  | 0, _ => none
  | depth + 1, input =>
    match input with
    | [] => none
    | '"' :: rest =>
      (readString ('"' :: rest)).map fun found => (.string found.1, found.2)
    | '[' :: rest =>
      (readSequence (readValue depth) ']' rest).map fun found => (.array found.1, found.2)
    | '\x7b' :: rest =>
      (readSequence (readMember (readValue depth)) '\x7d' rest).map fun found =>
        (.object found.1, found.2)
    | 'n' :: rest => (dropStart? ['u', 'l', 'l'] rest).map fun rest => (.null, rest)
    | 't' :: rest => (dropStart? ['r', 'u', 'e'] rest).map fun rest => (.bool true, rest)
    | 'f' :: rest => (dropStart? ['a', 'l', 's', 'e'] rest).map fun rest => (.bool false, rest)
    | first :: rest => (readNumeral (first :: rest)).map fun found => (.number found.1, found.2)

/-- Reads a text that holds one value and, around it, nothing but space. A value of that many
characters cannot be nested deeper than their number. -/
def Document.read? (text : String) : Option Document :=
  let input := skipSpace text.toList
  match readValue (input.length + 1) input with
  | none => none
  | some (document, rest) => if (skipSpace rest).isEmpty then some document else none

end ModelHub.Json

import ModelHub.Toml.Scalar

/-!
# TOML documents

A document is read line by line into statements, from which its table is put together. Arrays and
tables in braces may be nested, and keys may have parts, up to a limit.
-/

namespace ModelHub.Toml

open Text

/-- Arrays and tables in braces are nested less deep than this, and a key has fewer parts. -/
def nestingLimit : Nat := 80

/-! ## Keys -/

def isBare (character : Char) : Bool :=
  character.isAlphanum || character = '-' || character = '_'

/-- One part of a key. -/
def readKeyPart : Reader String := fun input =>
  match input with
  | [] => none
  | first :: _ =>
    if first = '"' ∨ first = '\'' then readLineString input
    else
      match input.takeWhile isBare with
      | [] => none
      | part => some (String.ofList part, input.dropWhile isBare)

/-- The parts of a key with dots between them, up to the next token that is none of it. -/
def readKeyParts : Nat → Reader (List String)
  | 0, _ => none
  | steps + 1, input =>
    match readKeyPart (skipGap input) with
    | none => none
    | some (part, rest) =>
      match skipGap rest with
      | '.' :: rest => (readKeyParts steps rest).map fun found => (part :: found.1, found.2)
      | rest => some ([part], rest)

def readKey : Reader (List String) := readKeyParts (nestingLimit - 1)

/-! ## Values -/

/-- The items of an array up to its closing bracket. A comma may follow the last one. -/
def readItems (value : Reader Toml) : Nat → Reader (List Toml)
  | 0, _ => none
  | steps + 1, input =>
    let input := skipFiller false input
    match value input with
    | some (item, rest) =>
      match skipFiller false rest with
      | ']' :: rest => some ([item], rest)
      | ',' :: rest => (readItems value steps rest).map fun found => (item :: found.1, found.2)
      | _ => none
    | none =>
      match input with
      | ']' :: rest => some ([], rest)
      | _ => none

def readAssignment (value : Reader Toml) : Reader (List String × Toml) := fun input =>
  match readKey input with
  | some (key, '=' :: rest) =>
    (value (skipGap rest)).map fun found => ((key, found.1), skipGap found.2)
  | _ => none

/-- The assignments of a table in braces, at least one; no comma follows the last one. -/
def readAssignments (value : Reader Toml) : Nat → Reader (List (List String × Toml))
  | 0, _ => none
  | steps + 1, input =>
    match readAssignment value input with
    | some (item, '\x7d' :: rest) => some ([item], rest)
    | some (item, ',' :: rest) =>
      (readAssignments value steps rest).map fun found => (item :: found.1, found.2)
    | _ => none

/-- A table in braces, after the opening one. -/
def readInline (value : Reader Toml) : Reader Toml := fun input =>
  match skipGap input with
  | '\x7d' :: rest => some (.table [], rest)
  | input =>
    match readAssignments value (input.length + 1) input with
    | none => none
    | some (assignments, rest) => (ofAssignments? assignments).map fun table => (table, rest)

/-- A value with arrays and tables nested at most that deep. -/
def readValue : Nat → Reader Toml
  | 0, input => readScalar input
  | depth + 1, input =>
    match input with
    | '[' :: rest =>
      (readItems (readValue depth) (rest.length + 1) rest).map fun found =>
        (.array found.1, found.2)
    | '\x7b' :: rest => readInline (readValue depth) rest
    | input => readScalar input

/-! ## Statements -/

/-- What follows the end of a line, if nothing but a comment stands before it. The last line needs
no end. -/
def endStatement? (input : List Char) : Option (List Char) :=
  let atEnd := fun rest : List Char => if rest.isEmpty then some [] else lineEnd? rest
  match skipGap input with
  | '#' :: rest => atEnd (rest.dropWhile isTextChar)
  | rest => atEnd rest

def readStatement : Reader Statement
  | '[' :: '[' :: rest =>
    match readKey rest with
    | some (path, ']' :: ']' :: rest) =>
      (endStatement? rest).map fun rest => (.itemHeader path, rest)
    | _ => none
  | '[' :: rest =>
    match readKey rest with
    | some (path, ']' :: rest) => (endStatement? rest).map fun rest => (.header path, rest)
    | _ => none
  | input =>
    match readAssignment (readValue (nestingLimit - 1)) input with
    | some ((key, value), rest) =>
      (endStatement? rest).map fun rest => (.assignment key value, rest)
    | none => none

/-- All statements of a document. Each step takes at least one character, so a count of the
characters bounds the steps. -/
def readStatements : Nat → List Char → Option (List Statement)
  | 0, _ => none
  | steps + 1, input =>
    match skipFiller false input with
    | [] => some []
    | input =>
      match readStatement input with
      | none => none
      | some (statement, rest) => (readStatements steps rest).map (statement :: ·)

def skipByteOrderMark : List Char → List Char
  | '\uFEFF' :: rest => rest
  | input => input

/-- The entries of the document that a text is, if it is one. -/
def parse? (text : String) : Option (List (String × Toml)) :=
  let input := skipByteOrderMark text.toList
  (readStatements (input.length + 1) input).bind ofStatements?

end ModelHub.Toml

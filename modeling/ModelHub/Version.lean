import ModelHub.Text.Blank
import ModelHub.Text.Digits

/-!
# Versions

A version is a list of natural numbers written with dots between them. Two versions are compared
number by number from the left, and the shorter one counts as continued by zeros, so `1.0` and
`1.0.0` are equal. Text that is not such a list, `*` among them, has no place in the order.
-/

namespace ModelHub

/-- The numbers of a version, from the left. -/
structure Version where
  components : List Nat
  deriving Repr

namespace Version

/-- Why a text is no version. -/
inductive ParseError where
  | empty
  | invalidComponent (piece : String)
  deriving DecidableEq, Repr

/-- The words in which a refusal is reported. -/
def ParseError.message : ParseError → String
  | .empty => "version is empty"
  | .invalidComponent piece => s!"version component \"{piece}\" is not a non-negative integer"

/-- Every number of a version lies below this bound. -/
def componentBound : Nat := Nat.pow 2 64

/-- A piece denotes a number when it is a non-empty row of ASCII digits with a value below the
bound. Leading zeros are allowed, a sign is not. -/
def parseComponent (piece : List Char) : Option Nat :=
  if !piece.isEmpty && piece.all Char.isDigit && decide (Text.ofDigits piece < componentBound) then
    some (Text.ofDigits piece)
  else none

/-- The numbers that the pieces denote, or the first piece that denotes none. -/
def parseComponents : List (List Char) → Except ParseError (List Nat)
  | [] => .ok []
  | piece :: rest =>
    match parseComponent piece with
    | none => .error (.invalidComponent (String.ofList piece))
    | some value =>
      match parseComponents rest with
      | .error reason => .error reason
      | .ok values => .ok (value :: values)

/-- Reads a version, ignoring blank characters around it. -/
def parse (text : String) : Except ParseError Version :=
  match Text.trimBoth text.toList with
  | [] => .error .empty
  | first :: rest =>
    match parseComponents ((first :: rest).splitOn '.') with
    | .error reason => .error reason
    | .ok values => .ok ⟨values⟩

/-- The version a text denotes, if it denotes one. -/
def parse? (text : String) : Option Version :=
  (parse text).toOption

/-- Writes a version: its numbers in decimal with dots between them. -/
def render (version : Version) : String :=
  ".".intercalate (version.components.map Nat.repr)

/-- Compares two rows of numbers from the left; a row that has ended counts as continued by
zeros. -/
def compareComponents : List Nat → List Nat → Ordering
  | [], rights => if rights.all (· == 0) then .eq else .lt
  | left :: lefts, rights =>
    (compare left (rights.headD 0)).then (compareComponents lefts rights.tail)

/-- The order of versions. -/
def order (left right : Version) : Ordering :=
  compareComponents left.components right.components

/-- Versions are the same when neither of them is higher, whether or not they end with zeros. -/
instance : BEq Version := ⟨fun left right => order left right = .eq⟩

/-- Compares two texts as versions; there is no answer when one of them denotes none. -/
def compareTexts (left right : String) : Option Ordering :=
  match parse? left, parse? right with
  | some leftVersion, some rightVersion => some (order leftVersion rightVersion)
  | _, _ => none

/-- The better of the version kept so far and a further text: the text replaces it only when it
denotes a strictly higher version. -/
def keepHighest (best : Option (String × Version)) (text : String) : Option (String × Version) :=
  match parse? text with
  | none => best
  | some version =>
    match best with
    | none => some (text, version)
    | some (_, current) => if order version current = .gt then some (text, version) else best

/-- The text, as given, of the highest version among the texts; of equal versions the first. -/
def latest (texts : List String) : Option String :=
  (texts.foldl keepHighest none).map (·.1)

/-- The texts in the order of the versions that they denote; equal ones stay in the order in which
they are given. A text that denotes none leaves no order. -/
def sortTexts (texts : List String) : Except ParseError (List String) :=
  match texts.mapM fun text => (parse text).map fun version => (text, version) with
  | .error reason => .error reason
  | .ok pairs =>
    .ok ((pairs.mergeSort fun left right => decide (order left.2 right.2 ≠ .gt)).map (·.1))

end Version

end ModelHub

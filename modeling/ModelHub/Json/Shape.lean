import ModelHub.Json.Value

/-!
# Fixed shapes

A document that is read into a fixed list of fields gives each field at most once. It may be an
object, where unknown keys are passed over without looking at their values, or an array of the
fields in their order, where fields at the end may be missing.
-/

namespace ModelHub.Json

def decodeKeys (members : List (List Piece × Document)) : Option (List (String × Document)) :=
  members.mapM fun member => (decodeText member.1).map fun key => (key, member.2)

/-- The only value under a key, `some none` when there is none, and nothing when it is
repeated. -/
def onlyValue? (members : List (String × Document)) (key : String) : Option (Option Document) :=
  match members.filter fun member => member.1 = key with
  | [] => some none
  | [member] => some (some member.2)
  | _ => none

/-- The fields of a document in the order of their names, each present or missing. -/
def fields? (names : List String) : Document → Option (List (Option Document))
  | .object members =>
    match decodeKeys members with
    | none => none
    | some members => names.mapM (onlyValue? members)
  | .array items =>
    if items.length ≤ names.length then
      some (items.map some ++ List.replicate (names.length - items.length) none)
    else none
  | _ => none

def textField? : Document → Option String
  | .string pieces => decodeText pieces
  | _ => none

/-- The text of a string document, or none for null and for a field that is missing. -/
def optionalTextField? : Option Document → Option (Option String)
  | none => some none
  | some .null => some none
  | some document => (textField? document).map some

def listField? {α : Type} (item : Document → Option α) : Document → Option (List α)
  | .array items => items.mapM item
  | _ => none

/-- An object kept as a map, with values nested at most that deep below it. -/
def mapField? (depth : Nat) (document : Document) : Option (List (String × Json)) :=
  (decode depth document).bind asObject?

end ModelHub.Json

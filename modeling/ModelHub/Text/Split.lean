/-!
# The parts of a text

Splitting a text at the first occurrence of a mark, and telling what it begins with.
-/

namespace ModelHub.Text

/-- The characters before and after the first occurrence of a mark, if it occurs. -/
def splitFirst (mark : Char) : List Char → Option (List Char × List Char)
  | [] => none
  | character :: rest =>
    if character = mark then some ([], rest)
    else (splitFirst mark rest).map fun halves => (character :: halves.1, halves.2)

/-- Drops the characters of a beginning from the front, if they stand there. -/
def dropStart? : List Char → List Char → Option (List Char)
  | [], text => some text
  | _ :: _, [] => none
  | expected :: rest, character :: text =>
    if expected = character then dropStart? rest text else none

def beginsWith (start text : String) : Bool := (dropStart? start.toList text.toList).isSome

end ModelHub.Text

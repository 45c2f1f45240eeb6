import ModelHub.Text.Digits

/-!
# Readers

A reader takes what it reads from the front of a row of characters and gives back the rest, or it
refuses them.
-/

namespace ModelHub.Text

abbrev Reader (α : Type) : Type := List Char → Option (α × List Char)

def readDigits : Reader (List Char) := fun input =>
  match input.takeWhile Char.isDigit with
  | [] => none
  | digits => some (digits, input.dropWhile Char.isDigit)

def readFixed (base count : Nat) : Reader Nat := fun input =>
  let digits := input.take count
  if digits.length = count then
    (numberInBase? base digits).map fun value => (value, input.drop count)
  else none

end ModelHub.Text

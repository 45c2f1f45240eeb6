import ModelHub.Text.Split

/-!
# Bootstring code

A label of a host name with characters beyond ASCII is written as `xn--` and the Bootstring code
of its characters: those in ASCII, a hyphen, and for each other one, from the smallest on, how far
it is from the one before, counted over all places where it could stand.
-/

namespace ModelHub.Url

/-! ## Digits -/

/-- The bias of the first code after some code points are written. -/
def adaptBias (delta points : Nat) (first : Bool) : Nat :=
  let start := if first then delta / 700 else delta / 2
  go (start + start / points) 0 64
where
  /-- Halves the range of the digits until the delta fits it. -/
  go (delta bias : Nat) : Nat → Nat
    | 0 => bias
    | steps + 1 =>
      if 455 < delta then go (delta / 35) (bias + 36) steps else bias + 36 * delta / (delta + 38)

/-- A digit of base 36: letters, then figures. -/
def bootstringDigit (value : Nat) : Char :=
  Char.ofNat (if value < 26 then 97 + value else 22 + value)

def bootstringValue? (digit : Char) : Option Nat :=
  if digit.isLower then some (digit.toNat - 97)
  else if digit.isUpper then some (digit.toNat - 65)
  else if digit.isDigit then some (digit.toNat - 22)
  else none

/-- A digit below the threshold of its place ends a number. -/
def digitThreshold (bias base : Nat) : Nat :=
  if base ≤ bias then 1 else if bias + 26 ≤ base then 26 else base - bias

/-- A number as a row of digits with thresholds that depend on the bias. -/
def bootstringNumber (number bias base : Nat) : Nat → List Char
  | 0 => []
  | steps + 1 =>
    let threshold := digitThreshold bias base
    if number < threshold then [bootstringDigit number]
    else
      let width := 36 - threshold
      bootstringDigit (threshold + (number - threshold) % width)
        :: bootstringNumber ((number - threshold) / width) bias (base + 36) steps

/-- Reads a number to which each digit adds its value at the weight of its place. Gives what
follows it too. -/
def readBootstring? (bias base weight number : Nat) : List Char → Option (Nat × List Char)
  | [] => none
  | digit :: rest =>
    (bootstringValue? digit).bind fun value =>
      let threshold := digitThreshold bias base
      let sum := number + value * weight
      if value < threshold then some (sum, rest)
      else readBootstring? bias (base + 36) (weight * (36 - threshold)) sum rest

/-! ## Writing labels -/

/-- What is carried from one code point to the next while a label is written. -/
structure Bootstring where
  delta : Nat
  bias : Nat
  handled : Nat
  output : List Char

/-- Passes one character of the label at the current code point. -/
def Bootstring.pass (basic code : Nat) (state : Bootstring) (character : Char) : Bootstring :=
  if character.toNat < code then { state with delta := state.delta + 1 }
  else if character.toNat = code then
    { delta := 0
      bias := adaptBias state.delta (state.handled + 1) (state.handled = basic)
      handled := state.handled + 1
      output := state.output ++ bootstringNumber state.delta state.bias 36 64 }
  else state

/-- Writes the code points of a label from the smallest on that are beyond ASCII. -/
def Bootstring.run (label : List Char) (basic : Nat) : Nat → Nat → Bootstring → List Char
  | 0, _, state => state.output
  | steps + 1, code, state =>
    match (label.map Char.toNat).filter fun other => decide (code ≤ other) with
    | [] => state.output
    | first :: rest =>
      let next := rest.foldl min first
      let started := { state with delta := state.delta + (next - code) * (state.handled + 1) }
      let passed := label.foldl (Bootstring.pass basic next) started
      Bootstring.run label basic steps (next + 1) { passed with delta := passed.delta + 1 }

def asciiLabel (label : List Char) : List Char :=
  let basic := label.filter fun character => decide (character.toNat < 0x80)
  if basic.length = label.length then label
  else
    let start := if basic.isEmpty then [] else basic ++ ['-']
    ['x', 'n', '-', '-']
      ++ Bootstring.run label basic.length label.length 0x80 ⟨0, 72, basic.length, start⟩

/-! ## Reading labels -/

/-- Puts further characters into a label: each number says how many places the next one is away
from the last. -/
def insertCoded? (code bias place : Nat) (label : List Char) :
    Nat → List Char → Option (List Char)
  | _, [] => some label
  | 0, _ => none
  | steps + 1, digits =>
    (readBootstring? bias 36 1 place digits).bind fun (sum, rest) =>
      let size := label.length + 1
      let next := code + sum / size
      if next.isValidChar then
        insertCoded? next (adaptBias (sum - place) size (place = 0)) (sum % size + 1)
          (label.insertIdx (sum % size) (Char.ofNat next)) steps rest
      else none

/-- The characters of which a label is the code, from behind `xn--` on. The hyphen after the
characters in ASCII is not written when there are none. -/
def codedLabel? (code : List Char) : Option (List Char) :=
  match Text.splitFirst '-' code.reverse with
  | none => insertCoded? 0x80 72 0 [] code.length code
  | some (_, []) => none
  | some (digits, basic) => insertCoded? 0x80 72 0 basic.reverse code.length digits.reverse

end ModelHub.Url

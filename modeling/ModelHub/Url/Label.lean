import ModelHub.Text.Composed
import ModelHub.Text.Direction
import ModelHub.Text.Joining
import ModelHub.Url.HostForm
import ModelHub.Url.Punycode

/-!
# Labels of host names

A label is a part of a host name between dots. Whatever it is written in, it stands for a row of
characters, and not every row may stand in a name: it starts with no mark, invisible joiners only
stand where they change how letters are joined, and letters from right to left are not mixed with
others.
-/

namespace ModelHub.Url

/-- A label: the characters it stands for, and how it is written in ASCII. -/
structure Label where
  characters : List Char
  written : List Char
  deriving DecidableEq, Repr

namespace Label

def isForeign (character : Char) : Bool := decide (0x80 ≤ character.toNat)

/-- No longer code of a label is read. -/
def codeLimit : Nat := 2000

/-- No longer label is written as a code. -/
def sizeLimit : Nat := 1000

/-- A label in ASCII may have any length. -/
def isTooLong (characters : List Char) : Bool :=
  characters.any isForeign && decide (sizeLimit < characters.length)

/-- Characters that are their own forms, and composed. -/
def isNormal (characters : List Char) : Bool :=
  decide (hostForms? characters = some characters)
    && decide (Text.composed characters = characters)

/-- Reads a label of a name in its composed form. A label that starts with `xn--` is the code of
other characters, which have to be normal and not all in ASCII. -/
def ofForm? (text : List Char) : Option Label :=
  match Text.dropStart? ['x', 'n', '-', '-'] text with
  | none => if isTooLong text then none else some ⟨text, asciiLabel text⟩
  | some code =>
    if codeLimit < code.length ∨ code.any isForeign then none
    else
      (codedLabel? code).bind fun characters =>
        if characters.any isForeign && !isTooLong characters && isNormal characters then
          some ⟨characters, text⟩
        else none

/-! ## Joiners -/

/-- The joiners, which show nothing and act on the letters around them. -/
def joiners : List Char := ['\u200c', '\u200d']

/-- The letter next to a joiner, past all that letters are joined across, is of the kind asked
for. -/
def meetsLetter (kind : Char → Bool) (neighbours : List Char) : Bool :=
  ((neighbours.find? fun letter => kind letter || !Text.isJoiningTransparent letter)).any kind

/-- A joiner may follow the sign that suppresses a vowel. The one that separates may also stand
between two letters that would be joined. The characters before it come in reverse. -/
def joinerFits (joiner : Char) (before after : List Char) : Bool :=
  before.head?.any fun last =>
    Text.combiningClass last = Text.viramaClass
      || (joiner = '\u200c' && meetsLetter Text.joinsForward before
        && meetsLetter Text.joinsBackward after)

/-- Every joiner fits. -/
def joinersFit (before : List Char) : List Char → Bool
  | [] => true
  | character :: after =>
    (!joiners.contains character || joinerFits character before after)
      && joinersFit (character :: before) after

/-! ## Directions -/

/-- The directions that make a name one with letters from right to left. -/
def turningDirections : List Text.Direction := [.rightToLeft, .arabicNumber]

/-- The label has letters or digits that are written from right to left. -/
def turns (label : Label) : Bool :=
  label.characters.any fun character => turningDirections.contains (Text.direction character)

def directions (label : Label) : List Text.Direction :=
  ((label.characters.map Text.direction).reverse.dropWhile (· = .mark)).reverse

/-- A label that starts from left to right has nothing from right to left and ends in a letter or
a European digit. -/
def runsForward (directions : List Text.Direction) : Bool :=
  directions.all (fun direction => !turningDirections.contains direction)
    && directions.getLast?.any fun last => last = .leftToRight || last = .europeanNumber

/-- A label that starts from right to left has no letter from left to right, ends in a letter or a
digit, and has digits of one kind only. -/
def runsBackward (directions : List Text.Direction) : Bool :=
  !directions.contains .leftToRight
    && directions.getLast?.any (fun last => last ≠ .neutral)
    && !(directions.contains .arabicNumber && directions.contains .europeanNumber)

/-- A label of a name with letters from right to left starts with a letter and keeps to its
direction. An empty one has none. -/
def keepsDirection (label : Label) : Bool :=
  match label.directions with
  | [] => label.characters.isEmpty
  | .leftToRight :: rest => runsForward (.leftToRight :: rest)
  | .rightToLeft :: rest => runsBackward (.rightToLeft :: rest)
  | _ => false

/-! ## Names -/

def isSound (label : Label) : Bool :=
  !label.characters.head?.any Text.isMark && joinersFit [] label.characters

/-- Labels that make a name. -/
def areSound (labels : List Label) : Bool :=
  labels.all isSound && (!labels.any turns || labels.all keepsDirection)

def writeName? (name : List Char) : Option (List Char) :=
  ((name.splitOn '.').mapM ofForm?).bind fun labels =>
    if areSound labels then some (['.'].intercalate (labels.map written)) else none

end Label

end ModelHub.Url

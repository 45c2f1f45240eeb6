import ModelHub.Text.CombiningClass
import ModelHub.Text.Composite

/-!
# Composed texts

Texts that differ only in how accents and syllables are put together have one composed form:
composites are taken apart, marks are brought into the order of their classes, and then every
character is composed with those after it as far as nothing stands between them.
-/

namespace ModelHub.Text

def syllableLetters? (syllable : Char) : Option (List Char) :=
  let code := syllable.toNat
  if code < 0xAC00 ∨ 0xD7A3 < code then none
  else
    let place := code - 0xAC00
    let pair := [Char.ofNat (0x1100 + place / 588), Char.ofNat (0x1161 + place % 588 / 28)]
    some (if place % 28 = 0 then pair else pair ++ [Char.ofNat (0x11A7 + place % 28)])

/-- The syllable of Hangul that two letters, or an open syllable and a letter, make. -/
def syllable? (first second : Char) : Option Char :=
  let front := first.toNat
  let back := second.toNat
  if 0x1100 ≤ front ∧ front ≤ 0x1112 ∧ 0x1161 ≤ back ∧ back ≤ 0x1175 then
    some (Char.ofNat (0xAC00 + (front - 0x1100) * 588 + (back - 0x1161) * 28))
  else if 0xAC00 ≤ front ∧ front ≤ 0xD7A3 ∧ (front - 0xAC00) % 28 = 0 ∧
      0x11A8 ≤ back ∧ back ≤ 0x11C2 then
    some (Char.ofNat (front + (back - 0x11A7)))
  else none

def compose? (first second : Char) : Option Char :=
  (syllable? first second).orElse fun _ => composite? first second

/-- The parts of a character, taken apart as often as the depth says. The second part of a
composite is never one itself. -/
def partsOf : Nat → Char → List Char
  | 0, character => [character]
  | depth + 1, character =>
    match syllableLetters? character with
    | some letters => letters
    | none =>
      match components? character with
      | some (first, second) => partsOf depth first ++ [second]
      | none => [character]

/-- No composite is nested deeper. -/
def compositeDepth : Nat := 4

/-- Adds a character to a reversed text, before the marks of higher classes at its end. -/
def insertMark (mark : Char) : List Char → List Char
  | [] => [mark]
  | last :: before =>
    if combiningClass mark ≠ 0 ∧ combiningClass mark < combiningClass last then
      last :: insertMark mark before
    else mark :: last :: before

def orderMarks (text : List Char) : List Char :=
  (text.foldl (fun reversed character => insertMark character reversed) []).reverse

/-- Composes a character with what follows it. The marks that stay apart from it are kept in
reverse; a further mark is free to compose if its class is higher than theirs. -/
def composeFrom (starter : Char) (marks : List Char) : List Char → List Char
  | [] => starter :: marks.reverse
  | next :: rest =>
    let free := marks.head?.all fun last => decide (combiningClass last < combiningClass next)
    match if free then compose? starter next else none with
    | some whole => composeFrom whole marks rest
    | none =>
      if combiningClass next = 0 then starter :: marks.reverse ++ composeFrom next [] rest
      else composeFrom starter (next :: marks) rest

/-- Composes a text with marks in order. -/
def composeOrdered : List Char → List Char
  | [] => []
  | character :: rest =>
    if combiningClass character = 0 then composeFrom character [] rest
    else character :: composeOrdered rest

def composed (text : List Char) : List Char :=
  if text.all fun character => decide (character.toNat < 0x80) then text
  else composeOrdered (orderMarks (text.flatMap (partsOf compositeDepth)))

/-- A text in ASCII is its own composed form. -/
theorem composed_of_ascii {text : List Char}
    (ascii : ∀ character ∈ text, character.toNat < 0x80) : composed text = text := by
  have all : (text.all fun character => decide (character.toNat < 0x80)) = true := by
    simpa using ascii
  simp [composed, all]

end ModelHub.Text

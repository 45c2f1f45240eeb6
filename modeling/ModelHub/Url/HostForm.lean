import ModelHub.Text.CodeRange
import ModelHub.Url.HostForm.Long
import ModelHub.Url.HostForm.Ranges
import ModelHub.Url.HostForm.Single

/-!
# Characters of host names

A host name is the same in capitals and small letters, in full and in half width, with and without
invisible signs. Each character stands for a form, which is what the name is compared and written
in; some characters may stand in no name.
-/

namespace ModelHub.Url

/-- The form of a code point in a row of forms at a fixed distance. -/
def shiftedForm? (code : Nat) : Option (List Char) :=
  shiftedRanges.findSome? fun row =>
    if row.1 ≤ code ∧ code ≤ row.2.1 ∧ (code - row.1) % row.2.2.1 = 0 then
      some [Char.ofNat (row.2.2.2 + (code - row.1))]
    else none

/-- The form of a code point whose form is one other character. -/
def singleForm? (code : Nat) : Option (List Char) :=
  singleForms.findSome? fun row =>
    if row.1 ≤ code then (row.2.toList[code - row.1]?).map fun form => [form] else none

/-- The form of a code point whose form is several characters. -/
def longForm? (code : Nat) : Option (List Char) :=
  longForms.findSome? fun row =>
    if row.1 ≤ code then (row.2.toList.splitOn ' ')[code - row.1]? else none

/-- What a character of a host name stands for, if a host name may hold it. In ASCII only capitals
stand for something else; which signs are refused is decided for the whole name. -/
def hostForm? (character : Char) : Option (List Char) :=
  let code := character.toNat
  if code < 0x80 then some [character.toLower]
  else if Text.inRanges ignoredRanges code then some []
  else
    (shiftedForm? code).orElse fun _ =>
    (singleForm? code).orElse fun _ =>
    (longForm? code).orElse fun _ =>
      if Text.inRanges allowedRanges code then some [character] else none

def hostForms? (text : List Char) : Option (List Char) :=
  (text.mapM hostForm?).map List.flatten

/-- In ASCII a character stands for its small letter. -/
theorem hostForm?_of_ascii {character : Char} (ascii : character.toNat < 0x80) :
    hostForm? character = some [character.toLower] := by
  simp [hostForm?, ascii]

/-- A text in ASCII stands for the same text in small letters. -/
theorem hostForms?_of_ascii {text : List Char}
    (ascii : ∀ character ∈ text, character.toNat < 0x80) :
    hostForms? text = some (text.map Char.toLower) := by
  induction text with
  | nil => rfl
  | cons character rest ih =>
    have tail := ih fun other member => ascii other (List.mem_cons_of_mem _ member)
    have head := hostForm?_of_ascii (ascii character List.mem_cons_self)
    simp only [hostForms?, Option.map_eq_some_iff] at tail
    obtain ⟨forms, found, flat⟩ := tail
    simp [hostForms?, List.mapM_cons, head, found, flat]

end ModelHub.Url

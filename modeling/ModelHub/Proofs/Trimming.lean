import Mathlib.Data.List.DropRight
import ModelHub.Text.Blank
import ModelHub.Version

/-!
# Trimming

What is left after trimming neither begins nor ends with a blank character, so trimming it again
changes nothing. A character that is not blank stops it on either side, so what lies beyond that
character stays as it is. Versions are trimmed before they are read.
-/

namespace ModelHub

namespace Text

/-- Trimming the end takes nothing from the front, so no blank character is left there. -/
private theorem dropWhile_trimBoth (characters : List Char) :
    (trimBoth characters).dropWhile isBlank = trimBoth characters := by
  have isPrefix : trimBoth characters <+: characters.dropWhile isBlank :=
    List.rdropWhile_prefix isBlank (characters.dropWhile isBlank)
  rw [List.dropWhile_eq_self_iff]
  intro nonempty
  have frontNonempty : 0 < (characters.dropWhile isBlank).length :=
    Nat.lt_of_lt_of_le nonempty isPrefix.length_le
  rw [isPrefix.getElem nonempty]
  exact List.dropWhile_get_zero_not isBlank characters frontNonempty

theorem trimBoth_trimBoth (characters : List Char) :
    trimBoth (trimBoth characters) = trimBoth characters := by
  have again : trimBoth (trimBoth characters) = trimEnd (trimBoth characters) :=
    congrArg trimEnd (dropWhile_trimBoth characters)
  rw [again]
  exact List.rdropWhile_idempotent isBlank (characters.dropWhile isBlank)

/-- The text is not empty and has no blank characters around it. -/
structure IsTrimmed (text : String) : Prop where
  ne_empty : text ≠ ""
  trim_eq : trim text = text

theorem toList_trim (text : String) : (trim text).toList = trimBoth text.toList := by
  simp [trim]

theorem trim_trim (text : String) : trim (trim text) = trim text := by
  rw [trim, toList_trim, trimBoth_trimBoth, ← trim]

/-- A text without blank characters is left as it is. -/
theorem trim_eq_self {text : String}
    (noBlank : ∀ character ∈ text.toList, isBlank character = false) : trim text = text := by
  have front : text.toList.dropWhile isBlank = text.toList := by
    rw [List.dropWhile_eq_self_iff]
    intro nonempty
    rw [noBlank _ (List.getElem_mem nonempty)]
    exact Bool.false_ne_true
  have back : text.toList.rdropWhile isBlank = text.toList := by
    rw [List.rdropWhile_eq_self_iff]
    intro nonempty
    rw [noBlank _ (List.getLast_mem nonempty)]
    exact Bool.false_ne_true
  have whole : trimBoth text.toList = text.toList := by
    unfold trimBoth
    rw [front]
    exact back
  rw [trim, whole, String.ofList_toList]

theorem isBlank_eq_false_of_isDigit {character : Char} (digit : character.isDigit = true) :
    isBlank character = false := by
  have isAscii : 48 ≤ character.toNat ∧ character.toNat ≤ 57 := by
    simpa [Char.isDigit, UInt32.le_iff_toNat_le] using digit
  simp only [isBlank, inRanges, blankRanges, List.any_cons, List.any_nil, Bool.or_eq_false_iff,
    Bool.and_eq_false_iff, decide_eq_false_iff_not, and_true]
  omega

/-! ## Beside other characters -/

variable {before after text : List Char} {character blank : Char}

/-- Blank characters are dropped only up to the first one that is not blank. -/
theorem dropWhile_append_cons (notBlank : isBlank character = false) :
    (before ++ character :: after).dropWhile isBlank =
      before.dropWhile isBlank ++ character :: after := by
  rw [List.dropWhile_append]
  by_cases allBlank : (before.dropWhile isBlank).isEmpty = true
  · rw [if_pos allBlank, List.isEmpty_iff.1 allBlank,
      List.dropWhile_cons_of_neg (by simp [notBlank])]
    rfl
  · rw [if_neg allBlank]

theorem trimEnd_append_cons (notBlank : isBlank character = false) :
    trimEnd (before ++ character :: after) = before ++ character :: trimEnd after := by
  unfold trimEnd
  rw [List.reverse_append, List.reverse_cons, List.append_assoc, List.singleton_append,
    dropWhile_append_cons notBlank]
  simp

theorem trimEnd_cons (notBlank : isBlank character = false) :
    trimEnd (character :: after) = character :: trimEnd after :=
  @trimEnd_append_cons [] after character notBlank

theorem trimBoth_append_cons (notBlank : isBlank character = false) :
    trimBoth (before ++ character :: after) =
      before.dropWhile isBlank ++ character :: trimEnd after := by
  unfold trimBoth
  rw [dropWhile_append_cons notBlank, trimEnd_append_cons notBlank]

theorem trimBoth_cons (notBlank : isBlank character = false) :
    trimBoth (character :: after) = character :: trimEnd after :=
  @trimBoth_append_cons [] after character notBlank

theorem trimBoth_cons_of_isBlank (isBlank : isBlank blank = true) :
    trimBoth (blank :: text) = trimBoth text := by
  unfold trimBoth
  rw [List.dropWhile_cons_of_pos isBlank]

theorem trimBoth_append_of_isBlank (blankEnd : isBlank blank = true) :
    trimBoth (text ++ [blank]) = trimBoth text := by
  have endDropped (front : List Char) : trimEnd (front ++ [blank]) = trimEnd front :=
    List.rdropWhile_concat_pos isBlank front blank blankEnd
  unfold trimBoth
  rw [List.dropWhile_append]
  by_cases allBlank : (text.dropWhile isBlank).isEmpty = true
  · rw [if_pos allBlank, List.isEmpty_iff.1 allBlank, List.dropWhile_cons_of_pos blankEnd]
    rfl
  · rw [if_neg allBlank, endDropped]

end Text

namespace Version

/-- Blank characters around a version are ignored. -/
theorem parse?_trim (text : String) : parse? (Text.trim text) = parse? text := by
  unfold parse? parse
  rw [Text.toList_trim, Text.trimBoth_trimBoth]

/-- A text of blank characters is no version. -/
theorem parse?_eq_none_of_trim_eq {text : String} (blank : Text.trim text = "") :
    parse? text = none := by
  rw [← parse?_trim, blank]
  rfl

end Version

end ModelHub

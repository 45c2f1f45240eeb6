import ModelHub.Text.Blank
import ModelHub.Text.Split

/-!
# Marks, lines and words

What stands before the first mark of a text is found again, and a text without a mark is one piece.
A text that is written line by line, with a line feed after each, is split into these lines again. A
line is split at its blank characters into words; how many blank characters stand between two words,
before the first or after the last, makes no difference.
-/

namespace ModelHub.Text

/-! ## Marks -/

section Marks

variable {mark : Char} {characters before : List Char}

theorem splitFirst_append (noMark : mark ∉ before) (after : List Char) :
    splitFirst mark (before ++ mark :: after) = some (before, after) := by
  induction before with
  | nil =>
      simp [splitFirst]
  | cons character before inductionHypothesis =>
      rw [List.mem_cons, not_or] at noMark
      obtain ⟨notMark, noMarkAfter⟩ := noMark
      rw [List.cons_append, splitFirst, if_neg (Ne.symm notMark),
        inductionHypothesis noMarkAfter]
      rfl

theorem splitFirst_of_not_mem (noMark : mark ∉ characters) : splitFirst mark characters = none := by
  induction characters with
  | nil =>
      rfl
  | cons character characters inductionHypothesis =>
      rw [List.mem_cons, not_or] at noMark
      obtain ⟨notMark, noMarkAfter⟩ := noMark
      rw [splitFirst, if_neg (Ne.symm notMark), inductionHypothesis noMarkAfter]
      rfl

theorem splitOn_of_not_mem (noMark : mark ∉ characters) :
    characters.splitOn mark = [characters] := by
  refine List.splitOnP_eq_singleton fun character member => ?_
  rw [beq_eq_false_iff_ne]
  rintro rfl
  exact noMark member

end Marks

/-! ## Words -/

/-- The pieces between the blank characters of a text, without the empty ones. -/
def splitWords (characters : List Char) : List (List Char) :=
  (characters.splitOnP isBlank).filter fun piece => !piece.isEmpty

/-- Some characters, none of them blank. -/
structure IsWord (characters : List Char) : Prop where
  ne_nil : characters ≠ []
  notBlank : ∀ character ∈ characters, isBlank character = false

theorem isWord_iff {characters : List Char} :
    IsWord characters ↔ characters ≠ [] ∧ characters.all (fun character => !isBlank character) := by
  simp only [List.all_eq_true, Bool.not_eq_true']
  exact ⟨fun word => ⟨word.ne_nil, word.notBlank⟩, fun both => ⟨both.1, both.2⟩⟩

instance (characters : List Char) : Decidable (IsWord characters) :=
  decidable_of_iff _ isWord_iff.symm

@[simp]
theorem splitWords_nil : splitWords [] = [] := by
  simp [splitWords, List.splitOnP_nil]

theorem splitWords_append_cons {blank : Char} (blankMark : isBlank blank = true)
    (before after : List Char) :
    splitWords (before ++ blank :: after) = splitWords before ++ splitWords after := by
  unfold splitWords
  rw [List.splitOnP_append_cons before after blankMark, List.filter_append]

theorem splitWords_cons {blank : Char} (blankMark : isBlank blank = true) (after : List Char) :
    splitWords (blank :: after) = splitWords after := by
  simpa using splitWords_append_cons blankMark [] after

theorem IsWord.splitWords_eq {word : List Char} (isWord : IsWord word) :
    splitWords word = [word] := by
  unfold splitWords
  rw [List.splitOnP_eq_singleton isWord.notBlank]
  simp [isWord.ne_nil]

theorem isBlank_space : isBlank ' ' = true := by decide

theorem splitWords_spaces_append (count : Nat) (after : List Char) :
    splitWords (List.replicate count ' ' ++ after) = splitWords after := by
  induction count with
  | zero =>
      rfl
  | succ count inductionHypothesis =>
      rw [List.replicate_succ, List.cons_append, splitWords_cons isBlank_space,
        inductionHypothesis]

/-- Spaces after a word are not part of it. -/
theorem IsWord.splitWords_append_spaces {word : List Char} (isWord : IsWord word) (count : Nat) :
    splitWords (word ++ List.replicate count ' ') = [word] := by
  cases count with
  | zero =>
      rw [List.replicate_zero, List.append_nil, isWord.splitWords_eq]
  | succ count =>
      have noWords : splitWords (List.replicate count ' ') = [] := by
        simpa using splitWords_spaces_append count []
      rw [List.replicate_succ, splitWords_append_cons isBlank_space, isWord.splitWords_eq,
        noWords, List.append_nil]

theorem IsWord.lineFeed_not_mem {word : List Char} (isWord : IsWord word) : '\n' ∉ word := by
  intro member
  have notBlank := isWord.notBlank '\n' member
  revert notBlank
  decide

/-! ## Lines -/

/-- The lines of a text. A line feed ends a line, so nothing is left behind the last one. -/
def splitLines (characters : List Char) : List (List Char) :=
  let pieces := characters.splitOn '\n'
  if pieces.getLast? = some [] then pieces.dropLast else pieces

theorem splitOn_endedLines {lines : List (List Char)}
    (unbroken : ∀ line ∈ lines, '\n' ∉ line) :
    (lines.flatMap fun line => line ++ ['\n']).splitOn '\n' = lines ++ [[]] := by
  induction lines with
  | nil =>
      rfl
  | cons line lines inductionHypothesis =>
      obtain ⟨lineUnbroken, othersUnbroken⟩ := List.forall_mem_cons.1 unbroken
      rw [List.flatMap_cons, List.append_assoc, List.singleton_append,
        List.splitOn_append_cons_self, splitOn_of_not_mem lineUnbroken,
        inductionHypothesis othersUnbroken, List.singleton_append, List.cons_append]

/-- Lines that were written with a line feed after each are found again. -/
theorem splitLines_endedLines {lines : List (List Char)}
    (unbroken : ∀ line ∈ lines, '\n' ∉ line) :
    splitLines (lines.flatMap fun line => line ++ ['\n']) = lines := by
  unfold splitLines
  rw [splitOn_endedLines unbroken]
  simp

end ModelHub.Text

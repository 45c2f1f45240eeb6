import Mathlib.Data.List.DropRight
import Mathlib.Logic.Relation
import ModelHub.Proofs.Trimming
import ModelHub.Proofs.VersionOrder

/-!
# Comparing texts as versions

Two texts can be compared exactly if both denote versions, and then the comparison is a total
preorder. Its answer depends only on the components up to the zeros at the end, so texts that
differ in blank characters around them, in zeros in front of a component or in components that are
zero at the end compare alike with any other text.
-/

namespace ModelHub.Version

/-! ## Zeros at the end -/

/-- The components without the zeros at the end. -/
def significant (components : List Nat) : List Nat := components.rdropWhile (· == 0)

theorem significant_append_zero (components : List Nat) :
    significant (components ++ [0]) = significant components :=
  List.rdropWhile_concat_pos (· == 0) components 0 rfl

theorem numberAt_append (components others : List Nat) (zeros : ∀ number ∈ others, number = 0) :
    numberAt (components ++ others) = numberAt components := by
  funext place
  unfold numberAt
  by_cases inside : place < components.length
  · rw [List.getD_append _ _ _ _ inside]
  · rw [List.getD_append_right _ _ _ _ (Nat.le_of_not_lt inside),
      List.getD_eq_default _ _ (Nat.le_of_not_lt inside)]
    by_cases among : place - components.length < others.length
    · rw [List.getD_eq_getElem _ _ among]
      exact zeros _ (List.getElem_mem among)
    · exact List.getD_eq_default _ _ (Nat.le_of_not_lt among)

theorem numberAt_significant (components : List Nat) :
    numberAt (significant components) = numberAt components := by
  have restored : significant components ++ components.rtakeWhile (· == 0) = components :=
    List.rdropWhile_append_rtakeWhile
  have zeros : ∀ number ∈ components.rtakeWhile (· == 0), number = 0 := by
    intro number member
    have isZero := List.mem_rtakeWhile_imp member
    exact beq_iff_eq.1 isZero
  rw [← numberAt_append _ _ zeros, restored]

/-- A row that does not end with a zero is not longer than another with the same numbers. -/
private theorem length_le_of_numberAt_eq {left right : List Nat}
    (notZero : ∀ nonempty : left ≠ [], left.getLast nonempty ≠ 0)
    (same : numberAt left = numberAt right) : left.length ≤ right.length := by
  by_cases isNil : left = []
  · rw [isNil]
    exact Nat.zero_le right.length
  · by_contra longer
    have lastPlace : left.length - 1 < left.length :=
      Nat.sub_lt (List.length_pos_of_ne_nil isNil) Nat.one_pos
    have last : numberAt left (left.length - 1) = left.getLast isNil := by
      rw [List.getLast_eq_getElem]
      exact List.getD_eq_getElem left 0 lastPlace
    have ended : numberAt right (left.length - 1) = 0 :=
      List.getD_eq_default right 0 (by omega)
    rw [same, ended] at last
    exact notZero isNil last.symm

theorem significant_getLast_ne_zero (components : List Nat)
    (nonempty : significant components ≠ []) : (significant components).getLast nonempty ≠ 0 := by
  have notZero := List.rdropWhile_last_not (· == 0) components nonempty
  intro isZero
  exact notZero (beq_iff_eq.2 isZero)

theorem forall_numberAt_eq_iff (left right : List Nat) :
    (∀ place, numberAt left place = numberAt right place) ↔
      significant left = significant right := by
  constructor
  · intro same
    have sameSignificant : numberAt (significant left) = numberAt (significant right) := by
      rw [numberAt_significant, numberAt_significant]
      exact funext same
    -- Neither of the two rows ends with a zero, so neither is longer than the other.
    have sameLength : (significant left).length = (significant right).length :=
      Nat.le_antisymm
        (length_le_of_numberAt_eq (significant_getLast_ne_zero left) sameSignificant)
        (length_le_of_numberAt_eq (significant_getLast_ne_zero right) sameSignificant.symm)
    apply List.ext_getElem sameLength
    intro place inLeft inRight
    have atPlace := congrFun sameSignificant place
    unfold numberAt at atPlace
    rw [List.getD_eq_getElem _ _ inLeft, List.getD_eq_getElem _ _ inRight] at atPlace
    exact atPlace
  · intro same place
    rw [← numberAt_significant left, same, numberAt_significant]

theorem compareComponents_significant (left right : List Nat) :
    compareComponents (significant left) (significant right) = compareComponents left right := by
  have equal (components : List Nat) :
      compareComponents (significant components) components = .eq :=
    (compareComponents_eq_eq_iff _ _).2 (congrFun (numberAt_significant components))
  rw [compareComponents_congr (equal left), compareComponents_swap,
    compareComponents_congr (equal right), ← compareComponents_swap]

theorem order_eq_eq_iff (left right : Version) :
    left.order right = .eq ↔ significant left.components = significant right.components :=
  (compareComponents_eq_eq_iff left.components right.components).trans
    (forall_numberAt_eq_iff left.components right.components)

theorem beq_iff_order_eq (left right : Version) :
    (left == right) = true ↔ left.order right = .eq :=
  decide_eq_true_iff

/-- Versions in ascending order compare as the stricter of the two steps does. -/
theorem order_eq_then {left middle right : Version} (leftLE : (left.order middle).isLE = true)
    (rightLE : (middle.order right).isLE = true) :
    left.order right = (left.order middle).then (middle.order right) := by
  cases leftCompared : left.order middle with
  | eq =>
      exact order_congr leftCompared right
  | lt =>
      have lower : compare left right = .lt := Std.TransCmp.lt_of_lt_of_isLE leftCompared rightLE
      exact lower
  | gt =>
      rw [leftCompared] at leftLE
      cases leftLE

/-! ## Texts that are spelled differently -/

/-- The second text is the first one with something added to it that does not count: a blank
character around it, a zero in front of its first component or of a later one, or one more component
at its end that is zero. -/
inductive Respelled : List Char → List Char → Prop
  | blankBefore {blank : Char} (text : List Char) :
      Text.isBlank blank = true →
      Respelled text (blank :: text)
  | blankAfter {blank : Char} (text : List Char) :
      Text.isBlank blank = true →
      Respelled text (text ++ [blank])
  | zeroInFront {first : Char} (after : List Char) :
      Text.isBlank first = false →
      first ≠ '.' →
      Respelled (first :: after) ('0' :: first :: after)
  | zeroAfterDot {first : Char} (before after : List Char) :
      Text.isBlank first = false →
      first ≠ '.' →
      Respelled (before ++ '.' :: first :: after) (before ++ '.' :: '0' :: first :: after)
  | zeroComponent {last : Char} (before : List Char) :
      Text.isBlank last = false →
      Respelled (before ++ [last]) (before ++ [last] ++ ['.', '0'])

/-- Either text can be got from the other by adding and removing what does not count. -/
def SpelledAlike (text other : String) : Prop :=
  Relation.EqvGen Respelled text.toList other.toList

/-- The numbers that the pieces of a text denote, if all of them do. -/
def numbers? (characters : List Char) : Option (List Nat) :=
  ((Text.trimBoth characters).splitOn '.').mapM parseComponent

theorem toOption_parseComponents (pieces : List (List Char)) :
    (parseComponents pieces).toOption = pieces.mapM parseComponent := by
  induction pieces with
  | nil =>
      rfl
  | cons piece rest inductionHypothesis =>
      rw [List.mapM_cons, ← inductionHypothesis, parseComponents]
      cases parseComponent piece with
      | none =>
          rfl
      | some value =>
          cases parseComponents rest <;> rfl

theorem parse?_eq_map_numbers? (text : String) :
    parse? text = (numbers? text.toList).map Version.mk := by
  unfold parse? parse numbers?
  cases Text.trimBoth text.toList with
  | nil =>
      rfl
  | cons first rest =>
      rw [← toOption_parseComponents]
      dsimp only
      cases parseComponents ((first :: rest).splitOn '.') <;> rfl

theorem parseComponent_zero_cons (first : Char) (rest : List Char) :
    parseComponent ('0' :: first :: rest) = parseComponent (first :: rest) := by
  have sameValue : Text.ofDigits ('0' :: first :: rest) = Text.ofDigits (first :: rest) := rfl
  have sameDigits :
      ('0' :: first :: rest).all Char.isDigit = (first :: rest).all Char.isDigit := rfl
  unfold parseComponent
  rw [sameValue, sameDigits]
  rfl

theorem mapM_splitOn_zero_cons {first : Char} (notDot : first ≠ '.') (rest : List Char) :
    (('0' :: first :: rest).splitOn '.').mapM parseComponent =
      ((first :: rest).splitOn '.').mapM parseComponent := by
  obtain ⟨piece, pieces, isCons⟩ := List.exists_cons_of_ne_nil (List.splitOn_ne_nil '.' rest)
  have firstSplit : (first :: rest).splitOn '.' = (first :: piece) :: pieces := by
    rw [List.splitOn_cons_eq_if_modifyHead, if_neg (by simpa using notDot), isCons,
      List.modifyHead_cons]
  have zeroSplit : ('0' :: first :: rest).splitOn '.' = ('0' :: first :: piece) :: pieces := by
    rw [List.splitOn_cons_eq_if_modifyHead, if_neg (by decide), firstSplit, List.modifyHead_cons]
  rw [firstSplit, zeroSplit, List.mapM_cons, List.mapM_cons, parseComponent_zero_cons]

/-- What does not count changes no number but for a zero at the end. -/
theorem Respelled.significant_eq {text other : List Char} (respelled : Respelled text other) :
    (numbers? other).map significant = (numbers? text).map significant := by
  have zeroNotBlank : Text.isBlank '0' = false := by decide
  have dotNotBlank : Text.isBlank '.' = false := by decide
  unfold numbers?
  cases respelled with
  | blankBefore _ isBlank =>
      rw [Text.trimBoth_cons_of_isBlank isBlank]
  | blankAfter _ isBlank =>
      rw [Text.trimBoth_append_of_isBlank isBlank]
  | @zeroInFront first after notBlank notDot =>
      rw [Text.trimBoth_cons zeroNotBlank, Text.trimEnd_cons notBlank, Text.trimBoth_cons notBlank,
        mapM_splitOn_zero_cons notDot]
  | @zeroAfterDot first before after notBlank notDot =>
      rw [Text.trimBoth_append_cons dotNotBlank, Text.trimBoth_append_cons dotNotBlank,
        Text.trimEnd_cons zeroNotBlank, Text.trimEnd_cons notBlank,
        List.splitOn_append_cons_self, List.splitOn_append_cons_self, List.mapM_append,
        List.mapM_append, mapM_splitOn_zero_cons notDot]
  | @zeroComponent last before notBlank =>
      -- The last character is not blank, so no blank character is left between it and the dot.
      have trimmed : Text.trimBoth (before ++ [last]) = before.dropWhile Text.isBlank ++ [last] :=
        Text.trimBoth_append_cons notBlank
      have dropped : (before ++ [last]).dropWhile Text.isBlank =
          before.dropWhile Text.isBlank ++ [last] :=
        Text.dropWhile_append_cons notBlank
      have lengthened : Text.trimBoth (before ++ [last] ++ ['.', '0']) =
          Text.trimBoth (before ++ [last]) ++ ['.', '0'] := by
        rw [Text.trimBoth_append_cons dotNotBlank, dropped, trimmed]
        rfl
      rw [lengthened, List.splitOn_append_cons_self, List.mapM_append]
      have zeroRead : (['0'].splitOn '.').mapM parseComponent = some [0] := by decide
      rw [zeroRead]
      cases ((Text.trimBoth (before ++ [last])).splitOn '.').mapM parseComponent with
      | none =>
          rfl
      | some values =>
          exact congrArg some (significant_append_zero values)

theorem SpelledAlike.significant_eq {text other : String} (alike : SpelledAlike text other) :
    (numbers? other.toList).map significant = (numbers? text.toList).map significant := by
  unfold SpelledAlike at alike
  generalize text.toList = characters, other.toList = otherCharacters at alike ⊢
  induction alike with
  | rel characters otherCharacters respelled =>
      exact respelled.significant_eq
  | refl characters =>
      rfl
  | symm characters otherCharacters _ inductionHypothesis =>
      exact inductionHypothesis.symm
  | trans characters between otherCharacters _ _ firstHypothesis secondHypothesis =>
      exact secondHypothesis.trans firstHypothesis

/-- A comparison looks at nothing but the components up to the zeros at the end. -/
theorem compareTexts_eq_bind (left right : String) :
    compareTexts left right =
      ((numbers? left.toList).map significant).bind fun leftNumbers =>
        ((numbers? right.toList).map significant).map (compareComponents leftNumbers) := by
  unfold compareTexts
  rw [parse?_eq_map_numbers?, parse?_eq_map_numbers?]
  cases numbers? left.toList with
  | none =>
      rfl
  | some leftNumbers =>
      cases numbers? right.toList with
      | none =>
          rfl
      | some rightNumbers =>
          exact congrArg some (compareComponents_significant leftNumbers rightNumbers).symm

theorem compareTexts_of_spelledAlike {left right leftSpelling rightSpelling : String}
    (leftAlike : SpelledAlike left leftSpelling) (rightAlike : SpelledAlike right rightSpelling) :
    compareTexts leftSpelling rightSpelling = compareTexts left right := by
  rw [compareTexts_eq_bind, compareTexts_eq_bind, leftAlike.significant_eq,
    rightAlike.significant_eq]

/-! ## The order of texts -/

/-- The result is what comparing two versions number by number has to come to. -/
structure IsComparison (left right : Version) (result : Ordering) : Prop where
  eq_iff : result = .eq ↔ significant left.components = significant right.components
  beq_iff : (left == right) = true ↔ significant left.components = significant right.components
  lt_iff : result = .lt ↔
    ∃ place, (∀ earlier < place,
        numberAt left.components earlier = numberAt right.components earlier) ∧
      numberAt left.components place < numberAt right.components place

theorem isComparison_order (left right : Version) :
    IsComparison left right (left.order right) := by
  constructor
  · exact order_eq_eq_iff left right
  · rw [beq_iff_order_eq]
    exact order_eq_eq_iff left right
  · exact compareComponents_eq_lt_iff left.components right.components

theorem compareTexts_eq_some_iff {left right : String} {result : Ordering} :
    compareTexts left right = some result ↔
      ∃ leftVersion rightVersion, parse? left = some leftVersion ∧
        parse? right = some rightVersion ∧ leftVersion.order rightVersion = result := by
  unfold compareTexts
  cases parse? left <;> cases parse? right <;> simp

theorem compareTexts_eq_none_iff {left right : String} :
    compareTexts left right = none ↔ parse? left = none ∨ parse? right = none := by
  unfold compareTexts
  cases parse? left <;> cases parse? right <;> simp

theorem compareTexts_swap (left right : String) :
    compareTexts right left = (compareTexts left right).map Ordering.swap := by
  unfold compareTexts
  cases parse? left with
  | none =>
      cases parse? right <;> rfl
  | some leftVersion =>
      cases parse? right with
      | none =>
          rfl
      | some rightVersion =>
          exact congrArg some (order_swap rightVersion leftVersion)

/-- Two texts can be compared exactly if both denote versions, and then the first place where their
components differ decides. Comparing them the other way round gives the reverse, comparisons compose
as in a total preorder, and it does not matter how either version is spelled. -/
theorem compareTexts_isPreorder (left right : String) :
    (compareTexts left right = none ↔ parse? left = none ∨ parse? right = none) ∧
    (∀ leftVersion rightVersion, parse? left = some leftVersion →
      parse? right = some rightVersion →
      ∃ result, compareTexts left right = some result ∧
        IsComparison leftVersion rightVersion result) ∧
    compareTexts right left = (compareTexts left right).map Ordering.swap ∧
    (∀ further first second, compareTexts left right = some first →
      compareTexts right further = some second → first.isLE = true → second.isLE = true →
      compareTexts left further = some (first.then second)) ∧
    ∀ leftSpelling rightSpelling, SpelledAlike left leftSpelling →
      SpelledAlike right rightSpelling →
      compareTexts leftSpelling rightSpelling = compareTexts left right := by
  refine ⟨compareTexts_eq_none_iff, ?_, compareTexts_swap left right, ?_, ?_⟩
  · intro leftVersion rightVersion leftRead rightRead
    exact ⟨_, compareTexts_eq_some_iff.2 ⟨_, _, leftRead, rightRead, rfl⟩,
      isComparison_order leftVersion rightVersion⟩
  · intro further first second firstCompared secondCompared firstLE secondLE
    obtain ⟨leftVersion, middle, leftRead, middleRead, rfl⟩ :=
      compareTexts_eq_some_iff.1 firstCompared
    obtain ⟨middleToo, furtherVersion, middleReadToo, furtherRead, rfl⟩ :=
      compareTexts_eq_some_iff.1 secondCompared
    obtain rfl : middle = middleToo := Option.some.inj (middleRead.symm.trans middleReadToo)
    exact compareTexts_eq_some_iff.2
      ⟨leftVersion, furtherVersion, leftRead, furtherRead, order_eq_then firstLE secondLE⟩
  · intro leftSpelling rightSpelling leftAlike rightAlike
    exact compareTexts_of_spelledAlike leftAlike rightAlike

/-- Zeros in front of a component, a component that is zero and a blank character do not count. -/
theorem spelledAlike_padded : SpelledAlike "1.2" "1.02.0 " := by
  refine .trans _ "1.02".toList _ (.rel _ _ ?_) (.trans _ "1.02.0".toList _ (.rel _ _ ?_)
    (.rel _ _ ?_))
  · exact @Respelled.zeroAfterDot '2' ['1'] [] (by decide) (by decide)
  · exact @Respelled.zeroComponent '2' ['1', '.', '0'] (by decide)
  · exact @Respelled.blankAfter ' ' _ (by decide)

theorem compareTexts_isPreorder_threeTexts :
    compareTexts "1" "1.0" = some .eq ∧ compareTexts "1.0" "1.2" = some .lt ∧
      compareTexts "1" "1.2" = some .lt ∧ IsComparison ⟨[1]⟩ ⟨[1, 2]⟩ .lt ∧
      compareTexts "1.2" "1" = some .gt ∧
      compareTexts "1.02.0 " "1.0" = compareTexts "1.2" "1.0" := by
  have equal : compareTexts "1" "1.0" = some .eq := by decide
  have lower : compareTexts "1.0" "1.2" = some .lt := by decide
  obtain ⟨_, _, _, composes, _⟩ := compareTexts_isPreorder "1" "1.0"
  obtain ⟨_, compares, reversed, _, _⟩ := compareTexts_isPreorder "1" "1.2"
  obtain ⟨_, _, _, _, alike⟩ := compareTexts_isPreorder "1.2" "1.0"
  have composed : compareTexts "1" "1.2" = some .lt :=
    composes "1.2" .eq .lt equal lower rfl rfl
  rw [composed] at compares reversed
  obtain ⟨result, isResult, comparison⟩ := compares ⟨[1]⟩ ⟨[1, 2]⟩ rfl rfl
  obtain rfl : .lt = result := Option.some.inj isResult
  exact ⟨equal, lower, composed, comparison, reversed, alike _ _ spelledAlike_padded (.refl _)⟩

end ModelHub.Version

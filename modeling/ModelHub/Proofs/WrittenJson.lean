import Mathlib.Data.List.Forall2
import ModelHub.Json.Printer

/-!
# Reading back what is written

A value that is written on one line, or indented over several, is read back. A text comes back with
all of its characters, those that are escaped among them, a natural number with its digits, and an
array or an object comes back when all that is in it does.
-/

namespace ModelHub.Json

/-! ## Texts -/

/-- The control characters that are escaped by a letter. -/
def letteredControls : List Char := ['\x08', '\x0c', '\n', '\r', '\t']

/-- What a character of a text is read back as: a control character that has no letter of its own
as the code it is escaped by, any other as itself. -/
def writtenPiece (character : Char) : Piece :=
  if character.toNat < 0x20 ∧ character ∉ letteredControls then .unit character.toNat
  else .char character

/-- The pieces that a text is read back as. -/
def written (text : String) : List Piece := text.toList.map writtenPiece

/-- Pieces that are read after a piece, with what is left of the text. -/
def continueWith (piece : Piece) (found : List Piece × List Char) : List Piece × List Char :=
  (piece :: found.1, found.2)

section Pieces

variable (steps : Nat) (rest : List Char)

private theorem readPieces_letter {letter character : Char} (notCode : letter ≠ 'u')
    (escapes : simpleEscape? letter = some character) :
    readPieces (steps + 1) ('\\' :: letter :: rest) =
      (readPieces steps rest).map (continueWith (.char character)) := by
  rw [readPieces, escapes]
  · cases readPieces steps rest <;> rfl
  · simpa using notCode

private theorem readPieces_code {code : Nat} (isControl : code < 0x20) :
    readPieces (steps + 1)
        ('\\' :: 'u' :: '0' :: '0' :: hexDigit (code / 16) :: hexDigit (code % 16) :: rest) =
      (readPieces steps rest).map (continueWith (.unit code)) := by
  have valueOf : ∀ code < 0x20, Text.numberInBase? 16
      ['0', '0', hexDigit (code / 16), hexDigit (code % 16)] = some code := by decide
  have readBack : readUnit ('0' :: '0' :: hexDigit (code / 16) :: hexDigit (code % 16) :: rest) =
      some (code, rest) := by
    simp [readUnit, Text.readFixed, valueOf code isControl]
  rw [readPieces, readBack]
  dsimp only
  cases readPieces steps rest <;> rfl

private theorem readPieces_plain {character : Char} (notQuote : character ≠ '"')
    (notBackslash : character ≠ '\\') (noControl : ¬ character.toNat < 0x20) :
    readPieces (steps + 1) (character :: rest) =
      (readPieces steps rest).map (continueWith (.char character)) := by
  have isPlain : ¬ (character.toNat < 0x20 ∨ character = '\\') := by
    simp [noControl, notBackslash]
  rw [readPieces, if_neg isPlain]
  · cases readPieces steps rest <;> rfl
  · simpa using notQuote
  · intro other others isEscape
    simp_all
  · intro other others isEscape
    simp_all

/-- However a character is written, it is read in one step. -/
theorem readPieces_escapeChar (character : Char) :
    readPieces (steps + 1) (escapeChar character ++ rest) =
      (readPieces steps rest).map (continueWith (writtenPiece character)) := by
  have lettered : ∀ {letter : Char}, letter ≠ 'u' → simpleEscape? letter = some character →
      escapeChar character = ['\\', letter] → writtenPiece character = .char character →
      readPieces (steps + 1) (escapeChar character ++ rest) =
        (readPieces steps rest).map (continueWith (writtenPiece character)) := by
    intro letter notCode escapes isEscaped isPiece
    rw [isEscaped, isPiece]
    exact readPieces_letter steps rest notCode escapes
  -- The characters with an escape of their own, then the other control characters, then the rest.
  by_cases special : character ∈ '"' :: '\\' :: letteredControls
  · simp only [letteredControls, List.mem_cons, List.not_mem_nil, or_false] at special
    rcases special with rfl | rfl | rfl | rfl | rfl | rfl | rfl
    · exact lettered (by decide) rfl rfl rfl
    · exact lettered (by decide) rfl rfl rfl
    · exact lettered (by decide) rfl rfl rfl
    · exact lettered (by decide) rfl rfl rfl
    · exact lettered (by decide) rfl rfl rfl
    · exact lettered (by decide) rfl rfl rfl
    · exact lettered (by decide) rfl rfl rfl
  · simp only [letteredControls, List.mem_cons, List.not_mem_nil, or_false, not_or] at special
    obtain ⟨notQuote, notBackslash, notB, notF, notN, notR, notT⟩ := special
    by_cases isControl : character.toNat < 0x20
    · have isPiece : writtenPiece character = .unit character.toNat := by
        simp [writtenPiece, letteredControls, isControl, notB, notF, notN, notR, notT]
      rw [isPiece]
      have isEscaped : escapeChar character = ['\\', 'u', '0', '0',
          hexDigit (character.toNat / 16), hexDigit (character.toNat % 16)] := by
        simp [escapeChar, notQuote, notBackslash, isControl, notB, notF, notN, notR, notT]
      rw [isEscaped]
      exact readPieces_code steps rest isControl
    · have isPiece : writtenPiece character = .char character := by
        simp [writtenPiece, isControl]
      have isPlain : escapeChar character = [character] := by
        simp [escapeChar, notQuote, notBackslash, isControl, notB, notF, notN, notR, notT]
      rw [isPiece, isPlain]
      exact readPieces_plain steps rest notQuote notBackslash isControl

end Pieces

theorem readPieces_flatMap_escapeChar (characters : List Char) (rest : List Char) {steps : Nat}
    (enough : characters.length < steps) :
    readPieces steps (characters.flatMap escapeChar ++ '"' :: rest) =
      some (characters.map writtenPiece, rest) := by
  induction characters generalizing steps with
  | nil =>
      obtain ⟨fewer, rfl⟩ : ∃ fewer, steps = fewer + 1 := ⟨steps - 1, by omega⟩
      rfl
  | cons character characters inductionHypothesis =>
      rw [List.length_cons] at enough
      obtain ⟨fewer, rfl⟩ : ∃ fewer, steps = fewer + 1 := ⟨steps - 1, by omega⟩
      rw [List.flatMap_cons, List.append_assoc, readPieces_escapeChar,
        inductionHypothesis (by omega)]
      rfl

theorem length_le_flatMap_escapeChar (characters : List Char) :
    characters.length ≤ (characters.flatMap escapeChar).length := by
  induction characters with
  | nil =>
      exact Nat.le_refl 0
  | cons character characters inductionHypothesis =>
      have nonempty : 0 < (escapeChar character).length := by
        unfold escapeChar
        repeat' split
        all_goals exact Nat.succ_pos _
      rw [List.flatMap_cons, List.length_append, List.length_cons]
      omega

theorem toList_quote (text : String) :
    (quote text).toList = '"' :: (text.toList.flatMap escapeChar ++ ['"']) := by
  simp [quote]

/-- A text in quotes is read up to the closing quote. -/
theorem readString_quote (text : String) (rest : List Char) :
    readString ((quote text).toList ++ rest) = some (written text, rest) := by
  have enough : text.toList.length <
      (text.toList.flatMap escapeChar ++ '"' :: rest).length := by
    have shorter := length_le_flatMap_escapeChar text.toList
    rw [List.length_append, List.length_cons]
    omega
  rw [toList_quote, List.cons_append, List.append_assoc]
  exact readPieces_flatMap_escapeChar text.toList rest enough

theorem decodePieces_writtenPiece (character : Char) (pieces : List Piece) :
    decodePieces (writtenPiece character :: pieces) =
      (decodePieces pieces).map (character :: ·) := by
  unfold writtenPiece
  split
  · next isCode =>
      have noTrailing : isTrailing character.toNat = false := by
        simp only [isTrailing, Bool.and_eq_false_iff, decide_eq_false_iff_not]
        omega
      have noLeading : isLeading character.toNat = false := by
        simp only [isLeading, Bool.and_eq_false_iff, decide_eq_false_iff_not]
        omega
      have unfolded : decodePieces (.unit character.toNat :: pieces) =
          (decodePieces pieces).map (Char.ofNat character.toNat :: ·) := by
        cases pieces with
        | nil =>
            simp [decodePieces, noTrailing, noLeading]
        | cons piece pieces =>
            cases piece <;> simp [decodePieces, noTrailing, noLeading]
      rw [unfolded, Char.ofNat_toNat]
  · rfl

/-- The pieces that a text is read back as mean the text. -/
@[simp]
theorem decodeText_written (text : String) : decodeText (written text) = some text := by
  have decoded (characters : List Char) :
      decodePieces (characters.map writtenPiece) = some characters := by
    induction characters with
    | nil =>
        rfl
    | cons character characters inductionHypothesis =>
        rw [List.map_cons, decodePieces_writtenPiece, inductionHypothesis]
        rfl
  rw [decodeText, written, decoded, Option.map_some, String.ofList_toList]

/-! ## Gaps -/

/-- Nothing but what may stand between the parts of a value. -/
def IsGap (gap : List Char) : Prop := ∀ character ∈ gap, isSpace character = true

/-- What can go on a number: another digit, a fraction or an exponent. -/
def extendsNumber (character : Char) : Bool :=
  character.isDigit || character = '.' || character = 'e' || character = 'E'

/-- What follows a value does not go on a number. -/
def EndsNumber (rest : List Char) : Prop :=
  ∀ character ∈ rest.head?, extendsNumber character = false

section Gaps

variable {gap rest : List Char}

theorem isGap_nil : IsGap [] := nofun

theorem IsGap.skipSpace_append (isGap : IsGap gap) (rest : List Char) :
    skipSpace (gap ++ rest) = skipSpace rest :=
  List.dropWhile_append_of_pos isGap

theorem endsNumber_cons_iff {first : Char} :
    EndsNumber (first :: rest) ↔ extendsNumber first = false := by
  simp [EndsNumber]

theorem extendsNumber_of_isSpace {character : Char} (space : isSpace character = true) :
    extendsNumber character = false := by
  simp only [isSpace, Bool.or_eq_true, decide_eq_true_eq] at space
  rcases space with ((rfl | rfl) | rfl) | rfl <;> rfl

theorem IsGap.endsNumber_append (isGap : IsGap gap) (ends : EndsNumber rest) :
    EndsNumber (gap ++ rest) := by
  cases gap with
  | nil =>
      exact ends
  | cons first gap =>
      exact endsNumber_cons_iff.2 (extendsNumber_of_isSpace (isGap first List.mem_cons_self))

end Gaps

/-! ## Sequences -/

/-- The reader takes the text as the value, whatever follows that does not go on a number. The text
begins neither with space nor with a mark that closes a sequence. -/
structure IsWritten {value : Type} (reader : Text.Reader value) (text : List Char)
    (found : value) : Prop where
  read : ∀ rest, EndsNumber rest → reader (text ++ rest) = some (found, rest)
  begins : ∃ first tail, text = first :: tail ∧ isSpace first = false ∧
    first ≠ ']' ∧ first ≠ '\x7d'

section Sequences

variable {value : Type} {item : Text.Reader value} {closing : Char} {lead gap trail : List Char}

theorem skipSpace_of_not_isSpace {first : Char} (noSpace : isSpace first = false)
    (rest : List Char) : skipSpace (first :: rest) = first :: rest := by
  unfold skipSpace
  rw [List.dropWhile_cons, if_neg (by simp [noSpace])]

theorem IsWritten.skipSpace_append {text : List Char} {found : value}
    (isWritten : IsWritten item text found) (rest : List Char) :
    skipSpace (text ++ rest) = text ++ rest := by
  obtain ⟨first, tail, rfl, noSpace, _⟩ := isWritten.begins
  exact skipSpace_of_not_isSpace noSpace (tail ++ rest)

/-- The marks that close a sequence. -/
def IsClosing (closing : Char) : Prop := closing = ']' ∨ closing = '\x7d'

theorem IsClosing.isSpace_eq_false (isClosing : IsClosing closing) : isSpace closing = false := by
  rcases isClosing with rfl | rfl <;> rfl

theorem IsClosing.ne_comma (isClosing : IsClosing closing) : ',' ≠ closing := by
  rcases isClosing with rfl | rfl <;> decide

theorem IsClosing.endsNumber (isClosing : IsClosing closing) (rest : List Char) :
    EndsNumber (closing :: rest) := by
  rcases isClosing with rfl | rfl <;> exact endsNumber_cons_iff.2 rfl

theorem IsClosing.skipSpace_append (isClosing : IsClosing closing) (isTrail : IsGap trail)
    (rest : List Char) : skipSpace (trail ++ closing :: rest) = closing :: rest := by
  rw [isTrail.skipSpace_append, skipSpace_of_not_isSpace isClosing.isSpace_eq_false]

/-- Texts in a row, with a comma and a gap behind all but the last. -/
def separated (gap : List Char) (texts : List (List Char)) : List Char :=
  (',' :: gap).intercalate texts

theorem separated_cons_cons (gap text next : List Char) (texts : List (List Char)) :
    separated gap (text :: next :: texts) =
      text ++ (',' :: (gap ++ separated gap (next :: texts))) := by
  rw [separated, List.intercalate_cons_cons, separated, List.append_assoc, List.cons_append]

/-- A row has at least as many characters as commas. -/
theorem length_le_separated (gap text : List Char) (texts : List (List Char)) :
    texts.length ≤ (separated gap (text :: texts)).length := by
  induction texts generalizing text with
  | nil =>
      exact Nat.zero_le _
  | cons next texts inductionHypothesis =>
      have shorter := inductionHypothesis next
      rw [separated_cons_cons, List.length_append, List.length_cons, List.length_cons,
        List.length_append]
      omega

theorem readItems_gap_append (isGap : IsGap gap) (steps : Nat) (input : List Char) :
    readItems item closing steps (gap ++ input) = readItems item closing steps input := by
  cases steps with
  | zero =>
      rfl
  | succ steps =>
      rw [readItems, readItems, isGap.skipSpace_append]

theorem readItems_separated (isClosing : IsClosing closing) (isGap : IsGap gap)
    (isTrail : IsGap trail) {text : List Char} {found : value} {texts : List (List Char)}
    {others : List value} (isFirst : IsWritten item text found)
    (areOthers : List.Forall₂ (IsWritten item) texts others) (rest : List Char) {steps : Nat}
    (enough : texts.length < steps) :
    readItems item closing steps
        (separated gap (text :: texts) ++ (trail ++ closing :: rest)) =
      some (found :: others, rest) := by
  induction areOthers generalizing text found steps with
  | nil =>
      obtain ⟨fewer, rfl⟩ : ∃ fewer, steps = fewer + 1 := ⟨steps - 1, by omega⟩
      have ends := isTrail.endsNumber_append (isClosing.endsNumber rest)
      rw [separated, List.intercalate_singleton, readItems, isFirst.skipSpace_append,
        isFirst.read _ ends]
      simp only [isClosing.skipSpace_append isTrail, if_true]
  | @cons next other texts others isNext areOthers inductionHypothesis =>
      rw [List.length_cons] at enough
      obtain ⟨fewer, rfl⟩ : ∃ fewer, steps = fewer + 1 := ⟨steps - 1, by omega⟩
      have ends (following : List Char) : EndsNumber (',' :: following) :=
        endsNumber_cons_iff.2 rfl
      have comma (following : List Char) : skipSpace (',' :: following) = ',' :: following :=
        skipSpace_of_not_isSpace rfl following
      rw [separated_cons_cons, List.append_assoc, readItems, isFirst.skipSpace_append,
        List.cons_append, List.append_assoc, isFirst.read _ (ends _)]
      simp only [comma, if_neg isClosing.ne_comma, if_true, readItems_gap_append isGap,
        inductionHypothesis isNext (show texts.length < fewer by omega)]

/-- Items with commas and gaps between them are read up to the mark that closes them. -/
theorem readSequence_separated (isClosing : IsClosing closing) (isLead : IsGap lead)
    (isGap : IsGap gap) (isTrail : IsGap trail) {texts : List (List Char)} {items : List value}
    (areWritten : List.Forall₂ (IsWritten item) texts items) (rest : List Char) :
    readSequence item closing
        (lead ++ (separated gap texts ++ (trail ++ closing :: rest))) = some (items, rest) := by
  rw [readSequence, isLead.skipSpace_append]
  cases areWritten with
  | nil =>
      rw [separated, List.intercalate_nil, List.nil_append, isClosing.skipSpace_append isTrail]
      simp only [if_true]
  | @cons text first texts others isFirst areOthers =>
      have enough : texts.length <
          (separated gap (text :: texts) ++ (trail ++ closing :: rest)).length := by
        have shorter := length_le_separated gap text texts
        rw [List.length_append, List.length_append, List.length_cons]
        omega
      have read := readItems_separated isClosing isGap isTrail isFirst areOthers rest enough
      obtain ⟨mark, tail, rfl, noSpace, noBracket, noBrace⟩ := isFirst.begins
      have notClosing : mark ≠ closing := by
        rcases isClosing with rfl | rfl
        · exact noBracket
        · exact noBrace
      obtain ⟨more, begins⟩ : ∃ more,
          separated gap ((mark :: tail) :: texts) ++ (trail ++ closing :: rest) = mark :: more := by
        cases texts with
        | nil =>
            exact ⟨_, rfl⟩
        | cons next texts =>
            exact ⟨_, rfl⟩
      rw [begins] at read ⊢
      rw [skipSpace_of_not_isSpace noSpace]
      simp only [if_neg notClosing, read]

end Sequences

/-! ## Numbers -/

/-- Only zero is written with a zero in front. -/
theorem eq_zero_of_head?_toDigits {value : Nat}
    (zeroFirst : (Nat.toDigits 10 value).head? = some '0') : value = 0 := by
  induction value using Nat.strongRecOn with
  | ind value inductionHypothesis =>
      rcases Nat.lt_or_ge value 10 with short | long
      · have single : ∀ digit < 10, (Nat.toDigits 10 digit).head? = some '0' → digit = 0 := by
          decide
        exact single value short zeroFirst
      · rw [Nat.toDigits_of_base_le (by decide) long,
          List.head?_append_of_ne_nil _ Nat.toDigits_ne_nil] at zeroFirst
        have isZero := inductionHypothesis (value / 10) (by omega) zeroFirst
        omega

/-- A natural number is written with its digits and nothing else. -/
def naturalNumeral (value : Nat) : Numeral := ⟨false, (Nat.repr value).toList, none, none⟩

theorem isDigit_of_mem_repr (value : Nat) {character : Char}
    (member : character ∈ (Nat.repr value).toList) : character.isDigit = true := by
  rw [Nat.toList_repr] at member
  exact Nat.isDigit_of_mem_toDigits (by decide) (by decide) member

theorem ofDigits_repr (value : Nat) : Text.ofDigits (Nat.repr value).toList = value := by
  rw [Nat.toList_repr]
  exact Nat.ofDigitChars_ten_toDigits

theorem EndsNumber.isDigit_eq_false {character : Char} {rest : List Char}
    (ends : EndsNumber (character :: rest)) : character.isDigit = false := by
  have extendsNone := endsNumber_cons_iff.1 ends
  simp only [extendsNumber, Bool.or_eq_false_iff] at extendsNone
  exact extendsNone.1.1.1

theorem readDigits_repr (value : Nat) {rest : List Char} (ends : EndsNumber rest) :
    Text.readDigits ((Nat.repr value).toList ++ rest) = some ((Nat.repr value).toList, rest) := by
  have areDigits : ∀ character ∈ (Nat.repr value).toList, character.isDigit = true :=
    fun _ => isDigit_of_mem_repr value
  have noDigit : rest.takeWhile Char.isDigit = [] ∧ rest.dropWhile Char.isDigit = rest := by
    cases rest with
    | nil =>
        exact ⟨rfl, rfl⟩
    | cons character rest =>
        have isOther := ends.isDigit_eq_false
        simp [isOther]
  have nonempty : (Nat.repr value).toList ≠ [] := by
    rw [Nat.toList_repr]
    exact Nat.toDigits_ne_nil
  rw [Text.readDigits, List.takeWhile_append_of_pos areDigits,
    List.dropWhile_append_of_pos areDigits, noDigit.1, noDigit.2, List.append_nil]
  split
  · next isEmpty =>
      exact absurd isEmpty nonempty
  · rfl

theorem readWhole_repr (value : Nat) {rest : List Char} (ends : EndsNumber rest) :
    readWhole ((Nat.repr value).toList ++ rest) = some ((Nat.repr value).toList, rest) := by
  rw [readWhole, readDigits_repr value ends]
  split
  · next second others rest' isZeroFirst =>
      have digits := congrArg Prod.fst (Option.some.inj isZeroFirst)
      dsimp only at digits
      rw [Nat.toList_repr] at digits
      have isZero : value = 0 := eq_zero_of_head?_toDigits (by rw [digits, List.head?_cons])
      rw [isZero] at digits
      cases digits
  · rfl

theorem readUnsigned_repr (value : Nat) {rest : List Char} (ends : EndsNumber rest) :
    readUnsigned false ((Nat.repr value).toList ++ rest) = some (naturalNumeral value, rest) := by
  rw [readUnsigned, readWhole_repr value ends]
  cases rest with
  | nil =>
      rfl
  | cons character rest =>
      have extendsNone := endsNumber_cons_iff.1 ends
      simp only [extendsNumber, Bool.or_eq_false_iff, decide_eq_false_iff_not] at extendsNone
      obtain ⟨⟨⟨_, noPoint⟩, noMark⟩, noCapital⟩ := extendsNone
      have noFraction : readFraction (character :: rest) = some (none, character :: rest) := by
        unfold readFraction
        split
        · next isPoint =>
            exact absurd (List.cons.inj isPoint).1 noPoint
        · rfl
      have noExponent : readExponent (character :: rest) = some (none, character :: rest) := by
        rw [readExponent, if_neg (not_or.2 ⟨noMark, noCapital⟩)]
      dsimp only
      rw [noFraction]
      dsimp only
      rw [noExponent]
      rfl

/-- A digit begins no value but a number. -/
theorem readValue_of_isDigit (depth : Nat) {first : Char} (isDigit : first.isDigit = true)
    (rest : List Char) :
    readValue (depth + 1) (first :: rest) =
      (readUnsigned false (first :: rest)).map fun found => (.number found.1, found.2) := by
  have isOther {character : Char} (noDigit : character.isDigit = false) : first ≠ character := by
    rintro rfl
    rw [isDigit] at noDigit
    cases noDigit
  have isNumeral : readNumeral (first :: rest) = readUnsigned false (first :: rest) := by
    rw [readNumeral]
    intro others isNegative
    have notMinus : first ≠ '-' := isOther rfl
    exact notMinus (List.cons.inj isNegative).1
  rw [readValue, isNumeral]
  all_goals exact isOther rfl

/-! ## Values -/

section Values

variable {depth : Nat} {lead gap trail : List Char}

theorem isWritten_null : IsWritten (readValue (depth + 1)) "null".toList .null where
  read _ _ := rfl
  begins := ⟨'n', _, rfl, by decide⟩

theorem isWritten_quote (text : String) :
    IsWritten (readValue (depth + 1)) (quote text).toList (.string (written text)) where
  read rest _ := by
    have readBack := readString_quote text rest
    rw [toList_quote, List.cons_append] at readBack
    rw [toList_quote, List.cons_append, readValue, readBack]
    rfl
  begins := ⟨'"', _, toList_quote text, by decide⟩

theorem isWritten_natural (value : Nat) :
    IsWritten (readValue (depth + 1)) (renderInteger value).toList
      (.number (naturalNumeral value)) := by
  have isText : renderInteger value = Nat.repr value := by
    rw [renderInteger, if_neg (by omega), Int.natAbs_natCast]
  rw [isText]
  cases digits : (Nat.repr value).toList with
  | nil =>
      rw [Nat.toList_repr] at digits
      exact absurd digits Nat.toDigits_ne_nil
  | cons first others =>
      have isDigit : first.isDigit = true :=
        isDigit_of_mem_repr value (digits ▸ List.mem_cons_self)
      refine ⟨fun rest ends => ?_, first, others, rfl, ?_, ?_, ?_⟩
      · have readBack := readUnsigned_repr value ends
        rw [digits, List.cons_append] at readBack
        rw [List.cons_append, readValue_of_isDigit depth isDigit, readBack]
        rfl
      · rcases Bool.eq_false_or_eq_true (isSpace first) with space | noSpace
        · have extendsNone := extendsNumber_of_isSpace space
          rw [extendsNumber, isDigit] at extendsNone
          cases extendsNone
        · exact noSpace
      · rintro rfl
        cases isDigit
      · rintro rfl
        cases isDigit

theorem isWritten_array (isLead : IsGap lead) (isGap : IsGap gap) (isTrail : IsGap trail)
    {texts : List (List Char)} {documents : List Document}
    (areWritten : List.Forall₂ (IsWritten (readValue depth)) texts documents) :
    IsWritten (readValue (depth + 1))
      ('[' :: (lead ++ (separated gap texts ++ (trail ++ [']'])))) (.array documents) where
  read rest _ := by
    have readBack := readSequence_separated (Or.inl rfl) isLead isGap isTrail areWritten rest
    simp only [List.cons_append, List.append_assoc, List.nil_append]
    rw [readValue, readBack]
    rfl
  begins := ⟨'[', _, rfl, by decide⟩

theorem isWritten_member (key : String) (isGap : IsGap gap) {text : List Char}
    {document : Document} (isWritten : IsWritten (readValue depth) text document) :
    IsWritten (readMember (readValue depth)) ((quote key).toList ++ (':' :: (gap ++ text)))
      (written key, document) where
  read rest ends := by
    have colon (following : List Char) : skipSpace (':' :: following) = ':' :: following :=
      skipSpace_of_not_isSpace rfl following
    rw [List.append_assoc, List.cons_append, List.append_assoc, readMember, readString_quote]
    simp only [colon, isGap.skipSpace_append, isWritten.skipSpace_append,
      isWritten.read rest ends, Option.map_some]
  begins := ⟨'"', _, by rw [toList_quote, List.cons_append], by decide⟩

theorem isWritten_object (isLead : IsGap lead) (isGap : IsGap gap) (isTrail : IsGap trail)
    {texts : List (List Char)} {documents : List (List Piece × Document)}
    (areWritten : List.Forall₂ (IsWritten (readMember (readValue depth))) texts documents) :
    IsWritten (readValue (depth + 1))
      ('\x7b' :: (lead ++ (separated gap texts ++ (trail ++ ['\x7d'])))) (.object documents) where
  read rest _ := by
    have readBack := readSequence_separated (Or.inr rfl) isLead isGap isTrail areWritten rest
    simp only [List.cons_append, List.append_assoc, List.nil_append]
    rw [readValue, readBack]
    rfl
  begins := ⟨'\x7b', _, rfl, by decide⟩

end Values

/-! ## Both ways of writing -/

/-- A value is written as a document when that document is read from it, with values nested at most
that deep, whether it is written on one line or indented. -/
structure WrittenAs (depth : Nat) (value : Json) (document : Document) : Prop where
  ofCompact : IsWritten (readValue depth) (compact value).toList document
  ofPretty (level : Nat) : IsWritten (readValue depth) (prettyAt level value).toList document

section Written

variable {depth : Nat}

theorem writtenAs_null : WrittenAs (depth + 1) .null .null where
  ofCompact := isWritten_null
  ofPretty _ := isWritten_null

theorem writtenAs_string (text : String) :
    WrittenAs (depth + 1) (.string text) (.string (written text)) where
  ofCompact := isWritten_quote text
  ofPretty _ := isWritten_quote text

theorem writtenAs_natural (value : Nat) :
    WrittenAs (depth + 1) (.integer value) (.number (naturalNumeral value)) where
  ofCompact := isWritten_natural value
  ofPretty _ := isWritten_natural value

theorem compactItems_eq_map (items : List Json) : compactItems items = items.map compact := by
  induction items with
  | nil =>
      rfl
  | cons item items inductionHypothesis =>
      rw [compactItems, inductionHypothesis, List.map_cons]

theorem compactMembers_eq_map (members : List (String × Json)) :
    compactMembers members =
      members.map fun member => quote member.1 ++ ":" ++ compact member.2 := by
  induction members with
  | nil =>
      rfl
  | cons member members inductionHypothesis =>
      rw [compactMembers, inductionHypothesis, List.map_cons]

theorem prettyItems_eq_map (level : Nat) (items : List Json) :
    prettyItems level items = items.map (prettyAt level) := by
  induction items with
  | nil =>
      rfl
  | cons item items inductionHypothesis =>
      rw [prettyItems, inductionHypothesis, List.map_cons]

theorem prettyMembers_eq_map (level : Nat) (members : List (String × Json)) :
    prettyMembers level members =
      members.map fun member => quote member.1 ++ ": " ++ prettyAt level member.2 := by
  induction members with
  | nil =>
      rfl
  | cons member members inductionHypothesis =>
      rw [prettyMembers, inductionHypothesis, List.map_cons]

theorem isGap_newLine (level : Nat) : IsGap (newLine level).toList := by
  intro character member
  rw [newLine, String.toList_ofList, List.mem_cons] at member
  rcases member with rfl | isFiller
  · rfl
  · rw [List.eq_of_mem_replicate isFiller]
    rfl

/-- A block has gaps after its opening mark, after its commas and before its closing mark. -/
theorem exists_toList_block (opening closing : String) {first last : Char}
    (isFirst : opening.toList = [first]) (isLast : closing.toList = [last]) (level : Nat)
    (rows : List String) :
    ∃ lead gap trail, IsGap lead ∧ IsGap gap ∧ IsGap trail ∧
      (block opening closing level rows).toList =
        first :: (lead ++ (separated gap (rows.map String.toList) ++ (trail ++ [last]))) := by
  cases rows with
  | nil =>
      refine ⟨[], [], [], isGap_nil, isGap_nil, isGap_nil, ?_⟩
      simp [block, separated, isFirst, isLast]
  | cons row rows =>
      refine ⟨_, _, _, isGap_newLine (level + 1), isGap_newLine (level + 1), isGap_newLine level,
        ?_⟩
      simp [block, separated, String.toList_intercalate, isFirst, isLast]

theorem two_le_length_block (opening closing : String) {first last : Char}
    (isFirst : opening.toList = [first]) (isLast : closing.toList = [last]) (level : Nat)
    (rows : List String) : 2 ≤ (block opening closing level rows).toList.length := by
  obtain ⟨lead, gap, trail, _, _, _, isText⟩ :=
    exists_toList_block opening closing isFirst isLast level rows
  rw [isText]
  simp only [List.length_cons, List.length_append, List.length_nil]
  omega

theorem writtenAs_array {items : List Json} {documents : List Document}
    (areWritten : List.Forall₂ (WrittenAs depth) items documents) :
    WrittenAs (depth + 1) (.array items) (.array documents) where
  ofCompact := by
    have isText : (compact (.array items)).toList = '[' ::
        ([] ++ (separated [] (items.map fun item => (compact item).toList) ++ ([] ++ [']']))) := by
      rw [compact, compactItems_eq_map]
      simp [separated, String.toList_intercalate, Function.comp_def]
    rw [isText]
    exact isWritten_array isGap_nil isGap_nil isGap_nil
      (List.forall₂_map_left_iff.2 (areWritten.imp fun _ _ isWritten => isWritten.ofCompact))
  ofPretty level := by
    obtain ⟨lead, gap, trail, isLead, isGap, isTrail, isText⟩ :=
      exists_toList_block "[" "]" rfl rfl level (items.map (prettyAt (level + 1)))
    rw [prettyAt, prettyItems_eq_map, isText, List.map_map]
    exact isWritten_array isLead isGap isTrail
      (List.forall₂_map_left_iff.2
        (areWritten.imp fun _ _ isWritten => isWritten.ofPretty (level + 1)))

/-- The member of an object is written as the member of a document. -/
def MemberWrittenAs (depth : Nat) (member : String × Json) (document : List Piece × Document) :
    Prop :=
  document.1 = written member.1 ∧ WrittenAs depth member.2 document.2

theorem writtenAs_object {members : List (String × Json)}
    {documents : List (List Piece × Document)}
    (areWritten : List.Forall₂ (MemberWrittenAs depth) members documents) :
    WrittenAs (depth + 1) (.object members) (.object documents) where
  ofCompact := by
    have isText : (compact (.object members)).toList = '\x7b' ::
        ([] ++ (separated [] (members.map fun member =>
          (quote member.1).toList ++ ':' :: ([] ++ (compact member.2).toList)) ++
            ([] ++ ['\x7d']))) := by
      rw [compact, compactMembers_eq_map]
      simp [braced, separated, String.toList_intercalate, Function.comp_def]
    rw [isText]
    refine isWritten_object isGap_nil isGap_nil isGap_nil
      (List.forall₂_map_left_iff.2 (areWritten.imp fun member document isWritten => ?_))
    obtain ⟨key, value⟩ := document
    obtain ⟨rfl, isValue⟩ := isWritten
    exact isWritten_member member.1 isGap_nil isValue.ofCompact
  ofPretty level := by
    obtain ⟨lead, gap, trail, isLead, isGap, isTrail, isText⟩ :=
      exists_toList_block "\x7b" "\x7d" rfl rfl level (members.map fun member =>
        quote member.1 ++ ": " ++ prettyAt (level + 1) member.2)
    rw [prettyAt, prettyMembers_eq_map, isText, List.map_map]
    refine isWritten_object isLead isGap isTrail
      (List.forall₂_map_left_iff.2 (areWritten.imp fun member document isWritten => ?_))
    obtain ⟨key, value⟩ := document
    obtain ⟨rfl, isValue⟩ := isWritten
    have isMember : (quote member.1 ++ ": " ++ prettyAt (level + 1) member.2).toList =
        (quote member.1).toList ++ (':' :: ([' '] ++ (prettyAt (level + 1) member.2).toList)) := by
      simp
    have isSpaceOnly : IsGap [' '] := by
      simp [IsGap, isSpace]
    rw [Function.comp_apply, isMember]
    exact isWritten_member member.1 isSpaceOnly (isValue.ofPretty (level + 1))

/-- A document is read from its text, with a gap behind it. -/
theorem Document.read?_of_isWritten {text : String} {body trail : List Char} {document : Document}
    (isText : text.toList = body ++ trail) (isTrail : IsGap trail)
    (isWritten : ∀ more, IsWritten (readValue (depth + more)) body document)
    (enough : depth ≤ text.toList.length + 1) : Document.read? text = some document := by
  obtain ⟨more, isDepth⟩ := Nat.le.dest enough
  have noSpace := (isWritten more).skipSpace_append trail
  have ends : EndsNumber trail := by
    have ends : EndsNumber (trail ++ []) := isTrail.endsNumber_append nofun
    rwa [List.append_nil] at ends
  have nothingLeft : skipSpace trail = [] := by
    have skipped := isTrail.skipSpace_append []
    rw [List.append_nil] at skipped
    exact skipped
  rw [Document.read?, isText, noSpace, ← isText, ← isDepth, isText,
    (isWritten more).read trail ends]
  simp [nothingLeft]

/-- What a value is written as is read back from its text. -/
theorem Document.read?_compact {value : Json} {document : Document}
    (isWritten : ∀ more, WrittenAs (depth + more) value document)
    (enough : depth ≤ (compact value).toList.length + 1) :
    Document.read? (compact value) = some document :=
  read?_of_isWritten (List.append_nil _).symm isGap_nil (fun more => (isWritten more).ofCompact)
    enough

/-- What a value is written as is read back from its indented text with a line feed behind it. -/
theorem Document.read?_pretty {value : Json} {document : Document}
    (isWritten : ∀ more, WrittenAs (depth + more) value document)
    (enough : depth ≤ (pretty value ++ "\n").toList.length + 1) :
    Document.read? (pretty value ++ "\n") = some document := by
  have isLineFeed : IsGap ['\n'] := by
    simp [IsGap, isSpace]
  exact read?_of_isWritten (by simp [pretty]) isLineFeed
    (fun more => (isWritten more).ofPretty 0) enough

end Written

end ModelHub.Json

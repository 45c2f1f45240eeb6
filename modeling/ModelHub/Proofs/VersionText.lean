import Mathlib.Data.List.Forall2
import ModelHub.Proofs.Trimming
import ModelHub.Proofs.VersionOrder

/-!
# Reading and writing versions

A text denotes a version when what is left of it after trimming consists of pieces with single dots
between them, each of which is a row of digits with a value below the bound. Of any other text that
is not blank, the first piece that denotes no number is named. A version that was read can be
written and read again, and has as many components afterwards as before.
-/

namespace ModelHub.Version

/-! ## Pieces -/

/-- The piece is a row of ASCII digits, and not an empty one; their value is the number, and lies
below the bound. -/
structure Denotes (piece : String) (value : Nat) : Prop where
  ne_empty : piece ≠ ""
  isDigit : ∀ character ∈ piece.toList, character.isDigit = true
  value_eq : Nat.ofDigitChars 10 piece.toList 0 = value
  lt_bound : value < componentBound

/-- The pieces stand in the text in that order with single dots between them, and no dot inside any
of them. -/
structure IsSplit (text : String) (pieces : List String) : Prop where
  ne_nil : pieces ≠ []
  undotted : ∀ piece ∈ pieces, '.' ∉ piece.toList
  joined : ".".intercalate pieces = text

theorem Denotes.undotted {piece : String} {value : Nat} (denotes : Denotes piece value) :
    '.' ∉ piece.toList := by
  intro member
  have isDigit := denotes.isDigit '.' member
  cases isDigit

theorem denotes_repr {value : Nat} (below : value < componentBound) :
    Denotes (Nat.repr value) value := by
  have digits : (Nat.repr value).toList = Nat.toDigits 10 value := Nat.toList_repr
  constructor
  · rw [Ne, ← String.toList_eq_nil_iff, digits]
    exact Nat.toDigits_ne_nil
  · intro character member
    rw [digits] at member
    exact Nat.isDigit_of_mem_toDigits (by decide) (by decide) member
  · rw [digits]
    exact Nat.ofDigitChars_ten_toDigits
  · exact below

theorem parseComponent_eq_some_iff {piece : String} {value : Nat} :
    parseComponent piece.toList = some value ↔ Denotes piece value := by
  have sameValue : Text.ofDigits piece.toList = Nat.ofDigitChars 10 piece.toList 0 := rfl
  unfold parseComponent
  rw [sameValue, Option.ite_none_right_eq_some]
  simp only [Bool.and_eq_true, Bool.not_eq_true', List.isEmpty_eq_false_iff, List.all_eq_true,
    decide_eq_true_eq, Option.some.injEq, ne_eq, String.toList_eq_nil_iff]
  constructor
  · intro read
    rcases read with ⟨⟨⟨nonempty, digits⟩, below⟩, rfl⟩
    exact ⟨nonempty, digits, rfl, below⟩
  · intro denotes
    rcases denotes with ⟨nonempty, digits, rfl, below⟩
    exact ⟨⟨⟨nonempty, digits⟩, below⟩, rfl⟩

theorem parseComponent_eq_none_iff {piece : String} :
    parseComponent piece.toList = none ↔ ∀ value, ¬ Denotes piece value := by
  rw [Option.eq_none_iff_forall_ne_some]
  exact forall_congr' fun value => not_congr parseComponent_eq_some_iff

theorem IsSplit.splitOn_eq {text : String} {pieces : List String} (split : IsSplit text pieces) :
    text.toList.splitOn '.' = pieces.map String.toList := by
  rw [← split.joined, String.toList_intercalate]
  apply List.splitOn_intercalate
  · rw [List.forall_mem_map]
    exact split.undotted
  · rw [Ne, List.map_eq_nil_iff]
    exact split.ne_nil

private theorem not_mem_of_mem_splitOn {mark : Char} {characters piece : List Char}
    (member : piece ∈ characters.splitOn mark) : mark ∉ piece := by
  induction characters generalizing piece with
  | nil =>
      simp_all
  | cons first rest inductionHypothesis =>
      rw [List.splitOn_cons_eq_if_modifyHead] at member
      by_cases isMark : first = mark
      · rw [if_pos (beq_iff_eq.2 isMark), List.mem_cons] at member
        rcases member with rfl | later
        · exact List.not_mem_nil
        · exact inductionHypothesis later
      · obtain ⟨head, others, isCons⟩ := List.exists_cons_of_ne_nil (List.splitOn_ne_nil mark rest)
        -- The character joins the first piece of the rest and leaves the others as they are.
        rw [isCons] at member inductionHypothesis
        rw [if_neg (by simpa using isMark), List.modifyHead_cons, List.mem_cons] at member
        rcases member with rfl | later
        · rw [List.mem_cons, not_or]
          exact ⟨Ne.symm isMark, inductionHypothesis List.mem_cons_self⟩
        · exact inductionHypothesis (List.mem_cons_of_mem head later)

theorem exists_isSplit (text : String) : ∃ pieces, IsSplit text pieces := by
  refine ⟨(text.toList.splitOn '.').map String.ofList, ?_, ?_, ?_⟩
  · rw [Ne, List.map_eq_nil_iff]
    exact List.splitOn_ne_nil '.' text.toList
  · rw [List.forall_mem_map]
    intro piece member
    rw [String.toList_ofList]
    exact not_mem_of_mem_splitOn member
  · rw [← String.toList_inj, String.toList_intercalate, List.map_map]
    have unchanged : String.toList ∘ String.ofList = id := funext fun _ => String.toList_ofList
    rw [unchanged, List.map_id]
    exact List.intercalate_splitOn '.'

/-! ## Reading -/

theorem parseComponents_cons_eq_ok_iff {piece : List Char} {rest : List (List Char)}
    {values : List Nat} :
    parseComponents (piece :: rest) = .ok values ↔
      ∃ value others, parseComponent piece = some value ∧ parseComponents rest = .ok others ∧
        values = value :: others := by
  rw [parseComponents]
  cases parseComponent piece with
  | none =>
      simp
  | some value =>
      cases parseComponents rest <;> simp [eq_comm]

theorem parseComponents_cons_eq_error_iff {piece : List Char} {rest : List (List Char)}
    {reason : ParseError} :
    parseComponents (piece :: rest) = .error reason ↔
      (parseComponent piece = none ∧ .invalidComponent (String.ofList piece) = reason) ∨
        (∃ value, parseComponent piece = some value) ∧ parseComponents rest = .error reason := by
  rw [parseComponents]
  cases parseComponent piece with
  | none =>
      simp
  | some value =>
      cases parseComponents rest <;> simp

theorem parseComponents_eq_ok_iff {pieces : List String} {values : List Nat} :
    parseComponents (pieces.map String.toList) = .ok values ↔
      List.Forall₂ Denotes pieces values := by
  induction pieces generalizing values with
  | nil =>
      simp [parseComponents, eq_comm]
  | cons piece rest inductionHypothesis =>
      simp only [List.map_cons, parseComponents_cons_eq_ok_iff, parseComponent_eq_some_iff,
        inductionHypothesis, List.forall₂_cons_left_iff, exists_and_left]

/-- The piece is the first one that denotes no number. -/
def IsFirstInvalid (pieces : List String) (piece : String) : Prop :=
  ∃ before after, pieces = before ++ piece :: after ∧
    (∀ earlier ∈ before, ∃ value, Denotes earlier value) ∧ ∀ value, ¬ Denotes piece value

theorem isFirstInvalid_cons_iff {first piece : String} {rest : List String} :
    IsFirstInvalid (first :: rest) piece ↔
      (first = piece ∧ ∀ value, ¬ Denotes first value) ∨
        (∃ value, Denotes first value) ∧ IsFirstInvalid rest piece := by
  constructor
  · intro isFirst
    rcases isFirst with ⟨before, after, split, denoted, invalid⟩
    cases before with
    | nil =>
        obtain ⟨rfl, rfl⟩ := List.cons.inj split
        exact Or.inl ⟨rfl, invalid⟩
    | cons head others =>
        obtain ⟨rfl, rfl⟩ := List.cons.inj split
        rw [List.forall_mem_cons] at denoted
        exact Or.inr ⟨denoted.1, others, after, rfl, denoted.2, invalid⟩
  · intro invalid
    rcases invalid with ⟨rfl, invalid⟩ | ⟨denoted, before, after, rfl, othersDenoted, invalid⟩
    · exact ⟨[], rest, rfl, by simp, invalid⟩
    · exact ⟨first :: before, after, rfl, List.forall_mem_cons.2 ⟨denoted, othersDenoted⟩, invalid⟩

theorem parseComponents_eq_error_iff {pieces : List String} {reason : ParseError} :
    parseComponents (pieces.map String.toList) = .error reason ↔
      ∃ piece, IsFirstInvalid pieces piece ∧ .invalidComponent piece = reason := by
  induction pieces with
  | nil =>
      simp [parseComponents, IsFirstInvalid]
  | cons first rest inductionHypothesis =>
      rw [List.map_cons, parseComponents_cons_eq_error_iff, parseComponent_eq_none_iff,
        String.ofList_toList, inductionHypothesis]
      simp only [parseComponent_eq_some_iff, isFirstInvalid_cons_iff]
      constructor
      · intro refused
        rcases refused with ⟨invalid, isReason⟩ | ⟨denoted, piece, isFirst, isReason⟩
        · exact ⟨first, Or.inl ⟨rfl, invalid⟩, isReason⟩
        · exact ⟨piece, Or.inr ⟨denoted, isFirst⟩, isReason⟩
      · intro refused
        rcases refused with ⟨piece, ⟨rfl, invalid⟩ | ⟨denoted, isFirst⟩, isReason⟩
        · exact Or.inl ⟨invalid, isReason⟩
        · exact Or.inr ⟨denoted, piece, isFirst, isReason⟩

/-- A text that is not blank is read piece by piece. -/
theorem parse_of_isSplit {text : String} {pieces : List String}
    (split : IsSplit (Text.trim text) pieces) :
    parse text =
      if Text.trim text = "" then .error .empty
      else (parseComponents (pieces.map String.toList)).map Version.mk := by
  have pieceLists := split.splitOn_eq
  have emptyIff := String.toList_eq_nil_iff (b := Text.trim text)
  rw [Text.toList_trim] at pieceLists emptyIff
  unfold parse
  -- The reader looks at the trimmed characters before it splits them.
  cases trimmed : Text.trimBoth text.toList with
  | nil =>
      rw [if_pos (emptyIff.1 trimmed)]
  | cons first rest =>
      have notEmpty : Text.trim text ≠ "" := by
        intro isEmpty
        rw [emptyIff.2 isEmpty] at trimmed
        cases trimmed
      rw [trimmed] at pieceLists
      rw [if_neg notEmpty]
      dsimp only
      rw [pieceLists]
      cases parseComponents (pieces.map String.toList) <;> rfl

theorem IsSplit.ne_empty_of_denotes {text : String} {pieces : List String} {values : List Nat}
    (split : IsSplit text pieces) (denoted : List.Forall₂ Denotes pieces values) : text ≠ "" := by
  intro isEmpty
  have pieceLists := split.splitOn_eq
  rw [isEmpty] at pieceLists
  cases denoted with
  | nil =>
      exact split.ne_nil rfl
  | @cons piece _ rest _ denotes _ =>
      have nothing : [] = piece.toList := (List.cons.inj pieceLists).1
      exact denotes.ne_empty (String.toList_eq_nil_iff.1 nothing.symm)

/-- What comes of reading a text as a version. -/
inductive Reads (text : String) : Except ParseError Version → Prop
  | blank :
      Text.trim text = "" →
      Reads text (.error .empty)
  | invalid {pieces : List String} {piece : String} :
      Text.trim text ≠ "" →
      IsSplit (Text.trim text) pieces →
      IsFirstInvalid pieces piece →
      Reads text (.error (.invalidComponent piece))
  | version {pieces : List String} {version : Version} :
      IsSplit (Text.trim text) pieces →
      List.Forall₂ Denotes pieces version.components →
      Reads text (.ok version)

theorem reads_parse (text : String) : Reads text (parse text) := by
  obtain ⟨pieces, split⟩ := exists_isSplit (Text.trim text)
  rw [parse_of_isSplit split]
  by_cases blank : Text.trim text = ""
  · rw [if_pos blank]
    exact .blank blank
  · rw [if_neg blank]
    cases found : parseComponents (pieces.map String.toList) with
    | ok values =>
        exact .version split (parseComponents_eq_ok_iff.1 found)
    | error reason =>
        obtain ⟨piece, isFirst, rfl⟩ := parseComponents_eq_error_iff.1 found
        exact .invalid blank split isFirst

theorem parse_eq_iff_reads {text : String} {result : Except ParseError Version} :
    parse text = result ↔ Reads text result := by
  constructor
  · intro read
    rw [← read]
    exact reads_parse text
  · intro reads
    cases reads with
    | blank blank =>
        obtain ⟨pieces, split⟩ := exists_isSplit (Text.trim text)
        rw [parse_of_isSplit split, if_pos blank]
    | @invalid pieces piece notBlank split isFirst =>
        rw [parse_of_isSplit split, if_neg notBlank,
          parseComponents_eq_error_iff.2 ⟨piece, isFirst, rfl⟩]
        rfl
    | @version pieces version split denoted =>
        rw [parse_of_isSplit split, if_neg (split.ne_empty_of_denotes denoted),
          parseComponents_eq_ok_iff.2 denoted]
        rfl

theorem parse_eq_ok_iff {text : String} {version : Version} :
    parse text = .ok version ↔
      ∃ pieces, IsSplit (Text.trim text) pieces ∧
        List.Forall₂ Denotes pieces version.components := by
  rw [parse_eq_iff_reads]
  constructor
  · intro reads
    cases reads with
    | version split denoted =>
        exact ⟨_, split, denoted⟩
  · intro denoted
    rcases denoted with ⟨pieces, split, denoted⟩
    exact .version split denoted

theorem parse_eq_empty_iff {text : String} :
    parse text = .error .empty ↔ Text.trim text = "" := by
  rw [parse_eq_iff_reads]
  constructor
  · intro reads
    cases reads with
    | blank blank =>
        exact blank
  · exact .blank

theorem parse_eq_invalidComponent_iff {text piece : String} :
    parse text = .error (.invalidComponent piece) ↔
      Text.trim text ≠ "" ∧
        ∃ pieces, IsSplit (Text.trim text) pieces ∧ IsFirstInvalid pieces piece := by
  rw [parse_eq_iff_reads]
  constructor
  · intro reads
    cases reads with
    | invalid notBlank split isFirst =>
        exact ⟨notBlank, _, split, isFirst⟩
  · intro invalid
    rcases invalid with ⟨notBlank, pieces, split, isFirst⟩
    exact .invalid notBlank split isFirst

/-! ## Writing -/

theorem forall_mem_intercalate {property : Char → Prop} {separator : String}
    {pieces : List String} (separatorHas : ∀ character ∈ separator.toList, property character)
    (piecesHave : ∀ piece ∈ pieces, ∀ character ∈ piece.toList, property character) :
    ∀ character ∈ (separator.intercalate pieces).toList, property character := by
  rw [String.toList_intercalate]
  induction pieces with
  | nil =>
      simp
  | cons piece rest inductionHypothesis =>
      rw [List.forall_mem_cons] at piecesHave
      cases rest with
      | nil =>
          simpa using piecesHave.1
      | cons next others =>
          rw [List.map_cons, List.map_cons, List.intercalate_cons_cons]
          intro character member
          rw [List.mem_append, List.mem_append] at member
          rcases member with (inPiece | inSeparator) | later
          · exact piecesHave.1 character inPiece
          · exact separatorHas character inSeparator
          · exact inductionHypothesis piecesHave.2 character later

/-- The version has at least one component, and all of them lie below the bound. -/
structure IsWritable (version : Version) : Prop where
  ne_nil : version.components ≠ []
  lt_bound : ∀ value ∈ version.components, value < componentBound

theorem lt_bound_of_denotes {pieces : List String} {values : List Nat}
    (denoted : List.Forall₂ Denotes pieces values) : ∀ value ∈ values, value < componentBound := by
  induction denoted with
  | nil =>
      simp
  | cons denotes _ inductionHypothesis =>
      rw [List.forall_mem_cons]
      exact ⟨denotes.lt_bound, inductionHypothesis⟩

theorem isWritable_of_parse {text : String} {version : Version}
    (read : parse text = .ok version) : version.IsWritable := by
  obtain ⟨pieces, split, denoted⟩ := parse_eq_ok_iff.1 read
  constructor
  · intro isNil
    rw [isNil] at denoted
    cases denoted
    exact split.ne_nil rfl
  · exact lt_bound_of_denotes denoted

namespace IsWritable

variable {version : Version} (writable : version.IsWritable)

include writable

theorem denoted :
    List.Forall₂ Denotes (version.components.map Nat.repr) version.components := by
  rw [List.forall₂_map_left_iff, List.forall₂_same]
  intro value member
  exact denotes_repr (writable.lt_bound value member)

theorem isSplit_render : IsSplit version.render (version.components.map Nat.repr) := by
  constructor
  · rw [Ne, List.map_eq_nil_iff]
    exact writable.ne_nil
  · rw [List.forall_mem_map]
    intro value member
    exact (denotes_repr (writable.lt_bound value member)).undotted
  · rfl

theorem trim_render : Text.trim version.render = version.render := by
  apply Text.trim_eq_self
  apply forall_mem_intercalate
  · have dotNotBlank : Text.isBlank '.' = false := by decide
    exact List.forall_mem_singleton.2 dotNotBlank
  · rw [List.forall_mem_map]
    intro value member character inPiece
    have denotes := denotes_repr (writable.lt_bound value member)
    exact Text.isBlank_eq_false_of_isDigit (denotes.isDigit character inPiece)

theorem parse_render : parse version.render = .ok version := by
  apply parse_eq_ok_iff.2
  refine ⟨version.components.map Nat.repr, ?_, writable.denoted⟩
  rw [writable.trim_render]
  exact writable.isSplit_render

end IsWritable

theorem parse?_eq_some_iff {text : String} {version : Version} :
    parse? text = some version ↔ parse text = .ok version := by
  unfold parse?
  cases parse text <;> simp [Except.toOption]

/-- A text denotes a version exactly if, trimmed, it consists of pieces with single dots between
them that denote its components; otherwise it is blank, or its first piece that denotes no number is
named. Any version that was read is written as a text that denotes it again, with the same number of
components, and that is equal to the first one in the order of versions. -/
theorem parse_reads (text : String) :
    (∀ version, parse text = .ok version ↔
      ∃ pieces, IsSplit (Text.trim text) pieces ∧
        List.Forall₂ Denotes pieces version.components) ∧
    (parse text = .error .empty ↔ Text.trim text = "") ∧
    (∀ piece, parse text = .error (.invalidComponent piece) ↔
      Text.trim text ≠ "" ∧
        ∃ pieces, IsSplit (Text.trim text) pieces ∧ IsFirstInvalid pieces piece) ∧
    ∀ version, parse text = .ok version →
      parse version.render = .ok version ∧
        (parse version.render).map render = .ok version.render ∧
        compareTexts version.render text = some .eq := by
  refine ⟨fun version => parse_eq_ok_iff, parse_eq_empty_iff,
    fun piece => parse_eq_invalidComponent_iff, fun version read => ?_⟩
  have readAgain : parse version.render = .ok version := (isWritable_of_parse read).parse_render
  have equal : version.order version = .eq := order_self version
  refine ⟨readAgain, ?_, ?_⟩
  · rw [readAgain]
    rfl
  · unfold compareTexts
    rw [parse?_eq_some_iff.2 readAgain, parse?_eq_some_iff.2 read]
    exact congrArg some equal

theorem parse_reads_padded :
    parse " 1.02.0 " = .ok ⟨[1, 2, 0]⟩ ∧ parse "1.2.0" = .ok ⟨[1, 2, 0]⟩ ∧
      compareTexts "1.2.0" " 1.02.0 " = some .eq := by
  have read : parse " 1.02.0 " = .ok ⟨[1, 2, 0]⟩ := rfl
  obtain ⟨_, _, _, written⟩ := parse_reads " 1.02.0 "
  obtain ⟨readAgain, _, equal⟩ := written ⟨[1, 2, 0]⟩ read
  exact ⟨read, readAgain, equal⟩

end ModelHub.Version

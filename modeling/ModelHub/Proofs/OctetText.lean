import Mathlib.Tactic.SplitIfs
import ModelHub.Http.Message

/-!
# Texts read back from their octets

The octets of a text are well formed, they denote that text, and mending leaves it as it is.
-/

namespace ModelHub

namespace Text

variable {character : Char}

theorem toNat_lt (character : Char) : character.toNat < 0x110000 := by
  have valid : character.toNat.isValidChar := character.valid
  unfold Nat.isValidChar at valid
  omega

theorem carried?_continuation (value : Nat) :
    carried? (continuation value) = some (value % 64) := by
  have bounds : 0x80 ≤ continuation value ∧ continuation value < 0xC0 := by
    unfold continuation
    omega
  rw [carried?, if_pos bounds, continuation, Nat.add_sub_cancel_left]

/-- A character has the length of its octets. -/
theorem charOfLength?_toNat (character : Char) {length : Nat}
    (isLength : (octets character).length = length) :
    charOfLength? character.toNat length = some character := by
  have valid : character.toNat.isValidChar := character.valid
  rw [charOfLength?, Char.ofNat_toNat, if_pos ⟨valid, isLength⟩]

theorem decode?_octets_append (character : Char) (rest : List Nat) :
    decode? (octets character ++ rest) = (decode? rest).map (character :: ·) := by
  have bounded := toNat_lt character
  have sameLength := charOfLength?_toNat character rfl
  unfold octets at sameLength ⊢
  dsimp only at sameLength ⊢
  generalize isCode : character.toNat = code at bounded sameLength ⊢
  -- One case for every number of octets: the first one says how many follow.
  split_ifs at sameLength ⊢ with one two three
  · rw [List.singleton_append, decode?.eq_def]
    dsimp only
    rw [if_pos one, ← isCode, Char.ofNat_toNat]
  · have notOne : ¬ 0xC0 + code / 64 < 0x80 := by omega
    have notWithin : ¬ 0xC0 + code / 64 < 0xC0 := by omega
    have isTwo : 0xC0 + code / 64 < 0xE0 := by omega
    have whole : (0xC0 + code / 64 - 0xC0) * 64 + code % 64 = code := by omega
    rw [List.cons_append, List.singleton_append, decode?.eq_def]
    simp only [notOne, notWithin, isTwo, if_false, if_true, carried?_continuation, whole]
    simp only [List.length_cons, List.length_nil, Nat.zero_add, Nat.reduceAdd] at sameLength
    rw [sameLength]
    cases decode? rest <;> rfl
  · have notOne : ¬ 0xE0 + code / 4096 < 0x80 := by omega
    have notWithin : ¬ 0xE0 + code / 4096 < 0xC0 := by omega
    have notTwo : ¬ 0xE0 + code / 4096 < 0xE0 := by omega
    have isThree : 0xE0 + code / 4096 < 0xF0 := by omega
    have whole : ((0xE0 + code / 4096 - 0xE0) * 64 + code / 64 % 64) * 64 + code % 64 = code := by
      omega
    rw [List.cons_append, List.cons_append, List.singleton_append, decode?.eq_def]
    simp only [notOne, notWithin, notTwo, isThree, if_false, if_true, carried?_continuation, whole]
    simp only [List.length_cons, List.length_nil, Nat.zero_add, Nat.reduceAdd] at sameLength
    rw [sameLength]
    cases decode? rest <;> rfl
  · have notOne : ¬ 0xF0 + code / 262144 < 0x80 := by omega
    have notWithin : ¬ 0xF0 + code / 262144 < 0xC0 := by omega
    have notTwo : ¬ 0xF0 + code / 262144 < 0xE0 := by omega
    have notThree : ¬ 0xF0 + code / 262144 < 0xF0 := by omega
    have isFour : 0xF0 + code / 262144 < 0xF8 := by omega
    have whole : (((0xF0 + code / 262144 - 0xF0) * 64 + code / 4096 % 64) * 64 +
        code / 64 % 64) * 64 + code % 64 = code := by
      omega
    rw [List.cons_append, List.cons_append, List.cons_append, List.singleton_append,
      decode?.eq_def]
    simp only [notOne, notWithin, notTwo, notThree, isFour, if_false, if_true,
      carried?_continuation, whole]
    simp only [List.length_cons, List.length_nil, Nat.zero_add, Nat.reduceAdd] at sameLength
    rw [sameLength]
    cases decode? rest <;> rfl

@[simp]
theorem decode?_encode (characters : List Char) :
    decode? (encode characters) = some characters := by
  unfold encode
  induction characters with
  | nil =>
      rfl
  | cons character rest inductionHypothesis =>
      rw [List.flatMap_cons, decode?_octets_append, inductionHypothesis, Option.map_some]

theorem encode_injective : Function.Injective encode := by
  intro left right same
  have decoded := congrArg decode? same
  rw [decode?_encode, decode?_encode] at decoded
  exact Option.some.inj decoded

/-! ## Mending -/

theorem begin_of_two {code : Nat} (low : 0x80 ≤ code) (high : code < 0x800) :
    begin (0xC0 + code / 64) = .partly ⟨1, 0x80, 0xBF, code / 64⟩ := by
  have notOne : ¬ 0xC0 + code / 64 < 0x80 := by omega
  have notBroken : ¬ 0xC0 + code / 64 < 0xC2 := by omega
  have isTwo : 0xC0 + code / 64 < 0xE0 := by omega
  rw [begin, if_neg notOne, if_neg notBroken, if_pos isTwo, Nat.add_sub_cancel_left]

theorem begin_of_three {code : Nat} (high : code < 0x10000) :
    begin (0xE0 + code / 4096) = .partly ⟨2, if code < 0x1000 then 0xA0 else 0x80,
      if code / 4096 = 0xD then 0x9F else 0xBF, code / 4096⟩ := by
  have notOne : ¬ 0xE0 + code / 4096 < 0x80 := by omega
  have notBroken : ¬ 0xE0 + code / 4096 < 0xC2 := by omega
  have notTwo : ¬ 0xE0 + code / 4096 < 0xE0 := by omega
  have isThree : 0xE0 + code / 4096 < 0xF0 := by omega
  have lowest : 0xE0 + code / 4096 = 0xE0 ↔ code < 0x1000 := by omega
  have surrogate : 0xE0 + code / 4096 = 0xED ↔ code / 4096 = 0xD := by omega
  rw [begin, if_neg notOne, if_neg notBroken, if_neg notTwo, if_pos isThree,
    Nat.add_sub_cancel_left]
  simp only [lowest, surrogate]

theorem begin_of_four {code : Nat} (high : code < 0x110000) :
    begin (0xF0 + code / 262144) = .partly ⟨3, if code < 0x40000 then 0x90 else 0x80,
      if code / 262144 = 4 then 0x8F else 0xBF, code / 262144⟩ := by
  have notOne : ¬ 0xF0 + code / 262144 < 0x80 := by omega
  have notBroken : ¬ 0xF0 + code / 262144 < 0xC2 := by omega
  have notTwo : ¬ 0xF0 + code / 262144 < 0xE0 := by omega
  have notThree : ¬ 0xF0 + code / 262144 < 0xF0 := by omega
  have isFour : 0xF0 + code / 262144 < 0xF5 := by omega
  have lowest : 0xF0 + code / 262144 = 0xF0 ↔ code < 0x40000 := by omega
  have highest : 0xF0 + code / 262144 = 0xF4 ↔ code / 262144 = 4 := by omega
  rw [begin, if_neg notOne, if_neg notBroken, if_neg notTwo, if_neg notThree, if_pos isFour,
    Nat.add_sub_cancel_left]
  simp only [lowest, highest]

/-- The octet of the next six bits is taken where the bounds admit it. -/
theorem take_continuation (awaited : Awaited) (value : Nat)
    (higher : awaited.value = value / 64)
    (admitted : awaited.low ≤ continuation value ∧ continuation value ≤ awaited.high) :
    awaited.take (continuation value) =
      if awaited.owed = 1 then .whole (Char.ofNat value)
      else .partly ⟨awaited.owed - 1, 0x80, 0xBF, value⟩ := by
  have whole : value / 64 * 64 + (continuation value - 0x80) = value := by
    unfold continuation
    omega
  simp only [Awaited.take, if_pos admitted, higher, whole]

theorem continuation_bounds (value : Nat) :
    0x80 ≤ continuation value ∧ continuation value ≤ 0xBF := by
  unfold continuation
  omega

theorem mendFrom_octets_append (character : Char) (rest : List Nat) :
    mendFrom (octets character ++ rest) none = character :: mendFrom rest none := by
  have bounded := toNat_lt character
  have valid : character.toNat.isValidChar := character.valid
  have same : Char.ofNat character.toNat = character := Char.ofNat_toNat character
  unfold octets
  dsimp only
  generalize character.toNat = code at bounded valid same ⊢
  unfold Nat.isValidChar at valid
  -- One case for every number of octets, the first of which begins a character of that length.
  split_ifs with one two three
  · simp [mendFrom, begin, Taken.write, one, same]
  · have last := take_continuation ⟨1, 0x80, 0xBF, code / 64⟩ code rfl
      (continuation_bounds code)
    simp only [List.cons_append, List.nil_append, mendFrom, begin_of_two (Nat.le_of_not_lt one) two,
      Taken.write, last, if_true, same]
  · have second := take_continuation ⟨2, if code < 0x1000 then 0xA0 else 0x80,
      if code / 4096 = 0xD then 0x9F else 0xBF, code / 4096⟩ (code / 64)
      (Nat.div_div_eq_div_mul code 64 64).symm (by
          unfold continuation
          dsimp only
          split_ifs <;> omega)
    have last := take_continuation ⟨1, 0x80, 0xBF, code / 64⟩ code rfl
      (continuation_bounds code)
    simp only [List.cons_append, List.nil_append, mendFrom, begin_of_three three, Taken.write,
      second, last, Nat.reduceEqDiff, Nat.add_one_sub_one, if_false, if_true, same]
  · have second := take_continuation ⟨3, if code < 0x40000 then 0x90 else 0x80,
      if code / 262144 = 4 then 0x8F else 0xBF, code / 262144⟩ (code / 4096)
      (Nat.div_div_eq_div_mul code 4096 64).symm (by
          unfold continuation
          dsimp only
          split_ifs <;> omega)
    have third := take_continuation ⟨2, 0x80, 0xBF, code / 4096⟩ (code / 64)
      (Nat.div_div_eq_div_mul code 64 64).symm
      (continuation_bounds (code / 64))
    have last := take_continuation ⟨1, 0x80, 0xBF, code / 64⟩ code rfl
      (continuation_bounds code)
    simp only [List.cons_append, List.nil_append, mendFrom, begin_of_four bounded, Taken.write,
      second, third, last, Nat.reduceEqDiff, Nat.reduceSub, if_false, if_true, same]

/-- Nothing is to be mended in the octets of a text. -/
theorem mendFrom_encode (characters : List Char) :
    mendFrom (encode characters) none = characters := by
  unfold encode
  induction characters with
  | nil =>
      rfl
  | cons character rest inductionHypothesis =>
      rw [List.flatMap_cons, mendFrom_octets_append, inductionHypothesis]

/-- Only a text with the character of that name in front has a byte order mark. -/
theorem head?_of_orderMark {characters : List Char}
    (marked : orderMark.isPrefixOf (encode characters) = true) :
    characters.head? = some '\uFEFF' := by
  obtain ⟨rest, isRest⟩ := List.isPrefixOf_iff_prefix.1 marked
  have decoded : decode? (octets '\uFEFF' ++ rest) = some characters := by
    rw [← decode?_encode characters, ← isRest]
    rfl
  rw [decode?_octets_append] at decoded
  obtain ⟨others, _, rfl⟩ := Option.map_eq_some_iff.1 decoded
  rfl

end Text

namespace Http.Reply

variable (status : Nat) (location : Option String) {text : String}

@[simp]
theorem text?_ofText (text : String) : (ofText status location text).text? = some text := by
  rw [text?, ofText, Text.decode?_encode, Option.map_some, String.ofList_toList]

/-- A text is shown as it is, but for a byte order mark in front of it. -/
theorem shownText_ofText (unmarked : text.toList.head? ≠ some '\uFEFF') :
    (ofText status location text).shownText = text := by
  have notMarked : ¬ Text.orderMark.isPrefixOf (Text.encode text.toList) = true :=
    fun marked => unmarked (Text.head?_of_orderMark marked)
  rw [shownText, ofText, Text.mend, if_neg notMarked, Text.mendFrom_encode, String.ofList_toList]

end Http.Reply

end ModelHub

import ModelHub.Proofs.LinesAndWords
import ModelHub.Proofs.PercentEncoding
import ModelHub.Url.Endpoint

/-!
# Fields of a form in a query

A field that is added to the query of a URL is read from it behind the fields that were there
before, and its name and its value are read as they were given.
-/

namespace ModelHub.Url

/-! ## Reading fields -/

/-- What is read for a character of a form: a plus sign is a space. -/
def plusAsSpace (character : Char) : Char := if character = '+' then ' ' else character

/-- A part of a form as a text. -/
def formDecode (part : List Char) : String :=
  String.ofList (Text.mendFrom (percentDecode (part.map plusAsSpace)) none)

/-- The name of a field stands before its first equals sign, and its value behind it. -/
def fieldOf (piece : List Char) : String × String :=
  match Text.splitFirst '=' piece with
  | none => (formDecode piece, "")
  | some (name, value) => (formDecode name, formDecode value)

/-- The fields of a query are what stands between its ampersands. -/
def queryFields (query : List Char) : List (String × String) :=
  ((query.splitOn '&').filter fun piece => !piece.isEmpty).map fieldOf

/-- The fields in the query of a URL. -/
def formFields (url : Url) : List (String × String) := queryFields (url.query.getD "").toList

/-! ## Written parts -/

section Parts

variable {character : Char}

/-- The characters that a part of a form is never written with. -/
theorem not_mem_formEncode (noEscape : character ∉ escapeChars)
    (notSafe : isFormSafe character = false) (notPlus : character ≠ '+') (text : String) :
    character ∉ (formEncode text).toList := by
  rw [formEncode, String.toList_ofList]
  intro member
  obtain ⟨source, _, written⟩ := List.mem_flatMap.1 member
  unfold formEncodeChar at written
  split at written
  · exact notPlus (List.mem_singleton.1 written)
  · split at written
    · next isSafe =>
        obtain rfl : character = source := List.mem_singleton.1 written
        rw [isSafe] at notSafe
        cases notSafe
    · obtain ⟨octet, isOctet, inOctet⟩ := List.mem_flatMap.1 written
      exact noEscape
        (mem_escapeChars_of_mem_encodeOctet (Text.octets_lt source octet isOctet) inOctet)

theorem map_plusAsSpace_eq_self {characters : List Char} (noPlus : '+' ∉ characters) :
    characters.map plusAsSpace = characters := by
  have each : ∀ character ∈ characters, plusAsSpace character = character := by
    intro character member
    exact if_neg (ne_of_mem_of_not_mem member noPlus)
  rw [List.map_congr_left each, List.map_id']

theorem plus_not_mem_encodeOctet {octet : Nat} (isOctet : octet < 256) :
    '+' ∉ encodeOctet octet := by
  intro member
  have isEscape := mem_escapeChars_of_mem_encodeOctet isOctet member
  revert isEscape
  decide

/-- Each character is read back from what is written for it. -/
theorem percentDecode_formEncodeChar (character : Char) (rest : List Char) :
    percentDecode ((formEncodeChar character).map plusAsSpace ++ rest) =
      Text.octets character ++ percentDecode rest := by
  unfold formEncodeChar
  split
  · next isBlank =>
      subst isBlank
      exact percentDecode_cons_of_ne (by decide) rest
  · split
    · next isSafe =>
        have notPlus : character ≠ '+' := by
          rintro rfl
          cases isSafe
        have notPercent : character ≠ '%' := by
          rintro rfl
          cases isSafe
        rw [List.map_singleton, plusAsSpace, if_neg notPlus]
        exact percentDecode_cons_of_ne notPercent rest
    · have noPlus : '+' ∉ (Text.octets character).flatMap encodeOctet := by
        intro member
        obtain ⟨octet, isOctet, inOctet⟩ := List.mem_flatMap.1 member
        exact plus_not_mem_encodeOctet (Text.octets_lt character octet isOctet) inOctet
      rw [map_plusAsSpace_eq_self noPlus]
      exact percentDecode_flatMap_encodeOctet (Text.octets_lt character) rest

/-- A part of a form is read as it was given. -/
theorem formDecode_formEncode (text : String) : formDecode (formEncode text).toList = text := by
  have octets (characters : List Char) :
      percentDecode ((characters.flatMap formEncodeChar).map plusAsSpace) =
        Text.encode characters := by
    induction characters with
    | nil =>
        rfl
    | cons character characters inductionHypothesis =>
        rw [List.flatMap_cons, List.map_append, percentDecode_formEncodeChar, inductionHypothesis]
        rfl
  rw [formDecode, formEncode, String.toList_ofList, octets, Text.mendFrom_encode,
    String.ofList_toList]

end Parts

/-! ## Added fields -/

/-- A field as it is written. -/
def writtenField (name value : String) : List Char :=
  (formEncode name).toList ++ '=' :: (formEncode value).toList

theorem fieldOf_writtenField (name value : String) :
    fieldOf (writtenField name value) = (name, value) := by
  have noEquals : '=' ∉ (formEncode name).toList :=
    not_mem_formEncode (by decide) (by decide) (by decide) name
  rw [fieldOf, writtenField, Text.splitFirst_append noEquals]
  exact Prod.ext (formDecode_formEncode name) (formDecode_formEncode value)

theorem ampersand_not_mem_writtenField (name value : String) : '&' ∉ writtenField name value := by
  have noMark (text : String) : '&' ∉ (formEncode text).toList :=
    not_mem_formEncode (by decide) (by decide) (by decide) text
  simp [writtenField, noMark]

theorem queryFields_writtenField (name value : String) :
    queryFields (writtenField name value) = [(name, value)] := by
  have nonempty : (writtenField name value).isEmpty = false := by
    simp [writtenField]
  rw [queryFields, Text.splitOn_of_not_mem (ampersand_not_mem_writtenField name value)]
  simp [nonempty, fieldOf_writtenField]

theorem queryFields_append (query rest : List Char) :
    queryFields (query ++ '&' :: rest) = queryFields query ++ queryFields rest := by
  rw [queryFields, List.splitOn_append_cons_self, List.filter_append, List.map_append]
  rfl

/-- An added field is read behind the others as it was given. -/
theorem formFields_addQueryField (url : Url) (name value : String) :
    (url.addQueryField name value).formFields = url.formFields ++ [(name, value)] := by
  have field : (formEncode name ++ "=" ++ formEncode value).toList = writtenField name value := by
    simp [writtenField]
  unfold formFields addQueryField
  dsimp only
  rw [Option.getD_some]
  split
  · next isEmpty =>
      rw [String.isEmpty_iff] at isEmpty
      rw [isEmpty, field, queryFields_writtenField]
      rfl
  · have separate : (url.query.getD "" ++ "&" ++
        (formEncode name ++ "=" ++ formEncode value)).toList =
          (url.query.getD "").toList ++ '&' :: writtenField name value := by
      rw [String.toList_append, String.toList_append, field]
      simp
    rw [separate, queryFields_append, queryFields_writtenField]

end ModelHub.Url

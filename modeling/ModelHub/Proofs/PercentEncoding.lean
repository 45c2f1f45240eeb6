import ModelHub.Proofs.OctetText
import ModelHub.Url.Percent

/-!
# Percent-encoding is undone by decoding

Where the percent sign itself is encoded, decoding gives back the octets of the text, so different
texts are written differently. A character that is encoded is not among those that are written,
unless it is one that an encoded octet is made of.
-/

namespace ModelHub

namespace Text

theorem octets_lt (character : Char) : ∀ octet ∈ octets character, octet < 256 := by
  have bounded := toNat_lt character
  unfold octets continuation
  dsimp only
  split_ifs
  all_goals
    simp only [List.mem_cons, List.not_mem_nil, or_false]
    omega

end Text

namespace Url

variable {reserved : List Char} {character : Char}

/-! ## Octets -/

theorem hexValue?_upperHexDigit {value : Nat} (isDigit : value < 16) :
    Text.hexValue? (upperHexDigit value) = some value := by
  have each : ∀ value < 16, Text.hexValue? (upperHexDigit value) = some value := by decide
  exact each value isDigit

theorem percentDecode_encodeOctet {octet : Nat} (isOctet : octet < 256) (rest : List Char) :
    percentDecode (encodeOctet octet ++ rest) = octet :: percentDecode rest := by
  have high := hexValue?_upperHexDigit (show octet / 16 < 16 by omega)
  have low := hexValue?_upperHexDigit (show octet % 16 < 16 by omega)
  have whole : octet / 16 * 16 + octet % 16 = octet := by omega
  rw [encodeOctet, List.cons_append, List.cons_append, List.cons_append, List.nil_append,
    percentDecode, high, low]
  simp only [whole]

theorem percentDecode_flatMap_encodeOctet {octets : List Nat}
    (areOctets : ∀ octet ∈ octets, octet < 256) (rest : List Char) :
    percentDecode (octets.flatMap encodeOctet ++ rest) = octets ++ percentDecode rest := by
  induction octets with
  | nil =>
      rfl
  | cons octet octets inductionHypothesis =>
      rw [List.forall_mem_cons] at areOctets
      rw [List.flatMap_cons, List.append_assoc, percentDecode_encodeOctet areOctets.1,
        inductionHypothesis areOctets.2, List.cons_append]

theorem percentDecode_cons_of_ne (notPercent : character ≠ '%') (rest : List Char) :
    percentDecode (character :: rest) = Text.octets character ++ percentDecode rest := by
  rw [percentDecode]
  intro high low others isEscape
  simp_all

/-! ## Texts -/

theorem percentDecode_encodeChar (percent : '%' ∈ reserved) (rest : List Char) :
    percentDecode (encodeChar reserved character ++ rest) =
      Text.octets character ++ percentDecode rest := by
  unfold encodeChar
  split
  · next stands =>
      have notReserved : character ∉ reserved := by simp_all
      have notPercent : character ≠ '%' := fun isPercent => notReserved (isPercent ▸ percent)
      exact percentDecode_cons_of_ne notPercent rest
  · exact percentDecode_flatMap_encodeOctet (Text.octets_lt character) rest

/-- Decoding an encoded text gives the octets of the text. -/
theorem percentDecode_percentEncode (percent : '%' ∈ reserved) (text : List Char) :
    percentDecode (percentEncode reserved text) = Text.encode text := by
  unfold percentEncode Text.encode
  induction text with
  | nil =>
      rfl
  | cons character text inductionHypothesis =>
      rw [List.flatMap_cons, List.flatMap_cons, percentDecode_encodeChar percent,
        inductionHypothesis]

theorem percentEncode_injective (percent : '%' ∈ reserved) :
    Function.Injective (percentEncode reserved) := by
  intro left right same
  have decoded := congrArg percentDecode same
  rw [percentDecode_percentEncode percent, percentDecode_percentEncode percent] at decoded
  exact Text.encode_injective decoded

/-- The characters that an encoded octet is made of. -/
def escapeChars : List Char := '%' :: (List.range 16).map upperHexDigit

theorem mem_escapeChars_of_mem_encodeOctet {octet : Nat} (isOctet : octet < 256)
    (mem : character ∈ encodeOctet octet) : character ∈ escapeChars := by
  have digit {value : Nat} (isDigit : value < 16) : upperHexDigit value ∈ escapeChars :=
    List.mem_cons_of_mem _ (List.mem_map_of_mem (List.mem_range.2 isDigit))
  simp only [encodeOctet, List.mem_cons, List.not_mem_nil, or_false] at mem
  rcases mem with rfl | rfl | rfl
  · exact List.mem_cons_self
  · exact digit (by omega)
  · exact digit (by omega)

theorem not_mem_percentEncode (isReserved : character ∈ reserved)
    (noEscape : character ∉ escapeChars) (text : List Char) :
    character ∉ percentEncode reserved text := by
  intro mem
  obtain ⟨source, _, written⟩ := List.mem_flatMap.1 mem
  unfold encodeChar at written
  split at written
  · next stands =>
      obtain rfl : character = source := List.mem_singleton.1 written
      simp_all
  · obtain ⟨octet, isOctet, inOctet⟩ := List.mem_flatMap.1 written
    exact noEscape
      (mem_escapeChars_of_mem_encodeOctet (Text.octets_lt source octet isOctet) inOctet)

end Url

end ModelHub

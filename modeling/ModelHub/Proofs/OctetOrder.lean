import Mathlib.Data.String.Basic
import ModelHub.Text.Utf8

/-!
# Texts in the order of their octets

Texts are compared character by character. Comparing the octets in which they are written leads to
the same order, because the octets of a lower character are lower, whatever comes after them.
-/

namespace ModelHub.Text

theorem octets_append_lt {left right : Char} (lower : left < right)
    (leftRest rightRest : List Nat) :
    octets left ++ leftRest < octets right ++ rightRest := by
  have lowerCode : left.toNat < right.toNat := lower
  unfold octets continuation
  dsimp only
  -- One case for every pair of lengths: in each of them the first octet that differs decides.
  split_ifs
  all_goals
    simp only [List.cons_append, List.nil_append, List.cons_lt_cons_iff]
    omega

theorem exists_octets_eq_cons (character : Char) :
    ∃ first rest, octets character = first :: rest := by
  unfold octets
  dsimp only
  split_ifs
  all_goals exact ⟨_, _, rfl⟩

theorem encode_lt_encode {left right : List Char} (lower : left < right) :
    encode left < encode right := by
  unfold encode
  induction lower with
  | @nil character rest =>
      obtain ⟨first, others, isCons⟩ := exists_octets_eq_cons character
      rw [List.flatMap_cons, isCons]
      exact List.nil_lt_cons _ _
  | rel lowerCharacter =>
      rw [List.flatMap_cons, List.flatMap_cons]
      exact octets_append_lt lowerCharacter _ _
  | cons _ inductionHypothesis =>
      rw [List.flatMap_cons, List.flatMap_cons]
      exact List.append_left_lt inductionHypothesis

end ModelHub.Text

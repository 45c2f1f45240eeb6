import Mathlib.Data.List.Forall2
import ModelHub.Json.Value

/-!
# Decoding JSON

An object holds the last of the values that are written under a key. A document that is decoded
within a limit of nesting has the same value within a higher limit.
-/

namespace ModelHub.Json

section Rows

variable {item result : Type} {read : item → Option result}

/-- A row is read when each of its items is. -/
theorem mapM_eq_some_iff_forall₂ {items : List item} {results : List result} :
    items.mapM read = some results ↔
      List.Forall₂ (fun item result => read item = some result) items results := by
  induction items generalizing results with
  | nil =>
      simp [eq_comm]
  | cons first items inductionHypothesis =>
      rw [List.mapM_cons, List.forall₂_cons_left_iff]
      constructor
      · intro isRead
        obtain ⟨value, isFirst, others⟩ := Option.bind_eq_some_iff.1 isRead
        obtain ⟨values, areOthers, same⟩ := Option.bind_eq_some_iff.1 others
        exact ⟨value, values, isFirst, inductionHypothesis.1 areOthers, (Option.some.inj same).symm⟩
      · rintro ⟨value, values, isFirst, areOthers, rfl⟩
        rw [isFirst, inductionHypothesis.2 areOthers]
        rfl

/-- Where each value is read from one item only, a row of values is read from one row only. -/
theorem mapM_eq_some_iff_eq_map {write : result → item}
    (isExact : ∀ first value, read first = some value ↔ first = write value) {items : List item}
    {results : List result} : items.mapM read = some results ↔ items = results.map write := by
  simp only [mapM_eq_some_iff_forall₂, isExact]
  rw [← List.forall₂_map_right_iff, List.forall₂_eq_eq_eq]

end Rows

/-! ## Members -/

section Members

variable (key : String)

theorem lookup_insertMember (newKey : String) (value : Json) (members : List (String × Json)) :
    (insertMember newKey value members).lookup key =
      if key = newKey then some value else members.lookup key := by
  induction members with
  | nil =>
      by_cases isNew : key = newKey
      · simp [insertMember, isNew]
      · simp [insertMember, List.lookup_cons, isNew, beq_false_of_ne isNew]
  | cons member members inductionHypothesis =>
      obtain ⟨memberKey, memberValue⟩ := member
      by_cases isNew : key = newKey
      · subst isNew
        by_cases before : key < memberKey
        · simp [insertMember, before]
        · by_cases same : key = memberKey
          · simp [insertMember, same]
          · simp [insertMember, before, same, List.lookup_cons, beq_false_of_ne same,
              inductionHypothesis]
      · by_cases before : newKey < memberKey
        · simp [insertMember, before, List.lookup_cons, isNew, beq_false_of_ne isNew]
        · by_cases same : newKey = memberKey
          · subst same
            simp [insertMember, List.lookup_cons, isNew, beq_false_of_ne isNew]
          · simp [insertMember, before, same, List.lookup_cons, isNew, inductionHypothesis]

theorem lookup_foldl_insertMember (sorted members : List (String × Json)) :
    (members.foldl (fun sorted member => insertMember member.1 member.2 sorted) sorted).lookup
        key =
      (((members.filter fun member => member.1 = key).getLast?).map Prod.snd).or
        (sorted.lookup key) := by
  induction members generalizing sorted with
  | nil =>
      rfl
  | cons member members inductionHypothesis =>
      rw [List.foldl_cons, inductionHypothesis, lookup_insertMember]
      by_cases isKey : member.1 = key
      · have first : (member :: members).filter (fun member => member.1 = key) =
            member :: members.filter fun member => member.1 = key :=
          List.filter_cons_of_pos (by simpa using isKey)
        rw [first, List.getLast?_cons, if_pos isKey.symm]
        cases (members.filter fun member => member.1 = key).getLast? with
        | none =>
            rfl
        | some last =>
            rfl
      · have skipped : (member :: members).filter (fun member => member.1 = key) =
            members.filter fun member => member.1 = key :=
          List.filter_cons_of_neg (by simpa using isKey)
        rw [skipped, if_neg fun isNew => isKey isNew.symm]

/-- The value of an object under a key is the last one that is written under it. -/
theorem lookup_sortMembers (members : List (String × Json)) :
    (sortMembers members).lookup key =
      ((members.filter fun member => member.1 = key).getLast?).map Prod.snd := by
  rw [sortMembers, lookup_foldl_insertMember]
  exact Option.or_none

end Members

/-! ## Objects and arrays -/

section Decoding

variable {depth : Nat} {value : Json}

/-- A member is decoded when its key and its value are. -/
def decodeMember (depth : Nat) (member : List Piece × Document) : Option (String × Json) :=
  match decodeText member.1, decode depth member.2 with
  | some key, some value => some (key, value)
  | _, _ => none

theorem decodeMember_eq_some_iff {member : List Piece × Document} {decoded : String × Json} :
    decodeMember depth member = some decoded ↔
      decodeText member.1 = some decoded.1 ∧ decode depth member.2 = some decoded.2 := by
  obtain ⟨key, value⟩ := decoded
  unfold decodeMember
  split
  · next isKey isValue =>
      rw [isKey, isValue]
      simp
  · next undecoded =>
      refine iff_of_false (by simp) fun both => ?_
      exact undecoded key value both.1 both.2

theorem decode_array_eq_some_iff {items : List Document} :
    decode (depth + 1) (.array items) = some value ↔
      ∃ values, value = .array values ∧
        List.Forall₂ (fun item value => decode depth item = some value) items values := by
  rw [decode, Option.map_eq_some_iff]
  constructor
  · rintro ⟨values, areValues, rfl⟩
    exact ⟨values, rfl, mapM_eq_some_iff_forall₂.1 areValues⟩
  · rintro ⟨values, rfl, areValues⟩
    exact ⟨values, mapM_eq_some_iff_forall₂.2 areValues, rfl⟩

theorem decode_object_eq_some_iff {members : List (List Piece × Document)} :
    decode (depth + 1) (.object members) = some value ↔
      ∃ decoded, value = .object (sortMembers decoded) ∧
        List.Forall₂ (fun member found => decodeMember depth member = some found) members
          decoded := by
  have unfolded : decode (depth + 1) (.object members) =
      (members.mapM (decodeMember depth)).map fun decoded => .object (sortMembers decoded) := by
    rw [decode]
    rfl
  rw [unfolded, Option.map_eq_some_iff]
  constructor
  · rintro ⟨decoded, areDecoded, rfl⟩
    exact ⟨decoded, rfl, mapM_eq_some_iff_forall₂.1 areDecoded⟩
  · rintro ⟨decoded, rfl, areDecoded⟩
    exact ⟨decoded, mapM_eq_some_iff_forall₂.2 areDecoded, rfl⟩

/-- A value that is found within a limit of nesting is found within a higher one. -/
theorem decode_succ {document : Document} (isValue : decode depth document = some value) :
    decode (depth + 1) document = some value := by
  induction depth generalizing document value with
  | zero =>
      cases document with
      | array items =>
          cases isValue
      | object members =>
          cases isValue
      | _ => exact isValue
  | succ depth inductionHypothesis =>
      cases document with
      | array items =>
          obtain ⟨values, rfl, areValues⟩ := decode_array_eq_some_iff.1 isValue
          exact decode_array_eq_some_iff.2
            ⟨values, rfl, areValues.imp fun _ _ => inductionHypothesis⟩
      | object members =>
          obtain ⟨decoded, rfl, areDecoded⟩ := decode_object_eq_some_iff.1 isValue
          refine decode_object_eq_some_iff.2 ⟨decoded, rfl, areDecoded.imp fun member found => ?_⟩
          rw [decodeMember_eq_some_iff, decodeMember_eq_some_iff]
          exact And.imp_right inductionHypothesis
      | _ => exact isValue

end Decoding

end ModelHub.Json

import Mathlib.Data.List.Nodup

/-!
# Looking up keys

A key is found in a row of entries when it stands there. Among distinct keys, what is found under a
key is all that stands there.
-/

namespace ModelHub

variable {α : Type} {key other : String} {value : α} {entries : List (String × α)}

theorem lookup_cons_of_ne (different : key ≠ other) :
    List.lookup key ((other, value) :: entries) = entries.lookup key := by
  rw [List.lookup_cons, beq_false_of_ne different]

theorem isSome_lookup_iff : (entries.lookup key).isSome ↔ key ∈ entries.map Prod.fst := by
  induction entries with
  | nil =>
      simp
  | cons entry rest inductionHypothesis =>
      obtain ⟨entryKey, entryValue⟩ := entry
      by_cases isKey : key = entryKey
      · simp [isKey]
      · rw [lookup_cons_of_ne isKey, inductionHypothesis, List.map_cons, List.mem_cons]
        simp [isKey]

theorem lookup_eq_none_iff_not_mem : entries.lookup key = none ↔ key ∉ entries.map Prod.fst := by
  rw [← isSome_lookup_iff, Option.not_isSome_iff_eq_none]

theorem lookup_eq_some_iff_mem (distinct : (entries.map Prod.fst).Nodup) :
    entries.lookup key = some value ↔ (key, value) ∈ entries := by
  induction entries with
  | nil =>
      simp
  | cons entry rest inductionHypothesis =>
      obtain ⟨entryKey, entryValue⟩ := entry
      obtain ⟨isNew, restDistinct⟩ := List.nodup_cons.1 distinct
      by_cases isKey : key = entryKey
      · subst isKey
        have notRest : (key, value) ∉ rest := fun mem => isNew (List.mem_map.2 ⟨_, mem, rfl⟩)
        simp [notRest, eq_comm]
      · rw [lookup_cons_of_ne isKey, inductionHypothesis restDistinct]
        simp [isKey]

end ModelHub

import Mathlib.Data.List.Basic
import Mathlib.Data.String.Basic
import ModelHub.Proofs.DistinctKeys
import ModelHub.Proofs.TomlDocuments
import ModelHub.Toml.Surplus

/-!
# What is surplus

The paths that one value has beyond another lead through tables of both to a key that only the first
one has. They come in the order of their keys, each of them once. A value without what its paths
lead to has nothing beyond the other value any more.
-/

namespace ModelHub.Toml

/-- A path leads through tables of two values to a key that only the first one has. -/
inductive IsSurplus : Toml → Toml → List String → Prop where
  | key {entries own : List (String × Toml)} {key : String} (mem : key ∈ entries.map Prod.fst)
      (isNew : own.lookup key = none) : IsSurplus (.table entries) (.table own) [key]
  | inside {entries own : List (String × Toml)} {key : String} {value known : Toml}
      {path : List String} (mem : (key, value) ∈ entries) (isKnown : own.lookup key = some known)
      (isSurplus : IsSurplus value known path) :
      IsSurplus (.table entries) (.table own) (key :: path)

section Surplus

variable {entries own : List (String × Toml)} {value other : Toml} {path : List String}

/-- The paths that are surplus below one key. -/
def surplusAt (own : List (String × Toml)) (entry : String × Toml) : List (List String) :=
  match own.lookup entry.1 with
  | none => [[]]
  | some known => surplus entry.2 known

theorem surplusBelow_eq_map (entries own : List (String × Toml)) :
    surplusBelow entries own = entries.map fun entry => (entry.1, surplusAt own entry) := by
  induction entries with
  | nil =>
      rfl
  | cons entry rest inductionHypothesis =>
      rw [surplusBelow, inductionHypothesis, List.map_cons]
      rfl

theorem mem_inKeyOrder_iff {found : List (String × List (List String))} :
    path ∈ inKeyOrder found ↔ ∃ below ∈ found, ∃ rest ∈ below.2, below.1 :: rest = path := by
  simp only [inKeyOrder, List.mem_flatMap, List.mem_mergeSort, List.mem_map]

theorem mem_surplus_table_iff :
    path ∈ surplus (.table entries) (.table own) ↔
      ∃ entry ∈ entries, ∃ rest ∈ surplusAt own entry, entry.1 :: rest = path := by
  rw [surplus, mem_inKeyOrder_iff, surplusBelow_eq_map]
  simp only [List.mem_map, exists_exists_and_eq_and]

theorem surplus_eq_nil (notTable : ∀ own, other ≠ .table own) : surplus value other = [] := by
  unfold surplus
  split
  · next own =>
    exact absurd rfl (notTable own)
  · rfl

theorem isSurplus_of_mem_surplus (mem : path ∈ surplus value other) :
    IsSurplus value other path := by
  induction path generalizing value other with
  | nil =>
      unfold surplus at mem
      split at mem
      · obtain ⟨_, _, _, _, isNil⟩ := mem_inKeyOrder_iff.1 mem
        cases isNil
      · cases mem
  | cons key path inductionHypothesis =>
      unfold surplus at mem
      split at mem
      · next entries own =>
        rw [← surplus] at mem
        obtain ⟨⟨_, entryValue⟩, entryMem, rest, restMem, isPath⟩ := mem_surplus_table_iff.1 mem
        obtain ⟨rfl, rfl⟩ := List.cons.inj isPath
        unfold surplusAt at restMem
        split at restMem
        · next isNew =>
          obtain rfl := List.mem_singleton.1 restMem
          exact .key (List.mem_map_of_mem entryMem) isNew
        · next known isKnown =>
          exact .inside entryMem isKnown (inductionHypothesis restMem)
      · cases mem

theorem IsSurplus.mem_surplus (isSurplus : IsSurplus value other path) :
    path ∈ surplus value other := by
  induction isSurplus with
  | @key entries own key mem isNew =>
      obtain ⟨entry, entryMem, rfl⟩ := List.mem_map.1 mem
      refine mem_surplus_table_iff.2 ⟨entry, entryMem, [], ?_, rfl⟩
      rw [surplusAt, isNew]
      exact List.mem_singleton_self []
  | inside mem isKnown _ inductionHypothesis =>
      refine mem_surplus_table_iff.2 ⟨_, mem, _, ?_, rfl⟩
      rw [surplusAt, isKnown]
      exact inductionHypothesis

theorem mem_surplus_iff : path ∈ surplus value other ↔ IsSurplus value other path :=
  ⟨isSurplus_of_mem_surplus, IsSurplus.mem_surplus⟩

/-! ## Order -/

theorem keysInOrder_iff {α : Type} {left right : String × α} :
    keysInOrder left right = true ↔ left.1 ≤ right.1 :=
  decide_eq_true_iff

/-- Sorting by distinct keys gives keys that increase. -/
theorem pairwise_mergeSort_lt {α : Type} {items : List (String × α)}
    (distinct : (items.map Prod.fst).Nodup) :
    (items.mergeSort keysInOrder).Pairwise fun left right => left.1 < right.1 := by
  have sorted :
      (items.mergeSort keysInOrder).Pairwise fun left right => keysInOrder left right := by
    refine List.pairwise_mergeSort ?_ ?_ items
    · intro left middle right isLower isHigher
      exact keysInOrder_iff.2 ((keysInOrder_iff.1 isLower).trans (keysInOrder_iff.1 isHigher))
    · intro left right
      rw [Bool.or_eq_true, keysInOrder_iff, keysInOrder_iff]
      exact le_total left.1 right.1
  have permutation := (List.mergeSort_perm items keysInOrder).map Prod.fst
  have sortedDistinct := List.pairwise_map.1 (permutation.nodup_iff.2 distinct)
  exact (sorted.and sortedDistinct).imp fun both =>
    lt_of_le_of_ne (keysInOrder_iff.1 both.1) both.2

theorem pairwise_inKeyOrder {found : List (String × List (List String))}
    (distinct : (found.map Prod.fst).Nodup)
    (increasing : ∀ below ∈ found, below.2.Pairwise (· < ·)) :
    (inKeyOrder found).Pairwise (· < ·) := by
  rw [inKeyOrder, List.pairwise_flatMap]
  refine ⟨fun below mem => ?_, (pairwise_mergeSort_lt distinct).imp ?_⟩
  · rw [List.pairwise_map]
    refine (increasing below (List.mem_mergeSort.1 mem)).imp fun lower => ?_
    exact List.cons_lt_cons_iff.2 (Or.inr ⟨rfl, lower⟩)
  · intro lower higher isLower left leftMem right rightMem
    obtain ⟨_, _, rfl⟩ := List.mem_map.1 leftMem
    obtain ⟨_, _, rfl⟩ := List.mem_map.1 rightMem
    exact List.cons_lt_cons_iff.2 (Or.inl isLower)

/-- The paths that are surplus come in the order of the keys at each level, and each once. -/
theorem IsSound.pairwise_surplus (sound : value.IsSound) :
    (surplus value other).Pairwise (· < ·) := by
  induction sound generalizing other with
  | @table entries distinct _ inductionHypothesis =>
      by_cases isTable : ∃ own, other = .table own
      · obtain ⟨own, rfl⟩ := isTable
        rw [surplus, surplusBelow_eq_map]
        refine pairwise_inKeyOrder ?_ (List.forall_mem_map.2 fun entry mem => ?_)
        · rw [List.map_map]
          exact distinct
        · unfold surplusAt
          split
          · exact List.pairwise_singleton _ _
          · exact inductionHypothesis entry mem
      · rw [surplus_eq_nil (not_exists.1 isTable)]
        exact List.Pairwise.nil
  | _ =>
      unfold surplus
      exact List.Pairwise.nil

end Surplus

/-! ## Removal -/

/-- What remains of the paths that start with a key. -/
def pathsBelow (key : String) (paths : List (List String)) : List (List String) :=
  paths.filterMap fun
    | [] => none
    | first :: rest => if first = key then some rest else none

mutual

/-- A value without the keys that paths lead to. -/
def without (paths : List (List String)) : Toml → Toml
  | .table entries => .table (entriesWithout paths entries)
  | value => value

/-- The entries of a table without the keys that paths lead to. -/
def entriesWithout (paths : List (List String)) : List (String × Toml) → List (String × Toml)
  | [] => []
  | (key, value) :: rest =>
    if [key] ∈ paths then entriesWithout paths rest
    else (key, without (pathsBelow key paths) value) :: entriesWithout paths rest

end

section Removal

variable {paths : List (List String)} {key : String} {entries : List (String × Toml)}

theorem mem_pathsBelow_iff {path : List String} :
    path ∈ pathsBelow key paths ↔ key :: path ∈ paths := by
  rw [pathsBelow, List.mem_filterMap]
  constructor
  · rintro ⟨found, mem, isRest⟩
    cases found with
    | nil =>
        cases isRest
    | cons first rest =>
        obtain ⟨rfl, isPath⟩ := Option.ite_none_right_eq_some.1 isRest
        cases isPath
        exact mem
  · intro mem
    exact ⟨key :: path, mem, if_pos rfl⟩

theorem mem_entriesWithout_iff {value : Toml} :
    (key, value) ∈ entriesWithout paths entries ↔
      [key] ∉ paths ∧
        ∃ before, (key, before) ∈ entries ∧ before.without (pathsBelow key paths) = value := by
  induction entries with
  | nil =>
      simp [entriesWithout]
  | cons entry rest inductionHypothesis =>
      obtain ⟨entryKey, entryValue⟩ := entry
      by_cases isRemoved : [entryKey] ∈ paths
      · rw [entriesWithout, if_pos isRemoved, inductionHypothesis]
        refine and_congr_right fun isKept => ?_
        have different : key ≠ entryKey := by
          rintro rfl
          exact isKept isRemoved
        simp [different]
      · rw [entriesWithout, if_neg isRemoved, List.mem_cons, inductionHypothesis]
        constructor
        · rintro (isEntry | ⟨isKept, before, mem, isValue⟩)
          · obtain ⟨rfl, rfl⟩ := Prod.mk.inj isEntry
            exact ⟨isRemoved, entryValue, List.mem_cons_self, rfl⟩
          · exact ⟨isKept, before, .tail _ mem, isValue⟩
        · rintro ⟨isKept, before, mem, rfl⟩
          rcases List.mem_cons.1 mem with isEntry | mem
          · obtain ⟨rfl, rfl⟩ := Prod.mk.inj isEntry
            exact Or.inl rfl
          · exact Or.inr ⟨isKept, before, mem, rfl⟩

theorem lookup_entriesWithout (isKept : [key] ∉ paths) :
    (entriesWithout paths entries).lookup key =
      (entries.lookup key).map (without (pathsBelow key paths)) := by
  induction entries with
  | nil =>
      rfl
  | cons entry rest inductionHypothesis =>
      obtain ⟨entryKey, entryValue⟩ := entry
      by_cases isKey : key = entryKey
      · subst isKey
        simp [entriesWithout, isKept]
      · by_cases isRemoved : [entryKey] ∈ paths
        · rw [entriesWithout, if_pos isRemoved, inductionHypothesis, lookup_cons_of_ne isKey]
        · rw [entriesWithout, if_neg isRemoved, lookup_cons_of_ne isKey, lookup_cons_of_ne isKey,
            inductionHypothesis]

mutual

theorem without_nil : (value : Toml) → value.without [] = value
  | .table entries => by rw [without, entriesWithout_nil]
  | .string _ | .integer _ | .float _ | .boolean _ | .time _ | .array _ => rfl

theorem entriesWithout_nil : (entries : List (String × Toml)) → entriesWithout [] entries = entries
  | [] => rfl
  | (key, value) :: rest => by
      rw [entriesWithout, if_neg List.not_mem_nil, entriesWithout_nil rest]
      exact congrArg (fun value => (key, value) :: rest) (without_nil value)

end

theorem exists_of_without_eq_table {value : Toml} {left : List (String × Toml)}
    (isTable : value.without paths = .table left) :
    ∃ entries, value = .table entries ∧ entriesWithout paths entries = left := by
  cases value with
  | table entries =>
      exact ⟨entries, rfl, by simpa [without] using isTable⟩
  | _ => cases isTable

/-- What is surplus after a removal was surplus before it, and was not removed. -/
theorem IsSurplus.of_without {value other : Toml} {path : List String}
    (isSurplus : IsSurplus (value.without paths) other path) :
    IsSurplus value other path ∧ path ∉ paths := by
  generalize isLeft : value.without paths = left at isSurplus
  induction isSurplus generalizing value paths with
  | key mem isNew =>
      obtain ⟨entries, rfl, rfl⟩ := exists_of_without_eq_table isLeft
      obtain ⟨⟨key, value⟩, entryMem, rfl⟩ := List.mem_map.1 mem
      obtain ⟨isKept, before, beforeMem, _⟩ := mem_entriesWithout_iff.1 entryMem
      exact ⟨.key (List.mem_map.2 ⟨_, beforeMem, rfl⟩) isNew, isKept⟩
  | inside mem isKnown _ inductionHypothesis =>
      obtain ⟨entries, rfl, rfl⟩ := exists_of_without_eq_table isLeft
      obtain ⟨_, before, beforeMem, isBefore⟩ := mem_entriesWithout_iff.1 mem
      obtain ⟨isSurplus, isKept⟩ := inductionHypothesis isBefore
      exact ⟨.inside beforeMem isKnown isSurplus, fun removed =>
        isKept (mem_pathsBelow_iff.2 removed)⟩

/-- Nothing is surplus in a value without its surplus. -/
theorem surplus_without_surplus (value other : Toml) :
    surplus (value.without (surplus value other)) other = [] := by
  refine List.eq_nil_iff_forall_not_mem.2 fun path mem => ?_
  obtain ⟨isSurplus, isKept⟩ := (isSurplus_of_mem_surplus mem).of_without
  exact isKept isSurplus.mem_surplus

end Removal

end ModelHub.Toml

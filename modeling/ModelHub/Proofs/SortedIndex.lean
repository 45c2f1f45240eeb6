import Mathlib.Data.List.Nodup
import Mathlib.Data.String.Basic
import ModelHub.Proofs.DistinctKeys
import ModelHub.Proofs.HubIndex

/-!
# An index in the order of its ids

The ids of an index are distinct, so that an entry stands in it exactly if it is held under its id.
Sorting an index loses nothing, and its ids then increase strictly.
-/

namespace ModelHub.Index

variable {index : Index} {modelId : String} {entry : Entry}

/-! ## Distinct ids -/

/-- No two entries stand under one id. -/
def IsDistinct (index : Index) : Prop := (index.entries.map Prod.fst).Nodup

/-- Placing an entry adds its id at the end, unless the id is there already. -/
theorem map_fst_place (modelId : String) (entry : Entry) (entries : List (String × Entry)) :
    (place modelId entry entries).map Prod.fst =
      if modelId ∈ entries.map Prod.fst then entries.map Prod.fst
      else entries.map Prod.fst ++ [modelId] := by
  induction entries with
  | nil =>
      rfl
  | cons head rest inductionHypothesis =>
      obtain ⟨headId, held⟩ := head
      by_cases placed : headId = modelId
      · simp [place, placed]
      · simp only [place, placed, if_false, List.map_cons, inductionHypothesis, List.mem_cons,
          Ne.symm placed, false_or]
        by_cases known : modelId ∈ rest.map Prod.fst
        · rw [if_pos known, if_pos known]
        · rw [if_neg known, if_neg known]
          rfl

theorem IsDistinct.insert (distinct : index.IsDistinct) (entry : Entry) :
    (index.insert entry).IsDistinct := by
  unfold Index.insert
  cases entry.tag? with
  | none =>
      exact distinct
  | some tag =>
      unfold IsDistinct
      rw [map_fst_place]
      by_cases known : tag.modelId ∈ index.entries.map Prod.fst
      · rw [if_pos known]
        exact distinct
      · rw [if_neg known]
        exact List.Nodup.append distinct (List.nodup_singleton _) (by simpa using known)

theorem isDistinct_ofEntries (entries : List Entry) : (ofEntries entries).IsDistinct := by
  have folded (index : Index) (distinct : index.IsDistinct) :
      (entries.foldl Index.insert index).IsDistinct := by
    induction entries generalizing index with
    | nil =>
        exact distinct
    | cons entry rest inductionHypothesis =>
        exact inductionHypothesis _ (distinct.insert entry)
  exact folded empty List.nodup_nil

/-- An entry stands in the index if it is held under its id. -/
theorem IsDistinct.mem_entries_iff (distinct : index.IsDistinct) :
    (modelId, entry) ∈ index.entries ↔ index.get? modelId = some entry := by
  exact (lookup_eq_some_iff_mem distinct).symm

/-! ## Sorting -/

theorem insertSorted_perm (item : String × Entry) (entries : List (String × Entry)) :
    (insertSorted item entries).Perm (item :: entries) := by
  induction entries with
  | nil =>
      exact List.Perm.refl _
  | cons head rest inductionHypothesis =>
      unfold insertSorted
      by_cases lower : item.1 < head.1
      · rw [if_pos lower]
      · rw [if_neg lower]
        exact (inductionHypothesis.cons head).trans (List.Perm.swap item head rest)

/-- Entries whose ids increase still do so after a further id has been put in its place. -/
theorem insertSorted_increasing {item : String × Entry} {entries : List (String × Entry)}
    (isNew : ∀ other ∈ entries, other.1 ≠ item.1)
    (increasing : entries.Pairwise fun lower higher => lower.1 < higher.1) :
    (insertSorted item entries).Pairwise fun lower higher => lower.1 < higher.1 := by
  induction entries with
  | nil =>
      exact List.pairwise_singleton _ item
  | cons head rest inductionHypothesis =>
      obtain ⟨headNew, restNew⟩ := List.forall_mem_cons.1 isNew
      obtain ⟨headLower, restIncreasing⟩ := List.pairwise_cons.1 increasing
      unfold insertSorted
      by_cases lower : item.1 < head.1
      · rw [if_pos lower]
        refine List.pairwise_cons.2 ⟨?_, increasing⟩
        rw [List.forall_mem_cons]
        exact ⟨lower, fun other member => lower.trans (headLower other member)⟩
      · rw [if_neg lower]
        have headBelow : head.1 < item.1 := lt_of_le_of_ne (not_lt.1 lower) headNew
        refine List.pairwise_cons.2 ⟨?_, inductionHypothesis restNew restIncreasing⟩
        intro other member
        rcases List.mem_cons.1 ((insertSorted_perm item rest).mem_iff.1 member) with
          isItem | isOther
        · rw [isItem]
          exact headBelow
        · exact headLower other isOther

private theorem foldl_insertSorted_perm (entries sorted : List (String × Entry)) :
    (entries.foldl (fun sorted item => insertSorted item sorted) sorted).Perm
      (entries ++ sorted) := by
  induction entries generalizing sorted with
  | nil =>
      exact List.Perm.refl sorted
  | cons item rest inductionHypothesis =>
      have inserted := (insertSorted_perm item sorted).append_left rest
      exact (inductionHypothesis _).trans (inserted.trans List.perm_middle)

/-- Sorting an index loses no entry and adds none. -/
theorem toSortedList_perm (index : Index) : index.toSortedList.Perm index.entries := by
  have permutation := foldl_insertSorted_perm index.entries []
  rw [List.append_nil] at permutation
  exact permutation

private theorem foldl_insertSorted_increasing {entries sorted : List (String × Entry)}
    (distinct : ((entries ++ sorted).map Prod.fst).Nodup)
    (increasing : sorted.Pairwise fun lower higher => lower.1 < higher.1) :
    (entries.foldl (fun sorted item => insertSorted item sorted) sorted).Pairwise
      fun lower higher => lower.1 < higher.1 := by
  induction entries generalizing sorted with
  | nil =>
      exact increasing
  | cons item rest inductionHypothesis =>
      rw [List.cons_append, List.map_cons, List.nodup_cons, List.mem_map] at distinct
      obtain ⟨isNew, restDistinct⟩ := distinct
      have inserted := (insertSorted_perm item sorted).append_left rest
      refine inductionHypothesis ?_ (insertSorted_increasing ?_ increasing)
      · have permutation := (inserted.trans List.perm_middle).map Prod.fst
        rw [permutation.nodup_iff, List.map_cons, List.nodup_cons, List.mem_map]
        exact ⟨isNew, restDistinct⟩
      · intro other member same
        exact isNew ⟨other, List.mem_append_right rest member, same⟩

/-- The ids of a sorted index increase strictly. -/
theorem IsDistinct.toSortedList_increasing (distinct : index.IsDistinct) :
    index.toSortedList.Pairwise fun lower higher => lower.1 < higher.1 := by
  refine foldl_insertSorted_increasing ?_ List.Pairwise.nil
  rw [List.append_nil]
  exact distinct

/-- The sorted list of an index holds under each id what the index holds. -/
theorem IsDistinct.mem_toSortedList_iff (distinct : index.IsDistinct) :
    (modelId, entry) ∈ index.toSortedList ↔ index.get? modelId = some entry := by
  rw [index.toSortedList_perm.mem_iff, distinct.mem_entries_iff]

end ModelHub.Index

import Mathlib.Data.List.Induction

/-!
# The first of the highest items

A search that goes through a list from the left and replaces what it holds only by an item of
strictly higher rank ends with the first item of the highest rank. Ranks are compared by a total
preorder, so different items can be of equal rank.
-/

namespace ModelHub

variable {item rank : Type} [Ord rank]

/-- The item stands in the list, is ranked above all items before it, and is not ranked below any
item after it. -/
def IsFirstHighest (rankOf : item → rank) (items : List item) (best : item) : Prop :=
  ∃ before after, items = before ++ best :: after ∧
    (∀ other ∈ before, compare (rankOf other) (rankOf best) = .lt) ∧
    ∀ other ∈ after, (compare (rankOf other) (rankOf best)).isLE = true

/-- One step of the search: a further item takes the place of the one that is held when it is
ranked strictly higher. -/
def keepHigher (rankOf : item → rank) (held : Option item) (next : item) : Option item :=
  match held with
  | none => some next
  | some current =>
      some (if compare (rankOf next) (rankOf current) = .gt then next else current)

variable {rankOf : item → rank} {items : List item} {best : item}

theorem IsFirstHighest.mem (highest : IsFirstHighest rankOf items best) : best ∈ items := by
  obtain ⟨before, after, rfl, _, _⟩ := highest
  exact List.mem_append_right before List.mem_cons_self

/-- Items that come later and are not higher change nothing. -/
theorem IsFirstHighest.append_right {others : List item}
    (highest : IsFirstHighest rankOf items best)
    (notHigher : ∀ other ∈ others, (compare (rankOf other) (rankOf best)).isLE = true) :
    IsFirstHighest rankOf (items ++ others) best := by
  obtain ⟨before, after, rfl, lower, notHigherAfter⟩ := highest
  refine ⟨before, after ++ others, by simp, lower, ?_⟩
  exact List.forall_mem_append.2 ⟨notHigherAfter, notHigher⟩

/-- Items that come earlier and are lower change nothing. -/
theorem IsFirstHighest.append_left {others : List item}
    (highest : IsFirstHighest rankOf items best)
    (lower : ∀ other ∈ others, compare (rankOf other) (rankOf best) = .lt) :
    IsFirstHighest rankOf (others ++ items) best := by
  obtain ⟨before, after, rfl, lowerBefore, notHigher⟩ := highest
  refine ⟨others ++ before, after, by simp, ?_, notHigher⟩
  exact List.forall_mem_append.2 ⟨lower, lowerBefore⟩

/-- In a list of values the first of the highest ones is the value of the first item whose value is
highest. -/
theorem isFirstHighest_map_iff {value : Type} {rankOf : value → rank} {valueOf : item → value}
    {items : List item} {best : value} :
    IsFirstHighest rankOf (items.map valueOf) best ↔
      ∃ item, valueOf item = best ∧
        IsFirstHighest (fun other => rankOf (valueOf other)) items item := by
  constructor
  · intro highest
    rcases highest with ⟨before, after, split, lower, notHigher⟩
    obtain ⟨itemsBefore, rest, rfl, rfl, restMapped⟩ := List.map_eq_append_iff.1 split
    obtain ⟨item, itemsAfter, rfl, rfl, rfl⟩ := List.map_eq_cons_iff.1 restMapped
    rw [List.forall_mem_map] at lower notHigher
    exact ⟨item, rfl, itemsBefore, itemsAfter, rfl, lower, notHigher⟩
  · intro highest
    rcases highest with ⟨item, rfl, before, after, rfl, lower, notHigher⟩
    refine ⟨before.map valueOf, after.map valueOf, by simp, ?_, ?_⟩
    · rw [List.forall_mem_map]
      exact lower
    · rw [List.forall_mem_map]
      exact notHigher

/-- Among the items that are chosen from a list the first of the highest ones stands in the list
itself so that the chosen items before and after it are not higher. -/
theorem isFirstHighest_filter_iff {chosen : item → Bool} :
    IsFirstHighest rankOf (items.filter chosen) best ↔
      chosen best = true ∧ ∃ before after, items = before ++ best :: after ∧
        (∀ other ∈ before, chosen other = true →
          compare (rankOf other) (rankOf best) = .lt) ∧
        ∀ other ∈ after, chosen other = true →
          (compare (rankOf other) (rankOf best)).isLE = true := by
  constructor
  · intro highest
    rcases highest with ⟨chosenBefore, chosenAfter, split, lower, notHigher⟩
    obtain ⟨before, rest, rfl, rfl, restChosen⟩ := List.filter_eq_append_iff.1 split
    obtain ⟨skipped, after, rfl, notChosen, isChosen, rfl⟩ := List.filter_eq_cons_iff.1 restChosen
    refine ⟨isChosen, before ++ skipped, after, by simp, fun other member otherChosen => ?_,
      fun other member otherChosen => notHigher other (List.mem_filter.2 ⟨member, otherChosen⟩)⟩
    rw [List.mem_append] at member
    rcases member with inBefore | wasSkipped
    · exact lower other (List.mem_filter.2 ⟨inBefore, otherChosen⟩)
    · exact absurd otherChosen (notChosen other wasSkipped)
  · intro highest
    rcases highest with ⟨isChosen, before, after, rfl, lower, notHigher⟩
    refine ⟨before.filter chosen, after.filter chosen, by simp [isChosen],
      fun other member => ?_, fun other member => ?_⟩
    · rw [List.mem_filter] at member
      exact lower other member.1 member.2
    · rw [List.mem_filter] at member
      exact notHigher other member.1 member.2

private theorem foldl_keepHigher_of_isLE
    (notHigher : ∀ other ∈ items, (compare (rankOf other) (rankOf best)).isLE = true) :
    items.foldl (keepHigher rankOf) (some best) = some best := by
  induction items with
  | nil =>
      rfl
  | cons next rest inductionHypothesis =>
      have stays : keepHigher rankOf (some best) next = some best := by
        have nextNotHigher := notHigher next List.mem_cons_self
        rw [Ordering.isLE_iff_ne_gt] at nextNotHigher
        simp [keepHigher, nextNotHigher]
      rw [List.foldl_cons, stays]
      exact inductionHypothesis fun other member =>
        notHigher other (List.mem_cons_of_mem next member)

/-! ## Transitive ranks -/

variable [Std.TransOrd rank]

/-- No item is ranked above the first of the highest ones. -/
theorem IsFirstHighest.isLE (highest : IsFirstHighest rankOf items best)
    {other : item} (member : other ∈ items) :
    (compare (rankOf other) (rankOf best)).isLE = true := by
  obtain ⟨before, after, rfl, lower, notHigher⟩ := highest
  simp only [List.mem_append, List.mem_cons] at member
  rcases member with inBefore | rfl | inAfter
  · rw [lower other inBefore]
    rfl
  · exact Std.ReflCmp.isLE_rfl
  · exact notHigher other inAfter

/-- The first of the highest items of two lists with the same items are of equal rank. -/
theorem IsFirstHighest.compare_eq {others : List item} {otherBest : item}
    (highest : IsFirstHighest rankOf items best)
    (otherHighest : IsFirstHighest rankOf others otherBest)
    (sameItems : ∀ candidate, candidate ∈ items ↔ candidate ∈ others) :
    compare (rankOf best) (rankOf otherBest) = .eq :=
  Std.OrientedCmp.isLE_antisymm (otherHighest.isLE ((sameItems best).1 highest.mem))
    (highest.isLE ((sameItems otherBest).2 otherHighest.mem))

/-- The search over a list that is not empty ends with the first of its highest items. -/
theorem exists_foldl_keepHigher (rankOf : item → rank) (nonempty : items ≠ []) :
    ∃ best, items.foldl (keepHigher rankOf) none = some best ∧
      IsFirstHighest rankOf items best := by
  induction items using List.reverseRecOn with
  | nil =>
      exact absurd rfl nonempty
  | append_singleton initial last inductionHypothesis =>
      rw [List.foldl_append, List.foldl_cons, List.foldl_nil]
      by_cases initialEmpty : initial = []
      · subst initialEmpty
        exact ⟨last, rfl, [], [], rfl, by simp, by simp⟩
      · obtain ⟨held, found, highest⟩ := inductionHypothesis initialEmpty
        rw [found]
        by_cases higher : compare (rankOf last) (rankOf held) = .gt
        · refine ⟨last, by simp [keepHigher, higher], initial, [], rfl, ?_, by simp⟩
          intro other member
          exact Std.TransCmp.lt_of_isLE_of_lt (highest.isLE member)
            (Std.OrientedCmp.lt_of_gt higher)
        · obtain ⟨before, after, rfl, lower, notHigher⟩ := highest
          refine ⟨held, by simp [keepHigher, higher], before, after ++ [last], by simp, lower, ?_⟩
          intro other member
          rw [List.mem_append, List.mem_singleton] at member
          rcases member with inAfter | rfl
          · exact notHigher other inAfter
          · exact Ordering.isLE_iff_ne_gt.2 higher

/-- The search ends with an item exactly when it is the first of the highest ones. -/
theorem foldl_keepHigher_eq_some_iff :
    items.foldl (keepHigher rankOf) none = some best ↔ IsFirstHighest rankOf items best := by
  constructor
  · intro found
    have nonempty : items ≠ [] := by
      intro isEmpty
      simp [isEmpty] at found
    obtain ⟨other, otherFound, highest⟩ := exists_foldl_keepHigher rankOf nonempty
    obtain rfl : best = other := Option.some.inj (found.symm.trans otherFound)
    exact highest
  · intro highest
    rcases highest with ⟨before, after, rfl, lower, notHigher⟩
    -- What was held when the item was reached stood before it, so the item replaced it.
    have reached : keepHigher rankOf (before.foldl (keepHigher rankOf) none) best = some best := by
      by_cases beforeEmpty : before = []
      · rw [beforeEmpty]
        rfl
      · obtain ⟨held, found, highest⟩ := exists_foldl_keepHigher rankOf beforeEmpty
        rw [found]
        simp [keepHigher, Std.OrientedCmp.gt_of_lt (lower held highest.mem)]
    rw [List.foldl_append, List.foldl_cons, reached]
    exact foldl_keepHigher_of_isLE notHigher

/-- The search ends with nothing only in an empty list. -/
theorem foldl_keepHigher_eq_none_iff :
    items.foldl (keepHigher rankOf) none = none ↔ items = [] := by
  constructor
  · intro nothing
    by_contra nonempty
    obtain ⟨best, found, _⟩ := exists_foldl_keepHigher rankOf nonempty
    rw [nothing] at found
    cases found
  · intro isEmpty
    rw [isEmpty]
    rfl

end ModelHub

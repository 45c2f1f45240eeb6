/-!
# Ranges of code points

A property of characters is given by closed ranges of code points, in ascending order and apart
from each other.
-/

namespace ModelHub.Text

def inRanges (ranges : List (Nat × Nat)) (code : Nat) : Bool :=
  ranges.any fun range => decide (range.1 ≤ code) && decide (code ≤ range.2)

def rangeValue? {α : Type} (rows : List (Nat × Nat × α)) (code : Nat) : Option α :=
  rows.findSome? fun row => if row.1 ≤ code ∧ code ≤ row.2.1 then some row.2.2 else none

/-- A code point lies in one of the ranges when it lies between the ends of one. -/
theorem inRanges_iff {ranges : List (Nat × Nat)} {code : Nat} :
    inRanges ranges code = true ↔ ∃ range ∈ ranges, range.1 ≤ code ∧ code ≤ range.2 := by
  simp [inRanges]

/-- A value comes from a range that the code point lies in. -/
theorem exists_of_rangeValue?_eq_some {α : Type} {rows : List (Nat × Nat × α)} {code : Nat}
    {value : α} (found : rangeValue? rows code = some value) :
    ∃ row ∈ rows, row.1 ≤ code ∧ code ≤ row.2.1 ∧ row.2.2 = value := by
  obtain ⟨row, member, equal⟩ := List.exists_of_findSome?_eq_some found
  split at equal
  · next within => exact ⟨row, member, within.1, within.2, Option.some.inj equal⟩
  · simp at equal

end ModelHub.Text

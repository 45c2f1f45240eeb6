import Mathlib.Data.List.GetD
import ModelHub.Version

/-!
# The order of versions is a total preorder

Two rows of numbers are compared at the first place where they differ, a row that has ended
counting as continued by zeros. From this the order of versions is oriented and transitive, and
versions with the same numbers up to zeros at the end are equal in it.
-/

namespace ModelHub.Version

/-! ## Rows of numbers -/

/-- The number of a row at a place; a row that has ended is continued by zeros. -/
def numberAt (components : List Nat) (place : Nat) : Nat := components.getD place 0

theorem numberAt_zero (components : List Nat) :
    numberAt components 0 = components.headD 0 := by
  cases components <;> rfl

theorem numberAt_succ (components : List Nat) (place : Nat) :
    numberAt components (place + 1) = numberAt components.tail place := by
  cases components <;> simp [numberAt]

/-- A comparison of two rows looks at their first numbers and goes on with the rest. -/
theorem compareComponents_eq_then (left right : List Nat) :
    compareComponents left right =
      (compare (left.headD 0) (right.headD 0)).then
        (compareComponents left.tail right.tail) := by
  cases left with
  | cons first rest =>
      rfl
  | nil =>
      cases right with
      | nil =>
          rfl
      | cons first rest =>
          cases first with
          | zero =>
              simp [compareComponents]
          | succ number =>
              simp [compareComponents, Nat.compare_eq_lt.mpr (Nat.succ_pos number)]

/-- Two rows can be compared by shortening both until nothing is left of either. -/
private theorem rows_induction {property : List Nat → List Nat → Prop}
    (ended : property [] [])
    (shortened :
      ∀ left right, property left.tail right.tail → property left right)
    (left right : List Nat) : property left right := by
  induction left generalizing right with
  | nil =>
      induction right with
      | nil =>
          exact ended
      | cons first rest inductionHypothesis =>
          exact shortened [] (first :: rest) inductionHypothesis
  | cons first rest inductionHypothesis =>
      exact shortened (first :: rest) right (inductionHypothesis right.tail)

/-- Rows are equal when they agree at every place. -/
theorem compareComponents_eq_eq_iff (left right : List Nat) :
    compareComponents left right = .eq ↔
      ∀ place, numberAt left place = numberAt right place := by
  induction left, right using rows_induction with
  | ended =>
      simp [compareComponents]
  | shortened left right inductionHypothesis =>
      rw [compareComponents_eq_then, Ordering.then_eq_eq, Nat.compare_eq_eq,
        inductionHypothesis, ← numberAt_zero, ← numberAt_zero]
      constructor
      · intro equal place
        rcases equal with ⟨firstEqual, restEqual⟩
        cases place with
        | zero =>
            exact firstEqual
        | succ place =>
            rw [numberAt_succ, numberAt_succ]
            exact restEqual place
      · intro equal
        refine ⟨equal 0, fun place => ?_⟩
        rw [← numberAt_succ, ← numberAt_succ]
        exact equal (place + 1)

/-- The left row is lower when it is so at the first place where the rows differ. -/
theorem compareComponents_eq_lt_iff (left right : List Nat) :
    compareComponents left right = .lt ↔
      ∃ place, (∀ earlier < place, numberAt left earlier = numberAt right earlier) ∧
        numberAt left place < numberAt right place := by
  induction left, right using rows_induction with
  | ended =>
      simp [compareComponents]
  | shortened left right inductionHypothesis =>
      rw [compareComponents_eq_then, Ordering.then_eq_lt, Nat.compare_eq_lt,
        Nat.compare_eq_eq, inductionHypothesis, ← numberAt_zero, ← numberAt_zero]
      constructor
      · intro lower
        rcases lower with (firstLower | ⟨firstEqual, place, agree, lower⟩)
        · exact ⟨0, fun earlier before => absurd before (Nat.not_lt_zero earlier), firstLower⟩
        · refine ⟨place + 1, fun earlier before => ?_, ?_⟩
          · cases earlier with
            | zero =>
                exact firstEqual
            | succ earlier =>
                rw [numberAt_succ, numberAt_succ]
                exact agree earlier (Nat.lt_of_succ_lt_succ before)
          · rw [numberAt_succ, numberAt_succ]
            exact lower
      · intro lower
        rcases lower with ⟨place, agree, lower⟩
        cases place with
        | zero =>
            exact Or.inl lower
        | succ place =>
            rw [numberAt_succ, numberAt_succ] at lower
            refine Or.inr ⟨agree 0 (Nat.succ_pos place), place, fun earlier before => ?_, lower⟩
            rw [← numberAt_succ, ← numberAt_succ]
            exact agree (earlier + 1) (Nat.succ_lt_succ before)

theorem compareComponents_swap (left right : List Nat) :
    compareComponents left right = (compareComponents right left).swap := by
  induction left, right using rows_induction with
  | ended =>
      rfl
  | shortened left right inductionHypothesis =>
      rw [compareComponents_eq_then left right, compareComponents_eq_then right left,
        Ordering.swap_then, Nat.compare_swap, inductionHypothesis]

/-- Of two places where rows in a chain differ first, the earlier one decides. -/
theorem compareComponents_lt_trans {left middle right : List Nat}
    (leftLower : compareComponents left middle = .lt)
    (middleLower : compareComponents middle right = .lt) :
    compareComponents left right = .lt := by
  rw [compareComponents_eq_lt_iff] at leftLower middleLower ⊢
  obtain ⟨place, agree, lower⟩ := leftLower
  obtain ⟨otherPlace, otherAgree, otherLower⟩ := middleLower
  rcases Nat.lt_trichotomy place otherPlace with before | rfl | after
  · refine ⟨place, fun earlier early => ?_, ?_⟩
    · exact (agree earlier early).trans (otherAgree earlier (Nat.lt_trans early before))
    · rw [← otherAgree place before]
      exact lower
  · exact ⟨place, fun earlier early => (agree earlier early).trans (otherAgree earlier early),
      Nat.lt_trans lower otherLower⟩
  · refine ⟨otherPlace, fun earlier early => ?_, ?_⟩
    · exact (agree earlier (Nat.lt_trans early after)).trans (otherAgree earlier early)
    · rw [agree otherPlace after]
      exact otherLower

/-- Rows that agree at every place compare alike with any other row. -/
theorem compareComponents_congr {left otherLeft : List Nat}
    (equal : compareComponents left otherLeft = .eq) (right : List Nat) :
    compareComponents left right = compareComponents otherLeft right := by
  have sameNumbers : numberAt left = numberAt otherLeft :=
    funext ((compareComponents_eq_eq_iff left otherLeft).1 equal)
  have lowerIff : compareComponents left right = .lt ↔
      compareComponents otherLeft right = .lt := by
    rw [compareComponents_eq_lt_iff, compareComponents_eq_lt_iff, sameNumbers]
  have equalIff : compareComponents left right = .eq ↔
      compareComponents otherLeft right = .eq := by
    rw [compareComponents_eq_eq_iff, compareComponents_eq_eq_iff, sameNumbers]
  cases first : compareComponents left right <;>
    cases second : compareComponents otherLeft right <;> simp_all

theorem compareComponents_isLE_trans {left middle right : List Nat}
    (leftLE : (compareComponents left middle).isLE = true)
    (middleLE : (compareComponents middle right).isLE = true) :
    (compareComponents left right).isLE = true := by
  cases leftCompared : compareComponents left middle with
  | eq =>
      rw [compareComponents_congr leftCompared]
      exact middleLE
  | gt =>
      simp [leftCompared] at leftLE
  | lt =>
      cases middleCompared : compareComponents middle right with
      | lt =>
          rw [compareComponents_lt_trans leftCompared middleCompared]
          rfl
      | eq =>
          have reversed : compareComponents right middle = .eq := by
            rw [compareComponents_swap, middleCompared]
            rfl
          rw [compareComponents_swap, compareComponents_congr reversed,
            ← compareComponents_swap]
          exact leftLE
      | gt =>
          simp [middleCompared] at middleLE

/-! ## Versions -/

theorem order_swap (left right : Version) : order left right = (order right left).swap :=
  compareComponents_swap left.components right.components

instance : Ord Version := ⟨order⟩

instance : Std.OrientedOrd Version where
  eq_swap := order_swap _ _

instance : Std.TransOrd Version where
  isLE_trans := compareComponents_isLE_trans

/-- Versions that are equal in the order compare alike with any other version. -/
theorem order_congr {left other : Version} (equal : left.order other = .eq) (right : Version) :
    left.order right = other.order right :=
  compareComponents_congr equal right.components

theorem order_isGE_iff_isLE {left right : Version} :
    (left.order right).isGE = true ↔ (right.order left).isLE = true := by
  rw [order_swap left right, Ordering.isGE_swap]

theorem order_self (version : Version) : version.order version = .eq :=
  (compareComponents_eq_eq_iff version.components version.components).2 fun _ => rfl

theorem order_isGE_refl (version : Version) : (version.order version).isGE = true :=
  Ordering.isGE_of_eq_eq (order_self version)

theorem order_isGE_trans {left middle right : Version}
    (leftGE : (left.order middle).isGE = true) (middleGE : (middle.order right).isGE = true) :
    (left.order right).isGE = true := by
  rw [order_isGE_iff_isLE] at leftGE middleGE ⊢
  exact compareComponents_isLE_trans middleGE leftGE

end ModelHub.Version

import ModelHub.Toml.Table

/-!
# What a table has beyond another one

Two tables are compared key by key. A key that only the first one has is surplus, together with all
that is below it. Below a key that both have, two tables are compared in turn; there is nothing to
compare where one of them has another value.
-/

namespace ModelHub.Toml

/-- The key of one item does not come after that of another. -/
def keysInOrder {α : Type} (left right : String × α) : Bool := decide (left.1 ≤ right.1)

/-- What was found below each key of a table, in the order of the keys. -/
def inKeyOrder (found : List (String × List (List String))) : List (List String) :=
  (found.mergeSort keysInOrder).flatMap fun below => below.2.map (below.1 :: ·)

mutual

/-- The paths of the keys that a value has in its tables and another value has not. -/
def surplus : Toml → Toml → List (List String)
  | .table entries, .table own => inKeyOrder (surplusBelow entries own)
  | _, _ => []

/-- The paths that are surplus below each key of a table. -/
def surplusBelow : List (String × Toml) → List (String × Toml) → List (String × List (List String))
  | [], _ => []
  | (key, value) :: rest, own =>
    let below :=
      match own.lookup key with
      | none => [[]]
      | some known => surplus value known
    (key, below) :: surplusBelow rest own

end

end ModelHub.Toml

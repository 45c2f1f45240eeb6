/-!
# TOML values and tables

A TOML document is a table. It is put together from statements: headers, which open a table or a
further item of an array of tables, and assignments to keys with dots in them. What a statement
may add to depends on how a table came into being. A table may have only one header; a table that
was opened by a header is closed to dotted keys from outside of it, and one that was written as a
value is closed to everything.
-/

namespace ModelHub

/-- A TOML value. Floating-point numbers and times are kept as they are written. -/
inductive Toml where
  | string (value : String)
  | integer (value : Int)
  | float (written : String)
  | boolean (value : Bool)
  | time (written : String)
  | array (items : List Toml)
  | table (entries : List (String × Toml))
  deriving Repr

namespace Toml

/-- How a table came into being: by its own header, as part of the path of another header, or as
part of a dotted key. -/
inductive Origin where
  | header
  | path
  | dotted
  deriving DecidableEq, Repr

/-- What stands under a key while a document is put together. -/
inductive Node where
  | value (value : Toml)
  | table (origin : Origin) (entries : List (String × Node))
  | tables (items : List (List (String × Node)))

abbrev Entries : Type := List (String × Node)

/-- Changes what stands under a key, or adds the key; there is no result when the change is not
allowed. -/
def alter (key : String) (change : Option Node → Option Node) : Entries → Option Entries
  | [] => (change none).map fun node => [(key, node)]
  | (otherKey, node) :: rest =>
    if otherKey = key then (change (some node)).map fun node => (otherKey, node) :: rest
    else (alter key change rest).map fun rest => (otherKey, node) :: rest

/-- Changes the table that a path leads to. Tables that are missing on the way come into being; an
array of tables is entered at its last item; a value cannot be entered, nor can a dotted key enter
a table that has a header. -/
def within (dotted : Bool) (change : Origin → Entries → Option Entries) :
    List String → Origin → Entries → Option Entries
  | [], origin, entries => change origin entries
  | key :: rest, _, entries =>
    let enter : Option Node → Option Node
      | none =>
        let origin : Origin := if dotted then .dotted else .path
        (within dotted change rest origin []).map (.table origin)
      | some (.value _) => none
      | some (.table origin inner) =>
        if dotted && decide (origin = .header) then none
        else (within dotted change rest origin inner).map (.table origin)
      | some (.tables items) =>
        match items.getLast? with
        | none => none
        | some last =>
          (within dotted change rest .header last).map fun last =>
            .tables (items.dropLast ++ [last])
    alter key enter entries

/-- Puts a value under a key that is still free. The last part of a dotted key may only be added
to a table that dotted keys made, and a plain key only to one that they did not make. -/
def insertNew (plain : Bool) (key : String) (value : Toml) (origin : Origin) (entries : Entries) :
    Option Entries :=
  if decide (origin = .dotted) = plain then none
  else
    alter key
      (fun
        | none => some (.value value)
        | some _ => none)
      entries

/-- Assigns a value to a key of a table, dotted or plain. -/
def assign (key : List String) (value : Toml) (origin : Origin) (entries : Entries) :
    Option Entries :=
  match key.getLast? with
  | none => none
  | some last =>
    let path := key.dropLast
    within true (insertNew path.isEmpty last value) path origin entries

/-- Opens a table by its header. It may be there already as part of the path of another header,
but in no other way. -/
def openTable (key : String) (_ : Origin) (entries : Entries) : Option Entries :=
  alter key
    (fun
      | none => some (.table .header [])
      | some (.table .path inner) => some (.table .header inner)
      | some _ => none)
    entries

/-- Opens a further item of an array of tables. -/
def openItem (key : String) (_ : Origin) (entries : Entries) : Option Entries :=
  alter key
    (fun
      | none => some (.tables [[]])
      | some (.tables items) => some (.tables (items ++ [[]]))
      | some _ => none)
    entries

/-- A statement of a document. -/
inductive Statement where
  | header (path : List String)
  | itemHeader (path : List String)
  | assignment (key : List String) (value : Toml)

/-- A document as far as it is put together: the path of the table that assignments belong to, and
the entries of the whole document. -/
structure Draft where
  current : List String
  entries : Entries

namespace Draft

def empty : Draft := ⟨[], []⟩

/-- Opens what a header names. -/
def enter (draft : Draft) (path : List String)
    (opening : String → Origin → Entries → Option Entries) : Option Draft :=
  match path.getLast? with
  | none => none
  | some last =>
    (within false (opening last) path.dropLast .header draft.entries).map fun entries =>
      ⟨path, entries⟩

def add (draft : Draft) : Statement → Option Draft
  | .header path => draft.enter path openTable
  | .itemHeader path => draft.enter path openItem
  | .assignment key value =>
    (within false (assign key value) draft.current .header draft.entries).map fun entries =>
      ⟨draft.current, entries⟩

end Draft

mutual

def Node.toToml : Node → Toml
  | .value value => value
  | .table _ entries => .table (entriesToToml entries)
  | .tables items => .array (itemsToToml items)

def entriesToToml : List (String × Node) → List (String × Toml)
  | [] => []
  | (key, node) :: rest => (key, node.toToml) :: entriesToToml rest

def itemsToToml : List (List (String × Node)) → List Toml
  | [] => []
  | entries :: rest => .table (entriesToToml entries) :: itemsToToml rest

end

/-- The entries of the document that statements make, if they agree with each other. -/
def ofStatements? (statements : List Statement) : Option (List (String × Toml)) :=
  (statements.foldlM Draft.add Draft.empty).map fun draft => entriesToToml draft.entries

def ofAssignments? (assignments : List (List String × Toml)) : Option Toml :=
  (assignments.foldlM (fun entries item => assign item.1 item.2 .header entries) []).map
    fun entries => .table (entriesToToml entries)

end Toml

end ModelHub

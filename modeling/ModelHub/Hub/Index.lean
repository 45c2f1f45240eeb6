import ModelHub.Hub.Entry

/-!
# The index of a hub

The index holds one entry for every catalog model that the hub has a copy of, under the model's
id. Of several copies it holds the one with the highest version that the hub records; any version
that can be compared beats one that cannot, and of equal ones the copy listed first stays.
-/

namespace ModelHub

/-- The entries of a hub that were copied from the catalog, one for each model id. The ids are
distinct and stand in the order in which they first occurred. -/
structure Index where
  entries : List (String × Entry)

namespace Index

/-- The index of an empty hub. -/
def empty : Index := ⟨[]⟩

/-- An entry takes the place of another when its version is strictly higher, or when it alone has
a version that can be compared. -/
def supersedes (entry other : Entry) : Bool :=
  match entry.version?, other.version? with
  | some version, some otherVersion => version.order otherVersion = .gt
  | some _, none => true
  | none, _ => false

/-- Puts an entry under an id, unless a better one or an equal one is there already. -/
def place (modelId : String) (entry : Entry) : List (String × Entry) → List (String × Entry)
  | [] => [(modelId, entry)]
  | (otherId, other) :: rest =>
    if otherId = modelId then
      (otherId, if supersedes entry other then entry else other) :: rest
    else (otherId, other) :: place modelId entry rest

/-- Adds an entry; one without a tag is left out. -/
def insert (index : Index) (entry : Entry) : Index :=
  match entry.tag? with
  | none => index
  | some tag => ⟨place tag.modelId entry index.entries⟩

/-- The index of entries in the order in which the hub lists them. -/
def ofEntries (entries : List Entry) : Index :=
  entries.foldl insert empty

/-- The index of a listing; records that cannot be read are left out. -/
def ofRecords (records : List Record) : Index :=
  ofEntries (records.filterMap Entry.ofRecord?)

/-- The entry under an id. -/
def get? (index : Index) (modelId : String) : Option Entry :=
  index.entries.lookup modelId

/-- There is an entry under the id. -/
def contains (index : Index) (modelId : String) : Bool :=
  (index.get? modelId).isSome

/-- The version of the entry under an id, if it can be compared. -/
def version? (index : Index) (modelId : String) : Option Version :=
  (index.get? modelId).bind Entry.version?

/-- The number of entries. -/
def size (index : Index) : Nat := index.entries.length

/-- Puts an entry into a row of entries sorted by id. -/
def insertSorted (item : String × Entry) : List (String × Entry) → List (String × Entry)
  | [] => [item]
  | other :: rest =>
    if item.1 < other.1 then item :: other :: rest else other :: insertSorted item rest

/-- The entries sorted by id. -/
def toSortedList (index : Index) : List (String × Entry) :=
  index.entries.foldl (fun sorted item => insertSorted item sorted) []

end Index

end ModelHub

import ModelHub.Hub.Index
import ModelHub.Proofs.FirstHighest
import ModelHub.Proofs.VersionOrder

/-!
# What the index of a hub holds

Under the id of a model the index holds the first of the highest entries that are tagged with
that id, an entry without a version that can be compared being ranked below every other. Nothing
is held under an id that no entry is tagged with.
-/

namespace ModelHub

/-! ## Copies -/

/-- The keywords of the entry say that it was copied from the catalog model with that id. -/
def Entry.isCopyOf (modelId : String) (entry : Entry) : Bool :=
  entry.tag?.any fun tag => tag.modelId = modelId

/-- The copies of a catalog model in a listing: the readable records tagged with its id, as
entries in the order of the listing. -/
def copiesOf (modelId : String) (records : List Record) : List Entry :=
  (records.filterMap Entry.ofRecord?).filter (Entry.isCopyOf modelId)

/-- The record that lists a copy under a name, with the version and the keywords of a tag. -/
def Record.ofCopy (name : String) (tag : Tag) : Record :=
  ⟨[(Entry.nameKey, .string name), (Entry.versionKey, .string tag.version),
    (Entry.keywordsKey, .array (tag.keywords.map .string))]⟩

theorem Entry.isCopyOf_iff {modelId : String} {entry : Entry} :
    entry.isCopyOf modelId = true ↔ ∃ tag, entry.tag? = some tag ∧ tag.modelId = modelId := by
  cases tagged : entry.tag? with
  | none =>
      simp [Entry.isCopyOf, tagged]
  | some tag =>
      simp [Entry.isCopyOf, tagged]

theorem mem_copiesOf_iff {modelId : String} {records : List Record} {entry : Entry} :
    entry ∈ copiesOf modelId records ↔
      ∃ record ∈ records, Entry.ofRecord? record = some entry ∧
        entry.isCopyOf modelId = true := by
  simp only [copiesOf, List.mem_filter, List.mem_filterMap]
  constructor
  · intro member
    rcases member with ⟨⟨record, member, readable⟩, copy⟩
    exact ⟨record, member, readable, copy⟩
  · intro copy
    rcases copy with ⟨record, member, readable, copy⟩
    exact ⟨⟨record, member, readable⟩, copy⟩

theorem copiesOf_append (modelId : String) (records others : List Record) :
    copiesOf modelId (records ++ others) =
      copiesOf modelId records ++ copiesOf modelId others := by
  simp [copiesOf]

theorem copiesOf_perm {records others : List Record} (modelId : String)
    (permutation : records.Perm others) :
    (copiesOf modelId records).Perm (copiesOf modelId others) :=
  (permutation.filterMap Entry.ofRecord?).filter (Entry.isCopyOf modelId)

theorem copiesOf_sublist {records others : List Record} (modelId : String)
    (inOrder : records.Sublist others) :
    (copiesOf modelId records).Sublist (copiesOf modelId others) :=
  (inOrder.filterMap Entry.ofRecord?).filter (Entry.isCopyOf modelId)

namespace Index

/-! ## Insertion -/

/-- An entry supersedes another when its version is ranked higher, no version being lowest. -/
theorem supersedes_iff (entry other : Entry) :
    supersedes entry other = true ↔ compare entry.version? other.version? = .gt := by
  unfold supersedes
  cases entry.version? with
  | none =>
      cases other.version? <;> simp [compare]
  | some version =>
      cases other.version? with
      | none =>
          simp [compare]
      | some otherVersion =>
          simp only [decide_eq_true_eq]
          exact Iff.rfl

theorem lookup_place (modelId : String) (entry : Entry) (entries : List (String × Entry))
    (otherId : String) :
    (place modelId entry entries).lookup otherId =
      if otherId = modelId then keepHigher Entry.version? (entries.lookup otherId) entry
      else entries.lookup otherId := by
  induction entries with
  | nil =>
      by_cases same : otherId = modelId
      · simp [place, keepHigher, same]
      · simp [place, List.lookup_cons, same, beq_false_of_ne same]
  | cons head rest inductionHypothesis =>
      obtain ⟨headId, held⟩ := head
      by_cases placed : headId = modelId
      · subst placed
        by_cases same : otherId = headId
        · simp [place, keepHigher, same, supersedes_iff]
        · simp [place, List.lookup_cons, same, beq_false_of_ne same]
      · by_cases found : otherId = headId
        · simp [place, placed, found]
        · simp [place, placed, List.lookup_cons, beq_false_of_ne found, inductionHypothesis]

/-- Inserting an entry is one step of the search for the highest copy of the model it is tagged
with, and leaves every other id as it was. -/
theorem get?_insert (index : Index) (entry : Entry) (modelId : String) :
    (index.insert entry).get? modelId =
      if entry.isCopyOf modelId then keepHigher Entry.version? (index.get? modelId) entry
      else index.get? modelId := by
  cases tagged : entry.tag? with
  | none =>
      simp [insert, Entry.isCopyOf, tagged]
  | some tag =>
      simp [insert, Entry.isCopyOf, tagged, get?, lookup_place, eq_comm]

theorem get?_foldl_insert (index : Index) (entries : List Entry) (modelId : String) :
    (entries.foldl insert index).get? modelId =
      (entries.filter (Entry.isCopyOf modelId)).foldl (keepHigher Entry.version?)
        (index.get? modelId) := by
  induction entries generalizing index with
  | nil =>
      rfl
  | cons entry rest inductionHypothesis =>
      rw [List.foldl_cons, inductionHypothesis, get?_insert]
      by_cases copy : entry.isCopyOf modelId = true
      · simp [copy]
      · simp [copy]

/-! ## Listings -/

theorem get?_ofRecords (records : List Record) (modelId : String) :
    (ofRecords records).get? modelId =
      (copiesOf modelId records).foldl (keepHigher Entry.version?) none :=
  get?_foldl_insert empty (records.filterMap Entry.ofRecord?) modelId

/-- The index of a listing holds the first of the highest copies of a model. -/
theorem get?_ofRecords_eq_some_iff {records : List Record} {modelId : String} {entry : Entry} :
    (ofRecords records).get? modelId = some entry ↔
      IsFirstHighest Entry.version? (copiesOf modelId records) entry := by
  rw [get?_ofRecords]
  exact foldl_keepHigher_eq_some_iff

/-- The index of a listing holds nothing only for models without a copy. -/
theorem get?_ofRecords_eq_none_iff {records : List Record} {modelId : String} :
    (ofRecords records).get? modelId = none ↔ copiesOf modelId records = [] := by
  rw [get?_ofRecords]
  exact foldl_keepHigher_eq_none_iff

end Index

/-! ## The version held -/

/-- If a copy has a version that can be compared, so has the first of the highest copies, and the
version of the copy is not above it. -/
theorem IsFirstHighest.exists_version? {copies : List Entry} {best entry : Entry}
    {native : Version} (highest : IsFirstHighest Entry.version? copies best)
    (member : entry ∈ copies) (version : entry.version? = some native) :
    ∃ held, best.version? = some held ∧ (native.order held).isLE = true := by
  have notHigher := highest.isLE member
  rw [version] at notHigher
  cases held : best.version? with
  | none =>
      rw [held] at notHigher
      cases notHigher
  | some heldVersion =>
      rw [held] at notHigher
      exact ⟨heldVersion, rfl, notHigher⟩

end ModelHub

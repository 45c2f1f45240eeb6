import Mathlib.Data.List.Forall2
import ModelHub.Proofs.OctetOrder
import ModelHub.Proofs.Reconciliation
import ModelHub.Proofs.SortedIndex
import ModelHub.Report

/-!
# What a listing of the hub tells about decisions

The models of a hub are listed in the order of their ids in the catalog, one row for each of them.
The row of a model tells what is decided on a request for it: nothing else has to be known of the
hub. When every record is listed, these rows are among the others.
-/

namespace ModelHub

/-! ## Reasons by the entry held -/

namespace Decision

variable {index : Index} {request : Request}

theorem reason?_eq_missing_iff :
    reason? index request = some .missing ↔ index.get? request.modelId = none := by
  rw [reason?_eq_iff_verdict]
  constructor
  · intro verdict
    cases verdict with
    | missing absent =>
        exact absent
  · intro absent
    exact Verdict.missing absent

theorem reason?_eq_hubVersionUnknown_iff :
    reason? index request = some .hubVersionUnknown ↔
      ∃ entry, index.get? request.modelId = some entry ∧ entry.version? = none := by
  rw [reason?_eq_iff_verdict]
  constructor
  · intro verdict
    cases verdict with
    | hubVersionUnknown held noVersion =>
        exact ⟨_, held, noVersion⟩
  · intro unknown
    obtain ⟨entry, held, noVersion⟩ := unknown
    exact Verdict.hubVersionUnknown held noVersion

theorem reason?_eq_outdated_iff {hubVersion : String} :
    reason? index request = some (.outdated hubVersion) ↔
      ∃ entry, index.get? request.modelId = some entry ∧
        entry.recordedVersion? = some hubVersion ∧
        ∃ native wanted, Version.parse? hubVersion = some native ∧
          Version.parse? request.version = some wanted ∧ native.order wanted = .lt := by
  rw [reason?_eq_iff_verdict]
  constructor
  · intro verdict
    cases verdict with
    | outdated held version isRecorded requested lower =>
        obtain ⟨recorded, same, parsed⟩ := Entry.version?_eq_some_iff.1 version
        obtain rfl : hubVersion = recorded := Option.some.inj (isRecorded.symm.trans same)
        exact ⟨_, held, isRecorded, _, _, parsed, requested, lower⟩
  · intro outdated
    obtain ⟨entry, held, isRecorded, native, wanted, parsed, requested, lower⟩ := outdated
    have version := Entry.version?_eq_some_iff.2 ⟨hubVersion, isRecorded, parsed⟩
    exact Verdict.outdated held version isRecorded requested lower

theorem reason?_eq_none_iff :
    reason? index request = none ↔
      ∃ entry, index.get? request.modelId = some entry ∧
        ∃ text native wanted, entry.recordedVersion? = some text ∧
          Version.parse? text = some native ∧
          Version.parse? request.version = some wanted ∧ (native.order wanted).isGE = true := by
  rw [reason?_eq_iff_verdict]
  constructor
  · intro verdict
    cases verdict with
    | satisfied held version requested notLower =>
        obtain ⟨recorded, isRecorded, parsed⟩ := Entry.version?_eq_some_iff.1 version
        exact ⟨_, held, recorded, _, _, isRecorded, parsed, requested, notLower⟩
  · intro satisfied
    obtain ⟨entry, held, text, native, wanted, isRecorded, parsed, requested, notLower⟩ :=
      satisfied
    have version := Entry.version?_eq_some_iff.2 ⟨text, isRecorded, parsed⟩
    exact Verdict.satisfied held version requested notLower

end Decision

/-! ## Rows -/

namespace ListedModel

variable {records : List Record} {row : ListedModel} {modelId : String}

theorem ofRecords_false (records : List Record) :
    ofRecords false records =
      (Index.ofRecords records).toSortedList.map fun item => ofEntry item.2 := rfl

theorem ofRecords_true (records : List Record) :
    ofRecords true records = (records.filterMap Entry.ofRecord?).map ofEntry := rfl

/-- The row of the entry that is held for a model names that model. -/
theorem catalogId_ofEntry {entry : Entry}
    (held : (Index.ofRecords records).get? modelId = some entry) :
    (ofEntry entry).catalogId = some modelId := by
  have copy := (Index.get?_ofRecords_eq_some_iff.1 held).mem
  obtain ⟨_, _, _, tagged⟩ := mem_copiesOf_iff.1 copy
  obtain ⟨tag, isTag, sameId⟩ := Entry.isCopyOf_iff.1 tagged
  simp [ofEntry, isTag, sameId]

theorem mem_toSortedList_iff {entry : Entry} :
    (modelId, entry) ∈ (Index.ofRecords records).toSortedList ↔
      (Index.ofRecords records).get? modelId = some entry :=
  (Index.isDistinct_ofEntries _).mem_toSortedList_iff

theorem mem_ofRecords_iff :
    row ∈ ofRecords false records ∧ row.catalogId = some modelId ↔
      ∃ entry, (Index.ofRecords records).get? modelId = some entry ∧ ofEntry entry = row := by
  rw [ofRecords_false, List.mem_map]
  constructor
  · intro listed
    obtain ⟨⟨⟨heldId, entry⟩, member, rfl⟩, sameId⟩ := listed
    have held := mem_toSortedList_iff.1 member
    obtain rfl : heldId = modelId :=
      Option.some.inj ((catalogId_ofEntry held).symm.trans sameId)
    exact ⟨entry, held, rfl⟩
  · intro shown
    obtain ⟨entry, held, rfl⟩ := shown
    exact ⟨⟨(modelId, entry), mem_toSortedList_iff.2 held, rfl⟩, catalogId_ofEntry held⟩

/-- What is said of the row of a model is said of the entry that is held for it. -/
theorem exists_row_iff (property : ListedModel → Prop) :
    (∃ row ∈ ofRecords false records, row.catalogId = some modelId ∧ property row) ↔
      ∃ entry, (Index.ofRecords records).get? modelId = some entry ∧
        property (ofEntry entry) := by
  constructor
  · intro found
    obtain ⟨row, member, sameId, holds⟩ := found
    obtain ⟨entry, held, rfl⟩ := mem_ofRecords_iff.1 ⟨member, sameId⟩
    exact ⟨entry, held, holds⟩
  · intro found
    obtain ⟨entry, held, holds⟩ := found
    obtain ⟨member, sameId⟩ := mem_ofRecords_iff.2 ⟨entry, held, rfl⟩
    exact ⟨_, member, sameId, holds⟩

/-- The ids are those of the models that have copies, and the octets in which they are written
increase strictly. -/
theorem exists_ids (records : List Record) :
    ∃ ids : List String, (ofRecords false records).map catalogId = ids.map some ∧
      (ids.map fun modelId => Text.encode modelId.toList).Pairwise (· < ·) ∧
      ∀ modelId, modelId ∈ ids ↔ ∃ record ∈ records, ∃ entry tag,
        Entry.ofRecord? record = some entry ∧ entry.tag? = some tag ∧ tag.modelId = modelId := by
  refine ⟨(Index.ofRecords records).toSortedList.map Prod.fst, ?_, ?_, fun modelId => ?_⟩
  · rw [ofRecords_false, List.map_map, List.map_map]
    refine List.map_congr_left fun item member => ?_
    exact catalogId_ofEntry (mem_toSortedList_iff.1 member)
  · have increasing := (Index.isDistinct_ofEntries
      (records.filterMap Entry.ofRecord?)).toSortedList_increasing
    rw [List.pairwise_map, List.pairwise_map]
    refine increasing.imp fun lower => ?_
    exact Text.encode_lt_encode (String.lt_iff_toList_lt.1 lower)
  · have isHeld : modelId ∈ (Index.ofRecords records).toSortedList.map Prod.fst ↔
        ∃ entry, (Index.ofRecords records).get? modelId = some entry := by
      simp only [List.mem_map, Prod.exists, mem_toSortedList_iff, exists_and_right,
        exists_eq_right]
    have hasCopy : (∃ entry, (Index.ofRecords records).get? modelId = some entry) ↔
        ∃ entry, entry ∈ copiesOf modelId records := by
      rw [← Option.ne_none_iff_exists', Ne, Index.get?_ofRecords_eq_none_iff,
        List.eq_nil_iff_forall_not_mem, not_forall_not]
    rw [isHeld, hasCopy]
    constructor
    · intro copied
      obtain ⟨entry, copy⟩ := copied
      obtain ⟨record, member, readable, tagged⟩ := mem_copiesOf_iff.1 copy
      obtain ⟨tag, isTag, sameId⟩ := Entry.isCopyOf_iff.1 tagged
      exact ⟨record, member, entry, tag, readable, isTag, sameId⟩
    · intro tagged
      obtain ⟨record, member, entry, tag, readable, isTag, sameId⟩ := tagged
      have copy := Entry.isCopyOf_iff.2 ⟨tag, isTag, sameId⟩
      exact ⟨entry, mem_copiesOf_iff.2 ⟨record, member, readable, copy⟩⟩

/-! ## Rows and decisions -/

/-- The rows tell what is decided on a request at an ordinal. The row of the model, if there is one,
is all that it takes. -/
structure Tell (rows : List ListedModel) (decisions : List Decision) (ordinal : Nat)
    (request : Request) : Prop where
  missing_iff : ⟨ordinal, request, .missing⟩ ∈ decisions ↔
    ∀ row ∈ rows, row.catalogId ≠ some request.modelId
  hubVersionUnknown_iff : ⟨ordinal, request, .hubVersionUnknown⟩ ∈ decisions ↔
    ∃ row ∈ rows, row.catalogId = some request.modelId ∧
      ∀ text, row.version = some text → Version.parse? text = none
  outdated_iff (hubVersion : String) : ⟨ordinal, request, .outdated hubVersion⟩ ∈ decisions ↔
    ∃ row ∈ rows, row.catalogId = some request.modelId ∧ row.version = some hubVersion ∧
      ∃ native wanted, Version.parse? hubVersion = some native ∧
        Version.parse? request.version = some wanted ∧ native.order wanted = .lt
  leftOut_iff : (∀ reason, ⟨ordinal, request, reason⟩ ∉ decisions) ↔
    ∃ row ∈ rows, row.catalogId = some request.modelId ∧
      ∃ text native wanted, row.version = some text ∧ Version.parse? text = some native ∧
        Version.parse? request.version = some wanted ∧ (native.order wanted).isGE = true

theorem tell_of_mem {requests : List (Nat × Request)} {ordinal : Nat} {request : Request}
    (member : (ordinal, request) ∈ requests) :
    Tell (ofRecords false records) (Decision.reconcile (Index.ofRecords records) requests)
      ordinal request := by
  have decided (reason : Reason) :
      ⟨ordinal, request, reason⟩ ∈ Decision.reconcile (Index.ofRecords records) requests ↔
        Decision.reason? (Index.ofRecords records) request = some reason := by
    rw [Decision.mem_reconcile_iff]
    exact and_iff_right member
  constructor
  case missing_iff =>
    rw [decided, Decision.reason?_eq_missing_iff, Option.eq_none_iff_forall_ne_some]
    have someRow : (∃ row ∈ ofRecords false records, row.catalogId = some request.modelId) ↔
        ∃ entry, (Index.ofRecords records).get? request.modelId = some entry := by
      simpa only [and_true] using exists_row_iff fun _ => True
    rw [← not_iff_not]
    push Not
    exact someRow.symm
  case hubVersionUnknown_iff =>
    rw [decided, Decision.reason?_eq_hubVersionUnknown_iff,
      exists_row_iff fun row => ∀ text, row.version = some text → Version.parse? text = none]
    refine exists_congr fun entry => and_congr_right fun _ => ?_
    unfold Entry.version?
    rw [Option.bind_eq_none_iff]
    exact Iff.rfl
  case outdated_iff =>
    intro hubVersion
    rw [decided, Decision.reason?_eq_outdated_iff,
      exists_row_iff fun row => row.version = some hubVersion ∧
        ∃ native wanted, Version.parse? hubVersion = some native ∧
          Version.parse? request.version = some wanted ∧ native.order wanted = .lt]
    exact Iff.rfl
  case leftOut_iff =>
    simp only [decided]
    rw [← Option.eq_none_iff_forall_ne_some, Decision.reason?_eq_none_iff,
      exists_row_iff fun row => ∃ text native wanted, row.version = some text ∧
        Version.parse? text = some native ∧ Version.parse? request.version = some wanted ∧
        (native.order wanted).isGE = true]
    exact Iff.rfl

/-! ## Listing every record -/

/-- The row shows the entry that the record describes. -/
def Shows (row : ListedModel) (record : Record) : Prop :=
  ∃ entry, Entry.ofRecord? record = some entry ∧ row = ofEntry entry

theorem forall₂_shows (records : List Record) :
    List.Forall₂ (fun record row => Shows row record)
      (records.filter fun record => (Entry.ofRecord? record).isSome) (ofRecords true records) := by
  induction records with
  | nil =>
      exact .nil
  | cons record rest inductionHypothesis =>
      rw [ofRecords_true] at inductionHypothesis ⊢
      cases readable : Entry.ofRecord? record with
      | none =>
          simpa [readable] using inductionHypothesis
      | some entry =>
          simp only [readable, List.filter_cons, Option.isSome_some, if_true,
            List.filterMap_cons, List.map_cons]
          exact .cons ⟨entry, readable, rfl⟩ inductionHypothesis

theorem mem_ofRecords_true (member : row ∈ ofRecords false records) :
    row ∈ ofRecords true records := by
  rw [ofRecords_false, List.mem_map] at member
  obtain ⟨⟨modelId, entry⟩, sorted, rfl⟩ := member
  have held := mem_toSortedList_iff.1 sorted
  have copy := (Index.get?_ofRecords_eq_some_iff.1 held).mem
  obtain ⟨record, member, readable, _⟩ := mem_copiesOf_iff.1 copy
  exact List.mem_map_of_mem (List.mem_filterMap.2 ⟨record, member, readable⟩)

/-- The rows of a listing are in strictly increasing order of the ids of the models that have
copies, one for each of them, and they tell of every request what is decided on it. With every
record there is one row for each readable one, in the order of the records, and the other rows are
among them. -/
theorem ofRecords_tell (records : List Record) :
    (∃ ids : List String, (ofRecords false records).map catalogId = ids.map some ∧
      (ids.map fun modelId => Text.encode modelId.toList).Pairwise (· < ·) ∧
      ∀ modelId, modelId ∈ ids ↔ ∃ record ∈ records, ∃ entry tag,
        Entry.ofRecord? record = some entry ∧ entry.tag? = some tag ∧ tag.modelId = modelId) ∧
    (∀ requests ordinal request, (ordinal, request) ∈ requests →
      Tell (ofRecords false records) (Decision.reconcile (Index.ofRecords records) requests)
        ordinal request) ∧
    List.Forall₂ (fun record row => Shows row record)
      (records.filter fun record => (Entry.ofRecord? record).isSome) (ofRecords true records) ∧
    ∀ row ∈ ofRecords false records, row ∈ ofRecords true records :=
  ⟨exists_ids records, fun _ _ _ member => tell_of_mem member, forall₂_shows records,
    fun _ member => mem_ofRecords_true member⟩

/-- A listing with two copies of one model, a copy of another one at a version that cannot be
compared, and a model that was not copied. -/
def mixedListing : List Record :=
  [.ofCopy "accented" ⟨"é", "latest"⟩, .ofCopy "old" ⟨"z", "0.9"⟩,
    ⟨[(Entry.nameKey, .string "by hand")]⟩, .ofCopy "new" ⟨"z", " 1.0 "⟩]

theorem ofRecords_tell_mixedListing :
    (ofRecords false mixedListing).map catalogId = [some "z", some "é"] ∧
      (ofRecords true mixedListing).map name = ["accented", "old", "by hand", "new"] ∧
      ∃ row ∈ ofRecords false mixedListing, row.catalogId = some "z" ∧
        row.version = some "1.0" ∧ row ∈ ofRecords true mixedListing := by
  obtain ⟨_, tell, _, among⟩ := ofRecords_tell mixedListing
  have told := tell [(7, ⟨"z", "2"⟩)] 7 ⟨"z", "2"⟩ List.mem_cons_self
  obtain ⟨row, member, sameId, version, _⟩ := (told.outdated_iff "1.0").1 (by decide)
  exact ⟨by decide, by decide, row, member, sameId, version, among row member⟩

end ListedModel

end ModelHub

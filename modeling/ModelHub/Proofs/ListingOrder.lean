import Mathlib.Data.List.Forall2
import ModelHub.Proofs.Reconciliation

/-!
# The order of a listing does not matter

A listing in another order leads to an index with the same ids, where the versions under an id are
equal, and to the same decisions, but for the spelling of the version of the hub. A record that
repeats an earlier one changes nothing at all.
-/

namespace ModelHub

/-! ## Equal versions -/

/-- There is no version on either side, or there are two that are equal in the order of
versions. -/
abbrev SameVersion : Option Version → Option Version → Prop :=
  Option.Rel fun version other => version.order other = .eq

theorem sameVersion_of_compare_eq {version other : Option Version}
    (equal : compare version other = .eq) : SameVersion version other := by
  cases version with
  | none =>
      cases other with
      | none =>
          exact Option.Rel.none
      | some otherVersion =>
          cases equal
  | some version =>
      cases other with
      | none =>
          cases equal
      | some otherVersion =>
          exact Option.Rel.some equal

/-! ## Decisions that say the same -/

/-- Reasons of one kind. Where they name versions of the hub, these denote equal versions. -/
inductive Reason.SaysSame : Reason → Reason → Prop
  | missing : SaysSame .missing .missing
  | hubVersionUnknown : SaysSame .hubVersionUnknown .hubVersionUnknown
  | requestedVersionUnknown : SaysSame .requestedVersionUnknown .requestedVersionUnknown
  | outdated {hubVersion otherVersion : String} {native other : Version} :
      Version.parse? hubVersion = some native →
      Version.parse? otherVersion = some other →
      native.order other = .eq →
      SaysSame (.outdated hubVersion) (.outdated otherVersion)

/-- The decisions are on one request at one ordinal, for reasons that say the same. -/
structure Decision.SaysSame (decision other : Decision) : Prop where
  numbered : decision.numbered = other.numbered
  reason : decision.reason.SaysSame other.reason

/-- The indexes hold entries for the same models, and the versions of the entries for one model
are equal. -/
def Index.HoldsSame (index other : Index) : Prop :=
  ∀ modelId, Option.Rel
    (fun entry otherEntry : Entry => SameVersion entry.version? otherEntry.version?)
    (index.get? modelId) (other.get? modelId)

namespace Index.HoldsSame

variable {index other : Index}

theorem contains_eq (same : index.HoldsSame other) (modelId : String) :
    index.contains modelId = other.contains modelId := by
  have held := same modelId
  unfold contains
  generalize index.get? modelId = found at held ⊢
  generalize other.get? modelId = otherFound at held ⊢
  cases held <;> rfl

theorem version? (same : index.HoldsSame other) (modelId : String) :
    SameVersion (index.version? modelId) (other.version? modelId) := by
  have held := same modelId
  unfold Index.version?
  generalize index.get? modelId = found at held ⊢
  generalize other.get? modelId = otherFound at held ⊢
  cases held with
  | none =>
      exact Option.Rel.none
  | some sameVersion =>
      exact sameVersion

/-- An entry is held in the second index too, at an equal version. -/
theorem exists_get? (same : index.HoldsSame other) {modelId : String} {entry : Entry}
    (held : index.get? modelId = some entry) :
    ∃ otherEntry, other.get? modelId = some otherEntry ∧
      SameVersion entry.version? otherEntry.version? := by
  have both := same modelId
  rw [held] at both
  generalize other.get? modelId = otherFound at both
  cases both with
  | some sameVersion =>
      exact ⟨_, rfl, sameVersion⟩

/-- An entry whose version can be compared is held in the second index too, and so is its
version. -/
theorem exists_version? (same : index.HoldsSame other) {modelId : String} {entry : Entry}
    {native : Version} (held : index.get? modelId = some entry)
    (version : entry.version? = some native) :
    ∃ otherEntry otherNative, other.get? modelId = some otherEntry ∧
      otherEntry.version? = some otherNative ∧ native.order otherNative = .eq := by
  obtain ⟨otherEntry, otherHeld, sameVersion⟩ := same.exists_get? held
  rw [version] at sameVersion
  generalize found : otherEntry.version? = otherVersion at sameVersion
  cases sameVersion with
  | some equal =>
      exact ⟨otherEntry, _, otherHeld, found, equal⟩

/-- Every verdict that the first index leads to has its like for the second one. -/
theorem exists_verdict (same : index.HoldsSame other) {request : Request}
    {verdict : Option Reason} (given : Decision.Verdict index request verdict) :
    ∃ otherVerdict, Decision.Verdict other request otherVerdict ∧
      Option.Rel Reason.SaysSame verdict otherVerdict := by
  cases given with
  | missing absent =>
      have both := same request.modelId
      rw [absent] at both
      generalize found : other.get? request.modelId = otherFound at both
      cases both with
      | none =>
          exact ⟨_, .missing found, .some .missing⟩
  | hubVersionUnknown held noVersion =>
      obtain ⟨otherEntry, otherHeld, sameVersion⟩ := same.exists_get? held
      rw [noVersion] at sameVersion
      generalize found : otherEntry.version? = otherVersion at sameVersion
      cases sameVersion with
      | none =>
          exact ⟨_, .hubVersionUnknown otherHeld found, .some .hubVersionUnknown⟩
  | requestedVersionUnknown held version notRequested =>
      obtain ⟨otherEntry, otherNative, otherHeld, isVersion, _⟩ :=
        same.exists_version? held version
      exact ⟨_, .requestedVersionUnknown otherHeld isVersion notRequested,
        .some .requestedVersionUnknown⟩
  | @outdated entry native wanted recorded held version isRecorded requested lower =>
      obtain ⟨otherEntry, otherNative, otherHeld, isVersion, equal⟩ :=
        same.exists_version? held version
      obtain ⟨found, isFound, parsed⟩ := Entry.version?_eq_some_iff.1 version
      obtain rfl : recorded = found := Option.some.inj (isRecorded.symm.trans isFound)
      obtain ⟨otherRecorded, isOther, otherParsed⟩ := Entry.version?_eq_some_iff.1 isVersion
      rw [Version.order_congr equal] at lower
      exact ⟨_, .outdated otherHeld isVersion isOther requested lower,
        .some (.outdated parsed otherParsed equal)⟩
  | satisfied held version requested notLower =>
      obtain ⟨otherEntry, otherNative, otherHeld, isVersion, equal⟩ :=
        same.exists_version? held version
      rw [Version.order_congr equal] at notLower
      exact ⟨_, .satisfied otherHeld isVersion requested notLower, .none⟩

theorem reason? (same : index.HoldsSame other) (request : Request) :
    Option.Rel Reason.SaysSame (Decision.reason? index request)
      (Decision.reason? other request) := by
  obtain ⟨otherVerdict, given, saysSame⟩ :=
    same.exists_verdict (Decision.reason?_verdict index request)
  rw [Decision.reason?_eq_iff_verdict.2 given]
  exact saysSame

/-- The same requests are decided on, in the same order and for reasons that say the same. -/
theorem reconcile (same : index.HoldsSame other) (requests : List (Nat × Request)) :
    List.Forall₂ Decision.SaysSame (Decision.reconcile index requests)
      (Decision.reconcile other requests) := by
  refine List.rel_filterMap (R := Eq) ?_ (List.forall₂_refl requests)
  intro item _ sameItem
  subst sameItem
  have saysSame := same.reason? item.2
  unfold Decision.of?
  generalize Decision.reason? index item.2 = found at saysSame ⊢
  generalize Decision.reason? other item.2 = otherFound at saysSame ⊢
  cases saysSame with
  | none =>
      exact Option.Rel.none
  | some sameReason =>
      exact Option.Rel.some ⟨rfl, sameReason⟩

end Index.HoldsSame

/-- Listings with the same copies of every model, in whatever order and number, lead to indexes
that hold the same. -/
theorem Index.holdsSame_of_mem_copiesOf_iff {records others : List Record}
    (sameCopies : ∀ modelId entry,
      entry ∈ copiesOf modelId records ↔ entry ∈ copiesOf modelId others) :
    (ofRecords records).HoldsSame (ofRecords others) := by
  intro modelId
  cases held : (ofRecords records).get? modelId with
  | none =>
      have noCopies := get?_ofRecords_eq_none_iff.1 held
      have noOthers : copiesOf modelId others = [] := by
        rw [List.eq_nil_iff_forall_not_mem] at noCopies ⊢
        exact fun entry copy => noCopies entry ((sameCopies modelId entry).2 copy)
      rw [get?_ofRecords_eq_none_iff.2 noOthers]
      exact Option.Rel.none
  | some entry =>
      have highest := get?_ofRecords_eq_some_iff.1 held
      cases otherHeld : (ofRecords others).get? modelId with
      | none =>
          have copy := (sameCopies modelId entry).1 highest.mem
          rw [get?_ofRecords_eq_none_iff.1 otherHeld] at copy
          cases copy
      | some otherEntry =>
          have otherHighest := get?_ofRecords_eq_some_iff.1 otherHeld
          exact Option.Rel.some (sameVersion_of_compare_eq
            (highest.compare_eq otherHighest (sameCopies modelId)))

/-! ## Records that repeat earlier ones -/

/-- The second listing is the first one with further copies of records inserted, each at some
place after a record that it repeats. -/
inductive Listing.Repeats : List Record → List Record → Prop
  | refl (records : List Record) : Repeats records records
  | insert {records before after : List Record} {record : Record} :
      Repeats records (before ++ after) → record ∈ before →
      Repeats records (before ++ record :: after)

namespace Index

/-- An entry that does not supersede the one under its id changes nothing. -/
theorem place_eq_self {modelId : String} {entry held : Entry} {entries : List (String × Entry)}
    (isHeld : entries.lookup modelId = some held) (stays : supersedes entry held = false) :
    place modelId entry entries = entries := by
  induction entries with
  | nil =>
      cases isHeld
  | cons head rest inductionHypothesis =>
      obtain ⟨headId, headEntry⟩ := head
      by_cases placed : headId = modelId
      · subst placed
        simp only [List.lookup_cons_self, Option.some.injEq] at isHeld
        simp [place, isHeld, stays]
      · have other : (modelId == headId) = false := beq_false_of_ne (Ne.symm placed)
        rw [List.lookup_cons, other] at isHeld
        simp [place, placed, inductionHypothesis isHeld]

/-- Inserting an entry again that a listing has already changes nothing. -/
theorem insert_ofRecords {records : List Record} {record : Record} {entry : Entry}
    (member : record ∈ records) (readable : Entry.ofRecord? record = some entry) :
    (ofRecords records).insert entry = ofRecords records := by
  cases tagged : entry.tag? with
  | none =>
      simp [insert, tagged]
  | some tag =>
      have copy : entry ∈ copiesOf tag.modelId records :=
        mem_copiesOf_iff.2 ⟨record, member, readable, Entry.isCopyOf_iff.2 ⟨tag, tagged, rfl⟩⟩
      cases held : (ofRecords records).get? tag.modelId with
      | none =>
          rw [get?_ofRecords_eq_none_iff.1 held] at copy
          cases copy
      | some heldEntry =>
          have notHigher := (get?_ofRecords_eq_some_iff.1 held).isLE copy
          have stays : supersedes entry heldEntry = false := by
            rw [Bool.eq_false_iff, Ne, supersedes_iff]
            exact Ordering.isLE_iff_ne_gt.1 notHigher
          simp only [insert, tagged, place_eq_self held stays]

theorem ofRecords_insert_repeated {before after : List Record} {record : Record}
    (member : record ∈ before) :
    ofRecords (before ++ record :: after) = ofRecords (before ++ after) := by
  have split (others : List Record) : ofRecords (before ++ others) =
      (others.filterMap Entry.ofRecord?).foldl insert (ofRecords before) := by
    simp [ofRecords, ofEntries]
  rw [split, split]
  cases readable : Entry.ofRecord? record with
  | none =>
      simp [readable]
  | some entry =>
      simp [readable, insert_ofRecords member readable]

theorem ofRecords_eq_of_repeats {records repeated : List Record}
    (repeats : Listing.Repeats records repeated) : ofRecords repeated = ofRecords records := by
  induction repeats with
  | refl =>
      rfl
  | insert _ member inductionHypothesis =>
      rw [ofRecords_insert_repeated member]
      exact inductionHypothesis

end Index

/-! ## Listings in another order -/

namespace Decision

/-- Whatever the order in which the hub lists its records, the index holds the same ids, with equal
versions, and the same requests are decided on for reasons that say the same. Records that repeat
earlier ones leave the index and the decisions exactly as they were. -/
theorem reconcile_reordered (records : List Record) :
    (∀ others, records.Perm others →
      (∀ modelId, (Index.ofRecords records).contains modelId =
        (Index.ofRecords others).contains modelId) ∧
      (∀ modelId, SameVersion ((Index.ofRecords records).version? modelId)
        ((Index.ofRecords others).version? modelId)) ∧
      ∀ requests, List.Forall₂ SaysSame (reconcile (Index.ofRecords records) requests)
        (reconcile (Index.ofRecords others) requests)) ∧
    ∀ repeated, Listing.Repeats records repeated →
      Index.ofRecords repeated = Index.ofRecords records ∧
      ∀ requests, reconcile (Index.ofRecords repeated) requests =
        reconcile (Index.ofRecords records) requests := by
  constructor
  · intro others permutation
    have same : (Index.ofRecords records).HoldsSame (Index.ofRecords others) :=
      Index.holdsSame_of_mem_copiesOf_iff fun modelId entry =>
        (copiesOf_perm modelId permutation).mem_iff
    exact ⟨same.contains_eq, same.version?, same.reconcile⟩
  · intro repeated repeats
    have sameIndex := Index.ofRecords_eq_of_repeats repeats
    exact ⟨sameIndex, fun requests => by rw [sameIndex]⟩

/-- Two copies of a model at versions that are equal, but written in different ways. -/
def listedTwice : List Record := [.ofCopy "first" ⟨"m", "1.0"⟩, .ofCopy "second" ⟨"m", "1.0.0"⟩]

theorem reconcile_reordered_listedTwice :
    List.Forall₂ SaysSame [⟨0, ⟨"m", "2"⟩, .outdated "1.0"⟩]
        [⟨0, ⟨"m", "2"⟩, .outdated "1.0.0"⟩] ∧
      Index.ofRecords (listedTwice ++ [.ofCopy "first" ⟨"m", "1.0"⟩]) =
        Index.ofRecords listedTwice := by
  obtain ⟨reordered, repeated⟩ := reconcile_reordered listedTwice
  obtain ⟨_, _, decisions⟩ := reordered listedTwice.reverse (List.reverse_perm listedTwice).symm
  have repeats : Listing.Repeats listedTwice
      (listedTwice ++ [.ofCopy "first" ⟨"m", "1.0"⟩]) :=
    .insert (by rw [List.append_nil]; exact .refl listedTwice) List.mem_cons_self
  refine ⟨?_, (repeated _ repeats).1⟩
  have decided := decisions [(0, ⟨"m", "2"⟩)]
  have first : reconcile (Index.ofRecords listedTwice) [(0, ⟨"m", "2"⟩)] =
      [⟨0, ⟨"m", "2"⟩, .outdated "1.0"⟩] := by decide
  have second : reconcile (Index.ofRecords listedTwice.reverse) [(0, ⟨"m", "2"⟩)] =
      [⟨0, ⟨"m", "2"⟩, .outdated "1.0.0"⟩] := by decide
  rw [first, second] at decided
  exact decided

end Decision

end ModelHub

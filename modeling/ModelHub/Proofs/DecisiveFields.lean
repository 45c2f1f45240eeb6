import Mathlib.Data.List.Forall2
import Mathlib.Logic.Relation
import ModelHub.Proofs.DecodedJson
import ModelHub.Proofs.Reconciliation

/-!
# What decides about a record

A record is readable when its name is a string and its keywords, if it has any, are a list of
strings. Of a readable record only the version and the keywords matter, and a version that is no
string is as good as none. Whatever else the hub says about its models can change without a trace in
the index or in what is decided.
-/

namespace ModelHub

/-! ## Readable records -/

theorem Json.mapM_asString?_eq_some_iff {items : List Json} {texts : List String} :
    items.mapM Json.asString? = some texts ↔ items = texts.map Json.string := by
  refine Json.mapM_eq_some_iff_eq_map fun item text => ?_
  cases item <;> simp [Json.asString?]

/-- The name is a string, and there are no keywords or they are a list of strings. -/
structure Record.IsReadable (record : Record) : Prop where
  name : ∃ name, record.get? Entry.nameKey = some (.string name)
  keywords : record.get? Entry.keywordsKey = none ∨
    ∃ keywords : List String,
      record.get? Entry.keywordsKey = some (.array (keywords.map .string))

namespace Entry

theorem exists_name_iff {record : Record} :
    (∃ name, (record.get? nameKey).bind Json.asString? = some name) ↔
      ∃ name, record.get? nameKey = some (.string name) := by
  cases record.get? nameKey with
  | none =>
      simp
  | some value =>
      cases value <;> simp [Json.asString?]

theorem exists_readKeywords?_iff {record : Record} :
    (∃ keywords, readKeywords? record = some keywords) ↔
      record.get? keywordsKey = none ∨
        ∃ keywords : List String,
          record.get? keywordsKey = some (.array (keywords.map .string)) := by
  unfold readKeywords?
  cases record.get? keywordsKey with
  | none =>
      simp
  | some value =>
      cases value <;> simp [Json.asArray?, Json.mapM_asString?_eq_some_iff]

/-- Whatever stands under the other keys, name and keywords alone make a record readable. -/
theorem exists_ofRecord?_iff {record : Record} :
    (∃ entry, ofRecord? record = some entry) ↔ record.IsReadable := by
  have split : (∃ entry, ofRecord? record = some entry) ↔
      (∃ name, (record.get? nameKey).bind Json.asString? = some name) ∧
        ∃ keywords, readKeywords? record = some keywords := by
    unfold ofRecord?
    cases (record.get? nameKey).bind Json.asString? with
    | none =>
        simp
    | some name =>
        cases readKeywords? record <;> simp
  rw [split, exists_name_iff, exists_readKeywords?_iff]
  constructor
  · intro both
    exact ⟨both.1, both.2⟩
  · intro readable
    exact ⟨readable.name, readable.keywords⟩

/-! ## The decisive part of an entry -/

/-- The entry with nothing in it but its version and its keywords. -/
def bare (entry : Entry) : Entry :=
  { name := "", version := entry.version, keywords := entry.keywords, arn := none
    contentType := none, creationTime := none, status := none, schemaVersion := none }

@[simp]
theorem tag?_bare (entry : Entry) : entry.bare.tag? = entry.tag? := rfl

@[simp]
theorem version?_bare (entry : Entry) : entry.bare.version? = entry.version? := rfl

end Entry

namespace Index

@[simp]
theorem supersedes_bare (entry other : Entry) :
    supersedes entry.bare other.bare = supersedes entry other := rfl

/-- The index with the decisive part of every entry only. -/
def bare (index : Index) : Index := ⟨index.entries.map (Prod.map id Entry.bare)⟩

theorem place_bare (modelId : String) (entry : Entry) (entries : List (String × Entry)) :
    place modelId entry.bare (entries.map (Prod.map id Entry.bare)) =
      (place modelId entry entries).map (Prod.map id Entry.bare) := by
  induction entries with
  | nil =>
      rfl
  | cons head rest inductionHypothesis =>
      obtain ⟨headId, held⟩ := head
      by_cases placed : headId = modelId
      · by_cases better : supersedes entry held = true
        · simp [place, placed, better]
        · simp [place, placed, better]
      · simp [place, placed, inductionHypothesis]

theorem insert_bare (index : Index) (entry : Entry) :
    index.bare.insert entry.bare = (index.insert entry).bare := by
  unfold insert
  rw [Entry.tag?_bare]
  cases entry.tag? with
  | none =>
      rfl
  | some tag =>
      exact congrArg Index.mk (place_bare tag.modelId entry index.entries)

theorem ofEntries_bare (entries : List Entry) :
    ofEntries (entries.map Entry.bare) = (ofEntries entries).bare := by
  have folded (index : Index) :
      (entries.map Entry.bare).foldl insert index.bare = (entries.foldl insert index).bare := by
    induction entries generalizing index with
    | nil =>
        rfl
    | cons entry rest inductionHypothesis =>
        rw [List.map_cons, List.foldl_cons, insert_bare, inductionHypothesis, List.foldl_cons]
  exact folded empty

theorem get?_bare (index : Index) (modelId : String) :
    index.bare.get? modelId = (index.get? modelId).map Entry.bare := by
  obtain ⟨entries⟩ := index
  unfold bare get?
  induction entries with
  | nil =>
      rfl
  | cons head rest inductionHypothesis =>
      obtain ⟨headId, held⟩ := head
      by_cases found : modelId = headId
      · simp [found]
      · simpa [List.lookup_cons, beq_false_of_ne found] using inductionHypothesis

@[simp]
theorem version?_bare (index : Index) (modelId : String) :
    index.bare.version? modelId = index.version? modelId := by
  unfold version?
  rw [get?_bare]
  cases index.get? modelId <;> rfl

@[simp]
theorem map_fst_bare (index : Index) :
    index.bare.entries.map Prod.fst = index.entries.map Prod.fst := by
  simp [bare, Function.comp_def]

end Index

namespace Decision

@[simp]
theorem reason?_bare (index : Index) (request : Request) :
    reason? index.bare request = reason? index request := by
  unfold reason?
  rw [Index.get?_bare]
  cases index.get? request.modelId <;> rfl

@[simp]
theorem reconcile_bare (index : Index) (requests : List (Nat × Request)) :
    reconcile index.bare requests = reconcile index requests := by
  unfold reconcile
  refine List.filterMap_congr fun item _ => ?_
  rw [of?, of?, reason?_bare]

end Decision

/-! ## Records that differ in what decides nothing -/

namespace Record

/-- The keys whose values decide something. -/
def decisiveKeys : List String := [Entry.nameKey, Entry.versionKey, Entry.keywordsKey]

/-- The second record says under the key what is given, or nothing, and under every other key what
the first one says. -/
def Puts (record : Record) (key : String) (value : Option Json) (other : Record) : Prop :=
  ∀ asked, other.get? asked = if asked = key then value else record.get? asked

/-- The record with a value under a key, in place of what was there. -/
def put (record : Record) (key : String) (value : Json) : Record :=
  ⟨Json.insertMember key value record.members⟩

/-- The record without a key. -/
def drop (record : Record) (key : String) : Record :=
  ⟨record.members.filter fun member => member.1 ≠ key⟩

theorem puts_put (record : Record) (key : String) (value : Json) :
    record.Puts key (some value) (record.put key value) := by
  intro asked
  exact Json.lookup_insertMember asked key value record.members

theorem puts_drop (record : Record) (key : String) :
    record.Puts key none (record.drop key) := by
  intro asked
  obtain ⟨members⟩ := record
  unfold drop get?
  induction members with
  | nil =>
      simp
  | cons head rest inductionHypothesis =>
      obtain ⟨headKey, held⟩ := head
      by_cases dropped : headKey = key
      · by_cases same : asked = key
        · simpa [dropped, same] using inductionHypothesis
        · have other : asked ≠ headKey := dropped ▸ same
          simpa [dropped, same, List.lookup_cons, beq_false_of_ne same] using inductionHypothesis
      · by_cases found : asked = headKey
        · simp [dropped, found]
        · simpa [dropped, List.lookup_cons, beq_false_of_ne found] using inductionHypothesis

/-- There is no string. -/
def NotText (value : Option Json) : Prop := ∀ text, value ≠ some (.string text)

/-- The second record is the first one after a change that decides nothing: a value is set, added or
removed under a key that is not decisive, a name is replaced by another one, or a version that is no
string is dropped or replaced by another one that is none either. -/
inductive Retouched (record other : Record) : Prop
  | besides {key : String} {value : Option Json} :
      key ∉ decisiveKeys → record.Puts key value other → Retouched record other
  | renamed {name newName : String} :
      record.get? Entry.nameKey = some (.string name) →
      record.Puts Entry.nameKey (some (.string newName)) other → Retouched record other
  | unversioned {value : Option Json} :
      NotText (record.get? Entry.versionKey) → NotText value →
      record.Puts Entry.versionKey value other → Retouched record other

/-- Both records have a name or neither has one, their versions are the same text or no texts, and
their keywords are the same. -/
structure DecidesLike (record other : Record) : Prop where
  name : ((record.get? Entry.nameKey).bind Json.asString?).isSome =
    ((other.get? Entry.nameKey).bind Json.asString?).isSome
  version : (record.get? Entry.versionKey).bind Json.asString? =
    (other.get? Entry.versionKey).bind Json.asString?
  keywords : record.get? Entry.keywordsKey = other.get? Entry.keywordsKey

theorem bind_asString?_of_notText {value : Option Json} (notText : NotText value) :
    value.bind Json.asString? = none := by
  cases value with
  | none =>
      rfl
  | some json =>
      cases json with
      | string text =>
          exact absurd rfl (notText text)
      | _ =>
          rfl

variable {record other : Record}

theorem Retouched.decidesLike (retouched : record.Retouched other) :
    record.DecidesLike other := by
  cases retouched with
  | @besides key value notDecisive puts =>
      simp only [decisiveKeys, List.mem_cons, List.not_mem_nil, or_false, not_or] at notDecisive
      have name := puts Entry.nameKey
      have version := puts Entry.versionKey
      have keywords := puts Entry.keywordsKey
      rw [if_neg (Ne.symm notDecisive.1)] at name
      rw [if_neg (Ne.symm notDecisive.2.1)] at version
      rw [if_neg (Ne.symm notDecisive.2.2)] at keywords
      exact ⟨by rw [name], by rw [version], keywords.symm⟩
  | @renamed name newName named puts =>
      have newlyNamed := puts Entry.nameKey
      have version := puts Entry.versionKey
      have keywords := puts Entry.keywordsKey
      rw [if_pos rfl] at newlyNamed
      rw [if_neg (by decide)] at version keywords
      exact ⟨by rw [named, newlyNamed]; rfl, by rw [version], keywords.symm⟩
  | @unversioned value noVersion notText puts =>
      have name := puts Entry.nameKey
      have version := puts Entry.versionKey
      have keywords := puts Entry.keywordsKey
      rw [if_pos rfl] at version
      rw [if_neg (by decide)] at name keywords
      refine ⟨by rw [name], ?_, keywords.symm⟩
      rw [version, bind_asString?_of_notText noVersion, bind_asString?_of_notText notText]

theorem DecidesLike.map_bare (decidesLike : record.DecidesLike other) :
    (Entry.ofRecord? record).map Entry.bare = (Entry.ofRecord? other).map Entry.bare := by
  have sameName := decidesLike.name
  have sameVersion := decidesLike.version
  have sameKeywords : Entry.readKeywords? record = Entry.readKeywords? other := by
    unfold Entry.readKeywords?
    rw [decidesLike.keywords]
  unfold Entry.ofRecord?
  rw [sameVersion, sameKeywords]
  generalize (record.get? Entry.nameKey).bind Json.asString? = name at sameName ⊢
  generalize (other.get? Entry.nameKey).bind Json.asString? = otherName at sameName ⊢
  cases name with
  | none =>
      cases otherName with
      | none =>
          rfl
      | some text =>
          cases sameName
  | some text =>
      cases otherName with
      | none =>
          cases sameName
      | some otherText =>
          cases Entry.readKeywords? other <;> rfl

/-- However often a record is changed in what decides nothing, its decisive part stays. -/
theorem map_bare_of_retouched (retouched : Relation.ReflTransGen Retouched record other) :
    (Entry.ofRecord? record).map Entry.bare = (Entry.ofRecord? other).map Entry.bare := by
  induction retouched with
  | refl =>
      rfl
  | tail _ last inductionHypothesis =>
      exact inductionHypothesis.trans last.decidesLike.map_bare

end Record

/-! ## Listings that differ in what decides nothing -/

theorem Index.bare_ofRecords_of_retouched {records others : List Record}
    (retouched : List.Forall₂ (Relation.ReflTransGen Record.Retouched) records others) :
    (Index.ofRecords records).bare = (Index.ofRecords others).bare := by
  have sameParts : (records.filterMap Entry.ofRecord?).map Entry.bare =
      (others.filterMap Entry.ofRecord?).map Entry.bare := by
    rw [List.map_filterMap, List.map_filterMap]
    induction retouched with
    | nil =>
        rfl
    | cons head _ inductionHypothesis =>
        rw [List.filterMap_cons, List.filterMap_cons, Record.map_bare_of_retouched head,
          inductionHypothesis]
  unfold Index.ofRecords
  rw [← Index.ofEntries_bare, ← Index.ofEntries_bare, sameParts]

namespace Decision

/-- A record is readable if and only if its name is a string and its keywords are missing or a list
of strings. Changes in what decides nothing, in however many records, leave the ids and the versions
of the index as they were, and every decision with its reason. -/
theorem reconcile_retouched :
    (∀ record, (∃ entry, Entry.ofRecord? record = some entry) ↔ record.IsReadable) ∧
      ∀ records others, List.Forall₂ (Relation.ReflTransGen Record.Retouched) records others →
        (Index.ofRecords others).entries.map Prod.fst =
            (Index.ofRecords records).entries.map Prod.fst ∧
          (∀ modelId, (Index.ofRecords others).version? modelId =
            (Index.ofRecords records).version? modelId) ∧
          ∀ requests, reconcile (Index.ofRecords others) requests =
            reconcile (Index.ofRecords records) requests := by
  constructor
  · intro record
    exact Entry.exists_ofRecord?_iff
  · intro records others retouched
    have sameIndex := Index.bare_ofRecords_of_retouched retouched
    refine ⟨?_, fun modelId => ?_, fun requests => ?_⟩
    · rw [← Index.map_fst_bare, ← sameIndex, Index.map_fst_bare]
    · rw [← Index.version?_bare, ← sameIndex, Index.version?_bare]
    · rw [← reconcile_bare, ← sameIndex, reconcile_bare]

/-- Two copies, the second one without a version that could be read. -/
def untouchedListing : List Record :=
  [.ofCopy "copy" ⟨"m", "1"⟩, (Record.ofCopy "odd" ⟨"n", "1"⟩).put Entry.versionKey (.integer 2)]

/-- The same copies, the first one under another name, with a status that is null and with a key
that no hub knows, the second one without any version. -/
def retouchedListing : List Record :=
  [(((Record.ofCopy "copy" ⟨"m", "1"⟩).put Entry.statusKey .null).put "Owner" (.array [])).put
      Entry.nameKey (.string "renamed"),
    ((Record.ofCopy "odd" ⟨"n", "1"⟩).put Entry.versionKey (.integer 2)).drop Entry.versionKey]

theorem reconcile_retouched_untouchedListing :
    List.Forall₂ (Relation.ReflTransGen Record.Retouched) untouchedListing retouchedListing ∧
      reconcile (Index.ofRecords retouchedListing) [(0, ⟨"m", "2"⟩), (1, ⟨"n", "1"⟩)] =
        [⟨0, ⟨"m", "2"⟩, .outdated "1"⟩, ⟨1, ⟨"n", "1"⟩, .hubVersionUnknown⟩] := by
  have named : ((((Record.ofCopy "copy" ⟨"m", "1"⟩).put Entry.statusKey .null).put "Owner"
      (.array [])).get? Entry.nameKey) = some (.string "copy") := rfl
  have renamed : Relation.ReflTransGen Record.Retouched (.ofCopy "copy" ⟨"m", "1"⟩)
      ((((Record.ofCopy "copy" ⟨"m", "1"⟩).put Entry.statusKey .null).put "Owner" (.array [])).put
        Entry.nameKey (.string "renamed")) :=
    .tail (.tail (.single (.besides (by decide) (Record.puts_put _ _ _)))
      (.besides (by decide) (Record.puts_put _ _ _)))
      (.renamed named (Record.puts_put _ _ _))
  have unversioned : Relation.ReflTransGen Record.Retouched
      ((Record.ofCopy "odd" ⟨"n", "1"⟩).put Entry.versionKey (.integer 2))
      (((Record.ofCopy "odd" ⟨"n", "1"⟩).put Entry.versionKey (.integer 2)).drop
        Entry.versionKey) := by
    refine .single (.unversioned (fun text isText => ?_) (fun text isText => ?_)
      (Record.puts_drop _ _))
    · rw [Record.puts_put _ Entry.versionKey, if_pos rfl] at isText
      cases isText
    · cases isText
  have retouched : List.Forall₂ (Relation.ReflTransGen Record.Retouched) untouchedListing
      retouchedListing := .cons renamed (.cons unversioned .nil)
  refine ⟨retouched, ?_⟩
  rw [(reconcile_retouched.2 untouchedListing retouchedListing retouched).2.2]
  decide

end Decision

end ModelHub

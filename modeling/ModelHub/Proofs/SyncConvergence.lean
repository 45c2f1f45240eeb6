import ModelHub.Dispatch
import ModelHub.Hub
import ModelHub.Proofs.Reconciliation
import ModelHub.Proofs.TagKeywords

/-!
# Syncing converges

An imported model is listed with the version and the keywords that were sent for it. It is read
back as a copy of the model at that version, so it satisfies the request it was imported for and
every request for the model at an older version. After some of the decisions on a batch were
carried out, the batch is left with those that failed and that no import covers.
-/

namespace ModelHub

/-! ## Resolved requests -/

/-- The request names a model by an id that is not empty and has no blank characters around it,
and a version that can be compared. -/
structure Request.IsResolved (request : Request) : Prop where
  modelId_ne : request.modelId ≠ ""
  trimmed : Text.trim request.modelId = request.modelId
  version : ∃ wanted, Version.parse? request.version = some wanted

/-- A model at the version of a request is also what another request asks for: it is the same
model, at the version that the other asks for or at a newer one. -/
def Request.Covers (request other : Request) : Prop :=
  request.modelId = other.modelId ∧
    ∃ reached wanted, Version.parse? request.version = some reached ∧
      Version.parse? other.version = some wanted ∧ (reached.order wanted).isGE = true

instance (request other : Request) : Decidable (request.Covers other) :=
  decidable_of_iff
    (request.modelId = other.modelId ∧
      ((Version.parse? request.version).bind fun reached =>
        (Version.parse? other.version).map fun wanted =>
          (reached.order wanted).isGE) = some true)
    (by simp [Request.Covers, Option.bind_eq_some_iff])

theorem Request.IsResolved.covers_self {request : Request} (resolved : request.IsResolved) :
    request.Covers request := by
  obtain ⟨wanted, parsed⟩ := resolved.version
  exact ⟨rfl, wanted, wanted, parsed, parsed, Version.order_isGE_refl wanted⟩

/-! ## Imported models -/

/-- The record is readable and lists a model with the version and the keywords that were sent to
the hub to import it. -/
structure Record.IsImportOf (record : Record) (request : Request) : Prop where
  readable : ∃ entry, Entry.ofRecord? record = some entry
  version : record.get? Entry.versionKey = (Hub.importBody request).get? "ModelVersion"
  keywords : record.get? Entry.keywordsKey =
    (Hub.importBody request).get? "HubContentSearchKeywords"

theorem Record.isImportOf_ofCopy (name : String) (request : Request) :
    (Record.ofCopy name ⟨request.modelId, request.version⟩).IsImportOf request :=
  ⟨⟨_, rfl⟩, rfl, rfl⟩

/-- What is read from the record of an import: the version and the keywords that were sent. -/
theorem Record.IsImportOf.exists_entry {record : Record} {request : Request}
    (imported : record.IsImportOf request) :
    ∃ entry, Entry.ofRecord? record = some entry ∧ entry.version = some request.version ∧
      entry.keywords = Tag.keywords ⟨request.modelId, request.version⟩ := by
  obtain ⟨entry, readable⟩ := imported.readable
  have versionSent : (Hub.importBody request).get? "ModelVersion" =
      some (.string request.version) := rfl
  have keywordsSent : (Hub.importBody request).get? "HubContentSearchKeywords" =
      some (.array ((Tag.keywords ⟨request.modelId, request.version⟩).map .string)) := rfl
  have readKeywords : Entry.readKeywords? record =
      some (Tag.keywords ⟨request.modelId, request.version⟩) := by
    rw [Entry.readKeywords?, imported.keywords, keywordsSent]
    rfl
  refine ⟨entry, readable, ?_⟩
  rw [Entry.ofRecord?, readKeywords, imported.version, versionSent] at readable
  cases name : (record.get? Entry.nameKey).bind Json.asString? with
  | none =>
      simp [name] at readable
  | some text =>
      simp only [name, Option.some.injEq] at readable
      subst readable
      exact ⟨rfl, rfl⟩

/-- An imported model is read back as a copy of the model of the request, at its version. -/
theorem Record.IsImportOf.exists_copy {record : Record} {request : Request}
    (imported : record.IsImportOf request) (resolved : request.IsResolved) :
    ∃ entry tag, Entry.ofRecord? record = some entry ∧ entry.tag? = some tag ∧
      tag.modelId = request.modelId ∧ entry.version? = Version.parse? request.version := by
  obtain ⟨entry, readable, version, keywords⟩ := imported.exists_entry
  obtain ⟨wanted, parsed⟩ := resolved.version
  have modelIdLeft : Text.trim request.modelId ≠ "" := by
    rw [resolved.trimmed]
    exact resolved.modelId_ne
  have versionLeft : Text.trim request.version ≠ "" := by
    intro blank
    rw [Version.parse?_eq_none_of_trim_eq blank] at parsed
    cases parsed
  refine ⟨entry, ⟨Text.trim request.modelId, Text.trim request.version⟩, readable, ?_,
    resolved.trimmed, ?_⟩
  · rw [Entry.tag?, keywords]
    exact Tag.ofKeywords?_keywords modelIdLeft versionLeft
  · rw [Entry.version?_eq_bind, version]
    rfl

theorem Record.IsImportOf.satisfies_iff {record : Record} {request other : Request}
    (imported : record.IsImportOf request) (resolved : request.IsResolved) :
    record.Satisfies other ↔ request.Covers other := by
  obtain ⟨entry, tag, readable, tagged, sameModel, version⟩ := imported.exists_copy resolved
  constructor
  · intro satisfies
    rcases satisfies with
      ⟨found, isFound, ⟨foundTag, isTag, tagModel⟩, native, wanted, isNative, isWanted, notLower⟩
    obtain rfl : entry = found := Option.some.inj (readable.symm.trans isFound)
    obtain rfl : tag = foundTag := Option.some.inj (tagged.symm.trans isTag)
    exact ⟨sameModel.symm.trans tagModel, native, wanted, version.symm.trans isNative, isWanted,
      notLower⟩
  · intro covers
    rcases covers with ⟨otherModel, reached, wanted, isReached, isWanted, notLower⟩
    exact ⟨entry, readable, ⟨tag, tagged, sameModel.trans otherModel⟩, reached, wanted,
      version.trans isReached, isWanted, notLower⟩

/-- An imported model is listed as a copy of the model of the request and of no other. -/
theorem Record.IsImportOf.isCopyOf_iff {record : Record} {request : Request} {modelId : String}
    (imported : record.IsImportOf request) (resolved : request.IsResolved) :
    (∃ entry, Entry.ofRecord? record = some entry ∧ entry.isCopyOf modelId = true) ↔
      request.modelId = modelId := by
  obtain ⟨entry, tag, readable, tagged, sameModel, _⟩ := imported.exists_copy resolved
  simp [readable, Entry.isCopyOf, tagged, sameModel]

/-! ## Listing again -/

/-- A batch of resolved requests was decided on for a listing, every decision has an outcome, and
the hub is listed again with a further record, anywhere in the listing, for each decision that
succeeded. -/
structure Resync (listing relisted : List Record) (requests : List (Nat × Request))
    (outcomes : List Outcome) : Prop where
  resolved : ∀ item ∈ requests, item.2.IsResolved
  decided : outcomes.map Outcome.decision =
    Decision.reconcile (Index.ofRecords listing) requests
  imported : ∃ added,
    List.Forall₂ (fun record outcome => record.IsImportOf outcome.decision.request) added
        (outcomes.filter Outcome.succeeded) ∧
      relisted.Perm (listing ++ added)

/-- Some decision that succeeded brought the model that the request asks for, at its version or a
newer one. -/
def Covered (outcomes : List Outcome) (request : Request) : Prop :=
  ∃ outcome ∈ outcomes, outcome.succeeded = true ∧ outcome.decision.request.Covers request

instance (outcomes : List Outcome) (request : Request) : Decidable (Covered outcomes request) :=
  inferInstanceAs (Decidable (∃ outcome ∈ outcomes, _))

private theorem exists_mem_iff_of_forall₂ {left right : Type} {related : left → right → Prop}
    {lefts : List left} {rights : List right} {holds : left → Prop} {alsoHolds : right → Prop}
    (pairs : List.Forall₂ related lefts rights)
    (same : ∀ first, ∀ second ∈ rights, related first second →
      (holds first ↔ alsoHolds second)) :
    (∃ first ∈ lefts, holds first) ↔ ∃ second ∈ rights, alsoHolds second := by
  induction pairs with
  | nil =>
      simp
  | cons relation _ inductionHypothesis =>
      simp only [List.mem_cons, exists_eq_or_imp]
      rw [same _ _ List.mem_cons_self relation, inductionHypothesis fun first second member =>
        same first second (List.mem_cons_of_mem _ member)]

namespace Resync

variable {listing relisted : List Record} {requests : List (Nat × Request)}
  {outcomes : List Outcome}

theorem decision_mem (resync : Resync listing relisted requests outcomes) {outcome : Outcome}
    (member : outcome ∈ outcomes) :
    outcome.decision ∈ Decision.reconcile (Index.ofRecords listing) requests := by
  rw [← resync.decided]
  exact List.mem_map_of_mem member

theorem isResolved (resync : Resync listing relisted requests outcomes) {outcome : Outcome}
    (member : outcome ∈ outcomes) : outcome.decision.request.IsResolved :=
  resync.resolved outcome.decision.numbered
    (Decision.mem_reconcile_iff.1 (resync.decision_mem member)).1

/-- The new listing satisfies what the old one did and what the imports cover. -/
theorem exists_satisfies_iff (resync : Resync listing relisted requests outcomes)
    {request : Request} :
    (∃ record ∈ relisted, record.Satisfies request) ↔
      (∃ record ∈ listing, record.Satisfies request) ∨ Covered outcomes request := by
  obtain ⟨added, pairs, extended⟩ := resync.imported
  have addedSatisfies : (∃ record ∈ added, record.Satisfies request) ↔
      ∃ outcome ∈ outcomes.filter Outcome.succeeded,
        outcome.decision.request.Covers request :=
    exists_mem_iff_of_forall₂ pairs fun record outcome member imported =>
      imported.satisfies_iff (resync.isResolved (List.mem_of_mem_filter member))
  simp only [List.mem_filter, and_assoc] at addedSatisfies
  rw [Covered, ← addedSatisfies]
  simp only [extended.mem_iff, List.mem_append, or_and_right, exists_or]

/-- A request that the old listing satisfies stays satisfied. -/
theorem reason?_eq_none (resync : Resync listing relisted requests outcomes) {request : Request}
    (satisfied : Decision.reason? (Index.ofRecords listing) request = none) :
    Decision.reason? (Index.ofRecords relisted) request = none := by
  rw [Decision.reason?_ofRecords_eq_none_iff] at satisfied ⊢
  exact resync.exists_satisfies_iff.2 (Or.inl satisfied)

/-- A request that was decided on is satisfied by imports only. -/
theorem reason?_eq_none_iff_covered (resync : Resync listing relisted requests outcomes)
    {outcome : Outcome} (member : outcome ∈ outcomes) :
    Decision.reason? (Index.ofRecords relisted) outcome.decision.request = none ↔
      Covered outcomes outcome.decision.request := by
  have due := (Decision.mem_reconcile_iff.1 (resync.decision_mem member)).2
  have notBefore : ¬ ∃ record ∈ listing, record.Satisfies outcome.decision.request := by
    rw [← Decision.reason?_ofRecords_eq_none_iff, due]
    exact Option.some_ne_none _
  rw [Decision.reason?_ofRecords_eq_none_iff, resync.exists_satisfies_iff]
  exact or_iff_right notBefore

/-- A decision that succeeded covers its own request. -/
theorem covered_of_succeeded (resync : Resync listing relisted requests outcomes)
    {outcome : Outcome} (member : outcome ∈ outcomes) (succeeded : outcome.succeeded = true) :
    Covered outcomes outcome.decision.request :=
  ⟨outcome, member, succeeded, (resync.isResolved member).covers_self⟩

/-- What is left of a batch: the decisions that failed and that no import covers. -/
theorem map_numbered_relisted (resync : Resync listing relisted requests outcomes) :
    (Decision.reconcile (Index.ofRecords relisted) requests).map Decision.numbered =
      (outcomes.filter fun outcome =>
        outcome.succeeded = false ∧ ¬ Covered outcomes outcome.decision.request).map
          fun outcome => outcome.decision.numbered := by
  let needed (item : Nat × Request) : Bool :=
    (Decision.reason? (Index.ofRecords relisted) item.2).isSome
  let neededBefore (item : Nat × Request) : Bool :=
    (Decision.reason? (Index.ofRecords listing) item.2).isSome
  have neededTwice (item : Nat × Request) : (needed item && neededBefore item) = needed item := by
    cases before : Decision.reason? (Index.ofRecords listing) item.2 with
    | none =>
        simp [needed, neededBefore, before, resync.reason?_eq_none before]
    | some reason =>
        simp [neededBefore, before]
  have decidedBefore : requests.filter neededBefore =
      outcomes.map fun outcome => outcome.decision.numbered := by
    rw [← Decision.map_numbered_reconcile, ← resync.decided, List.map_map]
    rfl
  have stillNeeded : ∀ outcome ∈ outcomes, needed outcome.decision.numbered =
      decide (outcome.succeeded = false ∧ ¬ Covered outcomes outcome.decision.request) := by
    intro outcome member
    have covered := resync.reason?_eq_none_iff_covered member
    have success := resync.covered_of_succeeded member
    cases succeeded : outcome.succeeded with
    | true =>
        simp [needed, Decision.numbered, covered.2 (success succeeded)]
    | false =>
        rw [Bool.eq_iff_iff, decide_eq_true_eq, ← covered]
        simp [needed, Decision.numbered, Option.isSome_iff_ne_none]
  calc
    (Decision.reconcile (Index.ofRecords relisted) requests).map Decision.numbered
      = requests.filter needed := Decision.map_numbered_reconcile _ requests
    _ = (requests.filter neededBefore).filter needed := by
        rw [List.filter_filter]
        exact List.filter_congr fun item _ => (neededTwice item).symm
    _ = (outcomes.filter fun outcome => needed outcome.decision.numbered).map
          fun outcome => outcome.decision.numbered := by
        rw [decidedBefore, List.filter_map]
        rfl
    _ = _ := by rw [List.filter_congr stillNeeded]

/-- A model of which a copy was imported can be out of date afterwards, and nothing else. -/
theorem exists_outdated (resync : Resync listing relisted requests outcomes)
    {decision : Decision}
    (member : decision ∈ Decision.reconcile (Index.ofRecords relisted) requests)
    {outcome : Outcome} (outcomeMember : outcome ∈ outcomes) (succeeded : outcome.succeeded = true)
    (sameModel : outcome.decision.request.modelId = decision.request.modelId) :
    ∃ hubVersion, decision.reason = .outdated hubVersion := by
  obtain ⟨requestMember, due⟩ := Decision.mem_reconcile_iff.1 member
  obtain ⟨wanted, requested⟩ := (resync.resolved decision.numbered requestMember).version
  have resolved := resync.isResolved outcomeMember
  obtain ⟨reached, parsed⟩ := resolved.version
  obtain ⟨record, recordMember, satisfies⟩ := resync.exists_satisfies_iff.2
    (Or.inr (resync.covered_of_succeeded outcomeMember succeeded))
  obtain ⟨entry, copy, native, _, version, _, _⟩ :=
    ModelHub.exists_satisfies_iff.1 ⟨record, recordMember, satisfies⟩
  rw [sameModel] at copy
  obtain ⟨held, heldVersion, found, isVersion, _⟩ :=
    Decision.exists_version?_ofRecords copy version
  exact Decision.exists_outdated found isVersion requested due

/-- The listed copies of a model of which no copy was imported are the same as before. -/
theorem copiesOf_eq (resync : Resync listing relisted requests outcomes)
    (inOrder : listing.Sublist relisted) {modelId : String}
    (notImported : ∀ outcome ∈ outcomes, outcome.succeeded = true →
      outcome.decision.request.modelId ≠ modelId) :
    copiesOf modelId relisted = copiesOf modelId listing := by
  obtain ⟨added, pairs, extended⟩ := resync.imported
  have noCopyAdded : copiesOf modelId added = [] := by
    rw [List.eq_nil_iff_forall_not_mem]
    intro entry copy
    obtain ⟨record, recordMember, readable, tagged⟩ := mem_copiesOf_iff.1 copy
    have imports : (∃ record ∈ added, ∃ entry, Entry.ofRecord? record = some entry ∧
        entry.isCopyOf modelId = true) ↔
          ∃ outcome ∈ outcomes.filter Outcome.succeeded,
            outcome.decision.request.modelId = modelId :=
      exists_mem_iff_of_forall₂ pairs fun record outcome member imported =>
        imported.isCopyOf_iff (resync.isResolved (List.mem_of_mem_filter member))
    obtain ⟨outcome, member, sameModel⟩ :=
      imports.1 ⟨record, recordMember, entry, readable, tagged⟩
    rw [List.mem_filter] at member
    exact notImported outcome member.1 member.2 sameModel
  have sameLength : (copiesOf modelId listing).length = (copiesOf modelId relisted).length := by
    rw [(copiesOf_perm modelId extended).length_eq, copiesOf_append, noCopyAdded, List.append_nil]
  exact ((copiesOf_sublist modelId inOrder).eq_of_length sameLength).symm

/-- A decision on a model of which no copy was imported is one that failed, word for word. -/
theorem exists_failed (resync : Resync listing relisted requests outcomes)
    (inOrder : listing.Sublist relisted) {decision : Decision}
    (member : decision ∈ Decision.reconcile (Index.ofRecords relisted) requests)
    (notImported : ∀ outcome ∈ outcomes, outcome.succeeded = true →
      outcome.decision.request.modelId ≠ decision.request.modelId) :
    ∃ outcome ∈ outcomes, outcome.succeeded = false ∧ outcome.decision = decision := by
  have numberedMember := List.mem_map_of_mem (f := Decision.numbered) member
  rw [resync.map_numbered_relisted, List.mem_map] at numberedMember
  obtain ⟨outcome, outcomeMember, sameNumbered⟩ := numberedMember
  rw [List.mem_filter, decide_eq_true_eq] at outcomeMember
  obtain ⟨outcomeMember, failed, _⟩ := outcomeMember
  have sameRequest : outcome.decision.request = decision.request :=
    congrArg Prod.snd sameNumbered
  have sameHeld : (Index.ofRecords relisted).get? decision.request.modelId =
      (Index.ofRecords listing).get? decision.request.modelId := by
    rw [Index.get?_ofRecords, Index.get?_ofRecords, resync.copiesOf_eq inOrder notImported]
  have due := (Decision.mem_reconcile_iff.1 member).2
  have dueBefore := (Decision.mem_reconcile_iff.1 (resync.decision_mem outcomeMember)).2
  rw [Decision.reason?_congr sameHeld] at due
  rw [sameRequest, due, Option.some.injEq] at dueBefore
  exact ⟨outcome, outcomeMember, failed, Decision.eq_of_numbered sameNumbered dueBefore.symm⟩

/-- Reconciling a batch again after some of its decisions succeeded decides on those that failed
and that no import covers, so on nothing when all of them succeeded, and what was satisfied stays
satisfied. A decision on a model of which copies were imported says that the hub is out of date;
any other is one of those that failed, unless the hub lists its old records in another order. -/
theorem reconcile_relisted (resync : Resync listing relisted requests outcomes) :
    (Decision.reconcile (Index.ofRecords relisted) requests).map Decision.numbered =
        (outcomes.filter fun outcome =>
          outcome.succeeded = false ∧ ¬ Covered outcomes outcome.decision.request).map
            (fun outcome => outcome.decision.numbered) ∧
      ((∀ outcome ∈ outcomes, outcome.succeeded = true) →
        Decision.reconcile (Index.ofRecords relisted) requests = []) ∧
      (∀ item ∈ requests, Decision.reason? (Index.ofRecords listing) item.2 = none →
        Decision.reason? (Index.ofRecords relisted) item.2 = none) ∧
      ∀ decision ∈ Decision.reconcile (Index.ofRecords relisted) requests,
        ((∃ outcome ∈ outcomes, outcome.succeeded = true ∧
            outcome.decision.request.modelId = decision.request.modelId) →
          ∃ hubVersion, decision.reason = .outdated hubVersion) ∧
        (listing.Sublist relisted →
          (∀ outcome ∈ outcomes, outcome.succeeded = true →
            outcome.decision.request.modelId ≠ decision.request.modelId) →
          ∃ outcome ∈ outcomes, outcome.succeeded = false ∧ outcome.decision = decision) := by
  refine ⟨resync.map_numbered_relisted, ?_,
    fun item _ satisfied => resync.reason?_eq_none satisfied, fun decision member =>
      ⟨?_, fun inOrder notImported => resync.exists_failed inOrder member notImported⟩⟩
  · intro allSucceeded
    have nothingLeft := resync.map_numbered_relisted
    rw [List.filter_eq_nil_iff.2, List.map_nil, List.map_eq_nil_iff] at nothingLeft
    · exact nothingLeft
    · intro outcome member
      simp [allSucceeded outcome member]
  · intro synced
    rcases synced with ⟨outcome, outcomeMember, succeeded, sameModel⟩
    exact resync.exists_outdated member outcomeMember succeeded sameModel

/-- A batch for a hub that holds `a` at `1.0`. -/
def batchOfFour : List (Nat × Request) :=
  [(0, ⟨"a", "2"⟩), (1, ⟨"a", "3"⟩), (2, ⟨"b", "1"⟩), (3, ⟨"a", "1"⟩)]

/-- Of the decisions on the batch, the one on `a` at `2` succeeds. -/
def oneSucceeded : List Outcome :=
  [⟨⟨0, ⟨"a", "2"⟩, .outdated "1.0"⟩, .ok ()⟩,
    ⟨⟨1, ⟨"a", "3"⟩, .outdated "1.0"⟩, .error (.ofKind .timedOut)⟩,
    ⟨⟨2, ⟨"b", "1"⟩, .missing⟩, .error (.ofKind .timedOut)⟩]

theorem reconcile_relisted_oneSucceeded :
    Resync [.ofCopy "old" ⟨"a", "1.0"⟩]
        [.ofCopy "new" ⟨"a", "2"⟩, .ofCopy "old" ⟨"a", "1.0"⟩] batchOfFour oneSucceeded ∧
      (Decision.reconcile
        (Index.ofRecords [.ofCopy "new" ⟨"a", "2"⟩, .ofCopy "old" ⟨"a", "1.0"⟩])
          batchOfFour).map Decision.numbered = [(1, ⟨"a", "3"⟩), (2, ⟨"b", "1"⟩)] := by
  have resync : Resync [.ofCopy "old" ⟨"a", "1.0"⟩]
      [.ofCopy "new" ⟨"a", "2"⟩, .ofCopy "old" ⟨"a", "1.0"⟩] batchOfFour oneSucceeded :=
    { resolved := by
        simp only [batchOfFour, List.forall_mem_cons, List.not_mem_nil, false_implies,
          implies_true, and_true]
        exact ⟨⟨by decide, by decide, _, rfl⟩, ⟨by decide, by decide, _, rfl⟩,
          ⟨by decide, by decide, _, rfl⟩, ⟨by decide, by decide, _, rfl⟩⟩
      decided := by decide
      imported :=
        ⟨[.ofCopy "new" ⟨"a", "2"⟩],
          List.Forall₂.cons (Record.isImportOf_ofCopy "new" ⟨"a", "2"⟩) List.Forall₂.nil,
          List.Perm.swap _ _ []⟩ }
  exact ⟨resync, resync.reconcile_relisted.1.trans (by decide)⟩

end Resync

end ModelHub

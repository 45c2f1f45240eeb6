import ModelHub.Hub.Decision
import ModelHub.Proofs.HubIndex
import ModelHub.Proofs.Trimming

/-!
# Which requests are decided on, and why

A request is decided on exactly when no record of the listing satisfies it. The listing alone,
without an index, tells the requests that are left out and the reason of each decision.
-/

namespace ModelHub

/-! ## Entries -/

/-- A version that can be compared is the one that its own text denotes. -/
theorem Entry.version?_eq_some_iff {entry : Entry} {native : Version} :
    entry.version? = some native ↔
      ∃ recorded, entry.recordedVersion? = some recorded ∧
        Version.parse? recorded = some native := by
  simp [Entry.version?, Option.bind_eq_some_iff]

/-- Reading the version of an entry needs no trimming. -/
theorem Entry.version?_eq_bind (entry : Entry) :
    entry.version? = entry.version.bind Version.parse? := by
  cases version : entry.version with
  | none =>
      simp [Entry.version?, Entry.recordedVersion?, version]
  | some text =>
      by_cases blank : Text.trim text = ""
      · simp [Entry.version?, Entry.recordedVersion?, version, blank,
          Version.parse?_eq_none_of_trim_eq blank]
      · simp [Entry.version?, Entry.recordedVersion?, version, Option.filter, blank,
          Version.parse?_trim]

/-- The version that the hub records for the entry and the requested one can be compared, and the
entry is not below the request. -/
def Entry.Meets (entry : Entry) (request : Request) : Prop :=
  ∃ native wanted, entry.version? = some native ∧
    Version.parse? request.version = some wanted ∧ (native.order wanted).isGE = true

/-- The record is readable, its keywords tag it as a copy of the requested model, and the version
that the hub records for it is the requested one or a newer one. -/
def Record.Satisfies (record : Record) (request : Request) : Prop :=
  ∃ entry, Entry.ofRecord? record = some entry ∧
    (∃ tag, entry.tag? = some tag ∧ tag.modelId = request.modelId) ∧ entry.Meets request

instance (entry : Entry) (request : Request) : Decidable (entry.Meets request) :=
  decidable_of_iff
    ((entry.version?.bind fun native =>
      (Version.parse? request.version).map fun wanted => (native.order wanted).isGE) = some true)
    (by simp [Entry.Meets, Option.bind_eq_some_iff])

instance (record : Record) (request : Request) : Decidable (record.Satisfies request) :=
  decidable_of_iff
    ((Entry.ofRecord? record).any (fun entry =>
      entry.isCopyOf request.modelId && decide (entry.Meets request)) = true)
    (by simp [Record.Satisfies, Option.any_eq_true, Entry.isCopyOf_iff])

/-- Some record of the listing satisfies the request when some copy of the model meets it. -/
theorem exists_satisfies_iff {records : List Record} {request : Request} :
    (∃ record ∈ records, record.Satisfies request) ↔
      ∃ entry ∈ copiesOf request.modelId records, entry.Meets request := by
  constructor
  · intro satisfied
    rcases satisfied with ⟨record, member, entry, readable, tagged, meets⟩
    exact ⟨entry, mem_copiesOf_iff.2 ⟨record, member, readable, Entry.isCopyOf_iff.2 tagged⟩,
      meets⟩
  · intro met
    rcases met with ⟨entry, copy, meets⟩
    obtain ⟨record, member, readable, tagged⟩ := mem_copiesOf_iff.1 copy
    exact ⟨record, member, entry, readable, Entry.isCopyOf_iff.1 tagged, meets⟩

/-- The reason is the one that a listing gives for syncing a request. -/
structure Reason.IsDue (records : List Record) (request : Request) (reason : Reason) :
    Prop where
  missing_iff : reason = .missing ↔ copiesOf request.modelId records = []
  hubVersionUnknown_iff : reason = .hubVersionUnknown ↔
    copiesOf request.modelId records ≠ [] ∧
      ∀ entry ∈ copiesOf request.modelId records, entry.version? = none
  requestedVersionUnknown_iff : reason = .requestedVersionUnknown ↔
    (∃ entry ∈ copiesOf request.modelId records, ∃ native, entry.version? = some native) ∧
      Version.parse? request.version = none
  outdated_iff (hubVersion : String) : reason = .outdated hubVersion ↔
    ∃ entry native wanted,
      IsFirstHighest Entry.version? (copiesOf request.modelId records) entry ∧
        entry.version? = some native ∧ entry.recordedVersion? = some hubVersion ∧
        Version.parse? request.version = some wanted ∧ native.order wanted = .lt

/-! ## Reasons -/

namespace Decision

/-- What is decided on a request, with all that decides it: the entry held for the model, the
version of that entry and the version requested. -/
inductive Verdict (index : Index) (request : Request) : Option Reason → Prop
  | missing :
      index.get? request.modelId = none →
      Verdict index request (some .missing)
  | hubVersionUnknown {entry : Entry} :
      index.get? request.modelId = some entry →
      entry.version? = none →
      Verdict index request (some .hubVersionUnknown)
  | requestedVersionUnknown {entry : Entry} {native : Version} :
      index.get? request.modelId = some entry →
      entry.version? = some native →
      Version.parse? request.version = none →
      Verdict index request (some .requestedVersionUnknown)
  | outdated {entry : Entry} {native wanted : Version} {recorded : String} :
      index.get? request.modelId = some entry →
      entry.version? = some native →
      entry.recordedVersion? = some recorded →
      Version.parse? request.version = some wanted →
      native.order wanted = .lt →
      Verdict index request (some (.outdated recorded))
  | satisfied {entry : Entry} {native wanted : Version} :
      index.get? request.modelId = some entry →
      entry.version? = some native →
      Version.parse? request.version = some wanted →
      (native.order wanted).isGE = true →
      Verdict index request none

/-- A version that the hub holds was read from the text that the request is compared with. -/
theorem reason?_verdict (index : Index) (request : Request) :
    Verdict index request (reason? index request) := by
  unfold reason?
  cases held : index.get? request.modelId with
  | none =>
      exact Verdict.missing held
  | some entry =>
      cases version : entry.version? with
      | none =>
          simp only [version]
          exact Verdict.hubVersionUnknown held version
      | some native =>
          obtain ⟨recorded, isRecorded, parsed⟩ := Entry.version?_eq_some_iff.1 version
          cases requested : Version.parse? request.version with
          | none =>
              simp only [version, isRecorded, Version.compareTexts, requested]
              exact Verdict.requestedVersionUnknown held version requested
          | some wanted =>
              simp only [version, isRecorded, Version.compareTexts, parsed, requested]
              have swapped := Version.order_swap native wanted
              cases compared : wanted.order native with
              | gt =>
                  rw [compared] at swapped
                  exact Verdict.outdated held version isRecorded requested swapped
              | eq =>
                  rw [compared] at swapped
                  exact Verdict.satisfied held version requested (by rw [swapped]; rfl)
              | lt =>
                  rw [compared] at swapped
                  exact Verdict.satisfied held version requested (by rw [swapped]; rfl)

/-- The verdict on a request is the only one. -/
theorem reason?_eq_iff_verdict {index : Index} {request : Request} {verdict : Option Reason} :
    reason? index request = verdict ↔ Verdict index request verdict := by
  constructor
  · intro given
    subst given
    exact reason?_verdict index request
  · intro given
    have found := reason?_verdict index request
    generalize reason? index request = other at found
    cases given <;> cases found <;> simp_all

/-- When both versions can be compared, the only reason to sync a model that the hub holds is that
it is outdated. -/
theorem exists_outdated {index : Index} {request : Request} {reason : Reason} {entry : Entry}
    {native wanted : Version} (held : index.get? request.modelId = some entry)
    (version : entry.version? = some native)
    (requested : Version.parse? request.version = some wanted)
    (due : reason? index request = some reason) :
    ∃ hubVersion, reason = .outdated hubVersion := by
  have verdict := reason?_eq_iff_verdict.1 due
  cases verdict with
  | missing absent =>
      rw [held] at absent
      cases absent
  | hubVersionUnknown isHeld noVersion =>
      obtain rfl : entry = _ := Option.some.inj (held.symm.trans isHeld)
      rw [version] at noVersion
      cases noVersion
  | requestedVersionUnknown _ _ notRequested =>
      rw [requested] at notRequested
      cases notRequested
  | outdated =>
      exact ⟨_, rfl⟩

/-- What is held for other models does not matter. -/
theorem reason?_congr {index other : Index} {request : Request}
    (same : index.get? request.modelId = other.get? request.modelId) :
    reason? index request = reason? other request := by
  unfold reason?
  rw [same]

/-! ## Listings -/

variable {records : List Record} {request : Request}

/-- The entry held for a model that has copies is one of them. -/
theorem exists_get?_ofRecords (nonempty : copiesOf request.modelId records ≠ []) :
    ∃ held, (Index.ofRecords records).get? request.modelId = some held ∧
      held ∈ copiesOf request.modelId records := by
  cases found : (Index.ofRecords records).get? request.modelId with
  | none =>
      exact absurd (Index.get?_ofRecords_eq_none_iff.1 found) nonempty
  | some held =>
      exact ⟨held, rfl, (Index.get?_ofRecords_eq_some_iff.1 found).mem⟩

/-- If a copy has a version that can be compared, the entry held has one that is not below it. -/
theorem exists_version?_ofRecords {entry : Entry} {native : Version}
    (copy : entry ∈ copiesOf request.modelId records) (version : entry.version? = some native) :
    ∃ held heldVersion, (Index.ofRecords records).get? request.modelId = some held ∧
      held.version? = some heldVersion ∧ (native.order heldVersion).isLE = true := by
  obtain ⟨held, found, _⟩ := exists_get?_ofRecords (List.ne_nil_of_mem copy)
  have highest := Index.get?_ofRecords_eq_some_iff.1 found
  obtain ⟨heldVersion, isVersion, notHigher⟩ := highest.exists_version? copy version
  exact ⟨held, heldVersion, found, isVersion, notHigher⟩

/-- A request is left out exactly when some record satisfies it. -/
theorem reason?_ofRecords_eq_none_iff :
    reason? (Index.ofRecords records) request = none ↔
      ∃ record ∈ records, record.Satisfies request := by
  rw [exists_satisfies_iff, reason?_eq_iff_verdict]
  constructor
  · intro verdict
    cases verdict with
    | satisfied held version requested notLower =>
        have copy := (Index.get?_ofRecords_eq_some_iff.1 held).mem
        exact ⟨_, copy, _, _, version, requested, notLower⟩
  · intro met
    rcases met with ⟨entry, copy, native, wanted, version, requested, notLower⟩
    obtain ⟨held, heldVersion, found, isVersion, notHigher⟩ :=
      exists_version?_ofRecords copy version
    have heldNotLower := Version.order_isGE_iff_isLE.2 notHigher
    exact Verdict.satisfied found isVersion requested
      (Version.order_isGE_trans heldNotLower notLower)

theorem reason?_ofRecords_eq_missing_iff :
    reason? (Index.ofRecords records) request = some .missing ↔
      copiesOf request.modelId records = [] := by
  rw [reason?_eq_iff_verdict, ← Index.get?_ofRecords_eq_none_iff]
  constructor
  · intro verdict
    cases verdict with
    | missing absent =>
        exact absent
  · exact Verdict.missing

theorem reason?_ofRecords_eq_hubVersionUnknown_iff :
    reason? (Index.ofRecords records) request = some .hubVersionUnknown ↔
      copiesOf request.modelId records ≠ [] ∧
        ∀ entry ∈ copiesOf request.modelId records, entry.version? = none := by
  rw [reason?_eq_iff_verdict]
  constructor
  · intro verdict
    cases verdict with
    | hubVersionUnknown held noVersion =>
        have highest := Index.get?_ofRecords_eq_some_iff.1 held
        refine ⟨List.ne_nil_of_mem highest.mem, fun entry copy => ?_⟩
        by_contra versioned
        obtain ⟨native, version⟩ := Option.ne_none_iff_exists'.1 versioned
        obtain ⟨heldVersion, isVersion, _⟩ := highest.exists_version? copy version
        rw [noVersion] at isVersion
        cases isVersion
  · intro unknown
    rcases unknown with ⟨nonempty, noVersion⟩
    obtain ⟨held, found, copy⟩ := exists_get?_ofRecords nonempty
    exact Verdict.hubVersionUnknown found (noVersion held copy)

theorem reason?_ofRecords_eq_requestedVersionUnknown_iff :
    reason? (Index.ofRecords records) request = some .requestedVersionUnknown ↔
      (∃ entry ∈ copiesOf request.modelId records, ∃ native, entry.version? = some native) ∧
        Version.parse? request.version = none := by
  rw [reason?_eq_iff_verdict]
  constructor
  · intro verdict
    cases verdict with
    | requestedVersionUnknown held version notRequested =>
        have copy := (Index.get?_ofRecords_eq_some_iff.1 held).mem
        exact ⟨⟨_, copy, _, version⟩, notRequested⟩
  · intro unknown
    rcases unknown with ⟨⟨entry, copy, native, version⟩, notRequested⟩
    obtain ⟨held, heldVersion, found, isVersion, _⟩ := exists_version?_ofRecords copy version
    exact Verdict.requestedVersionUnknown found isVersion notRequested

theorem reason?_ofRecords_eq_outdated_iff {hubVersion : String} :
    reason? (Index.ofRecords records) request = some (.outdated hubVersion) ↔
      ∃ entry native wanted,
        IsFirstHighest Entry.version? (copiesOf request.modelId records) entry ∧
          entry.version? = some native ∧ entry.recordedVersion? = some hubVersion ∧
          Version.parse? request.version = some wanted ∧ native.order wanted = .lt := by
  rw [reason?_eq_iff_verdict]
  constructor
  · intro verdict
    cases verdict with
    | outdated held version recorded requested lower =>
        have highest := Index.get?_ofRecords_eq_some_iff.1 held
        exact ⟨_, _, _, highest, version, recorded, requested, lower⟩
  · intro outdated
    rcases outdated with ⟨entry, native, wanted, highest, version, recorded, requested, lower⟩
    exact Verdict.outdated (Index.get?_ofRecords_eq_some_iff.2 highest) version recorded
      requested lower

/-! ## Decisions -/

/-- The request of a decision with its ordinal. -/
def numbered (decision : Decision) : Nat × Request := (decision.ordinal, decision.request)

theorem eq_of_numbered {decision other : Decision}
    (sameNumbered : decision.numbered = other.numbered)
    (sameReason : decision.reason = other.reason) : decision = other := by
  cases decision
  cases other
  simp_all [numbered]

theorem mem_reconcile_iff {index : Index} {requests : List (Nat × Request)}
    {decision : Decision} :
    decision ∈ reconcile index requests ↔
      decision.numbered ∈ requests ∧ reason? index decision.request = some decision.reason := by
  simp only [reconcile, List.mem_filterMap, of?, Option.map_eq_some_iff]
  constructor
  · intro decided
    rcases decided with ⟨⟨ordinal, request⟩, member, reason, due, rfl⟩
    exact ⟨member, due⟩
  · intro decided
    rcases decided with ⟨member, due⟩
    exact ⟨decision.numbered, member, decision.reason, due, rfl⟩

/-- The decided requests are those with a reason, in their order. -/
theorem map_numbered_reconcile (index : Index) (requests : List (Nat × Request)) :
    (reconcile index requests).map numbered =
      requests.filter fun item => (reason? index item.2).isSome := by
  induction requests with
  | nil =>
      rfl
  | cons item rest inductionHypothesis =>
      unfold reconcile at inductionHypothesis ⊢
      cases due : reason? index item.2 with
      | none =>
          simp [of?, due, inductionHypothesis]
      | some reason =>
          simp [of?, due, numbered, inductionHypothesis]

/-- The requests that are decided on are those that no record satisfies, unchanged and in their
order, and each decision has the reason that is due for its request. -/
theorem reconcile_ofRecords (records : List Record) (requests : List (Nat × Request)) :
    (reconcile (Index.ofRecords records) requests).map numbered =
        requests.filter (fun item => ¬ ∃ record ∈ records, record.Satisfies item.2) ∧
      ∀ decision ∈ reconcile (Index.ofRecords records) requests,
        decision.reason.IsDue records decision.request := by
  constructor
  · rw [map_numbered_reconcile]
    refine List.filter_congr fun item _ => ?_
    rw [Bool.eq_iff_iff, Option.isSome_iff_ne_none, decide_eq_true_eq,
      ← reason?_ofRecords_eq_none_iff]
  · intro decision member
    obtain ⟨_, due⟩ := mem_reconcile_iff.1 member
    have same (reason : Reason) : decision.reason = reason ↔
        reason? (Index.ofRecords records) decision.request = some reason := by
      rw [due, Option.some.injEq]
    exact
      { missing_iff := (same _).trans reason?_ofRecords_eq_missing_iff
        hubVersionUnknown_iff := (same _).trans reason?_ofRecords_eq_hubVersionUnknown_iff
        requestedVersionUnknown_iff :=
          (same _).trans reason?_ofRecords_eq_requestedVersionUnknown_iff
        outdated_iff := fun _ => (same _).trans reason?_ofRecords_eq_outdated_iff }

/-- A listing with an old copy of a model, two newer copies at equal versions, and one whose
version is none. -/
def listedFourTimes : List Record :=
  [.ofCopy "old" ⟨"m", "0.9"⟩, .ofCopy "first" ⟨"m", " 1.0 "⟩,
    .ofCopy "second" ⟨"m", "1.0.0"⟩, .ofCopy "broken" ⟨"m", "latest"⟩]

theorem reconcile_ofRecords_listedFourTimes :
    (⟨7, ⟨"m", "2"⟩, .outdated "1.0"⟩ : Decision) ∈
        reconcile (Index.ofRecords listedFourTimes) [(7, ⟨"m", "2"⟩), (7, ⟨"m", "1"⟩)] ∧
      (Reason.outdated "1.0").IsDue listedFourTimes ⟨"m", "2"⟩ :=
  ⟨by decide, (reconcile_ofRecords listedFourTimes [(7, ⟨"m", "2"⟩), (7, ⟨"m", "1"⟩)]).2
    ⟨7, ⟨"m", "2"⟩, .outdated "1.0"⟩ (by decide)⟩

end Decision

end ModelHub

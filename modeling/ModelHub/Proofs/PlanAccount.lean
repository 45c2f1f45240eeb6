import ModelHub.Proofs.PlanFates

/-!
# A plan accounts for every request

The ordinal of each request of a batch stands in exactly one place: among the decisions, among
the requests that were not resolved, or in neither when the hub satisfies the resolved request.
-/

namespace ModelHub

/-- The index holds the model of the request at the requested version or at a newer one. -/
def Index.Satisfies (index : Index) (request : Request) : Prop :=
  ∃ native wanted, index.version? request.modelId = some native ∧
    Version.parse? request.version = some wanted ∧ (native.order wanted).isGE = true

/-- A request is left out exactly when the index satisfies it. -/
theorem Decision.reason?_eq_none_iff_satisfies {index : Index} {request : Request} :
    reason? index request = none ↔ index.Satisfies request := by
  rw [reason?_eq_iff_verdict]
  unfold Index.Satisfies Index.version?
  constructor
  · intro verdict
    cases verdict with
    | satisfied held version requested notLower =>
        refine ⟨_, _, ?_, requested, notLower⟩
        rw [held, Option.bind_some]
        exact version
  · intro satisfies
    rcases satisfies with ⟨native, wanted, version, requested, notLower⟩
    obtain ⟨entry, held, isVersion⟩ := Option.bind_eq_some_iff.1 version
    exact Verdict.satisfied held isVersion requested notLower

namespace Plan

/-- No decision and no report of the plan is on the request at the ordinal. -/
def LeavesOut (plan : Plan) (ordinal : Nat) : Prop :=
  (∀ decision ∈ plan.decisions, decision.ordinal ≠ ordinal) ∧
    ∀ item ∈ plan.unresolved, item.ordinal ≠ ordinal

/-- The plan tells, for each request of a batch, what becomes of it with a catalog and a listing
of the hub, and it tells it once. -/
structure Accounts (plan : Plan) (catalog : String → Except Failure String)
    (records : List Record) (requests : List Request) : Prop where
  mem_unresolved_iff (item : Unresolved) : item ∈ plan.unresolved ↔
    requests[item.ordinal]? = some item.request ∧ item.request.isLatest = true ∧
      ∃ failure, catalog item.request.modelId = .error failure ∧
        item.error = .ofFailure item.request.modelId failure
  unresolved_increasing : (plan.unresolved.map Unresolved.ordinal).Pairwise (· < ·)
  mem_decisions_iff (decision : Decision) : decision ∈ plan.decisions ↔
    ∃ request, requests[decision.ordinal]? = some request ∧
      request.ResolvesTo catalog decision.request ∧
        Decision.reason? (Index.ofRecords records) decision.request = some decision.reason
  decisions_increasing : (plan.decisions.map Decision.ordinal).Pairwise (· < ·)
  disjoint : ∀ decision ∈ plan.decisions, ∀ item ∈ plan.unresolved,
    decision.ordinal ≠ item.ordinal
  leavesOut_iff {ordinal : Nat} {request : Request} (found : requests[ordinal]? = some request) :
    plan.LeavesOut ordinal ↔
      ∃ resolved, request.ResolvesTo catalog resolved ∧
        (Index.ofRecords records).Satisfies resolved
  isComplete_iff : plan.isComplete = true ↔
    ∀ request ∈ requests, request.isLatest = true →
      ∃ version, catalog request.modelId = .ok version

/-! ## Plans that fates make up -/

section OfFates

variable {fates : List Fate}

theorem mem_decisions_ofFates_iff {decision : Decision} :
    decision ∈ (ofFates fates).decisions ↔
      fates[decision.ordinal]? = some (.decided decision.request decision.reason) := by
  simp [ofFates, Fate.mem_collect_zero_iff Fate.ordinal_of_decision?,
    Fate.decision?_eq_some_iff]

theorem mem_unresolved_ofFates_iff {item : Unresolved} :
    item ∈ (ofFates fates).unresolved ↔
      fates[item.ordinal]? = some (.unresolved item.request item.error) := by
  simp [ofFates, Fate.mem_collect_zero_iff Fate.ordinal_of_unresolved?,
    Fate.unresolved?_eq_some_iff]

/-- The requests that are left out are those whose fate is that they are satisfied. -/
theorem leavesOut_ofFates_iff {ordinal : Nat} {fate : Fate} (found : fates[ordinal]? = some fate) :
    (ofFates fates).LeavesOut ordinal ↔ fate = .satisfied := by
  constructor
  · intro leavesOut
    rcases leavesOut with ⟨noDecision, noReport⟩
    cases fate with
    | decided resolved reason =>
        exact absurd rfl (noDecision ⟨ordinal, resolved, reason⟩
          (mem_decisions_ofFates_iff.2 found))
    | unresolved request error =>
        exact absurd rfl (noReport ⟨ordinal, request, error⟩
          (mem_unresolved_ofFates_iff.2 found))
    | satisfied =>
        rfl
  · intro isSatisfied
    subst isSatisfied
    constructor
    · intro decision member sameOrdinal
      subst sameOrdinal
      cases found.symm.trans (mem_decisions_ofFates_iff.1 member)
    · intro item member sameOrdinal
      subst sameOrdinal
      cases found.symm.trans (mem_unresolved_ofFates_iff.1 member)

/-- Nothing is both decided on and not resolved. -/
theorem disjoint_ofFates {decision : Decision} {item : Unresolved}
    (decided : decision ∈ (ofFates fates).decisions)
    (unresolved : item ∈ (ofFates fates).unresolved) : decision.ordinal ≠ item.ordinal := by
  intro sameOrdinal
  have decidedFate := mem_decisions_ofFates_iff.1 decided
  rw [sameOrdinal] at decidedFate
  cases decidedFate.symm.trans (mem_unresolved_ofFates_iff.1 unresolved)

end OfFates

/-! ## The plan of a batch -/

section OfBatch

variable {catalog : String → Except Failure String} {records : List Record}
  {requests : List Request}

theorem mem_unresolved_fatesOf_iff {item : Unresolved} :
    item ∈ (ofFates (fatesOf catalog records requests)).unresolved ↔
      requests[item.ordinal]? = some item.request ∧ item.request.isLatest = true ∧
        ∃ failure, catalog item.request.modelId = .error failure ∧
          item.error = .ofFailure item.request.modelId failure := by
  simp only [mem_unresolved_ofFates_iff, fatesOf, List.getElem?_map, Option.map_eq_some_iff,
    Fate.of_eq_unresolved_iff]
  constructor
  · intro reported
    rcases reported with ⟨request, found, rfl, fails⟩
    exact ⟨found, fails⟩
  · intro unanswered
    rcases unanswered with ⟨found, fails⟩
    exact ⟨item.request, found, rfl, fails⟩

theorem mem_decisions_fatesOf_iff {decision : Decision} :
    decision ∈ (ofFates (fatesOf catalog records requests)).decisions ↔
      ∃ request, requests[decision.ordinal]? = some request ∧
        request.ResolvesTo catalog decision.request ∧
          Decision.reason? (Index.ofRecords records) decision.request =
            some decision.reason := by
  simp only [mem_decisions_ofFates_iff, fatesOf, List.getElem?_map, Option.map_eq_some_iff,
    Fate.of_eq_decided_iff]

/-- A plan is complete when every lookup for a batch gave a version. -/
theorem isComplete_fatesOf_iff :
    (ofFates (fatesOf catalog records requests)).isComplete = true ↔
      ∀ request ∈ requests, request.isLatest = true →
        ∃ version, catalog request.modelId = .ok version := by
  rw [isComplete, List.isEmpty_iff, List.eq_nil_iff_forall_not_mem]
  constructor
  · intro noReport request member latest
    cases answer : catalog request.modelId with
    | ok version =>
        exact ⟨version, rfl⟩
    | error failure =>
        obtain ⟨ordinal, found⟩ := List.mem_iff_getElem?.1 member
        refine absurd (mem_unresolved_fatesOf_iff.2 ?_)
          (noReport ⟨ordinal, request, .ofFailure request.modelId failure⟩)
        exact ⟨found, latest, failure, answer, rfl⟩
  · intro answered item member
    obtain ⟨found, latest, failure, fails, _⟩ := mem_unresolved_fatesOf_iff.1 member
    obtain ⟨version, answer⟩ := answered item.request (List.mem_of_getElem? found) latest
    cases fails.symm.trans answer

theorem accounts_fatesOf :
    (ofFates (fatesOf catalog records requests)).Accounts catalog records requests where
  mem_unresolved_iff _ := mem_unresolved_fatesOf_iff
  unresolved_increasing := Fate.collect_increasing Fate.ordinal_of_unresolved? 0 _
  mem_decisions_iff _ := mem_decisions_fatesOf_iff
  decisions_increasing := Fate.collect_increasing Fate.ordinal_of_decision? 0 _
  disjoint _ decided _ unresolved := disjoint_ofFates decided unresolved
  leavesOut_iff found := by
    simp only [leavesOut_ofFates_iff (fatesOf_getElem? found), Fate.of_eq_satisfied_iff,
      Decision.reason?_eq_none_iff_satisfies]
  isComplete_iff := isComplete_fatesOf_iff

end OfBatch

/-- A listing that fails is reported whatever the catalog answers. With a listing there is a plan,
and it accounts for every request of the batch. -/
theorem planFor_accounts (catalog : String → Except Failure String) (requests : List Request) :
    (∀ failure, planFor catalog (.error failure) requests = .error (.listing failure)) ∧
      ∀ records, ∃ plan, planFor catalog (.ok records) requests = .ok plan ∧
        plan.Accounts catalog records requests :=
  ⟨fun _ => rfl, fun records => ⟨_, planFor_ok catalog records requests, accounts_fatesOf⟩⟩

/-- A catalog that knows one model, does not answer for another, and knows no others. -/
def answersForOne : String → Except Failure String
  | "known" => .ok "2.0"
  | "slow" => .error (.ofKind .timedOut)
  | _ => .error (.ofKind .notFound)

/-- A batch in which requests that are decided on, satisfied and not resolved take turns. -/
def mixedBatch : List Request :=
  [.latest "lost", ⟨"known", "1"⟩, .latest "known", .latest "slow", ⟨"lost", "1"⟩]

theorem planFor_accounts_mixedBatch :
    planFor answersForOne (.error (.ofKind .connection)) mixedBatch =
        .error (.listing (.ofKind .connection)) ∧
      ∃ plan, planFor answersForOne (.ok [.ofCopy "copy" ⟨"known", "1.0"⟩]) mixedBatch =
          .ok plan ∧
        plan.Accounts answersForOne [.ofCopy "copy" ⟨"known", "1.0"⟩] mixedBatch ∧
          plan.decisions =
            [⟨2, ⟨"known", "2.0"⟩, .outdated "1.0"⟩, ⟨4, ⟨"lost", "1"⟩, .missing⟩] ∧
          plan.unresolved =
            [⟨0, .latest "lost", .notInCatalog "lost"⟩,
              ⟨3, .latest "slow", .lookupFailed "slow" (.ofKind .timedOut)⟩] ∧
          plan.LeavesOut 1 := by
  obtain ⟨failed, listed⟩ := planFor_accounts answersForOne mixedBatch
  obtain ⟨plan, made, accounts⟩ := listed [.ofCopy "copy" ⟨"known", "1.0"⟩]
  refine ⟨failed _, plan, made, accounts, ?_⟩
  cases made
  refine ⟨by decide, by decide, (accounts.leavesOut_iff rfl).2 ?_⟩
  exact ⟨⟨"known", "1"⟩, .inl ⟨by decide, rfl⟩,
    Decision.reason?_eq_none_iff_satisfies.1 (by decide)⟩

end Plan

end ModelHub

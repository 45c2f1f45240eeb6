import ModelHub.Proofs.PlanFates

/-!
# Requests are planned independently

What becomes of a request depends on the request, on the listing of the hub and on the answer of
the catalog for its model. The other requests of the batch, their order and the answers for other
models change neither its fate nor its ordinal.
-/

namespace ModelHub

/-! ## What is alike -/

/-- The failures are of one kind and read the same. -/
structure Failure.Alike (failure other : Failure) : Prop where
  kind : failure.kind = other.kind
  message : failure.message = other.message

/-- The answers give the same version, or failures that are alike. -/
inductive Resolution.AnswersAlike : Except Failure String → Except Failure String → Prop
  | ok (version : String) : AnswersAlike (.ok version) (.ok version)
  | error {failure other : Failure} :
      failure.Alike other → AnswersAlike (.error failure) (.error other)

/-- The same is said of the same model, and the failures behind it are alike. -/
inductive ResolveError.Alike : ResolveError → ResolveError → Prop
  | notInCatalog (modelId : String) : Alike (.notInCatalog modelId) (.notInCatalog modelId)
  | lookupFailed (modelId : String) {failure other : Failure} :
      failure.Alike other → Alike (.lookupFailed modelId failure) (.lookupFailed modelId other)

/-- The fates are the same, but for errors that are alike. -/
inductive Fate.Alike : Fate → Fate → Prop
  | decided (resolved : Request) (reason : Reason) :
      Alike (.decided resolved reason) (.decided resolved reason)
  | unresolved (request : Request) {error other : ResolveError} :
      error.Alike other → Alike (.unresolved request error) (.unresolved request other)
  | satisfied : Alike .satisfied .satisfied

theorem ResolveError.Alike.refl (error : ResolveError) : error.Alike error := by
  cases error with
  | notInCatalog modelId =>
      exact notInCatalog modelId
  | lookupFailed modelId failure =>
      exact lookupFailed modelId ⟨rfl, rfl⟩

theorem Fate.Alike.refl (fate : Fate) : fate.Alike fate := by
  cases fate with
  | decided resolved reason =>
      exact decided resolved reason
  | unresolved request error =>
      exact unresolved request (ResolveError.Alike.refl error)
  | satisfied =>
      exact satisfied

theorem ResolveError.ofFailure_alike {failure other : Failure} (modelId : String)
    (alike : failure.Alike other) :
    (ofFailure modelId failure).Alike (ofFailure modelId other) := by
  unfold ofFailure
  rw [← alike.kind]
  split
  · exact Alike.notInCatalog modelId
  · exact Alike.lookupFailed modelId alike

/-! ## The fate of one request -/

section OneRequest

variable {catalog otherCatalog : String → Except Failure String} {index : Index}
  {request : Request}

/-- The catalog is asked for the model of the request alone, and only if the request names no
version. -/
theorem Resolution.resolveFrom_congr
    (same : request.isLatest = true → catalog request.modelId = otherCatalog request.modelId) :
    resolveFrom catalog request = resolveFrom otherCatalog request := by
  cases latest : request.isLatest with
  | false =>
      rw [resolveFrom_of_concrete latest, resolveFrom_of_concrete latest]
  | true =>
      rw [resolveFrom_of_latest latest, resolveFrom_of_latest latest, same latest]

theorem Fate.of_congr
    (same : request.isLatest = true → catalog request.modelId = otherCatalog request.modelId) :
    of catalog index request = of otherCatalog index request := by
  unfold of
  rw [Resolution.resolveFrom_congr same]

/-- Catalogs that answer alike for a request give it fates that are alike. -/
theorem Fate.of_alike
    (alike : request.isLatest = true →
      Resolution.AnswersAlike (catalog request.modelId) (otherCatalog request.modelId)) :
    (of catalog index request).Alike (of otherCatalog index request) := by
  cases latest : request.isLatest with
  | false =>
      have same : of catalog index request = of otherCatalog index request :=
        of_congr fun isLatest => absurd isLatest (by simp [latest])
      rw [same]
      exact Alike.refl _
  | true =>
      have answers := alike latest
      generalize answer : catalog request.modelId = found at answers
      generalize otherAnswer : otherCatalog request.modelId = otherFound at answers
      cases answers with
      | ok version =>
          have same : of catalog index request = of otherCatalog index request :=
            of_congr fun _ => answer.trans otherAnswer.symm
          rw [same]
          exact Alike.refl _
      | error failuresAlike =>
          rw [of_eq_unresolved_iff.2 ⟨rfl, latest, _, answer, rfl⟩,
            of_eq_unresolved_iff.2 ⟨rfl, latest, _, otherAnswer, rfl⟩]
          exact Alike.unresolved request
            (ResolveError.ofFailure_alike request.modelId failuresAlike)

end OneRequest

/-! ## Plans -/

/-- The same decision at an ordinal that is higher by a number. -/
def Decision.raise (count : Nat) (decision : Decision) : Decision :=
  { decision with ordinal := decision.ordinal + count }

/-- The same report at an ordinal that is higher by a number. -/
def Unresolved.raise (count : Nat) (item : Unresolved) : Unresolved :=
  { item with ordinal := item.ordinal + count }

theorem Fate.decision?_add (count ordinal : Nat) (fate : Fate) :
    fate.decision? (ordinal + count) = (fate.decision? ordinal).map (Decision.raise count) := by
  cases fate <;> rfl

theorem Fate.unresolved?_add (count ordinal : Nat) (fate : Fate) :
    fate.unresolved? (ordinal + count) =
      (fate.unresolved? ordinal).map (Unresolved.raise count) := by
  cases fate <;> rfl

namespace Plan

/-- All that the plan says of the request at the ordinal is that it has the fate. -/
def Gives (plan : Plan) (ordinal : Nat) (fate : Fate) : Prop :=
  plan.decisions.filter (fun decision => decision.ordinal = ordinal) =
      (fate.decision? ordinal).toList ∧
    plan.unresolved.filter (fun item => item.ordinal = ordinal) =
      (fate.unresolved? ordinal).toList

/-- A plan for the first requests of a batch, as many as the number says, followed by a plan for
the others. -/
def followedBy (plan : Plan) (count : Nat) (rest : Plan) : Plan :=
  { decisions := plan.decisions ++ rest.decisions.map (Decision.raise count)
    unresolved := plan.unresolved ++ rest.unresolved.map (Unresolved.raise count) }

theorem gives_ofFates {fates : List Fate} {ordinal : Nat} {fate : Fate}
    (found : fates[ordinal]? = some fate) : (ofFates fates).Gives ordinal fate := by
  have decisions := Fate.filter_collect Fate.ordinal_of_decision? found 0
  have unresolved := Fate.filter_collect Fate.ordinal_of_unresolved? found 0
  rw [Nat.zero_add] at decisions unresolved
  exact ⟨decisions, unresolved⟩

theorem ofFates_append (fates others : List Fate) :
    ofFates (fates ++ others) = (ofFates fates).followedBy fates.length (ofFates others) := by
  simp only [ofFates, followedBy, Fate.collect_append,
    Fate.collect_add _ (Fate.decision?_add fates.length),
    Fate.collect_add _ (Fate.unresolved?_add fates.length)]

section Batches

variable {catalog : String → Except Failure String} {records : List Record}
  {requests others : List Request}

theorem gives_fatesOf {ordinal : Nat} {request : Request}
    (found : requests[ordinal]? = some request) :
    (ofFates (fatesOf catalog records requests)).Gives ordinal
      (Fate.of catalog (Index.ofRecords records) request) :=
  gives_ofFates (fatesOf_getElem? found)

theorem fatesOf_append :
    ofFates (fatesOf catalog records (requests ++ others)) =
      (ofFates (fatesOf catalog records requests)).followedBy requests.length
        (ofFates (fatesOf catalog records others)) := by
  simp only [fatesOf, List.map_append, ofFates_append, List.length_map]

end Batches

/-- With one listing of the hub, a request has the same fate wherever it stands in whatever batch,
if the catalogs answer alike for it. So batches are planned one after the other, and a lookup that
fails for one model leaves the requests that do not need it as they were. -/
theorem planFor_independent (records : List Record) :
    (∀ (catalog otherCatalog : String → Except Failure String) (requests others : List Request)
        (ordinal otherOrdinal : Nat) (request : Request),
      requests[ordinal]? = some request → others[otherOrdinal]? = some request →
      (request.isLatest = true →
        Resolution.AnswersAlike (catalog request.modelId) (otherCatalog request.modelId)) →
      ∃ plan otherPlan fate otherFate,
        planFor catalog (.ok records) requests = .ok plan ∧
          planFor otherCatalog (.ok records) others = .ok otherPlan ∧
          plan.Gives ordinal fate ∧ otherPlan.Gives otherOrdinal otherFate ∧
          fate.Alike otherFate) ∧
      (∀ (catalog : String → Except Failure String) (requests others : List Request),
        ∃ plan rest, planFor catalog (.ok records) requests = .ok plan ∧
          planFor catalog (.ok records) others = .ok rest ∧
          planFor catalog (.ok records) (requests ++ others) =
            .ok (plan.followedBy requests.length rest)) ∧
      ∀ (catalog : String → Except Failure String) (requests : List Request) (modelId : String)
        (failure : Failure),
        ∃ plan failed, planFor catalog (.ok records) requests = .ok plan ∧
          planFor (Function.update catalog modelId (.error failure)) (.ok records) requests =
            .ok failed ∧
          ∀ ordinal request, requests[ordinal]? = some request →
            ¬ (request.isLatest = true ∧ request.modelId = modelId) →
            ∃ fate, plan.Gives ordinal fate ∧ failed.Gives ordinal fate := by
  refine ⟨?_, ?_, ?_⟩
  · intro catalog otherCatalog requests others ordinal otherOrdinal request found isFound alike
    exact ⟨_, _, _, _, planFor_ok catalog records requests, planFor_ok otherCatalog records others,
      gives_fatesOf found, gives_fatesOf isFound, Fate.of_alike alike⟩
  · intro catalog requests others
    refine ⟨_, _, planFor_ok catalog records requests, planFor_ok catalog records others, ?_⟩
    rw [planFor_ok, fatesOf_append]
  · intro catalog requests modelId failure
    refine ⟨_, _, planFor_ok catalog records requests, planFor_ok _ records requests, ?_⟩
    intro ordinal request found notAsked
    refine ⟨_, gives_fatesOf found, ?_⟩
    have same : request.isLatest = true →
        catalog request.modelId =
          Function.update catalog modelId (.error failure) request.modelId := by
      intro latest
      have otherModel : request.modelId ≠ modelId := fun isModel => notAsked ⟨latest, isModel⟩
      exact (Function.update_of_ne otherModel _ catalog).symm
    rw [Fate.of_congr same]
    exact gives_fatesOf found

/-- A catalog that has a version of one model and fails for every other. -/
def knowsOne (failure : Failure) (modelId : String) : Except Failure String :=
  if modelId = "known" then .ok "2" else .error failure

theorem planFor_independent_knowsOne :
    (∃ plan otherPlan fate otherFate,
      planFor (knowsOne (.ofKind .timedOut)) (.ok []) [.latest "slow", .latest "known"] =
          .ok plan ∧
        planFor (knowsOne (.ofKind .notFound)) (.ok []) [.latest "known", ⟨"lost", "1"⟩] =
          .ok otherPlan ∧
        plan.Gives 1 fate ∧ otherPlan.Gives 0 otherFate ∧ fate.Alike otherFate) ∧
      ∃ plan failed,
        planFor (knowsOne (.ofKind .timedOut)) (.ok []) [.latest "slow", .latest "known"] =
            .ok plan ∧
          planFor (Function.update (knowsOne (.ofKind .timedOut)) "slow"
            (.error (.ofKind .notFound))) (.ok []) [.latest "slow", .latest "known"] =
            .ok failed ∧
          ∃ fate, plan.Gives 1 fate ∧ failed.Gives 1 fate := by
  obtain ⟨sameFate, _, unaffected⟩ := planFor_independent []
  refine ⟨sameFate _ _ _ _ 1 0 (.latest "known") rfl rfl fun _ => ?_, ?_⟩
  · exact Resolution.AnswersAlike.ok "2"
  · obtain ⟨plan, failed, made, madeFailing, others⟩ :=
      unaffected (knowsOne (.ofKind .timedOut)) [.latest "slow", .latest "known"] "slow"
        (.ofKind .notFound)
    exact ⟨plan, failed, made, madeFailing, others 1 (.latest "known") rfl (by decide)⟩

end Plan

end ModelHub

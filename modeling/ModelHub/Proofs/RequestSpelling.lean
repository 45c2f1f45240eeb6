import Mathlib.Data.List.Forall2
import ModelHub.ModelList
import ModelHub.Proofs.PlanFates
import ModelHub.Proofs.Trimming

/-!
# The spelling of requests

Requests for the same model are planned alike when both ask for the latest version, in whatever
spelling, or when their versions are the same after trimming. So it does not matter whether a batch
is given as model specs on a command line or as the entries of a model list.
-/

namespace ModelHub

/-! ## Requests -/

namespace Request

/-- The requests are for the same model, both at its latest version or at versions that are the same
after trimming. -/
structure AsksAlike (request other : Request) : Prop where
  modelId : request.modelId = other.modelId
  version : (request.isLatest = true ∧ other.isLatest = true) ∨
    Text.trim request.version = Text.trim other.version

variable {request other : Request}

theorem isLatest_eq_of_trim_eq (same : Text.trim request.version = Text.trim other.version) :
    request.isLatest = other.isLatest := by
  simp only [isLatest, isLatestMark, same]

theorem AsksAlike.isLatest_eq (alike : request.AsksAlike other) :
    request.isLatest = other.isLatest := by
  rcases alike.version with ⟨latest, otherLatest⟩ | same
  · rw [latest, otherLatest]
  · exact isLatest_eq_of_trim_eq same

/-- Where a version is named, both name it, but for blank characters around it. -/
theorem AsksAlike.trim_eq (alike : request.AsksAlike other) (concrete : request.isLatest = false) :
    Text.trim request.version = Text.trim other.version := by
  rcases alike.version with ⟨latest, _⟩ | same
  · rw [latest] at concrete
    cases concrete
  · exact same

end Request

/-- The hub is compared with what the version of a request means, not with how it is written. -/
theorem Decision.reason?_of_trim_eq (index : Index) {request other : Request}
    (sameModel : request.modelId = other.modelId)
    (sameVersion : Text.trim request.version = Text.trim other.version) :
    reason? index request = reason? index other := by
  have sameParsed : Version.parse? request.version = Version.parse? other.version := by
    rw [← Version.parse?_trim, sameVersion, Version.parse?_trim]
  simp only [reason?, Version.compareTexts, sameModel, sameParsed]

/-! ## Fates -/

/-- What becomes of two requests is the same but for how they are spelled: a version that was looked
up is the same, and one that was named is the same after trimming. -/
inductive Fate.SpelledAlike (request other : Request) : Fate → Fate → Prop
  | decided {resolved otherResolved : Request} (reason : Reason) :
      resolved.modelId = otherResolved.modelId →
      Text.trim resolved.version = Text.trim otherResolved.version →
      (request.isLatest = true → resolved = otherResolved) →
      SpelledAlike request other (.decided resolved reason) (.decided otherResolved reason)
  | unresolved (error : ResolveError) :
      SpelledAlike request other (.unresolved request error) (.unresolved other error)
  | satisfied : SpelledAlike request other .satisfied .satisfied

theorem Fate.of_spelledAlike {request other : Request} (alike : request.AsksAlike other)
    (catalog : String → Except Failure String) (index : Index) :
    SpelledAlike request other (of catalog index request) (of catalog index other) := by
  have sameModel := alike.modelId
  have sameLatest := alike.isLatest_eq
  unfold of
  cases latest : request.isLatest with
  | true =>
      rw [latest] at sameLatest
      rw [Resolution.resolveFrom_of_latest latest,
        Resolution.resolveFrom_of_latest sameLatest.symm, ← sameModel]
      cases catalog request.modelId with
      | error failure =>
          rw [Resolution.ofAnswer_error, Resolution.ofAnswer_error, ← sameModel]
          exact SpelledAlike.unresolved _
      | ok version =>
          have sameResolved : other.withVersion version = request.withVersion version := by
            rw [Request.withVersion, Request.withVersion, sameModel]
          simp only [Resolution.ofAnswer, sameResolved]
          cases Decision.reason? index (request.withVersion version) with
          | none =>
              exact SpelledAlike.satisfied
          | some reason =>
              exact SpelledAlike.decided reason rfl rfl fun _ => rfl
  | false =>
      -- Nothing is looked up, and the hub is compared with what both versions mean.
      rw [latest] at sameLatest
      have sameVersion := alike.trim_eq latest
      rw [Resolution.resolveFrom_of_concrete latest,
        Resolution.resolveFrom_of_concrete sameLatest.symm]
      simp only [← Decision.reason?_of_trim_eq index sameModel sameVersion]
      cases Decision.reason? index request with
      | none =>
          exact SpelledAlike.satisfied
      | some reason =>
          refine SpelledAlike.decided reason sameModel sameVersion fun isLatest => ?_
          rw [latest] at isLatest
          cases isLatest

/-! ## Plans -/

/-- The decisions are at the same ordinal, for the same reason and on the same model, at versions
that are the same after trimming, and the same throughout where the batch has a request for the
latest version. -/
structure Decision.SpelledAlike (requests : List Request) (decision other : Decision) : Prop where
  ordinal : decision.ordinal = other.ordinal
  reason : decision.reason = other.reason
  modelId : decision.request.modelId = other.request.modelId
  version : Text.trim decision.request.version = Text.trim other.request.version
  lookedUp {request : Request} : requests[decision.ordinal]? = some request →
    request.isLatest = true → decision = other

/-- The reports are of the same error at the same ordinal. -/
structure Unresolved.SpelledAlike (item other : Unresolved) : Prop where
  ordinal : item.ordinal = other.ordinal
  error : item.error = other.error
  request : item.request.AsksAlike other.request

namespace Plan

/-- The plans for two batches, the first of which is given, decide and report alike. -/
structure SpelledAlike (requests : List Request) (plan other : Plan) : Prop where
  decisions : List.Forall₂ (Decision.SpelledAlike requests) plan.decisions other.decisions
  unresolved : List.Forall₂ Unresolved.SpelledAlike plan.unresolved other.unresolved

/-- There are plans that are alike, or there is none for the same reason. -/
inductive MadeAlike (requests : List Request) : Except Error Plan → Except Error Plan → Prop
  | failed (error : Error) : MadeAlike requests (.error error) (.error error)
  | made {plan other : Plan} :
      plan.SpelledAlike requests other → MadeAlike requests (.ok plan) (.ok other)

variable {requests others : List Request}

/-- The requests of both batches stand in pairs, each with the ordinal of both. -/
theorem forall₂_zipIdx (alike : List.Forall₂ Request.AsksAlike requests others) :
    List.Forall₂ (fun item other => item.2 = other.2 ∧ requests[item.2]? = some item.1 ∧
      item.1.AsksAlike other.1) requests.zipIdx others.zipIdx := by
  rw [List.forall₂_iff_get] at alike ⊢
  obtain ⟨sameLength, pairs⟩ := alike
  refine ⟨by simpa using sameLength, fun place before otherBefore => ?_⟩
  rw [List.length_zipIdx] at before otherBefore
  have pair := pairs place before otherBefore
  simpa [before] using pair

/-- Reports that are alike for fates that are alike make up rows of reports that are alike. -/
theorem forall₂_collect_fatesOf {report : Type} {reportOf : Nat → Fate → Option report}
    {related : report → report → Prop} (catalog : String → Except Failure String)
    (records : List Record) (alike : List.Forall₂ Request.AsksAlike requests others)
    (reportsAlike : ∀ ordinal request other fate otherFate, requests[ordinal]? = some request →
      request.AsksAlike other → Fate.SpelledAlike request other fate otherFate →
      Option.Rel related (reportOf ordinal fate) (reportOf ordinal otherFate)) :
    List.Forall₂ related (Fate.collect reportOf 0 (fatesOf catalog records requests))
      (Fate.collect reportOf 0 (fatesOf catalog records others)) := by
  rw [collect_fatesOf, collect_fatesOf]
  refine List.rel_filterMap ?_ (forall₂_zipIdx alike)
  intro item other both
  obtain ⟨request, ordinal⟩ := item
  obtain ⟨otherRequest, otherOrdinal⟩ := other
  obtain ⟨rfl, isRequest, asksAlike⟩ := both
  exact reportsAlike _ _ _ _ _ isRequest asksAlike (Fate.of_spelledAlike asksAlike catalog _)

theorem ofFates_spelledAlike (catalog : String → Except Failure String) (records : List Record)
    (alike : List.Forall₂ Request.AsksAlike requests others) :
    (ofFates (fatesOf catalog records requests)).SpelledAlike requests
      (ofFates (fatesOf catalog records others)) where
  decisions := by
    refine forall₂_collect_fatesOf catalog records alike ?_
    intro ordinal request other fate otherFate isRequest _ fates
    cases fates with
    | decided reason sameModel sameVersion lookedUp =>
        refine Option.Rel.some ⟨rfl, rfl, sameModel, sameVersion, fun isFound latest => ?_⟩
        obtain rfl := Option.some.inj (isRequest.symm.trans isFound)
        rw [lookedUp latest]
    | unresolved error =>
        exact Option.Rel.none
    | satisfied =>
        exact Option.Rel.none
  unresolved := by
    refine forall₂_collect_fatesOf catalog records alike ?_
    intro ordinal request other fate otherFate _ asksAlike fates
    cases fates with
    | decided reason sameModel sameVersion lookedUp =>
        exact Option.Rel.none
    | unresolved error =>
        exact Option.Rel.some ⟨rfl, rfl, asksAlike⟩
    | satisfied =>
        exact Option.Rel.none

/-- Batches of requests that ask alike are planned alike. -/
theorem planFor_madeAlike (catalog : String → Except Failure String)
    (listing : Except Failure (List Record))
    (alike : List.Forall₂ Request.AsksAlike requests others) :
    MadeAlike requests (planFor catalog listing requests) (planFor catalog listing others) := by
  cases listing with
  | error failure =>
      exact MadeAlike.failed (.listing failure)
  | ok records =>
      rw [planFor_ok, planFor_ok]
      exact MadeAlike.made (ofFates_spelledAlike catalog records alike)

end Plan

end ModelHub

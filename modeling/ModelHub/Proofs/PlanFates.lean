import ModelHub.Plan
import ModelHub.Proofs.Reconciliation

/-!
# The fates of the requests in a batch

Each request of a batch is decided on, or not resolved, or left out because the hub satisfies it.
When the answers of the catalog depend on the model id alone, so does the fate of a request on
the request alone, and a plan is nothing but the fates of the requests in their order.
-/

namespace ModelHub

/-- What becomes of one request of a batch. -/
inductive Fate where
  | decided (resolved : Request) (reason : Reason)
  | unresolved (request : Request) (error : ResolveError)
  | satisfied
  deriving DecidableEq, Repr

namespace Fate

/-- The decision at an ordinal, if the request there is decided on. -/
def decision? (ordinal : Nat) : Fate → Option Decision
  | decided resolved reason => some ⟨ordinal, resolved, reason⟩
  | unresolved _ _ => none
  | satisfied => none

/-- The report of an ordinal, if the request there is not resolved. -/
def unresolved? (ordinal : Nat) : Fate → Option Unresolved
  | decided _ _ => none
  | unresolved request error => some ⟨ordinal, request, error⟩
  | satisfied => none

theorem decision?_eq_some_iff {ordinal : Nat} {fate : Fate} {decision : Decision} :
    fate.decision? ordinal = some decision ↔
      fate = decided decision.request decision.reason ∧ decision.ordinal = ordinal := by
  cases fate with
  | decided resolved reason =>
      cases decision
      simp only [decision?, Option.some.injEq, Decision.mk.injEq, decided.injEq]
      tauto
  | unresolved request error =>
      simp [decision?]
  | satisfied =>
      simp [decision?]

theorem unresolved?_eq_some_iff {ordinal : Nat} {fate : Fate} {item : Unresolved} :
    fate.unresolved? ordinal = some item ↔
      fate = unresolved item.request item.error ∧ item.ordinal = ordinal := by
  cases fate with
  | decided resolved reason =>
      simp [unresolved?]
  | unresolved request error =>
      cases item
      simp only [unresolved?, Option.some.injEq, Unresolved.mk.injEq, unresolved.injEq]
      tauto
  | satisfied =>
      simp [unresolved?]

theorem ordinal_of_decision? (ordinal : Nat) (fate : Fate) (decision : Decision)
    (decides : fate.decision? ordinal = some decision) : decision.ordinal = ordinal :=
  (decision?_eq_some_iff.1 decides).2

theorem ordinal_of_unresolved? (ordinal : Nat) (fate : Fate) (item : Unresolved)
    (reports : fate.unresolved? ordinal = some item) : item.ordinal = ordinal :=
  (unresolved?_eq_some_iff.1 reports).2

/-! ## Collecting reports -/

section Collect

variable {report : Type} (reportOf : Nat → Fate → Option report) (ordinalOf : report → Nat)

/-- What is reported of fates, each with its ordinal, numbered from a number on. -/
def collect (first : Nat) (fates : List Fate) : List report :=
  (fates.zipIdx first).filterMap fun item => reportOf item.2 item.1

theorem collect_cons (first : Nat) (fate : Fate) (fates : List Fate) :
    collect reportOf first (fate :: fates) =
      (reportOf first fate).toList ++ collect reportOf (first + 1) fates := by
  cases found : reportOf first fate <;> simp [collect, found]

/-- The reports on two rows of fates stand one after the other. -/
theorem collect_append (first : Nat) (fates others : List Fate) :
    collect reportOf first (fates ++ others) =
      collect reportOf first fates ++ collect reportOf (first + fates.length) others := by
  simp [collect, List.zipIdx_append]

/-- Starting from a higher number raises every report. -/
theorem collect_add {raise : report → report} {count : Nat}
    (raised : ∀ ordinal fate,
      reportOf (ordinal + count) fate = (reportOf ordinal fate).map raise)
    (first : Nat) (fates : List Fate) :
    collect reportOf (first + count) fates = (collect reportOf first fates).map raise := by
  induction fates generalizing first with
  | nil =>
      rfl
  | cons fate rest inductionHypothesis =>
      have restRaised := inductionHypothesis (first + 1)
      rw [Nat.add_right_comm] at restRaised
      rw [collect_cons, collect_cons, List.map_append, ← restRaised, raised]
      cases reportOf first fate <;> rfl

variable {reportOf} {ordinalOf}

theorem mem_collect_iff {first : Nat} {fates : List Fate} {item : report} :
    item ∈ collect reportOf first fates ↔
      ∃ position fate, fates[position]? = some fate ∧
        reportOf (first + position) fate = some item := by
  simp only [collect, List.mem_filterMap, Prod.exists, List.mem_zipIdx_iff_le_and_getElem?_sub]
  constructor
  · intro member
    rcases member with ⟨fate, ordinal, ⟨notBefore, found⟩, reported⟩
    refine ⟨ordinal - first, fate, found, ?_⟩
    rw [Nat.add_sub_cancel' notBefore]
    exact reported
  · intro member
    rcases member with ⟨position, fate, found, reported⟩
    refine ⟨fate, first + position, ⟨Nat.le_add_right first position, ?_⟩, reported⟩
    rw [Nat.add_sub_cancel_left]
    exact found

section Ordinals

variable (keeps : ∀ ordinal fate item, reportOf ordinal fate = some item →
  ordinalOf item = ordinal)
include keeps

/-- A report is given of the fate at its own ordinal. -/
theorem mem_collect_zero_iff {fates : List Fate} {item : report} :
    item ∈ collect reportOf 0 fates ↔
      ∃ fate, fates[ordinalOf item]? = some fate ∧
        reportOf (ordinalOf item) fate = some item := by
  simp only [mem_collect_iff, Nat.zero_add]
  constructor
  · intro member
    rcases member with ⟨position, fate, found, reported⟩
    rw [keeps _ _ _ reported]
    exact ⟨fate, found, reported⟩
  · intro member
    rcases member with ⟨fate, found, reported⟩
    exact ⟨ordinalOf item, fate, found, reported⟩

/-- The ordinals of the reports increase strictly. -/
theorem collect_increasing (first : Nat) (fates : List Fate) :
    ((collect reportOf first fates).map ordinalOf).Pairwise (· < ·) := by
  have increasing : ((fates.zipIdx first).map Prod.snd).Pairwise (· < ·) := by
    rw [List.zipIdx_map_snd]
    exact List.pairwise_lt_range'
  rw [List.pairwise_map] at increasing ⊢
  refine increasing.filterMap _ fun item later lower report reported next isNext => ?_
  rw [keeps _ _ _ reported, keeps _ _ _ isNext]
  exact lower

/-- What is reported at an ordinal is what is reported of the fate there. -/
theorem filter_collect {fates : List Fate} {position : Nat} {fate : Fate}
    (found : fates[position]? = some fate) (first : Nat) :
    (collect reportOf first fates).filter (fun item => ordinalOf item = first + position) =
      (reportOf (first + position) fate).toList := by
  induction fates generalizing first position with
  | nil =>
      cases found
  | cons head rest inductionHypothesis =>
      rw [collect_cons, List.filter_append]
      cases position with
      | zero =>
          obtain rfl : head = fate := Option.some.inj found
          have keptHead : (reportOf first head).toList.filter
              (fun item => ordinalOf item = first + 0) = (reportOf first head).toList := by
            refine List.filter_eq_self.2 fun item member => ?_
            simpa using keeps _ _ _ (Option.mem_toList.1 member)
          have noneAfter : (collect reportOf (first + 1) rest).filter
              (fun item => ordinalOf item = first + 0) = [] := by
            refine List.filter_eq_nil_iff.2 fun item member => ?_
            obtain ⟨position, later, _, reported⟩ := mem_collect_iff.1 member
            have ordinal := keeps _ _ _ reported
            simp only [decide_eq_true_eq]
            omega
          rw [keptHead, noneAfter, List.append_nil, Nat.add_zero]
      | succ position =>
          have droppedHead : (reportOf first head).toList.filter
              (fun item => ordinalOf item = first + (position + 1)) = [] := by
            refine List.filter_eq_nil_iff.2 fun item member => ?_
            have ordinal := keeps _ _ _ (Option.mem_toList.1 member)
            simp only [decide_eq_true_eq]
            omega
          have inRest := inductionHypothesis found (first + 1)
          rw [Nat.add_right_comm] at inRest
          rw [droppedHead, List.nil_append]
          exact inRest

end Ordinals

end Collect

end Fate

/-! ## Resolving -/

/-- What resolving a request gives when the answers of the catalog depend on the model id alone. -/
def Resolution.resolveFrom (catalog : String → Except Failure String) (request : Request) :
    Except ResolveError Request :=
  resolve (m := Id) catalog request

/-- The request that a request stands for: itself when it names a version, and otherwise the same
model at the version that the catalog answers with. -/
def Request.ResolvesTo (catalog : String → Except Failure String) (request resolved : Request) :
    Prop :=
  (request.isLatest = false ∧ resolved = request) ∨
    (request.isLatest = true ∧ ∃ version, catalog request.modelId = .ok version ∧
      resolved = ⟨request.modelId, version⟩)

/-- Why a lookup that fails leaves a model without a version. -/
def ResolveError.ofFailure (modelId : String) (failure : Failure) : ResolveError :=
  if failure.kind = .notFound then .notInCatalog modelId else .lookupFailed modelId failure

namespace Resolution

variable {catalog : String → Except Failure String} {request : Request}

theorem resolveFrom_of_concrete (concrete : request.isLatest = false) :
    resolveFrom catalog request = .ok request := by
  simp only [resolveFrom, resolve, concrete]
  rfl

theorem resolveFrom_of_latest (latest : request.isLatest = true) :
    resolveFrom catalog request = ofAnswer request (catalog request.modelId) := by
  simp only [resolveFrom, resolve, latest]
  rfl

theorem ofAnswer_error (request : Request) (failure : Failure) :
    ofAnswer request (.error failure) = .error (.ofFailure request.modelId failure) := by
  by_cases absent : failure.kind = .notFound <;>
    simp [ofAnswer, ResolveError.ofFailure, absent]

theorem resolveFrom_eq_ok_iff {resolved : Request} :
    resolveFrom catalog request = .ok resolved ↔ request.ResolvesTo catalog resolved := by
  unfold Request.ResolvesTo
  cases latest : request.isLatest with
  | false =>
      rw [resolveFrom_of_concrete latest]
      simp [eq_comm]
  | true =>
      rw [resolveFrom_of_latest latest]
      cases answer : catalog request.modelId with
      | ok version =>
          simp [ofAnswer, Request.withVersion, eq_comm]
      | error failure =>
          simp [ofAnswer_error]

theorem resolveFrom_eq_error_iff {error : ResolveError} :
    resolveFrom catalog request = .error error ↔
      request.isLatest = true ∧ ∃ failure, catalog request.modelId = .error failure ∧
        error = .ofFailure request.modelId failure := by
  cases latest : request.isLatest with
  | false =>
      rw [resolveFrom_of_concrete latest]
      simp
  | true =>
      rw [resolveFrom_of_latest latest]
      cases answer : catalog request.modelId with
      | ok version =>
          simp [ofAnswer]
      | error failure =>
          simp [ofAnswer_error, eq_comm]

theorem resolveAll_eq_map (catalog : String → Except Failure String) (requests : List Request) :
    resolveAll (m := Id) catalog requests = requests.map (resolveFrom catalog) := by
  induction requests with
  | nil =>
      rfl
  | cons request rest inductionHypothesis =>
      rw [List.map_cons, ← inductionHypothesis]
      rfl

end Resolution

/-! ## The fate of a request -/

namespace Fate

/-- The fate of a request, with a catalog and the index of a hub. -/
def of (catalog : String → Except Failure String) (index : Index) (request : Request) : Fate :=
  match Resolution.resolveFrom catalog request with
  | .error error => unresolved request error
  | .ok resolved =>
      match Decision.reason? index resolved with
      | none => satisfied
      | some reason => decided resolved reason

variable {catalog : String → Except Failure String} {index : Index} {request : Request}

theorem of_eq_decided_iff {resolved : Request} {reason : Reason} :
    of catalog index request = decided resolved reason ↔
      request.ResolvesTo catalog resolved ∧ Decision.reason? index resolved = some reason := by
  rw [← Resolution.resolveFrom_eq_ok_iff]
  unfold of
  cases Resolution.resolveFrom catalog request with
  | error error =>
      simp
  | ok found =>
      cases due : Decision.reason? index found with
      | none =>
          simp only [due, reduceCtorEq, Except.ok.injEq, false_iff, not_and]
          intro sameRequest
          simp [← sameRequest, due]
      | some foundReason =>
          simp only [due, decided.injEq, Except.ok.injEq]
          constructor
          · intro same
            rcases same with ⟨rfl, rfl⟩
            exact ⟨rfl, due⟩
          · intro same
            rcases same with ⟨rfl, isDue⟩
            exact ⟨rfl, Option.some.inj (due.symm.trans isDue)⟩

theorem of_eq_unresolved_iff {original : Request} {error : ResolveError} :
    of catalog index request = unresolved original error ↔
      request = original ∧ request.isLatest = true ∧
        ∃ failure, catalog request.modelId = .error failure ∧
          error = .ofFailure request.modelId failure := by
  rw [← Resolution.resolveFrom_eq_error_iff]
  unfold of
  cases Resolution.resolveFrom catalog request with
  | error error =>
      simp
  | ok found =>
      cases due : Decision.reason? index found <;> simp [due]

theorem of_eq_satisfied_iff :
    of catalog index request = satisfied ↔
      ∃ resolved, request.ResolvesTo catalog resolved ∧
        Decision.reason? index resolved = none := by
  simp only [← Resolution.resolveFrom_eq_ok_iff]
  unfold of
  cases Resolution.resolveFrom catalog request with
  | error error =>
      simp
  | ok found =>
      cases due : Decision.reason? index found <;> simp [due]

/-- What is decided at an ordinal is what is decided there on the resolved request. -/
theorem decision?_of (ordinal : Nat) :
    (of catalog index request).decision? ordinal =
      (Plan.Position.candidate?
        ⟨ordinal, request, Resolution.resolveFrom catalog request⟩).bind (Decision.of? index) := by
  unfold of Plan.Position.candidate?
  cases Resolution.resolveFrom catalog request with
  | error error =>
      rfl
  | ok resolved =>
      simp only [Option.bind_some, Decision.of?]
      cases Decision.reason? index resolved <;> rfl

/-- What is reported at an ordinal is what resolving the request there reports. -/
theorem unresolved?_of (ordinal : Nat) :
    (of catalog index request).unresolved? ordinal =
      Plan.Position.unresolved?
        ⟨ordinal, request, Resolution.resolveFrom catalog request⟩ := by
  unfold of Plan.Position.unresolved?
  cases Resolution.resolveFrom catalog request with
  | error error =>
      rfl
  | ok resolved =>
      simp only
      cases Decision.reason? index resolved <;> rfl

end Fate

/-! ## The plan of a batch -/

namespace Plan

/-- The plan for a batch when the answers of the catalog depend on the model id alone. -/
def planFor (catalog : String → Except Failure String)
    (listing : Except Failure (List Record)) (requests : List Request) : Except Error Plan :=
  make (m := Id) catalog listing requests

/-- The plan that fates make up, numbered from zero. -/
def ofFates (fates : List Fate) : Plan :=
  ⟨Fate.collect Fate.decision? 0 fates, Fate.collect Fate.unresolved? 0 fates⟩

/-- The fates of the requests of a batch, with a catalog and a listing of the hub. -/
def fatesOf (catalog : String → Except Failure String) (records : List Record)
    (requests : List Request) : List Fate :=
  requests.map (Fate.of catalog (Index.ofRecords records))

variable {catalog : String → Except Failure String} {records : List Record}
  {requests : List Request}

theorem fatesOf_getElem? {ordinal : Nat} {request : Request}
    (found : requests[ordinal]? = some request) :
    (fatesOf catalog records requests)[ordinal]? =
      some (Fate.of catalog (Index.ofRecords records) request) := by
  rw [fatesOf, List.getElem?_map, found, Option.map_some]

theorem positionsFrom_map (resultOf : Request → Except ResolveError Request) (first : Nat)
    (requests : List Request) :
    positionsFrom first requests (requests.map resultOf) =
      (requests.zipIdx first).map fun item => ⟨item.2, item.1, resultOf item.1⟩ := by
  induction requests generalizing first with
  | nil =>
      rfl
  | cons request rest inductionHypothesis =>
      rw [List.map_cons, positionsFrom, inductionHypothesis]
      rfl

theorem collect_fatesOf {report : Type} (reportOf : Nat → Fate → Option report) :
    Fate.collect reportOf 0 (fatesOf catalog records requests) =
      requests.zipIdx.filterMap fun item =>
        reportOf item.2 (Fate.of catalog (Index.ofRecords records) item.1) := by
  simp only [Fate.collect, fatesOf, List.zipIdx_map, List.filterMap_map, Function.comp_def,
    Prod.map_snd, Prod.map_fst, id_eq]

/-- Numbering the requests before those that are not resolved are set aside keeps each decision at
the ordinal of its request. -/
theorem reconcile_positionsFrom :
    Decision.reconcile (Index.ofRecords records)
        ((positionsFrom 0 requests
          (requests.map (Resolution.resolveFrom catalog))).filterMap Position.candidate?) =
      (ofFates (fatesOf catalog records requests)).decisions := by
  simp only [ofFates, collect_fatesOf, positionsFrom_map, Decision.reconcile, List.filterMap_map,
    List.filterMap_filterMap]
  refine List.filterMap_congr fun item _ => ?_
  rw [Fate.decision?_of, Function.comp_apply]

theorem filterMap_unresolved?_positionsFrom (records : List Record) :
    (positionsFrom 0 requests
        (requests.map (Resolution.resolveFrom catalog))).filterMap Position.unresolved? =
      (ofFates (fatesOf catalog records requests)).unresolved := by
  simp only [ofFates, collect_fatesOf, positionsFrom_map, List.filterMap_map]
  refine List.filterMap_congr fun item _ => ?_
  rw [Fate.unresolved?_of, Function.comp_apply]

/-- The plan of a batch is made up by the fates of its requests. -/
theorem planFor_ok (catalog : String → Except Failure String) (records : List Record)
    (requests : List Request) :
    planFor catalog (.ok records) requests =
      .ok (ofFates (fatesOf catalog records requests)) := by
  have resolvedAll : planFor catalog (.ok records) requests =
      .ok (assemble requests (Resolution.resolveAll (m := Id) catalog requests) records) := rfl
  rw [resolvedAll, Resolution.resolveAll_eq_map, assemble, reconcile_positionsFrom,
    filterMap_unresolved?_positionsFrom records]

end Plan

end ModelHub

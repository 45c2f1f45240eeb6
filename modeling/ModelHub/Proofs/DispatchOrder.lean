import Mathlib.Data.List.Nodup
import ModelHub.Plan
import ModelHub.Proofs.DispatchSteps

/-!
# Syncs that end in any order

Waiting syncs start in their order while fewer are in flight than the limit allows, and any sync in
flight may be the next one to end. Whatever the order of the ends, every sync is started once and
ends once, with the result that is its own, and sorting the outcomes undoes that order. The dispatch
of this library lets the sync that was started first end first, and calls for every decision once.
-/

namespace ModelHub

namespace Dispatch

/-! ## Outcomes in the order of their ordinals -/

section Sorting

variable {outcomes others : List Outcome}

theorem sortOutcomes_perm (outcomes : List Outcome) : (sortOutcomes outcomes).Perm outcomes :=
  List.mergeSort_perm outcomes _

theorem sortOutcomes_ordered (outcomes : List Outcome) :
    (sortOutcomes outcomes).Pairwise fun left right =>
      left.decision.ordinal ≤ right.decision.ordinal := by
  have sorted : (sortOutcomes outcomes).Pairwise fun left right =>
      decide (left.decision.ordinal ≤ right.decision.ordinal) = true := by
    refine List.pairwise_mergeSort (fun left middle right lower higher => ?_)
      (fun left right => ?_) outcomes
    · rw [decide_eq_true_eq] at lower higher ⊢
      exact Nat.le_trans lower higher
    · rw [Bool.or_eq_true, decide_eq_true_eq, decide_eq_true_eq]
      exact Nat.le_total left.decision.ordinal right.decision.ordinal
  exact sorted.imp of_decide_eq_true

/-- Where no two outcomes have the same ordinal, sorting forgets the order in which they came. -/
theorem sortOutcomes_eq_of_perm
    (distinct : (outcomes.map fun outcome => outcome.decision.ordinal).Nodup)
    (permutation : outcomes.Perm others) : sortOutcomes outcomes = sortOutcomes others := by
  have sameOutcomes : (sortOutcomes outcomes).Perm (sortOutcomes others) :=
    ((sortOutcomes_perm outcomes).trans permutation).trans (sortOutcomes_perm others).symm
  refine sameOutcomes.eq_of_pairwise ?_ (sortOutcomes_ordered outcomes)
    (sortOutcomes_ordered others)
  intro left right leftMember rightMember lower higher
  have leftOutcome : left ∈ outcomes := (sortOutcomes_perm outcomes).mem_iff.1 leftMember
  have rightOutcome : right ∈ outcomes :=
    permutation.mem_iff.2 ((sortOutcomes_perm others).mem_iff.1 rightMember)
  exact List.inj_on_of_nodup_map distinct leftOutcome rightOutcome (Nat.le_antisymm lower higher)

/-- Outcomes whose ordinals increase are sorted already. -/
theorem sortOutcomes_eq_self
    (increasing : (outcomes.map fun outcome => outcome.decision.ordinal).Pairwise (· < ·)) :
    sortOutcomes outcomes = outcomes := by
  rw [List.pairwise_map] at increasing
  exact List.mergeSort_of_pairwise (increasing.imp fun lower => decide_eq_true (Nat.le_of_lt lower))

/-- Outcomes of decisions whose ordinals increase are sorted into the order of the decisions. -/
theorem map_decision_sortOutcomes {decisions : List Decision}
    (increasing : (decisions.map Decision.ordinal).Pairwise (· < ·))
    (sameDecisions : (outcomes.map Outcome.decision).Perm decisions) :
    (sortOutcomes outcomes).map Outcome.decision = decisions := by
  have permutation : ((sortOutcomes outcomes).map Outcome.decision).Perm decisions :=
    ((sortOutcomes_perm outcomes).map Outcome.decision).trans sameDecisions
  have ordered : ((sortOutcomes outcomes).map Outcome.decision).Pairwise
      fun left right => left.ordinal ≤ right.ordinal :=
    List.pairwise_map.2 (sortOutcomes_ordered outcomes)
  have distinct : (decisions.map Decision.ordinal).Nodup := increasing.imp Nat.ne_of_lt
  refine permutation.eq_of_pairwise ?_ ordered ((List.pairwise_map.1 increasing).imp Nat.le_of_lt)
  intro left right leftMember rightMember lower higher
  exact List.inj_on_of_nodup_map distinct (permutation.mem_iff.1 leftMember) rightMember
    (Nat.le_antisymm lower higher)

end Sorting

end Dispatch

/-! ## Decisions of a plan -/

namespace Plan

theorem positionsFrom_eq_map_zipIdx (first : Nat) (requests : List Request)
    (results : List (Except ResolveError Request)) :
    positionsFrom first requests results =
      ((requests.zip results).zipIdx first).map fun item => ⟨item.2, item.1.1, item.1.2⟩ := by
  induction requests generalizing first results with
  | nil =>
      rfl
  | cons request requests inductionHypothesis =>
      cases results with
      | nil =>
          rfl
      | cons result results =>
          rw [positionsFrom, inductionHypothesis]
          rfl

/-- The decisions of a plan stand in the order of their ordinals, and no two have the same one. -/
theorem decisions_assemble_increasing (requests : List Request)
    (results : List (Except ResolveError Request)) (records : List Record) :
    ((assemble requests results records).decisions.map Decision.ordinal).Pairwise (· < ·) := by
  have numbered :
      ((positionsFrom 0 requests results).map Position.ordinal).Pairwise (· < ·) := by
    rw [positionsFrom_eq_map_zipIdx, List.map_map]
    have ordinals : Position.ordinal ∘
        (fun item : (Request × Except ResolveError Request) × Nat =>
          ⟨item.2, item.1.1, item.1.2⟩) = Prod.snd := rfl
    rw [ordinals, List.zipIdx_map_snd]
    exact List.pairwise_lt_range'
  have keeps (position : Position) (candidate : Nat × Request) (decision : Decision)
      (isCandidate : position.candidate? = some candidate)
      (decided : Decision.of? (Index.ofRecords records) candidate = some decision) :
      decision.ordinal = position.ordinal := by
    unfold Position.candidate? at isCandidate
    cases found : position.result with
    | error error =>
        rw [found] at isCandidate
        cases isCandidate
    | ok resolved =>
        rw [found] at isCandidate
        cases isCandidate
        obtain ⟨reason, _, rfl⟩ := Option.map_eq_some_iff.1 decided
        rfl
  rw [List.pairwise_map] at numbered ⊢
  simp only [assemble, Decision.reconcile, List.filterMap_filterMap]
  refine numbered.filterMap _ fun position later lower decision decided next isNext => ?_
  obtain ⟨candidate, isCandidate, decided⟩ := Option.bind_eq_some_iff.1 decided
  obtain ⟨nextCandidate, isNextCandidate, isNext⟩ := Option.bind_eq_some_iff.1 isNext
  rw [keeps _ _ _ isCandidate decided, keeps _ _ _ isNextCandidate isNext]
  exact lower

end Plan

/-! ## The calls of a dispatch -/

namespace Dispatch

section Calls

variable {σ : Type} (execute : Decision → σ → Except Failure Unit × σ)

/-- Executes a decision and records the call: the decision it was made for and what it gave. -/
def recorded (decision : Decision) : StateM (σ × List Outcome) (Except Failure Unit) :=
  fun (state, calls) =>
    let answer := execute decision state
    (answer.1, answer.2, calls ++ [⟨decision, answer.1⟩])

/-- One call for every decision, one after another, and the state that they leave. -/
def callEach (state : σ) : List Decision → List Outcome × σ
  | [] => ([], state)
  | decision :: decisions =>
    let answer := execute decision state
    let others := callEach answer.2 decisions
    (⟨decision, answer.1⟩ :: others.1, others.2)

theorem map_decision_callEach (state : σ) (decisions : List Decision) :
    (callEach execute state decisions).1.map Outcome.decision = decisions := by
  induction decisions generalizing state with
  | nil =>
      rfl
  | cons decision decisions inductionHypothesis =>
      exact congrArg (decision :: ·) (inductionHypothesis (execute decision state).2)

/-- A program with a state gives its value and leaves the state that it was run to. -/
def Interpretation.ofStates (σ : Type) : Interpretation (StateM σ) σ where
  Gives program before value after := program.run before = (value, after)
  gives_pure _ _ := rfl
  gives_bind := by
    intro _ _ first next value result before between after given goesOn
    rw [StateT.run_bind, given]
    exact goesOn

/-- Calls that are made one after another are all on the record, and there are no others on it. -/
theorem executes_recorded (state : σ) (calls : List Outcome) (decisions : List Decision) :
    Executes (.ofStates _) (recorded execute) (state, calls) (callEach execute state decisions).1
      ((callEach execute state decisions).2, calls ++ (callEach execute state decisions).1) := by
  induction decisions generalizing state calls with
  | nil =>
      rw [callEach, List.append_nil]
      exact .nil _
  | cons decision decisions inductionHypothesis =>
      have others := inductionHypothesis (execute decision state).2
        (calls ++ [⟨decision, (execute decision state).1⟩])
      rw [List.append_assoc] at others
      exact .cons rfl others

end Calls

/-! ## The outcomes of a finished dispatch -/

open Progress

/-- However the syncs of a dispatch end, it can be finished, and then it has started every
decision once, in their order, and gives one outcome for each, with the result of its own sync, in
the order of the ordinals. Where the ordinals are distinct the outcomes do not depend on the order
of the ends, and the decisions of a plan come back as they stand in the plan. The dispatch of this
library is one of those finished ones, and all calls that it makes are one for each decision, with
the results that its outcomes have. -/
theorem sortOutcomes_of_finished (limit : Nat) :
    (∀ syncs progress, Reaches limit (Progress.begin syncs) progress →
      ∃ final, Reaches limit progress final ∧ final.IsFinished) ∧
    (∀ syncs final, Reaches limit (Progress.begin syncs) final → final.IsFinished →
      final.toDispatch.started = syncs.map Outcome.decision ∧
      (sortOutcomes final.finished).Perm syncs ∧
      (sortOutcomes final.finished).Pairwise
        (fun left right => left.decision.ordinal ≤ right.decision.ordinal) ∧
      ((syncs.map fun sync => sync.decision.ordinal).Nodup →
        sortOutcomes final.finished = sortOutcomes syncs) ∧
      ∀ requests results records,
        syncs.map Outcome.decision = (Plan.assemble requests results records).decisions →
        sortOutcomes final.finished = syncs) ∧
    ∀ {σ : Type} (execute : Decision → σ → Except Failure Unit × σ) (state : σ)
      (decisions : List Decision), ∃ calls after final,
        callEach execute state decisions = (calls, after) ∧
        calls.map Outcome.decision = decisions ∧
        Reaches limit (Progress.begin calls) final ∧ final.IsFinished ∧
        (complete (recorded execute) limit decisions).run (state, []) =
          (final.toDispatch, after, calls) ∧
        (run (recorded execute) limit decisions).run (state, []) =
          (sortOutcomes final.finished, after, calls) := by
  refine ⟨fun _ progress _ => exists_finished limit progress, fun syncs final reached done => ?_,
    fun {σ} execute state decisions => ?_⟩
  · obtain ⟨inOrder, sameOutcomes⟩ := reached.finished done
    refine ⟨congrArg (List.map Outcome.decision) inOrder,
      (sortOutcomes_perm final.finished).trans sameOutcomes, sortOutcomes_ordered final.finished,
      fun distinct => (sortOutcomes_eq_of_perm distinct sameOutcomes.symm).symm,
      fun requests results records planned => ?_⟩
    have increasing := Plan.decisions_assemble_increasing requests results records
    rw [← planned, List.map_map] at increasing
    have distinct := List.Pairwise.imp Nat.ne_of_lt increasing
    exact (sortOutcomes_eq_of_perm distinct sameOutcomes.symm).symm.trans
      (sortOutcomes_eq_self increasing)
  · have sameDecisions := map_decision_callEach execute state decisions
    obtain ⟨final, occurs, done, _, completed⟩ := exists_complete_of_executes limit
      (fun _ => False) (executes_recorded execute state [] decisions)
    rw [sameDecisions] at completed
    exact ⟨_, _, final, rfl, sameDecisions, occurs.reaches, done, completed,
      (Interpretation.ofStates _).gives_bind completed ((Interpretation.ofStates _).gives_pure _ _)⟩

/-- The syncs of three decisions, of which the second one fails. -/
def threeSyncs : List Outcome :=
  [⟨⟨0, ⟨"a", "1"⟩, .missing⟩, .ok ()⟩,
    ⟨⟨1, ⟨"b", "1"⟩, .missing⟩, .error (.ofKind .timedOut)⟩,
    ⟨⟨2, ⟨"c", "1"⟩, .missing⟩, .ok ()⟩]

/-- With two in flight at most, the three syncs have ended, and the first one last. -/
def firstEndedLast : Progress :=
  { waiting := []
    inFlight := []
    finished := threeSyncs.tail ++ threeSyncs.take 1
    started := threeSyncs
    peak := 2 }

/-- Fails for the model `b` alone, and counts the calls. -/
def countingCalls (decision : Decision) (count : Nat) : Except Failure Unit × Nat :=
  (if decision.request.modelId = "b" then .error (.ofKind .timedOut) else .ok (), count + 1)

theorem sortOutcomes_of_finished_threeSyncs :
    Reaches 2 (Progress.begin threeSyncs) firstEndedLast ∧ firstEndedLast.IsFinished ∧
      firstEndedLast.toDispatch.started = threeSyncs.map Outcome.decision ∧
      sortOutcomes firstEndedLast.finished = sortOutcomes threeSyncs ∧
      sortOutcomes firstEndedLast.finished = threeSyncs ∧
      (∃ final, Reaches 2 firstEndedLast final ∧ final.IsFinished) ∧
      (run (recorded countingCalls) 2 (threeSyncs.map Outcome.decision)).run (0, []) =
        (threeSyncs, 3, threeSyncs) := by
  have reached : Reaches 2 (Progress.begin threeSyncs) firstEndedLast :=
    .head (.start _ _ [] [] [] 0 (by decide)) <|
    .head (.start _ _ _ _ _ _ (by decide)) <|
    .head (.finish _ _ (threeSyncs.take 1) [] [] _ _) <|
    .head (.start _ [] _ _ _ _ (by decide)) <|
    .head (.finish _ [] (threeSyncs.take 1) [] _ _ _) <|
    .head (.finish _ [] [] [] _ _ _) .refl
  have isPlan : threeSyncs.map Outcome.decision =
      (Plan.assemble [⟨"a", "1"⟩, ⟨"b", "1"⟩, ⟨"c", "1"⟩]
        [.ok ⟨"a", "1"⟩, .ok ⟨"b", "1"⟩, .ok ⟨"c", "1"⟩] []).decisions := by decide
  obtain ⟨finishable, finished, recorded⟩ := sortOutcomes_of_finished 2
  obtain ⟨inOrder, _, _, distinct, planned⟩ := finished threeSyncs firstEndedLast reached ⟨rfl, rfl⟩
  obtain ⟨calls, after, final, isCalls, _, finalReached, done, _, run⟩ :=
    recorded countingCalls 0 (threeSyncs.map Outcome.decision)
  obtain ⟨rfl, rfl⟩ : threeSyncs = calls ∧ 3 = after := Prod.mk.inj isCalls
  obtain ⟨_, _, _, _, plannedAgain⟩ := finished threeSyncs final finalReached done
  rw [plannedAgain _ _ _ isPlan] at run
  exact ⟨reached, ⟨rfl, rfl⟩, inOrder, distinct (by decide), planned _ _ _ isPlan,
    finishable threeSyncs firstEndedLast reached, run⟩

end Dispatch

end ModelHub

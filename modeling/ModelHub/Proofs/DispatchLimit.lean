import ModelHub.Proofs.DispatchSteps

/-!
# How many syncs are in flight

At no point of a dispatch are more syncs in flight than its limit allows, and what has started is
the beginning of its decisions. When the dispatch is left until a sync ends, a decision waits only
because as many syncs are in flight as may be. So the limit is reached whenever there are enough
decisions and no sync ends at once, and a limit of zero, which is a limit of one, stalls nothing.
-/

namespace ModelHub

namespace Dispatch

/-! ## Limits that allow the same -/

section SameLimit

variable {limit other : Nat} (same : effectiveLimit limit = effectiveLimit other)

include same

theorem fill_congr (waiting inFlight started : List Decision) (finished : List Outcome)
    (peak : Nat) :
    fill limit waiting inFlight started finished peak =
      fill other waiting inFlight started finished peak := by
  induction waiting generalizing inFlight started peak with
  | nil =>
      rfl
  | cons decision waiting inductionHypothesis =>
      rw [fill, fill, same, inductionHypothesis]

theorem refill_congr : refill limit = refill other := by
  funext state
  exact fill_congr same _ _ _ _ _

theorem drain_congr {m : Type → Type} [Monad m] (execute : Decision → m (Except Failure Unit))
    (steps : Nat) (state : Dispatch) :
    drain execute limit steps state = drain execute other steps state := by
  induction steps generalizing state with
  | zero =>
      rw [drain, drain, refill_congr same]
  | succ steps inductionHypothesis =>
      simp only [drain, refill_congr same, inductionHypothesis]

end SameLimit

/-! ## States within the limit -/

/-- What holds at every point of a dispatch of the decisions: those started are the first ones, each
of them is in flight or has ended, and no more have been in flight than the limit allows. -/
structure IsWithin (limit : Nat) (decisions : List Decision) (state : Dispatch) : Prop where
  inOrder : state.started ++ state.waiting = decisions
  accounted : (state.finished.map Outcome.decision ++ state.inFlight).Perm state.started
  inFlight : state.inFlight.length ≤ state.peak
  peak : state.peak ≤ min (max limit 1) decisions.length

/-- A decision waits only while as many syncs are in flight as may be. -/
def IsBusy (limit : Nat) (state : Dispatch) : Prop :=
  state.waiting ≠ [] → state.inFlight.length = max limit 1

namespace Progress

variable {limit other most : Nat} {atOnce : Outcome → Prop} {syncs : List Outcome}
variable {progress next : Progress}

theorem Step.congr (same : effectiveLimit limit = effectiveLimit other)
    (step : Step limit progress next) : Step other progress next := by
  cases step with
  | start sync waiting inFlight finished started peak room =>
      exact .start sync waiting inFlight finished started peak (same ▸ room)
  | finish sync waiting before after finished started peak =>
      exact .finish sync waiting before after finished started peak

/-- The steps are the same under limits that allow the same. -/
theorem reaches_congr (same : effectiveLimit limit = effectiveLimit other) :
    Reaches limit progress next ↔ Reaches other progress next :=
  ⟨Relation.ReflTransGen.mono (fun _ _ => Step.congr same) _ _,
    Relation.ReflTransGen.mono (fun _ _ => Step.congr same.symm) _ _⟩

/-! ## Never more than the limit -/

/-- The number in flight is within the peak, and the peak within what may be in flight and within
what was started. -/
structure IsBounded (limit : Nat) (progress : Progress) : Prop where
  inFlight : progress.inFlight.length ≤ progress.peak
  withinLimit : progress.peak ≤ effectiveLimit limit
  withinStarted : progress.peak ≤ progress.started.length

theorem isBounded_begin (limit : Nat) (syncs : List Outcome) : (begin syncs).IsBounded limit :=
  ⟨Nat.zero_le _, Nat.zero_le _, Nat.zero_le _⟩

theorem Step.isBounded (step : Step limit progress next) (bounded : progress.IsBounded limit) :
    next.IsBounded limit := by
  obtain ⟨atMostPeak, withinLimit, withinStarted⟩ := bounded
  cases step with
  | start sync waiting inFlight finished started peak room =>
      have oneMore : inFlight.length + 1 ≤ started.length + 1 :=
        Nat.succ_le_succ (Nat.le_trans atMostPeak withinStarted)
      constructor
      · rw [List.length_append]
        exact Nat.le_max_right _ _
      · exact Nat.max_le.2 ⟨withinLimit, room⟩
      · rw [List.length_append]
        exact Nat.max_le.2 ⟨Nat.le_succ_of_le withinStarted, oneMore⟩
  | finish sync waiting before after finished started peak =>
      have oneLess : (before ++ after).length ≤ (before ++ sync :: after).length := by
        simp
      exact ⟨Nat.le_trans oneLess atMostPeak, withinLimit, withinStarted⟩

theorem Reaches.isBounded (reached : Reaches limit progress next)
    (bounded : progress.IsBounded limit) : next.IsBounded limit :=
  reached.preserves Step.isBounded bounded

/-- What was started is in flight or has ended. -/
theorem Keeps.started_perm (keeps : progress.Keeps syncs) :
    (progress.finished ++ progress.inFlight).Perm progress.started := by
  obtain ⟨accounted, inOrder⟩ := keeps
  rw [← inOrder, pending, ← List.append_assoc] at accounted
  exact (List.perm_append_right_iff progress.waiting).1 accounted

theorem Reaches.isWithin (reached : Reaches limit (begin syncs) progress) :
    IsWithin limit (syncs.map Outcome.decision) progress.toDispatch := by
  have keeps := reached.keeps (keeps_begin syncs)
  have bounded := reached.isBounded (isBounded_begin limit syncs)
  have startedLength : progress.started.length ≤ syncs.length := by
    rw [← keeps.inOrder, List.length_append]
    exact Nat.le_add_right _ _
  constructor
  · rw [← keeps.inOrder, List.map_append]
    rfl
  · rw [toDispatch, ← List.map_append]
    exact keeps.started_perm.map Outcome.decision
  · rw [toDispatch, List.length_map]
    exact bounded.inFlight
  · rw [List.length_map]
    exact Nat.le_min.2 ⟨bounded.withinLimit, Nat.le_trans bounded.withinStarted startedLength⟩

/-! ## Never fewer while something waits -/

theorem Occurs.isBusy (occurs : Occurs (effectiveLimit limit) atOnce syncs progress) :
    IsBusy limit progress.toDispatch := by
  intro waits
  have within := occurs.reaches.isWithin
  have atMost := Nat.le_trans within.inFlight (Nat.le_min.1 within.peak).1
  rcases occurs.settled with noneWaiting | full
  · rw [toDispatch, noneWaiting] at waits
    exact absurd rfl waits
  · refine Nat.le_antisymm atMost ?_
    rw [toDispatch, List.length_map]
    exact full

/-! ## No dispatch stalls -/

theorem Reaches.stepsLeft_le (reached : Reaches limit progress next) :
    next.stepsLeft ≤ progress.stepsLeft := by
  have fewer {between later : Progress} (step : Step limit between later)
      (notMore : between.stepsLeft ≤ progress.stepsLeft) :
      later.stepsLeft ≤ progress.stepsLeft := by
    rw [step.stepsLeft] at notMore
    exact Nat.le_of_succ_le notMore
  exact reached.preserves fewer (Nat.le_refl _)

theorem Turn.stepsLeft_lt (turn : Turn (effectiveLimit limit) atOnce progress next) :
    next.stepsLeft < progress.stepsLeft := by
  cases turn with
  | ends sync waiting before after finished started peak settles =>
      have ended : Step limit ⟨waiting, before ++ sync :: after, finished, started, peak⟩
          ⟨waiting, before ++ after, finished ++ [sync], started, peak⟩ :=
        .finish sync waiting before after finished started peak
      rw [ended.stepsLeft]
      exact Nat.lt_succ_of_le settles.reaches.stepsLeft_le

/-- Where a dispatch is left unfinished, some sync is in flight, and its end lets it go on. -/
theorem Occurs.exists_turn (occurs : Occurs (effectiveLimit limit) atOnce syncs progress)
    (unfinished : ¬ progress.IsFinished) :
    ∃ next, Turn (effectiveLimit limit) atOnce progress next := by
  have settled := occurs.settled
  obtain ⟨waiting, inFlight, finished, started, peak⟩ := progress
  cases inFlight with
  | nil =>
      exact absurd (isFinished_of_settled settled rfl) unfinished
  | cons sync after =>
      obtain ⟨next, settles, _⟩ :=
        exists_refill limit atOnce ⟨waiting, after, finished ++ [sync], started, peak⟩
      exact ⟨next, .ends sync waiting [] after finished started peak settles⟩

theorem Occurs.exists_finished {progress : Progress}
    (occurs : Occurs (effectiveLimit limit) atOnce syncs progress) :
    ∃ final, Relation.ReflTransGen (Turn (effectiveLimit limit) atOnce) progress final ∧
      final.IsFinished := by
  by_cases done : progress.IsFinished
  · exact ⟨progress, .refl, done⟩
  · obtain ⟨next, turn⟩ := occurs.exists_turn done
    have fewer := turn.stepsLeft_lt
    obtain ⟨final, turns, finished⟩ := (occurs.turn turn).exists_finished
    exact ⟨final, turns.head turn, finished⟩
termination_by progress.stepsLeft

/-! ## The peak where no sync ends at once -/

theorem Step.peak_le (step : Step limit progress next) : progress.peak ≤ next.peak := by
  cases step with
  | start sync waiting inFlight finished started peak room =>
      exact Nat.le_max_left peak _
  | finish sync waiting before after finished started peak =>
      exact Nat.le_refl peak

theorem Reaches.peak_le (reached : Reaches limit progress next) : progress.peak ≤ next.peak := by
  have notLess {between later : Progress} (step : Step limit between later)
      (reachedPeak : progress.peak ≤ between.peak) : progress.peak ≤ later.peak :=
    Nat.le_trans reachedPeak step.peak_le
  exact reached.preserves notLess (Nat.le_refl _)

/-- Syncs that are all suspended are pulled without any end. -/
theorem Settles.finished_eq (suspended : ∀ sync ∈ progress.waiting, ¬ atOnce sync)
    (settles : Settles most atOnce progress next) : next.finished = progress.finished := by
  have pulled := settles.pulled
  clear settles
  -- The first pull comes first, because each pull leaves fewer syncs that have to be suspended.
  induction pulled using Relation.ReflTransGen.head_induction_on with
  | refl =>
      rfl
  | head pull _ inductionHypothesis =>
      cases pull with
      | suspends sync waiting inFlight finished started peak room =>
          exact inductionHypothesis fun later member =>
            suspended later (List.mem_cons_of_mem sync member)
      | ends sync waiting inFlight finished started peak room isAtOnce =>
          exact absurd isAtOnce (suspended sync List.mem_cons_self)

/-- At first as many syncs are in flight as may be, or all of them. -/
theorem Settles.inFlight_length (suspended : ∀ sync ∈ syncs, ¬ atOnce sync)
    (settles : Settles (effectiveLimit limit) atOnce (begin syncs) progress) :
    progress.inFlight.length = min (max limit 1) syncs.length := by
  have bounded := settles.reaches.isBounded (isBounded_begin limit syncs)
  have keeps := settles.reaches.keeps (keeps_begin syncs)
  have noneFinished : progress.finished = [] := settles.finished_eq suspended
  -- Nothing has ended yet, so all that was started is in flight.
  have sameLength := keeps.started_perm.length_eq
  rw [noneFinished, List.nil_append] at sameLength
  have total : progress.started.length + progress.waiting.length = syncs.length := by
    rw [← keeps.inOrder, List.length_append]
  have atMost := Nat.le_trans bounded.inFlight bounded.withinLimit
  rw [effectiveLimit] at atMost
  rcases settles.settled with noneWaiting | full
  · rw [noneWaiting, List.length_nil] at total
    omega
  · rw [effectiveLimit] at full
    omega

theorem Occurs.peak_eq (suspended : ∀ sync ∈ syncs, ¬ atOnce sync)
    (occurs : Occurs (effectiveLimit limit) atOnce syncs progress) :
    progress.peak = min (max limit 1) syncs.length := by
  have within := occurs.reaches.isWithin.peak
  rw [List.length_map] at within
  refine Nat.le_antisymm within ?_
  clear within
  induction occurs with
  | first settles =>
      rw [← settles.inFlight_length suspended]
      exact (settles.reaches.isBounded (isBounded_begin limit syncs)).inFlight
  | turn _ turn inductionHypothesis =>
      exact Nat.le_trans inductionHypothesis turn.reaches.peak_le

end Progress

/-! ## The limit of a dispatch -/

open Progress

/-- At every point of a dispatch the syncs that have started are the first ones in their order, and
no more of them are in flight than the limit allows. Where a dispatch is left until a sync ends, a
decision waits only while as many are in flight as may be, and there is always a way to the end.
When no sync ends at once, the peak is reached at the beginning: the limit, or all of them. A limit
of zero is a limit of one. The dispatch of this library is one of these. -/
theorem occurs_withinLimit (limit : Nat) (atOnce : Outcome → Prop) (syncs : List Outcome) :
    (∀ progress, Reaches limit (Progress.begin syncs) progress →
      IsWithin limit (syncs.map Outcome.decision) progress.toDispatch) ∧
    (∀ progress, Occurs (effectiveLimit limit) atOnce syncs progress →
      Reaches limit (Progress.begin syncs) progress ∧ IsBusy limit progress.toDispatch ∧
      ∃ final, Relation.ReflTransGen (Turn (effectiveLimit limit) atOnce) progress final ∧
        final.IsFinished) ∧
    ((∀ sync ∈ syncs, ¬ atOnce sync) →
      (∀ progress, Settles (effectiveLimit limit) atOnce (Progress.begin syncs) progress →
        progress.inFlight.length = min (max limit 1) syncs.length) ∧
      ∀ progress, Occurs (effectiveLimit limit) atOnce syncs progress →
        progress.peak = min (max limit 1) syncs.length) ∧
    (∀ execute : Decision → Except Failure Unit,
      (∀ sync ∈ syncs, execute sync.decision = sync.result) →
      ∃ final, Occurs (effectiveLimit limit) atOnce syncs final ∧ final.IsFinished ∧
        final.toDispatch = complete (m := Id) execute limit (syncs.map Outcome.decision)) ∧
    (∀ progress, (Reaches 0 (Progress.begin syncs) progress ↔
        Reaches 1 (Progress.begin syncs) progress) ∧
      (Occurs (effectiveLimit 0) atOnce syncs progress ↔
        Occurs (effectiveLimit 1) atOnce syncs progress)) ∧
    ∀ {m : Type → Type} [Monad m] (execute : Decision → m (Except Failure Unit))
      (decisions : List Decision), complete execute 0 decisions = complete execute 1 decisions := by
  have zeroIsOne : effectiveLimit 0 = effectiveLimit 1 := rfl
  refine ⟨fun progress reached => reached.isWithin, fun progress occurs => ?_,
    fun suspended => ⟨?_, ?_⟩, fun execute executed => exists_complete limit atOnce executed,
    fun progress => ⟨reaches_congr zeroIsOne, ?_⟩, fun execute decisions => ?_⟩
  · exact ⟨occurs.reaches, occurs.isBusy, occurs.exists_finished⟩
  · intro progress settles
    exact settles.inFlight_length suspended
  · intro progress occurs
    exact occurs.peak_eq suspended
  · rw [zeroIsOne]
  · exact drain_congr zeroIsOne execute _ _

/-- Two syncs that succeed. -/
def twoSyncs : List Outcome :=
  [⟨⟨0, ⟨"a", "1"⟩, .missing⟩, .ok ()⟩, ⟨⟨1, ⟨"b", "1"⟩, .missing⟩, .ok ()⟩]

/-- The first of the two is in flight, and the other one waits for its end. -/
def oneWaits : Progress :=
  { waiting := twoSyncs.tail
    inFlight := twoSyncs.take 1
    finished := []
    started := twoSyncs.take 1
    peak := 1 }

theorem occurs_withinLimit_twoSyncs :
    Settles (effectiveLimit 0) (fun _ => False) (Progress.begin twoSyncs) oneWaits ∧
      IsWithin 0 (twoSyncs.map Outcome.decision) oneWaits.toDispatch ∧
      oneWaits.toDispatch.waiting ≠ [] ∧
      oneWaits.toDispatch.inFlight.length = max 0 1 ∧
      oneWaits.inFlight.length = min (max 0 1) twoSyncs.length ∧
      oneWaits.peak = min (max 0 1) twoSyncs.length ∧
      (∃ final, Relation.ReflTransGen (Turn (effectiveLimit 0) fun _ => False) oneWaits final ∧
        final.IsFinished) ∧
      ∃ final, Occurs (effectiveLimit 0) (fun _ => False) twoSyncs final ∧ final.IsFinished ∧
        final.toDispatch =
          complete (m := Id) (fun _ => .ok ()) 0 (twoSyncs.map Outcome.decision) := by
  have pull : Pull (effectiveLimit 0) (fun _ => False) (Progress.begin twoSyncs) oneWaits :=
    .suspends _ _ [] [] [] 0 (by decide)
  have settles : Settles (effectiveLimit 0) (fun _ => False) (Progress.begin twoSyncs) oneWaits :=
    ⟨.single pull, Or.inr (by decide)⟩
  have waits : oneWaits.toDispatch.waiting ≠ [] := List.cons_ne_nil _ _
  obtain ⟨within, left, peaks, completes, _⟩ :=
    occurs_withinLimit 0 (fun _ => False) twoSyncs
  obtain ⟨reached, busy, finishable⟩ := left oneWaits (.first settles)
  obtain ⟨atFirst, throughout⟩ := peaks fun _ _ => not_false
  refine ⟨settles, within oneWaits reached, waits, busy waits, atFirst oneWaits settles,
    throughout oneWaits (.first settles), finishable, completes (fun _ => .ok ()) ?_⟩
  simp [twoSyncs]

end Dispatch

end ModelHub

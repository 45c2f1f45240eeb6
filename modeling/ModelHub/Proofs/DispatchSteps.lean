import Mathlib.Logic.Relation
import ModelHub.Dispatch

/-!
# Dispatches step by step

A waiting sync starts when fewer are in flight than the limit allows, and any sync in flight may be
the next one to end. Whatever the order of these steps, every sync is started once and ends once. A
dispatch pulls what waits as long as there is room, so between two ends it is left in a state where
nothing more can be pulled. The dispatch of this library goes from one such state to the next, and
in it the sync that was started first ends first. Whatever carries it out, it carries out every sync
once, one after another.
-/

namespace ModelHub

namespace Dispatch

/-! ## Steps -/

/-- A dispatch in progress, where an outcome stands for its sync from the beginning: for the
decision and for the result that the sync has when it ends. -/
structure Progress where
  waiting : List Outcome
  inFlight : List Outcome
  finished : List Outcome
  started : List Outcome
  peak : Nat

namespace Progress

/-- Every sync still waits. -/
def begin (syncs : List Outcome) : Progress :=
  { waiting := syncs, inFlight := [], finished := [], started := [], peak := 0 }

/-- What the dispatch knows of its progress: no result before its sync has ended. -/
def toDispatch (progress : Progress) : Dispatch :=
  { waiting := progress.waiting.map Outcome.decision
    inFlight := progress.inFlight.map Outcome.decision
    finished := progress.finished
    started := progress.started.map Outcome.decision
    peak := progress.peak }

/-- The syncs that have not ended, those in flight first. -/
def pending (progress : Progress) : List Outcome := progress.inFlight ++ progress.waiting

def IsFinished (progress : Progress) : Prop := progress.waiting = [] ∧ progress.inFlight = []

/-- The first waiting sync starts, for which there has to be room, or one in flight ends. -/
inductive Step (limit : Nat) : Progress → Progress → Prop
  | start (sync : Outcome) (waiting inFlight finished started : List Outcome) (peak : Nat) :
      inFlight.length < effectiveLimit limit →
      Step limit ⟨sync :: waiting, inFlight, finished, started, peak⟩
        ⟨waiting, inFlight ++ [sync], finished, started ++ [sync],
          max peak (inFlight.length + 1)⟩
  | finish (sync : Outcome) (waiting before after finished started : List Outcome) (peak : Nat) :
      Step limit ⟨waiting, before ++ sync :: after, finished, started, peak⟩
        ⟨waiting, before ++ after, finished ++ [sync], started, peak⟩

/-- The second progress comes of the first one by steps in any order. -/
abbrev Reaches (limit : Nat) : Progress → Progress → Prop := Relation.ReflTransGen (Step limit)

/-- What holds however the syncs end: none is lost or repeated, and they start in their order. -/
structure Keeps (syncs : List Outcome) (progress : Progress) : Prop where
  accounted : (progress.finished ++ progress.pending).Perm syncs
  inOrder : progress.started ++ progress.waiting = syncs

theorem keeps_begin (syncs : List Outcome) : (begin syncs).Keeps syncs :=
  ⟨List.Perm.refl syncs, rfl⟩

variable {limit : Nat} {syncs : List Outcome} {progress next final : Progress}

theorem Step.keeps (step : Step limit progress next) (keeps : progress.Keeps syncs) :
    next.Keeps syncs := by
  obtain ⟨accounted, inOrder⟩ := keeps
  cases step with
  | start sync waiting inFlight finished started peak room =>
      constructor
      · simpa [pending] using accounted
      · simpa using inOrder
  | finish sync waiting before after finished started peak =>
      have moved : (sync :: (before ++ after)).Perm (before ++ sync :: after) :=
        List.perm_middle.symm
      refine ⟨List.Perm.trans ?_ accounted, inOrder⟩
      simpa [pending] using (moved.append_right waiting).append_left finished

/-- What every step keeps is kept by any number of steps. -/
theorem Reaches.preserves {kept : Progress → Prop}
    (stepKeeps : ∀ {progress next}, Step limit progress next → kept progress → kept next)
    (reached : Reaches limit progress final) (holds : kept progress) : kept final := by
  induction reached with
  | refl =>
      exact holds
  | tail _ step inductionHypothesis =>
      exact stepKeeps step inductionHypothesis

theorem Reaches.keeps (reached : Reaches limit progress final) (keeps : progress.Keeps syncs) :
    final.Keeps syncs :=
  reached.preserves Step.keeps keeps

/-- A finished dispatch has started all syncs in their order, and each of them has ended once. -/
theorem Reaches.finished (reached : Reaches limit (begin syncs) final) (done : final.IsFinished) :
    final.started = syncs ∧ final.finished.Perm syncs := by
  obtain ⟨accounted, inOrder⟩ := reached.keeps (keeps_begin syncs)
  rw [done.1, List.append_nil] at inOrder
  rw [pending, done.1, done.2, List.append_nil, List.append_nil] at accounted
  exact ⟨inOrder, accounted⟩

/-! ## Every dispatch comes to an end -/

/-- The number of steps to the end: a waiting sync has to start and to end. -/
def stepsLeft (progress : Progress) : Nat := 2 * progress.waiting.length + progress.inFlight.length

theorem Step.stepsLeft (step : Step limit progress next) :
    progress.stepsLeft = next.stepsLeft + 1 := by
  cases step with
  | start sync waiting inFlight finished started peak room =>
      simp only [Progress.stepsLeft, List.length_cons, List.length_append, List.length_nil]
      omega
  | finish sync waiting before after finished started peak =>
      simp only [Progress.stepsLeft, List.length_cons, List.length_append]
      omega

/-- At least one sync may be in flight, so a dispatch never stalls. -/
theorem exists_step (limit : Nat) (unfinished : ¬ progress.IsFinished) :
    ∃ next, Step limit progress next := by
  obtain ⟨waiting, inFlight, finished, started, peak⟩ := progress
  cases inFlight with
  | cons sync after =>
      exact ⟨_, Step.finish sync waiting [] after finished started peak⟩
  | nil =>
      cases waiting with
      | nil =>
          exact absurd ⟨rfl, rfl⟩ unfinished
      | cons sync waiting =>
          exact ⟨_, Step.start sync waiting [] finished started peak (Nat.le_max_right limit 1)⟩

/-- From every point on a dispatch can be finished. -/
theorem exists_finished (limit : Nat) (progress : Progress) :
    ∃ final, Reaches limit progress final ∧ final.IsFinished := by
  by_cases done : progress.IsFinished
  · exact ⟨progress, Relation.ReflTransGen.refl, done⟩
  · obtain ⟨next, step⟩ := exists_step limit done
    have fewer := step.stepsLeft
    obtain ⟨final, reached, finished⟩ := exists_finished limit next
    exact ⟨final, reached.head step, finished⟩
termination_by progress.stepsLeft

/-! ## Pulling as long as there is room -/

/-- The first waiting sync is pulled, for which there has to be room. It is suspended and stays in
flight, or it ends at once, if it is one that can do so. -/
inductive Pull (most : Nat) (atOnce : Outcome → Prop) : Progress → Progress → Prop
  | suspends (sync : Outcome) (waiting inFlight finished started : List Outcome) (peak : Nat) :
      inFlight.length < most →
      Pull most atOnce ⟨sync :: waiting, inFlight, finished, started, peak⟩
        ⟨waiting, inFlight ++ [sync], finished, started ++ [sync],
          max peak (inFlight.length + 1)⟩
  | ends (sync : Outcome) (waiting inFlight finished started : List Outcome) (peak : Nat) :
      inFlight.length < most → atOnce sync →
      Pull most atOnce ⟨sync :: waiting, inFlight, finished, started, peak⟩
        ⟨waiting, inFlight, finished ++ [sync], started ++ [sync],
          max peak (inFlight.length + 1)⟩

/-- What waits is pulled as long as anything waits and there is room. -/
structure Settles (most : Nat) (atOnce : Outcome → Prop) (progress next : Progress) : Prop where
  pulled : Relation.ReflTransGen (Pull most atOnce) progress next
  settled : next.waiting = [] ∨ most ≤ next.inFlight.length

/-- A sync in flight ends, and then what waits is pulled as long as there is room. -/
inductive Turn (most : Nat) (atOnce : Outcome → Prop) : Progress → Progress → Prop
  | ends (sync : Outcome) (waiting before after finished started : List Outcome) (peak : Nat)
      {next : Progress} :
      Settles most atOnce ⟨waiting, before ++ after, finished ++ [sync], started, peak⟩ next →
      Turn most atOnce ⟨waiting, before ++ sync :: after, finished, started, peak⟩ next

/-- The states in which a dispatch of the syncs is left until a sync in flight ends. -/
inductive Occurs (most : Nat) (atOnce : Outcome → Prop) (syncs : List Outcome) : Progress → Prop
  | first {progress : Progress} :
      Settles most atOnce (begin syncs) progress → Occurs most atOnce syncs progress
  | turn {progress next : Progress} :
      Occurs most atOnce syncs progress → Turn most atOnce progress next →
      Occurs most atOnce syncs next

/-- Where no more can be pulled and nothing is in flight, nothing waits. -/
theorem isFinished_of_settled
    (settled : progress.waiting = [] ∨ effectiveLimit limit ≤ progress.inFlight.length)
    (noneInFlight : progress.inFlight = []) : progress.IsFinished := by
  rcases settled with noneWaiting | full
  · exact ⟨noneWaiting, noneInFlight⟩
  · rw [noneInFlight] at full
    exact absurd (Nat.le_max_right limit 1) (Nat.not_le_of_lt (Nat.lt_succ_of_le full))

section Pulling

variable {most : Nat} {atOnce : Outcome → Prop}

theorem Pull.reaches (pull : Pull (effectiveLimit limit) atOnce progress next) :
    Reaches limit progress next := by
  cases pull with
  | suspends sync waiting inFlight finished started peak room =>
      exact .single (.start sync waiting inFlight finished started peak room)
  | ends sync waiting inFlight finished started peak room isAtOnce =>
      have starts := Step.start sync waiting inFlight finished started peak room
      have ended : Step limit
          ⟨waiting, inFlight ++ [sync], finished, started ++ [sync], max peak (inFlight.length + 1)⟩
          ⟨waiting, inFlight ++ [], finished ++ [sync], started ++ [sync],
            max peak (inFlight.length + 1)⟩ :=
        .finish sync waiting inFlight [] finished (started ++ [sync]) _
      rw [List.append_nil] at ended
      exact .tail (.single starts) ended

theorem Settles.reaches (settles : Settles (effectiveLimit limit) atOnce progress next) :
    Reaches limit progress next := by
  have pulled := settles.pulled
  clear settles
  induction pulled with
  | refl =>
      exact .refl
  | tail _ pull inductionHypothesis =>
      exact inductionHypothesis.trans pull.reaches

theorem Turn.reaches (turn : Turn (effectiveLimit limit) atOnce progress next) :
    Reaches limit progress next := by
  cases turn with
  | ends sync waiting before after finished started peak settles =>
      exact settles.reaches.head (.finish sync waiting before after finished started peak)

theorem Occurs.reaches (occurs : Occurs (effectiveLimit limit) atOnce syncs progress) :
    Reaches limit (begin syncs) progress := by
  induction occurs with
  | first settles =>
      exact settles.reaches
  | turn _ turn inductionHypothesis =>
      exact inductionHypothesis.trans turn.reaches

theorem Occurs.settled (occurs : Occurs most atOnce syncs progress) :
    progress.waiting = [] ∨ most ≤ progress.inFlight.length := by
  cases occurs with
  | first settles =>
      exact settles.settled
  | turn _ turn =>
      cases turn with
      | ends sync waiting before after finished started peak settles =>
          exact settles.settled

theorem Occurs.turns (occurs : Occurs most atOnce syncs progress)
    (turns : Relation.ReflTransGen (Turn most atOnce) progress final) :
    Occurs most atOnce syncs final := by
  induction turns with
  | refl =>
      exact occurs
  | tail _ turn inductionHypothesis =>
      exact inductionHypothesis.turn turn

end Pulling

end Progress

/-! ## Carrying out syncs one after another -/

/-- What the programs of a monad come to: the value that a program gives in a state, and the state
that it leaves. -/
structure Interpretation (m : Type → Type) [Monad m] (σ : Type) where
  Gives : {α : Type} → m α → σ → α → σ → Prop
  gives_pure {α : Type} (value : α) (state : σ) : Gives (pure value) state value state
  gives_bind {α β : Type} {first : m α} {next : α → m β} {value : α} {result : β}
    {before between after : σ} :
    Gives first before value between → Gives (next value) between result after →
    Gives (first >>= next) before result after

/-- The outcomes tell of syncs that are carried out one after another between two states. -/
inductive Executes {m : Type → Type} [Monad m] {σ : Type} (meaning : Interpretation m σ)
    (execute : Decision → m (Except Failure Unit)) : σ → List Outcome → σ → Prop
  | nil (state : σ) : Executes meaning execute state [] state
  | cons {before between after : σ} {outcome : Outcome} {outcomes : List Outcome} :
      meaning.Gives (execute outcome.decision) before outcome.result between →
      Executes meaning execute between outcomes after →
      Executes meaning execute before (outcome :: outcomes) after

/-- A program without effects gives its value. -/
def Interpretation.ofValues : Interpretation Id Unit where
  Gives program _ value _ := program = value
  gives_pure _ _ := rfl
  gives_bind := by
    rintro _ _ _ _ _ _ _ _ _ rfl given
    exact given

theorem executes_ofValues {execute : Decision → Except Failure Unit} {syncs : List Outcome}
    (executed : ∀ sync ∈ syncs, execute sync.decision = sync.result) :
    Executes .ofValues execute () syncs () := by
  induction syncs with
  | nil =>
      exact .nil ()
  | cons sync syncs inductionHypothesis =>
      obtain ⟨first, others⟩ := List.forall_mem_cons.1 executed
      exact .cons first (inductionHypothesis others)

namespace Progress

/-! ## The sync that was started first ends first -/

section FirstEndsFirst

variable (limit : Nat) (atOnce : Outcome → Prop)

/-- Starting all that may be started is pulling syncs that are all suspended. -/
theorem exists_refill (progress : Progress) :
    ∃ filled, Settles (effectiveLimit limit) atOnce progress filled ∧
      filled.toDispatch = refill limit progress.toDispatch ∧
      filled.pending = progress.pending ∧ filled.finished = progress.finished := by
  obtain ⟨waiting, inFlight, finished, started, peak⟩ := progress
  induction waiting generalizing inFlight started peak with
  | nil =>
      exact ⟨_, ⟨.refl, Or.inl rfl⟩, rfl, rfl, rfl⟩
  | cons sync waiting inductionHypothesis =>
      by_cases room : inFlight.length < effectiveLimit limit
      · obtain ⟨filled, settles, shown, samePending, sameFinished⟩ :=
          inductionHypothesis (inFlight ++ [sync]) (started ++ [sync])
            (max peak (inFlight.length + 1))
        have pulls := settles.pulled.head
          (.suspends sync waiting inFlight finished started peak room)
        refine ⟨filled, ⟨pulls, settles.settled⟩, ?_, ?_, sameFinished⟩
        · simpa [toDispatch, refill, fill, room] using shown
        · simpa [pending] using samePending
      · refine ⟨_, ⟨.refl, Or.inr (Nat.le_of_not_lt room)⟩, ?_, rfl, rfl⟩
        simp [toDispatch, refill, fill, room]

variable {limit} {atOnce} {syncs : List Outcome} {m : Type → Type} [Monad m] {σ : Type}
  {meaning : Interpretation m σ} {execute : Decision → m (Except Failure Unit)}

/-- Running a dispatch goes from one settled state to the next and carries out what is pending, one
sync after another. It ends when enough syncs may be run. -/
theorem exists_drain (steps : Nat) (progress : Progress)
    (enough : progress.pending.length ≤ steps) {before after : σ}
    (executes : Executes meaning execute before progress.pending after) :
    ∃ first final, Settles (effectiveLimit limit) atOnce progress first ∧
      Relation.ReflTransGen (Turn (effectiveLimit limit) atOnce) first final ∧
      final.IsFinished ∧ final.finished = progress.finished ++ progress.pending ∧
      meaning.Gives (drain execute limit steps progress.toDispatch) before final.toDispatch
        after := by
  induction steps generalizing progress before with
  | zero =>
      obtain ⟨filled, settles, shown, samePending, sameFinished⟩ :=
        exists_refill limit atOnce progress
      rw [← samePending] at enough executes
      rw [← samePending, ← sameFinished]
      rw [Nat.le_zero, List.length_eq_zero_iff] at enough
      rw [enough] at executes ⊢
      cases executes
      rw [pending, List.append_eq_nil_iff] at enough
      refine ⟨filled, filled, settles, .refl, ⟨enough.2, enough.1⟩,
        (List.append_nil filled.finished).symm, ?_⟩
      rw [shown]
      exact meaning.gives_pure _ _
  | succ steps inductionHypothesis =>
      obtain ⟨filled, settles, shown, samePending, sameFinished⟩ :=
        exists_refill limit atOnce progress
      rw [← samePending] at enough executes
      rw [← samePending, ← sameFinished]
      simp only [drain, ← shown]
      obtain ⟨waiting, inFlight, finished, started, peak⟩ := filled
      cases inFlight with
      | nil =>
          have done := isFinished_of_settled settles.settled rfl
          have noneWaiting : waiting = [] := done.1
          subst noneWaiting
          cases executes
          exact ⟨_, _, settles, .refl, done, (List.append_nil finished).symm,
            meaning.gives_pure _ _⟩
      | cons sync inFlight =>
          cases executes with
          | cons given others =>
              -- Filling loses none of the pending syncs, so there is one less after this end.
              obtain ⟨next, final, further, turns, done, inOrder, gives⟩ := inductionHypothesis
                ⟨waiting, inFlight, finished ++ [sync], started, peak⟩
                (Nat.le_of_succ_le_succ enough) others
              have turn : Turn (effectiveLimit limit) atOnce
                  ⟨waiting, sync :: inFlight, finished, started, peak⟩ next :=
                .ends sync waiting [] inFlight finished started peak further
              refine ⟨_, final, settles, turns.head turn, done, ?_,
                meaning.gives_bind given gives⟩
              rw [inOrder, List.append_assoc]
              rfl

/-- The dispatch of this library is one of those that pull as long as there is room, and each sync
is carried out once, in the order of the decisions. -/
theorem exists_complete_of_executes (limit : Nat) (atOnce : Outcome → Prop) {before after : σ}
    (executes : Executes meaning execute before syncs after) :
    ∃ final, Occurs (effectiveLimit limit) atOnce syncs final ∧ final.IsFinished ∧
      final.finished = syncs ∧
      meaning.Gives (complete execute limit (syncs.map Outcome.decision)) before final.toDispatch
        after := by
  have enough : (begin syncs).pending.length ≤ (syncs.map Outcome.decision).length := by
    simp [pending, begin]
  obtain ⟨first, final, settles, turns, done, inOrder, gives⟩ :=
    exists_drain _ (begin syncs) enough executes
  exact ⟨final, (Occurs.first settles).turns turns, done, inOrder, gives⟩

theorem exists_complete {execute : Decision → Except Failure Unit} (limit : Nat)
    (atOnce : Outcome → Prop)
    (executed : ∀ sync ∈ syncs, execute sync.decision = sync.result) :
    ∃ final, Occurs (effectiveLimit limit) atOnce syncs final ∧ final.IsFinished ∧
      final.toDispatch = complete (m := Id) execute limit (syncs.map Outcome.decision) := by
  obtain ⟨final, occurs, done, _, gives⟩ :=
    exists_complete_of_executes limit atOnce (executes_ofValues executed)
  exact ⟨final, occurs, done, gives.symm⟩

end FirstEndsFirst

end Progress

end Dispatch

end ModelHub

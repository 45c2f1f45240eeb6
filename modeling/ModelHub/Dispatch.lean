import ModelHub.Failure
import ModelHub.Hub.Decision

/-!
# Dispatch

Decisions are handed out in their order, at most a given number of them in flight at a time. A
sync that fails does not stop the others. At the end every decision has one outcome, and the
outcomes stand in the order of their ordinals.
-/

namespace ModelHub

/-- What became of one decision. -/
structure Outcome where
  decision : Decision
  result : Except Failure Unit

/-- The sync of the decision succeeded. -/
def Outcome.succeeded (outcome : Outcome) : Bool :=
  match outcome.result with
  | .ok _ => true
  | .error _ => false

/-- The state of a dispatch: what waits, what is in flight in the order of its start, and what has
finished in the order of its end. It also remembers what was started and how many were in flight
at most. -/
structure Dispatch where
  waiting : List Decision
  inFlight : List Decision
  finished : List Outcome
  started : List Decision
  peak : Nat

namespace Dispatch

/-- The number in flight when nothing else is said. -/
def defaultLimit : Nat := 4

/-- At least one sync may always be in flight. -/
def effectiveLimit (limit : Nat) : Nat := max limit 1

/-- The state in which every decision still waits. -/
def begin (decisions : List Decision) : Dispatch :=
  { waiting := decisions, inFlight := [], finished := [], started := [], peak := 0 }

/-- Starts waiting decisions, in their order, until the limit is reached. -/
def fill (limit : Nat) (waiting inFlight started : List Decision) (finished : List Outcome)
    (peak : Nat) : Dispatch :=
  match waiting with
  | [] => ⟨[], inFlight, finished, started, peak⟩
  | decision :: rest =>
    if inFlight.length < effectiveLimit limit then
      fill limit rest (inFlight ++ [decision]) (started ++ [decision]) finished
        (max peak (inFlight.length + 1))
    else ⟨decision :: rest, inFlight, finished, started, peak⟩

/-- The state after starting all that may be started. -/
def refill (limit : Nat) (state : Dispatch) : Dispatch :=
  fill limit state.waiting state.inFlight state.started state.finished state.peak

/-- Runs a dispatch in which the sync that was started first always ends first. The number bounds
the syncs that are run. -/
def drain {m : Type → Type} [Monad m] (execute : Decision → m (Except Failure Unit))
    (limit : Nat) : Nat → Dispatch → m Dispatch
  | 0, state => pure (refill limit state)
  | steps + 1, state =>
    let filled := refill limit state
    match filled.inFlight with
    | [] => pure filled
    | decision :: rest => do
      let result ← execute decision
      drain execute limit steps
        { filled with inFlight := rest, finished := filled.finished ++ [⟨decision, result⟩] }

/-- The outcomes in the order of their ordinals; those with the same ordinal keep their order. -/
def sortOutcomes (outcomes : List Outcome) : List Outcome :=
  outcomes.mergeSort fun left right => decide (left.decision.ordinal ≤ right.decision.ordinal)

/-- Syncs every decision and gives the final state. -/
def complete {m : Type → Type} [Monad m] (execute : Decision → m (Except Failure Unit))
    (limit : Nat) (decisions : List Decision) : m Dispatch :=
  drain execute limit decisions.length (begin decisions)

/-- Syncs every decision and gives the outcomes. -/
def run {m : Type → Type} [Monad m] (execute : Decision → m (Except Failure Unit))
    (limit : Nat) (decisions : List Decision) : m (List Outcome) := do
  let final ← complete execute limit decisions
  pure (sortOutcomes final.finished)

end Dispatch

end ModelHub

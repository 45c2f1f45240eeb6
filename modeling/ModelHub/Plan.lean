import ModelHub.Catalog.Resolution
import ModelHub.Hub.Decision

/-!
# Plans

A plan says which of the requested models have to be synced into the hub and which could not be
resolved. Every request keeps its place in the batch, whatever becomes of the others.
-/

namespace ModelHub

/-- A request whose latest version is not known. -/
structure Unresolved where
  ordinal : Nat
  request : Request
  error : ResolveError
  deriving DecidableEq, Repr

/-- What is to be done for a batch of requests, each list in the order of the batch. -/
structure Plan where
  decisions : List Decision
  unresolved : List Unresolved
  deriving DecidableEq, Repr

namespace Plan

/-- Why there is no plan: the hub could not be listed. -/
inductive Error where
  | listing (failure : Failure)
  deriving DecidableEq, Repr

/-- The words for a plan that could not be made. -/
def Error.message : Error → String
  | .listing failure => "failed to list hub contents: " ++ failure.message

/-- Every request of the batch was resolved. -/
def isComplete (plan : Plan) : Bool := plan.unresolved.isEmpty

/-- A request with its place in the batch and what resolving it gave. -/
structure Position where
  ordinal : Nat
  request : Request
  result : Except ResolveError Request

/-- Numbers the requests of a batch, from a number on. -/
def positionsFrom (first : Nat) :
    List Request → List (Except ResolveError Request) → List Position
  | request :: requests, result :: results =>
    ⟨first, request, result⟩ :: positionsFrom (first + 1) requests results
  | _, _ => []

/-- The resolved request at a position, with its number. -/
def Position.candidate? (position : Position) : Option (Nat × Request) :=
  match position.result with
  | .ok resolved => some (position.ordinal, resolved)
  | .error _ => none

/-- The request at a position that was not resolved. -/
def Position.unresolved? (position : Position) : Option Unresolved :=
  match position.result with
  | .ok _ => none
  | .error error => some ⟨position.ordinal, position.request, error⟩

/-- The plan for a batch whose requests were resolved, against a listing of the hub. -/
def assemble (requests : List Request) (results : List (Except ResolveError Request))
    (records : List Record) : Plan :=
  let positions := positionsFrom 0 requests results
  { decisions :=
      Decision.reconcile (Index.ofRecords records) (positions.filterMap Position.candidate?)
    unresolved := positions.filterMap Position.unresolved? }

/-- Makes the plan for a batch: resolves the requests, lists the hub and decides. A listing that
fails is reported whatever the lookups gave. -/
def make {m : Type → Type} [Monad m] (lookup : String → m (Except Failure String))
    (listing : m (Except Failure (List Record))) (requests : List Request) :
    m (Except Error Plan) := do
  let results ← Resolution.resolveAll lookup requests
  match ← listing with
  | .error failure => pure (.error (.listing failure))
  | .ok records => pure (.ok (assemble requests results records))

end Plan

end ModelHub

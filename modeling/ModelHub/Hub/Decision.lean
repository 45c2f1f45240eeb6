import ModelHub.Hub.Index
import ModelHub.Request

/-!
# Decisions

A decision says that a request has to be synced into the hub, and why. A request is left out when
the hub holds the model at the requested version or a newer one; a copy is never replaced by an
older one.
-/

namespace ModelHub

/-- Why a request has to be synced. -/
inductive Reason where
  | missing
  | outdated (hubVersion : String)
  | hubVersionUnknown
  | requestedVersionUnknown
  deriving DecidableEq, Repr

/-- The words for a reason. -/
def Reason.message : Reason → String
  | .missing => "missing"
  | .outdated hubVersion => s!"outdated ({hubVersion})"
  | .hubVersionUnknown => "hub version unknown"
  | .requestedVersionUnknown => "requested version unknown"

/-- The name of a reason in JSON. -/
def Reason.kind : Reason → String
  | .missing => "missing"
  | .outdated _ => "outdated"
  | .hubVersionUnknown => "hub_version_unknown"
  | .requestedVersionUnknown => "requested_version_unknown"

/-- A request that has to be synced, with its place in the batch it was submitted in. -/
structure Decision where
  ordinal : Nat
  request : Request
  reason : Reason
  deriving DecidableEq, Repr

namespace Decision

/-- The reason to sync a request into a hub with that index, if there is one. The version of the
hub is reported as the hub records it. -/
def reason? (index : Index) (request : Request) : Option Reason :=
  match index.get? request.modelId with
  | none => some .missing
  | some entry =>
    match entry.version?, entry.recordedVersion? with
    | some _, some recorded =>
      match Version.compareTexts request.version recorded with
      | none => some .requestedVersionUnknown
      | some .gt => some (.outdated recorded)
      | some _ => none
    | _, _ => some .hubVersionUnknown

/-- The decision on a numbered request, if it has to be synced. -/
def of? (index : Index) (numbered : Nat × Request) : Option Decision :=
  (reason? index numbered.2).map fun reason => ⟨numbered.1, numbered.2, reason⟩

/-- The decisions on numbered requests, in their order. -/
def reconcile (index : Index) (requests : List (Nat × Request)) : List Decision :=
  requests.filterMap (of? index)

end Decision

end ModelHub

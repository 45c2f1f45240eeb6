import ModelHub.CommandLine.Invocation
import ModelHub.Dispatch
import ModelHub.Json.Printer
import ModelHub.Plan
import ModelHub.Table

/-!
# Reports

What the commands show: decisions, synced models, models in the hub and resolved requests. Every
report can be written as a table or as JSON.
-/

namespace ModelHub

/-- Rows to be shown, as cells under columns and as JSON. -/
structure Report where
  columns : List Column
  rows : List (List String)
  json : Json

namespace Report

def left (title : String) : Column := ⟨title, .left⟩

def right (title : String) : Column := ⟨title, .right⟩

def render (report : Report) : OutputFormat → String
  | .table => Table.render ⟨report.columns, report.rows, true⟩
  | .headerlessTable => Table.render ⟨report.columns, report.rows, false⟩
  | .json => report.json.pretty ++ "\n"

end Report

/-! ## Decisions -/

def Request.toJson (request : Request) : Json :=
  .object [("model_id", .string request.modelId), ("version", .string request.version)]

/-- A reason as JSON; the version of the hub is given where it is the reason. -/
def Reason.toJson (reason : Reason) : Json :=
  .object
    (("kind", .string reason.kind) ::
      match reason with
      | .outdated hubVersion => [("hub_version", .string hubVersion)]
      | _ => [])

def Decision.toJson (decision : Decision) : Json :=
  .object
    [("ordinal", .integer decision.ordinal), ("request", decision.request.toJson),
      ("reason", decision.reason.toJson)]

def Decision.cells (decision : Decision) : List String :=
  [Nat.repr decision.ordinal, decision.request.modelId, decision.request.version,
    decision.reason.message]

def Report.ofDecisions (decisions : List Decision) : Report :=
  { columns := [right "ORDINAL", left "MODEL", left "VERSION", left "REASON"]
    rows := decisions.map Decision.cells
    json := .array (decisions.map Decision.toJson) }

/-! ## Synced models -/

/-- What became of a model that was to be synced. -/
inductive SyncStatus where
  | synced
  | failed
  | dryRun
  deriving DecidableEq, Repr

def SyncStatus.name : SyncStatus → String
  | .synced => "synced"
  | .failed => "failed"
  | .dryRun => "dry_run"

/-- A model that was to be synced. -/
structure SyncedModel where
  ordinal : Nat
  modelId : String
  version : String
  status : SyncStatus
  error : Option String
  deriving DecidableEq, Repr

namespace SyncedModel

def ofOutcome (dryRun : Bool) (outcome : Outcome) : SyncedModel :=
  { ordinal := outcome.decision.ordinal
    modelId := outcome.decision.request.modelId
    version := outcome.decision.request.version
    status :=
      match outcome.result with
      | .ok _ => if dryRun then .dryRun else .synced
      | .error _ => .failed
    error :=
      match outcome.result with
      | .ok _ => none
      | .error failure => some failure.message }

def cells (model : SyncedModel) : List String :=
  [Nat.repr model.ordinal, model.modelId, model.version, model.status.name]

/-- A synced model as JSON; an error is given where there is one. -/
def toJson (model : SyncedModel) : Json :=
  .object
    ([("ordinal", .integer model.ordinal), ("model_id", .string model.modelId),
        ("version", .string model.version), ("status", .string model.status.name)]
      ++ (match model.error with
          | none => []
          | some error => [("error", .string error)]))

end SyncedModel

def Report.ofSynced (models : List SyncedModel) : Report :=
  { columns := [right "ORDINAL", left "MODEL", left "VERSION", left "STATUS"]
    rows := models.map SyncedModel.cells
    json := .array (models.map SyncedModel.toJson) }

/-! ## Models in the hub -/

/-- A model in the hub. -/
structure ListedModel where
  name : String
  version : Option String
  catalogId : Option String
  catalogVersion : Option String
  status : Option String
  deriving DecidableEq, Repr

namespace ListedModel

def ofEntry (entry : Entry) : ListedModel :=
  { name := entry.name
    version := entry.recordedVersion?
    catalogId := entry.tag?.map (·.modelId)
    catalogVersion := entry.tag?.map (·.version)
    status := entry.status.map Json.display }

/-- The models in a listing: one for every catalog model, the one that requests are compared with,
sorted by its id; or one for every readable record, in the order of the listing. -/
def ofRecords (all : Bool) (records : List Record) : List ListedModel :=
  let entries := records.filterMap Entry.ofRecord?
  if all then entries.map ofEntry
  else (Index.ofEntries entries).toSortedList.map fun item => ofEntry item.2

def missingMark : String := "-"

def cells (model : ListedModel) : List String :=
  [model.name, model.version.getD missingMark, model.catalogId.getD missingMark,
    model.catalogVersion.getD missingMark, model.status.getD missingMark]

def toJson (model : ListedModel) : Json :=
  .object
    [("name", .string model.name), ("version", .ofText? model.version),
      ("upstream_id", .ofText? model.catalogId),
      ("upstream_version", .ofText? model.catalogVersion), ("status", .ofText? model.status)]

end ListedModel

def Report.ofListed (models : List ListedModel) : Report :=
  { columns :=
      [left "NAME", left "VERSION", left "UPSTREAM_ID", left "UPSTREAM_VERSION", left "STATUS"]
    rows := models.map ListedModel.cells
    json := .array (models.map ListedModel.toJson) }

/-! ## Resolved requests -/

/-- A request and the version it came to. -/
structure ResolvedModel where
  modelId : String
  requested : String
  resolved : String
  deriving DecidableEq, Repr

namespace ResolvedModel

/-- What was asked for: a version or the latest one. -/
def requestedLabel (request : Request) : String :=
  if request.isLatest then "latest" else request.version

def ofResolution (request resolved : Request) : ResolvedModel :=
  ⟨resolved.modelId, requestedLabel request, resolved.version⟩

def cells (model : ResolvedModel) : List String :=
  [model.modelId, model.requested, model.resolved]

def toJson (model : ResolvedModel) : Json :=
  .object
    [("model_id", .string model.modelId), ("requested", .string model.requested),
      ("resolved", .string model.resolved)]

end ResolvedModel

def Report.ofResolved (models : List ResolvedModel) : Report :=
  { columns := [left "MODEL", left "REQUESTED", left "RESOLVED"]
    rows := models.map ResolvedModel.cells
    json := .array (models.map ResolvedModel.toJson) }

end ModelHub

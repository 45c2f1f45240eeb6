import ModelHub.Command.Context

/-!
# Planning and syncing

`plan` shows which of the requested models have to be synced into the hub, and `sync` syncs them.
Both make the plan in the same way, so a sync does what a plan shows.
-/

namespace ModelHub.Context

/-! ## Making the plan -/

/-- How the records of the hub that is meant are listed: by asking the hub, or from a saved
listing. The saved one is read before anything is asked. -/
def listing (context : Context) (options : PlanOptions) :
    Session (Session (Except Failure (List Record))) :=
  match options.listing with
  | some path => do
    let file ← Session.readFile path
    let records ← context.require Cause.message (Listing.ofFile path file)
    pure (pure (.ok records))
  | none => do
    let hub ← context.hub options.sources
    pure (hub.listRecords context.pageLimit)

/-- What is said about a request that is left out because it could not be resolved. -/
def skippedMessage (unresolved : Unresolved) : String :=
  s!"skipping \"{unresolved.request.label}\" (#{unresolved.ordinal}): " ++ unresolved.error.message

/-- What is said when requests could not be resolved and the others may not be synced without
them. -/
def incompleteMessage (unresolved requested : Nat) : String :=
  s!"{unresolved} of {requested} requested models could not be resolved, "
    ++ "pass --skip-unresolved to sync the rest"

/-- Reports the requests that could not be resolved. Unless they may be skipped, nothing follows
them. -/
def reportUnresolved (context : Context) (skip : Bool) (requested : Nat)
    (unresolved : List Unresolved) : Session Unit := do
  if skip then unresolved.forM fun item => context.warn (skippedMessage item)
  else
    unresolved.forM fun item => context.error item.error.message
    if unresolved.isEmpty then pure ()
    else context.die (incompleteMessage unresolved.length requested)

def makePlan (context : Context) (options : PlanOptions) : Session Plan := do
  let requests ← context.requests options.specs options.modelsFile
  let catalog ← context.catalog options.sources
  let listing ← context.listing options
  let made ← Plan.make catalog.latest listing requests
  let plan ← context.require Plan.Error.message made
  context.reportUnresolved options.skipUnresolved requests.length plan.unresolved
  pure plan

def plan (context : Context) (options : PlanOptions) : Session Unit := do
  let plan ← context.makePlan options
  showReport options.format (Report.ofDecisions plan.decisions)

/-! ## Syncing -/

def upToDateMessage : String := "hub is up to date"

def syncFailedMessage (decision : Decision) (failure : Failure) : String :=
  s!"failed to sync \"{decision.request.label}\" (#{decision.ordinal}): " ++ failure.message

def failedSummary (failed total : Nat) : String := s!"{failed} of {total} models failed to sync"

def succeededSummary (dryRun : Bool) (total : Nat) : String :=
  if dryRun then s!"{total} models would be synced" else s!"synced {total} models"

def reportFailed (context : Context) (outcomes : List Outcome) : Session Unit :=
  outcomes.forM fun outcome =>
    match outcome.result with
    | .ok _ => pure ()
    | .error failure => context.error (syncFailedMessage outcome.decision failure)

/-- Nothing is synced in a dry run. -/
def skipSync (_ : Decision) : Session (Except Failure Unit) := pure (.ok ())

/-- The outcomes of syncing the decisions, or of not doing so in a dry run. -/
def syncAll (context : Context) (options : SyncOptions) (dryRun : Bool)
    (decisions : List Decision) : Session (List Outcome) := do
  let limit := options.maxConcurrency.getD context.config.sync.maxConcurrency
  if dryRun then Dispatch.run skipSync limit decisions
  else
    let hub ← context.hub options.plan.sources
    Dispatch.run hub.syncModel limit decisions

/-- Says what became of the syncs. The run fails if one of them did. -/
def concludeSync (context : Context) (format : OutputFormat) (dryRun : Bool)
    (outcomes : List Outcome) : Session Unit := do
  context.reportFailed outcomes
  showReport format (Report.ofSynced (outcomes.map (SyncedModel.ofOutcome dryRun)))
  let failed := outcomes.countP fun outcome => !outcome.succeeded
  if 0 < failed then
    Session.report (context.color.paint .red (failedSummary failed outcomes.length))
    Session.exit failureCode
  else
    Session.report (context.color.paint .green (succeededSummary dryRun outcomes.length))

/-- Syncs the models that the plan decides on. -/
def sync (context : Context) (options : SyncOptions) : Session Unit := do
  let plan ← context.makePlan options.plan
  if plan.decisions.isEmpty then
    Session.report (context.color.paint .green upToDateMessage)
  else
    let dryRun := options.dryRun || context.config.sync.dryRun
    let outcomes ← context.syncAll options dryRun plan.decisions
    context.concludeSync options.plan.format dryRun outcomes

end ModelHub.Context

import ModelHub.Proofs.PlanGrounds
import ModelHub.Proofs.ReportRows

/-!
# A sync does what a plan shows

Both commands make the plan in the same way. The one shows its decisions; the other one syncs every
one of them once and shows a row for each, in the order of the plan whatever the order in which the
syncs end, and the run succeeds if and only if all of them did.
-/

namespace ModelHub

namespace Context

variable {context : Context} {world : World}

/-! ## What the commands start from -/

/-- The command line and the configuration name the hub, and its API base is one of a service. -/
structure HasHub (context : Context) (sources : Sources) (hub : Hub) : Prop where
  name : sources.hub.or context.config.hub.name = some hub.name
  apiBase : ∃ text, context.config.hub.apiBase = some text ∧ Url.parse text = .ok hub.apiBase
  overService : hub.apiBase.scheme ∈ Http.schemes

theorem HasHub.hub_eq {sources : Sources} {hub : Hub} (hasHub : context.HasHub sources hub) :
    context.hub sources = pure hub := by
  obtain ⟨text, isApiBase, parsed⟩ := hasHub.apiBase
  simp only [Context.hub, hasHub.name, isApiBase, Hub.connect, parsed]
  rfl

theorem HasHub.isOverService {sources : Sources} {hub : Hub}
    (hasHub : context.HasHub sources hub) : hub.IsOverService := by
  obtain ⟨text, _, parsed⟩ := hasHub.apiBase
  exact ⟨⟨text, parsed⟩, hasHub.overService⟩

variable {planned : World} {plan : Plan}

/-- The decisions of a plan that a command makes stand in the order of their ordinals. -/
theorem decisions_increasing_of_run_makePlan {options : PlanOptions}
    (made : world.run (context.makePlan options) = (.ok plan, planned)) :
    (plan.decisions.map Decision.ordinal).Pairwise (· < ·) := by
  obtain ⟨requests, results, plans⟩ := exists_plans_of_run_makePlan made
  obtain ⟨_, _, records, _, _, _, _, isPlan, _⟩ := plans.listed
  subst isPlan
  exact Plan.decisions_assemble_increasing requests results records

/-! ## What the commands show -/

theorem run_plan {options : PlanOptions}
    (made : world.run (context.makePlan options) = (.ok plan, planned)) :
    world.run (context.plan options) =
      (.ok (), { planned with
        output :=
          planned.output ++ (Report.ofDecisions plan.decisions).render options.format }) := by
  unfold Context.plan
  rw [World.run_bind_of_ok made]
  rfl

theorem exists_run_reportFailed (context : Context) (world : World) (outcomes : List Outcome) :
    ∃ errors, world.run (context.reportFailed outcomes) =
      (.ok (), { world with errors := errors }) := by
  induction outcomes generalizing world with
  | nil =>
      exact ⟨world.errors, rfl⟩
  | cons outcome outcomes inductionHypothesis =>
      obtain ⟨decision, result⟩ := outcome
      cases result with
      | ok done =>
          exact inductionHypothesis world
      | error failure =>
          obtain ⟨errors, run⟩ := inductionHypothesis { world with errors := world.errors ++
            (Severity.error.format context.color (syncFailedMessage decision failure) ++ "\n") }
          exact ⟨errors, run⟩

/-- After the syncs there is a row for every outcome, and the run fails if one of them did. -/
theorem exists_run_concludeSync (context : Context) (format : OutputFormat) (dryRun : Bool)
    (world : World) (outcomes : List Outcome) :
    ∃ errors, world.run (context.concludeSync format dryRun outcomes) =
      (if ∀ outcome ∈ outcomes, outcome.succeeded = true then .ok ()
        else .error (.exit 1),
        { world with
          output := world.output ++
            (Report.ofSynced (outcomes.map (SyncedModel.ofOutcome dryRun))).render format
          errors := errors }) := by
  obtain ⟨errors, reported⟩ := exists_run_reportFailed context world outcomes
  have noneFailed_iff : (0 < outcomes.countP fun outcome => !outcome.succeeded) ↔
      ¬ ∀ outcome ∈ outcomes, outcome.succeeded = true := by
    simp [List.countP_pos_iff]
  unfold concludeSync
  rw [World.run_bind_of_ok reported]
  by_cases all : ∀ outcome ∈ outcomes, outcome.succeeded = true
  · rw [if_pos all]
    simp only [noneFailed_iff, not_not.2 all, if_false]
    exact ⟨_, rfl⟩
  · rw [if_neg all]
    simp only [noneFailed_iff, if_pos all]
    exact ⟨_, rfl⟩

end Context

/-! ## A sync carries out the plan -/

/-- The row names the decision of the sync and says whether it succeeded. -/
structure SyncedModel.Reports (row : SyncedModel) (outcome : Outcome) : Prop where
  ordinal : row.ordinal = outcome.decision.ordinal
  modelId : row.modelId = outcome.decision.request.modelId
  version : row.version = outcome.decision.request.version
  status : row.status = if outcome.succeeded then .synced else .failed
  word : row.status.name = if outcome.succeeded then "synced" else "failed"

theorem SyncedModel.ofOutcome_reports (outcome : Outcome) :
    (ofOutcome false outcome).Reports outcome := by
  obtain ⟨decision, result⟩ := outcome
  cases result with
  | ok done =>
      exact ⟨rfl, rfl, rfl, rfl, rfl⟩
  | error failure =>
      exact ⟨rfl, rfl, rfl, rfl, rfl⟩

/-- What a run leaves that has synced a plan made in a world, if the syncs ended in the order of the
outcomes: every decision was synced once and nothing else was asked; where no answer leads elsewhere
every sync is one request to import its model; a row is shown for every decision, in the order of
the plan; and the run has succeeded if and only if all rows say so. -/
structure Plan.IsFulfilled (plan : Plan) (hub : Hub) (url : Url) (format : OutputFormat)
    (planned : World) (outcomes : List Outcome) (ended : Except Ending Unit × World) : Prop where
  executed : ∃ synced, World.Executes hub.syncModel planned outcomes synced ∧
    ended.2.exchanges = synced.exchanges
  posted (askable : Http.isAskable url.withoutCredentials = true)
    (stays : ∀ decision ∈ plan.decisions,
      planned.NeverRedirects (Hub.importRequest url decision.request)) :
    ∃ posts, ended.2.exchanges = planned.exchanges ++ posts ∧
      List.Forall₂ (fun outcome post => outcome.IsPosted url post) outcomes posts
  failed (notAskable : Http.isAskable url.withoutCredentials = false) :
    ended.2.exchanges = planned.exchanges ∧ ∀ outcome ∈ outcomes, outcome.succeeded = false
  shown : ∃ listed rows, listed.Perm outcomes ∧ listed.map Outcome.decision = plan.decisions ∧
    List.Forall₂ (fun outcome row => row.Reports outcome) listed rows ∧
    SyncedModel.AreShown rows format ((Report.ofSynced rows).render format) ∧
    ended.2.output = planned.output ++ (Report.ofSynced rows).render format ∧
    ended.1 = if ∀ row ∈ rows, row.status = .synced then .ok () else .error (.exit 1)

namespace Plan

variable {plan : Plan} {hub : Hub} {url : Url} {planned synced : World} {outcomes : List Outcome}

/-- In whatever order the syncs of a plan end, sorting the outcomes and showing them fulfils the
plan. -/
theorem isFulfilled_of_executes
    (increasing : (plan.decisions.map Decision.ordinal).Pairwise (· < ·))
    (imports : hub.importsUrl = .ok url)
    (sameDecisions : (outcomes.map Outcome.decision).Perm plan.decisions)
    (executes : World.Executes hub.syncModel planned outcomes synced)
    (context : Context) (format : OutputFormat) :
    plan.IsFulfilled hub url format planned outcomes
      (synced.run (context.concludeSync format false (Dispatch.sortOutcomes outcomes))) := by
  obtain ⟨errors, concluded⟩ := context.exists_run_concludeSync format false synced
    (Dispatch.sortOutcomes outcomes)
  rw [concluded]
  obtain ⟨asked, sameOutput⟩ := executes.exists_exchanges hub.onlyAsks_syncModel
  constructor
  case executed =>
    exact ⟨synced, executes, rfl⟩
  case posted =>
    intro askable stays
    have staysFor : ∀ outcome ∈ outcomes,
        planned.NeverRedirects (Hub.importRequest url outcome.decision.request) := by
      intro outcome member
      exact stays outcome.decision (sameDecisions.mem_iff.1 (List.mem_map_of_mem member))
    have exchanged := Hub.exists_exchanges_of_executes imports askable staysFor executes
    exact exchanged
  case failed =>
    intro notAskable
    obtain ⟨rfl, allFailed⟩ := Hub.failed_of_executes_of_not_askable imports notAskable executes
    exact ⟨rfl, allFailed⟩
  case shown =>
    refine ⟨Dispatch.sortOutcomes outcomes,
      (Dispatch.sortOutcomes outcomes).map (SyncedModel.ofOutcome false),
      Dispatch.sortOutcomes_perm outcomes,
      Dispatch.map_decision_sortOutcomes increasing sameDecisions, ?_,
      SyncedModel.areShown_render _ format, ?_, ?_⟩
    · rw [List.forall₂_map_right_iff, List.forall₂_same]
      exact fun outcome _ => SyncedModel.ofOutcome_reports outcome
    · rw [sameOutput]
    · have synced_iff (outcome : Outcome) :
          (SyncedModel.ofOutcome false outcome).status = .synced ↔ outcome.succeeded = true := by
        rw [(SyncedModel.ofOutcome_reports outcome).status]
        cases outcome.succeeded <;> simp
      simp only [List.forall_mem_map, synced_iff]

end Plan

namespace Context

/-- Where a plan can be made that decides on something, and its hub is one of a service, `plan`
shows the decisions, and `sync` fulfils them without a dry run at the URL of the imports of the hub,
whatever its limit of syncs in flight. This does not depend on the order in which the syncs end. -/
theorem sync_isFulfilled {context : Context} {options : SyncOptions} {hub : Hub} {plan : Plan}
    {world planned : World}
    (made : world.run (context.makePlan options.plan) = (.ok plan, planned))
    (nonempty : plan.decisions ≠ []) (hasHub : context.HasHub options.plan.sources hub)
    (notDry : options.dryRun = false) (notDryByConfig : context.config.sync.dryRun = false) :
    world.run (Run.command context (.plan options.plan)) =
        (.ok (), { planned with
          output := planned.output ++
            (Report.ofDecisions plan.decisions).render options.plan.format }) ∧
      Decision.AreShown plan.decisions options.plan.format
        ((Report.ofDecisions plan.decisions).render options.plan.format) ∧
      ∃ url, hub.importsUrl = .ok url ∧ hub.IsAddress "imports" url ∧
        (∃ outcomes, outcomes.map Outcome.decision = plan.decisions ∧
          plan.IsFulfilled hub url options.plan.format planned outcomes
            (world.run (Run.command context (.sync options)))) ∧
        ∀ outcomes synced, (outcomes.map Outcome.decision).Perm plan.decisions →
          World.Executes hub.syncModel planned outcomes synced →
          plan.IsFulfilled hub url options.plan.format planned outcomes
            (synced.run (context.concludeSync options.plan.format false
              (Dispatch.sortOutcomes outcomes))) := by
  have increasing := decisions_increasing_of_run_makePlan made
  obtain ⟨url, imports, isAddress⟩ :=
    Hub.exists_isAddress hasHub.isOverService Hub.imports_isWord
  have anyOrder (outcomes : List Outcome) (synced : World)
      (sameDecisions : (outcomes.map Outcome.decision).Perm plan.decisions)
      (executes : World.Executes hub.syncModel planned outcomes synced) :=
    Plan.isFulfilled_of_executes increasing imports sameDecisions executes context
      options.plan.format
  refine ⟨run_plan made, Decision.areShown_render _ _, url, imports, isAddress, ?_, anyOrder⟩
  obtain ⟨outcomes, synced, executes, sameDecisions, dispatched⟩ :=
    Dispatch.exists_run hub.onlyAsks_syncModel
      (options.maxConcurrency.getD context.config.sync.maxConcurrency) planned plan.decisions
  have syncedAll : planned.run (context.syncAll options false plan.decisions) =
      (.ok (Dispatch.sortOutcomes outcomes), synced) := by
    unfold syncAll
    rw [hasHub.hub_eq]
    exact dispatched
  have run : world.run (Run.command context (.sync options)) =
      synced.run (context.concludeSync options.plan.format false
        (Dispatch.sortOutcomes outcomes)) := by
    unfold Run.command sync
    rw [World.run_bind_of_ok made]
    simp only [List.isEmpty_iff, nonempty, if_false, notDry, notDryByConfig, Bool.or_false]
    rw [World.run_bind_of_ok syncedAll]
  rw [run]
  exact ⟨outcomes, sameDecisions,
    anyOrder outcomes synced (List.Perm.of_eq sameDecisions) executes⟩

def loopback : Url := ⟨"http", "", "", some "[::1]", none, false, .segments [""], none, none⟩

def loopbackContext : Context :=
  { color := .off
    config := { Config.default with hub := ⟨some "hub", some "http://[::1]"⟩ }
    pageLimit := 1 }

def twoModels : SyncOptions :=
  { plan :=
      { specs := ["x@1", "y@2"]
        modelsFile := none
        listing := none
        skipUnresolved := false
        sources := ⟨none, some "http://[::1]"⟩
        format := .table }
    dryRun := false
    maxConcurrency := none }

/-- The hub has no records, and only what is asked right after their listing succeeds. -/
def importsOnce : World :=
  World.fresh [] fun earlier request =>
    match request.method with
    | .get => .reply (.ofText 200 none "\x7b\x7d")
    | _ => .reply (.ofText (if earlier.length = 1 then 200 else 500) none "")

/-- Where the models are imported. -/
def loopbackImports : Url := { loopback with path := .segments ["hubs", "hub", "imports"] }

theorem sync_isFulfilled_twoModels :
    ∃ planned, importsOnce.run (loopbackContext.makePlan twoModels.plan) =
        (.ok ⟨[⟨0, ⟨"x", "1"⟩, .missing⟩, ⟨1, ⟨"y", "2"⟩, .missing⟩], []⟩, planned) ∧
      (importsOnce.run (Run.command loopbackContext (.plan twoModels.plan))).1 = .ok () ∧
      ∃ outcomes posts rows, (Hub.mk loopback "hub").importsUrl = .ok loopbackImports ∧
        outcomes.map Outcome.decision =
          [⟨0, ⟨"x", "1"⟩, .missing⟩, ⟨1, ⟨"y", "2"⟩, .missing⟩] ∧
        (importsOnce.run (Run.command loopbackContext (.sync twoModels))).2.exchanges =
          planned.exchanges ++ posts ∧
        List.Forall₂ (fun outcome post => outcome.IsPosted loopbackImports post) outcomes posts ∧
        SyncedModel.AreShown rows .table ((Report.ofSynced rows).render .table) ∧
        (importsOnce.run (Run.command loopbackContext (.sync twoModels))).2.output =
          planned.output ++ (Report.ofSynced rows).render .table := by
  have decided : (importsOnce.run (loopbackContext.makePlan twoModels.plan)).1 =
      .ok ⟨[⟨0, ⟨"x", "1"⟩, .missing⟩, ⟨1, ⟨"y", "2"⟩, .missing⟩], []⟩ := by decide +kernel
  obtain ⟨planned, made⟩ : ∃ planned, importsOnce.run (loopbackContext.makePlan twoModels.plan) =
      (.ok ⟨[⟨0, ⟨"x", "1"⟩, .missing⟩, ⟨1, ⟨"y", "2"⟩, .missing⟩], []⟩, planned) := by
    generalize importsOnce.run (loopbackContext.makePlan twoModels.plan) = ran at decided
    obtain ⟨result, planned⟩ := ran
    obtain rfl : result = _ := decided
    exact ⟨planned, rfl⟩
  have network : planned.network = importsOnce.network := by
    rw [← World.network_run importsOnce (loopbackContext.makePlan twoModels.plan), made]
  have hasHub : loopbackContext.HasHub twoModels.plan.sources ⟨loopback, "hub"⟩ :=
    ⟨rfl, ⟨"http://[::1]", rfl, by decide +kernel⟩, by decide⟩
  obtain ⟨shown, _, url, imports, _, ⟨outcomes, sameDecisions, fulfilled⟩, _⟩ :=
    sync_isFulfilled made (by simp) hasHub rfl rfl
  have isImports : (Hub.mk loopback "hub").importsUrl = .ok loopbackImports := by decide +kernel
  obtain rfl := Except.ok.inj (isImports.symm.trans imports)
  have stays (request : Http.Request) (isPost : request.method = .post) :
      planned.NeverRedirects request := by
    intro earlier reply isReply
    simp only [network, importsOnce, World.fresh, isPost] at isReply
    cases isReply
    rfl
  obtain ⟨posts, exchanges, posted⟩ := fulfilled.posted (by decide +kernel) fun _ _ => stays _ rfl
  obtain ⟨_, rows, _, _, _, areShown, output, _⟩ := fulfilled.shown
  exact ⟨planned, made, congrArg Prod.fst shown, outcomes, posts, rows, isImports, sameDecisions,
    exchanges, posted, areShown, output⟩

end Context

end ModelHub

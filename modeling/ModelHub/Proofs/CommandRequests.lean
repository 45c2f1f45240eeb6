import ModelHub.Proofs.LatestVersion
import ModelHub.Proofs.PlanGrounds
import ModelHub.Proofs.Trimming

/-!
# Requests that commands send

A command that only shows something sends requests that get something, and so does a sync in a dry
run. A sync imports what was resolved once its plan is made, a model is deleted once its version is
known, and a hub is created or deleted with one request.
-/

namespace ModelHub

/-! ## Syncs -/

/-- Syncs that are carried out one after another send what each of them sends. -/
theorem World.Executes.exists_sent {execute : Decision → Session (Except Failure Unit)}
    {allowed : Decision → Http.Request → Prop} {world final : World} {outcomes : List Outcome}
    (sends : ∀ decision, (execute decision).Sends (allowed decision))
    (executes : World.Executes execute world outcomes final) :
    ∃ asked, final.exchanges = world.exchanges ++ asked ∧
      ∀ exchange ∈ asked, ∃ outcome ∈ outcomes, allowed outcome.decision exchange.1 := by
  induction executes with
  | nil world =>
      exact ⟨[], (List.append_nil _).symm, fun _ member => absurd member List.not_mem_nil⟩
  | @cons world between final outcome outcomes first _ inductionHypothesis =>
      obtain ⟨asked, exchanges, all⟩ := sends outcome.decision world
      obtain ⟨askedLater, exchangesLater, allLater⟩ := inductionHypothesis
      rw [first] at exchanges
      refine ⟨asked ++ askedLater, ?_, List.forall_mem_append.2 ⟨?_, ?_⟩⟩
      · rw [exchangesLater, exchanges, List.append_assoc]
      · intro exchange member
        exact ⟨outcome, List.mem_cons_self, all exchange member⟩
      · intro exchange member
        obtain ⟨later, isLater, isAllowed⟩ := allLater exchange member
        exact ⟨later, List.mem_cons_of_mem _ isLater, isAllowed⟩

theorem Dispatch.sends_run {execute : Decision → Session (Except Failure Unit)}
    {allowed : Decision → Http.Request → Prop}
    (onlyAsks : ∀ decision, (execute decision).OnlyAsks)
    (sends : ∀ decision, (execute decision).Sends (allowed decision)) (limit : Nat)
    (decisions : List Decision) :
    (run execute limit decisions).Sends fun request =>
      ∃ decision ∈ decisions, allowed decision request := by
  intro world
  obtain ⟨outcomes, final, executes, rfl, ran⟩ := exists_run onlyAsks limit world decisions
  obtain ⟨asked, exchanges, all⟩ := executes.exists_sent sends
  rw [ran]
  refine ⟨asked, exchanges, fun exchange member => ?_⟩
  obtain ⟨outcome, isOutcome, isAllowed⟩ := all exchange member
  exact ⟨outcome.decision, List.mem_map_of_mem isOutcome, isAllowed⟩

/-- The request imports a model into the hub, or an answer to such a request leads to it. -/
def Hub.Imports (hub : Hub) (resolved : Request) (request : Http.Request) : Prop :=
  ∃ url, hub.importsUrl = .ok url ∧ (importRequest url resolved).LeadsTo request

theorem Hub.sends_syncModel (hub : Hub) (decision : Decision) :
    (hub.syncModel decision).Sends (hub.Imports decision.request) := by
  cases imports : hub.importsUrl with
  | error failure =>
      unfold syncModel
      rw [imports]
      exact Session.sends_pure _
  | ok url =>
      rw [syncModel_of_importsUrl imports]
      refine (Http.isSentBy_order _).sends.mono fun request leads => ?_
      exact ⟨url, imports, leads⟩

namespace Context

variable {context : Context} {world after : World}

theorem isSilent_concludeSync (context : Context) (format : OutputFormat) (dryRun : Bool)
    (outcomes : List Outcome) : (context.concludeSync format dryRun outcomes).IsSilent := by
  unfold concludeSync
  refine Session.IsSilent.bind ?_ fun _ => ?_
  · refine Session.isSilent_forM fun outcome => ?_
    split
    · exact Session.isSilent_pure _
    · exact Session.isSilent_report _
  · refine (Session.isSilent_print _).bind fun _ => ?_
    dsimp only
    split
    · exact (Session.isSilent_report _).bind fun _ => Session.isSilent_exit _
    · exact Session.isSilent_report _

/-- What is sent of the decisions of a plan imports them, and nothing is sent in a dry run. -/
theorem sends_syncAll (context : Context) (options : SyncOptions) (dryRun : Bool)
    (decisions : List Decision) :
    (context.syncAll options dryRun decisions).Sends fun request =>
      dryRun = false ∧ ∃ hub, context.hub options.plan.sources = pure hub ∧
        ∃ decision ∈ decisions, hub.Imports decision.request request := by
  unfold syncAll
  cases dryRun with
  | true =>
      have silent (decision : Decision) : (skipSync decision).IsSilent := Session.isSilent_pure _
      refine (Dispatch.sends_run (fun _ => .done _) silent _ _).mono fun request none => ?_
      obtain ⟨_, _, impossible⟩ := none
      exact impossible.elim
  | false =>
      refine (context.isSilent_hub _).sends.bind_of_given fun world _ hub given => ?_
      obtain ⟨isHub, _⟩ := eq_of_run_hub given
      refine (Dispatch.sends_run hub.onlyAsks_syncModel hub.sends_syncModel _ _).mono ?_
      exact fun request imports => ⟨rfl, hub, isHub, imports⟩

/-- What a sync does once its plan is made. -/
def carryOut (context : Context) (options : SyncOptions) (plan : Plan) : Session Unit := do
  if plan.decisions.isEmpty then
    Session.report (context.color.paint .green upToDateMessage)
  else
    let dryRun := options.dryRun || context.config.sync.dryRun
    let outcomes ← context.syncAll options dryRun plan.decisions
    context.concludeSync options.plan.format dryRun outcomes

theorem sync_eq (context : Context) (options : SyncOptions) :
    context.sync options = context.makePlan options.plan >>= context.carryOut options := rfl

theorem sends_carryOut (context : Context) (options : SyncOptions) (plan : Plan) :
    (context.carryOut options plan).Sends fun request =>
      (options.dryRun || context.config.sync.dryRun) = false ∧
        ∃ hub, context.hub options.plan.sources = pure hub ∧
          ∃ decision ∈ plan.decisions, hub.Imports decision.request request := by
  unfold carryOut
  split
  · exact (Session.isSilent_report _).sends
  · exact (context.sends_syncAll options _ plan.decisions).bind fun outcomes =>
      (context.isSilent_concludeSync _ _ outcomes).sends

/-- After planning there are the requests to import what was resolved, each for a decision of the
plan, and this is no dry run. -/
structure ImportsResolved (context : Context) (options : SyncOptions) (world : World)
    (asked : List (Http.Request × Http.Answer)) : Prop where
  notDry : options.dryRun = false
  notDryByConfig : context.config.sync.dryRun = false
  planned : ∃ requests results plan planned looked imports hub,
    world.run (context.makePlan options.plan) = (.ok plan, planned) ∧
      context.Plans options.plan world requests results plan planned ∧
      planned.exchanges = world.exchanges ++ looked ∧ Http.OnlyLooked looked ∧
      asked = looked ++ imports ∧ context.hub options.plan.sources = pure hub ∧
      ∀ exchange ∈ imports, ∃ decision ∈ plan.decisions,
        results[decision.ordinal]? = some (.ok decision.request) ∧
          hub.Imports decision.request exchange.1

theorem exists_of_run_sync (context : Context) (options : SyncOptions) (world : World) :
    ∃ asked, (world.run (context.sync options)).2.exchanges = world.exchanges ++ asked ∧
      (Http.OnlyLooked asked ∨ context.ImportsResolved options world asked) := by
  rw [sync_eq]
  obtain ⟨looked, onlyLooked, halted | ⟨plan, planned, made, isLooked, goesOn⟩⟩ :=
    Session.Exchanges.exists_run_bind (context.carryOut options)
      (context.looks_makePlan options.plan) world
  · exact ⟨looked, halted, Or.inl onlyLooked⟩
  · obtain ⟨imports, isImports, allImport⟩ := context.sends_carryOut options plan planned
    refine ⟨looked ++ imports, ?_, ?_⟩
    · rw [goesOn, isImports, isLooked, List.append_assoc]
    · cases imports with
      | nil =>
          rw [List.append_nil]
          exact Or.inl onlyLooked
      | cons first others =>
          obtain ⟨notDry, hub, isHub, _⟩ := allImport first List.mem_cons_self
          rw [Bool.or_eq_false_iff] at notDry
          obtain ⟨requests, results, plans⟩ := exists_plans_of_run_makePlan made
          refine Or.inr ⟨notDry.1, notDry.2, requests, results, plan, planned, looked, _, hub,
            made, plans, isLooked, onlyLooked, rfl, isHub, fun exchange member => ?_⟩
          obtain ⟨_, other, isOther, decision, isDecision, isImport⟩ := allImport exchange member
          obtain rfl := Session.done.inj (isHub.symm.trans isOther)
          obtain ⟨_, _, _, _, _, _, _, isPlan, _⟩ := plans.listed
          subst isPlan
          exact ⟨decision, isDecision, Plan.resolved_of_mem_decisions isDecision, isImport⟩

end Context

/-! ## Models -/

/-- A text that denotes a version is not the mark of the latest one, with or without blanks. -/
theorem Request.isLatestMark_eq_false {text : String} {version : Version}
    (parsed : Version.parse? text = some version) : isLatestMark text = false := by
  have notBlank : Text.trim text ≠ "" := by
    intro blank
    rw [Version.parse?_eq_none_of_trim_eq blank] at parsed
    cases parsed
  have notMark : Text.trim text ≠ latestMark := by
    intro isMark
    rw [← Version.parse?_trim, isMark] at parsed
    cases parsed
  simp [isLatestMark, notBlank, notMark]

theorem Manifest.isLatestMark_lookup {manifest : Manifest} {modelId version : String}
    (found : manifest.lookup modelId = .ok version) : Request.isLatestMark version = false := by
  rcases manifest.lookup_eq_of_latest modelId with
    ⟨entry, newest, isFound⟩ | ⟨_, failure, failed, _⟩
  · cases found.symm.trans isFound
    obtain ⟨denoted, parsed⟩ := newest.version
    exact Request.isLatestMark_eq_false parsed
  · cases found.symm.trans failed

/-- A version that a catalog gives is a concrete one. -/
theorem Catalog.isLatestMark_of_run_latest {catalog : Catalog} {modelId version : String}
    {world after : World} (run : world.run (catalog.latest modelId) = (.ok (.ok version), after)) :
    Request.isLatestMark version = false := by
  cases catalog with
  | saved manifest =>
      exact Manifest.isLatestMark_lookup (Except.ok.inj (congrArg Prod.fst run))
  | published url =>
      obtain ⟨answer, _, _, last⟩ := World.run_bind_eq_ok_iff.1 run
      cases answer with
      | error failure =>
          cases last
      | ok manifest =>
          exact Manifest.isLatestMark_lookup (Except.ok.inj (congrArg Prod.fst last))

/-- A request for the latest version is resolved to what the lookup gives. -/
theorem Resolution.of_run_resolve {lookup : String → Session (Except Failure String)}
    {request resolved : Request} {world after : World} (isLatest : request.isLatest = true)
    (run : world.run (resolve lookup request) = (.ok (.ok resolved), after)) :
    world.run (lookup request.modelId) = (.ok (.ok resolved.version), after) := by
  unfold resolve at run
  rw [if_pos isLatest] at run
  obtain ⟨answer, _, ran, last⟩ := World.run_bind_eq_ok_iff.1 run
  cases answer with
  | error failure =>
      simp only [ofAnswer] at last
      split at last
      · cases last
      · cases last
  | ok version =>
      cases last
      exact ran

namespace Context

variable {context : Context} {world after : World}

/-- The version is the one that is given, unless that is left to the catalog, and then it is the
one that the catalog gives. -/
inductive Chooses (context : Context) (options : ModelOptions) (world : World)
    (version : String) : World → Prop
  | given : options.version = some version → Chooses context options world version world
  | resolved {catalog : Catalog} {chosen : World} :
      (∀ given, options.version = some given → Request.isLatestMark given = true) →
      world.run (context.catalog options.sources) = (.ok catalog, world) →
      world.run (catalog.latest options.model) = (.ok (.ok version), chosen) →
      Chooses context options world version chosen

theorem looks_modelVersion (context : Context) (options : ModelOptions) :
    (context.modelVersion options).Looks := by
  unfold modelVersion
  dsimp only
  split
  · refine (context.isSilent_catalog _).sends.bind fun catalog => ?_
    refine (Resolution.looks_resolve catalog.looks_latest _).bind fun resolved => ?_
    exact (context.isSilent_require _ _).sends.bind fun _ => Session.sends_pure _
  · exact Session.sends_pure _

theorem of_run_modelVersion {options : ModelOptions} {version : String}
    (run : world.run (context.modelVersion options) = (.ok version, after)) :
    context.Chooses options world version after ∧ Request.isLatestMark version = false := by
  unfold Context.modelVersion at run
  dsimp only at run
  by_cases isLatest : (requestOf options).isLatest = true
  · rw [if_pos isLatest] at run
    obtain ⟨catalog, _, ranCatalog, afterCatalog⟩ := World.run_bind_eq_ok_iff.1 run
    obtain ⟨result, _, ranResolve, afterResolve⟩ := World.run_bind_eq_ok_iff.1 afterCatalog
    obtain ⟨resolved, _, required, last⟩ := World.run_bind_eq_ok_iff.1 afterResolve
    cases last
    obtain ⟨rfl, rfl⟩ := run_require_eq_ok_iff.1 required
    obtain rfl := eq_of_run_catalog ranCatalog
    have looked := Resolution.of_run_resolve isLatest ranResolve
    refine ⟨.resolved ?_ ranCatalog ?_, Catalog.isLatestMark_of_run_latest looked⟩
    · intro given isGiven
      simpa [requestOf, isGiven, Request.isLatest] using isLatest
    · cases isGiven : options.version <;> simpa [requestOf, isGiven, Request.latest] using looked
  · rw [if_neg isLatest] at run
    cases run
    rw [Bool.not_eq_true] at isLatest
    refine ⟨.given ?_, isLatest⟩
    cases isGiven : options.version with
    | none =>
        have isMark : Request.isLatestMark Request.latestMark = true := by decide
        simp [requestOf, isGiven, Request.latest, Request.isLatest, isMark] at isLatest
    | some version =>
        simp [requestOf, isGiven]

theorem looks_describe (context : Context) (options : ModelOptions) :
    (context.describe options).Looks := by
  unfold describe
  refine (context.isSilent_hub _).sends.bind fun hub => ?_
  refine (context.looks_modelVersion options).bind fun version => ?_
  refine (hub.looks_describeModel _ _).bind fun described => ?_
  refine (context.isSilent_require _ _).sends.bind fun description => ?_
  exact (Session.isSilent_report _).sends.bind fun _ => (Session.isSilent_print _).sends

/-- The hub that is meant is known, and choosing the version of the model has given one. -/
structure HasTarget (context : Context) (options : ModelOptions) (world : World) (hub : Hub)
    (version : String) (chosen : World) : Prop where
  isHub : context.hub options.sources = pure hub
  isVersion : world.run (context.modelVersion options) = (.ok version, chosen)

/-- After choosing the version, which is a concrete one, there is what a request to delete the model
at that version leaves. -/
structure DeletesChosen (context : Context) (options : ModelOptions) (world : World)
    (asked : List (Http.Request × Http.Answer)) : Prop where
  chosen : ∃ hub version chosen looked deletions,
    context.HasTarget options world hub version chosen ∧
      context.Chooses options world version chosen ∧ Request.isLatestMark version = false ∧
      chosen.exchanges = world.exchanges ++ looked ∧ Http.OnlyLooked looked ∧
      asked = looked ++ deletions ∧
      Http.LeavesIfAny deletions
        ((hub.modelUrl options.model version).map fun url => ⟨.delete, url, none⟩)

/-- A delete sends its request once its target is known, and before that it only looks for it. -/
theorem exists_of_run_delete (context : Context) (options : ModelOptions) (world : World) :
    ∃ asked, (world.run (context.delete options)).2.exchanges = world.exchanges ++ asked ∧
      ((∀ hub version chosen, ¬ context.HasTarget options world hub version chosen) ∧
          Http.OnlyLooked asked ∨
        context.DeletesChosen options world asked) := by
  unfold delete
  obtain ⟨unknown, silent⟩ | ⟨hub, isHub, goesOn⟩ :=
    context.exchanges_run_hub_bind options.sources _ world
  · refine ⟨[], ?_, Or.inl ⟨fun hub _ _ target => unknown hub target.isHub,
      fun _ member => absurd member List.not_mem_nil⟩⟩
    rw [silent, List.append_nil]
  · rw [goesOn]
    obtain ⟨looked, isLooked, onlyLooked⟩ := context.looks_modelVersion options world
    rcases ran : world.run (context.modelVersion options) with ⟨ending | version, chosen⟩
    · rw [ran] at isLooked
      rw [World.run_bind, ran]
      refine ⟨looked, isLooked, Or.inl ⟨fun _ _ _ target => ?_, onlyLooked⟩⟩
      cases ran.symm.trans target.isVersion
    · rw [ran] at isLooked
      rw [World.run_bind_of_ok ran]
      have leaves := Hub.exchanges_withUrl (hub.modelUrl options.model version)
        fun url => Http.isSentBy_order ⟨.delete, url, none⟩
      have deletes := leaves.bind_silent fun deleted =>
        (context.isSilent_require (modelFailedMessage "delete" options.model version) deleted).bind
          fun _ => Session.isSilent_report
            s!"deleted \"{options.model}\" version {version}"
      obtain ⟨deletions, isDeletions, leavesIfAny⟩ := deletes chosen
      obtain ⟨chooses, concrete⟩ := of_run_modelVersion ran
      refine ⟨looked ++ deletions, ?_, Or.inr ⟨hub, version, chosen, looked, deletions,
        ⟨isHub, ran⟩, chooses, concrete, isLooked, onlyLooked, rfl, leavesIfAny⟩⟩
      rw [← List.append_assoc, ← isLooked]
      exact isDeletions

/-! ## Commands that only show something -/

theorem looks_plan (context : Context) (options : PlanOptions) : (context.plan options).Looks :=
  (context.looks_makePlan options).bind fun _ => (Session.isSilent_print _).sends

theorem looks_listedRecords (context : Context) (options : ListOptions) :
    (context.listedRecords options).Looks := by
  unfold listedRecords
  split
  · exact (Session.isSilent_readFile _).sends.bind fun _ => Session.sends_pure _
  · exact (context.isSilent_hub _).sends.bind fun hub => hub.looks_listRecords _

theorem looks_list (context : Context) (options : ListOptions) : (context.list options).Looks :=
  (context.looks_listedRecords options).bind fun _ =>
    (context.isSilent_require _ _).sends.bind fun _ => (Session.isSilent_print _).sends

theorem isSilent_collectResolved (context : Context)
    (results : List (Request × Except ResolveError Request)) :
    (context.collectResolved results).IsSilent := by
  induction results with
  | nil =>
      exact Session.isSilent_pure _
  | cons result results inductionHypothesis =>
      obtain ⟨request, result⟩ := result
      cases result with
      | ok resolved =>
          exact inductionHypothesis.bind fun _ => Session.isSilent_pure _
      | error reason =>
          exact (Session.isSilent_report _).bind fun _ => inductionHypothesis

theorem looks_resolve (context : Context) (options : ResolveOptions) :
    (context.resolve options).Looks := by
  unfold resolve
  refine (context.isSilent_requests _ _).sends.bind fun requests => ?_
  refine (context.isSilent_catalog _).sends.bind fun catalog => ?_
  refine (Resolution.looks_resolveAll catalog.looks_latest requests).bind fun results => ?_
  refine (context.isSilent_collectResolved _).sends.bind fun models => ?_
  refine (Session.isSilent_print _).sends.bind fun _ => ?_
  split
  · exact (Session.isSilent_exit _).sends
  · exact Session.sends_pure _

theorem looks_describeHub (context : Context) (sources : Sources) :
    (context.describeHub sources).Looks := by
  unfold describeHub
  refine (context.isSilent_hub _).sends.bind fun hub => ?_
  refine hub.looks_describe.bind fun described => ?_
  exact (context.isSilent_require _ _).sends.bind fun _ => (Session.isSilent_print _).sends

/-! ## Hubs -/

/-- Where the hub that is meant is known, there is what the request to it leaves, and else
nothing. -/
def Orders (context : Context) (sources : Sources) (request : Hub → Except Failure Http.Request)
    (asked : List (Http.Request × Http.Answer)) : Prop :=
  (∀ hub, context.hub sources ≠ pure hub) ∧ asked = [] ∨
    ∃ hub, context.hub sources = pure hub ∧ Http.LeavesIfAny asked (request hub)

/-- A command that sends the hub one request and then only shows what came of it. -/
theorem exchanges_orders {α : Type} (context : Context) (sources : Sources)
    {request : Hub → Except Failure Http.Request} {first : Hub → Session α}
    {next : Hub → α → Session Unit}
    (exchanges : ∀ hub, (first hub).Exchanges fun asked => Http.LeavesIfAny asked (request hub))
    (silent : ∀ hub value, (next hub value).IsSilent) :
    (context.hub sources >>= fun hub => first hub >>= next hub).Exchanges
      (context.Orders sources request) := by
  intro world
  obtain ⟨unknown, same⟩ | ⟨hub, isHub, goesOn⟩ := context.exchanges_run_hub_bind sources
    (fun hub => first hub >>= next hub) world
  · exact ⟨[], by rw [same, List.append_nil], Or.inl ⟨unknown, rfl⟩⟩
  · obtain ⟨asked, isAsked, leaves⟩ := (exchanges hub).bind_silent (silent hub) world
    exact ⟨asked, by rw [goesOn, isAsked], Or.inr ⟨hub, isHub, leaves⟩⟩

theorem exchanges_createHub (context : Context) (settings : HubSettings) (sources : Sources) :
    (context.createHub settings sources).Exchanges (context.Orders sources fun hub =>
      hub.collectionUrl.map fun url => ⟨.post, url, some (hub.creationBody settings)⟩) :=
  context.exchanges_orders sources
    (fun hub => Hub.exchanges_withUrl hub.collectionUrl fun _ => Http.isSentBy_askFor _ _)
    fun _ _ => (context.isSilent_require _ _).bind fun _ => Session.isSilent_print _

theorem exchanges_deleteHub (context : Context) (sources : Sources) :
    (context.deleteHub sources).Exchanges (context.Orders sources fun hub =>
      (hub.url []).map fun url => ⟨.delete, url, none⟩) :=
  context.exchanges_orders sources
    (fun hub => Hub.exchanges_withUrl (hub.url []) fun _ => Http.isSentBy_order _)
    fun _ _ => (context.isSilent_require _ _).bind fun _ => Session.isSilent_report _

end Context

end ModelHub

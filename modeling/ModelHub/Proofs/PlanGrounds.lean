import ModelHub.Proofs.CommandSetup

/-!
# What a plan rests on

A plan that a command makes rests on all that was asked for: every model spec and the models file
were read, the catalog was set up, the listing is complete, and every request was resolved unless
those that were not may be skipped. Nothing but looking is done to make it.
-/

namespace ModelHub

/-! ## Places in a batch -/

namespace Plan

variable {requests : List Request} {results : List (Except ResolveError Request)}
  {records : List Record}

theorem mem_positionsFrom_zero_iff {position : Position} :
    position ∈ positionsFrom 0 requests results ↔
      requests[position.ordinal]? = some position.request ∧
        results[position.ordinal]? = some position.result := by
  rw [positionsFrom_eq_map_zipIdx, List.mem_map]
  constructor
  · intro isPosition
    obtain ⟨⟨pair, ordinal⟩, member, rfl⟩ := isPosition
    rw [List.mem_zipIdx_iff_getElem?, List.getElem?_zip_eq_some] at member
    exact member
  · intro found
    refine ⟨⟨⟨position.request, position.result⟩, position.ordinal⟩, ?_, rfl⟩
    rw [List.mem_zipIdx_iff_getElem?, List.getElem?_zip_eq_some]
    exact found

/-- A decision is on what the request at its ordinal was resolved to. -/
theorem resolved_of_mem_decisions {decision : Decision}
    (member : decision ∈ (assemble requests results records).decisions) :
    results[decision.ordinal]? = some (.ok decision.request) := by
  unfold assemble Decision.reconcile at member
  obtain ⟨candidate, isCandidate, decided⟩ := List.mem_filterMap.1 member
  obtain ⟨position, isPosition, isIts⟩ := List.mem_filterMap.1 isCandidate
  obtain ⟨reason, _, rfl⟩ := Option.map_eq_some_iff.1 decided
  have found := (mem_positionsFrom_zero_iff.1 isPosition).2
  unfold Position.candidate? at isIts
  cases result : position.result with
  | error error =>
      rw [result] at isIts
      cases isIts
  | ok resolved =>
      rw [result] at isIts found
      cases isIts
      exact found

/-- Where a plan reports nothing as unresolved, every result is a request. -/
theorem resolved_of_unresolved_eq_nil (sameLength : results.length = requests.length)
    (complete : (assemble requests results records).unresolved = []) :
    ∀ result ∈ results, ∃ resolved, result = .ok resolved := by
  intro result member
  cases result with
  | ok resolved =>
      exact ⟨resolved, rfl⟩
  | error error =>
      obtain ⟨ordinal, found⟩ := List.mem_iff_getElem?.1 member
      have inBatch : ordinal < requests.length := by
        have inResults := (List.getElem?_eq_some_iff.1 found).1
        omega
      have isPosition : ⟨ordinal, requests[ordinal], .error error⟩ ∈
          positionsFrom 0 requests results :=
        mem_positionsFrom_zero_iff.2 ⟨List.getElem?_eq_getElem inBatch, found⟩
      have reported : ⟨ordinal, requests[ordinal], error⟩ ∈
          (assemble requests results records).unresolved :=
        List.mem_filterMap.2 ⟨_, isPosition, rfl⟩
      rw [complete] at reported
      exact absurd reported List.not_mem_nil

end Plan

namespace Context

variable {context : Context} {options : PlanOptions} {world after planned : World} {plan : Plan}

/-! ## The listing -/

/-- The records are all those of the saved listing, or all those that the hub has served. -/
inductive Lists (context : Context) (options : PlanOptions) (world before : World)
    (records : List Record) : World → Prop
  | saved {path : String} :
      options.listing = some path → Listing.ofFile path (world.readFile path) = .ok records →
      Lists context options world before records before
  | served {hub : Hub} {pages : List Listing.Page} {last : Listing.Page} {final : World} :
      options.listing = none → context.hub options.sources = pure hub →
      Listing.IsServed hub.fetchPage before pages last final →
      records = (pages ++ [last]).flatMap Listing.Page.records →
      Lists context options world before records final

theorem isSilent_listing (context : Context) (options : PlanOptions) :
    (context.listing options).IsSilent := by
  unfold listing
  split
  · exact (Session.isSilent_readFile _).bind fun _ =>
      (context.isSilent_require _ _).bind fun _ => Session.isSilent_pure _
  · exact (context.isSilent_hub _).bind fun _ => Session.isSilent_pure _

/-- A saved listing is at hand, and the hub is still to be asked for its own. -/
theorem of_run_listing {listing : Session (Except Failure (List Record))}
    (run : world.run (context.listing options) = (.ok listing, after)) :
    after = world ∧
      ((∃ path records, options.listing = some path ∧
          Listing.ofFile path (world.readFile path) = .ok records ∧
          listing = pure (.ok records)) ∨
        ∃ hub, options.listing = none ∧ context.hub options.sources = pure hub ∧
          listing = hub.listRecords context.pageLimit) := by
  unfold Context.listing at run
  split at run
  · rename_i path isSaved
    obtain ⟨file, _, read, afterFile⟩ := World.run_bind_eq_ok_iff.1 run
    cases read
    obtain ⟨records, _, required, last⟩ := World.run_bind_eq_ok_iff.1 afterFile
    obtain ⟨parsed, rfl⟩ := run_require_eq_ok_iff.1 required
    cases last
    exact ⟨rfl, Or.inl ⟨path, records, isSaved, parsed, rfl⟩⟩
  · rename_i notSaved
    obtain ⟨hub, _, ranHub, last⟩ := World.run_bind_eq_ok_iff.1 run
    obtain ⟨isHub, rfl⟩ := eq_of_run_hub ranHub
    cases last
    exact ⟨rfl, Or.inr ⟨hub, notSaved, isHub, rfl⟩⟩

/-- Records that are listed are all that there are. -/
theorem lists_of_run {listing : Session (Except Failure (List Record))} {before final : World}
    {records : List Record}
    (obtained : world.run (context.listing options) = (.ok listing, after))
    (listed : before.run listing = (.ok (.ok records), final)) :
    context.Lists options world before records final := by
  obtain ⟨_, ⟨path, saved, isSaved, parsed, rfl⟩ | ⟨hub, notSaved, isHub, rfl⟩⟩ :=
    of_run_listing obtained
  · cases listed
    exact .saved isSaved parsed
  · obtain ⟨pages, last, served, _, isWhole⟩ := Hub.exists_served_of_run_listRecords listed
    exact .served notSaved isHub served isWhole

/-! ## The plan -/

theorem isSilent_reportUnresolved (context : Context) (skip : Bool) (requested : Nat)
    (unresolved : List Unresolved) :
    (context.reportUnresolved skip requested unresolved).IsSilent := by
  unfold reportUnresolved
  split
  · exact Session.isSilent_forM fun _ => Session.isSilent_report _
  · refine (Session.isSilent_forM fun _ => Session.isSilent_report _).bind fun _ => ?_
    split
    · exact Session.isSilent_pure _
    · exact context.isSilent_die _

/-- A run goes on after requests that were not resolved only where they may be skipped. -/
theorem of_run_reportUnresolved {skip : Bool} {requested : Nat} {unresolved : List Unresolved}
    (run : world.run (context.reportUnresolved skip requested unresolved) = (.ok (), after)) :
    skip = true ∨ unresolved = [] := by
  cases skip with
  | true =>
      exact Or.inl rfl
  | false =>
      obtain ⟨_, _, _, goesOn⟩ := World.run_bind_eq_ok_iff.1 run
      by_cases none : unresolved.isEmpty = true
      · exact Or.inr (List.isEmpty_iff.1 none)
      · rw [if_neg none] at goesOn
        exact absurd goesOn run_die_ne_ok

theorem looks_makePlan (context : Context) (options : PlanOptions) :
    (context.makePlan options).Looks := by
  unfold makePlan
  refine (context.isSilent_requests _ _).sends.bind fun requests => ?_
  refine (context.isSilent_catalog _).sends.bind fun catalog => ?_
  refine (context.isSilent_listing options).sends.bind_of_given fun world _ listing given => ?_
  have looksListing : listing.Looks := by
    obtain ⟨_, ⟨_, _, _, _, rfl⟩ | ⟨hub, _, _, rfl⟩⟩ := of_run_listing given
    · exact Session.sends_pure _
    · exact hub.looks_listRecords _
  have looksMake : (Plan.make catalog.latest listing requests).Looks := by
    refine (Resolution.looks_resolveAll catalog.looks_latest requests).bind fun results => ?_
    refine looksListing.bind fun answer => ?_
    cases answer with
    | error failure =>
        exact Session.sends_pure _
    | ok records =>
        exact Session.sends_pure _
  refine looksMake.bind fun made => ?_
  refine (context.isSilent_require _ _).sends.bind fun plan => ?_
  exact (context.isSilent_reportUnresolved _ _ _).sends.bind fun _ => Session.sends_pure _

/-- The plan is made for all model specs and all of the models file, with the catalog that is meant
and a complete listing, and no request is left unresolved unless that may be skipped. -/
structure Plans (context : Context) (options : PlanOptions) (world : World)
    (requests : List Request) (results : List (Except ResolveError Request)) (plan : Plan)
    (planned : World) : Prop where
  requested : ∃ fromSpecs fromFile, Request.ofSpecs options.specs = .ok fromSpecs ∧
    world.readModels options.modelsFile = .ok fromFile ∧ requests = fromSpecs ++ fromFile
  notEmpty : requests ≠ []
  sameLength : results.length = requests.length
  listed : ∃ catalog resolved records listed,
    world.run (context.catalog options.sources) = (.ok catalog, world) ∧
      world.run (Resolution.resolveAll catalog.latest requests) = (.ok results, resolved) ∧
      context.Lists options world resolved records listed ∧
      plan = Plan.assemble requests results records ∧ planned.exchanges = listed.exchanges
  resolvedOrSkipped : options.skipUnresolved = true ∨
    ∀ result ∈ results, ∃ resolved, result = .ok resolved

theorem exists_plans_of_run_makePlan
    (made : world.run (context.makePlan options) = (.ok plan, planned)) :
    ∃ requests results, context.Plans options world requests results plan planned := by
  unfold Context.makePlan at made
  obtain ⟨requests, _, ranRequests, afterRequests⟩ := World.run_bind_eq_ok_iff.1 made
  obtain ⟨catalog, _, ranCatalog, afterCatalog⟩ := World.run_bind_eq_ok_iff.1 afterRequests
  obtain ⟨listing, _, ranListing, afterListing⟩ := World.run_bind_eq_ok_iff.1 afterCatalog
  obtain ⟨answer, listed, ranMake, afterMake⟩ := World.run_bind_eq_ok_iff.1 afterListing
  obtain ⟨found, _, required, reporting⟩ := World.run_bind_eq_ok_iff.1 afterMake
  obtain ⟨_, _, reported, last⟩ := World.run_bind_eq_ok_iff.1 reporting
  cases last
  obtain ⟨rfl, notEmpty, requested⟩ := exists_of_run_requests ranRequests
  obtain rfl := eq_of_run_catalog ranCatalog
  obtain ⟨rfl, rfl⟩ := run_require_eq_ok_iff.1 required
  obtain ⟨results, resolved, records, resolvedAll, ranListed, rfl⟩ :=
    Plan.run_make_eq_ok_iff.1 ranMake
  have lists := lists_of_run ranListing ranListed
  obtain ⟨rfl, _⟩ := of_run_listing ranListing
  have sameLength := Resolution.length_eq_of_run_resolveAll resolvedAll
  have sameExchanges := (context.isSilent_reportUnresolved _ _ _).exchanges_eq reported
  refine ⟨requests, results, requested, notEmpty, sameLength, ?_, ?_⟩
  · exact ⟨catalog, resolved, records, _, ranCatalog, resolvedAll, lists, rfl, sameExchanges⟩
  · rcases of_run_reportUnresolved reported with skipped | complete
    · exact Or.inl skipped
    · exact Or.inr (Plan.resolved_of_unresolved_eq_nil sameLength complete)

end Context

end ModelHub

import ModelHub.Proofs.PagedListing
import ModelHub.Proofs.SessionRequests
import ModelHub.Run

/-!
# What commands start with

Commands read their requests, the catalog and the place of the hub without asking anybody. What they
ask then, to look up versions and to list or describe what the hub has, only gets something.
-/

namespace ModelHub

/-! ## Looking up and listing -/

open Session in
theorem Catalog.looks_latest (catalog : Catalog) (modelId : String) :
    (catalog.latest modelId).Looks := by
  cases catalog with
  | saved manifest =>
      exact sends_pure _
  | published url =>
      refine Sends.bind (Http.looks_askFor Manifest.parse? url none) fun result => ?_
      cases result with
      | error failure =>
          exact sends_pure _
      | ok manifest =>
          exact sends_pure _

namespace Resolution

variable {lookup : String → Session (Except Failure String)}

theorem looks_resolve (looks : ∀ modelId, (lookup modelId).Looks) (request : Request) :
    (resolve lookup request).Looks := by
  unfold resolve
  split
  · exact Session.Sends.bind (looks request.modelId) fun _ => Session.sends_pure _
  · exact Session.sends_pure _

theorem looks_resolveAll (looks : ∀ modelId, (lookup modelId).Looks) (requests : List Request) :
    (resolveAll lookup requests).Looks := by
  induction requests with
  | nil =>
      exact Session.sends_pure _
  | cons request rest inductionHypothesis =>
      exact (looks_resolve looks request).bind fun _ =>
        inductionHypothesis.bind fun _ => Session.sends_pure _

/-- There is a result for every request. -/
theorem length_eq_of_run_resolveAll {requests : List Request}
    {results : List (Except ResolveError Request)} {world after : World}
    (resolved : world.run (resolveAll lookup requests) = (.ok results, after)) :
    results.length = requests.length := by
  induction requests generalizing results world with
  | nil =>
      cases resolved
      rfl
  | cons request rest inductionHypothesis =>
      obtain ⟨result, _, _, resolvedRest⟩ := World.run_bind_eq_ok_iff.1 resolved
      obtain ⟨others, _, resolvedOthers, both⟩ := World.run_bind_eq_ok_iff.1 resolvedRest
      cases both
      rw [List.length_cons, List.length_cons, inductionHypothesis resolvedOthers]

end Resolution

theorem Listing.looks_collectPages {fetch : Option String → Session (Except Failure Page)}
    (looks : ∀ token, (fetch token).Looks) (limit : Nat) (token : Option String)
    (collected : List Record) : (collectPages fetch limit token collected).Looks := by
  induction limit generalizing token collected with
  | zero =>
      exact Session.sends_pure _
  | succ limit inductionHypothesis =>
      refine Session.Sends.bind (looks token) fun answer => ?_
      cases answer with
      | error failure =>
          exact Session.sends_pure _
      | ok page =>
          dsimp only
          split
          · exact Session.sends_pure _
          · split
            · exact Session.sends_pure _
            · split
              · exact Session.sends_pure _
              · exact inductionHypothesis _ _

namespace Hub

theorem sends_withUrl {α : Type} {allowed : Http.Request → Prop} (url : Except Failure Url)
    {next : Url → Session (Except Failure α)} (sends : ∀ url, (next url).Sends allowed) :
    (withUrl url next).Sends allowed := by
  cases url with
  | error failure =>
      exact Session.sends_pure _
  | ok url =>
      exact sends url

/-- A request over a URL is sent where there is the URL. -/
theorem exchanges_withUrl {α : Type} (url : Except Failure Url) {requestAt : Url → Http.Request}
    {next : Url → Session (Except Failure α)}
    (sent : ∀ url, (requestAt url).IsSentBy (next url)) :
    (withUrl url next).Exchanges fun asked => Http.LeavesIfAny asked (url.map requestAt) := by
  cases url with
  | error failure =>
      intro world
      exact ⟨[], (List.append_nil _).symm, rfl⟩
  | ok url =>
      exact (sent url).exchanges

theorem looks_fetchPage (hub : Hub) (token : Option String) : (hub.fetchPage token).Looks :=
  sends_withUrl _ fun url => Http.looks_askFor _ url none

theorem looks_listRecords (hub : Hub) (limit : Nat) : (hub.listRecords limit).Looks := by
  refine Session.Sends.bind (Listing.looks_collectPages hub.looks_fetchPage limit none [])
    fun found => ?_
  cases found with
  | none =>
      exact (Session.isSilent_halt _).sends
  | some result =>
      exact Session.sends_pure _

theorem looks_fetchDocument (url : Url) : (fetchDocument url).Looks := by
  refine Session.Sends.bind (Http.looks_askFor _ url none) fun answer => ?_
  split
  · exact Session.sends_pure _
  · exact Session.sends_pure _
  · exact Session.sends_pure _

theorem looks_describe (hub : Hub) : hub.describe.Looks := sends_withUrl _ looks_fetchDocument

theorem looks_describeModel (hub : Hub) (name version : String) :
    (hub.describeModel name version).Looks := by
  refine sends_withUrl _ fun url => (looks_fetchDocument url).bind fun answer => ?_
  cases answer with
  | error failure =>
      exact Session.sends_pure _
  | ok document =>
      exact Session.sends_pure _

end Hub

/-! ## Setting out -/

/-- The requests in a models file, if one is named. -/
def World.readModels (world : World) : Option String → Except ModelList.Error (List Request)
  | none => .ok []
  | some path => ModelList.ofFile path (world.readFile path)

namespace Context

variable {α : Type} {context : Context} {world after : World}

theorem run_require_eq_ok_iff {ε : Type} {words : ε → String} {result : Except ε α} {value : α} :
    world.run (context.require words result) = (.ok value, after) ↔
      result = .ok value ∧ after = world := by
  cases result with
  | error reason =>
      simp [require, die, error, Session.report, Session.perform, World.run_bind, World.run,
        Session.exit]
  | ok found =>
      simp [require, eq_comm]

theorem isSilent_die (context : Context) (text : String) :
    (context.die text : Session α).IsSilent :=
  (Session.isSilent_report _).bind fun _ => Session.isSilent_exit _

theorem isSilent_require {ε : Type} (context : Context) (words : ε → String)
    (result : Except ε α) : (context.require words result).IsSilent := by
  cases result with
  | error reason =>
      exact context.isSilent_die _
  | ok value =>
      exact Session.isSilent_pure value

theorem run_die_ne_ok {text : String} {value : α} :
    world.run (context.die text) ≠ (.ok value, after) := by
  intro goesOn
  obtain ⟨isError, _⟩ := run_require_eq_ok_iff.1
    (show world.run (context.require id (.error text)) = (.ok value, after) from goesOn)
  cases isError

/-! ### The catalog -/

theorem isSilent_catalogInFile (context : Context) (path : String) :
    (context.catalogInFile path).IsSilent :=
  (Session.isSilent_readFile path).bind fun _ =>
    (context.isSilent_require _ _).bind fun _ => Session.isSilent_pure _

theorem isSilent_catalogAt (context : Context) (location : String) :
    (context.catalogAt location).IsSilent := by
  unfold catalogAt
  split
  · exact context.isSilent_require _ _
  · exact context.isSilent_catalogInFile location

theorem isSilent_catalog (context : Context) (sources : Sources) :
    (context.catalog sources).IsSilent := by
  unfold catalog
  split
  · exact context.isSilent_catalogAt _
  · exact context.isSilent_catalogAt _
  · exact context.isSilent_catalogInFile _
  · exact context.isSilent_die _

theorem eq_of_run_catalogInFile {path : String} {catalog : Catalog}
    (run : world.run (context.catalogInFile path) = (.ok catalog, after)) : after = world := by
  obtain ⟨file, between, read, found⟩ := World.run_bind_eq_ok_iff.1 run
  obtain ⟨manifest, last, required, isSaved⟩ := World.run_bind_eq_ok_iff.1 found
  obtain ⟨_, rfl⟩ := run_require_eq_ok_iff.1 required
  cases read
  cases isSaved
  rfl

theorem eq_of_run_catalogAt {location : String} {catalog : Catalog}
    (run : world.run (context.catalogAt location) = (.ok catalog, after)) : after = world := by
  unfold catalogAt at run
  split at run
  · exact (run_require_eq_ok_iff.1 run).2
  · exact eq_of_run_catalogInFile run

theorem eq_of_run_catalog {sources : Sources} {catalog : Catalog}
    (run : world.run (context.catalog sources) = (.ok catalog, after)) : after = world := by
  unfold Context.catalog at run
  split at run
  · exact eq_of_run_catalogAt run
  · exact eq_of_run_catalogAt run
  · exact eq_of_run_catalogInFile run
  · exact absurd run run_die_ne_ok

/-! ### The hub -/

theorem isSilent_hub (context : Context) (sources : Sources) : (context.hub sources).IsSilent := by
  unfold hub
  split
  · exact context.isSilent_die _
  · exact context.isSilent_die _
  · exact context.isSilent_require _ _

theorem eq_of_run_hub {sources : Sources} {hub : Hub}
    (run : world.run (context.hub sources) = (.ok hub, after)) :
    context.hub sources = pure hub ∧ after = world := by
  unfold Context.hub at run ⊢
  split at run
  · exact absurd run run_die_ne_ok
  · exact absurd run run_die_ne_ok
  · obtain ⟨connected, rfl⟩ := run_require_eq_ok_iff.1 run
    rw [connected]
    exact ⟨rfl, rfl⟩

/-- What follows the hub is done where the hub is known, and else nothing is asked. -/
theorem exchanges_run_hub_bind (context : Context) (sources : Sources) (next : Hub → Session α)
    (world : World) :
    (∀ hub, context.hub sources ≠ pure hub) ∧
        (world.run (context.hub sources >>= next)).2.exchanges = world.exchanges ∨
      ∃ hub, context.hub sources = pure hub ∧
        world.run (context.hub sources >>= next) = world.run (next hub) := by
  by_cases known : ∃ hub, context.hub sources = pure hub
  · obtain ⟨hub, isHub⟩ := known
    refine Or.inr ⟨hub, isHub, ?_⟩
    rw [isHub]
    rfl
  · rw [not_exists] at known
    obtain ⟨before, none, halted | ⟨hub, after, ran, _, goesOn⟩⟩ :=
      Session.Exchanges.exists_run_bind next (context.isSilent_hub sources) world
    · obtain rfl := List.eq_nil_iff_forall_not_mem.2 none
      rw [List.append_nil] at halted
      exact Or.inl ⟨known, halted⟩
    · exact absurd (eq_of_run_hub ran).1 (known hub)

/-! ### Requests -/

/-- Reads the requests in a models file, if one is named. -/
def requestsIn (context : Context) : Option String → Session (List Request)
  | none => pure []
  | some path => context.requestsInFile path

theorem requests_eq (context : Context) (specs : List String) (modelsFile : Option String) :
    context.requests specs modelsFile = (do
      let fromSpecs ← context.require Request.SpecError.message (Request.ofSpecs specs)
      let fromFile ← context.requestsIn modelsFile
      if (fromSpecs ++ fromFile).isEmpty then context.die noRequestsMessage
      else pure (fromSpecs ++ fromFile)) := by
  cases modelsFile <;> rfl

theorem isSilent_requestsIn (context : Context) (modelsFile : Option String) :
    (context.requestsIn modelsFile).IsSilent := by
  cases modelsFile with
  | none =>
      exact Session.isSilent_pure _
  | some path =>
      exact (Session.isSilent_readFile path).bind fun _ => context.isSilent_require _ _

theorem isSilent_requests (context : Context) (specs : List String) (modelsFile : Option String) :
    (context.requests specs modelsFile).IsSilent := by
  rw [requests_eq]
  refine (context.isSilent_require _ _).bind fun _ => ?_
  refine (context.isSilent_requestsIn _).bind fun _ => ?_
  split
  · exact context.isSilent_die _
  · exact Session.isSilent_pure _

theorem run_requestsIn_eq_ok_iff {modelsFile : Option String} {requests : List Request} :
    world.run (context.requestsIn modelsFile) = (.ok requests, after) ↔
      world.readModels modelsFile = .ok requests ∧ after = world := by
  cases modelsFile with
  | none =>
      simp [requestsIn, World.readModels, eq_comm]
  | some path =>
      have read : world.run (Session.readFile path) = (.ok (world.readFile path), world) := rfl
      unfold requestsIn requestsInFile
      rw [World.run_bind_of_ok read]
      exact run_require_eq_ok_iff

theorem exists_of_run_requests {specs : List String} {modelsFile : Option String}
    {requests : List Request}
    (run : world.run (context.requests specs modelsFile) = (.ok requests, after)) :
    after = world ∧ requests ≠ [] ∧
      ∃ fromSpecs fromFile, Request.ofSpecs specs = .ok fromSpecs ∧
        world.readModels modelsFile = .ok fromFile ∧ requests = fromSpecs ++ fromFile := by
  rw [requests_eq] at run
  obtain ⟨fromSpecs, _, required, afterSpecs⟩ := World.run_bind_eq_ok_iff.1 run
  obtain ⟨readSpecs, rfl⟩ := run_require_eq_ok_iff.1 required
  obtain ⟨fromFile, _, readFile, afterFile⟩ := World.run_bind_eq_ok_iff.1 afterSpecs
  obtain ⟨readModels, rfl⟩ := run_requestsIn_eq_ok_iff.1 readFile
  by_cases noRequests : (fromSpecs ++ fromFile).isEmpty = true
  · rw [if_pos noRequests] at afterFile
    exact absurd afterFile run_die_ne_ok
  · rw [if_neg noRequests] at afterFile
    cases afterFile
    rw [List.isEmpty_iff] at noRequests
    exact ⟨rfl, noRequests, fromSpecs, fromFile, readSpecs, readModels, rfl⟩

end Context

end ModelHub

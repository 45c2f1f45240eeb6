import Mathlib.Logic.Function.Iterate
import ModelHub.Catalog
import ModelHub.Proofs.PlanFates
import ModelHub.Proofs.SessionRun

/-!
# Lookups in the catalog

A plan made from lookups that answer as a function of the model is the plan for that function, in a
world in which every lookup has left its trace.
-/

namespace ModelHub

/-- The network answers every fetch of the manifest at the URL with status 200 and the text. -/
structure World.Publishes (world : World) (url : Url) (text : String) : Prop where
  askable : Http.isAskable url.withoutCredentials = true
  served : ∀ earlier, ∃ reply : Http.Reply, reply.status = 200 ∧ reply.text? = some text ∧
    world.network earlier ⟨.get, url.withoutCredentials, none⟩ = .reply reply

/-- The world after a further fetch of the manifest at the URL. -/
def World.fetched (url : Url) (world : World) : World :=
  (world.exchange ⟨.get, url.withoutCredentials, none⟩).2

/-- In the worlds that are meant the lookup answers as a function of the model, and every lookup
leaves the world in one and the same way. -/
structure Resolution.Answers (lookup : String → Session (Except Failure String))
    (catalog : String → Except Failure String) (meant : World → Prop) (leave : World → World) :
    Prop where
  run_lookup {world : World} (isMeant : meant world) (modelId : String) :
    world.run (lookup modelId) = (.ok (catalog modelId), leave world)
  meant_leave {world : World} (isMeant : meant world) : meant (leave world)

theorem Catalog.answers_saved (manifest : Manifest) :
    Resolution.Answers (Catalog.saved manifest).latest manifest.lookup (fun _ => True) id :=
  ⟨fun _ _ => rfl, fun _ => trivial⟩

theorem Catalog.answers_published {url : Url} {text : String} {manifest : Manifest}
    (isManifest : Manifest.parse? text = some manifest) :
    Resolution.Answers (Catalog.published url).latest manifest.lookup
      (fun world => world.Publishes url text) (World.fetched url) where
  run_lookup {world} isMeant modelId := by
    obtain ⟨reply, status, isText, isServed⟩ := isMeant.served (world.exchanges.map Prod.fst)
    have isRead : reply.text?.bind Manifest.parse? = some manifest := by
      rw [isText, Option.bind_some]
      exact isManifest
    have fetched : world.run (Http.askFor Manifest.parse? ⟨.get, url, none⟩) =
        (.ok (.ok manifest), World.fetched url world) :=
      Http.run_askFor_of_isSuccess isMeant.askable isServed
        (Http.Reply.isSuccess_of_status status) isRead
    unfold latest
    rw [World.run_bind_of_ok fetched]
    rfl
  meant_leave isMeant := ⟨isMeant.askable, isMeant.served⟩

namespace Resolution.Answers

variable {lookup : String → Session (Except Failure String)}
  {catalog : String → Except Failure String} {meant : World → Prop} {leave : World → World}

/-- Only a request for the latest version is looked up. -/
theorem run_resolve (answers : Answers lookup catalog meant leave) {world : World}
    (isMeant : meant world) (request : Request) :
    world.run (resolve lookup request) =
      (.ok (resolveFrom catalog request), if request.isLatest then leave world else world) := by
  cases latest : request.isLatest with
  | false =>
      rw [resolveFrom_of_concrete latest]
      simp [resolve, latest]
  | true =>
      rw [resolveFrom_of_latest latest]
      simp only [resolve, latest, if_true]
      rw [World.run_bind_of_ok (answers.run_lookup isMeant request.modelId)]
      rfl

/-- Every request for a latest version leaves the world once as a lookup does. -/
theorem run_resolveAll (answers : Answers lookup catalog meant leave) {world : World}
    (isMeant : meant world) (requests : List Request) :
    world.run (resolveAll lookup requests) =
      (.ok (requests.map (resolveFrom catalog)),
        leave^[requests.countP Request.isLatest] world) := by
  induction requests generalizing world with
  | nil =>
      rfl
  | cons request rest inductionHypothesis =>
      rw [resolveAll, World.run_bind_of_ok (answers.run_resolve isMeant request)]
      cases latest : request.isLatest with
      | false =>
          rw [if_neg (by simp), World.run_bind_of_ok (inductionHypothesis isMeant),
            List.countP_cons_of_neg (by simp [latest])]
          rfl
      | true =>
          rw [if_pos rfl, World.run_bind_of_ok (inductionHypothesis (answers.meant_leave isMeant)),
            List.countP_cons_of_pos latest]
          rfl

/-- A plan is made by listing the hub in the world that the lookups leave. -/
theorem run_make (answers : Answers lookup catalog meant leave) {world : World}
    (isMeant : meant world) (listing : Session (Except Failure (List Record)))
    (requests : List Request) :
    world.run (Plan.make lookup listing requests) =
      (leave^[requests.countP Request.isLatest] world).run
        (listing >>= fun listed => pure (Plan.planFor catalog listed requests)) := by
  unfold Plan.make
  rw [World.run_bind_of_ok (answers.run_resolveAll isMeant requests)]
  congr 2
  funext listed
  cases listed with
  | error failure =>
      rfl
  | ok records =>
      rw [← resolveAll_eq_map]
      rfl

end Resolution.Answers

end ModelHub

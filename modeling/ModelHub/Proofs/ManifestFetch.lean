import ModelHub.Catalog
import ModelHub.Proofs.LatestVersion
import ModelHub.Proofs.PlanFates
import ModelHub.Proofs.RequestOutcome

/-!
# What fetching the manifest comes to

A model is said not to be in the catalog where its published manifest was read and has no version of
it, and also where the service has no manifest at all: status 404 is a failure of the same kind as a
model that is not listed. In every other way to get no manifest, the lookup is what failed, with the
failure to get it.
-/

namespace ModelHub

/-- Entries that are newest have one version. -/
theorem Manifest.IsNewest.version_eq {manifest : Manifest} {modelId : String}
    {entry other : ManifestEntry} (newest : manifest.IsNewest modelId entry)
    (otherNewest : manifest.IsNewest modelId other) : entry.version = other.version := by
  have latest := latest_versionsOf_eq_some_iff.2 ⟨entry, newest, rfl⟩
  have otherLatest := latest_versionsOf_eq_some_iff.2 ⟨other, otherNewest, rfl⟩
  exact Option.some.inj (latest.symm.trans otherLatest)

namespace Resolution

/-- What a request for the latest version is told, by what fetching the manifest comes to and by
what is read of it. -/
inductive Tells (request : Request) (outcome : Except Failure (Url × Http.Reply)) :
    Except Failure Manifest → Except ResolveError Request → Prop
  | newest {manifest : Manifest} {entry : ManifestEntry} :
      ¬ Http.IsNotFound outcome → manifest.IsNewest request.modelId entry →
      Tells request outcome (.ok manifest) (.ok (request.withVersion entry.version))
  | unlisted {manifest : Manifest} :
      ¬ manifest.HasVersion request.modelId →
      Tells request outcome (.ok manifest) (.error (.notInCatalog request.modelId))
  | absent {failure : Failure} :
      Http.IsNotFound outcome →
      Tells request outcome (.error failure) (.error (.notInCatalog request.modelId))
  | failed {failure : Failure} :
      ¬ Http.IsNotFound outcome →
      Tells request outcome (.error failure) (.error (.lookupFailed request.modelId failure))

variable {request : Request} {outcome : Except Failure (Url × Http.Reply)}
  {asked : List (Http.Request × Http.Answer)} {url : Url}

theorem tells_lookup {manifest : Manifest} (request : Request)
    (reads : Http.Reads Manifest.parse? url outcome (.ok manifest)) :
    Tells request outcome (.ok manifest) (ofAnswer request (manifest.lookup request.modelId)) := by
  rcases manifest.lookup_eq_of_latest request.modelId with
    ⟨entry, newest, found⟩ | ⟨absent, failure, failed, notFound⟩
  · rw [found]
    exact .newest reads.not_isNotFound newest
  · rw [failed, ofAnswer_error, ResolveError.ofFailure, if_pos notFound]
    exact .unlisted absent

theorem tells_error {fetch : Http.Request} {failure : Failure} (request : Request)
    (yields : fetch.Yields asked outcome)
    (reads : Http.Reads Manifest.parse? url outcome (.error failure)) :
    Tells request outcome (.error failure) (ofAnswer request (.error failure)) := by
  rw [ofAnswer_error, ResolveError.ofFailure]
  by_cases notFound : failure.kind = .notFound
  · rw [if_pos notFound]
    exact .absent ((reads.kind_eq_notFound_iff yields).1 notFound)
  · rw [if_neg notFound]
    exact .failed fun isNotFound => notFound ((reads.kind_eq_notFound_iff yields).2 isNotFound)

section Tells

variable {obtained : Except Failure Manifest} {result : Except ResolveError Request}

theorem Tells.eq_notInCatalog_iff (tells : Tells request outcome obtained result) :
    result = .error (.notInCatalog request.modelId) ↔
      (∃ manifest, obtained = .ok manifest ∧ ¬ manifest.HasVersion request.modelId) ∨
        Http.IsNotFound outcome := by
  cases tells with
  | newest found newest =>
      simp [found, newest.hasVersion]
  | unlisted unlisted =>
      simp [unlisted]
  | absent notFound =>
      simp [notFound]
  | failed found =>
      simp [found]

theorem Tells.eq_lookupFailed_iff (tells : Tells request outcome obtained result)
    (failure : Failure) :
    result = .error (.lookupFailed request.modelId failure) ↔
      obtained = .error failure ∧ ¬ Http.IsNotFound outcome := by
  cases tells with
  | newest found newest =>
      simp
  | unlisted unlisted =>
      simp
  | absent notFound =>
      simp [notFound]
  | failed found =>
      simp [found]

theorem Tells.eq_ok_iff (tells : Tells request outcome obtained result) (resolved : Request) :
    result = .ok resolved ↔ ∃ manifest entry, obtained = .ok manifest ∧
      manifest.IsNewest request.modelId entry ∧
        resolved = request.withVersion entry.version := by
  cases tells with
  | @newest manifest entry found newest =>
      constructor
      · intro isResolved
        exact ⟨manifest, entry, rfl, newest, (Except.ok.inj isResolved).symm⟩
      · intro isNewest
        obtain ⟨_, other, same, otherNewest, rfl⟩ := isNewest
        obtain rfl := Except.ok.inj same
        rw [newest.version_eq otherNewest]
  | @unlisted manifest unlisted =>
      constructor
      · intro isResolved
        cases isResolved
      · intro isNewest
        obtain ⟨_, entry, same, newest, _⟩ := isNewest
        obtain rfl := Except.ok.inj same
        exact absurd newest.hasVersion unlisted
  | absent notFound =>
      simp
  | failed found =>
      simp

end Tells

/-- Looking up a model in the published manifest fetches it once and tells what comes of that. -/
theorem exists_tells (url : Url) (world : World) (latest : request.isLatest = true) :
    ∃ outcome obtained asked result,
      world.run (resolve (Catalog.published url).latest request) =
        (.ok result, { world with exchanges := world.exchanges ++ asked }) ∧
      (⟨.get, url, none⟩ : Http.Request).Yields asked outcome ∧
      Http.Reads Manifest.parse? url outcome obtained ∧ Tells request outcome obtained result := by
  obtain ⟨outcome, obtained, asked, run, yields, reads⟩ :=
    Http.exists_reads Manifest.parse? world ⟨.get, url, none⟩
  simp only [resolve, latest, if_true]
  unfold Catalog.latest
  simp only [bind_assoc]
  rw [World.run_bind_of_ok run]
  cases obtained with
  | error failure =>
      exact ⟨outcome, _, asked, _, rfl, yields, reads, tells_error request yields reads⟩
  | ok manifest =>
      exact ⟨outcome, _, asked, _, rfl, yields, reads, tells_lookup request reads⟩

end Resolution

namespace Catalog

/-- Whatever the service of the manifest does, a request for the latest version is answered after
the manifest was fetched. It is told that the model is not in the catalog exactly when the manifest
was read and has no version of it that can be compared, or the last reply has status 404. In every
other case in which the manifest was not obtained or not read, it is told just that, with the
failure; and otherwise it gets the version of the newest entry. -/
theorem resolve_published (url : Url) (world : World) {request : Request}
    (latest : request.isLatest = true) :
    ∃ outcome obtained asked result,
      world.run (Resolution.resolve (published url).latest request) =
        (.ok result, { world with exchanges := world.exchanges ++ asked }) ∧
      (⟨.get, url, none⟩ : Http.Request).Yields asked outcome ∧
      Http.Reads Manifest.parse? url outcome obtained ∧
      (result = .error (.notInCatalog request.modelId) ↔
        (∃ manifest, obtained = .ok manifest ∧ ¬ manifest.HasVersion request.modelId) ∨
          Http.IsNotFound outcome) ∧
      (∀ failure, result = .error (.lookupFailed request.modelId failure) ↔
        obtained = .error failure ∧ ¬ Http.IsNotFound outcome) ∧
      ∀ resolved, result = .ok resolved ↔ ∃ manifest entry, obtained = .ok manifest ∧
        manifest.IsNewest request.modelId entry ∧ resolved = request.withVersion entry.version := by
  obtain ⟨outcome, obtained, asked, result, run, yields, reads, tells⟩ :=
    Resolution.exists_tells url world latest
  exact ⟨outcome, obtained, asked, result, run, yields, reads, tells.eq_notInCatalog_iff,
    tells.eq_lookupFailed_iff, tells.eq_ok_iff⟩

/-- The service replies like this to whatever it is asked. -/
def replying (status : Nat) (body : String) : World :=
  World.fresh [] fun _ _ => .reply (.ofText status none body)

/-- Where the manifest is published. -/
def manifestAt : Url :=
  ⟨"https", "", "", some "catalog", none, false, .segments ["manifest"], none, none⟩

theorem resolve_published_serverError :
    (⟨"m1", "*"⟩ : Request).isLatest = true ∧
      ∃ outcome asked failure,
        (replying 503 "").run (Resolution.resolve (published manifestAt).latest ⟨"m1", "*"⟩) =
          (.ok (.error (.lookupFailed "m1" failure)),
            { replying 503 "" with exchanges := [] ++ asked }) ∧
        (⟨.get, manifestAt, none⟩ : Http.Request).Yields asked outcome ∧
        Http.Reads Manifest.parse? manifestAt outcome (.error failure) := by
  have latest : (⟨"m1", "*"⟩ : Request).isLatest = true := by decide
  refine ⟨latest, ?_⟩
  obtain ⟨outcome, obtained, asked, result, run, yields, reads, _, isFailure, _⟩ :=
    resolve_published manifestAt (replying 503 "") latest
  have failed : ((replying 503 "").run
      (Resolution.resolve (published manifestAt).latest ⟨"m1", "*"⟩)).1 =
        .ok (.error (.lookupFailed "m1" (.because .internalError
          (.status "https://catalog/manifest" 503 "")))) := by decide +kernel
  rw [run] at failed
  obtain rfl := Except.ok.inj failed
  obtain ⟨rfl, _⟩ := (isFailure _).1 rfl
  exact ⟨outcome, asked, _, run, yields, reads⟩

/-- A model is said not to be in the catalog though its manifest was not obtained. -/
theorem exists_notInCatalog_of_unobtained :
    (⟨"m1", "*"⟩ : Request).isLatest = true ∧
      ((replying 404 "").run
        (Resolution.resolve (published manifestAt).latest ⟨"m1", "*"⟩)).1 =
          .ok (.error (.notInCatalog "m1")) ∧
      ((replying 404 "").run (Http.askFor Manifest.parse? ⟨.get, manifestAt, none⟩)).1 =
          .ok (.error (.because .notFound (.status "https://catalog/manifest" 404 ""))) ∧
      ((replying 410 "").run
        (Resolution.resolve (published manifestAt).latest ⟨"m1", "*"⟩)).1 =
          .ok (.error (.lookupFailed "m1"
            (.because .badRequest (.status "https://catalog/manifest" 410 "")))) := by
  refine ⟨by decide, by decide +kernel, by decide +kernel, by decide +kernel⟩

end Catalog

end ModelHub

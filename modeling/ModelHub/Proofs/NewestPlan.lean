import ModelHub.Proofs.CatalogRun
import ModelHub.Proofs.LatestVersion
import ModelHub.Proofs.OctetText
import ModelHub.Proofs.PlanAccount
import ModelHub.Proofs.PlanIndependence

/-!
# The latest version is the newest one

A request for the latest version of a model asks for the newest version that the manifest has of it.
It is left out when the hub holds a copy that no version of the manifest is above, and otherwise
decided on at the version of the newest entry. It does not matter whether the manifest was loaded
once or is fetched for every lookup.
-/

namespace ModelHub

/-- The record is readable, its keywords tag it as a copy of the model, and no version that the
manifest has of the model is above the one that the hub records for it. -/
def Record.IsUpToDate (record : Record) (manifest : Manifest) (modelId : String) : Prop :=
  ∃ entry native, Entry.ofRecord? record = some entry ∧
    (∃ tag, entry.tag? = some tag ∧ tag.modelId = modelId) ∧ entry.version? = some native ∧
    ∀ listed ∈ manifest, listed.modelId = modelId →
      ∀ version, Version.parse? listed.version = some version →
        (native.order version).isGE = true

/-- What the plan says of a request for the latest version of a model. -/
structure Plan.GivesNewest (plan : Plan) (manifest : Manifest) (records : List Record)
    (ordinal : Nat) (request : Request) : Prop where
  unresolved_iff : (∃ item ∈ plan.unresolved, item.ordinal = ordinal) ↔
    ¬ manifest.HasVersion request.modelId
  gives_unresolved (noVersion : ¬ manifest.HasVersion request.modelId) :
    plan.Gives ordinal (.unresolved request (.notInCatalog request.modelId))
  leavesOut_iff (hasVersion : manifest.HasVersion request.modelId) :
    plan.LeavesOut ordinal ↔ ∃ record ∈ records, record.IsUpToDate manifest request.modelId
  exists_decided (hasVersion : manifest.HasVersion request.modelId)
    (outOfDate : ¬ ∃ record ∈ records, record.IsUpToDate manifest request.modelId) :
    ∃ entry reason, manifest.IsNewest request.modelId entry ∧
      plan.Gives ordinal (.decided ⟨request.modelId, entry.version⟩ reason) ∧
      reason ≠ .requestedVersionUnknown

namespace Manifest

variable {manifest : Manifest} {modelId : String} {entry : ManifestEntry} {record : Record}

/-- A record is up to date when it satisfies a request for the version of the newest entry. -/
theorem IsNewest.isUpToDate_iff (newest : manifest.IsNewest modelId entry) :
    record.IsUpToDate manifest modelId ↔ record.Satisfies ⟨modelId, entry.version⟩ := by
  obtain ⟨newestVersion, parsed⟩ := newest.version
  constructor
  · intro upToDate
    rcases upToDate with ⟨found, native, readable, tagged, isNative, notBelow⟩
    exact ⟨found, readable, tagged, native, newestVersion, isNative, parsed,
      notBelow entry newest.mem.1 newest.mem.2 newestVersion parsed⟩
  · intro satisfies
    rcases satisfies with ⟨found, readable, tagged, native, wanted, isNative, isWanted, notLower⟩
    obtain rfl : newestVersion = wanted := Option.some.inj (parsed.symm.trans isWanted)
    refine ⟨found, native, readable, tagged, isNative, ?_⟩
    intro listed member sameModel version isVersion
    exact Version.order_isGE_trans notLower
      (Version.order_isGE_iff_isLE.2 (newest.isLE parsed member sameModel isVersion))

end Manifest

namespace Plan

variable {manifest : Manifest} {records : List Record} {requests : List Request} {ordinal : Nat}
  {request : Request}

/-- A request for the latest version stands for one for the version of the newest entry. -/
theorem resolvesTo_iff {entry : ManifestEntry} {resolved : Request}
    (latest : request.isLatest = true)
    (answer : manifest.lookup request.modelId = .ok entry.version) :
    request.ResolvesTo manifest.lookup resolved ↔
      resolved = ⟨request.modelId, entry.version⟩ := by
  simp [Request.ResolvesTo, latest, answer]

theorem givesNewest_of_isNewest {entry : ManifestEntry} (found : requests[ordinal]? = some request)
    (latest : request.isLatest = true) (newest : manifest.IsNewest request.modelId entry)
    (answer : manifest.lookup request.modelId = .ok entry.version) :
    (ofFates (fatesOf manifest.lookup records requests)).GivesNewest manifest records ordinal
      request where
  unresolved_iff := by
    constructor
    · intro reported
      obtain ⟨item, member, rfl⟩ := reported
      obtain ⟨isRequest, _, failure, fails, _⟩ := mem_unresolved_fatesOf_iff.1 member
      obtain rfl : request = item.request := Option.some.inj (found.symm.trans isRequest)
      cases answer.symm.trans fails
    · intro noVersion
      exact absurd newest.hasVersion noVersion
  gives_unresolved noVersion := absurd newest.hasVersion noVersion
  leavesOut_iff _ := by
    rw [leavesOut_ofFates_iff (fatesOf_getElem? found), Fate.of_eq_satisfied_iff]
    simp only [resolvesTo_iff latest answer, exists_eq_left,
      Decision.reason?_ofRecords_eq_none_iff, newest.isUpToDate_iff]
  exists_decided _ outOfDate := by
    simp only [newest.isUpToDate_iff, ← Decision.reason?_ofRecords_eq_none_iff] at outOfDate
    obtain ⟨reason, due⟩ := Option.ne_none_iff_exists'.1 outOfDate
    refine ⟨entry, reason, newest, ?_, ?_⟩
    · have fate : Fate.of manifest.lookup (Index.ofRecords records) request =
          .decided ⟨request.modelId, entry.version⟩ reason :=
        Fate.of_eq_decided_iff.2 ⟨(resolvesTo_iff latest answer).2 rfl, due⟩
      rw [← fate]
      exact gives_fatesOf found
    · intro unknown
      rw [unknown] at due
      obtain ⟨_, notParsed⟩ := Decision.reason?_ofRecords_eq_requestedVersionUnknown_iff.1 due
      obtain ⟨version, parsed⟩ := newest.version
      cases parsed.symm.trans notParsed

theorem givesNewest_of_not_hasVersion {failure : Failure}
    (found : requests[ordinal]? = some request) (latest : request.isLatest = true)
    (noVersion : ¬ manifest.HasVersion request.modelId)
    (answer : manifest.lookup request.modelId = .error failure)
    (notFound : failure.kind = .notFound) :
    (ofFates (fatesOf manifest.lookup records requests)).GivesNewest manifest records ordinal
      request where
  unresolved_iff := by
    refine iff_of_true ?_ noVersion
    refine ⟨⟨ordinal, request, .ofFailure request.modelId failure⟩, ?_, rfl⟩
    exact mem_unresolved_fatesOf_iff.2 ⟨found, latest, failure, answer, rfl⟩
  gives_unresolved _ := by
    have fate : Fate.of manifest.lookup (Index.ofRecords records) request =
        .unresolved request (.notInCatalog request.modelId) :=
      Fate.of_eq_unresolved_iff.2 ⟨rfl, latest, failure, answer, (if_pos notFound).symm⟩
    rw [← fate]
    exact gives_fatesOf found
  leavesOut_iff hasVersion := absurd hasVersion noVersion
  exists_decided hasVersion := absurd hasVersion noVersion

/-- With a manifest for a catalog, the request for the latest version of a model is not resolved
when the manifest has no version of it that can be compared, left out when some copy in the hub is
not below any of those versions, and otherwise decided on at the version of the newest entry as it
is written. All this is the same for a manifest that was loaded and for one that is fetched, with
status 200, for every lookup. -/
theorem planFor_newest (manifest : Manifest) (requests : List Request) :
    (∀ records, ∃ plan, planFor manifest.lookup (.ok records) requests = .ok plan ∧
      ∀ ordinal request, requests[ordinal]? = some request → request.isLatest = true →
        plan.GivesNewest manifest records ordinal request) ∧
    ∀ text url world, Manifest.parse? text = some manifest → World.Publishes world url text →
      (∀ listing, world.run (make (Catalog.published url).latest listing requests) =
        ((World.fetched url)^[requests.countP Request.isLatest] world).run
          (make (Catalog.saved manifest).latest listing requests)) ∧
      ∀ listed,
        (world.run (make (Catalog.published url).latest (pure listed) requests)).1 =
          .ok (planFor manifest.lookup listed requests) ∧
        (world.run (make (Catalog.saved manifest).latest (pure listed) requests)).1 =
          .ok (planFor manifest.lookup listed requests) := by
  constructor
  · intro records
    refine ⟨_, planFor_ok manifest.lookup records requests, ?_⟩
    intro ordinal request found latest
    rcases manifest.lookup_eq_of_latest request.modelId with
      ⟨entry, newest, answer⟩ | ⟨noVersion, failure, answer, notFound⟩
    · exact givesNewest_of_isNewest found latest newest answer
    · exact givesNewest_of_not_hasVersion found latest noVersion answer notFound
  · intro text url world isManifest publishes
    have published : Resolution.Answers (Catalog.published url).latest manifest.lookup
        (fun world => world.Publishes url text) (World.fetched url) :=
      Catalog.answers_published isManifest
    have saved := Catalog.answers_saved manifest
    refine ⟨fun listing => ?_, fun listed => ⟨?_, ?_⟩⟩
    · rw [published.run_make publishes, saved.run_make trivial, Function.iterate_id, id]
    · rw [published.run_make publishes]
      rfl
    · rw [saved.run_make trivial]
      rfl

/-- Two spellings of one version of a model, no version of a second one, and one of a third. -/
def tiedManifest : Manifest := [⟨"twice", "1.0"⟩, ⟨"twice", "1.0.0"⟩, ⟨"none", "x"⟩, ⟨"held", "2"⟩]

def tiedText : String :=
  "[\x7b\"model_id\": \"twice\", \"version\": \"1.0\"\x7d, "
    ++ "\x7b\"model_id\": \"twice\", \"version\": \"1.0.0\"\x7d, "
    ++ "\x7b\"model_id\": \"none\", \"version\": \"x\"\x7d, "
    ++ "\x7b\"model_id\": \"held\", \"version\": \"2\"\x7d]"

/-- A URL with a path of one segment. -/
def manifestUrl : Url :=
  ⟨"https", "", "", some "catalog", none, false, .segments ["manifest"], none, none⟩

/-- A network that answers whatever it is asked with the text. -/
def servesTied : World := World.fresh [] fun _ _ => .reply (.ofText 200 none tiedText)

def latestOfThree : List Request := [.latest "twice", .latest "none", .latest "held"]

theorem planFor_newest_latestOfThree :
    (∃ plan, planFor tiedManifest.lookup (.ok [.ofCopy "copy" ⟨"held", "2.0"⟩]) latestOfThree =
        .ok plan ∧
      (∀ ordinal request, latestOfThree[ordinal]? = some request → request.isLatest = true →
        plan.GivesNewest tiedManifest [.ofCopy "copy" ⟨"held", "2.0"⟩] ordinal request) ∧
      plan = ⟨[⟨0, ⟨"twice", "1.0"⟩, .missing⟩], [⟨1, .latest "none", .notInCatalog "none"⟩]⟩) ∧
    (servesTied.run (make (Catalog.published manifestUrl).latest (pure (.ok []))
      latestOfThree)).1 = .ok (planFor tiedManifest.lookup (.ok []) latestOfThree) := by
  obtain ⟨planned, published⟩ := planFor_newest tiedManifest latestOfThree
  obtain ⟨plan, made, newest⟩ := planned [.ofCopy "copy" ⟨"held", "2.0"⟩]
  have publishes : servesTied.Publishes manifestUrl tiedText :=
    ⟨by decide, fun _ => ⟨.ofText 200 none tiedText, rfl, Http.Reply.text?_ofText _ _ _, rfl⟩⟩
  refine ⟨⟨plan, made, newest, ?_⟩, ?_⟩
  · cases made
    decide
  · exact ((published tiedText manifestUrl servesTied (by decide +kernel) publishes).2 (.ok [])).1

end Plan

end ModelHub

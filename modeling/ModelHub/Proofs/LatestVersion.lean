import ModelHub.Catalog.Manifest
import ModelHub.Proofs.FirstHighest
import ModelHub.Proofs.VersionOrder

/-!
# The latest version in a manifest

The latest of some texts is the first of those that denote the highest version, texts that denote
none being ranked below all others. A manifest answers with the version of the first entry that is
highest so, as it is written there, and with nothing but a model that is not found.
-/

namespace ModelHub

/-! ## Texts -/

namespace Version

/-- What the search for the latest version holds, beside what a search holds that ranks the texts
without a version lowest: the same text with its version, or nothing beside a text without one. -/
inductive Held : Option (String × Version) → Option String → Prop
  | nothing {held : Option String} : (∀ text ∈ held, parse? text = none) → Held none held
  | best {text : String} {version : Version} :
      parse? text = some version → Held (some (text, version)) (some text)

theorem Held.keep {best : Option (String × Version)} {held : Option String} (both : Held best held)
    (text : String) : Held (keepHighest best text) (keepHigher parse? held text) := by
  cases both with
  | nothing noVersion =>
      cases held with
      | none =>
          cases found : parse? text with
          | none =>
              simp only [keepHighest, keepHigher, found]
              exact nothing fun other isText => by rwa [← Option.some.inj isText]
          | some version =>
              simp only [keepHighest, keepHigher, found]
              exact best found
      | some current =>
          have currentNone := noVersion current rfl
          cases found : parse? text with
          | none =>
              simp only [keepHighest, keepHigher, found, currentNone]
              exact nothing noVersion
          | some version =>
              simp only [keepHighest, keepHigher, found, currentNone]
              exact best found
  | @best current version parsed =>
      cases found : parse? text with
      | none =>
          simp only [keepHighest, keepHigher, found, parsed]
          exact best parsed
      | some other =>
          simp only [keepHighest, keepHigher, found, parsed]
          by_cases higher : other.order version = .gt
          · have ranked : compare (some other) (some version) = .gt := higher
            rw [if_pos higher, if_pos ranked]
            exact best found
          · have ranked : ¬ compare (some other) (some version) = .gt := higher
            rw [if_neg higher, if_neg ranked]
            exact best parsed

theorem Held.foldl {best : Option (String × Version)} {held : Option String}
    (both : Held best held) (texts : List String) :
    Held (texts.foldl keepHighest best) (texts.foldl (keepHigher parse?) held) := by
  induction texts generalizing best held with
  | nil =>
      exact both
  | cons text texts inductionHypothesis =>
      exact inductionHypothesis (both.keep text)

theorem held_search (texts : List String) :
    Held (texts.foldl keepHighest none) (texts.foldl (keepHigher parse?) none) :=
  Held.foldl (.nothing fun _ absent => by cases absent) texts

/-- The latest of the texts is the first of the highest ones, if that one has a version. -/
theorem latest_eq_some_iff {texts : List String} {text : String} :
    latest texts = some text ↔
      IsFirstHighest parse? texts text ∧ ∃ version, parse? text = some version := by
  rw [← foldl_keepHigher_eq_some_iff, latest]
  generalize texts.foldl keepHighest none = best, texts.foldl (keepHigher parse?) none = held,
    held_search texts = both
  cases both with
  | nothing noVersion =>
      constructor
      · intro absent
        cases absent
      · intro highest
        obtain ⟨isHeld, version, parsed⟩ := highest
        rw [noVersion text isHeld] at parsed
        cases parsed
  | @best current version parsed =>
      constructor
      · intro isBest
        obtain rfl : current = text := Option.some.inj isBest
        exact ⟨rfl, version, parsed⟩
      · intro highest
        exact highest.1

/-- There is no latest version where no text denotes one. -/
theorem latest_eq_none_iff {texts : List String} :
    latest texts = none ↔ ∀ text ∈ texts, parse? text = none := by
  constructor
  · intro noLatest text member
    by_contra versioned
    obtain ⟨version, parsed⟩ := Option.ne_none_iff_exists'.1 versioned
    obtain ⟨best, _, highest⟩ := exists_foldl_keepHigher parse? (List.ne_nil_of_mem member)
    have notHigher := highest.isLE member
    rw [parsed] at notHigher
    cases found : parse? best with
    | none =>
        rw [found] at notHigher
        cases notHigher
    | some bestVersion =>
        rw [latest_eq_some_iff.2 ⟨highest, bestVersion, found⟩] at noLatest
        cases noLatest
  · intro noVersion
    rw [Option.eq_none_iff_forall_ne_some]
    intro text isLatest
    obtain ⟨highest, version, parsed⟩ := latest_eq_some_iff.1 isLatest
    rw [noVersion text highest.mem] at parsed
    cases parsed

end Version

/-! ## Manifests -/

namespace Manifest

/-- The entry is the first one that lists the model at the highest of the versions that the manifest
has of it. -/
structure IsNewest (manifest : Manifest) (modelId : String) (entry : ManifestEntry) : Prop where
  version : ∃ version, Version.parse? entry.version = some version
  firstHighest : IsFirstHighest (fun listed => Version.parse? listed.version)
    (manifest.filter fun listed => listed.modelId = modelId) entry

/-- Some entry lists the model at a version that can be compared. -/
def HasVersion (manifest : Manifest) (modelId : String) : Prop :=
  ∃ entry ∈ manifest, entry.modelId = modelId ∧
    ∃ version, Version.parse? entry.version = some version

variable {manifest : Manifest} {modelId : String}

theorem IsNewest.mem {entry : ManifestEntry} (newest : manifest.IsNewest modelId entry) :
    entry ∈ manifest ∧ entry.modelId = modelId := by
  have member := newest.firstHighest.mem
  rw [List.mem_filter, decide_eq_true_eq] at member
  exact member

theorem IsNewest.hasVersion {entry : ManifestEntry} (newest : manifest.IsNewest modelId entry) :
    manifest.HasVersion modelId :=
  ⟨entry, newest.mem.1, newest.mem.2, newest.version⟩

/-- No version that the manifest has of the model is above that of the newest entry. -/
theorem IsNewest.isLE {entry listed : ManifestEntry} {newestVersion version : Version}
    (newest : manifest.IsNewest modelId entry)
    (isNewest : Version.parse? entry.version = some newestVersion)
    (member : listed ∈ manifest) (sameModel : listed.modelId = modelId)
    (isVersion : Version.parse? listed.version = some version) :
    (version.order newestVersion).isLE = true := by
  have notHigher := newest.firstHighest.isLE
    (List.mem_filter.2 ⟨member, decide_eq_true sameModel⟩)
  rw [isNewest, isVersion] at notHigher
  exact notHigher

theorem latest_versionsOf_eq_some_iff {text : String} :
    Version.latest (manifest.versionsOf modelId) = some text ↔
      ∃ entry, manifest.IsNewest modelId entry ∧ entry.version = text := by
  rw [Version.latest_eq_some_iff, versionsOf, isFirstHighest_map_iff]
  constructor
  · intro latest
    rcases latest with ⟨⟨entry, rfl, highest⟩, version⟩
    exact ⟨entry, ⟨version, highest⟩, rfl⟩
  · intro newest
    rcases newest with ⟨entry, ⟨version, highest⟩, rfl⟩
    exact ⟨⟨entry, rfl, highest⟩, version⟩

theorem latest_versionsOf_eq_none_iff :
    Version.latest (manifest.versionsOf modelId) = none ↔ ¬ manifest.HasVersion modelId := by
  rw [Version.latest_eq_none_iff, versionsOf, List.forall_mem_map]
  constructor
  · intro noVersion hasVersion
    obtain ⟨entry, member, sameModel, version, parsed⟩ := hasVersion
    have unversioned := noVersion entry (List.mem_filter.2 ⟨member, decide_eq_true sameModel⟩)
    rw [unversioned] at parsed
    cases parsed
  · intro noVersion entry member
    rw [List.mem_filter, decide_eq_true_eq] at member
    rw [Option.eq_none_iff_forall_ne_some]
    intro version parsed
    exact noVersion ⟨entry, member.1, member.2, version, parsed⟩

/-- A lookup gives the version of the newest entry as it is written, and a model without one is not
found. -/
theorem lookup_eq_of_latest (manifest : Manifest) (modelId : String) :
    (∃ entry, manifest.IsNewest modelId entry ∧ manifest.lookup modelId = .ok entry.version) ∨
      ¬ manifest.HasVersion modelId ∧
        ∃ failure, manifest.lookup modelId = .error failure ∧ failure.kind = .notFound := by
  cases found : Version.latest (manifest.versionsOf modelId) with
  | some text =>
      obtain ⟨entry, newest, rfl⟩ := latest_versionsOf_eq_some_iff.1 found
      refine Or.inl ⟨entry, newest, ?_⟩
      unfold lookup latest
      split
      · next isEmpty =>
          rw [isEmpty] at found
          cases found
      · rw [found]
        rfl
  | none =>
      refine Or.inr ⟨latest_versionsOf_eq_none_iff.1 found, ?_⟩
      unfold lookup latest
      split
      · exact ⟨_, rfl, rfl⟩
      · rw [found]
        exact ⟨_, rfl, rfl⟩

end Manifest

end ModelHub

import ModelHub.Proofs.EndpointPath

/-!
# Endpoints of an API base

The endpoints of a base that is read from a text exist, whatever their segments hold, and differ
from the base in nothing but the path. They keep the segments of the base exactly as long as no text
climbs out of it at the start. A slash at the end of the base makes no difference, and segments can
be added in two steps where a plain segment that is not empty ends the first one.
-/

namespace ModelHub.Url

/-! ## Bases that are read -/

theorem resolveSegments_ne_nil (path : List String) {segments : List (List Char)}
    (nonempty : segments ≠ []) : resolveSegments false path segments ≠ [] := by
  obtain ⟨front, last, rfl⟩ := (List.eq_nil_or_concat' segments).resolve_left nonempty
  unfold resolveSegments
  dsimp only
  split
  · simp
  · next noDot =>
      simp only [List.getLast?_concat, Option.any_some, Bool.or_eq_true, not_or] at noDot
      rw [List.foldl_concat, followSegment, if_neg noDot.1, if_neg noDot.2]
      simp [addWritten]

/-- The path of a URL with a special scheme is never empty. -/
theorem hostedPath_ne_nil (input : List Char) : hostedPath true input ≠ [] := by
  have segments : pathSegments true input ≠ [] := by
    unfold pathSegments
    split
    · exact List.cons_ne_nil _ _
    · exact List.splitOn_ne_nil '/' _
  unfold hostedPath
  rw [if_neg (by simp)]
  exact resolveSegments_ne_nil [] segments

theorem path_of_readHosted {scheme : String} {parts : Parts} {input : List Char} {url : Url}
    (read : readHosted scheme parts input = .ok url) :
    url.scheme = scheme ∧
      ∃ rest, url.path = .segments (hostedPath (isSpecialScheme scheme) rest) := by
  unfold readHosted at read
  dsimp only at read
  split at read
  · cases read
  · cases read
    exact ⟨rfl, _, rfl⟩

theorem scheme_of_readFile {parts : Parts} {input : List Char} {url : Url}
    (read : readFile parts input = .ok url) : url.scheme = "file" := by
  unfold readFile at read
  dsimp only at read
  split at read
  · split at read
    · split at read
      · cases read
        rfl
      · split at read
        · cases read
        · cases read
          rfl
    · cases read
      rfl
  · cases read
    rfl

theorem isSpecialScheme_of_mem_schemes {scheme : String} (overService : scheme ∈ Http.schemes) :
    isSpecialScheme scheme = true ∧ scheme ≠ "file" := by
  have each : ∀ scheme ∈ Http.schemes, isSpecialScheme scheme = true ∧ scheme ≠ "file" := by decide
  exact each scheme overService

/-- The URL of a service has at least one segment. -/
theorem exists_path_of_parse {text : String} {url : Url} (parsed : parse text = .ok url)
    (overService : url.scheme ∈ Http.schemes) : ∃ path, url.path = .segments path ∧ path ≠ [] := by
  obtain ⟨special, notFile⟩ := isSpecialScheme_of_mem_schemes overService
  have ofHosted {scheme : String} {parts : Parts} {input : List Char}
      (read : readHosted scheme parts input = .ok url) :
      ∃ path, url.path = .segments path ∧ path ≠ [] := by
    obtain ⟨rfl, rest, isPath⟩ := path_of_readHosted read
    rw [special] at isPath
    exact ⟨_, isPath, hostedPath_ne_nil rest⟩
  unfold parse at parsed
  split at parsed
  · cases parsed
  · unfold readAfterScheme at parsed
    dsimp only at parsed
    split at parsed
    · exact absurd (scheme_of_readFile parsed) notFile
    · split at parsed
      · exact ofHosted parsed
      · next noSpecial =>
          split at parsed
          · exact ofHosted parsed
          · cases parsed
            exact absurd special noSpecial
          · cases parsed
            exact absurd special noSpecial

/-- The base of an API as it is read from a text: a URL of a service whose path is not just two
slashes. -/
structure IsApiBase (text : String) (base : Url) : Prop where
  parsed : parse text = .ok base
  overService : base.scheme ∈ Http.schemes
  notDoubleSlash : base.path ≠ .segments ["", ""]

/-- A URL whose path segments can be added to as to those of the base of an API. -/
structure HasPath (base : Url) (path : List String) : Prop where
  isPath : base.path = .segments path
  nonempty : path ≠ []
  notDoubleSlash : path ≠ ["", ""]
  special : isSpecialScheme base.scheme = true
  notFile : base.scheme ≠ "file"

theorem IsApiBase.exists_hasPath {text : String} {base : Url} (isBase : IsApiBase text base) :
    ∃ path, base.HasPath path := by
  obtain ⟨path, isPath, nonempty⟩ := exists_path_of_parse isBase.parsed isBase.overService
  obtain ⟨special, notFile⟩ := isSpecialScheme_of_mem_schemes isBase.overService
  have notDoubleSlash := isBase.notDoubleSlash
  rw [isPath] at notDoubleSlash
  exact ⟨path, isPath, nonempty, fun isDouble => notDoubleSlash (congrArg _ isDouble), special,
    notFile⟩

theorem HasPath.list_eq {base : Url} {path : List String} (hasPath : base.HasPath path) :
    base.path.list = path := by
  rw [hasPath.isPath]
  rfl

/-! ## Endpoints -/

section Endpoints

variable {base : Url} {path : List String}

theorem endpointOf_eq (isPath : base.path = .segments path) (segments : List String) :
    Hub.endpointOf base segments = .ok
      { base with path := .segments (addSegments base.scheme (trimFinalEmpty path) segments) } := by
  simp [Hub.endpointOf, endpoint?, isPath]

theorem trimFinalEmpty_concat {last : String} (path : List String) (notEmpty : last ≠ "") :
    trimFinalEmpty (path ++ [last]) = path ++ [last] := by
  simp [trimFinalEmpty, notEmpty]

/-- A slash at the end is left out again. -/
theorem trimFinalEmpty_append_empty (nonempty : path ≠ []) (noSlash : path.getLast? ≠ some "") :
    trimFinalEmpty (path ++ [""]) = trimFinalEmpty path := by
  have long : (path ++ [""]).length > 1 := by
    have positive := List.length_pos_iff.2 nonempty
    rw [List.length_append, List.length_singleton]
    omega
  rw [trimFinalEmpty, if_pos ⟨long, List.getLast?_concat⟩, List.dropLast_concat, trimFinalEmpty,
    if_neg fun both => noSlash both.2]

theorem IsPlain.addedSegment_ne_empty {special : Bool} {segment : String} (plain : IsPlain segment)
    (notEmpty : segment ≠ "") : addedSegment special segment ≠ "" := by
  intro isEmpty
  have decodes : Decodes (addedSegment special segment) segment := plain.decodes_addedSegment
  rw [isEmpty] at decodes
  exact notEmpty (decodes.unique decodes_empty)

theorem addSegments_append (scheme : String) (front back : List String) :
    addSegments scheme path (front ++ back) =
      addSegments scheme (addSegments scheme path front) back :=
  List.foldl_append

/-- A path that a plain segment was added to last is taken up as it is. -/
theorem trimFinalEmpty_addSegments {scheme last : String} (notFile : scheme ≠ "file")
    (front : List String) (plain : IsPlain last) (notEmpty : last ≠ "") :
    trimFinalEmpty (addSegments scheme path (front ++ [last])) =
      addSegments scheme path (front ++ [last]) := by
  have added : addSegments scheme path (front ++ [last]) =
      openPath (addSegments scheme path front) ++
        [addedSegment (isSpecialScheme scheme) last] := by
    rw [addSegments_append]
    exact addSegment_eq_append _ notFile plain.notDot plain.not_climbs
  rw [added]
  exact trimFinalEmpty_concat _ (plain.addedSegment_ne_empty notEmpty)

end Endpoints

/-- The endpoints of a base exist and keep all of it but the path. They keep the segments of its
path as well, whatever the added ones hold, exactly when the first one that counts does not climb
out of it. -/
theorem endpointOf_keepsBase {text : String} {base : Url} (isBase : IsApiBase text base) :
    (∀ segments, ∃ path, Hub.endpointOf base segments = .ok { base with path := .segments path }) ∧
      (∀ segments,
        (∀ front path, front <+: segments →
            Hub.endpointOf base front = .ok { base with path := .segments path } →
            baseSegments base.path.list <+: path) ↔
          ∀ first, firstCounted segments = some first → Climbs first →
            IsTop (baseSegments base.path.list)) ∧
      (base.path.list.getLast? ≠ some "" → ∀ segments,
        Hub.endpointOf { base with path := .segments (base.path.list ++ [""]) } segments =
          Hub.endpointOf base segments) ∧
      ∀ front last back url, IsPlain last → last ≠ "" →
        Hub.endpointOf base (front ++ [last]) = .ok url →
        Hub.endpointOf url back = Hub.endpointOf base (front ++ [last] ++ back) := by
  obtain ⟨path, hasPath⟩ := isBase.exists_hasPath
  have endpoint := endpointOf_eq hasPath.isPath
  rw [hasPath.list_eq]
  refine ⟨fun segments => ⟨_, endpoint segments⟩, fun segments => ?_,
    fun noSlash segments => ?_, ?_⟩
  · rw [← forall_prefix_addSegments_iff hasPath.notFile
      (baseSegments_ne_root hasPath.notDoubleSlash)
      (openPath_trimFinalEmpty hasPath.notDoubleSlash)]
    constructor
    · intro stays front isFront
      exact stays front _ isFront (endpoint front)
    · intro stays front path' isFront isEndpoint
      have same := (endpoint front).symm.trans isEndpoint
      simp only [Except.ok.injEq, Url.mk.injEq, Path.segments.injEq, true_and, and_true] at same
      rw [← same]
      exact stays front isFront
  · rw [endpoint, endpointOf_eq rfl, trimFinalEmpty_append_empty hasPath.nonempty noSlash]
  · intro front last back url plain notEmpty isEndpoint
    rw [endpoint] at isEndpoint
    obtain rfl := Except.ok.inj isEndpoint
    rw [endpoint, endpointOf_eq rfl,
      trimFinalEmpty_addSegments hasPath.notFile front plain notEmpty, ← addSegments_append]

/-- The base that is read from `http://u@[::1]:8080/v1/?q#f`. -/
def loopbackApi : Url :=
  { scheme := "http"
    username := "u"
    password := ""
    host := some "[::1]"
    tcpPort := some 8080
    heldApart := false
    path := .segments ["v1", ""]
    query := some "q"
    fragment := some "f" }

theorem loopbackApi_isApiBase : IsApiBase "http://u@[::1]:8080/v1/?q#f" loopbackApi :=
  ⟨by decide +kernel, by decide, by decide⟩

/-- Slashes, marks and coded dots do not lead out of a base, nor does a text that climbs back from
the segment before it. -/
theorem endpointOf_keepsBase_hostileSegments :
    ∃ path, Hub.endpointOf loopbackApi ["..", "../..", "%2e%2e", "?q#f", ".\t."] =
        .ok { loopbackApi with path := .segments path } ∧ ["v1"] <+: path := by
  obtain ⟨exist, keep, _⟩ := endpointOf_keepsBase loopbackApi_isApiBase
  obtain ⟨path, isEndpoint⟩ := exist ["..", "../..", "%2e%2e", "?q#f", ".\t."]
  have stays : ∀ first, firstCounted ["..", "../..", "%2e%2e", "?q#f", ".\t."] = some first →
      Climbs first → IsTop (baseSegments loopbackApi.path.list) := by
    intro first isFirst climbs
    obtain rfl : "../.." = first := Option.some.inj isFirst
    exact absurd climbs (by decide)
  exact ⟨path, isEndpoint, (keep _).2 stays _ path List.prefix_rfl isEndpoint⟩

/-- Two dots with a tab between them lead out of a base. -/
theorem exists_endpointOf_leavesBase :
    IsApiBase "http://u@[::1]:8080/v1/?q#f" loopbackApi ∧
      ∃ url, Hub.endpointOf loopbackApi [".\t."] = .ok url ∧ url.path = .segments [""] ∧
        ¬ baseSegments loopbackApi.path.list <+: url.path.list :=
  ⟨loopbackApi_isApiBase, { loopbackApi with path := .segments [""] }, by decide, rfl, by decide⟩

end ModelHub.Url

import Mathlib.Data.List.Induction
import ModelHub.Proofs.EndpointBase

/-!
# The URL of a model

The URL of a model goes on from the API base by six segments, which are read as the way to the
model: its hub, its name and its version are among them. This is so exactly when these three are
plain. No two plain models share a URL then, and none has the URL of a whole hub or of all versions
of a model.
-/

namespace ModelHub

namespace Url

/-! ## Written paths -/

section Written

theorem toList_render_segments (path : List String) :
    (Path.segments path).render.toList = path.flatMap fun segment => '/' :: segment.toList := by
  induction path with
  | nil =>
      rfl
  | cons segment path inductionHypothesis =>
      have joined : (Path.segments (segment :: path)).render =
          "/" ++ segment ++ (Path.segments path).render := by
        simp [Path.render, String.join_cons]
      rw [joined, String.toList_append, inductionHypothesis]
      simp

theorem flatMap_slash_eq_cons_intercalate (first : String) (rest : List String) :
    ((first :: rest).flatMap fun segment => '/' :: segment.toList) =
      '/' :: ['/'].intercalate ((first :: rest).map String.toList) := by
  induction rest generalizing first with
  | nil =>
      simp
  | cons next rest inductionHypothesis =>
      rw [List.flatMap_cons, inductionHypothesis next]
      simp [List.intercalate_cons_cons]

/-- Segments without slashes are told apart by the path that is written of them. -/
theorem eq_of_flatMap_slash_eq {left right : List String}
    (noSlashLeft : ∀ segment ∈ left, '/' ∉ segment.toList)
    (noSlashRight : ∀ segment ∈ right, '/' ∉ segment.toList)
    (same : (left.flatMap fun segment => '/' :: segment.toList) =
      right.flatMap fun segment => '/' :: segment.toList) : left = right := by
  have split {first : String} {rest : List String}
      (noSlash : ∀ segment ∈ first :: rest, '/' ∉ segment.toList) :
      (['/'].intercalate ((first :: rest).map String.toList)).splitOn '/' =
        (first :: rest).map String.toList :=
    List.splitOn_intercalate '/' (by simpa using noSlash) (by simp)
  cases left with
  | nil =>
      cases right with
      | nil =>
          rfl
      | cons first rest =>
          simp at same
  | cons first rest =>
      cases right with
      | nil =>
          simp at same
      | cons other others =>
          rw [flatMap_slash_eq_cons_intercalate, flatMap_slash_eq_cons_intercalate] at same
          have pieces := congrArg (List.splitOn '/') (List.cons.inj same).2
          rw [split noSlashLeft, split noSlashRight] at pieces
          exact List.map_injective_iff.2 (fun _ _ => String.toList_inj.1) pieces

/-- URLs that differ in the path only are told apart by it. -/
theorem render_path_eq_of_render_eq {base : Url} {left right : Path}
    (same : render { base with path := left } = render { base with path := right }) :
    left.render = right.render := by
  have texts := congrArg String.toList same
  simp only [render, renderAuthority, renderCredentials, String.toList_append,
    List.append_assoc, List.append_cancel_left_eq] at texts
  rw [← List.append_assoc, ← List.append_assoc, List.append_cancel_right_eq] at texts
  exact String.toList_inj.1 (by simpa using texts)

/-- URLs that go on from the same path without slashes in their segments are told apart by how they
go on. -/
theorem eq_of_render_eq {base : Url} {front left right : List String}
    (noSlashLeft : ∀ segment ∈ left, '/' ∉ segment.toList)
    (noSlashRight : ∀ segment ∈ right, '/' ∉ segment.toList)
    (same : render { base with path := .segments (front ++ left) } =
      render { base with path := .segments (front ++ right) }) : left = right := by
  have texts := congrArg String.toList (render_path_eq_of_render_eq same)
  rw [toList_render_segments, toList_render_segments, List.flatMap_append, List.flatMap_append,
    List.append_cancel_left_eq] at texts
  exact eq_of_flatMap_slash_eq noSlashLeft noSlashRight texts

end Written

/-! ## Plain segments -/

section Plain

variable {scheme : String} {base path : List String}

/-- Plain segments are added one by one, each as it is written. -/
theorem addSegments_of_isPlain (notFile : scheme ≠ "file") {segments : List String}
    (arePlain : ∀ segment ∈ segments, IsPlain segment) (nonempty : path ≠ [])
    (notRoot : path ≠ [""]) :
    addSegments scheme path segments =
      path ++ segments.map (addedSegment (isSpecialScheme scheme)) := by
  induction segments generalizing path with
  | nil =>
      simp [addSegments]
  | cons segment segments inductionHypothesis =>
      obtain ⟨plain, othersPlain⟩ := List.forall_mem_cons.1 arePlain
      have long : path ++ [addedSegment (isSpecialScheme scheme) segment] ≠ [""] := by
        intro isRoot
        have short := congrArg List.length isRoot
        rw [List.length_append, List.length_singleton, List.length_singleton] at short
        exact nonempty (List.length_eq_zero_iff.1 (by omega))
      rw [addSegments, List.foldl_cons,
        addSegment_eq_append path notFile plain.notDot plain.not_climbs, openPath_of_ne notRoot]
      have others := inductionHypothesis othersPlain (by simp) long
      rw [addSegments] at others
      rw [others, List.append_assoc, List.map_cons, List.singleton_append]

theorem forall₂_decodes_map_addedSegment {special : Bool} {segments : List String}
    (arePlain : ∀ segment ∈ segments, IsPlain segment) :
    List.Forall₂ Decodes (segments.map (addedSegment special)) segments := by
  rw [List.forall₂_map_left_iff]
  exact List.forall₂_same.2 fun segment mem => (arePlain segment mem).decodes_addedSegment

private theorem exists_of_forall₂_concat {all front : List String} {last : String}
    (decodes : List.Forall₂ Decodes all (front ++ [last])) :
    ∃ init final, all = init ++ [final] ∧ List.Forall₂ Decodes init front ∧
      Decodes final last := by
  obtain ⟨final, rest, isFinal, none, isDrop⟩ :=
    List.forall₂_cons_right_iff.1 (List.forall₂_drop_append _ _ _ decodes)
  rw [List.forall₂_nil_right_iff.1 none] at isDrop
  refine ⟨all.take front.length, final, ?_, List.forall₂_take_append _ _ _ decodes, isFinal⟩
  rw [← isDrop, List.take_append_drop]

/-- A text that leads from below a base to one segment more, which is read back as that text, is
plain. The bound shows that the path did not have the segment before. -/
theorem isPlain_of_addSegment_eq (notFile : scheme ≠ "file") {init : List String}
    {final segment : String} (below : IsBelow base init.length path)
    (reached : addSegment scheme path segment = base ++ init ++ [final])
    (decodes : Decodes final segment) : IsPlain segment ∧ path = base ++ init := by
  obtain ⟨added, nonempty, short, _, isBelow⟩ := below
  have notDot : ¬ IsDot segment := by
    intro isDot
    rw [addSegment_of_isDot _ isDot, isBelow, List.append_assoc,
      List.append_cancel_left_eq] at reached
    rw [reached, List.length_append, List.length_singleton] at short
    omega
  have notClimbs : ¬ Climbs segment := by
    intro climbs
    rw [addSegment_of_climbs _ climbs] at reached
    obtain rfl : "" = final := List.singleton_inj.1 (List.append_inj' reached rfl).2
    obtain rfl : "" = segment := decodes_empty.unique decodes
    exact absurd climbs (by decide)
  rw [addSegment_eq_append _ notFile notDot notClimbs] at reached
  obtain ⟨isInit, isFinal⟩ := List.append_inj' reached rfl
  rw [← List.singleton_inj.1 isFinal] at decodes
  have notRoot : path ≠ [""] := by
    intro isRoot
    rw [isRoot] at isInit
    have noInit : init = [] := (List.append_eq_nil_iff.1 isInit.symm).2
    rw [noInit, List.length_nil, Nat.le_zero] at short
    exact nonempty (List.length_eq_zero_iff.1 short)
  rw [openPath_of_ne notRoot] at isInit
  exact ⟨isPlain_of_decodes_addedSegment notDot decodes, isInit⟩

/-- Below a base, segments that are all read back as they were given are plain. The number of
segments shows that each of them added one. -/
theorem isPlain_of_forall₂_decodes (notFile : scheme ≠ "file") (notRoot : base ≠ [""])
    {done : List String} (below : IsBelow base done.length path) {segments all : List String}
    (reached : addSegments scheme path segments = base ++ all)
    (decodes : List.Forall₂ Decodes all (done ++ segments)) :
    ∀ segment ∈ segments, IsPlain segment := by
  induction segments using List.reverseRecOn generalizing all with
  | nil =>
      simp
  | append_singleton front last inductionHypothesis =>
      rw [← List.append_assoc] at decodes
      obtain ⟨init, final, rfl, decodesInit, decodesFinal⟩ := exists_of_forall₂_concat decodes
      have belowFront := below.addSegments notFile notRoot front
      rw [← List.length_append, ← decodesInit.length_eq] at belowFront
      rw [addSegments_append, ← List.append_assoc] at reached
      obtain ⟨plain, isInit⟩ := isPlain_of_addSegment_eq notFile belowFront reached decodesFinal
      intro segment mem
      rcases List.mem_append.1 mem with inFront | isLast
      · exact inductionHypothesis isInit decodesInit segment inFront
      · rw [List.mem_singleton.1 isLast]
        exact plain

theorem forall₂_decodes_unique {written left right : List String}
    (isLeft : List.Forall₂ Decodes written left) (isRight : List.Forall₂ Decodes written right) :
    left = right :=
  List.right_unique_forall₂' (R := Decodes) (fun _ _ _ => Decodes.unique) isLeft isRight

end Plain

/-! ## The URLs of a hub -/

section Hub

variable {base : Url} {path : List String}

/-- The paths of a hub lead below the base, by at most as many segments as are asked for. -/
theorem HasPath.isBelow_hubs (hasPath : base.HasPath path) (segments : List String) :
    IsBelow (baseSegments path) (1 + segments.length)
      (addSegments base.scheme (trimFinalEmpty path) ("hubs" :: segments)) :=
  (isBelow_addSegment hasPath.notFile (openPath_trimFinalEmpty hasPath.notDoubleSlash) (by decide)
    (by decide)).addSegments hasPath.notFile (baseSegments_ne_root hasPath.notDoubleSlash) segments

theorem hubs_isPlain : IsPlain "hubs" := by decide

theorem HasPath.addSegments_hubs (hasPath : base.HasPath path) {segments : List String}
    (arePlain : ∀ segment ∈ segments, IsPlain segment) :
    addSegments base.scheme (trimFinalEmpty path) ("hubs" :: segments) =
      baseSegments path ++ ("hubs" :: segments).map (addedSegment true) := by
  have isHubs : addedSegment true "hubs" = "hubs" := by decide
  have notRoot : baseSegments path ++ [addedSegment true "hubs"] ≠ [""] := by
    rw [isHubs]
    intro isRoot
    have isLast := congrArg List.getLast? isRoot
    rw [List.getLast?_concat] at isLast
    exact absurd isLast (by decide)
  have first : addSegment base.scheme (trimFinalEmpty path) "hubs" =
      baseSegments path ++ [addedSegment true "hubs"] := by
    rw [addSegment_eq_append _ hasPath.notFile hubs_isPlain.notDot hubs_isPlain.not_climbs,
      openPath_trimFinalEmpty hasPath.notDoubleSlash, hasPath.special]
  have others := addSegments_of_isPlain hasPath.notFile arePlain (by simp) notRoot
  rw [hasPath.special, addSegments] at others
  rw [addSegments, List.foldl_cons, first, others, List.append_assoc, List.map_cons,
    List.singleton_append]

/-- Segments under `hubs` are all read back exactly when they are plain. -/
theorem HasPath.exists_decodes_iff (hasPath : base.HasPath path) (segments : List String) :
    (∃ written, addSegments base.scheme (trimFinalEmpty path) ("hubs" :: segments) =
        baseSegments path ++ written ∧ List.Forall₂ Decodes written ("hubs" :: segments)) ↔
      ∀ segment ∈ segments, IsPlain segment := by
  constructor
  · rintro ⟨written, reached, decodes⟩
    have below : IsBelow (baseSegments path) ["hubs"].length
        (addSegments base.scheme (trimFinalEmpty path) ["hubs"]) := hasPath.isBelow_hubs []
    rw [← List.singleton_append, addSegments_append] at reached
    exact isPlain_of_forall₂_decodes hasPath.notFile
      (baseSegments_ne_root hasPath.notDoubleSlash) below reached decodes
  · intro arePlain
    refine ⟨_, hasPath.addSegments_hubs arePlain, forall₂_decodes_map_addedSegment ?_⟩
    exact List.forall_mem_cons.2 ⟨hubs_isPlain, arePlain⟩

end Hub

end Url

namespace Hub

open Url

/-- The way to a version of a model in a hub. -/
def wayTo (hub name version : String) : List String :=
  ["hubs", hub, "contents", modelContent, name, version]

/-- The names by which a version of a model is asked for are plain. -/
structure ArePlain (hub name version : String) : Prop where
  hub : IsPlain hub
  name : IsPlain name
  version : IsPlain version

theorem forall_isPlain_iff (hub name version : String) :
    (∀ segment ∈ [hub, "contents", modelContent, name, version], IsPlain segment) ↔
      ArePlain hub name version := by
  have contents : IsPlain "contents" := by decide
  have model : IsPlain modelContent := by decide
  constructor
  · intro arePlain
    exact ⟨arePlain hub (by simp), arePlain name (by simp), arePlain version (by simp)⟩
  · rintro ⟨isHub, isName, isVersion⟩
    simp [isHub, contents, model, isName, isVersion]

section Urls

variable {base : Url} {path : List String}

theorem url_eq (hasPath : base.HasPath path) (hub : String) (segments : List String) :
    (Hub.mk base hub).url segments = .ok
      { base with
        path := .segments
          (addSegments base.scheme (trimFinalEmpty path) ("hubs" :: hub :: segments)) } :=
  endpointOf_eq hasPath.isPath _

theorem exists_url_eq (hasPath : base.HasPath path) (hub : String) (segments : List String) :
    ∃ added, added.length ≤ segments.length + 2 ∧ (∀ segment ∈ added, '/' ∉ segment.toList) ∧
      (Hub.mk base hub).url segments =
        .ok { base with path := .segments (baseSegments path ++ added) } := by
  obtain ⟨added, _, short, noSlash, isAdded⟩ := hasPath.isBelow_hubs (hub :: segments)
  refine ⟨added, ?_, noSlash, ?_⟩
  · rw [List.length_cons] at short
    omega
  · rw [url_eq hasPath, isAdded]

/-- The URL of a plain model leads from the base to the model. -/
theorem exists_modelUrl_eq (hasPath : base.HasPath path) {hub name version : String}
    (arePlain : ArePlain hub name version) :
    ∃ written, (∀ segment ∈ written, '/' ∉ segment.toList) ∧
      List.Forall₂ Decodes written (wayTo hub name version) ∧
      (Hub.mk base hub).modelUrl name version =
        .ok { base with path := .segments (baseSegments path ++ written) } := by
  obtain ⟨written, reached, decodes⟩ :=
    (hasPath.exists_decodes_iff _).2 ((forall_isPlain_iff hub name version).2 arePlain)
  obtain ⟨added, _, _, noSlash, isAdded⟩ :=
    hasPath.isBelow_hubs [hub, "contents", modelContent, name, version]
  obtain rfl := List.append_cancel_left (isAdded.symm.trans reached)
  refine ⟨added, noSlash, decodes, ?_⟩
  rw [modelUrl, url_eq hasPath, reached]

end Urls

/-- The URL of a model under an API base leads from the base to the model exactly when its names are
plain. A plain model then shares its URL with no other plain model, and with nothing that is fewer
than six segments below the base: with no hub, and not with all versions of a model. -/
theorem modelUrl_names {text : String} {base : Url} (isBase : IsApiBase text base) :
    (∀ hub name version, ∃ path,
        (Hub.mk base hub).modelUrl name version = .ok { base with path := .segments path } ∧
          (Hub.mk base hub).deleteModel name version =
            Http.order ⟨.delete, { base with path := .segments path }, none⟩ ∧
          ((∃ written, path = baseSegments base.path.list ++ written ∧
              List.Forall₂ Decodes written (wayTo hub name version)) ↔
            ArePlain hub name version)) ∧
      ∀ hub name version url, ArePlain hub name version →
        (Hub.mk base hub).modelUrl name version = .ok url →
        (∀ otherHub otherName otherVersion other, ArePlain otherHub otherName otherVersion →
            (Hub.mk base otherHub).modelUrl otherName otherVersion = .ok other →
            other.render = url.render →
            otherHub = hub ∧ otherName = name ∧ otherVersion = version) ∧
          ∀ otherHub segments other, segments.length < 4 →
            (Hub.mk base otherHub).url segments = .ok other → other.render ≠ url.render := by
  obtain ⟨path, hasPath⟩ := isBase.exists_hasPath
  rw [hasPath.list_eq]
  refine ⟨fun hub name version => ⟨_, url_eq hasPath hub _, ?_, ?_⟩, ?_⟩
  · rw [deleteModel, modelUrl, url_eq hasPath]
    rfl
  · rw [← forall_isPlain_iff]
    exact hasPath.exists_decodes_iff [hub, "contents", modelContent, name, version]
  · intro hub name version url arePlain isUrl
    obtain ⟨written, noSlash, decodes, isWritten⟩ := exists_modelUrl_eq hasPath arePlain
    obtain rfl := Except.ok.inj (isWritten.symm.trans isUrl)
    constructor
    · intro otherHub otherName otherVersion other otherPlain isOther same
      obtain ⟨otherWritten, otherNoSlash, otherDecodes, isOtherWritten⟩ :=
        exists_modelUrl_eq hasPath otherPlain
      obtain rfl := Except.ok.inj (isOtherWritten.symm.trans isOther)
      obtain rfl := eq_of_render_eq otherNoSlash noSlash same
      simpa [wayTo] using forall₂_decodes_unique otherDecodes decodes
    · intro otherHub segments other few isOther same
      obtain ⟨added, short, otherNoSlash, isAdded⟩ := exists_url_eq hasPath otherHub segments
      obtain rfl := Except.ok.inj (isAdded.symm.trans isOther)
      obtain rfl := eq_of_render_eq otherNoSlash noSlash same
      have six : added.length = 6 := decodes.length_eq
      omega

/-- Neither dots between slashes nor a coded dot make the URL of a version that of its model. -/
theorem modelUrl_names_hostileNames :
    ∃ url model, (Hub.mk loopbackApi "my hub").modelUrl "a/../b" "%2e" = .ok url ∧
      (Hub.mk loopbackApi "my hub").url ["contents", modelContent, "a/../b"] = .ok model ∧
      model.render ≠ url.render := by
  have arePlain : ArePlain "my hub" "a/../b" "%2e" := ⟨by decide, by decide, by decide⟩
  obtain ⟨name, plain⟩ := modelUrl_names loopbackApi_isApiBase
  obtain ⟨path, isUrl, _⟩ := name "my hub" "a/../b" "%2e"
  obtain ⟨model, isModel⟩ : ∃ model,
      (Hub.mk loopbackApi "my hub").url ["contents", modelContent, "a/../b"] = .ok model :=
    ⟨_, rfl⟩
  obtain ⟨_, apart⟩ := plain "my hub" "a/../b" "%2e" _ arePlain isUrl
  exact ⟨_, model, isUrl, isModel, apart "my hub" _ model (by decide) isModel⟩

/-- A version with a tab in it has the URL of the version without the tab, and the version of a
single dot has the URL of all versions of the model. -/
theorem exists_modelUrl_shared :
    IsApiBase "http://u@[::1]:8080/v1/?q#f" loopbackApi ∧
      ∃ version model, (Hub.mk loopbackApi "h").modelUrl "m" "1\t0" = .ok version ∧
        (Hub.mk loopbackApi "h").modelUrl "m" "10" = .ok version ∧
        (Hub.mk loopbackApi "h").modelUrl "m" "." = .ok model ∧
        (Hub.mk loopbackApi "h").url ["contents", modelContent, "m"] = .ok model ∧
        model.path = .segments ["v1", "hubs", "h", "contents", "Model", "m"] :=
  ⟨loopbackApi_isApiBase,
    { loopbackApi with path := .segments ["v1", "hubs", "h", "contents", "Model", "m", "10"] },
    { loopbackApi with path := .segments ["v1", "hubs", "h", "contents", "Model", "m"] },
    by decide, by decide, by decide, by decide, rfl⟩

end Hub

end ModelHub

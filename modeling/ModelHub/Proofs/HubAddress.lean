import ModelHub.Proofs.FormFields
import ModelHub.Proofs.ModelUrl

/-!
# The addresses of a hub

What a hub is asked for under a word, such as its imports or its contents, has the URL of the API
base with only its path changed: from the segments of the base it goes on by `hubs`, the name of the
hub and the word. A page of the contents is asked for there, with the kind of contents and the token
as fields behind those that the query of the base has.
-/

namespace ModelHub.Hub

open Url

/-- The API base was read from a text, and is one of a service. -/
structure IsOverService (hub : Hub) : Prop where
  isRead : ∃ text, Url.parse text = .ok hub.apiBase
  overService : hub.apiBase.scheme ∈ Http.schemes

/-! ## Words under a hub -/

/-- The segments of an API base that the paths of its hubs begin with: all of them but one empty one
at the end, and none of two empty ones. -/
def frontSegments (path : List String) : List String :=
  if path = ["", ""] then [] else baseSegments path

/-- The path to a word under the hub of a name. A dot segment adds nothing as the name, and a name
that climbs takes back the segment before it. -/
def pathTo (front : List String) (name word : String) : List String :=
  if IsDot name then front ++ ["hubs", word]
  else if Climbs name then openPath (front ++ [""]) ++ [word]
  else front ++ ["hubs", addedSegment true name, word]

/-- The URL of a word under a hub is that of the API base with another path. A plain name of the hub
stands in it as one segment, between `hubs` and the word. -/
structure IsAddress (hub : Hub) (word : String) (url : Url) : Prop where
  eq : url = { hub.apiBase with
    path := .segments (pathTo (frontSegments hub.apiBase.path.list) hub.name word) }
  named : IsPlain hub.name → ∃ written, Decodes written hub.name ∧ '/' ∉ written.toList ∧
    url.path = .segments (frontSegments hub.apiBase.path.list ++ ["hubs", written, word])

section Words

variable {scheme word : String}

theorem openPath_trimFinalEmpty_eq (path : List String) :
    openPath (trimFinalEmpty path) = frontSegments path := by
  unfold frontSegments
  by_cases isDouble : path = ["", ""]
  · rw [if_pos isDouble, isDouble]
    rfl
  · rw [if_neg isDouble, openPath_trimFinalEmpty isDouble]

theorem openPath_concat_of_ne_empty {last : String} (path : List String) (notEmpty : last ≠ "") :
    openPath (path ++ [last]) = path ++ [last] := by
  refine openPath_of_ne fun isRoot => ?_
  have isLast := congrArg List.getLast? isRoot
  rw [List.getLast?_concat] at isLast
  exact notEmpty (Option.some.inj isLast)

/-- A word stands for itself in a path. -/
structure IsWord (word : String) : Prop where
  plain : IsPlain word
  notEmpty : word ≠ ""
  added : addedSegment true word = word

theorem hubs_isWord : IsWord "hubs" := ⟨by decide, by decide, by decide⟩

theorem imports_isWord : IsWord "imports" := ⟨by decide, by decide, by decide⟩

theorem contents_isWord : IsWord "contents" := ⟨by decide, by decide, by decide⟩

theorem addSegment_of_isWord (notFile : scheme ≠ "file") (special : isSpecialScheme scheme = true)
    (isWord : IsWord word) (path : List String) :
    addSegment scheme path word = openPath path ++ [word] := by
  rw [addSegment_eq_append path notFile isWord.plain.notDot isWord.plain.not_climbs, special,
    isWord.added]

theorem addSegments_pathTo (notFile : scheme ≠ "file") (special : isSpecialScheme scheme = true)
    (isWord : IsWord word) (path : List String) (name : String) :
    addSegments scheme path ["hubs", name, word] = pathTo (openPath path) name word := by
  have openHubs : openPath (openPath path ++ ["hubs"]) = openPath path ++ ["hubs"] :=
    openPath_concat_of_ne_empty _ hubs_isWord.notEmpty
  rw [addSegments, List.foldl_cons, List.foldl_cons, List.foldl_cons, List.foldl_nil,
    addSegment_of_isWord notFile special hubs_isWord,
    addSegment_of_isWord notFile special isWord, pathTo]
  by_cases isDot : IsDot name
  · rw [if_pos isDot, addSegment_of_isDot _ isDot, openHubs, List.append_assoc]
    rfl
  · rw [if_neg isDot]
    by_cases climbs : Climbs name
    · have noDrive : holdsDrive "hubs" = false := by decide
      have back : ascend (openPath path ++ ["hubs"]) = openPath path := by
        simp [ascend, noDrive]
      rw [if_pos climbs, addSegment_of_climbs _ climbs, openHubs, back]
    · have longer : openPath (openPath path ++ ["hubs"] ++ [addedSegment true name]) =
          openPath path ++ ["hubs"] ++ [addedSegment true name] := by
        refine openPath_of_ne fun isRoot => ?_
        have short := congrArg List.length isRoot
        simp at short
      rw [if_neg climbs, addSegment_eq_append _ notFile isDot climbs, special, openHubs, longer,
        List.append_assoc, List.append_assoc]
      rfl

/-- A hub over a service has every word under it. -/
theorem exists_isAddress {hub : Hub} (overService : hub.IsOverService) (isWord : IsWord word) :
    ∃ url, hub.url [word] = .ok url ∧ hub.IsAddress word url := by
  obtain ⟨text, parsed⟩ := overService.isRead
  obtain ⟨special, notFile⟩ := isSpecialScheme_of_mem_schemes overService.overService
  obtain ⟨path, isPath, _⟩ := exists_path_of_parse parsed overService.overService
  have isList : hub.apiBase.path.list = path := by
    rw [isPath]
    rfl
  have reached := addSegments_pathTo notFile special isWord (trimFinalEmpty path) hub.name
  rw [openPath_trimFinalEmpty_eq, ← isList] at reached
  refine ⟨_, endpointOf_eq isPath ["hubs", hub.name, word], ?_, ?_⟩
  · rw [← isList, reached]
  · intro plain
    refine ⟨addedSegment true hub.name, plain.decodes_addedSegment, slash_not_mem_addedSegment, ?_⟩
    rw [← isList, reached, pathTo, if_neg plain.notDot, if_neg plain.not_climbs]

end Words

/-! ## Pages of the contents -/

/-- The URL of a page lies at the contents of the hub. Its query has the kind of contents behind the
fields of the API base, and behind it the token of the page, if it has one. -/
structure IsPageUrl (hub : Hub) (token : Option String) (url : Url) : Prop where
  contents : hub.IsAddress "contents" { url with query := hub.apiBase.query }
  fields : url.formFields = hub.apiBase.formFields ++
    ("HubContentType", "Model") :: token.toList.map fun token => ("NextToken", token)

/-- Every page has a URL. -/
theorem exists_isPageUrl {hub : Hub} (overService : hub.IsOverService) (token : Option String) :
    ∃ url, hub.pageUrl token = .ok url ∧ hub.IsPageUrl token url := by
  obtain ⟨contents, isContents, isAddress⟩ := exists_isAddress overService contents_isWord
  have sameQuery : contents.query = hub.apiBase.query := by
    rw [isAddress.eq]
  have sameFields : contents.formFields = hub.apiBase.formFields := by
    rw [formFields, formFields, sameQuery]
  unfold pageUrl
  rw [isContents]
  refine ⟨_, rfl, ?_, ?_⟩
  · have same : ∀ query, { { contents with query := query } with query := hub.apiBase.query } =
        contents := by
      intro query
      rw [← sameQuery]
    cases token with
    | none =>
        exact (same _).symm ▸ isAddress
    | some token =>
        exact (same _).symm ▸ isAddress
  · cases token with
    | none =>
        rw [formFields_addQueryField, sameFields]
        rfl
    | some token =>
        rw [formFields_addQueryField, formFields_addQueryField, sameFields, List.append_assoc]
        rfl

end ModelHub.Hub

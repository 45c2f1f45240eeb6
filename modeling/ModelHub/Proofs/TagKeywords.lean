import ModelHub.Hub.Tag
import ModelHub.Proofs.Trimming

/-!
# Which keywords carry a tag

A row of keywords carries a tag exactly if one of them alone begins as the keyword of a model id
does, one alone as that of a version does, and more than blank characters follows in both. Where
these keywords stand, and what else stands beside them, makes no difference. So the two keywords
that carry a tag are read back as the tag with both of its parts trimmed, provided that something
is left of both.
-/

namespace ModelHub

theorem Text.dropStart?_append (start rest : List Char) :
    dropStart? start (start ++ rest) = some rest := by
  induction start with
  | nil =>
      rfl
  | cons first start inductionHypothesis =>
      simp [dropStart?, inductionHypothesis]

theorem Text.dropStart?_eq_some_iff {start text rest : List Char} :
    dropStart? start text = some rest ↔ text = start ++ rest := by
  constructor
  · intro dropped
    induction start generalizing text with
    | nil =>
        exact Option.some.inj dropped
    | cons expected start inductionHypothesis =>
        cases text with
        | nil =>
            cases dropped
        | cons character text =>
            by_cases same : expected = character
            · rw [dropStart?, if_pos same] at dropped
              rw [inductionHypothesis dropped, same]
              rfl
            · rw [dropStart?, if_neg same] at dropped
              cases dropped
  · intro begins
    rw [begins, dropStart?_append]

namespace Tag

/-- Exactly one of the keywords has the beginning, and this is what follows it there. -/
def SaysOnce (start : String) (keywords : List String) (rest : String) : Prop :=
  ∃ before after, keywords = before ++ (start ++ rest) :: after ∧
    ∀ other ∈ before ++ after, ∀ otherRest, other ≠ start ++ otherRest

/-- The keyword has neither of the two beginnings. -/
def IsUnrelated (keyword : String) : Prop :=
  ∀ rest, keyword ≠ modelIdStart ++ rest ∧ keyword ≠ versionStart ++ rest

/-! ## What follows a beginning -/

variable {start keyword value : String} {keywords others : List String}

theorem valueAfter?_eq_some_iff :
    valueAfter? start keyword = some value ↔
      ∃ rest, keyword = start ++ rest ∧ Text.trim rest = value := by
  unfold valueAfter?
  rw [Option.map_eq_some_iff]
  constructor
  · intro dropped
    rcases dropped with ⟨rest, begins, trimmed⟩
    have isAppend : keyword = start ++ String.ofList rest := by
      rw [← String.toList_inj, String.toList_append, String.toList_ofList]
      exact Text.dropStart?_eq_some_iff.1 begins
    refine ⟨String.ofList rest, isAppend, ?_⟩
    rw [Text.trim, String.toList_ofList]
    exact trimmed
  · intro begins
    rcases begins with ⟨rest, rfl, trimmed⟩
    refine ⟨rest.toList, ?_, trimmed⟩
    rw [String.toList_append, Text.dropStart?_append]

theorem valueAfter?_eq_none_iff :
    valueAfter? start keyword = none ↔ ∀ rest, keyword ≠ start ++ rest := by
  rw [Option.eq_none_iff_forall_ne_some]
  constructor
  · intro noValue rest begins
    exact noValue (Text.trim rest) (valueAfter?_eq_some_iff.2 ⟨rest, begins, rfl⟩)
  · intro beginsOtherwise value isValue
    obtain ⟨rest, begins, _⟩ := valueAfter?_eq_some_iff.1 isValue
    exact beginsOtherwise rest begins

theorem filterMap_valueAfter?_eq_singleton_iff :
    keywords.filterMap (valueAfter? start) = [value] ↔
      ∃ rest, SaysOnce start keywords rest ∧ Text.trim rest = value := by
  rw [List.filterMap_eq_cons_iff]
  simp only [List.filterMap_eq_nil_iff, valueAfter?_eq_none_iff]
  constructor
  · intro single
    rcases single with ⟨before, keyword, after, rfl, noneBefore, isValue, noneAfter⟩
    obtain ⟨rest, rfl, trimmed⟩ := valueAfter?_eq_some_iff.1 isValue
    refine ⟨rest, ⟨before, after, rfl, fun other member => ?_⟩, trimmed⟩
    rcases List.mem_append.1 member with inBefore | inAfter
    · exact noneBefore other inBefore
    · exact noneAfter other inAfter
  · intro once
    rcases once with ⟨rest, ⟨before, after, rfl, noOther⟩, trimmed⟩
    exact ⟨before, start ++ rest, after, rfl,
      fun other member => noOther other (List.mem_append_left after member),
      valueAfter?_eq_some_iff.2 ⟨rest, rfl, trimmed⟩,
      fun other member => noOther other (List.mem_append_right before member)⟩

theorem onlyValue?_eq_some_iff {values : List String} :
    onlyValue? values = some value ↔ values = [value] ∧ value ≠ "" := by
  unfold onlyValue?
  split
  · next only =>
      by_cases isEmpty : only = ""
      · simp [isEmpty]
      · have notEmpty : only.isEmpty = false := by
          simpa using isEmpty
        rw [notEmpty]
        simp only [Bool.false_eq_true, if_false, Option.some.injEq, List.cons.injEq, and_true]
        constructor
        · intro same
          rw [← same]
          exact ⟨rfl, isEmpty⟩
        · exact And.left
  · next notSingle =>
      constructor
      · intro absent
        cases absent
      · intro single
        exact absurd single.1 (notSingle value)

theorem onlyValue?_of_perm {values otherValues : List String}
    (permutation : values.Perm otherValues) : onlyValue? values = onlyValue? otherValues := by
  apply Option.ext
  intro value
  have sameSingle : values = [value] ↔ otherValues = [value] := by
    rw [← List.perm_singleton, ← List.perm_singleton]
    exact permutation.congr_left [value]
  rw [onlyValue?_eq_some_iff, onlyValue?_eq_some_iff, sameSingle]

/-! ## Tags -/

theorem ofKeywords?_eq_some_iff_onlyValue? {tag : Tag} :
    ofKeywords? keywords = some tag ↔
      onlyValue? (keywords.filterMap (valueAfter? modelIdStart)) = some tag.modelId ∧
        onlyValue? (keywords.filterMap (valueAfter? versionStart)) = some tag.version := by
  obtain ⟨modelId, version⟩ := tag
  unfold ofKeywords?
  cases onlyValue? (keywords.filterMap (valueAfter? modelIdStart)) <;>
    cases onlyValue? (keywords.filterMap (valueAfter? versionStart)) <;> simp

/-- A tag is carried exactly if both of its parts are said once, and it consists of what is said,
trimmed. -/
theorem ofKeywords?_eq_some_iff {tag : Tag} :
    ofKeywords? keywords = some tag ↔
      ∃ modelId version, SaysOnce modelIdStart keywords modelId ∧
        SaysOnce versionStart keywords version ∧
        Text.trim modelId ≠ "" ∧ Text.trim version ≠ "" ∧
        tag = ⟨Text.trim modelId, Text.trim version⟩ := by
  rw [ofKeywords?_eq_some_iff_onlyValue?, onlyValue?_eq_some_iff, onlyValue?_eq_some_iff,
    filterMap_valueAfter?_eq_singleton_iff, filterMap_valueAfter?_eq_singleton_iff]
  constructor
  · intro carried
    rcases carried with ⟨⟨⟨modelId, saysId, isId⟩, idNotEmpty⟩,
      ⟨version, saysVersion, isVersion⟩, versionNotEmpty⟩
    rw [← isId] at idNotEmpty
    rw [← isVersion] at versionNotEmpty
    refine ⟨modelId, version, saysId, saysVersion, idNotEmpty, versionNotEmpty, ?_⟩
    rw [isId, isVersion]
  · intro said
    rcases said with ⟨modelId, version, saysId, saysVersion, idNotEmpty, versionNotEmpty, rfl⟩
    exact ⟨⟨⟨modelId, saysId, rfl⟩, idNotEmpty⟩, ⟨version, saysVersion, rfl⟩, versionNotEmpty⟩

theorem isTrimmed_of_ofKeywords? {tag : Tag} (carried : ofKeywords? keywords = some tag) :
    Text.IsTrimmed tag.modelId := by
  obtain ⟨modelId, _, _, _, notEmpty, _, rfl⟩ := ofKeywords?_eq_some_iff.1 carried
  exact ⟨notEmpty, Text.trim_trim modelId⟩

theorem ofKeywords?_of_perm (permutation : keywords.Perm others) :
    ofKeywords? keywords = ofKeywords? others := by
  unfold ofKeywords?
  rw [onlyValue?_of_perm (permutation.filterMap (valueAfter? modelIdStart)),
    onlyValue?_of_perm (permutation.filterMap (valueAfter? versionStart))]

theorem isUnrelated_iff :
    IsUnrelated keyword ↔
      valueAfter? modelIdStart keyword = none ∧ valueAfter? versionStart keyword = none := by
  rw [valueAfter?_eq_none_iff, valueAfter?_eq_none_iff]
  exact forall_and

instance (keyword : String) : Decidable (IsUnrelated keyword) :=
  decidable_of_iff _ isUnrelated_iff.symm

theorem ofKeywords?_append_of_unrelated (unrelated : ∀ other ∈ others, IsUnrelated other) :
    ofKeywords? (keywords ++ others) = ofKeywords? keywords := by
  have noIds : others.filterMap (valueAfter? modelIdStart) = [] := by
    rw [List.filterMap_eq_nil_iff]
    exact fun other member => (isUnrelated_iff.1 (unrelated other member)).1
  have noVersions : others.filterMap (valueAfter? versionStart) = [] := by
    rw [List.filterMap_eq_nil_iff]
    exact fun other member => (isUnrelated_iff.1 (unrelated other member)).2
  unfold ofKeywords?
  rw [List.filterMap_append, List.filterMap_append, noIds, noVersions, List.append_nil,
    List.append_nil]

/-- A keyword beside which only one value is left as before has not the beginning itself. -/
theorem valueAfter?_eq_none_of_single {otherValue : String}
    (single : keywords.filterMap (valueAfter? start) = [value])
    (stillSingle : (keyword :: keywords).filterMap (valueAfter? start) = [otherValue]) :
    valueAfter? start keyword = none := by
  cases found : valueAfter? start keyword with
  | none =>
      rfl
  | some further =>
      rw [List.filterMap_cons_some found, single] at stillSingle
      cases stillSingle

theorem ofKeywords?_cons_eq_none {tag : Tag} (carried : ofKeywords? keywords = some tag)
    (related : ¬ IsUnrelated keyword) : ofKeywords? (keyword :: keywords) = none := by
  by_contra stillCarried
  obtain ⟨other, otherCarried⟩ := Option.ne_none_iff_exists'.1 stillCarried
  rw [ofKeywords?_eq_some_iff_onlyValue?, onlyValue?_eq_some_iff, onlyValue?_eq_some_iff]
    at carried otherCarried
  -- Each beginning has a single value with the keyword and without it.
  have noId := valueAfter?_eq_none_of_single carried.1.1 otherCarried.1.1
  have noVersion := valueAfter?_eq_none_of_single carried.2.1 otherCarried.2.1
  exact related (isUnrelated_iff.2 ⟨noId, noVersion⟩)

/-! ## The keywords of a tag -/

theorem valueAfter?_append (start value : String) :
    valueAfter? start (start ++ value) = some (Text.trim value) := by
  simp [valueAfter?, Text.dropStart?_append, Text.trim]

/-- The keyword that names the version does not name the model. -/
theorem valueAfter?_modelIdStart_versionStart (value : String) :
    valueAfter? modelIdStart (versionStart ++ value) = none := by
  unfold valueAfter?
  rw [String.toList_append]
  rfl

/-- The keyword that names the model does not name the version. -/
theorem valueAfter?_versionStart_modelIdStart (value : String) :
    valueAfter? versionStart (modelIdStart ++ value) = none := by
  unfold valueAfter?
  rw [String.toList_append]
  rfl

theorem filterMap_modelIdStart_keywords (tag : Tag) :
    tag.keywords.filterMap (valueAfter? modelIdStart) = [Text.trim tag.modelId] := by
  simp [keywords, valueAfter?_append, valueAfter?_modelIdStart_versionStart]

theorem filterMap_versionStart_keywords (tag : Tag) :
    tag.keywords.filterMap (valueAfter? versionStart) = [Text.trim tag.version] := by
  simp [keywords, valueAfter?_append, valueAfter?_versionStart_modelIdStart]

/-- The keywords of a tag are read back as the tag with both parts trimmed. -/
theorem ofKeywords?_keywords {tag : Tag} (modelId : Text.trim tag.modelId ≠ "")
    (version : Text.trim tag.version ≠ "") :
    ofKeywords? tag.keywords = some ⟨Text.trim tag.modelId, Text.trim tag.version⟩ := by
  rw [ofKeywords?_eq_some_iff_onlyValue?, filterMap_modelIdStart_keywords,
    filterMap_versionStart_keywords, onlyValue?_eq_some_iff, onlyValue?_eq_some_iff]
  exact ⟨⟨rfl, modelId⟩, rfl, version⟩

theorem ofKeywords?_keywords_eq (tag : Tag) :
    ofKeywords? tag.keywords =
      if Text.trim tag.modelId ≠ "" ∧ Text.trim tag.version ≠ "" then
        some ⟨Text.trim tag.modelId, Text.trim tag.version⟩
      else none := by
  by_cases nonempty : Text.trim tag.modelId ≠ "" ∧ Text.trim tag.version ≠ ""
  · rw [if_pos nonempty, ofKeywords?_keywords nonempty.1 nonempty.2]
  · rw [if_neg nonempty, Option.eq_none_iff_forall_ne_some]
    intro other carried
    rw [ofKeywords?_eq_some_iff_onlyValue?, filterMap_modelIdStart_keywords,
      filterMap_versionStart_keywords, onlyValue?_eq_some_iff, onlyValue?_eq_some_iff]
      at carried
    obtain ⟨⟨sameId, idNotEmpty⟩, sameVersion, versionNotEmpty⟩ := carried
    rw [← (List.cons.inj sameId).1] at idNotEmpty
    rw [← (List.cons.inj sameVersion).1] at versionNotEmpty
    exact nonempty ⟨idNotEmpty, versionNotEmpty⟩

/-- A tag is read back as it is exactly if both of its parts are trimmed. -/
theorem ofKeywords?_keywords_eq_self_iff (tag : Tag) :
    ofKeywords? tag.keywords = some tag ↔
      Text.IsTrimmed tag.modelId ∧ Text.IsTrimmed tag.version := by
  obtain ⟨modelId, version⟩ := tag
  rw [ofKeywords?_keywords_eq, Option.ite_none_right_eq_some]
  simp only [Option.some.injEq, mk.injEq]
  constructor
  · intro readBack
    rcases readBack with ⟨⟨idNotEmpty, versionNotEmpty⟩, sameId, sameVersion⟩
    rw [sameId] at idNotEmpty
    rw [sameVersion] at versionNotEmpty
    exact ⟨⟨idNotEmpty, sameId⟩, ⟨versionNotEmpty, sameVersion⟩⟩
  · intro trimmed
    rcases trimmed with ⟨⟨idNotEmpty, sameId⟩, ⟨versionNotEmpty, sameVersion⟩⟩
    rw [sameId, sameVersion]
    exact ⟨⟨idNotEmpty, versionNotEmpty⟩, rfl, rfl⟩

/-- Keywords carry a tag exactly if each of its parts is said once and is not blank. So their order
and unrelated keywords make no difference, and a further keyword with one of the two beginnings
leaves no tag. The keywords of a tag are read back as the tag with both parts trimmed, and as
nothing if one of them is blank. -/
theorem ofKeywords?_reads (keywords : List String) :
    (∀ tag, ofKeywords? keywords = some tag ↔
      ∃ modelId version, SaysOnce modelIdStart keywords modelId ∧
        SaysOnce versionStart keywords version ∧
        Text.trim modelId ≠ "" ∧ Text.trim version ≠ "" ∧
        tag = ⟨Text.trim modelId, Text.trim version⟩) ∧
    (∀ unrelated mixed, (∀ keyword ∈ unrelated, IsUnrelated keyword) →
      mixed.Perm (keywords ++ unrelated) → ofKeywords? mixed = ofKeywords? keywords) ∧
    (∀ tag keyword mixed, ofKeywords? keywords = some tag → ¬ IsUnrelated keyword →
      mixed.Perm (keyword :: keywords) → ofKeywords? mixed = none) ∧
    ∀ (tag : Tag) unrelated mixed, (∀ keyword ∈ unrelated, IsUnrelated keyword) →
      mixed.Perm (tag.keywords ++ unrelated) →
      (ofKeywords? mixed =
        if Text.trim tag.modelId ≠ "" ∧ Text.trim tag.version ≠ "" then
          some ⟨Text.trim tag.modelId, Text.trim tag.version⟩
        else none) ∧
      (ofKeywords? mixed = some tag ↔
        Text.IsTrimmed tag.modelId ∧ Text.IsTrimmed tag.version) := by
  have mixedWith (given unrelated mixed : List String)
      (allUnrelated : ∀ keyword ∈ unrelated, IsUnrelated keyword)
      (permutation : mixed.Perm (given ++ unrelated)) :
      ofKeywords? mixed = ofKeywords? given := by
    rw [ofKeywords?_of_perm permutation, ofKeywords?_append_of_unrelated allUnrelated]
  refine ⟨fun tag => ofKeywords?_eq_some_iff, mixedWith keywords, ?_, ?_⟩
  · intro tag keyword mixed carried related permutation
    rw [ofKeywords?_of_perm permutation]
    exact ofKeywords?_cons_eq_none carried related
  · intro tag unrelated mixed allUnrelated permutation
    rw [mixedWith tag.keywords unrelated mixed allUnrelated permutation]
    exact ⟨ofKeywords?_keywords_eq tag, ofKeywords?_keywords_eq_self_iff tag⟩

theorem ofKeywords?_reads_severalTags :
    ofKeywords? ["@jumpstart-model-version: 2", "other", "@jumpstart-model-id:m"] =
        some ⟨"m", "2"⟩ ∧
      ofKeywords? ["@jumpstart-model-version: 2", "@jumpstart-model-id:m"] = some ⟨"m", "2"⟩ ∧
      ofKeywords? ["@jumpstart-model-id:m", "@jumpstart-model-version: 2",
        "@jumpstart-model-id:m"] = none := by
  have unrelated : ∀ keyword ∈ ["other"], IsUnrelated keyword := by decide
  have related : ¬ IsUnrelated "@jumpstart-model-id:m" := by decide
  obtain ⟨_, mixedWith, furtherOne, readBack⟩ :=
    ofKeywords?_reads ["@jumpstart-model-version: 2", "@jumpstart-model-id:m"]
  have mixed := (readBack ⟨"m", " 2"⟩ ["other"]
    ["@jumpstart-model-version: 2", "other", "@jumpstart-model-id:m"] unrelated (by decide)).1
  have carried : ofKeywords? ["@jumpstart-model-version: 2", "@jumpstart-model-id:m"] =
      some ⟨"m", "2"⟩ := by
    rw [← mixedWith ["other"] ["@jumpstart-model-version: 2", "other", "@jumpstart-model-id:m"]
      unrelated (by decide), mixed]
    decide
  refine ⟨mixed.trans (by decide), carried, ?_⟩
  exact furtherOne _ "@jumpstart-model-id:m" _ carried related (by decide)

end Tag

end ModelHub

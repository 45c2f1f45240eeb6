import ModelHub.Proofs.LinesAndWords
import ModelHub.Proofs.Trimming
import ModelHub.Request

/-!
# Model specs and their requests

A model spec is a request if something other than blank characters stands before its first `@`. Both
halves are trimmed, and without a version the latest one is asked for. A request that is read so is
in canonical form, and the requests in canonical form are those that are read back from the spec
they are written as.
-/

namespace ModelHub

/-! ## Texts with a mark -/

namespace Text

variable {mark : Char} {text : String}

/-- The characters before the first mark, or all of them. -/
def beforeMark (mark : Char) (text : String) : List Char := text.toList.takeWhile (· ≠ mark)

theorem beforeMark_of_not_mem (noMark : mark ∉ text.toList) :
    beforeMark mark text = text.toList := by
  rw [beforeMark, List.takeWhile_eq_self_iff]
  intro character member
  rw [decide_eq_true_eq]
  exact ne_of_mem_of_not_mem member noMark

theorem beforeMark_of_append {after : List Char} (split : text.toList = before ++ mark :: after)
    (noMark : mark ∉ before) : beforeMark mark text = before := by
  have allKept : ∀ character ∈ before, decide (character ≠ mark) = true := by
    intro character member
    rw [decide_eq_true_eq]
    exact ne_of_mem_of_not_mem member noMark
  rw [beforeMark, split, List.takeWhile_append_of_pos allKept,
    List.takeWhile_cons_of_neg (by simp), List.append_nil]

/-- Nothing is left of a text after trimming if all of it is blank. -/
theorem trimBoth_eq_nil_iff :
    trimBoth characters = [] ↔ ∀ character ∈ characters, isBlank character = true := by
  have trimmedEnd : trimBoth characters = (characters.dropWhile isBlank).rdropWhile isBlank := rfl
  rw [trimmedEnd, List.rdropWhile_eq_nil_iff, ← List.dropWhile_eq_nil_iff,
    ← List.dropWhile_eq_nil_iff, List.dropWhile_idempotent]

theorem mem_of_mem_trim {character : Char} (member : character ∈ (trim text).toList) :
    character ∈ text.toList := by
  rw [toList_trim] at member
  have endDropped : character ∈ text.toList.dropWhile isBlank :=
    (List.rdropWhile_prefix isBlank _).subset member
  exact (List.dropWhile_suffix isBlank).subset endDropped

theorem isTrimmed_trim (notBlank : trim text ≠ "") : IsTrimmed (trim text) :=
  ⟨notBlank, trim_trim text⟩

end Text

namespace Request

variable {request : Request} {modelId spec : String}

/-! ## Reading -/

/-- What stands before the first `@` of a model spec, or the whole of it. -/
def idPart (spec : String) : List Char := Text.beforeMark '@' spec

theorem latestMark_isTrimmed : Text.IsTrimmed latestMark := ⟨by decide, by decide⟩

/-- The version that is asked for by what stands after the first `@`. -/
def givenVersion (version : String) : String :=
  if Text.trim version = "" then latestMark else Text.trim version

theorem givenVersion_isTrimmed (version : String) : Text.IsTrimmed (givenVersion version) := by
  unfold givenVersion
  by_cases blank : Text.trim version = ""
  · rw [if_pos blank]
    exact latestMark_isTrimmed
  · rw [if_neg blank]
    exact Text.isTrimmed_trim blank

theorem givenVersion_of_isTrimmed {version : String} (trimmed : Text.IsTrimmed version) :
    givenVersion version = version := by
  rw [givenVersion, trimmed.trim_eq, if_neg trimmed.ne_empty]

theorem ofSpec_of_halves {version : String}
    (halves : specHalves spec = ((Text.trim modelId).toList, (Text.trim version).toList)) :
    ofSpec spec = if Text.trim modelId = "" then .error (.emptyModelId spec)
      else .ok ⟨Text.trim modelId, givenVersion version⟩ := by
  simp only [ofSpec, halves, List.isEmpty_iff, String.toList_eq_nil_iff, String.ofList_toList,
    givenVersion]

/-- A spec without the mark is all model id, and is read as if it asked for the latest version. -/
theorem ofSpec_of_not_mem (noMark : '@' ∉ spec.toList) :
    ofSpec spec = if Text.trim spec = "" then .error (.emptyModelId spec)
      else .ok ⟨Text.trim spec, givenVersion latestMark⟩ := by
  have halves : specHalves spec = ((Text.trim spec).toList, (Text.trim latestMark).toList) := by
    rw [specHalves, Text.splitFirst_of_not_mem noMark, Text.toList_trim,
      latestMark_isTrimmed.trim_eq]
  exact ofSpec_of_halves halves

/-- What stands after the first mark is the version, further marks included. -/
theorem ofSpec_append (noMark : '@' ∉ modelId.toList) (version : String) :
    ofSpec (modelId ++ "@" ++ version) =
      if Text.trim modelId = "" then .error (.emptyModelId (modelId ++ "@" ++ version))
      else .ok ⟨Text.trim modelId, givenVersion version⟩ := by
  have split : (modelId ++ "@" ++ version).toList = modelId.toList ++ '@' :: version.toList := by
    simp
  refine ofSpec_of_halves ?_
  rw [specHalves, split, Text.splitFirst_append noMark, Text.toList_trim, Text.toList_trim]

/-- Every spec is a model id alone, or a model id with a version after the first mark. -/
theorem not_mem_or_exists_append (spec : String) :
    '@' ∉ spec.toList ∨
      ∃ modelId version, spec = modelId ++ "@" ++ version ∧ '@' ∉ modelId.toList := by
  by_cases marked : '@' ∈ spec.toList
  · obtain ⟨before, after, split, noMark⟩ := List.eq_append_cons_of_mem marked
    refine Or.inr ⟨String.ofList before, String.ofList after, ?_, ?_⟩
    · rw [← String.toList_inj, split]
      simp
    · rw [String.toList_ofList]
      exact noMark
  · exact Or.inl marked

/-- What a model spec is read as depends on whether something is left of its model id. -/
theorem exists_ofSpec_eq (spec : String) :
    ∃ modelId version, modelId.toList = idPart spec ∧ '@' ∉ modelId.toList ∧
      ofSpec spec = if Text.trim modelId = "" then .error (.emptyModelId spec)
        else .ok ⟨Text.trim modelId, givenVersion version⟩ := by
  rcases not_mem_or_exists_append spec with noMark | ⟨modelId, version, rfl, noMark⟩
  · exact ⟨spec, latestMark, (Text.beforeMark_of_not_mem noMark).symm, noMark,
      ofSpec_of_not_mem noMark⟩
  · refine ⟨modelId, version, ?_, noMark, ofSpec_append noMark version⟩
    have split : (modelId ++ "@" ++ version).toList = modelId.toList ++ '@' :: version.toList := by
      simp
    exact (Text.beforeMark_of_append split noMark).symm

/-! ## Canonical form -/

/-- Model id and version are trimmed and not empty, and the id does not contain the mark that would
end it. -/
structure IsCanonical (request : Request) : Prop where
  modelId : Text.IsTrimmed request.modelId
  noMark : '@' ∉ request.modelId.toList
  version : Text.IsTrimmed request.version

theorem isCanonical_of_ofSpec (isRead : ofSpec spec = .ok request) : request.IsCanonical := by
  obtain ⟨modelId, version, _, noMark, read⟩ := exists_ofSpec_eq spec
  have noMarkLeft : '@' ∉ (Text.trim modelId).toList := fun member =>
    noMark (Text.mem_of_mem_trim member)
  rw [read] at isRead
  by_cases blank : Text.trim modelId = ""
  · rw [if_pos blank] at isRead
    cases isRead
  · rw [if_neg blank] at isRead
    obtain rfl := Except.ok.inj isRead
    exact ⟨Text.isTrimmed_trim blank, noMarkLeft, givenVersion_isTrimmed version⟩

/-- The latest version is written with its mark, which is how a canonical request has it. -/
theorem IsCanonical.label_eq (canonical : request.IsCanonical) :
    request.label = request.modelId ++ "@" ++ request.version := by
  unfold label
  by_cases latest : request.isLatest = true
  · have isMark : request.version = latestMark := by
      simpa [isLatest, isLatestMark, canonical.version.trim_eq, canonical.version.ne_empty]
        using latest
    rw [if_pos latest, isMark]
  · rw [if_neg latest]

theorem IsCanonical.ofSpec_label (canonical : request.IsCanonical) :
    ofSpec request.label = .ok request := by
  rw [canonical.label_eq, ofSpec_append canonical.noMark, canonical.modelId.trim_eq,
    if_neg canonical.modelId.ne_empty, givenVersion_of_isTrimmed canonical.version]

/-- A spec is refused only for its model id, and it is quoted as it was given. -/
theorem eq_of_ofSpec_eq_error {error : SpecError} (refused : ofSpec spec = .error error) :
    error = .emptyModelId spec := by
  obtain ⟨modelId, version, _, _, read⟩ := exists_ofSpec_eq spec
  rw [read] at refused
  by_cases blank : Text.trim modelId = ""
  · rw [if_pos blank] at refused
    exact (Except.error.inj refused).symm
  · rw [if_neg blank] at refused
    cases refused

/-- A spec is refused exactly if nothing but blank characters stands where its model id
should be. -/
theorem ofSpec_eq_error_iff :
    ofSpec spec = .error (.emptyModelId spec) ↔
      ∀ character ∈ idPart spec, Text.isBlank character = true := by
  obtain ⟨modelId, version, isIdPart, _, read⟩ := exists_ofSpec_eq spec
  rw [← isIdPart, ← Text.trimBoth_eq_nil_iff, ← Text.toList_trim, String.toList_eq_nil_iff, read]
  by_cases blank : Text.trim modelId = "" <;> simp [blank]

theorem exists_ofSpec_eq_ok_iff :
    (∃ request, ofSpec spec = .ok request) ↔
      ∃ character ∈ idPart spec, Text.isBlank character = false := by
  have notRefused : (∃ request, ofSpec spec = .ok request) ↔
      ¬ ofSpec spec = .error (.emptyModelId spec) := by
    cases found : ofSpec spec with
    | ok request =>
        simp
    | error error =>
        simp [eq_of_ofSpec_eq_error found]
  rw [notRefused, ofSpec_eq_error_iff]
  push Not
  simp only [ne_eq, Bool.not_eq_true]

/-- A model spec is read as a request exactly if some character before its first `@` is not blank;
otherwise the refusal quotes the spec as it was given. What is read is in canonical form and is read
again from the spec it is written as, and so is every request in canonical form. -/
theorem ofSpec_isCanonical (spec : String) :
    ((∃ request, ofSpec spec = .ok request) ↔
      ∃ character ∈ idPart spec, Text.isBlank character = false) ∧
    ((¬ ∃ request, ofSpec spec = .ok request) →
      ∃ error, ofSpec spec = .error error ∧
        error.message = "model spec \"" ++ spec ++ "\" has an empty model id") ∧
    (∀ request, ofSpec spec = .ok request →
      request.IsCanonical ∧ ofSpec request.label = .ok request) ∧
    ∀ request : Request, request.IsCanonical → ofSpec request.label = .ok request := by
  refine ⟨exists_ofSpec_eq_ok_iff, fun notRead => ?_, fun request isRead => ?_,
    fun request canonical => canonical.ofSpec_label⟩
  · cases found : ofSpec spec with
    | ok request =>
        exact absurd ⟨request, found⟩ notRead
    | error error =>
        rw [eq_of_ofSpec_eq_error found]
        exact ⟨_, rfl, rfl⟩
  · have canonical := isCanonical_of_ofSpec isRead
    exact ⟨canonical, canonical.ofSpec_label⟩

theorem ofSpec_isCanonical_padded :
    (¬ ∃ request, ofSpec " @1" = .ok request) ∧
      (∃ error, ofSpec " @1" = .error error ∧
        error.message = "model spec \" @1\" has an empty model id") ∧
      ofSpec " m1 @ 1@2 " = .ok ⟨"m1", "1@2"⟩ ∧
      (⟨"m1", "1@2"⟩ : Request).IsCanonical ∧
      (⟨"m1", "1@2"⟩ : Request).label = "m1@1@2" ∧
      ofSpec "m1@1@2" = .ok ⟨"m1", "1@2"⟩ ∧
      (⟨"m2", "*"⟩ : Request).IsCanonical ∧ ofSpec "m2@*" = .ok ⟨"m2", "*"⟩ := by
  have refused : ¬ ∃ request, ofSpec " @1" = .ok request := by
    intro accepted
    obtain ⟨request, isRead⟩ := accepted
    have isRefused : ofSpec " @1" = .error (.emptyModelId " @1") := by decide
    cases isRead.symm.trans isRefused
  have isRead : ofSpec " m1 @ 1@2 " = .ok ⟨"m1", "1@2"⟩ := by decide
  have canonical : (⟨"m2", "*"⟩ : Request).IsCanonical :=
    ⟨⟨by decide, by decide⟩, by decide, ⟨by decide, by decide⟩⟩
  have words : "model spec \"" ++ " @1" ++ "\" has an empty model id" =
      "model spec \" @1\" has an empty model id" := by decide
  have readLabel : (⟨"m1", "1@2"⟩ : Request).label = "m1@1@2" := by decide
  have latestLabel : (⟨"m2", "*"⟩ : Request).label = "m2@*" := by decide
  obtain ⟨_, quoted, _, _⟩ := ofSpec_isCanonical " @1"
  obtain ⟨_, _, readAgain, written⟩ := ofSpec_isCanonical " m1 @ 1@2 "
  obtain ⟨isCanonical, again⟩ := readAgain _ isRead
  have latestAgain := written _ canonical
  rw [words] at quoted
  rw [readLabel] at again
  rw [latestLabel] at latestAgain
  exact ⟨refused, quoted refused, isRead, isCanonical, readLabel, again, canonical, latestAgain⟩

end Request

end ModelHub

import ModelHub.Proofs.HubImport
import ModelHub.Proofs.PercentEncoding

/-!
# The path of an endpoint

An endpoint of a service keeps everything of its base but the path, and adds segments to that.
Each segment is added as one, except for the dot segments, which add nothing, and for a text that
becomes two dots when its tabs and line ends are dropped: it leads to the directory above. Only as
the first segment that counts can such a text lead out of the base.
-/

namespace ModelHub.Url

/-! ## Segments -/

/-- A segment that is given as a dot segment. -/
def IsDot (segment : String) : Prop := segment = "." ∨ segment = ".."

instance : DecidablePred IsDot := fun segment =>
  inferInstanceAs (Decidable (segment = "." ∨ segment = ".."))

/-- What is left of a segment without its tabs and line ends. -/
def withoutDropped (segment : String) : List Char :=
  segment.toList.filter fun character => !isDropped character

/-- A segment that becomes the double dot segment when characters are dropped. -/
def Climbs (segment : String) : Prop := segment ≠ ".." ∧ withoutDropped segment = ['.', '.']

instance : DecidablePred Climbs := fun segment =>
  inferInstanceAs (Decidable (segment ≠ ".." ∧ withoutDropped segment = ['.', '.']))

/-- A segment that is no dot segment and of which nothing is dropped. -/
structure IsPlain (segment : String) : Prop where
  notDot : ¬ IsDot segment
  nothingDropped : ∀ character ∈ segment.toList, isDropped character = false

theorem IsPlain.withoutDropped_eq {segment : String} (plain : IsPlain segment) :
    withoutDropped segment = segment.toList := by
  refine List.filter_eq_self.2 fun character mem => ?_
  rw [plain.nothingDropped character mem]
  rfl

theorem IsPlain.not_climbs {segment : String} (plain : IsPlain segment) : ¬ Climbs segment := by
  rintro ⟨notDouble, isDouble⟩
  rw [plain.withoutDropped_eq] at isDouble
  exact notDouble (String.toList_inj.1 isDouble)

theorem isPlain_of_withoutDropped_eq {segment : String} (notDot : ¬ IsDot segment)
    (same : withoutDropped segment = segment.toList) : IsPlain segment := by
  refine ⟨notDot, fun character mem => ?_⟩
  simpa using List.filter_eq_self.1 same character mem

instance : DecidablePred IsPlain := fun segment =>
  decidable_of_iff (¬ IsDot segment ∧ withoutDropped segment = segment.toList)
    ⟨fun both => isPlain_of_withoutDropped_eq both.1 both.2,
      fun plain => ⟨plain.notDot, plain.withoutDropped_eq⟩⟩

/-- A written segment is read as a text: it decodes to the octets of the text. -/
def Decodes (written text : String) : Prop :=
  percentDecode written.toList = Text.encode text.toList

theorem Decodes.unique {written left right : String} (isLeft : Decodes written left)
    (isRight : Decodes written right) : left = right :=
  String.toList_inj.1 (Text.encode_injective (isLeft.symm.trans isRight))

theorem decodes_empty : Decodes "" "" := rfl

/-! ## Written segments -/

section Written

variable (special : Bool) (segment : String)

theorem percent_mem_segmentReserved : '%' ∈ segmentReserved special := by
  cases special <;> decide

/-- Dots stand for themselves, so a text is written as dots only if it consists of them. -/
theorem writeSegment_eq_iff {dots : List Char} (areDots : ∀ character ∈ dots, character = '.') :
    writeSegment special segment = dots ↔ withoutDropped segment = dots := by
  have same : percentEncode (segmentReserved special) dots = dots := by
    have stands : encodeChar (segmentReserved special) '.' = ['.'] := by
      cases special <;> decide
    unfold percentEncode
    induction dots with
    | nil =>
        rfl
    | cons character dots inductionHypothesis =>
        rw [List.forall_mem_cons] at areDots
        rw [List.flatMap_cons, areDots.1, stands, inductionHypothesis areDots.2]
        rfl
  have injective := percentEncode_injective (percent_mem_segmentReserved special)
  constructor
  · intro written
    exact injective (written.trans same.symm)
  · intro isDots
    exact (congrArg (percentEncode (segmentReserved special)) isDots).trans same

/-- The segment that a text adds to a path, unless it is a dot segment or climbs. -/
def addedSegment : String :=
  if withoutDropped segment = ['.'] then "" else String.ofList (writeSegment special segment)

variable {special segment}

theorem slash_not_mem_addedSegment : '/' ∉ (addedSegment special segment).toList := by
  unfold addedSegment
  split
  · exact List.not_mem_nil
  · rw [String.toList_ofList]
    exact not_mem_percentEncode (by cases special <;> decide) (by decide) _

theorem IsPlain.decodes_addedSegment (plain : IsPlain segment) :
    Decodes (addedSegment special segment) segment := by
  have notSingle : withoutDropped segment ≠ ['.'] := by
    rw [plain.withoutDropped_eq]
    exact fun isSingle => plain.notDot (Or.inl (String.toList_inj.1 isSingle))
  rw [Decodes, addedSegment, if_neg notSingle, String.toList_ofList]
  have decoded := percentDecode_percentEncode (percent_mem_segmentReserved special)
    (withoutDropped segment)
  rw [plain.withoutDropped_eq] at decoded
  rw [← decoded, ← plain.withoutDropped_eq]
  rfl

/-- What is added is read as the text only if nothing of the text was dropped. -/
theorem isPlain_of_decodes_addedSegment (notDot : ¬ IsDot segment)
    (decodes : Decodes (addedSegment special segment) segment) : IsPlain segment := by
  refine isPlain_of_withoutDropped_eq notDot (Text.encode_injective ?_)
  unfold Decodes addedSegment at decodes
  split at decodes
  · next isSingle =>
      have isEmpty : segment.toList = [] := Text.encode_injective decodes.symm
      rw [withoutDropped, isEmpty] at isSingle
      cases isSingle
  · rw [String.toList_ofList] at decodes
    rw [← decodes]
    exact (percentDecode_percentEncode (percent_mem_segmentReserved special) _).symm

end Written

/-! ## Adding one segment -/

section Adding

variable {scheme segment : String} (path : List String)

theorem openPath_of_ne {path : List String} (notRoot : path ≠ [""]) : openPath path = path :=
  if_neg notRoot

theorem addSegment_of_isDot (isDot : IsDot segment) : addSegment scheme path segment = path :=
  if_pos isDot

theorem addSegment_of_climbs (climbs : Climbs segment) :
    addSegment scheme path segment = ascend (openPath path) ++ [""] := by
  obtain ⟨notDouble, isDouble⟩ := climbs
  have notSingle : segment ≠ "." := by
    rintro rfl
    cases isDouble
  have written : writeSegment (isSpecialScheme scheme) segment = ['.', '.'] :=
    (writeSegment_eq_iff _ segment (by simp)).2 isDouble
  simp [addSegment, notSingle, notDouble, written]

theorem addSegment_eq_append (notFile : scheme ≠ "file") (notDot : ¬ IsDot segment)
    (notClimbs : ¬ Climbs segment) :
    addSegment scheme path segment =
      openPath path ++ [addedSegment (isSpecialScheme scheme) segment] := by
  have notDouble : writeSegment (isSpecialScheme scheme) segment ≠ ['.', '.'] := fun isDouble =>
    notClimbs ⟨fun isDots => notDot (Or.inr isDots),
      (writeSegment_eq_iff _ segment (by simp)).1 isDouble⟩
  have given : ¬ (segment = "." ∨ segment = "..") := notDot
  have isSingle_iff : writeSegment (isSpecialScheme scheme) segment = ['.'] ↔
      withoutDropped segment = ['.'] := writeSegment_eq_iff _ segment (by simp)
  unfold addSegment addedSegment
  rw [if_neg given]
  by_cases isSingle : withoutDropped segment = ['.']
  · rw [if_pos isSingle]
    exact if_pos (isSingle_iff.2 isSingle)
  · rw [if_neg isSingle]
    dsimp only
    rw [if_neg (isSingle_iff.not.2 isSingle), if_neg notDouble]
    simp [addWritten, notFile]

end Adding

/-! ## The segments of the base -/

/-- The segments of a base that its endpoints begin with: all of them but one empty one at the
end. -/
def baseSegments (path : List String) : List String :=
  if path.getLast? = some "" then path.dropLast else path

theorem openPath_trimFinalEmpty {path : List String} (notDoubleSlash : path ≠ ["", ""]) :
    openPath (trimFinalEmpty path) = baseSegments path := by
  unfold trimFinalEmpty baseSegments
  by_cases endsEmpty : path.getLast? = some ""
  · obtain ⟨front, rfl⟩ := List.getLast?_eq_some_iff.1 endsEmpty
    cases front with
    | nil =>
        rfl
    | cons first rest =>
        have notRoot : first :: rest ≠ [""] := by
          intro isRoot
          rw [isRoot] at notDoubleSlash
          exact notDoubleSlash rfl
        rw [if_pos endsEmpty, if_pos ⟨by simp, endsEmpty⟩, List.dropLast_concat,
          openPath_of_ne notRoot]
  · have notRoot : path ≠ [""] := by
      rintro rfl
      exact endsEmpty rfl
    rw [if_neg endsEmpty, if_neg fun both => endsEmpty both.2, openPath_of_ne notRoot]

theorem baseSegments_ne_root {path : List String} (notDoubleSlash : path ≠ ["", ""]) :
    baseSegments path ≠ [""] := by
  unfold baseSegments
  by_cases endsEmpty : path.getLast? = some ""
  · obtain ⟨front, rfl⟩ := List.getLast?_eq_some_iff.1 endsEmpty
    rw [if_pos endsEmpty, List.dropLast_concat]
    rintro rfl
    exact notDoubleSlash rfl
  · rw [if_neg endsEmpty]
    rintro rfl
    exact endsEmpty rfl

/-! ## Adding segments below a base -/

section Below

variable {scheme : String} {base path : List String}

/-- The path goes on from the base by at least one segment and by at most that many, none of which
holds a slash. -/
def IsBelow (base : List String) (limit : Nat) (path : List String) : Prop :=
  ∃ added, added ≠ [] ∧ added.length ≤ limit ∧ (∀ segment ∈ added, '/' ∉ segment.toList) ∧
    path = base ++ added

theorem IsBelow.startsAtBase {limit : Nat} (below : IsBelow base limit path) : base <+: path := by
  obtain ⟨added, _, _, _, rfl⟩ := below
  exact List.prefix_append base added

theorem isBelow_openPath_append {limit : Nat} (notRoot : base ≠ [""])
    (below : IsBelow base limit path) {segment : String} (noSlash : '/' ∉ segment.toList) :
    IsBelow base (limit + 1) (openPath path ++ [segment]) := by
  obtain ⟨added, nonempty, short, noSlashes, rfl⟩ := below
  by_cases isRoot : base ++ added = [""]
  · -- The only segment is empty, and it is not one of the base: the new one takes its place.
    have noBase : base = [] := by
      rcases List.append_eq_singleton_iff.1 isRoot with ⟨isNil, _⟩ | ⟨isSingle, _⟩
      · exact isNil
      · exact absurd isSingle notRoot
    refine ⟨[segment], List.cons_ne_nil _ _, Nat.le_add_left 1 limit, by simpa using noSlash, ?_⟩
    rw [isRoot, noBase]
    rfl
  · refine ⟨added ++ [segment], by simp, by simpa using short, ?_, ?_⟩
    · intro other mem
      rcases List.mem_append.1 mem with isAdded | isNew
      · exact noSlashes other isAdded
      · rw [List.mem_singleton.1 isNew]
        exact noSlash
    · rw [openPath_of_ne isRoot, List.append_assoc]

/-- Going up from below the base takes away at most one of the segments below it. -/
theorem isBelow_ascend_append {limit : Nat} (notRoot : base ≠ [""])
    (below : IsBelow base limit path) :
    IsBelow base (limit + 1) (ascend (openPath path) ++ [""]) := by
  have noSlash : '/' ∉ "".toList := List.not_mem_nil
  have stayed := isBelow_openPath_append notRoot below noSlash
  unfold ascend
  split
  · exact stayed
  · obtain ⟨added, nonempty, short, noSlashes, rfl⟩ := below
    by_cases isRoot : base ++ added = [""]
    · rw [isRoot] at stayed ⊢
      exact stayed
    · refine ⟨added.dropLast ++ [""], by simp, by simp; omega, ?_, ?_⟩
      · intro other mem
        rcases List.mem_append.1 mem with isAdded | isNew
        · exact noSlashes other ((List.dropLast_subset added isAdded))
        · rw [List.mem_singleton.1 isNew]
          exact noSlash
      · rw [openPath_of_ne isRoot, List.dropLast_append_of_ne_nil nonempty, List.append_assoc]

/-- A path below a base stays below it, whatever segment is added. -/
theorem IsBelow.addSegment {limit : Nat} (notFile : scheme ≠ "file") (notRoot : base ≠ [""])
    (below : IsBelow base limit path) (segment : String) :
    IsBelow base (limit + 1) (addSegment scheme path segment) := by
  by_cases isDot : IsDot segment
  · obtain ⟨added, nonempty, short, rest⟩ := below
    rw [addSegment_of_isDot path isDot]
    exact ⟨added, nonempty, Nat.le_succ_of_le short, rest⟩
  · by_cases climbs : Climbs segment
    · rw [addSegment_of_climbs path climbs]
      exact isBelow_ascend_append notRoot below
    · rw [addSegment_eq_append path notFile isDot climbs]
      exact isBelow_openPath_append notRoot below slash_not_mem_addedSegment

theorem IsBelow.addSegments {limit : Nat} (notFile : scheme ≠ "file") (notRoot : base ≠ [""])
    (below : IsBelow base limit path) (segments : List String) :
    IsBelow base (limit + segments.length) (addSegments scheme path segments) := by
  induction segments generalizing limit path with
  | nil =>
      exact below
  | cons segment segments inductionHypothesis =>
      have next := inductionHypothesis (below.addSegment notFile notRoot segment)
      rwa [Nat.add_right_comm, Nat.add_assoc] at next

/-- The first segment that is added to a base leads below it. -/
theorem isBelow_addSegment {segment : String} (notFile : scheme ≠ "file")
    (isBase : openPath path = base) (notDot : ¬ IsDot segment) (notClimbs : ¬ Climbs segment) :
    IsBelow base 1 (addSegment scheme path segment) := by
  rw [addSegment_eq_append path notFile notDot notClimbs, isBase]
  exact ⟨[_], List.cons_ne_nil _ _, Nat.le_refl 1, by simpa using slash_not_mem_addedSegment, rfl⟩

end Below

/-! ## Leaving a base -/

section Leaving

variable {scheme : String} {base path : List String}

/-- The first segment that is no dot segment. -/
def firstCounted (segments : List String) : Option String :=
  segments.find? fun segment => !decide (IsDot segment)

/-- Nothing is lost on the way to the directory above: there is none, or it is left by an empty
segment, or the path ends in a drive. -/
def IsTop (path : List String) : Prop :=
  ∀ last, path.getLast? = some last → last = "" ∨ holdsDrive last = true

/-- Only dot segments were added to the base so far, or the path goes on from the base. -/
def AtOrBelow (base path : List String) : Prop :=
  openPath path = base ∨ ∃ limit, IsBelow base limit path

theorem AtOrBelow.startsAtBase (atOrBelow : AtOrBelow base path) : base <+: path := by
  rcases atOrBelow with isBase | ⟨limit, below⟩
  · rw [← isBase]
    unfold openPath
    split
    · exact List.nil_prefix
    · exact List.prefix_rfl
  · exact below.startsAtBase

theorem prefix_ascend_iff : path <+: ascend path ++ [""] ↔ IsTop path := by
  rcases List.eq_nil_or_concat' path with rfl | ⟨front, last, rfl⟩
  · simp [IsTop]
  · have isTop_iff : IsTop (front ++ [last]) ↔ last = "" ∨ holdsDrive last = true := by
      simp [IsTop]
    rw [isTop_iff]
    by_cases drive : holdsDrive last = true
    · have stays : ascend (front ++ [last]) = front ++ [last] := by simp [ascend, drive]
      rw [stays]
      exact ⟨fun _ => Or.inr drive, fun _ => List.prefix_append _ _⟩
    · have leaves : ascend (front ++ [last]) = front := by simp [ascend, drive]
      rw [leaves, List.prefix_append_right_inj, List.prefix_cons_iff]
      simp [drive]

theorem isBase_ascend (notRoot : base ≠ [""]) (isTop : IsTop base) :
    AtOrBelow base (ascend base ++ [""]) := by
  rcases List.eq_nil_or_concat' base with rfl | ⟨front, last, rfl⟩
  · exact Or.inl rfl
  · by_cases drive : holdsDrive last = true
    · refine Or.inr ⟨1, [""], List.cons_ne_nil _ _, Nat.le_refl 1, by simp, ?_⟩
      simp [ascend, drive]
    · have isEmpty : last = "" := (isTop last (by simp)).resolve_right drive
      have same : ascend (front ++ [last]) ++ [""] = front ++ [last] := by
        rw [isEmpty] at drive ⊢
        simp [ascend, drive]
      rw [same]
      exact Or.inl (openPath_of_ne notRoot)

/-- A path stays at or below a base unless the first segment that counts climbs out of it. -/
theorem AtOrBelow.addSegments (notFile : scheme ≠ "file") (notRoot : base ≠ [""])
    (segments : List String)
    (stays : ∀ first, firstCounted segments = some first → Climbs first → IsTop base)
    (atOrBelow : AtOrBelow base path) : AtOrBelow base (addSegments scheme path segments) := by
  induction segments generalizing path with
  | nil =>
      exact atOrBelow
  | cons segment segments inductionHypothesis =>
      rcases atOrBelow with isBase | ⟨limit, below⟩
      · by_cases isDot : IsDot segment
        · have same : firstCounted (segment :: segments) = firstCounted segments := by
            simp [firstCounted, isDot]
          rw [same] at stays
          refine inductionHypothesis stays (Or.inl ?_)
          rwa [addSegment_of_isDot path isDot]
        · have counts : firstCounted (segment :: segments) = some segment := by
            simp [firstCounted, isDot]
          by_cases climbs : Climbs segment
          · have isTop : IsTop base := stays segment counts climbs
            refine inductionHypothesis (fun _ _ _ => isTop) ?_
            rw [addSegment_of_climbs path climbs, isBase]
            exact isBase_ascend notRoot isTop
          · have below := isBelow_addSegment notFile isBase isDot climbs
            exact Or.inr ⟨_, below.addSegments notFile notRoot segments⟩
      · exact Or.inr ⟨_, below.addSegments notFile notRoot (segment :: segments)⟩

theorem addSegments_of_isDot {dots : List String} (areDots : ∀ segment ∈ dots, IsDot segment) :
    addSegments scheme path dots = path := by
  induction dots with
  | nil =>
      rfl
  | cons dot dots inductionHypothesis =>
      rw [List.forall_mem_cons] at areDots
      rw [addSegments, List.foldl_cons, addSegment_of_isDot path areDots.1]
      exact inductionHypothesis areDots.2

/-- At every segment the path begins with the base, exactly when the first segment that counts
does not climb out of it. -/
theorem forall_prefix_addSegments_iff (notFile : scheme ≠ "file") (notRoot : base ≠ [""])
    (isBase : openPath path = base) (segments : List String) :
    (∀ front, front <+: segments → base <+: addSegments scheme path front) ↔
      ∀ first, firstCounted segments = some first → Climbs first → IsTop base := by
  constructor
  · intro stays first isFirst climbs
    obtain ⟨_, dots, rest, rfl, areDots⟩ := List.find?_eq_some_iff_append.1 isFirst
    have atFirst := stays (dots ++ [first]) (by simp)
    have reached : addSegments scheme path (dots ++ [first]) = ascend base ++ [""] := by
      unfold addSegments
      rw [List.foldl_append]
      change addSegment scheme (addSegments scheme path dots) first = _
      rw [addSegments_of_isDot (by simpa using areDots), addSegment_of_climbs path climbs, isBase]
    rw [reached] at atFirst
    exact prefix_ascend_iff.1 atFirst
  · rintro stays front ⟨rest, rfl⟩
    refine (AtOrBelow.addSegments notFile notRoot front ?_ (Or.inl isBase)).startsAtBase
    intro first isFirst
    refine stays first ?_
    unfold firstCounted at isFirst ⊢
    rw [List.find?_append, isFirst]
    rfl

end Leaving

end ModelHub.Url

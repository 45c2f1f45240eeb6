import ModelHub.Proofs.LatestVersion

/-!
# The latest of some texts

The latest of some texts is the first one that denotes a version which no other text of them
exceeds. So texts that denote no version do not count, of two rows of texts only the latest of each
counts, and in another order the texts have a latest one of an equal version.
-/

namespace ModelHub.Version

variable {texts others fewer : List String} {text : String}

/-! ## The first text that is highest -/

/-- The text denotes a version, and no text of the list denotes a higher one. -/
def IsHighestIn (texts : List String) (text : String) : Prop :=
  ∃ version, parse? text = some version ∧
    ∀ other ∈ texts, ∀ otherVersion, parse? other = some otherVersion →
      (otherVersion.order version).isLE = true

/-- The text stands in the list, it is highest there, and none of those before it is. -/
def IsFirstHighestIn (texts : List String) (text : String) : Prop :=
  ∃ before after, texts = before ++ text :: after ∧ IsHighestIn texts text ∧
    ∀ earlier ∈ before, ¬ IsHighestIn texts earlier

/-- A text that denotes no version ranks below one that does. -/
theorem compare_parse?_isLE_iff {other : String} {version : Version} :
    (compare (parse? other) (some version)).isLE = true ↔
      ∀ otherVersion, parse? other = some otherVersion →
        (otherVersion.order version).isLE = true := by
  cases parse? other with
  | none =>
      constructor
      · intro _ otherVersion isSome
        cases isSome
      · intro _
        rfl
  | some otherVersion =>
      constructor
      · intro notHigher found isFound
        obtain rfl := Option.some.inj isFound
        exact notHigher
      · intro notHigher
        exact notHigher otherVersion rfl

theorem isHighestIn_of_isFirstHighest {version : Version}
    (highest : IsFirstHighest parse? texts text) (parsed : parse? text = some version) :
    IsHighestIn texts text := by
  refine ⟨version, parsed, fun other member => ?_⟩
  have notHigher := highest.isLE member
  rw [parsed] at notHigher
  exact compare_parse?_isLE_iff.1 notHigher

/-- A text that is lower than one of the list is not highest there. -/
theorem not_isHighestIn_of_lower {other : String} {version : Version} (member : text ∈ texts)
    (parsed : parse? text = some version) (lower : compare (parse? other) (some version) = .lt) :
    ¬ IsHighestIn texts other := by
  intro highest
  obtain ⟨otherVersion, otherParsed, notHigher⟩ := highest
  have reversed : (version.order otherVersion).isLE = true := notHigher text member version parsed
  rw [otherParsed] at lower
  have isLower : otherVersion.order version = .lt := lower
  rw [order_swap, isLower] at reversed
  cases reversed

/-- A text that is not above a highest one is below it, unless it is highest too. -/
theorem lower_of_not_isHighestIn {other : String} {version : Version}
    (parsed : parse? text = some version) (highest : IsHighestIn texts text)
    (member : other ∈ texts) (notHighest : ¬ IsHighestIn texts other) :
    compare (parse? other) (parse? text) = .lt := by
  obtain ⟨found, isFound, notHigher⟩ := highest
  obtain rfl := Option.some.inj (parsed.symm.trans isFound)
  rw [parsed]
  have isLE := compare_parse?_isLE_iff.2 (notHigher other member)
  cases otherParsed : parse? other with
  | none =>
      rfl
  | some otherVersion =>
      rw [otherParsed] at isLE
      by_contra notLower
      have equal : otherVersion.order version = .eq :=
        (Ordering.isLE_iff_eq_lt_or_eq_eq.1 isLE).resolve_left notLower
      refine notHighest
        ⟨otherVersion, otherParsed, fun third thirdMember thirdVersion isThird => ?_⟩
      have thirdNotHigher := notHigher third thirdMember thirdVersion isThird
      exact compareComponents_isLE_trans thirdNotHigher
        (by rw [← order, order_swap, equal]; rfl)

/-- The latest of the texts is the first one that is highest among them. -/
theorem latest_eq_some_iff_isFirstHighestIn :
    latest texts = some text ↔ IsFirstHighestIn texts text := by
  rw [latest_eq_some_iff]
  constructor
  · intro latest
    obtain ⟨highest, version, parsed⟩ := latest
    have isHighest := isHighestIn_of_isFirstHighest highest parsed
    have member := highest.mem
    obtain ⟨before, after, split, lower, _⟩ := highest
    rw [parsed] at lower
    exact ⟨before, after, split, isHighest, fun earlier inBefore =>
      not_isHighestIn_of_lower member parsed (lower earlier inBefore)⟩
  · intro first
    obtain ⟨before, after, split, highest, notHighest⟩ := first
    have ⟨version, parsed, notHigher⟩ := highest
    refine ⟨⟨before, after, split, fun other inBefore => ?_, fun other inAfter => ?_⟩,
      version, parsed⟩
    · have member : other ∈ texts := split ▸ List.mem_append_left _ inBefore
      exact lower_of_not_isHighestIn parsed highest member (notHighest other inBefore)
    · have member : other ∈ texts :=
        split ▸ List.mem_append_right _ (List.mem_cons_of_mem text inAfter)
      rw [parsed]
      exact compare_parse?_isLE_iff.2 (notHigher other member)

/-! ## Texts that denote no version -/

/-- Some texts that denote no version are left out, and all others are kept. -/
inductive Sifted : List String → List String → Prop
  | nil : Sifted [] []
  | keep {texts fewer : List String} (text : String) :
      Sifted texts fewer → Sifted (text :: texts) (text :: fewer)
  | leaveOut {texts fewer : List String} (text : String) :
      parse? text = none → Sifted texts fewer → Sifted (text :: texts) fewer

/-- The search passes over the texts that are left out. -/
theorem Sifted.foldl_keepHighest (sifted : Sifted texts fewer)
    (best : Option (String × Version)) :
    fewer.foldl keepHighest best = texts.foldl keepHighest best := by
  induction sifted generalizing best with
  | nil =>
      rfl
  | keep text sifted inductionHypothesis =>
      exact inductionHypothesis (keepHighest best text)
  | leaveOut text noVersion sifted inductionHypothesis =>
      have passed : keepHighest best text = best := by
        simp only [keepHighest, noVersion]
      rw [List.foldl_cons, passed]
      exact inductionHypothesis best

theorem Sifted.latest_eq (sifted : Sifted texts fewer) : latest fewer = latest texts := by
  unfold latest
  rw [sifted.foldl_keepHighest]

theorem Sifted.refl (texts : List String) : Sifted texts texts := by
  induction texts with
  | nil =>
      exact Sifted.nil
  | cons text texts inductionHypothesis =>
      exact inductionHypothesis.keep text

/-- Texts without a latest one can be left out altogether. -/
theorem sifted_append_left (noLatest : latest texts = none) (others : List String) :
    Sifted (texts ++ others) others := by
  rw [latest_eq_none_iff] at noLatest
  induction texts with
  | nil =>
      exact Sifted.refl others
  | cons text texts inductionHypothesis =>
      rw [List.forall_mem_cons] at noLatest
      exact (inductionHypothesis noLatest.2).leaveOut text noLatest.1

theorem sifted_append_right (texts : List String) (noLatest : latest others = none) :
    Sifted (texts ++ others) texts := by
  induction texts with
  | nil =>
      have noneKept := sifted_append_left noLatest []
      rwa [List.append_nil] at noneKept
  | cons text texts inductionHypothesis =>
      exact inductionHypothesis.keep text

/-! ## Two rows of texts -/

theorem latest_singleton {version : Version} (parsed : parse? text = some version) :
    latest [text] = some text := by
  simp [latest, keepHighest, parsed]

/-- Of two texts the second one is the latest only if it is higher. -/
theorem latest_pair {other : String} {version otherVersion : Version}
    (parsed : parse? text = some version) (otherParsed : parse? other = some otherVersion) :
    latest [text, other] =
      some (if otherVersion.order version = .gt then other else text) := by
  by_cases higher : otherVersion.order version = .gt <;>
    simp [latest, keepHighest, parsed, otherParsed, higher]

/-- Of two rows of texts only the latest of each counts. -/
theorem latest_append (texts others : List String) :
    latest (texts ++ others) = latest ((latest texts).toList ++ (latest others).toList) := by
  cases first : latest texts with
  | none =>
      rw [← (sifted_append_left first others).latest_eq]
      cases second : latest others with
      | none =>
          rfl
      | some other =>
          obtain ⟨_, version, parsed⟩ := latest_eq_some_iff.1 second
          exact (latest_singleton parsed).symm
  | some text =>
      obtain ⟨highest, version, parsed⟩ := latest_eq_some_iff.1 first
      cases second : latest others with
      | none =>
          rw [← (sifted_append_right texts second).latest_eq, first]
          exact (latest_singleton parsed).symm
      | some other =>
          obtain ⟨otherHighest, otherVersion, otherParsed⟩ := latest_eq_some_iff.1 second
          have pair : latest ((some text).toList ++ (some other).toList) = _ :=
            latest_pair parsed otherParsed
          rw [pair, latest_eq_some_iff]
          -- The second row has the latest text only if it exceeds all of the first row.
          by_cases higher : otherVersion.order version = .gt
          · rw [if_pos higher]
            refine ⟨otherHighest.append_left fun candidate member => ?_, otherVersion, otherParsed⟩
            have below : compare (parse? text) (parse? other) = .lt := by
              rw [parsed, otherParsed]
              exact Std.OrientedCmp.lt_of_gt higher
            exact Std.TransCmp.lt_of_isLE_of_lt (highest.isLE member) below
          · rw [if_neg higher]
            refine ⟨highest.append_right fun candidate member => ?_, version, parsed⟩
            have notAbove : (compare (parse? other) (parse? text)).isLE = true := by
              rw [parsed, otherParsed]
              exact Ordering.isLE_iff_ne_gt.2 higher
            exact Std.TransCmp.isLE_trans (otherHighest.isLE member) notAbove

/-! ## The order of the texts -/

/-- The texts denote versions, and these are equal. -/
def EqualVersions (text other : String) : Prop := compareTexts text other = some .eq

/-- In another order the texts have a latest one of an equal version. -/
theorem latest_of_perm (permutation : texts.Perm others) :
    Option.Rel EqualVersions (latest texts) (latest others) := by
  cases first : latest texts with
  | none =>
      have noVersion : ∀ text ∈ others, parse? text = none := fun text member =>
        latest_eq_none_iff.1 first text (permutation.mem_iff.2 member)
      rw [latest_eq_none_iff.2 noVersion]
      exact Option.Rel.none
  | some text =>
      obtain ⟨highest, version, parsed⟩ := latest_eq_some_iff.1 first
      cases second : latest others with
      | none =>
          have unversioned :=
            latest_eq_none_iff.1 second text (permutation.mem_iff.1 highest.mem)
          rw [parsed] at unversioned
          cases unversioned
      | some other =>
          obtain ⟨otherHighest, otherVersion, otherParsed⟩ := latest_eq_some_iff.1 second
          have equal := highest.compare_eq otherHighest fun _ => permutation.mem_iff
          rw [parsed, otherParsed] at equal
          refine Option.Rel.some ?_
          unfold EqualVersions compareTexts
          rw [parsed, otherParsed]
          exact congrArg some equal

/-- There is a latest text exactly if some text denotes a version, and it is, as it is given, the
first one that no other exceeds. Of two rows of texts only the latest of each counts, texts that
denote no version can be left out, and in another order the latest text is of an equal version. -/
theorem latest_isFirstHighestIn (texts : List String) :
    (latest texts = none ↔ ∀ text ∈ texts, parse? text = none) ∧
    (∀ text, latest texts = some text ↔ IsFirstHighestIn texts text) ∧
    (∀ others, latest (texts ++ others) =
      latest ((latest texts).toList ++ (latest others).toList)) ∧
    (∀ fewer, Sifted texts fewer → latest fewer = latest texts) ∧
    ∀ others, texts.Perm others → Option.Rel EqualVersions (latest texts) (latest others) :=
  ⟨latest_eq_none_iff, fun _ => latest_eq_some_iff_isFirstHighestIn, latest_append texts,
    fun _ sifted => sifted.latest_eq, fun _ permutation => latest_of_perm permutation⟩

theorem latest_isFirstHighestIn_fourTexts :
    latest ["1.9", "x", " 2.0", "2"] = some " 2.0" ∧
      IsFirstHighestIn ["1.9", "x", " 2.0", "2"] " 2.0" ∧
      Sifted ["1.9", "x", " 2.0", "2"] ["1.9", " 2.0", "2"] ∧
      latest ["1.9", " 2.0", "2"] = latest ["1.9", "x", " 2.0", "2"] ∧
      ["1.9", "x", " 2.0", "2"].Perm ["2", "1.9", "x", " 2.0"] ∧
      latest ["2", "1.9", "x", " 2.0"] = some "2" ∧
      Option.Rel EqualVersions (latest ["1.9", "x", " 2.0", "2"])
        (latest ["2", "1.9", "x", " 2.0"]) := by
  have isLatest : latest ["1.9", "x", " 2.0", "2"] = some " 2.0" := by decide
  have sifted : Sifted ["1.9", "x", " 2.0", "2"] ["1.9", " 2.0", "2"] :=
    (((Sifted.nil.keep "2").keep " 2.0").leaveOut "x" (by rfl)).keep "1.9"
  have permutation : ["1.9", "x", " 2.0", "2"].Perm ["2", "1.9", "x", " 2.0"] := by decide
  obtain ⟨_, isFirst, _, siftedLatest, permuted⟩ :=
    latest_isFirstHighestIn ["1.9", "x", " 2.0", "2"]
  exact ⟨isLatest, (isFirst " 2.0").1 isLatest, sifted, siftedLatest _ sifted, permutation,
    by decide, permuted _ permutation⟩

end ModelHub.Version

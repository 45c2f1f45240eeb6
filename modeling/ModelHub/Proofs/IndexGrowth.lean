import ModelHub.Proofs.Reconciliation
import ModelHub.Proofs.SortedIndex

/-!
# What an index holds while it grows

Entries are added to an index in the order in which the hub lists them. At any time it holds, for
every model that an entry so far was tagged with, the first entry of the highest rank. An entry
without a version that can be compared is of the lowest rank, whether it has no version, a blank one
or one that cannot be read. Adding an entry concerns at most the id that it is tagged with, and
replaces what is held there only by something of higher rank.
-/

namespace ModelHub

/-! ## Ranks of entries -/

namespace Entry

/-- The text that the hub records as the version of the entry denotes that version. -/
def HasVersion (entry : Entry) (version : Version) : Prop :=
  ∃ text, entry.version = some text ∧ Version.parse? text = some version

/-- The entry has a version, and the other one has none or a lower one. -/
def Outranks (entry other : Entry) : Prop :=
  ∃ version, entry.HasVersion version ∧
    ∀ otherVersion, other.HasVersion otherVersion → otherVersion.order version = .lt

variable {entry other further : Entry}

theorem hasVersion_iff {version : Version} :
    entry.HasVersion version ↔ entry.version? = some version := by
  rw [version?_eq_bind, Option.bind_eq_some_iff]
  exact Iff.rfl

theorem outranks_iff : entry.Outranks other ↔ compare other.version? entry.version? = .lt := by
  unfold Outranks
  simp only [hasVersion_iff]
  cases version : entry.version? with
  | none =>
      cases other.version? <;> simp [compare]
  | some native =>
      cases otherVersion : other.version? with
      | none =>
          simp [compare]
      | some otherNative =>
          have sameOrder :
              compare (some otherNative) (some native) = otherNative.order native := rfl
          simp [sameOrder]

theorem not_outranks_iff :
    ¬ entry.Outranks other ↔ (compare entry.version? other.version?).isLE = true := by
  rw [outranks_iff, ← Std.OrientedCmp.gt_iff_lt, Ordering.isLE_iff_ne_gt]

theorem Outranks.trans (higher : entry.Outranks other) (high : other.Outranks further) :
    entry.Outranks further := by
  rw [outranks_iff] at higher high ⊢
  exact Std.TransCmp.lt_trans high higher

/-- An entry that outranks another one has a version that is not lower. -/
theorem Outranks.exists_version? {version : Version} (higher : entry.Outranks other)
    (isVersion : other.version? = some version) :
    ∃ now, entry.version? = some now ∧ (version.order now).isLE = true := by
  obtain ⟨now, hasVersion, isHigher⟩ := higher
  have lower : version.order now = .lt := isHigher version (hasVersion_iff.2 isVersion)
  refine ⟨now, hasVersion_iff.1 hasVersion, ?_⟩
  rw [lower]
  rfl

end Entry

namespace Index

/-! ## What is held -/

/-- The index holds what it has to hold of the entries: for every id that one of them is tagged with
the first of those with the highest rank, at the version that the text of this entry denotes. -/
structure HoldsHighest (index : Index) (entries : List Entry) : Prop where
  distinct : index.IsDistinct
  contains_iff (modelId : String) : index.contains modelId = true ↔
    ∃ entry ∈ entries, entry.isCopyOf modelId = true
  get?_iff (modelId : String) (held : Entry) : index.get? modelId = some held ↔
    held.isCopyOf modelId = true ∧ ∃ before after, entries = before ++ held :: after ∧
      (∀ other ∈ before, other.isCopyOf modelId = true → held.Outranks other) ∧
      ∀ other ∈ after, other.isCopyOf modelId = true → ¬ other.Outranks held
  version?_iff (modelId : String) (version : Version) : index.version? modelId = some version ↔
    ∃ held, index.get? modelId = some held ∧ held.HasVersion version

theorem get?_ofEntries (entries : List Entry) (modelId : String) :
    (ofEntries entries).get? modelId =
      (entries.filter (Entry.isCopyOf modelId)).foldl (keepHigher Entry.version?) none :=
  get?_foldl_insert empty entries modelId

theorem get?_ofEntries_eq_none_iff {entries : List Entry} {modelId : String} :
    (ofEntries entries).get? modelId = none ↔
      ∀ entry ∈ entries, ¬ entry.isCopyOf modelId = true := by
  rw [get?_ofEntries, foldl_keepHigher_eq_none_iff, List.filter_eq_nil_iff]

theorem get?_ofEntries_eq_some_iff {entries : List Entry} {modelId : String} {held : Entry} :
    (ofEntries entries).get? modelId = some held ↔
      held.isCopyOf modelId = true ∧ ∃ before after, entries = before ++ held :: after ∧
        (∀ other ∈ before, other.isCopyOf modelId = true → held.Outranks other) ∧
        ∀ other ∈ after, other.isCopyOf modelId = true → ¬ other.Outranks held := by
  rw [get?_ofEntries, foldl_keepHigher_eq_some_iff, isFirstHighest_filter_iff]
  simp only [Entry.outranks_iff, ← Entry.not_outranks_iff]

theorem holdsHighest_ofEntries (entries : List Entry) :
    (ofEntries entries).HoldsHighest entries := by
  constructor
  · exact isDistinct_ofEntries entries
  · intro modelId
    have absentIff : (ofEntries entries).get? modelId = none ↔
        ∀ entry ∈ entries, ¬ entry.isCopyOf modelId = true :=
      get?_ofEntries_eq_none_iff
    unfold contains
    rw [← not_iff_not, Bool.not_eq_true, Option.isSome_eq_false_iff, Option.isNone_iff_eq_none,
      absentIff]
    simp
  · exact fun modelId held => get?_ofEntries_eq_some_iff
  · intro modelId version
    unfold version?
    rw [Option.bind_eq_some_iff]
    simp only [Entry.hasVersion_iff]

/-! ## Adding entries -/

/-- The second index is the first one after the entry was added. Under the id of its tag the entry
is held if nothing was held there or something that it outranks; every other id holds what it
held. -/
structure Adds (index : Index) (entry : Entry) (next : Index) : Prop where
  own (modelId : String) : entry.isCopyOf modelId = true →
    (next.get? modelId = some entry ∧
      ∀ held, index.get? modelId = some held → entry.Outranks held) ∨
    ∃ held, index.get? modelId = some held ∧ ¬ entry.Outranks held ∧
      next.get? modelId = some held
  others (modelId : String) : ¬ entry.isCopyOf modelId = true →
    next.get? modelId = index.get? modelId

/-- No id of the first index is missing from the second one, no version is lower there, and no entry
is another one unless it outranks the first. -/
structure GrowsInto (index later : Index) : Prop where
  contains (modelId : String) : index.contains modelId = true → later.contains modelId = true
  get? (modelId : String) (held : Entry) : index.get? modelId = some held →
    later.get? modelId = some held ∨
      ∃ now, later.get? modelId = some now ∧ now.Outranks held
  version? (modelId : String) (version : Version) : index.version? modelId = some version →
    ∃ now, later.version? modelId = some now ∧ (version.order now).isLE = true

variable {index next later : Index} {entry : Entry}

theorem adds_insert (index : Index) (entry : Entry) : index.Adds entry (index.insert entry) := by
  constructor
  · intro modelId copy
    rw [get?_insert, if_pos copy]
    cases isHeld : index.get? modelId with
    | none =>
        exact Or.inl ⟨rfl, fun held absent => by cases absent⟩
    | some held =>
        by_cases higher : compare entry.version? held.version? = .gt
        · refine Or.inl ⟨by simp [keepHigher, higher], fun other isOther => ?_⟩
          obtain rfl : held = other := Option.some.inj isOther
          exact Entry.outranks_iff.2 (Std.OrientedCmp.lt_of_gt higher)
        · refine Or.inr ⟨held, rfl, ?_, by simp [keepHigher, higher]⟩
          exact Entry.not_outranks_iff.2 (Ordering.isLE_iff_ne_gt.2 higher)
  · intro modelId notCopy
    rw [get?_insert, if_neg notCopy]

/-- It is enough to know what becomes of the entries. -/
theorem growsInto_of_get? (kept : ∀ modelId held, index.get? modelId = some held →
    later.get? modelId = some held ∨ ∃ now, later.get? modelId = some now ∧ now.Outranks held) :
    index.GrowsInto later := by
  constructor
  · intro modelId contained
    obtain ⟨held, isHeld⟩ := Option.isSome_iff_exists.1 contained
    rcases kept modelId held isHeld with still | ⟨now, isNow, _⟩
    · exact Option.isSome_iff_exists.2 ⟨held, still⟩
    · exact Option.isSome_iff_exists.2 ⟨now, isNow⟩
  · exact kept
  · intro modelId version isVersion
    obtain ⟨held, isHeld, heldVersion⟩ := Option.bind_eq_some_iff.1 isVersion
    rcases kept modelId held isHeld with still | ⟨now, isNow, higher⟩
    · refine ⟨version, Option.bind_eq_some_iff.2 ⟨held, still, heldVersion⟩, ?_⟩
      rw [Version.order_self]
      rfl
    · obtain ⟨nowVersion, isNowVersion, notLower⟩ := higher.exists_version? heldVersion
      exact ⟨nowVersion, Option.bind_eq_some_iff.2 ⟨now, isNow, isNowVersion⟩, notLower⟩

theorem Adds.growsInto (adds : index.Adds entry next) : index.GrowsInto next := by
  apply growsInto_of_get?
  intro modelId held isHeld
  by_cases copy : entry.isCopyOf modelId = true
  · rcases adds.own modelId copy with ⟨isEntry, outranks⟩ | ⟨other, isOther, _, still⟩
    · exact Or.inr ⟨entry, isEntry, outranks held isHeld⟩
    · rw [← isOther, isHeld] at still
      exact Or.inl still
  · rw [adds.others modelId copy]
    exact Or.inl isHeld

theorem GrowsInto.trans (first : index.GrowsInto next) (second : next.GrowsInto later) :
    index.GrowsInto later := by
  apply growsInto_of_get?
  intro modelId held isHeld
  rcases first.get? modelId held isHeld with still | ⟨between, isBetween, higher⟩
  · exact second.get? modelId held still
  · rcases second.get? modelId between isBetween with still | ⟨now, isNow, higherStill⟩
    · exact Or.inr ⟨between, still, higher⟩
    · exact Or.inr ⟨now, isNow, higherStill.trans higher⟩

theorem growsInto_foldl_insert (index : Index) (entries : List Entry) :
    index.GrowsInto (entries.foldl insert index) := by
  induction entries generalizing index with
  | nil =>
      exact growsInto_of_get? fun _ _ isHeld => Or.inl isHeld
  | cons entry rest inductionHypothesis =>
      have added : index.GrowsInto (index.insert entry) := (adds_insert index entry).growsInto
      exact added.trans (inductionHypothesis (index.insert entry))

/-- The index of some entries holds for each model the first entry of the highest rank. One further
entry takes the place of what is held under its id only if it outranks that, and leaves all other
ids alone; and whatever entries follow, no id is lost, no version becomes lower, and an entry gives
way only to one that outranks it. -/
theorem ofEntries_grows (entries : List Entry) :
    (ofEntries entries).HoldsHighest entries ∧
      (∀ entry, (ofEntries entries).Adds entry (ofEntries (entries ++ [entry]))) ∧
      ∀ more, (ofEntries entries).GrowsInto (ofEntries (entries ++ more)) := by
  have continued (more : List Entry) :
      ofEntries (entries ++ more) = more.foldl insert (ofEntries entries) := by
    unfold ofEntries
    rw [List.foldl_append]
  refine ⟨holdsHighest_ofEntries entries, fun entry => ?_, fun more => ?_⟩
  · rw [continued]
    exact adds_insert (ofEntries entries) entry
  · rw [continued]
    exact growsInto_foldl_insert (ofEntries entries) more

/-- A copy of the model `m` with a name and, it may be, a version. -/
def copyNamed (name : String) (version : Option String) : Entry where
  name := name
  version := version
  keywords := Tag.keywords ⟨"m", "1"⟩
  arn := none
  contentType := none
  creationTime := none
  status := none
  schemaVersion := none

theorem ofEntries_grows_equalVersions :
    (ofEntries [copyNamed "none" none, copyNamed "first" (some "1.0")]).get? "m" =
        some (copyNamed "first" (some "1.0")) ∧
      (ofEntries ([copyNamed "none" none, copyNamed "first" (some "1.0")] ++
          [copyNamed "second" (some "1.0.0")])).get? "m" =
        some (copyNamed "first" (some "1.0")) ∧
      ∃ now, (ofEntries ([copyNamed "none" none, copyNamed "first" (some "1.0")] ++
          [copyNamed "third" (some "1.1")])).version? "m" = some now ∧
        ((⟨[1, 0]⟩ : Version).order now).isLE = true := by
  obtain ⟨highest, adds, grows⟩ :=
    ofEntries_grows [copyNamed "none" none, copyNamed "first" (some "1.0")]
  have outranks : (copyNamed "first" (some "1.0")).Outranks (copyNamed "none" none) :=
    Entry.outranks_iff.2 (by decide)
  have equal :
      ¬ (copyNamed "second" (some "1.0.0")).Outranks (copyNamed "first" (some "1.0")) :=
    Entry.not_outranks_iff.2 (by decide)
  have isHeld := (highest.get?_iff "m" (copyNamed "first" (some "1.0"))).2
    ⟨by decide, [copyNamed "none" none], [], rfl,
      List.forall_mem_singleton.2 fun _ => outranks, by simp⟩
  refine ⟨isHeld, ?_, (grows _).version? "m" ⟨[1, 0]⟩ rfl⟩
  rcases (adds (copyNamed "second" (some "1.0.0"))).own "m" (by decide) with
    ⟨_, outranksHeld⟩ | ⟨held, wasHeld, _, still⟩
  · exact absurd (outranksHeld _ isHeld) equal
  · rw [isHeld] at wasHeld
    rw [still, ← wasHeld]

end Index

end ModelHub

import Mathlib.Data.List.Nodup
import ModelHub.Toml.Document

/-!
# Sound documents

In every document that is read, the keys of a table are distinct and an integer has 64 bits, however
deep they stand. A document starts out empty, and each of its statements keeps it sound.
-/

namespace ModelHub.Toml

open Text

/-- In all tables inside a value the keys are distinct, and all integers are within their bounds. -/
inductive IsSound : Toml → Prop where
  | string (value : String) : IsSound (.string value)
  | integer {value : Int} (lower : -(integerBound : Int) ≤ value)
      (upper : value < (integerBound : Int)) : IsSound (.integer value)
  | float (written : String) : IsSound (.float written)
  | boolean (value : Bool) : IsSound (.boolean value)
  | time (written : String) : IsSound (.time written)
  | array {items : List Toml} (each : ∀ item ∈ items, IsSound item) : IsSound (.array items)
  | table {entries : List (String × Toml)} (distinct : (entries.map Prod.fst).Nodup)
      (each : ∀ entry ∈ entries, IsSound entry.2) : IsSound (.table entries)

/-! ## Putting a document together -/

/-- What stands under a key has distinct keys in all its tables, and sound values. -/
inductive Node.IsSound : Node → Prop where
  | value {value : Toml} (sound : value.IsSound) : IsSound (.value value)
  | table (origin : Origin) {entries : Entries} (distinct : (entries.map Prod.fst).Nodup)
      (each : ∀ entry ∈ entries, IsSound entry.2) : IsSound (.table origin entries)
  | tables {items : List Entries} (distinct : ∀ entries ∈ items, (entries.map Prod.fst).Nodup)
      (each : ∀ entries ∈ items, ∀ entry ∈ entries, IsSound entry.2) : IsSound (.tables items)

/-- The keys of entries are distinct, and what stands under each is sound. -/
structure AreSound (entries : Entries) : Prop where
  distinct : (entries.map Prod.fst).Nodup
  each : ∀ entry ∈ entries, entry.2.IsSound

theorem areSound_nil : AreSound [] := ⟨List.nodup_nil, nofun⟩

theorem Node.isSound_table_iff {origin : Origin} {entries : Entries} :
    (Node.table origin entries).IsSound ↔ AreSound entries := by
  constructor
  · intro sound
    cases sound with
    | table _ distinct each =>
        exact ⟨distinct, each⟩
  · intro sound
    exact .table origin sound.distinct sound.each

theorem Node.isSound_tables_iff {items : List Entries} :
    (Node.tables items).IsSound ↔ ∀ entries ∈ items, AreSound entries := by
  constructor
  · intro sound entries mem
    cases sound with
    | tables distinct each =>
        exact ⟨distinct entries mem, each entries mem⟩
  · intro sound
    exact .tables (fun entries mem => (sound entries mem).distinct)
      fun entries mem => (sound entries mem).each

/-- A change of the entries of a table keeps them sound. -/
def KeepsSound (change : Origin → Entries → Option Entries) : Prop :=
  ∀ origin entries changed, AreSound entries → change origin entries = some changed →
    AreSound changed

section Changing

variable {key : String} {change : Option Node → Option Node} {entries changed : Entries}

/-- Changing what stands under a key adds the key at the end, unless it is there already. -/
theorem map_fst_of_alter (isChanged : alter key change entries = some changed) :
    changed.map Prod.fst =
      if key ∈ entries.map Prod.fst then entries.map Prod.fst
      else entries.map Prod.fst ++ [key] := by
  induction entries generalizing changed with
  | nil =>
      obtain ⟨node, _, rfl⟩ := Option.map_eq_some_iff.1 isChanged
      rfl
  | cons head rest inductionHypothesis =>
      obtain ⟨headKey, headNode⟩ := head
      unfold alter at isChanged
      split_ifs at isChanged with isKey
      · obtain ⟨node, _, rfl⟩ := Option.map_eq_some_iff.1 isChanged
        simp [isKey]
      · obtain ⟨others, isOthers, rfl⟩ := Option.map_eq_some_iff.1 isChanged
        rw [List.map_cons, inductionHypothesis isOthers]
        by_cases known : key ∈ rest.map Prod.fst
        · simp [known]
        · rw [if_neg known, if_neg (by simp [Ne.symm isKey, known])]
          rfl

theorem alter_areSound (sound : AreSound entries)
    (keeps : ∀ found node, (∀ before, found = some before → before.IsSound) →
      change found = some node → node.IsSound)
    (isChanged : alter key change entries = some changed) : AreSound changed := by
  refine ⟨?_, ?_⟩
  · rw [map_fst_of_alter isChanged]
    by_cases known : key ∈ entries.map Prod.fst
    · rw [if_pos known]
      exact sound.distinct
    · rw [if_neg known]
      exact List.Nodup.append sound.distinct (List.nodup_singleton _) (by simpa using known)
  · have each := sound.each
    clear sound
    induction entries generalizing changed with
    | nil =>
        obtain ⟨node, isNode, rfl⟩ := Option.map_eq_some_iff.1 isChanged
        exact List.forall_mem_singleton.2 (keeps none node nofun isNode)
    | cons head rest inductionHypothesis =>
        obtain ⟨headSound, restSound⟩ := List.forall_mem_cons.1 each
        unfold alter at isChanged
        split_ifs at isChanged with isKey
        · obtain ⟨node, isNode, rfl⟩ := Option.map_eq_some_iff.1 isChanged
          refine List.forall_mem_cons.2 ⟨keeps _ node ?_ isNode, restSound⟩
          rintro _ ⟨⟩
          exact headSound
        · obtain ⟨others, isOthers, rfl⟩ := Option.map_eq_some_iff.1 isChanged
          exact List.forall_mem_cons.2 ⟨headSound, inductionHypothesis isOthers restSound⟩

end Changing

theorem keepsSound_within (dotted : Bool) {change : Origin → Entries → Option Entries}
    (keeps : KeepsSound change) (path : List String) :
    KeepsSound (within dotted change path) := by
  induction path with
  | nil =>
      exact keeps
  | cons key path inductionHypothesis =>
      intro origin entries changed sound isChanged
      refine alter_areSound sound ?_ isChanged
      intro found node foundSound isNode
      split at isNode
      · obtain ⟨inner, isInner, rfl⟩ := Option.map_eq_some_iff.1 isNode
        exact Node.isSound_table_iff.2 (inductionHypothesis _ _ _ areSound_nil isInner)
      · cases isNode
      · split_ifs at isNode
        obtain ⟨inner, isInner, rfl⟩ := Option.map_eq_some_iff.1 isNode
        have before := Node.isSound_table_iff.1 (foundSound _ rfl)
        exact Node.isSound_table_iff.2 (inductionHypothesis _ _ _ before isInner)
      · have items := Node.isSound_tables_iff.1 (foundSound _ rfl)
        split at isNode
        · cases isNode
        · next last isLast =>
          obtain ⟨inner, isInner, rfl⟩ := Option.map_eq_some_iff.1 isNode
          have before := items last (List.mem_of_getLast? isLast)
          refine Node.isSound_tables_iff.2 fun item mem => ?_
          rcases List.mem_append.1 mem with isOther | isLast'
          · exact items item (List.dropLast_subset _ isOther)
          · rw [List.mem_singleton.1 isLast']
            exact inductionHypothesis _ _ _ before isInner

theorem keepsSound_insertNew (plain : Bool) (key : String) {value : Toml}
    (sound : value.IsSound) : KeepsSound (insertNew plain key value) := by
  intro origin entries changed entriesSound isChanged
  unfold insertNew at isChanged
  split_ifs at isChanged
  refine alter_areSound entriesSound ?_ isChanged
  intro found node _ isNode
  split at isNode
  · cases isNode
    exact .value sound
  · cases isNode

theorem keepsSound_assign (key : List String) {value : Toml} (sound : value.IsSound) :
    KeepsSound (assign key value) := by
  intro origin entries changed entriesSound isChanged
  unfold assign at isChanged
  split at isChanged
  · cases isChanged
  · exact keepsSound_within true (keepsSound_insertNew _ _ sound) _ _ _ _ entriesSound isChanged

theorem keepsSound_openTable (key : String) : KeepsSound (openTable key) := by
  intro origin entries changed entriesSound isChanged
  refine alter_areSound entriesSound ?_ isChanged
  intro found node foundSound isNode
  split at isNode
  · cases isNode
    exact Node.isSound_table_iff.2 areSound_nil
  · cases isNode
    exact Node.isSound_table_iff.2 (Node.isSound_table_iff.1 (foundSound _ rfl))
  · cases isNode

theorem keepsSound_openItem (key : String) : KeepsSound (openItem key) := by
  intro origin entries changed entriesSound isChanged
  refine alter_areSound entriesSound ?_ isChanged
  intro found node foundSound isNode
  split at isNode
  · cases isNode
    exact Node.isSound_tables_iff.2 (List.forall_mem_singleton.2 areSound_nil)
  · cases isNode
    have items := Node.isSound_tables_iff.1 (foundSound _ rfl)
    refine Node.isSound_tables_iff.2 (List.forall_mem_append.2 ⟨items, ?_⟩)
    exact List.forall_mem_singleton.2 areSound_nil
  · cases isNode

/-- The value that a statement assigns, if it assigns one, is sound. -/
def Statement.IsSound : Statement → Prop
  | .assignment _ value => value.IsSound
  | _ => True

theorem Draft.add_areSound {draft next : Draft} {statement : Statement}
    (statementSound : statement.IsSound) (sound : AreSound draft.entries)
    (isAdded : draft.add statement = some next) : AreSound next.entries := by
  have entered (path : List String) (opening : String → Origin → Entries → Option Entries)
      (keeps : ∀ key, KeepsSound (opening key)) (isEntered : draft.enter path opening = some next) :
      AreSound next.entries := by
    unfold Draft.enter at isEntered
    split at isEntered
    · cases isEntered
    · obtain ⟨entries, isEntries, rfl⟩ := Option.map_eq_some_iff.1 isEntered
      exact keepsSound_within false (keeps _) _ _ _ _ sound isEntries
  cases statement with
  | header path =>
      exact entered path openTable keepsSound_openTable isAdded
  | itemHeader path =>
      exact entered path openItem keepsSound_openItem isAdded
  | assignment key value =>
      obtain ⟨entries, isEntries, rfl⟩ := Option.map_eq_some_iff.1 isAdded
      exact keepsSound_within false (keepsSound_assign key statementSound) _ _ _ _ sound isEntries

/-- What every step of a fold keeps holds of its result. -/
theorem foldlM_induction {σ α : Type} {step : σ → α → Option σ} {property : σ → Prop}
    {items : List α}
    (keeps : ∀ state, ∀ item ∈ items, ∀ next, property state → step state item = some next →
      property next)
    {state result : σ} (holds : property state) (isResult : items.foldlM step state = some result) :
    property result := by
  induction items generalizing state with
  | nil =>
      cases isResult
      exact holds
  | cons item items inductionHypothesis =>
      obtain ⟨next, isNext, isRest⟩ := Option.bind_eq_some_iff.1 isResult
      exact inductionHypothesis (fun state other otherMem => keeps state other (.tail _ otherMem))
        (keeps state item List.mem_cons_self next holds isNext) isRest

/-! ## The values of a document -/

theorem entriesToToml_eq_map (entries : Entries) :
    entriesToToml entries = entries.map fun entry => (entry.1, entry.2.toToml) := by
  induction entries with
  | nil =>
      rfl
  | cons head rest inductionHypothesis =>
      rw [entriesToToml, inductionHypothesis, List.map_cons]

theorem itemsToToml_eq_map (items : List Entries) :
    itemsToToml items = items.map fun entries => .table (entriesToToml entries) := by
  induction items with
  | nil =>
      rfl
  | cons entries rest inductionHypothesis =>
      rw [itemsToToml, inductionHypothesis, List.map_cons]

theorem map_fst_entriesToToml (entries : Entries) :
    (entriesToToml entries).map Prod.fst = entries.map Prod.fst := by
  rw [entriesToToml_eq_map, List.map_map]
  rfl

theorem forall_mem_entriesToToml {entries : Entries}
    (each : ∀ entry ∈ entries, entry.2.toToml.IsSound) :
    ∀ entry ∈ entriesToToml entries, entry.2.IsSound := by
  rw [entriesToToml_eq_map]
  exact List.forall_mem_map.2 each

theorem Node.IsSound.toToml {node : Node} (sound : node.IsSound) : node.toToml.IsSound := by
  induction sound with
  | value sound =>
      rw [Node.toToml]
      exact sound
  | table origin distinct _ each =>
      rw [Node.toToml]
      refine .table ?_ (forall_mem_entriesToToml each)
      rwa [map_fst_entriesToToml]
  | tables distinct _ each =>
      rw [Node.toToml, itemsToToml_eq_map]
      refine .array (List.forall_mem_map.2 fun entries mem => ?_)
      refine .table ?_ (forall_mem_entriesToToml (each entries mem))
      rw [map_fst_entriesToToml]
      exact distinct entries mem

theorem AreSound.table {entries : Entries} (sound : AreSound entries) :
    IsSound (.table (entriesToToml entries)) := by
  refine .table ?_ (forall_mem_entriesToToml fun entry mem => (sound.each entry mem).toToml)
  rw [map_fst_entriesToToml]
  exact sound.distinct

theorem isSound_of_ofAssignments? {assignments : List (List String × Toml)} {value : Toml}
    (sound : ∀ item ∈ assignments, item.2.IsSound)
    (isTable : ofAssignments? assignments = some value) : value.IsSound := by
  obtain ⟨entries, isFold, rfl⟩ := Option.map_eq_some_iff.1 isTable
  refine AreSound.table (foldlM_induction ?_ areSound_nil isFold)
  intro entries item itemMem changed entriesSound isChanged
  exact keepsSound_assign item.1 (sound item itemMem) _ _ _ entriesSound isChanged

theorem isSound_of_ofStatements? {statements : List Statement} {entries : List (String × Toml)}
    (sound : ∀ statement ∈ statements, statement.IsSound)
    (isDocument : ofStatements? statements = some entries) : IsSound (.table entries) := by
  obtain ⟨draft, isFold, rfl⟩ := Option.map_eq_some_iff.1 isDocument
  have keeps (draft : Draft) (statement : Statement) (mem : statement ∈ statements) (next : Draft)
      (draftSound : AreSound draft.entries) (isAdded : draft.add statement = some next) :
      AreSound next.entries := Draft.add_areSound (sound statement mem) draftSound isAdded
  exact AreSound.table (foldlM_induction keeps areSound_nil isFold)

/-! ## Reading -/

section Reading

variable {α : Type} {property : α → Prop}

/-- All that a reader gives has a property. -/
def Gives (reader : Reader α) (property : α → Prop) : Prop :=
  ∀ input value rest, reader input = some (value, rest) → property value

theorem Gives.or {first second : Reader α} (byFirst : Gives first property)
    (bySecond : Gives second property) :
    Gives (fun input => (first input).or (second input)) property := by
  intro input value rest isRead
  rcases Option.or_eq_some_iff.1 isRead with isFirst | ⟨_, isSecond⟩
  · exact byFirst input value rest isFirst
  · exact bySecond input value rest isSecond

theorem isSound_of_integer? {negative : Bool} {magnitude : Nat} {value : Toml}
    (isInteger : integer? negative magnitude = some value) : value.IsSound := by
  have positive : 0 < integerBound := by decide
  unfold integer? at isInteger
  split_ifs at isInteger with isNegative within within
  · obtain rfl := Option.some.inj isInteger
    exact .integer (by omega) (by omega)
  · obtain rfl := Option.some.inj isInteger
    exact .integer (by omega) (by omega)

theorem gives_readBased (base : Nat) : Gives (readBased base) IsSound := by
  intro input value rest isRead
  unfold readBased at isRead
  split at isRead
  · cases isRead
  · simp only [Option.map_eq_some_iff, Option.bind_eq_some_iff, Prod.mk.injEq] at isRead
    obtain ⟨_, ⟨_, _, isInteger⟩, rfl, _⟩ := isRead
    exact isSound_of_integer? isInteger

theorem gives_readDecimal : Gives readDecimal IsSound := by
  intro input value rest isRead
  unfold readDecimal at isRead
  dsimp only at isRead
  split at isRead
  · cases isRead
  · simp only [Option.map_eq_some_iff, Prod.mk.injEq] at isRead
    obtain ⟨_, isInteger, rfl, _⟩ := isRead
    exact isSound_of_integer? isInteger

theorem gives_readInteger : Gives readInteger IsSound := by
  intro input value rest isRead
  unfold readInteger at isRead
  split at isRead
  · exact gives_readBased 16 _ _ _ isRead
  · exact gives_readBased 8 _ _ _ isRead
  · exact gives_readBased 2 _ _ _ isRead
  · exact gives_readDecimal _ _ _ isRead

theorem gives_readDecimalFloat : Gives readDecimalFloat IsSound := by
  intro input value rest isRead
  unfold readDecimalFloat at isRead
  dsimp only at isRead
  split at isRead
  · cases isRead
  · split at isRead
    · cases isRead
    · split_ifs at isRead
      cases isRead
      exact .float _

theorem gives_readSpecialFloat : Gives readSpecialFloat IsSound := by
  intro input value rest isRead
  unfold readSpecialFloat at isRead
  split at isRead
  · cases isRead
    exact .float _
  · cases isRead
    exact .float _
  · cases isRead

theorem gives_readTime : Gives readTime IsSound := by
  intro input value rest isRead
  obtain ⟨_, _, isTime⟩ := Option.map_eq_some_iff.1 isRead
  cases isTime
  exact .time _

theorem gives_readBoolean : Gives readBoolean IsSound := by
  intro input value rest isRead
  unfold readBoolean at isRead
  split at isRead
  · cases isRead
    exact .boolean true
  · cases isRead
    exact .boolean false
  · cases isRead

theorem gives_readScalar : Gives readScalar IsSound := by
  have gives := gives_readBoolean.or (gives_readTime.or
    ((gives_readDecimalFloat.or gives_readSpecialFloat).or gives_readInteger))
  intro input value rest isRead
  unfold readScalar at isRead
  split at isRead
  · cases isRead
  · split_ifs at isRead
    · obtain ⟨_, _, isString⟩ := Option.map_eq_some_iff.1 isRead
      cases isString
      exact .string _
    · exact gives _ _ _ isRead

variable {value : Reader Toml}

theorem gives_readItems (gives : Gives value IsSound) (steps : Nat) :
    Gives (readItems value steps) fun items => ∀ item ∈ items, item.IsSound := by
  induction steps with
  | zero =>
      intro _ _ _ isRead
      cases isRead
  | succ steps inductionHypothesis =>
      intro input items rest isRead
      unfold readItems at isRead
      dsimp only at isRead
      split at isRead
      · next item afterItem isItem =>
        have itemSound := gives _ _ _ isItem
        split at isRead
        · cases isRead
          exact List.forall_mem_singleton.2 itemSound
        · obtain ⟨others, isOthers, isItems⟩ := Option.map_eq_some_iff.1 isRead
          cases isItems
          exact List.forall_mem_cons.2 ⟨itemSound, inductionHypothesis _ _ _ isOthers⟩
        · cases isRead
      · split at isRead
        · cases isRead
          exact nofun
        · cases isRead

theorem gives_readAssignment (gives : Gives value IsSound) :
    Gives (readAssignment value) fun item => item.2.IsSound := by
  intro input item rest isRead
  unfold readAssignment at isRead
  split at isRead
  · obtain ⟨found, isFound, isItem⟩ := Option.map_eq_some_iff.1 isRead
    cases isItem
    exact gives _ _ _ isFound
  · cases isRead

theorem gives_readAssignments (gives : Gives value IsSound) (steps : Nat) :
    Gives (readAssignments value steps) fun items => ∀ item ∈ items, item.2.IsSound := by
  induction steps with
  | zero =>
      intro _ _ _ isRead
      cases isRead
  | succ steps inductionHypothesis =>
      intro input items rest isRead
      unfold readAssignments at isRead
      split at isRead
      · next item afterItem isItem =>
        cases isRead
        exact List.forall_mem_singleton.2 (gives_readAssignment gives _ _ _ isItem)
      · next item afterItem isItem =>
        obtain ⟨others, isOthers, isItems⟩ := Option.map_eq_some_iff.1 isRead
        cases isItems
        refine List.forall_mem_cons.2 ⟨?_, inductionHypothesis _ _ _ isOthers⟩
        exact gives_readAssignment gives _ _ _ isItem
      · cases isRead

theorem gives_readInline (gives : Gives value IsSound) : Gives (readInline value) IsSound := by
  intro input table rest isRead
  unfold readInline at isRead
  split at isRead
  · cases isRead
    exact .table List.nodup_nil nofun
  · split at isRead
    · cases isRead
    · next assignments afterItems areRead =>
      obtain ⟨found, isFound, isTable⟩ := Option.map_eq_some_iff.1 isRead
      cases isTable
      exact isSound_of_ofAssignments? (gives_readAssignments gives _ _ _ _ areRead) isFound

theorem gives_readValue (depth : Nat) : Gives (readValue depth) IsSound := by
  induction depth with
  | zero =>
      exact gives_readScalar
  | succ depth inductionHypothesis =>
      intro input found rest isRead
      unfold readValue at isRead
      split at isRead
      · obtain ⟨items, areItems, isArray⟩ := Option.map_eq_some_iff.1 isRead
        cases isArray
        exact .array (gives_readItems inductionHypothesis _ _ _ _ areItems)
      · exact gives_readInline inductionHypothesis _ _ _ isRead
      · exact gives_readScalar _ _ _ isRead

theorem gives_readStatement : Gives readStatement Statement.IsSound := by
  intro input statement rest isRead
  unfold readStatement at isRead
  split at isRead
  · split at isRead
    · obtain ⟨_, _, isHeader⟩ := Option.map_eq_some_iff.1 isRead
      cases isHeader
      trivial
    · cases isRead
  · split at isRead
    · obtain ⟨_, _, isHeader⟩ := Option.map_eq_some_iff.1 isRead
      cases isHeader
      trivial
    · cases isRead
  · split at isRead
    · next key found afterValue isItem =>
      obtain ⟨_, _, isAssignment⟩ := Option.map_eq_some_iff.1 isRead
      cases isAssignment
      exact gives_readAssignment (gives_readValue _) _ _ _ isItem
    · cases isRead

end Reading

theorem isSound_of_readStatements {steps : Nat} {input : List Char} {statements : List Statement}
    (areRead : readStatements steps input = some statements) :
    ∀ statement ∈ statements, statement.IsSound := by
  induction steps generalizing input statements with
  | zero =>
      cases areRead
  | succ steps inductionHypothesis =>
      unfold readStatements at areRead
      split at areRead
      · cases areRead
        exact nofun
      · split at areRead
        · cases areRead
        · next statement rest isStatement =>
          obtain ⟨others, areOthers, rfl⟩ := Option.map_eq_some_iff.1 areRead
          refine List.forall_mem_cons.2 ⟨?_, inductionHypothesis areOthers⟩
          exact gives_readStatement _ _ _ isStatement

/-- What is read from a text is a sound document. -/
theorem isSound_of_parse? {text : String} {entries : List (String × Toml)}
    (isRead : parse? text = some entries) : IsSound (.table entries) := by
  obtain ⟨statements, areRead, isDocument⟩ := Option.bind_eq_some_iff.1 isRead
  exact isSound_of_ofStatements? (isSound_of_readStatements areRead) isDocument

end ModelHub.Toml

import ModelHub.Config
import ModelHub.Proofs.ConfigRun
import ModelHub.Proofs.OctetText
import ModelHub.Proofs.TomlSurplus

/-!
# Keys that configure nothing

The keys that a document brings in vain are found by comparing it with what its configuration is
written as. They are exactly those that are named neither like a section nor, in the table of a
section, like one of its fields: no field that the document sets is missing in what is written, and
no field that is written is a table. Without them, the document gives the same configuration and
brings nothing in vain.
-/

namespace ModelHub.Config

/-- A path is that of a key that configures nothing: it names no section, or it stands in the table
of a section and names none of its fields. -/
inductive IsUnknown (entries : List (String × Toml)) : List String → Prop where
  | outside {name : String} (isKey : name ∈ entries.map Prod.fst)
      (notSection : fieldNames? name = none) : IsUnknown entries [name]
  | field {name field : String} {names : List String} {fields : List (String × Toml)}
      (isSection : fieldNames? name = some names)
      (isTable : entries.lookup name = some (.table fields)) (isKey : field ∈ fields.map Prod.fst)
      (notField : field ∉ names) : IsUnknown entries [name, field]

section Unknown

variable {entries : List (String × Toml)} {name field : String} {names : List String}

theorem not_isUnknown_section (isSection : fieldNames? name = some names) :
    ¬ IsUnknown entries [name] := by
  intro isUnknown
  cases isUnknown with
  | outside _ notSection =>
      rw [isSection] at notSection
      cases notSection

theorem not_isUnknown_field (isSection : fieldNames? name = some names) (isField : field ∈ names)
    (deeper : List String) : ¬ IsUnknown entries (name :: field :: deeper) := by
  intro isUnknown
  cases isUnknown with
  | field isOther _ _ notField =>
      obtain rfl := Option.some.inj (isSection.symm.trans isOther)
      exact notField isField

/-- Only in a table are keys looked at. -/
theorem IsUnknown.head?_ne {path : List String} (isUnknown : IsUnknown entries path)
    (isSection : fieldNames? name = some names)
    (notTable : ∀ fields, entries.lookup name ≠ some (.table fields)) : path.head? ≠ some name := by
  cases isUnknown with
  | outside _ notSection =>
      rintro ⟨⟩
      rw [isSection] at notSection
      cases notSection
  | field _ isTable _ _ =>
      rintro ⟨⟩
      exact notTable _ isTable

end Unknown

/-! ## What is written -/

/-- What is written of a section: none but its fields, no table among them, and each field that the
table of the section in a document has. -/
structure Writes (names : List String) (found : Option Toml) (written : List (String × Toml)) :
    Prop where
  isField : ∀ field, (written.lookup field).isSome → field ∈ names
  notTable : ∀ field inner, written.lookup field ≠ some (.table inner)
  isWritten : ∀ fields, found = some (.table fields) → ∀ field ∈ names,
    field ∈ fields.map Prod.fst → (written.lookup field).isSome

section Written

variable {first second : String} {found : Option Toml}

theorem lookup_setFields (different : first ≠ second) (firstField secondField : Option Toml)
    (key : String) :
    (setFields [first, second] [firstField, secondField]).lookup key =
      if key = first then firstField else if key = second then secondField else none := by
  by_cases isFirst : key = first
  · subst isFirst
    have notSecond : (key == second) = false := beq_false_of_ne different
    cases firstField <;> cases secondField <;> simp [setFields, List.lookup_cons, notSecond]
  · have notFirst : (key == first) = false := beq_false_of_ne isFirst
    by_cases isSecond : key = second
    · subst isSecond
      cases firstField <;> cases secondField <;>
        simp [setFields, List.lookup_cons, notFirst, isFirst]
    · have notSecond : (key == second) = false := beq_false_of_ne isSecond
      cases firstField <;> cases secondField <;>
        simp [setFields, List.lookup_cons, notFirst, notSecond, isFirst, isSecond]

theorem writes_setFields (different : first ≠ second) {firstField secondField : Option Toml}
    (notTable : ∀ inner, firstField ≠ some (.table inner) ∧ secondField ≠ some (.table inner))
    (isSet : ∀ fields, found = some (.table fields) →
      ((fields.lookup first).isSome → firstField.isSome) ∧
        ((fields.lookup second).isSome → secondField.isSome)) :
    Writes [first, second] found (setFields [first, second] [firstField, secondField]) := by
  have lookup := lookup_setFields different firstField secondField
  refine ⟨fun field isWritten => ?_, fun field inner => ?_, fun fields isTable field isField => ?_⟩
  · rw [lookup] at isWritten
    split_ifs at isWritten with isFirst isSecond
    · simp [isFirst]
    · simp [isSecond]
    · cases isWritten
  · rw [lookup]
    split_ifs
    · exact (notTable inner).1
    · exact (notTable inner).2
    · exact nofun
  · obtain ⟨firstSet, secondSet⟩ := isSet fields isTable
    rw [← isSome_lookup_iff, lookup]
    rcases List.mem_cons.1 isField with rfl | isSecond
    · rw [if_pos rfl]
      exact firstSet
    · obtain rfl := List.mem_singleton.1 isSecond
      rw [if_neg different.symm, if_pos rfl]
      exact secondSet

theorem isSome_of_textField? {field : Option Toml} {text : Option String}
    (isText : textField? field = some text) (isSet : field.isSome) : text.isSome := by
  cases field with
  | none =>
      cases isSet
  | some value =>
      cases value <;> cases isText
      rfl

theorem writes_of_textSection? (different : first ≠ second) {texts : Option String × Option String}
    (isSection : textSection? [first, second] found = some texts) :
    Writes [first, second] found
      (setFields [first, second] [texts.1.map .string, texts.2.map .string]) := by
  have isText (text : Option String) (inner : List (String × Toml)) :
      text.map Toml.string ≠ some (.table inner) := by
    cases text <;> simp
  refine writes_setFields different (fun inner => ⟨isText _ inner, isText _ inner⟩) ?_
  rintro fields rfl
  rw [Option.isSome_map, Option.isSome_map]
  simp only [textSection?, sectionFields?, List.map_cons, List.map_nil] at isSection
  split at isSection
  · next firstText secondText isFirst isSecond =>
    cases isSection
    exact ⟨isSome_of_textField? isFirst, isSome_of_textField? isSecond⟩
  · cases isSection

theorem writes_of_isSet {maxConcurrency dryRun : Toml}
    (countPlain : ∀ inner, maxConcurrency ≠ .table inner)
    (flagPlain : ∀ inner, dryRun ≠ .table inner) (different : first ≠ second) :
    Writes [first, second] found
      (setFields [first, second] [some maxConcurrency, some dryRun]) := by
  refine writes_setFields different (fun inner => ⟨?_, ?_⟩) fun _ _ => ⟨fun _ => rfl, fun _ => rfl⟩
  · exact fun isTable => countPlain inner (Option.some.inj isTable)
  · exact fun isTable => flagPlain inner (Option.some.inj isTable)

end Written

/-! ## The configuration of a document -/

/-- The three sections of a document that gives a configuration. -/
theorem ofEntries?_eq_some_iff {entries : List (String × Toml)} {config : Config} :
    ofEntries? entries = some config ↔
      textSection? ["name", "api_base"] (entries.lookup "hub") =
          some (config.hub.name, config.hub.apiBase) ∧
        textSection? ["manifest_url", "manifest_path"] (entries.lookup "catalog") =
          some (config.catalog.manifestUrl, config.catalog.manifestPath) ∧
        syncSection? ["max_concurrency", "dry_run"] (entries.lookup "sync") = some config.sync := by
  obtain ⟨⟨name, apiBase⟩, ⟨manifestUrl, manifestPath⟩, sync⟩ := config
  have hubNames : (fieldNames? "hub").getD [] = ["name", "api_base"] := rfl
  have catalogNames : (fieldNames? "catalog").getD [] = ["manifest_url", "manifest_path"] := rfl
  have syncNames : (fieldNames? "sync").getD [] = ["max_concurrency", "dry_run"] := rfl
  simp only [ofEntries?, hubNames, catalogNames, syncNames]
  split
  · next hub catalog sync isHub isCatalog isSync =>
    simp [isHub, isCatalog, isSync, Prod.ext_iff]
  · next notAll =>
    refine iff_of_false nofun fun all => ?_
    exact notAll _ _ _ all.1 all.2.1 all.2.2

section Documents

variable {entries own : List (String × Toml)} {config : Config}

theorem integer?_eq_some_iff {count : Nat} {value : Toml} :
    Toml.integer? false count = some value ↔
      count < Toml.integerBound ∧ value = .integer count := by
  unfold Toml.integer?
  by_cases within : count < Toml.integerBound
  · simp [within, eq_comm]
  · simp [within]

theorem toEntries?_eq_some_iff :
    config.toEntries? = some own ↔
      config.sync.maxConcurrency < Toml.integerBound ∧
        own =
          [("hub", .table (setFields ["name", "api_base"]
              [config.hub.name.map .string, config.hub.apiBase.map .string])),
            ("catalog", .table (setFields ["manifest_url", "manifest_path"]
              [config.catalog.manifestUrl.map .string, config.catalog.manifestPath.map .string])),
            ("sync", .table (setFields ["max_concurrency", "dry_run"]
              [some (.integer config.sync.maxConcurrency),
                some (.boolean config.sync.dryRun)]))] := by
  rw [toEntries?, Option.map_eq_some_iff]
  simp only [integer?_eq_some_iff]
  constructor
  · rintro ⟨_, ⟨within, rfl⟩, rfl⟩
    exact ⟨within, rfl⟩
  · rintro ⟨within, rfl⟩
    exact ⟨_, ⟨within, rfl⟩, rfl⟩

/-- What is written of a section whose configuration a document gives. -/
theorem exists_writes (isConfig : ofEntries? entries = some config)
    (isOwn : config.toEntries? = some own) {name : String} {names : List String}
    (isSection : fieldNames? name = some names) :
    ∃ written, own.lookup name = some (.table written) ∧
      Writes names (entries.lookup name) written := by
  obtain ⟨isHub, isCatalog, isSync⟩ := ofEntries?_eq_some_iff.1 isConfig
  obtain ⟨_, rfl⟩ := toEntries?_eq_some_iff.1 isOwn
  have isOneOf : (name, names) ∈ sections := (lookup_eq_some_iff_mem (by decide)).1 isSection
  simp only [sections, List.mem_cons, Prod.mk.injEq, List.not_mem_nil, or_false] at isOneOf
  rcases isOneOf with ⟨rfl, rfl⟩ | ⟨rfl, rfl⟩ | ⟨rfl, rfl⟩
  · exact ⟨_, rfl, writes_of_textSection? (by decide) isHub⟩
  · exact ⟨_, rfl, writes_of_textSection? (by decide) isCatalog⟩
  · exact ⟨_, rfl, writes_of_isSet nofun nofun (by decide)⟩

theorem lookup_eq_none_of_not_section (isOwn : config.toEntries? = some own) {name : String}
    (notSection : fieldNames? name = none) : own.lookup name = none := by
  obtain ⟨_, rfl⟩ := toEntries?_eq_some_iff.1 isOwn
  have notMem : name ∉ sections.map Prod.fst := lookup_eq_none_iff_not_mem.1 notSection
  exact lookup_eq_none_iff_not_mem.2 notMem

/-- Beyond what is written of a section, a table has the keys that are none of its fields. -/
theorem Writes.exists_of_isSurplus {names : List String} {value : Toml}
    {written : List (String × Toml)} {path : List String}
    (writes : Writes names (some value) written)
    (isSurplus : Toml.IsSurplus value (.table written) path) :
    ∃ fields field, value = .table fields ∧ path = [field] ∧ field ∈ fields.map Prod.fst ∧
      field ∉ names := by
  cases isSurplus with
  | @key fields _ field isKey isNew =>
      refine ⟨fields, field, rfl, rfl, isKey, fun isField => ?_⟩
      have isSet := writes.isWritten fields rfl field isField isKey
      rw [isNew] at isSet
      cases isSet
  | inside _ isKnown inside =>
      cases inside with
      | key _ _ =>
          exact absurd isKnown (writes.notTable _ _)
      | inside _ _ _ =>
          exact absurd isKnown (writes.notTable _ _)

/-- The keys beyond those of the written configuration are the unknown ones. -/
theorem isSurplus_iff_isUnknown (distinct : (entries.map Prod.fst).Nodup)
    (isConfig : ofEntries? entries = some config) (isOwn : config.toEntries? = some own)
    {path : List String} :
    Toml.IsSurplus (.table entries) (.table own) path ↔ IsUnknown entries path := by
  constructor
  · intro isSurplus
    cases isSurplus with
    | key isKey isNew =>
        refine .outside isKey (Option.eq_none_iff_forall_ne_some.2 fun names isSection => ?_)
        obtain ⟨written, isWritten, _⟩ := exists_writes isConfig isOwn isSection
        rw [isNew] at isWritten
        cases isWritten
    | @inside _ _ name value known path mem isKnown inside =>
        cases isSection : fieldNames? name with
        | none =>
            rw [lookup_eq_none_of_not_section isOwn isSection] at isKnown
            cases isKnown
        | some names =>
            obtain ⟨written, isWritten, writes⟩ := exists_writes isConfig isOwn isSection
            obtain rfl := Option.some.inj (isWritten.symm.trans isKnown)
            have isFound := (lookup_eq_some_iff_mem distinct).2 mem
            rw [isFound] at writes
            obtain ⟨fields, field, rfl, rfl, isKey, notField⟩ := writes.exists_of_isSurplus inside
            exact .field isSection isFound isKey notField
  · intro isUnknown
    cases isUnknown with
    | outside isKey notSection =>
        exact .key isKey (lookup_eq_none_of_not_section isOwn notSection)
    | field isSection isTable isKey notField =>
        obtain ⟨written, isWritten, writes⟩ := exists_writes isConfig isOwn isSection
        refine .inside ((lookup_eq_some_iff_mem distinct).1 isTable) isWritten (.key isKey ?_)
        exact Option.not_isSome_iff_eq_none.1 fun isSome => notField (writes.isField _ isSome)

/-! ## Writing the configuration -/

/-- What a section of a sound document sets is sound. -/
theorem isSound_of_sectionFields? {required : Nat} {names : List String} {found : Option Toml}
    (sound : ∀ value, found = some value → value.IsSound) {fields : List (Option Toml)}
    (areFields : sectionFields? required names found = some fields) {value : Toml}
    (isField : some value ∈ fields) : value.IsSound := by
  unfold sectionFields? at areFields
  split at areFields
  · cases areFields
    obtain ⟨_, _, isNone⟩ := List.mem_map.1 isField
    cases isNone
  · cases areFields
    obtain ⟨_, _, isNone⟩ := List.mem_map.1 isField
    cases isNone
  · cases areFields
    obtain ⟨name, _, isFound⟩ := List.mem_map.1 isField
    cases sound _ rfl with
    | table distinct each =>
        exact each _ ((lookup_eq_some_iff_mem distinct).1 isFound)
  · split_ifs at areFields
    cases areFields
    obtain ⟨index, _, isFound⟩ := List.mem_map.1 isField
    cases sound _ rfl with
    | array each =>
        exact each _ (List.mem_of_getElem? isFound)
  · cases areFields

theorem lt_of_countField? {field : Option Toml} {absent count : Nat}
    (sound : ∀ value, field = some value → value.IsSound) (within : absent < Toml.integerBound)
    (isCount : countField? absent field = some count) : count < Toml.integerBound := by
  unfold countField? at isCount
  split at isCount
  · cases isCount
    exact within
  · split_ifs at isCount
    cases isCount
    cases sound _ rfl with
    | integer lower upper =>
        omega
  · cases isCount

/-- The configuration of a sound document can be written. -/
theorem maxConcurrency_lt (sound : Toml.IsSound (.table entries))
    (isConfig : ofEntries? entries = some config) :
    config.sync.maxConcurrency < Toml.integerBound := by
  obtain ⟨_, _, isSync⟩ := ofEntries?_eq_some_iff.1 isConfig
  unfold syncSection? at isSync
  split at isSync
  · next maxConcurrency dryRun areFields =>
    split at isSync
    · next count flag isCount isFlag =>
      rw [← Option.some.inj isSync]
      refine lt_of_countField? (fun value isValue => ?_) (by decide) isCount
      refine isSound_of_sectionFields? (fun found isFound => ?_) areFields
        (isValue ▸ List.mem_cons_self)
      cases sound with
      | table distinct each =>
          exact each _ ((lookup_eq_some_iff_mem distinct).1 isFound)
    · cases isSync
  · cases isSync

/-! ## Removing keys -/

section Removal

variable {paths : List (List String)} {names : List String} {found : Option Toml}

/-- A section is read alike after a removal that concerns none of its fields. -/
theorem sectionFields?_map_without (required : Nat)
    (isKept : ∀ field ∈ names, ∀ deeper, field :: deeper ∉ paths) :
    sectionFields? required names (found.map (Toml.without paths)) =
      sectionFields? required names found := by
  match found with
  | some (.table fields) =>
      have isSame : ∀ field ∈ names,
          (Toml.entriesWithout paths fields).lookup field = fields.lookup field := by
        intro field isField
        have noneBelow : Toml.pathsBelow field paths = [] :=
          List.eq_nil_iff_forall_not_mem.2 fun path mem =>
            isKept field isField path (Toml.mem_pathsBelow_iff.1 mem)
        rw [Toml.lookup_entriesWithout (isKept field isField []), noneBelow]
        cases fields.lookup field with
        | none => rfl
        | some value => rw [Option.map_some, Toml.without_nil]
      rw [Option.map_some, Toml.without]
      exact congrArg some (List.map_congr_left isSame)
  | none | some (.string _) | some (.integer _) | some (.float _) | some (.boolean _)
  | some (.time _) | some (.array _) => rfl

/-- Keys that configure nothing can be removed. -/
theorem ofEntries?_entriesWithout (areUnknown : ∀ path ∈ paths, IsUnknown entries path) :
    ofEntries? (Toml.entriesWithout paths entries) = ofEntries? entries := by
  have isSame (required : Nat) (name : String) (names : List String)
      (isSection : fieldNames? name = some names) :
      sectionFields? required names ((Toml.entriesWithout paths entries).lookup name) =
        sectionFields? required names (entries.lookup name) := by
    rw [Toml.lookup_entriesWithout fun mem =>
      not_isUnknown_section isSection (areUnknown [name] mem)]
    refine sectionFields?_map_without required fun field isField deeper mem => ?_
    have isUnknown := areUnknown _ (Toml.mem_pathsBelow_iff.1 mem)
    exact not_isUnknown_field isSection isField deeper isUnknown
  refine Option.ext fun config => ?_
  rw [ofEntries?_eq_some_iff, ofEntries?_eq_some_iff, textSection?, textSection?, textSection?,
    textSection?, syncSection?, syncSection?, isSame 2 "hub" _ rfl, isSame 2 "catalog" _ rfl,
    isSame 0 "sync" _ rfl]

end Removal

/-- What is found in a sound document that gives a configuration. -/
theorem exists_ofDocument? (sound : Toml.IsSound (.table entries))
    (isConfig : ofEntries? entries = some config) :
    ∃ paths : List (List String),
      ofDocument? entries = some (config, paths.map (String.intercalate ".")) ∧
        (∀ path, path ∈ paths ↔ IsUnknown entries path) ∧ paths.Pairwise (· < ·) ∧
        ofDocument? (Toml.entriesWithout paths entries) = some (config, []) := by
  obtain ⟨own, isOwn⟩ : ∃ own, config.toEntries? = some own :=
    ⟨_, toEntries?_eq_some_iff.2 ⟨maxConcurrency_lt sound isConfig, rfl⟩⟩
  have distinct : (entries.map Prod.fst).Nodup := by
    cases sound with
    | table distinct _ =>
        exact distinct
  have areUnknown (path : List String) :
      path ∈ Toml.surplus (.table entries) (.table own) ↔ IsUnknown entries path :=
    Toml.mem_surplus_iff.trans (isSurplus_iff_isUnknown distinct isConfig isOwn)
  refine ⟨Toml.surplus (.table entries) (.table own), ?_, areUnknown, sound.pairwise_surplus, ?_⟩
  · rw [ofDocument?, isConfig]
    simp only [extraneous?, isOwn, Option.map_some]
  · have nothing := Toml.surplus_without_surplus (.table entries) (.table own)
    rw [Toml.without] at nothing
    rw [ofDocument?, ofEntries?_entriesWithout fun path mem => (areUnknown path).1 mem, isConfig]
    simp only [extraneous?, isOwn, Option.map_some, nothing, List.map_nil]

end Documents

/-- The keys that a text brings in vain are the unknown keys of its document, in the order of the
keys at each level and each of them once. No known key is among them, nor a key of a section that is
an array. Without them the document gives the same configuration and brings nothing in vain.
Whenever the document of a text gives a configuration, its unknown keys are found. A run that reads
its configuration from a text warns of these keys, with one line for each, and a run that reads none
warns of nothing. -/
theorem parse?_findsUnknown :
    (∀ text config keys, parse? text = some (config, keys) →
        ∃ entries paths, Toml.parse? text = some entries ∧
          keys = paths.map (String.intercalate ".") ∧
          (∀ path, path ∈ paths ↔ IsUnknown entries path) ∧ paths.Pairwise (· < ·) ∧
          (∀ name names, fieldNames? name = some names →
            [name] ∉ paths ∧ (∀ field ∈ names, ∀ deeper, name :: field :: deeper ∉ paths) ∧
              ∀ items, entries.lookup name = some (.array items) →
                ∀ path ∈ paths, path.head? ≠ some name) ∧
          ofDocument? (Toml.entriesWithout paths entries) = some (config, [])) ∧
      (∀ text entries config, Toml.parse? text = some entries → ofEntries? entries = some config →
        ∃ keys, parse? text = some (config, keys)) ∧
      (∀ (world : World) color home named path text config keys,
        world.configPath? home named = some path → world.readFile path = .ok text →
        parse? text = some (config, keys) →
        world.run (Run.readConfig color home named) =
          (.ok (.ok config), { world with errors := world.errors ++ Run.warnings color keys })) ∧
      ∀ (world : World) color home named,
        (∀ path text, world.configPath? home named = some path → world.readFile path = .ok text →
          parse? text = none) →
        ∃ result, world.run (Run.readConfig color home named) = (.ok result, world) := by
  refine ⟨?_, ?_, ?_, ?_⟩
  · intro text config keys isParsed
    obtain ⟨entries, isRead, isDocument⟩ := Option.bind_eq_some_iff.1 isParsed
    have isConfig : ofEntries? entries = some config := by
      unfold ofDocument? at isDocument
      split at isDocument
      · cases isDocument
      · next found isFound =>
        obtain ⟨_, _, isPair⟩ := Option.map_eq_some_iff.1 isDocument
        rw [isFound, (Prod.mk.inj isPair).1]
    obtain ⟨paths, isFound, areUnknown, increasing, isRest⟩ :=
      exists_ofDocument? (Toml.isSound_of_parse? isRead) isConfig
    rw [isFound] at isDocument
    have areKeys : keys = paths.map (String.intercalate ".") :=
      (Prod.mk.inj (Option.some.inj isDocument)).2.symm
    refine ⟨entries, paths, isRead, areKeys, areUnknown, increasing, ?_, isRest⟩
    intro name names isSection
    refine ⟨?_, fun field isField deeper => ?_, fun items isArray path mem => ?_⟩
    · rw [areUnknown]
      exact not_isUnknown_section isSection
    · rw [areUnknown]
      exact not_isUnknown_field isSection isField deeper
    · refine ((areUnknown path).1 mem).head?_ne isSection fun fields isTable => ?_
      rw [isArray] at isTable
      cases isTable
  · intro text entries config isRead isConfig
    obtain ⟨paths, isFound, _⟩ := exists_ofDocument? (Toml.isSound_of_parse? isRead) isConfig
    exact ⟨_, Option.bind_eq_some_iff.2 ⟨entries, isRead, isFound⟩⟩
  · intro world color home named path text config keys isPath isText isParsed
    exact Run.run_readConfig_of_parse? color isPath isText isParsed
  · intro world color home named isNone
    exact Run.exists_run_readConfig color isNone

/-- A text with unknown keys inside and outside of a section. The path of one of them reads like
that of a known key. -/
def strayText : String :=
  "tags.owner = 1\n\"hub.name\" = 2\nsync = [8]\n[hub]\nname = \"h\"\nbucket.deep = 3\n"

def strayEntries : List (String × Toml) :=
  [("tags", .table [("owner", .integer 1)]), ("hub.name", .integer 2),
    ("sync", .array [.integer 8]),
    ("hub", .table [("name", .string "h"), ("bucket", .table [("deep", .integer 3)])])]

def strayConfig : Config := ⟨⟨some "h", none⟩, ⟨none, none⟩, ⟨8, false⟩⟩

theorem toml_parse?_strayText : Toml.parse? strayText = some strayEntries := by
  have noMark : Toml.skipByteOrderMark strayText.toList = strayText.toList := rfl
  have areRead : Toml.readStatements (strayText.toList.length + 1) strayText.toList =
      some [.assignment ["tags", "owner"] (.integer 1), .assignment ["hub.name"] (.integer 2),
        .assignment ["sync"] (.array [.integer 8]), .header ["hub"],
        .assignment ["name"] (.string "h"), .assignment ["bucket", "deep"] (.integer 3)] := rfl
  rw [Toml.parse?, noMark, areRead]
  rfl

theorem parse?_strayText :
    parse? strayText = some (strayConfig, ["hub.bucket", "hub.name", "tags"]) := by
  have isConfig : ofEntries? strayEntries = some strayConfig := rfl
  have isOwn : strayConfig.toEntries? = some
      [("hub", .table [("name", .string "h")]), ("catalog", .table []),
        ("sync", .table [("max_concurrency", .integer 8), ("dry_run", .boolean false)])] := rfl
  have isSurplus : Toml.surplus (.table strayEntries) (.table
      [("hub", .table [("name", .string "h")]), ("catalog", .table []),
        ("sync", .table [("max_concurrency", .integer 8), ("dry_run", .boolean false)])]) =
      [["hub", "bucket"], ["hub.name"], ["tags"]] := by
    simp [strayEntries, Toml.surplus, Toml.surplusBelow, Toml.inKeyOrder, Toml.keysInOrder,
      List.mergeSort, List.MergeSort.Internal.splitInTwo, List.lookup_cons]
  rw [parse?, toml_parse?_strayText, Option.bind_some, ofDocument?, isConfig]
  simp only [extraneous?, isOwn, Option.map_some, isSurplus]
  rfl

def strayWarnings : String :=
  "warning: config contains extraneous key \"hub.bucket\", ignoring\n" ++
    "warning: config contains extraneous key \"hub.name\", ignoring\n" ++
    "warning: config contains extraneous key \"tags\", ignoring\n"

/-- The text is the configuration of all users. -/
def strayWorld : World :=
  { files := fun path =>
      if path = "/etc/hubsync.toml" then .file (Text.encode strayText.toList) else .absent
    network := .unreachable
    exchanges := []
    output := ""
    errors := "" }

theorem readFile_strayWorld : strayWorld.readFile "/etc/hubsync.toml" = .ok strayText := by
  have isFile : strayWorld.files "/etc/hubsync.toml" = .file (Text.encode strayText.toList) := by
    simp [strayWorld]
  rw [World.readFile, isFile, Place.read, Text.decode?_encode]
  exact congrArg Except.ok (String.ofList_toList)

theorem parse?_findsUnknown_stray :
    parse? strayText = some (strayConfig, ["hub.bucket", "hub.name", "tags"]) ∧
      (∃ paths : List (List String),
        ["hub.bucket", "hub.name", "tags"] = paths.map (String.intercalate ".") ∧
          (∀ path, path ∈ paths ↔ IsUnknown strayEntries path) ∧
          ofDocument? (Toml.entriesWithout paths strayEntries) = some (strayConfig, [])) ∧
      (∃ keys, parse? strayText = some (strayConfig, keys)) ∧
      strayWorld.run (Run.readConfig .off none none) =
        (.ok (.ok strayConfig), { strayWorld with errors := strayWarnings }) := by
  obtain ⟨ofParsed, ofConfig, warns, _⟩ := parse?_findsUnknown
  obtain ⟨entries, paths, isRead, areKeys, areUnknown, _, _, isRest⟩ :=
    ofParsed strayText _ _ parse?_strayText
  rw [toml_parse?_strayText] at isRead
  obtain rfl := Option.some.inj isRead
  refine ⟨parse?_strayText, ⟨paths, areKeys, areUnknown, isRest⟩,
    ofConfig strayText strayEntries strayConfig toml_parse?_strayText rfl, ?_⟩
  have isPath : strayWorld.configPath? none none = some "/etc/hubsync.toml" := rfl
  have areLines : strayWorld.errors ++ Run.warnings .off ["hub.bucket", "hub.name", "tags"] =
      strayWarnings := by
    decide +kernel
  rw [warns strayWorld .off none none _ _ _ _ isPath readFile_strayWorld parse?_strayText, areLines]

end ModelHub.Config

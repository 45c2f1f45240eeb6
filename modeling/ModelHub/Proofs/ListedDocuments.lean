import ModelHub.Hub.Listing
import ModelHub.Proofs.DecodedJson
import ModelHub.Proofs.PlanFates
import ModelHub.Proofs.WrittenJson

/-!
# Listings in files

A text is a listing exactly when it has a value that is an array of objects, or an object with such
an array under the only occurrence of the key of the records. Both forms of the same records read
alike, and a plan made from a file is the plan made from the records that it holds. Values are
nested up to a limit, which the form with the key around the array reaches one level earlier.
-/

namespace ModelHub

theorem Record.ofJson?_eq_some_iff {value : Json} {record : Record} :
    Record.ofJson? value = some record ↔ value = record.toJson := by
  obtain ⟨members⟩ := record
  cases value <;> simp [Record.ofJson?, Record.toJson, Json.asObject?]

namespace Listing

open Json (Document Piece)

/-! ## Values -/

/-- A list of records is an array whose items are all objects. -/
theorem recordsOf?_eq_some_iff {value : Json} {records : List Record} :
    recordsOf? value = some records ↔ value = .array (records.map Record.toJson) := by
  have ofItems (items : List Json) : items.mapM Record.ofJson? = some records ↔
      items = records.map Record.toJson :=
    Json.mapM_eq_some_iff_eq_map fun _ _ => Record.ofJson?_eq_some_iff
  cases value <;> simp [recordsOf?, Json.asArray?, ofItems]

/-- How often a key is written in an object. -/
def occurrences (key : String) : Document → Nat
  | .object members => members.countP fun member => Json.decodeText member.1 = some key
  | _ => 0

/-- The records that a document holds. The value of the document is the array of them, or an object
with that array under a key that is written only once. -/
def Holds (document : Document) (records : List Record) : Prop :=
  ∃ value, Json.decode Json.nestingLimit document = some value ∧
    (value = .array (records.map Record.toJson) ∨
      occurrences recordsKey document = 1 ∧
        value.get? recordsKey = some (.array (records.map Record.toJson)))

/-! ## Objects -/

section Objects

variable {depth : Nat} {members : List (List Piece × Document)} {decoded : List (String × Json)}

theorem occurrences_eq_length_filter (key : String)
    (areDecoded : List.Forall₂ (fun member found => Json.decodeMember depth member = some found)
      members decoded) :
    occurrences key (.object members) =
      (decoded.filter fun member => member.1 = key).length := by
  rw [occurrences, ← List.countP_eq_length_filter]
  induction areDecoded with
  | nil =>
      rfl
  | cons isFirst areOthers inductionHypothesis =>
      have isKey := (Json.decodeMember_eq_some_iff.1 isFirst).1
      rw [List.countP_cons, List.countP_cons, inductionHypothesis, isKey]
      simp only [Option.some.injEq]

/-- The only value that is written under a key is the one that the object holds there. -/
theorem recordsUnder?_eq_some_iff {records : List Record} :
    recordsUnder? decoded = some records ↔
      (decoded.filter fun member => member.1 = recordsKey).length = 1 ∧
        (Json.sortMembers decoded).lookup recordsKey =
          some (.array (records.map Record.toJson)) := by
  rw [Json.lookup_sortMembers]
  unfold recordsUnder?
  split
  · next key value isOnly =>
      rw [isOnly, recordsOf?_eq_some_iff]
      simp
  · next notSingle =>
      refine iff_of_false (by simp) fun both => ?_
      obtain ⟨member, isOnly⟩ := List.length_eq_one_iff.1 both.1
      exact notSingle member.1 member.2 isOnly

theorem parse?_of_object {text : String} (isObject : Document.read? text = some (.object members)) :
    parse? text =
      (members.mapM (Json.decodeMember (Json.nestingLimit - 1))).bind recordsUnder? := by
  rw [parse?, isObject]
  rfl

end Objects

/-! ## Texts -/

section Texts

variable {text : String} {records : List Record}

theorem parse?_of_not_object {document : Document} (isRead : Document.read? text = some document)
    (notObject : ∀ members, document ≠ .object members) :
    parse? text = (Json.decode Json.nestingLimit document).bind recordsOf? := by
  rw [parse?, isRead]
  cases document with
  | object members =>
      exact absurd rfl (notObject members)
  | _ => rfl

theorem holds_object_iff {members : List (List Piece × Document)} :
    Holds (.object members) records ↔
      (members.mapM (Json.decodeMember (Json.nestingLimit - 1))).bind recordsUnder? =
        some records := by
  rw [Option.bind_eq_some_iff]
  constructor
  · rintro ⟨value, isValue, isHeld⟩
    obtain ⟨decoded, rfl, areDecoded⟩ := Json.decode_object_eq_some_iff.1 isValue
    refine ⟨decoded, Json.mapM_eq_some_iff_forall₂.2 areDecoded, recordsUnder?_eq_some_iff.2 ?_⟩
    rw [← occurrences_eq_length_filter recordsKey areDecoded]
    exact isHeld.resolve_left nofun
  · rintro ⟨decoded, isDecoded, areRecords⟩
    have areDecoded := Json.mapM_eq_some_iff_forall₂.1 isDecoded
    refine ⟨_, Json.decode_object_eq_some_iff.2 ⟨decoded, rfl, areDecoded⟩, Or.inr ?_⟩
    rw [occurrences_eq_length_filter recordsKey areDecoded]
    exact recordsUnder?_eq_some_iff.1 areRecords

theorem holds_iff_of_not_object {document : Document}
    (notObject : ∀ members, document ≠ .object members) :
    Holds document records ↔
      (Json.decode Json.nestingLimit document).bind recordsOf? = some records := by
  have none : occurrences recordsKey document = 0 := by
    cases document with
    | object members =>
        exact absurd rfl (notObject members)
    | _ => rfl
  simp [Holds, none, Option.bind_eq_some_iff, recordsOf?_eq_some_iff]

/-- Reading a listing gives the records that its document holds, and nothing else. -/
theorem parse?_eq_some_iff_holds :
    parse? text = some records ↔
      ∃ document, Document.read? text = some document ∧ Holds document records := by
  cases isRead : Document.read? text with
  | none =>
      simp [parse?, isRead]
  | some document =>
      simp only [Option.some.injEq, exists_eq_left']
      by_cases isObject : ∃ members, document = .object members
      · obtain ⟨members, rfl⟩ := isObject
        rw [parse?_of_object isRead, holds_object_iff]
      · have notObject : ∀ members, document ≠ .object members := by simpa using isObject
        rw [parse?_of_not_object isRead notObject, holds_iff_of_not_object notObject]

end Texts

/-! ## Both forms -/

/-- One text is a response around the array that another text is: an object with the array under the
key of the records, and with any other members before and after it. -/
def IsAround (response bare : String) : Prop :=
  ∃ items before key after, Document.read? bare = some (.array items) ∧
    Document.read? response = some (.object (before ++ (key, .array items) :: after)) ∧
    Json.decodeText key = some recordsKey ∧
    ∀ member ∈ before ++ after, Json.decodeText member.1 ≠ some recordsKey

section Around

variable {depth : Nat} {decoded : List (String × Json)}

theorem filter_eq_nil {members : List (List Piece × Document)}
    (others : ∀ member ∈ members, Json.decodeText member.1 ≠ some recordsKey)
    (areDecoded : List.Forall₂ (fun member found => Json.decodeMember depth member = some found)
      members decoded) : (decoded.filter fun found => found.1 = recordsKey) = [] := by
  induction areDecoded with
  | nil =>
      rfl
  | cons isFirst _ inductionHypothesis =>
      obtain ⟨notFirst, notRest⟩ := List.forall_mem_cons.1 others
      rw [(Json.decodeMember_eq_some_iff.1 isFirst).1] at notFirst
      rw [List.filter_cons_of_neg (by simpa using notFirst), inductionHypothesis notRest]

/-- Of the members of a response, one is found under the key of the records. -/
theorem exists_filter_eq_singleton {before after : List (List Piece × Document)}
    {key : List Piece} {document : Document} (isKey : Json.decodeText key = some recordsKey)
    (others : ∀ member ∈ before ++ after, Json.decodeText member.1 ≠ some recordsKey)
    (areDecoded : List.Forall₂ (fun member found => Json.decodeMember depth member = some found)
      (before ++ (key, document) :: after) decoded) :
    ∃ value, Json.decode depth document = some value ∧
      (decoded.filter fun found => found.1 = recordsKey) = [(recordsKey, value)] := by
  induction before generalizing decoded with
  | nil =>
      obtain ⟨⟨foundKey, value⟩, rest, isFound, areRest, rfl⟩ :=
        List.forall₂_cons_left_iff.1 areDecoded
      obtain ⟨isFoundKey, isValue⟩ := Json.decodeMember_eq_some_iff.1 isFound
      obtain rfl : recordsKey = foundKey := Option.some.inj (isKey.symm.trans isFoundKey)
      refine ⟨value, isValue, ?_⟩
      rw [List.filter_cons_of_pos (by simp), filter_eq_nil others areRest]
  | cons member before inductionHypothesis =>
      obtain ⟨found, rest, isFound, areRest, rfl⟩ := List.forall₂_cons_left_iff.1 areDecoded
      obtain ⟨notFirst, notRest⟩ := List.forall_mem_cons.1 others
      rw [(Json.decodeMember_eq_some_iff.1 isFound).1] at notFirst
      rw [List.filter_cons_of_neg (by simpa using notFirst)]
      exact inductionHypothesis notRest areRest

/-- A response reads like the array that it is around, if it has a value. -/
theorem parse?_eq_of_isAround {response bare : String} (around : IsAround response bare)
    (hasValue : (Json.read? response).isSome) : parse? response = parse? bare := by
  obtain ⟨items, before, key, after, isBare, isResponse, isKey, others⟩ := around
  obtain ⟨value, isValue⟩ := Option.isSome_iff_exists.1 hasValue
  rw [Json.read?, isResponse, Option.bind_some] at isValue
  obtain ⟨decoded, rfl, areDecoded⟩ := Json.decode_object_eq_some_iff.1 isValue
  obtain ⟨array, isArray, isOnly⟩ := exists_filter_eq_singleton isKey others areDecoded
  have isDecoded := Json.mapM_eq_some_iff_forall₂.2 areDecoded
  have isBareArray : Json.decode Json.nestingLimit (.array items) = some array :=
    Json.decode_succ isArray
  rw [parse?_of_object isResponse, parse?_of_not_object isBare nofun, isBareArray]
  refine (congrArg (Option.bind · recordsUnder?) isDecoded).trans ?_
  rw [Option.bind_some, Option.bind_some, recordsUnder?, isOnly]

end Around

/-! ## Plans from files -/

/-- The records that a listing file with this text gives, or the failure to read it. -/
def fetched (path text : String) : Except Failure (List Record) :=
  (ofFile path (.ok text)).mapError failureOf

theorem fetched_of_parse? {text : String} {records : List Record} (path : String)
    (isRead : parse? text = some records) : fetched path text = .ok records := by
  rw [fetched, ofFile, isRead]
  rfl

theorem fetched_of_rejected {text : String} (path : String) (rejected : parse? text = none) :
    fetched path text =
      .error (Failure.because .unexpectedResponse (.malformedListing path)) := by
  rw [fetched, ofFile, rejected]
  rfl

/-- A text is a listing exactly when it has a value that holds records, and is read as just these. A
response that has a value reads like the array that it is around, and a file gives the plan that its
records give; what is no listing gives no plan at all. -/
theorem parse?_readsWhole :
    (∀ text records, parse? text = some records ↔
        ∃ document, Document.read? text = some document ∧ Holds document records) ∧
      (∀ response bare, IsAround response bare → (Json.read? response).isSome →
        parse? response = parse? bare) ∧
      (∀ path text records catalog requests, parse? text = some records →
        Plan.planFor catalog (fetched path text) requests =
          Plan.planFor catalog (.ok records) requests) ∧
      ∀ path text catalog requests, parse? text = none →
        Plan.planFor catalog (fetched path text) requests =
          .error (.listing (Failure.because .unexpectedResponse (.malformedListing path))) := by
  refine ⟨fun _ _ => parse?_eq_some_iff_holds, fun _ _ => parse?_eq_of_isAround, ?_, ?_⟩
  · intro path text records catalog requests isRead
    rw [fetched_of_parse? path isRead]
  · intro path text catalog requests rejected
    rw [fetched_of_rejected path rejected]
    rfl

/-- An array of two records, one of them empty. -/
def pairText : String := "[\x7b\"a\":[1]\x7d,\x7b\x7d]"

/-- A response around them, with a member before and two equal ones after. -/
def pairResponse : String :=
  "\x7b\"NextToken\":null,\"\\u0048ubContentSummaries\":[\x7b\"a\":[1]\x7d,\x7b\x7d]," ++
    "\"x\":0,\"x\":0\x7d"

theorem parse?_readsWhole_pair :
    parse? pairResponse = parse? pairText ∧
      Plan.planFor (fun _ => .ok "1") (fetched "listing.json" pairResponse) [⟨"m", "*"⟩] =
        Plan.planFor (fun _ => .ok "1") (.ok [⟨[("a", .array [.integer 1])]⟩, ⟨[]⟩])
          [⟨"m", "*"⟩] := by
  obtain ⟨_, readAlike, planAlike, _⟩ := parse?_readsWhole
  have around : IsAround pairResponse pairText := by
    refine ⟨[.object [([.char 'a'], .array [.number ⟨false, ['1'], none, none⟩])], .object []],
      [("NextToken".toList.map .char, .null)], .unit 0x48 :: "ubContentSummaries".toList.map .char,
      [([.char 'x'], .number ⟨false, ['0'], none, none⟩),
        ([.char 'x'], .number ⟨false, ['0'], none, none⟩)], rfl, rfl, rfl, ?_⟩
    decide +kernel
  have isAlike : parse? pairResponse = parse? pairText :=
    readAlike pairResponse pairText around (by decide +kernel)
  have isPair : parse? pairText = some [⟨[("a", .array [.integer 1])]⟩, ⟨[]⟩] := rfl
  exact ⟨isAlike, planAlike _ _ _ _ _ (isAlike.trans isPair)⟩

/-! ## Deep records -/

/-- An array in an array, and so on. -/
def nestedArray : Nat → Json
  | 0 => .array []
  | depth + 1 => .array [nestedArray depth]

def nestedDocument : Nat → Document
  | 0 => .array []
  | depth + 1 => .array [nestedDocument depth]

theorem decode_nestedDocument (depth : Nat) :
    Json.decode (depth + 1) (nestedDocument depth) = some (nestedArray depth) := by
  induction depth with
  | zero =>
      rfl
  | succ depth inductionHypothesis =>
      rw [nestedDocument, nestedArray, Json.decode_array_eq_some_iff]
      exact ⟨_, rfl, .cons inductionHypothesis .nil⟩

theorem decode_nestedDocument_eq_none (depth : Nat) :
    Json.decode depth (nestedDocument depth) = none := by
  induction depth with
  | zero =>
      rfl
  | succ depth inductionHypothesis =>
      rw [nestedDocument, Json.decode, List.mapM_cons, inductionHypothesis]
      rfl

theorem writtenAs_nestedArray (more depth : Nat) :
    Json.WrittenAs (more + (depth + 1)) (nestedArray depth) (nestedDocument depth) := by
  induction depth with
  | zero =>
      exact Json.writtenAs_array .nil
  | succ depth inductionHypothesis =>
      exact Json.writtenAs_array (.cons inductionHypothesis .nil)

theorem le_length_compact_nestedArray (depth : Nat) :
    depth ≤ (nestedArray depth).compact.toList.length := by
  induction depth with
  | zero =>
      exact Nat.zero_le _
  | succ depth inductionHypothesis =>
      have longer : (nestedArray (depth + 1)).compact =
          "[" ++ (nestedArray depth).compact ++ "]" := by
        rw [nestedArray, Json.compact, Json.compactItems, Json.compactItems]
        simp
      rw [longer]
      simp
      omega

/-- A record whose array reaches the limit of nesting. -/
def deepRecord : Record := ⟨[("a", nestedArray 124)]⟩

def deepArray : Json := .array [deepRecord.toJson]

def deepDocument : Document := .array [.object [(Json.written "a", nestedDocument 124)]]

theorem writtenAs_deepArray (more : Nat) : Json.WrittenAs (127 + more) deepArray deepDocument := by
  have isRecord : Json.WrittenAs (more + 126) deepRecord.toJson
      (.object [(Json.written "a", nestedDocument 124)]) :=
    Json.writtenAs_object (.cons ⟨rfl, writtenAs_nestedArray more 124⟩ .nil)
  rw [Nat.add_comm]
  exact Json.writtenAs_array (.cons isRecord .nil)

theorem writtenAs_deepResponse (more : Nat) :
    Json.WrittenAs (128 + more) (.object [(recordsKey, deepArray)])
      (.object [(Json.written recordsKey, deepDocument)]) := by
  have isArray := writtenAs_deepArray more
  rw [Nat.add_comm] at isArray ⊢
  exact Json.writtenAs_object (.cons ⟨rfl, isArray⟩ .nil)

theorem length_compact_singletons (key : String) (value : Json) :
    value.compact.toList.length + 2 ≤ (Json.array [value]).compact.toList.length ∧
      value.compact.toList.length + 2 ≤ (Json.object [(key, value)]).compact.toList.length := by
  constructor
  · simp [Json.compact, Json.compactItems]
  · simp [Json.compact, Json.compactMembers, Json.braced]
    omega

theorem decode_deepDocument : Json.decode Json.nestingLimit deepDocument = some deepArray := by
  refine Json.decode_array_eq_some_iff.2 ⟨_, rfl, .cons ?_ .nil⟩
  refine Json.decode_object_eq_some_iff.2 ⟨[("a", nestedArray 124)], rfl, .cons ?_ .nil⟩
  exact Json.decodeMember_eq_some_iff.2 ⟨Json.decodeText_written "a", decode_nestedDocument 124⟩

theorem decode_deepDocument_eq_none : Json.decode (Json.nestingLimit - 1) deepDocument = none := by
  refine Option.eq_none_iff_forall_ne_some.2 fun value isValue => ?_
  obtain ⟨values, _, areValues⟩ := Json.decode_array_eq_some_iff.1 isValue
  obtain ⟨record, _, isRecord, _⟩ := List.forall₂_cons_left_iff.1 areValues
  obtain ⟨decoded, _, areDecoded⟩ := Json.decode_object_eq_some_iff.1 isRecord
  obtain ⟨member, _, isMember, _⟩ := List.forall₂_cons_left_iff.1 areDecoded
  have isNested := (Json.decodeMember_eq_some_iff.1 isMember).2
  rw [decode_nestedDocument_eq_none] at isNested
  cases isNested

/-- The array of a record that reaches the limit of nesting is a listing, and the response around it
is none. -/
theorem exists_isAround_rejected :
    IsAround (Json.object [(recordsKey, deepArray)]).compact deepArray.compact ∧
      parse? deepArray.compact = some [deepRecord] ∧
      parse? (Json.object [(recordsKey, deepArray)]).compact = none := by
  have nested := le_length_compact_nestedArray 124
  have isRecordLonger : (nestedArray 124).compact.toList.length + 2 ≤
      deepRecord.toJson.compact.toList.length := (length_compact_singletons "a" (nestedArray 124)).2
  have isArrayLonger : deepRecord.toJson.compact.toList.length + 2 ≤
      deepArray.compact.toList.length := (length_compact_singletons "a" deepRecord.toJson).1
  have isResponseLonger := (length_compact_singletons recordsKey deepArray).2
  have isBare : Document.read? deepArray.compact = some deepDocument :=
    Json.Document.read?_compact writtenAs_deepArray (by omega)
  have isResponse : Document.read? (Json.object [(recordsKey, deepArray)]).compact =
      some (.object [(Json.written recordsKey, deepDocument)]) :=
    Json.Document.read?_compact writtenAs_deepResponse (by omega)
  refine ⟨⟨_, [], _, [], isBare, isResponse, Json.decodeText_written recordsKey, nofun⟩, ?_, ?_⟩
  · rw [parse?_of_not_object isBare nofun, decode_deepDocument, Option.bind_some]
    exact recordsOf?_eq_some_iff.2 rfl
  · have notDecoded : Json.decodeMember (Json.nestingLimit - 1)
        (Json.written recordsKey, deepDocument) = none := by
      refine Option.eq_none_iff_forall_ne_some.2 fun found isFound => ?_
      have isValue := (Json.decodeMember_eq_some_iff.1 isFound).2
      rw [decode_deepDocument_eq_none] at isValue
      cases isValue
    rw [parse?_of_object isResponse, List.mapM_cons, notDecoded]
    rfl

end Listing

end ModelHub

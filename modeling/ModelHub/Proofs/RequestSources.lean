import ModelHub.ModelList
import ModelHub.Proofs.ModelSpecs
import ModelHub.Proofs.RequestSpelling
import ModelHub.Proofs.WrittenJson

/-!
# Requests from a command line and from a model list

A model can be asked for by a model spec or by an entry of a model list. A model list keeps model id
and version as they are written, a model spec trims both. Where the model id is one that a model
spec can name, both ask for the same, so a batch is planned alike from either source.
-/

namespace ModelHub

/-- How an entry of a model list gives a version: it has no key for it, or null, or a text. -/
inductive GivenVersion where
  | absent
  | null
  | text (version : String)
  deriving DecidableEq, Repr

/-- A model that is asked for, and how its version is given. -/
structure Wish where
  modelId : String
  version : GivenVersion
  deriving DecidableEq, Repr

namespace Wish

/-- The wish as a model spec; without a text for the version it is the model id alone. -/
def spec (wish : Wish) : String :=
  match wish.version with
  | .absent => wish.modelId
  | .null => wish.modelId
  | .text version => wish.modelId ++ "@" ++ version

/-- The member of an entry that gives the version, if there is one. -/
def versionMembers (wish : Wish) : List (String × Json) :=
  match wish.version with
  | .absent => []
  | .null => [("version", .null)]
  | .text version => [("version", .string version)]

/-- The wish as an entry of a model list. -/
def entry (wish : Wish) : Json :=
  .object (("model_id", .string wish.modelId) :: wish.versionMembers)

/-- The text of a model list with these entries. -/
def listText (wishes : List Wish) : String := (Json.array (wishes.map entry)).compact

/-- The request that an entry of a model list stands for. -/
def listed (wish : Wish) : Request :=
  match wish.version with
  | .absent => .latest wish.modelId
  | .null => .latest wish.modelId
  | .text version => ⟨wish.modelId, version⟩

/-- A model spec can name the model id: it is not empty, has no blank characters around it, and does
not contain the mark that ends a model id. -/
structure IsNameable (wish : Wish) : Prop where
  modelId_ne : wish.modelId ≠ ""
  trimmed : Text.trim wish.modelId = wish.modelId
  noMark : '@' ∉ wish.modelId.toList

/-! ## Entries of a model list -/

/-- The member that gives the version, as it is read. -/
def versionDocuments (wish : Wish) : List (List Json.Piece × Json.Document) :=
  match wish.version with
  | .absent => []
  | .null => [(Json.written "version", .null)]
  | .text version => [(Json.written "version", .string (Json.written version))]

/-- The entry as it is read. -/
def document (wish : Wish) : Json.Document :=
  .object ((Json.written "model_id", .string (Json.written wish.modelId)) ::
    wish.versionDocuments)

theorem writtenAs_document (depth : Nat) (wish : Wish) :
    Json.WrittenAs (depth + 2) wish.entry wish.document := by
  refine Json.writtenAs_object (List.Forall₂.cons ⟨rfl, Json.writtenAs_string _⟩ ?_)
  unfold versionMembers versionDocuments
  cases wish.version with
  | absent =>
      exact List.Forall₂.nil
  | null =>
      exact List.Forall₂.cons ⟨rfl, Json.writtenAs_null⟩ List.Forall₂.nil
  | text version =>
      exact List.Forall₂.cons ⟨rfl, Json.writtenAs_string version⟩ List.Forall₂.nil

theorem readRequest?_document (wish : Wish) :
    ModelList.readRequest? wish.document = some wish.listed := by
  unfold document versionDocuments listed ModelList.readRequest?
  cases wish.version <;>
    simp [Json.fields?, Json.decodeKeys, Json.decodeText_written, Json.onlyValue?,
      Json.textField?, Json.optionalTextField?, Request.latest]

theorem mapM_readRequest?_document (wishes : List Wish) :
    (wishes.map document).mapM ModelList.readRequest? = some (wishes.map listed) := by
  induction wishes with
  | nil =>
      rfl
  | cons wish wishes inductionHypothesis =>
      rw [List.map_cons, List.mapM_cons, readRequest?_document, inductionHypothesis]
      rfl

/-- Every entry of a model list is read as it is written. -/
theorem parse?_listText (wishes : List Wish) :
    ModelList.parse? (listText wishes) = some (wishes.map listed) := by
  have areWritten (depth : Nat) : Json.WrittenAs (3 + depth) (.array (wishes.map entry))
      (.array (wishes.map document)) := by
    rw [Nat.add_comm]
    refine Json.writtenAs_array ?_
    rw [List.forall₂_map_left_iff, List.forall₂_map_right_iff, List.forall₂_same]
    exact fun wish _ => writtenAs_document depth wish
  have enough : 3 ≤ (listText wishes).toList.length + 1 := by
    simp only [listText, Json.compact, String.toList_append, List.length_append]
    have brackets : "[".toList.length = 1 ∧ "]".toList.length = 1 := ⟨rfl, rfl⟩
    omega
  have readBack : Json.Document.read? (listText wishes) = some (.array (wishes.map document)) :=
    Json.Document.read?_compact areWritten enough
  rw [ModelList.parse?, readBack]
  exact mapM_readRequest?_document wishes

/-! ## Model specs -/

variable {wish : Wish}

theorem IsNameable.ofSpec_modelId (nameable : wish.IsNameable) :
    Request.ofSpec wish.modelId = .ok (.latest wish.modelId) := by
  rw [Request.ofSpec_of_not_mem nameable.noMark, nameable.trimmed, if_neg nameable.modelId_ne,
    Request.givenVersion_of_isTrimmed Request.latestMark_isTrimmed]
  rfl

theorem IsNameable.ofSpec_version (nameable : wish.IsNameable) (version : String) :
    Request.ofSpec (wish.modelId ++ "@" ++ version) =
      .ok ⟨wish.modelId, Request.givenVersion version⟩ := by
  rw [Request.ofSpec_append nameable.noMark, nameable.trimmed, if_neg nameable.modelId_ne]

/-- A model spec is read as a request that asks for what the entry of a model list asks for. -/
theorem IsNameable.exists_ofSpec (nameable : wish.IsNameable) :
    ∃ request, Request.ofSpec wish.spec = .ok request ∧ request.AsksAlike wish.listed := by
  unfold spec listed
  cases wish.version with
  | absent =>
      exact ⟨_, nameable.ofSpec_modelId, rfl, Or.inr rfl⟩
  | null =>
      exact ⟨_, nameable.ofSpec_modelId, rfl, Or.inr rfl⟩
  | text version =>
      refine ⟨_, nameable.ofSpec_version version, rfl, ?_⟩
      unfold Request.givenVersion
      by_cases blank : Text.trim version = ""
      · rw [if_pos blank]
        have mark : Request.isLatestMark "*" = true := by decide
        refine Or.inl ⟨mark, ?_⟩
        simp [Request.isLatest, Request.isLatestMark, blank]
      · rw [if_neg blank]
        exact Or.inr (Text.trim_trim version)

/-- A batch of model specs is read as requests that ask for what a model list asks for. -/
theorem exists_ofSpecs {wishes : List Wish} (nameable : ∀ wish ∈ wishes, wish.IsNameable) :
    ∃ requests, Request.ofSpecs (wishes.map spec) = .ok requests ∧
      List.Forall₂ Request.AsksAlike requests (wishes.map listed) := by
  unfold Request.ofSpecs
  induction wishes with
  | nil =>
      exact ⟨[], rfl, List.Forall₂.nil⟩
  | cons wish wishes inductionHypothesis =>
      obtain ⟨isNameable, others⟩ := List.forall_mem_cons.1 nameable
      obtain ⟨request, isRead, alike⟩ := isNameable.exists_ofSpec
      obtain ⟨requests, areRead, allAlike⟩ := inductionHypothesis others
      refine ⟨request :: requests, ?_, List.Forall₂.cons alike allAlike⟩
      rw [List.map_cons, List.mapM_cons, isRead, areRead]
      rfl

end Wish

namespace Plan

/-- Batches of requests that ask alike are planned alike: decided at the same ordinals for the same
reasons and at versions that are the same after trimming, or the same throughout where they were
looked up, and reported at the same ordinals with the same errors. So a batch is planned alike
whether it is given as model specs or as a model list. -/
theorem planFor_spelledAlike (catalog : String → Except Failure String)
    (listing : Except Failure (List Record)) :
    (∀ requests others : List Request, List.Forall₂ Request.AsksAlike requests others →
        MadeAlike requests (planFor catalog listing requests)
          (planFor catalog listing others)) ∧
      ∀ wishes : List Wish, (∀ wish ∈ wishes, wish.IsNameable) →
        ModelList.parse? (Wish.listText wishes) = some (wishes.map Wish.listed) ∧
          ∃ requests, Request.ofSpecs (wishes.map Wish.spec) = .ok requests ∧
            MadeAlike requests (planFor catalog listing requests)
              (planFor catalog listing (wishes.map Wish.listed)) := by
  refine ⟨fun requests others alike => planFor_madeAlike catalog listing alike, ?_⟩
  intro wishes nameable
  obtain ⟨requests, areRead, alike⟩ := Wish.exists_ofSpecs nameable
  exact ⟨Wish.parse?_listText wishes, requests, areRead, planFor_madeAlike catalog listing alike⟩

/-- A version with blank characters around it, an open one and a blank one. -/
def threeWishes : List Wish :=
  [⟨"held", .text " 1.0\t"⟩, ⟨"new", .null⟩, ⟨"lost", .text " "⟩]

/-- A catalog that lists one model. -/
def listsNew (modelId : String) : Except Failure String :=
  if modelId = "new" then .ok "2" else .error (.ofKind .notFound)

theorem planFor_spelledAlike_threeWishes :
    (List.Forall₂ Request.AsksAlike [⟨"held", "1.0 "⟩, ⟨"new", " * "⟩]
        [⟨"held", "\t1.0"⟩, ⟨"new", ""⟩] ∧
      MadeAlike [⟨"held", "1.0 "⟩, ⟨"new", " * "⟩]
        (planFor listsNew (.ok []) [⟨"held", "1.0 "⟩, ⟨"new", " * "⟩])
        (planFor listsNew (.ok []) [⟨"held", "\t1.0"⟩, ⟨"new", ""⟩])) ∧
    (∀ wish ∈ threeWishes, wish.IsNameable) ∧
      threeWishes.map Wish.spec = ["held@ 1.0\t", "new", "lost@ "] ∧
      threeWishes.map Wish.listed = [⟨"held", " 1.0\t"⟩, ⟨"new", "*"⟩, ⟨"lost", " "⟩] ∧
      ∃ requests, Request.ofSpecs (threeWishes.map Wish.spec) = .ok requests ∧
        MadeAlike requests (planFor listsNew (.ok [.ofCopy "copy" ⟨"held", "0.9"⟩]) requests)
          (planFor listsNew (.ok [.ofCopy "copy" ⟨"held", "0.9"⟩])
            (threeWishes.map Wish.listed)) ∧
        planFor listsNew (.ok [.ofCopy "copy" ⟨"held", "0.9"⟩]) requests =
          .ok ⟨[⟨0, ⟨"held", "1.0"⟩, .outdated "0.9"⟩, ⟨1, ⟨"new", "2"⟩, .missing⟩],
            [⟨2, .latest "lost", .notInCatalog "lost"⟩]⟩ := by
  constructor
  · have alike : List.Forall₂ Request.AsksAlike [⟨"held", "1.0 "⟩, ⟨"new", " * "⟩]
        [⟨"held", "\t1.0"⟩, ⟨"new", ""⟩] :=
      List.Forall₂.cons ⟨rfl, Or.inr (by decide)⟩
        (List.Forall₂.cons ⟨rfl, Or.inl (by decide)⟩ List.Forall₂.nil)
    exact ⟨alike, (planFor_spelledAlike listsNew (.ok [])).1 _ _ alike⟩
  · have nameable : ∀ wish ∈ threeWishes, wish.IsNameable := by
      simp only [threeWishes, List.forall_mem_cons, List.not_mem_nil, false_implies, implies_true,
        and_true]
      exact ⟨⟨by decide, by decide, by decide⟩, ⟨by decide, by decide, by decide⟩,
        ⟨by decide, by decide, by decide⟩⟩
    obtain ⟨_, batches⟩ :=
      planFor_spelledAlike listsNew (.ok [.ofCopy "copy" ⟨"held", "0.9"⟩])
    obtain ⟨_, requests, areRead, alike⟩ := batches threeWishes nameable
    refine ⟨nameable, by decide, by decide, requests, areRead, alike, ?_⟩
    have isRead : Request.ofSpecs (threeWishes.map Wish.spec) =
        .ok [⟨"held", "1.0"⟩, .latest "new", .latest "lost"] := by decide
    obtain rfl := Except.ok.inj (areRead.symm.trans isRead)
    decide

end Plan

end ModelHub

import ModelHub.Proofs.RequestSources
import ModelHub.Proofs.SyncConvergence

/-!
# Recognising what was synced

A model that was imported is found again under its id only if the keywords that were sent for it are
read back as that id. They are read back trimmed, and a blank id is none. So a request that was
given as a model spec is recognised after it was synced; one from a model list is recognised exactly
when its id has no blank characters around it and is not empty, and otherwise it is missing from
every listing.
-/

namespace ModelHub

/-- No listing has a copy of a model whose id is not trimmed. -/
theorem copiesOf_eq_nil {modelId : String} (notTrimmed : ¬ Text.IsTrimmed modelId)
    (records : List Record) : copiesOf modelId records = [] := by
  rw [List.eq_nil_iff_forall_not_mem]
  intro entry copy
  obtain ⟨_, _, _, tagged⟩ := mem_copiesOf_iff.1 copy
  obtain ⟨tag, carried, rfl⟩ := Entry.isCopyOf_iff.1 tagged
  exact notTrimmed (Tag.isTrimmed_of_ofKeywords? carried)

/-! ## Requests that are recognised -/

namespace Request

/-- After the request was synced, its model is found again: the keywords that were sent are read
back as the id of the model, and a listing with the imported entry has it indexed under that id. -/
structure IsRecognised (request : Request) : Prop where
  readBack : ∃ keywords tag, (Hub.importBody request).get? "HubContentSearchKeywords" =
      some (.array (keywords.map .string)) ∧
    Tag.ofKeywords? keywords = some tag ∧ tag.modelId = request.modelId
  indexed (records : List Record) : (∃ record ∈ records, record.IsImportOf request) →
    (Index.ofRecords records).contains request.modelId = true

variable {request : Request}

theorem IsRecognised.isTrimmed (recognised : request.IsRecognised) :
    Text.IsTrimmed request.modelId := by
  obtain ⟨keywords, tag, _, carried, sameModel⟩ := recognised.readBack
  rw [← sameModel]
  exact Tag.isTrimmed_of_ofKeywords? carried

theorem isRecognised_of_isTrimmed (request : Request) (trimmed : Text.IsTrimmed request.modelId)
    (isVersion : ∃ wanted, Version.parse? request.version = some wanted) :
    request.IsRecognised := by
  have resolved : request.IsResolved := ⟨trimmed.ne_empty, trimmed.trim_eq, isVersion⟩
  constructor
  · have imported := Record.isImportOf_ofCopy "copy" request
    obtain ⟨entry, readable, _, keywords⟩ := imported.exists_entry
    obtain ⟨found, tag, isFound, tagged, sameModel, _⟩ := imported.exists_copy resolved
    obtain rfl : entry = found := Option.some.inj (readable.symm.trans isFound)
    rw [Entry.tag?, keywords] at tagged
    exact ⟨_, tag, rfl, tagged, sameModel⟩
  · intro records listed
    obtain ⟨record, member, imported⟩ := listed
    obtain ⟨entry, tag, readable, tagged, sameModel, _⟩ := imported.exists_copy resolved
    have copy : entry ∈ copiesOf request.modelId records :=
      mem_copiesOf_iff.2 ⟨record, member, readable,
        Entry.isCopyOf_iff.2 ⟨tag, tagged, sameModel⟩⟩
    obtain ⟨held, isHeld, _⟩ := Decision.exists_get?_ofRecords (List.ne_nil_of_mem copy)
    rw [Index.contains, isHeld]
    rfl

/-- A request given as a model spec is recognised after it was synced, at whatever version. One from
a model list, where any id is accepted, is recognised exactly when its id is trimmed and not empty,
and otherwise it is missing from every listing. -/
theorem isRecognised_of_given (version : String)
    (isVersion : ∃ wanted, Version.parse? version = some wanted) :
    (∀ spec request, ofSpec spec = .ok request → (request.withVersion version).IsRecognised) ∧
      (∀ text list request, ModelList.parse? text = some list → request ∈ list →
        ((request.withVersion version).IsRecognised ↔ Text.IsTrimmed request.modelId) ∧
          (¬ Text.IsTrimmed request.modelId → ∀ records,
            Decision.reason? (Index.ofRecords records) (request.withVersion version) =
              some .missing)) ∧
      ∀ request, ∃ text, ModelList.parse? text = some [request] := by
  refine ⟨?_, ?_, ?_⟩
  · intro spec request isRead
    have trimmed : Text.IsTrimmed request.modelId := (isCanonical_of_ofSpec isRead).modelId
    exact isRecognised_of_isTrimmed (request.withVersion version) trimmed isVersion
  · intro text list request _ _
    refine ⟨⟨fun recognised => recognised.isTrimmed, fun trimmed => ?_⟩,
      fun notTrimmed records => ?_⟩
    · exact isRecognised_of_isTrimmed (request.withVersion version) trimmed isVersion
    · exact Decision.reason?_ofRecords_eq_missing_iff.2 (copiesOf_eq_nil notTrimmed records)
  · intro request
    exact ⟨_, Wish.parse?_listText [⟨request.modelId, .text request.version⟩]⟩

/-- A model list with blank characters around the id. -/
def paddedList : String := "[\x7b\"model_id\":\" m1 \",\"version\":\"1.0.0\"\x7d]"

theorem isRecognised_of_given_padded :
    (∃ wanted, Version.parse? "1.0.0" = some wanted) ∧
      ofSpec " m1 @2" = .ok ⟨"m1", "2"⟩ ∧ (⟨"m1", "1.0.0"⟩ : Request).IsRecognised ∧
      ModelList.parse? paddedList = some [⟨" m1 ", "1.0.0"⟩] ∧
      ∀ records, Decision.reason? (Index.ofRecords records) ⟨" m1 ", "1.0.0"⟩ =
        some .missing := by
  have isVersion : ∃ wanted, Version.parse? "1.0.0" = some wanted := ⟨_, rfl⟩
  have isRead : ofSpec " m1 @2" = .ok ⟨"m1", "2"⟩ := by decide
  have isListed : ModelList.parse? paddedList = some [⟨" m1 ", "1.0.0"⟩] := by decide +kernel
  have notTrimmed : ¬ Text.IsTrimmed " m1 " := fun trimmed =>
    absurd trimmed.trim_eq (by decide)
  obtain ⟨ofSpecs, ofLists, _⟩ := isRecognised_of_given "1.0.0" isVersion
  obtain ⟨_, isMissing⟩ := ofLists paddedList _ _ isListed (List.mem_singleton_self _)
  exact ⟨isVersion, isRead, ofSpecs _ _ isRead, isListed, isMissing notTrimmed⟩

/-- A request is accepted from a model list that is not recognised after it was synced: the hub
lists what was sent for it, and the model is missing all the same. -/
theorem exists_not_isRecognised :
    ModelList.parse? paddedList = some [⟨" m1 ", "1.0.0"⟩] ∧
      (∃ wanted, Version.parse? "1.0.0" = some wanted) ∧
      Tag.ofKeywords? (Tag.keywords ⟨" m1 ", "1.0.0"⟩) = some ⟨"m1", "1.0.0"⟩ ∧
      ¬ (⟨" m1 ", "1.0.0"⟩ : Request).IsRecognised ∧
      (Record.ofCopy "m1" ⟨" m1 ", "1.0.0"⟩).IsImportOf ⟨" m1 ", "1.0.0"⟩ ∧
      Decision.reason? (Index.ofRecords [.ofCopy "m1" ⟨" m1 ", "1.0.0"⟩]) ⟨" m1 ", "1.0.0"⟩ =
        some .missing := by
  refine ⟨by decide +kernel, ⟨_, rfl⟩, by decide, ?_, ?_, by decide⟩
  · intro recognised
    exact absurd recognised.isTrimmed.trim_eq (by decide)
  · exact Record.isImportOf_ofCopy "m1" ⟨" m1 ", "1.0.0"⟩

end Request

end ModelHub

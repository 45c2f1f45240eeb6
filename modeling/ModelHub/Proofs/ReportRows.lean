import ModelHub.Json.Shape
import ModelHub.Proofs.TableLayout
import ModelHub.Proofs.WrittenJson
import ModelHub.Report

/-!
# What reports show

A report on decisions or on synced models shows every one of them once and in order. As a table it
has a row of cells for each of them, laid out under the titles of the columns. As JSON it is read
back as an array with an object for each of them, in which each of its parts has a key.
-/

namespace ModelHub

/-! ## Parts of documents -/

namespace Json.Document

/-- What stands under a key of an object that has the key once. -/
def member? (key : String) : Document → Option Document
  | .object members =>
    match members.filter fun member => decodeText member.1 = some key with
    | [member] => some member.2
    | _ => none
  | _ => none

/-- What stands under a row of keys, each one in the object under the key before it. -/
def at? : List String → Document → Option Document
  | [], document => some document
  | key :: path, document => (document.member? key).bind (at? path)

/-- A number that is written with digits alone. -/
def natural? : Document → Option Nat
  | .number ⟨false, digits, none, none⟩ => some (Text.ofDigits digits)
  | _ => none

def textAt? (path : List String) (document : Document) : Option String :=
  (document.at? path).bind textField?

def naturalAt? (path : List String) (document : Document) : Option Nat :=
  (document.at? path).bind natural?

@[simp]
theorem natural?_naturalNumeral (value : Nat) :
    natural? (.number (naturalNumeral value)) = some value :=
  congrArg some (ofDigits_repr value)

@[simp]
theorem textField?_written (text : String) : textField? (.string (written text)) = some text :=
  decodeText_written text

end Json.Document

/-! ## Rows -/

namespace Report

/-- The text shows rows in a format: it is laid out as a table with a row of cells for each of them,
or it is JSON with an array of an object for each of them. -/
inductive Shows {row : Type} (columns : List Column) (cells : row → List String)
    (isObject : row → Json.Document → Prop) (rows : List row) : OutputFormat → String → Prop
  | table {text : String} {lines : List (List Char)} :
      Table.IsLaidOut ⟨columns, rows.map cells, true⟩ lines text.toList →
      Shows columns cells isObject rows .table text
  | headerlessTable {text : String} {lines : List (List Char)} :
      Table.IsLaidOut ⟨columns, rows.map cells, false⟩ lines text.toList →
      Shows columns cells isObject rows .headerlessTable text
  | json {text : String} {documents : List Json.Document} :
      Json.Document.read? text = some (.array documents) →
      List.Forall₂ isObject rows documents →
      Shows columns cells isObject rows .json text

section Rows

variable {row : Type} {columns : List Column} {cells : row → List String}
  {isObject : row → Json.Document → Prop} {toJson : row → Json} {toDocument : row → Json.Document}

/-- An array is read back from its indented text if its items are. -/
theorem read?_pretty_array {rows : List row}
    (isWritten : ∀ item depth, Json.WrittenAs (depth + 3) (toJson item) (toDocument item)) :
    Json.Document.read? ((Json.array (rows.map toJson)).pretty ++ "\n") =
      some (.array (rows.map toDocument)) := by
  have areWritten (more : Nat) : Json.WrittenAs (4 + more) (.array (rows.map toJson))
      (.array (rows.map toDocument)) := by
    rw [Nat.add_comm]
    refine Json.writtenAs_array ?_
    rw [List.forall₂_map_left_iff, List.forall₂_map_right_iff, List.forall₂_same]
    exact fun item _ => isWritten item more
  have enough : 4 ≤ ((Json.array (rows.map toJson)).pretty ++ "\n").toList.length + 1 := by
    have brackets := Json.two_le_length_block "[" "]" rfl rfl 0
      (Json.prettyItems 1 (rows.map toJson))
    have isBlock : (Json.array (rows.map toJson)).pretty =
        Json.block "[" "]" 0 (Json.prettyItems 1 (rows.map toJson)) := by
      rw [Json.pretty, Json.prettyAt]
    rw [isBlock, String.toList_append, List.length_append]
    have lineFeed : "\n".toList.length = 1 := rfl
    omega
  exact Json.Document.read?_pretty areWritten enough

/-- A report shows its rows if each of them has a cell for every column and is read back from its
JSON. -/
theorem shows_render (rows : List row) (matching : ∀ item, (cells item).length = columns.length)
    (isWritten : ∀ item depth, Json.WrittenAs (depth + 3) (toJson item) (toDocument item))
    (isObject_toDocument : ∀ item, isObject item (toDocument item)) (format : OutputFormat) :
    Shows columns cells isObject rows format
      (render ⟨columns, rows.map cells, .array (rows.map toJson)⟩ format) := by
  have allMatching : ∀ line ∈ rows.map cells, line.length = columns.length :=
    List.forall_mem_map.2 fun item _ => matching item
  cases format with
  | table =>
      exact .table (Table.isLaidOut_joinCells allMatching)
  | headerlessTable =>
      exact .headerlessTable (Table.isLaidOut_joinCells allMatching)
  | json =>
      refine .json (read?_pretty_array isWritten) ?_
      rw [List.forall₂_map_right_iff, List.forall₂_same]
      exact fun item _ => isObject_toDocument item

end Rows

end Report

/-! ## Decisions -/

open Json (written)

open Json.Document

namespace Decision

/-- The object gives the place of the decision, its request, the kind of its reason, and the version
of the hub where it is the reason. -/
structure IsShownBy (decision : Decision) (document : Json.Document) : Prop where
  ordinal : document.naturalAt? ["ordinal"] = some decision.ordinal
  modelId : document.textAt? ["request", "model_id"] = some decision.request.modelId
  version : document.textAt? ["request", "version"] = some decision.request.version
  kind : document.textAt? ["reason", "kind"] = some decision.reason.kind
  hubVersion : document.textAt? ["reason", "hub_version"] =
    match decision.reason with
    | .outdated hubVersion => some hubVersion
    | _ => none

/-- A text shows decisions: each with its place, its model, its version and the words for its
reason in a table. -/
def AreShown (decisions : List Decision) : OutputFormat → String → Prop :=
  Report.Shows
    [⟨"ORDINAL", .right⟩, ⟨"MODEL", .left⟩, ⟨"VERSION", .left⟩, ⟨"REASON", .left⟩]
    (fun decision => [Nat.repr decision.ordinal, decision.request.modelId,
      decision.request.version, decision.reason.message])
    IsShownBy decisions

end Decision

/-- A reason as it is read. -/
def Reason.toDocument (reason : Reason) : Json.Document :=
  .object ((written "kind", .string (written reason.kind)) ::
    match reason with
    | .outdated hubVersion => [(written "hub_version", .string (written hubVersion))]
    | _ => [])

def Request.toDocument (request : Request) : Json.Document :=
  .object [(written "model_id", .string (written request.modelId)),
    (written "version", .string (written request.version))]

def Decision.toDocument (decision : Decision) : Json.Document :=
  .object [(written "ordinal", .number (Json.naturalNumeral decision.ordinal)),
    (written "request", decision.request.toDocument),
    (written "reason", decision.reason.toDocument)]

theorem Request.writtenAs_toDocument (request : Request) (depth : Nat) :
    Json.WrittenAs (depth + 2) request.toJson request.toDocument :=
  Json.writtenAs_object (.cons ⟨rfl, Json.writtenAs_string _⟩
    (.cons ⟨rfl, Json.writtenAs_string _⟩ .nil))

theorem Reason.writtenAs_toDocument (reason : Reason) (depth : Nat) :
    Json.WrittenAs (depth + 2) reason.toJson reason.toDocument := by
  refine Json.writtenAs_object (.cons ⟨rfl, Json.writtenAs_string _⟩ ?_)
  cases reason with
  | outdated hubVersion =>
      exact .cons ⟨rfl, Json.writtenAs_string hubVersion⟩ .nil
  | missing =>
      exact .nil
  | hubVersionUnknown =>
      exact .nil
  | requestedVersionUnknown =>
      exact .nil

namespace Decision

theorem writtenAs_toDocument (decision : Decision) (depth : Nat) :
    Json.WrittenAs (depth + 3) decision.toJson decision.toDocument :=
  Json.writtenAs_object (.cons ⟨rfl, Json.writtenAs_natural decision.ordinal⟩
    (.cons ⟨rfl, decision.request.writtenAs_toDocument depth⟩
      (.cons ⟨rfl, decision.reason.writtenAs_toDocument depth⟩ .nil)))

theorem isShownBy_toDocument (decision : Decision) : decision.IsShownBy decision.toDocument := by
  obtain ⟨ordinal, request, reason⟩ := decision
  constructor
  case ordinal =>
    simp [toDocument, naturalAt?, at?, member?]
  case modelId =>
    simp [toDocument, Request.toDocument, textAt?, at?, member?]
  case version =>
    simp [toDocument, Request.toDocument, textAt?, at?, member?]
  case kind =>
    cases reason <;> simp [toDocument, Reason.toDocument, textAt?, at?, member?]
  case hubVersion =>
    cases reason <;> simp [toDocument, Reason.toDocument, textAt?, at?, member?]

/-- The report on decisions shows them. -/
theorem areShown_render (decisions : List Decision) (format : OutputFormat) :
    AreShown decisions format ((Report.ofDecisions decisions).render format) :=
  Report.shows_render decisions (fun _ => rfl) writtenAs_toDocument isShownBy_toDocument format

end Decision

/-! ## Synced models -/

namespace SyncedModel

/-- The object gives the place of the model in the batch, the model, its version, what became of it,
and the error where there is one. -/
structure IsShownBy (model : SyncedModel) (document : Json.Document) : Prop where
  ordinal : document.naturalAt? ["ordinal"] = some model.ordinal
  modelId : document.textAt? ["model_id"] = some model.modelId
  version : document.textAt? ["version"] = some model.version
  status : document.textAt? ["status"] = some model.status.name
  error : document.textAt? ["error"] = model.error

/-- A text shows synced models: each with its place, its model, its version and what became of it
in a table. -/
def AreShown (models : List SyncedModel) : OutputFormat → String → Prop :=
  Report.Shows
    [⟨"ORDINAL", .right⟩, ⟨"MODEL", .left⟩, ⟨"VERSION", .left⟩, ⟨"STATUS", .left⟩]
    (fun model => [Nat.repr model.ordinal, model.modelId, model.version, model.status.name])
    IsShownBy models

/-- A synced model as it is read. -/
def toDocument (model : SyncedModel) : Json.Document :=
  .object
    ([(written "ordinal", .number (Json.naturalNumeral model.ordinal)),
        (written "model_id", .string (written model.modelId)),
        (written "version", .string (written model.version)),
        (written "status", .string (written model.status.name))]
      ++ (match model.error with
          | none => []
          | some error => [(written "error", .string (written error))]))

theorem writtenAs_toDocument (model : SyncedModel) (depth : Nat) :
    Json.WrittenAs (depth + 3) model.toJson model.toDocument := by
  refine Json.writtenAs_object (.cons ⟨rfl, Json.writtenAs_natural model.ordinal⟩
    (.cons ⟨rfl, Json.writtenAs_string _⟩ (.cons ⟨rfl, Json.writtenAs_string _⟩
      (.cons ⟨rfl, Json.writtenAs_string _⟩ ?_))))
  cases model.error with
  | none =>
      exact .nil
  | some error =>
      exact .cons ⟨rfl, Json.writtenAs_string error⟩ .nil

theorem isShownBy_toDocument (model : SyncedModel) : model.IsShownBy model.toDocument := by
  obtain ⟨ordinal, modelId, version, status, error⟩ := model
  cases error <;> constructor <;> simp [toDocument, naturalAt?, textAt?, at?, member?]

/-- The report on synced models shows them. -/
theorem areShown_render (models : List SyncedModel) (format : OutputFormat) :
    AreShown models format ((Report.ofSynced models).render format) :=
  Report.shows_render models (fun _ => rfl) writtenAs_toDocument isShownBy_toDocument format

end SyncedModel

end ModelHub

import ModelHub.Hub.Record
import ModelHub.Hub.Tag
import ModelHub.Version

/-!
# Hub entries

An entry is what a record says about one model in the hub. A record is readable when its name is a
string and its keywords, if it has any, are a list of strings. Only name, version and keywords
decide anything; the other fields are carried along for display.
-/

namespace ModelHub

/-- One model in the hub. -/
structure Entry where
  name : String
  version : Option String
  keywords : List String
  arn : Option Json
  contentType : Option Json
  creationTime : Option Json
  status : Option Json
  schemaVersion : Option Json
  deriving Repr

namespace Entry

/-- The key of the name. -/
def nameKey : String := "HubContentName"

/-- The key of the version that the hub records. -/
def versionKey : String := "HubContentVersion"

/-- The key of the keywords. -/
def keywordsKey : String := "HubContentSearchKeywords"

/-- The key of the resource name. -/
def arnKey : String := "HubContentArn"

/-- The key of the kind of content. -/
def contentTypeKey : String := "HubContentType"

/-- The key of the time of creation. -/
def creationTimeKey : String := "CreationTime"

/-- The key of the status. -/
def statusKey : String := "HubContentStatus"

/-- The key of the version of the schema. -/
def schemaVersionKey : String := "DocumentSchemaVersion"

/-- A field that is carried along; null counts as missing. -/
def carried? (record : Record) (key : String) : Option Json :=
  match record.get? key with
  | none => none
  | some .null => none
  | some value => some value

/-- The keywords of a record, if it has none or a list of strings. -/
def readKeywords? (record : Record) : Option (List String) :=
  match record.get? keywordsKey with
  | none => some []
  | some value => value.asArray?.bind fun items => items.mapM Json.asString?

/-- The entry that a record describes, if it is readable. A version that is no string is no
version. -/
def ofRecord? (record : Record) : Option Entry :=
  match (record.get? nameKey).bind Json.asString?, readKeywords? record with
  | some name, some keywords =>
    some
      { name := name
        version := (record.get? versionKey).bind Json.asString?
        keywords := keywords
        arn := carried? record arnKey
        contentType := carried? record contentTypeKey
        creationTime := carried? record creationTimeKey
        status := carried? record statusKey
        schemaVersion := carried? record schemaVersionKey }
  | _, _ => none

/-- The catalog model that the entry was copied from, if its keywords say so. -/
def tag? (entry : Entry) : Option Tag := Tag.ofKeywords? entry.keywords

/-- The version that the hub records for the entry, trimmed; a blank one is none. -/
def recordedVersion? (entry : Entry) : Option String :=
  (entry.version.map Text.trim).filter fun version => !version.isEmpty

/-- The version that the hub records for the entry, if it can be compared. -/
def version? (entry : Entry) : Option Version :=
  entry.recordedVersion?.bind Version.parse?

end Entry

end ModelHub

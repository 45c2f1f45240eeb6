import ModelHub.Json.Value

/-!
# Records

A record is one item of a hub listing as the hub sent it, before any of it is interpreted: a JSON
object with any keys.
-/

namespace ModelHub

/-- An item of a hub listing, as its keys and values. -/
structure Record where
  members : List (String × Json)
  deriving Repr

namespace Record

def get? (record : Record) (key : String) : Option Json :=
  record.members.lookup key

def toJson (record : Record) : Json := .object record.members

def ofJson? (value : Json) : Option Record :=
  value.asObject?.map Record.mk

end Record

end ModelHub

import Slipway.Resource.Metadata
import Slipway.Resource.Reference

/-
  Records that nothing here looks into, and that are kept as they come. A schema tells the form of a
  value: what values there are, how they are read, and how they are written. It is data, so that the
  many records of the platform that are made up of each other are a table
  (`Slipway.Resource.Details`), and what holds of all of them is shown along the schema.
-/

namespace Slipway

mutual

/-- The form of a value in JSON. -/
inductive Schema where
  | text
  | flag
  | int32
  | int64
  /-- A port by number or by name. -/
  | port
  /-- Texts by name. -/
  | attributes
  | metadata
  | list (item : Schema)
  | record (fields : Schema.Fields)

/-- The fields of a record. One that is required is always written; where it is absent or null, it
    is read as a blank value. An optional one is not written if nothing is there. -/
inductive Schema.Fields where
  | nil
  | required (name : String) (schema : Schema) (rest : Schema.Fields)
  | optional (name : String) (schema : Schema) (rest : Schema.Fields)

end

namespace Schema

/-- Fields of which the first are required and the others optional. -/
def Fields.of (needed others : List (String × Schema)) : Fields :=
  needed.foldr (fun e => .required e.1 e.2) (others.foldr (fun e => .optional e.1 e.2) .nil)

/-- A record of required and optional fields. -/
def object (needed others : List (String × Schema)) : Schema := record (.of needed others)

/-! ## Values -/

mutual

def Value : Schema → Type
  | text => String
  | flag => Bool
  | int32 => Int32
  | int64 => Int64
  | port => PortReference
  | attributes => Attributes
  | metadata => Metadata
  | list item => List item.Value
  | record fields => fields.Values

def Fields.Values : Fields → Type
  | .nil => Unit
  | .required _ s rest => s.Value × rest.Values
  | .optional _ s rest => Option s.Value × rest.Values

end

mutual

/-- What a required field is read as where it is left out. -/
def blank : (s : Schema) → s.Value
  | text => ""
  | flag => false
  | int32 => (0 : Int32)
  | int64 => (0 : Int64)
  | port => PortReference.number 0
  | attributes => (∅ : Attributes)
  | metadata => ({} : Metadata)
  | list _ => []
  | record fields => fields.blank

def Fields.blank : (fs : Fields) → fs.Values
  | .nil => ()
  | .required _ s rest => (s.blank, rest.blank)
  | .optional _ _ rest => (none, rest.blank)

end

/-! ## JSON -/

mutual

def read? : (s : Schema) → Json → Option s.Value
  | text => Json.string?
  | flag => Json.bool?
  | int32 => Json.int32?
  | int64 => Json.int64?
  | port => PortReference.read?
  | attributes => Json.attributes?
  | metadata => Metadata.read?
  | list item => Json.listOf? item.read?
  | record fields => fun j => do fields.read? (← Json.named? j)

def Fields.read? : (fs : Fields) → Json.Fields → Option fs.Values
  | .nil, _ => some ()
  | .required name s rest, f => do
    pure (← Json.lenient s.blank s.read? (f name), ← rest.read? f)
  | .optional name s rest, f => do
    pure (← Json.optional s.read? (f name), ← rest.read? f)

end

mutual

def toJson : (s : Schema) → s.Value → Json
  | text => .string
  | flag => .bool
  | int32 => Json.ofInt32
  | int64 => Json.ofInt64
  | port => PortReference.toJson
  | attributes => Json.ofAttributes
  | metadata => Metadata.toJson
  | list item => Json.ofList item.toJson
  | record fields => fun v => Json.ofMembers (fields.members v)

def Fields.members : (fs : Fields) → fs.Values → List Json.Member
  | .nil, _ => []
  | .required name s rest, v => Json.member name (s.toJson v.1) :: rest.members v.2
  | .optional name s rest, v => Json.memberOf name s.toJson v.1 :: rest.members v.2

end

mutual

/-- As the platform keeps a value: times in whole seconds. -/
def stored : (s : Schema) → s.Value → s.Value
  | metadata => Metadata.stored
  | list item => List.map item.stored
  | record fields => fields.stored
  | text | flag | int32 | int64 | port | attributes => id

def Fields.stored : (fs : Fields) → fs.Values → fs.Values
  | .nil => id
  | .required _ s rest => fun v => (s.stored v.1, rest.stored v.2)
  | .optional _ s rest => fun v => (v.1.map s.stored, rest.stored v.2)

end

end Schema

end Slipway

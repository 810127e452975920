import Slipway.Json

/-
  Records in JSON. A record is read from an object by the names of its fields, or from an array
  by their positions; fields that the record does not have are passed over. How an absent or null
  field is taken is the choice of the reader of that field.
-/

namespace Slipway.Json

/-- The fields present, by name. -/
abbrev Fields := String → Option Json

/-- The fields of a record whose field names are `names`, in their order. -/
def record? (names : List String) : Json → Option Fields
  | object fields => some fun name => fields.lookup name
  | array items =>
    if items.length ≤ names.length then some fun name => (names.zip items).lookup name else none
  | _ => none

/-- The fields of a record that is written as an object only. -/
def named? : Json → Option Fields
  | object fields => some fun name => fields.lookup name
  | _ => none

/-- A field that may be absent or null. -/
def optional (read : Json → Option α) : Option Json → Option (Option α)
  | none => some none
  | some null => some none
  | some j => (read j).map some

/-- A field that may be absent; a null is read as any value is. -/
def defaulted (default : α) (read : Json → Option α) : Option Json → Option α
  | none => some default
  | some j => read j

/-- A field that may be absent or null, and is `default` then. -/
def lenient (default : α) (read : Json → Option α) : Option Json → Option α
  | none => some default
  | some null => some default
  | some j => read j

def required (read : Json → Option α) : Option Json → Option α
  | none => none
  | some j => read j

/-- The name of a variant without content: a string, or an object of that one name with null. -/
def variant? : Json → Option String
  | string s => some s
  | object [(s, null)] => some s
  | _ => none

/-- JSON that a field can be told with: a null is read as a field that is left out. -/
structure Told where
  json : Json
  isTold : json.isNull = false

def told? (j : Json) : Option Told := if h : j.isNull = false then some ⟨j, h⟩ else none

/-- A field to be written, or nothing. -/
abbrev Member := Option (String × Json)

def member (name : String) (value : Json) : Member := some (name, value)

def memberOf (name : String) (write : α → Json) (value : Option α) : Member :=
  value.map fun a => (name, write a)

/-- Written unless empty. -/
def memberOfList (name : String) (write : α → Json) (values : List α) : Member :=
  if values.isEmpty then none else some (name, array (values.map write))

def ofMembers (ms : List Member) : Json := object (ms.filterMap id)

def ofList (write : α → Json) (values : List α) : Json := array (values.map write)

def ofInt32 (n : Int32) : Json := int n.toInt
def ofInt64 (n : Int64) : Json := int n.toInt

end Slipway.Json

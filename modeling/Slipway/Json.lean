import Slipway.Dict

/-
  JSON values. A number written as an integer is kept as one; any other number is kept as it is
  spelled, because nothing here computes with it.
-/

namespace Slipway

inductive Json where
  | null
  | bool (b : Bool)
  | int (n : Int)
  | real (spelling : String)
  | string (s : String)
  | array (items : List Json)
  | object (fields : List (String × Json))

namespace Json

instance : Inhabited Json := ⟨null⟩

def isNull : Json → Bool
  | null => true
  | _ => false

def bool? : Json → Option Bool
  | bool b => some b
  | _ => none

def int? : Json → Option Int
  | int n => some n
  | _ => none

def string? : Json → Option String
  | string s => some s
  | _ => none

def array? : Json → Option (List Json)
  | array items => some items
  | _ => none

def object? : Json → Option (List (String × Json))
  | object fields => some fields
  | _ => none

/-- The value of a field; `null` where there is no such field. -/
def field (j : Json) (name : String) : Json :=
  match j with
  | object fields => (fields.lookup name).getD null
  | _ => null

/-- Sets a field, in the place of one of the same name if there is one. -/
def setField (name : String) (value : Json) : List (String × Json) → List (String × Json)
  | [] => [(name, value)]
  | e :: es => if e.1 = name then (name, value) :: es else e :: setField name value es

def listOf? (read : Json → Option α) : Json → Option (List α)
  | array items => items.mapM read
  | _ => none

def dictOf? (read : Json → Option α) : Json → Option (Dict α)
  | object fields => do
    pure (Dict.ofList (← fields.mapM fun e => do pure (e.1, ← read e.2)))
  | _ => none

def attributes? : Json → Option Attributes := dictOf? string?

def int32? (j : Json) : Option Int32 := do
  let n ← j.int?
  if Int32.minValue.toInt ≤ n ∧ n ≤ Int32.maxValue.toInt then some (Int32.ofInt n) else none

def int64? (j : Json) : Option Int64 := do
  let n ← j.int?
  if Int64.minValue.toInt ≤ n ∧ n ≤ Int64.maxValue.toInt then some (Int64.ofInt n) else none

/-- A natural number below a limit. -/
def natBelow? (limit : Nat) (j : Json) : Option Nat := do
  let n ← j.int?
  if 0 ≤ n ∧ n < limit then some n.toNat else none

def ofAttributes (d : Attributes) : Json :=
  object (d.toList.map fun e => (e.1, string e.2))

def ofOption (write : α → Json) : Option α → Json
  | none => null
  | some a => write a

end Json

end Slipway

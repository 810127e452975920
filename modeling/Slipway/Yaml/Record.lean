import Slipway.Text.Decimal
import Slipway.Text.Hexadecimal
import Slipway.Yaml.Node

/-
  Values and records in YAML. A plain scalar is read as the type that is wanted: as text whatever
  it says, as a truth value or an integer in the spellings of the core schema only.
-/

namespace Slipway.Yaml

def coreTag (name : String) : Option String := some ("tag:yaml.org,2002:" ++ name)

def isNullWord (s : String) : Bool := ["null", "Null", "NULL", "~"].contains s

/-- Whether a scalar may be other than text: a plain one may, and a literal one with the tag. -/
def Scalar.isTyped (s : Scalar) (typeName : String) : Bool :=
  s.style = .plain || (s.style = .literal && s.tag == coreTag typeName)

namespace Document

def text? (d : Document) (n : Node) : Option String :=
  match d.resolve n with
  | some (.scalar s) => some s.text
  | _ => none

def bool? (d : Document) (n : Node) : Option Bool :=
  match d.resolve n with
  | some (.scalar s) =>
    if !s.isTyped "bool" then none
    else if ["true", "True", "TRUE"].contains s.text then some true
    else if ["false", "False", "FALSE"].contains s.text then some false
    else none
  | _ => none

def digitIn? (base : Nat) (c : Char) : Option Nat := do
  let n ← Text.hexDigitValue? c
  if n < base then some n else none

/-- The value of a numeral in a base: one digit or more. -/
def numeral? (base : Nat) (cs : List Char) : Option Nat :=
  if cs.isEmpty then none else cs.foldlM (fun n c => (digitIn? base c).map (n * base + ·)) 0

/-- A decimal numeral does not begin with a zero that more digits follow. -/
def decimal? (cs : List Char) : Option Nat :=
  if cs.length ≠ 1 ∧ cs.head? = some '0' then none else numeral? 10 cs

/-- A natural number in base 16, 8, 2 or 10. -/
def magnitude? : List Char → Option Nat
  | '0' :: 'x' :: cs => numeral? 16 cs
  | '0' :: 'o' :: cs => numeral? 8 cs
  | '0' :: 'b' :: cs => numeral? 2 cs
  | cs => decimal? cs

def integer? (s : String) : Option Int :=
  match s.toList with
  | '-' :: cs => (magnitude? cs).map fun n => -(n : Int)
  | '+' :: cs => (magnitude? cs).map fun n => (n : Int)
  | cs => (magnitude? cs).map fun n => (n : Int)

def int32? (d : Document) (n : Node) : Option Int32 :=
  match d.resolve n with
  | some (.scalar s) => do
    if !s.isTyped "int" then none
    else
      let n ← integer? s.text
      if Int32.minValue.toInt ≤ n ∧ n ≤ Int32.maxValue.toInt then some (Int32.ofInt n) else none
  | _ => none

/-- A value that may be missing: nothing at all, or a plain null. With the tag for null a scalar
    must be a null. -/
def optional? (d : Document) (read : Node → Option α) (n : Node) : Option (Option α) := do
  let n ← d.resolve n
  match n with
  | .scalar s =>
    if s.style ≠ .plain then (read n).map some
    else match s.tag with
      | some tag =>
        if some tag = coreTag "null" then (if isNullWord s.text then some none else none)
        else (read n).map some
      | none => if s.text = "" ∨ isNullWord s.text then some none else (read n).map some
  | _ => (read n).map some

/-- The entries of a record by name. Nothing written is a record without entries. Of the known
    names none may be given twice; every key is a scalar. -/
def record? (d : Document) (known : List String) (n : Node) :
    Option (List (String × Node)) := do
  match ← d.resolve n with
  | .mapping entries =>
    let entries ← entries.mapM fun e => do pure (← d.text? e.1, e.2)
    if (entries.map (·.1)).all fun k => !known.contains k || (entries.map (·.1)).count k = 1 then
      some entries
    else none
  | .scalar s => if s.text = "" ∧ s.style = .plain then some [] else none
  | _ => none

end Document

end Slipway.Yaml

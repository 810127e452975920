import Slipway.Text.Cut
import Slipway.Text.Decimal

/-
  Identifiers of deployments: the name of every object made for one. An id derived from a name
  holds at most 63 of the characters a to z, 0 to 9 and the dash.
-/

namespace Slipway

structure AppId where
  text : String
  deriving DecidableEq, Repr

namespace AppId

def maxLength : Nat := 63

def isLowerAlnum (c : Char) : Bool := ('a' ≤ c && c ≤ 'z') || ('0' ≤ c && c ≤ '9')

def isDash (c : Char) : Bool := c == '-'

/-- Lower-cases, puts a dash for every character that may not stand in an id, drops the dashes at
    the ends and keeps what fits. -/
def sanitize (cs : List Char) : List Char :=
  let mapped := cs.map fun c =>
    let c := c.toLower
    if isLowerAlnum c || isDash c then c else '-'
  Text.stripEnd isDash ((Text.strip isDash mapped).take maxLength)

/-- The id of a name in a group, or in none. -/
def ofParts (name : String) (group : Option String) : AppId :=
  let raw := match group.bind Text.nonBlank? with
    | some g => g ++ "-" ++ name
    | none => name
  ⟨String.ofList (sanitize raw.toList)⟩

/-- The id of one instance. The base is shortened so that the whole still fits. -/
def instanceId (id : AppId) (index : UInt32) : AppId :=
  let suffix := '-' :: Text.digits index.toNat
  let base := Text.stripEnd isDash (id.text.toList.take (maxLength - suffix.length))
  ⟨String.ofList (base ++ suffix)⟩

/-- The number after the last dash, or 0. -/
def instanceIndex (id : AppId) : UInt32 :=
  ((Text.cutLast '-' id.text.toList).bind fun (_, suffix) =>
    Text.word32? (String.ofList suffix)).getD 0

end AppId

end Slipway

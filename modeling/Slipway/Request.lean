import Slipway.AppId
import Slipway.Artifact
import Slipway.Dict

/-
  A request to deploy or launch one application, and what its properties say.
-/

namespace Slipway

structure Request where
  name : String
  artifact : ArtifactRef
  properties : Attributes := ∅
  args : List String := []

namespace Request

/-- The value of a property without the blanks around it. -/
def property (r : Request) (key : String) : Option String :=
  (r.properties.get? key).map Text.trim

def nonEmptyProperty (r : Request) (key : String) : Option String :=
  (r.property key).filter (· ≠ "")

def parseBool (key value : String) : Result Bool :=
  match Text.asciiLower value with
  | "true" => .ok true
  | "false" => .ok false
  | other => .error (.config (.notBoolean key other))

/-- A property that is true or false, in letters of either case. -/
def boolProperty (r : Request) (key : String) : Result (Option Bool) :=
  match r.nonEmptyProperty key with
  | none => .ok none
  | some v => (parseBool key v).map some

def isIndexed (r : Request) : Result Bool := do
  pure ((← r.boolProperty Keys.indexed).getD false)

/-- The number of instances, one if nothing is said. -/
def count (r : Request) : Result UInt32 :=
  match r.nonEmptyProperty Keys.count with
  | none => .ok 1
  | some v =>
    match Text.word32? v with
    | some n => if n.toNat ≤ 2147483647 then .ok n else .error (.config (.badCount v))
    | none => .error (.config (.badCount v))

def group (r : Request) : Option String := r.nonEmptyProperty Keys.group

/-- One entry `name<sep>value`, cut at the first separator. -/
def parsePair (separator : Char) (key entry : String) : Result (String × String) :=
  match Text.cutFirst separator entry.toList with
  | some (k, v) =>
    let k := Text.trim (String.ofList k)
    if k = "" then .error (.config (.badPair entry key separator))
    else .ok (k, Text.trim (String.ofList v))
  | none => .error (.config (.badPair entry key separator))

/-- Entries between commas; blank ones are passed over and of one name the last counts. -/
def parsePairs (separator : Char) (key raw : String) : Result Attributes := do
  let entries := ((Text.split ',' raw).map Text.trim).filter (· ≠ "")
  pure (Dict.ofList (← entries.mapM (parsePair separator key)))

def pairsProperty (r : Request) (separator : Char) (key : String) : Result Attributes :=
  match r.nonEmptyProperty key with
  | none => .ok ∅
  | some raw => parsePairs separator key raw

def nodeSelector (r : Request) : Result Attributes := r.pairsProperty ':' Keys.nodeSelector

def environmentVariables (r : Request) : Result Attributes :=
  r.pairsProperty '=' Keys.environmentVariables

/-- The request's own arguments, then every property of the application as `--key=value`. -/
def containerArgs (r : Request) : List String :=
  r.args ++ (r.properties.toList.filter fun e => !Text.startsWith Keys.start e.1).map fun e =>
    "--" ++ e.1 ++ "=" ++ e.2

def appId (r : Request) : AppId := AppId.ofParts r.name r.group

end Request

end Slipway

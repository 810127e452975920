import Slipway.Request

/-
  The labels of the objects made for a request, and the selectors that find them again.
-/

namespace Slipway.Labels

def appIdKey : String := "ph.io/app-id"
def deploymentIdKey : String := "ph.io/deployment-id"
def groupIdKey : String := "ph.io/group-id"
def managedByKey : String := "app.kubernetes.io/managed-by"
def managedBy : String := "ph-deployer"

/-- The environment entry that holds the index of an instance. -/
def instanceIndexVariable : String := "INSTANCE_INDEX"

/-- The environment entry of a build that holds the fingerprint of its artifact. -/
def fingerprintVariable : String := "PH_ARTIFACT_FINGERPRINT"

def isAlnum (c : Char) : Bool := AppId.isLowerAlnum c || ('A' ≤ c && c ≤ 'Z')

/-- Puts a dash for every character that may not stand in a label value, drops what may not stand
    at its ends, and keeps what fits. -/
def sanitizeValue (s : String) : String :=
  let mapped := s.toList.map fun c =>
    if isAlnum c || c == '-' || c == '_' || c == '.' then c else '-'
  String.ofList ((Text.strip (fun c => !isAlnum c) mapped).take 63)

/-- The labels common to everything made for a request. -/
def base (id : AppId) (r : Request) : Attributes :=
  let labels := ((Dict.empty.insert appIdKey id.text).insert deploymentIdKey id.text).insert
    managedByKey managedBy
  match r.group with
  | some g => labels.insert groupIdKey (sanitizeValue g)
  | none => labels

/-- The common labels with the deployment id of one instance. -/
def forInstance (labels : Attributes) (id : AppId) : Attributes :=
  labels.insert deploymentIdKey id.text

/-- Selects everything that belongs to one application, builds included. -/
def appSelector (id : AppId) : String := appIdKey ++ "=" ++ id.text

/-- Selects the pods of one instance. -/
def instanceSelector (labels : Attributes) : Attributes :=
  match labels.get? deploymentIdKey with
  | some id => Dict.empty.insert deploymentIdKey id
  | none => ∅

/-- One condition of a selector: a label with its value, or a label that has to be there. -/
def termHolds (labels : Attributes) (term : String) : Bool :=
  match Text.cutFirst '=' term.toList with
  | some (k, v) =>
    labels.get? (Text.trim (String.ofList k)) == some (Text.trim (String.ofList v))
  | none => labels.contains term

/-- Whether labels satisfy every condition of a selector; blank conditions are passed over. -/
def satisfies (labels : Attributes) (selector : String) : Bool :=
  (((Text.split ',' selector).map Text.trim).filter (· ≠ "")).all (termHolds labels)

end Slipway.Labels

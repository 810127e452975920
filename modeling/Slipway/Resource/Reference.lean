import Slipway.Json.Record

/-
  References from one object to others.
-/

namespace Slipway

/-- A reference to an object of any kind; each part may be left open. -/
structure ObjectReference where
  apiVersion : Option String := none
  fieldPath : Option String := none
  kind : Option String := none
  name : Option String := none
  inNamespace : Option String := none
  resourceVersion : Option String := none
  uid : Option String := none
  deriving DecidableEq, Repr

namespace ObjectReference

def read? (j : Json) : Option ObjectReference := do
  let f ← Json.named? j
  pure {
    apiVersion := ← Json.optional Json.string? (f "apiVersion")
    fieldPath := ← Json.optional Json.string? (f "fieldPath")
    kind := ← Json.optional Json.string? (f "kind")
    name := ← Json.optional Json.string? (f "name")
    inNamespace := ← Json.optional Json.string? (f "namespace")
    resourceVersion := ← Json.optional Json.string? (f "resourceVersion")
    uid := ← Json.optional Json.string? (f "uid") }

def toJson (r : ObjectReference) : Json := Json.ofMembers [
  Json.memberOf "apiVersion" .string r.apiVersion,
  Json.memberOf "fieldPath" .string r.fieldPath,
  Json.memberOf "kind" .string r.kind,
  Json.memberOf "name" .string r.name,
  Json.memberOf "namespace" .string r.inNamespace,
  Json.memberOf "resourceVersion" .string r.resourceVersion,
  Json.memberOf "uid" .string r.uid]

/-- A tag of an image stream, written `stream:tag`. -/
def imageStreamTag (name : String) : ObjectReference :=
  { kind := some "ImageStreamTag", name := some name }

def dockerImage (name : String) : ObjectReference :=
  { kind := some "DockerImage", name := some name }

end ObjectReference

/-- A reference by name to an object of the same namespace. -/
structure LocalReference where
  name : String := ""
  deriving DecidableEq, Repr

namespace LocalReference

def read? (j : Json) : Option LocalReference := do
  let f ← Json.named? j
  pure { name := ← Json.lenient "" Json.string? (f "name") }

def toJson (r : LocalReference) : Json := .object [("name", .string r.name)]

end LocalReference

/-- A port by number or by name. -/
inductive PortReference where
  | number (n : Int32)
  | name (s : String)
  deriving DecidableEq, Repr

namespace PortReference

def read? : Json → Option PortReference
  | .string s => some (name s)
  | j => j.int32?.map number

def toJson : PortReference → Json
  | number n => Json.ofInt32 n
  | name s => .string s

end PortReference

/-! ## Variables -/

/-- An entry of an object of the same namespace, and whether it may be missing. -/
structure KeyReference where
  key : String := ""
  name : String := ""
  isOptional : Option Bool := none
  deriving DecidableEq, Repr

namespace KeyReference

def read? (j : Json) : Option KeyReference := do
  let f ← Json.named? j
  pure {
    key := ← Json.lenient "" Json.string? (f "key")
    name := ← Json.lenient "" Json.string? (f "name")
    isOptional := ← Json.optional Json.bool? (f "optional") }

def toJson (r : KeyReference) : Json := Json.ofMembers [
  Json.member "key" (.string r.key),
  Json.member "name" (.string r.name),
  Json.memberOf "optional" .bool r.isOptional]

end KeyReference

/-- A field of the pod that the variable is for. -/
structure FieldReference where
  apiVersion : Option String := none
  fieldPath : String := ""
  deriving DecidableEq, Repr

namespace FieldReference

def read? (j : Json) : Option FieldReference := do
  let f ← Json.named? j
  pure {
    apiVersion := ← Json.optional Json.string? (f "apiVersion")
    fieldPath := ← Json.lenient "" Json.string? (f "fieldPath") }

def toJson (r : FieldReference) : Json := Json.ofMembers [
  Json.memberOf "apiVersion" .string r.apiVersion,
  Json.member "fieldPath" (.string r.fieldPath)]

end FieldReference

/-- What a container has or may have of a resource. -/
structure ResourceFieldReference where
  containerName : Option String := none
  divisor : Option String := none
  resource : String := ""
  deriving DecidableEq, Repr

namespace ResourceFieldReference

def read? (j : Json) : Option ResourceFieldReference := do
  let f ← Json.named? j
  pure {
    containerName := ← Json.optional Json.string? (f "containerName")
    divisor := ← Json.optional Json.string? (f "divisor")
    resource := ← Json.lenient "" Json.string? (f "resource") }

def toJson (r : ResourceFieldReference) : Json := Json.ofMembers [
  Json.memberOf "containerName" .string r.containerName,
  Json.memberOf "divisor" .string r.divisor,
  Json.member "resource" (.string r.resource)]

end ResourceFieldReference

/-- Where the value of a variable comes from if it is not written down. -/
structure VariableSource where
  configMap : Option KeyReference := none
  field : Option FieldReference := none
  resourceField : Option ResourceFieldReference := none
  secret : Option KeyReference := none
  deriving DecidableEq, Repr

namespace VariableSource

def read? (j : Json) : Option VariableSource := do
  let f ← Json.named? j
  pure {
    configMap := ← Json.optional KeyReference.read? (f "configMapKeyRef")
    field := ← Json.optional FieldReference.read? (f "fieldRef")
    resourceField := ← Json.optional ResourceFieldReference.read? (f "resourceFieldRef")
    secret := ← Json.optional KeyReference.read? (f "secretKeyRef") }

def toJson (s : VariableSource) : Json := Json.ofMembers [
  Json.memberOf "configMapKeyRef" KeyReference.toJson s.configMap,
  Json.memberOf "fieldRef" FieldReference.toJson s.field,
  Json.memberOf "resourceFieldRef" ResourceFieldReference.toJson s.resourceField,
  Json.memberOf "secretKeyRef" KeyReference.toJson s.secret]

end VariableSource

/-- A variable of an environment. -/
structure Variable where
  name : String := ""
  value : Option String := none
  source : Option VariableSource := none
  deriving DecidableEq, Repr

namespace Variable

def read? (j : Json) : Option Variable := do
  let f ← Json.named? j
  pure {
    name := ← Json.lenient "" Json.string? (f "name")
    value := ← Json.optional Json.string? (f "value")
    source := ← Json.optional VariableSource.read? (f "valueFrom") }

def toJson (v : Variable) : Json := Json.ofMembers [
  Json.member "name" (.string v.name),
  Json.memberOf "value" .string v.value,
  Json.memberOf "valueFrom" VariableSource.toJson v.source]

end Variable

end Slipway

import Slipway.Json.Record
import Slipway.Timestamp

/-
  The metadata that every object carries, as the platform's API writes it. Each type stands with
  its reader and its writer.
-/

namespace Slipway

/-- An object that another one belongs to. -/
structure OwnerReference where
  apiVersion : String := ""
  blockOwnerDeletion : Option Bool := none
  controller : Option Bool := none
  kind : String := ""
  name : String := ""
  uid : String := ""

/-- Which fields of an object were last set by whom. -/
structure ManagedFields where
  apiVersion : Option String := none
  fieldsType : Option String := none
  fields : Option Json.Told := none
  manager : Option String := none
  operation : Option String := none
  subresource : Option String := none
  time : Option Timestamp := none

structure Metadata where
  annotations : Option Attributes := none
  creationTimestamp : Option Timestamp := none
  deletionGracePeriodSeconds : Option Int64 := none
  deletionTimestamp : Option Timestamp := none
  finalizers : Option (List String) := none
  generateName : Option String := none
  generation : Option Int64 := none
  labels : Option Attributes := none
  managedFields : Option (List ManagedFields) := none
  name : Option String := none
  inNamespace : Option String := none
  ownerReferences : Option (List OwnerReference) := none
  resourceVersion : Option String := none
  selfLink : Option String := none
  uid : Option String := none

namespace Timestamp

def read? (j : Json) : Option Timestamp := j.string?.bind parse?

def toJson (t : Timestamp) : Json := .string t.text

end Timestamp

namespace OwnerReference

def read? (j : Json) : Option OwnerReference := do
  let f ← Json.named? j
  pure {
    apiVersion := ← Json.lenient "" Json.string? (f "apiVersion")
    blockOwnerDeletion := ← Json.optional Json.bool? (f "blockOwnerDeletion")
    controller := ← Json.optional Json.bool? (f "controller")
    kind := ← Json.lenient "" Json.string? (f "kind")
    name := ← Json.lenient "" Json.string? (f "name")
    uid := ← Json.lenient "" Json.string? (f "uid") }

def toJson (r : OwnerReference) : Json := Json.ofMembers [
  Json.member "apiVersion" (.string r.apiVersion),
  Json.memberOf "blockOwnerDeletion" .bool r.blockOwnerDeletion,
  Json.memberOf "controller" .bool r.controller,
  Json.member "kind" (.string r.kind),
  Json.member "name" (.string r.name),
  Json.member "uid" (.string r.uid)]

end OwnerReference

namespace ManagedFields

def read? (j : Json) : Option ManagedFields := do
  let f ← Json.named? j
  pure {
    apiVersion := ← Json.optional Json.string? (f "apiVersion")
    fieldsType := ← Json.optional Json.string? (f "fieldsType")
    fields := ← Json.optional Json.told? (f "fieldsV1")
    manager := ← Json.optional Json.string? (f "manager")
    operation := ← Json.optional Json.string? (f "operation")
    subresource := ← Json.optional Json.string? (f "subresource")
    time := ← Json.optional Timestamp.read? (f "time") }

def toJson (m : ManagedFields) : Json := Json.ofMembers [
  Json.memberOf "apiVersion" .string m.apiVersion,
  Json.memberOf "fieldsType" .string m.fieldsType,
  Json.memberOf "fieldsV1" Json.Told.json m.fields,
  Json.memberOf "manager" .string m.manager,
  Json.memberOf "operation" .string m.operation,
  Json.memberOf "subresource" .string m.subresource,
  Json.memberOf "time" Timestamp.toJson m.time]

end ManagedFields

namespace Metadata

def read? (j : Json) : Option Metadata := do
  let f ← Json.named? j
  pure {
    annotations := ← Json.optional Json.attributes? (f "annotations")
    creationTimestamp := ← Json.optional Timestamp.read? (f "creationTimestamp")
    deletionGracePeriodSeconds :=
      ← Json.optional Json.int64? (f "deletionGracePeriodSeconds")
    deletionTimestamp := ← Json.optional Timestamp.read? (f "deletionTimestamp")
    finalizers := ← Json.optional (Json.listOf? Json.string?) (f "finalizers")
    generateName := ← Json.optional Json.string? (f "generateName")
    generation := ← Json.optional Json.int64? (f "generation")
    labels := ← Json.optional Json.attributes? (f "labels")
    managedFields := ← Json.optional (Json.listOf? ManagedFields.read?) (f "managedFields")
    name := ← Json.optional Json.string? (f "name")
    inNamespace := ← Json.optional Json.string? (f "namespace")
    ownerReferences := ← Json.optional (Json.listOf? OwnerReference.read?) (f "ownerReferences")
    resourceVersion := ← Json.optional Json.string? (f "resourceVersion")
    selfLink := ← Json.optional Json.string? (f "selfLink")
    uid := ← Json.optional Json.string? (f "uid") }

def toJson (m : Metadata) : Json := Json.ofMembers [
  Json.memberOf "annotations" Json.ofAttributes m.annotations,
  Json.memberOf "creationTimestamp" Timestamp.toJson m.creationTimestamp,
  Json.memberOf "deletionGracePeriodSeconds" Json.ofInt64 m.deletionGracePeriodSeconds,
  Json.memberOf "deletionTimestamp" Timestamp.toJson m.deletionTimestamp,
  Json.memberOf "finalizers" (Json.ofList .string) m.finalizers,
  Json.memberOf "generateName" .string m.generateName,
  Json.memberOf "generation" Json.ofInt64 m.generation,
  Json.memberOf "labels" Json.ofAttributes m.labels,
  Json.memberOf "managedFields" (Json.ofList ManagedFields.toJson) m.managedFields,
  Json.memberOf "name" .string m.name,
  Json.memberOf "namespace" .string m.inNamespace,
  Json.memberOf "ownerReferences" (Json.ofList OwnerReference.toJson) m.ownerReferences,
  Json.memberOf "resourceVersion" .string m.resourceVersion,
  Json.memberOf "selfLink" .string m.selfLink,
  Json.memberOf "uid" .string m.uid]

/-- The metadata of a new object with a name and labels. -/
def ofLabels (name : String) (labels : Attributes) : Metadata :=
  { name := some name, labels := some labels }

def labelSet (m : Metadata) : Attributes := m.labels.getD ∅

def annotationSet (m : Metadata) : Attributes := m.annotations.getD ∅

/-- The name, or the text that the platform was to make one from. -/
def anyName (m : Metadata) : String := (m.name.or m.generateName).getD ""

/-- As the platform keeps it: times in whole seconds. -/
def stored (m : Metadata) : Metadata :=
  { m with
    creationTimestamp := m.creationTimestamp.map Timestamp.wholeSeconds
    deletionTimestamp := m.deletionTimestamp.map Timestamp.wholeSeconds
    managedFields := m.managedFields.map fun fs => fs.map fun f =>
      { f with time := f.time.map Timestamp.wholeSeconds } }

end Metadata

end Slipway

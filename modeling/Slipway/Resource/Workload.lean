import Slipway.Resource.Details

/-
  What runs: pods, and the deployments that keep replicas of a pod running. What is told of pods and
  containers beyond what is looked into here is kept as the tables of `Slipway.Resource.Details`
  have it.
-/

namespace Slipway

structure ContainerPort where
  containerPort : Int32 := 0
  hostIP : Option String := none
  hostPort : Option Int32 := none
  name : Option String := none
  protocol : Option String := none
  deriving DecidableEq, Repr

namespace ContainerPort

def read? (j : Json) : Option ContainerPort := do
  let f ← Json.named? j
  pure {
    containerPort := ← Json.lenient 0 Json.int32? (f "containerPort")
    hostIP := ← Json.optional Json.string? (f "hostIP")
    hostPort := ← Json.optional Json.int32? (f "hostPort")
    name := ← Json.optional Json.string? (f "name")
    protocol := ← Json.optional Json.string? (f "protocol") }

def toJson (p : ContainerPort) : Json := Json.ofMembers [
  Json.member "containerPort" (Json.ofInt32 p.containerPort),
  Json.memberOf "hostIP" .string p.hostIP,
  Json.memberOf "hostPort" Json.ofInt32 p.hostPort,
  Json.memberOf "name" .string p.name,
  Json.memberOf "protocol" .string p.protocol]

end ContainerPort

structure Container where
  name : String := ""
  image : Option String := none
  args : Option (List String) := none
  env : Option (List Variable) := none
  ports : Option (List ContainerPort) := none
  others : Schema.containerFields.Values := Schema.containerFields.blank

namespace Container

def ofFields? (f : Json.Fields) : Option Container := do
  pure {
    name := ← Json.lenient "" Json.string? (f "name")
    image := ← Json.optional Json.string? (f "image")
    args := ← Json.optional (Json.listOf? Json.string?) (f "args")
    env := ← Json.optional (Json.listOf? Variable.read?) (f "env")
    ports := ← Json.optional (Json.listOf? ContainerPort.read?) (f "ports")
    others := ← Schema.containerFields.read? f }

def read? (j : Json) : Option Container := do ofFields? (← Json.named? j)

/-- The fields that are looked into. -/
def ownMembers (c : Container) : List Json.Member := [
  Json.memberOf "args" (Json.ofList .string) c.args,
  Json.memberOf "env" (Json.ofList Variable.toJson) c.env,
  Json.memberOf "image" .string c.image,
  Json.member "name" (.string c.name),
  Json.memberOf "ports" (Json.ofList ContainerPort.toJson) c.ports]

def members (c : Container) : List Json.Member :=
  Schema.containerFields.members c.others ++ c.ownMembers

def toJson (c : Container) : Json := Json.ofMembers c.members

end Container

/-- A container that is added to a pod that runs already. -/
structure EphemeralContainer where
  container : Container := {}
  targetContainerName : Option String := none

namespace EphemeralContainer

def read? (j : Json) : Option EphemeralContainer := do
  let f ← Json.named? j
  pure {
    container := ← Container.ofFields? f
    targetContainerName := ← Json.optional Json.string? (f "targetContainerName") }

def toJson (c : EphemeralContainer) : Json := Json.ofMembers
  (c.container.members ++ [Json.memberOf "targetContainerName" .string c.targetContainerName])

end EphemeralContainer

structure PodSpec where
  containers : List Container := []
  ephemeralContainers : Option (List EphemeralContainer) := none
  initContainers : Option (List Container) := none
  nodeSelector : Option Attributes := none
  restartPolicy : Option String := none
  serviceAccountName : Option String := none
  others : Schema.podFields.Values := Schema.podFields.blank

namespace PodSpec

def read? (j : Json) : Option PodSpec := do
  let f ← Json.named? j
  pure {
    containers := ← Json.lenient [] (Json.listOf? Container.read?) (f "containers")
    ephemeralContainers :=
      ← Json.optional (Json.listOf? EphemeralContainer.read?) (f "ephemeralContainers")
    initContainers := ← Json.optional (Json.listOf? Container.read?) (f "initContainers")
    nodeSelector := ← Json.optional Json.attributes? (f "nodeSelector")
    restartPolicy := ← Json.optional Json.string? (f "restartPolicy")
    serviceAccountName := ← Json.optional Json.string? (f "serviceAccountName")
    others := ← Schema.podFields.read? f }

/-- The fields that are looked into. -/
def ownMembers (s : PodSpec) : List Json.Member := [
  Json.member "containers" (Json.ofList Container.toJson s.containers),
  Json.memberOf "ephemeralContainers" (Json.ofList EphemeralContainer.toJson)
    s.ephemeralContainers,
  Json.memberOf "initContainers" (Json.ofList Container.toJson) s.initContainers,
  Json.memberOf "nodeSelector" Json.ofAttributes s.nodeSelector,
  Json.memberOf "restartPolicy" .string s.restartPolicy,
  Json.memberOf "serviceAccountName" .string s.serviceAccountName]

def toJson (s : PodSpec) : Json :=
  Json.ofMembers (Schema.podFields.members s.others ++ s.ownMembers)

/-- As the platform keeps it: times in whole seconds. -/
def stored (s : PodSpec) : PodSpec := { s with others := Schema.podFields.stored s.others }

end PodSpec

structure PodStatus where
  phase : Option String := none
  deriving DecidableEq, Repr

namespace PodStatus

def read? (j : Json) : Option PodStatus := do
  let f ← Json.named? j
  pure { phase := ← Json.optional Json.string? (f "phase") }

def toJson (s : PodStatus) : Json := Json.ofMembers [Json.memberOf "phase" .string s.phase]

end PodStatus

/-- The pods that a deployment makes. -/
structure PodTemplate where
  metadata : Option Metadata := none
  spec : Option PodSpec := none

namespace PodTemplate

def read? (j : Json) : Option PodTemplate := do
  let f ← Json.named? j
  pure {
    metadata := ← Json.optional Metadata.read? (f "metadata")
    spec := ← Json.optional PodSpec.read? (f "spec") }

def toJson (t : PodTemplate) : Json := Json.ofMembers [
  Json.memberOf "metadata" Metadata.toJson t.metadata,
  Json.memberOf "spec" PodSpec.toJson t.spec]

/-- As the platform keeps it: times in whole seconds. -/
def stored (t : PodTemplate) : PodTemplate where
  metadata := t.metadata.map Metadata.stored
  spec := t.spec.map PodSpec.stored

end PodTemplate

/-! ## Deployments -/

inductive TriggerType where
  | configChange
  | imageChange
  | other
  deriving DecidableEq, Repr

namespace TriggerType

def name : TriggerType → String
  | configChange => "ConfigChange"
  | imageChange => "ImageChange"
  | other => "Other"

/-- A name that is not known is taken for another type. -/
def ofName (s : String) : TriggerType :=
  match s with
  | "ConfigChange" => configChange
  | "ImageChange" => imageChange
  | _ => other

def read? (j : Json) : Option TriggerType := (Json.variant? j).map ofName

def toJson (t : TriggerType) : Json := .string t.name

end TriggerType

/-- Which containers a new image of a tag is for. -/
structure ImageChange where
  automatic : Bool := false
  containerNames : List String := []
  image : ObjectReference
  deriving DecidableEq, Repr

namespace ImageChange

def read? (j : Json) : Option ImageChange := do
  let f ← Json.record? ["automatic", "containerNames", "from"] j
  pure {
    automatic := ← Json.defaulted false Json.bool? (f "automatic")
    containerNames := ← Json.defaulted [] (Json.listOf? Json.string?) (f "containerNames")
    image := ← Json.required ObjectReference.read? (f "from") }

def toJson (c : ImageChange) : Json := .object [
  ("automatic", .bool c.automatic),
  ("containerNames", Json.ofList .string c.containerNames),
  ("from", c.image.toJson)]

end ImageChange

/-- What makes a deployment roll out anew. -/
structure Trigger where
  triggerType : TriggerType
  imageChange : Option ImageChange := none
  deriving DecidableEq, Repr

namespace Trigger

def read? (j : Json) : Option Trigger := do
  let f ← Json.record? ["type", "imageChangeParams"] j
  pure {
    triggerType := ← Json.required TriggerType.read? (f "type")
    imageChange := ← Json.optional ImageChange.read? (f "imageChangeParams") }

def toJson (t : Trigger) : Json := Json.ofMembers [
  Json.member "type" t.triggerType.toJson,
  Json.memberOf "imageChangeParams" ImageChange.toJson t.imageChange]

def onConfigChange : Trigger := { triggerType := .configChange }

/-- Rolls out whenever a tag receives a new image for a container. -/
def onImageChange (container imageStreamTag : String) : Trigger where
  triggerType := .imageChange
  imageChange := some {
    automatic := true
    containerNames := [container]
    image := ObjectReference.imageStreamTag imageStreamTag }

end Trigger

structure DeploymentSpec where
  replicas : Int32 := 0
  selector : Attributes := ∅
  triggers : List Trigger := []
  template : Option PodTemplate := none

namespace DeploymentSpec

def read? (j : Json) : Option DeploymentSpec := do
  let f ← Json.record? ["replicas", "selector", "triggers", "template"] j
  pure {
    replicas := ← Json.defaulted 0 Json.int32? (f "replicas")
    selector := ← Json.defaulted ∅ Json.attributes? (f "selector")
    triggers := ← Json.defaulted [] (Json.listOf? Trigger.read?) (f "triggers")
    template := ← Json.optional PodTemplate.read? (f "template") }

def toJson (s : DeploymentSpec) : Json := Json.ofMembers [
  Json.member "replicas" (Json.ofInt32 s.replicas),
  Json.member "selector" (Json.ofAttributes s.selector),
  Json.member "triggers" (Json.ofList Trigger.toJson s.triggers),
  Json.memberOf "template" PodTemplate.toJson s.template]

/-- As the platform keeps it: times in whole seconds. -/
def stored (s : DeploymentSpec) : DeploymentSpec :=
  { s with template := s.template.map PodTemplate.stored }

end DeploymentSpec

structure DeploymentStatus where
  replicas : Int32 := 0
  availableReplicas : Int32 := 0
  latestVersion : Int64 := 0
  deriving DecidableEq, Repr

namespace DeploymentStatus

def read? (j : Json) : Option DeploymentStatus := do
  let f ← Json.record? ["replicas", "availableReplicas", "latestVersion"] j
  pure {
    replicas := ← Json.defaulted 0 Json.int32? (f "replicas")
    availableReplicas := ← Json.defaulted 0 Json.int32? (f "availableReplicas")
    latestVersion := ← Json.defaulted 0 Json.int64? (f "latestVersion") }

def toJson (s : DeploymentStatus) : Json := .object [
  ("replicas", Json.ofInt32 s.replicas),
  ("availableReplicas", Json.ofInt32 s.availableReplicas),
  ("latestVersion", Json.ofInt64 s.latestVersion)]

end DeploymentStatus

end Slipway

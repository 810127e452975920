import Slipway.Kind
import Slipway.Resource.Build
import Slipway.Resource.Metadata
import Slipway.Resource.Network
import Slipway.Resource.Workload

/-
  The objects on the platform: metadata, a spec and a status, whose types depend on the kind.
-/

namespace Slipway

/-- What is wanted of an object. -/
def Kind.Spec : Kind → Type
  | .buildConfig => BuildConfigSpec
  | .build => BuildRecipe
  | .imageStream => ImageStreamSpec
  | .deploymentConfig => DeploymentSpec
  | .route => RouteSpec
  | .service => Option ServiceSpec
  | .pod => Option PodSpec

/-- What the platform reports on an object. -/
def Kind.Status : Kind → Type
  | .build => Option BuildStatus
  | .imageStream => Option ImageStreamStatus
  | .deploymentConfig => Option DeploymentStatus
  | .pod => Option PodStatus
  | .buildConfig | .route | .service => Unit

structure Resource (k : Kind) where
  metadata : Metadata
  spec : k.Spec
  status : k.Status

namespace Kind

/-- The status of an object that the platform has not seen yet. -/
def noStatus : (k : Kind) → k.Status
  | .build => (none : Option BuildStatus)
  | .imageStream => (none : Option ImageStreamStatus)
  | .deploymentConfig => (none : Option DeploymentStatus)
  | .pod => (none : Option PodStatus)
  | .buildConfig | .route | .service => ()

def readSpec? : (k : Kind) → Option Json → Option k.Spec
  | .buildConfig => Json.required BuildConfigSpec.read?
  | .build => Json.required BuildRecipe.read?
  | .imageStream => Json.required ImageStreamSpec.read?
  | .deploymentConfig => Json.required DeploymentSpec.read?
  | .route => Json.required RouteSpec.read?
  | .service => Json.optional ServiceSpec.read?
  | .pod => Json.optional PodSpec.read?

def readStatus? : (k : Kind) → Option Json → Option k.Status
  | .build => Json.optional BuildStatus.read?
  | .imageStream => Json.optional ImageStreamStatus.read?
  | .deploymentConfig => Json.optional DeploymentStatus.read?
  | .pod => Json.optional PodStatus.read?
  | .buildConfig | .route | .service => fun _ => some ()

def specMember : (k : Kind) → k.Spec → Json.Member
  | .buildConfig, (s : BuildConfigSpec) => Json.member "spec" s.toJson
  | .build, (s : BuildRecipe) => Json.member "spec" s.toJson
  | .imageStream, (s : ImageStreamSpec) => Json.member "spec" s.toJson
  | .deploymentConfig, (s : DeploymentSpec) => Json.member "spec" s.toJson
  | .route, (s : RouteSpec) => Json.member "spec" s.toJson
  | .service, s => Json.memberOf "spec" ServiceSpec.toJson s
  | .pod, s => Json.memberOf "spec" PodSpec.toJson s

def statusMember : (k : Kind) → k.Status → Json.Member
  | .build, s => Json.memberOf "status" BuildStatus.toJson s
  | .imageStream, s => Json.memberOf "status" ImageStreamStatus.toJson s
  | .deploymentConfig, s => Json.memberOf "status" DeploymentStatus.toJson s
  | .pod, s => Json.memberOf "status" PodStatus.toJson s
  | .buildConfig, _ | .route, _ | .service, _ => none

/-- The fields of an object that is written as a list, in their order. -/
def positions : Kind → List String
  | .build | .imageStream | .deploymentConfig => ["metadata", "spec", "status"]
  | _ => ["metadata", "spec"]

/-- The fields of an object. The core kinds are objects of the right version and kind, wherever
    these are stated; the others may be lists of all their fields. -/
def readFields? (k : Kind) (j : Json) : Option Json.Fields :=
  match k.group? with
  | none => do
    let f ← Json.named? j
    let agrees (name expected : String) : Bool := match f name with
      | none => true
      | some (.string s) => s == expected
      | some _ => false
    if agrees "apiVersion" k.apiVersion && agrees "kind" k.name then some f else none
  | some _ =>
    match j with
    | .array items =>
      if items.length = k.positions.length then Json.record? k.positions j else none
    | _ => Json.named? j

def readMetadata? (k : Kind) : Option Json → Option Metadata :=
  match k.group? with
  | none => Json.lenient {} Metadata.read?
  | some _ => Json.required Metadata.read?

/-- As the platform keeps it: times in whole seconds. -/
def storedSpec : (k : Kind) → k.Spec → k.Spec
  | .deploymentConfig, (s : DeploymentSpec) => s.stored
  | .pod, (s : Option PodSpec) => s.map PodSpec.stored
  | .buildConfig, s | .build, s | .imageStream, s | .route, s | .service, s => s

end Kind

namespace Resource

variable {k : Kind}

/-- An object that was never on the platform. -/
def new (metadata : Metadata) (spec : k.Spec) : Resource k := ⟨metadata, spec, k.noStatus⟩

def read? (k : Kind) (j : Json) : Option (Resource k) := do
  let f ← k.readFields? j
  pure {
    metadata := ← k.readMetadata? (f "metadata")
    spec := ← k.readSpec? (f "spec")
    status := ← k.readStatus? (f "status") }

def toJson (r : Resource k) : Json := Json.ofMembers [
  Json.member "apiVersion" (.string k.apiVersion),
  Json.member "kind" (.string k.name),
  Json.member "metadata" r.metadata.toJson,
  k.specMember r.spec,
  k.statusMember r.status]

def name (r : Resource k) : String := r.metadata.anyName

def labels (r : Resource k) : Attributes := r.metadata.labelSet

/-- As the platform keeps it: times in whole seconds. -/
def stored (r : Resource k) : Resource k :=
  { r with metadata := r.metadata.stored, spec := k.storedSpec r.spec }

end Resource

abbrev BuildConfig := Resource .buildConfig
abbrev Build := Resource .build
abbrev ImageStream := Resource .imageStream
abbrev DeploymentConfig := Resource .deploymentConfig
abbrev Route := Resource .route
abbrev Service := Resource .service
abbrev Pod := Resource .pod

end Slipway

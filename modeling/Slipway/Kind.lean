/-
  The kinds of object that the deployer manages.
-/

namespace Slipway

inductive Kind where
  | buildConfig
  | build
  | imageStream
  | deploymentConfig
  | route
  | service
  | pod
  deriving DecidableEq, Repr, Inhabited

namespace Kind

def all : List Kind :=
  [buildConfig, build, imageStream, deploymentConfig, route, service, pod]

def name : Kind → String
  | buildConfig => "BuildConfig"
  | build => "Build"
  | imageStream => "ImageStream"
  | deploymentConfig => "DeploymentConfig"
  | route => "Route"
  | service => "Service"
  | pod => "Pod"

/-- The API group; the core kinds have none. -/
def group? : Kind → Option String
  | buildConfig | build => some "build.openshift.io"
  | imageStream => some "image.openshift.io"
  | deploymentConfig => some "apps.openshift.io"
  | route => some "route.openshift.io"
  | service | pod => none

def apiVersion (k : Kind) : String :=
  match k.group? with
  | some g => g ++ "/v1"
  | none => "v1"

/-- The name of the collection in a request path. -/
def plural : Kind → String
  | buildConfig => "buildconfigs"
  | build => "builds"
  | imageStream => "imagestreams"
  | deploymentConfig => "deploymentconfigs"
  | route => "routes"
  | service => "services"
  | pod => "pods"

def ofName? (s : String) : Option Kind := all.find? fun k => k.name == s

theorem mem_all (k : Kind) : k ∈ all := by cases k <;> decide

end Kind

end Slipway

import Slipway.BuildPlan
import Slipway.FanOut

/-
  The objects that are made for an instance: a deployment, a service, a route, or the pod of a
  task; and the image stream of an application.
-/

namespace Slipway

/-- What the containers of a request have in common. -/
structure ContainerSettings where
  args : List String
  serviceAccount : Option String
  nodeSelector : Attributes
  port : Int32

/-- How a service can be reached from outside of the cluster. -/
inductive Exposure where
  | clusterIp
  | nodePort (port : Option Int32)
  deriving DecidableEq, Repr

/-- Where a deployment has its image from: a tag that a running build will push to, or an image
    that is ready. -/
inductive ImageSource where
  | trigger (imageStreamTag : String)
  | image (reference : String)
  deriving DecidableEq, Repr

namespace ContainerSettings

def ofRequest (c : Config) (r : Request) : Result ContainerSettings := do
  pure {
    args := r.containerArgs
    serviceAccount := r.nonEmptyProperty Keys.serviceAccount
    nodeSelector := ← r.nodeSelector
    port := c.servicePort }

def container (s : ContainerSettings) (name image : String) (environment : Attributes) :
    Container where
  name := name
  image := some image
  args := if s.args.isEmpty then none else some s.args
  env := some (environment.toList.map fun e => { name := e.1, value := some e.2 })
  ports := some [{ containerPort := s.port }]

def podSpec (s : ContainerSettings) (container : Container) (restartPolicy : Option String) :
    PodSpec where
  containers := [container]
  nodeSelector := BuildPlan.nonEmptyMap s.nodeSelector
  restartPolicy := restartPolicy
  serviceAccountName := s.serviceAccount

end ContainerSettings

/-- A property that is true, false or the number of a port. -/
def Exposure.ofRequest (r : Request) : Result Exposure :=
  match r.nonEmptyProperty Keys.createNodePort with
  | none => .ok .clusterIp
  | some v =>
    if Text.asciiLower v = "false" then .ok .clusterIp
    else if Text.asciiLower v = "true" then .ok (.nodePort none)
    else match Text.int32? v with
      | some p => .ok (.nodePort (some p))
      | none => .error (.config (.badNodePort v))

namespace Bundle

/-- The stream that builds push to. Pods may name its tags as images. -/
def imageStream (id : AppId) (labels : Attributes) : ImageStream :=
  Resource.new (Metadata.ofLabels id.text labels) ({ localLookup := some true } : ImageStreamSpec)

def imageOf : ImageSource → String
  | .trigger tag => tag
  | .image reference => reference

def triggersOf (container : String) : ImageSource → List Trigger
  | .trigger tag => [Trigger.onConfigChange, Trigger.onImageChange container tag]
  | .image _ => []

def deploymentConfig (s : ContainerSettings) (source : ImageSource) (i : Instance) :
    DeploymentConfig :=
  let container := s.container i.id.text (imageOf source) i.environment
  let spec : DeploymentSpec := {
    replicas := i.replicas
    selector := Labels.instanceSelector i.labels
    triggers := triggersOf i.id.text source
    template := some {
      metadata := some { labels := some i.labels }
      spec := some (s.podSpec container none) } }
  Resource.new (Metadata.ofLabels i.id.text i.labels) spec

def service (port : Int32) (exposure : Exposure) (i : Instance) : Service :=
  let (serviceType, nodePort) : Option String × Option Int32 := match exposure with
    | .clusterIp => (none, none)
    | .nodePort p => (some "NodePort", p)
  let spec : ServiceSpec := {
    ports := some [{ nodePort, port, targetPort := some (.number port) }]
    selector := some (Labels.instanceSelector i.labels)
    serviceType }
  Resource.new (Metadata.ofLabels i.id.text i.labels) (some spec)

/-- The host of a route: the one asked for, unless there are several instances; else one made from
    the domain; else the router chooses. -/
def host (c : Config) (r : Request) (inNamespace : String) (i : Instance) : Option String :=
  let asked := if i.index.isNone then r.nonEmptyProperty Keys.routeHost else none
  asked.or (c.routeDomain.map fun domain => i.id.text ++ "-" ++ inNamespace ++ "." ++ domain)

def route (c : Config) (r : Request) (inNamespace : String) (i : Instance) : Route :=
  let spec : RouteSpec := {
    host := host c r inNamespace i
    target := { kind := Kind.service.name, name := i.id.text }
    port := some (.number c.servicePort) }
  Resource.new (Metadata.ofLabels i.id.text i.labels) spec

/-- A pod that runs once, to its end. -/
def taskPod (id : AppId) (labels : Attributes) (image : String) (environment : Attributes)
    (s : ContainerSettings) : Pod :=
  Resource.new (Metadata.ofLabels id.text labels)
    (some (s.podSpec (s.container id.text image environment) (some "Never")))

end Bundle

end Slipway

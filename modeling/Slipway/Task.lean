import Slipway.BuildWatch
import Slipway.Deploy

/-
  Tasks: pods that run once. A task whose image is still being built waits for the build.
-/

namespace Slipway

inductive TaskState where
  | launching
  | running
  | complete
  | failed
  | unknown
  deriving DecidableEq, Repr

def TaskState.name : TaskState → String
  | launching => "Launching"
  | running => "Running"
  | complete => "Complete"
  | failed => "Failed"
  | unknown => "Unknown"

/-- The pod that a launch comes down to, but for its image. -/
structure TaskOrder where
  id : AppId
  labels : Attributes
  environment : Attributes
  settings : ContainerSettings

namespace TaskOrder

def ofRequest (c : Config) (r : Request) : Result TaskOrder := do
  let settings ← ContainerSettings.ofRequest c r
  let environment ← r.environmentVariables
  let _ ← BuildHistory.forcesBuild r c
  pure { id := r.appId, labels := Labels.base r.appId r, environment, settings }

def createPod (o : TaskOrder) (image : String) : Action Pod :=
  Reconcile.reconcile (Bundle.taskPod o.id o.labels image o.environment o.settings)

end TaskOrder

/-- A pod that is created when its build completes. The tag is its image where the build reports
    none. -/
structure PendingTask where
  order : TaskOrder
  imageStreamTag : String
  watch : BuildWatch

/-- What runs when the build of a task has completed. -/
def PendingTask.afterBuild (p : PendingTask) (completed : Build) : Action Pod :=
  p.order.createPod (completed.builtImage p.imageStreamTag)

/-- A task that was launched. -/
structure Launched where
  id : AppId
  state : PipelineState
  pending : Option PendingTask

/-- The state once the pod of a task was created. -/
def stateOfPod (pod : Pod) : PipelineState :=
  let image := do
    let spec ← (pod.spec : Option PodSpec)
    let container ← spec.containers.head?
    container.image
  .deployed (image.getD "")

namespace Deployer

def launch (d : Deployer) (r : Request) : Action Launched := do
  let order ← Action.ofResult (TaskOrder.ofRequest d.config r)
  let prepared ← d.prepare r order.id order.labels
  match prepared with
  | .submitted build tag =>
    let watch ← BuildWatch.start (Labels.appSelector order.id) build.name
    pure { id := order.id, state := prepared.state .watch, pending := some ⟨order, tag, watch⟩ }
  | .reused _ image =>
    let _ ← order.createPod image
    pure { id := order.id, state := .deployed image, pending := none }
  | .noBuild image =>
    let _ ← order.createPod image
    pure { id := order.id, state := .deployed image, pending := none }

/-- The state of a task by the phase of its pod. -/
def stateOfPhase : Option String → TaskState
  | some "Pending" => .launching
  | some "Running" => .running
  | some "Succeeded" => .complete
  | some "Failed" => .failed
  | _ => .unknown

def podPhase (pod : Pod) : Option String :=
  match (pod.status : Option PodStatus) with
  | some s => s.phase
  | none => none

/-- The state of a task without a pod, by the phase of its latest build. -/
def stateWithoutPod (latest : Option BuildPhase) : TaskState :=
  match latest with
  | some p => if !p.isTerminal then .launching else if p.isFailure then .failed else .unknown
  | none => .unknown

def taskStatus (id : AppId) : Action TaskState := do
  match ← Action.get .pod id.text with
  | some pod => pure (stateOfPhase (podPhase pod))
  | none => pure (stateWithoutPod (latestPhase (← Action.list .build (Labels.appSelector id))))

/-- Deletes the pod of a task, if it has one. -/
def cancel (id : AppId) : Action Unit := deleteIfPresent .pod id.text

end Deployer

end Slipway

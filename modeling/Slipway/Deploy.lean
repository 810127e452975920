import Slipway.Pipeline

/-
  Long-running applications: deploying them, removing them, and telling how they are.
-/

namespace Slipway

structure DeployOutcome where
  id : AppId
  state : PipelineState
  instances : List AppId
  deriving DecidableEq, Repr

inductive AppState where
  | undeployed
  | building
  | deploying
  | deployed
  | failed
  /-- Some instances are available, others are not. -/
  | partially
  deriving DecidableEq, Repr

def AppState.name : AppState → String
  | undeployed => "Undeployed"
  | building => "Building"
  | deploying => "Deploying"
  | deployed => "Deployed"
  | failed => "Failed"
  | partially => "Partial"

structure InstanceStatus where
  name : String
  replicas : Int32
  available : Int32
  deriving DecidableEq, Repr

structure AppStatus where
  state : AppState
  instances : List InstanceStatus
  deriving DecidableEq, Repr

/-- What a request to deploy comes down to. All that can be wrong with it is found out while this
    is made, before anything is done. -/
structure DeployOrder where
  settings : ContainerSettings
  exposure : Exposure
  fanOut : FanOut

namespace DeployOrder

def ofRequest (c : Config) (r : Request) : Result DeployOrder := do
  let settings ← ContainerSettings.ofRequest c r
  let exposure ← Exposure.ofRequest r
  let id := r.appId
  let fanOut : FanOut := {
    id
    labels := Labels.base id r
    environment := ← r.environmentVariables
    indexed := ← r.isIndexed
    count := ← r.count }
  let _ ← BuildHistory.forcesBuild r c
  pure { settings, exposure, fanOut }

end DeployOrder

namespace Deployer

/-- Reconciles one object for each instance. -/
def addObjects {k : Kind} (f : FanOut) (object : Instance → Resource k) :
    Action (List Instance) := do
  let instances ← Action.ofResult f.instances
  instances.forM fun i => discard (Reconcile.reconcile (object i))
  pure instances

/-- An image that is ready is rolled out to each instance; a tag rolls out by itself. -/
def rollOut (source : ImageSource) (instances : List Instance) : Action Unit :=
  match source with
  | .trigger _ => pure ()
  | .image _ => instances.forM fun i => discard (Action.ask (.rollout i.id.text))

def finalState (prepared : Prepared) : PipelineState :=
  match prepared.imageSource with
  | .image image => .deployed image
  | .trigger _ => prepared.state .trigger

def deploy (d : Deployer) (r : Request) : Action DeployOutcome := do
  let order ← Action.ofResult (DeployOrder.ofRequest d.config r)
  let f := order.fanOut
  let prepared ← d.prepare r f.id f.labels
  let source := prepared.imageSource
  let instances ← addObjects f (Bundle.deploymentConfig order.settings source)
  let _ ← addObjects f (Bundle.service d.config.servicePort order.exposure)
  if d.config.createRoute then
    let _ ← addObjects f (Bundle.route d.config r d.targetNamespace)
  rollOut source instances
  pure { id := f.id, state := finalState prepared, instances := instances.map (·.id) }

/-- Deletes an object; one that is gone already is all right. -/
def deleteIfPresent (k : Kind) (name : String) : Action Unit := do
  match ← Action.attempt (.delete k name) with
  | .ok () => pure ()
  | .error (.notFound _ _) => pure ()
  | .error e => throw e

def deleteAll (k : Kind) (selector : String) : Action Unit := do
  (← Action.list k selector).forM fun object => deleteIfPresent k object.name

/-- Removes the objects of the instances. What was built stays. -/
def undeploy (id : AppId) : Action Unit := do
  let selector := Labels.appSelector id
  deleteAll .route selector
  deleteAll .service selector
  deleteAll .deploymentConfig selector

def instanceStatus (dc : DeploymentConfig) : InstanceStatus where
  name := dc.name
  replicas := (dc.spec : DeploymentSpec).replicas
  available := match (dc.status : Option DeploymentStatus) with
    | some s => s.availableReplicas
    | none => 0

/-- The state of an application by its instances and the phase of its latest build. -/
def stateOf (latest : Option BuildPhase) (instances : List InstanceStatus) : AppState :=
  let ready := instances.filter fun i => i.replicas ≤ i.available
  if instances.isEmpty then .undeployed
  else if ready.length = instances.length then .deployed
  else if latest.any fun p => !p.isTerminal then .building
  else if latest.any BuildPhase.isFailure then .failed
  else if !ready.isEmpty || instances.any fun i => 0 < i.available then .partially
  else .deploying

/-- The phase of the youngest build. -/
def latestPhase (builds : List Build) : Option BuildPhase :=
  (BuildHistory.sort builds).getLast?.map Resource.phase

def status (id : AppId) : Action AppStatus := do
  let selector := Labels.appSelector id
  let dcs ← Action.list .deploymentConfig selector
  let builds ← Action.list .build selector
  let instances := (sortBy (fun a b => decide (a.name ≤ b.name)) dcs).map instanceStatus
  pure { state := stateOf (latestPhase builds) instances, instances }

end Deployer

end Slipway

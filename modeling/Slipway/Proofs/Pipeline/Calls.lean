import Slipway.Proofs.Cluster.Stored
import Slipway.Task

/-
  The calls that the deployer makes. What prepares an image looks at builds, writes image streams
  and build configurations, and starts builds (`only_prepare`). A deployment then writes its
  objects for each instance and rolls them out (`deploy_eq`, `only_runInstances`); a launch writes
  a pod or watches a build (`launch_eq`, `only_runTask`). Each action thus leaves the objects of
  all other kinds alone.
-/

namespace Slipway

variable {p : Call → Prop} {k : Kind}

namespace Call

/-- The calls that prepare an image. -/
def Builds : Call → Prop
  | get j _ | create j _ | replace j _ _ | delete j _ | awaitDeleted j _ _ =>
    j = .imageStream ∨ j = .buildConfig
  | list j _ => j = .build
  | instantiateBuild _ | submitBinaryBuild _ _ _ => True
  | watch _ _ | rollout _ => False

theorem IsOn.builds {c : Call} (h : c.IsOn k) (hk : k = .imageStream ∨ k = .buildConfig) :
    c.Builds := by
  cases c with
  | list | watch | instantiateBuild | submitBinaryBuild | rollout => exact h.elim
  | get | create | replace | delete | awaitDeleted => exact (show _ = k from h) ▸ hk

theorem Builds.not_changes {c : Call} (h : c.Builds) (hs : k ≠ .imageStream)
    (hc : k ≠ .buildConfig) (hb : k ≠ .build) : ¬ c.Changes k := by
  cases c with
  | get | list | watch => exact not_false
  | rollout => exact h.elim
  | instantiateBuild | submitBinaryBuild => exact hb
  | create | replace | delete | awaitDeleted =>
    intro hch
    rcases h with h | h
    · exact hs (hch.symm.trans h)
    · exact hc (hch.symm.trans h)

end Call

/-- What a kind of object keeps to itself: reconciling one leaves those of other kinds alone. -/
theorem Reconcile.only_not_changes {j : Kind} (desired : Resource k) (h : j ≠ k) :
    (Reconcile.reconcile desired).Only fun c => ¬ c.Changes j :=
  (Reconcile.only_reconcile desired).mono fun _ hc => hc.not_changes h

namespace Deployer

variable {d : Deployer} {r : Request}

/-! ## Preparing an image -/

theorem only_startBuild (hp : ∀ c, c.Builds → p c) (plan : BuildPlan) (id : AppId)
    (fileName : String) (content : Bytes) : (startBuild plan id fileName content).Only p := by
  cases plan <;> exact Action.only_ask (hp _ trivial)

section Prepare

variable {id : AppId} {labels : Attributes}
  (himage : (Reconcile.reconcile (Bundle.imageStream id labels)).Only p)
  (hconfig : ∀ plan fp tag bc, BuildPlan.buildConfig plan id labels fp tag r = .ok bc →
    (Reconcile.reconcile bc).Only p)
  (hstart : ∀ plan fileName content, (startBuild plan id fileName content).Only p)

include himage hconfig hstart

theorem only_build_of (content : Bytes) (tag : String) :
    (d.build r id labels content tag).Only p := by
  refine Action.only_bind (Action.only_ofResult _) fun plan => ?_
  split
  · exact Action.only_pure _
  · refine Action.only_bind himage fun _ => ?_
    refine Action.only_ofResult_bind fun bc hbc => ?_
    refine Action.only_bind (hconfig _ _ _ bc hbc) fun _ => ?_
    exact Action.only_bind (hstart _ _ _) fun _ => Action.only_pure _

/-- What prepares an image lists builds, reconciles the image stream and the build configuration of
    its application, and starts a build of that. -/
theorem only_prepare_of (hlist : p (.list .build (Labels.appSelector id))) :
    (d.prepare r id labels).Only p := by
  unfold prepare
  split
  · exact Action.only_pure _
  · refine Action.only_bind (Action.only_ofResult _) fun content => ?_
    refine Action.only_bind (Action.only_ask hlist) fun builds => ?_
    refine Action.only_bind (Action.only_ofResult _) fun earlier => ?_
    split
    · exact Action.only_pure _
    · exact only_build_of himage hconfig hstart _ _

end Prepare

theorem only_prepare (hp : ∀ c, c.Builds → p c) (id : AppId) (labels : Attributes) :
    (d.prepare r id labels).Only p :=
  only_prepare_of
    ((Reconcile.only_reconcile _).mono fun c hc => hp c (hc.builds (.inl rfl)))
    (fun _ _ _ _ _ => (Reconcile.only_reconcile _).mono fun c hc => hp c (hc.builds (.inr rfl)))
    (fun plan fileName content => only_startBuild hp plan id fileName content) (hp _ rfl)

/-! ## Deploying -/

/-- What a deployment does once the deployments of its instances are written. -/
def exposeInstances (d : Deployer) (r : Request) (order : DeployOrder) (prepared : Prepared)
    (instances : List Instance) : Action DeployOutcome := do
  let f := order.fanOut
  let _ ← addObjects f (Bundle.service d.config.servicePort order.exposure)
  if d.config.createRoute then
    let _ ← addObjects f (Bundle.route d.config r d.targetNamespace)
  rollOut prepared.imageSource instances
  pure { id := f.id, state := finalState prepared, instances := instances.map (·.id) }

/-- What a deployment does once there is an image, or will be. -/
def runInstances (d : Deployer) (r : Request) (order : DeployOrder) (prepared : Prepared) :
    Action DeployOutcome :=
  addObjects order.fanOut (Bundle.deploymentConfig order.settings prepared.imageSource) >>=
    d.exposeInstances r order prepared

theorem deploy_eq (d : Deployer) (r : Request) :
    d.deploy r = Action.ofResult (DeployOrder.ofRequest d.config r) >>= fun order =>
      d.prepare r order.fanOut.id order.fanOut.labels >>= d.runInstances r order := rfl

theorem only_addObjects {f : FanOut} {object : Instance → Resource k}
    (h : ∀ is, f.instances = .ok is → ∀ i ∈ is, (Reconcile.reconcile (object i)).Only p) :
    (addObjects f object).Only p := by
  refine Action.only_ofResult_bind fun is hf => ?_
  refine Action.only_bind (Action.only_forM fun i hi => ?_) fun _ => Action.only_pure _
  exact Action.only_bind (h is hf i hi) fun _ => Action.only_pure _

theorem only_rollOut (h : ∀ name, p (.rollout name)) (source : ImageSource)
    (is : List Instance) : (rollOut source is).Only p := by
  cases source with
  | trigger tag => exact Action.only_pure _
  | image reference =>
    exact Action.only_forM fun i _ =>
      Action.only_bind (Action.only_ask (h _)) fun _ => Action.only_pure _

section Instances

variable {order : DeployOrder} {prepared : Prepared}
  (hservice : ∀ x : Service, (Reconcile.reconcile x).Only p)
  (hroute : ∀ x : Route, (Reconcile.reconcile x).Only p) (hrollout : ∀ name, p (.rollout name))

include hservice hroute hrollout

theorem only_exposeInstances (is : List Instance) :
    (d.exposeInstances r order prepared is).Only p := by
  refine Action.only_bind (only_addObjects fun _ _ _ _ => hservice _) fun _ => ?_
  split
  · refine Action.only_bind (only_addObjects fun _ _ _ _ => hroute _) fun _ => ?_
    exact Action.only_bind (only_rollOut hrollout _ _) fun _ => Action.only_pure _
  · exact Action.only_bind (only_rollOut hrollout _ _) fun _ => Action.only_pure _

theorem only_runInstances (hdc : ∀ is, order.fanOut.instances = .ok is → ∀ i ∈ is,
      (Reconcile.reconcile
        (Bundle.deploymentConfig order.settings prepared.imageSource i)).Only p) :
    (d.runInstances r order prepared).Only p :=
  Action.only_bind (only_addObjects hdc) fun is =>
    only_exposeInstances hservice hroute hrollout is

end Instances

theorem runInstances_not_changes (hdc : k ≠ .deploymentConfig) (hservice : k ≠ .service)
    (hroute : k ≠ .route) (order : DeployOrder) (prepared : Prepared) :
    (d.runInstances r order prepared).Only fun c => ¬ c.Changes k :=
  only_runInstances (fun _ => Reconcile.only_not_changes _ hservice)
    (fun _ => Reconcile.only_not_changes _ hroute) (fun _ => hdc)
    fun _ _ _ _ => Reconcile.only_not_changes _ hdc

theorem only_deleteIfPresent (name : String) (h : p (.delete k name)) :
    (deleteIfPresent k name).Only p := by
  refine Action.only_bind (Action.only_attempt h) fun answer => ?_
  split
  · exact Action.only_pure _
  · exact Action.only_pure _
  · exact Action.only_throw _

theorem only_deleteAll (selector : String) (hl : p (.list k selector))
    (hd : ∀ name, p (.delete k name)) : (deleteAll k selector).Only p :=
  Action.only_bind (Action.only_ask hl) fun _ =>
    Action.only_forM fun _ _ => only_deleteIfPresent _ (hd _)

theorem only_undeploy (id : AppId) (hl : ∀ k selector, p (.list k selector))
    (hd : ∀ k name, k = .route ∨ k = .service ∨ k = .deploymentConfig → p (.delete k name)) :
    (undeploy id).Only p := by
  refine Action.only_bind (only_deleteAll _ (hl _ _) fun _ => hd _ _ (.inl rfl)) fun _ => ?_
  refine Action.only_bind (only_deleteAll _ (hl _ _) fun _ => hd _ _ (.inr (.inl rfl))) fun _ => ?_
  exact only_deleteAll _ (hl _ _) fun _ => hd _ _ (.inr (.inr rfl))

theorem only_status (id : AppId) (hl : ∀ k selector, p (.list k selector)) :
    (status id).Only p :=
  Action.only_bind (Action.only_ask (hl _ _)) fun _ =>
    Action.only_bind (Action.only_ask (hl _ _)) fun _ => Action.only_pure _

/-! ## Launching -/

/-- What a launch does once there is an image, or will be. -/
def runTask (order : TaskOrder) (prepared : Prepared) : Action Launched :=
  match prepared with
  | .submitted build tag => do
    let watch ← BuildWatch.start (Labels.appSelector order.id) build.name
    pure { id := order.id, state := prepared.state .watch, pending := some ⟨order, tag, watch⟩ }
  | .reused _ image => do
    let _ ← order.createPod image
    pure { id := order.id, state := .deployed image, pending := none }
  | .noBuild image => do
    let _ ← order.createPod image
    pure { id := order.id, state := .deployed image, pending := none }

theorem launch_eq (d : Deployer) (r : Request) :
    d.launch r = Action.ofResult (TaskOrder.ofRequest d.config r) >>= fun order =>
      d.prepare r order.id order.labels >>= runTask order := by
  unfold launch
  congr

theorem only_runTask (order : TaskOrder) (prepared : Prepared)
    (hpod : ∀ x : Pod, (Reconcile.reconcile x).Only p) (hw : ∀ k selector, p (.watch k selector)) :
    (runTask order prepared).Only p := by
  cases prepared with
  | submitted build tag =>
    refine Action.only_bind ?_ fun _ => Action.only_pure _
    exact Action.only_bind (Action.only_ask (hw _ _)) fun _ => Action.only_pure _
  | reused build image => exact Action.only_bind (hpod _) fun _ => Action.only_pure _
  | noBuild image => exact Action.only_bind (hpod _) fun _ => Action.only_pure _

theorem only_taskStatus (id : AppId) (hg : ∀ name, p (.get .pod name))
    (hl : ∀ k selector, p (.list k selector)) : (taskStatus id).Only p := by
  refine Action.only_bind (Action.only_ask (hg _)) fun pod => ?_
  split
  · exact Action.only_pure _
  · exact Action.only_bind (Action.only_ask (hl _ _)) fun _ => Action.only_pure _

end Deployer

end Slipway

import Slipway.Proofs.Cluster.Written
import Slipway.Proofs.Deploy.Placed
import Slipway.Proofs.Deploy.Replicas
import Slipway.Proofs.Pipeline.OutputTag

/-
  The course of a deployment that succeeds. First the image is prepared; then the deployments,
  services and, where routes are made, routes of the instances are written, each kind in the order
  of the instances; last come the rollouts (`Recorded`). There are two ways to end. Where a build is
  waited for, every deployment follows a tag and nothing is rolled out (`AwaitsImage`); where there
  is an image, every deployment runs it and is rolled out once (`RunsImage`). Which of the two it is
  shows in what preparing the image answers (`deploy_course`). The tag is the one that the request
  at hand asks for; a build that an earlier request started may push to another one
  (`deploy_follows_other_tag`).
-/

namespace Slipway

open Cluster Reconcile

namespace Resource

/-- What makes a deployment roll out anew. -/
def triggers (dc : DeploymentConfig) : List Trigger := (dc.spec : DeploymentSpec).triggers

/-- The images that the containers of a deployment run. -/
def images (dc : DeploymentConfig) : List (Option String) :=
  match (dc.spec : DeploymentSpec).template.bind (·.spec) with
  | some pod => pod.containers.map (·.image)
  | none => []

end Resource

/-- The operation is part of preparing an image. -/
def Operation.Prepares : Operation → Prop
  | create k _ | replace k _ | delete k _ | awaitDeleted k _ => k = .imageStream ∨ k = .buildConfig
  | instantiate _ | binary _ => True
  | rollout _ => False

theorem Call.Builds.prepares {c : Call} (h : c.Builds) (op : Operation)
    (hop : c.operation? = some op) : op.Prepares := by
  cases c with
  | get | list | watch => cases hop
  | create | replace | delete | awaitDeleted =>
    cases hop
    exact h
  | instantiateBuild | submitBinaryBuild =>
    cases hop
    trivial
  | rollout => exact h.elim

namespace Deployer

variable {s s' : Cluster} {d : Deployer} {r : Request} {order : DeployOrder}
  {prepared : Prepared} {source : ImageSource} {f : FanOut} {is : List Instance} {i : Instance}
  {o : DeployOutcome} {rollouts : List Operation}

/-! ## What is recorded -/

/-- The objects of the instances: kind after kind, each in the order of the instances. -/
def objectsOf (d : Deployer) (is : List Instance) : List (Kind × String) :=
  let each (k : Kind) := is.map fun i => (k, i.id.text)
  each .deploymentConfig ++ each .service ++ if d.config.createRoute then each .route else []

/-- The rollouts of the instances: none where a tag rolls out by itself. -/
def rolloutsOf (source : ImageSource) (is : List Instance) : List Operation :=
  match source with
  | .trigger _ => []
  | .image _ => is.map fun i => .rollout i.id.text

/-- Since the beginning of a deployment the preparation of its image was recorded, then its objects
    in their order and nothing else but the removal of objects of the same names, and last the
    rollouts. -/
def Recorded (d : Deployer) (is : List Instance) (s s' : Cluster) (rollouts : List Operation) :
    Prop :=
  ∃ preparation work, s'.log = s.log ++ preparation ++ work ++ rollouts ∧
    (∀ op ∈ preparation, op.Prepares) ∧
    work.filterMap Operation.added? = objectsOf d is ∧
    ∀ op ∈ work, ∃ x ∈ objectsOf d is, op.object? = some x

theorem added_addObjects {k : Kind} {object : Instance → Resource k}
    (hname : ∀ i, (object i).name = i.id.text)
    (h : s.perform (addObjects f object) = (.ok is, s')) :
    Added (is.map fun i => (k, i.id.text)) s s' := by
  obtain ⟨-, u, hforM⟩ := addObjects_eq_ok h
  refine added_forM (fun i s u s' hx => ?_) hforM
  obtain ⟨x, hx⟩ := perform_discard_eq_ok.1 hx
  rw [← hname i]
  exact added_reconcile hx

theorem log_rollOut {u : Unit} (h : s.perform (rollOut source is) = (.ok u, s')) :
    s'.log = s.log ++ rolloutsOf source is := by
  cases source with
  | trigger tag =>
    cases h
    exact (List.append_nil _).symm
  | image reference =>
    change s.perform (is.forM fun i => Functor.discard (Action.ask (.rollout i.id.text))) =
      (.ok u, s') at h
    show s'.log = s.log ++ is.map fun i => .rollout i.id.text
    induction is generalizing s with
    | nil =>
      cases h
      exact (List.append_nil _).symm
    | cons i is ih =>
      obtain ⟨_, s₁, h₁, h₂⟩ := perform_bind_eq_ok.1 h
      obtain ⟨dc, h₁⟩ := perform_discard_eq_ok.1 h₁
      have hone : s₁.log = s.log ++ [.rollout i.id.text] := by
        change s.rollout i.id.text = (.ok dc, s₁) at h₁
        unfold rollout at h₁
        split at h₁
        · cases h₁
        · cases h₁
          rfl
      rw [ih h₂, hone, List.append_assoc]
      rfl

/-- Once there is an image, or will be, the objects are added in their order and then rolled out. -/
theorem log_runInstances (h : s.perform (d.runInstances r order prepared) = (.ok o, s'))
    (hi : order.fanOut.instances = .ok is) :
    ∃ s₁, Added (objectsOf d is) s s₁ ∧ s'.log = s₁.log ++ rolloutsOf prepared.imageSource is := by
  obtain ⟨is', s₁, s₂, s₃, u, hi', -, hdc, hservice, hroute, hroll⟩ := runInstances_steps h
  obtain rfl : is' = is := Except.ok.inj (hi'.symm.trans hi)
  have hroutes : Added (if d.config.createRoute then is'.map fun i => (Kind.route, i.id.text)
      else []) s₂ s₃ := by
    rcases hr : d.config.createRoute with _ | _
    · rw [hr] at hroute
      exact added_nil (congrArg Cluster.log hroute)
    · rw [hr] at hroute
      exact added_addObjects (fun _ => rfl) hroute
  have hdcs := added_addObjects (fun _ => rfl) hdc
  have hservices := added_addObjects (fun _ => rfl) hservice
  exact ⟨s₃, (hdcs.trans hservices).trans hroutes, log_rollOut hroll⟩

/-! ## What is deployed -/

/-- Every instance has a deployment that follows a tag, a build is waited for that will push an
    image, and nothing is rolled out. -/
structure AwaitsImage (s : Cluster) (o : DeployOutcome) (is : List Instance)
    (rollouts : List Operation) (build tag : String) : Prop where
  state_eq : o.state = .building build .trigger
  deployments : ∀ i ∈ is, ∃ dc, s.find? .deploymentConfig i.id.text = some dc ∧
    dc.triggers = [Trigger.onConfigChange, Trigger.onImageChange i.id.text tag]
  rollouts_eq : rollouts = []

/-- Every instance has a deployment that runs an image and is rolled out once, in the order of the
    instances. -/
structure RunsImage (s : Cluster) (o : DeployOutcome) (is : List Instance)
    (rollouts : List Operation) (image : String) : Prop where
  state_eq : o.state = .deployed image
  deployments : ∀ i ∈ is, ∃ dc, s.find? .deploymentConfig i.id.text = some dc ∧
    dc.images = [some image] ∧ dc.triggers = []
  rollouts_eq : rollouts = is.map fun i => .rollout i.id.text

theorem AwaitsImage.not_runsImage {build tag : String} (h : AwaitsImage s o is rollouts build tag)
    (image : String) : ¬ RunsImage s o is rollouts image := fun h' => by
  have hstate := h.state_eq.symm.trans h'.state_eq
  cases hstate

/-- The deployment of an instance has its image and its triggers from the same source. -/
theorem Deployed.image (h : Deployed d r order prepared is s s') (hi : i ∈ is) :
    ∃ dc, s'.find? .deploymentConfig i.id.text = some dc ∧
      dc.images = [some (Bundle.imageOf prepared.imageSource)] ∧
      dc.triggers = Bundle.triggersOf i.id.text prepared.imageSource := by
  obtain ⟨dc, hdc, hwant, -⟩ := h.deployments.mem i hi
  have himages : dc.images = dc.unstamped.images := rfl
  have htriggers : dc.triggers = dc.unstamped.triggers := rfl
  refine ⟨dc, hdc, ?_, ?_⟩
  · rw [himages, hwant]
    cases prepared.imageSource <;> rfl
  · rw [htriggers, hwant]
    cases prepared.imageSource <;> rfl

/-! ## The whole course -/

/-- A deployment that succeeds records the preparation of its image, its objects kind after kind in
    the order of the instances, and its rollouts. If preparing the image answers that a build was
    submitted, every deployment follows the output tag of the request, which is that of the build
    unless this is an earlier one, and nothing is rolled out. If it answers with an image, every
    deployment runs it and is rolled out. It is never both. -/
theorem deploy_course (h : (d.deploy r).run s = (some (.ok o), s')) :
    ∃ order is prepared s₁ rollouts, DeployOrder.ofRequest d.config r = .ok order ∧
      order.fanOut.instances = .ok is ∧
      (d.prepare r r.appId (Labels.base r.appId r)).run s = (some (.ok prepared), s₁) ∧
      o.instances = is.map (·.id) ∧ Recorded d is s s' rollouts ∧
      ((∃ b tag, prepared = .submitted b tag ∧ AwaitsImage s' o is rollouts b.name tag ∧
          tag = BuildPlan.outputTag d.config r r.appId ∧
          (b.outputTag? = some tag ∨ b ∈ s.matching .build (Labels.appSelector r.appId)) ∧
          ∀ image, ¬ RunsImage s' o is rollouts image) ∨
        ∃ image, (prepared = .noBuild image ∨ ∃ build, prepared = .reused build image) ∧
          RunsImage s' o is rollouts image ∧
          ∀ build tag, ¬ AwaitsImage s' o is rollouts build tag) := by
  have hperform := run_eq_some_iff.1 h
  rw [deploy_eq] at hperform
  obtain ⟨order, s₀, horder, hprepare⟩ := perform_bind_eq_ok.1 hperform
  obtain ⟨ho, rfl⟩ := Prod.mk.inj horder
  obtain ⟨prepared, s₁, hp, hrun⟩ := perform_bind_eq_ok.1 hprepare
  obtain ⟨is, hi, rfl, hdeployed⟩ := runInstances_eq_ok hrun
  have hof := DeployOrder.ofRequest_eq_ok ho
  rw [hof.id, hof.labels] at hp
  have hpreparation := prepare_preparation d r r.appId (Labels.base r.appId r) s
  have hlog := logsOnly_perform (P := Operation.Prepares)
    (only_prepare (d := d) (r := r) (fun _ => Call.Builds.prepares) r.appId
      (Labels.base r.appId r)) s
  rw [hp] at hpreparation hlog
  obtain ⟨preparation, hlog, hprepares⟩ := hlog
  obtain ⟨s₂, ⟨work, hwork, hadded, hobjects⟩, hrollouts⟩ := log_runInstances hrun hi
  refine ⟨order, is, prepared, s₁, rolloutsOf prepared.imageSource is, ho, hi,
    run_eq_some_iff.2 hp, rfl,
    ⟨preparation, work, by rw [hrollouts, hwork, hlog], hprepares, hadded, hobjects⟩, ?_⟩
  have hruns : ∀ image, prepared.imageSource = .image image →
      RunsImage s' ⟨order.fanOut.id, finalState prepared, is.map (·.id)⟩ is
        (rolloutsOf prepared.imageSource is) image := by
    intro image hsource
    refine ⟨?_, fun i hmem => ?_, by rw [hsource, rolloutsOf]⟩
    · simp only [finalState, hsource]
    · obtain ⟨dc, hdc, himages, htriggers⟩ := hdeployed.image hmem
      rw [hsource] at himages htriggers
      exact ⟨dc, hdc, himages, htriggers⟩
  cases prepared with
  | submitted b tag =>
    have hawaits : AwaitsImage s' ⟨order.fanOut.id, .building b.name .trigger, is.map (·.id)⟩ is
        [] b.name tag := by
      refine ⟨rfl, fun i hmem => ?_, rfl⟩
      obtain ⟨dc, hdc, -, htriggers⟩ := hdeployed.image hmem
      exact ⟨dc, hdc, htriggers⟩
    refine .inl ⟨b, tag, rfl, hawaits, ?_, ?_, hawaits.not_runsImage⟩
    · cases hpreparation with
      | unchanged hbuilds hne => exact absurd rfl (hne b tag)
      | followed hb hphase => rfl
      | started hb htag => rfl
    · cases hpreparation with
      | unchanged hbuilds hne => exact absurd rfl (hne b tag)
      | followed hb hphase => exact .inr hb
      | started hb htag => exact .inl htag
  | reused build image =>
    have himage := hruns image rfl
    exact .inr ⟨image, .inr ⟨build, rfl⟩, himage, fun _ _ h => h.not_runsImage image himage⟩
  | noBuild image =>
    have himage := hruns image rfl
    exact .inr ⟨image, .inl rfl, himage, fun _ _ h => h.not_runsImage image himage⟩

/-! ## A deployment that follows an earlier build -/

/-- The platform with a build of `ticker` going on, after `ticker` was deployed once more with a tag
    of its own; and what that gave. -/
def tickerTaggedRun : Option (Result DeployOutcome) × Cluster :=
  ((Deployer.ofContent []).deploy tickerTagged).run (Session.ofRun deployedOnce).platform

/-- The state that is told, the triggers of the deployment, and the tag that the build pushes to. -/
theorem tickerTaggedRun_eq :
    view? (fun o : DeployOutcome => some o.state) tickerTaggedRun =
      some (.building "ticker-1" .trigger) ∧
    (tickerTaggedRun.2.find? .deploymentConfig "ticker").map Resource.triggers =
      some [Trigger.onConfigChange, Trigger.onImageChange "ticker" "ticker:1.0"] ∧
    (tickerTaggedRun.2.find? .build "ticker-1").map (fun b => (b.name, b.outputTag?)) =
      some ("ticker-1", some "ticker:latest") := by
  decide +kernel

theorem deploy_course_tickerTagged : ∃ o s' is rollouts, tickerTaggedRun = (some (.ok o), s') ∧
    o.instances = is.map (·.id) ∧
    Recorded (Deployer.ofContent []) is (Session.ofRun deployedOnce).platform s' rollouts ∧
    AwaitsImage s' o is rollouts "ticker-1" "ticker:1.0" := by
  obtain ⟨o, s', h, hstate⟩ := exists_of_view? tickerTaggedRun_eq.1
  have hstate : o.state = .building "ticker-1" .trigger := Option.some.inj hstate
  obtain ⟨order, is, prepared, s₁, rollouts, -, -, -, hids, hrecorded, hshape⟩ := deploy_course h
  refine ⟨o, s', is, rollouts, h, hids, hrecorded, ?_⟩
  rcases hshape with ⟨b, tag, -, hawaits, rfl, -⟩ | ⟨image, -, hruns, -⟩
  · have htag : BuildPlan.outputTag (Deployer.ofContent []).config tickerTagged
        tickerTagged.appId = "ticker:1.0" := by
      decide +kernel
    obtain ⟨hname, -⟩ := PipelineState.building.inj (hawaits.state_eq.symm.trans hstate)
    rw [hname, htag] at hawaits
    exact hawaits
  · have hdeployed := hruns.state_eq.symm.trans hstate
    cases hdeployed

/-- The deployment is set to follow another tag than the one that the build pushes to which it is
    said to wait for. -/
theorem deploy_follows_other_tag : ∃ o s' b dc, tickerTaggedRun = (some (.ok o), s') ∧
    o.state = .building b.name .trigger ∧ s'.find? .build b.name = some b ∧
    b.outputTag? = some "ticker:latest" ∧ s'.find? .deploymentConfig "ticker" = some dc ∧
    dc.triggers = [Trigger.onConfigChange, Trigger.onImageChange "ticker" "ticker:1.0"] := by
  obtain ⟨hview, htriggers, hbuild⟩ := tickerTaggedRun_eq
  obtain ⟨o, s', h, hstate⟩ := exists_of_view? hview
  rw [h] at htriggers hbuild
  obtain ⟨dc, hdc, htriggers⟩ := Option.map_eq_some_iff.1 htriggers
  obtain ⟨b, hb, hbuild⟩ := Option.map_eq_some_iff.1 hbuild
  obtain ⟨hname, htag⟩ := Prod.mk.inj hbuild
  refine ⟨o, s', b, dc, h, ?_, ?_, htag, hdc, htriggers⟩
  · rw [hname]
    exact Option.some.inj hstate
  · rw [hname]
    exact hb

end Deployer

end Slipway

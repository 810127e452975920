import Slipway.Proofs.Deploy.Instances
import Slipway.Proofs.Pipeline.Prepare
import Slipway.Proofs.Program.Failures
import Slipway.Proofs.Session.Runs

/-
  How deployments and launches fail. A request is checked as a whole before anything is done, so of
  the checks that are made again later none can fail (`instances_of_order`,
  `exists_buildConfig_of_nodeSelector`). What else can be found wrong without the platform is a
  `Refusal`: the artifact or a Dockerfile cannot be read. Once the platform was changed, an action
  fails only by its last call, whose answer it passes on (`failure_cases`).
-/

namespace Slipway

variable {d : Deployer} {r : Request} {c : Config} {α : Type} {k : Kind}

/-! ## What can be found wrong with a request -/

namespace Failure

/-- The failures of a request or a configuration that makes no sense. -/
def IsConfig (e : Failure) : Prop := ∃ fault, e = .config fault

/-- The failures that come of a request and of the files it needs. -/
def IsPreparatory : Failure → Prop
  | .config _ | .artifactUnreadable _ _ | .archiveUnreadable _ _ | .dockerfileUnreadable _ _ => True
  | _ => False

theorem IsConfig.isPreparatory {e : Failure} (h : e.IsConfig) : e.IsPreparatory := by
  obtain ⟨fault, rfl⟩ := h
  trivial

end Failure

open Result

/-! ## Requests -/

namespace Request

theorem parseBool_failsWith (key value : String) :
    (parseBool key value).FailsWith Failure.IsConfig := by
  unfold parseBool
  split
  · exact failsWith_ok _
  · exact failsWith_ok _
  · exact failsWith_error ⟨_, rfl⟩

theorem boolProperty_failsWith (r : Request) (key : String) :
    (r.boolProperty key).FailsWith Failure.IsConfig := by
  unfold boolProperty
  split
  · exact failsWith_ok _
  · exact failsWith_map (parseBool_failsWith _ _)

theorem parsePair_failsWith (separator : Char) (key entry : String) :
    (parsePair separator key entry).FailsWith Failure.IsConfig := by
  unfold parsePair
  split
  · dsimp only
    split
    · exact failsWith_error ⟨_, rfl⟩
    · exact failsWith_ok _
  · exact failsWith_error ⟨_, rfl⟩

theorem pairsProperty_failsWith (r : Request) (separator : Char) (key : String) :
    (r.pairsProperty separator key).FailsWith Failure.IsConfig := by
  unfold pairsProperty
  split
  · exact failsWith_ok _
  · exact failsWith_bind (failsWith_mapM (parsePair_failsWith separator key) _)
      fun _ => failsWith_ok _

theorem count_failsWith (r : Request) : r.count.FailsWith Failure.IsConfig := by
  unfold count
  split
  · exact failsWith_ok _
  · split
    · split
      · exact failsWith_ok _
      · exact failsWith_error ⟨_, rfl⟩
    · exact failsWith_error ⟨_, rfl⟩

theorem count_le {n : UInt32} (h : r.count = .ok n) : n.toNat ≤ 2147483647 := by
  unfold count at h
  split at h
  · cases h
    decide
  · split at h
    · split at h
      next hle =>
        cases h
        exact hle
      · cases h
    · cases h

end Request

theorem Exposure.ofRequest_failsWith (r : Request) :
    (Exposure.ofRequest r).FailsWith Failure.IsConfig := by
  unfold ofRequest
  split
  · exact failsWith_ok _
  · split
    · exact failsWith_ok _
    · split
      · exact failsWith_ok _
      · split
        · exact failsWith_ok _
        · exact failsWith_error ⟨_, rfl⟩

theorem BuildHistory.forcesBuild_failsWith (r : Request) (c : Config) :
    (forcesBuild r c).FailsWith Failure.IsConfig :=
  failsWith_bind (r.boolProperty_failsWith _) fun _ => failsWith_ok _

theorem ContainerSettings.ofRequest_failsWith (c : Config) (r : Request) :
    (ofRequest c r).FailsWith Failure.IsConfig :=
  failsWith_bind (r.pairsProperty_failsWith _ _) fun _ => failsWith_ok _

theorem DeployOrder.ofRequest_failsWith (c : Config) (r : Request) :
    (ofRequest c r).FailsWith Failure.IsConfig := by
  refine failsWith_bind (ContainerSettings.ofRequest_failsWith c r) fun _ => ?_
  refine failsWith_bind (Exposure.ofRequest_failsWith r) fun _ => ?_
  refine failsWith_bind (r.pairsProperty_failsWith _ _) fun _ => ?_
  refine failsWith_bind
    (failsWith_bind (r.boolProperty_failsWith _) fun _ => failsWith_ok _) fun _ => ?_
  refine failsWith_bind r.count_failsWith fun _ => ?_
  exact failsWith_bind (BuildHistory.forcesBuild_failsWith r c) fun _ => failsWith_ok _

theorem TaskOrder.ofRequest_failsWith (c : Config) (r : Request) :
    (ofRequest c r).FailsWith Failure.IsConfig := by
  refine failsWith_bind (ContainerSettings.ofRequest_failsWith c r) fun _ => ?_
  refine failsWith_bind (r.pairsProperty_failsWith _ _) fun _ => ?_
  exact failsWith_bind (BuildHistory.forcesBuild_failsWith r c) fun _ => failsWith_ok _

/-! ## Checks that are made again -/

/-- What has been found out when the order of a request was made. -/
structure Request.IsChecked (r : Request) (c : Config) : Prop where
  nodeSelector : ∃ selector, r.nodeSelector = .ok selector
  forcesBuild : ∃ forced, BuildHistory.forcesBuild r c = .ok forced

theorem ContainerSettings.nodeSelector_of_ofRequest {s : ContainerSettings}
    (h : ofRequest c r = .ok s) : ∃ selector, r.nodeSelector = .ok selector := by
  obtain ⟨selector, hs, -⟩ := bind_eq_ok.1 h
  exact ⟨selector, hs⟩

theorem DeployOrder.isChecked {o : DeployOrder} (h : ofRequest c r = .ok o) : r.IsChecked c := by
  obtain ⟨settings, hs, h⟩ := bind_eq_ok.1 h
  obtain ⟨_, -, h⟩ := bind_eq_ok.1 h
  obtain ⟨_, -, h⟩ := bind_eq_ok.1 h
  obtain ⟨_, -, h⟩ := bind_eq_ok.1 h
  obtain ⟨_, -, h⟩ := bind_eq_ok.1 h
  obtain ⟨forced, hf, -⟩ := bind_eq_ok.1 h
  exact ⟨ContainerSettings.nodeSelector_of_ofRequest hs, forced, hf⟩

theorem TaskOrder.isChecked {o : TaskOrder} (h : ofRequest c r = .ok o) : r.IsChecked c := by
  obtain ⟨settings, hs, h⟩ := bind_eq_ok.1 h
  obtain ⟨_, -, h⟩ := bind_eq_ok.1 h
  obtain ⟨forced, hf, -⟩ := bind_eq_ok.1 h
  exact ⟨ContainerSettings.nodeSelector_of_ofRequest hs, forced, hf⟩

/-- The count of a request fits, so it can be spread over its instances. -/
theorem DeployOrder.instances_of_order {o : DeployOrder} (h : ofRequest c r = .ok o) :
    ∃ is, o.fanOut.instances = .ok is :=
  FanOut.exists_instances_of_le (Request.count_le (DeployOrder.ofRequest_eq_ok h).count)

/-- A plan that needs a build has a build configuration if the node selector makes sense. -/
theorem BuildPlan.exists_buildConfig_of_nodeSelector {plan : BuildPlan}
    (hplan : ∀ reference, plan ≠ .image reference)
    (hr : ∃ selector, r.nodeSelector = .ok selector) (id : AppId) (labels : Attributes)
    (fp : Fingerprint) (tag : String) : ∃ bc, plan.buildConfig id labels fp tag r = .ok bc := by
  obtain ⟨selector, hs⟩ := hr
  have hsource : ∃ both, plan.sourceAndStrategy r.artifact.fileName fp = .ok both := by
    cases plan with
    | image reference => exact absurd rfl (hplan reference)
    | git => exact ⟨_, rfl⟩
    | dockerfile => exact ⟨_, rfl⟩
    | upload => exact ⟨_, rfl⟩
  obtain ⟨⟨source, strategy⟩, hb⟩ := hsource
  unfold buildConfig
  rw [hb, hs]
  exact ⟨_, rfl⟩

/-! ## What is found out before the first change -/

/-- Why a request is turned down without the platform having a part in it: `parsed` is what it comes
    down to, unless it makes no sense; and its artifact or a Dockerfile may be unreadable. -/
inductive Refusal (d : Deployer) (r : Request) (parsed : Result α) : Failure → Prop
  | request {fault : ConfigFault} (h : parsed = .error (.config fault)) :
    Refusal d r parsed (.config fault)
  | content {e : Failure} (h : d.resolver.bytes r.artifact = .error e) : Refusal d r parsed e
  | sourceControl {e : Failure} (h : d.resolver.sourceControl r.artifact = .error e) :
    Refusal d r parsed e
  | packedFile {e : Failure} {path : String} (h : d.resolver.file r.artifact path = .error e) :
    Refusal d r parsed e
  | dockerfile {path : String} {cause : FileError} (h : d.files.readText path = .error cause) :
    Refusal d r parsed (.dockerfileUnreadable path cause)

/-- All that a resolver fails with comes of artifacts and their files. -/
structure Resolver.IsPreparatory (R : Resolver) : Prop where
  bytes : ∀ a, (R.bytes a).FailsWith Failure.IsPreparatory
  sourceControl : ∀ a, (R.sourceControl a).FailsWith Failure.IsPreparatory
  file : ∀ a path, (R.file a path).FailsWith Failure.IsPreparatory

theorem Refusal.isPreparatory {parsed : Result α} {e : Failure} (h : Refusal d r parsed e)
    (hd : d.resolver.IsPreparatory) : e.IsPreparatory := by
  cases h with
  | request => trivial
  | content h => exact hd.bytes _ _ h
  | sourceControl h => exact hd.sourceControl _ _ h
  | packedFile h => exact hd.file _ _ _ h
  | dockerfile => trivial

namespace Resolver

theorem failsWith_mapError {ε : Type} {x : Except ε α} {f : ε → Failure} {P : Failure → Prop}
    (h : ∀ e, P (f e)) : FailsWith P (x.mapError f) := by
  cases x with
  | error e => exact failsWith_error (h e)
  | ok a => exact failsWith_ok _

theorem locate_failsWith (repository : Option String) (a : ArtifactRef) :
    (locate repository a).FailsWith Failure.IsPreparatory := by
  cases a with
  | file path => exact failsWith_ok _
  | maven coordinates =>
    cases repository with
    | some root => exact failsWith_ok _
    | none => exact failsWith_error trivial
  | image image => exact failsWith_error trivial

theorem localBytes_failsWith (files : Files) (repository : Option String) (a : ArtifactRef) :
    (localBytes files repository a).FailsWith Failure.IsPreparatory :=
  failsWith_bind (locate_failsWith repository a) fun _ => failsWith_mapError fun _ => trivial

theorem packedFile_failsWith (files : Files) (repository : Option String) (a : ArtifactRef)
    (path : String) : (packedFile files repository a path).FailsWith Failure.IsPreparatory := by
  unfold packedFile
  split
  · exact failsWith_ok _
  · refine failsWith_bind (localBytes_failsWith files repository a) fun content => ?_
    refine failsWith_bind (failsWith_mapError fun _ => trivial) fun archive => ?_
    split
    · exact failsWith_ok _
    · exact failsWith_mapError fun _ => trivial

theorem stampAt_failsWith {file : String → Result (Option Bytes)}
    (h : ∀ path, (file path).FailsWith Failure.IsPreparatory) (paths : List String) :
    (stampAt file paths).FailsWith Failure.IsPreparatory := by
  induction paths with
  | nil => exact failsWith_ok _
  | cons path paths ih =>
    refine failsWith_bind (h path) fun content => ?_
    split
    · exact failsWith_ok _
    · exact ih

/-- Artifacts on the local file system fail in no other way. -/
theorem isPreparatory_ofFiles (files : Files) (repository : Option String) :
    (ofFiles files repository).IsPreparatory where
  bytes := localBytes_failsWith files repository
  sourceControl a := stampAt_failsWith (packedFile_failsWith files repository a) _
  file := packedFile_failsWith files repository

end Resolver

namespace BuildPlan

theorem refusal_of_isUnsourced {parsed : Result α} {e : Failure}
    (h : IsUnsourced d.files d.config r (.error e)) : Refusal d r parsed e := by
  cases h with
  | unreadable raw cause _ _ _ hread => exact .dockerfile hread

/-- The choice of a plan fails where the artifact or a Dockerfile cannot be read. -/
theorem choose_failsWith {parsed : Result α} :
    ((choose d.files d.config r).run d.resolver r.artifact).1.FailsWith (Refusal d r parsed) := by
  intro e h
  have hchosen := isChosen_choose d.files d.config r d.resolver
  rw [h] at hchosen
  generalize (choose d.files d.config r).asked d.resolver r.artifact = questions at hchosen
  cases hchosen with
  | sourceUnknown _ _ hs => exact .sourceControl hs
  | unstamped _ _ _ hu => exact refusal_of_isUnsourced hu
  | fileUnknown source path _ _ _ hpath hf =>
    rw [← isPackedBelow_iff.1 hpath] at hf
    exact .packedFile hf
  | unpacked source path _ _ _ _ _ hu => exact refusal_of_isUnsourced hu

end BuildPlan

/-! ## What is passed on -/

open Slipway.Action

namespace Reconcile

theorem passesOn_deleteAndWait (existing : Resource k) : (deleteAndWait existing).PassesOn := by
  refine passesOn_attempt fun answer => ?_
  split
  · exact failsBy_pure _
  · exact failsBy_throw_last _
  · split
    · exact (passesOn_ask _).failsBy _ _
    · exact failsBy_pure _

theorem passesOn_create (name : String) (desired : Resource k) :
    (create name desired).PassesOn := by
  refine passesOn_attempt fun answer => ?_
  split
  · exact failsBy_pure _
  · split
    · refine PassesOn.failsBy (passesOn_bind (passesOn_ask (.get k name)) fun existing => ?_) _ _
      cases existing with
      | some existing =>
        exact passesOn_bind (passesOn_deleteAndWait _) fun _ => passesOn_ask (.create k desired)
      | none => exact passesOn_ask (.create k desired)
    · exact failsBy_throw_last _

theorem passesOn_reconcile (desired : Resource k) : (reconcile desired).PassesOn := by
  refine passesOn_bind (passesOn_ask _) fun existing => ?_
  split
  · exact passesOn_create _ _
  · split
    · exact passesOn_ask _
    · exact passesOn_bind (passesOn_deleteAndWait _) fun _ => passesOn_create _ _

end Reconcile

namespace Deployer

open Reconcile

theorem passesOn_startBuild (plan : BuildPlan) (id : AppId) (fileName : String)
    (content : Bytes) : (startBuild plan id fileName content).PassesOn := by
  cases plan <;> exact passesOn_ask _

/-- Once a plan is made, preparing a build fails by its last call only. -/
theorem passesOn_setUp {plan : BuildPlan} (hplan : ∀ reference, plan ≠ .image reference)
    (hr : r.IsChecked c) (id : AppId) (labels : Attributes) (content : Bytes) (tag : String) :
    (setUp plan r id labels content tag).PassesOn := by
  obtain ⟨bc, hbc⟩ := BuildPlan.exists_buildConfig_of_nodeSelector hplan hr.nodeSelector id labels
    (Fingerprint.of content) tag
  refine passesOn_bind (passesOn_reconcile _) fun _ => ?_
  refine passesOn_ofResult_bind hbc ?_
  refine passesOn_bind (passesOn_reconcile _) fun _ => ?_
  exact passesOn_bind (passesOn_startBuild _ _ _ _) fun _ => failsBy_pure _

theorem failsBy_build {parsed : Result α} (hr : r.IsChecked c) (id : AppId) (labels : Attributes)
    (content : Bytes) (tag : String) (last : Option Failure) :
    (d.build r id labels content tag).FailsBy (Refusal d r parsed) true last := by
  refine failsBy_ofResult_bind BuildPlan.choose_failsWith fun plan _ => ?_
  cases plan with
  | image reference => exact failsBy_pure _
  | git uri branch contextDir secret =>
    exact (passesOn_setUp (fun _ h => by cases h) hr id labels content tag).failsBy _ _
  | dockerfile contents =>
    exact (passesOn_setUp (fun _ h => by cases h) hr id labels content tag).failsBy _ _
  | upload baseImage =>
    exact (passesOn_setUp (fun _ h => by cases h) hr id labels content tag).failsBy _ _

theorem failsBy_prepare {parsed : Result α} (hr : r.IsChecked d.config) (id : AppId)
    (labels : Attributes) :
    (d.prepare r id labels).FailsBy (Refusal d r parsed) true none := by
  by_cases hi : ∃ reference, r.artifact = .image reference
  · obtain ⟨reference, hi⟩ := hi
    rw [prepare_of_image hi]
    exact failsBy_pure _
  rw [prepare_of_not_image fun reference h => hi ⟨reference, h⟩]
  refine failsBy_ofResult_bind (fun e h => .content h) fun content _ => ?_
  refine failsBy_bind_of_quiet ((passesOn_ask _).failsBy _ _) (only_ask rfl) fun builds last => ?_
  have hreuse : ∃ earlier, BuildHistory.toReuse? r d.config builds (Fingerprint.of content) =
      .ok earlier := by
    obtain ⟨forced, hf⟩ := hr.forcesBuild
    exact ⟨_, BuildHistory.toReuse?_eq_ok.2 ⟨forced, hf, rfl⟩⟩
  obtain ⟨earlier, he⟩ := hreuse
  rw [he]
  cases earlier with
  | some b => exact failsBy_pure _
  | none => exact failsBy_build hr id labels content _ last

theorem passesOn_addObjects {f : FanOut} {is : List Instance} (hf : f.instances = .ok is)
    (object : Instance → Resource k) : (addObjects f object).PassesOn := by
  refine passesOn_ofResult_bind hf ?_
  refine passesOn_bind (passesOn_forM fun i _ => ?_) fun _ => failsBy_pure _
  exact passesOn_bind (passesOn_reconcile _) fun _ => failsBy_pure _

theorem passesOn_rollOut (source : ImageSource) (is : List Instance) :
    (rollOut source is).PassesOn := by
  cases source with
  | trigger tag => exact failsBy_pure _
  | image reference =>
    exact passesOn_forM fun i _ => passesOn_bind (passesOn_ask _) fun _ => failsBy_pure _

theorem passesOn_runInstances {order : DeployOrder} {is : List Instance}
    (hf : order.fanOut.instances = .ok is) (prepared : Prepared) :
    (d.runInstances r order prepared).PassesOn := by
  refine passesOn_bind (passesOn_addObjects hf _) fun is' => ?_
  refine passesOn_bind (passesOn_addObjects hf _) fun _ => ?_
  split
  · refine passesOn_bind (passesOn_addObjects hf _) fun _ => ?_
    exact passesOn_bind (passesOn_rollOut _ _) fun _ => failsBy_pure _
  · exact passesOn_bind (passesOn_rollOut _ _) fun _ => failsBy_pure _

theorem failsBy_deploy (d : Deployer) (r : Request) :
    (d.deploy r).FailsBy (Refusal d r (DeployOrder.ofRequest d.config r)) true none := by
  rw [deploy_eq]
  refine failsBy_ofResult_bind (fun e h => ?_) fun order ho => ?_
  · obtain ⟨fault, rfl⟩ := DeployOrder.ofRequest_failsWith _ _ e h
    exact .request h
  · obtain ⟨is, hf⟩ := DeployOrder.instances_of_order ho
    exact failsBy_bind (failsBy_prepare (DeployOrder.isChecked ho) _ _) fun prepared =>
      passesOn_runInstances hf prepared

theorem passesOn_runTask (order : TaskOrder) (prepared : Prepared) :
    (runTask order prepared).PassesOn := by
  cases prepared with
  | submitted build tag =>
    refine passesOn_bind ?_ fun _ => failsBy_pure _
    exact passesOn_bind (passesOn_ask _) fun _ => failsBy_pure _
  | reused build image => exact passesOn_bind (passesOn_reconcile _) fun _ => failsBy_pure _
  | noBuild image => exact passesOn_bind (passesOn_reconcile _) fun _ => failsBy_pure _

theorem failsBy_launch (d : Deployer) (r : Request) :
    (d.launch r).FailsBy (Refusal d r (TaskOrder.ofRequest d.config r)) true none := by
  rw [launch_eq]
  refine failsBy_ofResult_bind (fun e h => ?_) fun order ho => ?_
  · obtain ⟨fault, rfl⟩ := TaskOrder.ofRequest_failsWith _ _ e h
    exact .request h
  · exact failsBy_bind (failsBy_prepare (TaskOrder.isChecked ho) _ _) fun prepared =>
      passesOn_runTask order prepared

/-! ## The ways to fail -/

variable {σ : Type} [Platform σ]

/-- The ways in which a run of an action on a platform may have failed. -/
inductive FailureCase (d : Deployer) (r : Request) {β : Type} (parsed : Result β) (a : Action α)
    (s : σ) (e : Failure) : Prop
  /-- The last call that was made was answered with the failure. -/
  | passedOn {c : Call} (h : (a.exchanges s).getLast? = some ⟨c, .error e⟩)
  /-- The request was turned down, and no call was made that changes the platform. -/
  | refused (h : Refusal d r parsed e) (hkind : d.resolver.IsPreparatory → e.IsPreparatory)
    (hquiet : ∀ x ∈ a.exchanges s, x.call.mutates = false)

theorem failureCase_of_failsBy {β : Type} {parsed : Result β} {a : Action α}
    (ha : a.FailsBy (Refusal d r parsed) true none) {s s' : σ} {e : Failure}
    (h : a.run s = (some (.error e), s')) : FailureCase d r parsed a s e := by
  rcases failure_of_failsBy ha h with ⟨c, hc⟩ | ⟨he, hx⟩
  · exact .passedOn hc
  · exact .refused he he.isPreparatory hx

/-- On any platform, whatever it answers, and for any resolver, a deployment or a launch that fails
    passes on the answer to its last call, or refuses the request before it has changed anything. So
    the checks that are made again after the first change cannot fail there: once a request makes
    sense, it can be spread over its instances, and each plan that needs a build has a build
    configuration. A resolver of local files has no failures of its own but preparatory ones. -/
theorem failure_cases (d : Deployer) (r : Request) (s : σ) :
    (∀ e s', (d.deploy r).run s = (some (.error e), s') →
      FailureCase d r (DeployOrder.ofRequest d.config r) (d.deploy r) s e) ∧
    (∀ e s', (d.launch r).run s = (some (.error e), s') →
      FailureCase d r (TaskOrder.ofRequest d.config r) (d.launch r) s e) ∧
    (∀ order, DeployOrder.ofRequest d.config r = .ok order →
      ∃ is, order.fanOut.instances = .ok is) ∧
    ((∃ order, DeployOrder.ofRequest d.config r = .ok order) ∨
        (∃ order, TaskOrder.ofRequest d.config r = .ok order) →
      ∀ plan : BuildPlan, (∀ reference, plan ≠ .image reference) → ∀ id labels fp tag,
        ∃ bc, plan.buildConfig id labels fp tag r = .ok bc) ∧
    ∀ files repository, (Resolver.ofFiles files repository).IsPreparatory := by
  refine ⟨fun e s' h => failureCase_of_failsBy (failsBy_deploy d r) h,
    fun e s' h => failureCase_of_failsBy (failsBy_launch d r) h,
    fun order => DeployOrder.instances_of_order, fun ho plan hplan id labels fp tag => ?_,
    Resolver.isPreparatory_ofFiles⟩
  have hr : r.IsChecked d.config := by
    rcases ho with ⟨order, ho⟩ | ⟨order, ho⟩
    · exact DeployOrder.isChecked ho
    · exact TaskOrder.isChecked ho
  exact BuildPlan.exists_buildConfig_of_nodeSelector hplan hr.nodeSelector id labels fp tag

/-! ## A deployment that fails on the way -/

/-- Another creates the deployment of `ticker` at the same time. -/
def conflictAhead : List Event := [.act (.injectConflict .deploymentConfig "ticker")]

theorem exists_deploy_conflictAhead : ∃ s',
    ((Deployer.ofContent []).deploy (.ticker [])).run (Session.ofRun conflictAhead).platform =
      (some (.error (.alreadyExists .deploymentConfig "ticker")), s') := by
  have h : (((Deployer.ofContent []).deploy (.ticker [])).run
      (Session.ofRun conflictAhead).platform).1.bind Result.failure? =
      some (.alreadyExists .deploymentConfig "ticker") := by
    decide +kernel
  obtain ⟨r, hr, he⟩ := Option.bind_eq_some_iff.1 h
  cases r with
  | ok o => cases he
  | error e =>
    cases he
    exact ⟨_, Prod.ext hr rfl⟩

/-- The conflict is passed on; a build was started before. -/
theorem failure_cases_conflictAhead : ∃ s',
    ((Deployer.ofContent []).deploy (.ticker [])).run (Session.ofRun conflictAhead).platform =
      (some (.error (.alreadyExists .deploymentConfig "ticker")), s') ∧
    ∃ c, (((Deployer.ofContent []).deploy (.ticker [])).exchanges
      (Session.ofRun conflictAhead).platform).getLast? =
        some ⟨c, .error (.alreadyExists .deploymentConfig "ticker")⟩ := by
  obtain ⟨s', h⟩ := exists_deploy_conflictAhead
  refine ⟨s', h, ?_⟩
  have hcase := (failure_cases (Deployer.ofContent []) (.ticker [])
    (Session.ofRun conflictAhead).platform).1 _ s' h
  cases hcase with
  | passedOn hc => exact ⟨_, hc⟩
  | refused _ _ hquiet =>
    have hany : (((Deployer.ofContent []).deploy (.ticker [])).exchanges
        (Session.ofRun conflictAhead).platform).all (fun x => !x.call.mutates) = false := by
      decide +kernel
    rw [List.all_eq_true.2 fun x hx => by rw [hquiet x hx]; rfl] at hany
    cases hany

end Deployer

end Slipway

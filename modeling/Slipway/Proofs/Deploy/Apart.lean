import Slipway.Proofs.Cluster.Frames
import Slipway.Proofs.Deploy.Placed
import Slipway.Proofs.Deploy.Replicas
import Slipway.Proofs.Session.Origins

/-
  Different applications. In a managed run every object is stored under its own name, and image
  streams and build configurations bear the label of the application that they are named after
  (`orderly_ofRun`). So a deployment of one application, whether it succeeds or fails, leaves the
  image streams, build configurations and builds of any other as they were, and likewise all
  deployments, services and routes that are not named after one of its own instances
  (`deploy_spares`). These names are not kept apart: an application may have the name of an instance
  of another, and then takes its objects over (`deploy_takes_over`).
-/

namespace Slipway

open Cluster Reconcile

/-! ## Names and labels -/

/-- An object bears the name that it is stored under, and where it belongs to an application as a
    whole, the label of the application of that name. -/
def Belongs (k : Kind) (name : String) (x : Resource k) : Prop :=
  x.name = name ∧
    (k = .imageStream ∨ k = .buildConfig → x.labels.get? Labels.appIdKey = some name)

/-- What a call writes bears the name and the label that it has to. -/
def Call.Orderly : Call → Prop
  | create k x => Belongs k x.name x
  | replace k name x => Belongs k name x
  | _ => True

namespace Cluster

theorem Source.belongs {c : Call} {s : Cluster} {k : Kind} {name : String} {x : Resource k}
    (hc : c.Orderly) (hs : AllObjects Belongs s) (h : Source c s k name x) : Belongs k name x := by
  cases h with
  | before h => exact hs k name x h
  | created r hcall =>
    subst hcall
    exact hc
  | replaced r hcall hy =>
    subst hcall
    exact hc
  | @marked _ _ y hcall hy => exact hs k name y hy
  | started hcall hbc => exact ⟨rfl, fun h => nomatch h⟩
  | @rolledOut _ y hcall hdc =>
    exact ⟨(hs _ _ y hdc).1, fun h => nomatch h⟩

end Cluster

namespace Reconcile

theorem only_orderly {k : Kind} {desired : Resource k} (h : Belongs k desired.name desired) :
    (reconcile desired).Only Call.Orderly :=
  only_reconcile_of (fun _ => trivial) (fun _ => trivial) (fun _ _ => trivial) h fun _ => h

theorem only_orderly_of_ne {k : Kind} (hs : k ≠ .imageStream) (hc : k ≠ .buildConfig)
    (desired : Resource k) : (reconcile desired).Only Call.Orderly :=
  only_orderly ⟨rfl, fun h => (h.elim hs hc).elim⟩

end Reconcile

namespace Deployer

variable {d : Deployer} {r : Request} {id : AppId} {labels : Attributes}

theorem only_orderly_prepare (hlabels : labels.get? Labels.appIdKey = some id.text) :
    (d.prepare r id labels).Only Call.Orderly := by
  refine only_prepare_of ?_ (fun plan fp tag bc hbc => ?_) (fun plan fileName content => ?_) trivial
  · exact only_orderly ⟨rfl, fun _ => hlabels⟩
  · refine only_orderly ⟨rfl, fun _ => ?_⟩
    unfold Resource.labels
    rw [(BuildPlan.buildConfig_eq_ok hbc).1, BuildPlan.name_of_buildConfig hbc]
    exact hlabels
  · cases plan <;> exact Action.only_ask trivial

theorem only_orderly_step {st : Step} (hm : (Event.step d st).IsManaged) :
    st.Only d Call.Orderly := by
  have hpod : ∀ x : Pod, (Reconcile.reconcile x).Only Call.Orderly :=
    only_orderly_of_ne (by decide) (by decide)
  cases st with
  | deploy r =>
    show (d.deploy r).Only _
    rw [deploy_eq]
    refine Action.only_ofResult_bind fun order ho => ?_
    have hof := DeployOrder.ofRequest_eq_ok ho
    refine Action.only_bind (only_orderly_prepare ?_) fun prepared => ?_
    · rw [hof.labels, hof.id, Labels.appId_base]
    · exact only_runInstances (fun x => only_orderly_of_ne (by decide) (by decide) x)
        (fun x => only_orderly_of_ne (by decide) (by decide) x) (fun _ => trivial)
        fun _ _ _ _ => only_orderly_of_ne (by decide) (by decide) _
  | prepare r id mode => exact only_orderly_prepare (Labels.appId_base id r)
  | launch r handle =>
    show (d.launch r).Only _
    rw [launch_eq]
    refine Action.only_ofResult_bind fun order ho => ?_
    obtain ⟨hid, hlabels⟩ := TaskOrder.ofRequest_eq_ok ho
    refine Action.only_bind (only_orderly_prepare ?_) fun prepared => ?_
    · rw [hlabels, hid, Labels.appId_base]
    · exact only_runTask order prepared hpod fun _ _ => trivial
  | undeploy id => exact only_undeploy id (fun _ _ => trivial) fun _ _ _ => trivial
  | cancel id => exact only_deleteIfPresent _ trivial
  | status id => exact only_status id fun _ _ => trivial
  | taskStatus id => exact only_taskStatus id (fun _ => trivial) fun _ _ => trivial
  | reconcile | call => exact hm.elim
  | wait | detach | watch | watchState | watchClose | watchCompletion | watchEvents => trivial

end Deployer

/-- After a managed run every object bears its name, and image streams and build configurations the
    label of the application that they are named after. -/
theorem orderly_ofRun {run : List Event} (hm : ∀ e ∈ run, e.IsManaged) :
    AllObjects Belongs (Session.ofRun run).platform := by
  refine Session.allObjects_ofRun (fun c s k name x hc hs hx => hx.belongs hc hs)
    (fun pod => only_orderly_of_ne (by decide) (by decide) pod)
    (fun d st he => Deployer.only_orderly_step (hm _ he)) fun a s k name x ha hs hx => ?_
  cases hx with
  | before hx => exact hs k name x hx
  | inserted r hr =>
    subst hr
    exact (hm _ ha).elim
  | @moved _ _ _ b hmove hb => exact ⟨(hs _ _ b hb).1, fun h => nomatch h⟩

/-! ## What a deployment keeps -/

namespace Deployer

section Keeps

variable {k : Kind} {I : Cluster → Prop} {d : Deployer} {r : Request} {id : AppId}
  {labels : Attributes} {order : DeployOrder} {prepared : Prepared}

section Prepare

variable (himage : Keeps I (reconcile (Bundle.imageStream id labels)))
  (hconfig : ∀ plan fp tag bc, BuildPlan.buildConfig plan id labels fp tag r = .ok bc →
    Keeps I (reconcile bc))
  (hstart : ∀ plan fileName content, Keeps I (startBuild plan id fileName content))

include himage hconfig hstart

theorem keeps_build (content : Bytes) (tag : String) :
    Keeps I (d.build r id labels content tag) := by
  refine keeps_ofResult_bind fun plan _ => ?_
  split
  · exact keeps_pure _
  · refine keeps_bind himage fun _ => keeps_ofResult_bind fun bc hbc => ?_
    refine keeps_bind (hconfig _ _ _ bc hbc) fun _ => ?_
    exact keeps_bind (hstart _ _ _) fun _ => keeps_pure _

theorem keeps_prepare : Keeps I (d.prepare r id labels) := by
  unfold prepare
  split
  · exact keeps_pure _
  · refine keeps_ofResult_bind fun content _ => ?_
    refine keeps_bind (fun _ hs => hs) fun builds => keeps_ofResult_bind fun earlier _ => ?_
    split
    · exact keeps_pure _
    · exact keeps_build himage hconfig hstart _ _

end Prepare

theorem keeps_addObjects {f : FanOut} {object : Instance → Resource k}
    (h : ∀ is, f.instances = .ok is → ∀ i ∈ is, Keeps I (reconcile (object i))) :
    Keeps I (addObjects f object) :=
  keeps_ofResult_bind fun is hi =>
    keeps_bind (keeps_forM fun i hmem => keeps_discard (h is hi i hmem)) fun _ => keeps_pure _

theorem keeps_rollOut {is : List Instance} (source : ImageSource)
    (h : ∀ i ∈ is, Keeps I (Action.ask (.rollout i.id.text))) : Keeps I (rollOut source is) := by
  cases source with
  | trigger tag => exact keeps_pure _
  | image reference => exact keeps_forM fun i hi => keeps_discard (h i hi)

theorem keeps_runInstances
    (hdc : ∀ is, order.fanOut.instances = .ok is → ∀ i ∈ is, Keeps I
      (reconcile (Bundle.deploymentConfig order.settings prepared.imageSource i)))
    (hservice : ∀ is, order.fanOut.instances = .ok is → ∀ i ∈ is, Keeps I
      (reconcile (Bundle.service d.config.servicePort order.exposure i)))
    (hroute : ∀ is, order.fanOut.instances = .ok is → ∀ i ∈ is, Keeps I
      (reconcile (Bundle.route d.config r d.targetNamespace i)))
    (hrollout : ∀ is, order.fanOut.instances = .ok is → ∀ i ∈ is, Keeps I
      (Action.ask (.rollout i.id.text))) :
    Keeps I (d.runInstances r order prepared) := by
  refine keeps_bind_of_ok (keeps_addObjects hdc) fun s is s' hadd => ?_
  have hroll : Keeps I (rollOut prepared.imageSource is) :=
    keeps_rollOut _ (hrollout is (addObjects_eq_ok hadd).1)
  refine keeps_bind (keeps_addObjects hservice) fun _ => ?_
  split
  · exact keeps_bind (keeps_addObjects hroute) fun _ => keeps_bind hroll fun _ => keeps_pure _
  · exact keeps_bind hroll fun _ => keeps_pure _

end Keeps

end Deployer

/-! ## What a deployment spares -/

/-- The objects of an instance bear the labels of the instance. -/
theorem Placed.exists_labels {k : Kind} {s s' : Cluster} {is : List Instance}
    {want : Instance → Resource k}
    {i : Instance} (h : Placed s s' is want) (hlabels : ∀ i, (want i).labels = i.labels) (hi : i ∈ is) :
    ∃ x, s'.find? k i.id.text = some x ∧ x.labels = i.labels := by
  obtain ⟨x, hx, hwant, -⟩ := h.mem i hi
  refine ⟨x, hx, ?_⟩
  rw [← x.labels_unstamped, hwant, hlabels]

/-- The names of the instances of a request, none if it can not be deployed. -/
def Deployer.instanceNames (d : Deployer) (r : Request) : List String :=
  match DeployOrder.ofRequest d.config r >>= fun order => order.fanOut.instances with
  | .ok is => is.map fun i => i.id.text
  | .error _ => []

theorem Deployer.mem_instanceNames_iff {d : Deployer} {r : Request} {order : DeployOrder}
    {is : List Instance} (ho : DeployOrder.ofRequest d.config r = .ok order)
    (hi : order.fanOut.instances = .ok is) {name : String} :
    name ∈ d.instanceNames r ↔ ∃ i ∈ is, i.id.text = name := by
  unfold instanceNames
  rw [Result.bind_eq_ok.2 ⟨order, ho, hi⟩]
  exact List.mem_map

/-- An object is there, on a platform where the builds are numbered and every object is stored under
    its own name. -/
structure Spares (k : Kind) (name : String) (x : Resource k) (s : Cluster) : Prop where
  named : ∀ j, Named j s
  numbered : s.Numbered
  find?_eq : s.find? k name = some x

namespace Deployer

variable {j k : Kind} {name : String} {x : Resource k} {d : Deployer} {r : Request} {id : AppId}
  {labels : Attributes} {order : DeployOrder} {prepared : Prepared} {is : List Instance}

theorem keeps_spares_reconcile {desired : Resource j} (hb : j ≠ .build)
    (hn : j = k → desired.name ≠ name) : Keeps (Spares k name x) (reconcile desired) := by
  intro s hs
  refine ⟨fun i => perform_keeps (kept_named i).answer (only_keepsNames i desired) (hs.named i),
    hs.numbered.congr (objects_of_reconcile s desired hb.symm), ?_⟩
  rw [within_reconcile (fun _ => hs.named j) k name fun hw => hn hw.1.symm hw.2.symm]
  exact hs.find?_eq

/-- A build that is started takes the place of no other. -/
theorem keeps_spares_startBuild (plan : BuildPlan) (id : AppId) (fileName : String)
    (content : Bytes) : Keeps (Spares k name x) (startBuild plan id fileName content) := by
  intro s hs
  obtain ⟨op, hop⟩ := perform_startBuild plan id fileName content
  rw [hop]
  have hothers : ∀ i, i ≠ .build →
      (s.startBuild id.text op).2.objects.of i = s.objects.of i := fun i hi =>
    objects_of_startBuild_of_ne s id.text op hi
  rcases hb : s.startBuild id.text op with ⟨e | b, s'⟩
  · obtain rfl := startBuild_eq_error hb
    exact hs
  · rw [hb] at hothers
    obtain ⟨bc, -, hstarted⟩ := startBuild_eq_ok hb
    have hnumbered := hstarted.numbered hs.numbered
    refine ⟨fun i => ?_, hnumbered, ?_⟩
    · by_cases hi : i = .build
      · subst hi
        exact fun _ _ => hnumbered.name_eq
      · exact (hs.named i).congr (hothers i hi)
    · by_cases hk : k = .build
      · subst hk
        have hne : name ≠ b.name := by
          rintro rfl
          have hfree := hstarted.find?_before hs.numbered
          rw [hs.find?_eq] at hfree
          cases hfree
        rw [hstarted.find?_of_ne hne]
        exact hs.find?_eq
      · rw [find?_congr (hothers k hk)]
        exact hs.find?_eq

theorem keeps_spares_rollout {other : String} (hn : k = .deploymentConfig → other ≠ name) :
    Keeps (Spares k name x) (Action.ask (.rollout other)) := by
  intro s hs
  refine ⟨fun i => (kept_named i).answer (.rollout other) s trivial (hs.named i),
    hs.numbered.congr (objects_of_rollout_of_ne s other (by decide)), ?_⟩
  exact (find?_answer (c := .rollout other) (fun ht => hn ht.1 ht.2) s).trans hs.find?_eq

/-- What a deployment spares if it can: an object that is not under the name of the application,
    and not under the name of an instance if it is of a kind that instances have. -/
theorem keeps_spares_deploy (happ : k = .imageStream ∨ k = .buildConfig → r.appId.text ≠ name)
    (hinst : k = .deploymentConfig ∨ k = .service ∨ k = .route → name ∉ d.instanceNames r) :
    Keeps (Spares k name x) (d.deploy r) := by
  rw [deploy_eq]
  refine keeps_ofResult_bind fun order ho => ?_
  have hid : order.fanOut.id = r.appId := (DeployOrder.ofRequest_eq_ok ho).id
  refine keeps_bind (keeps_prepare ?_ (fun plan fp tag bc hbc => ?_)
    fun plan => keeps_spares_startBuild plan _) fun prepared => ?_
  · exact keeps_spares_reconcile (by decide) fun hk => hid ▸ happ (.inl hk.symm)
  · refine keeps_spares_reconcile (by decide) fun hk => ?_
    rw [BuildPlan.name_of_buildConfig hbc, hid]
    exact happ (.inr hk.symm)
  have hne : ∀ is, order.fanOut.instances = .ok is → ∀ i ∈ is,
      k = .deploymentConfig ∨ k = .service ∨ k = .route → i.id.text ≠ name :=
    fun is hi i hmem hk he => hinst hk ((mem_instanceNames_iff ho hi).2 ⟨i, hmem, he⟩)
  refine keeps_runInstances (fun is hi i hmem => ?_) (fun is hi i hmem => ?_)
    (fun is hi i hmem => ?_) fun is hi i hmem => ?_
  · exact keeps_spares_reconcile (by decide) fun hk => hne is hi i hmem (.inl hk.symm)
  · exact keeps_spares_reconcile (by decide) fun hk => hne is hi i hmem (.inr (.inl hk.symm))
  · exact keeps_spares_reconcile (by decide) fun hk => hne is hi i hmem (.inr (.inr hk.symm))
  · exact keeps_spares_rollout fun hk => hne is hi i hmem (.inl hk)

/-- After a managed run, a deployment of another application leaves an object of an application as
    it was, whatever comes of it, unless it is a deployment, a service or a route under the name of
    an instance of the request. What is under such a name belongs to the request afterwards, if it
    succeeds. -/
theorem deploy_spares {run : List Event} {res : Option (Result DeployOutcome)} {s' : Cluster}
    (hm : ∀ e ∈ run, e.IsManaged) (hid : id ≠ r.appId)
    (h : (d.deploy r).run (Session.ofRun run).platform = (res, s')) :
    (∀ k name x, (Session.ofRun run).platform.find? k name = some x →
      x.labels.get? Labels.appIdKey = some id.text →
      (k = .deploymentConfig ∨ k = .service ∨ k = .route → name ∉ d.instanceNames r) →
      s'.find? k name = some x) ∧
    ∀ o, res = some (.ok o) → ∀ k name, name ∈ d.instanceNames r →
      (k = .deploymentConfig ∨ k = .service ∨ k = .route ∧ d.config.createRoute = true) →
      ∃ x, s'.find? k name = some x ∧ x.labels.get? Labels.appIdKey = some r.appId.text := by
  have horderly := orderly_ofRun hm
  constructor
  · intro k name x hx hlabel hinst
    have happ : k = .imageStream ∨ k = .buildConfig → r.appId.text ≠ name := by
      rintro hk rfl
      have hown := (horderly k _ x hx).2 hk
      rw [hlabel] at hown
      exact hid (congrArg AppId.mk (Option.some.inj hown))
    have hspares := keeps_spares_deploy happ hinst _
      ⟨fun j name y hy => (horderly j name y hy).1, numbered_ofRun hm, hx⟩
    rw [run_eq_perform] at h
    obtain ⟨-, rfl⟩ := Prod.mk.inj h
    exact hspares.find?_eq
  · rintro o rfl k name hname hk
    have hperform := run_eq_some_iff.1 h
    rw [deploy_eq] at hperform
    obtain ⟨order, s₀, horder, hprepare⟩ := perform_bind_eq_ok.1 hperform
    obtain ⟨ho, rfl⟩ := Prod.mk.inj horder
    obtain ⟨prepared, s₁, -, hrun⟩ := perform_bind_eq_ok.1 hprepare
    obtain ⟨is, hi, -, hdeployed⟩ := runInstances_eq_ok hrun
    obtain ⟨i, hmem, rfl⟩ := (mem_instanceNames_iff ho hi).1 hname
    have hlabel : i.labels.get? Labels.appIdKey = some r.appId.text := by
      rw [FanOut.appId_of_mem_instances hi hmem, (DeployOrder.ofRequest_eq_ok ho).labels,
        Labels.appId_base]
    rw [← hlabel]
    rcases hk with rfl | rfl | ⟨rfl, hroute⟩
    · obtain ⟨x, hx, hlabels⟩ := hdeployed.deployments.exists_labels
        (fun i => by cases prepared.imageSource <;> rfl) hmem
      exact ⟨x, hx, by rw [hlabels]⟩
    · obtain ⟨x, hx, hlabels⟩ := hdeployed.services.exists_labels (fun _ => rfl) hmem
      exact ⟨x, hx, by rw [hlabels]⟩
    · obtain ⟨x, hx, hlabels⟩ := (hdeployed.routes hroute).exists_labels (fun _ => rfl) hmem
      exact ⟨x, hx, by rw [hlabels]⟩

/-! ## An application with the name of an instance -/

/-- A request for the application `ticker-0`. -/
def tickerZero : Request := { Request.ofImage [] with name := "ticker-0" }

theorem deploy_spares_deployedOnce : ∃ dc : DeploymentConfig,
    (Session.ofRun deployedOnce).platform.find? .deploymentConfig "ticker" = some dc ∧
    (((Deployer.ofContent []).deploy tickerZero).run
      (Session.ofRun deployedOnce).platform).2.find? .deploymentConfig "ticker" = some dc := by
  have hm : ∀ e ∈ deployedOnce, e.IsManaged := by simp [deployedOnce, Event.IsManaged]
  have hlabel : ((Session.ofRun deployedOnce).platform.find? .deploymentConfig "ticker").map
      (fun dc => dc.labels.get? Labels.appIdKey) = some (some (Request.ticker []).appId.text) := by
    decide +kernel
  obtain ⟨dc, hdc, hlabel⟩ := Option.map_eq_some_iff.1 hlabel
  have hid : (Request.ticker []).appId ≠ tickerZero.appId := by decide +kernel
  have hname : "ticker" ∉ (Deployer.ofContent []).instanceNames tickerZero := by decide +kernel
  exact ⟨dc, hdc, (deploy_spares hm hid rfl).1 _ _ dc hdc hlabel fun _ => hname⟩

/-- The run in which `ticker-0` is deployed. -/
def deployedZero : List Event := [.step (Deployer.ofContent []) (.deploy tickerZero)]

/-- The deployment of `ticker-0` is taken over by the first instance of `ticker`. -/
theorem deploy_takes_over : ∃ dc : DeploymentConfig, tickerZero.appId ≠ tickerOne.appId ∧
    (Session.ofRun deployedZero).platform.find? .deploymentConfig "ticker-0" = some dc ∧
    dc.labels.get? Labels.appIdKey = some tickerZero.appId.text ∧
    (((Deployer.ofContent []).deploy tickerOne).run
      (Session.ofRun deployedZero).platform).2.find? .deploymentConfig "ticker-0" ≠ some dc := by
  have hbefore : ((Session.ofRun deployedZero).platform.find? .deploymentConfig "ticker-0").map
      (fun dc => dc.labels.get? Labels.appIdKey) = some (some tickerZero.appId.text) := by
    decide +kernel
  have hafter : ((((Deployer.ofContent []).deploy tickerOne).run
      (Session.ofRun deployedZero).platform).2.find? .deploymentConfig "ticker-0").map
      (fun dc => dc.labels.get? Labels.appIdKey) = some (some tickerOne.appId.text) := by
    decide +kernel
  have hid : tickerZero.appId ≠ tickerOne.appId := by decide +kernel
  obtain ⟨dc, hdc, hlabel⟩ := Option.map_eq_some_iff.1 hbefore
  refine ⟨dc, hid, hdc, hlabel, fun hsame => ?_⟩
  rw [hsame, Option.map_some, hlabel] at hafter
  exact hid (congrArg AppId.mk (Option.some.inj (Option.some.inj hafter)))

end Deployer

end Slipway

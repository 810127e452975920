import Slipway.Proofs.Cluster.Reconciled
import Slipway.Proofs.Deploy.Instances
import Slipway.Proofs.Pipeline.Calls

/-
  The objects of the instances on a platform in memory. A deployment that succeeds leaves for each
  instance a deployment, a service and, where routes are made, a route, as the request wants them
  but for the stamps of the platform, and changes no other object (`runInstances_eq_ok`). It does
  succeed where all of these are there already (`runInstances_of_allReady`), and once the
  deployments are there, where nothing stays in the way of the rest (`exposeInstances_of_exposable`).
-/

namespace Slipway

open Cluster Reconcile

variable {k : Kind}

/-! ## One kind of object -/

/-- Each instance has an object as it is wanted, and no other object of its kind changed. -/
structure Placed (s s' : Cluster) (is : List Instance) (want : Instance → Resource k) : Prop where
  mem : ∀ i ∈ is, ∃ x, s'.find? k i.id.text = some x ∧ x.unstamped = want i ∧
    (k.replaceStrategy = .recreate → x.metadata.uid.isSome)
  other : ∀ name, (∀ i ∈ is, i.id.text ≠ name) → s'.find? k name = s.find? k name

namespace Placed

variable {s s' s₀ s₁ s₂ : Cluster} {is : List Instance} {want : Instance → Resource k}

theorem of_before (h : Placed s s' is want) (h₀ : s.objects.of k = s₀.objects.of k) :
    Placed s₀ s' is want :=
  ⟨h.mem, fun name hn => (h.other name hn).trans (find?_congr h₀ name)⟩

theorem of_after (h : Placed s s' is want) (h₁ : s₁.objects.of k = s'.objects.of k) :
    Placed s s₁ is want := by
  refine ⟨fun i hi => ?_, fun name hn => (find?_congr h₁ name).trans (h.other name hn)⟩
  rw [find?_congr h₁]
  exact h.mem i hi

/-- Placing the same objects again changes their stamps at most. -/
theorem again (h₁ : Placed s s₁ is want) (h₂ : Placed s₁ s₂ is want) (name : String) :
    (s₂.find? k name).map Resource.unstamped = (s₁.find? k name).map Resource.unstamped := by
  by_cases hn : ∃ i ∈ is, i.id.text = name
  · obtain ⟨i, hi, rfl⟩ := hn
    obtain ⟨x₁, hx₁, hw₁, -⟩ := h₁.mem i hi
    obtain ⟨x₂, hx₂, hw₂, -⟩ := h₂.mem i hi
    rw [hx₁, hx₂, Option.map_some, Option.map_some, hw₁, hw₂]
  · rw [h₂.other name fun i hi he => hn ⟨i, hi, he⟩]

theorem ready (h : Placed s s' is want) (hname : ∀ i, (want i).name = i.id.text) {i : Instance}
    (hi : i ∈ is) : Ready s' k i.id.text := by
  obtain ⟨x, hx, hw, huid⟩ := h.mem i hi
  refine ⟨x, hx, fun hk => ⟨?_, huid hk⟩⟩
  rw [← x.name_unstamped, hw, hname]

end Placed

namespace Deployer

variable {s s' : Cluster} {d : Deployer} {r : Request} {order : DeployOrder}
  {prepared : Prepared} {source : ImageSource} {f : FanOut} {is : List Instance}
  {o : DeployOutcome}

theorem addObjects_eq_ok {k : Kind} {f : FanOut} {object : Instance → Resource k}
    {is : List Instance} (h : s.perform (addObjects f object) = (.ok is, s')) :
    f.instances = .ok is ∧
      ∃ u, s.perform (is.forM fun i => Functor.discard (Reconcile.reconcile (object i))) =
        (.ok u, s') := by
  obtain ⟨is', s₁, his, hrest⟩ := perform_bind_eq_ok.1 h
  obtain ⟨hi, rfl⟩ := Prod.mk.inj his
  obtain ⟨u, s₂, hu, hpure⟩ := perform_bind_eq_ok.1 hrest
  cases hpure
  exact ⟨hi, u, hu⟩

theorem addObjects_placed {object : Instance → Resource k}
    (hname : ∀ i, (object i).name = i.id.text)
    (h : s.perform (addObjects f object) = (.ok is, s')) :
    f.instances = .ok is ∧ Placed s s' is fun i => (object i).stored.unstamped := by
  obtain ⟨hi, u, hforM⟩ := addObjects_eq_ok h
  have heach := forM_each (fun s name => s.find? k name) (fun i => i.id.text)
    (fun i _ after => ∃ x, after = some x ∧ x.unstamped = (object i).stored.unstamped ∧
      (k.replaceStrategy = .recreate → x.metadata.uid.isSome)) (fun i _ s u s' hx => ?_) hforM
  · exact ⟨hi, heach.2 (FanOut.nodup_ids hi), heach.1⟩
  · obtain ⟨x, hx⟩ := perform_discard_eq_ok.1 hx
    have hr := reconcile_eq_ok hx
    rw [← hname i]
    exact ⟨⟨x, hr.find?_self, hr.unstamped_eq, hr.isSome_uid⟩, fun other hn => hr.find?_of_ne hn⟩

theorem objects_of_addObjects {j : Kind} (hj : j ≠ k) {object : Instance → Resource k}
    (h : s.perform (addObjects f object) = (.ok is, s')) :
    s'.objects.of j = s.objects.of j := by
  have ho := objects_of_perform (a := addObjects f object)
    (only_addObjects fun _ _ _ _ => only_not_changes _ hj) s
  rwa [h] at ho

/-! ## Rollouts -/

/-- A deployment that was rolled out once more, without stamps. -/
def rolledOut (dc : DeploymentConfig) : DeploymentConfig :=
  let status : DeploymentStatus := (dc.status : Option DeploymentStatus).getD {}
  let dc : DeploymentConfig :=
    { dc with status := some { status with latestVersion := status.latestVersion + 1 } }
  dc.stored.unstamped

/-- A deployment as it is after the rollouts of its request. -/
def afterRollOut (source : ImageSource) (dc : DeploymentConfig) : DeploymentConfig :=
  match source with
  | .trigger _ => dc
  | .image _ => rolledOut dc

theorem rollout_eq_ok {name : String} {dc' : DeploymentConfig}
    (h : s.rollout name = (.ok dc', s')) :
    ∃ dc x, s.find? .deploymentConfig name = some dc ∧
      s'.objects.of .deploymentConfig = (s.objects.of .deploymentConfig).insert name x ∧
      x.unstamped = rolledOut dc.unstamped := by
  unfold rollout at h
  split at h
  · cases h
  next dc hdc =>
    cases h
    exact ⟨dc, _, hdc, rfl, rfl⟩

theorem rollout_of_find? {name : String} {dc : DeploymentConfig}
    (h : s.find? .deploymentConfig name = some dc) : ∃ dc' s', s.rollout name = (.ok dc', s') := by
  unfold rollout
  rw [h]
  exact ⟨_, _, rfl⟩

theorem objects_of_rollOut {j : Kind} (hj : j ≠ .deploymentConfig) {u : Unit}
    (h : s.perform (rollOut source is) = (.ok u, s')) : s'.objects.of j = s.objects.of j := by
  have ho := objects_of_perform (a := rollOut source is) (only_rollOut (fun _ => hj) source is) s
  rwa [h] at ho

/-- The rollouts of a request change each of its deployments once and no others. -/
theorem placed_of_rollOut {s₀ : Cluster} {want : Instance → DeploymentConfig} {u : Unit}
    (h₀ : Placed s₀ s is want) (hnodup : (is.map fun i => i.id.text).Nodup)
    (h : s.perform (rollOut source is) = (.ok u, s')) :
    Placed s₀ s' is fun i => afterRollOut source (want i) := by
  cases source with
  | trigger tag =>
    cases h
    exact h₀
  | image reference =>
    have heach := forM_each (fun s name => s.find? .deploymentConfig name)
      (fun i => i.id.text) (fun i before after => ∃ dc x, before = some dc ∧
        after = some x ∧ x.unstamped = rolledOut dc.unstamped) (fun i _ s u s' hx => ?_) h
    · refine ⟨fun i hi => ?_, fun name hn => (heach.1 name hn).trans (h₀.other name hn)⟩
      obtain ⟨dc, x, hdc, hx, hrolled⟩ := heach.2 hnodup i hi
      obtain ⟨dc', hdc', hwant, -⟩ := h₀.mem i hi
      obtain rfl : dc = dc' := Option.some.inj (hdc.symm.trans hdc')
      refine ⟨x, hx, ?_, fun hk => nomatch hk⟩
      rw [hrolled, hwant]
      rfl
    · obtain ⟨dc', hx⟩ := perform_discard_eq_ok.1 hx
      obtain ⟨dc, x, hdc, ho, hrolled⟩ := rollout_eq_ok hx
      exact ⟨⟨dc, x, hdc, (find?_of_insert ho _).trans (if_pos rfl), hrolled⟩,
        fun other hn => (find?_of_insert ho other).trans (if_neg hn)⟩

/-! ## All kinds of objects -/

/-- Each instance has its objects as the request wants them, and no other object changed. -/
structure Deployed (d : Deployer) (r : Request) (order : DeployOrder) (prepared : Prepared)
    (is : List Instance) (s s' : Cluster) : Prop where
  deployments : Placed s s' is fun i => afterRollOut prepared.imageSource
    (Bundle.deploymentConfig order.settings prepared.imageSource i).stored.unstamped
  services : Placed s s' is fun i =>
    (Bundle.service d.config.servicePort order.exposure i).stored.unstamped
  routes : d.config.createRoute = true → Placed s s' is fun i =>
    (Bundle.route d.config r d.targetNamespace i).stored.unstamped
  noRoutes : d.config.createRoute = false → s'.objects.of .route = s.objects.of .route
  others : ∀ k, k ≠ .deploymentConfig → k ≠ .service → k ≠ .route →
    s'.objects.of k = s.objects.of k

/-- Deploying the same again changes the stamps of objects at most. -/
theorem Deployed.again {s₁ s₂ : Cluster} (h₁ : Deployed d r order prepared is s s₁)
    (h₂ : Deployed d r order prepared is s₁ s₂) (k : Kind) (name : String) :
    (s₂.find? k name).map Resource.unstamped = (s₁.find? k name).map Resource.unstamped := by
  have hother : k ≠ .deploymentConfig → k ≠ .service → k ≠ .route →
      (s₂.find? k name).map Resource.unstamped = (s₁.find? k name).map Resource.unstamped :=
    fun hdc hservice hroute => by rw [find?_congr (h₂.others k hdc hservice hroute)]
  cases k with
  | deploymentConfig => exact h₁.deployments.again h₂.deployments name
  | service => exact h₁.services.again h₂.services name
  | route =>
    rcases hr : d.config.createRoute with _ | _
    · rw [find?_congr (h₂.noRoutes hr)]
    · exact (h₁.routes hr).again (h₂.routes hr) name
  | buildConfig | build | imageStream | pod =>
    exact hother (by decide) (by decide) (by decide)

/-- What exposing instances does: services, then routes where they are made, then rollouts. -/
theorem exposeInstances_eq_ok :
    s.perform (d.exposeInstances r order prepared is) = (.ok o, s') ↔
      ∃ is₁ s₁ s₂ u,
        s.perform (addObjects order.fanOut
          (Bundle.service d.config.servicePort order.exposure)) = (.ok is₁, s₁) ∧
        (if d.config.createRoute then ∃ is₂, s₁.perform (addObjects order.fanOut
          (Bundle.route d.config r d.targetNamespace)) = (.ok is₂, s₂) else s₂ = s₁) ∧
        s₂.perform (rollOut prepared.imageSource is) = (.ok u, s') ∧
        o = ⟨order.fanOut.id, finalState prepared, is.map (·.id)⟩ := by
  have hlast : ∀ q : Cluster, q.perform (rollOut prepared.imageSource is >>= fun _ =>
      pure ⟨order.fanOut.id, finalState prepared, is.map (·.id)⟩) = (.ok o, s') ↔
        ∃ u, q.perform (rollOut prepared.imageSource is) = (.ok u, s') ∧
          o = ⟨order.fanOut.id, finalState prepared, is.map (·.id)⟩ := by
    intro q
    rw [perform_bind_eq_ok]
    constructor
    · rintro ⟨u, s₁, hroll, hp⟩
      cases hp
      exact ⟨u, hroll, rfl⟩
    · rintro ⟨u, hroll, rfl⟩
      exact ⟨u, s', hroll, rfl⟩
  unfold exposeInstances
  dsimp only
  rw [perform_bind_eq_ok]
  refine exists_congr fun is₁ => exists_congr fun s₁ => ?_
  split
  · rw [perform_bind_eq_ok]
    simp only [hlast]
    constructor
    · rintro ⟨h₁, is₂, s₂, h₂, u, hroll⟩
      exact ⟨s₂, u, h₁, ⟨is₂, h₂⟩, hroll⟩
    · rintro ⟨s₂, u, h₁, ⟨is₂, h₂⟩, hroll⟩
      exact ⟨h₁, is₂, s₂, h₂, u, hroll⟩
  · rw [hlast]
    constructor
    · rintro ⟨h₁, u, hroll⟩
      exact ⟨s₁, u, h₁, rfl, hroll⟩
    · rintro ⟨s₂, u, h₁, rfl, hroll⟩
      exact ⟨h₁, u, hroll⟩

/-- What a deployment that succeeds did one after the other once there was an image. -/
theorem runInstances_steps (h : s.perform (d.runInstances r order prepared) = (.ok o, s')) :
    ∃ is s₁ s₂ s₃ u, order.fanOut.instances = .ok is ∧
      o = ⟨order.fanOut.id, finalState prepared, is.map (·.id)⟩ ∧
      s.perform (addObjects order.fanOut
        (Bundle.deploymentConfig order.settings prepared.imageSource)) = (.ok is, s₁) ∧
      s₁.perform (addObjects order.fanOut
        (Bundle.service d.config.servicePort order.exposure)) = (.ok is, s₂) ∧
      (if d.config.createRoute then s₂.perform (addObjects order.fanOut
        (Bundle.route d.config r d.targetNamespace)) = (.ok is, s₃) else s₃ = s₂) ∧
      s₃.perform (rollOut prepared.imageSource is) = (.ok u, s') := by
  obtain ⟨is, s₁, hdc, hexpose⟩ := perform_bind_eq_ok.1 h
  obtain ⟨is₁, s₂, s₃, u, hservice, hroute, hroll, ho⟩ := exposeInstances_eq_ok.1 hexpose
  obtain ⟨hi, -⟩ := addObjects_eq_ok hdc
  have hsame : ∀ {k : Kind} {object : Instance → Resource k} {js : List Instance} {q q' : Cluster},
      q.perform (addObjects order.fanOut object) = (.ok js, q') → js = is := fun hadd =>
    Except.ok.inj ((addObjects_eq_ok hadd).1.symm.trans hi)
  rw [hsame hservice] at hservice
  refine ⟨is, s₁, s₂, s₃, u, hi, ho, hdc, hservice, ?_, hroll⟩
  split at hroute
  next hr =>
    obtain ⟨is₂, hroute⟩ := hroute
    rw [if_pos hr, ← hsame hroute]
    exact hroute
  next hr => rwa [if_neg hr]

/-- What a deployment that succeeds has done once there was an image. -/
theorem runInstances_eq_ok (h : s.perform (d.runInstances r order prepared) = (.ok o, s')) :
    ∃ is, order.fanOut.instances = .ok is ∧
      o = ⟨order.fanOut.id, finalState prepared, is.map (·.id)⟩ ∧
      Deployed d r order prepared is s s' := by
  obtain ⟨is, s₁, s₂, s₃, u, hi, rfl, hdc, hservice, hroute, hroll⟩ := runInstances_steps h
  obtain ⟨-, hdcs⟩ := addObjects_placed (fun _ => rfl) hdc
  obtain ⟨-, hservices⟩ := addObjects_placed (fun _ => rfl) hservice
  have h₁ : ∀ j, j ≠ .deploymentConfig → s₁.objects.of j = s.objects.of j := fun j hj =>
    objects_of_addObjects hj hdc
  have h₂ : ∀ j, j ≠ .service → s₂.objects.of j = s₁.objects.of j := fun j hj =>
    objects_of_addObjects hj hservice
  have h₃ : ∀ j, j ≠ .route → s₃.objects.of j = s₂.objects.of j := fun j hj => by
    split at hroute
    · exact objects_of_addObjects hj hroute
    · rw [hroute]
  have h₄ : ∀ j, j ≠ .deploymentConfig → s'.objects.of j = s₃.objects.of j := fun j hj =>
    objects_of_rollOut hj hroll
  refine ⟨is, hi, rfl, ?_, ?_, fun hr => ?_, fun hr => ?_, fun j hj hj' hj'' => ?_⟩
  · have hdcs₃ := (hdcs.of_after (h₂ _ (by decide))).of_after (h₃ _ (by decide))
    exact placed_of_rollOut hdcs₃ (FanOut.nodup_ids hi) hroll
  · have hservices₀ := hservices.of_before (h₁ _ (by decide))
    exact (hservices₀.of_after (h₃ _ (by decide))).of_after (h₄ _ (by decide))
  · rw [if_pos hr] at hroute
    obtain ⟨-, hroutes⟩ := addObjects_placed (fun _ => rfl) hroute
    have hroutes₀ := (hroutes.of_before (h₂ _ (by decide))).of_before (h₁ _ (by decide))
    exact hroutes₀.of_after (h₄ _ (by decide))
  · rw [hr] at hroute
    rw [h₄ _ (by decide), hroute, h₂ _ (by decide), h₁ _ (by decide)]
  · rw [h₄ j hj, h₃ j hj'', h₂ j hj', h₁ j hj]

/-- What a deployment that succeeds has done: it read its order, prepared an image, and placed the
    objects of the instances. -/
theorem deploy_steps (h : s.perform (d.deploy r) = (.ok o, s')) :
    ∃ order prepared s₁ is, DeployOrder.ofRequest d.config r = .ok order ∧
      s.perform (d.prepare r r.appId (Labels.base r.appId r)) = (.ok prepared, s₁) ∧
      s₁.perform (d.runInstances r order prepared) = (.ok o, s') ∧
      order.fanOut.instances = .ok is ∧
      o = ⟨order.fanOut.id, finalState prepared, is.map (·.id)⟩ ∧
      Deployed d r order prepared is s₁ s' := by
  rw [deploy_eq] at h
  obtain ⟨order, s₀, horder, hprepare⟩ := perform_bind_eq_ok.1 h
  obtain ⟨ho, rfl⟩ := Prod.mk.inj horder
  obtain ⟨prepared, s₁, hp, hrun⟩ := perform_bind_eq_ok.1 hprepare
  obtain ⟨is, hi, houtcome, hdeployed⟩ := runInstances_eq_ok hrun
  have hof := DeployOrder.ofRequest_eq_ok ho
  rw [hof.id, hof.labels] at hp
  exact ⟨order, prepared, s₁, is, ho, hp, hrun, hi, houtcome, hdeployed⟩

/-! ## Success -/

/-- The objects of all instances are there. -/
def AllReady (d : Deployer) (is : List Instance) (s : Cluster) : Prop :=
  ∀ i ∈ is, Ready s .deploymentConfig i.id.text ∧ Ready s .service i.id.text ∧
    (d.config.createRoute = true → Ready s .route i.id.text)

theorem Deployed.allReady (h : Deployed d r order prepared is s s') : AllReady d is s' := by
  intro i hi
  refine ⟨h.deployments.ready (fun i => ?_) hi, h.services.ready (fun _ => rfl) hi, fun hr =>
    (h.routes hr).ready (fun _ => rfl) hi⟩
  cases prepared.imageSource <;> rfl

/-- What keeps every single object ready keeps them all ready. -/
theorem AllReady.mono (h : AllReady d is s)
    (hready : ∀ j name, Ready s j name → Ready s' j name) : AllReady d is s' := by
  intro i hi
  obtain ⟨hdc, hservice, hroute⟩ := h i hi
  exact ⟨hready _ _ hdc, hready _ _ hservice, fun hr => hready _ _ (hroute hr)⟩

/-- Where every object can be reconciled, and this stays so, all of them are. -/
theorem addObjects_succeeds {I : Cluster → Prop} (object : Instance → Resource k)
    (hname : ∀ i, (object i).name = i.id.text) (hi : f.instances = .ok is)
    (h : ∀ i ∈ is, ∀ s : Cluster, I s → ∀ desired : Resource k, desired.name = i.id.text →
      ∃ x s', s.perform (reconcile desired) = (.ok x, s') ∧ I s') (hs : I s) :
    ∃ s', s.perform (addObjects f object) = (.ok is, s') ∧ I s' := by
  have hone : ∀ i ∈ is, ∀ s : Cluster, I s → ∃ u s',
      s.perform (Functor.discard (reconcile (object i))) = (.ok u, s') ∧ I s' := by
    intro i hmem s hs
    obtain ⟨x, s', hx, hs'⟩ := h i hmem s hs (object i) (hname i)
    exact ⟨⟨⟩, s', perform_discard_eq_ok.2 ⟨x, hx⟩, hs'⟩
  obtain ⟨u, s', hforM, hs'⟩ := forM_succeeds hone hs
  refine ⟨s', ?_, hs'⟩
  unfold addObjects
  rw [perform_ofResult_bind hi]
  exact perform_bind_eq_ok.2 ⟨u, s', hforM, rfl⟩

/-- Each instance has its deployment, and nothing stays in the way of its service and route. -/
def Exposable (d : Deployer) (is : List Instance) (s : Cluster) : Prop :=
  ∀ i ∈ is, (s.find? .deploymentConfig i.id.text).isSome ∧ Replaceable s .service i.id.text ∧
    (d.config.createRoute = true → Replaceable s .route i.id.text)

theorem AllReady.exposable (h : AllReady d is s) : Exposable d is s := by
  intro i hi
  obtain ⟨⟨dc, hdc, -⟩, hservice, hroute⟩ := h i hi
  exact ⟨Option.isSome_iff_exists.2 ⟨dc, hdc⟩, hservice.replaceable rfl, fun hr =>
    (hroute hr).replaceable rfl⟩

theorem Exposable.reconcile (hk : k.replaceStrategy = .recreate) (h : Exposable d is s)
    {desired x : Resource k} (hx : s.perform (reconcile desired) = (.ok x, s')) :
    Exposable d is s' := by
  have hdcs : s'.objects.of .deploymentConfig = s.objects.of .deploymentConfig := by
    have ho := objects_of_reconcile (j := .deploymentConfig) s desired fun he => by
      subst he
      cases hk
    rwa [hx] at ho
  intro i hi
  obtain ⟨hdc, hservice, hroute⟩ := h i hi
  rw [find?_congr hdcs]
  exact ⟨hdc, hservice.reconcile hk hx, fun hr => (hroute hr).reconcile hk hx⟩

theorem rollOut_succeeds (source : ImageSource)
    (h : ∀ i ∈ is, (s.find? .deploymentConfig i.id.text).isSome) :
    ∃ u s', s.perform (rollOut source is) = (.ok u, s') := by
  cases source with
  | trigger tag => exact ⟨(), s, rfl⟩
  | image reference =>
    have hone : ∀ i ∈ is, ∀ s : Cluster,
        (∀ i ∈ is, (s.find? .deploymentConfig i.id.text).isSome) → ∃ u s',
          s.perform (Functor.discard (Action.ask (.rollout i.id.text))) = (.ok u, s') ∧
            ∀ i ∈ is, (s'.find? .deploymentConfig i.id.text).isSome := by
      intro i hmem s hs
      obtain ⟨dc, hdc⟩ := Option.isSome_iff_exists.1 (hs i hmem)
      obtain ⟨dc', s', hroll⟩ := rollout_of_find? hdc
      refine ⟨⟨⟩, s', perform_discard_eq_ok.2 ⟨dc', hroll⟩, fun j hj => ?_⟩
      obtain ⟨_, x, -, ho, -⟩ := rollout_eq_ok hroll
      rw [find?_of_insert ho]
      split
      · rfl
      · exact hs j hj
    obtain ⟨u, s', hforM, -⟩ := forM_succeeds hone h
    exact ⟨u, s', hforM⟩

/-- Once the deployments of the instances are written and nothing is in the way of the rest, a
    deployment succeeds. -/
theorem exposeInstances_of_exposable (prepared : Prepared) (hi : order.fanOut.instances = .ok is)
    (hs : Exposable d is s) :
    ∃ o s', s.perform (d.exposeInstances r order prepared is) = (.ok o, s') := by
  obtain ⟨s₁, hservice, hs₁⟩ := addObjects_succeeds
    (Bundle.service d.config.servicePort order.exposure) (fun _ => rfl) hi
    (fun i hmem s hs desired hn => by
      obtain ⟨x, s', hx⟩ := reconcile_of_replaceable rfl (hn ▸ (hs i hmem).2.1)
      exact ⟨x, s', hx, hs.reconcile rfl hx⟩) hs
  have hroutes : ∃ s₂, (if d.config.createRoute then ∃ is₂, s₁.perform (addObjects order.fanOut
      (Bundle.route d.config r d.targetNamespace)) = (.ok is₂, s₂) else s₂ = s₁) ∧
        Exposable d is s₂ := by
    rcases hr : d.config.createRoute with _ | _
    · exact ⟨s₁, rfl, hs₁⟩
    · obtain ⟨s₂, hroute, hs₂⟩ := addObjects_succeeds
        (Bundle.route d.config r d.targetNamespace) (fun _ => rfl) hi
        (fun i hmem s hs desired hn => by
          obtain ⟨x, s', hx⟩ := reconcile_of_replaceable rfl (hn ▸ (hs i hmem).2.2 hr)
          exact ⟨x, s', hx, hs.reconcile rfl hx⟩) hs₁
      exact ⟨s₂, ⟨is, hroute⟩, hs₂⟩
  obtain ⟨s₂, hroute, hs₂⟩ := hroutes
  obtain ⟨u, s₃, hroll⟩ := rollOut_succeeds prepared.imageSource fun i hmem => (hs₂ i hmem).1
  exact ⟨_, s₃, exposeInstances_eq_ok.2 ⟨is, s₁, s₂, u, hservice, hroute, hroll, rfl⟩⟩

/-- Where the objects of all instances are there, a deployment succeeds. -/
theorem runInstances_of_allReady (prepared : Prepared) (hi : order.fanOut.instances = .ok is)
    (hs : AllReady d is s) :
    ∃ o s', s.perform (d.runInstances r order prepared) = (.ok o, s') := by
  obtain ⟨s₁, hdc, hs₁⟩ := addObjects_succeeds
    (Bundle.deploymentConfig order.settings prepared.imageSource) (fun _ => rfl) hi
    (fun i hmem s hs desired hn => by
      obtain ⟨x, s', hx⟩ := reconcile_of_ready (hn ▸ (hs i hmem).1)
      exact ⟨x, s', hx, hs.mono fun _ _ hj => hj.reconcile hx⟩) hs
  obtain ⟨o, s₂, hexpose⟩ := exposeInstances_of_exposable (r := r) prepared hi hs₁.exposable
  exact ⟨o, s₂, perform_bind_eq_ok.2 ⟨is, s₁, hdc, hexpose⟩⟩

end Deployer

end Slipway

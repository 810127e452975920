import Mathlib.Logic.Function.Iterate
import Slipway.Proofs.Deploy.Attempts

/-
  Deploying again until it succeeds. A deployment that would succeed if no conflicts were arranged
  fails by one of them or not at all, and a failure uses it up (`Underway.attempt`). So there is a
  first attempt that succeeds, after no more failures than there were conflicts, and from then on all
  do (`deploy_converges`). An attempt takes up what the earlier ones have left: a build that was
  started is followed, so all attempts together start no more builds than the single deployment
  would, and the objects are in the end as this would leave them, but for their stamps.
-/

namespace Slipway

open Cluster Reconcile

namespace Deployer

variable {k : Kind} {d : Deployer} {r : Request} {order : DeployOrder} {is : List Instance}
  {f : FanOut} {p p' : Prepared} {s s' t z q q' : Cluster} {o : DeployOutcome}
  {W : Kind → String → Prop} {name : String}

/-! ## The objects of the instances -/

/-- An object that a deployment makes for an instance. -/
def IsOfInstance (d : Deployer) (is : List Instance) (k : Kind) (name : String) : Prop :=
  (k = .deploymentConfig ∨ k = .service ∨ k = .route ∧ d.config.createRoute = true) ∧
    ∃ i ∈ is, i.id.text = name

theorem Deployed.find?_eq (h : Deployed d r order p is s s') (hn : ¬ IsOfInstance d is k name) :
    s'.find? k name = s.find? k name := by
  have hname : (k = .deploymentConfig ∨ k = .service ∨ k = .route ∧ d.config.createRoute = true) →
      ∀ i ∈ is, i.id.text ≠ name := fun hk i hi he => hn ⟨hk, i, hi, he⟩
  cases k with
  | deploymentConfig => exact h.deployments.other name (hname (.inl rfl))
  | service => exact h.services.other name (hname (.inr (.inl rfl)))
  | route =>
    rcases hr : d.config.createRoute with _ | _
    · exact find?_congr (h.noRoutes hr) name
    · exact (h.routes hr).other name (hname (.inr (.inr ⟨rfl, hr⟩)))
  | buildConfig | build | imageStream | pod =>
    exact find?_congr (h.others _ (by decide) (by decide) (by decide)) name

theorem Placed.alike {want want' : Instance → Resource k} {i : Instance}
    (h : Placed s s' is want) (h' : Placed q q' is want') (hwant : want' i = want i) (hi : i ∈ is) :
    AlikeAt k i.id.text q' s' := by
  obtain ⟨x, hx, hxwant, -⟩ := h.mem i hi
  obtain ⟨x', hx', hxwant', -⟩ := h'.mem i hi
  exact alikeAt_of_some hx' hx (by rw [hxwant', hxwant, hwant])

/-- What deployments with comparable images make for an instance is alike. -/
theorem Deployed.alike_of_instance (h : Deployed d r order p is t z)
    (h' : Deployed d r order p' is q q') (hsource : p'.imageSource = p.imageSource)
    (hof : IsOfInstance d is k name) : AlikeAt k name q' z := by
  obtain ⟨rfl | rfl | ⟨rfl, hr⟩, i, hi, rfl⟩ := hof
  · exact Placed.alike h.deployments h'.deployments (by rw [hsource]) hi
  · exact Placed.alike h.services h'.services rfl hi
  · exact Placed.alike (h.routes hr) (h'.routes hr) rfl hi

/-- What deployments with comparable images leave is alike, where all but the objects of the
    instances was alike before. -/
theorem Deployed.alike (h : Deployed d r order p is t z) (h' : Deployed d r order p' is q q')
    (hsource : p'.imageSource = p.imageSource)
    (hq : ∀ k name, ¬ IsOfInstance d is k name → AlikeAt k name q z) (k : Kind) (name : String) :
    AlikeAt k name q' z := by
  by_cases hof : IsOfInstance d is k name
  · exact h.alike_of_instance h' hsource hof
  · exact (alikeAt_of_eq (h'.find?_eq hof)).trans (hq k name hof)

/-- Nothing stays in the way of the services and routes of the instances. -/
def Recreatable (d : Deployer) (is : List Instance) (s : Cluster) : Prop :=
  ∀ i ∈ is, Replaceable s .service i.id.text ∧
    (d.config.createRoute = true → Replaceable s .route i.id.text)

theorem recreatable_perform_iff {α : Type} {a : Action α}
    (hservice : a.Only fun c => ¬ c.Changes .service)
    (hroute : a.Only fun c => ¬ c.Changes .route) (s : Cluster) :
    Recreatable d is (s.perform a).2 ↔ Recreatable d is s := by
  unfold Recreatable
  simp only [replaceable_perform_iff hservice, replaceable_perform_iff hroute]

theorem recreatable_prepare_iff (id : AppId) (labels : Attributes) (s : Cluster) :
    Recreatable d is (s.perform (d.prepare r id labels)).2 ↔ Recreatable d is s :=
  recreatable_perform_iff
    (only_prepare (fun _ hc => hc.not_changes (by decide) (by decide) (by decide)) _ _)
    (only_prepare (fun _ hc => hc.not_changes (by decide) (by decide) (by decide)) _ _) s

theorem AllReady.recreatable (h : AllReady d is s) : Recreatable d is s :=
  fun i hi => (h.exposable i hi).2

theorem replaceable_of_addObjects (hk : k.replaceStrategy = .recreate)
    {object : Instance → Resource k} (hname : ∀ i, (object i).name = i.id.text)
    (h : s.perform (addObjects f object) = (.ok is, s')) :
    ∀ i ∈ is, Replaceable s k i.id.text := by
  obtain ⟨hi, u, hforM⟩ := addObjects_eq_ok h
  have heach := forM_each (fun s name => Replaceable s k name) (fun i => i.id.text)
    (fun _ before _ => before) (fun i _ s u s' hx => ?_) hforM
  · exact heach.2 (FanOut.nodup_ids hi)
  · obtain ⟨x, hx⟩ := perform_discard_eq_ok.1 hx
    rw [← hname i]
    exact ⟨replaceable_of_reconcile hk hx, fun other hn =>
      propext (replaceable_reconcile_iff hk hx hn)⟩

theorem replaceable_before {j : Kind} {object : Instance → Resource k}
    (h : s.perform (addObjects f object) = (.ok is, s')) (hj : j ≠ k)
    (hr : Replaceable s' j name) : Replaceable s j name := by
  have hiff := replaceable_perform_iff (a := addObjects f object)
    (only_addObjects fun _ _ _ _ => only_not_changes _ hj) s name
  rw [h] at hiff
  exact hiff.1 hr

/-- Where a deployment succeeds, nothing stayed in the way of services and routes. -/
theorem recreatable_of_runInstances (hi : order.fanOut.instances = .ok is)
    (h : s.perform (d.runInstances r order p) = (.ok o, s')) : Recreatable d is s := by
  obtain ⟨is', s₁, s₂, s₃, u, hi', -, hdc, hservice, hroute, -⟩ := runInstances_steps h
  obtain rfl : is' = is := Except.ok.inj (hi'.symm.trans hi)
  intro i hmem
  refine ⟨replaceable_before hdc (by decide)
    (replaceable_of_addObjects rfl (fun _ => rfl) hservice i hmem), fun hr => ?_⟩
  rw [if_pos hr] at hroute
  exact replaceable_before hdc (by decide) (replaceable_before hservice (by decide)
    (replaceable_of_addObjects rfl (fun _ => rfl) hroute i hmem))

/-! ## Attempts -/

theorem meets_addObjects (hk : k.replaceStrategy = .update) {object : Instance → Resource k}
    (hi : f.instances = .ok is) (hw : ∀ i ∈ is, W k (object i).name) (s : Cluster) :
    Meets W s (s.perform (addObjects f object)) := by
  unfold addObjects
  rw [perform_ofResult_bind hi]
  exact meets_bind (meets_forM (fun i hmem s => meets_discard (meets_reconcile hk (hw i hmem) s)) s)
    fun _ _ _ => .passed rfl

/-- The deployments of the instances. -/
def IsDeployment (is : List Instance) (k : Kind) (name : String) : Prop :=
  k = .deploymentConfig ∧ ∃ i ∈ is, i.id.text = name

theorem within_deployments (hi : order.fanOut.instances = .ok is) (source : ImageSource)
    (s : Cluster) : Within (IsDeployment is) s
      (s.perform (addObjects order.fanOut (Bundle.deploymentConfig order.settings source))).2 := by
  refine within_perform (only_addObjects fun is' hi' i hmem => ?_) s
  obtain rfl : is = is' := Except.ok.inj (hi.symm.trans hi')
  refine only_update rfl ?_ ?_ ?_
  · exact fun _ _ ht => ht.elim
  · exact fun _ _ ht => ⟨ht.1.symm, i, hmem, ht.2⟩
  · exact fun _ _ _ ht => ⟨ht.1.symm, i, hmem, ht.2⟩

/-- Once an image is prepared, the rest succeeds or meets with a conflict on a deployment. -/
theorem runInstances_attempt (hi : order.fanOut.instances = .ok is) (p : Prepared)
    (hq : Recreatable d is q) :
    (∃ i ∈ is, ∃ q', q.perform (d.runInstances r order p) =
        (.error (.alreadyExists .deploymentConfig i.id.text), q') ∧
      Spent .deploymentConfig i.id.text q q' ∧ Within (IsDeployment is) q q' ∧
      Recreatable d is q') ∨
    ∃ q', q.perform (d.runInstances r order p) =
        (.ok ⟨order.fanOut.id, finalState p, is.map (·.id)⟩, q') ∧
      Deployed d r order p is q q' := by
  have hmeets : Meets (IsDeployment is) q (q.perform (addObjects order.fanOut
      (Bundle.deploymentConfig order.settings p.imageSource))) :=
    meets_addObjects rfl hi (fun i hmem => ⟨rfl, i, hmem, rfl⟩) q
  have hwithin := within_deployments hi p.imageSource q
  have hrec := (recreatable_perform_iff (a := addObjects order.fanOut
      (Bundle.deploymentConfig order.settings p.imageSource))
    (only_addObjects fun _ _ _ _ => only_not_changes _ (by decide))
    (only_addObjects fun _ _ _ _ => only_not_changes _ (by decide)) q).2 hq
  rcases hadd : q.perform (addObjects order.fanOut
      (Bundle.deploymentConfig order.settings p.imageSource)) with ⟨e | js, q₁⟩
  · rw [hadd] at hmeets hwithin hrec
    cases hmeets with
    | failed hw hs =>
      obtain ⟨rfl, i, hmem, rfl⟩ := hw
      refine .inl ⟨i, hmem, q₁, ?_, hs, hwithin, hrec⟩
      unfold runInstances
      rw [perform_bind, hadd]
  · rw [hadd] at hrec
    obtain ⟨hjs, hplaced⟩ := addObjects_placed (fun _ => rfl) hadd
    obtain rfl : is = js := Except.ok.inj (hi.symm.trans hjs)
    have hexposable : Exposable d is q₁ := fun i hmem => by
      obtain ⟨x, hx, -⟩ := hplaced.mem i hmem
      exact ⟨Option.isSome_iff_exists.2 ⟨x, hx⟩, hrec i hmem⟩
    obtain ⟨o, q₂, hexpose⟩ := exposeInstances_of_exposable (r := r) p hi hexposable
    have hrun : q.perform (d.runInstances r order p) = (.ok o, q₂) :=
      perform_bind_eq_ok.2 ⟨is, q₁, hadd, hexpose⟩
    obtain ⟨is', hi', rfl, hdeployed⟩ := runInstances_eq_ok hrun
    obtain rfl : is = is' := Except.ok.inj (hi.symm.trans hi')
    exact .inr ⟨q₂, hrun, hdeployed⟩

/-! ## How far the attempts have come -/

/-- How a deployment goes where nothing is in its way: an image is prepared, which leads from `s` to
    `t`, and the objects of the instances are made, which leads to `z`. -/
structure Smooth (d : Deployer) (r : Request) (order : DeployOrder) (is : List Instance)
    (p : Prepared) (s t z : Cluster) : Prop where
  order_eq : DeployOrder.ofRequest d.config r = .ok order
  prepare_eq : s.perform (d.prepare r order.fanOut.id order.fanOut.labels) = (.ok p, t)
  instances_eq : order.fanOut.instances = .ok is
  deployed : Deployed d r order p is t z
  started : z.buildsStarted = t.buildsStarted
  unforced : BuildHistory.forcesBuild r d.config ≠ .ok true

/-- An image was prepared, and all but the objects of the instances is as it will be. Preparing it
    again gives `p'`, which is as good as `p`. -/
structure Provided (d : Deployer) (r : Request) (order : DeployOrder) (is : List Instance)
    (p p' : Prepared) (z q : Cluster) : Prop where
  comparable : Comparable p p'
  prepare_eq : ∀ q' : Cluster, q'.objects.of .build = q.objects.of .build →
    q'.perform (d.prepare r order.fanOut.id order.fanOut.labels) = (.ok p', q')
  alike : ∀ k name, ¬ IsOfInstance d is k name → AlikeAt k name q z
  started : q.buildsStarted = z.buildsStarted
  recreatable : Recreatable d is q

/-- A deployment succeeded, and every object is as it will be. -/
structure Done (d : Deployer) (r : Request) (order : DeployOrder) (is : List Instance)
    (p p' : Prepared) (z q : Cluster) : Prop extends Provided d r order is p p' z q where
  allReady : AllReady d is q
  all_alike : ∀ k name, AlikeAt k name q z

/-- No attempt has succeeded yet. -/
inductive Underway (d : Deployer) (r : Request) (order : DeployOrder) (is : List Instance)
    (p : Prepared) (s t z q : Cluster) : Prop
  | unbuilt (h : Unbuilt order.fanOut.id s t q) (hstarted : q.buildsStarted = s.buildsStarted)
    (hrec : Recreatable d is q)
  | provided {p' : Prepared} (h : Provided d r order is p p' z q)

theorem Smooth.perform_deploy (hsmooth : Smooth d r order is p s t z) (q : Cluster) :
    q.perform (d.deploy r) =
      match q.perform (d.prepare r order.fanOut.id order.fanOut.labels) with
      | (.ok p', q₁) => q₁.perform (d.runInstances r order p')
      | (.error e, q₁) => (.error e, q₁) := by
  rw [deploy_eq, perform_ofResult_bind hsmooth.order_eq, perform_bind]
  rcases q.perform (d.prepare r order.fanOut.id order.fanOut.labels) with ⟨e | p', q₁⟩ <;> rfl

/-- Once the image is prepared at last, all but the objects of the instances is as it will be. -/
theorem Smooth.provided (hsmooth : Smooth d r order is p s t z) (hrec : Recreatable d is q')
    (hp : Comparable p p')
    (hrun : q.perform (d.prepare r order.fanOut.id order.fanOut.labels) = (.ok p', q'))
    (halike : ∀ k name, AlikeAt k name q' t) (hstarted : q'.buildsStarted = t.buildsStarted) :
    Provided d r order is p p' z q' := by
  have hof := DeployOrder.ofRequest_eq_ok hsmooth.order_eq
  have hlabels : order.fanOut.labels.get? Labels.appIdKey = some order.fanOut.id.text := by
    rw [hof.labels, hof.id, Labels.appId_base]
  have hid : order.fanOut.id.IsPlain := hof.id ▸ AppId.isPlain_appId r
  refine ⟨hp, fun q'' hq'' => prepare_again hsmooth.unforced hid hlabels hrun hq'',
    fun k name hn => ?_, hstarted.trans hsmooth.started.symm, hrec⟩
  exact (halike k name).trans (alikeAt_of_eq (hsmooth.deployed.find?_eq hn).symm)

/-- What succeeds once an image is prepared leaves everything as it will be. -/
theorem Provided.done (hq : Provided d r order is p p' z q) (hsmooth : Smooth d r order is p s t z)
    (hdeployed : Deployed d r order p' is q q') (hstarts : StartsNone q q') :
    Done d r order is p p' z q' := by
  have halike := hsmooth.deployed.alike hdeployed hq.comparable.imageSource_eq hq.alike
  have hbuilds := hdeployed.others .build (by decide) (by decide) (by decide)
  exact {
    comparable := hq.comparable
    prepare_eq := fun q'' hq'' => hq.prepare_eq q'' (hq''.trans hbuilds)
    alike := fun k name _ => halike k name
    started := hstarts.buildsStarted_eq.trans hq.started
    recreatable := hdeployed.allReady.recreatable
    allReady := hdeployed.allReady
    all_alike := halike }

/-- Once an image is prepared, an attempt fails by a conflict on a deployment, which it uses up, or
    it succeeds. -/
theorem Provided.attempt (hq : Provided d r order is p p' z q)
    (hsmooth : Smooth d r order is p s t z) :
    (∃ name q', q.perform (d.runInstances r order p') =
        (.error (.alreadyExists .deploymentConfig name), q') ∧
      Spent .deploymentConfig name q q' ∧ Provided d r order is p p' z q') ∨
    ∃ q', q.perform (d.runInstances r order p') =
        (.ok ⟨order.fanOut.id, finalState p, is.map (·.id)⟩, q') ∧
      Done d r order is p p' z q' := by
  have hstarts := startsNone_runInstances (d := d) (r := r) q order p'
  rcases runInstances_attempt (r := r) hsmooth.instances_eq p' hq.recreatable with
    ⟨i, hi, q', hrun, hs, hwithin, hrec⟩ | ⟨q', hrun, hdeployed⟩
  · rw [hrun] at hstarts
    have hbuilds : q'.objects.of .build = q.objects.of .build :=
      hwithin.objects_eq fun _ hw => nomatch hw.1
    refine .inl ⟨_, q', hrun, hs, hq.comparable,
      fun q'' hq'' => hq.prepare_eq q'' (hq''.trans hbuilds), fun k name hn => ?_,
      hstarts.buildsStarted_eq.trans hq.started, hrec⟩
    have hfind := hwithin k name fun hw => hn ⟨.inl hw.1, hw.2⟩
    exact (alikeAt_of_eq hfind).trans (hq.alike k name hn)
  · rw [hrun] at hstarts
    refine .inr ⟨q', ?_, hq.done hsmooth hdeployed hstarts⟩
    rw [hrun, hq.comparable.finalState_eq]

/-- An attempt fails by a conflict, which it uses up, or it succeeds. -/
theorem Underway.attempt (hq : Underway d r order is p s t z q)
    (hsmooth : Smooth d r order is p s t z) :
    (∃ k name q', (k = .imageStream ∨ k = .buildConfig ∨ k = .deploymentConfig) ∧
      q.perform (d.deploy r) = (.error (.alreadyExists k name), q') ∧ Spent k name q q' ∧
      Underway d r order is p s t z q') ∨
    ∃ p' q', q.perform (d.deploy r) =
        (.ok ⟨order.fanOut.id, finalState p, is.map (·.id)⟩, q') ∧
      Done d r order is p p' z q' := by
  rw [hsmooth.perform_deploy]
  cases hq with
  | unbuilt hq hstarted hrec =>
    obtain ⟨n, -, htotal, hattempt⟩ := prepare_attempt hsmooth.prepare_eq
    have hprep := hattempt q hq
    have hrec' := (recreatable_prepare_iff (r := r) order.fanOut.id order.fanOut.labels q).2 hrec
    rcases hrun : q.perform (d.prepare r order.fanOut.id order.fanOut.labels) with ⟨_ | p', q₁⟩
    · rw [hrun] at hprep hrec'
      cases hprep with
      | @failed k _ hk hs hsame hq' =>
        exact .inl ⟨k, _, q₁, hk.1.imp_right .inl, rfl, hs,
          .unbuilt hq' (hsame.trans hstarted) hrec'⟩
    · rw [hrun] at hprep hrec'
      cases hprep with
      | passed hp hconflicts hsum halike =>
        have hprovided := hsmooth.provided hrec' hp hrun halike (by rw [hsum, hstarted, htotal])
        rcases hprovided.attempt hsmooth with ⟨name, q', hfail, hs, hq'⟩ | ⟨q', hok, hdone⟩
        · exact .inl ⟨_, name, q', .inr (.inr rfl), hfail, hs.of_before hconflicts, .provided hq'⟩
        · exact .inr ⟨p', q', hok, hdone⟩
  | @provided p' hq =>
    rw [hq.prepare_eq q rfl]
    rcases hq.attempt hsmooth with ⟨name, q', hrun, hs, hq'⟩ | ⟨q', hok, hdone⟩
    · exact .inl ⟨_, name, q', .inr (.inr rfl), hrun, hs, .provided hq'⟩
    · exact .inr ⟨p', q', hok, hdone⟩

/-- A deployment that succeeded succeeds again. -/
theorem Done.attempt (hq : Done d r order is p p' z q) (hsmooth : Smooth d r order is p s t z) :
    ∃ q', q.perform (d.deploy r) = (.ok ⟨order.fanOut.id, finalState p, is.map (·.id)⟩, q') ∧
      Done d r order is p p' z q' := by
  obtain ⟨o, q', hrun⟩ := runInstances_of_allReady (r := r) p' hsmooth.instances_eq hq.allReady
  have hstarts := startsNone_runInstances (d := d) (r := r) q order p'
  rw [hrun] at hstarts
  obtain ⟨is', hi', rfl, hdeployed⟩ := runInstances_eq_ok hrun
  obtain rfl : is = is' := Except.ok.inj (hsmooth.instances_eq.symm.trans hi')
  refine ⟨q', ?_, hq.toProvided.done hsmooth hdeployed hstarts⟩
  rw [hsmooth.perform_deploy, hq.prepare_eq q rfl]
  dsimp only
  rw [hrun, hq.comparable.finalState_eq]

/-! ## One attempt after the other -/

/-- The platform after a number of attempts to deploy. -/
def attempts (d : Deployer) (r : Request) (n : Nat) (s : Cluster) : Cluster :=
  (fun q => ((d.deploy r).run q).2)^[n] s

theorem attempts_succ (d : Deployer) (r : Request) (n : Nat) (s : Cluster) :
    d.attempts r (n + 1) s = d.attempts r n ((d.deploy r).run s).2 :=
  Function.iterate_succ_apply _ n s

theorem attempts_succ' (d : Deployer) (r : Request) (n : Nat) (s : Cluster) :
    d.attempts r (n + 1) s = ((d.deploy r).run (d.attempts r n s)).2 :=
  Function.iterate_succ_apply' _ n s

/-- An attempt fails by a conflict on an image stream, a build configuration or a deployment, and
    uses it up. -/
def FailsByConflict (d : Deployer) (r : Request) (s : Cluster) : Prop :=
  ∃ k name s', (k = .imageStream ∨ k = .buildConfig ∨ k = .deploymentConfig) ∧
    (d.deploy r).run s = (some (.error (.alreadyExists k name)), s') ∧ Spent k name s s'

/-- There is a first attempt that succeeds. -/
theorem Underway.attempts (hq : Underway d r order is p s t z q)
    (hsmooth : Smooth d r order is p s t z) :
    ∃ n p', n ≤ q.conflicts.length ∧
      (∀ m < n, FailsByConflict d r (d.attempts r m q)) ∧
      (∀ m ≤ n, Underway d r order is p s t z (d.attempts r m q)) ∧
      (∃ q', (d.deploy r).run (d.attempts r n q) =
        (some (.ok ⟨order.fanOut.id, finalState p, is.map (·.id)⟩), q')) ∧
      Done d r order is p p' z (d.attempts r (n + 1) q) := by
  -- by induction on the conflicts that are left
  induction hlen : q.conflicts.length using Nat.strong_induction_on generalizing q with
  | _ len ih =>
    rcases hq.attempt hsmooth with ⟨k, name, q', hk, hrun, hs, hq'⟩ | ⟨p', q', hrun, hdone⟩
    · have hrun := run_eq_some_iff.2 hrun
      have hstep : ∀ m, d.attempts r (m + 1) q = d.attempts r m q' := fun m => by
        rw [attempts_succ, hrun]
      obtain ⟨n, p', hn, hfails, hunder, hok, hdone⟩ := ih _ (hlen ▸ hs.length_lt) hq' rfl
      refine ⟨n + 1, p', by have := hs.length_lt; omega, fun m hm => ?_, fun m hm => ?_, ?_, ?_⟩
      · cases m with
        | zero => exact ⟨k, name, q', hk, hrun, hs⟩
        | succ m =>
          rw [hstep]
          exact hfails m (by omega)
      · cases m with
        | zero => exact hq
        | succ m =>
          rw [hstep]
          exact hunder m (by omega)
      · rw [hstep]
        exact hok
      · rw [hstep]
        exact hdone
    · have hrun := run_eq_some_iff.2 hrun
      refine ⟨0, p', Nat.zero_le _, fun m hm => absurd hm (Nat.not_lt_zero m), fun m hm => ?_,
        ⟨q', hrun⟩, ?_⟩
      · obtain rfl := Nat.le_zero.1 hm
        exact hq
      · rw [attempts_succ, hrun]
        exact hdone

theorem Underway.buildsStarted_le (hq : Underway d r order is p s t z q)
    (hs : s.buildsStarted ≤ z.buildsStarted) : q.buildsStarted ≤ z.buildsStarted := by
  cases hq with
  | unbuilt h hstarted hrec => rwa [hstarted]
  | provided h => exact h.started.le

/-- A deployment that forces no build and would succeed if no conflicts were arranged succeeds in
    the end when it is tried again and again, and from then on always. It fails at most once for each
    conflict, and every failure uses one up. All attempts together start no more builds than the
    deployment that meets with no conflicts, which is at most one. Once an attempt has succeeded all
    objects are as that deployment leaves them, but for their stamps. -/
theorem deploy_converges (hforced : BuildHistory.forcesBuild r d.config ≠ .ok true)
    (h : (d.deploy r).run { s with conflicts := [] } = (some (.ok o), z)) :
    ∃ n ≤ s.conflicts.length,
      (∀ m < n, FailsByConflict d r (d.attempts r m s)) ∧
      (∀ m, n ≤ m → ((d.deploy r).run (d.attempts r m s)).1 = some (.ok o)) ∧
      z.buildsStarted ≤ s.buildsStarted + 1 ∧
      (∀ m, (d.attempts r m s).buildsStarted ≤ z.buildsStarted) ∧
      ∀ m, n < m → ∀ k name, ((d.attempts r m s).find? k name).map Resource.unstamped =
        (z.find? k name).map Resource.unstamped := by
  have hperform := run_eq_some_iff.1 h
  rw [deploy_eq] at hperform
  obtain ⟨order, s₀, horder, hprepare⟩ := perform_bind_eq_ok.1 hperform
  obtain ⟨ho, rfl⟩ := Prod.mk.inj horder
  obtain ⟨p, t, hp, hrun⟩ := perform_bind_eq_ok.1 hprepare
  obtain ⟨is, hi, rfl, hdeployed⟩ := runInstances_eq_ok hrun
  have hstarts := startsNone_runInstances (d := d) (r := r) t order p
  rw [hrun] at hstarts
  have hsmooth : Smooth d r order is p { s with conflicts := [] } t z :=
    ⟨ho, hp, hi, hdeployed, hstarts.buildsStarted_eq, hforced⟩
  have hrec : Recreatable d is s := by
    have hbefore : Recreatable d is { s with conflicts := [] } := by
      refine (recreatable_prepare_iff (r := r) order.fanOut.id order.fanOut.labels _).1 ?_
      rw [hp]
      exact recreatable_of_runInstances hi hrun
    exact hbefore
  have hbegin : Underway d r order is p { s with conflicts := [] } t z s :=
    .unbuilt ⟨rfl, fun _ _ _ => .inl rfl⟩ rfl hrec
  obtain ⟨n, p', hn, hfails, hunder, ⟨q', hok⟩, hdone⟩ := hbegin.attempts hsmooth
  have hafter : ∀ m, n < m → Done d r order is p p' z (d.attempts r m s) := by
    intro m hm
    obtain ⟨j, rfl⟩ := Nat.exists_eq_add_of_lt hm
    induction j with
    | zero => exact hdone
    | succ j ih =>
      obtain ⟨q', hrun, hdone⟩ := (ih (by omega)).attempt hsmooth
      have hnext := attempts_succ' d r (n + j + 1) s
      rw [run_eq_some_iff.2 hrun] at hnext
      exact hnext ▸ hdone
  obtain ⟨c, hc, htotal, -⟩ := prepare_attempt hp
  have htotal : z.buildsStarted = s.buildsStarted + c := hsmooth.started.trans htotal
  refine ⟨n, hn, hfails, fun m hm => ?_, by omega, fun m => ?_, fun m hm => (hafter m hm).all_alike⟩
  · rcases Nat.eq_or_lt_of_le hm with rfl | hm
    · rw [hok]
    · obtain ⟨q', hrun, -⟩ := (hafter m hm).attempt hsmooth
      rw [run_eq_some_iff.2 hrun]
  · rcases Nat.lt_or_ge n m with hm | hm
    · exact (hafter m hm).started.le
    · exact (hunder m hm).buildsStarted_le (by show s.buildsStarted ≤ _; omega)

/-! ## Three conflicts in a row -/

/-- The platform is about to report conflicts on everything that is made for `ticker`. -/
def conflictsAhead : List Event :=
  [.imageStream, .buildConfig, .deploymentConfig, .service].map fun k =>
    .act (.injectConflict k "ticker")

/-- Three attempts fail, and all later ones succeed. The conflict on the service makes none fail. A
    build is started, and no more than one. -/
theorem deploy_converges_conflictsAhead : ∃ o : DeployOutcome,
    (∀ m < 3, FailsByConflict (Deployer.ofContent []) (.ticker [])
      ((Deployer.ofContent []).attempts (.ticker []) m (Session.ofRun conflictsAhead).platform)) ∧
    (∀ m, 3 ≤ m → (((Deployer.ofContent []).deploy (.ticker [])).run
      ((Deployer.ofContent []).attempts (.ticker []) m
        (Session.ofRun conflictsAhead).platform)).1 = some (.ok o)) ∧
    (Session.ofRun conflictsAhead).platform.buildsStarted = 0 ∧
    ((Deployer.ofContent []).attempts (.ticker []) 4
      (Session.ofRun conflictsAhead).platform).buildsStarted = 1 := by
  have hforced : BuildHistory.forcesBuild (.ticker []) (Deployer.ofContent []).config ≠
      .ok true := fun h => nomatch h
  have hok : view? (fun o : DeployOutcome => some o.instances.length)
      (((Deployer.ofContent []).deploy (.ticker [])).run
        { (Session.ofRun conflictsAhead).platform with conflicts := [] }) = some 1 := by
    decide +kernel
  obtain ⟨o, z, h, -⟩ := exists_of_view? hok
  obtain ⟨n, -, hfails, hsucceeds, -⟩ := deploy_converges hforced h
  have hthird : (view? (fun o : DeployOutcome => some o.instances.length)
      (((Deployer.ofContent []).deploy (.ticker [])).run
        ((Deployer.ofContent []).attempts (.ticker []) 2
          (Session.ofRun conflictsAhead).platform))) = none := by
    decide +kernel
  have hfourth : (view? (fun o : DeployOutcome => some o.instances.length)
      (((Deployer.ofContent []).deploy (.ticker [])).run
        ((Deployer.ofContent []).attempts (.ticker []) 3
          (Session.ofRun conflictsAhead).platform))) = some 1 := by
    decide +kernel
  have hmin : 2 < n := by
    by_contra hle
    simp only [view?, hsucceeds 2 (by omega)] at hthird
    cases hthird
  have hmax : n ≤ 3 := by
    by_contra hlt
    obtain ⟨k, name, s', -, hrun, -⟩ := hfails 3 (by omega)
    rw [hrun] at hfourth
    cases hfourth
  obtain rfl : n = 3 := by omega
  exact ⟨o, hfails, hsucceeds, by decide +kernel, by decide +kernel⟩

end Deployer

end Slipway

import Slipway.Proofs.Deploy.Apart
import Slipway.Proofs.Deploy.Retry
import Slipway.Proofs.Session.Reached

/-
  Deployments of applications that have nothing to do with each other can change places
  (`deploys_commute`). A deployment writes objects that are named after the application or one of its
  instances alone (`Writes`), and of all builds it sees those with the label of the application and
  counts those with its name (`BuildsAgree`). Where one that succeeds finds the same of these on
  another platform, and nothing in its way, it succeeds there too with the same outcome, and writes
  the same objects but for their stamps (`deploy_local`). The builds that another application sees
  and counts are as before (`deploy_buildsAgree`), if its name with a dash is not the beginning of
  the name of the one that is deployed.
-/

namespace Slipway

open Cluster Reconcile

namespace Cluster

variable {s s' q : Cluster} {id : AppId}

/-! ## What is read -/

/-- Two platforms have the same builds with the label of an application, and as many with its
    name. -/
structure BuildsAgree (id : AppId) (s q : Cluster) : Prop where
  matching_eq : q.matching .build (Labels.appSelector id) =
    s.matching .build (Labels.appSelector id)
  nextBuildNumber_eq : q.nextBuildNumber id.text = s.nextBuildNumber id.text

theorem BuildsAgree.symm (h : BuildsAgree id s q) : BuildsAgree id q s :=
  ⟨h.matching_eq.symm, h.nextBuildNumber_eq.symm⟩

/-- A build of another application goes unseen. -/
theorem Started.buildsAgree {bc : BuildConfig} {base : String} {b : Build}
    (h : Started s s' bc base b) (hs : s.Numbered) (hid : id.IsPlain) (hne : id.text ≠ base)
    (hlabel : b.labels.get? Labels.appIdKey = some base)
    (hstart : Text.startsWith (id.text ++ "-") base = false) : BuildsAgree id s s' := by
  refine ⟨h.matching_eq hs ?_, h.nextBuildNumber_eq hs hne hstart⟩
  refine Bool.eq_false_iff.2 fun hsatisfies => hne ?_
  rw [Labels.satisfies_appSelector hid, hlabel] at hsatisfies
  exact (Option.some.inj hsatisfies).symm

/-- No conflicts are arranged, and every object bears its name and has an identity, so that nothing
    stays in the way of another in its place. -/
structure Tidy (s : Cluster) : Prop where
  conflicts_eq : s.conflicts = []
  belongs : AllObjects Belongs s
  identified : s.AllIdentified

theorem Tidy.recreatable (h : s.Tidy) (d : Deployer) (is : List Instance) :
    d.Recreatable is s := by
  have hall : ∀ k name, Replaceable s k name := fun k name x hx =>
    ⟨(h.belongs k name x hx).1, .inl (h.identified k name x hx)⟩
  exact fun i _ => ⟨hall _ _, fun _ => hall _ _⟩

theorem Tidy.perform {α : Type} {a : Action α} (h : s.Tidy) (ha : a.Only Call.Orderly) :
    (s.perform a).2.Tidy := by
  refine perform_keeps (fun c q hc hq => ⟨?_, fun k name x hx => ?_, fun k name x hx => ?_⟩) ha h
  · exact List.subset_nil.1 (hq.conflicts_eq ▸ conflicts_answer_subset c q)
  · exact (source_of_find? hx).belongs hc hq.belongs
  · exact (source_of_find? hx).isSome_uid hq.identified

theorem Tidy.of_perform {α : Type} {a : Action α} {res : Result α} (h : s.Tidy)
    (ha : a.Only Call.Orderly) (hrun : s.perform a = (res, s')) : s'.Tidy := by
  have hs' := h.perform ha
  rwa [hrun] at hs'

/-- After a managed run everything is tidy, if no conflicts are arranged. -/
theorem tidy_ofRun {run : List Event} (hm : ∀ e ∈ run, e.IsManaged)
    (hconflicts : (Session.ofRun run).platform.conflicts = []) :
    (Session.ofRun run).platform.Tidy :=
  ⟨hconflicts, orderly_ofRun hm, Session.allIdentified_ofRun run⟩

end Cluster

namespace Deployer

variable {d : Deployer} {r : Request} {id : AppId} {labels : Attributes} {content : Bytes}
  {tag : String} {plan : BuildPlan} {p p' : Prepared} {s s' t q : Cluster} {order : DeployOrder}
  {is : List Instance} {o : DeployOutcome}

/-! ## What is written -/

/-- The objects that a deployment writes. -/
def Writes (d : Deployer) (r : Request) : Kind → String → Prop
  | .imageStream, name | .buildConfig, name => name = r.appId.text
  | .build, name => ∃ n, name = Text.numbered r.appId.text n
  | .deploymentConfig, name | .service, name | .route, name => name ∈ d.instanceNames r
  | .pod, _ => False

theorem Founds.writes {k : Kind} {name : String} (h : Founds r.appId k name) :
    d.Writes r k name := by
  cases k with
  | imageStream | buildConfig | build => exact h
  | deploymentConfig | service | route | pod => exact h.elim

theorem IsOfInstance.writes {k : Kind} {name : String}
    (ho : DeployOrder.ofRequest d.config r = .ok order) (hi : order.fanOut.instances = .ok is)
    (h : IsOfInstance d is k name) : d.Writes r k name := by
  obtain ⟨rfl | rfl | ⟨rfl, -⟩, hname⟩ := h
  all_goals exact (mem_instanceNames_iff ho hi).2 hname

/-- The names of the objects of an application, but for its builds. -/
def names (d : Deployer) (r : Request) : List String := r.appId.text :: d.instanceNames r

theorem appId_mem_names : r.appId.text ∈ d.names r := List.mem_cons_self

theorem mem_names_of_instance {name : String} (h : name ∈ d.instanceNames r) : name ∈ d.names r :=
  List.mem_cons_of_mem _ h

theorem appId_ne {d' : Deployer} {r' : Request}
    (hdisjoint : ∀ name ∈ d.names r, name ∉ d'.names r') : r.appId.text ≠ r'.appId.text := by
  intro he
  have hmem := hdisjoint _ appId_mem_names
  rw [he] at hmem
  exact hmem appId_mem_names

/-- Deployments that have no name in common write different objects. -/
theorem Writes.not_writes {d' : Deployer} {r' : Request}
    (hdisjoint : ∀ name ∈ d.names r, name ∉ d'.names r') {k : Kind} {name : String}
    (h : d.Writes r k name) : ¬ d'.Writes r' k name := by
  have hne := appId_ne hdisjoint
  intro h'
  cases k with
  | imageStream | buildConfig => exact hne (h.symm.trans h')
  | build =>
    obtain ⟨n, hn⟩ := h
    obtain ⟨m, hm⟩ := h'
    exact hne (Text.numbered_inj (hn.symm.trans hm)).1
  | deploymentConfig | service | route =>
    exact hdisjoint name (mem_names_of_instance h) (mem_names_of_instance h')
  | pod => exact h

/-! ## Preparing an image elsewhere -/

theorem setUp_local (h : s.perform (setUp plan r id labels content tag) = (.ok p, t))
    (hnext : q.nextBuildNumber id.text = s.nextBuildNumber id.text) (hq : q.conflicts = []) :
    ∃ p' q', q.perform (setUp plan r id labels content tag) = (.ok p', q') ∧ Comparable p p' ∧
      SameEffect (Founds id) s t q q' := by
  obtain ⟨bc, b, hbc, rfl, hbuilt⟩ := built_of_setUp h
  rcases setUp_outcome hbc q with ⟨k, -, hmem, -⟩ | ⟨p', q', hrun⟩
  · rw [hq] at hmem
    cases hmem
  obtain ⟨bc', b', hbc', rfl, hbuilt'⟩ := built_of_setUp hrun
  obtain rfl : bc = bc' := Except.ok.inj (hbc.symm.trans hbc')
  refine ⟨_, q', hrun, ⟨rfl, ?_⟩, hbuilt.sameEffect hbuilt' hnext⟩
  have hunstamped := hbuilt.unstamped_eq hbuilt' hnext
  show PipelineState.building b'.name .trigger = .building b.name .trigger
  rw [← b'.name_unstamped, hunstamped, b.name_unstamped]

/-- An image is prepared where the builds of the application are the same and no conflict is met
    with, to the same effect. -/
theorem prepare_local (h : s.perform (d.prepare r id labels) = (.ok p, t))
    (hagree : BuildsAgree id s q) (hq : q.conflicts = []) :
    ∃ p' q', q.perform (d.prepare r id labels) = (.ok p', q') ∧ Comparable p p' ∧
      SameEffect (Founds id) s t q q' := by
  rcases prepare_cases h with ⟨rfl, hsame⟩ | ⟨plan, content, tag, hsetUp⟩
  · exact ⟨p, q, hsame q hagree.matching_eq, ⟨rfl, rfl⟩, .refl t q⟩
  · rw [hsetUp s rfl] at h
    rw [hsetUp q hagree.matching_eq]
    exact setUp_local h hagree.nextBuildNumber_eq hq

/-! ## Deploying elsewhere -/

theorem runInstances_local (hi : order.fanOut.instances = .ok is)
    (h : s.perform (d.runInstances r order p) = (.ok o, s')) (hp : Comparable p p')
    (hq : q.conflicts = []) (hrec : Recreatable d is q) :
    ∃ q', q.perform (d.runInstances r order p') = (.ok o, q') ∧
      SameEffect (IsOfInstance d is) s s' q q' := by
  obtain ⟨is', hi', rfl, hdeployed⟩ := runInstances_eq_ok h
  obtain rfl : is = is' := Except.ok.inj (hi.symm.trans hi')
  rcases runInstances_attempt (r := r) hi p' hrec with ⟨i, -, q', -, hs, -⟩ | ⟨q', hrun, hdeployed'⟩
  · have hmem := hs.mem
    rw [hq] at hmem
    cases hmem
  refine ⟨q', by rw [hrun, hp.finalState_eq], fun k name => hdeployed.find?_eq,
    fun k name => hdeployed'.find?_eq, fun k name => ?_⟩
  by_cases hof : IsOfInstance d is k name
  · exact .inl (hdeployed.alike_of_instance hdeployed' hp.imageSource_eq hof)
  · exact .inr ⟨hdeployed'.find?_eq hof, hdeployed.find?_eq hof⟩

/-- A deployment that succeeds does so on every tidy platform that has the same builds of the
    application, with the same outcome and to the same effect. -/
theorem deploy_local (h : s.perform (d.deploy r) = (.ok o, s'))
    (hagree : BuildsAgree r.appId s q) (hq : q.Tidy) :
    ∃ q', q.perform (d.deploy r) = (.ok o, q') ∧ SameEffect (d.Writes r) s s' q q' := by
  obtain ⟨order, p, t, is, ho, hp, hrun, hi, -, -⟩ := deploy_steps h
  have hof := DeployOrder.ofRequest_eq_ok ho
  obtain ⟨p', q₁, hp', hcomparable, hfounds⟩ := prepare_local hp hagree hq.conflicts_eq
  have hq₁ := hq.of_perform (only_orderly_prepare (Labels.appId_base r.appId r)) hp'
  obtain ⟨q', hrun', hinstances⟩ := runInstances_local hi hrun hcomparable hq₁.conflicts_eq
    (hq₁.recreatable d is)
  refine ⟨q', ?_, (hfounds.mono fun _ _ => Founds.writes).trans
    (hinstances.mono fun _ _ => IsOfInstance.writes ho hi)⟩
  rw [deploy_eq, perform_ofResult_bind ho, hof.id, hof.labels]
  exact perform_bind_eq_ok.2 ⟨p', q₁, hp', hrun'⟩

/-! ## Other applications -/

/-- The builds that another application sees and counts are the same after a deployment. -/
theorem deploy_buildsAgree (hs : s.Numbered) (hid : id.IsPlain) (hne : id.text ≠ r.appId.text)
    (hstart : Text.startsWith (id.text ++ "-") r.appId.text = false)
    (h : s.perform (d.deploy r) = (.ok o, s')) : BuildsAgree id s s' := by
  obtain ⟨order, p, t, is, -, hp, -, -, -, hdeployed⟩ := deploy_steps h
  have hbuilds : s'.objects.of .build = t.objects.of .build :=
    hdeployed.others .build (by decide) (by decide) (by decide)
  have hprovision := prepare_provision d r r.appId (Labels.base r.appId r) s
  rw [hp] at hprovision
  cases hprovision with
  | ready hi => exact ⟨matching_congr hbuilds _, nextBuildNumber_congr hbuilds _⟩
  | earlier hc he => exact ⟨matching_congr hbuilds _, nextBuildNumber_congr hbuilds _⟩
  | commissioned hc he hb =>
    obtain ⟨bc, hstarted⟩ := hb.started
    have hafter : Started s s' bc r.appId.text _ :=
      ⟨hstarted.build_eq, hbuilds.trans hstarted.builds_eq⟩
    refine hafter.buildsAgree hs hid hne ?_ hstart
    rw [hb.labels_eq, Labels.appId_base]

/-- After a managed run, where no conflicts are arranged, two deployments of which no application or
    instance has a name in common, nor the one application a name that begins with that of the other
    and a dash, give the same in either order: where both succeed in the one order they do in the
    other, with the same outcomes, and leave the same objects but for their stamps. -/
theorem deploys_commute {run : List Event} (hm : ∀ e ∈ run, e.IsManaged)
    (hconflicts : (Session.ofRun run).platform.conflicts = []) {d' : Deployer} {r' : Request}
    (hdisjoint : ∀ name ∈ d.names r, name ∉ d'.names r')
    (hstart : Text.startsWith (r.appId.text ++ "-") r'.appId.text = false)
    (hstart' : Text.startsWith (r'.appId.text ++ "-") r.appId.text = false)
    {o' : DeployOutcome} {s₁ s₁₂ : Cluster}
    (h : (d.deploy r).run (Session.ofRun run).platform = (some (.ok o), s₁))
    (h' : (d'.deploy r').run s₁ = (some (.ok o'), s₁₂)) :
    ∃ s₂ s₂₁, (d'.deploy r').run (Session.ofRun run).platform = (some (.ok o'), s₂) ∧
      (d.deploy r).run s₂ = (some (.ok o), s₂₁) ∧
      ∀ k name, (s₂₁.find? k name).map Resource.unstamped =
        (s₁₂.find? k name).map Resource.unstamped := by
  have htidy := tidy_ofRun hm hconflicts
  have hnumbered := numbered_ofRun hm
  have hne := appId_ne hdisjoint
  have hrun := run_eq_some_iff.1 h
  -- the first deployment takes nothing from the second
  have hagree' := deploy_buildsAgree hnumbered (AppId.isPlain_appId r') hne.symm hstart' hrun
  obtain ⟨s₂, hrun', heffect'⟩ := deploy_local (run_eq_some_iff.1 h') hagree'.symm htidy
  -- nor the second, where it is now, from the first
  have hagree := deploy_buildsAgree hnumbered (AppId.isPlain_appId r) hne hstart hrun'
  have htidy₂ := htidy.of_perform (@only_orderly_step d' (.deploy r') trivial) hrun'
  obtain ⟨s₂₁, hlast, heffect⟩ := deploy_local hrun hagree htidy₂
  exact ⟨s₂, s₂₁, run_eq_some_iff.2 hrun', run_eq_some_iff.2 hlast,
    heffect.commute heffect' fun _ _ => Writes.not_writes hdisjoint⟩

/-- A request for an application `clock` as two instances. -/
def clockTwice : Request where
  name := "clock"
  artifact := .file "clock.jar"
  properties := Dict.ofList [(Keys.indexed, "true"), (Keys.count, "2")]

/-- `ticker`, which was deployed before, is deployed with other content, and `clock` for the first
    time. -/
theorem deploys_commute_clockTwice : ∃ o o' s₁ s₂ s₁₂ s₂₁,
    ((Deployer.ofContent [0]).deploy (.ticker [])).run (Session.ofRun deployedOnce).platform =
      (some (.ok o), s₁) ∧
    ((Deployer.ofContent [1]).deploy clockTwice).run s₁ = (some (.ok o'), s₁₂) ∧
    o.state = .building "ticker-2" .trigger ∧ o'.state = .building "clock-1" .trigger ∧
    ((Deployer.ofContent [1]).deploy clockTwice).run (Session.ofRun deployedOnce).platform =
      (some (.ok o'), s₂) ∧
    ((Deployer.ofContent [0]).deploy (.ticker [])).run s₂ = (some (.ok o), s₂₁) ∧
    ∀ k name, (s₂₁.find? k name).map Resource.unstamped =
      (s₁₂.find? k name).map Resource.unstamped := by
  have hm : ∀ e ∈ deployedOnce, e.IsManaged := by simp [deployedOnce, Event.IsManaged]
  have hconflicts : (Session.ofRun deployedOnce).platform.conflicts = [] := by decide +kernel
  have hdisjoint : ∀ name ∈ (Deployer.ofContent [0]).names (.ticker []),
      name ∉ (Deployer.ofContent [1]).names clockTwice := by
    decide +kernel
  have hview : view? (fun o : DeployOutcome => some o.state)
      (((Deployer.ofContent [0]).deploy (.ticker [])).run
        (Session.ofRun deployedOnce).platform) = some (.building "ticker-2" .trigger) := by
    decide +kernel
  have hview' : view? (fun o : DeployOutcome => some o.state)
      (((Deployer.ofContent [1]).deploy clockTwice).run
        (((Deployer.ofContent [0]).deploy (.ticker [])).run
          (Session.ofRun deployedOnce).platform).2) = some (.building "clock-1" .trigger) := by
    decide +kernel
  obtain ⟨o, s₁, h, hstate⟩ := exists_of_view? hview
  rw [h] at hview'
  obtain ⟨o', s₁₂, h', hstate'⟩ := exists_of_view? hview'
  obtain ⟨s₂, s₂₁, hfirst, hlast, halike⟩ :=
    deploys_commute hm hconflicts hdisjoint (by decide +kernel) (by decide +kernel) h h'
  exact ⟨o, o', s₁, s₂, s₁₂, s₂₁, h, h', Option.some.inj hstate, Option.some.inj hstate', hfirst,
    hlast, halike⟩

end Deployer

end Slipway

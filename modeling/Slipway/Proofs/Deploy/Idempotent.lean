import Slipway.Proofs.Cluster.Log
import Slipway.Proofs.Deploy.Placed
import Slipway.Proofs.Deploy.Replicas
import Slipway.Proofs.Labels.Selector
import Slipway.Proofs.Pipeline.Prepare

/-
  Deploying twice. Once an image is prepared, preparing it again finds the same build and changes
  nothing (`prepare_again`), and once the objects of a request are placed, placing them again
  changes no more than the stamps of the platform (`Deployed.again`). So a deployment that
  succeeded succeeds again with the same outcome, starts no build, and leaves every object as it
  was (`deploy_again`), whatever the platform held before and whatever conflicts and slow deletions
  were arranged.
-/

namespace Slipway

open Cluster

/-! ## Builds that are started -/

/-- A call that starts a build. -/
def Call.StartsBuild : Call → Prop
  | instantiateBuild _ | submitBinaryBuild _ _ _ => True
  | _ => False

/-- The record of a build that was started. -/
def Operation.StartsBuild : Operation → Prop
  | instantiate _ | binary _ => True
  | _ => False

theorem Call.startsBuild_of_operation? {c : Call} {op : Operation} (h : c.operation? = some op)
    (hop : op.StartsBuild) : c.StartsBuild := by
  cases c with
  | get | list | watch => cases h
  | create | replace | delete | awaitDeleted | rollout =>
    cases h
    exact hop.elim
  | instantiateBuild | submitBinaryBuild => trivial

theorem Call.IsOn.not_startsBuild {k : Kind} {c : Call} (h : c.IsOn k) : ¬ c.StartsBuild := by
  cases c <;> first | exact h.elim | exact not_false

namespace Cluster

variable {s s' s'' : Cluster}

/-- What was recorded since is no start of a build. -/
def StartsNone (s s' : Cluster) : Prop :=
  ∃ ops, s'.log = s.log ++ ops ∧ ∀ op ∈ ops, ¬ op.StartsBuild

theorem StartsNone.of_log_eq (h : s'.log = s.log) : StartsNone s s' :=
  ⟨[], by rw [h, List.append_nil], fun _ hop => nomatch hop⟩

theorem StartsNone.of_record {op : Operation} (h : s'.log = s.log ++ [op])
    (hop : ¬ op.StartsBuild) : StartsNone s s' :=
  ⟨[op], h, fun _ hmem => List.mem_singleton.1 hmem ▸ hop⟩

theorem StartsNone.trans (h : StartsNone s s') (h' : StartsNone s' s'') : StartsNone s s'' := by
  obtain ⟨ops, hlog, hops⟩ := h
  obtain ⟨ops', hlog', hops'⟩ := h'
  refine ⟨ops ++ ops', by rw [hlog', hlog, List.append_assoc], fun op hop => ?_⟩
  exact (List.mem_append.1 hop).elim (hops op) (hops' op)

theorem startsNone_answer {c : Call} (h : ¬ c.StartsBuild) (s : Cluster) :
    StartsNone s (answer c s).2 := by
  rcases log_answer c s with hlog | ⟨op, hop, hlog | hlog⟩
  · exact .of_log_eq hlog
  · exact .of_log_eq hlog
  · exact .of_record hlog fun hstarts => h (Call.startsBuild_of_operation? hop hstarts)

theorem startsNone_perform {α : Type} {a : Action α} (ha : a.Only fun c => ¬ c.StartsBuild)
    (s : Cluster) : StartsNone s (s.perform a).2 :=
  perform_keeps (I := StartsNone s) (fun _ s' hc hs => hs.trans (startsNone_answer hc s')) ha
    (.of_log_eq rfl)

theorem matching_congr {k : Kind} (h : s'.objects.of k = s.objects.of k) (selector : String) :
    s'.matching k selector = s.matching k selector := by
  unfold matching
  rw [h]

end Cluster

namespace Deployer

variable {s s' : Cluster} {d : Deployer} {r : Request} {id : AppId} {labels : Attributes}
  {p : Prepared} {b : Build} {content : Bytes} {o : DeployOutcome}

/-! ## Preparing again -/

theorem perform_prepare_of_earlier (hi : ∀ reference, r.artifact ≠ .image reference)
    (hc : d.resolver.bytes r.artifact = .ok content)
    (he : BuildHistory.toReuse? r d.config (s.matching .build (Labels.appSelector id))
      (Fingerprint.of content) = .ok (some b)) :
    s.perform (d.prepare r id labels) =
      (.ok (ofEarlier b (BuildPlan.outputTag d.config r id)), s) := by
  rw [prepare_of_not_image hi, perform_ofResult_bind hc, perform_list_bind]
  exact perform_ofResult_bind he s _

theorem perform_prepare_of_none (hi : ∀ reference, r.artifact ≠ .image reference)
    (hc : d.resolver.bytes r.artifact = .ok content)
    (he : BuildHistory.toReuse? r d.config (s.matching .build (Labels.appSelector id))
      (Fingerprint.of content) = .ok none) :
    s.perform (d.prepare r id labels) =
      s.perform (d.build r id labels content (BuildPlan.outputTag d.config r id)) := by
  rw [prepare_of_not_image hi, perform_ofResult_bind hc, perform_list_bind]
  exact perform_ofResult_bind he s _

/-- A build that was started where none could be used is the one that can be from then on. -/
theorem Commissioned.reusable? {t : Cluster} {fp : Fingerprint} {tag : String}
    (hb : Commissioned s s' id labels fp tag b)
    (hnone : ∀ b' ∈ s.matching .build (Labels.appSelector id), BuildHistory.carries fp b' = false)
    (hid : id.IsPlain) (hlabels : labels.get? Labels.appIdKey = some id.text)
    (ht : t.objects.of .build = s'.objects.of .build) :
    BuildHistory.reusable? (t.matching .build (Labels.appSelector id)) fp = some b := by
  obtain ⟨bc, hs⟩ := hb.started
  have hmem : ∀ b', b' ∈ t.matching .build (Labels.appSelector id) → b' = b ∨
      b' ∈ s.matching .build (Labels.appSelector id) := by
    intro b' hb'
    rw [matching_congr ht] at hb'
    obtain ⟨hvalue, hselected⟩ := List.mem_filter.1 hb'
    obtain ⟨name, hname⟩ := Dict.mem_values_iff.1 hvalue
    rw [hs.builds_eq, Dict.get?_insert] at hname
    split at hname
    next => exact .inl (Option.some.inj hname).symm
    next => exact .inr (List.mem_filter.2 ⟨Dict.mem_values_iff.2 ⟨name, hname⟩, hselected⟩)
  have hb' : b ∈ t.matching .build (Labels.appSelector id) := by
    rw [matching_congr ht]
    refine List.mem_filter.2 ⟨Dict.mem_values_iff.2 ⟨b.name, hs.find?_self⟩, ?_⟩
    rw [hb.labels_eq]
    exact (Labels.satisfies_appSelector hid labels).2 hlabels
  refine BuildHistory.reusable?_of_unique hb' hb.carries fun b' hmem' hcarries => ?_
  refine (hmem b' hmem').resolve_right fun hbefore => ?_
  rw [hnone b' hbefore] at hcarries
  cases hcarries

/-- A build that was started because none could be used is the one to be used from then on. -/
theorem Commissioned.toReuse? {t : Cluster} {tag : String}
    (hb : Commissioned s s' id labels (Fingerprint.of content) tag b)
    (he : BuildHistory.toReuse? r d.config (s.matching .build (Labels.appSelector id))
      (Fingerprint.of content) = .ok none)
    (hforced : BuildHistory.forcesBuild r d.config ≠ .ok true) (hid : id.IsPlain)
    (hlabels : labels.get? Labels.appIdKey = some id.text)
    (ht : t.objects.of .build = s'.objects.of .build) :
    BuildHistory.toReuse? r d.config (t.matching .build (Labels.appSelector id))
      (Fingerprint.of content) = .ok (some b) := by
  have hnone : ∀ b' ∈ s.matching .build (Labels.appSelector id),
      BuildHistory.carries (Fingerprint.of content) b' = false := fun b' hb' =>
    BuildHistory.not_carries_of_toReuse? he hforced hb'
  obtain ⟨forced, hf, -⟩ := BuildHistory.toReuse?_eq_ok.1 he
  cases forced with
  | true => exact absurd hf hforced
  | false =>
    rw [BuildHistory.toReuse?_eq_ok]
    exact ⟨false, hf, (hb.reusable? hnone hid hlabels ht).symm⟩

/-- An image that was prepared is prepared again by changing nothing, on any platform that has the
    same builds. -/
theorem prepare_again (hforced : BuildHistory.forcesBuild r d.config ≠ .ok true)
    (hid : id.IsPlain) (hlabels : labels.get? Labels.appIdKey = some id.text)
    (h : s.perform (d.prepare r id labels) = (.ok p, s')) {t : Cluster}
    (ht : t.objects.of .build = s'.objects.of .build) :
    t.perform (d.prepare r id labels) = (.ok p, t) := by
  by_cases hi : ∃ reference, r.artifact = .image reference
  · obtain ⟨reference, hi⟩ := hi
    rw [prepare_of_image hi] at h ⊢
    cases h
    rfl
  have hi : ∀ reference, r.artifact ≠ .image reference := fun reference hr => hi ⟨reference, hr⟩
  have hp := prepare_provision d r id labels s
  rw [h] at hp
  cases hp with
  | ready hr => exact absurd hr (hi _)
  | earlier hc he =>
    rw [← matching_congr ht] at he
    exact perform_prepare_of_earlier hi hc he
  | commissioned hc he hb =>
    rw [perform_prepare_of_earlier hi hc (hb.toReuse? he hforced hid hlabels ht)]
    unfold ofEarlier
    rw [hb.phase_eq]
    rfl

/-! ## Deploying again -/

theorem startsNone_runInstances (s : Cluster) (order : DeployOrder) (prepared : Prepared) :
    StartsNone s (s.perform (d.runInstances r order prepared)).2 :=
  startsNone_perform (only_runInstances
    (fun _ => (Reconcile.only_reconcile _).mono fun _ hc => hc.not_startsBuild)
    (fun _ => (Reconcile.only_reconcile _).mono fun _ hc => hc.not_startsBuild)
    (fun _ => not_false)
    fun _ _ _ _ => (Reconcile.only_reconcile _).mono fun _ hc => hc.not_startsBuild) s

/-- A deployment that succeeded and forces no build succeeds again, with the same outcome. It starts
    no build, and every object is left as it was but for the stamps of the platform. -/
theorem deploy_again {s₁ : Cluster} (hforced : BuildHistory.forcesBuild r d.config ≠ .ok true)
    (h : (d.deploy r).run s = (some (.ok o), s₁)) :
    ∃ s₂, (d.deploy r).run s₁ = (some (.ok o), s₂) ∧ StartsNone s₁ s₂ ∧
      s₂.objects.of .build = s₁.objects.of .build ∧
      ∀ k name, (s₂.find? k name).map Resource.unstamped =
        (s₁.find? k name).map Resource.unstamped := by
  have hperform := run_eq_some_iff.1 h
  rw [deploy_eq] at hperform
  obtain ⟨order, s₀, horder, hprepare⟩ := perform_bind_eq_ok.1 hperform
  obtain ⟨ho, rfl⟩ := Prod.mk.inj horder
  obtain ⟨prepared, s', hp, hrun⟩ := perform_bind_eq_ok.1 hprepare
  obtain ⟨is, hi, rfl, hplaced⟩ := runInstances_eq_ok hrun
  have hof := DeployOrder.ofRequest_eq_ok ho
  have hlabels : order.fanOut.labels.get? Labels.appIdKey = some order.fanOut.id.text := by
    rw [hof.labels, hof.id, Labels.appId_base]
  have hid : order.fanOut.id.IsPlain := hof.id ▸ AppId.isPlain_appId r
  have hp' := prepare_again hforced hid hlabels hp
    (hplaced.others .build (by decide) (by decide) (by decide))
  obtain ⟨o, s₂, hrun'⟩ := runInstances_of_allReady (r := r) prepared hi hplaced.allReady
  obtain ⟨is', hi', rfl, hplaced'⟩ := runInstances_eq_ok hrun'
  obtain rfl : is = is' := Except.ok.inj (hi.symm.trans hi')
  have hstarts := startsNone_runInstances (d := d) (r := r) s₁ order prepared
  rw [hrun'] at hstarts
  refine ⟨s₂, run_eq_some_iff.2 ?_, hstarts,
    hplaced'.others .build (by decide) (by decide) (by decide), hplaced.again hplaced'⟩
  rw [deploy_eq]
  exact perform_bind_eq_ok.2 ⟨order, s₁, by rw [perform_ofResult, ho],
    perform_bind_eq_ok.2 ⟨prepared, s₁, hp', hrun'⟩⟩

/-- The platform is about to report a conflict on the service of `ticker`, and will take its time to
    delete it. -/
def serviceTroubled : List Event := [.act (.injectConflict .service "ticker"),
  .act (.terminateGracefully .service "ticker")]

/-- Both deployments end alike, with the same build, and either puts up a service: a new one in place
    of the old one, which takes its time to go, but one that wants the same. -/
theorem deploy_again_serviceTroubled : ∃ o s₁ s₂, ∃ x₁ x₂ : Service,
    ((Deployer.ofContent []).deploy (.ticker [])).run (Session.ofRun serviceTroubled).platform =
      (some (.ok o), s₁) ∧
    ((Deployer.ofContent []).deploy (.ticker [])).run s₁ = (some (.ok o), s₂) ∧
    o = ⟨⟨"ticker"⟩, .building "ticker-1" .trigger, [⟨"ticker"⟩]⟩ ∧ StartsNone s₁ s₂ ∧
    s₁.find? .service "ticker" = some x₁ ∧ s₂.find? .service "ticker" = some x₂ ∧
    x₁.metadata.uid ≠ x₂.metadata.uid ∧ x₁.unstamped = x₂.unstamped := by
  have hforced : BuildHistory.forcesBuild (.ticker []) (Deployer.ofContent []).config ≠
      .ok true := fun h => nomatch h
  have hok : view? (some : DeployOutcome → Option DeployOutcome)
      (((Deployer.ofContent []).deploy (.ticker [])).run
        (Session.ofRun serviceTroubled).platform) =
      some ⟨⟨"ticker"⟩, .building "ticker-1" .trigger, [⟨"ticker"⟩]⟩ := by
    decide +kernel
  have hfirst : ((((Deployer.ofContent []).deploy (.ticker [])).run
      (Session.ofRun serviceTroubled).platform).2.find? .service "ticker").map
        (fun x => x.metadata.uid) = some (some "uid-5") := by
    decide +kernel
  have hsecond : ((((Deployer.ofContent []).deploy (.ticker [])).run
      (((Deployer.ofContent []).deploy (.ticker [])).run
        (Session.ofRun serviceTroubled).platform).2).2.find? .service "ticker").map
          (fun x => x.metadata.uid) = some (some "uid-7") := by
    decide +kernel
  obtain ⟨o, s₁, h, ho⟩ := exists_of_view? hok
  obtain ⟨s₂, h', hstarts, -, halike⟩ := deploy_again hforced h
  rw [h] at hfirst hsecond
  rw [h'] at hsecond
  obtain ⟨x₁, hx₁, huid₁⟩ := Option.map_eq_some_iff.1 hfirst
  obtain ⟨x₂, hx₂, huid₂⟩ := Option.map_eq_some_iff.1 hsecond
  have hsame := halike .service "ticker"
  rw [hx₁, hx₂] at hsame
  refine ⟨o, s₁, s₂, x₁, x₂, h, h', Option.some.inj ho, hstarts, hx₁, hx₂, ?_,
    (Option.some.inj hsame).symm⟩
  rw [huid₁, huid₂]
  decide

end Deployer

end Slipway

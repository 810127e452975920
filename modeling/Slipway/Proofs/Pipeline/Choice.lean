import Slipway.Proofs.Cluster.Written
import Slipway.Proofs.Deploy.Idempotent
import Slipway.Proofs.Session.Uniqueness

/-
  The choice between an earlier build and a new one. The builds that are offered for content are
  those stored for the application that did not fail and carry its fingerprint (`Offers`). If no
  build is forced and one is offered, a youngest one is answered with and nothing changes
  (`prepare_of_offered`). Otherwise a preparation that succeeds writes the image stream, then the
  build configuration, and then starts one build (`Commission`). Together these are
  `prepare_choice`, which also says what comes of a preparation right after: the same content is
  given the new build, other content never is.
-/

namespace Slipway

open Cluster Reconcile

/-! ## Builds on offer -/

namespace BuildHistory

variable {r : Request} {c : Config} {forced : Bool}

/-- No build is asked for in any case: the request says so, or says nothing where the configuration
    says so. -/
def Unforced (r : Request) (c : Config) : Prop :=
  ∃ flag, r.boolProperty Keys.forceBuild = .ok flag ∧ flag.getD c.forceBuild = false

theorem forcesBuild_eq_ok : forcesBuild r c = .ok forced ↔
    ∃ flag, r.boolProperty Keys.forceBuild = .ok flag ∧ flag.getD c.forceBuild = forced := by
  unfold forcesBuild
  refine Result.bind_eq_ok.trans (exists_congr fun flag => and_congr_right fun _ => ?_)
  exact ⟨fun h => Except.ok.inj h, fun h => congrArg Except.ok h⟩

theorem unforced_iff : Unforced r c ↔ forcesBuild r c = .ok false := forcesBuild_eq_ok.symm

end BuildHistory

namespace Cluster

variable {s : Cluster} {id : AppId} {fp : Fingerprint} {b : Build}

/-- A build is stored that was made for an application from content with a fingerprint, and did not
    fail. -/
def Offers (s : Cluster) (id : AppId) (fp : Fingerprint) (b : Build) : Prop :=
  (∃ name, s.find? .build name = some b) ∧ b.IsMadeFor id fp

/-- The builds on offer are those that the selector of the application lists and that carry the
    fingerprint. -/
theorem offers_iff (hid : id.IsPlain) : s.Offers id fp b ↔
    b ∈ s.matching .build (Labels.appSelector id) ∧ BuildHistory.carries fp b = true := by
  constructor
  · rintro ⟨⟨name, hb⟩, hmade⟩
    exact ⟨mem_matching_of_isMadeFor hid hb hmade,
      BuildHistory.carries_iff.2 ⟨hmade.phase_ne, hmade.marker_eq⟩⟩
  · rintro ⟨hmem, hcarries⟩
    obtain ⟨hvalue, hselected⟩ := List.mem_filter.1 hmem
    obtain ⟨hphase, hmarker⟩ := BuildHistory.carries_iff.1 hcarries
    exact ⟨Dict.mem_values_iff.1 hvalue,
      (Labels.satisfies_appSelector hid _).1 hselected, hmarker, hphase⟩

theorem reusable?_eq_none_iff (hid : id.IsPlain) :
    BuildHistory.reusable? (s.matching .build (Labels.appSelector id)) fp = none ↔
      ∀ b, ¬ s.Offers id fp b := by
  constructor
  · intro h b hb
    obtain ⟨hmem, hcarries⟩ := (offers_iff hid).1 hb
    rw [BuildHistory.not_carries_of_reusable? h hmem] at hcarries
    cases hcarries
  · intro h
    rcases hr : BuildHistory.reusable? (s.matching .build (Labels.appSelector id)) fp with _ | b
    · rfl
    · obtain ⟨hmem, hcarries, -⟩ := BuildHistory.reusable?_eq_some hr
      exact absurd ((offers_iff hid).2 ⟨hmem, hcarries⟩) (h b)

theorem offers_of_reusable? (hid : id.IsPlain)
    (h : BuildHistory.reusable? (s.matching .build (Labels.appSelector id)) fp = some b) :
    s.Offers id fp b ∧ ∀ b', s.Offers id fp b' → BuildHistory.notYounger b' b = true := by
  obtain ⟨hmem, hcarries, hyoungest⟩ := BuildHistory.reusable?_eq_some h
  refine ⟨(offers_iff hid).2 ⟨hmem, hcarries⟩, fun b' hb' => ?_⟩
  obtain ⟨hmem', hcarries'⟩ := (offers_iff hid).1 hb'
  exact hyoungest b' hmem' hcarries'

theorem log_of_startBuild {s' : Cluster} {base : String} {op : Operation}
    (h : s.startBuild base op = (.ok b, s')) : s'.log = s.log ++ [op] := by
  unfold startBuild at h
  split at h <;> cases h
  rfl

end Cluster

/-- A build was made for one fingerprint only. -/
theorem Resource.IsMadeFor.fingerprint_eq {b : Build} {id id' : AppId} {fp fp' : Fingerprint}
    (h : b.IsMadeFor id fp) (h' : b.IsMadeFor id' fp') : fp = fp' := by
  have hmarker := h.marker_eq.symm.trans h'.marker_eq
  exact congrArg Fingerprint.mk (Option.some.inj hmarker)

/-- How a plan starts its build: what is in source control is built from there, all else is
    uploaded. -/
def BuildPlan.StartsBy (plan : BuildPlan) (id : AppId) (op : Operation) : Prop :=
  plan.sourceType? = some .git ∧ op = .instantiate id.text ∨
    (plan.sourceType? = some .dockerfile ∨ plan.sourceType? = some .binary) ∧ op = .binary id.text

namespace Deployer

variable {s s' : Cluster} {d : Deployer} {r : Request} {id : AppId} {labels : Attributes}
  {p : Prepared} {b : Build} {plan : BuildPlan} {content : Bytes} {tag : String}

/-! ## A new build -/

theorem exists_startsBy (hplan : ∀ reference, plan ≠ .image reference) (id : AppId)
    (fileName : String) (content : Bytes) : ∃ op, plan.StartsBy id op ∧
      ∀ s : Cluster, s.perform (startBuild plan id fileName content) = s.startBuild id.text op := by
  cases plan with
  | image reference => exact absurd rfl (hplan reference)
  | git uri branch contextDir secret => exact ⟨_, .inl ⟨rfl, rfl⟩, fun _ => rfl⟩
  | dockerfile contents => exact ⟨_, .inr ⟨.inl rfl, rfl⟩, fun _ => rfl⟩
  | upload baseImage => exact ⟨_, .inr ⟨.inr rfl, rfl⟩, fun _ => rfl⟩

/-- A plan was chosen for a request, its image stream and its build configuration were written, in
    this order, and one build was started that is made for the application and the content. -/
structure Commission (d : Deployer) (r : Request) (id : AppId) (labels : Attributes)
    (content : Bytes) (tag : String) (s s' : Cluster) (b : Build) : Prop where
  course : ∃ plan bc, ∃ image config start : Operation,
    ((BuildPlan.choose d.files d.config r).run d.resolver r.artifact).1 = .ok plan ∧
    plan.buildConfig id labels (Fingerprint.of content) tag r = .ok bc ∧
    s'.log = s.log ++ [image, config, start] ∧
    image.Writes .imageStream id.text ∧ config.Writes .buildConfig id.text ∧
    plan.StartsBy id start ∧
    (s'.find? .imageStream id.text).map Resource.unstamped =
      some (Bundle.imageStream id labels).stored.unstamped ∧
    (s'.find? .buildConfig id.text).map Resource.unstamped = some bc.stored.unstamped
  builds_eq : s'.objects.of .build = (s.objects.of .build).insert b.name b
  isMadeFor : b.IsMadeFor id (Fingerprint.of content)
  phase_eq : b.phase = .new
  outputTag?_eq : b.outputTag? = some tag

/-- A build is set up by writing the image stream, then the build configuration, and then starting
    it. -/
theorem setUp_eq_ok (h : s.perform (setUp plan r id labels content tag) = (.ok p, s')) :
    ∃ x bc y b s₁ s₂, s.perform (reconcile (Bundle.imageStream id labels)) = (.ok x, s₁) ∧
      plan.buildConfig id labels (Fingerprint.of content) tag r = .ok bc ∧
      s₁.perform (reconcile bc) = (.ok y, s₂) ∧
      s₂.perform (startBuild plan id r.artifact.fileName content) = (.ok b, s') ∧
      p = .submitted b tag := by
  obtain ⟨x, s₁, hx, h⟩ := perform_bind_eq_ok.1 h
  obtain ⟨bc, _, hresult, h⟩ := perform_bind_eq_ok.1 h
  obtain ⟨hbc, rfl⟩ := Prod.mk.inj hresult
  obtain ⟨y, s₂, hy, h⟩ := perform_bind_eq_ok.1 h
  obtain ⟨b, s₃, hb, h⟩ := perform_bind_eq_ok.1 h
  obtain ⟨hp, rfl⟩ := Prod.mk.inj h
  exact ⟨x, bc, y, b, s₁, s₂, hx, hbc, hy, hb, (Except.ok.inj hp).symm⟩

theorem build_eq_ok (hi : ∀ reference, r.artifact ≠ .image reference)
    (h : s.perform (d.build r id labels content tag) = (.ok p, s')) :
    ∃ plan, ((BuildPlan.choose d.files d.config r).run d.resolver r.artifact).1 = .ok plan ∧
      (∀ reference, plan ≠ .image reference) ∧
      s.perform (setUp plan r id labels content tag) = (.ok p, s') := by
  obtain ⟨plan, _, hresult, h⟩ := perform_bind_eq_ok.1 h
  obtain ⟨hplan, rfl⟩ := Prod.mk.inj hresult
  have hne : ∀ reference, plan ≠ .image reference := fun reference he =>
    BuildPlan.choose_ne_image hi (he ▸ hplan)
  refine ⟨plan, hplan, hne, ?_⟩
  cases plan with
  | image reference => exact absurd rfl (hne reference)
  | git uri branch contextDir secret => exact h
  | dockerfile contents => exact h
  | upload baseImage => exact h

/-- A build that is set up follows the build configuration of the request, and is recorded with
    what it took in three operations. -/
theorem commission_of_build (hi : ∀ reference, r.artifact ≠ .image reference)
    (hlabels : labels.get? Labels.appIdKey = some id.text)
    (h : s.perform (d.build r id labels content tag) = (.ok p, s')) :
    ∃ b, p = .submitted b tag ∧ Commission d r id labels content tag s s' b ∧
      Commissioned s s' id labels (Fingerprint.of content) tag b := by
  obtain ⟨plan, hplan, hne, h⟩ := build_eq_ok hi h
  obtain ⟨x, bc, y, b, s₁, s₂, hx, hbc, hy, hb, rfl⟩ := setUp_eq_ok h
  obtain ⟨start, hstart, hperform⟩ := exists_startsBy hne id r.artifact.fileName content
  rw [hperform] at hb
  have hname : bc.name = id.text := BuildPlan.name_of_buildConfig hbc
  obtain ⟨image, hlog₁, himage⟩ := log_reconcile_update rfl hx
  obtain ⟨config, hlog₂, hconfig⟩ := log_reconcile_update rfl hy
  have hstream := reconcile_eq_ok hx
  have hwritten := reconcile_eq_ok hy
  -- the builds are those there were before, and the other objects those that were just written
  have hbuilds : s₂.objects.of .build = s.objects.of .build := by
    have h₁ := objects_of_reconcile (j := .build) s (Bundle.imageStream id labels) (by decide)
    have h₂ := objects_of_reconcile (j := .build) s₁ bc (by decide)
    rw [hx] at h₁
    rw [hy] at h₂
    exact h₂.trans h₁
  have hfind : ∀ k name, k ≠ .build → s'.find? k name = s₂.find? k name := fun k name hk => by
    have ho := objects_of_startBuild_of_ne s₂ id.text start hk
    rw [hb] at ho
    exact find?_congr ho name
  have hkept : s₂.find? .imageStream id.text = s₁.find? .imageStream id.text := by
    have ho := objects_of_reconcile (j := .imageStream) s₁ bc (by decide)
    rw [hy] at ho
    exact find?_congr ho _
  have hb' := (commissioned_of_reconcile hbc hy hb).of_builds_eq hbuilds
  obtain ⟨c, hs⟩ := hb'.started
  obtain ⟨hphase, hmarker⟩ := BuildHistory.carries_iff.1 hb'.carries
  refine ⟨b, rfl, ⟨⟨plan, bc, image, config, start, hplan, hbc, ?_, himage, hname ▸ hconfig,
    hstart, ?_, ?_⟩, hs.builds_eq, ⟨hb'.labels_eq ▸ hlabels, hmarker, hphase⟩, hb'.phase_eq,
    hb'.outputTag?_eq⟩, hb'⟩
  · rw [log_of_startBuild hb, hlog₂, hlog₁]
    simp
  · have hself : s₁.find? .imageStream id.text = some x := hstream.find?_self
    rw [hfind _ _ (by decide), hkept, hself]
    exact congrArg some hstream.unstamped_eq
  · have hself : s₂.find? .buildConfig id.text = some y := hname ▸ hwritten.find?_self
    rw [hfind _ _ (by decide), hself]
    exact congrArg some hwritten.unstamped_eq

/-! ## The choice -/

/-- Where no build is forced and one is on offer, a youngest one is answered with: as it will be
    while it goes on, and with its image once it has come to an end. -/
theorem prepare_of_offered (hi : ∀ reference, r.artifact ≠ .image reference)
    (hc : d.resolver.bytes r.artifact = .ok content) (hid : id.IsPlain)
    (hforced : BuildHistory.Unforced r d.config)
    (hb : ∃ b, s.Offers id (Fingerprint.of content) b) (labels : Attributes) :
    ∃ b, s.Offers id (Fingerprint.of content) b ∧
      (∀ b', s.Offers id (Fingerprint.of content) b' → BuildHistory.notYounger b' b = true) ∧
      s.perform (d.prepare r id labels) =
        (.ok (ofEarlier b (BuildPlan.outputTag d.config r id)), s) := by
  rcases hr : BuildHistory.reusable? (s.matching .build (Labels.appSelector id))
      (Fingerprint.of content) with _ | b
  · obtain ⟨b, hb⟩ := hb
    exact absurd hb ((reusable?_eq_none_iff hid).1 hr b)
  · obtain ⟨hoffers, hyoungest⟩ := offers_of_reusable? hid hr
    refine ⟨b, hoffers, hyoungest, perform_prepare_of_earlier hi hc ?_⟩
    exact BuildHistory.toReuse?_eq_ok.2 ⟨false, BuildHistory.unforced_iff.1 hforced, hr.symm⟩

/-- Where a preparation succeeds that could not use an earlier build, it made a new one. -/
theorem prepare_of_not_offered (hi : ∀ reference, r.artifact ≠ .image reference)
    (hc : d.resolver.bytes r.artifact = .ok content) (hid : id.IsPlain)
    (hlabels : labels.get? Labels.appIdKey = some id.text)
    (hnew : ¬ (BuildHistory.Unforced r d.config ∧ ∃ b, s.Offers id (Fingerprint.of content) b))
    (h : s.perform (d.prepare r id labels) = (.ok p, s')) :
    ∃ b, p = .submitted b (BuildPlan.outputTag d.config r id) ∧
      Commission d r id labels content (BuildPlan.outputTag d.config r id) s s' b ∧
      Commissioned s s' id labels (Fingerprint.of content) (BuildPlan.outputTag d.config r id)
        b := by
  rw [prepare_of_not_image hi, perform_ofResult_bind hc, perform_list_bind] at h
  obtain ⟨earlier, _, hresult, h⟩ := perform_bind_eq_ok.1 h
  obtain ⟨he, rfl⟩ := Prod.mk.inj hresult
  obtain ⟨forced, hforced, hearlier⟩ := BuildHistory.toReuse?_eq_ok.1 he
  have hnone : earlier = none := by
    cases forced with
    | true => exact hearlier
    | false =>
      rw [hearlier]
      refine (reusable?_eq_none_iff hid).2 fun b hb => hnew ⟨?_, b, hb⟩
      exact BuildHistory.unforced_iff.2 hforced
  subst hnone
  exact commission_of_build hi hlabels h

/-- A new build is the one that the same content is given from then on, if none was on offer. -/
theorem prepare_after {t : Cluster} {tag : String} {labels' : Attributes}
    (hb : Commissioned s t id labels (Fingerprint.of content) tag b)
    (hnone : ∀ b', ¬ s.Offers id (Fingerprint.of content) b') (hid : id.IsPlain)
    (hlabels : labels.get? Labels.appIdKey = some id.text)
    (hi : ∀ reference, r.artifact ≠ .image reference)
    (hc : d.resolver.bytes r.artifact = .ok content)
    (hforced : BuildHistory.Unforced r d.config) :
    t.perform (d.prepare r id labels') =
      (.ok (.submitted b (BuildPlan.outputTag d.config r id)), t) := by
  have hreusable := hb.reusable? (fun b' hb' => ?_) hid hlabels rfl
  · have he := BuildHistory.toReuse?_eq_ok.2
      ⟨false, BuildHistory.unforced_iff.1 hforced, hreusable.symm⟩
    rw [perform_prepare_of_earlier hi hc he]
    unfold ofEarlier
    rw [hb.phase_eq]
    rfl
  · exact Bool.eq_false_iff.2 fun hcarries => hnone b' ((offers_iff hid).2 ⟨hb', hcarries⟩)

/-- What was prepared rests on no build, or on one that was made for an application and a
    fingerprint and that is another than `b`. -/
def RestsOnOther (p : Prepared) (s : Cluster) (id : AppId) (fp : Fingerprint) (b : Build) : Prop :=
  match p with
  | .noBuild _ => True
  | .reused name _ => ∃ e, s.Offers id fp e ∧ e.name = name ∧ e ≠ b
  | .submitted e _ => e.IsMadeFor id fp ∧ e ≠ b

/-- A preparation never answers with a build that was made from other content. -/
theorem restsOnOther_of_prepare (hc : d.resolver.bytes r.artifact = .ok content) (hid : id.IsPlain)
    (hlabels : labels.get? Labels.appIdKey = some id.text)
    (hb : ¬ b.IsMadeFor id (Fingerprint.of content))
    (h : s.perform (d.prepare r id labels) = (.ok p, s')) :
    RestsOnOther p s id (Fingerprint.of content) b := by
  have hne : ∀ e : Build, e.IsMadeFor id (Fingerprint.of content) → e ≠ b := by
    rintro e he rfl
    exact hb he
  by_cases hi : ∃ reference, r.artifact = .image reference
  · obtain ⟨reference, hi⟩ := hi
    rw [prepare_of_image hi] at h
    cases h
    trivial
  have hi : ∀ reference, r.artifact ≠ .image reference := fun reference hr => hi ⟨reference, hr⟩
  by_cases hoffered : BuildHistory.Unforced r d.config ∧
      ∃ e, s.Offers id (Fingerprint.of content) e
  · obtain ⟨e, he, -, hp⟩ := prepare_of_offered hi hc hid hoffered.1 hoffered.2 labels
    rw [hp] at h
    cases h
    unfold ofEarlier
    split
    next => exact ⟨e, he, rfl, hne e he.2⟩
    next => exact ⟨he.2, hne e he.2⟩
  · obtain ⟨e, rfl, he, -⟩ := prepare_of_not_offered hi hc hid hlabels hoffered h
    exact ⟨he.isMadeFor, hne e he.isMadeFor⟩

/-- Either no build is forced and one is on offer for the content: then a youngest of these is
    answered with, and nothing changes. Or a preparation that succeeds makes a new build, with the
    label of the application and the fingerprint of the content, by writing the image stream,
    writing the build configuration, and starting it. Right afterwards the same content is given
    this build, if none was on offer before, and no other content is. -/
theorem prepare_choice (hi : ∀ reference, r.artifact ≠ .image reference)
    (hc : d.resolver.bytes r.artifact = .ok content) (s : Cluster) :
    (BuildHistory.Unforced r d.config → (∃ b, s.Offers r.appId (Fingerprint.of content) b) →
      ∃ b, s.Offers r.appId (Fingerprint.of content) b ∧
        (∀ b', s.Offers r.appId (Fingerprint.of content) b' →
          BuildHistory.notYounger b' b = true) ∧
        (d.prepare r r.appId (Labels.base r.appId r)).run s = (some (.ok
          (if b.phase.isTerminal then
            .reused b.name (b.builtImage (BuildPlan.outputTag d.config r r.appId))
          else .submitted b (BuildPlan.outputTag d.config r r.appId))), s)) ∧
    (¬ (BuildHistory.Unforced r d.config ∧
        ∃ b, s.Offers r.appId (Fingerprint.of content) b) →
      ∀ p s', (d.prepare r r.appId (Labels.base r.appId r)).run s = (some (.ok p), s') →
      ∃ b, p = .submitted b (BuildPlan.outputTag d.config r r.appId) ∧
        Commission d r r.appId (Labels.base r.appId r) content
          (BuildPlan.outputTag d.config r r.appId) s s' b ∧
        ((∀ b', ¬ s.Offers r.appId (Fingerprint.of content) b') →
          ∀ (d' : Deployer) (r' : Request), (∀ reference, r'.artifact ≠ .image reference) →
          d'.resolver.bytes r'.artifact = .ok content → r'.appId = r.appId →
          BuildHistory.Unforced r' d'.config →
          (d'.prepare r' r'.appId (Labels.base r'.appId r')).run s' =
            (some (.ok (.submitted b (BuildPlan.outputTag d'.config r' r'.appId))), s')) ∧
        ∀ (d' : Deployer) (r' : Request) content',
          d'.resolver.bytes r'.artifact = .ok content' →
          Fingerprint.of content' ≠ Fingerprint.of content →
          ∀ p' s'', (d'.prepare r' r'.appId (Labels.base r'.appId r')).run s' =
            (some (.ok p'), s'') →
          RestsOnOther p' s' r'.appId (Fingerprint.of content') b) := by
  have hid := AppId.isPlain_appId r
  have hlabels : ∀ r : Request, (Labels.base r.appId r).get? Labels.appIdKey =
    some r.appId.text := fun r => Labels.appId_base _ _
  constructor
  · intro hforced hoffered
    obtain ⟨b, hb, hyoungest, hp⟩ :=
      prepare_of_offered hi hc hid hforced hoffered (Labels.base r.appId r)
    exact ⟨b, hb, hyoungest, run_eq_some_iff.2 hp⟩
  · intro hnew p s' h
    obtain ⟨b, hp, hcommission, hcommissioned⟩ :=
      prepare_of_not_offered hi hc hid (hlabels r) hnew (run_eq_some_iff.1 h)
    refine ⟨b, hp, hcommission, ?_, ?_⟩
    · intro hnone d' r' hi' hc' hsame hforced
      rw [← hsame] at hcommissioned hnone
      refine run_eq_some_iff.2 (prepare_after hcommissioned hnone (AppId.isPlain_appId r') ?_ hi'
        hc' hforced)
      rw [hsame]
      exact hlabels r
    · intro d' r' content' hc' hfp p' s'' h'
      refine restsOnOther_of_prepare hc' (AppId.isPlain_appId r') (hlabels r')
        (fun hmade => hfp ?_) (run_eq_some_iff.1 h')
      exact hmade.fingerprint_eq hcommission.isMadeFor

/-- The preparation of `ticker` on its own. -/
def prepareTicker : Action Prepared :=
  (Deployer.ofContent []).prepare (.ticker []) (Request.ticker []).appId
    (Labels.base (Request.ticker []).appId (.ticker []))

/-- Where `ticker` was deployed, its build is used; on an empty platform one is started, which is
    then followed. -/
theorem prepare_choice_ticker :
    (∃ b : Build, (Session.ofRun deployedOnce).platform.Offers (Request.ticker []).appId
        (Fingerprint.of []) b ∧ ∃ p, prepareTicker.run (Session.ofRun deployedOnce).platform =
          (some (.ok p), (Session.ofRun deployedOnce).platform)) ∧
    ∃ b s', prepareTicker.run ({} : Cluster) =
        (some (.ok (.submitted b "ticker:latest")), s') ∧
      Commission (Deployer.ofContent []) (.ticker []) (Request.ticker []).appId
        (Labels.base (Request.ticker []).appId (.ticker [])) [] "ticker:latest" {} s' b ∧
      prepareTicker.run s' = (some (.ok (.submitted b "ticker:latest")), s') := by
  have hi : ∀ reference, (Request.ticker []).artifact ≠ .image reference := fun _ h => nomatch h
  have hbytes : (Deployer.ofContent []).resolver.bytes (Request.ticker []).artifact = .ok [] := rfl
  have hforced : BuildHistory.Unforced (.ticker []) (Deployer.ofContent []).config :=
    ⟨none, rfl, rfl⟩
  have htag : BuildPlan.outputTag (Deployer.ofContent []).config (.ticker [])
      (Request.ticker []).appId = "ticker:latest" := by
    decide +kernel
  refine ⟨?_, ?_⟩
  · have hview : ((Session.ofRun deployedOnce).platform.find? .build "ticker-1").map
        (fun b => (b.labels.get? Labels.appIdKey,
          b.strategy.envValue Labels.fingerprintVariable, b.phase)) =
        some (some (Request.ticker []).appId.text, some (Fingerprint.of []).text, .new) := by
      decide +kernel
    obtain ⟨b, hfind, hb⟩ := Option.map_eq_some_iff.1 hview
    obtain ⟨hlabel, hb⟩ := Prod.mk.inj hb
    obtain ⟨hmarker, hphase⟩ := Prod.mk.inj hb
    have hoffers : (Session.ofRun deployedOnce).platform.Offers (Request.ticker []).appId
        (Fingerprint.of []) b :=
      ⟨⟨_, hfind⟩, hlabel, hmarker, by rw [hphase]; decide⟩
    obtain ⟨b', hb', -, hp⟩ := (prepare_choice hi hbytes _).1 hforced ⟨b, hoffers⟩
    exact ⟨b', hb', _, hp⟩
  · have hnone : ∀ b', ¬ ({} : Cluster).Offers (Request.ticker []).appId
        (Fingerprint.of []) b' := by
      rintro b' ⟨⟨name, hb'⟩, -⟩
      cases hb'
    have hok : view? (fun _ : Prepared => some ()) (prepareTicker.run ({} : Cluster)) =
        some () := by
      decide +kernel
    obtain ⟨p, s', h, -⟩ := exists_of_view? hok
    obtain ⟨b, rfl, hcommission, hagain, -⟩ := (prepare_choice hi hbytes {}).2
      (fun hoffered => hoffered.2.elim hnone) p s' h
    have h' := hagain hnone (Deployer.ofContent []) (.ticker []) hi hbytes rfl hforced
    rw [htag] at h hcommission h'
    exact ⟨b, s', h, hcommission, h'⟩

end Deployer

end Slipway

import Slipway.Proofs.Cluster.Conflicts
import Slipway.Proofs.Deploy.Apart
import Slipway.Proofs.Deploy.Attempts
import Slipway.Proofs.Deploy.Undeploy
import Slipway.Proofs.Pipeline.Choice
import Slipway.Proofs.Session.Launches

/-
  Deploying, undeploying and deploying again. A deployment that forces no build leaves a build on
  offer, or fails by a conflict on the image stream or the build configuration, or is one of a kind
  that starts no build anywhere (`deploy_prospect`). A build on offer stays so while no build fails
  (`Session.offers_after`), and where one is on offer no other is started
  (`startsNone_deploy_of_offered`). Together with what undeploying takes away this is
  `undeploy_exact`; it does not hold of objects that are stored under other names than their own,
  nor of a first deployment that met with such a conflict (`undeploy_not_exact`).
-/

namespace Slipway

open Cluster Reconcile

/-! ## What a preparation shows of later ones -/

namespace Cluster

variable {s : Cluster} {α β : Type}

theorem startsNone_bind {a : Action α} {f : α → Action β} (ha : StartsNone s (s.perform a).2)
    (hf : ∀ x s', StartsNone s' (s'.perform (f x)).2) :
    StartsNone s (s.perform (a >>= f)).2 := by
  rw [perform_bind]
  rcases hs : s.perform a with ⟨e | x, s'⟩
  · rwa [hs] at ha
  · rw [hs] at ha
    exact ha.trans (hf x s')

/-- Whatever is done without starting a build can be added to what started none. -/
theorem kept_startsNone (s : Cluster) :
    Kept (σ := Cluster) (fun c => ¬ c.StartsBuild) (fun _ => True) (StartsNone s) where
  answer _ s' hc hs := hs.trans (startsNone_answer hc s')
  opened _ _ _ _ _ _ := trivial
  poll id s' _ hs := hs.trans (.of_log_eq (untouched_poll s' id).log_eq)
  close _ _ _ hs := hs.trans (.of_log_eq rfl)

theorem Offers.congr {s' : Cluster} {id : AppId} {fp : Fingerprint} {b : Build}
    (h : s.Offers id fp b) (ho : s'.objects.of .build = s.objects.of .build) :
    s'.Offers id fp b := by
  obtain ⟨⟨name, hb⟩, hmade⟩ := h
  exact ⟨⟨name, (find?_congr ho name).trans hb⟩, hmade⟩

end Cluster

namespace Deployer

variable {s q : Cluster} {d : Deployer} {r : Request} {id : AppId} {labels : Attributes}
  {plan : BuildPlan} {content : Bytes} {tag : String}

/-- An action fails by a conflict on the image stream or the build configuration of an
    application. -/
def MeetsConflict {α : Type} (id : AppId) (a : Action α) (s : Cluster) : Prop :=
  ∃ k, (k = .imageStream ∨ k = .buildConfig) ∧
    (s.perform a).1 = .error (.alreadyExists k id.text)

/-- An action starts no build, whatever platform it is carried out on. -/
def NeverBuilds {α : Type} (a : Action α) : Prop := ∀ q : Cluster, StartsNone q (q.perform a).2

theorem MeetsConflict.bind {α β : Type} {a : Action α} (h : MeetsConflict id a s)
    (f : α → Action β) : MeetsConflict id (a >>= f) s := by
  obtain ⟨k, hk, h⟩ := h
  refine ⟨k, hk, ?_⟩
  rw [perform_bind]
  rcases hs : s.perform a with ⟨e | x, s'⟩
  · rw [hs] at h
    cases h
    rfl
  · rw [hs] at h
    cases h

/-- A build is set up, unless a conflict is met with or the build configuration can never be
    written. -/
theorem setUp_prospect (plan : BuildPlan) (r : Request) (id : AppId) (labels : Attributes)
    (content : Bytes) (tag : String) (s : Cluster) :
    NeverBuilds (setUp plan r id labels content tag) ∨
      MeetsConflict id (setUp plan r id labels content tag) s ∨
      ∃ p s', s.perform (setUp plan r id labels content tag) = (.ok p, s') := by
  rcases hbc : plan.buildConfig id labels (Fingerprint.of content) tag r with e | bc
  · refine .inl fun q => startsNone_bind (startsNone_reconcile q _) fun x q' => ?_
    rw [hbc]
    exact .of_log_eq rfl
  refine .inr ((setUp_outcome hbc s).imp_left ?_)
  rintro ⟨k, hk, -, he⟩
  exact ⟨k, hk, he⟩

theorem build_prospect (hi : ∀ reference, r.artifact ≠ .image reference) (id : AppId)
    (labels : Attributes) (content : Bytes) (tag : String) (s : Cluster) :
    NeverBuilds (d.build r id labels content tag) ∨
      MeetsConflict id (d.build r id labels content tag) s ∨
      ∃ p s', s.perform (d.build r id labels content tag) = (.ok p, s') := by
  unfold build
  rcases hplan : ((BuildPlan.choose d.files d.config r).run d.resolver r.artifact).1 with e | plan
  · exact .inl fun q => .of_log_eq rfl
  · cases plan with
    | image reference => exact absurd hplan (BuildPlan.choose_ne_image hi)
    | git uri branch contextDir secret => exact setUp_prospect _ r id labels content tag s
    | dockerfile contents => exact setUp_prospect _ r id labels content tag s
    | upload baseImage => exact setUp_prospect _ r id labels content tag s

/-- Where a build is on offer and none is forced, preparing the image changes nothing. -/
theorem perform_prepare_of_offered (hi : ∀ reference, r.artifact ≠ .image reference)
    (hc : d.resolver.bytes r.artifact = .ok content) (hid : id.IsPlain)
    (hforced : BuildHistory.Unforced r d.config)
    (hb : ∃ b, q.Offers id (Fingerprint.of content) b) :
    (q.perform (d.prepare r id labels)).2 = q := by
  obtain ⟨b, -, -, hp⟩ := prepare_of_offered hi hc hid hforced hb labels
  rw [hp]

/-- Where none is on offer, a build is set up. -/
theorem perform_prepare_of_not_offered (hi : ∀ reference, r.artifact ≠ .image reference)
    (hc : d.resolver.bytes r.artifact = .ok content) (hid : id.IsPlain)
    (hforced : BuildHistory.Unforced r d.config)
    (hb : ∀ b, ¬ q.Offers id (Fingerprint.of content) b) :
    q.perform (d.prepare r id labels) =
      q.perform (d.build r id labels content (BuildPlan.outputTag d.config r id)) :=
  perform_prepare_of_none hi hc (BuildHistory.toReuse?_eq_ok.2
    ⟨false, BuildHistory.unforced_iff.1 hforced, ((reusable?_eq_none_iff hid).2 hb).symm⟩)

/-- What the preparation of an image that forces no build shows of later ones: it starts no build
    anywhere, or meets with a conflict, or leaves a build on offer. -/
theorem prepare_prospect (hid : id.IsPlain) (hlabels : labels.get? Labels.appIdKey = some id.text)
    (hforced : BuildHistory.Unforced r d.config) (s : Cluster) :
    NeverBuilds (d.prepare r id labels) ∨ MeetsConflict id (d.prepare r id labels) s ∨
      ∃ content b, (∀ reference, r.artifact ≠ .image reference) ∧
        d.resolver.bytes r.artifact = .ok content ∧
        (s.perform (d.prepare r id labels)).2.Offers id (Fingerprint.of content) b := by
  by_cases hi : ∃ reference, r.artifact = .image reference
  · obtain ⟨reference, hi⟩ := hi
    rw [prepare_of_image hi]
    exact .inl fun q => .of_log_eq rfl
  have hi : ∀ reference, r.artifact ≠ .image reference := fun reference hr => hi ⟨reference, hr⟩
  rcases hc : d.resolver.bytes r.artifact with e | content
  · refine .inl fun q => ?_
    rw [prepare_of_not_image hi, perform_bind, perform_ofResult, hc]
    exact .of_log_eq rfl
  by_cases hoffered : ∃ b, s.Offers id (Fingerprint.of content) b
  · have hsame : (s.perform (d.prepare r id labels)).2 = s :=
      perform_prepare_of_offered hi hc hid hforced hoffered
    obtain ⟨b, hb⟩ := hoffered
    exact .inr (.inr ⟨content, b, hi, rfl, by rwa [hsame]⟩)
  have hnone : ∀ b, ¬ s.Offers id (Fingerprint.of content) b := fun b hb => hoffered ⟨b, hb⟩
  have hprepare : s.perform (d.prepare r id labels) =
      s.perform (d.build r id labels content (BuildPlan.outputTag d.config r id)) :=
    perform_prepare_of_not_offered hi hc hid hforced hnone
  rcases build_prospect hi id labels content (BuildPlan.outputTag d.config r id) s with
    hnever | ⟨k, hk, he⟩ | ⟨p, s', hp⟩
  · refine .inl fun q => ?_
    by_cases hq : ∃ b, q.Offers id (Fingerprint.of content) b
    · rw [perform_prepare_of_offered hi hc hid hforced hq]
      exact .of_log_eq rfl
    · rw [perform_prepare_of_not_offered hi hc hid hforced fun b hb => hq ⟨b, hb⟩]
      exact hnever q
  · exact .inr (.inl ⟨k, hk, by rwa [hprepare]⟩)
  · obtain ⟨b, -, hb, -⟩ := commission_of_build hi hlabels hp
    refine .inr (.inr ⟨content, b, hi, rfl, ?_⟩)
    rw [hprepare, hp]
    exact ⟨⟨b.name, find?_of_insert hb.builds_eq b.name ▸ if_pos rfl⟩, hb.isMadeFor⟩

/-! ## Deploying again -/

/-- What a deployment that forces no build shows of later ones. -/
theorem deploy_prospect (hforced : BuildHistory.Unforced r d.config) (s : Cluster) :
    NeverBuilds (d.deploy r) ∨ MeetsConflict r.appId (d.deploy r) s ∨
      ∃ content b, (∀ reference, r.artifact ≠ .image reference) ∧
        d.resolver.bytes r.artifact = .ok content ∧
        (s.perform (d.deploy r)).2.Offers r.appId (Fingerprint.of content) b := by
  rcases ho : DeployOrder.ofRequest d.config r with e | order
  · refine .inl fun q => ?_
    rw [deploy_eq, perform_bind, perform_ofResult, ho]
    exact .of_log_eq rfl
  have hof := DeployOrder.ofRequest_eq_ok ho
  have hdeploy : ∀ q : Cluster, q.perform (d.deploy r) =
      q.perform (d.prepare r r.appId (Labels.base r.appId r) >>= d.runInstances r order) := by
    intro q
    rw [deploy_eq, perform_ofResult_bind ho, hof.id, hof.labels]
  unfold NeverBuilds MeetsConflict
  simp only [hdeploy]
  rcases prepare_prospect (AppId.isPlain_appId r) (Labels.appId_base _ r) hforced s with
    hnever | hconflict | ⟨content, b, hi, hc, hb⟩
  · exact .inl fun q => startsNone_bind (hnever q) fun p q' => startsNone_runInstances q' order p
  · exact .inr (.inl (hconflict.bind _))
  · refine .inr (.inr ⟨content, b, hi, hc, hb.congr ?_⟩)
    rw [perform_bind]
    rcases s.perform (d.prepare r r.appId (Labels.base r.appId r)) with ⟨e | p, s'⟩
    · rfl
    · exact objects_of_perform
        (runInstances_not_changes (by decide) (by decide) (by decide) order p) s'

theorem startsNone_deploy_of_offered (hi : ∀ reference, r.artifact ≠ .image reference)
    (hc : d.resolver.bytes r.artifact = .ok content)
    (hforced : BuildHistory.Unforced r d.config)
    (hb : ∃ b, q.Offers r.appId (Fingerprint.of content) b) :
    StartsNone q (q.perform (d.deploy r)).2 := by
  rw [deploy_eq, perform_bind, perform_ofResult]
  rcases ho : DeployOrder.ofRequest d.config r with e | order
  · exact .of_log_eq rfl
  have hof := DeployOrder.ofRequest_eq_ok ho
  dsimp only
  rw [hof.id, hof.labels]
  refine startsNone_bind ?_ fun p q' => startsNone_runInstances q' order p
  rw [perform_prepare_of_offered hi hc (AppId.isPlain_appId r) hforced hb]
  exact .of_log_eq rfl

end Deployer

/-! ## Between deployments -/

namespace Session

/-- None of some events moves a build to failed that has not failed before. -/
def NoneFails : Session Cluster → List Event → Prop
  | _, [] => True
  | S, e :: es => (∀ name b, e.Moves name .failed → S.platform.find? .build name = some b →
      b.phase = .failed) ∧ NoneFails (e.apply S) es

end Session

variable {S : Session Cluster} {e : Event} {es : List Event} {id : AppId} {fp : Fingerprint}
  {d : Deployer} {r : Request}

theorem Event.offers_apply (hm : e.IsManaged) (ho : e.order? = none)
    (hfails : ∀ name b, e.Moves name .failed → S.platform.find? .build name = some b →
      b.phase = .failed) (h : ∃ b, S.platform.Offers id fp b) :
    ∃ b, (e.apply S).platform.Offers id fp b := by
  obtain ⟨b, ⟨name, hb⟩, hmade⟩ := h
  cases e.buildChange hm S with
  | none h => exact ⟨b, Offers.congr ⟨⟨name, hb⟩, hmade⟩ h⟩
  | started h hstarted =>
    obtain ⟨o, horder, -⟩ := hstarted
    rw [ho] at horder
    cases horder
  | @moved other c c' h hmoves =>
    by_cases hn : name = other
    · subst hn
      obtain rfl : c = b := Option.some.inj (h.find?_eq.symm.trans hb)
      refine ⟨c', ⟨name, h.find?_self⟩, ?_, ?_, fun hphase => ?_⟩
      · rw [h.labels_eq]
        exact hmade.appId_eq
      · unfold Resource.strategy
        rw [h.spec_eq]
        exact hmade.marker_eq
      · rw [hphase] at hmoves
        exact hmade.phase_ne (hfails name c hmoves hb)
    · exact ⟨b, ⟨name, (h.find?_of_ne hn).trans hb⟩, hmade⟩

/-- A build on offer stays on offer, or one in its place, while no build fails. -/
theorem Session.offers_after (hm : ∀ e ∈ es, e.IsManaged ∧ e.order? = none)
    (hfails : S.NoneFails es) (h : ∃ b, S.platform.Offers id fp b) :
    ∃ b, (S.after es).platform.Offers id fp b := by
  induction es generalizing S with
  | nil => exact h
  | cons e es ih =>
    obtain ⟨hmanaged, horder⟩ := hm e (.head _)
    exact ih (fun e' he' => hm e' (.tail _ he')) hfails.2
      (Event.offers_apply hmanaged horder hfails.1 h)

/-- A deployment as a step of a session, and all that it causes, starts a build only if the
    deployment itself does. -/
theorem Session.startsNone_deploy (h : StartsNone S.platform (S.platform.perform (d.deploy r)).2) :
    StartsNone S.platform (S.step d (.deploy r)).2.platform := by
  refine Session.settle_keeps (kept_startsNone S.platform)
    (fun pod => (only_reconcile pod).mono fun _ hc => hc.not_startsBuild) (fun _ _ => trivial) ?_
  have hs : (S.take d (.deploy r)).2.platform = (S.platform.perform (d.deploy r)).2 :=
    congrArg Prod.snd (run_eq_perform _ _)
  show StartsNone S.platform (S.take d (.deploy r)).2.platform
  rwa [hs]

/-- Where a deployment met with no conflict on the image stream or the build configuration, it
    starts no build when it is carried out again, unless one failed in between. -/
theorem Session.startsNone_redeploy (hforced : BuildHistory.Unforced r d.config)
    (hreply : ∀ k, k = .imageStream ∨ k = .buildConfig →
      (S.step d (.deploy r)).1 ≠ .failed (.alreadyExists k r.appId.text))
    (hm : ∀ e ∈ es, e.IsManaged ∧ e.order? = none)
    (hfails : (S.step d (.deploy r)).2.NoneFails es) :
    StartsNone ((S.step d (.deploy r)).2.after es).platform
      (((S.step d (.deploy r)).2.after es).step d (.deploy r)).2.platform := by
  refine startsNone_deploy ?_
  rcases Deployer.deploy_prospect hforced S.platform with
    hnever | ⟨k, hk, he⟩ | ⟨content, b, hi, hc, hb⟩
  · exact hnever _
  · refine absurd ?_ (hreply k hk)
    show Reply.ofRun _ ((d.deploy r).run S.platform).1 = _
    rw [run_eq_perform, he]
    rfl
  · refine Deployer.startsNone_deploy_of_offered hi hc hforced (offers_after hm hfails ⟨b, ?_⟩)
    refine hb.congr ((objects_of_settle .build (by decide) _).trans ?_)
    exact congrArg (fun s : Cluster => s.objects.of .build)
      (congrArg Prod.snd (run_eq_perform (d.deploy r) S.platform))

/-! ## Undeploying -/

/-- Undeploying always succeeds. Where the routes, services and deployments of the application are
    stored under their own names, these are gone afterwards, or marked while their deletion takes
    its time, nothing else has changed, and if no deletion takes its time there is nothing left to
    do a second time. What was built stays: where a deployment that forces no build met with no
    conflict on its image stream or its build configuration, undeploying and deploying again starts
    no build, whatever else happens in between, if it asks for no image and no build fails. -/
theorem undeploy_exact :
    (∀ (s : Cluster) (name : String) (group : Option String),
      let id := AppId.ofParts name group
      ∃ s', (Deployer.undeploy id).run s = (some (.ok ()), s') ∧
        (Deployer.OwnNames s id → Deployer.Undeployed s s' id ∧
          ((∀ k name, k.IsOfInstances → Deployer.Belonging s id k name →
              (k, name) ∉ s.terminating) →
            (Deployer.undeploy id).run s' = (some (.ok ()), s')))) ∧
    ∀ (S : Session Cluster) (d d' : Deployer) (r : Request) (before after : List Event),
      BuildHistory.Unforced r d.config →
      (∀ k, k = .imageStream ∨ k = .buildConfig →
        (S.step d (.deploy r)).1 ≠ .failed (.alreadyExists k r.appId.text)) →
      (∀ e ∈ before ++ after, e.IsManaged ∧ e.order? = none) →
      (S.step d (.deploy r)).2.NoneFails
        (before ++ .step d' (.undeploy r.appId) :: after) →
      let T := (S.step d (.deploy r)).2.after (before ++ .step d' (.undeploy r.appId) :: after)
      StartsNone T.platform (T.step d (.deploy r)).2.platform := by
  constructor
  · intro s name group id
    have hid : id.IsPlain := AppId.isPlain_ofParts name group
    have hrun : ∀ q : Cluster,
        (Deployer.undeploy id).run q = (some (.ok ()), Deployer.undeployed q id) := fun q =>
      run_eq_some_iff.2 (Deployer.perform_undeploy q id)
    refine ⟨_, hrun s, fun hown => ⟨Deployer.undeployed_exact hid hown, fun hquick => ?_⟩⟩
    rw [hrun, Deployer.undeployed_again hid hown hquick]
  · intro S d d' r before after hforced hreply hm hfails T
    refine Session.startsNone_redeploy hforced hreply (fun e he => ?_) hfails
    rcases List.mem_append.1 he with he | he
    · exact hm e (List.mem_append_left _ he)
    · rcases List.mem_cons.1 he with rfl | he
      · exact ⟨trivial, rfl⟩
      · exact hm e (List.mem_append_right _ he)

/-- `ticker` is deployed, undeployed, for which there is nothing left to do then, and deployed again
    without another build. -/
theorem undeploy_exact_ticker :
    (∃ s', (Deployer.undeploy (Request.ticker []).appId).run (Session.ofRun deployedOnce).platform =
        (some (.ok ()), s') ∧ s'.find? .deploymentConfig "ticker" = none ∧
      (Deployer.undeploy (Request.ticker []).appId).run s' = (some (.ok ()), s')) ∧
    let T := (Session.ofRun deployedOnce).after
      [.step (Deployer.ofContent []) (.undeploy (Request.ticker []).appId)]
    StartsNone T.platform (T.step (Deployer.ofContent []) (.deploy (.ticker []))).2.platform := by
  have hm : ∀ e ∈ deployedOnce, e.IsManaged := by
    simp [deployedOnce, Event.IsManaged]
  obtain ⟨hundeploy, hredeploy⟩ := undeploy_exact
  constructor
  · have hown : Deployer.OwnNames (Session.ofRun deployedOnce).platform
        (Request.ticker []).appId := fun k name x _ hx _ => (orderly_ofRun hm k name x hx).1
    have hquick : (Session.ofRun deployedOnce).platform.terminating = [] := by
      decide +kernel
    have hview : ((Session.ofRun deployedOnce).platform.find? .deploymentConfig "ticker").map
        (fun x => x.labels.get? Labels.appIdKey) = some (some (Request.ticker []).appId.text) := by
      decide +kernel
    obtain ⟨x, hx, hlabel⟩ := Option.map_eq_some_iff.1 hview
    obtain ⟨s', hs', hexact⟩ := hundeploy (Session.ofRun deployedOnce).platform "ticker" none
    obtain ⟨hundeployed, hagain⟩ := hexact hown
    refine ⟨s', hs', hundeployed.gone _ _ (.inr (.inr rfl)) ⟨x, hx, hlabel⟩ ?_, hagain ?_⟩
    · rw [hquick]
      exact List.not_mem_nil
    · intro k name _ _
      rw [hquick]
      exact List.not_mem_nil
  · have hforced : BuildHistory.Unforced (.ticker []) (Deployer.ofContent []).config :=
      ⟨none, rfl, rfl⟩
    have hreply : (Session.step (Deployer.ofContent []) (.deploy (.ticker []))
        ({ platform := {} } : Session Cluster)).1.failure? = none := by
      decide +kernel
    have hfails : ∀ S : Session Cluster, S.NoneFails ([] ++
        [.step (Deployer.ofContent []) (.undeploy (Request.ticker []).appId)]) := by
      refine fun S => ⟨?_, trivial⟩
      rintro name b ⟨image, he⟩
      cases he
    have hrun : Session.ofRun deployedOnce = (Session.step (Deployer.ofContent [])
        (.deploy (.ticker [])) ({ platform := {} } : Session Cluster)).2 := by
      simp only [Session.ofRun, deployedOnce, List.foldl_cons, List.foldl_nil, Event.apply]
    rw [hrun]
    have hreply' : ∀ k, k = .imageStream ∨ k = .buildConfig →
        (Session.step (Deployer.ofContent []) (.deploy (.ticker []))
          ({ platform := {} } : Session Cluster)).1 ≠
            .failed (.alreadyExists k (Request.ticker []).appId.text) := by
      intro k _ he
      rw [he] at hreply
      cases hreply
    have h := hredeploy { platform := {} } (Deployer.ofContent []) (Deployer.ofContent [])
      (.ticker []) [] [] hforced hreply' (by simp) (hfails _)
    simp only [List.nil_append] at h ⊢
    exact h

/-- A service that is stored as `ticker` gets another name. -/
def serviceRenamed : List Event := [
  .act (.insert .service ⟨.ofLabels "ticker" (Labels.base (Request.ticker []).appId (.ticker [])),
    none, ()⟩),
  .step (Deployer.ofContent []) (.call (.replace .service "ticker"
    ⟨{ name := some "other"
       labels := some (Labels.base (Request.ticker []).appId (.ticker []))
       resourceVersion := some "1" }, none, ()⟩))]

/-- The first deployment of `ticker` meets with a conflict on its image stream and fails; then
    `ticker` is undeployed. -/
def deployedInVain : List Event := [.act (.injectConflict .imageStream "ticker"),
  .step (Deployer.ofContent []) (.deploy (.ticker [])),
  .step (Deployer.ofContent []) (.undeploy (Request.ticker []).appId)]

/-- A service of an application stays as it was if it is not stored under its own name. A deployment
    that is carried out again starts a build if a conflict kept it from doing so at first. -/
theorem undeploy_not_exact :
    (∃ s' x, (Deployer.undeploy (AppId.ofParts "ticker" none)).run
        (Session.ofRun serviceRenamed).platform = (some (.ok ()), s') ∧
      (Session.ofRun serviceRenamed).platform.terminating = [] ∧
      s'.find? .service "ticker" = some x ∧
      x.labels.get? Labels.appIdKey = some (AppId.ofParts "ticker" none).text) ∧
    BuildHistory.Unforced (.ticker []) (Deployer.ofContent []).config ∧
    ¬ StartsNone (Session.ofRun deployedInVain).platform
      ((Session.ofRun deployedInVain).step (Deployer.ofContent [])
        (.deploy (.ticker []))).2.platform := by
  refine ⟨?_, ⟨none, rfl, rfl⟩, fun h => ?_⟩
  · have hview : ((Deployer.undeployed (Session.ofRun serviceRenamed).platform
        (AppId.ofParts "ticker" none)).find? .service "ticker").map
          (fun x => x.labels.get? Labels.appIdKey) =
        some (some (AppId.ofParts "ticker" none).text) := by
      decide +kernel
    obtain ⟨x, hx, hlabel⟩ := Option.map_eq_some_iff.1 hview
    exact ⟨_, x, run_eq_some_iff.2 (Deployer.perform_undeploy _ _), by decide +kernel, hx, hlabel⟩
  · have hcount : (Session.ofRun deployedInVain).platform.buildsStarted = 0 ∧
        ((Session.ofRun deployedInVain).step (Deployer.ofContent [])
          (.deploy (.ticker []))).2.platform.buildsStarted = 1 := by
      decide +kernel
    have heq := h.buildsStarted_eq
    rw [hcount.1, hcount.2] at heq
    cases heq

end Slipway

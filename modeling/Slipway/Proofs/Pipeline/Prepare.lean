import Slipway.Proofs.Cluster.Builds
import Slipway.Proofs.Pipeline.Calls
import Slipway.Proofs.Pipeline.History
import Slipway.Proofs.Pipeline.Rules

/-
  What comes of preparing an image. On any platform it is an image that is there, an earlier build
  among those the platform lists, or a new build (`prepare_eq_ok`). On a platform in memory a new
  build is made by the configuration of this very request (`Commissioned`), and where none is
  started no build changes (`Provision`, `prepare_provision`).
-/

namespace Slipway

/-! ## Build configurations -/

namespace BuildPlan

variable {plan : BuildPlan} {id : AppId} {labels : Attributes} {fp : Fingerprint} {tag : String}
  {r : Request} {bc : BuildConfig}

theorem envValue_of_sourceAndStrategy {fileName : String} {source : BuildSource}
    {strategy : BuildStrategy} (h : plan.sourceAndStrategy fileName fp = .ok (source, strategy)) :
    strategy.envValue Labels.fingerprintVariable = some fp.text := by
  cases plan <;> cases h <;> rfl

/-- The build configuration of a plan bears the id of the application and its labels, names the
    tag to push to, and carries the fingerprint of the artifact. -/
theorem buildConfig_eq_ok (h : plan.buildConfig id labels fp tag r = .ok bc) :
    bc.metadata = Metadata.ofLabels id.text labels ∧
      (bc.spec : BuildConfigSpec).recipe.output.target =
        some (ObjectReference.imageStreamTag tag) ∧
      (bc.spec : BuildConfigSpec).recipe.strategy.envValue Labels.fingerprintVariable =
        some fp.text := by
  obtain ⟨⟨source, strategy⟩, hs, h⟩ := Result.bind_eq_ok.1 h
  obtain ⟨nodeSelector, -, h⟩ := Result.bind_eq_ok.1 h
  obtain rfl := Except.ok.inj h
  exact ⟨rfl, rfl, envValue_of_sourceAndStrategy hs⟩

theorem name_of_buildConfig (h : plan.buildConfig id labels fp tag r = .ok bc) :
    bc.name = id.text := by
  unfold Resource.name
  rw [(buildConfig_eq_ok h).1]
  rfl

/-- Only an artifact that is an image is used as it is. -/
theorem choose_ne_image {files : Files} {c : Config} {resolver : Resolver} {reference : String}
    (hi : ∀ reference, r.artifact ≠ .image reference) :
    ((choose files c r).run resolver r.artifact).1 ≠ .ok (.image reference) := by
  intro h
  have hchosen := isChosen_choose files c r resolver
  rw [h] at hchosen
  generalize (choose files c r).asked resolver r.artifact = questions at hchosen
  cases hchosen with
  | image reference heq => exact hi reference heq
  | unstamped result _ _ hu => nomatch hu
  | unpacked source path result _ _ _ _ hu => nomatch hu

end BuildPlan

namespace Deployer

variable {d : Deployer} {r : Request} {id : AppId} {labels : Attributes} {content : Bytes}
  {tag : String} {p : Prepared} {b : Build}

/-! ## On any platform -/

section Generic

variable {σ : Type} [Platform σ] {s s' : σ}

theorem prepare_of_image {reference : String} (h : r.artifact = .image reference) :
    d.prepare r id labels = pure (.noBuild reference) := by
  unfold prepare
  rw [h]

theorem prepare_of_not_image (h : ∀ reference, r.artifact ≠ .image reference) :
    d.prepare r id labels = Action.ofResult (d.resolver.bytes r.artifact) >>= fun content =>
      Action.list .build (Labels.appSelector id) >>= fun builds =>
        Action.ofResult (BuildHistory.toReuse? r d.config builds (Fingerprint.of content)) >>=
          fun
          | some earlier => pure (ofEarlier earlier (BuildPlan.outputTag d.config r id))
          | none => d.build r id labels content (BuildPlan.outputTag d.config r id) := by
  unfold prepare
  split
  next reference heq => exact absurd heq (h reference)
  next => rfl

/-- How preparing an image succeeds: the artifact is one, or an earlier build of those that the
    platform lists is used, or a build is set up. -/
theorem prepare_eq_ok (h : (d.prepare r id labels).run s = (some (.ok p), s')) :
    (∃ reference, r.artifact = .image reference ∧ p = .noBuild reference ∧ s' = s) ∨
    ∃ content builds s₁ earlier, d.resolver.bytes r.artifact = .ok content ∧
      Platform.answer (.list .build (Labels.appSelector id)) s = (some (.ok builds), s₁) ∧
      BuildHistory.toReuse? r d.config builds (Fingerprint.of content) = .ok earlier ∧
      match earlier with
      | some b => p = ofEarlier b (BuildPlan.outputTag d.config r id) ∧ s' = s₁
      | none => (d.build r id labels content (BuildPlan.outputTag d.config r id)).run s₁ =
          (some (.ok p), s') := by
  by_cases hi : ∃ reference, r.artifact = .image reference
  · obtain ⟨reference, hi⟩ := hi
    rw [prepare_of_image hi] at h
    obtain ⟨rfl, rfl⟩ := Action.run_pure_eq_ok.1 h
    exact .inl ⟨reference, hi, rfl, rfl⟩
  · rw [prepare_of_not_image fun reference hr => hi ⟨reference, hr⟩] at h
    obtain ⟨content, s₀, hc, hrest⟩ := Action.run_bind_eq_ok.1 h
    obtain ⟨hbytes, rfl⟩ := Action.run_ofResult_eq_ok.1 hc
    obtain ⟨builds, s₁, hl, hchoice⟩ := Action.run_bind_eq_ok.1 hrest
    have hlist := (Action.run_ask (Call.list .build (Labels.appSelector id)) s₀).symm.trans hl
    obtain ⟨earlier, s₂, he, hlast⟩ := Action.run_bind_eq_ok.1 hchoice
    obtain ⟨hearlier, rfl⟩ := Action.run_ofResult_eq_ok.1 he
    refine .inr ⟨content, builds, s₂, earlier, hbytes, hlist, hearlier, ?_⟩
    cases earlier with
    | some b =>
      obtain ⟨hp, hs⟩ := Action.run_pure_eq_ok.1 hlast
      exact ⟨hp.symm, hs⟩
    | none => exact hlast

/-- A build that is set up is not one that is used again. -/
theorem build_ne_reused {name image : String} :
    (d.build r id labels content tag).run s ≠ (some (.ok (.reused name image)), s') := by
  intro h
  obtain ⟨plan, s₁, -, h⟩ := Action.run_bind_eq_ok.1 h
  split at h
  · cases (Action.run_pure_eq_ok.1 h).1
  · obtain ⟨_, s₂, -, h⟩ := Action.run_bind_eq_ok.1 h
    obtain ⟨bc, s₃, -, h⟩ := Action.run_bind_eq_ok.1 h
    obtain ⟨_, s₄, -, h⟩ := Action.run_bind_eq_ok.1 h
    obtain ⟨b, s₅, -, h⟩ := Action.run_bind_eq_ok.1 h
    cases (Action.run_pure_eq_ok.1 h).1

end Generic

/-! ## On a platform in memory -/

section Memory

open Cluster

variable {s s' : Cluster}

/-- A build is started in the same way on every platform. -/
theorem perform_startBuild (plan : BuildPlan) (id : AppId) (fileName : String)
    (content : Bytes) : ∃ op, ∀ s : Cluster,
      s.perform (startBuild plan id fileName content) = s.startBuild id.text op := by
  cases plan with
  | image reference => exact ⟨_, fun _ => rfl⟩
  | git uri branch contextDir secret => exact ⟨_, fun _ => rfl⟩
  | dockerfile contents => exact ⟨_, fun _ => rfl⟩
  | upload baseImage => exact ⟨_, fun _ => rfl⟩

/-- A build was started for content with a fingerprint, under the labels of its application, and
    pushes to a tag. -/
structure Commissioned (s s' : Cluster) (id : AppId) (labels : Attributes) (fp : Fingerprint)
    (tag : String) (b : Build) : Prop where
  started : ∃ bc, Started s s' bc id.text b
  outputTag?_eq : b.outputTag? = some tag
  labels_eq : b.labels = labels
  carries : BuildHistory.carries fp b = true

namespace Commissioned

variable {fp : Fingerprint}

/-- Only the builds there are before matter. -/
theorem of_builds_eq {s₀ : Cluster} (h : Commissioned s s' id labels fp tag b)
    (h₀ : s.objects.of .build = s₀.objects.of .build) :
    Commissioned s₀ s' id labels fp tag b := by
  obtain ⟨⟨bc, hs⟩, htag, hlabels, hcarries⟩ := h
  exact ⟨⟨bc, hs.of_builds_eq h₀⟩, htag, hlabels, hcarries⟩

theorem phase_eq (h : Commissioned s s' id labels fp tag b) : b.phase = .new := by
  obtain ⟨bc, hs⟩ := h.started
  exact hs.phase_eq

end Commissioned

/-- A build that is started after its build configuration was written follows it. -/
theorem commissioned_of_reconcile {plan : BuildPlan} {fp : Fingerprint} {bc x : BuildConfig}
    {s₁ : Cluster} {op : Operation} (hbc : plan.buildConfig id labels fp tag r = .ok bc)
    (hr : s.perform (Reconcile.reconcile bc) = (.ok x, s₁))
    (hb : s₁.startBuild id.text op = (.ok b, s')) :
    Commissioned s₁ s' id labels fp tag b := by
  obtain ⟨hx, ho⟩ := Reconcile.reconcile_update rfl hr
  obtain ⟨y, hy, hs⟩ := startBuild_eq_ok hb
  have hname : bc.name = id.text := BuildPlan.name_of_buildConfig hbc
  have hconfigs : s₁.objects.of .buildConfig = (s.objects.of .buildConfig).insert bc.name x := by
    rw [ho, PerKind.of_put_self]
  have hfind : s₁.find? .buildConfig id.text = some x := by
    rw [find?_of_insert hconfigs, if_pos hname.symm]
  obtain rfl : x = y := Option.some.inj (hfind.symm.trans hy)
  have hspec : b.spec = (bc.spec : BuildConfigSpec).recipe := by
    rw [hs.spec_eq, Resource.spec_eq_of_unstamped hx]
    rfl
  obtain ⟨hmeta, htarget, hmarker⟩ := BuildPlan.buildConfig_eq_ok hbc
  refine ⟨⟨x, hs⟩, ?_, ?_, BuildHistory.carries_iff.2 ⟨?_, ?_⟩⟩
  · unfold Resource.outputTag?
    rw [hspec]
    exact congrArg (·.bind ObjectReference.name) htarget
  · have hlabels : x.labels = bc.stored.labels := Resource.labels_eq_of_unstamped hx
    have hbclabels : bc.stored.labels = bc.metadata.labelSet := rfl
    rw [hs.labels_eq, hlabels, hbclabels, hmeta]
    rfl
  · rw [hs.phase_eq]
    decide
  · unfold Resource.strategy
    rw [hspec]
    exact hmarker

/-- What is done where the artifact is no image. -/
def setUp (plan : BuildPlan) (r : Request) (id : AppId) (labels : Attributes) (content : Bytes)
    (tag : String) : Action Prepared := do
  let _ ← Reconcile.reconcile (Bundle.imageStream id labels)
  let bc ← Action.ofResult (plan.buildConfig id labels (Fingerprint.of content) tag r)
  let _ ← Reconcile.reconcile bc
  pure (.submitted (← startBuild plan id r.artifact.fileName content) tag)

/-- What setting up a build comes to. -/
inductive Construction (s : Cluster) (id : AppId) (labels : Attributes) (fp : Fingerprint)
    (tag : String) : Result Prepared × Cluster → Prop
  | failed {e : Failure} {s' : Cluster} (hbuilds : s'.objects.of .build = s.objects.of .build) :
    Construction s id labels fp tag (.error e, s')
  | commissioned {b : Build} {s' : Cluster} (hb : Commissioned s s' id labels fp tag b) :
    Construction s id labels fp tag (.ok (.submitted b tag), s')

theorem setUp_construction (plan : BuildPlan) (r : Request) (id : AppId) (labels : Attributes)
    (content : Bytes) (tag : String) (s : Cluster) :
    Construction s id labels (Fingerprint.of content) tag
      (s.perform (setUp plan r id labels content tag)) := by
  unfold setUp
  rw [perform_bind]
  have h₁ := Reconcile.objects_of_reconcile (j := .build) s (Bundle.imageStream id labels)
    (by decide)
  rcases hi : s.perform (Reconcile.reconcile (Bundle.imageStream id labels)) with ⟨e | x, s₁⟩
  · rw [hi] at h₁
    exact .failed h₁
  rw [hi] at h₁
  dsimp only at h₁ ⊢
  rw [perform_bind, perform_ofResult]
  rcases hbc : plan.buildConfig id labels (Fingerprint.of content) tag r with e | bc
  · exact .failed h₁
  dsimp only
  rw [perform_bind]
  have h₂ := Reconcile.objects_of_reconcile (j := .build) s₁ bc (by decide)
  rcases hr : s₁.perform (Reconcile.reconcile bc) with ⟨e | y, s₂⟩
  · rw [hr] at h₂
    exact .failed (h₂.trans h₁)
  rw [hr] at h₂
  dsimp only at h₂ ⊢
  obtain ⟨op, hop⟩ := perform_startBuild plan id r.artifact.fileName content
  rw [perform_bind, hop]
  rcases hb : s₂.startBuild id.text op with ⟨e | b, s₃⟩
  · obtain rfl := startBuild_eq_error hb
    exact .failed (h₂.trans h₁)
  · exact .commissioned ((commissioned_of_reconcile hbc hr hb).of_builds_eq (h₂.trans h₁))

theorem build_construction (hi : ∀ reference, r.artifact ≠ .image reference) (id : AppId)
    (labels : Attributes) (content : Bytes) (tag : String) (s : Cluster) :
    Construction s id labels (Fingerprint.of content) tag
      (s.perform (d.build r id labels content tag)) := by
  unfold build
  rw [perform_bind, perform_ofResult]
  rcases hplan : ((BuildPlan.choose d.files d.config r).run d.resolver r.artifact).1 with e | plan
  · exact .failed rfl
  · cases plan with
    | image reference => exact absurd hplan (BuildPlan.choose_ne_image hi)
    | git uri branch contextDir secret => exact setUp_construction _ r id labels content tag s
    | dockerfile contents => exact setUp_construction _ r id labels content tag s
    | upload baseImage => exact setUp_construction _ r id labels content tag s

/-- What preparing an image on a platform in memory comes to. -/
inductive Provision (s : Cluster) (d : Deployer) (r : Request) (id : AppId) (labels : Attributes) :
    Result Prepared × Cluster → Prop
  | failed {e : Failure} {s' : Cluster} (hbuilds : s'.objects.of .build = s.objects.of .build) :
    Provision s d r id labels (.error e, s')
  /-- The artifact is an image. -/
  | ready {reference : String} (hi : r.artifact = .image reference) :
    Provision s d r id labels (.ok (.noBuild reference), s)
  /-- An earlier build made the image, or will. -/
  | earlier {content : Bytes} {b : Build} (hc : d.resolver.bytes r.artifact = .ok content)
    (he : BuildHistory.toReuse? r d.config (s.matching .build (Labels.appSelector id))
      (Fingerprint.of content) = .ok (some b)) :
    Provision s d r id labels (.ok (ofEarlier b (BuildPlan.outputTag d.config r id)), s)
  /-- A build is started, as no earlier one can be used. -/
  | commissioned {content : Bytes} {b : Build} {s' : Cluster}
    (hc : d.resolver.bytes r.artifact = .ok content)
    (he : BuildHistory.toReuse? r d.config (s.matching .build (Labels.appSelector id))
      (Fingerprint.of content) = .ok none)
    (hb : Commissioned s s' id labels (Fingerprint.of content)
      (BuildPlan.outputTag d.config r id) b) :
    Provision s d r id labels (.ok (.submitted b (BuildPlan.outputTag d.config r id)), s')

theorem prepare_provision (d : Deployer) (r : Request) (id : AppId) (labels : Attributes)
    (s : Cluster) : Provision s d r id labels (s.perform (d.prepare r id labels)) := by
  by_cases hi : ∃ reference, r.artifact = .image reference
  · obtain ⟨reference, hi⟩ := hi
    rw [prepare_of_image hi]
    exact .ready hi
  have hi : ∀ reference, r.artifact ≠ .image reference := fun reference hr => hi ⟨reference, hr⟩
  rw [prepare_of_not_image hi, perform_bind, perform_ofResult]
  rcases hc : d.resolver.bytes r.artifact with e | content
  · exact .failed rfl
  dsimp only
  rw [perform_bind, perform_list]
  dsimp only
  rw [perform_bind, perform_ofResult]
  rcases he : BuildHistory.toReuse? r d.config (s.matching .build (Labels.appSelector id))
      (Fingerprint.of content) with e | _ | b
  · exact .failed rfl
  · dsimp only
    have hb := build_construction (d := d) hi id labels content
      (BuildPlan.outputTag d.config r id) s
    rcases hout : s.perform (d.build r id labels content (BuildPlan.outputTag d.config r id)) with
      ⟨out, s'⟩
    rw [hout] at hb
    cases hb with
    | failed hbuilds => exact .failed hbuilds
    | commissioned hb => exact .commissioned hc he hb
  · exact .earlier hc he

/-- What becomes of the builds when an image is prepared, and whether one is waited for. -/
inductive Preparation (s : Cluster) (id : AppId) (tag : String) :
    Result Prepared × Cluster → Prop
  /-- No build is started or followed. -/
  | unchanged {p : Result Prepared} {s' : Cluster}
    (hbuilds : s'.objects.of .build = s.objects.of .build)
    (hp : ∀ b t, p ≠ .ok (.submitted b t)) : Preparation s id tag (p, s')
  /-- A build that has not come to an end is followed. -/
  | followed {b : Build} (hb : b ∈ s.matching .build (Labels.appSelector id))
    (hphase : b.phase.isTerminal = false) : Preparation s id tag (.ok (.submitted b tag), s)
  /-- A build is started that pushes to the tag. -/
  | started {bc : BuildConfig} {b : Build} {s' : Cluster} (hb : Started s s' bc id.text b)
    (htag : b.outputTag? = some tag) : Preparation s id tag (.ok (.submitted b tag), s')

theorem prepare_preparation (d : Deployer) (r : Request) (id : AppId) (labels : Attributes)
    (s : Cluster) : Preparation s id (BuildPlan.outputTag d.config r id)
      (s.perform (d.prepare r id labels)) := by
  have hp := prepare_provision d r id labels s
  rcases hout : s.perform (d.prepare r id labels) with ⟨p, s'⟩
  rw [hout] at hp
  cases hp with
  | failed hbuilds => exact .unchanged hbuilds (by simp)
  | ready hi => exact .unchanged rfl (by simp)
  | @earlier content b hc he =>
    unfold ofEarlier
    split
    next => exact .unchanged rfl (by simp)
    next hphase =>
      exact .followed (BuildHistory.mem_of_toReuse? he) (Bool.eq_false_iff.2 hphase)
  | commissioned hc he hb =>
    obtain ⟨bc, hs⟩ := hb.started
    exact .started hs hb.outputTag?_eq

end Memory

end Deployer

end Slipway

import Slipway.Proofs.Cluster.Conflicts
import Slipway.Proofs.Cluster.Effects
import Slipway.Proofs.Deploy.Idempotent

/-
  Preparing an image again and again while conflicts are arranged. Where it would succeed without
  them, an attempt fails by a conflict on the image stream or the build configuration of the
  application or not at all (`Attempt`, `prepare_attempt`). Until it succeeds no build is started,
  and what is written is already as it is to be (`Unbuilt`); when it does, the platform has the same
  objects, but for their stamps, as it would have without the conflicts.
-/

namespace Slipway

open Cluster Reconcile

/-! ## Builds that were started -/

instance Operation.decidableStartsBuild : DecidablePred Operation.StartsBuild
  | instantiate _ | binary _ => isTrue trivial
  | create _ _ | replace _ _ | delete _ _ | awaitDeleted _ _ | rollout _ => isFalse id

namespace Cluster

variable {s s' s'' : Cluster} {k : Kind} {name : String}

/-- The number of builds that were ever started. -/
def buildsStarted (s : Cluster) : Nat := s.log.countP fun op => op.StartsBuild

theorem StartsNone.buildsStarted_eq (h : StartsNone s s') :
    s'.buildsStarted = s.buildsStarted := by
  obtain ⟨ops, hlog, hops⟩ := h
  have hnone : ops.countP (fun op => decide op.StartsBuild) = 0 :=
    List.countP_eq_zero.2 fun op hop => by simpa using hops op hop
  unfold buildsStarted
  rw [hlog, List.countP_append, hnone, Nat.add_zero]

theorem buildsStarted_startBuild {base : String} {op : Operation} {b : Build}
    (h : s.startBuild base op = (.ok b, s')) :
    s'.buildsStarted = s.buildsStarted + if op.StartsBuild then 1 else 0 := by
  have hlog : s'.log = s.log ++ [op] := by
    unfold startBuild at h
    split at h
    · cases h
    · cases h
      rfl
  unfold buildsStarted
  rw [hlog, List.countP_append, List.countP_singleton]
  simp only [decide_eq_true_eq]

theorem startsNone_reconcile (s : Cluster) (desired : Resource k) :
    StartsNone s (s.perform (reconcile desired)).2 :=
  startsNone_perform ((only_reconcile desired).mono fun _ hc => hc.not_startsBuild) s

/-- A build takes from its configuration nothing that the platform stamps. -/
theorem newBuild_congr {bc bc' : BuildConfig} (h : bc.unstamped = bc'.unstamped) (base : String)
    (n : Nat) : newBuild bc base n = newBuild bc' base n := by
  have hun : ∀ bc : BuildConfig, newBuild bc base n = newBuild bc.unstamped base n := fun _ => rfl
  rw [hun, h, ← hun]

end Cluster

namespace Deployer

variable {d : Deployer} {r : Request} {id : AppId} {labels : Attributes} {content : Bytes}
  {tag : String} {plan : BuildPlan} {p p' : Prepared} {s t q q' : Cluster} {k : Kind}
  {name : String} {bc : BuildConfig} {b b' : Build}

/-! ## Setting up a build -/

/-- The image stream and the build configuration of an application. -/
def IsFoundation (id : AppId) (k : Kind) (name : String) : Prop :=
  (k = .imageStream ∨ k = .buildConfig) ∧ name = id.text

/-- The objects that are written to prepare an image. -/
def Founds (id : AppId) : Kind → String → Prop
  | .imageStream, name | .buildConfig, name => name = id.text
  | .build, name => ∃ n, name = Text.numbered id.text n
  | .deploymentConfig, _ | .service, _ | .route, _ | .pod, _ => False

/-- A build was started on an image stream and a build configuration as they are wanted, and nothing
    else changed. -/
structure Built (id : AppId) (labels : Attributes) (bc : BuildConfig) (s t : Cluster) (b : Build) :
    Prop where
  imageStream : ∃ x, t.find? .imageStream id.text = some x ∧
    x.unstamped = (Bundle.imageStream id labels).stored.unstamped
  buildConfig : ∃ y, t.find? .buildConfig id.text = some y ∧ y.unstamped = bc.stored.unstamped ∧
    Started s t y id.text b
  other : ∀ k name, k ≠ .build → ¬ IsFoundation id k name → t.find? k name = s.find? k name

theorem built_of_startBuild {x : ImageStream} {y : BuildConfig} {s₁ s₂ : Cluster} {op : Operation}
    (hx : s.perform (reconcile (Bundle.imageStream id labels)) = (.ok x, s₁))
    (hname : bc.name = id.text) (hy : s₁.perform (reconcile bc) = (.ok y, s₂))
    (hb : s₂.startBuild id.text op = (.ok b, t)) : Built id labels bc s t b := by
  obtain ⟨z, hz, hstarted⟩ := startBuild_eq_ok hb
  have himage := reconcile_eq_ok hx
  have hconfig := reconcile_eq_ok hy
  have h₁ : ∀ j, j ≠ .imageStream → s₁.objects.of j = s.objects.of j := fun j hj => by
    have ho := objects_of_reconcile s (Bundle.imageStream id labels) hj
    rwa [hx] at ho
  have h₂ : ∀ j, j ≠ .buildConfig → s₂.objects.of j = s₁.objects.of j := fun j hj => by
    have ho := objects_of_reconcile s₁ bc hj
    rwa [hy] at ho
  have h₃ : ∀ j, j ≠ .build → t.objects.of j = s₂.objects.of j := fun j hj => by
    have ho := objects_of_startBuild_of_ne s₂ id.text op hj
    rwa [hb] at ho
  have hfind := hconfig.find?_self
  rw [hname] at hfind
  obtain rfl : y = z := Option.some.inj (hfind.symm.trans hz)
  refine ⟨⟨x, ?_, himage.unstamped_eq⟩, ⟨y, ?_, hconfig.unstamped_eq, ?_⟩, fun k name hk hn => ?_⟩
  · rw [find?_congr (h₃ _ (by decide)), find?_congr (h₂ _ (by decide))]
    exact himage.find?_self
  · rw [find?_congr (h₃ _ (by decide)), hfind]
  · exact hstarted.of_builds_eq ((h₂ _ (by decide)).trans (h₁ _ (by decide)))
  · rw [find?_congr (h₃ k hk)]
    have hbefore : s₁.find? k name = s.find? k name := by
      by_cases hs : k = .imageStream
      · subst hs
        exact himage.find?_of_ne fun he => hn ⟨.inl rfl, he⟩
      · exact find?_congr (h₁ k hs) name
    rw [← hbefore]
    by_cases hc : k = .buildConfig
    · subst hc
      exact hconfig.find?_of_ne fun he => hn ⟨.inr rfl, he.trans hname⟩
    · exact find?_congr (h₂ k hc) name

/-- How setting up a build succeeds. -/
theorem built_of_setUp (h : s.perform (setUp plan r id labels content tag) = (.ok p, t)) :
    ∃ bc b, plan.buildConfig id labels (Fingerprint.of content) tag r = .ok bc ∧
      p = .submitted b tag ∧ Built id labels bc s t b := by
  obtain ⟨x, s₁, hx, h⟩ := perform_bind_eq_ok.1 h
  obtain ⟨bc, s₂, hresult, h⟩ := perform_bind_eq_ok.1 h
  obtain ⟨hbc, rfl⟩ := Prod.mk.inj hresult
  obtain ⟨y, s₃, hy, h⟩ := perform_bind_eq_ok.1 h
  obtain ⟨b, s₄, hb, h⟩ := perform_bind_eq_ok.1 h
  cases h
  obtain ⟨op, hop⟩ := perform_startBuild plan id r.artifact.fileName content
  rw [hop] at hb
  exact ⟨bc, b, hbc, rfl, built_of_startBuild hx (BuildPlan.name_of_buildConfig hbc) hy hb⟩

/-! ## Attempts -/

/-- No build was started yet, and what was written of the image stream and the build configuration
    is as it is to be. -/
structure Unbuilt (id : AppId) (s t q : Cluster) : Prop where
  builds_eq : q.objects.of .build = s.objects.of .build
  other : ∀ k name, k ≠ .build →
    q.find? k name = s.find? k name ∨ IsFoundation id k name ∧ AlikeAt k name q t

/-- Nothing but conflicts that were used up tells apart a platform from an earlier one. -/
theorem Unbuilt.congr (h : Unbuilt id s t q) (ho : q'.objects = q.objects) : Unbuilt id s t q' := by
  have hfind : ∀ k name, q'.find? k name = q.find? k name := fun k => find?_congr (by rw [ho])
  refine ⟨by rw [ho, h.builds_eq], fun k name hk => ?_⟩
  unfold AlikeAt
  rw [hfind]
  exact h.other k name hk

/-- Writing a part of the foundation as it is to be. -/
theorem Unbuilt.reconcile {x y : Resource k} (h : Unbuilt id s t q) (desired : Resource k)
    (hk : IsFoundation id k desired.name) (ht : t.find? k desired.name = some y)
    (hy : y.unstamped = desired.stored.unstamped)
    (hx : q.perform (reconcile desired) = (.ok x, q')) : Unbuilt id s t q' := by
  have hrec := reconcile_eq_ok hx
  have hobjects : ∀ j, j ≠ k → q'.objects.of j = q.objects.of j := fun j hj => by
    have ho := objects_of_reconcile q desired hj
    rwa [hx] at ho
  have hkb : k ≠ .build := by
    rintro rfl
    rcases hk.1 with hk | hk <;> cases hk
  refine ⟨(hobjects _ hkb.symm).trans h.builds_eq, fun j name hj => ?_⟩
  by_cases hself : j = k ∧ name = desired.name
  · obtain ⟨rfl, rfl⟩ := hself
    exact .inr ⟨hk, alikeAt_of_some hrec.find?_self ht (hrec.unstamped_eq.trans hy.symm)⟩
  · have hfind : q'.find? j name = q.find? j name := by
      by_cases hjk : j = k
      · subst hjk
        exact hrec.find?_of_ne fun hn => hself ⟨rfl, hn⟩
      · exact find?_congr (hobjects j hjk) name
    unfold AlikeAt
    rw [hfind]
    exact h.other j name hj

theorem Built.unstamped_eq (h : Built id labels bc s t b) (h' : Built id labels bc q q' b')
    (hq : q.nextBuildNumber id.text = s.nextBuildNumber id.text) :
    b'.unstamped = b.unstamped := by
  obtain ⟨y, -, hy, hstarted⟩ := h.buildConfig
  obtain ⟨y', -, hy', hstarted'⟩ := h'.buildConfig
  rw [hstarted'.build_eq, hstarted.build_eq, hq, newBuild_congr (hy'.trans hy.symm)]

theorem Built.find?_eq (h : Built id labels bc s t b) {k : Kind} {name : String}
    (hk : k = .build → name ≠ b.name) (hn : ¬ IsFoundation id k name) :
    t.find? k name = s.find? k name := by
  by_cases hb : k = .build
  · subst hb
    obtain ⟨y, -, -, hstarted⟩ := h.buildConfig
    exact hstarted.find?_of_ne (hk rfl)
  · exact h.other k name hb hn

/-- Builds that are set up with the same number are set up alike. -/
theorem Built.sameEffect (h : Built id labels bc s t b) (h' : Built id labels bc q q' b')
    (hq : q.nextBuildNumber id.text = s.nextBuildNumber id.text) :
    SameEffect (Founds id) s t q q' := by
  have hunstamped := h.unstamped_eq h' hq
  have hname : b'.name = b.name := by rw [← b'.name_unstamped, hunstamped, b.name_unstamped]
  obtain ⟨x, hx, hximage⟩ := h.imageStream
  obtain ⟨x', hx', hximage'⟩ := h'.imageStream
  obtain ⟨y, hy, hyconfig, hstarted⟩ := h.buildConfig
  obtain ⟨y', hy', hyconfig', hstarted'⟩ := h'.buildConfig
  have hfounds : ∀ k name, ¬ Founds id k name →
      (k = .build → name ≠ b.name) ∧ ¬ IsFoundation id k name := by
    refine fun k name hn => ⟨?_, ?_⟩
    · rintro rfl rfl
      exact hn ⟨_, hstarted.name_eq⟩
    · rintro ⟨rfl | rfl, rfl⟩ <;> exact hn rfl
  refine ⟨fun k name hn => ?_, fun k name hn => ?_, fun k name => ?_⟩
  · exact h.find?_eq (hfounds k name hn).1 (hfounds k name hn).2
  · exact h'.find?_eq (fun hk => hname ▸ (hfounds k name hn).1 hk) (hfounds k name hn).2
  by_cases hf : IsFoundation id k name
  · obtain ⟨rfl | rfl, rfl⟩ := hf
    · exact .inl (alikeAt_of_some hx' hx (hximage'.trans hximage.symm))
    · exact .inl (alikeAt_of_some hy' hy (hyconfig'.trans hyconfig.symm))
  by_cases hb : k = .build ∧ name = b.name
  · obtain ⟨rfl, rfl⟩ := hb
    exact .inl (alikeAt_of_some (hname ▸ hstarted'.find?_self) hstarted.find?_self hunstamped)
  · have hb : k = .build → name ≠ b.name := fun hk hn => hb ⟨hk, hn⟩
    exact .inr ⟨h'.find?_eq (fun hk => hname ▸ hb hk) hf, h.find?_eq hb hf⟩

/-- A build that is set up in the end leaves everything as it would have at once. -/
theorem Built.alike (h : Built id labels bc s t b) (h' : Built id labels bc q q' b')
    (hq : Unbuilt id s t q) (k : Kind) (name : String) : AlikeAt k name q' t := by
  have heffect := h.sameEffect h' (nextBuildNumber_congr hq.builds_eq id.text)
  rcases heffect.each k name with halike | ⟨hafter, hbefore⟩
  · exact halike
  -- what is not written now is as it was at first, or was written before
  by_cases hk : k = .build
  · subst hk
    exact alikeAt_of_eq (by rw [hafter, hbefore, find?_congr hq.builds_eq])
  · rcases hq.other k name hk with hsame | ⟨-, halike⟩
    · exact alikeAt_of_eq (by rw [hafter, hbefore, hsame])
    · exact (alikeAt_of_eq hafter).trans halike

/-- Two answers that come to the same, for all that a deployment makes of them. -/
structure Comparable (p p' : Prepared) : Prop where
  imageSource_eq : p'.imageSource = p.imageSource
  finalState_eq : finalState p' = finalState p

/-- What an attempt to prepare an image comes to, where it would give `p` and lead to `t` and start
    `n` builds if there were no conflicts. -/
inductive Attempt (id : AppId) (s t : Cluster) (p : Prepared) (n : Nat) (q : Cluster) :
    Result Prepared × Cluster → Prop
  | failed {k : Kind} {q' : Cluster} (hk : IsFoundation id k id.text) (hs : Spent k id.text q q')
    (hstarted : q'.buildsStarted = q.buildsStarted) (hq' : Unbuilt id s t q') :
    Attempt id s t p n q (.error (.alreadyExists k id.text), q')
  | passed {p' : Prepared} {q' : Cluster} (hp : Comparable p p')
    (hconflicts : q'.conflicts = q.conflicts)
    (hstarted : q'.buildsStarted = q.buildsStarted + n) (halike : ∀ k name, AlikeAt k name q' t) :
    Attempt id s t p n q (.ok p', q')

/-- A build whose configuration can be written is set up, unless a conflict is met with. -/
theorem setUp_outcome (hbc : plan.buildConfig id labels (Fingerprint.of content) tag r = .ok bc)
    (q : Cluster) :
    (∃ k, (k = .imageStream ∨ k = .buildConfig) ∧ (k, id.text) ∈ q.conflicts ∧
      (q.perform (setUp plan r id labels content tag)).1 = .error (.alreadyExists k id.text)) ∨
    ∃ p q', q.perform (setUp plan r id labels content tag) = (.ok p, q') := by
  have hname : bc.name = id.text := BuildPlan.name_of_buildConfig hbc
  unfold setUp
  rw [perform_bind]
  rcases reconcile_outcome rfl q (Bundle.imageStream id labels) with
    ⟨x, q₁, hx, hc₁⟩ | ⟨hmem, hx⟩
  swap
  · rw [hx]
    exact .inl ⟨_, .inl rfl, hmem, rfl⟩
  rw [hx]
  dsimp only
  rw [perform_ofResult_bind hbc, perform_bind]
  rcases reconcile_outcome rfl q₁ bc with ⟨y, q₂, hy, -⟩ | ⟨hmem, hy⟩
  swap
  · rw [hname] at hy hmem
    rw [hy]
    exact .inl ⟨_, .inr rfl, hc₁ ▸ hmem, rfl⟩
  rw [hy]
  obtain ⟨op, hop⟩ := perform_startBuild plan id r.artifact.fileName content
  have hfind : q₂.find? .buildConfig id.text = some y := hname ▸ (reconcile_eq_ok hy).find?_self
  dsimp only
  rw [perform_bind, hop]
  unfold Cluster.startBuild
  rw [hfind]
  exact .inr ⟨_, _, rfl⟩

theorem setUp_attempt (hp : s.perform (setUp plan r id labels content tag) = (.ok p, t)) :
    ∃ n ≤ 1, ∀ q, Unbuilt id s t q →
      Attempt id s t p n q (q.perform (setUp plan r id labels content tag)) := by
  obtain ⟨bc, b, hbc, rfl, hbuilt⟩ := built_of_setUp hp
  obtain ⟨op, hop⟩ := perform_startBuild plan id r.artifact.fileName content
  obtain ⟨x₀, hx₀, hximage⟩ := hbuilt.imageStream
  obtain ⟨y₀, hy₀, hyconfig, -⟩ := hbuilt.buildConfig
  have hname : bc.name = id.text := BuildPlan.name_of_buildConfig hbc
  refine ⟨if op.StartsBuild then 1 else 0, by split <;> omega, fun q hq => ?_⟩
  unfold setUp
  rw [perform_bind]
  have hnone₁ := startsNone_reconcile q (Bundle.imageStream id labels)
  rcases reconcile_outcome rfl q (Bundle.imageStream id labels) with
    ⟨x, q₁, hx, hc₁⟩ | ⟨hmem, hx⟩
  swap
  · rw [hx]
    exact .failed ⟨.inl rfl, rfl⟩ ⟨hmem, rfl⟩ rfl (hq.congr rfl)
  rw [hx] at hnone₁ ⊢
  have hq₁ := hq.reconcile (Bundle.imageStream id labels) ⟨.inl rfl, rfl⟩ hx₀ hximage hx
  dsimp only
  rw [perform_ofResult_bind hbc, perform_bind]
  have hnone₂ := startsNone_reconcile q₁ bc
  rcases reconcile_outcome rfl q₁ bc with ⟨y, q₂, hy, hc₂⟩ | ⟨hmem, hy⟩
  swap
  · rw [hname] at hy hmem
    rw [hy]
    exact .failed ⟨.inr rfl, rfl⟩ (Spent.of_before ⟨hmem, rfl⟩ hc₁) hnone₁.buildsStarted_eq
      (hq₁.congr rfl)
  rw [hy] at hnone₂ ⊢
  dsimp only
  rw [perform_bind, hop]
  have hconfig := (reconcile_eq_ok hy).find?_self
  rw [hname] at hconfig
  have hc₃ := conflicts_startBuild q₂ id.text op
  rcases hb' : q₂.startBuild id.text op with ⟨e | b', q₃⟩
  · -- a build configuration is there that a build can be started of
    unfold Cluster.startBuild at hb'
    rw [hconfig] at hb'
    cases hb'
  rw [hb'] at hc₃
  have hbuilt' := built_of_startBuild hx hname hy hb'
  have hunstamped := hbuilt.unstamped_eq hbuilt' (nextBuildNumber_congr hq.builds_eq id.text)
  have hsame : b'.name = b.name := by rw [← b'.name_unstamped, hunstamped, b.name_unstamped]
  have hstarted := buildsStarted_startBuild hb'
  rw [hnone₂.buildsStarted_eq, hnone₁.buildsStarted_eq] at hstarted
  refine .passed ⟨rfl, ?_⟩ (hc₃.trans (hc₂.trans hc₁)) hstarted (hbuilt.alike hbuilt' hq)
  show PipelineState.building b'.name .trigger = .building b.name .trigger
  rw [hsame]

/-- An image that is prepared changes nothing, or sets up a build in a way that depends on the
    builds of the application alone. -/
theorem prepare_cases (hp : s.perform (d.prepare r id labels) = (.ok p, t)) :
    (t = s ∧ ∀ q : Cluster, q.matching .build (Labels.appSelector id) =
        s.matching .build (Labels.appSelector id) →
      q.perform (d.prepare r id labels) = (.ok p, q)) ∨
    ∃ plan content tag, ∀ q : Cluster, q.matching .build (Labels.appSelector id) =
        s.matching .build (Labels.appSelector id) →
      q.perform (d.prepare r id labels) = q.perform (setUp plan r id labels content tag) := by
  by_cases hi : ∃ reference, r.artifact = .image reference
  · obtain ⟨reference, hi⟩ := hi
    rw [prepare_of_image hi] at hp ⊢
    cases hp
    exact .inl ⟨rfl, fun _ _ => rfl⟩
  have hi : ∀ reference, r.artifact ≠ .image reference := fun reference hr => hi ⟨reference, hr⟩
  have hprovision := prepare_provision d r id labels s
  rw [hp] at hprovision
  cases hprovision with
  | ready hr => exact absurd hr (hi _)
  | earlier hc he =>
    exact .inl ⟨rfl, fun q hq => perform_prepare_of_earlier hi hc (by rwa [hq])⟩
  | @commissioned content b _ hc he hb =>
    rw [perform_prepare_of_none hi hc he] at hp
    obtain ⟨plan, s₁, hchosen, -⟩ := perform_bind_eq_ok.1 hp
    obtain ⟨hplan, -⟩ := Prod.mk.inj hchosen
    refine .inr ⟨plan, content, BuildPlan.outputTag d.config r id, fun q hq => ?_⟩
    rw [← hq] at he
    rw [perform_prepare_of_none hi hc he, build, perform_ofResult_bind hplan]
    cases plan with
    | image reference => exact absurd hplan (BuildPlan.choose_ne_image hi)
    | git | dockerfile | upload => rfl

/-- Where preparing an image would succeed without conflicts, every attempt made before a build is
    started does, or meets with a conflict. At most one build is started. -/
theorem prepare_attempt (hp : s.perform (d.prepare r id labels) = (.ok p, t)) :
    ∃ n ≤ 1, t.buildsStarted = s.buildsStarted + n ∧ ∀ q, Unbuilt id s t q →
      Attempt id s t p n q (q.perform (d.prepare r id labels)) := by
  have hall : ∃ n ≤ 1, ∀ q, Unbuilt id s t q →
      Attempt id s t p n q (q.perform (d.prepare r id labels)) := by
    rcases prepare_cases hp with ⟨rfl, hsame⟩ | ⟨plan, content, tag, hsetUp⟩
    · refine ⟨0, Nat.zero_le 1, fun q hq => ?_⟩
      rw [hsame q (matching_congr hq.builds_eq _)]
      refine .passed ⟨rfl, rfl⟩ rfl rfl fun k name => ?_
      by_cases hk : k = .build
      · subst hk
        exact alikeAt_of_eq (find?_congr hq.builds_eq name)
      · exact (hq.other k name hk).elim alikeAt_of_eq And.right
    · rw [hsetUp s rfl] at hp
      obtain ⟨n, hn, hattempt⟩ := setUp_attempt hp
      refine ⟨n, hn, fun q hq => ?_⟩
      rw [hsetUp q (matching_congr hq.builds_eq _)]
      exact hattempt q hq
  obtain ⟨n, hn, hattempt⟩ := hall
  refine ⟨n, hn, ?_, hattempt⟩
  have hfirst := hattempt s ⟨rfl, fun _ _ _ => .inl rfl⟩
  rw [hp] at hfirst
  cases hfirst with
  | passed hp hconflicts hstarted halike => exact hstarted

end Deployer

end Slipway

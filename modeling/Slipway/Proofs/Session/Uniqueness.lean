import Slipway.Proofs.Deploy.Instances
import Slipway.Proofs.Labels.Selector
import Slipway.Proofs.Session.Origins

/-
  No build is made twice. Where nothing forces a build and a build that failed stays so, an
  application has at most one build in a run that carries a fingerprint and did not fail
  (`noDuplicates_ofRun`). The reason is that a new build is made only if the platform lists no
  such build (`Order.Makes.isFirst`), that the selector of the application lists all of its builds,
  and that the new build takes the place of no other.
-/

namespace Slipway

open Cluster

/-- A build of an application that carries a fingerprint and did not fail. -/
structure Resource.IsMadeFor (b : Build) (id : AppId) (fp : Fingerprint) : Prop where
  appId_eq : b.labels.get? Labels.appIdKey = some id.text
  marker_eq : b.strategy.envValue Labels.fingerprintVariable = some fp.text
  phase_ne : b.phase ≠ .failed

namespace Cluster

variable {s s' : Cluster} {id : AppId} {fp : Fingerprint} {name : String} {b : Build}

/-- An application has at most one build for a fingerprint that did not fail. -/
def NoDuplicates (s : Cluster) : Prop :=
  ∀ ⦃id fp name₁ name₂⦄ ⦃b₁ b₂ : Build⦄, s.find? .build name₁ = some b₁ → b₁.IsMadeFor id fp →
    s.find? .build name₂ = some b₂ → b₂.IsMadeFor id fp → name₁ = name₂

/-- The selector of an application lists all of its builds. -/
theorem mem_matching_of_isMadeFor (hid : id.IsPlain) (hb : s.find? .build name = some b)
    (h : b.IsMadeFor id fp) : b ∈ s.matching .build (Labels.appSelector id) := by
  refine List.mem_filter.2 ⟨Dict.mem_values_iff.2 ⟨name, hb⟩, ?_⟩
  exact (Labels.satisfies_appSelector hid _).2 h.appId_eq

/-- Where the builds that are made for something were so before, none is made twice. -/
theorem NoDuplicates.of_backward (hs : s.NoDuplicates)
    (h : ∀ {id fp name} {b' : Build}, s'.find? .build name = some b' → b'.IsMadeFor id fp →
      ∃ b, s.find? .build name = some b ∧ b.IsMadeFor id fp) : s'.NoDuplicates := by
  intro id fp name₁ name₂ b₁ b₂ h₁ hb₁ h₂ hb₂
  obtain ⟨a₁, ha₁, hm₁⟩ := h h₁ hb₁
  obtain ⟨a₂, ha₂, hm₂⟩ := h h₂ hb₂
  exact hs ha₁ hm₁ ha₂ hm₂

theorem Started.noDuplicates {bc : BuildConfig} {base : String} (h : Started s s' bc base b)
    (hs : s.NoDuplicates)
    (hfirst : ∀ {id fp}, b.IsMadeFor id fp → ∀ {name b₀}, s.find? .build name = some b₀ →
      ¬ Resource.IsMadeFor b₀ id fp) : s'.NoDuplicates := by
  intro id fp name₁ name₂ b₁ b₂ h₁ hb₁ h₂ hb₂
  rw [find?_of_insert h.builds_eq] at h₁ h₂
  split at h₁
  next he₁ =>
    cases h₁
    split at h₂
    next he₂ => exact he₁.trans he₂.symm
    next => exact absurd hb₂ (hfirst hb₁ h₂)
  next =>
    split at h₂
    next =>
      cases h₂
      exact absurd hb₁ (hfirst hb₂ h₁)
    next => exact hs h₁ hb₁ h₂ hb₂

theorem Moved.noDuplicates {b' : Build} (h : Moved s s' name b b') (hs : s.NoDuplicates)
    (hfailed : b.phase = .failed → b'.phase = .failed) : s'.NoDuplicates := by
  refine hs.of_backward fun {id fp other c'} hc' hmade => ?_
  by_cases hn : other = name
  · subst hn
    rw [h.find?_self] at hc'
    cases hc'
    refine ⟨b, h.find?_eq, ?_, ?_, fun hphase => hmade.phase_ne (hfailed hphase)⟩
    · rw [← h.labels_eq]
      exact hmade.appId_eq
    · unfold Resource.strategy
      rw [← h.spec_eq]
      exact hmade.marker_eq
  · rw [h.find?_of_ne hn] at hc'
    exact ⟨c', hc', hmade⟩

end Cluster

/-! ## One event -/

variable {s : Cluster} {id : AppId} {fp : Fingerprint} {name : String} {b b₀ : Build}

/-- A build that is made without being forced is the first one of its application for what it
    carries. -/
theorem Order.Makes.isFirst {o : Order} (h : o.Makes s b) (hid : o.id.IsPlain)
    (hforced : BuildHistory.forcesBuild o.request o.deployer.config ≠ .ok true)
    (hb : b.IsMadeFor id fp) (hb₀ : s.find? .build name = some b₀) : ¬ b₀.IsMadeFor id fp := by
  intro hmade
  obtain ⟨content, hcarries, hnone⟩ := h.content
  have hfp : fp = Fingerprint.of content := by
    have hm := (BuildHistory.carries_iff.1 hcarries).2
    rw [hb.marker_eq] at hm
    exact congrArg Fingerprint.mk (Option.some.inj hm)
  have hido : id = o.id := by
    have hl := hb.appId_eq
    rw [h.labels_eq, Labels.appId_base] at hl
    exact congrArg AppId.mk (Option.some.inj hl).symm
  have hfree := BuildHistory.not_carries_of_toReuse? hnone hforced
    (mem_matching_of_isMadeFor hid hb₀ (hido ▸ hmade))
  rw [← hfp, BuildHistory.carries_iff.2 ⟨hmade.phase_ne, hmade.marker_eq⟩] at hfree
  cases hfree

namespace Event

/-- An event that asks for no build which is forced. What is prepared on its own is prepared under
    an id such as requests have. -/
def ForcesNone : Event → Prop
  | step d (.deploy r) | step d (.launch r _) => BuildHistory.forcesBuild r d.config ≠ .ok true
  | step d (.prepare r id _) => id.IsPlain ∧ BuildHistory.forcesBuild r d.config ≠ .ok true
  | _ => True

theorem ForcesNone.of_order? {e : Event} (h : e.ForcesNone) {o : Order} (ho : e.order? = some o) :
    o.id.IsPlain ∧ BuildHistory.forcesBuild o.request o.deployer.config ≠ .ok true := by
  cases e with
  | act a => cases ho
  | step d st =>
    cases st with
    | deploy r =>
      cases ho
      exact ⟨AppId.isPlain_appId r, h⟩
    | launch r handle =>
      cases ho
      exact ⟨AppId.isPlain_appId r, h⟩
    | prepare r id mode =>
      cases ho
      exact h
    | _ => cases ho

/-- An event keeps that no build is made twice. -/
theorem noDuplicates {e : Event} (hm : e.IsManaged) (hn : e.ForcesNone) {s : Session Cluster}
    (hfailed : ∀ {name phase} {b : Build}, e.Moves name phase →
      s.platform.find? .build name = some b → b.phase = .failed → phase = .failed)
    (hs : s.platform.NoDuplicates) : (e.apply s).platform.NoDuplicates := by
  cases e.buildChange hm s with
  | none h => exact hs.of_backward fun hb hmade => ⟨_, (find?_congr h _) ▸ hb, hmade⟩
  | started h hb =>
    obtain ⟨o, ho, hmakes⟩ := hb
    obtain ⟨hid, hforced⟩ := hn.of_order? ho
    exact h.noDuplicates hs fun hmade _ _ hb₀ => hmakes.isFirst hid hforced hmade hb₀
  | moved h hmoves => exact h.noDuplicates hs (hfailed hmoves h.find?_eq)

end Event

/-! ## Runs -/

variable {run : List Event}

/-- A build that failed is moved to no other phase in a run. -/
def FailedStays (run : List Event) : Prop :=
  ∀ ⦃before e after name phase⦄ ⦃b : Build⦄, run = before ++ e :: after → e.Moves name phase →
    (Session.ofRun before).platform.find? .build name = some b → b.phase = .failed →
    phase = .failed

theorem FailedStays.of_concat {e : Event} (h : FailedStays (run ++ [e])) : FailedStays run := by
  intro before e' after name b b' hrun
  have hconcat : run ++ [e] = before ++ e' :: (after ++ [e]) := by
    rw [hrun]
    simp
  exact h hconcat

/-- Where no build is forced and a build that failed stays so, a run makes no build twice: at most
    one build of an application that carries a fingerprint did not fail. -/
theorem noDuplicates_ofRun (hm : ∀ e ∈ run, e.IsManaged) (hn : ∀ e ∈ run, e.ForcesNone)
    (hf : FailedStays run) : (Session.ofRun run).platform.NoDuplicates := by
  induction run using List.reverseRecOn with
  | nil =>
    intro id fp name₁ name₂ b₁ b₂ h₁
    cases h₁
  | append_singleton run e ih =>
    have hmem : e ∈ run ++ [e] := by simp
    have hs := ih (fun e' he' => hm e' (List.mem_append_left _ he'))
      (fun e' he' => hn e' (List.mem_append_left _ he')) hf.of_concat
    rw [Session.ofRun_concat]
    exact Event.noDuplicates (hm e hmem) (hn e hmem) (fun hmoves => hf rfl hmoves) hs

/-! ## A build that is made again -/

/-- The first build of `ticker` fails, so that the next deployment makes another. It is this one
    that a task then waits for. -/
def rebuiltOnce : List Event := deployedOnce ++ [.act (.setBuildPhase "ticker-1" .failed none),
  .step (Deployer.ofContent []) (.deploy (.ticker [])),
  .step (Deployer.ofContent []) (.launch (.ticker []) "task")]

theorem noDuplicates_rebuiltOnce : (Session.ofRun rebuiltOnce).platform.NoDuplicates ∧
    ((Session.ofRun rebuiltOnce).platform.objects.of .build).keys = ["ticker-1", "ticker-2"] := by
  refine ⟨noDuplicates_ofRun ?_ ?_ ?_, by decide +kernel⟩
  · simp [rebuiltOnce, deployedOnce, Event.IsManaged]
  · have hforced : BuildHistory.forcesBuild (.ticker []) (Deployer.ofContent []).config =
        .ok false := rfl
    simp [rebuiltOnce, deployedOnce, Event.ForcesNone, hforced]
  · rintro before _ after name phase b hrun ⟨image, rfl⟩ - -
    have he : Event.act (.setBuildPhase name phase image) ∈ rebuiltOnce := by
      rw [hrun]
      simp
    simp only [rebuiltOnce, deployedOnce, List.mem_append, List.mem_cons, List.not_mem_nil,
      reduceCtorEq, Event.act.injEq, Act.setBuildPhase.injEq, or_false, false_or] at he
    exact he.2.1

end Slipway

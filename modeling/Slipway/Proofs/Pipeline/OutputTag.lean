import Slipway.Proofs.Session.Origins

/-
  The tag that is told for a build, and the tag that the build pushes to. They are the same for a
  build that is just started. A build that is followed pushes to the tag of the request that
  started it, so there they are the same exactly if that request asked for the same tag
  (`submitted_outputTag_iff`).
-/

namespace Slipway.Deployer

open Cluster

variable {run : List Event} {d : Deployer} {r : Request} {id : AppId} {labels : Attributes}
  {b : Build} {tag : String} {s' : Cluster}

/-- The tag that is told is that of the request at hand. The build pushes to it exactly if its name
    was free before, so that the build is new, or the request that started it asked for this tag
    too. -/
theorem submitted_outputTag_iff (hm : ∀ e ∈ run, e.IsManaged)
    (h : (d.prepare r id labels).run (Session.ofRun run).platform =
      (some (.ok (.submitted b tag)), s')) :
    tag = BuildPlan.outputTag d.config r id ∧
      (b.outputTag? = some tag ↔
        (Session.ofRun run).platform.find? .build b.name = none ∨
          ∃ o, StartedBy run b.name o ∧ o.tag = tag) := by
  have hs := numbered_ofRun hm
  have hp := prepare_preparation d r id labels (Session.ofRun run).platform
  rw [run_eq_some_iff.1 h] at hp
  cases hp with
  | unchanged hbuilds hne => exact absurd rfl (hne b tag)
  | started hb htag =>
    refine ⟨rfl, fun _ => .inl (hb.find?_before hs), fun _ => htag⟩
  | followed hb hphase =>
    have hfind := (hs.buildsNamed _).find?_of_mem_matching hb
    refine ⟨rfl, fun htag => .inr ?_, ?_⟩
    · obtain ⟨o, ho⟩ := exists_startedBy hm hfind
      have hto := outputTag?_of_startedBy hm ho hfind
      rw [htag] at hto
      exact ⟨o, ho, (Option.some.inj hto).symm⟩
    · rintro (hnone | ⟨o, ho, htag⟩)
      · rw [hfind] at hnone
        cases hnone
      · rw [← htag]
        exact outputTag?_of_startedBy hm ho hfind

/-! ## A build that is followed -/

/-- A request for `ticker` that asks for a tag of its own. -/
def tickerTagged : Request := .ticker [(Keys.imageTag, "1.0")]

/-- The build that is waited for, the tag that is told for it, and the tag that it pushes to. -/
def tagsOf? : Prepared → Option (String × String × Option String)
  | .submitted b tag => some (b.name, tag, b.outputTag?)
  | _ => none

theorem tagsOf?_deployedOnce :
    view? tagsOf? (((Deployer.ofContent []).prepare tickerTagged tickerTagged.appId
      (Labels.base tickerTagged.appId tickerTagged)).run (Session.ofRun deployedOnce).platform) =
      some ("ticker-1", "ticker:1.0", some "ticker:latest") := by
  decide +kernel

theorem exists_submitted_deployedOnce : ∃ b s',
    ((Deployer.ofContent []).prepare tickerTagged tickerTagged.appId
      (Labels.base tickerTagged.appId tickerTagged)).run (Session.ofRun deployedOnce).platform =
      (some (.ok (.submitted b "ticker:1.0")), s') ∧
    b.outputTag? = some "ticker:latest" := by
  obtain ⟨p, s', h, hp⟩ := exists_of_view? tagsOf?_deployedOnce
  cases p with
  | submitted b tag =>
    simp only [tagsOf?, Option.some.injEq, Prod.mk.injEq] at hp
    obtain ⟨-, rfl, htag⟩ := hp
    exact ⟨b, s', h, htag⟩
  | noBuild => cases hp
  | reused => cases hp

theorem submitted_outputTag_iff_deployedOnce : ∃ b s',
    ((Deployer.ofContent []).prepare tickerTagged tickerTagged.appId
      (Labels.base tickerTagged.appId tickerTagged)).run (Session.ofRun deployedOnce).platform =
      (some (.ok (.submitted b "ticker:1.0")), s') ∧
    (b.outputTag? = some "ticker:1.0" ↔
      (Session.ofRun deployedOnce).platform.find? .build b.name = none ∨
        ∃ o, StartedBy deployedOnce b.name o ∧ o.tag = "ticker:1.0") := by
  obtain ⟨b, s', h, -⟩ := exists_submitted_deployedOnce
  have hm : ∀ e ∈ deployedOnce, e.IsManaged := by simp [deployedOnce, Event.IsManaged]
  exact ⟨b, s', h, (submitted_outputTag_iff hm h).2⟩

/-- The build that is followed was started for another tag than the one that is told for it. -/
theorem followed_outputTag_ne : ∃ b tag s',
    ((Deployer.ofContent []).prepare tickerTagged tickerTagged.appId
      (Labels.base tickerTagged.appId tickerTagged)).run (Session.ofRun deployedOnce).platform =
      (some (.ok (.submitted b tag)), s') ∧
    b.outputTag? ≠ some tag := by
  obtain ⟨b, s', h, htag⟩ := exists_submitted_deployedOnce
  exact ⟨b, _, s', h, by simp [htag]⟩

end Slipway.Deployer

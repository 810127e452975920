import Slipway.Proofs.Pipeline.Prepare
import Slipway.Proofs.Session.Runs

/-
  The build whose image is used again. It came to an end and did not fail, and among the builds
  that the platform lists it is a youngest one of those that did not fail and were made from the
  same content (`reused_youngest`). A build that went wrong in another way than by failing, or that
  was cancelled, is used all the same (`reused_cancelled`).
-/

namespace Slipway.Deployer

open BuildHistory

variable {σ : Type} [Platform σ] {s s' : σ} {d : Deployer} {r : Request} {id : AppId}
  {labels : Attributes} {name image : String}

theorem ofEarlier_eq_reused {b : Build} {tag : String} (h : .reused name image = ofEarlier b tag) :
    b.phase.isTerminal = true ∧ b.name = name ∧ image = b.builtImage tag := by
  unfold ofEarlier at h
  split at h
  next hphase =>
    cases h
    exact ⟨hphase, rfl, rfl⟩
  · cases h

theorem phase_of_carries {fp : Fingerprint} {b : Build} (hc : carries fp b = true)
    (ht : b.phase.isTerminal = true) :
    b.phase = .complete ∨ b.phase = .error ∨ b.phase = .cancelled := by
  have hf := (carries_iff.1 hc).1
  revert hf ht
  cases b.phase <;> decide

/-- Where an earlier build is used again, none is forced, and this build carries the fingerprint of
    the artifact, is complete, in error or cancelled, but not failed, and no other build that
    carries the fingerprint and did not fail is younger. The image is the one that the build
    reports, or the tag of the request where it reports none. -/
theorem reused_youngest
    (h : (d.prepare r id labels).run s = (some (.ok (.reused name image)), s')) :
    ∃ content, ∃ builds : List Build, ∃ b, d.resolver.bytes r.artifact = .ok content ∧
      (Platform.answer (.list .build (Labels.appSelector id)) s).1 = some (.ok builds) ∧
      forcesBuild r d.config = .ok false ∧
      b ∈ builds ∧ b.name = name ∧ image = b.builtImage (BuildPlan.outputTag d.config r id) ∧
      carries (Fingerprint.of content) b = true ∧
      (b.phase = .complete ∨ b.phase = .error ∨ b.phase = .cancelled) ∧
      ∀ b' ∈ builds, carries (Fingerprint.of content) b' = true → notYounger b' b = true := by
  rcases prepare_eq_ok h with ⟨_, _, hp, _⟩ | ⟨content, builds, s₁, earlier, hc, hl, he, hp⟩
  · cases hp
  · cases earlier with
    | none => exact absurd hp build_ne_reused
    | some b =>
      obtain ⟨hf, hb⟩ := toReuse?_eq_some he
      obtain ⟨hmem, hcarries, hyoungest⟩ := reusable?_eq_some hb
      obtain ⟨ht, hname, himage⟩ := ofEarlier_eq_reused hp.1
      exact ⟨content, builds, b, hc, by rw [hl], hf, hmem, hname, himage, hcarries,
        phase_of_carries hcarries ht, hyoungest⟩

/-! ## A build that was cancelled -/

/-- The build of `ticker` was cancelled before it made an image. -/
def cancelledOnce : List Event := deployedOnce ++ [.act (.setBuildPhase "ticker-1" .cancelled none)]

/-- The build whose image is used again, and this image. -/
def reuseOf? : Prepared → Option (String × String)
  | .reused build image => some (build, image)
  | _ => none

theorem reuseOf?_cancelledOnce :
    view? reuseOf? (((Deployer.ofContent []).prepare (.ticker []) (Request.ticker []).appId
      (Labels.base (Request.ticker []).appId (.ticker []))).run
        (Session.ofRun cancelledOnce).platform) = some ("ticker-1", "ticker:latest") := by
  decide +kernel

theorem exists_reused_cancelledOnce : ∃ s',
    ((Deployer.ofContent []).prepare (.ticker []) (Request.ticker []).appId
      (Labels.base (Request.ticker []).appId (.ticker []))).run
      (Session.ofRun cancelledOnce).platform =
      (some (.ok (.reused "ticker-1" "ticker:latest")), s') := by
  obtain ⟨p, s', h, hp⟩ := exists_of_view? reuseOf?_cancelledOnce
  cases p with
  | reused build image =>
    cases hp
    exact ⟨s', h⟩
  | noBuild => cases hp
  | submitted => cases hp

theorem reused_youngest_cancelledOnce : ∃ s',
    ((Deployer.ofContent []).prepare (.ticker []) (Request.ticker []).appId
      (Labels.base (Request.ticker []).appId (.ticker []))).run
      (Session.ofRun cancelledOnce).platform =
      (some (.ok (.reused "ticker-1" "ticker:latest")), s') ∧
    ∃ builds : List Build, ∃ b,
      (Platform.answer (.list .build (Labels.appSelector (Request.ticker []).appId))
        (Session.ofRun cancelledOnce).platform).1 = some (.ok builds) ∧ b ∈ builds ∧
      b.name = "ticker-1" ∧ (b.phase = .complete ∨ b.phase = .error ∨ b.phase = .cancelled) := by
  obtain ⟨s', h⟩ := exists_reused_cancelledOnce
  obtain ⟨content, builds, b, -, hl, -, hb, hname, -, -, hphase, -⟩ := reused_youngest h
  exact ⟨s', h, builds, b, hl, hb, hname, hphase⟩

/-- The image of a build that was cancelled is used, though no build has made it. -/
theorem reused_cancelled : ∃ s' b,
    ((Deployer.ofContent []).prepare (.ticker []) (Request.ticker []).appId
      (Labels.base (Request.ticker []).appId (.ticker []))).run
      (Session.ofRun cancelledOnce).platform =
      (some (.ok (.reused "ticker-1" "ticker:latest")), s') ∧
    (Session.ofRun cancelledOnce).platform.find? .build "ticker-1" = some b ∧
    b.phase = .cancelled := by
  obtain ⟨s', h⟩ := exists_reused_cancelledOnce
  have hb : ((Session.ofRun cancelledOnce).platform.find? .build "ticker-1").map Resource.phase =
      some .cancelled := by
    decide +kernel
  obtain ⟨b, hb, hphase⟩ := Option.map_eq_some_iff.1 hb
  exact ⟨s', b, h, hb, hphase⟩

end Slipway.Deployer

import Slipway.Proofs.Deploy.Idempotent
import Slipway.Proofs.Session.Reached

/-
  A build that is waited for is the one that is used when it is complete. Moving a build to another
  phase puts it in the place of the one that is listed (`Moved.matching_eq`) and makes it neither
  older nor younger. So the choice among the builds of an application falls on it again, unless it
  failed (`Moved.toReuse?`), and where an image was prepared by submitting a build, preparing it once
  the build is complete gives the image of this build (`prepare_of_moved`).
-/

namespace Slipway

open Cluster BuildHistory

variable {s s' t : Cluster} {b b' : Build} {name selector : String} {phase : BuildPhase}
  {image : Option String}

/-! ## The builds that are listed -/

namespace Cluster

/-- A build that is listed, or the one that came in the place of its name. -/
def inPlace (name : String) (b' x : Build) : Build := if x.name = name then b' else x

/-- Where the builds that are listed are stored under their own names, one that is moved takes its
    place in the list. -/
theorem Moved.matching_eq (h : Moved s s' name b b') (hs : s.BuildsNamed selector) :
    s'.matching .build selector = (s.matching .build selector).map (inPlace name b') := by
  have hsome : ((s.objects.of .build).get? name).isSome := Option.isSome_of_eq_some h.find?_eq
  have hself : ∀ e ∈ (s.objects.of .build).entries, e.1 = name → e.2 = b := by
    rintro ⟨n, x⟩ he rfl
    exact Option.some.inj ((Dict.mem_entries_iff.1 he).symm.trans h.find?_eq)
  unfold matching Dict.values
  rw [h.builds_eq, Dict.entries_insert_of_isSome hsome, List.map_map, List.filter_map,
    List.filter_map, List.map_map]
  refine (congrArg _ (List.filter_congr fun e he => ?_)).trans
    (List.map_congr_left fun e he => ?_)
  · simp only [Function.comp_apply]
    split
    next hn => rw [hself e he hn, h.labels_eq]
    next => rfl
  · obtain ⟨he, hselected⟩ := List.mem_filter.1 he
    have hname : e.2.name = e.1 := hs _ _ (Dict.mem_entries_iff.1 he) hselected
    simp only [Function.comp_apply, inPlace, hname]
    split <;> rfl

/-- What is listed stays as it is, but for the build that moved. -/
theorem Moved.inPlace_cases (h : Moved s s' name b b') (hs : s.BuildsNamed selector) {x : Build}
    (hx : x ∈ s.matching .build selector) :
    x = b ∧ inPlace name b' x = b' ∨ inPlace name b' x = x := by
  unfold inPlace
  split
  next hn =>
    have hfind := hs.find?_of_mem_matching hx
    rw [hn, h.find?_eq] at hfind
    exact .inl ⟨(Option.some.inj hfind).symm, rfl⟩
  next => exact .inr rfl

theorem Moved.number_eq (h : Moved s s' name b b') : number b' = number b := by
  have hannotations : b'.unstamped.metadata.annotations = b.stored.unstamped.metadata.annotations := by
    rw [h.metadata_eq]
  have hset : b'.metadata.annotationSet = b.metadata.annotationSet :=
    congrArg (·.getD ∅) hannotations
  unfold number
  rw [hset]

/-- A build that is to be used again stays so when it moves to another phase, unless it fails. -/
theorem Moved.toReuse? {r : Request} {c : Config} {fp : Fingerprint}
    (h : Moved s s' b.name b b') (hs : s.BuildsNamed selector)
    (htime : b'.metadata.creationTimestamp = b.metadata.creationTimestamp)
    (hphase : b'.phase ≠ .failed)
    (he : toReuse? r c (s.matching .build selector) fp = .ok (some b)) :
    BuildHistory.toReuse? r c (s'.matching .build selector) fp = .ok (some b') := by
  obtain ⟨hforced, hb⟩ := toReuse?_eq_some he
  have hcarries : carries fp b' = carries fp b := by
    obtain ⟨-, hc, -⟩ := reusable?_eq_some hb
    have hstrategy : b'.strategy = b.strategy := congrArg BuildRecipe.strategy h.spec_eq
    rw [hc, carries_iff, hstrategy]
    exact ⟨hphase, (carries_iff.1 hc).2⟩
  refine toReuse?_eq_ok.2 ⟨false, hforced, ?_⟩
  rw [h.matching_eq hs, reusable?_map (fun x hx => ?_) (fun x hx y hy => ?_), hb]
  · show some b' = (some b).map (inPlace b.name b')
    rw [Option.map_some, inPlace, if_pos rfl]
  · rcases h.inPlace_cases hs hx with ⟨rfl, hx'⟩ | hx'
    · rw [hx', hcarries]
    · rw [hx']
  · have hage : ∀ x ∈ s.matching .build selector,
        (inPlace b.name b' x).metadata.creationTimestamp = x.metadata.creationTimestamp ∧
          number (inPlace b.name b' x) = number x := fun x hx => by
      rcases h.inPlace_cases hs hx with ⟨rfl, hx'⟩ | hx'
      · rw [hx']
        exact ⟨htime, h.number_eq⟩
      · rw [hx']
        exact ⟨rfl, rfl⟩
    unfold compareAge
    rw [(hage x hx).1, (hage x hx).2, (hage y hy).1, (hage y hy).2]

theorem exists_setBuildPhase (h : s.find? .build name = some b) (phase : BuildPhase)
    (image : Option String) : ∃ s', s.setBuildPhase name phase image = some s' ∧
      Moved s s' name b (s.stamp (movedTo phase image b)).1 ∧
      (∀ k, k ≠ .build → s'.objects.of k = s.objects.of k) ∧ s'.log = s.log := by
  refine ⟨_, Option.map_eq_some_iff.2 ⟨b, h, rfl⟩, ⟨h, rfl, rfl, rfl⟩, fun k hk => ?_, rfl⟩
  exact objects_of_store_of_ne _ _ _ hk

end Cluster

/-! ## Preparing an image -/

namespace Deployer

variable {d : Deployer} {r : Request} {id : AppId} {labels : Attributes} {tag : String}

/-- A build that was submitted is the one to be used again. -/
theorem toReuse?_of_submitted (hforced : forcesBuild r d.config ≠ .ok true) (hid : id.IsPlain)
    (hlabels : labels.get? Labels.appIdKey = some id.text)
    (h : s.perform (d.prepare r id labels) = (.ok (.submitted b tag), s')) :
    (∀ reference, r.artifact ≠ .image reference) ∧ ∃ content,
      d.resolver.bytes r.artifact = .ok content ∧
      toReuse? r d.config (s'.matching .build (Labels.appSelector id)) (Fingerprint.of content) =
        .ok (some b) ∧ tag = BuildPlan.outputTag d.config r id := by
  have hi : ∀ reference, r.artifact ≠ .image reference := fun reference hi => by
    rw [prepare_of_image hi] at h
    cases h
  have hp := prepare_provision d r id labels s
  rw [h] at hp
  generalize hout : (.submitted b tag : Prepared) = out at hp
  refine ⟨hi, ?_⟩
  cases hp with
  | ready hr => cases hout
  | @earlier content b₀ hc he =>
    unfold ofEarlier at hout
    split at hout
    · cases hout
    · cases hout
      exact ⟨content, hc, he, rfl⟩
  | @commissioned content b₀ _ hc he hb =>
    cases hout
    exact ⟨content, hc, hb.toReuse? he hforced hid hlabels rfl, rfl⟩

/-- Where a build was submitted and has ended since without having failed, its image is used. -/
theorem prepare_of_moved (hforced : forcesBuild r d.config ≠ .ok true) (hid : id.IsPlain)
    (hlabels : labels.get? Labels.appIdKey = some id.text)
    (h : s.perform (d.prepare r id labels) = (.ok (.submitted b tag), s'))
    (hs : s'.BuildsNamed (Labels.appSelector id)) {q q' : Cluster}
    (hq : q.objects.of .build = s'.objects.of .build) (hmoved : Moved q q' b.name b b')
    (htime : b'.metadata.creationTimestamp = b.metadata.creationTimestamp)
    (hterminal : b'.phase.isTerminal = true) (hphase : b'.phase ≠ .failed) :
    q'.perform (d.prepare r id labels) = (.ok (.reused b'.name (b'.builtImage tag)), q') := by
  obtain ⟨hi, content, hc, he, rfl⟩ := toReuse?_of_submitted hforced hid hlabels h
  rw [← matching_congr hq] at he
  rw [perform_prepare_of_earlier hi hc (hmoved.toReuse? (hs.congr hq) htime hphase he), ofEarlier,
    if_pos hterminal]

end Deployer

end Slipway

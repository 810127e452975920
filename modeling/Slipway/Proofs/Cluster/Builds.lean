import Slipway.Proofs.Cluster.Stored
import Slipway.Proofs.Dict.Entries
import Slipway.Proofs.Text.Numbering

/-
  The builds that a platform in memory holds. A build that is started takes the next number of its
  build configuration and what the configuration says (`startBuild_eq_ok`). Where every name that is
  taken was given with a number before, this name is free (`Issued.fresh`), so no build is ever
  written over by another. A change of the builds (`BuildChange`) starts one or moves one to another
  phase; it keeps the numbering (`BuildChange.numbered`) and the recipe and labels of every build
  there is (`BuildChange.exists_find?`).
-/

namespace Slipway

/-- The tag that a build pushes its image to. -/
def Resource.outputTag? (b : Build) : Option String :=
  (b.spec : BuildRecipe).output.target.bind (·.name)

namespace Cluster

variable {s s' : Cluster} {b : Build} {base name : String}

/-! ## Numbering -/

/-- Every build is stored under its own name, and every name is that of a build configuration with
    a number that was given before. -/
structure Numbered (s : Cluster) : Prop where
  name_eq : ∀ {name b}, s.find? .build name = some b → b.name = name
  given : ∀ {name b}, s.find? .build name = some b →
    ∃ base n, name = Text.numbered base n ∧ n < s.nextBuildNumber base

theorem numbered_empty : Numbered {} := by
  refine ⟨fun h => ?_, fun h => ?_⟩ <;> cases h

/-- Every name under which a build is stored is that of a build configuration with a number that
    was given before. The build itself may go by another name. -/
def Issued (s : Cluster) : Prop :=
  ∀ name b, s.find? .build name = some b →
    ∃ base n, name = Text.numbered base n ∧ n < s.nextBuildNumber base

theorem issued_empty : Issued {} := fun _ _ h => nomatch h

theorem Numbered.issued (h : s.Numbered) : s.Issued := fun _ _ hb => h.given hb

/-- The name that the next build of a configuration takes is free. -/
theorem Issued.fresh (h : s.Issued) (base : String) :
    s.find? .build (Text.numbered base (s.nextBuildNumber base)) = none := by
  rw [Option.eq_none_iff_forall_ne_some]
  intro b hb
  obtain ⟨base', n, hn, hlt⟩ := h _ b hb
  obtain ⟨rfl, rfl⟩ := Text.numbered_inj hn
  exact Nat.lt_irrefl _ hlt

/-- The builds that a selector matches are stored under their own names. -/
def BuildsNamed (s : Cluster) (selector : String) : Prop :=
  ∀ name b, s.find? .build name = some b → Labels.satisfies b.labels selector = true →
    b.name = name

theorem Numbered.buildsNamed (h : s.Numbered) (selector : String) : s.BuildsNamed selector :=
  fun _ _ hb _ => h.name_eq hb

theorem BuildsNamed.find?_of_mem_matching {selector : String} (h : s.BuildsNamed selector)
    (hb : b ∈ s.matching .build selector) : s.find? .build b.name = some b := by
  obtain ⟨hvalue, hselected⟩ := List.mem_filter.1 hb
  obtain ⟨name, hn⟩ := Dict.mem_values_iff.1 hvalue
  have hs : s.find? .build name = some b := hn
  rwa [h name b hs hselected]

theorem BuildsNamed.congr {selector : String} (h : s.BuildsNamed selector)
    (ho : s'.objects.of .build = s.objects.of .build) : s'.BuildsNamed selector :=
  fun name b hb => h name b ((find?_congr ho name).symm.trans hb)

theorem nextBuildNumber_congr (ho : s'.objects.of .build = s.objects.of .build) (base : String) :
    s'.nextBuildNumber base = s.nextBuildNumber base := by
  unfold nextBuildNumber
  rw [ho]

theorem Numbered.congr (h : s.Numbered) (ho : s'.objects.of .build = s.objects.of .build) :
    s'.Numbered := by
  have hf := find?_congr ho
  have hn := nextBuildNumber_congr ho
  constructor
  · intro name b hb
    exact h.name_eq (hf name ▸ hb)
  · intro name b hb
    obtain ⟨base, n, he, hlt⟩ := h.given (hf name ▸ hb)
    exact ⟨base, n, he, by rwa [hn]⟩

/-- Builds are stored under the same names as before. -/
def SameNames (s s' : Cluster) : Prop :=
  ∀ name, (s'.find? .build name).isSome = (s.find? .build name).isSome

theorem SameNames.keys_perm (h : SameNames s s') :
    (s'.objects.of .build).keys.Perm (s.objects.of .build).keys := by
  refine (List.perm_ext_iff_of_nodup (Dict.nodup_keys _) (Dict.nodup_keys _)).2 fun name => ?_
  rw [Dict.mem_keys_iff, Dict.mem_keys_iff]
  exact iff_of_eq (congrArg (· = true) (h name))

theorem SameNames.nextBuildNumber_eq (h : SameNames s s') (base : String) :
    s'.nextBuildNumber base = s.nextBuildNumber base := by
  unfold nextBuildNumber
  rw [(h.keys_perm.filter _).length_eq]

theorem SameNames.issued (h : SameNames s s') (hs : s.Issued) : s'.Issued := by
  intro name b' hb'
  obtain ⟨b, hb⟩ := Option.isSome_iff_exists.1 ((h name).symm.trans (Option.isSome_of_eq_some hb'))
  obtain ⟨base, n, he, hlt⟩ := hs name b hb
  exact ⟨base, n, he, by rwa [h.nextBuildNumber_eq]⟩

/-! ## Starting a build -/

/-- A build was started by a build configuration and stored, and no other build changed. -/
structure Started (s s' : Cluster) (bc : BuildConfig) (base : String) (b : Build) : Prop where
  build_eq : b.unstamped = newBuild bc base (s.nextBuildNumber base)
  builds_eq : s'.objects.of .build = (s.objects.of .build).insert b.name b

namespace Started

variable {bc : BuildConfig}

theorem name_eq (h : Started s s' bc base b) :
    b.name = Text.numbered base (s.nextBuildNumber base) := by
  rw [← b.name_unstamped, h.build_eq]
  rfl

theorem spec_eq (h : Started s s' bc base b) : b.spec = (bc.spec : BuildConfigSpec).recipe := by
  rw [← b.spec_unstamped, h.build_eq]
  rfl

theorem labels_eq (h : Started s s' bc base b) : b.labels = bc.labels := by
  rw [← b.labels_unstamped, h.build_eq]
  rfl

theorem phase_eq (h : Started s s' bc base b) : b.phase = .new := by
  have hp : b.unstamped.phase = .new := by
    rw [h.build_eq]
    rfl
  exact hp

/-- Only the builds there are before matter. -/
theorem of_builds_eq {s₀ : Cluster} (h : Started s s' bc base b)
    (h₀ : s.objects.of .build = s₀.objects.of .build) : Started s₀ s' bc base b := by
  obtain ⟨hb, hs⟩ := h
  unfold nextBuildNumber at hb
  rw [h₀] at hb hs
  exact ⟨hb, hs⟩

theorem find?_self (h : Started s s' bc base b) : s'.find? .build b.name = some b := by
  rw [find?_of_insert h.builds_eq, if_pos rfl]

theorem find?_of_ne (h : Started s s' bc base b) (hn : name ≠ b.name) :
    s'.find? .build name = s.find? .build name := by
  rw [find?_of_insert h.builds_eq, if_neg hn]

/-- A build that is started where all names were given before takes the place of no other. -/
theorem find?_of_issued (h : Started s s' bc base b) (hs : s.Issued) :
    s.find? .build b.name = none := by
  rw [h.name_eq]
  exact hs.fresh base

theorem find?_before (h : Started s s' bc base b) (hs : s.Numbered) :
    s.find? .build b.name = none :=
  h.find?_of_issued hs.issued

/-- The name of the build stands beside those there are. -/
theorem keys_perm (h : Started s s' bc base b) (hs : s.Issued) :
    (s'.objects.of .build).keys.Perm (b.name :: (s.objects.of .build).keys) := by
  rw [h.builds_eq]
  exact Dict.keys_insert_perm (h.find?_of_issued hs) b

/-- No number is given again. -/
theorem nextBuildNumber_le (h : Started s s' bc base b) (hs : s.Issued) (base' : String) :
    s.nextBuildNumber base' ≤ s'.nextBuildNumber base' := by
  unfold nextBuildNumber
  rw [((h.keys_perm hs).filter _).length_eq]
  exact Nat.succ_le_succ ((List.sublist_cons_self _ _).filter _).length_le

theorem nextBuildNumber_lt (h : Started s s' bc base b) (hs : s.Issued) :
    s.nextBuildNumber base < s'.nextBuildNumber base := by
  have hb : Text.startsWith (base ++ "-") b.name = true := by
    rw [h.name_eq]
    exact Text.startsWith_numbered _ _
  unfold nextBuildNumber
  rw [((h.keys_perm hs).filter _).length_eq, List.filter_cons_of_pos hb, List.length_cons]
  exact Nat.lt_succ_self _

theorem issued (h : Started s s' bc base b) (hs : s.Issued) : s'.Issued := by
  intro name c hc
  by_cases hn : name = b.name
  · exact ⟨base, s.nextBuildNumber base, hn.trans h.name_eq, h.nextBuildNumber_lt hs⟩
  · rw [h.find?_of_ne hn] at hc
    obtain ⟨base', n, he, hlt⟩ := hs name c hc
    exact ⟨base', n, he, Nat.lt_of_lt_of_le hlt (h.nextBuildNumber_le hs base')⟩

theorem numbered (h : Started s s' bc base b) (hs : s.Numbered) : s'.Numbered := by
  refine ⟨fun {name c} hc => ?_, fun hc => h.issued hs.issued _ _ hc⟩
  by_cases hn : name = b.name
  · subst hn
    rw [h.find?_self] at hc
    cases hc
    rfl
  · rw [h.find?_of_ne hn] at hc
    exact hs.name_eq hc

/-- A selector that does not match the new build matches the same builds as before. -/
theorem matching_eq {selector : String} (h : Started s s' bc base b) (hs : s.Numbered)
    (hb : Labels.satisfies b.labels selector = false) :
    s'.matching .build selector = s.matching .build selector := by
  unfold matching
  rw [h.builds_eq]
  exact Dict.filter_values_insert (h.find?_before hs) hb

/-- The builds of another configuration are counted as before. -/
theorem nextBuildNumber_eq {other : String} (h : Started s s' bc base b) (hs : s.Numbered)
    (hne : other ≠ base) (hstart : Text.startsWith (other ++ "-") base = false) :
    s'.nextBuildNumber other = s.nextBuildNumber other := by
  have hb : ¬ Text.startsWith (other ++ "-") b.name = true := fun hb => by
    rw [h.name_eq] at hb
    rw [Text.startsWith_of_numbered hne hb] at hstart
    cases hstart
  unfold nextBuildNumber
  rw [((h.keys_perm hs.issued).filter _).length_eq, List.filter_cons_of_neg hb]

theorem buildsNamed {selector : String} (h : Started s s' bc base b)
    (hs : s.BuildsNamed selector) : s'.BuildsNamed selector := by
  intro name c hc hselected
  by_cases hn : name = b.name
  · subst hn
    rw [h.find?_self] at hc
    cases hc
    rfl
  · rw [h.find?_of_ne hn] at hc
    exact hs name c hc hselected

end Started

theorem startBuild_eq_ok {op : Operation} (h : s.startBuild base op = (.ok b, s')) :
    ∃ bc, s.find? .buildConfig base = some bc ∧ Started s s' bc base b := by
  unfold startBuild at h
  split at h
  · cases h
  next bc hbc =>
    cases h
    exact ⟨bc, hbc, rfl, rfl⟩

theorem startBuild_eq_error {op : Operation} {e : Failure}
    (h : s.startBuild base op = (.error e, s')) : s' = s := by
  unfold startBuild at h
  split at h <;> cases h
  rfl

/-! ## Moving a build on -/

/-- A build was moved to another phase, and nothing else about the builds changed. -/
structure Moved (s s' : Cluster) (name : String) (b b' : Build) : Prop where
  find?_eq : s.find? .build name = some b
  builds_eq : s'.objects.of .build = (s.objects.of .build).insert name b'
  metadata_eq : b'.unstamped.metadata = b.stored.unstamped.metadata
  spec_eq : b'.spec = b.spec

theorem setBuildPhase_eq_some {phase : BuildPhase} {image : Option String}
    (h : s.setBuildPhase name phase image = some s') :
    ∃ b b', Moved s s' name b b' ∧ b'.phase = phase := by
  obtain ⟨b, hb, rfl⟩ := Option.map_eq_some_iff.1 h
  exact ⟨b, _, ⟨hb, rfl, rfl, rfl⟩, rfl⟩

namespace Moved

variable {b' : Build}

theorem find?_self (h : Moved s s' name b b') : s'.find? .build name = some b' := by
  rw [find?_of_insert h.builds_eq, if_pos rfl]

theorem find?_of_ne (h : Moved s s' name b b') {other : String} (hn : other ≠ name) :
    s'.find? .build other = s.find? .build other := by
  rw [find?_of_insert h.builds_eq, if_neg hn]

theorem name_eq (h : Moved s s' name b b') : b'.name = b.name := by
  have hm : b'.unstamped.metadata.anyName = b.stored.unstamped.metadata.anyName := by
    rw [h.metadata_eq]
  exact hm

theorem labels_eq (h : Moved s s' name b b') : b'.labels = b.labels := by
  have hm : b'.unstamped.metadata.labelSet = b.stored.unstamped.metadata.labelSet := by
    rw [h.metadata_eq]
  exact hm

theorem isSome_find? (h : Moved s s' name b b') (other : String) :
    (s'.find? .build other).isSome = (s.find? .build other).isSome := by
  by_cases hn : other = name
  · subst hn
    rw [h.find?_self, h.find?_eq]
    rfl
  · rw [h.find?_of_ne hn]

theorem sameNames (h : Moved s s' name b b') : SameNames s s' := h.isSome_find?

theorem numbered (h : Moved s s' name b b') (hs : s.Numbered) : s'.Numbered := by
  refine ⟨fun {other c} hc => ?_, fun hc => h.sameNames.issued hs.issued _ _ hc⟩
  by_cases hn : other = name
  · subst hn
    rw [h.find?_self] at hc
    cases hc
    rw [h.name_eq]
    exact hs.name_eq h.find?_eq
  · rw [h.find?_of_ne hn] at hc
    exact hs.name_eq hc

end Moved

/-! ## One change -/

/-- What one event can do to the builds: nothing, or start one that has a property `P`, or move one
    to another phase as `Q` says. -/
inductive BuildChange (s s' : Cluster) (P : Build → Prop) (Q : String → BuildPhase → Prop) : Prop
  | none (h : s'.objects.of .build = s.objects.of .build)
  | started {base : String} {bc : BuildConfig} {b : Build} (h : Started s s' bc base b) (hb : P b)
  | moved {name : String} {b b' : Build} (h : Moved s s' name b b') (hb : Q name b'.phase)

namespace BuildChange

variable {P P' : Build → Prop} {Q : String → BuildPhase → Prop}

theorem mono (hP : ∀ b, P b → P' b) (h : BuildChange s s' P Q) : BuildChange s s' P' Q := by
  cases h with
  | none h => exact .none h
  | started h hb => exact .started h (hP _ hb)
  | moved h hb => exact .moved h hb

/-- Only the builds there are afterwards matter. -/
theorem of_builds_eq {s₁ : Cluster} (h : BuildChange s s' P Q)
    (h₁ : s₁.objects.of .build = s'.objects.of .build) : BuildChange s s₁ P Q := by
  cases h with
  | none h => exact .none (h₁.trans h)
  | started h hb => exact .started ⟨h.build_eq, h₁.trans h.builds_eq⟩ hb
  | moved h hb => exact .moved ⟨h.find?_eq, h₁.trans h.builds_eq, h.metadata_eq, h.spec_eq⟩ hb

theorem numbered (h : BuildChange s s' P Q) (hs : s.Numbered) : s'.Numbered := by
  cases h with
  | none h => exact hs.congr h
  | started h hb => exact h.numbered hs
  | moved h hb => exact h.numbered hs

/-- A build that is there stays there, with the same recipe and labels. -/
theorem exists_find? (h : BuildChange s s' P Q) (hs : s.Numbered)
    (hb : s.find? .build name = some b) :
    ∃ b', s'.find? .build name = some b' ∧ b'.spec = b.spec ∧ b'.labels = b.labels := by
  cases h with
  | none h => exact ⟨b, (find?_congr h name).trans hb, rfl, rfl⟩
  | @started _ _ c h hc =>
    have hn : name ≠ c.name := by
      rintro rfl
      rw [h.find?_before hs] at hb
      cases hb
    exact ⟨b, (h.find?_of_ne hn).trans hb, rfl, rfl⟩
  | @moved other c c' h hc =>
    by_cases hn : name = other
    · subst hn
      rw [h.find?_eq] at hb
      cases hb
      exact ⟨c', h.find?_self, h.spec_eq, h.labels_eq⟩
    · exact ⟨b, (h.find?_of_ne hn).trans hb, rfl, rfl⟩

/-- A build that was not there before has the property. -/
theorem of_new (h : BuildChange s s' P Q) (hn : s.find? .build name = Option.none)
    (hb : s'.find? .build name = some b) : P b := by
  cases h with
  | none h =>
    rw [find?_congr h, hn] at hb
    cases hb
  | @started _ _ c h hc =>
    by_cases he : name = c.name
    · subst he
      rw [h.find?_self] at hb
      cases hb
      exact hc
    · rw [h.find?_of_ne he, hn] at hb
      cases hb
  | moved h hb' =>
    have hs := h.isSome_find? name
    rw [hn, hb] at hs
    cases hs

end BuildChange

end Cluster

end Slipway

import Slipway.Proofs.Cluster.Sources

/-
  Versions on a platform in memory. A call stamps at most one object, with a version that was never
  given before (`version_answer_cases`), so that versions are only counted up (`version_le_answer`,
  `version_le_act`) and no object has one that is still to come (`kept_allVersioned`,
  `AllVersioned.act`).
-/

namespace Slipway

/-- The version of an object is the number `v`. -/
def Resource.HasVersion {k : Kind} (x : Resource k) (v : Nat) : Prop :=
  x.metadata.resourceVersion = some (Text.decimal v)

namespace Cluster

variable {s s' : Cluster} {k : Kind} {name : String} {x : Resource k}

/-- What is found after a call that counts no version has its version from before. -/
def KeepsVersions (s s' : Cluster) : Prop :=
  ∀ k name (x : Resource k), s'.find? k name = some x →
    ∃ y, s.find? k name = some y ∧ x.metadata.resourceVersion = y.metadata.resourceVersion

theorem KeepsVersions.refl (s : Cluster) : KeepsVersions s s := fun _ _ x h => ⟨x, h, rfl⟩

/-- A deletion stamps nothing, nor does waiting for one. -/
theorem keepsVersions_of_deletion {c : Call}
    (hdel : (∃ j n, c = .delete j n) ∨ ∃ j n uid, c = .awaitDeleted j n uid) (s : Cluster) :
    KeepsVersions s (answer c s).2 := by
  intro k name x h
  have hne : ∀ {c'}, c = c' → (∀ j n, c' ≠ .delete j n) → (∀ j n uid, c' ≠ .awaitDeleted j n uid) →
      False := by
    rintro _ rfl hd hw
    rcases hdel with ⟨j, n, h⟩ | ⟨j, n, uid, h⟩
    · exact hd j n h
    · exact hw j n uid h
  cases source_of_find? h with
  | before h => exact ⟨x, h, rfl⟩
  | @marked _ _ y hc hy => exact ⟨y, hy, rfl⟩
  | created r hc => exact (hne hc nofun nofun).elim
  | replaced r hc hy => exact (hne hc nofun nofun).elim
  | started hc hbc =>
    rcases hc with hc | ⟨_, _, hc⟩
    · exact (hne hc nofun nofun).elim
    · exact (hne hc nofun nofun).elim
  | rolledOut hc hdc => exact (hne hc nofun nofun).elim

theorem version_delete (s : Cluster) (k : Kind) (name : String) :
    (s.delete k name).2.version = s.version := by
  unfold delete
  split
  · rfl
  · dsimp only [record]
    split <;> rfl

theorem version_awaitDeleted (s : Cluster) (k : Kind) (name uid : String) :
    (s.awaitDeleted k name uid).version = s.version := by
  unfold awaitDeleted
  dsimp only
  split
  · split <;> rfl
  · rfl

theorem version_startBuild {base : String} {op : Operation} {bc : BuildConfig}
    (h : s.find? .buildConfig base = some bc) :
    (s.startBuild base op).2.version = s.version + 1 := by
  unfold startBuild
  rw [h]
  rfl

theorem version_poll (id : WatchId k) (s : Cluster) : (poll id s).2.version = s.version := by
  unfold poll
  split
  · rfl
  · split <;> rfl

/-- A call counts the version up by one, or it stamps nothing. -/
theorem version_answer_cases (c : Call) (s : Cluster) :
    (answer c s).2.version = s.version + 1 ∨
      (answer c s).2.version = s.version ∧ KeepsVersions s (answer c s).2 := by
  have hstart : ∀ base op, (s.startBuild base op).2.version = s.version + 1 ∨
      (s.startBuild base op).2.version = s.version ∧ KeepsVersions s (s.startBuild base op).2 := by
    intro base op
    unfold startBuild
    split
    · exact .inr ⟨rfl, .refl s⟩
    · exact .inl rfl
  cases c with
  | get | list | watch => exact .inr ⟨rfl, .refl s⟩
  | create k r =>
    show (s.create r).2.version = _ ∨ (s.create r).2.version = _ ∧ KeepsVersions s (s.create r).2
    unfold create
    dsimp only
    split
    · exact .inr ⟨rfl, .refl s⟩
    · exact .inl rfl
  | replace k n r =>
    show (s.replace n r).2.version = _ ∨
      (s.replace n r).2.version = _ ∧ KeepsVersions s (s.replace n r).2
    unfold replace
    split
    · exact .inr ⟨rfl, .refl s⟩
    · split
      · exact .inr ⟨rfl, .refl s⟩
      · exact .inl rfl
  | delete k n =>
    exact .inr ⟨version_delete s k n, keepsVersions_of_deletion (.inl ⟨k, n, rfl⟩) s⟩
  | awaitDeleted k n uid =>
    exact .inr ⟨version_awaitDeleted s k n uid,
      keepsVersions_of_deletion (.inr ⟨k, n, uid, rfl⟩) s⟩
  | instantiateBuild n => exact hstart n _
  | submitBinaryBuild n file content => exact hstart n _
  | rollout n =>
    show (s.rollout n).2.version = _ ∨
      (s.rollout n).2.version = _ ∧ KeepsVersions s (s.rollout n).2
    unfold rollout
    split
    · exact .inr ⟨rfl, .refl s⟩
    · exact .inl rfl

theorem version_le_answer (c : Call) (s : Cluster) : s.version ≤ (answer c s).2.version := by
  rcases version_answer_cases c s with h | ⟨h, -⟩
  · rw [h]
    exact Nat.le_succ _
  · exact Nat.le_of_eq h.symm

theorem version_le_act {a : Act} (h : s.act a = some s') : s.version ≤ s'.version := by
  cases a with
  | insert | injectConflict | terminateGracefully | dropWatches =>
    cases h
    first | exact Nat.le_refl _ | exact Nat.le_succ _
  | setBuildPhase other phase image =>
    obtain ⟨b, -, rfl⟩ := Option.map_eq_some_iff.1 h
    exact Nat.le_succ _

/-- No version is taken back. -/
theorem kept_version_le (n : Nat) :
    Kept (σ := Cluster) (fun _ => True) (fun _ => True) fun s => n ≤ s.version where
  answer c s _ hs := Nat.le_trans hs (version_le_answer c s)
  opened _ _ _ _ _ _ := trivial
  poll id s _ hs := by rwa [show (Platform.poll id s).2.version = s.version from version_poll id s]
  close _ _ _ hs := hs

/-! ## All objects -/

theorem hasVersion_stamp (s : Cluster) (r : Resource k) :
    (s.stamp r).1.HasVersion (s.version + 1) := rfl

/-- Every object has a version that was counted. -/
def AllVersioned (s : Cluster) : Prop :=
  AllObjects (fun _ _ x => ∃ v, x.HasVersion v ∧ v ≤ s.version) s

theorem Source.hasVersion {c : Call} (h : Source c s k name x) (hs : s.AllVersioned) :
    ∃ v, x.HasVersion v ∧ v ≤ s.version + 1 := by
  have hbefore : ∀ {k name} {y : Resource k}, s.find? k name = some y →
      ∃ v, y.HasVersion v ∧ v ≤ s.version + 1 := fun hy =>
    (hs _ _ _ hy).imp fun v hv => ⟨hv.1, Nat.le_succ_of_le hv.2⟩
  cases h with
  | before h => exact hbefore h
  | created r hc => exact ⟨_, hasVersion_stamp s r, Nat.le_refl _⟩
  | replaced r hc hy => exact ⟨_, hasVersion_stamp s _, Nat.le_refl _⟩
  | marked hc hy =>
    obtain ⟨v, hv, hle⟩ := hbefore hy
    exact ⟨v, hv, hle⟩
  | started hc hbc => exact ⟨_, hasVersion_stamp s _, Nat.le_refl _⟩
  | rolledOut hc hdc => exact ⟨_, hasVersion_stamp s _, Nat.le_refl _⟩

theorem AllVersioned.answer (hs : s.AllVersioned) (c : Call) :
    (Cluster.answer c s).2.AllVersioned := by
  intro k name x hx
  rcases version_answer_cases c s with h | ⟨h, hkeeps⟩
  · rw [h]
    exact (source_of_find? hx).hasVersion hs
  · obtain ⟨y, hy, hversion⟩ := hkeeps k name x hx
    obtain ⟨v, hv, hle⟩ := hs k name y hy
    exact ⟨v, hversion.trans hv, h ▸ hle⟩

theorem AllVersioned.congr (hs : s.AllVersioned) (ho : s'.objects = s.objects)
    (hv : s'.version = s.version) : s'.AllVersioned := by
  unfold AllVersioned
  rw [hv]
  exact AllObjects.congr hs ho

theorem kept_allVersioned :
    Kept (σ := Cluster) (fun _ => True) (fun _ => True) AllVersioned where
  answer c _ _ hs := hs.answer c
  opened _ _ _ _ _ _ := trivial
  poll id s _ hs := hs.congr (objects_poll id s) (version_poll id s)
  close _ _ _ hs := hs.congr rfl rfl

theorem AllVersioned.act {a : Act} (hs : s.AllVersioned) (ha : s.act a = some s') :
    s'.AllVersioned := by
  intro k name x hx
  cases source_of_act ha hx with
  | before h =>
    obtain ⟨v, hv, hle⟩ := hs _ _ _ h
    exact ⟨v, hv, Nat.le_trans hle (version_le_act ha)⟩
  | inserted r hact =>
    subst hact
    cases ha
    exact ⟨_, hasVersion_stamp s r, Nat.le_refl _⟩
  | moved hact hb =>
    subst hact
    obtain ⟨b, -, rfl⟩ := Option.map_eq_some_iff.1 ha
    exact ⟨_, hasVersion_stamp s _, Nat.le_refl _⟩

end Cluster

end Slipway

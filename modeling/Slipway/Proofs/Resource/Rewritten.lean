import Slipway.Proofs.Resource.Written

/-
  Objects that are read and then written again. All times that are read can be
  (`Resource.isProper_of_read?`), and it makes no difference to what is written whether times have a
  fraction of a second (`Resource.toJson_stored`). So what was read of any JSON is written in a form
  that is read and written as itself (`Resource.read?_toJson_of_read?`), though this may be another
  form than the one it was read of. An object with times in whole seconds is read as itself
  (`Resource.read?_toJson_of_isWhole`). A type that is not known is read as another one, and is
  written as that.
-/

namespace Slipway

open Json

/-! ## What is read -/

namespace Kind

variable {k : Kind} {field : Option Json}

theorem isProper_of_readMetadata? {m : Metadata} (h : k.readMetadata? field = some m) :
    ∀ t ∈ m.times, t.IsProper := by
  unfold readMetadata? at h
  cases hgroup : k.group? with
  | none =>
    simp only [hgroup] at h
    exact Metadata.rereads.isProper_lenient rfl h
  | some group =>
    simp only [hgroup] at h
    cases field with
    | none => cases h
    | some j => exact Metadata.isProper_of_read? h

theorem isProper_of_readSpec? {s : k.Spec} (h : k.readSpec? field = some s) :
    ∀ t ∈ k.specTimes s, t.IsProper := by
  cases k with
  | deploymentConfig =>
    cases field with
    | none => cases h
    | some j => exact DeploymentSpec.rereads.isProper j s h
  | pod => exact PodSpec.rereads.isProper_optional h
  | _ =>
    intro t ht
    cases ht

end Kind

theorem Resource.isProper_of_read? {k : Kind} {j : Json} {r : Resource k}
    (h : read? k j = some r) : ∀ t ∈ r.times, t.IsProper := by
  unfold read? at h
  obtain ⟨f, -, h⟩ := Option.bind_eq_some_iff.1 h
  obtain ⟨metadata, hmetadata, h⟩ := Option.bind_eq_some_iff.1 h
  obtain ⟨spec, hspec, h⟩ := Option.bind_eq_some_iff.1 h
  obtain ⟨_, -, h⟩ := Option.bind_eq_some_iff.1 h
  cases h
  exact List.forall_mem_append.2
    ⟨Kind.isProper_of_readMetadata? hmetadata, Kind.isProper_of_readSpec? hspec⟩

/-! ## What is kept -/

namespace Kind

variable {k : Kind} {s : k.Spec}

theorem specMember_storedSpec (h : ∀ t ∈ k.specTimes s, t.IsProper) :
    k.specMember (k.storedSpec s) = k.specMember s := by
  cases k with
  | deploymentConfig =>
    exact congrArg (Json.member "spec") (DeploymentSpec.rereads.write_stored s h)
  | pod => exact PodSpec.rereads.memberOf_stored "spec" h
  | _ => rfl

theorem storedSpec_eq_self (h : ∀ t ∈ k.specTimes s, t.IsWhole) : k.storedSpec s = s := by
  cases k with
  | deploymentConfig => exact DeploymentSpec.rereads.stored_eq_self s h
  | pod => exact PodSpec.rereads.map_stored_eq_self h
  | _ => rfl

end Kind

namespace Resource

variable {k : Kind} {r : Resource k} {j : Json}

theorem toJson_stored (h : ∀ t ∈ r.times, t.IsProper) : r.stored.toJson = r.toJson := by
  obtain ⟨hmetadata, hspec⟩ := List.forall_mem_append.1 h
  simp only [toJson, stored, Metadata.toJson_stored hmetadata, Kind.specMember_storedSpec hspec]

theorem stored_eq_self (h : ∀ t ∈ r.times, t.IsWhole) : r.stored = r := by
  obtain ⟨hmetadata, hspec⟩ := List.forall_mem_append.1 h
  rw [stored, Metadata.stored_eq_self hmetadata, Kind.storedSpec_eq_self hspec]

/-- An object whose times are in whole seconds is read as it was written. -/
theorem read?_toJson_of_isWhole (h : ∀ t ∈ r.times, t.IsWhole) : read? k r.toJson = some r := by
  rw [read?_toJson fun t ht => (h t ht).isProper, stored_eq_self h]

/-- What was read is written in a form that does not change again. -/
theorem read?_toJson_of_read? (h : read? k j = some r) :
    read? k r.toJson = some r.stored ∧ r.stored.toJson = r.toJson :=
  ⟨read?_toJson (isProper_of_read? h), toJson_stored (isProper_of_read? h)⟩

end Resource

/-! ## Names that are not known -/

theorem SourceType.read?_other {s : String}
    (h : s ∉ [SourceType.git, SourceType.dockerfile, SourceType.binary].map SourceType.name) :
    SourceType.read? (.string s) = some .other := by
  show some (ofName s) = _
  unfold ofName
  split
  next => exact absurd (by decide) h
  next => exact absurd (by decide) h
  next => exact absurd (by decide) h
  next => rfl

theorem StrategyType.read?_other {s : String}
    (h : s ∉ [StrategyType.docker, StrategyType.source].map StrategyType.name) :
    StrategyType.read? (.string s) = some .other := by
  show some (ofName s) = _
  unfold ofName
  split
  next => exact absurd (by decide) h
  next => exact absurd (by decide) h
  next => rfl

theorem TriggerType.read?_other {s : String}
    (h : s ∉ [TriggerType.configChange, TriggerType.imageChange].map TriggerType.name) :
    TriggerType.read? (.string s) = some .other := by
  show some (ofName s) = _
  unfold ofName
  split
  next => exact absurd (by decide) h
  next => exact absurd (by decide) h
  next => rfl

end Slipway

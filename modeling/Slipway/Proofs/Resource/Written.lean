import Slipway.Proofs.Resource.Schema
import Slipway.Resource

/-
  Objects that are written and read again. Every record of an object is read as it was written
  (`readsAs`); one with times is so apart from them, because they are written in whole seconds, and
  read so (`rereads`). Pods, containers and services write what is looked into behind all the rest,
  and no name is written twice. An object is told by its fields, in whatever order they stand and
  whatever else stands there (`Resource.read?_object`), and so it is read as it was written too
  (`Resource.read?_toJson`). All this is for times that can be (`Timestamp.IsProper`); where none is
  told, nothing is asked for.
-/

namespace Slipway

open Json

@[simp] theorem SourceType.readsAs (t : SourceType) : ReadsAs read? t.toJson t where
  told := rfl
  read_eq := by cases t <;> rfl

@[simp] theorem StrategyType.readsAs (t : StrategyType) : ReadsAs read? t.toJson t where
  told := rfl
  read_eq := by cases t <;> rfl

@[simp] theorem BuildPhase.readsAs (p : BuildPhase) : ReadsAs read? p.toJson p where
  told := rfl
  read_eq := by cases p <;> rfl

@[simp] theorem TriggerType.readsAs (t : TriggerType) : ReadsAs read? t.toJson t where
  told := rfl
  read_eq := by cases t <;> rfl

@[simp] theorem GitSource.readsAs (s : GitSource) : ReadsAs read? s.toJson s where
  told := rfl
  read_eq := by simp [read?, toJson, required]

@[simp] theorem BinarySource.readsAs (s : BinarySource) : ReadsAs read? s.toJson s where
  told := rfl
  read_eq := by simp [read?, toJson]

@[simp] theorem BuildSource.readsAs (s : BuildSource) : ReadsAs read? s.toJson s where
  told := rfl
  read_eq := by simp [read?, toJson]

@[simp] theorem DockerStrategy.readsAs (s : DockerStrategy) : ReadsAs read? s.toJson s where
  told := rfl
  read_eq := by simp [read?, toJson]

@[simp] theorem SourceStrategy.readsAs (s : SourceStrategy) : ReadsAs read? s.toJson s where
  told := rfl
  read_eq := by simp [read?, toJson, s.image.readsAs.read_eq]

@[simp] theorem BuildStrategy.readsAs (s : BuildStrategy) : ReadsAs read? s.toJson s where
  told := rfl
  read_eq := by simp [read?, toJson]

@[simp] theorem BuildOutput.readsAs (o : BuildOutput) : ReadsAs read? o.toJson o where
  told := rfl
  read_eq := by simp [read?, toJson]

theorem BuildRecipe.readsAs (r : BuildRecipe) : ReadsAs read? r.toJson r where
  told := rfl
  read_eq := by
    simp [read?, toJson, Dict.lookup_cons_ite, r.source.readsAs.read_eq,
      r.strategy.readsAs.read_eq, r.output.readsAs.read_eq]

theorem BuildConfigSpec.readsAs (s : BuildConfigSpec) : ReadsAs read? s.toJson s where
  told := rfl
  read_eq := by
    simp [read?, toJson, s.recipe.source.readsAs.read_eq, s.recipe.strategy.readsAs.read_eq,
      s.recipe.output.readsAs.read_eq]

@[simp] theorem BuildStatus.readsAs (s : BuildStatus) : ReadsAs read? s.toJson s where
  told := rfl
  read_eq := by
    simp [read?, toJson, s.phase.readsAs.read_eq]

theorem ImageStreamSpec.readsAs_lookup (b : Bool) :
    ReadsAs readLookup? (object [("local", bool b)]) b := ⟨rfl, rfl⟩

theorem ImageStreamSpec.readsAs (s : ImageStreamSpec) : ReadsAs read? s.toJson s where
  told := rfl
  read_eq := by simp [read?, toJson, readsAs_lookup]

@[simp] theorem ImageStreamStatus.readsAs (s : ImageStreamStatus) : ReadsAs read? s.toJson s where
  told := rfl
  read_eq := by simp [read?, toJson]

/-! ## Pods and deployments -/

@[simp] theorem ContainerPort.readsAs (p : ContainerPort) : ReadsAs read? p.toJson p where
  told := rfl
  read_eq := by simp [read?, toJson]

namespace Container

/-- The names of the fields that are looked into, and of the one that only a container has which is
    added later. -/
def ownNames : List String := ["args", "env", "image", "name", "ports", "targetContainerName"]

theorem reread_containerFields : Schema.containerFields.Reread :=
  Schema.containerFields.reread (by decide)

theorem containerFields_apart : ∀ name ∈ Schema.containerFields.names, name ∉ ownNames := by decide

theorem memberValue?_others (c : Container) : ∀ name ∈ ownNames,
    memberValue? (Schema.containerFields.members c.others) name = none := fun name h =>
  Schema.containerFields.memberValue?_members c.others fun hn => containerFields_apart name hn h

/-- A container is told by its fields, whatever else is written behind them. -/
theorem ofFields?_append (c : Container) (ms : List Member)
    (hms : ∀ name, name ≠ "targetContainerName" → memberValue? ms name = none) :
    ofFields? (memberValue? (c.members ++ ms)) = some c := by
  have hothers : Schema.containerFields.read? (memberValue? (c.members ++ ms)) =
      some c.others := by
    rw [members, List.append_assoc]
    refine Schema.Fields.read?_append_of_isTimeless reread_containerFields (by decide) _
      fun name hname => ?_
    have hne := containerFields_apart name hname
    simp only [ownNames, List.mem_cons, List.not_mem_nil, or_false, not_or] at hne
    simp [ownMembers, hne, hms]
  have hown := c.memberValue?_others
  simp only [ownNames, List.forall_mem_cons] at hown
  simp only [ofFields?, hothers]
  simp [members, ownMembers, hown, hms]

@[simp] theorem readsAs (c : Container) : ReadsAs read? c.toJson c where
  told := rfl
  read_eq := by
    have hread := c.ofFields?_append [] fun _ _ => rfl
    rwa [List.append_nil] at hread

end Container

@[simp] theorem EphemeralContainer.readsAs (c : EphemeralContainer) : ReadsAs read? c.toJson c where
  told := rfl
  read_eq := by
    have hcontainer := c.container.ofFields?_append
      [memberOf "targetContainerName" .string c.targetContainerName] fun name hne => by simp [hne]
    have hown := c.container.memberValue?_others
    simp only [Container.ownNames, List.forall_mem_cons] at hown
    simp only [read?, toJson, named?_ofMembers, Option.bind_eq_bind, Option.bind_some, hcontainer]
    simp [Container.members, Container.ownMembers, hown]

namespace PodSpec

/-- The names of the fields that are looked into. -/
def ownNames : List String := ["containers", "ephemeralContainers", "initContainers",
  "nodeSelector", "restartPolicy", "serviceAccountName"]

theorem reread_podFields : Schema.podFields.Reread :=
  Schema.podFields.reread (by decide)

theorem podFields_apart : ∀ name ∈ Schema.podFields.names, name ∉ ownNames := by decide

theorem memberValue?_others (s : PodSpec) : ∀ name ∈ ownNames,
    memberValue? (Schema.podFields.members s.others) name = none := fun name h =>
  Schema.podFields.memberValue?_members s.others fun hn => podFields_apart name hn h

/-- The times that the volumes of a pod tell, where they are made for it. -/
def times (s : PodSpec) : List Timestamp := Schema.podFields.times s.others

theorem rereads : Rereads read? toJson stored times where
  readsAs s htimes := by
    have hothers : Schema.podFields.read?
        (memberValue? (Schema.podFields.members s.others ++ s.ownMembers)) =
          some (Schema.podFields.stored s.others) := by
      refine Schema.Fields.read?_append reread_podFields htimes fun name hname => ?_
      have hne := podFields_apart name hname
      simp only [ownNames, List.mem_cons, List.not_mem_nil, or_false, not_or] at hne
      simp [ownMembers, hne]
    have hown := s.memberValue?_others
    simp only [ownNames, List.forall_mem_cons] at hown
    refine ⟨rfl, ?_⟩
    simp only [read?, toJson, named?_ofMembers, Option.bind_eq_bind, Option.bind_some, hothers]
    simp [ownMembers, hown, stored]
  isProper j s h := by
    unfold read? at h
    obtain ⟨f, -, h⟩ := Option.bind_eq_some_iff.1 h
    iterate 6 obtain ⟨_, -, h⟩ := Option.bind_eq_some_iff.1 h
    obtain ⟨others, hothers, h⟩ := Option.bind_eq_some_iff.1 h
    cases h
    exact reread_podFields.isProper f others hothers
  write_stored s htimes := by
    have hothers := reread_podFields.members_stored s.others htimes
    simp only [toJson, stored, ownMembers, hothers]
  stored_eq_self s htimes := by
    rw [stored, reread_podFields.stored_eq_self s.others htimes]

end PodSpec

@[simp] theorem PodStatus.readsAs (s : PodStatus) : ReadsAs read? s.toJson s where
  told := rfl
  read_eq := by simp [read?, toJson]

namespace PodTemplate

/-- The times that the pods tell. -/
def times (t : PodTemplate) : List Timestamp :=
  t.metadata.toList.flatMap Metadata.times ++ t.spec.toList.flatMap PodSpec.times

theorem rereads : Rereads read? toJson stored times where
  readsAs t htimes := by
    obtain ⟨hmetadata, hspec⟩ := List.forall_mem_append.1 htimes
    have hmetadata := Metadata.rereads.optional_map hmetadata
    have hspec := PodSpec.rereads.optional_map hspec
    exact ⟨rfl, by simp [read?, toJson, hmetadata, hspec, stored]⟩
  isProper j t h := by
    unfold read? at h
    obtain ⟨f, -, h⟩ := Option.bind_eq_some_iff.1 h
    obtain ⟨metadata, hmetadata, h⟩ := Option.bind_eq_some_iff.1 h
    obtain ⟨spec, hspec, h⟩ := Option.bind_eq_some_iff.1 h
    cases h
    exact List.forall_mem_append.2 ⟨Metadata.rereads.isProper_optional hmetadata,
      PodSpec.rereads.isProper_optional hspec⟩
  write_stored t htimes := by
    obtain ⟨hmetadata, hspec⟩ := List.forall_mem_append.1 htimes
    have hmetadata := Metadata.rereads.memberOf_stored "metadata" hmetadata
    have hspec := PodSpec.rereads.memberOf_stored "spec" hspec
    simp only [toJson, stored, hmetadata, hspec]
  stored_eq_self t htimes := by
    obtain ⟨hmetadata, hspec⟩ := List.forall_mem_append.1 htimes
    rw [stored, Metadata.rereads.map_stored_eq_self hmetadata,
      PodSpec.rereads.map_stored_eq_self hspec]

end PodTemplate

@[simp] theorem ImageChange.readsAs (c : ImageChange) : ReadsAs read? c.toJson c where
  told := rfl
  read_eq := by
    simp [read?, toJson, Dict.lookup_cons_ite, c.image.readsAs.read_eq]

@[simp] theorem Trigger.readsAs (t : Trigger) : ReadsAs read? t.toJson t where
  told := rfl
  read_eq := by simp [read?, toJson, t.triggerType.readsAs.read_eq]

namespace DeploymentSpec

/-- The times that the template of the pods tells. -/
def times (s : DeploymentSpec) : List Timestamp := s.template.toList.flatMap PodTemplate.times

theorem rereads : Rereads read? toJson stored times where
  readsAs s htimes := by
    have htemplate := PodTemplate.rereads.optional_map htimes
    exact ⟨rfl, by simp [read?, toJson, htemplate, stored]⟩
  isProper j s h := by
    unfold read? at h
    obtain ⟨f, -, h⟩ := Option.bind_eq_some_iff.1 h
    iterate 3 obtain ⟨_, -, h⟩ := Option.bind_eq_some_iff.1 h
    obtain ⟨template, htemplate, h⟩ := Option.bind_eq_some_iff.1 h
    cases h
    exact PodTemplate.rereads.isProper_optional htemplate
  write_stored s htimes := by
    have htemplate := PodTemplate.rereads.memberOf_stored "template" htimes
    simp only [toJson, stored, htemplate]
  stored_eq_self s htimes := by
    rw [stored, PodTemplate.rereads.map_stored_eq_self htimes]

end DeploymentSpec

@[simp] theorem DeploymentStatus.readsAs (s : DeploymentStatus) : ReadsAs read? s.toJson s where
  told := rfl
  read_eq := by simp [read?, toJson, Dict.lookup_cons_ite]

/-! ## Services and routes -/

@[simp] theorem ServicePort.readsAs (p : ServicePort) : ReadsAs read? p.toJson p where
  told := rfl
  read_eq := by simp [read?, toJson]

namespace ServiceSpec

/-- The names of the fields that are looked into. -/
def ownNames : List String := ["ports", "selector", "type"]

theorem serviceFields_apart : ∀ name ∈ Schema.serviceFields.names, name ∉ ownNames := by decide

theorem memberValue?_others (s : ServiceSpec) : ∀ name ∈ ownNames,
    memberValue? (Schema.serviceFields.members s.others) name = none := fun name h =>
  Schema.serviceFields.memberValue?_members s.others fun hn => serviceFields_apart name hn h

@[simp] theorem readsAs (s : ServiceSpec) : ReadsAs read? s.toJson s where
  told := rfl
  read_eq := by
    have hothers : Schema.serviceFields.read?
        (memberValue? (Schema.serviceFields.members s.others ++ s.ownMembers)) =
          some s.others := by
      refine Schema.Fields.read?_append_of_isTimeless
        (Schema.serviceFields.reread (by decide)) (by decide) _ fun name hname => ?_
      have hne := serviceFields_apart name hname
      simp only [ownNames, List.mem_cons, List.not_mem_nil, or_false, not_or] at hne
      simp [ownMembers, hne]
    have hown := s.memberValue?_others
    simp only [ownNames, List.forall_mem_cons] at hown
    simp only [read?, toJson, named?_ofMembers, Option.bind_eq_bind, Option.bind_some, hothers]
    simp [ownMembers, hown]

end ServiceSpec

@[simp] theorem RouteTarget.readsAs (t : RouteTarget) : ReadsAs read? t.toJson t where
  told := rfl
  read_eq := by simp [read?, toJson, Dict.lookup_cons_ite]

theorem RouteSpec.readsAs_port (p : PortReference) :
    ReadsAs readPort? (object [("targetPort", p.toJson)]) p where
  told := rfl
  read_eq := by simp [readPort?, Dict.lookup_cons_ite, p.readsAs.read_eq]

theorem RouteSpec.readsAs (s : RouteSpec) : ReadsAs read? s.toJson s where
  told := rfl
  read_eq := by simp [read?, toJson, readsAs_port, s.target.readsAs.read_eq]

/-! ## Objects -/

namespace Kind

/-- The times that a spec tells. -/
def specTimes : (k : Kind) → k.Spec → List Timestamp
  | .deploymentConfig, (s : DeploymentSpec) => s.times
  | .pod, (s : Option PodSpec) => s.toList.flatMap PodSpec.times
  | .buildConfig, _ | .build, _ | .imageStream, _ | .route, _ | .service, _ => []

variable {k : Kind} {e : String × Json}

theorem name_of_mem_specMember {s : k.Spec} (h : e ∈ k.specMember s) : e.1 = "spec" := by
  cases k with
  | service | pod => exact name_of_mem_memberOf h
  | _ => exact name_of_mem_member h

theorem name_of_mem_statusMember {s : k.Status} (h : e ∈ k.statusMember s) : e.1 = "status" := by
  cases k with
  | buildConfig | route | service => cases h
  | _ => exact name_of_mem_memberOf h

theorem readFields?_object {fields : List (String × Json)}
    (hversion : fields.lookup "apiVersion" = some (.string k.apiVersion))
    (hkind : fields.lookup "kind" = some (.string k.name)) :
    k.readFields? (.object fields) = some fun name => fields.lookup name := by
  unfold readFields?
  cases k.group? with
  | none => simp [hversion, hkind]
  | some group => rfl

theorem readMetadata?_some {j : Json} (h : j.isNull = false) :
    k.readMetadata? (some j) = Metadata.read? j := by
  unfold readMetadata?
  cases k.group? with
  | none => exact lenient_some h
  | some group => rfl

end Kind

namespace Resource

variable {k : Kind} {r : Resource k}

/-- The times that an object tells. -/
def times (r : Resource k) : List Timestamp := r.metadata.times ++ k.specTimes r.spec

/-- The fields that an object is written with. -/
def members (r : Resource k) : List Member := [
  member "apiVersion" (.string k.apiVersion),
  member "kind" (.string k.name),
  member "metadata" r.metadata.toJson,
  k.specMember r.spec,
  k.statusMember r.status]

theorem memberValue?_apiVersion (r : Resource k) :
    memberValue? r.members "apiVersion" = some (.string k.apiVersion) := by
  simp [members]

theorem memberValue?_kind (r : Resource k) :
    memberValue? r.members "kind" = some (.string k.name) := by
  simp [members]

theorem memberValue?_metadata (r : Resource k) :
    memberValue? r.members "metadata" = some r.metadata.toJson := by
  simp [members]

section Optional

variable {α : Type} {read : Json → Option α} {write : α → Json} {ms : List Member} {name : String}

/-- A field that may be left out is written with what is there for it. -/
theorem memberValue?_first (value : Option α) (hms : memberValue? ms name = none) :
    memberValue? (memberOf name write value :: ms) name = value.map write := by
  simp [hms]

/-- What is read of a field that may be left out is what it was written for. -/
theorem optional_members (h : ∀ a, ReadsAs read (write a) a) (value : Option α)
    (hms : memberValue? ms name = none) :
    Json.optional read (memberValue? (memberOf name write value :: ms) name) = some value := by
  rw [memberValue?_first value hms, optional_map_self h]

end Optional

theorem readSpec?_members (h : ∀ t ∈ k.specTimes r.spec, t.IsProper) :
    k.readSpec? (memberValue? r.members "spec") = some (k.storedSpec r.spec) := by
  have hvalue : memberValue? r.members "spec" =
      memberValue? [k.specMember r.spec, k.statusMember r.status] "spec" := by
    simp [members]
  have hstatus : memberValue? [k.statusMember r.status] "spec" = none :=
    memberValue?_cons_of_ne (fun e he => by rw [Kind.name_of_mem_statusMember he]; decide) []
  rw [hvalue]
  cases k with
  | buildConfig => exact (BuildConfigSpec.readsAs r.spec).read_eq
  | build => exact (BuildRecipe.readsAs r.spec).read_eq
  | imageStream => exact (ImageStreamSpec.readsAs r.spec).read_eq
  | deploymentConfig => exact (DeploymentSpec.rereads.readsAs r.spec h).read_eq
  | route => exact (RouteSpec.readsAs r.spec).read_eq
  | service => exact optional_members ServiceSpec.readsAs r.spec hstatus
  | pod =>
    exact (congrArg (Json.optional PodSpec.read?) (memberValue?_first r.spec hstatus)).trans
      (PodSpec.rereads.optional_map h)

theorem readStatus?_members (r : Resource k) :
    k.readStatus? (memberValue? r.members "status") = some r.status := by
  have hspec : ∀ e ∈ k.specMember r.spec, "status" ≠ e.1 := fun e he => by
    rw [Kind.name_of_mem_specMember he]
    decide
  have hvalue : memberValue? r.members "status" =
      memberValue? [k.statusMember r.status] "status" := by
    simp [members, memberValue?_cons_of_ne hspec]
  rw [hvalue]
  cases k with
  | build => exact optional_members BuildStatus.readsAs r.status rfl
  | imageStream => exact optional_members ImageStreamStatus.readsAs r.status rfl
  | deploymentConfig => exact optional_members DeploymentStatus.readsAs r.status rfl
  | pod => exact optional_members PodStatus.readsAs r.status rfl
  | buildConfig | route | service => rfl

/-- An object is read by its fields. -/
theorem read?_object {fields : List (String × Json)} {j : Json} {metadata : Metadata}
    {spec : k.Spec} {status : k.Status}
    (hversion : fields.lookup "apiVersion" = some (.string k.apiVersion))
    (hkind : fields.lookup "kind" = some (.string k.name))
    (hmetadata : fields.lookup "metadata" = some j) (hread : ReadsAs Metadata.read? j metadata)
    (hspec : k.readSpec? (fields.lookup "spec") = some spec)
    (hstatus : k.readStatus? (fields.lookup "status") = some status) :
    read? k (.object fields) = some ⟨metadata, spec, status⟩ := by
  unfold read?
  rw [Kind.readFields?_object hversion hkind, Option.bind_eq_bind, Option.bind_some]
  dsimp only
  rw [hmetadata, Kind.readMetadata?_some hread.told, hread.read_eq, hspec, hstatus]
  rfl

theorem read?_toJson (h : ∀ t ∈ r.times, t.IsProper) : read? k r.toJson = some r.stored := by
  obtain ⟨hmetadata, hspec⟩ := List.forall_mem_append.1 h
  exact read?_object (memberValue?_apiVersion r) (memberValue?_kind r) (memberValue?_metadata r)
    (Metadata.readsAs hmetadata) (readSpec?_members hspec) (readStatus?_members r)

end Resource

end Slipway

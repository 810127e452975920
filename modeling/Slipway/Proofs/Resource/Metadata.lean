import Slipway.Proofs.Json.Fields
import Slipway.Proofs.Time.Written
import Slipway.Resource.Metadata

/-
  Metadata that are written and read again. They are read as they were written apart from their
  times, which are written in whole seconds, and read so (`Metadata.readsAs`); it makes no
  difference to what is written (`Metadata.toJson_stored`). This is for times that can be, as all
  are that are read (`Metadata.isProper_of_read?`).
-/

namespace Slipway

open Json

/-! ## What is written -/

theorem Timestamp.readsAs {t : Timestamp} (h : t.IsProper) :
    ReadsAs read? t.toJson t.wholeSeconds where
  told := rfl
  read_eq := by rw [read?, toJson, string?_string, Option.bind_some, parse?_text h]

@[simp] theorem OwnerReference.readsAs (r : OwnerReference) : ReadsAs read? r.toJson r where
  told := rfl
  read_eq := by simp [read?, toJson]

namespace ManagedFields

/-- As the platform keeps them: times in whole seconds. -/
def stored (m : ManagedFields) : ManagedFields := { m with time := m.time.map .wholeSeconds }

theorem readsAs {m : ManagedFields} (h : ∀ t ∈ m.time, t.IsProper) :
    ReadsAs read? m.toJson m.stored where
  told := rfl
  read_eq := by
    have htime := optional_map fun t ht => Timestamp.readsAs (h t ht)
    simp [read?, toJson, htime, stored]

end ManagedFields

namespace Metadata

/-- The times that metadata tell. -/
def times (m : Metadata) : List Timestamp :=
  m.creationTimestamp.toList ++ m.deletionTimestamp.toList ++
    m.managedFields.toList.flatMap fun fs => fs.filterMap ManagedFields.time

theorem forall_times_iff {p : Timestamp → Prop} {m : Metadata} : (∀ t ∈ m.times, p t) ↔
    (∀ t ∈ m.creationTimestamp, p t) ∧ (∀ t ∈ m.deletionTimestamp, p t) ∧
      ∀ fs ∈ m.managedFields, ∀ f ∈ fs, ∀ t ∈ f.time, p t := by
  simp only [times, List.forall_mem_append, List.forall_mem_flatMap, Option.mem_toList,
    Option.mem_def, List.forall_mem_filterMap, and_assoc]

theorem readsAs {m : Metadata} (h : ∀ t ∈ m.times, t.IsProper) :
    ReadsAs read? m.toJson m.stored where
  told := rfl
  read_eq := by
    obtain ⟨hcreation, hdeletion, hmanaged⟩ := forall_times_iff.1 h
    have hcreation := optional_map fun t ht => Timestamp.readsAs (hcreation t ht)
    have hdeletion := optional_map fun t ht => Timestamp.readsAs (hdeletion t ht)
    have hmanaged := optional_map fun fs hfs =>
      readsAs_map fun f hf => ManagedFields.readsAs (hmanaged fs hfs f hf)
    -- the fields are read one by one, because there are many of them
    rw [read?, toJson, named?_ofMembers, Option.bind_eq_bind, Option.bind_some]
    refine Option.bind_eq_some_iff.2 ⟨m.annotations, by simp, ?_⟩
    refine Option.bind_eq_some_iff.2 ⟨_, by simpa using hcreation, ?_⟩
    refine Option.bind_eq_some_iff.2 ⟨m.deletionGracePeriodSeconds, by simp, ?_⟩
    refine Option.bind_eq_some_iff.2 ⟨_, by simpa using hdeletion, ?_⟩
    refine Option.bind_eq_some_iff.2 ⟨m.finalizers, by simp, ?_⟩
    refine Option.bind_eq_some_iff.2 ⟨m.generateName, by simp, ?_⟩
    refine Option.bind_eq_some_iff.2 ⟨m.generation, by simp, ?_⟩
    refine Option.bind_eq_some_iff.2 ⟨m.labels, by simp, ?_⟩
    refine Option.bind_eq_some_iff.2 ⟨_, by simpa using hmanaged, ?_⟩
    refine Option.bind_eq_some_iff.2 ⟨m.name, by simp, ?_⟩
    refine Option.bind_eq_some_iff.2 ⟨m.inNamespace, by simp, ?_⟩
    refine Option.bind_eq_some_iff.2 ⟨m.ownerReferences, by simp, ?_⟩
    refine Option.bind_eq_some_iff.2 ⟨m.resourceVersion, by simp, ?_⟩
    refine Option.bind_eq_some_iff.2 ⟨m.selfLink, by simp, ?_⟩
    refine Option.bind_eq_some_iff.2 ⟨m.uid, by simp, ?_⟩
    rfl

end Metadata

/-! ## What is read -/

theorem Timestamp.isProper_of_read? {j : Json} {t : Timestamp} (h : read? j = some t) :
    t.IsProper := by
  obtain ⟨s, -, hs⟩ := Option.bind_eq_some_iff.1 h
  exact isProper_of_parse? hs

theorem Timestamp.isProper_of_optional {field : Option Json} {value : Option Timestamp}
    (h : Json.optional read? field = some value) : ∀ t ∈ value, t.IsProper := by
  intro t ht
  obtain ⟨j, hj⟩ := exists_of_optional h ht
  exact isProper_of_read? hj

theorem ManagedFields.isProper_of_read? {j : Json} {m : ManagedFields} (h : read? j = some m) :
    ∀ t ∈ m.time, t.IsProper := by
  simp only [read?, Option.bind_eq_bind, Option.bind_eq_some_iff] at h
  obtain ⟨f, -, _, -, _, -, _, -, _, -, _, -, _, -, time, htime, h⟩ := h
  cases h
  exact Timestamp.isProper_of_optional htime

theorem Metadata.isProper_of_read? {j : Json} {m : Metadata} (h : read? j = some m) :
    ∀ t ∈ m.times, t.IsProper := by
  unfold read? at h
  obtain ⟨f, -, h⟩ := Option.bind_eq_some_iff.1 h
  obtain ⟨_, -, h⟩ := Option.bind_eq_some_iff.1 h
  obtain ⟨creation, hcreation, h⟩ := Option.bind_eq_some_iff.1 h
  obtain ⟨_, -, h⟩ := Option.bind_eq_some_iff.1 h
  obtain ⟨deletion, hdeletion, h⟩ := Option.bind_eq_some_iff.1 h
  iterate 4 obtain ⟨_, -, h⟩ := Option.bind_eq_some_iff.1 h
  obtain ⟨managed, hmanaged, h⟩ := Option.bind_eq_some_iff.1 h
  iterate 6 obtain ⟨_, -, h⟩ := Option.bind_eq_some_iff.1 h
  cases h
  refine forall_times_iff.2 ⟨Timestamp.isProper_of_optional hcreation,
    Timestamp.isProper_of_optional hdeletion, fun fs hfs m hm => ?_⟩
  obtain ⟨j, hj⟩ := exists_of_optional hmanaged hfs
  obtain ⟨j', hj'⟩ := exists_of_listOf? hj hm
  exact ManagedFields.isProper_of_read? hj'

/-! ## What is kept -/

theorem Timestamp.toJson_wholeSeconds {t : Timestamp} (h : t.IsProper) :
    t.wholeSeconds.toJson = t.toJson := by
  rw [toJson, text_wholeSeconds h]
  rfl

namespace ManagedFields

variable {m : ManagedFields}

theorem toJson_stored (h : ∀ t ∈ m.time, t.IsProper) : m.stored.toJson = m.toJson := by
  have htime := memberOf_map "time" fun t ht => Timestamp.toJson_wholeSeconds (h t ht)
  simp only [toJson, stored, htime]

theorem stored_eq_self (h : ∀ t ∈ m.time, t.IsWhole) : m.stored = m := by
  rw [stored, map_eq_self fun t ht => (h t ht).wholeSeconds_eq]

end ManagedFields

namespace Metadata

variable {m : Metadata}

theorem stored_eq (m : Metadata) : m.stored =
    { m with
      creationTimestamp := m.creationTimestamp.map .wholeSeconds
      deletionTimestamp := m.deletionTimestamp.map .wholeSeconds
      managedFields := m.managedFields.map (List.map ManagedFields.stored) } := rfl

theorem toJson_stored (h : ∀ t ∈ m.times, t.IsProper) : m.stored.toJson = m.toJson := by
  obtain ⟨hcreation, hdeletion, hmanaged⟩ := forall_times_iff.1 h
  have hcreation := memberOf_map "creationTimestamp" fun t ht =>
    Timestamp.toJson_wholeSeconds (hcreation t ht)
  have hdeletion := memberOf_map "deletionTimestamp" fun t ht =>
    Timestamp.toJson_wholeSeconds (hdeletion t ht)
  have hmanaged := memberOf_map "managedFields" fun fs hfs =>
    ofList_map fun f hf => ManagedFields.toJson_stored (hmanaged fs hfs f hf)
  simp only [stored_eq, toJson, hcreation, hdeletion, hmanaged]

theorem stored_eq_self (h : ∀ t ∈ m.times, t.IsWhole) : m.stored = m := by
  obtain ⟨hcreation, hdeletion, hmanaged⟩ := forall_times_iff.1 h
  have hcreation := map_eq_self fun t ht => (hcreation t ht).wholeSeconds_eq
  have hdeletion := map_eq_self fun t ht => (hdeletion t ht).wholeSeconds_eq
  have hmanaged := map_eq_self fun fs hfs =>
    (List.map_congr_left fun f hf => ManagedFields.stored_eq_self (hmanaged fs hfs f hf)).trans
      (List.map_id fs)
  rw [stored_eq, hcreation, hdeletion, hmanaged]

end Metadata

end Slipway

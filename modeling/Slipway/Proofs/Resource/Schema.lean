import Slipway.Proofs.Resource.Metadata
import Slipway.Proofs.Resource.Reference
import Slipway.Resource.Schema

/-
  Values whose form a schema tells are read as they were written, apart from their times, and are
  written alike once they are kept (`Schema.rereads`). This is shown along the schema, for the
  fields of a record one after the other, and it takes no more than that no record has two fields of
  one name (`Schema.isDistinct`). Most schemas tell no times at all (`Schema.times_eq_nil`).
-/

namespace Slipway

open Json

/-! ## Values with times -/

/-- Values that are read as they were written, apart from their times: these are written in whole
    seconds, and read so. All times that are read can be. -/
structure Rereads {α : Type} (read : Json → Option α) (write : α → Json) (stored : α → α)
    (times : α → List Timestamp) : Prop where
  readsAs : ∀ a, (∀ t ∈ times a, t.IsProper) → ReadsAs read (write a) (stored a)
  isProper : ∀ j a, read j = some a → ∀ t ∈ times a, t.IsProper
  write_stored : ∀ a, (∀ t ∈ times a, t.IsProper) → write (stored a) = write a
  stored_eq_self : ∀ a, (∀ t ∈ times a, t.IsWhole) → stored a = a

namespace Rereads

variable {α : Type} {read : Json → Option α} {write : α → Json} {stored : α → α}
  {times : α → List Timestamp}

/-- Values that tell no times. -/
theorem of_readsAs (h : ∀ a, ReadsAs read (write a) a) : Rereads read write id fun _ => [] where
  readsAs a _ := h a
  isProper _ _ _ _ ht := nomatch ht
  write_stored _ _ := rfl
  stored_eq_self _ _ := rfl

theorem list (h : Rereads read write stored times) :
    Rereads (listOf? read) (ofList write) (List.map stored) fun as => as.flatMap times where
  readsAs as htimes :=
    readsAs_map fun a ha => h.readsAs a (List.forall_mem_flatMap.1 htimes a ha)
  isProper j as hread := List.forall_mem_flatMap.2 fun a ha => by
    obtain ⟨j', hj'⟩ := exists_of_listOf? hread ha
    exact h.isProper j' a hj'
  write_stored as htimes :=
    ofList_map fun a ha => h.write_stored a (List.forall_mem_flatMap.1 htimes a ha)
  stored_eq_self as htimes :=
    (List.map_congr_left fun a ha => h.stored_eq_self a
      (List.forall_mem_flatMap.1 htimes a ha)).trans (List.map_id as)

variable {field : Option Json} {value : Option α} {default a : α}

theorem forall_times_iff {p : Timestamp → Prop} :
    (∀ t ∈ value.toList.flatMap times, p t) ↔ ∀ a ∈ value, ∀ t ∈ times a, p t := by
  simp only [List.forall_mem_flatMap, Option.mem_toList, Option.mem_def]

theorem optional_map (h : Rereads read write stored times)
    (htimes : ∀ t ∈ value.toList.flatMap times, t.IsProper) :
    Json.optional read (value.map write) = some (value.map stored) :=
  Json.optional_map fun a ha => h.readsAs a (forall_times_iff.1 htimes a ha)

theorem isProper_optional (h : Rereads read write stored times)
    (hread : Json.optional read field = some value) :
    ∀ t ∈ value.toList.flatMap times, t.IsProper := by
  refine forall_times_iff.2 fun a ha => ?_
  obtain ⟨j, hj⟩ := exists_of_optional hread ha
  exact h.isProper j a hj

theorem isProper_lenient (h : Rereads read write stored times) (hdefault : times default = [])
    (hread : Json.lenient default read field = some a) : ∀ t ∈ times a, t.IsProper := by
  have hblank : ∀ t ∈ times default, t.IsProper := by simp [hdefault]
  unfold lenient at hread
  split at hread
  next => exact Option.some.inj hread ▸ hblank
  next => exact Option.some.inj hread ▸ hblank
  next j _ => exact h.isProper j a hread

theorem memberOf_stored (h : Rereads read write stored times) (name : String)
    (htimes : ∀ t ∈ value.toList.flatMap times, t.IsProper) :
    memberOf name write (value.map stored) = memberOf name write value :=
  memberOf_map name fun a ha => h.write_stored a (forall_times_iff.1 htimes a ha)

theorem map_stored_eq_self (h : Rereads read write stored times)
    (htimes : ∀ t ∈ value.toList.flatMap times, t.IsWhole) : value.map stored = value :=
  map_eq_self fun a ha => h.stored_eq_self a (forall_times_iff.1 htimes a ha)

end Rereads

theorem Metadata.rereads : Rereads read? toJson stored times where
  readsAs _ := readsAs
  isProper _ _ := isProper_of_read?
  write_stored _ := toJson_stored
  stored_eq_self _ := stored_eq_self

namespace Schema

/-! ## Names of fields -/

def Fields.names : Fields → List String
  | .nil => []
  | .required name _ rest | .optional name _ rest => name :: rest.names

mutual

/-- No record has two fields of one name. -/
def isDistinct : Schema → Bool
  | list item => item.isDistinct
  | record fields => fields.isDistinct
  | text | flag | int32 | int64 | port | attributes | metadata => true

def Fields.isDistinct : Fields → Bool
  | .nil => true
  | .required name s rest | .optional name s rest =>
    !rest.names.contains name && s.isDistinct && rest.isDistinct

end

/-- A record is written with its own fields only. -/
theorem Fields.memberValue?_members {name : String} :
    (fs : Fields) → (v : fs.Values) → name ∉ fs.names → memberValue? (fs.members v) name = none
  | .nil, _, _ => rfl
  | .required n s rest, v, h => by
    rw [members, memberValue?_member, if_neg (List.ne_of_not_mem_cons h)]
    exact rest.memberValue?_members v.2 (List.not_mem_of_not_mem_cons h)
  | .optional n s rest, v, h => by
    rw [members, memberValue?_memberOf, if_neg (List.ne_of_not_mem_cons h)]
    exact rest.memberValue?_members v.2 (List.not_mem_of_not_mem_cons h)

/-! ## Times -/

mutual

/-- The times that a value tells. -/
def times : (s : Schema) → s.Value → List Timestamp
  | metadata => Metadata.times
  | list item => fun vs => vs.flatMap item.times
  | record fields => fields.times
  | text | flag | int32 | int64 | port | attributes => fun _ => []

def Fields.times : (fs : Fields) → fs.Values → List Timestamp
  | .nil => fun _ => []
  | .required _ s rest => fun v => s.times v.1 ++ rest.times v.2
  | .optional _ s rest => fun v => v.1.toList.flatMap s.times ++ rest.times v.2

end

mutual

theorem times_blank : (s : Schema) → s.times s.blank = []
  | text | flag | int32 | int64 | port | attributes | metadata | list _ => rfl
  | record fields => fields.times_blank

theorem Fields.times_blank : (fs : Fields) → fs.times fs.blank = []
  | .nil => rfl
  | .required _ s rest => by
    show s.times s.blank ++ rest.times rest.blank = []
    rw [s.times_blank, rest.times_blank, List.append_nil]
  | .optional _ _ rest => rest.times_blank

end

mutual

/-- There is no room for a time. -/
def isTimeless : Schema → Bool
  | metadata => false
  | list item => item.isTimeless
  | record fields => fields.isTimeless
  | text | flag | int32 | int64 | port | attributes => true

def Fields.isTimeless : Fields → Bool
  | .nil => true
  | .required _ s rest | .optional _ s rest => s.isTimeless && rest.isTimeless

end

mutual

theorem times_eq_nil : (s : Schema) → s.isTimeless = true → (v : s.Value) → s.times v = []
  | text, _, _ | flag, _, _ | int32, _, _ | int64, _, _ | port, _, _ | attributes, _, _ => rfl
  | list item, h, _ => List.flatMap_eq_nil_iff.2 fun v _ => item.times_eq_nil h v
  | record fields, h, v => fields.times_eq_nil h v

theorem Fields.times_eq_nil :
    (fs : Fields) → fs.isTimeless = true → (v : fs.Values) → fs.times v = []
  | .nil, _, _ => rfl
  | .required _ s rest, h, v => by
    obtain ⟨hs, hrest⟩ := Bool.and_eq_true_iff.1 h
    show s.times v.1 ++ rest.times v.2 = []
    rw [s.times_eq_nil hs, rest.times_eq_nil hrest, List.append_nil]
  | .optional _ s rest, h, v => by
    obtain ⟨hs, hrest⟩ := Bool.and_eq_true_iff.1 h
    show v.1.toList.flatMap s.times ++ rest.times v.2 = []
    rw [rest.times_eq_nil hrest, List.append_nil]
    exact List.flatMap_eq_nil_iff.2 fun a _ => s.times_eq_nil hs a

end

/-! ## Reading again -/

/-- The fields of a record are read as they were written, apart from their times, wherever they
    stand among others. -/
structure Fields.Reread (fs : Fields) : Prop where
  read?_eq : ∀ v (f : Json.Fields), (∀ t ∈ fs.times v, t.IsProper) →
    (∀ name ∈ fs.names, f name = memberValue? (fs.members v) name) →
    fs.read? f = some (fs.stored v)
  isProper : ∀ f v, fs.read? f = some v → ∀ t ∈ fs.times v, t.IsProper
  members_stored : ∀ v, (∀ t ∈ fs.times v, t.IsProper) → fs.members (fs.stored v) = fs.members v
  stored_eq_self : ∀ v, (∀ t ∈ fs.times v, t.IsWhole) → fs.stored v = v

namespace Fields

variable {s : Schema} {rest : Fields} {name : String}

/-- What is told of the fields behind the first one is told behind its member. -/
theorem eq_memberValue?_of_cons {f : Json.Fields} {m : Member} {ms : List Member}
    (hname : name ∉ rest.names) (hm : ∀ e ∈ m, e.1 = name)
    (hf : ∀ n ∈ name :: rest.names, f n = memberValue? (m :: ms) n) :
    ∀ n ∈ rest.names, f n = memberValue? ms n := by
  intro n hn
  have hne : ∀ e ∈ m, n ≠ e.1 := fun e he hn' => hname (hm e he ▸ hn' ▸ hn)
  rw [hf n (List.mem_cons_of_mem _ hn), memberValue?_cons_of_ne hne]

theorem reread_nil : Reread .nil where
  read?_eq _ _ _ _ := rfl
  isProper _ _ _ _ ht := nomatch ht
  members_stored _ _ := rfl
  stored_eq_self _ _ := rfl

theorem reread_required (hname : name ∉ rest.names)
    (hs : Rereads s.read? s.toJson s.stored s.times) (hrest : rest.Reread) :
    Reread (.required name s rest) where
  read?_eq v f htimes hf := by
    obtain ⟨hfirst, hothers⟩ := List.forall_mem_append.1 htimes
    have hvalue : f name = some (s.toJson v.1) := by
      rw [hf name List.mem_cons_self, members, memberValue?_member, if_pos rfl]
    have hfields := eq_memberValue?_of_cons hname (fun _ => name_of_mem_member) hf
    obtain ⟨htold, hread⟩ := hs.readsAs v.1 hfirst
    rw [read?, hvalue, lenient_some htold, hread, hrest.read?_eq v.2 f hothers hfields]
    rfl
  isProper f v h := by
    obtain ⟨a, ha, h⟩ := Option.bind_eq_some_iff.1 h
    obtain ⟨as, has, h⟩ := Option.bind_eq_some_iff.1 h
    cases h
    exact List.forall_mem_append.2
      ⟨hs.isProper_lenient s.times_blank ha, hrest.isProper f as has⟩
  members_stored v htimes := by
    obtain ⟨hfirst, hothers⟩ := List.forall_mem_append.1 htimes
    show member name (s.toJson (s.stored v.1)) :: rest.members (rest.stored v.2) = _
    rw [hs.write_stored v.1 hfirst, hrest.members_stored v.2 hothers]
    rfl
  stored_eq_self v htimes := by
    obtain ⟨hfirst, hothers⟩ := List.forall_mem_append.1 htimes
    exact Prod.ext (hs.stored_eq_self v.1 hfirst) (hrest.stored_eq_self v.2 hothers)

theorem reread_optional (hname : name ∉ rest.names)
    (hs : Rereads s.read? s.toJson s.stored s.times) (hrest : rest.Reread) :
    Reread (.optional name s rest) where
  read?_eq v f htimes hf := by
    obtain ⟨hfirst, hothers⟩ := List.forall_mem_append.1 htimes
    have hvalue : f name = v.1.map s.toJson := by
      rw [hf name List.mem_cons_self, members, memberValue?_memberOf, if_pos rfl,
        rest.memberValue?_members v.2 hname, Option.or_none]
    have hfields := eq_memberValue?_of_cons hname (fun _ => name_of_mem_memberOf) hf
    rw [read?, hvalue, hs.optional_map hfirst, hrest.read?_eq v.2 f hothers hfields]
    rfl
  isProper f v h := by
    obtain ⟨a, ha, h⟩ := Option.bind_eq_some_iff.1 h
    obtain ⟨as, has, h⟩ := Option.bind_eq_some_iff.1 h
    cases h
    exact List.forall_mem_append.2 ⟨hs.isProper_optional ha, hrest.isProper f as has⟩
  members_stored v htimes := by
    obtain ⟨hfirst, hothers⟩ := List.forall_mem_append.1 htimes
    show memberOf name s.toJson (v.1.map s.stored) :: rest.members (rest.stored v.2) = _
    rw [hs.memberOf_stored name hfirst, hrest.members_stored v.2 hothers]
    rfl
  stored_eq_self v htimes := by
    obtain ⟨hfirst, hothers⟩ := List.forall_mem_append.1 htimes
    exact Prod.ext (hs.map_stored_eq_self hfirst) (hrest.stored_eq_self v.2 hothers)

end Fields

theorem rereads_record {fs : Fields} (h : fs.Reread) :
    Rereads (record fs).read? (record fs).toJson (record fs).stored (record fs).times where
  readsAs v htimes := ⟨rfl, h.read?_eq v _ htimes fun _ _ => rfl⟩
  isProper j v hread := by
    obtain ⟨f, -, hread⟩ := Option.bind_eq_some_iff.1 hread
    exact h.isProper f v hread
  write_stored v htimes := congrArg ofMembers (h.members_stored v htimes)
  stored_eq_self := h.stored_eq_self

mutual

theorem rereads : (s : Schema) → s.isDistinct = true → Rereads s.read? s.toJson s.stored s.times
  | text, _ => .of_readsAs readsAs_string
  | flag, _ => .of_readsAs readsAs_bool
  | int32, _ => .of_readsAs readsAs_int32
  | int64, _ => .of_readsAs readsAs_int64
  | port, _ => .of_readsAs PortReference.readsAs
  | attributes, _ => .of_readsAs readsAs_attributes
  | metadata, _ => Metadata.rereads
  | list item, h => (item.rereads h).list
  | record fields, h => rereads_record (fields.reread h)

theorem Fields.reread : (fs : Fields) → fs.isDistinct = true → fs.Reread
  | .nil, _ => Fields.reread_nil
  | .required name s rest, h => by
    obtain ⟨⟨hname, hs⟩, hrest⟩ : (name ∉ rest.names ∧ s.isDistinct = true) ∧
        rest.isDistinct = true := by simpa [Fields.isDistinct] using h
    exact Fields.reread_required hname (s.rereads hs) (rest.reread hrest)
  | .optional name s rest, h => by
    obtain ⟨⟨hname, hs⟩, hrest⟩ : (name ∉ rest.names ∧ s.isDistinct = true) ∧
        rest.isDistinct = true := by simpa [Fields.isDistinct] using h
    exact Fields.reread_optional hname (s.rereads hs) (rest.reread hrest)

end

/-- Fields are read as they were written where none of their names is written with something else
    behind them. -/
theorem Fields.read?_append {fs : Fields} (hfs : fs.Reread) {v : fs.Values}
    (htimes : ∀ t ∈ fs.times v, t.IsProper) {ms : List Member}
    (hms : ∀ name ∈ fs.names, memberValue? ms name = none) :
    fs.read? (memberValue? (fs.members v ++ ms)) = some (fs.stored v) := by
  refine hfs.read?_eq v _ htimes fun name hname => ?_
  rw [memberValue?_append, hms name hname, Option.or_none]

/-- So are fields that tell no times. -/
theorem Fields.read?_append_of_isTimeless {fs : Fields} (hfs : fs.Reread)
    (htimeless : fs.isTimeless = true) (v : fs.Values) {ms : List Member}
    (hms : ∀ name ∈ fs.names, memberValue? ms name = none) :
    fs.read? (memberValue? (fs.members v ++ ms)) = some v := by
  have htimes : fs.times v = [] := fs.times_eq_nil htimeless v
  rw [read?_append hfs (by simp [htimes]) hms, hfs.stored_eq_self v (by simp [htimes])]

end Schema

end Slipway

import Slipway.Json.Printer
import Slipway.Proofs.Cluster.Stored
import Slipway.Proofs.Resource.Rewritten

/-
  Objects as the platform keeps them: as JSON, in which the platform sets a version, an identity and
  a time of creation (`Resource.stampJson`). Setting them in JSON and setting them in the object
  come to the same fields in another order (`Metadata.sameFields_stampJson`), and what is read does
  not depend on the order. So what is read of the JSON that is kept is the object that was stamped
  (`Resource.read?_stampJson`), and what was created is found and listed with the content it was
  created with (`Resource.written_rereads`).
-/

namespace Slipway

open Json

variable {k : Kind} {r x : Resource k} {m : Metadata}

namespace Json

theorem lookup_setField (n : String) (value : Json) (fields : List (String × Json))
    (name : String) : (setField n value fields).lookup name =
      if name = n then some value else fields.lookup name := by
  induction fields with
  | nil => rw [setField, Dict.lookup_cons_ite]
  | cons e es ih =>
    unfold setField
    split
    next he =>
      rw [Dict.lookup_cons_ite, Dict.lookup_cons_ite, he]
      split <;> rfl
    next he =>
      rw [Dict.lookup_cons_ite, Dict.lookup_cons_ite, ih]
      by_cases hname : name = e.1
      · simp [hname, he]
      · simp [hname]

/-- An object with a field set. -/
def set (j : Json) (n : String) (value : Json) : Json :=
  match j with
  | object fields => object (setField n value fields)
  | j => j

theorem field_set_object (fields : List (String × Json)) (n : String) (value : Json)
    (name : String) : ((object fields).set n value).field name =
      if name = n then value else (object fields).field name := by
  refine (congrArg (fun v => v.getD null) (lookup_setField n value fields name)).trans ?_
  split <;> rfl

/-- An object with a field set, unless something is told there. -/
def setUnlessTold (j : Json) (n : String) (value : Json) : Json :=
  if (j.field n).isNull then j.set n value else j

/-- Objects with the same fields, in whatever order. -/
inductive SameFields : Json → Json → Prop
  | intro {fields fields' : List (String × Json)}
      (h : ∀ name, fields.lookup name = fields'.lookup name) :
      SameFields (object fields) (object fields')

namespace SameFields

variable {j j' j'' : Json}

theorem trans (h : SameFields j j') (h' : SameFields j' j'') : SameFields j j'' := by
  cases h with
  | intro h =>
    cases h' with
    | intro h' => exact .intro fun name => (h name).trans (h' name)

theorem told (h : SameFields j j') : j.isNull = false := by
  cases h
  rfl

theorem named?_eq (h : SameFields j j') : j.named? = j'.named? := by
  cases h with
  | intro h => exact congrArg some (funext h)

theorem field_eq (h : SameFields j j') (n : String) : j.field n = j'.field n := by
  cases h with
  | intro h => exact congrArg (fun value => value.getD null) (h n)

theorem set (h : SameFields j j') (n : String) (value : Json) :
    SameFields (j.set n value) (j'.set n value) := by
  cases h with
  | intro h => exact .intro fun name => by rw [lookup_setField, lookup_setField, h]

theorem setUnlessTold (h : SameFields j j') (n : String) (value : Json) :
    SameFields (j.setUnlessTold n value) (j'.setUnlessTold n value) := by
  unfold Json.setUnlessTold
  rw [h.field_eq]
  split
  · exact h.set n value
  · exact h

end SameFields

/-- A record with a field set is written as with the field set. -/
theorem sameFields_set_ofMembers {ms ms' : List Member} {n : String} {value : Json}
    (h : ∀ name, memberValue? ms' name = if name = n then some value else memberValue? ms name) :
    SameFields ((ofMembers ms).set n value) (ofMembers ms') :=
  .intro fun name => (lookup_setField n value _ name).trans (h name).symm

/-- So is a record with a field set that told nothing. -/
theorem sameFields_setUnlessTold_ofMembers {α : Type} {ms ms' : List Member} {n : String}
    {write : α → Json} (value : Option α) {a : α} (hwrite : ∀ a, (write a).isNull = false)
    (hvalue : memberValue? ms n = value.map write)
    (h : ∀ name, memberValue? ms' name =
      if name = n then (value.or (some a)).map write else memberValue? ms name) :
    SameFields ((ofMembers ms).setUnlessTold n (write a)) (ofMembers ms') := by
  have hfield : (ofMembers ms).field n = (value.map write).getD null :=
    congrArg (fun v => v.getD null) hvalue
  unfold setUnlessTold
  rw [hfield]
  cases value with
  | none => exact sameFields_set_ofMembers h
  | some b =>
    rw [Option.map_some, Option.getD_some, hwrite, if_neg Bool.false_ne_true]
    refine .intro fun name => ?_
    show memberValue? ms name = memberValue? ms' name
    rw [h]
    split
    next hname => rw [hname, hvalue, Option.some_or]
    next => rfl

end Json

/-- The metadata of an object in JSON under a new version. -/
def Metadata.stampJson (version : Nat) (j : Json) : Json :=
  ((j.set "resourceVersion" (.string (Text.decimal version))).setUnlessTold "uid"
    (.string ("uid-" ++ Text.decimal version))).setUnlessTold "creationTimestamp"
      (Cluster.clock version).toJson

/-- An object in JSON under a new version. -/
def Resource.stampJson (version : Nat) (j : Json) : Json :=
  j.set "metadata" (Metadata.stampJson version (j.field "metadata"))

theorem Cluster.isWhole_clock (version : Nat) : (clock version).IsWhole := .inl rfl

namespace Metadata

theorem sameFields_resourceVersion (m : Metadata) (v : String) :
    SameFields (m.toJson.set "resourceVersion" (.string v))
      { m with resourceVersion := some v }.toJson := by
  refine sameFields_set_ofMembers fun name => ?_
  by_cases hname : name = "resourceVersion"
  · subst hname
    simp
  · simp [hname]

theorem sameFields_uid (m : Metadata) (v : String) :
    SameFields (m.toJson.setUnlessTold "uid" (.string v))
      { m with uid := m.uid.or (some v) }.toJson := by
  refine sameFields_setUnlessTold_ofMembers m.uid (fun _ => rfl) (by simp) fun name => ?_
  by_cases hname : name = "uid"
  · subst hname
    simp
  · simp [hname]

theorem sameFields_creationTimestamp (m : Metadata) (v : Timestamp) :
    SameFields (m.toJson.setUnlessTold "creationTimestamp" v.toJson)
      { m with creationTimestamp := m.creationTimestamp.or (some v) }.toJson := by
  refine sameFields_setUnlessTold_ofMembers m.creationTimestamp (fun _ => rfl) (by simp)
    fun name => ?_
  by_cases hname : name = "creationTimestamp"
  · subst hname
    simp
  · simp [hname]

theorem sameFields_stampJson (version : Nat) (m : Metadata) :
    SameFields (stampJson version m.toJson) (Cluster.stampMetadata version m).toJson := by
  have hversion := sameFields_resourceVersion m (Text.decimal version)
  have huid := (hversion.setUnlessTold "uid" _).trans
    (sameFields_uid _ ("uid-" ++ Text.decimal version))
  exact (huid.setUnlessTold "creationTimestamp" _).trans
    (sameFields_creationTimestamp _ (Cluster.clock version))

theorem read?_congr {j j' : Json} (h : SameFields j j') : read? j = read? j' := by
  unfold read?
  rw [h.named?_eq]

theorem times_stampMetadata {p : Timestamp → Prop} {version : Nat} {m : Metadata}
    (hclock : p (Cluster.clock version)) (h : ∀ t ∈ m.times, p t) :
    ∀ t ∈ (Cluster.stampMetadata version m).times, p t := by
  obtain ⟨hcreation, hdeletion, hmanaged⟩ := forall_times_iff.1 h
  refine forall_times_iff.2 ⟨fun t ht => ?_, hdeletion, hmanaged⟩
  rcases Option.or_eq_some_iff.1 ht with ht | ⟨-, ht⟩
  · exact hcreation t ht
  · exact Option.some.inj ht ▸ hclock

theorem stored_stampMetadata (version : Nat) (m : Metadata) :
    (Cluster.stampMetadata version m).stored = Cluster.stampMetadata version m.stored := by
  have hcreation : (m.creationTimestamp.or (some (Cluster.clock version))).map
      Timestamp.wholeSeconds =
        (m.creationTimestamp.map Timestamp.wholeSeconds).or (some (Cluster.clock version)) := by
    cases m.creationTimestamp <;> rfl
  rw [stored_eq, Cluster.stampMetadata, hcreation]
  rfl

/-- What is read of metadata that were stamped in JSON, in whatever order the fields stand. -/
theorem readsAs_stampJson (version : Nat) {j : Json} (hj : SameFields j m.toJson)
    (h : ∀ t ∈ m.times, t.IsProper) :
    ReadsAs read? (stampJson version j) (Cluster.stampMetadata version m.stored) := by
  have hset := hj.set "resourceVersion" (.string (Text.decimal version))
  have huid := hset.setUnlessTold "uid" (.string ("uid-" ++ Text.decimal version))
  have hstamped : SameFields (stampJson version j) (Cluster.stampMetadata version m).toJson :=
    (huid.setUnlessTold "creationTimestamp" _).trans (sameFields_stampJson version m)
  have htimes := times_stampMetadata (Cluster.isWhole_clock version).isProper h
  refine ⟨hstamped.told, ?_⟩
  rw [read?_congr hstamped, (readsAs htimes).read_eq, stored_stampMetadata]

end Metadata

namespace Resource

/-- What is read of an object that was stamped in JSON is told by its fields. -/
theorem read?_stampJson_object (version : Nat) {fields : List (String × Json)} {j : Json}
    {spec : k.Spec} {status : k.Status}
    (hversion : fields.lookup "apiVersion" = some (.string k.apiVersion))
    (hkind : fields.lookup "kind" = some (.string k.name))
    (hmetadata : fields.lookup "metadata" = some j) (hj : SameFields j m.toJson)
    (htimes : ∀ t ∈ m.times, t.IsProper)
    (hspec : k.readSpec? (fields.lookup "spec") = some spec)
    (hstatus : k.readStatus? (fields.lookup "status") = some status) :
    read? k (stampJson version (.object fields)) =
      some ⟨Cluster.stampMetadata version m.stored, spec, status⟩ := by
  have hfield : (object fields).field "metadata" = j := congrArg (fun v => v.getD .null) hmetadata
  have hlookup := lookup_setField "metadata" (Metadata.stampJson version j) fields
  have hother : ∀ name, name ≠ "metadata" →
      (setField "metadata" (Metadata.stampJson version j) fields).lookup name =
        fields.lookup name :=
    fun name hne => (hlookup name).trans (if_neg hne)
  rw [stampJson, hfield]
  exact read?_object ((hother _ (by decide)).trans hversion) ((hother _ (by decide)).trans hkind)
    (hlookup _) (Metadata.readsAs_stampJson version hj htimes)
    ((congrArg k.readSpec? (hother _ (by decide))).trans hspec)
    ((congrArg k.readStatus? (hother _ (by decide))).trans hstatus)

/-- What is read of an object that was stamped in JSON is the object that was stamped. -/
theorem read?_stampJson (version : Nat) (h : ∀ t ∈ r.times, t.IsProper) :
    read? k (stampJson version r.toJson) =
      some { r.stored with metadata := Cluster.stampMetadata version r.stored.metadata } := by
  obtain ⟨htimes, hspecTimes⟩ := List.forall_mem_append.1 h
  exact read?_stampJson_object version (memberValue?_apiVersion r) (memberValue?_kind r)
    (memberValue?_metadata r) (.intro fun _ => rfl) htimes (readSpec?_members hspecTimes)
    (readStatus?_members r)

end Resource

namespace Cluster

variable {s s' : Cluster}

theorem create_stamps (h : s.create r = (.ok x, s')) :
    x = { r.stored with metadata := stampMetadata (s.version + 1) r.stored.metadata } := by
  unfold create at h
  dsimp only at h
  split at h
  · cases h
  · cases h
    rfl

/-- An object that was created is found, and listed by what selects it. -/
theorem create_kept (h : s.create r = (.ok x, s')) :
    s'.find? k r.name = some x ∧
      ∀ selector, Labels.satisfies r.labels selector = true → x ∈ s'.matching k selector := by
  obtain ⟨hunstamped, hobjects⟩ := create_eq_ok h
  have hinsert : s'.objects.of k = (s.objects.of k).insert r.name x := by
    rw [hobjects, PerKind.of_put_self]
  have hfind : s'.find? k r.name = some x := by
    rw [find?_of_insert hinsert, if_pos rfl]
  refine ⟨hfind, fun selector hselector => ?_⟩
  have hlabels : x.labels = r.stored.labels := Resource.labels_eq_of_unstamped hunstamped
  rw [matching, List.mem_filter, hlabels]
  exact ⟨Dict.mem_values_iff.2 ⟨r.name, hfind⟩, hselector⟩

end Cluster

/-- A build configuration as it may be written by hand: fields that are null or left out, an empty
    list, a type of source that is not known, and a time with a fraction and an offset. -/
def handWritten : Json := .object [
  ("apiVersion", .string "build.openshift.io/v1"),
  ("metadata", .object [
    ("creationTimestamp", .string "2025-01-01t01:00:00.25+01:00"),
    ("labels", .null),
    ("name", .string "ticker")]),
  ("spec", .object [
    ("strategy", .object [
      ("type", .string "Source"),
      ("sourceStrategy", .object [("env", .array [])])]),
    ("source", .object [("type", .string "Archive"), ("git", .null)]),
    ("nodeSelector", .object [])])]

/-- A deployment that says when it was made. -/
def madeInMarch : DeploymentConfig :=
  Resource.new
    { name := some "ticker", creationTimestamp := some (.in2025 5400000 (by decide)) }
    ({ replicas := 2 } : DeploymentSpec)

/-- A deployment with much that is not looked into: a probe, a limit, a variable whose value is in
    a secret, and a volume that is made for the pods. -/
def probed : Json :=
  let claim : Json := .object [
    ("spec", .object [("accessModes", .array [.string "ReadWriteOnce"])]),
    ("metadata", .object [("creationTimestamp", .string "2025-01-01T00:00:00Z")])]
  let container : Json := .object [
    ("readinessProbe", .object [
      ("httpGet", .object [("port", .string "http"), ("path", .string "/ready")]),
      ("periodSeconds", .int 5)]),
    ("resources", .object [("limits", .object [("memory", .string "1Gi")])]),
    ("env", .array [.object [
      ("name", .string "TOKEN"),
      ("valueFrom", .object [
        ("secretKeyRef", .object [("key", .string "token"), ("name", .string "ticker")])])]]),
    ("name", .string "ticker"),
    ("ports", .array [.object [("containerPort", .int 8080), ("name", .string "http")]])]
  let template : Json := .object [("spec", .object [
    ("volumes", .array [.object [
      ("name", .string "data"),
      ("ephemeral", .object [("volumeClaimTemplate", claim)])]]),
    ("containers", .array [container])])]
  .object [
    ("apiVersion", .string "apps.openshift.io/v1"),
    ("kind", .string "DeploymentConfig"),
    ("metadata", .object [("name", .string "ticker")]),
    ("spec", .object [
      ("replicas", .int 1),
      ("selector", .object []),
      ("triggers", .array []),
      ("template", template)])]

end Slipway

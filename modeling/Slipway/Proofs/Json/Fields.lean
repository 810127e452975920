import Mathlib.Data.List.Basic
import Slipway.Json.Record
import Slipway.Proofs.Dict.Entries

/-
  Records that are written as JSON and read again. `ReadsAs read j a` says that `j` is read as `a`
  and is not null, so that a field that is not always there may be written with it. What a record
  was written with under a name is `memberValue?`, whatever the order of its fields. A field is then
  read back by the rule for fields of its kind: one that was left out is read as nothing
  (`optional_map`) or as an empty list (`defaulted_memberOfList`).
-/

namespace Slipway.Json

variable {α : Type} {read : Json → Option α} {write : α → Json} {name n : String} {j : Json}

/-! ## Values -/

/-- JSON that is read as a value, and that a field may be written with. -/
structure ReadsAs (read : Json → Option α) (j : Json) (a : α) : Prop where
  told : j.isNull = false
  read_eq : read j = some a

@[simp] theorem string?_string (s : String) : string? (string s) = some s := rfl

@[simp] theorem bool?_bool (b : Bool) : bool? (bool b) = some b := rfl

@[simp] theorem int32?_ofInt32 (n : Int32) : int32? (ofInt32 n) = some n := by
  have hrange : Int32.minValue.toInt ≤ n.toInt ∧ n.toInt ≤ Int32.maxValue.toInt :=
    ⟨n.minValue_le_toInt, n.toInt_le⟩
  show (if _ then some (Int32.ofInt n.toInt) else none) = some n
  rw [if_pos hrange, Int32.ofInt_toInt]

@[simp] theorem int64?_ofInt64 (n : Int64) : int64? (ofInt64 n) = some n := by
  have hrange : Int64.minValue.toInt ≤ n.toInt ∧ n.toInt ≤ Int64.maxValue.toInt :=
    ⟨n.minValue_le_toInt, n.toInt_le⟩
  show (if _ then some (Int64.ofInt n.toInt) else none) = some n
  rw [if_pos hrange, Int64.ofInt_toInt]

@[simp] theorem readsAs_string (s : String) : ReadsAs string? (string s) s := ⟨rfl, rfl⟩

@[simp] theorem readsAs_bool (b : Bool) : ReadsAs bool? (bool b) b := ⟨rfl, rfl⟩

@[simp] theorem readsAs_told (t : Told) : ReadsAs told? t.json t :=
  ⟨t.isTold, dif_pos t.isTold⟩

@[simp] theorem readsAs_int32 (n : Int32) : ReadsAs int32? (ofInt32 n) n :=
  ⟨rfl, int32?_ofInt32 n⟩

@[simp] theorem readsAs_int64 (n : Int64) : ReadsAs int64? (ofInt64 n) n :=
  ⟨rfl, int64?_ofInt64 n⟩

theorem mapM_map {γ : Type} {read : γ → Option α} {write : α → γ} {f : α → α} {values : List α}
    (h : ∀ a ∈ values, read (write a) = some (f a)) :
    (values.map write).mapM read = some (values.map f) := by
  induction values with
  | nil => rfl
  | cons a values ih =>
    have ha := h a List.mem_cons_self
    have hrest := ih fun b hb => h b (List.mem_cons_of_mem a hb)
    simp [ha, hrest]

theorem readsAs_map {f : α → α} {values : List α}
    (h : ∀ a ∈ values, ReadsAs read (write a) (f a)) :
    ReadsAs (listOf? read) (ofList write values) (values.map f) :=
  ⟨rfl, mapM_map fun a ha => (h a ha).read_eq⟩

@[simp] theorem readsAs_list (h : ∀ a, ReadsAs read (write a) a) (values : List α) :
    ReadsAs (listOf? read) (ofList write values) values := by
  have hmap := readsAs_map fun a (_ : a ∈ values) => h a
  rwa [List.map_id'] at hmap

@[simp] theorem listOf?_ofList (h : ∀ a, ReadsAs read (write a) a) (values : List α) :
    listOf? read (ofList write values) = some values := (readsAs_list h values).read_eq

@[simp] theorem attributes?_ofAttributes (d : Attributes) :
    attributes? (ofAttributes d) = some d := by
  have hentries : (d.toList.map fun e => (e.1, string e.2)).mapM
      (fun e : String × Json => do pure (e.1, ← string? e.2)) = some (d.toList.map id) :=
    mapM_map fun e _ => rfl
  show (do pure (Dict.ofList (← List.mapM _ _)) : Option (Dict String)) = _
  rw [hentries, List.map_id]
  exact congrArg some d.ofList_toList

@[simp] theorem readsAs_attributes (d : Attributes) : ReadsAs attributes? (ofAttributes d) d :=
  ⟨rfl, attributes?_ofAttributes d⟩

/-! ## Fields -/

/-- The value that a field is written with, if it is written. -/
def memberValue? (ms : List Member) (name : String) : Option Json := (ms.filterMap id).lookup name

theorem name_of_mem_member {e : String × Json} (h : e ∈ member n j) : e.1 = n := by
  cases h
  rfl

theorem name_of_mem_memberOf {value : Option α} {e : String × Json}
    (h : e ∈ memberOf n write value) : e.1 = n := by
  obtain ⟨a, -, rfl⟩ := Option.map_eq_some_iff.1 h
  rfl

@[simp] theorem named?_ofMembers (ms : List Member) :
    named? (ofMembers ms) = some (memberValue? ms) := rfl

@[simp] theorem field_ofMembers (ms : List Member) (name : String) :
    (ofMembers ms).field name = (memberValue? ms name).getD null := rfl

@[simp] theorem record?_ofMembers (names : List String) (ms : List Member) :
    record? names (ofMembers ms) = some (memberValue? ms) := rfl

@[simp] theorem named?_object (fields : List (String × Json)) :
    named? (object fields) = some fun name => fields.lookup name := rfl

@[simp] theorem record?_object (names : List String) (fields : List (String × Json)) :
    record? names (object fields) = some fun name => fields.lookup name := rfl

@[simp] theorem memberValue?_nil (name : String) : memberValue? [] name = none := rfl

theorem memberValue?_cons_some (e : String × Json) (ms : List Member) (name : String) :
    memberValue? (some e :: ms) name = if name = e.1 then some e.2 else memberValue? ms name :=
  Dict.lookup_cons_ite e (ms.filterMap id) name

theorem memberValue?_cons_of_ne {m : Member} (h : ∀ e ∈ m, name ≠ e.1) (ms : List Member) :
    memberValue? (m :: ms) name = memberValue? ms name := by
  cases m with
  | none => rfl
  | some e => rw [memberValue?_cons_some, if_neg (h e rfl)]

@[simp] theorem memberValue?_member (n : String) (j : Json) (ms : List Member) (name : String) :
    memberValue? (member n j :: ms) name = if name = n then some j else memberValue? ms name :=
  memberValue?_cons_some (n, j) ms name

@[simp] theorem memberValue?_memberOf (n : String) (write : α → Json) (value : Option α)
    (ms : List Member) (name : String) :
    memberValue? (memberOf n write value :: ms) name =
      if name = n then (value.map write).or (memberValue? ms name) else memberValue? ms name := by
  cases value with
  | none => exact (ite_self _).symm
  | some a => exact memberValue?_cons_some (n, write a) ms name

@[simp] theorem memberValue?_memberOfList (n : String) (write : α → Json) (values : List α)
    (ms : List Member) (name : String) :
    memberValue? (memberOfList n write values :: ms) name =
      if name = n ∧ values.isEmpty = false then some (ofList write values)
      else memberValue? ms name := by
  cases values with
  | nil => simp [memberOfList, memberValue?]
  | cons a values =>
    simp [memberOfList, memberValue?_cons_some, ofList]

@[simp] theorem memberValue?_append (ms ms' : List Member) (name : String) :
    memberValue? (ms ++ ms') name = (memberValue? ms name).or (memberValue? ms' name) := by
  unfold memberValue?
  rw [List.filterMap_append, List.lookup_append]

/-! ## Reading a field -/

theorem optional_some (h : j.isNull = false) : optional read (some j) = (read j).map some := by
  cases j with
  | null => cases h
  | _ => rfl

theorem lenient_some {default : α} (h : j.isNull = false) :
    lenient default read (some j) = read j := by
  cases j with
  | null => cases h
  | _ => rfl

@[simp] theorem lenient_string (default s : String) :
    lenient default string? (some (string s)) = some s := rfl

@[simp] theorem lenient_int32 (default n : Int32) :
    lenient default int32? (some (ofInt32 n)) = some n :=
  (lenient_some rfl).trans (int32?_ofInt32 n)

@[simp] theorem lenient_list (h : ∀ a, ReadsAs read (write a) a) (default values : List α) :
    lenient default (listOf? read) (some (ofList write values)) = some values :=
  (lenient_some rfl).trans (listOf?_ofList h values)

@[simp] theorem required_some (read : Json → Option α) (j : Json) :
    required read (some j) = read j := rfl

@[simp] theorem defaulted_some (default : α) (read : Json → Option α) (j : Json) :
    defaulted default read (some j) = read j := rfl

/-- An empty list may be left out where a list that is left out is read as an empty one. -/
@[simp] theorem defaulted_memberOfList (h : ∀ a, ReadsAs read (write a) a) (values : List α) :
    defaulted [] (listOf? read) (if values = [] then none else some (ofList write values)) =
      some values := by
  split
  next hnil => rw [hnil, defaulted]
  next => exact listOf?_ofList h values

theorem optional_map {f : α → α} {value : Option α}
    (h : ∀ a ∈ value, ReadsAs read (write a) (f a)) :
    optional read (value.map write) = some (value.map f) := by
  cases value with
  | none => rfl
  | some a =>
    obtain ⟨htold, hread⟩ := h a rfl
    rw [Option.map_some, optional_some htold, hread]
    rfl

@[simp] theorem optional_map_self (h : ∀ a, ReadsAs read (write a) a) (value : Option α) :
    optional read (value.map write) = some value := by
  rw [optional_map fun a _ => h a, Option.map_id']

/-! ## What was read -/

section Read

variable {field : Option Json} {a : α}

theorem exists_of_optional {value : Option α} (h : Json.optional read field = some value)
    (ha : a ∈ value) : ∃ j, read j = some a := by
  unfold Json.optional at h
  split at h
  next => cases h; cases ha
  next => cases h; cases ha
  next j _ =>
    obtain ⟨b, hb, rfl⟩ := Option.map_eq_some_iff.1 h
    cases ha
    exact ⟨j, hb⟩

theorem exists_of_listOf? {j : Json} {values : List α} (h : listOf? read j = some values)
    (ha : a ∈ values) : ∃ j', read j' = some a := by
  unfold listOf? at h
  split at h
  next items =>
    induction items generalizing values with
    | nil =>
      cases h
      cases ha
    | cons item items ih =>
      rw [List.mapM_cons] at h
      obtain ⟨b, hb, h⟩ := Option.bind_eq_some_iff.1 h
      obtain ⟨bs, hbs, h⟩ := Option.bind_eq_some_iff.1 h
      cases h
      rcases List.mem_cons.1 ha with rfl | ha
      · exact ⟨item, hb⟩
      · exact ih ha hbs
  next => cases h

end Read

/-! ## Writing what was changed -/

section Written

variable {g : α → α} {value : Option α} {values : List α}

theorem map_eq_self (h : ∀ a ∈ value, g a = a) : value.map g = value :=
  (Option.map_congr h).trans Option.map_id'

theorem memberOf_map (name : String) (h : ∀ a ∈ value, write (g a) = write a) :
    memberOf name write (value.map g) = memberOf name write value := by
  cases value with
  | none => rfl
  | some a => exact congrArg (fun j => some (name, j)) (h a rfl)

theorem ofList_map (h : ∀ a ∈ values, write (g a) = write a) :
    ofList write (values.map g) = ofList write values := by
  rw [ofList, List.map_map]
  exact congrArg array (List.map_congr_left h)

end Written

end Slipway.Json

import Slipway.Proofs.Labels.Ids

/-
  The values of labels. A cluster takes a value of at most 63 letters, digits, dashes, underscores
  and dots that has a letter or a digit at either end, or none at all (`IsValue`). The ids of
  applications are such values, and so are those of their instances unless the id of the application
  is empty. The value for a group is stripped before it is cut off and not again afterwards, so it
  is one only where it is not cut off behind a sign (`isValue_sanitizeValue_iff`). There is no other
  label whose value is not one (`label_isValue_iff`).
-/

namespace Slipway.Labels

variable {v s : String} {c : Char} {r : Request}

/-! ## Values -/

/-- A value that a label can have. -/
structure IsValue (v : String) : Prop where
  length_le : v.length ≤ 63
  chars : ∀ c ∈ v.toList, c.isAlphanum ∨ c = '-' ∨ c = '_' ∨ c = '.'
  first : ∀ c ∈ v.toList.head?, c.isAlphanum
  last : ∀ c ∈ v.toList.getLast?, c.isAlphanum

theorem isValue_iff : IsValue v ↔ v.length ≤ 63 ∧
    v.toList.all (fun c => c.isAlphanum || c == '-' || c == '_' || c == '.') ∧
    v.toList.head?.all Char.isAlphanum ∧ v.toList.getLast?.all Char.isAlphanum := by
  simp only [List.all_eq_true, Option.all_eq_true, Bool.or_eq_true, beq_iff_eq, or_assoc]
  exact ⟨fun h => ⟨h.1, h.2, h.3, h.4⟩, fun ⟨h₁, h₂, h₃, h₄⟩ => ⟨h₁, h₂, h₃, h₄⟩⟩

instance (v : String) : Decidable (IsValue v) := decidable_of_iff' _ isValue_iff

theorem IsValue.of_isTidy (h : AppId.IsTidy v.toList) : IsValue v where
  length_le := h.length_le
  chars c hc := by
    rcases hd : AppId.isDash c
    · exact .inl (AppId.isAlphanum_of_plain (h.plain c hc) hd)
    · exact .inr (.inl (beq_iff_eq.1 hd))
  first _ := h.isAlphanum_head
  last _ := h.isAlphanum_last

/-- The id of an instance is a value unless it is nothing but a dash and the index. -/
theorem isValue_instanceId_iff {id : AppId} (h : AppId.IsTidy id.text.toList) (i : UInt32) :
    IsValue (id.instanceId i).text ↔ id.text ≠ "" := by
  refine ⟨fun hv hid => ?_, fun hid => .of_isTidy (h.instanceId hid i)⟩
  have htext : (id.instanceId i).text.toList = '-' :: Text.digits i.toNat := by
    rw [AppId.instanceId, String.toList_ofList, hid, String.toList_empty, List.take_nil]
    rfl
  have hfirst := hv.first
  rw [htext] at hfirst
  exact absurd (hfirst '-' rfl) (by decide)

/-! ## Groups -/

/-- What stands in a value for a character of a group. -/
def valueChar (c : Char) : Char :=
  if isAlnum c || c == '-' || c == '_' || c == '.' then c else '-'

theorem isAlnum_eq (c : Char) : isAlnum c = c.isAlphanum := by
  rw [Bool.eq_iff_iff, isAlnum, Bool.or_eq_true, AppId.isLowerAlnum_iff, Text.isAlphanum_iff,
    Bool.and_eq_true, decide_eq_true_eq, decide_eq_true_eq, or_comm]
  rfl

theorem isAlphanum_valueChar (c : Char) : (valueChar c).isAlphanum = c.isAlphanum := by
  unfold valueChar
  split
  · rfl
  next h =>
    simp only [Bool.not_eq_true, Bool.or_eq_false_iff, and_assoc] at h
    rw [← isAlnum_eq c, h.1]
    decide

/-- A text from its first to its last letter or digit. -/
def core (s : String) : List Char := Text.strip (fun c => !c.isAlphanum) s.toList

/-- A text whose core is not cut off behind a sign when no more than 63 characters are kept. -/
def EndsWell (s : String) : Prop := ∀ c ∈ (core s)[62]?, c.isAlphanum

theorem toList_sanitizeValue (s : String) :
    (sanitizeValue s).toList = ((core s).map valueChar).take 63 := by
  have hstrip := Text.strip_map (p := fun c => !isAlnum c) (q := fun c => !c.isAlphanum)
    (fun c => by rw [isAlnum_eq, isAlphanum_valueChar]) s.toList
  rw [core, ← hstrip]
  exact String.toList_ofList

theorem chars_of_valueChar (c : Char) : (valueChar c).isAlphanum ∨ valueChar c = '-' ∨
    valueChar c = '_' ∨ valueChar c = '.' := by
  rw [isAlphanum_valueChar]
  unfold valueChar
  split
  next h =>
    rwa [isAlnum_eq, Bool.or_eq_true, Bool.or_eq_true, Bool.or_eq_true, beq_iff_eq, beq_iff_eq,
      beq_iff_eq, or_assoc, or_assoc] at h
  next => exact .inr (.inl rfl)

/-- The last character that is kept is that behind which the text is cut off, or the last of its
    core. -/
theorem isAlphanum_getLast?_iff :
    (∀ c ∈ (sanitizeValue s).toList.getLast?, c.isAlphanum) ↔ EndsWell s := by
  have hlast : ∀ c ∈ (core s).getLast?, c.isAlphanum := fun c hc => by
    simpa using (Text.bare_strip _ s.toList).last c hc
  unfold EndsWell
  rw [toList_sanitizeValue, List.getLast?_take, if_neg (by decide), List.getElem?_map,
    List.getLast?_map]
  rcases (core s)[62]? with _ | c
  · refine iff_of_true (fun c hc => ?_) fun c hc => nomatch hc
    rw [Option.map_none, Option.none_or, Option.mem_def, Option.map_eq_some_iff] at hc
    obtain ⟨c', hc', rfl⟩ := hc
    rw [isAlphanum_valueChar]
    exact hlast c' hc'
  · simp only [Option.map_some, Option.some_or, Option.mem_some, forall_eq', isAlphanum_valueChar]

theorem isValue_sanitizeValue_iff : IsValue (sanitizeValue s) ↔ EndsWell s := by
  refine ⟨fun h => isAlphanum_getLast?_iff.1 h.last, fun h => ⟨?_, fun c hc => ?_, fun c hc => ?_,
    isAlphanum_getLast?_iff.2 h⟩⟩
  · rw [← String.length_toList, toList_sanitizeValue]
    exact List.length_take_le _ _
  · rw [toList_sanitizeValue] at hc
    obtain ⟨c', -, rfl⟩ := List.mem_map.1 (List.mem_of_mem_take hc)
    exact chars_of_valueChar c'
  · rw [toList_sanitizeValue, List.head?_take, if_neg (by decide), List.head?_map,
      Option.mem_def, Option.map_eq_some_iff] at hc
    obtain ⟨c', hc', rfl⟩ := hc
    rw [isAlphanum_valueChar]
    simpa using (Text.bare_strip _ s.toList).first c' hc'

/-! ## The labels of a request -/

theorem get?_base (id : AppId) (r : Request) (key : String) : (base id r).get? key =
    if key = appIdKey ∨ key = deploymentIdKey then some id.text
    else if key = managedByKey then some managedBy
    else if key = groupIdKey then r.group.map sanitizeValue else none := by
  -- the order in which labels are put in does not matter, as their keys are different
  have hmanaged : managedByKey ≠ appIdKey ∧ managedByKey ≠ deploymentIdKey := by decide
  have hgroup : groupIdKey ≠ appIdKey ∧ groupIdKey ≠ deploymentIdKey ∧
      groupIdKey ≠ managedByKey := by decide
  unfold base
  rcases r.group with _ | g
  · dsimp only
    grind [Dict.get?_insert, Dict.get?_empty]
  · dsimp only
    grind [Dict.get?_insert, Dict.get?_empty]

theorem isValue_managedBy : IsValue managedBy := by decide

/-- The common labels of a request have values, but for that of a group that is not cut off well. -/
theorem isValue_base_iff {key : String} (h : (base r.appId r).get? key = some v) :
    IsValue v ↔ (key = groupIdKey → ∀ g ∈ r.group, EndsWell g) := by
  rw [get?_base] at h
  split at h
  next hkey =>
    obtain rfl := Option.some.inj h
    refine iff_of_true (.of_isTidy (AppId.isTidy_appId r)) fun hgroup => ?_
    rw [hgroup] at hkey
    exact absurd hkey (by decide)
  split at h
  next hkey =>
    obtain rfl := Option.some.inj h
    refine iff_of_true isValue_managedBy fun hgroup => ?_
    rw [hgroup] at hkey
    exact absurd hkey (by decide)
  split at h
  next hkey =>
    obtain ⟨g, hg, rfl⟩ := Option.map_eq_some_iff.1 h
    rw [isValue_sanitizeValue_iff, hg]
    simp only [hkey, Option.mem_some, forall_eq', true_imp_iff]
  next => cases h

/-- The label for the group of a request has a value exactly if the group is not cut off behind a
    sign, and that for the id of an instance exactly if the name or the group has a letter or a
    digit. All other labels of a request and of its instances have values. -/
theorem label_isValue_iff (r : Request) (key v : String) :
    ((base r.appId r).get? key = some v →
      (IsValue v ↔ (key = groupIdKey → ∀ g ∈ r.group, EndsWell g))) ∧
    ∀ i : UInt32, (forInstance (base r.appId r) (r.appId.instanceId i)).get? key = some v →
      (IsValue v ↔ (key = groupIdKey → ∀ g ∈ r.group, EndsWell g) ∧
        (key = deploymentIdKey → (Text.hasAlnum r.name || r.group.any Text.hasAlnum) = true)) := by
  refine ⟨isValue_base_iff, fun i h => ?_⟩
  rw [forInstance, Dict.get?_insert] at h
  split at h
  next hkey =>
    obtain rfl := Option.some.inj h
    have hgroup : key ≠ groupIdKey := by
      rw [hkey]
      decide
    rw [isValue_instanceId_iff (AppId.isTidy_appId r) i, AppId.appId_ne_empty_iff]
    exact ⟨fun hid => ⟨fun hg => absurd hg hgroup, fun _ => hid⟩, fun h => h.2 hkey⟩
  next hkey =>
    rw [isValue_base_iff h]
    exact (and_iff_left fun hdeployment => absurd hdeployment hkey).symm

/-- A request for a name in a group. -/
def namedInGroup (name group : String) : Request where
  name := name
  artifact := .image "ticker:1.0"
  properties := Dict.ofList [(Keys.group, group)]

/-- A text of 62 letters that goes on behind them. -/
def longText (rest : String) : String := String.ofList (List.replicate 62 'a') ++ rest

/-- A request for a group that is cut off behind a letter. -/
def cutAtLetter : Request := namedInGroup "ticker" (longText "b-c")

theorem endsWell_cutAtLetter : ∀ g ∈ cutAtLetter.group, EndsWell g := by
  have hgroup : cutAtLetter.group = some (longText "b-c") := by decide +kernel
  have hkept : (core (longText "b-c"))[62]? = some 'b' := by decide +kernel
  rw [hgroup]
  rintro g ⟨⟩ c hc
  cases hkept.symm.trans hc
  rfl

theorem label_isValue_iff_cutAtLetter : ∃ group id,
    (base cutAtLetter.appId cutAtLetter).get? groupIdKey = some group ∧
    group = longText "b" ∧ IsValue group ∧
    (forInstance (base cutAtLetter.appId cutAtLetter) (cutAtLetter.appId.instanceId 7)).get?
      deploymentIdKey = some id ∧
    id = String.ofList (List.replicate 61 'a') ++ "-7" ∧ IsValue id := by
  have hgroup : (base cutAtLetter.appId cutAtLetter).get? groupIdKey = some (longText "b") := by
    decide +kernel
  have hid : (forInstance (base cutAtLetter.appId cutAtLetter)
      (cutAtLetter.appId.instanceId 7)).get? deploymentIdKey =
        some (String.ofList (List.replicate 61 'a') ++ "-7") := by
    decide +kernel
  refine ⟨_, _, hgroup, rfl, ?_, hid, rfl, ?_⟩
  · exact ((label_isValue_iff _ _ _).1 hgroup).2 fun _ => endsWell_cutAtLetter
  · refine ((label_isValue_iff _ _ _).2 7 hid).2 ⟨fun hkey => ?_, fun _ => by decide +kernel⟩
    exact absurd hkey (by decide)

/-- A request for a group that is cut off behind a sign. -/
def cutAtSign : Request := namedInGroup "ticker" (longText "-b")

/-- The label for such a group has no value that a label can have, and neither has that for an
    instance of an application whose id is empty. -/
theorem label_not_isValue :
    (base cutAtSign.appId cutAtSign).get? groupIdKey = some (longText "-") ∧
    ¬ IsValue (longText "-") ∧
    (forInstance (base (namedInGroup "-" "").appId (namedInGroup "-" ""))
      ((namedInGroup "-" "").appId.instanceId 0)).get? deploymentIdKey = some "-0" ∧
    ¬ IsValue "-0" := by
  refine ⟨?_, ?_, ?_, ?_⟩ <;> decide +kernel

end Slipway.Labels

import Slipway.Proofs.Labels.Selector

/-
  Ids as names of objects. The id of a name, with its group or without, is a label of the domain
  name system if the name or the group has a letter or a digit, and so are then the ids of all its
  instances; if neither has one the id is empty (`isDnsLabel_ofParts`). What keeps an id from
  changing when it is derived again is that it is plain, has no dash at either end and fits
  (`IsTidy`, `IsTidy.sanitize_eq`).
-/

namespace Slipway

/-! ## Letters and digits -/

namespace Text

variable {c : Char}

theorem isAlphanum_iff : c.isAlphanum = true ↔ 65 ≤ c.toNat ∧ c.toNat ≤ 90 ∨
    97 ≤ c.toNat ∧ c.toNat ≤ 122 ∨ 48 ≤ c.toNat ∧ c.toNat ≤ 57 := by
  have h : c.isAlphanum = (decide (65 ≤ c.val ∧ c.val ≤ 90) ||
      (decide (97 ≤ c.val) && decide (c.val ≤ 122)) ||
      (decide (48 ≤ c.val) && decide (c.val ≤ 57))) := rfl
  simp only [h, Bool.or_eq_true, Bool.and_eq_true, decide_eq_true_eq, UInt32.le_iff_toNat_le,
    or_assoc]
  rfl

theorem toNat_toLower (c : Char) : c.toLower.toNat =
    if 65 ≤ c.toNat ∧ c.toNat ≤ 90 then c.toNat + 32 else c.toNat := by
  unfold Char.toLower
  split
  next h =>
    have hc : 65 ≤ c.toNat ∧ c.toNat ≤ 90 := by simpa [UInt32.le_iff_toNat_le] using h
    rw [if_pos hc, Char.toNat_mk, UInt32.toNat_add]
    show (c.toNat + 32) % 4294967296 = _
    omega
  next h =>
    have hc : ¬ (65 ≤ c.toNat ∧ c.toNat ≤ 90) := by simpa [UInt32.le_iff_toNat_le] using h
    rw [if_neg hc]

theorem isBlank_of_isAlphanum (h : c.isAlphanum = true) : isBlank c = false := by
  have hc := isAlphanum_iff.1 h
  simp only [isBlank, Bool.or_eq_false_iff, Bool.and_eq_false_iff, decide_eq_false_iff_not,
    beq_eq_false_iff_ne]
  omega

/-- Whether a text has a letter or a digit. -/
def hasAlnum (s : String) : Bool := s.toList.any Char.isAlphanum

theorem hasAlnum_append (s t : String) : hasAlnum (s ++ t) = (hasAlnum s || hasAlnum t) := by
  rw [hasAlnum, String.toList_append, List.any_append]
  rfl

theorem hasAlnum_trim (s : String) : hasAlnum (trim s) = hasAlnum s := by
  unfold hasAlnum trim
  rw [String.toList_ofList, Bool.eq_iff_iff, List.any_eq_true, List.any_eq_true]
  refine exists_congr fun c => and_congr_left fun hc => ?_
  exact mem_strip_iff (isBlank_of_isAlphanum hc)

end Text

namespace AppId

variable {cs : List Char} {c : Char}

theorem isLowerAlnum_eq (c : Char) : isLowerAlnum c = (c.isLower || c.isDigit) := rfl

theorem isLowerAlnum_iff : isLowerAlnum c = true ↔
    97 ≤ c.toNat ∧ c.toNat ≤ 122 ∨ 48 ≤ c.toNat ∧ c.toNat ≤ 57 := by
  simp only [isLowerAlnum, Char.le_def, UInt32.le_iff_toNat_le, Bool.or_eq_true, Bool.and_eq_true,
    decide_eq_true_eq]
  rfl

/-- The letters and digits are what may stand in an id, dashes apart, once it is lower-cased. -/
theorem isLowerAlnum_toLower (c : Char) : isLowerAlnum c.toLower = c.isAlphanum := by
  rw [Bool.eq_iff_iff, isLowerAlnum_iff, Text.isAlphanum_iff, Text.toNat_toLower]
  split <;> omega

theorem isDash_of_isLowerAlnum (h : isLowerAlnum c = true) : isDash c = false := by
  rw [isDash, beq_eq_false_iff_ne]
  rintro rfl
  exact absurd h (by decide)

/-! ## Tidy texts -/

/-- What stands in an id for a character of a name. -/
def idChar (c : Char) : Char :=
  if isLowerAlnum c.toLower || isDash c.toLower then c.toLower else '-'

theorem sanitize_eq (cs : List Char) : sanitize cs =
    Text.stripEnd isDash ((Text.strip isDash (cs.map idChar)).take maxLength) := rfl

theorem isDash_idChar (c : Char) : isDash (idChar c) = !c.isAlphanum := by
  rw [← isLowerAlnum_toLower, idChar]
  split
  next h =>
    rcases hl : isLowerAlnum c.toLower
    · rw [hl, Bool.false_or] at h
      rw [h]
      rfl
    · rw [isDash_of_isLowerAlnum hl]
      rfl
  next h =>
    rw [Bool.not_eq_true, Bool.or_eq_false_iff] at h
    rw [h.1]
    rfl

theorem idChar_of_plain (h : (isLowerAlnum c || isDash c) = true) : idChar c = c := by
  have hlower : c.toLower = c := by
    rw [← Char.toNat_inj, Text.toNat_toLower, if_neg]
    rcases range_of_plain h with rfl | hc
    · decide
    · omega
  rw [idChar, hlower, if_pos h]

/-- A text that is an id as it stands. -/
structure IsTidy (cs : List Char) : Prop where
  plain : ∀ c ∈ cs, (isLowerAlnum c || isDash c) = true
  bare : Text.Bare isDash cs
  length_le : cs.length ≤ maxLength

theorem isTidy_sanitize (cs : List Char) : IsTidy (sanitize cs) where
  plain _ hc := plain_of_mem_sanitize hc
  bare := (Text.bare_strip isDash _).stripEnd_take maxLength
  length_le := (Text.length_stripEnd_le isDash _).trans (List.length_take_le _ _)

theorem IsTidy.sanitize_eq (h : IsTidy cs) : sanitize cs = cs := by
  have hmap : cs.map idChar = cs := by
    rw [List.map_congr_left fun c hc => idChar_of_plain (h.plain c hc), List.map_id']
  rw [AppId.sanitize_eq, hmap, h.bare.strip_eq, List.take_of_length_le h.length_le,
    h.bare.stripEnd_eq]

theorem sanitize_eq_nil_iff : sanitize cs = [] ↔ ∀ c ∈ cs, c.isAlphanum = false := by
  rw [sanitize_eq, (Text.bare_strip isDash _).stripEnd_take_eq_nil_iff (by decide),
    Text.strip_eq_nil_iff, List.forall_mem_map]
  refine forall₂_congr fun c _ => ?_
  rw [isDash_idChar, Bool.not_eq_true']

/-! ## Labels of the domain name system -/

/-- A label of the domain name system: 1 to 63 lower-case letters, digits and dashes, with a letter
    or a digit at either end. -/
structure IsDnsLabel (s : String) : Prop where
  length_pos : 1 ≤ s.length
  length_le : s.length ≤ 63
  chars : ∀ c ∈ s.toList, c.isLower ∨ c.isDigit ∨ c = '-'
  first : ∀ c ∈ s.toList.head?, c.isAlphanum
  last : ∀ c ∈ s.toList.getLast?, c.isAlphanum

theorem isAlphanum_of_plain (h : (isLowerAlnum c || isDash c) = true) (hd : isDash c = false) :
    c.isAlphanum = true := by
  rw [hd, Bool.or_false, isLowerAlnum_iff] at h
  exact Text.isAlphanum_iff.2 (.inr h)

theorem IsTidy.isAlphanum_head (h : IsTidy cs) (hc : c ∈ cs.head?) : c.isAlphanum = true :=
  isAlphanum_of_plain (h.plain c (List.mem_of_head? hc)) (h.bare.first c hc)

theorem IsTidy.isAlphanum_last (h : IsTidy cs) (hc : c ∈ cs.getLast?) : c.isAlphanum = true :=
  isAlphanum_of_plain (h.plain c (List.mem_of_getLast? hc)) (h.bare.last c hc)

theorem IsTidy.isDnsLabel {s : String} (h : IsTidy s.toList) (hs : s ≠ "") : IsDnsLabel s where
  length_pos := by
    rw [Nat.one_le_iff_ne_zero]
    exact mt String.length_eq_zero_iff.1 hs
  length_le := h.length_le
  chars c hc := by
    have hplain := h.plain c hc
    rw [isLowerAlnum_eq, Bool.or_eq_true, Bool.or_eq_true, or_assoc] at hplain
    exact hplain.imp_right fun hc => hc.imp_right beq_iff_eq.1
  first _ := h.isAlphanum_head
  last _ := h.isAlphanum_last

/-! ## Ids that are derived -/

/-- The text that an id is made of. -/
def combined (name : String) (group : Option String) : String :=
  match group.bind Text.nonBlank? with
  | some g => g ++ "-" ++ name
  | none => name

theorem toList_ofParts (name : String) (group : Option String) :
    (ofParts name group).text.toList = sanitize (combined name group).toList :=
  String.toList_ofList

theorem hasAlnum_combined (name : String) (group : Option String) :
    Text.hasAlnum (combined name group) = (Text.hasAlnum name || group.any Text.hasAlnum) := by
  rcases group with _ | g
  · exact (Bool.or_false _).symm
  · unfold combined
    rw [Option.bind_some, Option.any_some, ← Text.hasAlnum_trim g, Text.nonBlank?]
    by_cases hblank : Text.trim g = ""
    · rw [if_pos hblank, hblank]
      exact (Bool.or_false _).symm
    · rw [if_neg hblank]
      dsimp only
      rw [Text.hasAlnum_append, Text.hasAlnum_append, Bool.or_comm]
      exact congrArg _ (Bool.or_false _)

theorem ofParts_eq_empty_iff {name : String} {group : Option String} :
    (ofParts name group).text = "" ↔ (Text.hasAlnum name || group.any Text.hasAlnum) = false := by
  rw [← hasAlnum_combined, ← String.toList_eq_nil_iff, toList_ofParts, sanitize_eq_nil_iff,
    Text.hasAlnum, List.any_eq_false]
  simp only [Bool.not_eq_true]

theorem isTidy_ofParts (name : String) (group : Option String) :
    IsTidy (ofParts name group).text.toList := by
  rw [toList_ofParts]
  exact isTidy_sanitize _

theorem isTidy_appId (r : Request) : IsTidy r.appId.text.toList := isTidy_ofParts r.name r.group

theorem appId_ne_empty_iff (r : Request) :
    r.appId.text ≠ "" ↔ (Text.hasAlnum r.name || r.group.any Text.hasAlnum) = true :=
  (not_congr ofParts_eq_empty_iff).trans (Bool.not_eq_false _).to_iff

/-- A tidy text is an id already. -/
theorem IsTidy.ofParts_eq {id : AppId} (h : IsTidy id.text.toList) : ofParts id.text none = id := by
  have htext : (ofParts id.text none).text.toList = id.text.toList :=
    (toList_ofParts id.text none).trans h.sanitize_eq
  exact congrArg AppId.mk (String.toList_inj.1 htext)

/-! ## Ids of instances -/

theorem isLowerAlnum_of_mem_digits {n : Nat} (h : c ∈ Text.digits n) : isLowerAlnum c = true := by
  refine Classical.byContradiction fun hc => Text.notMem_digits (fun d hd he => hc ?_) n h
  have hall : ∀ d < 10, isLowerAlnum (Text.digitChar d) = true := by decide
  exact he ▸ hall d hd

theorem instanceId_ne_empty (id : AppId) (i : UInt32) : (id.instanceId i).text ≠ "" := by
  obtain ⟨base, hbase⟩ := id.toList_instanceId i
  rw [ne_eq, ← String.toList_eq_nil_iff, hbase]
  simp

/-- A number keeps a tidy text tidy as long as it fits. -/
theorem IsTidy.numbered {base : String} {n : Nat} (h : IsTidy base.toList) (hbase : base ≠ "")
    (hlength : (Text.numbered base n).toList.length ≤ maxLength) :
    IsTidy (Text.numbered base n).toList := by
  rw [Text.toList_numbered] at hlength ⊢
  refine ⟨fun c hc => ?_, ⟨fun c hc => ?_, fun c hc => ?_⟩, hlength⟩
  · rw [List.mem_append, List.mem_cons] at hc
    rcases hc with hc | rfl | hc
    · exact h.plain c hc
    · decide
    · rw [isLowerAlnum_of_mem_digits hc, Bool.true_or]
  · rw [List.head?_append_of_ne_nil _ (mt String.toList_eq_nil_iff.1 hbase)] at hc
    exact h.bare.first c hc
  · have hdigits := Text.digits_ne_nil n
    rw [List.getLast?_append, List.getLast?_cons_of_ne_nil hdigits,
      List.getLast?_eq_some_getLast hdigits, Option.some_or] at hc
    cases hc
    exact isDash_of_isLowerAlnum (isLowerAlnum_of_mem_digits (List.getLast_mem hdigits))

/-- What an instance keeps of the id of its application is not empty, as there is room for it and
    the id does not begin with a dash. -/
theorem IsTidy.exists_base {id : AppId} (h : IsTidy id.text.toList) (hid : id.text ≠ "")
    (i : UInt32) : ∃ base, base ≠ "" ∧ IsTidy base.toList ∧ base.toList <+: id.text.toList ∧
      (id.instanceId i).text = Text.numbered base i.toNat := by
  let room := maxLength - ('-' :: Text.digits i.toNat).length
  let base := Text.stripEnd isDash (id.text.toList.take room)
  have hroom : 0 < room := Nat.sub_pos_of_lt (length_suffix_lt i)
  have hstart : base <+: id.text.toList :=
    (Text.stripEnd_prefix_self isDash _).trans <| List.take_prefix room _
  have hbase : base ≠ [] :=
    mt (h.bare.stripEnd_take_eq_nil_iff hroom).1 (mt String.toList_eq_nil_iff.1 hid)
  have htidy : IsTidy base := ⟨fun c hc => h.plain c (hstart.mem hc),
    h.bare.stripEnd_take room, hstart.length_le.trans h.length_le⟩
  refine ⟨String.ofList base, ?_, ?_, ?_, ?_⟩
  · rwa [ne_eq, ← String.toList_eq_nil_iff, String.toList_ofList]
  · rwa [String.toList_ofList]
  · rwa [String.toList_ofList]
  · rw [← String.toList_inj, Text.toList_numbered, String.toList_ofList]
    exact String.toList_ofList

theorem IsTidy.instanceId {id : AppId} (h : IsTidy id.text.toList) (hid : id.text ≠ "")
    (i : UInt32) : IsTidy (id.instanceId i).text.toList := by
  obtain ⟨base, hbase, htidy, -, htext⟩ := h.exists_base hid i
  have hlength : (id.instanceId i).text.toList.length ≤ maxLength := id.length_instanceId_le i
  rw [htext] at hlength ⊢
  exact htidy.numbered hbase hlength

/-- An id is a label of the domain name system where the name or the group has a letter or a digit,
    and so is then the id of each instance, which keeps a part of the id before its index. Where
    neither has one the id is empty. An index always leaves room for a part of the id, and what was
    derived once stays the same when it is derived again. -/
theorem isDnsLabel_ofParts (name : String) (group : Option String) :
    (if Text.hasAlnum name || group.any Text.hasAlnum then
      IsDnsLabel (ofParts name group).text ∧ ∀ i : UInt32,
        IsDnsLabel ((ofParts name group).instanceId i).text ∧
        (∃ base, base ≠ "" ∧ base.toList <+: (ofParts name group).text.toList ∧
          ((ofParts name group).instanceId i).text = Text.numbered base i.toNat) ∧
        ofParts ((ofParts name group).instanceId i).text none = (ofParts name group).instanceId i
    else (ofParts name group).text = "") ∧
    (∀ i : UInt32, ('-' :: Text.digits i.toNat).length < maxLength) ∧
    ofParts (ofParts name group).text none = ofParts name group := by
  have htidy := isTidy_ofParts name group
  refine ⟨?_, length_suffix_lt, htidy.ofParts_eq⟩
  split
  next hsome =>
    have hid : (ofParts name group).text ≠ "" := fun he => by
      rw [ofParts_eq_empty_iff.1 he] at hsome
      cases hsome
    refine ⟨htidy.isDnsLabel hid, fun i => ?_⟩
    obtain ⟨base, hbase, -, hstart, htext⟩ := htidy.exists_base hid i
    have hinstance := htidy.instanceId hid i
    exact ⟨hinstance.isDnsLabel (instanceId_ne_empty _ i), ⟨base, hbase, hstart, htext⟩,
      hinstance.ofParts_eq⟩
  next hnone => exact ofParts_eq_empty_iff.2 (Bool.not_eq_true _ ▸ hnone)

end AppId

end Slipway

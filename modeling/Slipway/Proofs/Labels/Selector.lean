import Slipway.Labels
import Slipway.Proofs.Text.Numbering

/-
  The selector of an application. An id that has no comma and no blank at its ends is read from its
  selector as it was written there, so the selector is the one condition that it was written for and
  selects exactly what bears the label of the application (`satisfies_appSelector_iff`). An id
  that is derived from a name is one of these (`AppId.isPlain_ofParts`, `satisfies_appSelector`).
-/

namespace Slipway

namespace Text

theorem split_eq_singleton {sep : Char} {s : String} (h : sep ∉ s.toList) : split sep s = [s] := by
  have hs : s.toList.splitOn sep = [s.toList] := by
    rw [List.splitOn_eq_splitOnP]
    refine List.splitOnP_eq_singleton fun c hc => ?_
    rw [beq_eq_false_iff_ne]
    rintro rfl
    exact h hc
  rw [split, hs, List.map_singleton, String.ofList_toList]

end Text

/-! ## Ids -/

namespace AppId

/-- An id of characters that may stand in one. -/
def IsPlain (id : AppId) : Prop := ∀ c ∈ id.text.toList, (isLowerAlnum c || isDash c) = true

theorem plain_of_mem_sanitize {cs : List Char} {c : Char} (hc : c ∈ sanitize cs) :
    (isLowerAlnum c || isDash c) = true := by
  have hkept := List.mem_of_mem_take (Text.mem_of_mem_stripEnd hc)
  obtain ⟨c', -, rfl⟩ := List.mem_map.1 (Text.mem_of_mem_strip hkept)
  dsimp only
  split
  · assumption
  · decide

theorem isPlain_ofParts (name : String) (group : Option String) : (ofParts name group).IsPlain := by
  intro c hc
  unfold ofParts at hc
  rw [String.toList_ofList] at hc
  exact plain_of_mem_sanitize hc

theorem isPlain_appId (r : Request) : r.appId.IsPlain := isPlain_ofParts _ _

/-- A character of an id is a dash, or it lies among the letters or the digits. -/
theorem range_of_plain {c : Char} (h : (isLowerAlnum c || isDash c) = true) :
    c = '-' ∨ 97 ≤ c.toNat ∧ c.toNat ≤ 122 ∨ 48 ≤ c.toNat ∧ c.toNat ≤ 57 := by
  simp only [isLowerAlnum, isDash, Char.le_def, UInt32.le_iff_toNat_le, Bool.or_eq_true,
    Bool.and_eq_true, decide_eq_true_eq, beq_iff_eq] at h
  exact h.symm

theorem isBlank_of_plain {c : Char} (h : (isLowerAlnum c || isDash c) = true) :
    Text.isBlank c = false := by
  rcases range_of_plain h with rfl | hc
  · decide
  · simp only [Text.isBlank, Bool.or_eq_false_iff, Bool.and_eq_false_iff, decide_eq_false_iff_not,
      beq_eq_false_iff_ne]
    omega

/-- An id that is read from a selector as it was written: there is no comma that would end the
    condition before, and no blank that would be stripped. -/
structure IsSelectable (id : AppId) : Prop where
  comma : ',' ∉ id.text.toList
  blank : Text.trim id.text = id.text

theorem IsPlain.isSelectable {id : AppId} (h : id.IsPlain) : id.IsSelectable where
  comma hcomma := absurd (h ',' hcomma) (by decide)
  blank := Text.trim_eq_self fun c hc => isBlank_of_plain (h c hc)

end AppId

/-! ## The selector -/

namespace Labels

theorem toList_appSelector (id : AppId) :
    (appSelector id).toList = appIdKey.toList ++ '=' :: id.text.toList := by
  simp [appSelector, String.toList_append]

theorem trim_appSelector {id : AppId} (h : id.IsSelectable) :
    Text.trim (appSelector id) = appSelector id := by
  have hkey : Text.Bare Text.isBlank (appIdKey ++ "=").toList := by
    have hall : (appIdKey ++ "=").toList.all (fun c => !Text.isBlank c) = true := by decide
    exact Text.bare_of_all fun c hc => by simpa using List.all_eq_true.1 hall c hc
  rw [Text.trim_eq_self_iff, appSelector, String.toList_append]
  exact hkey.append (by simp) (Text.trim_eq_self_iff.1 h.blank).last

/-- The selector of an application is one condition, that the label has the id for its value. -/
theorem terms_appSelector {id : AppId} (h : id.IsSelectable) :
    ((Text.split ',' (appSelector id)).map Text.trim).filter (· ≠ "") = [appSelector id] := by
  have hcomma : ',' ∉ (appSelector id).toList := by
    rw [appSelector, String.toList_append, List.mem_append]
    exact not_or_intro (by decide) h.comma
  have hne : appSelector id ≠ "" := by
    intro he
    have hl := congrArg String.toList he
    rw [toList_appSelector] at hl
    simp at hl
  rw [Text.split_eq_singleton hcomma, List.map_singleton, trim_appSelector h]
  exact List.filter_cons_of_pos (decide_eq_true hne)

theorem satisfies_appSelector_iff {id : AppId} (h : id.IsSelectable) (labels : Attributes) :
    satisfies labels (appSelector id) = true ↔ labels.get? appIdKey = some id.text := by
  have hcut : Text.cutFirst '=' (appSelector id).toList =
      some (appIdKey.toList, id.text.toList) := by
    rw [toList_appSelector]
    exact Text.cutFirst_append (by decide)
  have hkey : Text.trim (String.ofList appIdKey.toList) = appIdKey := by decide +kernel
  have hid : Text.trim (String.ofList id.text.toList) = id.text := by
    rw [String.ofList_toList, h.blank]
  rw [satisfies, terms_appSelector h, List.all_cons, List.all_nil, Bool.and_true, termHolds, hcut]
  dsimp only
  rw [hkey, hid, beq_iff_eq]

/-- What the selector of an application selects is what bears its label. -/
theorem satisfies_appSelector {id : AppId} (h : id.IsPlain) (labels : Attributes) :
    satisfies labels (appSelector id) = true ↔ labels.get? appIdKey = some id.text :=
  satisfies_appSelector_iff h.isSelectable labels

end Labels

end Slipway

import Slipway.Proofs.Dict.Entries
import Slipway.Proofs.Text.Splitting
import Slipway.Request

/-
  Properties that hold pairs of names and values. Reading one fails exactly if an entry is
  malformed, and the failure is about the first of these; else every name has the value that the
  last entry gives which gives it one (`parsePairs_cases`, `get?_filterMap_pair?`). A map of plain
  pairs is read back from what it is written as, in whatever order its pairs stand and with whatever
  blanks (`parsePairs_of_isWritten`).
-/

namespace Slipway

namespace Request

variable {sep : Char} {key entry name value raw : String} {parts : List String}

/-! ## Entries -/

/-- What stands before the first separator of an entry is the name of what stands behind it. Blanks
    at the ends of either do not count. -/
def Gives (sep : Char) (entry name value : String) : Prop :=
  ∃ a b : List Char, entry.toList = a ++ sep :: b ∧ sep ∉ a ∧ name ≠ "" ∧
    name = Text.trim (String.ofList a) ∧ value = Text.trim (String.ofList b)

/-- An entry that is not blank and has no separator, or nothing but blanks before the first. -/
def IsMalformed (sep : Char) (entry : String) : Prop :=
  Text.trim entry ≠ "" ∧ (sep ∉ entry.toList ∨
    ∃ a b : List Char, entry.toList = a ++ sep :: b ∧ sep ∉ a ∧ Text.trim (String.ofList a) = "")

/-- The pair that an entry gives. -/
def pair? (sep : Char) (entry : String) : Option (String × String) :=
  (Text.cutFirst sep entry.toList).bind fun (a, b) =>
    (Text.nonBlank? (String.ofList a)).map fun name => (name, Text.trim (String.ofList b))

theorem pair?_eq_some_iff : pair? sep entry = some (name, value) ↔ Gives sep entry name value := by
  unfold pair? Text.nonBlank?
  simp only [Option.bind_eq_some_iff, Option.map_eq_some_iff, Prod.exists, Prod.mk.injEq]
  constructor
  · rintro ⟨a, b, hcut, name', hname, rfl, rfl⟩
    obtain ⟨hentry, ha⟩ := Text.cutFirst_eq_some hcut
    split at hname
    · cases hname
    next hne =>
      obtain rfl := Option.some.inj hname
      exact ⟨a, b, hentry, ha, hne, rfl, rfl⟩
  · rintro ⟨a, b, hentry, ha, hne, rfl, rfl⟩
    exact ⟨a, b, hentry ▸ Text.cutFirst_append ha, _, if_neg hne, rfl, rfl⟩

theorem isMalformed_iff :
    IsMalformed sep entry ↔ Text.trim entry ≠ "" ∧ pair? sep entry = none := by
  refine and_congr_right fun _ => ?_
  unfold pair? Text.nonBlank?
  cases hcut : Text.cutFirst sep entry.toList with
  | none =>
    exact iff_of_true (.inl (Text.cutFirst_eq_none_iff.1 hcut)) rfl
  | some ab =>
    obtain ⟨a, b⟩ := ab
    obtain ⟨hentry, ha⟩ := Text.cutFirst_eq_some hcut
    have hmem : sep ∈ entry.toList := by simp [hentry]
    simp only [Option.bind_some, Option.map_eq_none_iff]
    constructor
    · rintro (hnot | ⟨a', b', hentry', ha', hblank⟩)
      · exact absurd hmem hnot
      · rw [hentry', Text.cutFirst_append ha'] at hcut
        cases hcut
        exact if_pos hblank
    · intro hname
      refine .inr ⟨a, b, hentry, ha, ?_⟩
      by_contra hne
      rw [if_neg hne] at hname
      cases hname

theorem pair?_of_blank (hsep : Text.isBlank sep = false) (h : Text.trim entry = "") :
    pair? sep entry = none := by
  rw [pair?, Text.cutFirst_eq_none_iff.2 (Text.notMem_of_all (Text.trim_eq_empty_iff.1 h) hsep)]
  rfl

/-- An entry gives its pair, and another is refused. -/
theorem parsePair_trim (hsep : Text.isBlank sep = false) (key entry : String) :
    parsePair sep key (Text.trim entry) = match pair? sep entry with
      | some pair => .ok pair
      | none => .error (.config (.badPair (Text.trim entry) key sep)) := by
  have hpadded := Text.isPadded_trim entry
  cases hcut : Text.cutFirst sep (Text.trim entry).toList with
  | none =>
    have hnot : sep ∉ entry.toList := by
      rw [hpadded.mem_iff hsep]
      exact Text.cutFirst_eq_none_iff.1 hcut
    have hpair : pair? sep entry = none := by
      rw [pair?, Text.cutFirst_eq_none_iff.2 hnot]
      rfl
    rw [hpair, parsePair, hcut]
  | some ab =>
    obtain ⟨a, b⟩ := ab
    obtain ⟨a', b', hcut', ha, hb⟩ := hpadded.cutFirst hsep hcut
    have hpair : pair? sep entry = (Text.nonBlank? (String.ofList a)).map fun name =>
        (name, Text.trim (String.ofList b)) := by
      simp only [pair?, hcut', Option.bind_some, Text.nonBlank?, ha.trim_eq, hb.trim_eq]
    rw [hpair, parsePair, hcut, Text.nonBlank?]
    dsimp only
    split <;> rfl

/-- The entries of a text are read one after the other, up to the first that is malformed. -/
theorem mapM_parsePair_cases (hsep : Text.isBlank sep = false) (key : String)
    (parts : List String) :
    (∀ e ∈ parts, ¬ IsMalformed sep e) ∧
      ((parts.map Text.trim).filter (· ≠ "")).mapM (parsePair sep key) =
        .ok (parts.filterMap (pair? sep)) ∨
    ∃ front e rest, parts = front ++ e :: rest ∧ (∀ e' ∈ front, ¬ IsMalformed sep e') ∧
      IsMalformed sep e ∧ ((parts.map Text.trim).filter (· ≠ "")).mapM (parsePair sep key) =
        .error (.config (.badPair (Text.trim e) key sep)) := by
  induction parts with
  | nil => exact .inl ⟨by simp, rfl⟩
  | cons e parts ih =>
    by_cases hblank : Text.trim e = ""
    · -- a blank entry gives nothing
      have hwell : ¬ IsMalformed sep e := fun h => h.1 hblank
      rw [List.map_cons, List.filter_cons_of_neg (by simpa using hblank),
        List.filterMap_cons_none (pair?_of_blank hsep hblank)]
      rcases ih with ⟨hall, hok⟩ | ⟨front, e', rest, rfl, hall, hbad, herror⟩
      · exact .inl ⟨List.forall_mem_cons.2 ⟨hwell, hall⟩, hok⟩
      · exact .inr ⟨e :: front, e', rest, rfl, List.forall_mem_cons.2 ⟨hwell, hall⟩, hbad, herror⟩
    · rw [List.map_cons, List.filter_cons_of_pos (by simpa using hblank), List.mapM_cons,
        parsePair_trim hsep]
      cases hpair : pair? sep e with
      | none =>
        exact .inr ⟨[], e, parts, rfl, by simp, isMalformed_iff.2 ⟨hblank, hpair⟩, rfl⟩
      | some pair =>
        have hwell : ¬ IsMalformed sep e := fun h => by
          rw [(isMalformed_iff.1 h).2] at hpair
          cases hpair
        rw [List.filterMap_cons_some hpair]
        rcases ih with ⟨hall, hok⟩ | ⟨front, e', rest, rfl, hall, hbad, herror⟩
        · refine .inl ⟨List.forall_mem_cons.2 ⟨hwell, hall⟩, ?_⟩
          rw [hok]
          rfl
        · refine .inr ⟨e :: front, e', rest, rfl, List.forall_mem_cons.2 ⟨hwell, hall⟩, hbad, ?_⟩
          rw [herror]
          rfl

/-- A text is read up to the first of its entries that is malformed. -/
theorem parsePairs_cases (hsep : Text.isBlank sep = false) (key raw : String) :
    (∀ e ∈ Text.split ',' raw, ¬ IsMalformed sep e) ∧
      parsePairs sep key raw = .ok (Dict.ofList ((Text.split ',' raw).filterMap (pair? sep))) ∨
    ∃ front e rest, Text.split ',' raw = front ++ e :: rest ∧
      (∀ e' ∈ front, ¬ IsMalformed sep e') ∧ IsMalformed sep e ∧
        parsePairs sep key raw = .error (.config (.badPair (Text.trim e) key sep)) := by
  unfold parsePairs
  dsimp only
  rcases mapM_parsePair_cases hsep key (Text.split ',' raw) with
    ⟨hall, hok⟩ | ⟨front, e, rest, hsplit, hall, hbad, herror⟩
  · exact .inl ⟨hall, by rw [hok]; rfl⟩
  · exact .inr ⟨front, e, rest, hsplit, hall, hbad, by rw [herror]; rfl⟩

/-- Of the entries that give a name the last counts. -/
theorem get?_filterMap_pair? {parts : List String} :
    (Dict.ofList (parts.filterMap (pair? sep))).get? name = some value ↔
      ∃ front e rest, parts = front ++ e :: rest ∧ Gives sep e name value ∧
        ∀ e' ∈ rest, ∀ v, ¬ Gives sep e' name v := by
  rw [Dict.get?_ofList_eq_some_iff]
  constructor
  · rintro ⟨front, rest, hsplit, hrest⟩
    obtain ⟨parts₁, parts₂, rfl, -, hparts₂⟩ := List.filterMap_eq_append_iff.1 hsplit
    obtain ⟨before, e, after, rfl, -, he, rfl⟩ := List.filterMap_eq_cons_iff.1 hparts₂
    refine ⟨parts₁ ++ before, e, after, by simp, pair?_eq_some_iff.1 he, fun e' he' v hv => ?_⟩
    exact hrest (name, v) (List.mem_filterMap.2 ⟨e', he', pair?_eq_some_iff.2 hv⟩) rfl
  · rintro ⟨front, e, rest, rfl, he, hrest⟩
    refine ⟨front.filterMap (pair? sep), rest.filterMap (pair? sep), ?_, ?_⟩
    · rw [List.filterMap_append, List.filterMap_cons_some (pair?_eq_some_iff.2 he)]
    · rintro ⟨name', v⟩ hmem rfl
      obtain ⟨e', he', hpair⟩ := List.mem_filterMap.1 hmem
      exact hrest e' he' v (pair?_eq_some_iff.1 hpair)

/-! ## Properties -/

/-- The blanks around a text show in none of its entries. -/
theorem parsePairs_trim (key raw : String) :
    parsePairs sep key (Text.trim raw) = parsePairs sep key raw := by
  rw [parsePairs, parsePairs, Text.map_trim_split_trim (by decide)]

theorem pairsProperty_eq {r : Request} (h : r.properties.get? key = some raw) :
    r.pairsProperty sep key = parsePairs sep key raw := by
  rw [pairsProperty, nonEmptyProperty, property, h, Option.map_some, ← parsePairs_trim key raw]
  by_cases hblank : Text.trim raw = ""
  · rw [hblank]
    rfl
  · rw [Option.filter_some_pos (by simpa using hblank)]

/-! ## Written pairs -/

/-- A pair that can be written: its name is not empty and has no separator, and neither part has a
    comma or a blank at its ends. -/
structure IsPlainPair (sep : Char) (name value : String) : Prop where
  name_ne : name ≠ ""
  name_sep : sep ∉ name.toList
  name_comma : ',' ∉ name.toList
  name_trim : Text.trim name = name
  value_comma : ',' ∉ value.toList
  value_trim : Text.trim value = value

/-- What pairs are written as: each has the separator between its name and its value, with blanks
    around all three, and blank entries stand wherever. -/
inductive IsWritten (sep : Char) : List (String × String) → List String → Prop
  | nil : IsWritten sep [] []
  | blank {pairs : List (String × String)} {parts : List String} {part : String}
    (hpart : Text.trim part = "") (h : IsWritten sep pairs parts) :
    IsWritten sep pairs (part :: parts)
  | pair {pairs : List (String × String)} {parts : List String} {name value name' value' : String}
    (hname : Text.IsPadded Text.isBlank name.toList name'.toList)
    (hvalue : Text.IsPadded Text.isBlank value.toList value'.toList)
    (h : IsWritten sep pairs parts) :
    IsWritten sep ((name, value) :: pairs) ((name' ++ String.singleton sep ++ value') :: parts)

instance (sep : Char) (name value : String) : Decidable (IsPlainPair sep name value) :=
  decidable_of_iff (name ≠ "" ∧ sep ∉ name.toList ∧ ',' ∉ name.toList ∧ Text.trim name = name ∧
      ',' ∉ value.toList ∧ Text.trim value = value)
    ⟨fun ⟨h₁, h₂, h₃, h₄, h₅, h₆⟩ => ⟨h₁, h₂, h₃, h₄, h₅, h₆⟩,
      fun h => ⟨h.name_ne, h.name_sep, h.name_comma, h.name_trim, h.value_comma, h.value_trim⟩⟩

theorem IsPlainPair.gives (h : IsPlainPair sep name value) (hsep : Text.isBlank sep = false)
    {name' value' : String} (hname : Text.IsPadded Text.isBlank name.toList name'.toList)
    (hvalue : Text.IsPadded Text.isBlank value.toList value'.toList) :
    Gives sep (name' ++ String.singleton sep ++ value') name value := by
  refine ⟨name'.toList, value'.toList, by simp, ?_, h.name_ne, ?_, ?_⟩
  · rw [hname.mem_iff hsep]
    exact h.name_sep
  · rw [hname.trim_eq, String.ofList_toList, h.name_trim]
  · rw [hvalue.trim_eq, String.ofList_toList, h.value_trim]

theorem IsPlainPair.comma_notMem (h : IsPlainPair sep name value) (hsep : sep ≠ ',')
    {name' value' : String} (hname : Text.IsPadded Text.isBlank name.toList name'.toList)
    (hvalue : Text.IsPadded Text.isBlank value.toList value'.toList) :
    ',' ∉ (name' ++ String.singleton sep ++ value').toList := by
  have hn : ',' ∉ name'.toList := mt (hname.mem_iff (by decide)).1 h.name_comma
  have hv : ',' ∉ value'.toList := mt (hvalue.mem_iff (by decide)).1 h.value_comma
  simp [hn, hv, Ne.symm hsep]

variable {pairs : List (String × String)}

/-- Of what plain pairs are written as no entry is malformed or has a comma, and the entries give
    these pairs. -/
theorem IsWritten.entries (h : IsWritten sep pairs parts) (hblank : Text.isBlank sep = false)
    (hcomma : sep ≠ ',') (hplain : ∀ p ∈ pairs, IsPlainPair sep p.1 p.2) :
    (∀ e ∈ parts, ¬ IsMalformed sep e ∧ ',' ∉ e.toList) ∧
      parts.filterMap (pair? sep) = pairs := by
  induction h with
  | nil => exact ⟨by simp, rfl⟩
  | @blank pairs parts part hpart _ ih =>
    obtain ⟨hparts, hpairs⟩ := ih hplain
    have hnot : ',' ∉ part.toList :=
      Text.notMem_of_all (Text.trim_eq_empty_iff.1 hpart) (by decide)
    refine ⟨List.forall_mem_cons.2 ⟨⟨fun hbad => hbad.1 hpart, hnot⟩, hparts⟩, ?_⟩
    rw [List.filterMap_cons_none (pair?_of_blank hblank hpart), hpairs]
  | @pair pairs parts name value name' value' hname hvalue _ ih =>
    obtain ⟨hpair, hrest⟩ := List.forall_mem_cons.1 hplain
    obtain ⟨hparts, hpairs⟩ := ih hrest
    have hgives := pair?_eq_some_iff.2 (hpair.gives hblank hname hvalue)
    refine ⟨List.forall_mem_cons.2 ⟨⟨fun hbad => ?_, hpair.comma_notMem hcomma hname hvalue⟩,
      hparts⟩, ?_⟩
    · rw [(isMalformed_iff.1 hbad).2] at hgives
      cases hgives
    · rw [List.filterMap_cons_some hgives, hpairs]

theorem parsePairs_of_isWritten (h : IsWritten sep pairs parts) (hblank : Text.isBlank sep = false)
    (hcomma : sep ≠ ',') (hplain : ∀ p ∈ pairs, IsPlainPair sep p.1 p.2) (key : String) :
    parsePairs sep key (",".intercalate parts) = .ok (Dict.ofList pairs) := by
  obtain ⟨hparts, hpairs⟩ := h.entries hblank hcomma hplain
  rcases parts with _ | ⟨part, parts⟩
  · obtain rfl := hpairs
    rfl
  · have hsplit : Text.split ',' (",".intercalate (part :: parts)) = part :: parts :=
      Text.split_intercalate (by decide) (fun e he => (hparts e he).2) (by simp)
    have hcases := parsePairs_cases hblank key (",".intercalate (part :: parts))
    rw [hsplit, hpairs] at hcases
    rcases hcases with ⟨-, hok⟩ | ⟨front, e, rest, he, -, hbad, -⟩
    · exact hok
    · exact absurd hbad (hparts e (he ▸ List.mem_append_right front List.mem_cons_self)).1

/-! ## Reading -/

/-- What reading a text as pairs comes to. -/
structure PairsRead (sep : Char) (key raw : String) (result : Result Attributes) : Prop where
  /-- It fails exactly if an entry is malformed, -/
  fails_iff : (∃ f, result = .error f) ↔ ∃ e ∈ Text.split ',' raw, IsMalformed sep e
  /-- and the failure is about the first of these. -/
  blames : ∀ f, result = .error f → ∃ front e rest, Text.split ',' raw = front ++ e :: rest ∧
    (∀ e' ∈ front, ¬ IsMalformed sep e') ∧ IsMalformed sep e ∧
      f = .config (.badPair (Text.trim e) key sep)
  /-- Else every name has the value that the last entry gives which gives the name one. -/
  get?_iff : ∀ m, result = .ok m → ∀ name value, m.get? name = some value ↔
    ∃ front e rest, Text.split ',' raw = front ++ e :: rest ∧ Gives sep e name value ∧
      ∀ e' ∈ rest, ∀ v, ¬ Gives sep e' name v
  /-- A map is read back from its pairs, in whatever order and with whatever blanks they are
      written. -/
  rereads : ∀ (m : Attributes) pairs parts,
    (∀ p ∈ m.toList, IsPlainPair sep p.1 p.2) →
    pairs.Perm m.toList → IsWritten sep pairs parts → raw = ",".intercalate parts → result = .ok m

theorem pairsRead_parsePairs (hblank : Text.isBlank sep = false) (hcomma : sep ≠ ',')
    (key raw : String) : PairsRead sep key raw (parsePairs sep key raw) := by
  have hrereads : ∀ (m : Attributes) pairs parts,
      (∀ p ∈ m.toList, IsPlainPair sep p.1 p.2) →
      pairs.Perm m.toList → IsWritten sep pairs parts → raw = ",".intercalate parts →
      parsePairs sep key raw = .ok m := by
    rintro m pairs parts hplain hperm hwritten rfl
    rw [← Dict.ofList_eq_of_perm hperm]
    exact parsePairs_of_isWritten hwritten hblank hcomma
      (fun p hp => hplain p (hperm.mem_iff.1 hp)) key
  rcases parsePairs_cases hblank key raw with
    ⟨hall, hok⟩ | ⟨front, e, rest, hsplit, hall, hbad, herror⟩
  · rw [hok] at hrereads ⊢
    refine ⟨iff_of_false nofun fun ⟨e, he, hbad⟩ => hall e he hbad, nofun, ?_, hrereads⟩
    rintro m ⟨⟩ name value
    exact get?_filterMap_pair?
  · rw [herror] at hrereads ⊢
    refine ⟨iff_of_true ⟨_, rfl⟩ ⟨e, ?_, hbad⟩, ?_, nofun, hrereads⟩
    · rw [hsplit]
      exact List.mem_append_right front List.mem_cons_self
    · rintro f ⟨⟩
      exact ⟨front, e, rest, hsplit, hall, hbad, rfl⟩

/-- The node selector and the environment of a request are the pairs that its properties say, and
    every map of pairs that can be written can be said. -/
theorem pairs_read (r : Request) (raw : String) :
    (r.properties.get? Keys.nodeSelector = some raw →
      PairsRead ':' Keys.nodeSelector raw r.nodeSelector) ∧
    (r.properties.get? Keys.environmentVariables = some raw →
      PairsRead '=' Keys.environmentVariables raw r.environmentVariables) := by
  refine ⟨fun h => ?_, fun h => ?_⟩
  · rw [nodeSelector, pairsProperty_eq h]
    exact pairsRead_parsePairs (by decide) (by decide) _ raw
  · rw [environmentVariables, pairsProperty_eq h]
    exact pairsRead_parsePairs (by decide) (by decide) _ raw

/-- A request with blanks, a blank entry and another order of the pairs in its node selector, and
    with an entry without a name in its environment. -/
def spaced : Request where
  name := "ticker"
  artifact := .image "ticker:1.0"
  properties := Dict.ofList [
    (Keys.nodeSelector, " zone :\teast,, region:a:b "),
    (Keys.environmentVariables, "A=1, =2")]

theorem pairs_read_spaced :
    spaced.nodeSelector = .ok (Dict.ofList [("region", "a:b"), ("zone", "east")]) ∧
    ∃ f, spaced.environmentVariables = .error f := by
  have hzones := (pairs_read spaced " zone :\teast,, region:a:b ").1 (by decide +kernel)
  have henvironment := (pairs_read spaced "A=1, =2").2 (by decide +kernel)
  have hwritten : IsWritten ':' [("zone", "east"), ("region", "a:b")]
      [" zone " ++ String.singleton ':' ++ "\teast", "",
        " region" ++ String.singleton ':' ++ "a:b "] :=
    .pair (Text.isPadded_of_all [' '] [' '] rfl rfl (by decide))
      (Text.isPadded_of_all ['\t'] [] rfl rfl (by decide))
      (.blank (by decide +kernel)
        (.pair (Text.isPadded_of_all [' '] [] rfl rfl (by decide))
          (Text.isPadded_of_all [] [' '] rfl rfl (by decide)) .nil))
  have hbad : IsMalformed '=' " =2" :=
    ⟨by decide +kernel, .inr ⟨[' '], ['2'], by decide +kernel, by decide, by decide +kernel⟩⟩
  exact ⟨hzones.rereads _ _ _ (by decide +kernel) (by decide +kernel) hwritten (by decide +kernel),
    henvironment.fails_iff.2 ⟨" =2", by decide +kernel, hbad⟩⟩

end Request

end Slipway

import Mathlib.Data.List.Nodup
import Slipway.Dict

/-
  The entries of a finite map, and its look-ups. An entry stands in a map exactly if its name is
  looked up to its value (`mem_entries_iff`), and no name stands there twice (`nodup_keys`). A map
  with an entry put in consists of this entry and of the entries of other names
  (`entries_insert_perm`).
-/

namespace Slipway.Dict

variable {β : Type u} {d : Dict β} {k : String} {v : β}

theorem pairwise_keys (d : Dict β) : d.keys.Pairwise (· < ·) :=
  List.pairwise_map.2 d.sorted

theorem nodup_keys (d : Dict β) : d.keys.Nodup := by
  apply d.pairwise_keys.imp
  intro a b h he
  subst he
  exact String.lt_irrefl a h

theorem nodup_entries (d : Dict β) : d.entries.Nodup :=
  List.Nodup.of_map _ d.nodup_keys

theorem lookup_eq_some_iff {es : List (String × β)}
    (h : es.Pairwise fun a b => a.1 < b.1) : es.lookup k = some v ↔ (k, v) ∈ es := by
  induction es with
  | nil => simp
  | cons e es ih =>
    obtain ⟨he, hes⟩ := List.pairwise_cons.1 h
    rw [lookup_cons_ite, List.mem_cons]
    by_cases hk : k = e.1
    · subst hk
      have hn : (e.1, v) ∉ es := fun hm => String.lt_irrefl e.1 (he (e.1, v) hm)
      simp [hn, Prod.ext_iff, eq_comm]
    · simp [hk, ih hes, Prod.ext_iff]

theorem mem_entries_iff : (k, v) ∈ d.entries ↔ d.get? k = some v :=
  (lookup_eq_some_iff d.sorted).symm

theorem mem_keys_iff : k ∈ d.keys ↔ (d.get? k).isSome := by
  rw [Option.isSome_iff_exists]
  constructor
  · intro h
    obtain ⟨⟨k', v⟩, hv, rfl⟩ := List.mem_map.1 h
    exact ⟨v, mem_entries_iff.1 hv⟩
  · rintro ⟨v, hv⟩
    exact List.mem_map.2 ⟨(k, v), mem_entries_iff.2 hv, rfl⟩

theorem mem_values_iff : v ∈ d.values ↔ ∃ k, d.get? k = some v := by
  constructor
  · intro h
    obtain ⟨⟨k, v'⟩, hv, rfl⟩ := List.mem_map.1 h
    exact ⟨k, mem_entries_iff.1 hv⟩
  · rintro ⟨k, hk⟩
    exact List.mem_map.2 ⟨(k, v), mem_entries_iff.2 hk, rfl⟩

/-- The entries of a name that is looked up are one. -/
theorem filter_entries_of_get? (h : d.get? k = some v) :
    d.entries.filter (fun e => e.1 = k) = [(k, v)] := by
  have hperm : (d.entries.filter fun e => e.1 = k).Perm [(k, v)] := by
    refine (List.perm_ext_iff_of_nodup (d.nodup_entries.filter _) (List.nodup_singleton _)).2 ?_
    rintro ⟨j, w⟩
    rw [List.mem_filter, mem_entries_iff, List.mem_singleton, decide_eq_true_iff, Prod.mk.injEq]
    constructor
    · rintro ⟨hw, rfl⟩
      exact ⟨rfl, Option.some.inj (hw.symm.trans h)⟩
    · rintro ⟨rfl, rfl⟩
      exact ⟨h, rfl⟩
  exact List.perm_singleton.1 hperm

theorem entries_erase_of_none (h : d.get? k = none) : (d.erase k).entries = d.entries := by
  refine List.filter_eq_self.2 fun e he => ?_
  have hk : e.1 ≠ k := by
    rintro rfl
    have hv : d.get? e.1 = some e.2 := mem_entries_iff.1 he
    rw [h] at hv
    cases hv
  simpa using hk

theorem entries_insert_perm (d : Dict β) (k : String) (v : β) :
    (d.insert k v).entries.Perm ((k, v) :: (d.erase k).entries) := by
  have hk : (k, v) ∉ (d.erase k).entries := by
    rw [mem_entries_iff, get?_erase]
    simp
  refine (List.perm_ext_iff_of_nodup (nodup_entries _)
    (List.nodup_cons.2 ⟨hk, nodup_entries _⟩)).2 ?_
  rintro ⟨j, w⟩
  rw [List.mem_cons, mem_entries_iff, mem_entries_iff, get?_insert, get?_erase]
  by_cases hj : j = k
  · simp [hj, eq_comm]
  · simp [hj]

theorem insertEntry_of_mem {es : List (String × β)} (h : es.Pairwise fun a b => a.1 < b.1)
    (hk : k ∈ es.map Prod.fst) (v : β) :
    insertEntry k v es = es.map fun e => if e.1 = k then (k, v) else e := by
  induction es with
  | nil => cases hk
  | cons e es ih =>
    obtain ⟨he, hes⟩ := List.pairwise_cons.1 h
    rw [List.map_cons, List.mem_cons] at hk
    have hlater : k ∈ es.map Prod.fst → e.1 < k := fun hmem => by
      obtain ⟨e', he', rfl⟩ := List.mem_map.1 hmem
      exact he e' he'
    rw [insertEntry, List.map_cons]
    split
    next hlt =>
      rcases hk with rfl | hk
      · exact absurd hlt (String.lt_irrefl _)
      · exact absurd (String.lt_trans hlt (hlater hk)) (String.lt_irrefl _)
    next =>
      split
      next hgt =>
        have hne : e.1 ≠ k := fun he => String.lt_irrefl k (he ▸ hgt)
        rw [if_neg hne, ih hes (hk.resolve_left (Ne.symm hne))]
      next hlt hgt =>
        have hself : e.1 = k := name_eq_of_not_lt hgt hlt
        have hrest : es.map (fun e => if e.1 = k then (k, v) else e) = es := by
          refine (List.map_congr_left fun e' he' => if_neg fun hk' => ?_).trans (List.map_id es)
          exact String.lt_irrefl k (by simpa [hself, hk'] using he e' he')
        rw [if_pos hself, hrest]

/-- An entry of a name that is there takes the place of the one before. -/
theorem entries_insert_of_isSome (h : (d.get? k).isSome) (v : β) :
    (d.insert k v).entries = d.entries.map fun e => if e.1 = k then (k, v) else e :=
  insertEntry_of_mem d.sorted (mem_keys_iff.2 h) v

/-- A new name stands beside those there are. -/
theorem keys_insert_perm (h : d.get? k = none) (v : β) :
    (d.insert k v).keys.Perm (k :: d.keys) := by
  have hp := (d.entries_insert_perm k v).map Prod.fst
  rw [entries_erase_of_none h] at hp
  exact hp

/-- A value that is left out does not show under a new name. -/
theorem filter_values_insert {p : β → Bool} (h : d.get? k = none) (hv : p v = false) :
    (d.insert k v).values.filter p = d.values.filter p := by
  have hentries : ∀ es : List (String × β), es.lookup k = none →
      ((insertEntry k v es).map Prod.snd).filter p = (es.map Prod.snd).filter p := by
    intro es hes
    induction es with
    | nil => simp [insertEntry, hv]
    | cons e es ih =>
      rw [lookup_cons_ite] at hes
      split at hes
      next => cases hes
      next hne =>
        rw [insertEntry]
        split
        next => simp [hv]
        next hlt =>
          split
          next => simp only [List.map_cons, List.filter_cons, ih hes]
          next hgt => exact absurd (name_eq_of_not_lt hlt hgt) hne
  exact hentries d.entries h

theorem get?_foldl_insert {es : List (String × β)} (h : es.Pairwise fun a b => a.1 < b.1)
    (d : Dict β) (k : String) :
    (es.foldl (fun d e => d.insert e.1 e.2) d).get? k = (es.lookup k).or (d.get? k) := by
  induction es generalizing d with
  | nil => rfl
  | cons e es ih =>
    obtain ⟨hfirst, hrest⟩ := List.pairwise_cons.1 h
    rw [List.foldl_cons, ih hrest, lookup_cons_ite, get?_insert]
    by_cases hk : k = e.1
    · rw [if_pos hk, if_pos hk, hk, lookup_eq_none_of_lt hfirst]
      rfl
    · rw [if_neg hk, if_neg hk]

/-- A map is made of its own entries. -/
@[simp] theorem ofList_toList (d : Dict β) : ofList d.toList = d := by
  refine ext_get? fun k => ?_
  rw [ofList, toList, get?_foldl_insert d.sorted, get?_empty, Option.or_none]
  rfl

/-! ## Lists of entries -/

/-- Of the entries of a name the last counts. -/
theorem get?_ofList (es : List (String × β)) (k : String) :
    (ofList es).get? k = es.reverse.lookup k := by
  have hfold : ∀ d : Dict β, (es.foldl (fun d e => d.insert e.1 e.2) d).get? k =
      (es.reverse.lookup k).or (d.get? k) := by
    induction es with
    | nil => exact fun d => rfl
    | cons e es ih =>
      intro d
      rw [List.foldl_cons, ih, List.reverse_cons, List.lookup_append, Option.or_assoc,
        lookup_cons_ite, get?_insert]
      split <;> rfl
  rw [ofList, hfold, get?_empty, Option.or_none]

theorem get?_ofList_eq_getLast? (es : List (String × β)) (k : String) :
    (ofList es).get? k = (es.filter fun e => e.1 = k).getLast?.map Prod.snd := by
  have hfind : ∀ es : List (String × β),
      es.lookup k = (es.find? fun e => e.1 = k).map Prod.snd := by
    intro es
    induction es with
    | nil => rfl
    | cons e es ih =>
      rw [lookup_cons_ite, List.find?_cons, ih]
      by_cases hk : k = e.1
      · simp [hk]
      · simp [hk, Ne.symm hk]
  rw [get?_ofList, hfind, List.getLast?_filter]

theorem get?_ofList_eq_some_iff {es : List (String × β)} : (ofList es).get? k = some v ↔
    ∃ front rest, es = front ++ (k, v) :: rest ∧ ∀ e ∈ rest, e.1 ≠ k := by
  rw [get?_ofList, List.lookup_eq_some_iff]
  constructor
  · rintro ⟨rest, front, hes, hrest⟩
    refine ⟨front.reverse, rest.reverse, ?_, fun e he hk => ?_⟩
    · rw [← List.reverse_reverse es, hes]
      simp
    · simpa [hk] using hrest e (List.mem_reverse.1 he)
  · rintro ⟨front, rest, rfl, hrest⟩
    refine ⟨rest.reverse, front.reverse, by simp, fun e he => bne_iff_ne.2 ?_⟩
    exact (hrest e (List.mem_reverse.1 he)).symm

/-- Where no name stands twice, the entries of a list are those of its map. -/
theorem get?_ofList_of_nodup {es : List (String × β)} (h : (es.map Prod.fst).Nodup) :
    (ofList es).get? k = some v ↔ (k, v) ∈ es := by
  rw [get?_ofList_eq_some_iff]
  constructor
  · rintro ⟨front, rest, rfl, -⟩
    exact List.mem_append_right front List.mem_cons_self
  · intro hmem
    obtain ⟨front, rest, rfl⟩ := List.append_of_mem hmem
    refine ⟨front, rest, rfl, fun e he hk => ?_⟩
    rw [List.map_append, List.map_cons] at h
    have hnot := (List.nodup_cons.1 (List.Nodup.of_append_right h)).1
    exact hnot (List.mem_map.2 ⟨e, he, hk⟩)

/-- A map is made of its entries in any order. -/
theorem ofList_eq_of_perm {es : List (String × β)} (h : es.Perm d.toList) : ofList es = d := by
  have hkeys : (es.map Prod.fst).Nodup := (h.map Prod.fst).nodup_iff.2 d.nodup_keys
  refine ext_get? fun k => Option.ext fun v => ?_
  rw [get?_ofList_of_nodup hkeys, h.mem_iff]
  exact mem_entries_iff

end Slipway.Dict

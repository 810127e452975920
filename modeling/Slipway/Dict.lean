/-
  Finite maps from names to values, as lists in strictly increasing order of the names.
  The order of names is that of their code points, hence also of their UTF-8 bytes. Two maps
  with the same look-ups are equal: `ext_get?`.
-/

namespace Slipway

structure Dict (β : Type u) where
  entries : List (String × β)
  sorted : entries.Pairwise (fun a b => a.1 < b.1) := by exact .nil

namespace Dict

variable {β γ : Type u}

instance [DecidableEq β] : DecidableEq (Dict β) := fun a b =>
  decidable_of_iff (a.entries = b.entries)
    ⟨fun h => by cases a; cases b; cases h; rfl, fun h => h ▸ rfl⟩

instance [Repr β] : Repr (Dict β) := ⟨fun d n => reprPrec d.entries n⟩

def empty : Dict β := { entries := [] }

instance : EmptyCollection (Dict β) := ⟨empty⟩
instance : Inhabited (Dict β) := ⟨empty⟩

/-- Puts an entry at its place; an entry of the same name makes way. -/
def insertEntry (k : String) (v : β) : List (String × β) → List (String × β)
  | [] => [(k, v)]
  | e :: es =>
    if k < e.1 then (k, v) :: e :: es
    else if e.1 < k then e :: insertEntry k v es
    else (k, v) :: es

theorem name_eq_of_not_lt {a b : String} (h₁ : ¬ a < b) (h₂ : ¬ b < a) : a = b :=
  String.le_antisymm (String.not_lt.1 h₂) (String.not_lt.1 h₁)

theorem mem_insertEntry {k : String} {v : β} {es : List (String × β)} {x : String × β}
    (h : x ∈ insertEntry k v es) : x = (k, v) ∨ x ∈ es := by
  induction es with
  | nil => simpa [insertEntry] using h
  | cons e es ih =>
    unfold insertEntry at h
    split at h
    · simpa using h
    · split at h
      · rcases List.mem_cons.1 h with rfl | h
        · exact .inr (.head _)
        · rcases ih h with h | h
          · exact .inl h
          · exact .inr (.tail _ h)
      · rcases List.mem_cons.1 h with h | h
        · exact .inl h
        · exact .inr (.tail _ h)

theorem sorted_insertEntry (k : String) (v : β) {es : List (String × β)}
    (h : es.Pairwise (fun a b => a.1 < b.1)) :
    (insertEntry k v es).Pairwise (fun a b => a.1 < b.1) := by
  induction es with
  | nil => simp [insertEntry]
  | cons e es ih =>
    obtain ⟨he, hes⟩ := List.pairwise_cons.1 h
    unfold insertEntry
    split
    next hlt =>
      refine List.pairwise_cons.2 ⟨fun x hx => ?_, h⟩
      rcases List.mem_cons.1 hx with rfl | hx
      · exact hlt
      · exact String.lt_trans hlt (he x hx)
    next hlt =>
      split
      next hgt =>
        refine List.pairwise_cons.2 ⟨fun x hx => ?_, ih hes⟩
        rcases mem_insertEntry hx with rfl | hx
        · exact hgt
        · exact he x hx
      next hgt =>
        have hk : k = e.1 := name_eq_of_not_lt hlt hgt
        exact List.pairwise_cons.2 ⟨fun x hx => hk ▸ he x hx, hes⟩

def insert (d : Dict β) (k : String) (v : β) : Dict β :=
  ⟨insertEntry k v d.entries, sorted_insertEntry k v d.sorted⟩

def get? (d : Dict β) (k : String) : Option β := d.entries.lookup k

def contains (d : Dict β) (k : String) : Bool := (d.get? k).isSome

def erase (d : Dict β) (k : String) : Dict β :=
  ⟨d.entries.filter (·.1 ≠ k), d.sorted.filter _⟩

/-- Later entries win. -/
def ofList (es : List (String × β)) : Dict β :=
  es.foldl (fun d e => d.insert e.1 e.2) empty

def toList (d : Dict β) : List (String × β) := d.entries
def keys (d : Dict β) : List String := d.entries.map (·.1)
def values (d : Dict β) : List β := d.entries.map (·.2)
def isEmpty (d : Dict β) : Bool := d.entries.isEmpty

theorem lookup_cons_ite (e : String × β) (es : List (String × β)) (j : String) :
    (e :: es).lookup j = if j = e.1 then some e.2 else es.lookup j := by
  show (match j == e.1 with
    | true => some e.2
    | false => es.lookup j) = _
  by_cases h : j = e.1
  · rw [if_pos h, beq_iff_eq.2 h]
  · rw [if_neg h, beq_eq_false_iff_ne.2 h]

theorem lookup_insertEntry (k : String) (v : β) (es : List (String × β)) (j : String) :
    (insertEntry k v es).lookup j = if j = k then some v else es.lookup j := by
  induction es with
  | nil => simp [insertEntry, lookup_cons_ite]
  | cons e es ih =>
    unfold insertEntry
    split
    next => rw [lookup_cons_ite]
    next hlt =>
      split
      next hgt =>
        have hne : e.1 ≠ k := fun hk => String.lt_irrefl k (by simp [hk] at hgt)
        rw [lookup_cons_ite, lookup_cons_ite, ih]
        by_cases hj : j = e.1
        · simp [hj, hne]
        · simp [hj]
      next hgt =>
        have hk : k = e.1 := name_eq_of_not_lt hlt hgt
        rw [lookup_cons_ite, lookup_cons_ite, hk]
        split <;> rfl

@[simp] theorem get?_empty (k : String) : (empty : Dict β).get? k = none := rfl

theorem get?_insert (d : Dict β) (k j : String) (v : β) :
    (d.insert k v).get? j = if j = k then some v else d.get? j :=
  lookup_insertEntry k v d.entries j

@[simp] theorem get?_insert_self (d : Dict β) (k : String) (v : β) :
    (d.insert k v).get? k = some v := by simp [get?_insert]

theorem get?_insert_of_ne (d : Dict β) {k j : String} (v : β) (h : j ≠ k) :
    (d.insert k v).get? j = d.get? j := by simp [get?_insert, h]

theorem lookup_filter_ne (es : List (String × β)) (k j : String) :
    (es.filter (·.1 ≠ k)).lookup j = if j = k then none else es.lookup j := by
  induction es with
  | nil => simp
  | cons e es ih =>
    rw [List.filter_cons, lookup_cons_ite]
    by_cases hk : e.1 = k
    · rw [if_neg (by simp [hk]), ih, hk]
      split <;> rfl
    · rw [if_pos (by simp [hk]), lookup_cons_ite, ih]
      by_cases hj : j = e.1
      · simp [hj, hk]
      · simp [hj]

theorem get?_erase (d : Dict β) (k j : String) :
    (d.erase k).get? j = if j = k then none else d.get? j :=
  lookup_filter_ne d.entries k j

theorem lookup_eq_none_of_lt {es : List (String × β)} {k : String}
    (h : ∀ e ∈ es, k < e.1) : es.lookup k = none := by
  induction es with
  | nil => rfl
  | cons e es ih =>
    have hne : k ≠ e.1 := fun hk => String.lt_irrefl e.1 (hk ▸ h e (.head _))
    rw [lookup_cons_ite, if_neg hne, ih fun x hx => h x (.tail _ hx)]

theorem entries_ext {es fs : List (String × β)}
    (he : es.Pairwise (fun a b => a.1 < b.1)) (hf : fs.Pairwise (fun a b => a.1 < b.1))
    (h : ∀ k, es.lookup k = fs.lookup k) : es = fs := by
  induction es generalizing fs with
  | nil =>
    cases fs with
    | nil => rfl
    | cons f fs => simpa [lookup_cons_ite] using h f.1
  | cons e es ih =>
    obtain ⟨he₁, hes⟩ := List.pairwise_cons.1 he
    cases fs with
    | nil => simpa [lookup_cons_ite] using h e.1
    | cons f fs =>
      obtain ⟨hf₁, hfs⟩ := List.pairwise_cons.1 hf
      simp only [lookup_cons_ite] at h
      have hkey : e.1 = f.1 := by
        refine name_eq_of_not_lt (fun hlt => ?_) (fun hlt => ?_)
        · have hn : fs.lookup e.1 = none :=
            lookup_eq_none_of_lt fun x hx => String.lt_trans hlt (hf₁ x hx)
          have hne : e.1 ≠ f.1 := fun hk => String.lt_irrefl f.1 (hk ▸ hlt)
          simpa [hn, hne] using h e.1
        · have hn : es.lookup f.1 = none :=
            lookup_eq_none_of_lt fun x hx => String.lt_trans hlt (he₁ x hx)
          have hne : f.1 ≠ e.1 := fun hk => String.lt_irrefl e.1 (hk ▸ hlt)
          simpa [hn, hne] using h f.1
      have hval : e.2 = f.2 := by simpa [hkey] using h e.1
      have hrest : es = fs := by
        refine ih hes hfs fun k => ?_
        by_cases hk : k = e.1
        · subst hk
          rw [lookup_eq_none_of_lt he₁, lookup_eq_none_of_lt (hkey ▸ hf₁)]
        · have hk' : k ≠ f.1 := hkey ▸ hk
          simpa [hk, hk'] using h k
      rw [hrest, Prod.ext hkey hval]

/-- Two maps with the same look-ups are equal. -/
theorem ext_get? {a b : Dict β} (h : ∀ k, a.get? k = b.get? k) : a = b := by
  cases a with
  | mk es hes =>
    cases b with
    | mk fs hfs =>
      have : es = fs := entries_ext hes hfs h
      subst this
      rfl

end Dict

/-- Labels, annotations, selectors, properties and environments. -/
abbrev Attributes := Dict String

end Slipway

import Mathlib.Data.List.DropRight
import Slipway.Text.Blank

/-
  Texts that are stripped at their ends. What is left of a text has no character to strip at either
  end (`bare_strip`), and such a text stays as it is (`Bare.strip_eq`). If it is then cut off, its
  end alone may have to be stripped again (`Bare.stripEnd_take`). What may be stripped can stand
  around a text without a difference (`IsPadded.strip_eq`).
-/

namespace Slipway.Text

variable {p q : Char → Bool} {c : Char} {base cs padded : List Char}

theorem head?_dropWhile : ∀ c ∈ (cs.dropWhile p).head?, p c = false := by
  intro c hc
  have hfirst := List.head?_dropWhile_not p cs
  rw [Option.mem_def.1 hc] at hfirst
  exact hfirst

theorem dropWhile_append_cons (hc : p c = false) (cs ds : List Char) :
    (cs ++ c :: ds).dropWhile p = cs.dropWhile p ++ c :: ds := by
  rw [List.dropWhile_append]
  split
  next h => rw [List.isEmpty_iff.1 h, List.dropWhile_cons_of_neg (by simp [hc]), List.nil_append]
  next => rfl

theorem notMem_of_all (h : ∀ d ∈ cs, p d = true) (hc : p c = false) : c ∉ cs := fun hmem => by
  rw [h c hmem] at hc
  cases hc

/-! ## Stripping the end -/

theorem stripEnd_eq_rdropWhile (p : Char → Bool) (cs : List Char) :
    stripEnd p cs = cs.rdropWhile p := rfl

theorem stripEnd_prefix_self (p : Char → Bool) (cs : List Char) : stripEnd p cs <+: cs :=
  List.rdropWhile_prefix p cs

theorem length_stripEnd_le (p : Char → Bool) (cs : List Char) :
    (stripEnd p cs).length ≤ cs.length :=
  (stripEnd_prefix_self p cs).length_le

theorem mem_of_mem_stripEnd (h : c ∈ stripEnd p cs) : c ∈ cs := (stripEnd_prefix_self p cs).mem h

theorem stripEnd_eq_iff : stripEnd p cs = base ↔
    (∀ c ∈ base.getLast?, p c = false) ∧ ∃ ds, (∀ d ∈ ds, p d = true) ∧ cs = base ++ ds := by
  constructor
  · rintro rfl
    refine ⟨fun c hc => ?_, (cs.reverse.takeWhile p).reverse, fun d hd => ?_, ?_⟩
    · rw [stripEnd, List.getLast?_reverse] at hc
      exact head?_dropWhile c hc
    · exact List.mem_takeWhile_imp (List.mem_reverse.1 hd)
    · rw [stripEnd, ← List.reverse_append, List.takeWhile_append_dropWhile, List.reverse_reverse]
  · rintro ⟨hlast, ds, hds, rfl⟩
    rw [stripEnd_append_of_all _ _ hds]
    rcases List.eq_nil_or_concat base with rfl | ⟨front, c, rfl⟩
    · rfl
    · have hc : p c = false := hlast c (by simp)
      simp [stripEnd, hc]

/-- A text that begins with a character that stays begins with it when its end is stripped. -/
theorem head?_stripEnd (h : cs.head? = some c) (hc : p c = false) :
    (stripEnd p cs).head? = some c := by
  obtain ⟨rest, hrest⟩ := stripEnd_prefix_self p cs
  rcases hs : stripEnd p cs with _ | ⟨d, ds⟩
  · have hall := List.rdropWhile_eq_nil_iff.1 hs c (List.mem_of_head? h)
    rw [hc] at hall
    cases hall
  · rw [← hrest, hs] at h
    exact h

/-! ## Stripping both ends -/

/-- A text that has no character to strip at either end. -/
structure Bare (p : Char → Bool) (cs : List Char) : Prop where
  first : ∀ c ∈ cs.head?, p c = false
  last : ∀ c ∈ cs.getLast?, p c = false

theorem mem_of_mem_strip (h : c ∈ strip p cs) : c ∈ cs :=
  List.dropWhile_subset p (mem_of_mem_stripEnd h)

/-- A character that is not stripped is not lost. -/
theorem mem_strip_iff (hc : p c = false) : c ∈ strip p cs ↔ c ∈ cs := by
  refine ⟨mem_of_mem_strip, fun h => ?_⟩
  have hdrop : c ∈ cs.dropWhile p := by
    rw [← List.takeWhile_append_dropWhile (p := p) (l := cs)] at h
    refine (List.mem_append.1 h).resolve_left fun ht => ?_
    rw [List.mem_takeWhile_imp ht] at hc
    cases hc
  obtain ⟨-, ds, hds, heq⟩ := stripEnd_eq_iff.1 (rfl : stripEnd p (cs.dropWhile p) = _)
  rw [heq] at hdrop
  refine (List.mem_append.1 hdrop).resolve_right fun hd => ?_
  rw [hds c hd] at hc
  cases hc

/-- A character that is not stripped keeps what stands behind it from being stripped at its
    beginning, and what stands before it from being stripped at its end. -/
theorem strip_append_cons (hc : p c = false) (cs ds : List Char) :
    strip p (cs ++ c :: ds) = cs.dropWhile p ++ c :: stripEnd p ds := by
  rw [strip, dropWhile_append_cons hc, stripEnd, List.reverse_append, List.reverse_cons,
    List.append_assoc, List.singleton_append, dropWhile_append_cons hc, List.reverse_append,
    List.reverse_cons, List.reverse_reverse, List.append_assoc, List.singleton_append, stripEnd]

theorem strip_eq_nil_iff : strip p cs = [] ↔ ∀ c ∈ cs, p c = true := by
  rw [strip, stripEnd_eq_rdropWhile, List.rdropWhile_eq_nil_iff]
  refine ⟨fun h => ?_, fun h c hc => h c (List.dropWhile_subset p hc)⟩
  -- the first character that is left would have to stay
  rcases hd : cs.dropWhile p with _ | ⟨d, ds⟩
  · exact List.dropWhile_eq_nil_iff.1 hd
  · have hfirst : p d = false := head?_dropWhile d (by rw [hd]; rfl)
    rw [h d (hd ▸ List.mem_cons_self)] at hfirst
    cases hfirst

/-- A text that begins with a character that stays has none to strip once its end is stripped. -/
theorem bare_stripEnd (h : ∀ c ∈ cs.head?, p c = false) : Bare p (stripEnd p cs) where
  first c hc := by
    rcases hcs : cs.head? with _ | d
    · rw [List.head?_eq_none_iff.1 hcs] at hc
      cases hc
    · have hd := h d hcs
      rw [head?_stripEnd hcs hd] at hc
      cases hc
      exact hd
  last := (stripEnd_eq_iff.1 rfl).1

theorem bare_strip (p : Char → Bool) (cs : List Char) : Bare p (strip p cs) :=
  bare_stripEnd head?_dropWhile

/-- A text that is cut off may have to be stripped at its end, but not at its beginning. -/
theorem Bare.stripEnd_take (h : Bare p cs) (n : Nat) : Bare p (stripEnd p (cs.take n)) := by
  refine bare_stripEnd fun c hc => h.first c ?_
  rcases n with _ | n
  · cases hc
  · cases cs with
    | nil => cases hc
    | cons d ds => exact hc

theorem Bare.stripEnd_take_eq_nil_iff (h : Bare p cs) {n : Nat} (hn : 0 < n) :
    stripEnd p (cs.take n) = [] ↔ cs = [] := by
  refine ⟨fun he => ?_, fun he => by rw [he, List.take_nil, stripEnd_nil]⟩
  rcases cs with _ | ⟨c, cs⟩
  · rfl
  · obtain ⟨n, rfl⟩ := Nat.exists_eq_add_one_of_ne_zero (Nat.pos_iff_ne_zero.1 hn)
    have hfirst : (stripEnd p ((c :: cs).take (n + 1))).head? = some c :=
      head?_stripEnd rfl (h.first c rfl)
    rw [he] at hfirst
    cases hfirst

theorem Bare.stripEnd_eq (h : Bare p cs) : stripEnd p cs = cs :=
  stripEnd_eq_iff.2 ⟨h.last, [], fun _ hd => (List.not_mem_nil hd).elim, (List.append_nil cs).symm⟩

theorem Bare.strip_eq (h : Bare p cs) : strip p cs = cs := by
  have hdrop : cs.dropWhile p = cs := by
    rcases cs with _ | ⟨c, cs⟩
    · rfl
    · exact List.dropWhile_cons_of_neg (Bool.eq_false_iff.1 (h.first c rfl))
  rw [strip, hdrop, h.stripEnd_eq]

theorem Bare.append {ds : List Char} (h : Bare p cs) (hne : cs ≠ [])
    (hlast : ∀ c ∈ ds.getLast?, p c = false) : Bare p (cs ++ ds) where
  first c hc := h.first c (by rwa [List.head?_append_of_ne_nil cs hne] at hc)
  last c hc := by
    rw [List.getLast?_append] at hc
    cases hds : ds.getLast? with
    | none => exact h.last c (by simpa [hds] using hc)
    | some d => exact hlast c (by simpa [hds] using hc)

theorem bare_of_all (h : ∀ c ∈ cs, p c = false) : Bare p cs where
  first c hc := h c (List.mem_of_head? hc)
  last c hc := h c (List.mem_of_getLast? hc)

/-! ## Padding -/

/-- A text with characters that are stripped before and behind it. -/
def IsPadded (p : Char → Bool) (cs padded : List Char) : Prop :=
  ∃ front back : List Char, (∀ c ∈ front, p c = true) ∧ (∀ c ∈ back, p c = true) ∧
    padded = front ++ cs ++ back

theorem isPadded_of_all (front back : List Char) (hfront : front.all p = true)
    (hback : back.all p = true) (h : padded = front ++ cs ++ back) : IsPadded p cs padded :=
  ⟨front, back, List.all_eq_true.1 hfront, List.all_eq_true.1 hback, h⟩

/-- What was stripped from a text pads what is left of it. -/
theorem isPadded_strip (p : Char → Bool) (cs : List Char) : IsPadded p (strip p cs) cs := by
  obtain ⟨-, back, hback, heq⟩ := stripEnd_eq_iff.1 (rfl : stripEnd p (cs.dropWhile p) = _)
  refine ⟨cs.takeWhile p, back, fun c hc => List.mem_takeWhile_imp hc, hback, ?_⟩
  rw [strip, List.append_assoc, ← heq, List.takeWhile_append_dropWhile]

theorem Bare.strip_padded (h : Bare p cs) (hp : IsPadded p cs padded) : strip p padded = cs := by
  obtain ⟨front, back, hfront, hback, rfl⟩ := hp
  rw [strip, List.append_assoc, List.dropWhile_append_of_pos hfront]
  rcases cs with _ | ⟨c, cs⟩
  · rw [List.nil_append, List.dropWhile_eq_nil_iff.2 hback, stripEnd_nil]
  · have hc : ¬ p c = true := Bool.eq_false_iff.1 (h.first c rfl)
    rw [List.cons_append, List.dropWhile_cons_of_neg hc, ← List.cons_append,
      stripEnd_append_of_all _ _ hback, h.stripEnd_eq]

theorem IsPadded.trans {padded' : List Char} (h : IsPadded p cs padded)
    (h' : IsPadded p padded padded') : IsPadded p cs padded' := by
  obtain ⟨front, back, hfront, hback, rfl⟩ := h
  obtain ⟨front', back', hfront', hback', rfl⟩ := h'
  refine ⟨front' ++ front, back ++ back', fun c hc => ?_, fun c hc => ?_, by simp⟩
  · exact (List.mem_append.1 hc).elim (hfront' c) (hfront c)
  · exact (List.mem_append.1 hc).elim (hback c) (hback' c)

/-- Padding does not change what is left of a text. -/
theorem IsPadded.strip_eq (h : IsPadded p cs padded) : strip p padded = strip p cs :=
  (bare_strip p cs).strip_padded ((isPadded_strip p cs).trans h)

theorem IsPadded.mem_iff (h : IsPadded p cs padded) (hc : p c = false) :
    c ∈ padded ↔ c ∈ cs := by
  rw [← mem_strip_iff hc, h.strip_eq, mem_strip_iff hc]

/-- A map that keeps what is stripped may be made before or after. -/
theorem strip_map {f : Char → Char} (h : ∀ c, p (f c) = q c) (cs : List Char) :
    strip p (cs.map f) = (strip q cs).map f := by
  have hpq : p ∘ f = q := funext h
  rw [strip, strip, stripEnd, stripEnd, List.dropWhile_map, ← List.map_reverse, List.dropWhile_map,
    List.map_reverse, hpq]

/-! ## Texts -/

theorem trim_eq_self_iff {s : String} : trim s = s ↔ Bare isBlank s.toList := by
  refine ⟨fun h => ?_, fun h => by rw [trim, h.strip_eq, String.ofList_toList]⟩
  have hs := congrArg String.toList h
  rw [trim, String.toList_ofList] at hs
  exact hs ▸ bare_strip isBlank s.toList

theorem trim_eq_self {s : String} (h : ∀ c ∈ s.toList, isBlank c = false) : trim s = s :=
  trim_eq_self_iff.2 (bare_of_all h)

theorem trim_trim (s : String) : trim (trim s) = trim s := by
  rw [trim_eq_self_iff, trim, String.toList_ofList]
  exact bare_strip isBlank s.toList

theorem trim_eq_empty_iff {s : String} : trim s = "" ↔ ∀ c ∈ s.toList, isBlank c = true := by
  rw [← String.toList_inj, trim, String.toList_ofList, String.toList_empty, strip_eq_nil_iff]

theorem isPadded_trim (s : String) : IsPadded isBlank (trim s).toList s.toList := by
  rw [trim, String.toList_ofList]
  exact isPadded_strip isBlank s.toList

theorem IsPadded.trim_eq (h : IsPadded isBlank cs padded) :
    trim (String.ofList padded) = trim (String.ofList cs) := by
  rw [trim, trim, String.toList_ofList, String.toList_ofList, h.strip_eq]

end Slipway.Text

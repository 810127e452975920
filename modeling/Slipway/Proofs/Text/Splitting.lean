import Mathlib.Data.List.Basic
import Mathlib.Data.List.Forall2
import Slipway.Proofs.Text.Numbering

/-
  Texts that are cut into parts at a separator, or at a fixed beginning. The parts of a text hold no
  separator and give the text when they are put together again (`notMem_of_mem_split`,
  `intercalate_split`), and parts without a separator are the parts of the text that they are put
  together to (`split_intercalate`). Blanks around a text are blanks around its parts
  (`IsPadded.splitOn`). What follows a beginning is what was put behind it (`dropStart?_append`).
-/

namespace Slipway.Text

variable {sep : Char} {t s p : String} {ps : List String}

/-! ## Parts -/

theorem split_intercalate (ht : t.toList = [sep]) (hps : ∀ p ∈ ps, sep ∉ p.toList)
    (hne : ps ≠ []) : split sep (t.intercalate ps) = ps := by
  have hlists : ∀ cs ∈ ps.map String.toList, sep ∉ cs := by
    intro cs hcs
    obtain ⟨p, hp, rfl⟩ := List.mem_map.1 hcs
    exact hps p hp
  have hmap : ps.map String.toList ≠ [] := by simpa using hne
  rw [split, String.toList_intercalate, ht, List.splitOn_intercalate sep hlists hmap, List.map_map]
  simp [Function.comp_def]

theorem intercalate_split (ht : t.toList = [sep]) (s : String) :
    t.intercalate (split sep s) = s := by
  have hps : (split sep s).map String.toList = s.toList.splitOn sep := by
    simp [split, Function.comp_def]
  rw [← String.toList_inj, String.toList_intercalate, hps, ht, List.intercalate_splitOn]

theorem notMem_of_mem_splitOn {cs part : List Char} (h : part ∈ cs.splitOn sep) : sep ∉ part := by
  induction cs generalizing part with
  | nil =>
    have hpart : part = [] := by simpa using h
    simp [hpart]
  | cons c cs ih =>
    rw [List.splitOn_cons_eq_if_modifyHead] at h
    split at h
    next hc =>
      rcases List.mem_cons.1 h with rfl | h
      · simp
      · exact ih h
    next hc =>
      -- the character stands before the first of the parts behind it
      obtain ⟨first, rest, hsplit⟩ := List.exists_cons_of_ne_nil (List.splitOn_ne_nil sep cs)
      rw [hsplit, List.modifyHead_cons, List.mem_cons] at h
      have hne : sep ≠ c := fun he => hc (by simp [he])
      rcases h with rfl | h
      · simp [hne, ih (hsplit ▸ List.mem_cons_self)]
      · exact ih (hsplit ▸ List.mem_cons_of_mem first h)

theorem notMem_of_mem_split (h : p ∈ split sep s) : sep ∉ p.toList := by
  obtain ⟨part, hpart, rfl⟩ := List.mem_map.1 h
  rw [String.toList_ofList]
  exact notMem_of_mem_splitOn hpart

/-- The last part is the end of the text. -/
theorem getLast?_intercalate {last : String} (hlast : ps.getLast? = some last) (hne : last ≠ "") :
    (t.intercalate ps).toList.getLast? = last.toList.getLast? := by
  have hfront : ∀ front : List String, ∃ cs : List Char,
      (t.intercalate (front ++ [last])).toList = cs ++ last.toList := by
    intro front
    induction front with
    | nil => exact ⟨[], by simp⟩
    | cons p front ih =>
      obtain ⟨cs, hcs⟩ := ih
      refine ⟨p.toList ++ t.toList ++ cs, ?_⟩
      rw [List.cons_append, String.intercalate_cons_of_ne_nil (by simp)]
      simp [hcs]
  obtain ⟨front, rfl⟩ := List.getLast?_eq_some_iff.1 hlast
  obtain ⟨cs, hcs⟩ := hfront front
  have hlist : last.toList ≠ [] := mt String.toList_eq_nil_iff.1 hne
  rw [hcs, List.getLast?_append, List.getLast?_eq_some_getLast hlist, Option.some_or]

/-! ## Padded texts -/

section Padded

variable {q : Char → Bool} {cs ds padded a b : List Char}

theorem splitOn_append_of_blank (hback : ∀ c ∈ ds, q c = true) (hsep : q sep = false) :
    List.Forall₂ (fun part part' => ∃ back, (∀ c ∈ back, q c = true) ∧ part' = part ++ back)
      (cs.splitOn sep) ((cs ++ ds).splitOn sep) := by
  induction cs with
  | nil =>
    rw [List.nil_append, List.splitOn_eq_singleton (notMem_of_all hback hsep), List.splitOn_nil]
    exact .cons ⟨ds, hback, rfl⟩ .nil
  | cons c cs ih =>
    rw [List.cons_append, List.splitOn_cons_eq_if_modifyHead, List.splitOn_cons_eq_if_modifyHead]
    split
    · exact .cons ⟨[], by simp, rfl⟩ ih
    · obtain ⟨part, parts, hparts⟩ := List.exists_cons_of_ne_nil (List.splitOn_ne_nil sep cs)
      rw [hparts] at ih ⊢
      obtain ⟨_, parts', ⟨back, hb, rfl⟩, hrest, hparts'⟩ := List.forall₂_cons_left_iff.1 ih
      rw [hparts']
      exact .cons ⟨back, hb, rfl⟩ hrest

/-- The parts of a padded text are the parts of the text, padded. -/
theorem IsPadded.splitOn (h : IsPadded q cs padded) (hsep : q sep = false) :
    List.Forall₂ (IsPadded q) (cs.splitOn sep) (padded.splitOn sep) := by
  obtain ⟨front, back, hfront, hback, rfl⟩ := h
  rw [List.append_assoc]
  induction front with
  | nil =>
    refine (splitOn_append_of_blank hback hsep).imp fun part part' hpart => ?_
    obtain ⟨back', hb, rfl⟩ := hpart
    exact ⟨[], back', by simp, hb, rfl⟩
  | cons c front ih =>
    have hne : ¬ (c == sep) = true := by
      rw [beq_iff_eq]
      rintro rfl
      exact notMem_of_all hfront hsep List.mem_cons_self
    obtain ⟨part, parts, hparts⟩ := List.exists_cons_of_ne_nil (List.splitOn_ne_nil sep cs)
    have ih := ih fun d hd => hfront d (List.mem_cons_of_mem c hd)
    rw [hparts] at ih ⊢
    obtain ⟨_, parts', ⟨front', back', hf, hb, rfl⟩, hrest, hparts'⟩ :=
      List.forall₂_cons_left_iff.1 ih
    rw [List.cons_append, List.splitOn_cons_eq_if_modifyHead, if_neg hne, hparts']
    refine .cons ⟨c :: front', back', fun d hd => ?_, hb, rfl⟩ hrest
    exact (List.mem_cons.1 hd).elim (fun he => hfront d (he ▸ List.mem_cons_self)) (hf d)

/-- Blanks around a text show in none of its parts. -/
theorem map_trim_split_trim (hsep : isBlank sep = false) (s : String) :
    (split sep (trim s)).map trim = (split sep s).map trim := by
  have hparts := (isPadded_trim s).splitOn hsep
  rw [split, split, List.map_map, List.map_map]
  generalize (trim s).toList.splitOn sep = parts at hparts
  generalize s.toList.splitOn sep = parts' at hparts
  induction hparts with
  | nil => rfl
  | cons h _ ih =>
    rw [List.map_cons, List.map_cons, ih]
    exact congrArg (· :: _) h.trim_eq.symm

/-- Padding stands at the outer ends of the two parts about the first separator. -/
theorem IsPadded.cutFirst (h : IsPadded q cs padded) (hsep : q sep = false)
    (hcut : Text.cutFirst sep cs = some (a, b)) :
    ∃ a' b', Text.cutFirst sep padded = some (a', b') ∧ IsPadded q a a' ∧ IsPadded q b b' := by
  obtain ⟨front, back, hfront, hback, rfl⟩ := h
  obtain ⟨rfl, ha⟩ := cutFirst_eq_some hcut
  have hnot : sep ∉ front ++ a := by
    rw [List.mem_append]
    exact not_or_intro (notMem_of_all hfront hsep) ha
  refine ⟨front ++ a, b ++ back, ?_, ⟨front, [], hfront, by simp, by simp⟩,
    ⟨[], back, by simp, hback, by simp⟩⟩
  rw [← cutFirst_append hnot]
  simp

end Padded

/-! ## Beginnings -/

theorem dropStart?_append_append (start more cs : List Char) :
    dropStart? (start ++ more) (start ++ cs) = dropStart? more cs := by
  induction start with
  | nil => rfl
  | cons c start ih => simp [dropStart?, ih]

theorem dropStart?_append (start cs : List Char) : dropStart? start (start ++ cs) = some cs := by
  simpa [dropStart?] using dropStart?_append_append start [] cs

theorem dropStart?_eq_some {start cs rest : List Char} (h : dropStart? start cs = some rest) :
    cs = start ++ rest := by
  have hstart : start <+: cs := isSome_dropStart?_iff.1 (Option.isSome_of_eq_some h)
  obtain ⟨rest', rfl⟩ := hstart
  rw [dropStart?_append, Option.some.injEq] at h
  rw [h]

end Slipway.Text

import Mathlib.Algebra.Ring.Parity
import Slipway.Artifact.Properties
import Slipway.Proofs.Dict.Entries
import Slipway.Proofs.Text.Splitting

/-
  Property files are read as they were written. The search for the separator and the removal of the
  escapes go over a line apart from one another, and both take a character for escaped exactly if an
  odd number of backslashes stands before it (`cutSeparator_eq_some_iff`, `unescape_concat`). So a
  pair that is written with every backslash and every separator escaped is read back
  (`pairOf?_written`), and so is a list of such pairs with blank lines and comments between them
  (`IsWritten.filterMap_pairOf?`).
-/

namespace Slipway.Properties

variable {c sep : Char} {cs ds a b : List Char} {key value line : String}

/-! ## Escapes -/

/-- A backslash is followed by what it escapes, or by nothing. -/
@[elab_as_elim]
theorem recEscapes {motive : List Char → Prop} (nil : motive []) (last : motive ['\\'])
    (escape : ∀ c cs, motive cs → motive ('\\' :: c :: cs))
    (plain : ∀ c cs, c ≠ '\\' → motive cs → motive (c :: cs)) (cs : List Char) : motive cs := by
  induction cs using unescape.induct with
  | case1 => exact nil
  | case2 => exact last
  | case3 c cs ih => exact escape c cs ih
  | case4 c cs hlast hescape ih =>
    refine plain c cs ?_ ih
    rintro rfl
    cases cs with
    | nil => exact hlast rfl rfl
    | cons d cs => exact hescape d cs rfl rfl

def IsSeparator (c : Char) : Prop := c = '=' ∨ c = ':'

instance (c : Char) : Decidable (IsSeparator c) := inferInstanceAs (Decidable (_ ∨ _))

/-- What stands before a character escapes it, as it ends in an odd number of backslashes. -/
def IsEscaped (before : List Char) : Prop :=
  Odd (before.rtakeWhile (· = '\\')).length

instance (before : List Char) : Decidable (IsEscaped before) :=
  inferInstanceAs (Decidable (Odd _))

theorem isSeparator_ne_backslash (h : IsSeparator c) : c ≠ '\\' := by
  rintro rfl
  exact absurd h (by decide)

theorem not_isEscaped_nil : ¬ IsEscaped [] := by decide

theorem isEscaped_concat : IsEscaped (cs ++ [c]) ↔ c = '\\' ∧ ¬ IsEscaped cs := by
  rw [IsEscaped, IsEscaped, List.rtakeWhile_concat]
  by_cases hc : c = '\\'
  · simp [hc, Nat.odd_add_one]
  · simp [hc]

/-- A character that is no backslash does not count for what stands behind it. -/
theorem isEscaped_cons (hc : c ≠ '\\') : IsEscaped (c :: cs) ↔ IsEscaped cs := by
  induction cs using List.reverseRecOn with
  | nil =>
    rw [← List.nil_append [c], isEscaped_concat]
    exact iff_of_false (fun h => hc h.1) not_isEscaped_nil
  | append_singleton cs d ih =>
    rw [← List.cons_append, isEscaped_concat, isEscaped_concat, ih]

/-- An escape counts as a whole. -/
theorem isEscaped_escape_cons : IsEscaped ('\\' :: c :: cs) ↔ IsEscaped cs := by
  induction cs using List.reverseRecOn with
  | nil =>
    have hpair : '\\' :: c :: [] = ['\\'] ++ [c] := rfl
    rw [hpair, isEscaped_concat]
    exact iff_of_false (fun h => h.2 (by decide)) not_isEscaped_nil
  | append_singleton cs d ih =>
    rw [← List.cons_append, ← List.cons_append, isEscaped_concat, isEscaped_concat, ih]

/-! ## The separator of a line -/

/-- A text that the search for a separator passes over: it escapes every separator in it, and
    nothing behind it. -/
structure IsPassed (cs : List Char) : Prop where
  shields : ∀ a c b, cs = a ++ c :: b → IsSeparator c → IsEscaped a
  closed : ¬ IsEscaped cs

theorem isPassed_nil : IsPassed [] := ⟨by simp, not_isEscaped_nil⟩

theorem isPassed_escape_cons : IsPassed ('\\' :: c :: cs) ↔ IsPassed cs := by
  constructor
  · rintro ⟨hshields, hclosed⟩
    refine ⟨fun a d b hcs hd => ?_, fun h => hclosed (isEscaped_escape_cons.2 h)⟩
    exact isEscaped_escape_cons.1 (hshields ('\\' :: c :: a) d b (by rw [hcs]; rfl) hd)
  · rintro ⟨hshields, hclosed⟩
    refine ⟨fun a d b hcs hd => ?_, fun h => hclosed (isEscaped_escape_cons.1 h)⟩
    rcases a with _ | ⟨x, _ | ⟨y, a⟩⟩
    · obtain rfl := (List.cons.inj hcs).1
      exact absurd rfl (isSeparator_ne_backslash hd)
    · obtain rfl := (List.cons.inj hcs).1
      decide
    · simp only [List.cons_append, List.cons.injEq] at hcs
      obtain ⟨rfl, -, hcs⟩ := hcs
      exact isEscaped_escape_cons.2 (hshields a d b hcs hd)

theorem isPassed_cons (hc : c ≠ '\\') : IsPassed (c :: cs) ↔ ¬ IsSeparator c ∧ IsPassed cs := by
  constructor
  · rintro ⟨hshields, hclosed⟩
    refine ⟨fun h => not_isEscaped_nil (hshields [] c cs rfl h),
      fun a d b hcs hd => ?_, fun h => hclosed ((isEscaped_cons hc).2 h)⟩
    exact (isEscaped_cons hc).1 (hshields (c :: a) d b (by rw [hcs]; rfl) hd)
  · rintro ⟨hsep, hshields, hclosed⟩
    refine ⟨fun a d b hcs hd => ?_, fun h => hclosed ((isEscaped_cons hc).1 h)⟩
    rcases a with _ | ⟨x, a⟩
    · obtain rfl := (List.cons.inj hcs).1
      exact absurd hd hsep
    · rw [List.cons_append, List.cons.injEq] at hcs
      obtain ⟨rfl, hcs⟩ := hcs
      exact (isEscaped_cons hc).2 (hshields a d b hcs hd)

theorem cutSeparator_cons (hc : c ≠ '\\') : cutSeparator (c :: cs) =
    if IsSeparator c then some ([], cs)
    else (cutSeparator cs).map fun (a, b) => (c :: a, b) := by
  rw [cutSeparator]
  · rfl
  · exact fun h => absurd h hc
  · exact fun _ _ h => absurd h hc

theorem IsPassed.cutSeparator_append (h : IsPassed a) (hsep : IsSeparator sep) (b : List Char) :
    cutSeparator (a ++ sep :: b) = some (a, b) := by
  induction a using recEscapes with
  | nil => rw [List.nil_append, cutSeparator_cons (isSeparator_ne_backslash hsep), if_pos hsep]
  | last => exact absurd (by decide) h.closed
  | escape c a ih =>
    rw [List.cons_append, List.cons_append, cutSeparator, ih (isPassed_escape_cons.1 h)]
    rfl
  | plain c a hc ih =>
    obtain ⟨hne, ha⟩ := (isPassed_cons hc).1 h
    rw [List.cons_append, cutSeparator_cons hc, if_neg hne, ih ha]
    rfl

/-- A line is cut at its first separator that is not escaped. -/
theorem cutSeparator_eq_some_iff : cutSeparator cs = some (a, b) ↔
    ∃ c, IsSeparator c ∧ IsPassed a ∧ cs = a ++ c :: b := by
  refine ⟨fun h => ?_, fun ⟨c, hc, ha, hcs⟩ => hcs ▸ ha.cutSeparator_append hc b⟩
  induction cs using recEscapes generalizing a with
  | nil => cases h
  | last => cases h
  | escape d cs ih =>
    rw [cutSeparator, Option.map_eq_some_iff] at h
    obtain ⟨⟨a', b'⟩, hcut, heq⟩ := h
    cases heq
    obtain ⟨c, hc, ha, rfl⟩ := ih hcut
    exact ⟨c, hc, isPassed_escape_cons.2 ha, rfl⟩
  | plain d cs hd ih =>
    rw [cutSeparator_cons hd] at h
    split at h
    next hsep =>
      cases h
      exact ⟨d, hsep, isPassed_nil, rfl⟩
    next hsep =>
      obtain ⟨⟨a', b'⟩, hcut, heq⟩ := Option.map_eq_some_iff.1 h
      cases heq
      obtain ⟨c, hc, ha, rfl⟩ := ih hcut
      exact ⟨c, hc, (isPassed_cons hd).2 ⟨hsep, ha⟩, rfl⟩

/-! ## The removal of escapes -/

theorem unescape_cons (hc : c ≠ '\\') : unescape (c :: cs) = c :: unescape cs := by
  rw [unescape]
  · exact fun h => absurd h hc
  · exact fun _ _ h => absurd h hc

theorem unescape_append (h : ¬ IsEscaped a) (b : List Char) :
    unescape (a ++ b) = unescape a ++ unescape b := by
  induction a using recEscapes with
  | nil => rfl
  | last => exact absurd (by decide) h
  | escape c a ih =>
    rw [List.cons_append, List.cons_append, unescape, unescape,
      ih (mt isEscaped_escape_cons.2 h), List.cons_append]
  | plain c a hc ih =>
    rw [List.cons_append, unescape_cons hc, unescape_cons hc, ih (mt (isEscaped_cons hc).2 h),
      List.cons_append]

/-- Of a text the backslashes that are not escaped are dropped. -/
theorem unescape_concat (a : List Char) (c : Char) : unescape (a ++ [c]) =
    if c = '\\' ∧ ¬ IsEscaped a then unescape a else unescape a ++ [c] := by
  by_cases ha : IsEscaped a
  · -- the backslash at the end goes with the character
    rcases List.eq_nil_or_concat a with rfl | ⟨a, d, rfl⟩
    · exact absurd ha not_isEscaped_nil
    · rw [List.concat_eq_append] at ha ⊢
      obtain ⟨rfl, ha'⟩ := isEscaped_concat.1 ha
      rw [if_neg (fun h => h.2 ha), List.append_assoc, unescape_append ha', unescape_append ha']
      simp [unescape]
  · rw [unescape_append ha]
    by_cases hc : c = '\\'
    · rw [if_pos ⟨hc, ha⟩, hc, unescape, List.append_nil]
    · rw [if_neg (fun h => hc h.1), unescape_cons hc, unescape]

/-! ## Written pairs -/

/-- A text with a backslash before every backslash and every separator. -/
def escape (cs : List Char) : List Char :=
  cs.flatMap fun c => if c = '\\' ∨ IsSeparator c then ['\\', c] else [c]

theorem escape_cons (c : Char) (cs : List Char) : escape (c :: cs) =
    (if c = '\\' ∨ IsSeparator c then ['\\', c] else [c]) ++ escape cs := rfl

theorem unescape_escape (cs : List Char) : unescape (escape cs) = cs := by
  induction cs with
  | nil => rfl
  | cons c cs ih =>
    rw [escape_cons]
    split
    next =>
      rw [List.cons_append, List.cons_append, unescape, List.nil_append, ih]
    next hc =>
      rw [List.cons_append, unescape_cons (not_or.1 hc).1, List.nil_append, ih]

theorem isPassed_escape_append (h : IsPassed ds) (cs : List Char) : IsPassed (escape cs ++ ds) := by
  induction cs with
  | nil => exact h
  | cons c cs ih =>
    rw [escape_cons]
    split
    next => exact isPassed_escape_cons.2 ih
    next hc => exact (isPassed_cons (not_or.1 hc).1).2 ⟨(not_or.1 hc).2, ih⟩

theorem isBlank_of_isSeparator (h : IsSeparator c) : Text.isBlank c = false := by
  rcases h with rfl | rfl <;> decide

theorem isPassed_blank_append_iff (hcs : ∀ c ∈ cs, Text.isBlank c = true) :
    IsPassed (cs ++ ds) ↔ IsPassed ds := by
  induction cs with
  | nil => rfl
  | cons c cs ih =>
    obtain ⟨hc, hcs⟩ := List.forall_mem_cons.1 hcs
    have hne : c ≠ '\\' := by
      rintro rfl
      exact absurd hc (by decide)
    have hsep : ¬ IsSeparator c := fun h => by
      rw [isBlank_of_isSeparator h] at hc
      cases hc
    rw [List.cons_append, isPassed_cons hne, and_iff_right hsep, ih hcs]

theorem isPassed_of_isPadded (h : Text.IsPadded Text.isBlank (escape cs) ds) : IsPassed ds := by
  obtain ⟨front, back, hfront, hback, rfl⟩ := h
  have hback' : IsPassed back := by
    rw [← List.append_nil back, isPassed_blank_append_iff hback]
    exact isPassed_nil
  rw [List.append_assoc, isPassed_blank_append_iff hfront]
  exact isPassed_escape_append hback' cs

/-- What is escaped has blanks at its ends only if the text has. -/
theorem bare_escape (h : Text.Bare Text.isBlank cs) : Text.Bare Text.isBlank (escape cs) where
  first c hc := by
    rcases cs with _ | ⟨d, cs⟩
    · cases hc
    · rw [escape_cons] at hc
      split at hc
      next =>
        cases hc
        decide
      next => exact h.first c hc
  last c hc := by
    rcases List.eq_nil_or_concat cs with rfl | ⟨cs, d, rfl⟩
    · cases hc
    · rw [List.concat_eq_append] at h hc
      have hd : c = d := by
        rw [escape, List.flatMap_append, List.flatMap_singleton, List.getLast?_append] at hc
        split at hc <;> simpa using hc.symm
      exact h.last c (by simp [hd])

theorem mem_head?_escape (h : c ∈ (escape cs).head?) : c = '\\' ∨ c ∈ cs.head? := by
  rcases cs with _ | ⟨d, cs⟩
  · cases h
  · rw [escape_cons] at h
    split at h
    · exact .inl (Option.some.inj h).symm
    · exact .inr h

/-! ## Lines -/

/-- What a line gives. -/
def pairOf? (line : String) : Option (String × String) :=
  let cs := Text.strip Text.isBlank line.toList
  if !cs.isEmpty && !isComment cs then parseLine cs else none

theorem parse_eq (s : String) :
    parse s = Dict.ofList ((Text.split '\n' s).filterMap pairOf?) := by
  rw [parse, Text.split, List.filterMap_filter, List.filterMap_map, List.filterMap_map]
  congr 2
  funext cs
  rw [Function.comp_apply, Function.comp_apply, pairOf?, String.toList_ofList]

theorem isComment_cons : isComment (c :: cs) = true ↔ c = '#' ∨ c = '!' := by
  unfold isComment
  split <;> simp_all

/-- A line whose first character that is no blank marks it. -/
def IsComment (line : String) : Prop :=
  ∃ (front : List Char) (mark : Char) (rest : List Char), line.toList = front ++ mark :: rest ∧
    (∀ c ∈ front, Text.isBlank c = true) ∧ (mark = '#' ∨ mark = '!')

theorem pairOf?_of_blank (h : Text.trim line = "") : pairOf? line = none := by
  have hnil := Text.strip_eq_nil_iff.2 (Text.trim_eq_empty_iff.1 h)
  rw [pairOf?, hnil]
  rfl

theorem pairOf?_of_isComment (h : IsComment line) : pairOf? line = none := by
  obtain ⟨front, mark, rest, hline, hfront, hmark⟩ := h
  have hblank : Text.isBlank mark = false := by
    rcases hmark with rfl | rfl <;> decide
  have hcomment : isComment (mark :: Text.stripEnd Text.isBlank rest) = true :=
    isComment_cons.2 hmark
  rw [pairOf?, hline, Text.strip_append_cons hblank, List.dropWhile_eq_nil_iff.2 hfront,
    List.nil_append, hcomment, Bool.not_true, Bool.and_false]
  rfl

/-- Blanks at the ends of a line do not show in what it gives. -/
theorem parseLine_strip (ha : IsPassed a) (hsep : IsSeparator sep) (b : List Char) :
    parseLine (Text.strip Text.isBlank (a ++ sep :: b)) =
      some (String.ofList (unescape (Text.strip Text.isBlank a)),
        String.ofList (unescape (Text.strip Text.isBlank b))) := by
  have htake : ∀ c ∈ a.takeWhile Text.isBlank, Text.isBlank c = true :=
    fun c hc => List.mem_takeWhile_imp hc
  have hdrop : IsPassed (a.dropWhile Text.isBlank) := by
    rwa [← isPassed_blank_append_iff htake, List.takeWhile_append_dropWhile]
  have hfront : Text.strip Text.isBlank (a.dropWhile Text.isBlank) = Text.strip Text.isBlank a := by
    rw [Text.strip, List.dropWhile_idempotent, Text.strip]
  have hback : Text.IsPadded Text.isBlank (Text.stripEnd Text.isBlank b) b := by
    obtain ⟨-, ds, hds, hb⟩ := Text.stripEnd_eq_iff.1 (rfl : Text.stripEnd Text.isBlank b = _)
    exact ⟨[], ds, by simp, hds, hb⟩
  rw [Text.strip_append_cons (isBlank_of_isSeparator hsep), parseLine,
    hdrop.cutSeparator_append hsep, Option.map_some]
  dsimp only
  rw [hfront, ← hback.strip_eq]

/-- A pair that can be written on a line: neither part has a blank at its ends, and the line is not
    taken for a comment. -/
structure IsPlainPair (key value : String) : Prop where
  key_trim : Text.trim key = key
  key_hash : key.toList.head? ≠ some '#'
  key_bang : key.toList.head? ≠ some '!'
  value_trim : Text.trim value = value

instance (key value : String) : Decidable (IsPlainPair key value) :=
  decidable_of_iff (Text.trim key = key ∧ key.toList.head? ≠ some '#' ∧
      key.toList.head? ≠ some '!' ∧ Text.trim value = value)
    ⟨fun ⟨h₁, h₂, h₃, h₄⟩ => ⟨h₁, h₂, h₃, h₄⟩,
      fun h => ⟨h.key_trim, h.key_hash, h.key_bang, h.value_trim⟩⟩

theorem unescape_strip_escape {s : String} (hs : Text.trim s = s)
    (h : Text.IsPadded Text.isBlank (escape s.toList) ds) :
    String.ofList (unescape (Text.strip Text.isBlank ds)) = s := by
  rw [(bare_escape (Text.trim_eq_self_iff.1 hs)).strip_padded h, unescape_escape,
    String.ofList_toList]

theorem pairOf?_written (h : IsPlainPair key value) (hsep : IsSeparator sep) {key' value' : String}
    (hkey : Text.IsPadded Text.isBlank (escape key.toList) key'.toList)
    (hvalue : Text.IsPadded Text.isBlank (escape value.toList) value'.toList) :
    pairOf? (key' ++ String.singleton sep ++ value') = some (key, value) := by
  have hline : (key' ++ String.singleton sep ++ value').toList =
      key'.toList ++ sep :: value'.toList := by simp
  have hcut := Text.strip_append_cons (isBlank_of_isSeparator hsep) key'.toList value'.toList
  have hcomment : isComment (Text.strip Text.isBlank (key'.toList ++ sep :: value'.toList)) =
      false := by
    rw [hcut, Bool.eq_false_iff]
    rcases hdrop : key'.toList.dropWhile Text.isBlank with _ | ⟨c, cs⟩
    · rw [List.nil_append, Ne, isComment_cons]
      rcases hsep with rfl | rfl <;> decide
    · -- the first character of the line is that of the escaped key
      have hfirst : c ∈ (escape key.toList).head? := by
        have hc : Text.isBlank c = false := Text.head?_dropWhile c (by rw [hdrop]; rfl)
        rw [← (bare_escape (Text.trim_eq_self_iff.1 h.key_trim)).strip_padded hkey, Text.strip]
        exact Text.head?_stripEnd (by rw [hdrop]; rfl) hc
      rw [List.cons_append, Ne, isComment_cons, not_or]
      rcases mem_head?_escape hfirst with rfl | hmem
      · decide
      · exact ⟨fun he => h.key_hash (he ▸ hmem), fun he => h.key_bang (he ▸ hmem)⟩
  rw [pairOf?, hline, hcomment, if_pos (by simp [hcut]),
    parseLine_strip (isPassed_of_isPadded hkey) hsep, unescape_strip_escape h.key_trim hkey,
    unescape_strip_escape h.value_trim hvalue]

/-! ## Files -/

/-- The lines that pairs are written on: each has a separator between its escaped key and its
    escaped value, with blanks around all three, and blank lines and comments stand wherever. -/
inductive IsWritten : List (String × String) → List String → Prop
  | nil : IsWritten [] []
  | blank {pairs : List (String × String)} {lines : List String} {line : String}
    (hline : Text.trim line = "") (h : IsWritten pairs lines) : IsWritten pairs (line :: lines)
  | comment {pairs : List (String × String)} {lines : List String} {line : String}
    (hline : IsComment line) (h : IsWritten pairs lines) : IsWritten pairs (line :: lines)
  | pair {pairs : List (String × String)} {lines : List String} {sep : Char}
    {key value key' value' : String} (hsep : IsSeparator sep)
    (hkey : Text.IsPadded Text.isBlank (escape key.toList) key'.toList)
    (hvalue : Text.IsPadded Text.isBlank (escape value.toList) value'.toList)
    (h : IsWritten pairs lines) :
    IsWritten ((key, value) :: pairs) ((key' ++ String.singleton sep ++ value') :: lines)

variable {pairs : List (String × String)} {lines : List String}

theorem IsWritten.filterMap_pairOf? (h : IsWritten pairs lines)
    (hplain : ∀ p ∈ pairs, IsPlainPair p.1 p.2) : lines.filterMap pairOf? = pairs := by
  induction h with
  | nil => rfl
  | blank hline _ ih => rw [List.filterMap_cons_none (pairOf?_of_blank hline), ih hplain]
  | comment hline _ ih => rw [List.filterMap_cons_none (pairOf?_of_isComment hline), ih hplain]
  | pair hsep hkey hvalue _ ih =>
    obtain ⟨hpair, hrest⟩ := List.forall_mem_cons.1 hplain
    rw [List.filterMap_cons_some (pairOf?_written hpair hsep hkey hvalue), ih hrest]

theorem parse_of_isWritten (h : IsWritten pairs lines) (hplain : ∀ p ∈ pairs, IsPlainPair p.1 p.2)
    (hlines : ∀ line ∈ lines, '\n' ∉ line.toList) :
    parse ("\n".intercalate lines) = Dict.ofList pairs := by
  have hpairs := h.filterMap_pairOf? hplain
  rcases lines with _ | ⟨line, lines⟩
  · obtain rfl := hpairs
    rfl
  · rw [parse_eq, Text.split_intercalate (by decide) hlines (by simp), hpairs]

/-- The two readers of a line take the same backslashes for escapes, those that an even number of
    backslashes stands before: a line is cut at the first separator that is not escaped, and the
    backslashes that are not escaped are dropped. So what pairs with different keys are written as,
    on lines without a line break in them, is read as exactly these pairs. -/
theorem parse_undoes_escape :
    (∀ cs a b, cutSeparator cs = some (a, b) ↔ ∃ c, IsSeparator c ∧ cs = a ++ c :: b ∧
      ¬ IsEscaped a ∧ ∀ a' c' b', a = a' ++ c' :: b' → IsSeparator c' → IsEscaped a') ∧
    (∀ cs c, unescape (cs ++ [c]) =
      if c = '\\' ∧ ¬ IsEscaped cs then unescape cs else unescape cs ++ [c]) ∧
    ∀ pairs lines, (pairs.map Prod.fst).Nodup → (∀ p ∈ pairs, IsPlainPair p.1 p.2) →
      IsWritten pairs lines → (∀ line ∈ lines, '\n' ∉ line.toList) →
      ∀ key value, (parse ("\n".intercalate lines)).get? key = some value ↔
        (key, value) ∈ pairs := by
  refine ⟨fun cs a b => ?_, unescape_concat, fun pairs lines hkeys hplain h hlines key value => ?_⟩
  · rw [cutSeparator_eq_some_iff]
    constructor
    · rintro ⟨c, hc, ha, hcs⟩
      exact ⟨c, hc, hcs, ha.closed, ha.shields⟩
    · rintro ⟨c, hc, hcs, hclosed, hshields⟩
      exact ⟨c, hc, ⟨hshields, hclosed⟩, hcs⟩
  · rw [parse_of_isWritten h hplain hlines, Dict.get?_ofList_of_nodup hkeys]

/-- Backslashes at the end of a key and next to both separators, with a comment and a blank line. -/
theorem parse_undoes_escape_runs :
    (parse "# made by hand\na\\\\ = \\\\\\=\\: \n\n\tk\\::").get? "a\\" = some "\\=:" ∧
      (parse "# made by hand\na\\\\ = \\\\\\=\\: \n\n\tk\\::").get? "k:" = some "" := by
  have hwritten : IsWritten [("a\\", "\\=:"), ("k:", "")]
      ["# made by hand", "a\\\\ " ++ String.singleton '=' ++ " \\\\\\=\\: ", "",
        "\tk\\:" ++ String.singleton ':' ++ ""] :=
    .comment ⟨[], '#', " made by hand".toList, by decide, by simp, .inl rfl⟩
      (.pair (.inl rfl) (Text.isPadded_of_all [] [' '] rfl rfl (by decide))
        (Text.isPadded_of_all [' '] [' '] rfl rfl (by decide))
        (.blank (by decide +kernel)
          (.pair (.inr rfl) (Text.isPadded_of_all ['\t'] [] rfl rfl (by decide))
            (Text.isPadded_of_all [] [] rfl rfl (by decide)) .nil)))
  have hread := parse_undoes_escape.2.2 _ _ (by decide) (by decide +kernel) hwritten
    (by decide +kernel)
  have htext : "\n".intercalate
      ["# made by hand", "a\\\\ " ++ String.singleton '=' ++ " \\\\\\=\\: ", "",
        "\tk\\:" ++ String.singleton ':' ++ ""] =
      "# made by hand\na\\\\ = \\\\\\=\\: \n\n\tk\\::" := by decide +kernel
  rw [htext] at hread
  exact ⟨(hread _ _).2 (by decide), (hread _ _).2 (by decide)⟩

end Slipway.Properties

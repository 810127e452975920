import Mathlib.Algebra.Ring.Nat
import Slipway.AppId
import Slipway.Proofs.Text.Stripping

/-
  Names that end in a dash and a number. A numeral holds no dash, so what stands after the last
  dash of such a name is its number and what stands before is its base (`numbered_inj`). Hence the
  instances of one application have different ids (`instanceId_inj`), and the index of an instance
  can be read from its id (`instanceIndex_instanceId`), which is never too long for a label
  (`length_instanceId_le`).
-/

namespace Slipway

namespace Text

variable {sep : Char} {a b : List Char}

/-! ## The last separator -/

theorem cutFirst_append (h : sep ∉ a) : cutFirst sep (a ++ sep :: b) = some (a, b) := by
  induction a with
  | nil => simp [cutFirst]
  | cons c cs ih =>
    obtain ⟨hc, hcs⟩ := not_or.1 (mt List.mem_cons.2 h)
    rw [List.cons_append, cutFirst, if_neg (Ne.symm hc), ih hcs]
    rfl

theorem cutLast_append (h : sep ∉ b) : cutLast sep (a ++ sep :: b) = some (a, b) := by
  have hr : (a ++ sep :: b).reverse = b.reverse ++ sep :: a.reverse := by simp
  rw [cutLast, hr, cutFirst_append fun hb => h (List.mem_reverse.1 hb)]
  simp

/-- Where two texts are equal, so are their parts about the last separator. -/
theorem append_separator_inj {a' b' : List Char} (hb : sep ∉ b) (hb' : sep ∉ b')
    (h : a ++ sep :: b = a' ++ sep :: b') : a = a' ∧ b = b' := by
  have hc := cutLast_append (a := a) hb
  rw [h, cutLast_append hb'] at hc
  cases hc
  exact ⟨rfl, rfl⟩

/-! ## Numerals -/

theorem digits_inj {m n : Nat} (h : digits m = digits n) : m = n := by
  have hm := digitsValue?_digits m
  rw [h, digitsValue?_digits n] at hm
  exact (Option.some.inj hm).symm

/-- A numeral holds nothing but digits. -/
theorem notMem_digits {c : Char} (h : ∀ d, d < 10 → digitChar d ≠ c) (n : Nat) : c ∉ digits n := by
  induction n using digits.induct with
  | case1 n hn =>
    rw [digits, if_pos hn, List.mem_singleton]
    exact (h n hn).symm
  | case2 n hn ih =>
    rw [digits, if_neg hn, List.mem_append, List.mem_singleton]
    rintro (hd | hd)
    · exact ih hd
    · exact h _ (Nat.mod_lt _ (by decide)) hd.symm

theorem dash_notMem_digits (n : Nat) : '-' ∉ digits n := notMem_digits (by decide) n

theorem plus_notMem_digits (n : Nat) : '+' ∉ digits n := notMem_digits (by decide) n

/-- A number below a power of ten has no more digits than the power says. -/
theorem length_digits_le {n k : Nat} (hk : 1 ≤ k) (h : n < 10 ^ k) : (digits n).length ≤ k := by
  induction k generalizing n with
  | zero => omega
  | succ k ih =>
    rw [digits]
    split
    · exact hk
    next hn =>
      have hk' : 1 ≤ k := by
        rcases k with _ | k
        · omega
        · omega
      have hdiv : n / 10 < 10 ^ k := by
        rw [Nat.pow_succ] at h
        omega
      rw [List.length_append, List.length_singleton]
      exact Nat.succ_le_succ (ih hk' hdiv)

theorem unsigned?_decimal {limit n : Nat} (h : n ≤ limit) :
    unsigned? limit (decimal n) = some n := by
  unfold unsigned? decimal
  rw [String.toList_ofList]
  split
  next cs hcs =>
    -- a numeral has no sign
    exact absurd (hcs ▸ List.mem_cons_self) (plus_notMem_digits n)
  · rw [digitsValue?_digits]
    exact if_pos h

/-- A number that was written reads as itself. -/
theorem word32?_decimal (i : UInt32) : word32? (decimal i.toNat) = some i := by
  have hle : i.toNat ≤ UInt32.size - 1 := Nat.le_sub_one_of_lt i.toNat_lt
  rw [word32?, unsigned?_decimal hle, Option.map_some, UInt32.ofNat_toNat]

/-- The name of the thing of a number among those of a base. -/
def numbered (base : String) (n : Nat) : String := base ++ "-" ++ decimal n

theorem toList_numbered (base : String) (n : Nat) :
    (numbered base n).toList = base.toList ++ '-' :: digits n := by
  simp [numbered, decimal, String.toList_append]

theorem numbered_inj {a b : String} {m n : Nat} (h : numbered a m = numbered b n) :
    a = b ∧ m = n := by
  have hl := congrArg String.toList h
  rw [toList_numbered, toList_numbered] at hl
  obtain ⟨ha, hd⟩ := append_separator_inj (dash_notMem_digits m) (dash_notMem_digits n) hl
  exact ⟨String.toList_inj.1 ha, digits_inj hd⟩

/-! ## Beginnings -/

theorem isSome_dropStart?_iff {start cs : List Char} :
    (dropStart? start cs).isSome = true ↔ start <+: cs := by
  induction start generalizing cs with
  | nil => simp [dropStart?]
  | cons c start ih =>
    cases cs with
    | nil => simp [dropStart?]
    | cons d cs =>
      rw [dropStart?, List.cons_prefix_cons]
      split
      next h => rw [ih, and_iff_right h]
      next h => exact iff_of_false Bool.false_ne_true fun hp => h hp.1

theorem startsWith_iff {start s : String} :
    startsWith start s = true ↔ start.toList <+: s.toList :=
  isSome_dropStart?_iff

theorem toList_dash (base : String) : (base ++ "-").toList = base.toList ++ ['-'] := by
  simp [String.toList_append]

theorem startsWith_numbered (base : String) (n : Nat) :
    startsWith (base ++ "-") (numbered base n) = true := by
  rw [startsWith_iff, toList_dash, toList_numbered]
  exact ⟨digits n, by simp⟩

/-- A numbered name begins like the names of another base only if its own base does. -/
theorem startsWith_of_numbered {base base' : String} {n : Nat} (hne : base' ≠ base)
    (h : startsWith (base' ++ "-") (numbered base n) = true) :
    startsWith (base' ++ "-") base = true := by
  rw [startsWith_iff, toList_dash] at h ⊢
  rw [toList_numbered] at h
  have hlist : base'.toList ≠ base.toList := fun he => hne (String.toList_inj.1 he)
  obtain ⟨rest, hrest⟩ := h
  rw [List.append_assoc, List.singleton_append, List.append_eq_append_iff] at hrest
  rcases hrest with ⟨m, hm, hdash⟩ | ⟨m, hm, hdash⟩
  · cases m with
    | nil => exact absurd (by simpa using hm.symm) hlist
    | cons c m =>
      obtain ⟨rfl, -⟩ := List.cons.inj hdash
      exact ⟨m, by rw [hm]; simp⟩
  · -- no dash stands in a number
    cases m with
    | nil => exact absurd (by simpa using hm) hlist
    | cons c m =>
      obtain ⟨-, hdigits⟩ := List.cons.inj hdash
      refine absurd ?_ (dash_notMem_digits n)
      rw [hdigits]
      simp

end Text

/-! ## Instances -/

namespace AppId

theorem toList_instanceId (id : AppId) (i : UInt32) : ∃ base : List Char,
    (id.instanceId i).text.toList = base ++ '-' :: Text.digits i.toNat :=
  ⟨_, String.toList_ofList⟩

theorem instanceId_inj {id : AppId} {i j : UInt32} (h : id.instanceId i = id.instanceId j) :
    i = j := by
  obtain ⟨a, ha⟩ := id.toList_instanceId i
  obtain ⟨b, hb⟩ := id.toList_instanceId j
  rw [h, hb] at ha
  obtain ⟨-, hd⟩ := Text.append_separator_inj (Text.dash_notMem_digits _)
    (Text.dash_notMem_digits _) ha
  exact UInt32.toNat_inj.1 (Text.digits_inj hd).symm

/-- The number that is read from the id of an instance is its index, whatever became of the base. -/
theorem instanceIndex_instanceId (id : AppId) (i : UInt32) :
    (id.instanceId i).instanceIndex = i := by
  obtain ⟨base, hbase⟩ := id.toList_instanceId i
  rw [instanceIndex, hbase, Text.cutLast_append (Text.dash_notMem_digits _)]
  show (Text.word32? (Text.decimal i.toNat)).getD 0 = i
  rw [Text.word32?_decimal]
  rfl

/-- A dash and an index leave room for a base. -/
theorem length_suffix_lt (i : UInt32) : ('-' :: Text.digits i.toNat).length < maxLength := by
  have hdigits : (Text.digits i.toNat).length ≤ 10 :=
    Text.length_digits_le (by decide) (Nat.lt_trans i.toNat_lt (by decide))
  rw [List.length_cons]
  exact Nat.lt_of_le_of_lt (Nat.succ_le_succ hdigits) (by decide)

theorem length_instanceId_le (id : AppId) (i : UInt32) : (id.instanceId i).text.length ≤ 63 := by
  have hsuffix := length_suffix_lt i
  have hbase := Text.length_stripEnd_le isDash
    (id.text.toList.take (maxLength - ('-' :: Text.digits i.toNat).length))
  rw [List.length_take] at hbase
  rw [← String.length_toList, instanceId, String.toList_ofList, List.length_append]
  unfold maxLength at hsuffix hbase ⊢
  omega

end AppId

end Slipway

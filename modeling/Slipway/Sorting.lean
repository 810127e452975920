/-
  Stable sorting by insertion. `sortBy_perm`: sorting only moves elements; `pairwise_sortBy`:
  afterwards each stands before those that it is not greater than; `sortBy_map`: sorting commutes
  with a map that keeps the order.
-/

namespace Slipway

/-- Puts an element before the first one that it is not greater than. -/
def insertBy (le : α → α → Bool) (a : α) : List α → List α
  | [] => [a]
  | b :: bs => if le a b then a :: b :: bs else b :: insertBy le a bs

/-- Sorts a list; elements of equal rank keep their order. -/
def sortBy (le : α → α → Bool) (as : List α) : List α := as.foldr (insertBy le) []

theorem insertBy_perm (le : α → α → Bool) (a : α) (bs : List α) :
    (insertBy le a bs).Perm (a :: bs) := by
  induction bs with
  | nil => exact .refl _
  | cons b bs ih =>
    unfold insertBy
    split
    · exact .refl _
    · exact (ih.cons b).trans (.swap a b bs)

theorem sortBy_perm (le : α → α → Bool) (as : List α) : (sortBy le as).Perm as := by
  induction as with
  | nil => exact .refl _
  | cons a as ih => exact (insertBy_perm le a _).trans (ih.cons a)

theorem pairwise_insertBy {le : α → α → Bool}
    (trans : ∀ a b c, le a b = true → le b c = true → le a c = true)
    (total : ∀ a b, le a b = true ∨ le b a = true) (a : α) {bs : List α}
    (h : bs.Pairwise fun x y => le x y = true) :
    (insertBy le a bs).Pairwise fun x y => le x y = true := by
  induction bs with
  | nil => simp [insertBy]
  | cons b bs ih =>
    obtain ⟨hb, hbs⟩ := List.pairwise_cons.1 h
    unfold insertBy
    split
    next hab =>
      refine List.pairwise_cons.2 ⟨fun x hx => ?_, h⟩
      rcases List.mem_cons.1 hx with rfl | hx
      · exact hab
      · exact trans _ _ _ hab (hb x hx)
    next hab =>
      refine List.pairwise_cons.2 ⟨fun x hx => ?_, ih hbs⟩
      rcases List.mem_cons.1 ((insertBy_perm le a bs).mem_iff.1 hx) with rfl | hx
      · exact (total x b).resolve_left hab
      · exact hb x hx

theorem pairwise_sortBy {le : α → α → Bool}
    (trans : ∀ a b c, le a b = true → le b c = true → le a c = true)
    (total : ∀ a b, le a b = true ∨ le b a = true) (as : List α) :
    (sortBy le as).Pairwise fun x y => le x y = true := by
  induction as with
  | nil => exact .nil
  | cons a as ih => exact pairwise_insertBy trans total a ih

/-- Putting an element in its place commutes with a map that keeps the order. -/
theorem insertBy_map {f : α → β} {le : α → α → Bool} {le' : β → β → Bool} (a : α) {bs : List α}
    (h : ∀ b ∈ bs, le' (f a) (f b) = le a b) :
    insertBy le' (f a) (bs.map f) = (insertBy le a bs).map f := by
  induction bs with
  | nil => rfl
  | cons b bs ih =>
    rw [List.map_cons, insertBy, insertBy, h b (.head _)]
    split
    · rfl
    · rw [ih fun x hx => h x (.tail _ hx)]
      rfl

/-- Sorting commutes with a map that keeps the order. -/
theorem sortBy_map {f : α → β} {le : α → α → Bool} {le' : β → β → Bool} {as : List α}
    (h : ∀ a ∈ as, ∀ b ∈ as, le' (f a) (f b) = le a b) :
    sortBy le' (as.map f) = (sortBy le as).map f := by
  induction as with
  | nil => rfl
  | cons a as ih =>
    have hrest := ih fun x hx y hy => h x (.tail _ hx) y (.tail _ hy)
    show insertBy le' (f a) (sortBy le' (as.map f)) = (insertBy le a (sortBy le as)).map f
    rw [hrest, insertBy_map a fun b hb => ?_]
    exact h a (.head _) b (.tail _ ((sortBy_perm le as).mem_iff.1 hb))

end Slipway

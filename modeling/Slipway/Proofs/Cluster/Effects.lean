import Slipway.Proofs.Cluster.Frames

/-
  Platforms that are alike. Objects may differ in what the platform stamps on them (`AlikeAt`). What
  is done on two platforms has the same effect if it writes the same objects on both (`SameEffect`);
  one effect after the other is one effect (`SameEffect.trans`), and effects on different objects
  can change places (`SameEffect.commute`).
-/

namespace Slipway

namespace Cluster

variable {s s' s'' q q' q'' : Cluster} {k : Kind} {name : String} {V W : Kind → String → Prop}

/-! ## Objects that are alike -/

/-- Two platforms have the same object under a name, but for its stamps. -/
def AlikeAt (k : Kind) (name : String) (s s' : Cluster) : Prop :=
  (s.find? k name).map Resource.unstamped = (s'.find? k name).map Resource.unstamped

theorem alikeAt_of_eq (h : s.find? k name = s'.find? k name) : AlikeAt k name s s' :=
  congrArg (Option.map Resource.unstamped) h

theorem AlikeAt.trans (h : AlikeAt k name s s') (h' : AlikeAt k name s' s'') :
    AlikeAt k name s s'' :=
  Eq.trans h h'

theorem alikeAt_of_some {x x' : Resource k} (h : s.find? k name = some x)
    (h' : s'.find? k name = some x') (hx : x.unstamped = x'.unstamped) : AlikeAt k name s s' := by
  unfold AlikeAt
  rw [h, h', Option.map_some, Option.map_some, hx]

/-! ## The same effect -/

/-- What led from `s` to `s'` and from `q` to `q'` wrote the same objects but for their stamps, and
    none but those that `W` names. -/
structure SameEffect (W : Kind → String → Prop) (s s' q q' : Cluster) : Prop where
  left : Within W s s'
  right : Within W q q'
  each : ∀ k name, AlikeAt k name q' s' ∨
    q'.find? k name = q.find? k name ∧ s'.find? k name = s.find? k name

namespace SameEffect

theorem refl (s q : Cluster) : SameEffect W s s q q :=
  ⟨.refl s, .refl q, fun _ _ => .inr ⟨rfl, rfl⟩⟩

theorem mono (h : SameEffect W s s' q q') (hW : ∀ k name, W k name → V k name) :
    SameEffect V s s' q q' :=
  ⟨h.left.mono hW, h.right.mono hW, h.each⟩

theorem trans (h : SameEffect W s s' q q') (h' : SameEffect W s' s'' q' q'') :
    SameEffect W s s'' q q'' := by
  refine ⟨h.left.trans h'.left, h.right.trans h'.right, fun k name => ?_⟩
  rcases h'.each k name with halike | ⟨hright, hleft⟩
  · exact .inl halike
  · refine (h.each k name).imp (fun halike => ?_) fun hsame => ?_
    · exact (alikeAt_of_eq hright).trans (halike.trans (alikeAt_of_eq hleft.symm))
    · exact ⟨hright.trans hsame.1, hleft.trans hsame.2⟩

/-- Two effects on different objects come to the same in either order. -/
theorem commute {s₁ s₂ s₁₂ s₂₁ : Cluster} (h : SameEffect V s s₁ s₂ s₂₁)
    (h' : SameEffect W s₁ s₁₂ s s₂) (hdisjoint : ∀ k name, V k name → ¬ W k name) (k : Kind)
    (name : String) : AlikeAt k name s₂₁ s₁₂ := by
  by_cases hv : V k name
  · have hw := hdisjoint k name hv
    have hbefore := h'.right k name hw
    have hafter := h'.left k name hw
    rcases h.each k name with halike | ⟨hright, hleft⟩
    · exact halike.trans (alikeAt_of_eq hafter.symm)
    · exact alikeAt_of_eq (by rw [hright, hbefore, hafter, hleft])
  · have hbefore := h.left k name hv
    have hafter := h.right k name hv
    rcases h'.each k name with halike | ⟨hright, hleft⟩
    · exact (alikeAt_of_eq hafter).trans halike
    · exact alikeAt_of_eq (by rw [hafter, hright, hleft, hbefore])

end SameEffect

end Cluster

end Slipway

import Slipway.Proofs.Cluster.Frames

/-
  Conflicts on creation that were arranged beforehand. Reconciling an object of a kind that is
  written over in place fails by such a conflict or not at all (`reconcile_outcome`). So a sequence
  of these ends at the first conflict that it meets, which is then used up, and otherwise leaves all
  conflicts as they were arranged (`Meets`, `meets_bind`, `meets_forM`).
-/

namespace Slipway

variable {α β ι : Type} {k : Kind}

namespace Cluster

variable {s s' s'' : Cluster} {name : String} {W : Kind → String → Prop}

/-- The platform after a conflict was reported that had been arranged. -/
def spent (s : Cluster) (k : Kind) (name : String) : Cluster :=
  { s with conflicts := s.conflicts.filter (· ≠ (k, name)) }

/-- A conflict that had been arranged was reported and is used up, and no other. -/
structure Spent (k : Kind) (name : String) (s s' : Cluster) : Prop where
  mem : (k, name) ∈ s.conflicts
  conflicts_eq : s'.conflicts = s.conflicts.filter (· ≠ (k, name))

theorem Spent.of_before (h : Spent k name s' s'') (h₀ : s'.conflicts = s.conflicts) :
    Spent k name s s'' :=
  ⟨h₀ ▸ h.mem, h₀ ▸ h.conflicts_eq⟩

theorem Spent.length_lt (h : Spent k name s s') : s'.conflicts.length < s.conflicts.length := by
  rw [h.conflicts_eq]
  refine Nat.lt_of_le_of_ne (List.length_filter_le _ _) fun he => ?_
  have hall := List.length_filter_eq_length_iff.1 he (k, name) h.mem
  exact of_decide_eq_true hall rfl

theorem create_of_conflict {r : Resource k} (h : (k, r.name) ∈ s.conflicts) :
    s.create r = (.error (.alreadyExists k r.name), s.spent k r.name) := by
  unfold create
  dsimp only
  rw [if_pos (by rw [List.contains_iff_mem.2 h, Bool.true_or])]
  rfl

/-- A creation that meets with no conflict uses up none. -/
theorem create_of_not_mem {r : Resource k} (hfind : s.find? k r.name = none)
    (h : (k, r.name) ∉ s.conflicts) :
    ∃ x s', s.create r = (.ok x, s') ∧ s'.conflicts = s.conflicts := by
  have hc : s.conflicts.contains (k, r.name) = false := by simpa using h
  have hsame : s.conflicts.filter (· ≠ (k, r.name)) = s.conflicts :=
    List.filter_eq_self.2 fun e he => decide_eq_true fun hek => h (hek ▸ he)
  unfold create
  dsimp only
  rw [if_neg (by rw [hc, hfind]; exact Bool.false_ne_true)]
  exact ⟨_, _, rfl, hsame⟩

theorem conflicts_replace (s : Cluster) (name : String) (r : Resource k) :
    (s.replace name r).2.conflicts = s.conflicts := by
  unfold replace
  split
  · rfl
  · split <;> rfl

theorem conflicts_startBuild (s : Cluster) (base : String) (op : Operation) :
    (s.startBuild base op).2.conflicts = s.conflicts := by
  unfold startBuild
  split <;> rfl

/-- No call arranges a conflict. -/
theorem conflicts_answer_subset (c : Call) (s : Cluster) :
    (answer c s).2.conflicts ⊆ s.conflicts := by
  cases c with
  | get | list | watch => exact List.Subset.refl _
  | create k r =>
    show (s.create r).2.conflicts ⊆ _
    unfold create
    dsimp only
    split <;> exact List.filter_sublist.subset
  | replace k n r => exact fun _ he => conflicts_replace s n r ▸ he
  | delete k n =>
    show (s.delete k n).2.conflicts ⊆ _
    unfold delete
    split
    · exact List.Subset.refl _
    · dsimp only [record]
      split <;> exact List.Subset.refl _
  | awaitDeleted k n uid =>
    show (s.awaitDeleted k n uid).conflicts ⊆ _
    unfold awaitDeleted
    dsimp only
    split
    · split <;> exact List.Subset.refl _
    · exact List.Subset.refl _
  | instantiateBuild n => exact fun _ he => conflicts_startBuild s n _ ▸ he
  | submitBinaryBuild n file content => exact fun _ he => conflicts_startBuild s n _ ▸ he
  | rollout n =>
    show (s.rollout n).2.conflicts ⊆ _
    unfold rollout
    split <;> exact List.Subset.refl _

end Cluster

open Cluster

/-- An object that is written over in place is reconciled, or a conflict on its creation is
    reported. -/
theorem Reconcile.reconcile_outcome (hk : k.replaceStrategy = .update) (s : Cluster)
    (desired : Resource k) :
    (∃ x s', s.perform (reconcile desired) = (.ok x, s') ∧ s'.conflicts = s.conflicts) ∨
      (k, desired.name) ∈ s.conflicts ∧ s.perform (reconcile desired) =
        (.error (.alreadyExists k desired.name), s.spent k desired.name) := by
  rw [perform_reconcile_update hk]
  rcases hfind : s.find? k desired.name with _ | existing
  · by_cases hmem : (k, desired.name) ∈ s.conflicts
    · exact .inr ⟨hmem, create_of_conflict hmem⟩
    · exact .inl (create_of_not_mem hfind hmem)
  · let updated : Resource k := { desired with
      metadata := { desired.metadata with resourceVersion := existing.metadata.resourceVersion } }
    obtain ⟨x, s', hx⟩ := replace_of_find? (r := updated) hfind rfl
    have hconflicts := conflicts_replace s desired.name updated
    rw [hx] at hconflicts
    exact .inl ⟨x, s', hx, hconflicts⟩

namespace Cluster

variable {s : Cluster} {W : Kind → String → Prop}

/-! ## Sequences -/

/-- What comes of an action that can fail by conflicts alone: it succeeds and meets with none, or it
    fails by one on the creation of an object that `W` names. -/
inductive Meets (W : Kind → String → Prop) (s : Cluster) : Result α × Cluster → Prop
  | passed {x : α} {s' : Cluster} (hconflicts : s'.conflicts = s.conflicts) : Meets W s (.ok x, s')
  | failed {k : Kind} {name : String} {s' : Cluster} (hw : W k name) (hs : Spent k name s s') :
    Meets W s (.error (.alreadyExists k name), s')

theorem meets_bind {a : Action α} {f : α → Action β} (ha : Meets W s (s.perform a))
    (hf : ∀ x s', s.perform a = (.ok x, s') → Meets W s' (s'.perform (f x))) :
    Meets W s (s.perform (a >>= f)) := by
  rw [perform_bind]
  rcases hrun : s.perform a with ⟨e | x, s₁⟩
  · rw [hrun] at ha
    cases ha with
    | failed hw hs => exact .failed hw hs
  · rw [hrun] at ha
    cases ha with
    | passed hconflicts =>
      dsimp only
      have hnext := hf x s₁ hrun
      rcases hout : s₁.perform (f x) with ⟨e | y, s₂⟩
      · rw [hout] at hnext
        cases hnext with
        | failed hw hs => exact .failed hw (hs.of_before hconflicts)
      · rw [hout] at hnext
        cases hnext with
        | passed h => exact .passed (h.trans hconflicts)

theorem meets_forM {f : ι → Action PUnit} {xs : List ι}
    (hf : ∀ x ∈ xs, ∀ s : Cluster, Meets W s (s.perform (f x))) (s : Cluster) :
    Meets W s (s.perform (xs.forM f)) := by
  induction xs generalizing s with
  | nil => exact .passed rfl
  | cons x xs ih =>
    exact meets_bind (hf x (.head _) s) fun _ s' _ => ih (fun y hy => hf y (.tail _ hy)) s'

theorem meets_discard {a : Action α} (ha : Meets W s (s.perform a)) :
    Meets W s (s.perform (Functor.discard a)) :=
  meets_bind ha fun _ _ _ => .passed rfl

theorem meets_reconcile (hk : k.replaceStrategy = .update) {desired : Resource k}
    (hw : W k desired.name) (s : Cluster) :
    Meets W s (s.perform (Reconcile.reconcile desired)) := by
  rcases Reconcile.reconcile_outcome hk s desired with ⟨x, s', hx, hconflicts⟩ | ⟨hmem, hx⟩
  · rw [hx]
    exact .passed hconflicts
  · rw [hx]
    exact .failed hw ⟨hmem, rfl⟩

end Cluster

end Slipway

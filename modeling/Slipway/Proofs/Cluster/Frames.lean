import Slipway.Proofs.Cluster.Sources

/-
  What an action leaves alone on a platform in memory, whatever comes of it. `Keeps I a` says that
  the action keeps a property of the platform; a sequence keeps what both of its parts keep
  (`keeps_bind`, `keeps_forM`). `Within W s s'` says that no objects changed but those that `W`
  names. Where objects are stored under their own names (`Named`), reconciling one changes no other,
  also when it fails (`within_reconcile`).
-/

namespace Slipway

variable {α β ι : Type} {k : Kind}

namespace Cluster

variable {s s' s'' : Cluster} {name : String} {W V : Kind → String → Prop} {I : Cluster → Prop}
  {p : Call → Prop}

/-! ## Properties of the platform -/

/-- An action keeps a property of the platform, whether it succeeds or fails. -/
def Keeps (I : Cluster → Prop) (a : Action α) : Prop := ∀ s : Cluster, I s → I (s.perform a).2

theorem keeps_pure (x : α) : Keeps I (pure x) := fun _ hs => hs

/-- What follows an action has to keep a property for what the action can give only. -/
theorem keeps_bind_of_ok {a : Action α} {f : α → Action β} (ha : Keeps I a)
    (hf : ∀ (s : Cluster) x s', s.perform a = (.ok x, s') → Keeps I (f x)) :
    Keeps I (a >>= f) := by
  intro s hs
  have h := ha s hs
  rw [perform_bind]
  rcases hrun : s.perform a with ⟨e | x, s₁⟩
  · rwa [hrun] at h
  · rw [hrun] at h
    exact hf s x s₁ hrun s₁ h

theorem keeps_bind {a : Action α} {f : α → Action β} (ha : Keeps I a) (hf : ∀ x, Keeps I (f x)) :
    Keeps I (a >>= f) :=
  keeps_bind_of_ok ha fun _ x _ _ => hf x

theorem keeps_ofResult_bind {r : Result α} {f : α → Action β} (hf : ∀ x, r = .ok x → Keeps I (f x)) :
    Keeps I (Action.ofResult r >>= f) :=
  keeps_bind_of_ok (fun _ hs => hs) fun _ x _ h => hf x (congrArg Prod.fst h)

theorem keeps_discard {a : Action α} (ha : Keeps I a) : Keeps I (Functor.discard a) :=
  keeps_bind ha fun _ => keeps_pure _

theorem keeps_forM {f : ι → Action PUnit} {xs : List ι} (hf : ∀ x ∈ xs, Keeps I (f x)) :
    Keeps I (xs.forM f) := by
  induction xs with
  | nil => exact keeps_pure _
  | cons x xs ih =>
    exact keeps_bind (hf x (.head _)) fun _ => ih fun y hy => hf y (.tail _ hy)

/-! ## Objects -/

/-- No objects changed but those that `W` names. -/
def Within (W : Kind → String → Prop) (s s' : Cluster) : Prop :=
  ∀ k name, ¬ W k name → s'.find? k name = s.find? k name

theorem Within.refl (s : Cluster) : Within W s s := fun _ _ _ => rfl

theorem Within.trans (h : Within W s s') (h' : Within W s' s'') : Within W s s'' :=
  fun k name hn => (h' k name hn).trans (h k name hn)

theorem Within.mono (h : Within W s s') (hW : ∀ k name, W k name → V k name) : Within V s s' :=
  fun k name hn => h k name fun hw => hn (hW k name hw)

theorem within_of_objects_eq (h : s'.objects = s.objects) : Within W s s' :=
  fun k name _ => find?_congr (by rw [h]) name

/-- Objects of a kind that is not named are all as they were. -/
theorem Within.objects_eq (h : Within W s s') (hk : ∀ name, ¬ W k name) :
    s'.objects.of k = s.objects.of k :=
  Dict.ext_get? fun name => h k name (hk name)

end Cluster

/-- A call may change an object. -/
def Call.Touches (k : Kind) (name : String) : Call → Prop
  | create j x => j = k ∧ x.name = name
  | replace j n _ | delete j n | awaitDeleted j n _ => j = k ∧ n = name
  | rollout n => k = .deploymentConfig ∧ n = name
  | instantiateBuild _ | submitBinaryBuild _ _ _ => k = .build
  | get _ _ | list _ _ | watch _ _ => False

namespace Cluster

variable {s s' : Cluster} {name : String} {W : Kind → String → Prop} {p : Call → Prop}

theorem find?_create_of_ne (s : Cluster) {r : Resource k} (hn : name ≠ r.name) :
    (s.create r).2.find? k name = s.find? k name := by
  unfold create
  dsimp only
  split
  · rfl
  · exact (find?_of_insert (s := s) (PerKind.of_put_self _ _ _) name).trans (if_neg hn)

theorem find?_replace_of_ne (s : Cluster) {n : String} {r : Resource k} (hn : name ≠ n) :
    (s.replace n r).2.find? k name = s.find? k name := by
  unfold replace
  split
  · rfl
  · split
    · rfl
    · exact (find?_of_insert (s := s) (PerKind.of_put_self _ _ _) name).trans (if_neg hn)

theorem find?_rollout_of_ne (s : Cluster) {n : String} (hn : name ≠ n) :
    (s.rollout n).2.find? .deploymentConfig name = s.find? .deploymentConfig name := by
  unfold rollout
  split
  · rfl
  · exact (find?_store _ _ _ _).trans (if_neg hn)

/-- A call changes no object but the one that it touches. -/
theorem find?_answer {c : Call} (h : ¬ c.Touches k name) (s : Cluster) :
    (answer c s).2.find? k name = s.find? k name := by
  by_cases hch : c.Changes k
  · cases c with
    | get | list | watch => rfl
    | create j r =>
      obtain rfl : j = k := hch
      exact find?_create_of_ne s fun hn => h ⟨rfl, hn.symm⟩
    | replace j n r =>
      obtain rfl : j = k := hch
      exact find?_replace_of_ne s fun hn => h ⟨rfl, hn.symm⟩
    | delete j n =>
      obtain rfl : j = k := hch
      exact find?_delete_of_ne s fun hn => h ⟨rfl, hn.symm⟩
    | awaitDeleted j n uid =>
      obtain rfl : j = k := hch
      exact find?_awaitDeleted_of_ne s uid fun hn => h ⟨rfl, hn.symm⟩
    | rollout n =>
      obtain rfl : k = .deploymentConfig := hch
      exact find?_rollout_of_ne s fun hn => h ⟨rfl, hn.symm⟩
    | instantiateBuild | submitBinaryBuild => exact absurd hch h
  · exact find?_congr (objects_of_answer hch s) name

theorem within_perform {a : Action α} (ha : a.Only fun c => ∀ k name, c.Touches k name → W k name)
    (s : Cluster) : Within W s (s.perform a).2 :=
  perform_keeps (I := Within W s)
    (fun _ s' hc hs => hs.trans fun k name hn => find?_answer (fun ht => hn (hc k name ht)) s') ha
    (.refl s)

/-! ## Names -/

/-- Every object of a kind is stored under its own name. -/
def Named (k : Kind) (s : Cluster) : Prop := ∀ name x, s.find? k name = some x → x.name = name

end Cluster

/-- What a call puts in the place of another object of a kind has the name of that place. -/
def Call.KeepsNames (k : Kind) : Call → Prop
  | replace j name r => j = k → r.name = name
  | _ => True

namespace Cluster

variable {s : Cluster}

theorem Named.congr {s' : Cluster} (h : Named k s) (ho : s'.objects.of k = s.objects.of k) :
    Named k s' := fun name x hx => h name x ((find?_congr ho name).symm.trans hx)

theorem Source.name_eq {c : Call} {name : String} {x : Resource k} (h : Source c s k name x)
    (hc : c.KeepsNames k) (hs : Named k s) : x.name = name := by
  cases h with
  | before h => exact hs name x h
  | created r hcall => rfl
  | replaced r hcall hy =>
    subst hcall
    exact hc rfl
  | @marked _ _ y hcall hy => exact hs name y hy
  | started hcall hbc => rfl
  | @rolledOut _ y hcall hdc => exact hs name y hdc

theorem kept_named (k : Kind) :
    Kept (σ := Cluster) (Call.KeepsNames k) (fun _ => True) (Named k) where
  answer _ _ hc hs := fun _ _ hx => (source_of_find? hx).name_eq hc hs
  opened _ _ _ _ _ _ := trivial
  poll id s _ hs := hs.congr (congrArg (fun o => o.of k) (objects_poll id s))
  close _ _ _ hs := hs

end Cluster

/-! ## Reconciling -/

namespace Reconcile

open Cluster

variable {s : Cluster} {desired existing : Resource k} {p : Call → Prop}

/-- Reconciling puts nothing under another name. -/
theorem only_keepsNames (j : Kind) (desired : Resource k) :
    (reconcile desired).Only (Call.KeepsNames j) :=
  only_reconcile_of (fun _ => trivial) (fun _ => trivial) (fun _ _ => trivial) trivial
    fun _ _ => rfl

/-- An object that is written over in place is neither deleted nor waited for. -/
theorem only_update (hk : k.replaceStrategy = .update) (hget : p (.get k desired.name))
    (hcreate : p (.create k desired)) (hreplace : ∀ version, p (.replace k desired.name
      { desired with metadata := { desired.metadata with resourceVersion := version } })) :
    (reconcile desired).Only p := by
  unfold reconcile create
  rw [hk]
  refine Action.only_bind (Action.only_ask hget) fun existing => ?_
  split
  · refine Action.only_bind (Action.only_attempt hcreate) fun r => ?_
    split
    · exact Action.only_pure _
    · rw [if_neg fun h => nomatch h.2]
      exact Action.only_throw _
  · exact Action.only_ask (hreplace _)

theorem named_freed (hs : Named k s) (existing : Resource k) : Named k (freed s existing) := by
  have h := perform_keeps (kept_named k).answer
    (only_deleteAndWait (fun _ => trivial) (fun _ _ => trivial) existing) hs
  rwa [perform_deleteAndWait] at h

/-- Deleting the object of a name changes no other. -/
theorem within_freed (s : Cluster) (existing : Resource k) :
    Within (fun j name => j = k ∧ name = existing.name) s (freed s existing) := by
  intro j name hn
  by_cases hj : j = k
  · subst hj
    exact find?_freed_of_ne s fun h => hn ⟨rfl, h⟩
  · have ho := objects_of_perform (k := j) (a := deleteAndWait existing)
      (only_deleteAndWait (fun _ h => hj h.symm) (fun _ _ h => hj h.symm) existing) s
    rw [perform_deleteAndWait] at ho
    exact find?_congr ho name

theorem within_cluster_create (s : Cluster) (desired : Resource k) :
    Within (fun j name => j = k ∧ name = desired.name) s (s.create desired).2 :=
  fun _ _ hn => find?_answer (c := .create k desired)
    (fun ht => hn ⟨ht.1.symm, ht.2.symm⟩) s

theorem within_create (hk : k.replaceStrategy = .recreate) (hs : Named k s) :
    Within (fun j name => j = k ∧ name = desired.name) s
      (s.perform (create desired.name desired)).2 := by
  rw [perform_create hk]
  rcases create_cases s desired with ⟨x, s₁, hr⟩ | ⟨s₁, hr, ho, -, -⟩
  · have h := within_cluster_create s desired
    rw [hr] at h ⊢
    exact h
  rw [hr]
  dsimp only
  have h₁ : Within (fun j name => j = k ∧ name = desired.name) s s₁ := within_of_objects_eq ho
  rcases hfind : s₁.find? k desired.name with _ | existing
  · exact h₁.trans (within_cluster_create s₁ desired)
  · have hname : existing.name = desired.name :=
      hs _ _ ((find?_congr (by rw [ho]) _).symm.trans hfind)
    have hfreed := within_freed s₁ existing
    rw [hname] at hfreed
    exact (h₁.trans hfreed).trans (within_cluster_create _ desired)

/-- Reconciling an object changes no other, whatever comes of it, if those that are deleted on the
    way are stored under their own names. -/
theorem within_reconcile (hs : k.replaceStrategy = .recreate → Named k s) :
    Within (fun j name => j = k ∧ name = desired.name) s (s.perform (reconcile desired)).2 := by
  rcases hk : k.replaceStrategy with _ | _
  · refine within_perform (only_update hk ?_ ?_ ?_) s
    · exact fun _ _ ht => ht.elim
    · exact fun _ _ ht => ⟨ht.1.symm, ht.2.symm⟩
    · exact fun _ _ _ ht => ⟨ht.1.symm, ht.2.symm⟩
  · have hs := hs hk
    rw [perform_reconcile hk]
    rcases hfind : s.find? k desired.name with _ | existing
    · exact within_create hk hs
    · have hfreed := within_freed s existing
      rw [hs _ _ hfind] at hfreed
      exact hfreed.trans (within_create hk (named_freed hs existing))

end Reconcile

end Slipway

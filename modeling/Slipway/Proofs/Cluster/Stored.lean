import Slipway.Proofs.Cluster.Perform
import Slipway.Reconcile

/-
  What is stored after an object was brought to the state that is wanted. The platform stamps a
  version, an identity and a time of creation on an object and keeps the rest (`unstamped_stamp`).
  Reconciling an object of a kind that is written over in place, if it succeeds, stores the wanted
  object under its name and changes nothing else (`reconcile_update`). Whatever comes of it,
  reconciling writes no other object than the wanted one (`only_reconcile_of`) and touches only
  objects of its own kind (`only_reconcile`).
-/

namespace Slipway

variable {k : Kind}

namespace Resource

/-- An object without what the platform stamps on it. -/
def unstamped (r : Resource k) : Resource k :=
  { r with metadata := { r.metadata with
      resourceVersion := none, uid := none, creationTimestamp := none } }

@[simp] theorem name_unstamped (r : Resource k) : r.unstamped.name = r.name := rfl

@[simp] theorem labels_unstamped (r : Resource k) : r.unstamped.labels = r.labels := rfl

@[simp] theorem spec_unstamped (r : Resource k) : r.unstamped.spec = r.spec := rfl

theorem labels_eq_of_unstamped {a b : Resource k} (h : a.unstamped = b.unstamped) :
    a.labels = b.labels := by
  rw [← labels_unstamped a, h, labels_unstamped]

theorem spec_eq_of_unstamped {a b : Resource k} (h : a.unstamped = b.unstamped) :
    a.spec = b.spec := by
  rw [← spec_unstamped a, h, spec_unstamped]

end Resource

namespace Cluster

theorem unstamped_stamp (s : Cluster) (r : Resource k) :
    (s.stamp r).1.unstamped = r.stored.unstamped := rfl

@[simp] theorem perform_get (s : Cluster) (k : Kind) (name : String) :
    s.perform (Action.get k name) = (.ok (s.find? k name), s) := rfl

@[simp] theorem perform_list (s : Cluster) (k : Kind) (selector : String) :
    s.perform (Action.list k selector) = (.ok (s.matching k selector), s) := rfl

theorem perform_list_bind {β : Type} (s : Cluster) (k : Kind) (selector : String)
    (f : List (Resource k) → Action β) :
    s.perform (Action.list k selector >>= f) = s.perform (f (s.matching k selector)) := by
  rw [perform_bind, perform_list]

theorem create_eq_ok {s s' : Cluster} {r x : Resource k} (h : s.create r = (.ok x, s')) :
    x.unstamped = r.stored.unstamped ∧
      s'.objects = s.objects.put k ((s.objects.of k).insert r.name x) := by
  unfold create at h
  dsimp only at h
  split at h
  · cases h
  · cases h
    exact ⟨unstamped_stamp s r, rfl⟩

theorem replace_eq_ok {s s' : Cluster} {name : String} {r x : Resource k}
    (h : s.replace name r = (.ok x, s')) :
    x.unstamped = r.stored.unstamped ∧
      s'.objects = s.objects.put k ((s.objects.of k).insert name x) := by
  unfold replace at h
  split at h
  · cases h
  · split at h
    · cases h
    · cases h
      exact ⟨unstamped_stamp s r, rfl⟩

end Cluster

/-! ## Reconciling -/

/-- The calls that are about one object of a kind. -/
def Call.IsOn (k : Kind) : Call → Prop
  | get j _ | create j _ | replace j _ _ | delete j _ | awaitDeleted j _ _ => j = k
  | list _ _ | watch _ _ | instantiateBuild _ | submitBinaryBuild _ _ _ | rollout _ => False

theorem Call.IsOn.not_changes {j : Kind} {c : Call} (h : c.IsOn k) (hj : j ≠ k) :
    ¬ c.Changes j := by
  intro hc
  cases c <;> first | exact h | exact hc | exact hj (hc.symm.trans h)

namespace Reconcile

section Only

variable {p : Call → Prop} {desired : Resource k} (hget : ∀ name, p (.get k name))
  (hdelete : ∀ name, p (.delete k name)) (hawait : ∀ name uid, p (.awaitDeleted k name uid))
  (hcreate : p (.create k desired))

include hdelete hawait

theorem only_deleteAndWait (existing : Resource k) : (deleteAndWait existing).Only p := by
  refine Action.only_bind (Action.only_attempt (hdelete _)) fun r => ?_
  split
  · exact Action.only_pure _
  · exact Action.only_throw _
  · split
    · exact Action.only_ask (hawait _ _)
    · exact Action.only_pure _

include hget hcreate

theorem only_create (name : String) : (create name desired).Only p := by
  refine Action.only_bind (Action.only_attempt hcreate) fun r => ?_
  split
  · exact Action.only_pure _
  · split
    · refine Action.only_bind (Action.only_ask (hget _)) fun existing => ?_
      split
      · exact Action.only_bind (only_deleteAndWait hdelete hawait _) fun _ =>
          Action.only_ask hcreate
      · exact Action.only_ask hcreate
    · exact Action.only_throw _

/-- Reconciling an object writes no other object, and it writes this one as it is but for the
    version that it replaces. -/
theorem only_reconcile_of (hreplace : ∀ version, p (.replace k desired.name
      { desired with metadata := { desired.metadata with resourceVersion := version } })) :
    (reconcile desired).Only p := by
  refine Action.only_bind (Action.only_ask (hget _)) fun existing => ?_
  split
  · exact only_create hget hdelete hawait hcreate _
  · split
    · exact Action.only_ask (hreplace _)
    · exact Action.only_bind (only_deleteAndWait hdelete hawait _) fun _ =>
        only_create hget hdelete hawait hcreate _

end Only

theorem only_reconcile (desired : Resource k) : (reconcile desired).Only (·.IsOn k) :=
  only_reconcile_of (fun _ => rfl) (fun _ => rfl) (fun _ _ => rfl) rfl fun _ => rfl

/-- Reconciling leaves the objects of other kinds as they are. -/
theorem objects_of_reconcile {j : Kind} (s : Cluster) (desired : Resource k) (h : j ≠ k) :
    (s.perform (reconcile desired)).2.objects.of j = s.objects.of j :=
  Cluster.objects_of_perform ((only_reconcile desired).mono fun _ hc => hc.not_changes h) s

/-- An object that is written over in place is created where none is, and a conflict is passed on;
    where one is, this is replaced. -/
theorem perform_reconcile_update (hk : k.replaceStrategy = .update) (s : Cluster)
    (desired : Resource k) :
    s.perform (reconcile desired) = match s.find? k desired.name with
      | none => s.create desired
      | some existing => s.replace desired.name { desired with metadata := { desired.metadata with
          resourceVersion := existing.metadata.resourceVersion } } := by
  have hc : Cluster.answer (.create k desired) s = s.create desired := rfl
  unfold reconcile
  dsimp only
  rw [Cluster.perform_bind, Cluster.perform_get]
  dsimp only
  rcases s.find? k desired.name with _ | existing
  · dsimp only
    unfold create
    rw [Cluster.perform_bind, Cluster.perform_attempt, hc]
    rcases s.create desired with ⟨e | x, s'⟩
    · dsimp only
      rw [if_neg fun h => by rw [hk] at h; exact nomatch h.2]
      rfl
    · rfl
  · rw [hk]
    rfl

/-- An object that is written over in place is stored as it is wanted, and no other changes. -/
theorem reconcile_update (hk : k.replaceStrategy = .update) {s s' : Cluster}
    {desired x : Resource k} (h : s.perform (reconcile desired) = (.ok x, s')) :
    x.unstamped = desired.stored.unstamped ∧
      s'.objects = s.objects.put k ((s.objects.of k).insert desired.name x) := by
  rw [perform_reconcile_update hk] at h
  split at h
  · exact Cluster.create_eq_ok h
  · obtain ⟨hx, ho⟩ := Cluster.replace_eq_ok h
    exact ⟨hx, ho⟩

end Reconcile

end Slipway

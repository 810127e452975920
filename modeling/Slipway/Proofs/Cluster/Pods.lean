import Slipway.Proofs.Cluster.Sources
import Slipway.Proofs.Cluster.Written

/-
  The pods on a platform in memory. Where deployers alone write them, each is stored under its own
  name and has an identity (`kept_podsSound`). There the pod of a task can always be created, be it
  that one of its name is deleted before, and exactly one creation is recorded
  (`createPod_of_podsSound`).
-/

namespace Slipway

variable {k : Kind}

namespace Cluster

variable {s s' s'' : Cluster} {name : String}

/-- Every pod is stored under its own name and has an identity. -/
def PodsSound (s : Cluster) : Prop :=
  ∀ name x, s.find? .pod name = some x → x.name = name ∧ x.metadata.uid.isSome

theorem PodsSound.congr (h : s.PodsSound) (ho : s'.objects.of .pod = s.objects.of .pod) :
    s'.PodsSound := fun name x hx => h name x ((find?_congr ho name).symm.trans hx)

/-- What deployers call keeps pods under their own names, with identities. -/
theorem kept_podsSound : Kept (σ := Cluster) Call.ByDeployer (fun _ => True) PodsSound where
  answer c s hc h := fun name x hx => by
    cases source_of_find? hx with
    | before hx => exact h name x hx
    | created r hcall => exact ⟨rfl, isSome_uid_stamp s r⟩
    | replaced r hcall hy =>
      subst hcall
      exact ⟨hc.2 rfl, isSome_uid_stamp s _⟩
    | @marked _ _ y hcall hy => exact h name y hy
  opened _ _ _ _ _ _ := trivial
  poll id s _ h := h.congr (by
    show (poll id s).2.objects.of .pod = _
    rw [(untouched_poll s id).objects_eq])
  close _ _ _ h := h

end Cluster

namespace Reconcile

open Cluster

variable {s s' : Cluster} {desired x : Resource k} {name : String}

/-- Where an object that is recreated is reconciled, one creation is recorded. -/
theorem records_reconcile (hk : k.replaceStrategy = .recreate)
    (h : s.perform (reconcile desired) = (.ok x, s')) :
    Records (.create k desired.name) 1 s s' := by
  obtain ⟨ops, op, hlog, hremoves, hwrites⟩ := log_reconcile h
  have hop : op = .create k desired.name := hwrites.resolve_right fun hupdate => by
    rw [hk] at hupdate
    cases hupdate.1
  have hnone : ops.count (.create k desired.name) = 0 := List.count_eq_zero.2 fun hmem => by
    rcases hremoves _ hmem with hr | hr <;> cases hr
  rw [List.append_assoc] at hlog
  refine ⟨ops ++ [op], hlog, ?_⟩
  rw [List.count_append, hnone, hop, List.count_singleton_self]

end Reconcile

/-- What is stored under a name has this name and an identity. -/
def Cluster.SoundAt (s : Cluster) (k : Kind) (name : String) : Prop :=
  ∀ x, s.find? k name = some x → x.name = name ∧ x.metadata.uid.isSome

namespace TaskOrder

variable {s : Cluster}

/-- The pod of a task is there with an image, as it was ordered but for the stamps of the
    platform. -/
def HasPod (o : TaskOrder) (image : String) (s : Cluster) : Prop :=
  ∃ pod, s.find? .pod o.id.text = some pod ∧ pod.unstamped =
    (Bundle.taskPod o.id o.labels image o.environment o.settings).stored.unstamped

/-- The pod of a task can be created where one that is there already has its name. -/
theorem createPod_of_soundAt (o : TaskOrder) (h : s.SoundAt .pod o.id.text) (image : String) :
    ∃ pod s', s.perform (o.createPod image) = (.ok pod, s') ∧
      pod.unstamped =
        (Bundle.taskPod o.id o.labels image o.environment o.settings).stored.unstamped ∧
      o.HasPod image s' := by
  obtain ⟨pod, s', hpod⟩ : ∃ pod s', s.perform (o.createPod image) = (.ok pod, s') :=
    Reconcile.reconcile_of_replaceable rfl fun x hx => ⟨(h x hx).1, .inl (h x hx).2⟩
  have hreconciled := Reconcile.reconcile_eq_ok hpod
  exact ⟨pod, s', hpod, hreconciled.unstamped_eq, pod, hreconciled.find?_self,
    hreconciled.unstamped_eq⟩

/-- Where pods are stored under their own names, the pod of a task can be created. -/
theorem createPod_of_podsSound (h : s.PodsSound) (o : TaskOrder) (image : String) :
    ∃ pod s', s.perform (o.createPod image) = (.ok pod, s') ∧
      pod.unstamped =
        (Bundle.taskPod o.id o.labels image o.environment o.settings).stored.unstamped ∧
      s.Records (.create .pod o.id.text) 1 s' := by
  obtain ⟨pod, s', hpod, hunstamped, -⟩ := o.createPod_of_soundAt (h _) image
  exact ⟨pod, s', hpod, hunstamped, Reconcile.records_reconcile rfl hpod⟩

end TaskOrder

end Slipway

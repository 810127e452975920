import Slipway.Cluster
import Slipway.Proofs.Program.Run

/-
  Actions on a platform in memory, which answers every call: `perform` gives the result and the
  state that a run ends in (`run_eq_perform`). A sequence succeeds exactly if both of its parts do
  (`perform_bind_eq_ok`). Actions for a list that each change what is under a name of its own
  together change what is under these names (`forM_each`). An action none of whose calls changes
  objects of a kind leaves them as they were (`objects_of_perform`).
-/

namespace Slipway

variable {α β : Type}

/-- Whether a call may change what is stored of a kind. -/
def Call.Changes (k : Kind) : Call → Prop
  | create j _ | replace j _ _ | delete j _ | awaitDeleted j _ _ => j = k
  | instantiateBuild _ | submitBinaryBuild _ _ _ => k = .build
  | rollout _ => k = .deploymentConfig
  | get _ _ | list _ _ | watch _ _ => False

namespace Cluster

/-- What a program gives, and the state after it. -/
def exec : Program α → Cluster → α × Cluster
  | .done x, s => (x, s)
  | .call c next, s => exec (next (answer c s).1) (answer c s).2

/-- What an action gives, and the state after it. -/
def perform (s : Cluster) (a : Action α) : Result α × Cluster := exec (ExceptT.run a) s

theorem program_run_eq_exec (p : Program α) (s : Cluster) :
    p.run s = (some (exec p s).1, (exec p s).2) := by
  induction p generalizing s with
  | done x => rfl
  | call c next ih => exact ih _ _

theorem run_eq_perform (a : Action α) (s : Cluster) :
    a.run s = (some (s.perform a).1, (s.perform a).2) :=
  program_run_eq_exec _ _

theorem run_eq_some_iff {a : Action α} {s s' : Cluster} {r : Result α} :
    a.run s = (some r, s') ↔ s.perform a = (r, s') := by
  rw [run_eq_perform, Prod.ext_iff, Prod.ext_iff, Option.some_inj]

/-! ## The parts of an action -/

@[simp] theorem perform_pure (s : Cluster) (x : α) : s.perform (pure x) = (.ok x, s) := rfl

@[simp] theorem perform_throw (s : Cluster) (e : Failure) :
    s.perform (throw e : Action α) = (.error e, s) := rfl

@[simp] theorem perform_ofResult (s : Cluster) (r : Result α) :
    s.perform (Action.ofResult r) = (r, s) := rfl

@[simp] theorem perform_ask (s : Cluster) (c : Call) : s.perform (Action.ask c) = answer c s := rfl

@[simp] theorem perform_attempt (s : Cluster) (c : Call) :
    s.perform (Action.attempt c) = (.ok (answer c s).1, (answer c s).2) := rfl

theorem perform_bind (s : Cluster) (a : Action α) (f : α → Action β) :
    s.perform (a >>= f) = match s.perform a with
      | (.ok x, s) => s.perform (f x)
      | (.error e, s) => (.error e, s) := by
  rcases ha : s.perform a with ⟨e | x, s₁⟩
  · refine run_eq_some_iff.1 ?_
    rw [Action.run_bind, run_eq_some_iff.2 ha]
  · refine run_eq_some_iff.1 ?_
    rw [Action.run_bind, run_eq_some_iff.2 ha]
    exact run_eq_perform _ _

theorem perform_bind_eq_ok {s s' : Cluster} {a : Action α} {f : α → Action β} {y : β} :
    s.perform (a >>= f) = (.ok y, s') ↔
      ∃ x s₁, s.perform a = (.ok x, s₁) ∧ s₁.perform (f x) = (.ok y, s') := by
  rw [← run_eq_some_iff, Action.run_bind_eq_ok]
  simp only [run_eq_some_iff]

/-- A result that is known is handed on. -/
theorem perform_ofResult_bind {r : Result α} {x : α} (h : r = .ok x) (s : Cluster)
    (f : α → Action β) : s.perform (Action.ofResult r >>= f) = s.perform (f x) := by
  rw [perform_bind, perform_ofResult, h]

/-- What every call of an action keeps, the action keeps. -/
theorem perform_keeps {p : Call → Prop} {I : Cluster → Prop}
    (step : ∀ c s, p c → I s → I (answer c s).2) {a : Action α} (ha : a.Only p) {s : Cluster}
    (hs : I s) : I (s.perform a).2 := by
  have h := ha.keeps (σ := Cluster) step hs
  rwa [run_eq_perform] at h

/-! ## One action for each of a list -/

theorem perform_discard_eq_ok {s s' : Cluster} {a : Action α} {u : PUnit} :
    s.perform (Functor.discard a) = (.ok u, s') ↔ ∃ x, s.perform a = (.ok x, s') := by
  have hd : Functor.discard a = a >>= fun _ => pure PUnit.unit := rfl
  rw [hd, perform_bind_eq_ok]
  constructor
  · rintro ⟨x, s₁, ha, hp⟩
    cases hp
    exact ⟨x, ha⟩
  · rintro ⟨x, ha⟩
    exact ⟨x, s', ha, rfl⟩

section Each

variable {ι : Type} {f : ι → Action PUnit} {xs : List ι} {s s' : Cluster} {u : PUnit}

/-- Where each action changes what is seen under its own name only, all of them together change
    what is seen under their names only, and under each as its own action does. -/
theorem forM_each {γ : Type} (look : Cluster → String → γ) (name : ι → String)
    (R : ι → γ → γ → Prop)
    (hf : ∀ x ∈ xs, ∀ (s : Cluster) (u : PUnit) (s' : Cluster), s.perform (f x) = (.ok u, s') →
      R x (look s (name x)) (look s' (name x)) ∧ ∀ other, other ≠ name x →
        look s' other = look s other)
    (h : s.perform (xs.forM f) = (.ok u, s')) :
    (∀ other, (∀ x ∈ xs, name x ≠ other) → look s' other = look s other) ∧
      ((xs.map name).Nodup → ∀ x ∈ xs, R x (look s (name x)) (look s' (name x))) := by
  induction xs generalizing s with
  | nil =>
    cases h
    exact ⟨fun _ _ => rfl, fun _ _ hx => nomatch hx⟩
  | cons x xs ih =>
    obtain ⟨_, s₁, h₁, h₂⟩ := perform_bind_eq_ok.1 h
    obtain ⟨hother, hmem⟩ := ih (fun x' hx' => hf x' (.tail _ hx')) h₂
    obtain ⟨hx, hne⟩ := hf x (.head _) s _ s₁ h₁
    refine ⟨fun other hn => ?_, fun hnodup => ?_⟩
    · rw [hother other fun x' hx' => hn x' (.tail _ hx'), hne other (hn x (.head _)).symm]
    · obtain ⟨hnot, hnodup⟩ := List.nodup_cons.1 hnodup
      have hapart : ∀ x' ∈ xs, name x' ≠ name x := fun x' hx' he =>
        hnot (List.mem_map.2 ⟨x', hx', he⟩)
      intro x' hx'
      rcases List.mem_cons.1 hx' with rfl | hx'
      · rw [hother _ hapart]
        exact hx
      · rw [← hne _ (hapart x' hx')]
        exact hmem hnodup x' hx'

/-- Actions that succeed where an invariant holds, and keep it, succeed one after the other. -/
theorem forM_succeeds {I : Cluster → Prop}
    (hf : ∀ x ∈ xs, ∀ s : Cluster, I s → ∃ u s', s.perform (f x) = (.ok u, s') ∧ I s')
    (hs : I s) : ∃ u s', s.perform (xs.forM f) = (.ok u, s') ∧ I s' := by
  induction xs generalizing s with
  | nil => exact ⟨_, s, rfl, hs⟩
  | cons x xs ih =>
    obtain ⟨_, s₁, h₁, hs₁⟩ := hf x (.head _) s hs
    obtain ⟨u, s₂, h₂, hs₂⟩ := ih (fun x' hx' => hf x' (.tail _ hx')) hs₁
    exact ⟨u, s₂, perform_bind_eq_ok.2 ⟨_, s₁, h₁, h₂⟩, hs₂⟩

end Each

/-! ## Objects of a kind -/

section Find

variable {k : Kind} {s s' : Cluster} {name : String}

theorem find?_congr (h : s'.objects.of k = s.objects.of k) (name : String) :
    s'.find? k name = s.find? k name := by
  unfold find?
  rw [h]

theorem find?_of_insert {x : Resource k}
    (h : s'.objects.of k = (s.objects.of k).insert name x) (other : String) :
    s'.find? k other = if other = name then some x else s.find? k other := by
  unfold find?
  rw [h, Dict.get?_insert]

end Find

/-! ## Objects of other kinds -/

section Objects

variable {j k : Kind}

theorem objects_of_store_of_ne (s : Cluster) (name : String) (r : Resource j) (h : k ≠ j) :
    (s.store name r).objects.of k = s.objects.of k :=
  PerKind.of_put_of_ne _ _ h

theorem objects_of_discard_of_ne (s : Cluster) (name : String) (h : k ≠ j) :
    (s.discard j name).objects.of k = s.objects.of k :=
  PerKind.of_put_of_ne _ _ h

theorem objects_of_create_of_ne (s : Cluster) (r : Resource j) (h : k ≠ j) :
    (s.create r).2.objects.of k = s.objects.of k := by
  unfold create
  dsimp only
  split
  · rfl
  · exact objects_of_store_of_ne _ _ _ h

theorem objects_of_replace_of_ne (s : Cluster) (name : String) (r : Resource j) (h : k ≠ j) :
    (s.replace name r).2.objects.of k = s.objects.of k := by
  unfold replace
  split
  · rfl
  · split
    · rfl
    · exact objects_of_store_of_ne _ _ _ h

theorem objects_of_delete_of_ne (s : Cluster) (name : String) (h : k ≠ j) :
    (s.delete j name).2.objects.of k = s.objects.of k := by
  unfold delete
  split
  · rfl
  · dsimp only [record]
    split
    · exact objects_of_store_of_ne _ _ _ h
    · exact objects_of_discard_of_ne _ _ h

theorem objects_of_awaitDeleted_of_ne (s : Cluster) (name uid : String) (h : k ≠ j) :
    (s.awaitDeleted j name uid).objects.of k = s.objects.of k := by
  unfold awaitDeleted
  dsimp only
  split
  · split
    · exact objects_of_discard_of_ne _ _ h
    · rfl
  · rfl

theorem objects_of_startBuild_of_ne (s : Cluster) (name : String) (op : Operation)
    (h : k ≠ .build) : (s.startBuild name op).2.objects.of k = s.objects.of k := by
  unfold startBuild
  split
  · rfl
  · exact objects_of_store_of_ne _ _ _ h

theorem objects_of_rollout_of_ne (s : Cluster) (name : String) (h : k ≠ .deploymentConfig) :
    (s.rollout name).2.objects.of k = s.objects.of k := by
  unfold rollout
  split
  · rfl
  · exact objects_of_store_of_ne _ _ _ h

theorem objects_of_answer {c : Call} (h : ¬ c.Changes k) (s : Cluster) :
    (answer c s).2.objects.of k = s.objects.of k := by
  cases c with
  | get j name => rfl
  | list j selector => rfl
  | watch j selector => rfl
  | create j r => exact objects_of_create_of_ne s r (Ne.symm h)
  | replace j name r => exact objects_of_replace_of_ne s name r (Ne.symm h)
  | delete j name => exact objects_of_delete_of_ne s name (Ne.symm h)
  | awaitDeleted j name uid => exact objects_of_awaitDeleted_of_ne s name uid (Ne.symm h)
  | instantiateBuild name => exact objects_of_startBuild_of_ne s name _ h
  | submitBinaryBuild name file content => exact objects_of_startBuild_of_ne s name _ h
  | rollout name => exact objects_of_rollout_of_ne s name h

theorem objects_of_perform {a : Action α} (ha : a.Only fun c => ¬ c.Changes k) (s : Cluster) :
    (s.perform a).2.objects.of k = s.objects.of k :=
  perform_keeps (I := fun s' => s'.objects.of k = s.objects.of k)
    (fun _ s₁ hc hs => (objects_of_answer hc s₁).trans hs) ha rfl

end Objects

end Cluster

end Slipway

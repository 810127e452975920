import Slipway.Proofs.Cluster.Log
import Slipway.Proofs.Cluster.Reconciled

/-
  What reconciling records. A reconciliation that succeeds ends with the creation of the wanted
  object or, for the kinds that are written over in place, with its replacement; before that no more
  is recorded than deletions under the same name (`log_reconcile`). So reconciling one object after
  the other adds them in their order and touches no others (`added_forM`).
-/

namespace Slipway

variable {k : Kind}

namespace Operation

/-- The object that is written, if one is. -/
def added? : Operation → Option (Kind × String)
  | create k name => some (k, name)
  | replace k name => some (k, name)
  | delete _ _ | awaitDeleted _ _ | instantiate _ | binary _ | rollout _ => none

/-- The object that is written or removed, if one is. -/
def object? : Operation → Option (Kind × String)
  | create k name => some (k, name)
  | replace k name => some (k, name)
  | delete k name => some (k, name)
  | awaitDeleted k name => some (k, name)
  | instantiate _ | binary _ | rollout _ => none

/-- The operation is part of removing an object. -/
def Removes (k : Kind) (name : String) (op : Operation) : Prop :=
  op = .delete k name ∨ op = .awaitDeleted k name

/-- The operation writes an object in the way of its kind. -/
def Writes (k : Kind) (name : String) (op : Operation) : Prop :=
  op = .create k name ∨ k.replaceStrategy = .update ∧ op = .replace k name

end Operation

/-! ## One object -/

namespace Cluster

variable {s s' s'' : Cluster} {name : String} {P Q : Operation → Prop}

/-- Every operation recorded since satisfies `P`. -/
def LogsOnly (P : Operation → Prop) (s s' : Cluster) : Prop :=
  ∃ ops, s'.log = s.log ++ ops ∧ ∀ op ∈ ops, P op

theorem LogsOnly.of_log_eq (h : s'.log = s.log) : LogsOnly P s s' :=
  ⟨[], by rw [h, List.append_nil], fun _ hop => nomatch hop⟩

theorem LogsOnly.of_logsAtMost {op : Operation} (h : LogsAtMost op s s') (hop : P op) :
    LogsOnly P s s' := by
  rcases h with h | h
  · exact .of_log_eq h
  · exact ⟨[op], h, fun _ hmem => List.mem_singleton.1 hmem ▸ hop⟩

theorem LogsOnly.trans (h : LogsOnly P s s') (h' : LogsOnly P s' s'') : LogsOnly P s s'' := by
  obtain ⟨ops, hlog, hops⟩ := h
  obtain ⟨ops', hlog', hops'⟩ := h'
  refine ⟨ops ++ ops', by rw [hlog', hlog, List.append_assoc], fun op hop => ?_⟩
  exact (List.mem_append.1 hop).elim (hops op) (hops' op)

/-- An action records what its calls are recorded as. -/
theorem logsOnly_perform {α : Type} {a : Action α}
    (ha : a.Only fun c => ∀ op, c.operation? = some op → P op) (s : Cluster) :
    LogsOnly P s (s.perform a).2 := by
  refine perform_keeps (I := LogsOnly P s) (fun c s' hc hs => hs.trans ?_) ha (.of_log_eq rfl)
  rcases log_answer c s' with hlog | ⟨op, hop, hlog⟩
  · exact .of_log_eq hlog
  · exact .of_logsAtMost hlog (hc op hop)

theorem log_of_create {r x : Resource k} (h : s.create r = (.ok x, s')) :
    s'.log = s.log ++ [.create k r.name] := by
  unfold create at h
  dsimp only at h
  split at h
  · cases h
  · cases h
    rfl

theorem log_of_replace {r x : Resource k} (h : s.replace name r = (.ok x, s')) :
    s'.log = s.log ++ [.replace k name] := by
  unfold replace at h
  split at h
  · cases h
  · split at h
    · cases h
    · cases h
      rfl

end Cluster

namespace Reconcile

open Cluster

variable {s s' : Cluster} {desired x existing : Resource k}

theorem logsOnly_freed (s : Cluster) (existing : Resource k) :
    LogsOnly (Operation.Removes k existing.name) s (freed s existing) := by
  have hdelete := LogsOnly.of_logsAtMost (P := Operation.Removes k existing.name)
    (log_delete s k existing.name) (.inl rfl)
  unfold freed
  split
  · exact .of_log_eq rfl
  · split
    next uid _ => exact hdelete.trans (.of_logsAtMost (log_awaitDeleted _ k _ uid) (.inr rfl))
    · exact hdelete

/-- A creation that meets with a conflict is not recorded, only the one that succeeds. -/
theorem log_create_recreate (hk : k.replaceStrategy = .recreate)
    (h : s.perform (create desired.name desired) = (.ok x, s')) :
    ∃ ops, s'.log = s.log ++ ops ++ [.create k desired.name] ∧
      ∀ op ∈ ops, op.Removes k desired.name := by
  by_cases hplaced : ∃ existing, s.find? k desired.name = some existing ∧
      existing.name ≠ desired.name
  · obtain ⟨existing, hfind, hn⟩ := hplaced
    exact absurd h (create_ne_ok_of_misplaced hk hfind hn)
  rw [perform_create hk] at h
  rcases create_cases s desired with ⟨y, s₁, hr⟩ | ⟨s₁, hr, ho, hlog, -⟩
  · rw [hr] at h
    cases h
    exact ⟨[], by rw [log_of_create hr, List.append_nil], fun _ hop => nomatch hop⟩
  rw [hr] at h
  dsimp only at h
  rcases hfind : s₁.find? k desired.name with _ | existing
  · rw [hfind] at h
    exact ⟨[], by rw [log_of_create h, hlog, List.append_nil], fun _ hop => nomatch hop⟩
  · rw [hfind] at h
    have hbefore : s.find? k desired.name = some existing :=
      (find?_congr (by rw [ho]) _).symm.trans hfind
    have hname : existing.name = desired.name := Classical.byContradiction fun hn =>
      hplaced ⟨existing, hbefore, hn⟩
    obtain ⟨ops, hfreed, hops⟩ := logsOnly_freed s₁ existing
    rw [hname] at hops
    exact ⟨ops, by rw [log_of_create h, hfreed, hlog], hops⟩

/-- Where an object of a kind that is written over in place is reconciled, this is all that is
    recorded. -/
theorem log_reconcile_update (hk : k.replaceStrategy = .update)
    (h : s.perform (reconcile desired) = (.ok x, s')) :
    ∃ op, s'.log = s.log ++ [op] ∧ op.Writes k desired.name := by
  rw [perform_reconcile_update hk] at h
  split at h
  · exact ⟨_, log_of_create h, .inl rfl⟩
  · exact ⟨_, log_of_replace h, .inr ⟨hk, rfl⟩⟩

/-- Where reconciling succeeds, the object is written last, after an object of its name was removed
    as often as it had to be. -/
theorem log_reconcile (h : s.perform (reconcile desired) = (.ok x, s')) :
    ∃ ops op, s'.log = s.log ++ ops ++ [op] ∧ (∀ op ∈ ops, op.Removes k desired.name) ∧
      op.Writes k desired.name := by
  rcases hk : k.replaceStrategy with _ | _
  · obtain ⟨op, hlog, hwrites⟩ := log_reconcile_update hk h
    exact ⟨[], op, by rw [hlog, List.append_nil], fun _ hop => (nomatch hop), hwrites⟩
  rw [perform_reconcile hk] at h
  rcases hfind : s.find? k desired.name with _ | existing
  · rw [hfind] at h
    obtain ⟨ops, hlog, hops⟩ := log_create_recreate hk h
    exact ⟨ops, _, hlog, hops, .inl rfl⟩
  rw [hfind] at h
  dsimp only at h
  by_cases hname : existing.name = desired.name
  · obtain ⟨ops, hfreed, hops⟩ := logsOnly_freed s existing
    obtain ⟨ops', hlog, hops'⟩ := log_create_recreate hk h
    rw [hname] at hops
    refine ⟨ops ++ ops', _, by rw [hlog, hfreed, List.append_assoc s.log], fun op hop => ?_,
      .inl rfl⟩
    exact (List.mem_append.1 hop).elim (hops op) (hops' op)
  · refine absurd h (create_ne_ok_of_misplaced hk ?_ hname)
    rw [find?_freed_of_ne _ (Ne.symm hname), hfind]

end Reconcile

/-! ## One object after the other -/

namespace Cluster

variable {s s' s'' : Cluster} {xs ys : List (Kind × String)}

/-- Objects were written in their order since, and nothing else was recorded but that objects of
    these names were removed. -/
def Added (xs : List (Kind × String)) (s s' : Cluster) : Prop :=
  ∃ ops, s'.log = s.log ++ ops ∧ ops.filterMap Operation.added? = xs ∧
    ∀ op ∈ ops, ∃ x ∈ xs, op.object? = some x

theorem Added.trans (h : Added xs s s') (h' : Added ys s' s'') : Added (xs ++ ys) s s'' := by
  obtain ⟨ops, hlog, hadded, hops⟩ := h
  obtain ⟨ops', hlog', hadded', hops'⟩ := h'
  refine ⟨ops ++ ops', by rw [hlog', hlog, List.append_assoc],
    by rw [List.filterMap_append, hadded, hadded'], fun op hop => ?_⟩
  rcases List.mem_append.1 hop with hop | hop
  · obtain ⟨x, hx, he⟩ := hops op hop
    exact ⟨x, List.mem_append_left _ hx, he⟩
  · obtain ⟨x, hx, he⟩ := hops' op hop
    exact ⟨x, List.mem_append_right _ hx, he⟩

theorem added_nil (h : s'.log = s.log) : Added [] s s' :=
  ⟨[], by rw [h, List.append_nil], rfl, fun _ hop => nomatch hop⟩

theorem added_reconcile {desired x : Resource k}
    (h : s.perform (Reconcile.reconcile desired) = (.ok x, s')) :
    Added [(k, desired.name)] s s' := by
  obtain ⟨ops, op, hlog, hremoves, hwrites⟩ := Reconcile.log_reconcile h
  have hadded : ops.filterMap Operation.added? = [] := by
    refine List.filterMap_eq_nil_iff.2 fun op hop => ?_
    rcases hremoves op hop with rfl | rfl <;> rfl
  have hlast : op.added? = some (k, desired.name) ∧ op.object? = some (k, desired.name) := by
    rcases hwrites with rfl | ⟨-, rfl⟩ <;> exact ⟨rfl, rfl⟩
  refine ⟨ops ++ [op], by rw [hlog, List.append_assoc], ?_, fun op' hop => ?_⟩
  · rw [List.filterMap_append, hadded, List.nil_append, List.filterMap_cons_some hlast.1]
    rfl
  · refine ⟨_, List.mem_singleton.2 rfl, ?_⟩
    rcases List.mem_append.1 hop with hop | hop
    · rcases hremoves op' hop with rfl | rfl <;> rfl
    · rw [List.mem_singleton.1 hop, hlast.2]

/-- Actions for a list that each add an object add them all in the order of the list. -/
theorem added_forM {ι : Type} {f : ι → Action PUnit} {object : ι → Kind × String}
    (hf : ∀ i (s : Cluster) (u : PUnit) (s' : Cluster), s.perform (f i) = (.ok u, s') →
      Added [object i] s s') {is : List ι} {u : PUnit}
    (h : s.perform (is.forM f) = (.ok u, s')) : Added (is.map object) s s' := by
  induction is generalizing s with
  | nil =>
    cases h
    exact added_nil rfl
  | cons i is ih =>
    obtain ⟨_, s₁, h₁, h₂⟩ := perform_bind_eq_ok.1 h
    exact (hf i s _ s₁ h₁).trans (ih h₂)

end Cluster

end Slipway

import Slipway.Proofs.Cluster.Stored

/-
  Reconciling an object of any kind on a platform in memory. If it succeeds, the wanted object is
  stored under its name and no other has changed (`reconcile_eq_ok`): an object that is recreated is
  deleted before, a deletion that takes its time is waited for, and a creation that meets with a
  conflict is tried once more. It does succeed where an object is there that can be replaced
  (`Ready`, `reconcile_of_ready`), whatever conflicts and slow deletions are arranged. Recreating
  succeeds exactly where nothing stays in the way (`Replaceable`, `reconcile_of_replaceable`,
  `replaceable_of_reconcile`), and this is the same for every name however the others are recreated
  (`replaceable_reconcile_iff`).
-/

namespace Slipway

variable {k : Kind}

namespace Cluster

variable {s s' : Cluster} {name other : String} {x : Resource k}

/-! ## Calls -/

theorem find?_store (s : Cluster) (name : String) (r : Resource k) (other : String) :
    (s.store name r).find? k other = if other = name then some r else s.find? k other :=
  find?_of_insert (PerKind.of_put_self _ _ _) other

theorem find?_discard (s : Cluster) (k : Kind) (name other : String) :
    (s.discard k name).find? k other = if other = name then none else s.find? k other := by
  unfold find? discard
  rw [PerKind.of_put_self, Dict.get?_erase]

theorem find?_store_self (s : Cluster) (name : String) (x : Resource k) :
    (s.store name x).find? k name = some x := by
  rw [find?_store, if_pos rfl]

theorem find?_store_of_ne {j : Kind} (s : Cluster) (x : Resource k)
    (h : (j, other) ≠ (k, name)) :
    (s.store name x).find? j other = s.find? j other := by
  by_cases hj : j = k
  · subst hj
    have hn : other ≠ name := fun hn => h (by rw [hn])
    rw [find?_store, if_neg hn]
  · exact find?_congr (objects_of_store_of_ne s name x hj) other

theorem find?_discard_self (s : Cluster) (k : Kind) (name : String) :
    (s.discard k name).find? k name = none := by
  rw [find?_discard, if_pos rfl]

theorem find?_discard_of_ne {j : Kind} (s : Cluster) (h : (j, other) ≠ (k, name)) :
    (s.discard k name).find? j other = s.find? j other := by
  by_cases hj : j = k
  · subst hj
    have hn : other ≠ name := fun hn => h (by rw [hn])
    rw [find?_discard, if_neg hn]
  · exact find?_congr (objects_of_discard_of_ne s name hj) other

theorem find?_delete_of_ne (s : Cluster) (h : other ≠ name) :
    (s.delete k name).2.find? k other = s.find? k other := by
  unfold delete
  split
  · rfl
  · dsimp only [record]
    split
    · exact (find?_store _ _ _ _).trans (if_neg h)
    · exact (find?_discard _ _ _ _).trans (if_neg h)

theorem find?_awaitDeleted_of_ne (s : Cluster) (uid : String) (h : other ≠ name) :
    (s.awaitDeleted k name uid).find? k other = s.find? k other := by
  unfold awaitDeleted
  dsimp only
  split
  · split
    · exact (find?_discard _ _ _ _).trans (if_neg h)
    · rfl
  · rfl

theorem find?_awaitDeleted_of_none {uid : String} (h : s.find? k name = none) :
    (s.awaitDeleted k name uid).find? k name = none := by
  have hfind : Cluster.find? { s with terminating := s.terminating.filter (· ≠ (k, name)) } k name =
      none := h
  unfold awaitDeleted
  dsimp only
  rw [hfind]
  exact hfind

/-- An object whose identity is waited for is gone then. -/
theorem find?_awaitDeleted_self {uid : String} (h : s.find? k name = some x)
    (huid : x.metadata.uid = some uid) : (s.awaitDeleted k name uid).find? k name = none := by
  have hfind : Cluster.find? { s with terminating := s.terminating.filter (· ≠ (k, name)) } k name =
      some x := h
  unfold awaitDeleted
  dsimp only
  rw [hfind]
  dsimp only
  rw [if_pos huid]
  exact find?_discard_self _ _ _

/-- A deletion leaves nothing, or the same object while it takes its time. -/
theorem find?_delete_self (h : s.find? k name = some x) :
    (s.delete k name).2.find? k name = none ∨
      ∃ y, (s.delete k name).2.find? k name = some y ∧ y.metadata.uid = x.metadata.uid := by
  unfold delete
  rw [h]
  dsimp only [record]
  split
  · exact .inr ⟨_, find?_store_self _ _ _, rfl⟩
  · exact .inl (find?_discard_self _ _ _)

theorem isSome_uid_stamp (s : Cluster) (r : Resource k) :
    (s.stamp r).1.metadata.uid.isSome := by
  show (Option.or _ _).isSome
  rw [Option.isSome_or]
  exact Bool.or_true _

theorem isSome_uid_of_create {r : Resource k} (h : s.create r = (.ok x, s')) :
    x.metadata.uid.isSome := by
  unfold create at h
  dsimp only at h
  split at h
  · cases h
  · cases h
    exact isSome_uid_stamp _ r

/-- A name that is taken stays so; a conflict that was arranged is used up. -/
theorem create_cases (s : Cluster) (r : Resource k) :
    (∃ x s', s.create r = (.ok x, s')) ∨
      ∃ s', s.create r = (.error (.alreadyExists k r.name), s') ∧
        s'.objects = s.objects ∧ s'.log = s.log ∧ s'.conflicts.contains (k, r.name) = false := by
  unfold create
  dsimp only
  split
  · exact .inr ⟨_, rfl, rfl, rfl, by simp⟩
  · exact .inl ⟨_, _, rfl⟩

theorem create_of_taken {r : Resource k} (h : (s.find? k r.name).isSome) :
    ∃ s', s.create r = (.error (.alreadyExists k r.name), s') ∧ s'.objects = s.objects := by
  unfold create
  dsimp only
  rw [if_pos (by rw [h, Bool.or_true])]
  exact ⟨_, rfl, rfl⟩

theorem create_of_free {r : Resource k} (h : s.find? k r.name = none)
    (hc : s.conflicts.contains (k, r.name) = false) : ∃ x s', s.create r = (.ok x, s') := by
  unfold create
  dsimp only
  rw [if_neg (by rw [h, hc]; exact Bool.false_ne_true)]
  exact ⟨_, _, rfl⟩

theorem replace_of_find? {r : Resource k} (h : s.find? k name = some x)
    (hv : r.metadata.resourceVersion = x.metadata.resourceVersion) :
    ∃ y s', s.replace name r = (.ok y, s') := by
  unfold replace
  rw [h]
  dsimp only
  rw [if_neg fun hne => hne hv.symm]
  exact ⟨_, _, rfl⟩

theorem terminating_create (s : Cluster) (r : Resource k) :
    (s.create r).2.terminating = s.terminating := by
  unfold create
  dsimp only
  split <;> rfl

theorem terminating_delete (s : Cluster) (k : Kind) (name : String) :
    (s.delete k name).2.terminating = s.terminating := by
  unfold delete
  split
  · rfl
  · dsimp only [record]
    split <;> rfl

theorem terminating_awaitDeleted (s : Cluster) (k : Kind) (name uid : String) :
    (s.awaitDeleted k name uid).terminating = s.terminating.filter (· ≠ (k, name)) := by
  unfold awaitDeleted
  dsimp only
  split
  · split <;> rfl
  · rfl

/-- Nothing is waited for but what may change. -/
theorem mem_terminating_answer {c : Call} (h : ¬ c.Changes k) (s : Cluster) (name : String) :
    (k, name) ∈ (answer c s).2.terminating ↔ (k, name) ∈ s.terminating := by
  cases c with
  | get | list | watch => rfl
  | create j r => exact iff_of_eq (congrArg _ (terminating_create s r))
  | delete j n => exact iff_of_eq (congrArg _ (terminating_delete s j n))
  | replace j n r =>
    show _ ∈ (s.replace n r).2.terminating ↔ _
    unfold replace
    split
    · rfl
    · split <;> rfl
  | awaitDeleted j n uid =>
    show _ ∈ (s.awaitDeleted j n uid).terminating ↔ _
    rw [terminating_awaitDeleted, List.mem_filter]
    refine and_iff_left (decide_eq_true fun he => h ?_)
    exact (congrArg Prod.fst he).symm
  | instantiateBuild n =>
    show _ ∈ (s.startBuild n _).2.terminating ↔ _
    unfold startBuild
    split <;> rfl
  | submitBinaryBuild n file content =>
    show _ ∈ (s.startBuild n _).2.terminating ↔ _
    unfold startBuild
    split <;> rfl
  | rollout n =>
    show _ ∈ (s.rollout n).2.terminating ↔ _
    unfold rollout
    split <;> rfl

end Cluster

namespace Reconcile

open Cluster

variable {s s' : Cluster} {desired x existing : Resource k} {name other : String}

/-! ## Deleting -/

/-- The platform after an object was deleted and its deletion waited for. -/
def freed (s : Cluster) (existing : Resource k) : Cluster :=
  match s.find? k existing.name with
  | none => s
  | some _ =>
    match existing.metadata.uid with
    | some uid => (s.delete k existing.name).2.awaitDeleted k existing.name uid
    | none => (s.delete k existing.name).2

theorem perform_deleteAndWait (s : Cluster) (existing : Resource k) :
    s.perform (deleteAndWait existing) = (.ok (), freed s existing) := by
  have hd : answer (.delete k existing.name) s = s.delete k existing.name := rfl
  unfold deleteAndWait freed
  rw [perform_bind, perform_attempt, hd]
  rcases hfind : s.find? k existing.name with _ | x
  · have hr : s.delete k existing.name = (.error (.notFound k existing.name), s) := by
      unfold delete
      rw [hfind]
    rw [hr]
    rfl
  · have hr : (s.delete k existing.name).1 = .ok () := by
      unfold delete
      rw [hfind]
    rw [hr]
    dsimp only
    cases existing.metadata.uid <;> rfl

theorem find?_freed_of_ne (s : Cluster) (h : other ≠ existing.name) :
    (freed s existing).find? k other = s.find? k other := by
  unfold freed
  split
  · rfl
  · split
    · rw [find?_awaitDeleted_of_ne _ _ h, find?_delete_of_ne _ h]
    · exact find?_delete_of_ne _ h

theorem find?_freed_self (h : s.find? k name = some existing) (hn : existing.name = name)
    (huid : existing.metadata.uid.isSome) : (freed s existing).find? k name = none := by
  subst hn
  obtain ⟨uid, huid⟩ := Option.isSome_iff_exists.1 huid
  unfold freed
  rw [h, huid]
  dsimp only
  rcases find?_delete_self h with hnone | ⟨y, hy, hyuid⟩
  · exact find?_awaitDeleted_of_none hnone
  · exact find?_awaitDeleted_self hy (hyuid.trans huid)

/-! ## Creating -/

theorem perform_create (hk : k.replaceStrategy = .recreate) (s : Cluster) (name : String)
    (desired : Resource k) :
    s.perform (create name desired) = match s.create desired with
      | (.ok x, s') => (.ok x, s')
      | (.error _, s') => match s'.find? k name with
        | none => s'.create desired
        | some existing => (freed s' existing).create desired := by
  have hc : ∀ q : Cluster, answer (.create k desired) q = q.create desired := fun _ => rfl
  unfold create
  rw [perform_bind, perform_attempt, hc]
  rcases create_cases s desired with ⟨x, s', hr⟩ | ⟨s', hr, -, -⟩
  · rw [hr]
    rfl
  · rw [hr]
    dsimp only
    rw [if_pos ⟨rfl, hk⟩, perform_bind, perform_get]
    dsimp only
    rcases s'.find? k name with _ | existing
    · rfl
    · refine (perform_bind s' (deleteAndWait existing) fun _ =>
        Action.ask (.create k desired)).trans ?_
      rw [perform_deleteAndWait]
      rfl

/-- An object was stored as it is wanted, and no other of its kind changed. -/
structure Reconciled (s s' : Cluster) (desired x : Resource k) : Prop where
  unstamped_eq : x.unstamped = desired.stored.unstamped
  isSome_uid : k.replaceStrategy = .recreate → x.metadata.uid.isSome
  find?_self : s'.find? k desired.name = some x
  find?_of_ne : ∀ {other}, other ≠ desired.name → s'.find? k other = s.find? k other

theorem reconciled_of_insert (hx : x.unstamped = desired.stored.unstamped)
    (huid : k.replaceStrategy = .recreate → x.metadata.uid.isSome)
    (h : s'.objects.of k = (s.objects.of k).insert desired.name x) :
    Reconciled s s' desired x := by
  refine ⟨hx, huid, ?_, fun hn => ?_⟩
  · rw [find?_of_insert h, if_pos rfl]
  · rw [find?_of_insert h, if_neg hn]

theorem reconciled_of_create (h : s.create desired = (.ok x, s')) :
    Reconciled s s' desired x := by
  obtain ⟨hx, ho⟩ := create_eq_ok h
  refine reconciled_of_insert hx (fun _ => isSome_uid_of_create h) ?_
  rw [ho, PerKind.of_put_self]

/-- Only the other objects there are before matter. -/
theorem Reconciled.of_find? {s₀ : Cluster} (h : Reconciled s s' desired x)
    (h₀ : ∀ {other}, other ≠ desired.name → s.find? k other = s₀.find? k other) :
    Reconciled s₀ s' desired x :=
  ⟨h.unstamped_eq, h.isSome_uid, h.find?_self, fun hn => (h.find?_of_ne hn).trans (h₀ hn)⟩

/-- Nothing is created where an object of another name is stored. -/
theorem create_ne_ok_of_misplaced (hk : k.replaceStrategy = .recreate)
    (h : s.find? k desired.name = some existing) (hn : existing.name ≠ desired.name) :
    s.perform (create desired.name desired) ≠ (.ok x, s') := by
  rw [perform_create hk]
  obtain ⟨s₁, hr, ho⟩ := create_of_taken (r := desired) (by rw [h]; rfl)
  have hfind : s₁.find? k desired.name = some existing := by
    unfold find? at h ⊢
    rw [ho, h]
  rw [hr]
  dsimp only
  rw [hfind]
  dsimp only
  have hfreed : ((freed s₁ existing).find? k desired.name).isSome := by
    rw [find?_freed_of_ne _ hn.symm, hfind]
    rfl
  obtain ⟨s₂, hr', -⟩ := create_of_taken hfreed
  rw [hr']
  exact fun hok => nomatch hok

theorem create_eq_ok_of_recreate (hk : k.replaceStrategy = .recreate)
    (h : s.perform (create desired.name desired) = (.ok x, s')) : Reconciled s s' desired x := by
  by_cases hplaced : ∃ existing, s.find? k desired.name = some existing ∧
      existing.name ≠ desired.name
  · obtain ⟨existing, hfind, hn⟩ := hplaced
    exact absurd h (create_ne_ok_of_misplaced hk hfind hn)
  rw [perform_create hk] at h
  rcases create_cases s desired with ⟨y, s₁, hr⟩ | ⟨s₁, hr, ho, -⟩
  · rw [hr] at h
    cases h
    exact reconciled_of_create hr
  · have hsame : ∀ other, s₁.find? k other = s.find? k other := find?_congr (by rw [ho])
    rw [hr] at h
    dsimp only at h
    rcases hfind : s₁.find? k desired.name with _ | existing
    · rw [hfind] at h
      exact (reconciled_of_create h).of_find? fun _ => hsame _
    · rw [hfind] at h
      have hname : existing.name = desired.name := Classical.byContradiction fun hn =>
        hplaced ⟨existing, (hsame _).symm.trans hfind, hn⟩
      refine (reconciled_of_create h).of_find? fun hn => ?_
      rw [find?_freed_of_ne _ (hname ▸ hn), hsame]

/-! ## Reconciling -/

theorem perform_reconcile (hk : k.replaceStrategy = .recreate) (s : Cluster)
    (desired : Resource k) :
    s.perform (reconcile desired) = match s.find? k desired.name with
      | none => s.perform (create desired.name desired)
      | some existing => (freed s existing).perform (create desired.name desired) := by
  unfold reconcile
  dsimp only
  rw [perform_bind, perform_get]
  dsimp only
  rcases s.find? k desired.name with _ | existing
  · rfl
  · dsimp only
    rw [hk]
    dsimp only
    rw [perform_bind, perform_deleteAndWait]

/-- Where reconciling succeeds, the object is stored as it is wanted and no other changes. -/
theorem reconcile_eq_ok (h : s.perform (reconcile desired) = (.ok x, s')) :
    Reconciled s s' desired x := by
  rcases hk : k.replaceStrategy with _ | _
  · obtain ⟨hx, ho⟩ := reconcile_update hk h
    refine reconciled_of_insert hx (fun hrecreate => ?_) (by rw [ho, PerKind.of_put_self])
    rw [hk] at hrecreate
    cases hrecreate
  rw [perform_reconcile hk] at h
  rcases hfind : s.find? k desired.name with _ | existing
  · rw [hfind] at h
    exact create_eq_ok_of_recreate hk h
  · rw [hfind] at h
    dsimp only at h
    by_cases hname : existing.name = desired.name
    · refine (create_eq_ok_of_recreate hk h).of_find? fun hn => ?_
      exact find?_freed_of_ne _ (hname ▸ hn)
    · refine absurd h (create_ne_ok_of_misplaced hk ?_ hname)
      rw [find?_freed_of_ne _ (Ne.symm hname), hfind]

/-! ## Recreating -/

/-- Nothing stays in the way of an object that is to be recreated under a name. What is there has
    this name, and its deletion is over at once or can be waited for. -/
def Replaceable (s : Cluster) (k : Kind) (name : String) : Prop :=
  ∀ x, s.find? k name = some x →
    x.name = name ∧ (x.metadata.uid.isSome ∨ (k, name) ∉ s.terminating)

theorem find?_freed_of_replaceable (h : s.find? k name = some existing)
    (hr : Replaceable s k name) : (freed s existing).find? k name = none := by
  obtain ⟨hn, huid⟩ := hr existing h
  by_cases hsome : existing.metadata.uid.isSome
  · exact find?_freed_self h hn hsome
  · have hgone : s.terminating.contains (k, name) = false := by
      simpa using huid.resolve_left hsome
    have hnone : existing.metadata.uid = none := by simpa using hsome
    subst hn
    unfold freed delete
    rw [h, hnone]
    dsimp only [record]
    rw [if_neg (by rw [hgone]; exact Bool.false_ne_true)]
    exact find?_discard_self _ _ _

theorem replaceable_of_none (h : s.find? k name = none) : Replaceable s k name := by
  intro x hx
  rw [h] at hx
  cases hx

/-- What leaves the objects of a kind alone does not get in their way either. -/
theorem replaceable_perform_iff {α : Type} {a : Action α} (ha : a.Only fun c => ¬ c.Changes k)
    (s : Cluster) (name : String) : Replaceable (s.perform a).2 k name ↔ Replaceable s k name := by
  have hmem : (k, name) ∈ (s.perform a).2.terminating ↔ (k, name) ∈ s.terminating :=
    perform_keeps (I := fun q => (k, name) ∈ q.terminating ↔ (k, name) ∈ s.terminating)
      (fun _ q hc hq => (mem_terminating_answer hc q name).trans hq) ha Iff.rfl
  unfold Replaceable
  rw [find?_congr (objects_of_perform ha s), hmem]

/-- Where a name is free, an object is created, be it at the second attempt. -/
theorem create_of_free (hk : k.replaceStrategy = .recreate)
    (h : s.find? k desired.name = none) :
    ∃ x s', s.perform (create desired.name desired) = (.ok x, s') := by
  rw [perform_create hk]
  rcases create_cases s desired with ⟨x, s₁, hr⟩ | ⟨s₁, hr, ho, -, hc⟩
  · rw [hr]
    exact ⟨x, s₁, rfl⟩
  · have hfind : s₁.find? k desired.name = none := (find?_congr (by rw [ho]) _).trans h
    rw [hr]
    dsimp only
    rw [hfind]
    exact Cluster.create_of_free hfind hc

/-- Recreating an object succeeds where nothing stays in its way. -/
theorem reconcile_of_replaceable (hk : k.replaceStrategy = .recreate)
    (h : Replaceable s k desired.name) : ∃ x s', s.perform (reconcile desired) = (.ok x, s') := by
  rw [perform_reconcile hk]
  rcases hfind : s.find? k desired.name with _ | existing
  · exact create_of_free hk hfind
  · exact create_of_free hk (find?_freed_of_replaceable hfind h)

/-- An object that has no identity stays while its deletion takes its time. -/
def Lingers (s : Cluster) (k : Kind) (name : String) : Prop :=
  ∃ x, s.find? k name = some x ∧ x.name = name ∧ x.metadata.uid = none ∧
    (k, name) ∈ s.terminating

theorem Lingers.freed (h : Lingers s k name) (hfind : s.find? k name = some existing) :
    Lingers (freed s existing) k name := by
  obtain ⟨x, hx, rfl, huid, hmem⟩ := h
  obtain rfl : x = existing := Option.some.inj (hx.symm.trans hfind)
  unfold Reconcile.freed delete
  rw [hx, huid]
  dsimp only [record]
  rw [if_pos (List.contains_iff_mem.2 hmem)]
  exact ⟨_, find?_store_self _ _ _, rfl, huid, hmem⟩

theorem Lingers.create_ne_ok (hk : k.replaceStrategy = .recreate)
    (h : Lingers s k desired.name) : s.perform (create desired.name desired) ≠ (.ok x, s') := by
  obtain ⟨y, hy, hname, huid, hmem⟩ := h
  rw [perform_create hk]
  obtain ⟨s₁, hr, ho⟩ := create_of_taken (r := desired) (by rw [hy]; rfl)
  have hfind : s₁.find? k desired.name = some y := (find?_congr (by rw [ho]) _).trans hy
  have hterminating := terminating_create s desired
  rw [hr] at hterminating ⊢
  dsimp only at hterminating ⊢
  rw [hfind]
  dsimp only
  have hlingers : Lingers s₁ k desired.name := ⟨y, hfind, hname, huid, hterminating ▸ hmem⟩
  obtain ⟨z, hz, -⟩ := hlingers.freed hfind
  obtain ⟨s₂, hr', -⟩ := create_of_taken (r := desired) (by rw [hz]; rfl)
  rw [hr']
  exact fun hok => nomatch hok

/-- Where recreating an object succeeds, nothing stayed in its way. -/
theorem replaceable_of_reconcile (hk : k.replaceStrategy = .recreate)
    (h : s.perform (reconcile desired) = (.ok x, s')) : Replaceable s k desired.name := by
  intro existing hfind
  rw [perform_reconcile hk, hfind] at h
  dsimp only at h
  have hname : existing.name = desired.name := by
    refine Classical.byContradiction fun hn => ?_
    refine create_ne_ok_of_misplaced hk ?_ hn h
    rw [find?_freed_of_ne _ (Ne.symm hn), hfind]
  refine ⟨hname, Classical.byContradiction fun hstays => ?_⟩
  obtain ⟨huid, hmem⟩ := not_or.1 hstays
  have hlingers : Lingers s k desired.name :=
    ⟨existing, hfind, hname, by simpa using huid, Classical.not_not.1 hmem⟩
  exact (hlingers.freed hfind).create_ne_ok hk h

theorem mem_terminating_freed (s : Cluster) {e : Kind × String} (he : e ≠ (k, existing.name)) :
    e ∈ (freed s existing).terminating ↔ e ∈ s.terminating := by
  unfold freed
  split
  · rfl
  · split
    · rw [terminating_awaitDeleted, terminating_delete, List.mem_filter]
      exact and_iff_left (decide_eq_true he)
    · rw [terminating_delete]

theorem mem_terminating_create (hk : k.replaceStrategy = .recreate)
    (hr : Replaceable s k desired.name) {e : Kind × String} (he : e ≠ (k, desired.name)) :
    e ∈ (s.perform (create desired.name desired)).2.terminating ↔ e ∈ s.terminating := by
  rw [perform_create hk]
  have hterminating := terminating_create s desired
  rcases create_cases s desired with ⟨x, s₁, hc⟩ | ⟨s₁, hc, ho, -⟩
  · rw [hc] at hterminating ⊢
    rw [← hterminating]
  · rw [hc] at hterminating ⊢
    dsimp only at hterminating ⊢
    rw [← hterminating]
    rcases hfind : s₁.find? k desired.name with _ | existing
    · dsimp only
      rw [terminating_create]
    · dsimp only
      have hname := (hr existing ((find?_congr (by rw [ho]) _).symm.trans hfind)).1
      rw [terminating_create, mem_terminating_freed s₁ (hname ▸ he)]

/-- What can be recreated besides an object is the same after this was. -/
theorem replaceable_reconcile_iff (hk : k.replaceStrategy = .recreate)
    (h : s.perform (reconcile desired) = (.ok x, s')) (hn : other ≠ desired.name) :
    Replaceable s' k other ↔ Replaceable s k other := by
  have he : (k, other) ≠ (k, desired.name) := fun he => hn (congrArg Prod.snd he)
  have hr := replaceable_of_reconcile hk h
  have hfind := (reconcile_eq_ok h).find?_of_ne hn
  have hmem : (k, other) ∈ s'.terminating ↔ (k, other) ∈ s.terminating := by
    have hs : s' = (s.perform (reconcile desired)).2 := by rw [h]
    rw [hs, perform_reconcile hk]
    rcases hexisting : s.find? k desired.name with _ | existing
    · exact mem_terminating_create hk hr he
    · have hname := (hr existing hexisting).1
      have hfree := replaceable_of_none (find?_freed_of_replaceable hexisting hr)
      dsimp only
      rw [mem_terminating_create hk hfree he, mem_terminating_freed s (hname ▸ he)]
  unfold Replaceable
  rw [hfind, hmem]

/-! ## Success -/

/-- An object is there that can be replaced. One that is recreated has its own name and an identity
    that its deletion can be waited for with. -/
def Ready (s : Cluster) (k : Kind) (name : String) : Prop :=
  ∃ x, s.find? k name = some x ∧
    (k.replaceStrategy = .recreate → x.name = name ∧ x.metadata.uid.isSome)

theorem Ready.congr (h : Ready s k name) (hf : s'.find? k name = s.find? k name) :
    Ready s' k name := by
  unfold Ready
  rwa [hf]

theorem Reconciled.ready_self (h : Reconciled s s' desired x) : Ready s' k desired.name := by
  refine ⟨x, h.find?_self, fun hk => ⟨?_, h.isSome_uid hk⟩⟩
  rw [← x.name_unstamped, h.unstamped_eq]
  rfl

theorem Ready.replaceable (hk : k.replaceStrategy = .recreate) (h : Ready s k name) :
    Replaceable s k name := by
  obtain ⟨x, hx, hrecreate⟩ := h
  intro y hy
  obtain rfl : x = y := Option.some.inj (hx.symm.trans hy)
  exact ⟨(hrecreate hk).1, .inl (hrecreate hk).2⟩

theorem Replaceable.reconcile {j : Kind} (hk : k.replaceStrategy = .recreate)
    (hr : Replaceable s j name) (h : s.perform (reconcile desired) = (.ok x, s')) :
    Replaceable s' j name := by
  by_cases hj : j = k
  · subst hj
    by_cases hn : name = desired.name
    · subst hn
      exact (reconcile_eq_ok h).ready_self.replaceable hk
    · exact (replaceable_reconcile_iff hk h hn).2 hr
  · have hother := replaceable_perform_iff
      ((only_reconcile desired).mono fun _ hc => hc.not_changes hj) s name
    rw [h] at hother
    exact hother.2 hr

/-- An object that is there for a kind and a name is there after another was reconciled. -/
theorem Ready.reconcile {j : Kind} (hr : Ready s j name)
    (h : s.perform (reconcile desired) = (.ok x, s')) : Ready s' j name := by
  by_cases hj : j = k
  · subst hj
    have hx := reconcile_eq_ok h
    by_cases hn : name = desired.name
    · rw [hn]
      exact hx.ready_self
    · exact hr.congr (hx.find?_of_ne hn)
  · have ho := objects_of_reconcile s desired hj
    rw [h] at ho
    exact hr.congr (find?_congr ho name)

/-- Reconciling an object succeeds where one is there that can be replaced. -/
theorem reconcile_of_ready (h : Ready s k desired.name) :
    ∃ x s', s.perform (reconcile desired) = (.ok x, s') := by
  obtain ⟨existing, hfind, hrecreate⟩ := h
  rcases hk : k.replaceStrategy with _ | _
  · rw [perform_reconcile_update hk, hfind]
    exact replace_of_find? hfind rfl
  · exact reconcile_of_replaceable hk (Ready.replaceable hk ⟨existing, hfind, hrecreate⟩)

end Reconcile

end Slipway

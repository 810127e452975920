import Slipway.Proofs.Cluster.Conflicts
import Slipway.Proofs.Program.Failures
import Slipway.Proofs.Session.Reached

/-
  What reconciling an object comes to on a platform that a run leads to (`reconcile_settles`). What
  is stored is the wanted object under the next version (`eq_stamp_of_reconcile`), alone under its
  name and with all else as it was (`Settled`). An object that is recreated is deleted by the name
  that it bears, so that one that is stored under another name stays in the way
  (`reconcile_unsettled_serviceMisplaced`).
-/

namespace Slipway

open Cluster

variable {k : Kind}

namespace Cluster

variable {s s' q : Cluster} {name : String} {r x : Resource k}

/-! ## Versions -/

/-- An object is stamped by the version alone. -/
theorem stamp_congr (h : s.version = q.version) (r : Resource k) :
    (s.stamp r).1 = (q.stamp r).1 := by
  unfold stamp
  rw [h]

theorem uid_stamp (s : Cluster) (r : Resource k) : (s.stamp r).1.metadata.uid =
    r.metadata.uid.or (some ("uid-" ++ Text.decimal (s.version + 1))) := rfl

theorem eq_stamp_of_create (h : s.create r = (.ok x, s')) :
    s'.version = s.version + 1 ∧ x = (s.stamp r).1 := by
  unfold create at h
  dsimp only at h
  split at h
  · cases h
  · cases h
    exact ⟨rfl, rfl⟩

theorem version_of_create_error {e : Failure} (h : s.create r = (.error e, s')) :
    s'.version = s.version := by
  unfold create at h
  dsimp only at h
  split at h
  · cases h
    rfl
  · cases h

theorem eq_stamp_of_replace {y : Resource k} (hy : s.find? k name = some y)
    (h : s.replace name r = (.ok x, s')) :
    s'.version = s.version + 1 ∧ x = (s.stamp (inPlaceOf y r)).1 := by
  unfold replace at h
  rw [hy] at h
  dsimp only at h
  split at h
  · cases h
  · cases h
    exact ⟨rfl, rfl⟩

end Cluster

namespace Reconcile

variable {s s' : Cluster} {desired x : Resource k}

theorem version_freed (s : Cluster) (existing : Resource k) :
    (freed s existing).version = s.version := by
  unfold freed
  split
  · rfl
  · split
    · rw [version_awaitDeleted, version_delete]
    · exact version_delete s k _

theorem eq_stamp_of_recreate (hk : k.replaceStrategy = .recreate) {name : String}
    (h : s.perform (create name desired) = (.ok x, s')) :
    s'.version = s.version + 1 ∧ x = (s.stamp desired).1 := by
  rw [perform_create hk] at h
  rcases hc : s.create desired with ⟨e | y, s₁⟩
  · have hv := version_of_create_error hc
    rw [hc] at h
    dsimp only at h
    split at h
    · have hx := Cluster.eq_stamp_of_create h
      rwa [hv, stamp_congr hv] at hx
    next existing _ =>
      have hv' : (freed s₁ existing).version = s.version := (version_freed s₁ existing).trans hv
      have hx := Cluster.eq_stamp_of_create h
      rwa [hv', stamp_congr hv'] at hx
  · rw [hc] at h
    cases h
    exact Cluster.eq_stamp_of_create hc

/-- What is stored is the wanted object under the next version. One that is written over in place
    keeps its identity and time of creation. -/
theorem eq_stamp_of_reconcile (h : s.perform (reconcile desired) = (.ok x, s')) :
    s'.version = s.version + 1 ∧
      x = match k.replaceStrategy, s.find? k desired.name with
        | .update, some y => (s.stamp (inPlaceOf y desired)).1
        | _, _ => (s.stamp desired).1 := by
  rcases hk : k.replaceStrategy with _ | _
  · rw [perform_reconcile_update hk] at h
    rcases hfind : s.find? k desired.name with _ | y
    · rw [hfind] at h
      exact Cluster.eq_stamp_of_create h
    · rw [hfind] at h
      obtain ⟨hv, hx⟩ := eq_stamp_of_replace hfind h
      exact ⟨hv, hx⟩
  · rw [perform_reconcile hk] at h
    rcases hfind : s.find? k desired.name with _ | y
    · rw [hfind] at h
      exact eq_stamp_of_recreate hk h
    · rw [hfind] at h
      have hv := version_freed s y
      have hx := eq_stamp_of_recreate hk h
      rwa [hv, stamp_congr hv] at hx

/-! ## Success -/

/-- What is stored once an object was reconciled. -/
structure Settled (s s' : Cluster) (desired x : Resource k) : Prop where
  /-- The object is the only one of its kind and name. -/
  entry : (s'.objects.of k).entries.filter (fun e => e.1 = desired.name) = [(desired.name, x)]
  name_eq : x.name = desired.name
  unstamped_eq : x.unstamped = desired.stored.unstamped
  deletionTimestamp_eq : x.metadata.deletionTimestamp = none
  hasVersion : x.HasVersion s'.version
  version_lt : s.version < s'.version
  find?_of_ne : ∀ j other, (j, other) ≠ (k, desired.name) → s'.find? j other = s.find? j other
  /-- An object that is written over in place keeps its identity and time of creation. -/
  inPlace : k.replaceStrategy = .update → ∀ y, s.find? k desired.name = some y →
    x.metadata.uid = y.metadata.uid ∧
      x.metadata.creationTimestamp = y.metadata.creationTimestamp
  /-- Another one has those of its version. -/
  anew : k.replaceStrategy = .recreate ∨ s.find? k desired.name = none →
    x.metadata.uid = some ("uid-" ++ Text.decimal s'.version) ∧
      x.metadata.creationTimestamp = some (clock s'.version)

/-- Where objects have an identity and a time of creation in whole seconds, an object that says
    nothing of these is stored as it is wanted. -/
theorem settled_of_reconcile (hid : s.AllIdentified) (hdated : s.AllDated)
    (huid : desired.metadata.uid = none) (htime : desired.metadata.creationTimestamp = none)
    (hdel : desired.metadata.deletionTimestamp = none)
    (h : s.perform (reconcile desired) = (.ok x, s')) : Settled s s' desired x := by
  have hr := reconcile_eq_ok h
  obtain ⟨hv, hx⟩ := eq_stamp_of_reconcile h
  refine ⟨Dict.filter_entries_of_get? hr.find?_self, ?_, hr.unstamped_eq, ?_, ?_, by omega,
    fun j other hne => ?_, fun hk y hy => ?_, fun hanew => ?_⟩
  · rw [← x.name_unstamped, hr.unstamped_eq]
    rfl
  · have hdeletion : x.metadata.deletionTimestamp =
        desired.metadata.deletionTimestamp.map Timestamp.wholeSeconds :=
      congrArg (fun r : Resource k => r.metadata.deletionTimestamp) hr.unstamped_eq
    rw [hdeletion, hdel]
    rfl
  · rw [hv]
    split at hx <;> subst hx <;> exact hasVersion_stamp s _
  · by_cases hj : j = k
    · subst hj
      exact hr.find?_of_ne fun hn => hne (hn ▸ rfl)
    · have ho := objects_of_reconcile s desired hj
      rw [h] at ho
      exact find?_congr ho other
  · rw [hk, hy] at hx
    obtain ⟨uid, hyuid⟩ := Option.isSome_iff_exists.1 (hid k _ y hy)
    rw [hx]
    refine ⟨?_, creationTimestamp_stamp s (r := inPlaceOf y desired) (hdated k _ y hy)⟩
    have hkept : (inPlaceOf y desired).metadata.uid = y.metadata.uid := rfl
    rw [uid_stamp, hkept, hyuid]
    rfl
  · have hstamp : x = (s.stamp desired).1 := by
      rcases hanew with hk | hnone
      · rw [hk] at hx
        exact hx
      · rw [hnone] at hx
        split at hx
        next heq => nomatch heq
        next => exact hx
    have hclock : (s.stamp desired).1.metadata.creationTimestamp =
        (desired.metadata.creationTimestamp.map Timestamp.wholeSeconds).or
          (some (clock (s.version + 1))) := rfl
    rw [hstamp, hv, uid_stamp, hclock, huid, htime]
    exact ⟨rfl, rfl⟩

/-- Where objects have an identity, one that is recreated succeeds unless the object that is stored
    under its name bears another. -/
theorem reconcile_recreate_iff (hk : k.replaceStrategy = .recreate) (hid : s.AllIdentified) :
    (∃ x s', s.perform (reconcile desired) = (.ok x, s')) ↔
      ∀ y, s.find? k desired.name = some y → y.name = desired.name := by
  constructor
  · rintro ⟨x, s', h⟩ y hy
    exact (replaceable_of_reconcile hk h y hy).1
  · intro h
    exact reconcile_of_replaceable hk fun y hy => ⟨h y hy, .inl (hid k _ y hy)⟩

theorem reconcile_update_of_conflict (desired : Resource k) (hk : k.replaceStrategy = .update)
    (hnone : s.find? k desired.name = none) (hc : (k, desired.name) ∈ s.conflicts) :
    s.perform (reconcile desired) =
      (.error (.alreadyExists k desired.name), s.spent k desired.name) := by
  rw [perform_reconcile_update hk, hnone]
  exact create_of_conflict hc

theorem reconcile_update_of_no_conflict (hk : k.replaceStrategy = .update)
    (h : ¬ (s.find? k desired.name = none ∧ (k, desired.name) ∈ s.conflicts)) :
    ∃ x s', s.perform (reconcile desired) = (.ok x, s') := by
  rcases hfind : s.find? k desired.name with _ | y
  · obtain ⟨x, s', hx, -⟩ := create_of_not_mem hfind fun hc => h ⟨hfind, hc⟩
    exact ⟨x, s', by rw [perform_reconcile_update hk, hfind]; exact hx⟩
  · refine reconcile_of_ready ⟨y, hfind, fun hr => ?_⟩
    rw [hk] at hr
    cases hr

end Reconcile

open Reconcile

/-- On every platform that a run leads to, an object with a name and labels is reconciled. One that
    is recreated is unless the object under its name bears another name, whatever conflicts and slow
    deletions are arranged; one that is written over in place is unless it is absent and meets with
    a conflict, which changes no object and is not recorded. Then the object is stored as it is
    wanted, under a version later than all before, and reconciling it again changes nothing of what
    is wanted. -/
theorem reconcile_settles (run : List Event) (name : String) (labels : Attributes) (spec : k.Spec)
    (status : k.Status) :
    let s := (Session.ofRun run).platform
    let desired : Resource k := ⟨.ofLabels name labels, spec, status⟩
    (k.replaceStrategy = .recreate →
      ((∃ x s', s.perform (reconcile desired) = (.ok x, s')) ↔
        ∀ y, s.find? k name = some y → y.name = name)) ∧
    (k.replaceStrategy = .update →
      if s.find? k name = none ∧ (k, name) ∈ s.conflicts then
        ∃ s', s.perform (reconcile desired) = (.error (.alreadyExists k name), s') ∧
          s'.objects = s.objects ∧ s'.log = s.log
      else ∃ x s', s.perform (reconcile desired) = (.ok x, s')) ∧
    ∀ x s', s.perform (reconcile desired) = (.ok x, s') → Settled s s' desired x ∧
      (∀ earlier, earlier <+: run → ∀ j other y,
        (Session.ofRun earlier).platform.find? j other = some y →
          ∃ v, y.HasVersion v ∧ v < s'.version) ∧
      ∃ x' s'', s'.perform (reconcile desired) = (.ok x', s'') ∧ x'.unstamped = x.unstamped := by
  intro s desired
  have hid : s.AllIdentified := Session.allIdentified_ofRun run
  refine ⟨fun hk => reconcile_recreate_iff hk hid, fun hk => ?_, fun x s' h => ?_⟩
  · split
    next hc => exact ⟨_, reconcile_update_of_conflict desired hk hc.1 hc.2, rfl, rfl⟩
    next hc => exact reconcile_update_of_no_conflict hk hc
  · have hsettled := settled_of_reconcile hid (Session.allDated_ofRun run) rfl rfl rfl h
    refine ⟨hsettled, ?_, ?_⟩
    · rintro earlier ⟨rest, rfl⟩ j other y hy
      obtain ⟨v, hv, hle⟩ := Session.allVersioned_ofRun earlier j other y hy
      have hlater := Session.version_le_ofRun_append earlier rest
      exact ⟨v, hv, Nat.lt_of_le_of_lt (Nat.le_trans hle hlater) hsettled.version_lt⟩
    · have hr := reconcile_eq_ok h
      obtain ⟨x', s'', h'⟩ := reconcile_of_ready hr.ready_self
      exact ⟨x', s'', h', (reconcile_eq_ok h').unstamped_eq.trans hr.unstamped_eq.symm⟩

/-- A service that takes its time to be deleted, with conflicts on its creation and on that of an
    image stream. -/
def serviceInTheWay : List Event := [
  .act (.insert .service ⟨.ofLabels "ticker" ∅, none, ()⟩),
  .act (.terminateGracefully .service "ticker"),
  .act (.injectConflict .service "ticker"),
  .act (.injectConflict .imageStream "ticker")]

/-- There the service is recreated, and the image stream meets with its conflict. -/
theorem reconcile_settles_serviceInTheWay :
    (∃ x s', (Session.ofRun serviceInTheWay).platform.perform
        (reconcile (k := .service) ⟨.ofLabels "ticker" ∅, none, ()⟩) = (.ok x, s') ∧
      x.metadata.uid = some "uid-2" ∧ x.metadata.deletionTimestamp = none ∧
      s'.find? .service "ticker" = some x) ∧
    ∃ s', (Session.ofRun serviceInTheWay).platform.perform
        (reconcile (k := .imageStream) ⟨.ofLabels "ticker" ∅, { }, none⟩) =
      (.error (.alreadyExists .imageStream "ticker"), s') := by
  obtain ⟨hservice, -, hsettled⟩ :=
    reconcile_settles (k := .service) serviceInTheWay "ticker" ∅ none ()
  obtain ⟨-, hstream, -⟩ :=
    reconcile_settles (k := .imageStream) serviceInTheWay "ticker" ∅ { } none
  have hname : ((Session.ofRun serviceInTheWay).platform.find? .service "ticker").map
      Resource.name = some "ticker" := by
    decide +kernel
  have hversion : ((Session.ofRun serviceInTheWay).platform.perform
      (reconcile (k := .service) ⟨.ofLabels "ticker" ∅, none, ()⟩)).2.version = 2 := by
    decide +kernel
  obtain ⟨x, s', h⟩ := (hservice rfl).2 fun y hy => by
    rw [hy] at hname
    exact Option.some.inj hname
  rw [h] at hversion
  obtain ⟨hx, -, -⟩ := hsettled x s' h
  have huid := (hx.anew (.inl rfl)).1
  rw [hversion, show "uid-" ++ Text.decimal 2 = "uid-2" by decide +kernel] at huid
  refine ⟨⟨x, s', h, huid, hx.deletionTimestamp_eq, (reconcile_eq_ok h).find?_self⟩, ?_⟩
  have herror := hstream rfl
  rw [if_pos (by decide +kernel)] at herror
  obtain ⟨s', hs', -, -⟩ := herror
  exact ⟨s', hs'⟩

/-- A service that is stored under another name than its own. -/
def serviceMisplaced : List Event := [
  .act (.insert .service ⟨.ofLabels "ticker" ∅, none, ()⟩),
  .step (Deployer.ofContent []) (.call (.replace .service "ticker"
    ⟨{ name := some "other", resourceVersion := some "1" }, none, ()⟩))]

/-- Services are recreated, but this one is not deleted, and so its name stays taken. -/
theorem reconcile_unsettled_serviceMisplaced :
    Kind.service.replaceStrategy = .recreate ∧
      ((Session.ofRun serviceMisplaced).platform.perform
        (reconcile (k := .service) ⟨.ofLabels "ticker" ∅, none, ()⟩)).1 =
          .error (.alreadyExists .service "ticker") := by
  rw [← Result.failure?_eq_some]
  decide +kernel

end Slipway

import Slipway.Proofs.Cluster.Reconciled
import Slipway.Proofs.Session.Keeps
import Slipway.Proofs.Text.Numbering

/-
  Where the objects on a platform in memory come from. An object that is found after a call was
  there before or is what the call made of it (`source_of_find?`), and likewise for the acts of the
  world outside (`source_of_act`). What all objects have that can arise like this they have always
  (`kept_allObjects`).
-/

namespace Slipway

namespace Cluster

variable {s s' : Cluster} {k : Kind} {name : String} {x : Resource k} {c : Call}

/-- A deployment that is told to roll out once more. -/
def countedUp (dc : DeploymentConfig) : DeploymentConfig :=
  let status : DeploymentStatus := (dc.status : Option DeploymentStatus).getD {}
  { dc with status := some { status with latestVersion := status.latestVersion + 1 } }

/-- An object that takes the place of another keeps its identity and time of creation. -/
def inPlaceOf (y r : Resource k) : Resource k :=
  { r with metadata := { r.metadata with
      creationTimestamp := y.metadata.creationTimestamp
      uid := y.metadata.uid } }

/-- An object whose deletion takes its time. -/
def markedDeleted (y : Resource k) : Resource k :=
  { y with metadata := { y.metadata with deletionTimestamp := some deletionTime } }

/-- A build whose phase is another now. -/
def movedTo (phase : BuildPhase) (image : Option String) (b : Build) : Build :=
  let status : BuildStatus := {
    phase
    message := if phase.isFailure then some ("build " ++ phase.name) else none
    outputImage := image }
  { b with status := some status }

/-! ## Calls -/

/-- Where an object comes from that is found after a call. -/
inductive Source (c : Call) (s : Cluster) : (k : Kind) → String → Resource k → Prop
  | before {k : Kind} {name : String} {x : Resource k} (h : s.find? k name = some x) :
    Source c s k name x
  | created {k : Kind} (r : Resource k) (hc : c = .create k r) :
    Source c s k r.name (s.stamp r).1
  | replaced {k : Kind} {name : String} {y : Resource k} (r : Resource k)
    (hc : c = .replace k name r) (hy : s.find? k name = some y) :
    Source c s k name (s.stamp (inPlaceOf y r)).1
  | marked {k : Kind} {name : String} {y : Resource k} (hc : c = .delete k name)
    (hy : s.find? k name = some y) : Source c s k name (markedDeleted y)
  | started {base : String} {bc : BuildConfig}
    (hc : c = .instantiateBuild base ∨ ∃ file content, c = .submitBinaryBuild base file content)
    (hbc : s.find? .buildConfig base = some bc) :
    Source c s .build (Text.numbered base (s.nextBuildNumber base))
      (s.stamp (newBuild bc base (s.nextBuildNumber base))).1
  | rolledOut {name : String} {dc : DeploymentConfig} (hc : c = .rollout name)
    (hdc : s.find? .deploymentConfig name = some dc) :
    Source c s .deploymentConfig name (s.stamp (countedUp dc)).1

/-- What is found after an object was written is that object, or was there before. -/
theorem eq_or_find?_of_insert {y : Resource k} {other : String}
    (ho : s'.objects.of k = (s.objects.of k).insert name y)
    (h : s'.find? k other = some x) : (other = name ∧ x = y) ∨ s.find? k other = some x := by
  rw [find?_of_insert ho] at h
  split at h
  next he => exact .inl ⟨he, (Option.some.inj h).symm⟩
  next => exact .inr h

theorem find?_of_discard {other : String} (h : (s.discard k name).find? k other = some x) :
    s.find? k other = some x := by
  rw [find?_discard] at h
  split at h
  · cases h
  · exact h

theorem source_of_startBuild {base : String} {op : Operation} {b : Build}
    (hc : c = .instantiateBuild base ∨ ∃ file content, c = .submitBinaryBuild base file content)
    (h : (s.startBuild base op).2.find? .build name = some b) : Source c s .build name b := by
  unfold startBuild at h
  split at h
  · exact .before h
  next bc hbc =>
    rcases eq_or_find?_of_insert (s := s)
        (y := (s.stamp (newBuild bc base (s.nextBuildNumber base))).1) rfl h with ⟨rfl, rfl⟩ | h
    · exact .started hc hbc
    · exact .before h

theorem source_of_create {r : Resource k} (h : (s.create r).2.find? k name = some x) :
    Source (.create k r) s k name x := by
  unfold Cluster.create at h
  dsimp only at h
  split at h
  · exact .before h
  · rcases eq_or_find?_of_insert (s := s) (PerKind.of_put_self _ _ _) h with ⟨rfl, rfl⟩ | h
    · exact .created r rfl
    · exact .before h

theorem source_of_replace {n : String} {r : Resource k}
    (h : (s.replace n r).2.find? k name = some x) : Source (.replace k n r) s k name x := by
  unfold Cluster.replace at h
  split at h
  · exact .before h
  next y hy =>
    split at h
    · exact .before h
    · rcases eq_or_find?_of_insert (s := s) (PerKind.of_put_self _ _ _) h with ⟨rfl, rfl⟩ | h
      · exact .replaced r rfl hy
      · exact .before h

theorem source_of_delete {n : String} (h : (s.delete k n).2.find? k name = some x) :
    Source (.delete k n) s k name x := by
  unfold Cluster.delete at h
  split at h
  · exact .before h
  next y hy =>
    dsimp only at h
    split at h
    · rcases eq_or_find?_of_insert (s := s) (PerKind.of_put_self _ _ _) h with ⟨rfl, rfl⟩ | h
      · exact .marked rfl hy
      · exact .before h
    · exact .before (find?_of_discard h)

theorem find?_of_awaitDeleted {n uid : String}
    (h : (s.awaitDeleted k n uid).find? k name = some x) : s.find? k name = some x := by
  unfold Cluster.awaitDeleted at h
  dsimp only at h
  split at h
  · split at h
    · exact find?_of_discard (s := { s with terminating := _ }) h
    · exact h
  · exact h

theorem source_of_rollout {n : String} {dc : DeploymentConfig}
    (h : (s.rollout n).2.find? .deploymentConfig name = some dc) :
    Source (.rollout n) s .deploymentConfig name dc := by
  unfold Cluster.rollout at h
  split at h
  · exact .before h
  next dc₀ hdc₀ =>
    rcases eq_or_find?_of_insert (s := s) (y := (s.stamp (countedUp dc₀)).1) rfl h with
      ⟨rfl, rfl⟩ | h
    · exact .rolledOut rfl hdc₀
    · exact .before h

/-- An object that is found after a call was there before, or the call made it. -/
theorem source_of_find? (h : (answer c s).2.find? k name = some x) : Source c s k name x := by
  by_cases hch : c.Changes k
  · cases c with
    | get | list | watch => exact .before h
    | create j r =>
      obtain rfl : j = k := hch
      exact source_of_create h
    | replace j n r =>
      obtain rfl : j = k := hch
      exact source_of_replace h
    | delete j n =>
      obtain rfl : j = k := hch
      exact source_of_delete h
    | awaitDeleted j n uid =>
      obtain rfl : j = k := hch
      exact .before (find?_of_awaitDeleted h)
    | instantiateBuild base =>
      obtain rfl : k = .build := hch
      exact source_of_startBuild (.inl rfl) h
    | submitBinaryBuild base file content =>
      obtain rfl : k = .build := hch
      exact source_of_startBuild (.inr ⟨file, content, rfl⟩) h
    | rollout n =>
      obtain rfl : k = .deploymentConfig := hch
      exact source_of_rollout h
  · exact .before ((find?_congr (objects_of_answer hch s) name).symm.trans h)

/-! ## Acts -/

/-- Where an object comes from that is found after an act of the world outside. -/
inductive ActSource (a : Act) (s : Cluster) : (k : Kind) → String → Resource k → Prop
  | before {k : Kind} {name : String} {x : Resource k} (h : s.find? k name = some x) :
    ActSource a s k name x
  | inserted {k : Kind} (r : Resource k) (ha : a = .insert k r) :
    ActSource a s k r.name (s.stamp r).1
  | moved {name : String} {phase : BuildPhase} {image : Option String} {b : Build}
    (ha : a = .setBuildPhase name phase image) (hb : s.find? .build name = some b) :
    ActSource a s .build name (s.stamp (movedTo phase image b)).1

/-- An object that is found after an act was there before, or the act made it. -/
theorem source_of_act {a : Act} (ha : s.act a = some s') (h : s'.find? k name = some x) :
    ActSource a s k name x := by
  cases a with
  | insert j r =>
    cases ha
    by_cases hj : k = j
    · subst hj
      rcases eq_or_find?_of_insert (s := s) (PerKind.of_put_self _ _ _) h with ⟨rfl, rfl⟩ | h
      · exact .inserted r rfl
      · exact .before h
    · exact .before ((find?_congr (objects_of_store_of_ne _ _ _ hj) name).symm.trans h)
  | injectConflict | terminateGracefully | dropWatches =>
    cases ha
    exact .before h
  | setBuildPhase n phase image =>
    obtain ⟨b, hb, rfl⟩ := Option.map_eq_some_iff.1 ha
    by_cases hk : k = .build
    · subst hk
      rcases eq_or_find?_of_insert (s := s) (y := (s.stamp (movedTo phase image b)).1) rfl h with
        ⟨rfl, rfl⟩ | h
      · exact .moved rfl hb
      · exact .before h
    · exact .before ((find?_congr (objects_of_store_of_ne _ _ _ hk) name).symm.trans h)

theorem objects_poll (id : WatchId k) (s : Cluster) : (poll id s).2.objects = s.objects := by
  unfold poll
  split
  · rfl
  · split <;> rfl

/-! ## All objects -/

/-- Every object there is has a property. -/
def AllObjects (P : (k : Kind) → String → Resource k → Prop) (s : Cluster) : Prop :=
  ∀ k name x, s.find? k name = some x → P k name x

section All

variable {P : (k : Kind) → String → Resource k → Prop} {p : Call → Prop}

theorem allObjects_empty : AllObjects P {} := by
  intro k name x h
  unfold find? at h
  rw [PerKind.of_ofFun] at h
  cases h

theorem AllObjects.congr (h : AllObjects P s) (ho : s'.objects = s.objects) : AllObjects P s' :=
  fun k name x hx => h k name x ((find?_congr (by rw [ho]) name).symm.trans hx)

/-- What the objects have that calls make of such as have it, all objects keep. -/
theorem kept_allObjects (h : ∀ c s k name x, p c → AllObjects P s → Source c s k name x →
      P k name x) : Kept (σ := Cluster) p (fun _ => True) (AllObjects P) where
  answer c s hc hs := fun k name x hx => h c s k name x hc hs (source_of_find? hx)
  opened _ _ _ _ _ _ := trivial
  poll id s _ hs := hs.congr (objects_poll id s)
  close _ _ _ hs := hs

end All

/-- Every object has an identity. -/
def AllIdentified : Cluster → Prop := AllObjects fun _ _ x => x.metadata.uid.isSome

theorem Source.isSome_uid (h : Source c s k name x) (hs : s.AllIdentified) :
    x.metadata.uid.isSome := by
  cases h with
  | before h => exact hs _ _ _ h
  | created r hc => exact isSome_uid_stamp s r
  | replaced r hc hy => exact isSome_uid_stamp s _
  | @marked k name y hc hy => exact hs k name y hy
  | started hc hbc => exact isSome_uid_stamp s _
  | rolledOut hc hdc => exact isSome_uid_stamp s _

end Cluster

end Slipway

import Slipway.Proofs.Cluster.Versions
import Slipway.Proofs.Session.Sound

/-
  What holds of the platform after every run, whoever writes its objects. No watch has a number that
  is still to be given (`fresh_ofRun`), every object has an identity (`allIdentified_ofRun`), a
  version that was counted (`allVersioned_ofRun`), and a time of creation in whole seconds
  (`allDated_ofRun`), so that it is not changed by storing the object once more
  (`creationTimestamp_stamp`). Versions are only counted up (`version_le_ofRun_append`).
-/

namespace Slipway

variable {k : Kind}

/-! ## Times of creation -/

namespace Timestamp

theorem wholeSeconds_wholeSeconds (t : Timestamp) : t.wholeSeconds.wholeSeconds = t.wholeSeconds := by
  unfold wholeSeconds
  by_cases h : 1000000000 ≤ t.nanos
  · rw [if_pos h, if_pos (Nat.le_refl _)]
  · rw [if_neg h, if_neg (Nat.not_le_of_gt (by decide : 0 < 1000000000))]

end Timestamp

/-- An object has a time of creation, in whole seconds. -/
def Resource.Dated (x : Resource k) : Prop :=
  ∃ t, x.metadata.creationTimestamp = some t ∧ t.wholeSeconds = t

namespace Cluster

variable {s s' : Cluster} {name : String} {x : Resource k}

theorem dated_stamp (s : Cluster) (r : Resource k) : (s.stamp r).1.Dated := by
  have htime : (s.stamp r).1.metadata.creationTimestamp =
      (r.metadata.creationTimestamp.map Timestamp.wholeSeconds).or (some (clock (s.version + 1))) :=
    rfl
  rcases ht : r.metadata.creationTimestamp with _ | t
  · rw [ht] at htime
    exact ⟨_, htime, rfl⟩
  · rw [ht] at htime
    exact ⟨_, htime, t.wholeSeconds_wholeSeconds⟩

/-- The time of creation stays as it is when an object is stored again. -/
theorem creationTimestamp_stamp (s : Cluster) {r : Resource k} (h : r.Dated) :
    (s.stamp r).1.metadata.creationTimestamp = r.metadata.creationTimestamp := by
  obtain ⟨t, ht, hwhole⟩ := h
  show (r.metadata.creationTimestamp.map Timestamp.wholeSeconds).or _ = _
  rw [ht, Option.map_some, hwhole]
  rfl

/-- Every object has a time of creation, in whole seconds. -/
def AllDated : Cluster → Prop := AllObjects fun _ _ x => x.Dated

theorem Source.dated {c : Call} (h : Source c s k name x) (hs : s.AllDated) : x.Dated := by
  cases h with
  | before h => exact hs _ _ _ h
  | created r hc => exact dated_stamp s r
  | replaced r hc hy => exact dated_stamp s _
  | @marked k name y hc hy => exact hs k name y hy
  | started hc hbc => exact dated_stamp s _
  | rolledOut hc hdc => exact dated_stamp s _

theorem ActSource.dated {a : Act} (h : ActSource a s k name x) (hs : s.AllDated) : x.Dated := by
  cases h with
  | before h => exact hs _ _ _ h
  | inserted r ha => exact dated_stamp s r
  | moved ha hb => exact dated_stamp s _

theorem ActSource.isSome_uid {a : Act} (h : ActSource a s k name x) (hs : s.AllIdentified) :
    x.metadata.uid.isSome := by
  cases h with
  | before h => exact hs _ _ _ h
  | inserted r ha => exact isSome_uid_stamp s r
  | moved ha hb => exact isSome_uid_stamp s _

end Cluster

/-! ## Runs -/

theorem Step.only_true (d : Deployer) (st : Step) : st.Only d fun _ => True := by
  cases st with
  | deploy | prepare | undeploy | cancel | status | taskStatus | launch | reconcile =>
    exact Action.only_true _
  | watch | watchEvents | call | wait | detach | watchState | watchClose | watchCompletion =>
    trivial

namespace Session

open Cluster

/-- What all objects have that calls and acts make of such as have it, all objects have after every
    run. -/
theorem allObjects_of_sources {P : (k : Kind) → String → Resource k → Prop}
    (hcall : ∀ {c s k name x}, Source c s k name x → AllObjects P s → P k name x)
    (hact : ∀ {a s k name x}, ActSource a s k name x → AllObjects P s → P k name x)
    (run : List Event) : AllObjects P (ofRun run).platform :=
  allObjects_ofRun (fun _ _ _ _ _ (_ : True) hs h => hcall h hs) (fun _ => Action.only_true _)
    (fun d st _ => st.only_true d) fun _ _ _ _ _ _ hs h => hact h hs

theorem allIdentified_ofRun (run : List Event) : (ofRun run).platform.AllIdentified :=
  allObjects_of_sources Source.isSome_uid ActSource.isSome_uid run

theorem allDated_ofRun (run : List Event) : (ofRun run).platform.AllDated :=
  allObjects_of_sources Source.dated ActSource.dated run

section Keeps

variable {I : Cluster → Prop} (hI : Kept (fun _ => True) (fun _ => True) I)
  (hact : ∀ {a s s'}, I s → s.act a = some s' → I s')

include hI hact

/-- What outlasts all calls, all events of watches and all acts outlasts every event. -/
theorem apply_keeps (e : Event) {s : Session Cluster} (hs : I s.platform) :
    I (e.apply s).platform := by
  cases e with
  | step d st => exact step_keeps hI (fun _ => Action.only_true _) (st.only_true d) hs
  | act a =>
    rw [Event.apply_act]
    rcases ha : s.platform.act a with _ | q
    · exact hs
    · exact settle_keeps hI (fun _ => Action.only_true _) (fun _ _ => trivial) (hact hs ha)

end Keeps

theorem fresh_ofRun (run : List Event) : (ofRun run).platform.Fresh :=
  ofRun_keeps (fun _ _ => rfl) fun e _ _ hs => apply_keeps kept_fresh Fresh.act e hs

theorem allVersioned_ofRun (run : List Event) : (ofRun run).platform.AllVersioned :=
  ofRun_keeps (I := AllVersioned) allObjects_empty fun e _ _ hs =>
    apply_keeps kept_allVersioned AllVersioned.act e hs

theorem version_le_apply (e : Event) (s : Session Cluster) :
    s.platform.version ≤ (e.apply s).platform.version :=
  apply_keeps (kept_version_le _) (fun hs ha => Nat.le_trans hs (version_le_act ha)) e
    (Nat.le_refl _)

theorem version_le_ofRun_append (run es : List Event) :
    (ofRun run).platform.version ≤ (ofRun (run ++ es)).platform.version := by
  induction es using List.reverseRecOn with
  | nil => exact Nat.le_of_eq (by rw [List.append_nil])
  | append_singleton es e ih =>
    rw [← List.append_assoc, ofRun_concat]
    exact Nat.le_trans ih (version_le_apply e _)

end Session

end Slipway

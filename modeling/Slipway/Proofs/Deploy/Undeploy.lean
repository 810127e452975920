import Slipway.Proofs.Cluster.Sources
import Slipway.Proofs.Deploy.Idempotent
import Slipway.Proofs.Labels.Selector

/-
  Undeploying. It deletes the routes, services and deployments that bear the label of the
  application, one after the other, and always succeeds. Where each of these is stored under its
  own name, nothing else changes and all of them are gone, or are marked while their deletion takes
  its time (`undeployed_exact`); a second time there is then nothing left to do (`undeployed_again`).
  Objects are deleted by the name that they carry, so that one which is stored under another name
  can stay.
-/

namespace Slipway

/-- The kinds of objects that are made for the instances of an application. -/
def Kind.IsOfInstances (k : Kind) : Prop := k = .route ∨ k = .service ∨ k = .deploymentConfig

instance : DecidablePred Kind.IsOfInstances := fun k =>
  inferInstanceAs (Decidable (k = .route ∨ k = .service ∨ k = .deploymentConfig))

namespace Cluster

variable {s : Cluster} {j k : Kind} {name other : String} {x : Resource k}

/-! ## Deleting -/

/-- What a deletion leaves under a name. -/
def remnant (s : Cluster) (k : Kind) (name : String) : Option (Resource k) :=
  if (k, name) ∈ s.terminating then (s.find? k name).map markedDeleted else none

theorem find?_delete (s : Cluster) (k : Kind) (name other : String) :
    (s.delete k name).2.find? k other = if other = name then s.remnant k name
      else s.find? k other := by
  split
  next hn =>
    subst hn
    unfold delete remnant
    rcases hfind : s.find? k other with _ | x
    · dsimp only
      rw [hfind, Option.map_none, ite_self]
    · dsimp only [record]
      split
      next hmem =>
        rw [if_pos (List.contains_iff_mem.1 hmem)]
        exact find?_store_self _ _ _
      next hmem =>
        rw [if_neg fun h => hmem (List.contains_iff_mem.2 h)]
        exact find?_discard_self _ _ _
  next hn => exact find?_delete_of_ne s hn

/-- The platform after the objects of some names were deleted, one after the other. -/
def deleteEach (s : Cluster) (k : Kind) (names : List String) : Cluster :=
  names.foldl (fun s name => (s.delete k name).2) s

theorem terminating_deleteEach (s : Cluster) (k : Kind) (names : List String) :
    (s.deleteEach k names).terminating = s.terminating := by
  induction names generalizing s with
  | nil => rfl
  | cons name names ih => exact (ih _).trans (terminating_delete s k name)

theorem objects_deleteEach_of_ne (s : Cluster) (names : List String) (h : j ≠ k) :
    (s.deleteEach k names).objects.of j = s.objects.of j := by
  induction names generalizing s with
  | nil => rfl
  | cons name names ih => exact (ih _).trans (objects_of_delete_of_ne s name h)

/-- Deleting an object twice leaves what deleting it once does. -/
theorem remnant_delete (s : Cluster) (k : Kind) (name other : String) :
    (s.delete k name).2.remnant k other = s.remnant k other := by
  unfold remnant
  rw [terminating_delete, find?_delete]
  split
  next hmem =>
    by_cases hn : other = name
    · subst hn
      unfold remnant
      rw [if_pos rfl, if_pos hmem, Option.map_map]
      rfl
    · rw [if_neg hn]
  next => rfl

theorem find?_deleteEach (s : Cluster) (k : Kind) (names : List String) (other : String) :
    (s.deleteEach k names).find? k other = if other ∈ names then s.remnant k other
      else s.find? k other := by
  induction names generalizing s with
  | nil => rfl
  | cons name names ih =>
    refine (ih (s.delete k name).2).trans ?_
    rw [remnant_delete, find?_delete]
    by_cases hn : other = name
    · subst hn
      simp
    · simp [hn]

theorem remnant_congr {s' : Cluster} (ht : s'.terminating = s.terminating)
    (ho : s'.objects.of k = s.objects.of k) (name : String) :
    s'.remnant k name = s.remnant k name := by
  unfold remnant
  rw [ht, find?_congr ho]

end Cluster

namespace Deployer

open Cluster

variable {s : Cluster} {id : AppId} {k : Kind}

/-! ## Undeploying -/

theorem perform_deleteIfPresent (s : Cluster) (k : Kind) (name : String) :
    s.perform (deleteIfPresent k name) = (.ok (), (s.delete k name).2) := by
  have hd : answer (.delete k name) s = s.delete k name := rfl
  unfold deleteIfPresent
  rw [perform_bind, perform_attempt, hd]
  have hresult : (s.delete k name).1 = .ok () ∨ (s.delete k name).1 = .error (.notFound k name) := by
    unfold delete
    split
    · exact .inr rfl
    · exact .inl rfl
  rcases hresult with h | h
  · rw [h]
    rfl
  · rw [h]
    rfl

/-- The names that the objects carry which a selector lists. -/
def listedNames (s : Cluster) (k : Kind) (selector : String) : List String :=
  (s.matching k selector).map Resource.name

theorem perform_deleteAll (s : Cluster) (k : Kind) (selector : String) :
    s.perform (deleteAll k selector) = (.ok (), s.deleteEach k (listedNames s k selector)) := by
  have hforM : ∀ (xs : List (Resource k)) (s : Cluster),
      s.perform (xs.forM fun x => deleteIfPresent k x.name) =
        (.ok (), s.deleteEach k (xs.map Resource.name)) := by
    intro xs
    induction xs with
    | nil => exact fun _ => rfl
    | cons x xs ih =>
      intro s
      refine (perform_bind s _ _).trans ?_
      rw [perform_deleteIfPresent]
      exact ih _
  unfold deleteAll
  rw [perform_list_bind]
  exact hforM _ s

/-- The platform after the objects of a kind were deleted that a selector lists. -/
def deleteListed (s : Cluster) (k : Kind) (selector : String) : Cluster :=
  s.deleteEach k (listedNames s k selector)

theorem find?_deleteListed_of_ne {j : Kind} (s : Cluster) (selector : String) (h : j ≠ k)
    (name : String) : (deleteListed s k selector).find? j name = s.find? j name :=
  find?_congr (objects_deleteEach_of_ne s _ h) name

/-- The platform after an application was undeployed. -/
def undeployed (s : Cluster) (id : AppId) : Cluster :=
  let selector := Labels.appSelector id
  deleteListed (deleteListed (deleteListed s .route selector) .service selector)
    .deploymentConfig selector

theorem perform_undeploy (s : Cluster) (id : AppId) :
    s.perform (undeploy id) = (.ok (), undeployed s id) := by
  unfold undeploy undeployed
  dsimp only
  rw [perform_bind, perform_deleteAll]
  dsimp only
  rw [perform_bind, perform_deleteAll]
  exact perform_deleteAll _ _ _

theorem objects_undeployed_of_not (s : Cluster) (id : AppId) (hk : ¬ k.IsOfInstances) :
    (undeployed s id).objects.of k = s.objects.of k := by
  have h := not_or.1 hk
  have h' := not_or.1 h.2
  unfold undeployed deleteListed
  rw [objects_deleteEach_of_ne _ _ h'.2, objects_deleteEach_of_ne _ _ h'.1,
    objects_deleteEach_of_ne _ _ h.1]

/-- Deleting the objects of one kind leaves to be deleted of another what there was. -/
theorem find?_deleteListed_after {j : Kind} (s : Cluster) (names : List String)
    (selector name : String) (h : k ≠ j) :
    (deleteListed (s.deleteEach j names) k selector).find? k name =
      (deleteListed s k selector).find? k name := by
  have ho := objects_deleteEach_of_ne (j := k) s names h
  have hl : listedNames (s.deleteEach j names) k selector = listedNames s k selector := by
    unfold listedNames
    rw [matching_congr ho]
  unfold deleteListed
  rw [find?_deleteEach, find?_deleteEach, hl,
    remnant_congr (terminating_deleteEach s j names) ho, find?_congr ho]

theorem find?_undeployed (s : Cluster) (id : AppId) (hk : k.IsOfInstances) (name : String) :
    (undeployed s id).find? k name = if name ∈ listedNames s k (Labels.appSelector id) then
      s.remnant k name else s.find? k name := by
  refine Eq.trans ?_ (find?_deleteEach s k _ name)
  unfold undeployed
  rcases hk with rfl | rfl | rfl
  · rw [find?_deleteListed_of_ne _ _ (by decide), find?_deleteListed_of_ne _ _ (by decide)]
    rfl
  · rw [find?_deleteListed_of_ne _ _ (by decide)]
    exact find?_deleteListed_after s _ _ name (by decide)
  · refine (find?_deleteListed_after _ _ _ name (by decide)).trans ?_
    exact find?_deleteListed_after s _ _ name (by decide)

/-! ## What bears the label of an application -/

/-- An object bears the label of an application. -/
def Belonging (s : Cluster) (id : AppId) (k : Kind) (name : String) : Prop :=
  ∃ x : Resource k, s.find? k name = some x ∧ x.labels.get? Labels.appIdKey = some id.text

/-- The routes, services and deployments of an application are stored under their own names. -/
def OwnNames (s : Cluster) (id : AppId) : Prop :=
  ∀ ⦃k name⦄ ⦃x : Resource k⦄, k.IsOfInstances → s.find? k name = some x →
    x.labels.get? Labels.appIdKey = some id.text → x.name = name

theorem mem_listedNames_iff (hid : id.IsPlain) (h : OwnNames s id) (hk : k.IsOfInstances)
    {name : String} : name ∈ listedNames s k (Labels.appSelector id) ↔ Belonging s id k name := by
  unfold listedNames
  rw [List.mem_map]
  constructor
  · rintro ⟨x, hx, rfl⟩
    obtain ⟨hvalue, hselected⟩ := List.mem_filter.1 hx
    obtain ⟨name, hname⟩ := Dict.mem_values_iff.1 hvalue
    have hlabel := (Labels.satisfies_appSelector hid _).1 hselected
    have hfind : s.find? k name = some x := hname
    exact ⟨x, by rwa [h hk hfind hlabel], hlabel⟩
  · rintro ⟨x, hx, hlabel⟩
    refine ⟨x, List.mem_filter.2 ⟨Dict.mem_values_iff.2 ⟨name, hx⟩, ?_⟩, h hk hx hlabel⟩
    exact (Labels.satisfies_appSelector hid _).2 hlabel

/-- Where nothing of an application is left, undeploying it does nothing. -/
theorem undeployed_of_none (hid : id.IsPlain)
    (h : ∀ k name, k.IsOfInstances → ¬ Belonging s id k name) : undeployed s id = s := by
  have hown : OwnNames s id := fun k name x hk hx hlabel => absurd ⟨x, hx, hlabel⟩ (h k name hk)
  have hnone : ∀ k, k.IsOfInstances → deleteListed s k (Labels.appSelector id) = s := by
    intro k hk
    have hnil : listedNames s k (Labels.appSelector id) = [] :=
      List.eq_nil_iff_forall_not_mem.2 fun name hname =>
        h k name hk ((mem_listedNames_iff hid hown hk).1 hname)
    unfold deleteListed
    rw [hnil]
    rfl
  unfold undeployed
  dsimp only
  rw [hnone _ (.inl rfl), hnone _ (.inr (.inl rfl)), hnone _ (.inr (.inr rfl))]

/-- An application is undeployed: its routes, services and deployments are gone, or marked while
    their deletion takes its time, and nothing else changed. -/
structure Undeployed (s s' : Cluster) (id : AppId) : Prop where
  gone : ∀ k name, k.IsOfInstances → Belonging s id k name → (k, name) ∉ s.terminating →
    s'.find? k name = none
  marked : ∀ k name, k.IsOfInstances → Belonging s id k name → (k, name) ∈ s.terminating →
    ∃ x, s.find? k name = some x ∧ s'.find? k name = some (markedDeleted x)
  other : ∀ k name, ¬ (k.IsOfInstances ∧ Belonging s id k name) → s'.find? k name = s.find? k name

/-- Undeploying succeeds, and takes away the routes, services and deployments of the application
    and nothing else. -/
theorem undeployed_exact (hid : id.IsPlain) (h : OwnNames s id) :
    Undeployed s (undeployed s id) id := by
  have hlisted : ∀ k name, k.IsOfInstances → Belonging s id k name →
      (undeployed s id).find? k name = s.remnant k name := fun k name hk hb => by
    rw [find?_undeployed s id hk, if_pos ((mem_listedNames_iff hid h hk).2 hb)]
  refine ⟨fun k name hk hb hmem => ?_, fun k name hk hb hmem => ?_, fun k name hn => ?_⟩
  · rw [hlisted k name hk hb]
    exact if_neg hmem
  · have ⟨x, hx, _⟩ := hb
    refine ⟨x, hx, ?_⟩
    rw [hlisted k name hk hb]
    unfold remnant
    rw [if_pos hmem, hx, Option.map_some]
  · by_cases hk : k.IsOfInstances
    · rw [find?_undeployed s id hk, if_neg fun hmem => hn ⟨hk, ?_⟩]
      exact (mem_listedNames_iff hid h hk).1 hmem
    · exact find?_congr (objects_undeployed_of_not s id hk) name

/-- Where no deletion takes its time, there is nothing left to do a second time. -/
theorem undeployed_again (hid : id.IsPlain) (h : OwnNames s id)
    (hquick : ∀ k name, k.IsOfInstances → Belonging s id k name → (k, name) ∉ s.terminating) :
    undeployed (undeployed s id) id = undeployed s id := by
  have hexact := undeployed_exact hid h
  refine undeployed_of_none hid fun k name hk => ?_
  rintro ⟨x, hx, hlabel⟩
  by_cases hb : Belonging s id k name
  · rw [hexact.gone k name hk hb (hquick k name hk hb)] at hx
    cases hx
  · rw [hexact.other k name fun hn => hb hn.2] at hx
    exact hb ⟨x, hx, hlabel⟩

end Deployer

end Slipway

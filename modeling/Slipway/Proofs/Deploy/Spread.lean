import Slipway.Proofs.Deploy.Instances
import Slipway.Proofs.Program.Failures

/-
  How a request is spread over instances, whatever its id, labels, environment and count
  (`instances_spread`). Where the count does not fit the replicas of a deployment there are no
  instances, and no object is made (`addObjects_of_error`). Else the replicas add up to the count:
  in the one instance of a plain request, or one by one in the instances of an indexed request, each
  of which has its own index, id, deployment label and variable (`isOfIndex_indexedInstance`).
-/

namespace Slipway

namespace FanOut

variable {f : FanOut}

/-- An instance of an indexed request has the index `i`, which can be read from its id, and besides
    its id, its deployment label and the variable for the index it is as the request says. -/
structure IsOfIndex (f : FanOut) (i : UInt32) (x : Instance) : Prop where
  id_eq : x.id = f.id.instanceId i
  index_eq : x.index = some i
  index_read : x.id.instanceIndex = i
  length_le : x.id.text.length ≤ 63
  replicas_eq : x.replicas = 1
  labels : ∀ key, x.labels.get? key =
    if key = Labels.deploymentIdKey then some x.id.text else f.labels.get? key
  environment : ∀ key, x.environment.get? key =
    if key = Labels.instanceIndexVariable then some (Text.decimal i.toNat)
    else f.environment.get? key

theorem isOfIndex_indexedInstance (f : FanOut) (i : UInt32) :
    f.IsOfIndex i (f.indexedInstance i) where
  id_eq := rfl
  index_eq := congrArg some (f.id.instanceIndex_instanceId i)
  index_read := f.id.instanceIndex_instanceId i
  length_le := f.id.length_instanceId_le i
  replicas_eq := rfl
  labels _ := Dict.get?_insert _ _ _ _
  environment key := by
    have henv : (f.indexedInstance i).environment = f.environment.insert
        Labels.instanceIndexVariable
          (Text.decimal (f.id.instanceId i).instanceIndex.toNat) := rfl
    rw [henv, f.id.instanceIndex_instanceId, Dict.get?_insert]

/-- The instances of an indexed request: one for each index below the count, with different ids. -/
structure IsByIndex (f : FanOut) (is : List Instance) : Prop where
  length_eq : is.length = f.count.toNat
  each : ∀ n x, is[n]? = some x → ∃ i : UInt32, i.toNat = n ∧ f.IsOfIndex i x
  nodup : (is.map fun x => x.id.text).Nodup

theorem isByIndex_of_indexed {is : List Instance} (hi : f.indexed = true)
    (h : f.instances = .ok is) : f.IsByIndex is := by
  have hnodup := nodup_ids h
  obtain ⟨hle, rfl⟩ := instances_eq_ok h
  rw [if_pos hi] at hnodup ⊢
  refine ⟨by rw [List.length_map, List.length_range], fun n x hx => ?_, hnodup⟩
  rw [List.getElem?_map, Option.map_eq_some_iff] at hx
  obtain ⟨m, hm, rfl⟩ := hx
  obtain ⟨hlt, rfl⟩ := List.getElem?_eq_some_iff.1 hm
  rw [List.length_range] at hlt
  rw [List.getElem_range]
  have hsize : n < UInt32.size := Nat.lt_trans (Nat.lt_of_lt_of_le hlt hle) (by decide)
  exact ⟨_, UInt32.toNat_ofNat_of_lt' hsize, f.isOfIndex_indexedInstance _⟩

theorem instances_of_excess (h : 2147483647 < f.count.toNat) :
    f.instances = .error (.config (.tooManyInstances f.count f.id.text)) :=
  if_pos h

/-- Where there are no instances no call is made. -/
theorem addObjects_of_error {k : Kind} {σ : Type} [Platform σ] {e : Failure}
    (h : f.instances = .error e) (object : Instance → Resource k) (s : σ) :
    (Deployer.addObjects f object).run s = (some (.error e), s) ∧
      (Deployer.addObjects f object).exchanges s = [] := by
  unfold Deployer.addObjects
  rw [h]
  exact ⟨rfl, rfl⟩

/-- A count that is beyond the replicas of a deployment is refused before any object is made. Any
    other is the sum of the replicas of the instances: of the one instance of a plain request, which
    is as the request says, or of the instances of an indexed request, one for each index. The index
    of an instance can be read from its id, even where the id of the application was shortened. -/
theorem instances_spread (f : FanOut) :
    (∀ i : UInt32, (f.id.instanceId i).instanceIndex = i) ∧
    if 2147483647 < f.count.toNat then
      f.instances = .error (.config (.tooManyInstances f.count f.id.text)) ∧
        ∀ {σ : Type} [Platform σ] {k : Kind} (object : Instance → Resource k) (s : σ),
          (Deployer.addObjects f object).run s =
              (some (.error (.config (.tooManyInstances f.count f.id.text))), s) ∧
            (Deployer.addObjects f object).exchanges s = []
    else ∃ is, f.instances = .ok is ∧
      (is.map fun x => x.replicas.toInt).sum = f.count.toNat ∧
        if f.indexed then f.IsByIndex is
        else ∃ x, is = [x] ∧ x.id = f.id ∧ x.index = none ∧ x.labels = f.labels ∧
          x.environment = f.environment := by
  refine ⟨f.id.instanceIndex_instanceId, ?_⟩
  split
  next hexcess =>
    have herror := instances_of_excess hexcess
    exact ⟨herror, fun object s => addObjects_of_error herror object s⟩
  next hfits =>
    obtain ⟨is, his⟩ := exists_instances_of_le (Nat.not_lt.1 hfits)
    refine ⟨is, his, sum_replicas his, ?_⟩
    split
    next hi => exact isByIndex_of_indexed hi his
    next hi =>
      obtain ⟨-, rfl⟩ := instances_eq_ok his
      rw [if_neg hi]
      exact ⟨f.plainInstance, rfl, rfl, rfl, rfl, rfl⟩

/-- An indexed request for an id that is too long to be followed by an index, whose environment sets
    the variable for the index. -/
def longNamed : FanOut where
  id := ⟨String.ofList (List.replicate 59 'a' ++ "-bcdef".toList)⟩
  labels := Dict.ofList [(Labels.deploymentIdKey, "a"), (Labels.managedByKey, Labels.managedBy)]
  environment := Dict.ofList [("INSTANCE_INDEX", "7"), ("MODE", "fast")]
  indexed := true
  count := 12

/-- The dash at which the id was cut off is dropped, and the index of the request counts. -/
theorem instances_spread_longNamed : ∃ is x, longNamed.instances = .ok is ∧ is.length = 12 ∧
    is[10]? = some x ∧ x.id.text = String.ofList (List.replicate 59 'a' ++ "-10".toList) ∧
    x.environment.get? "INSTANCE_INDEX" = some "10" ∧ x.environment.get? "MODE" = some "fast" := by
  obtain ⟨-, h⟩ := instances_spread longNamed
  rw [if_neg (by decide)] at h
  obtain ⟨is, his, -, hindexed⟩ := h
  rw [if_pos (by rfl : longNamed.indexed = true)] at hindexed
  have hlength : is.length = 12 := hindexed.length_eq
  obtain ⟨x, hx⟩ : ∃ x, is[10]? = some x :=
    ⟨_, List.getElem?_eq_getElem (by rw [hlength]; decide)⟩
  obtain ⟨i, hi, hof⟩ := hindexed.each 10 x hx
  obtain rfl : i = 10 := UInt32.toNat_inj.1 hi
  refine ⟨is, x, his, hlength, hx, ?_, ?_, ?_⟩
  · rw [hof.id_eq]
    decide +kernel
  · rw [hof.environment]
    decide +kernel
  · rw [hof.environment]
    decide +kernel

end FanOut

end Slipway

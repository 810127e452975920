import Mathlib.Algebra.BigOperators.Group.List.Basic
import Mathlib.Algebra.Ring.Int.Defs
import Mathlib.Data.List.Nodup
import Slipway.Proofs.Deploy.Order
import Slipway.Proofs.Text.Numbering

/-
  The instances that a request is spread over. They have different ids (`nodup_ids`), all bear the
  label of the application (`appId_of_mem_instances`), and together they have as many replicas as
  the request asks for (`sum_replicas`).
-/

namespace Slipway

/-! ## Labels -/

namespace Labels

@[simp] theorem appId_base (id : AppId) (r : Request) :
    (base id r).get? appIdKey = some id.text := by
  unfold base
  have h : ∀ d : Attributes, d.get? appIdKey = some id.text →
      (d.insert managedByKey managedBy).get? appIdKey = some id.text := fun d hd => by
    rwa [Dict.get?_insert_of_ne _ _ (by decide)]
  have hlabels := h ((Dict.empty.insert appIdKey id.text).insert deploymentIdKey id.text) (by
    rw [Dict.get?_insert_of_ne _ _ (by decide), Dict.get?_insert_self])
  split
  · rwa [Dict.get?_insert_of_ne _ _ (by decide)]
  · exact hlabels

@[simp] theorem appId_forInstance (labels : Attributes) (id : AppId) :
    (forInstance labels id).get? appIdKey = labels.get? appIdKey :=
  Dict.get?_insert_of_ne _ _ (by decide)

end Labels

/-! ## Instances -/

namespace FanOut

variable {f : FanOut} {is : List Instance} {i : Instance}

/-- The only instance of a request that is not indexed. -/
def plainInstance (f : FanOut) : Instance where
  id := f.id
  index := none
  labels := f.labels
  replicas := Int32.ofNat f.count.toNat
  environment := f.environment

/-- The instances of a request whose count fits. -/
theorem instances_eq_ok (h : f.instances = .ok is) : f.count.toNat ≤ 2147483647 ∧
    is = if f.indexed then
      (List.range f.count.toNat).map fun i => f.indexedInstance (UInt32.ofNat i)
    else [f.plainInstance] := by
  unfold instances at h
  split at h
  · cases h
  next hle =>
    refine ⟨Nat.not_lt.1 hle, ?_⟩
    split at h
    next hi =>
      cases h
      rw [if_pos hi]
    next hi =>
      cases h
      rw [if_neg hi]
      rfl

theorem exists_instances_of_le (h : f.count.toNat ≤ 2147483647) : ∃ is, f.instances = .ok is := by
  unfold instances
  rw [if_neg (Nat.not_lt.2 h)]
  split
  · exact ⟨_, rfl⟩
  · exact ⟨_, rfl⟩

theorem appId_of_mem_instances (h : f.instances = .ok is) (hi : i ∈ is) :
    i.labels.get? Labels.appIdKey = f.labels.get? Labels.appIdKey := by
  obtain ⟨-, rfl⟩ := instances_eq_ok h
  split at hi
  · obtain ⟨n, -, rfl⟩ := List.mem_map.1 hi
    exact Labels.appId_forInstance _ _
  · rw [List.mem_singleton.1 hi]
    rfl

theorem ofNat_inj {m n : Nat} (hm : m < UInt32.size) (hn : n < UInt32.size)
    (h : UInt32.ofNat m = UInt32.ofNat n) : m = n := by
  have ht := congrArg UInt32.toNat h
  rwa [UInt32.toNat_ofNat_of_lt' hm, UInt32.toNat_ofNat_of_lt' hn] at ht

theorem nodup_ids (h : f.instances = .ok is) : (is.map fun i => i.id.text).Nodup := by
  obtain ⟨hle, rfl⟩ := instances_eq_ok h
  split
  · rw [List.map_map]
    refine (List.nodup_range).map_on fun m hm n hn he => ?_
    have hid : f.id.instanceId (UInt32.ofNat m) = f.id.instanceId (UInt32.ofNat n) :=
      congrArg AppId.mk he
    rw [List.mem_range] at hm hn
    have hsize : 2147483647 < UInt32.size := by decide
    exact ofNat_inj (by omega) (by omega) (AppId.instanceId_inj hid)
  · exact List.nodup_singleton _

theorem nonneg_of_mem_instances (h : f.instances = .ok is) (hi : i ∈ is) :
    0 ≤ i.replicas.toInt := by
  obtain ⟨hle, rfl⟩ := instances_eq_ok h
  split at hi
  · obtain ⟨n, -, rfl⟩ := List.mem_map.1 hi
    show 0 ≤ (1 : Int32).toInt
    decide
  · rw [List.mem_singleton.1 hi]
    show 0 ≤ (Int32.ofNat f.count.toNat).toInt
    rw [Int32.toInt_ofNat_of_lt (by omega)]
    exact Int.natCast_nonneg _

theorem sum_replicas (h : f.instances = .ok is) :
    (is.map fun i => i.replicas.toInt).sum = f.count.toNat := by
  obtain ⟨hle, rfl⟩ := instances_eq_ok h
  split
  · have hone : ((fun i : Instance => i.replicas.toInt) ∘
        fun n => f.indexedInstance (UInt32.ofNat n)) = fun _ => 1 := by
      funext n
      show (1 : Int32).toInt = 1
      decide
    rw [List.map_map, hone, List.map_const', List.sum_replicate, List.length_range]
    simp
  · show (Int32.ofNat f.count.toNat).toInt + 0 = f.count.toNat
    rw [Int32.toInt_ofNat_of_lt (by omega), Int.add_zero]

end FanOut

end Slipway

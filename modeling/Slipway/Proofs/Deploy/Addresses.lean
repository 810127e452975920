import Mathlib.Data.List.Nodup
import Slipway.Proofs.Deploy.Spread
import Slipway.Proofs.Session.Runs

/-
  Where the instances of a request are reached from outside of the cluster. No two of their routes
  ask for the same host: the one of the request goes to the only instance of a plain request, and
  the hosts made from a domain are as different as the ids of the instances. A port that a request
  gives by its number is asked for by the services of all instances, so two of them ask for the same
  port exactly if the request is indexed and has more than one instance (`addresses_nodup_iff`).
-/

namespace Slipway

/-! ## What is asked for -/

/-- The host that a route asks for. -/
def Resource.host? (r : Route) : Option String := (r.spec : RouteSpec).host

/-- The ports of the nodes that a service asks for. -/
def Resource.nodePorts (s : Service) : List Int32 :=
  (((s.spec : Option ServiceSpec).bind ServiceSpec.ports).getD []).filterMap ServicePort.nodePort

/-- The port that an exposure gives by its number. -/
def Exposure.port? : Exposure → Option Int32
  | clusterIp => none
  | nodePort port => port

namespace FanOut

variable {f : FanOut} {is : List Instance} {c : Config} {r : Request} {inNamespace : String}
  {port : Int32} {e : Exposure}

/-! ## Hosts -/

/-- A host that is made from a domain. -/
def computedHost (c : Config) (inNamespace id : String) : Option String :=
  c.routeDomain.map fun domain => id ++ "-" ++ inNamespace ++ "." ++ domain

theorem host_of_index {i : Instance} (h : i.index.isNone = false) :
    (Bundle.route c r inNamespace i).host? = computedHost c inNamespace i.id.text := by
  show Bundle.host c r inNamespace i = _
  rw [Bundle.host, h]
  rfl

theorem computedHost_inj {id id' host : String} (h : host ∈ computedHost c inNamespace id)
    (h' : host ∈ computedHost c inNamespace id') : id = id' := by
  obtain ⟨domain, hdomain, rfl⟩ := Option.map_eq_some_iff.1 h
  obtain ⟨domain', hdomain', heq⟩ := Option.map_eq_some_iff.1 h'
  obtain rfl : domain' = domain := Option.some.inj (hdomain'.symm.trans hdomain)
  rw [String.append_left_inj, String.append_left_inj, String.append_left_inj,
    String.append_left_inj] at heq
  exact heq.symm

theorem nodup_hosts (h : f.instances = .ok is) (c : Config) (r : Request) (inNamespace : String) :
    (is.filterMap fun i => (Bundle.route c r inNamespace i).host?).Nodup := by
  have hids := nodup_ids h
  obtain ⟨-, rfl⟩ := instances_eq_ok h
  by_cases hi : f.indexed = true
  · rw [if_pos hi] at hids ⊢
    have hhosts : ∀ i ∈ (List.range f.count.toNat).map fun n => f.indexedInstance (UInt32.ofNat n),
        (Bundle.route c r inNamespace i).host? = computedHost c inNamespace i.id.text := by
      intro i hi
      obtain ⟨n, -, rfl⟩ := List.mem_map.1 hi
      exact host_of_index rfl
    rw [List.filterMap_congr hhosts]
    change (List.filterMap (computedHost c inNamespace ∘ fun i : Instance => i.id.text) _).Nodup
    rw [← List.filterMap_map]
    exact hids.filterMap fun _ _ _ => computedHost_inj
  · rw [if_neg hi]
    rw [List.filterMap_cons, List.filterMap_nil]
    split
    · exact .nil
    · exact List.nodup_singleton _

/-! ## Ports -/

theorem nodePorts_service (port : Int32) (e : Exposure) (i : Instance) :
    (Bundle.service port e i).nodePorts = e.port?.toList := by
  cases e with
  | clusterIp => rfl
  | nodePort p => cases p <;> rfl

theorem length_of_instances (h : f.instances = .ok is) :
    is.length = if f.indexed then f.count.toNat else 1 := by
  obtain ⟨-, rfl⟩ := instances_eq_ok h
  split
  · rw [List.length_map, List.length_range]
  · rfl

theorem nodup_nodePorts_iff (h : f.instances = .ok is) (port : Int32) (e : Exposure) :
    (is.flatMap fun i => (Bundle.service port e i).nodePorts).Nodup ↔
      ¬ (f.indexed = true ∧ 2 ≤ f.count.toNat ∧ e.port?.isSome) := by
  have hlength := length_of_instances h
  simp only [nodePorts_service]
  rcases e.port? with _ | p
  · have hnil : (is.flatMap fun _ => (none : Option Int32).toList) = [] :=
      List.flatMap_eq_nil_iff.2 fun _ _ => rfl
    rw [hnil]
    exact iff_of_true .nil fun hport => nomatch hport.2.2
  · rw [Option.toList_some, ← List.map_eq_flatMap, List.map_const', List.nodup_replicate, hlength]
    split
    next hi =>
      exact ⟨fun hle hport => absurd hport.2.1 (Nat.not_le_of_lt (Nat.lt_succ_of_le hle)),
        fun hport => not_lt.1 fun hlt => hport ⟨hi, hlt, rfl⟩⟩
    next hi => exact iff_of_true le_rfl fun hport => hi hport.1

/-- No two routes for the instances of a request ask for the same host. Two services for them ask
    for the same port exactly if the request is indexed, has more than one instance, and gives the
    port by its number. -/
theorem addresses_nodup_iff (h : f.instances = .ok is) (c : Config) (r : Request)
    (inNamespace : String) (port : Int32) (e : Exposure) :
    (is.filterMap fun i => (Bundle.route c r inNamespace i).host?).Nodup ∧
      ((is.flatMap fun i => (Bundle.service port e i).nodePorts).Nodup ↔
        ¬ (f.indexed = true ∧ 2 ≤ f.count.toNat ∧ e.port?.isSome)) :=
  ⟨nodup_hosts h c r inNamespace, nodup_nodePorts_iff h port e⟩

/-- A configuration in which routes have hosts below a domain. -/
def belowDomain : Config := { routeDomain := some "apps.example.com" }

/-- The hosts of instances whose ids were shortened are different, and their services ask for no
    port where the request leaves the choice of it to the platform. -/
theorem addresses_nodup_iff_longNamed : ∃ is, longNamed.instances = .ok is ∧ is.length = 12 ∧
    (is.filterMap fun i => (Bundle.route belowDomain (.ticker []) "prod" i).host?).Nodup ∧
    (is.flatMap fun i => (Bundle.service 8080 (.nodePort none) i).nodePorts).Nodup ∧
    ¬ (is.flatMap fun i => (Bundle.service 8080 (.nodePort (some 30080)) i).nodePorts).Nodup := by
  obtain ⟨is, h⟩ := exists_instances_of_le (f := longNamed) (by decide)
  have hnone := addresses_nodup_iff h belowDomain (.ticker []) "prod" 8080 (.nodePort none)
  have hsome := addresses_nodup_iff h belowDomain (.ticker []) "prod" 8080 (.nodePort (some 30080))
  refine ⟨is, h, length_of_instances h, hnone.1, hnone.2.2 (by decide), fun hnodup => ?_⟩
  exact hsome.2.1 hnodup (by decide)

/-- A request for two instances whose services can be reached at one port. -/
def twoAtPort : Request := .ticker
  [(Keys.indexed, "true"), (Keys.count, "2"), (Keys.createNodePort, "30080")]

/-- The ports that the services for a request ask for. -/
def portsOf (c : Config) (r : Request) : Result (List Int32) := do
  let o ← DeployOrder.ofRequest c r
  let is ← o.fanOut.instances
  pure (is.flatMap fun i => (Bundle.service c.servicePort o.exposure i).nodePorts)

/-- The services for both instances ask for the same port. -/
theorem ports_not_nodup : (portsOf {} twoAtPort).toOption = some [30080, 30080] ∧
    ¬ ([30080, 30080] : List Int32).Nodup := by
  decide +kernel

end FanOut

end Slipway

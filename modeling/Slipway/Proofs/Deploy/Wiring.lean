import Slipway.Bundle
import Slipway.Proofs.Deploy.Instances
import Slipway.Proofs.Labels.Selector
import Slipway.Proofs.Session.Runs

/-
  How the objects for the instances of a request find one another (`bundles_wired`). What selects by
  the deployment label of an instance selects the pods of this instance alone
  (`FanOut.selects_iff`); what goes by a name or a port finds it at the objects of the same instance
  (`Bundle.wired`). The label of the application is on all of them, and it is selected by, if the
  id can be read from a selector at all (`AppId.IsSelectable`).
-/

namespace Slipway

/-! ## Selectors -/

namespace Labels

/-- Labels among which there is every entry of a selector. -/
def Selects (selector labels : Attributes) : Prop :=
  ∀ k v, selector.get? k = some v → labels.get? k = some v

variable {labels labels' : Attributes}

theorem selects_self (labels : Attributes) : Selects (instanceSelector labels) labels := by
  intro k v hk
  unfold instanceSelector at hk
  split at hk
  next id hid =>
    rw [Dict.get?_insert] at hk
    split at hk
    next hkey => rw [hkey, hid, hk]
    next => cases hk
  next => cases hk

theorem selects_instanceSelector_iff {id : String} (h : labels.get? deploymentIdKey = some id) :
    Selects (instanceSelector labels) labels' ↔ labels'.get? deploymentIdKey = some id := by
  have hselector : instanceSelector labels = Dict.empty.insert deploymentIdKey id := by
    unfold instanceSelector
    rw [h]
  rw [hselector]
  constructor
  · intro hselects
    exact hselects _ _ (Dict.get?_insert_self _ _ _)
  · intro hlabel k v hk
    rw [Dict.get?_insert] at hk
    split at hk
    next hkey => rw [hkey, hlabel, hk]
    next => cases hk

end Labels

namespace FanOut

variable {f : FanOut} {is : List Instance} {i j : Instance} {m n : Nat}

theorem id_eq_iff (h : f.instances = .ok is) (hi : is[m]? = some i) (hj : is[n]? = some j) :
    i.id.text = j.id.text ↔ m = n := by
  have hids := nodup_ids h
  obtain ⟨hm, rfl⟩ := List.getElem?_eq_some_iff.1 hi
  obtain ⟨hn, rfl⟩ := List.getElem?_eq_some_iff.1 hj
  have hm' : m < (is.map fun i => i.id.text).length := by simpa using hm
  have hn' : n < (is.map fun i => i.id.text).length := by simpa using hn
  have hinj : (is.map fun i => i.id.text)[m] = (is.map fun i => i.id.text)[n] ↔ m = n :=
    hids.getElem_inj_iff
  rwa [List.getElem_map, List.getElem_map] at hinj

theorem deploymentId_of_indexed (hindexed : f.indexed = true) (h : f.instances = .ok is)
    (hi : i ∈ is) : i.labels.get? Labels.deploymentIdKey = some i.id.text := by
  obtain ⟨-, rfl⟩ := instances_eq_ok h
  rw [if_pos hindexed] at hi
  obtain ⟨n, -, rfl⟩ := List.mem_map.1 hi
  exact Dict.get?_insert_self _ _ _

/-- What selects by the labels of an instance selects this instance and no other. -/
theorem selects_iff (h : f.instances = .ok is) (hi : is[m]? = some i) (hj : is[n]? = some j) :
    Labels.Selects (Labels.instanceSelector i.labels) j.labels ↔ m = n := by
  by_cases hindexed : f.indexed = true
  · have hi' := deploymentId_of_indexed hindexed h (List.mem_of_getElem? hi)
    have hj' := deploymentId_of_indexed hindexed h (List.mem_of_getElem? hj)
    rw [Labels.selects_instanceSelector_iff hi', hj', Option.some.injEq, eq_comm]
    exact id_eq_iff h hi hj
  · -- the only instance selects itself, whatever its labels are
    obtain ⟨-, rfl⟩ := instances_eq_ok h
    rw [if_neg hindexed] at hi hj
    obtain ⟨rfl, rfl⟩ : m = 0 ∧ i = f.plainInstance := by
      simpa [List.getElem?_singleton, eq_comm] using hi
    obtain ⟨rfl, rfl⟩ : n = 0 ∧ j = f.plainInstance := by
      simpa [List.getElem?_singleton, eq_comm] using hj
    exact iff_of_true (Labels.selects_self _) rfl

end FanOut

/-! ## Bundles -/

namespace Resource

/-- What a deployment selects its pods by. -/
def podSelector (dc : DeploymentConfig) : Attributes := (dc.spec : DeploymentSpec).selector

/-- The labels of the pods that a deployment makes. -/
def podLabels (dc : DeploymentConfig) : Attributes :=
  (((dc.spec : DeploymentSpec).template.bind PodTemplate.metadata).map Metadata.labelSet).getD ∅

/-- The containers of the pods that a deployment makes. -/
def podContainers (dc : DeploymentConfig) : List Container :=
  (((dc.spec : DeploymentSpec).template.bind PodTemplate.spec).map PodSpec.containers).getD []

/-- The new images that a deployment rolls out for. -/
def imageChanges (dc : DeploymentConfig) : List ImageChange :=
  (dc.spec : DeploymentSpec).triggers.filterMap Trigger.imageChange

/-- What a service selects its pods by. -/
def backendSelector (sv : Service) : Option Attributes :=
  (sv.spec : Option ServiceSpec).bind ServiceSpec.selector

/-- The ports of a service. -/
def servicePorts (sv : Service) : List ServicePort :=
  ((sv.spec : Option ServiceSpec).bind ServiceSpec.ports).getD []

/-- What a route leads to. -/
def target (rt : Route) : RouteTarget := (rt.spec : RouteSpec).target

/-- The port that a route leads to. -/
def targetPort (rt : Route) : Option PortReference := (rt.spec : RouteSpec).port

end Resource

namespace Bundle

/-- A deployment, a service and a route that lead to one another: by the name of the service, by
    the port of the containers, and by the names of the containers that a new image is for. -/
structure Wired (source : ImageSource) (dc : DeploymentConfig) (sv : Service) (rt : Route) :
    Prop where
  target : rt.target = { kind := Kind.service.name, name := sv.name }
  port : ∃ p, dc.podContainers.map Container.ports = [some [{ containerPort := p }]] ∧
    (sv.servicePorts.map fun sp => (sp.port, sp.targetPort)) = [(p, some (.number p))] ∧
    rt.targetPort = some (.number p)
  changes : dc.imageChanges = match source with
    | .trigger tag => [{
        automatic := true
        containerNames := dc.podContainers.map Container.name
        image := ObjectReference.imageStreamTag tag }]
    | .image _ => []

/-- The labels of the objects of a bundle, and of the pods that its deployment makes. -/
def labelSets (dc : DeploymentConfig) (sv : Service) (rt : Route) : List Attributes :=
  [dc.labels, dc.podLabels, sv.labels, rt.labels]

variable {c : Config} {r : Request} {s : ContainerSettings}

theorem port_of_ofRequest (h : ContainerSettings.ofRequest c r = .ok s) :
    s.port = c.servicePort := by
  obtain ⟨selector, -, hs⟩ := Result.bind_eq_ok.1 h
  cases hs
  rfl

theorem wired (h : ContainerSettings.ofRequest c r = .ok s) (source : ImageSource)
    (e : Exposure) (inNamespace : String) (i : Instance) :
    Wired source (deploymentConfig s source i) (service c.servicePort e i)
      (route c r inNamespace i) where
  target := rfl
  port := by
    refine ⟨c.servicePort, ?_, ?_, rfl⟩
    · rw [← port_of_ofRequest h]
      rfl
    · cases e <;> rfl
  changes := by cases source <;> rfl

theorem labelSets_eq (s : ContainerSettings) (source : ImageSource) (port : Int32) (e : Exposure)
    (c : Config) (r : Request) (inNamespace : String) (i : Instance) {labels : Attributes}
    (h : labels ∈ labelSets (deploymentConfig s source i) (service port e i)
      (route c r inNamespace i)) : labels = i.labels := by
  have hall : labelSets (deploymentConfig s source i) (service port e i)
      (route c r inNamespace i) = List.replicate 4 i.labels := by
    cases e <;> rfl
  rw [hall] at h
  exact List.eq_of_mem_replicate h

end Bundle

section

open Slipway.Bundle

variable {f : FanOut} {c : Config} {r : Request} {s : ContainerSettings}

/-- The objects for the instances of a request are wired to those of the same instance only: what
    selects the pods, the route that leads to a service, the containers that a new image is for, and
    the port. All of them bear the label of the application, by which its selector and no other
    that can be read selects them; that of a request can be. -/
theorem bundles_wired (hcount : f.count.toNat ≤ 2147483647)
    (hs : ContainerSettings.ofRequest c r = .ok s) (source : ImageSource) (e : Exposure)
    (inNamespace : String) :
    let dc := deploymentConfig s source
    let sv := service c.servicePort e
    let rt := route c r inNamespace
    ∃ is, f.instances = .ok is ∧
      (∀ i ∈ is, Wired source (dc i) (sv i) (rt i)) ∧
      (∀ (m n : Nat) (i j : Instance), is[m]? = some i → is[n]? = some j →
        (Labels.Selects (dc i).podSelector (dc j).podLabels ↔ m = n) ∧
        (∃ selector, (sv i).backendSelector = some selector ∧
          (Labels.Selects selector (dc j).podLabels ↔ m = n)) ∧
        ((rt i).target.name = (sv j).name ↔ m = n)) ∧
      (∀ id r', f.labels = Labels.base id r' → ∀ i ∈ is, ∀ labels ∈ labelSets (dc i) (sv i) (rt i),
        labels.get? Labels.appIdKey = some id.text ∧
        ∀ id' : AppId, id'.IsSelectable →
          (Labels.satisfies labels (Labels.appSelector id') = true ↔ id' = id)) ∧
      ∀ r' : Request, r'.appId.IsSelectable := by
  obtain ⟨is, his⟩ := FanOut.exists_instances_of_le hcount
  refine ⟨is, his, fun i _ => wired hs source e inNamespace i, fun m n i j hi hj => ?_,
    fun id r' hlabels i hi labels hmem => ?_, fun r' => (AppId.isPlain_appId r').isSelectable⟩
  · have hselects := FanOut.selects_iff his hi hj
    exact ⟨hselects, ⟨_, rfl, hselects⟩, FanOut.id_eq_iff his hi hj⟩
  · have happ : labels.get? Labels.appIdKey = some id.text := by
      rw [labelSets_eq s source _ e c r inNamespace i hmem, FanOut.appId_of_mem_instances his hi,
        hlabels, Labels.appId_base]
    refine ⟨happ, fun id' hid' => ?_⟩
    rw [Labels.satisfies_appSelector_iff hid', happ, Option.some.injEq, eq_comm]
    exact ⟨fun htext => congrArg AppId.mk htext, fun hid => congrArg AppId.text hid⟩

/-- Two instances, of an id that holds a number already. -/
def twoNumbered : FanOut where
  id := ⟨"ticker-1"⟩
  labels := Labels.base ⟨"ticker-1"⟩ (.ticker [])
  environment := ∅
  indexed := true
  count := 2

/-- The second instance is out of reach for what is made for the first, and both are selected by the
    id that they have in common. -/
theorem bundles_wired_twoNumbered : ∃ s,
    let first := twoNumbered.indexedInstance 0
    let second := twoNumbered.indexedInstance 1
    let dc := deploymentConfig s (.trigger "ticker-1:latest")
    ContainerSettings.ofRequest {} (.ticker []) = .ok s ∧
    twoNumbered.instances = .ok [first, second] ∧
    first.id.text = "ticker-1-0" ∧ second.id.text = "ticker-1-1" ∧
    ¬ Labels.Selects (dc first).podSelector (dc second).podLabels ∧
    Labels.Selects (dc second).podSelector (dc second).podLabels ∧
    (route {} (.ticker []) "prod" first).target.name ≠ (service 8080 .clusterIp second).name ∧
    (dc second).imageChanges.map ImageChange.containerNames = [["ticker-1-1"]] ∧
    Labels.satisfies (dc first).podLabels "ph.io/app-id=ticker-1" = true ∧
    Labels.satisfies (dc second).podLabels "ph.io/app-id=ticker-1" = true := by
  obtain ⟨s, hs⟩ : ∃ s, ContainerSettings.ofRequest {} (.ticker []) = .ok s := ⟨_, rfl⟩
  refine ⟨s, hs, ?_⟩
  obtain ⟨is, his, hwired, hpairs, hlabels, -⟩ := bundles_wired (f := twoNumbered) (by decide) hs
    (.trigger "ticker-1:latest") .clusterIp "prod"
  obtain rfl : is = [twoNumbered.indexedInstance 0, twoNumbered.indexedInstance 1] :=
    (FanOut.instances_eq_ok his).2
  have hid : AppId.IsSelectable ⟨"ticker-1"⟩ := ⟨by decide +kernel, by decide +kernel⟩
  have hsatisfies : ∀ i ∈ [twoNumbered.indexedInstance 0, twoNumbered.indexedInstance 1],
      Labels.satisfies (deploymentConfig s (.trigger "ticker-1:latest") i).podLabels
        "ph.io/app-id=ticker-1" = true := by
    intro i hi
    exact ((hlabels ⟨"ticker-1"⟩ (.ticker []) rfl i hi _ (by simp [labelSets])).2 _ hid).2 rfl
  have hsecond : (twoNumbered.indexedInstance 1).id.text = "ticker-1-1" := by decide +kernel
  obtain ⟨hpods, -, htarget⟩ := hpairs 0 1 _ _ rfl rfl
  obtain ⟨hself, -, -⟩ := hpairs 1 1 _ _ rfl rfl
  refine ⟨his, by decide +kernel, hsecond, mt hpods.1 (by decide), hself.2 rfl,
    mt htarget.1 (by decide), ?_, hsatisfies _ (by simp), hsatisfies _ (by simp)⟩
  rw [(hwired _ (by simp)).changes, ← hsecond]
  rfl

end

end Slipway

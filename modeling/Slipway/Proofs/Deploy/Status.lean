import Slipway.Proofs.Deploy.Apart
import Slipway.Proofs.Deploy.Placed
import Slipway.Proofs.Labels.Selector
import Slipway.Proofs.Pipeline.Prepare
import Slipway.Proofs.Session.Managed

/-
  What is told of an application right after something was started for it. The state of an
  application, and that of a task without a pod, goes by the latest of its builds (`IsLatest`), which
  need not be the one that was started or followed. Right after a deployment that waits for a build
  the application is being built exactly if its latest build has not ended (`status_of_deploy`), and
  likewise right after a launch, if the task has no pod (`taskStatus_of_launch`).
-/

namespace Slipway

open Cluster

/-! ## The latest build -/

namespace Cluster

variable {s : Cluster} {id : AppId} {b l : Build}

/-- A build is stored that bears the label of an application. -/
def IsBuildOf (s : Cluster) (id : AppId) (b : Build) : Prop :=
  (∃ name, s.find? .build name = some b) ∧ b.labels.get? Labels.appIdKey = some id.text

/-- A build of an application than which none is younger. -/
structure IsLatest (s : Cluster) (id : AppId) (l : Build) : Prop where
  isBuildOf : s.IsBuildOf id l
  notYounger : ∀ b, s.IsBuildOf id b → BuildHistory.notYounger b l = true

/-- All other builds of an application are older. -/
def IsYoungest (s : Cluster) (id : AppId) (b : Build) : Prop :=
  ∀ b', s.IsBuildOf id b' → b' ≠ b → BuildHistory.notYounger b b' = false

theorem IsBuildOf.congr {s' : Cluster} (h : s.IsBuildOf id b)
    (ho : s'.objects.of .build = s.objects.of .build) : s'.IsBuildOf id b := by
  obtain ⟨⟨name, hb⟩, hlabel⟩ := h
  exact ⟨⟨name, (find?_congr ho name).trans hb⟩, hlabel⟩

theorem mem_matching_iff (hid : id.IsPlain) :
    b ∈ s.matching .build (Labels.appSelector id) ↔ s.IsBuildOf id b := by
  unfold matching IsBuildOf
  rw [List.mem_filter, Dict.mem_values_iff, Labels.satisfies_appSelector hid]
  rfl

theorem IsLatest.eq_of_isYoungest (h : s.IsLatest id l) (hb : s.IsBuildOf id b)
    (hyoungest : s.IsYoungest id b) : l = b := by
  refine Classical.byContradiction fun hne => ?_
  have hnot := hyoungest l h.isBuildOf hne
  rw [h.notYounger b hb] at hnot
  cases hnot

/-- An application that has a build has a latest one, whose phase is the one that is told. -/
theorem exists_isLatest (hid : id.IsPlain) (hb : s.IsBuildOf id b) : ∃ l, s.IsLatest id l ∧
    Deployer.latestPhase (s.matching .build (Labels.appSelector id)) = some l.phase := by
  unfold Deployer.latestPhase
  rcases hlast : (BuildHistory.sort (s.matching .build (Labels.appSelector id))).getLast? with _ | l
  · have hnil : BuildHistory.sort (s.matching .build (Labels.appSelector id)) = [] :=
      List.getLast?_eq_none_iff.1 hlast
    have hmem := (sortBy_perm BuildHistory.notYounger _).mem_iff.2 ((mem_matching_iff hid).2 hb)
    change b ∈ BuildHistory.sort _ at hmem
    rw [hnil] at hmem
    cases hmem
  · have hl := (sortBy_perm BuildHistory.notYounger _).mem_iff.1 (List.mem_of_getLast? hlast)
    refine ⟨l, ⟨(mem_matching_iff hid).1 hl, fun b' hb' => ?_⟩, rfl⟩
    exact BuildHistory.notYounger_last hlast ((mem_matching_iff hid).2 hb')

end Cluster

namespace Deployer

variable {s s' : Cluster} {d : Deployer} {r : Request} {id : AppId} {o : DeployOutcome}
  {name : String} {mode : CompletionMode} {phase : BuildPhase} {b : Build} {tag : String}

/-! ## What the latest build decides -/

/-- What the state of an application tells of its latest build while an instance is not ready. -/
structure TellsOf (phase : BuildPhase) (state : AppState) : Prop where
  building_iff : state = .building ↔ phase.isTerminal = false
  failed_iff : state = .failed ↔ phase.isFailure = true
  other_iff : state = .deploying ∨ state = .partially ↔ phase = .complete

theorem tellsOf_stateOf {instances : List InstanceStatus}
    (h : ∃ i ∈ instances, i.available < i.replicas) (phase : BuildPhase) :
    TellsOf phase (stateOf (some phase) instances) := by
  obtain ⟨i, hi, hlt⟩ := h
  have hempty : instances.isEmpty = false := by
    cases instances with
    | nil => cases hi
    | cons _ _ => rfl
  have hready : (instances.filter fun i => decide (i.replicas ≤ i.available)).length ≠
      instances.length := fun he => by
    have hle := of_decide_eq_true (List.length_filter_eq_length_iff.1 he i hi)
    rw [Int32.lt_iff_toInt_lt] at hlt
    rw [Int32.le_iff_toInt_le] at hle
    omega
  unfold stateOf
  dsimp only
  rw [hempty, if_neg Bool.false_ne_true, if_neg hready]
  cases phase with
  | complete =>
    rw [if_neg (by decide), if_neg (by decide)]
    split
    · exact ⟨by decide, by decide, by decide⟩
    · exact ⟨by decide, by decide, by decide⟩
  | new | pending | running =>
    rw [if_pos (by decide)]
    exact ⟨by decide, by decide, by decide⟩
  | failed | error | cancelled =>
    rw [if_neg (by decide), if_pos (by decide)]
    exact ⟨by decide, by decide, by decide⟩

/-- What the state of a task without a pod tells of its latest build. -/
structure TaskTellsOf (phase : BuildPhase) (state : TaskState) : Prop where
  launching_iff : state = .launching ↔ phase.isTerminal = false
  failed_iff : state = .failed ↔ phase.isFailure = true
  unknown_iff : state = .unknown ↔ phase = .complete

theorem taskTellsOf_stateWithoutPod (phase : BuildPhase) :
    TaskTellsOf phase (stateWithoutPod (some phase)) := by
  cases phase <;> exact ⟨by decide, by decide, by decide⟩

/-! ## Asking for the state -/

/-- What is told of the instances of an application. -/
def instancesOf (s : Cluster) (id : AppId) : List InstanceStatus :=
  (sortBy (fun a b => decide (a.name ≤ b.name))
    (s.matching .deploymentConfig (Labels.appSelector id))).map instanceStatus

theorem perform_status (s : Cluster) (id : AppId) : s.perform (status id) =
    (.ok ⟨stateOf (latestPhase (s.matching .build (Labels.appSelector id))) (instancesOf s id),
      instancesOf s id⟩, s) := by
  unfold status
  dsimp only
  rw [perform_list_bind, perform_list_bind]
  rfl

theorem perform_taskStatus (s : Cluster) (id : AppId) : s.perform (taskStatus id) =
    (.ok (match s.find? .pod id.text with
      | some pod => stateOfPhase (podPhase pod)
      | none => stateWithoutPod (latestPhase (s.matching .build (Labels.appSelector id)))), s) := by
  unfold taskStatus
  rw [perform_bind, perform_get]
  dsimp only
  rcases s.find? .pod id.text with _ | pod
  · dsimp only
    rw [perform_list_bind]
    rfl
  · rfl

theorem mem_instancesOf (hid : id.IsPlain) {dc : DeploymentConfig}
    (hdc : s.find? .deploymentConfig name = some dc)
    (hlabel : dc.labels.get? Labels.appIdKey = some id.text) :
    instanceStatus dc ∈ instancesOf s id := by
  refine List.mem_map.2 ⟨dc, (sortBy_perm _ _).mem_iff.2 ?_, rfl⟩
  refine List.mem_filter.2 ⟨Dict.mem_values_iff.2 ⟨name, hdc⟩, ?_⟩
  exact (Labels.satisfies_appSelector hid _).2 hlabel

/-! ## After a deployment -/

/-- A build that is submitted is one of the application and has not ended. -/
theorem isBuildOf_of_prepare
    (h : s.perform (d.prepare r r.appId (Labels.base r.appId r)) = (.ok (.submitted b tag), s')) :
    s'.IsBuildOf r.appId b ∧ b.phase.isTerminal = false := by
  have hp := prepare_provision d r r.appId (Labels.base r.appId r) s
  rw [h] at hp
  generalize hout : (.submitted b tag : Prepared) = out at hp
  cases hp with
  | ready hi => cases hout
  | earlier hc he =>
    have hmem := BuildHistory.mem_of_toReuse? he
    unfold ofEarlier at hout
    split at hout
    · cases hout
    next hphase =>
      cases hout
      exact ⟨(mem_matching_iff (AppId.isPlain_appId r)).1 hmem, Bool.eq_false_iff.2 hphase⟩
  | commissioned hc he hb =>
    cases hout
    obtain ⟨bc, hstarted⟩ := hb.started
    refine ⟨⟨⟨b.name, hstarted.find?_self⟩, ?_⟩, by rw [hb.phase_eq]; rfl⟩
    rw [hb.labels_eq, Labels.appId_base]

/-- A request for some instances has one with replicas. -/
theorem exists_replicas_pos {f : FanOut} {is : List Instance} (h : f.instances = .ok is)
    (hcount : 0 < f.count.toNat) : ∃ i ∈ is, 0 < i.replicas := by
  obtain ⟨hle, rfl⟩ := FanOut.instances_eq_ok h
  split
  · refine ⟨_, List.mem_map.2 ⟨0, List.mem_range.2 hcount, rfl⟩, ?_⟩
    show (0 : Int32) < 1
    decide
  · refine ⟨_, List.mem_singleton.2 rfl, ?_⟩
    show 0 < Int32.ofNat f.count.toNat
    rw [Int32.lt_iff_toInt_lt, Int32.toInt_ofNat_of_lt (by omega)]
    exact Int.natCast_pos.2 hcount

/-- A deployment that follows a tag is not available yet. -/
theorem available_lt_replicas {order : DeployOrder} {is : List Instance} {i : Instance}
    (h : Deployed d r order (.submitted b tag) is s s') (hi : i ∈ is) (hpos : 0 < i.replicas) :
    ∃ dc, s'.find? .deploymentConfig i.id.text = some dc ∧ dc.labels = i.labels ∧
      (instanceStatus dc).available < (instanceStatus dc).replicas := by
  obtain ⟨dc, hdc, hwant, -⟩ := h.deployments.mem i hi
  have hstatus : instanceStatus dc = instanceStatus dc.unstamped := rfl
  refine ⟨dc, hdc, by rw [← dc.labels_unstamped, hwant]; rfl, ?_⟩
  rw [hstatus, hwant]
  exact hpos

/-- Right after a deployment that waits for a build, the state of the application tells of the
    latest build that the application has. -/
theorem status_of_deploy {n : UInt32} (hcount : r.count = .ok n) (hn : 0 < n.toNat)
    (h : s.perform (d.deploy r) = (.ok o, s')) (hstate : o.state = .building name mode) :
    ∃ b l st, b.name = name ∧ s'.IsBuildOf r.appId b ∧ b.phase.isTerminal = false ∧
      s'.IsLatest r.appId l ∧ s'.perform (status r.appId) = (.ok st, s') ∧
      TellsOf l.phase st.state := by
  have hid := AppId.isPlain_appId r
  obtain ⟨order, prepared, s₁, is, ho, hp, -, hi, rfl, hdeployed⟩ := deploy_steps h
  have hof := DeployOrder.ofRequest_eq_ok ho
  cases prepared with
  | noBuild image => cases hstate
  | reused build image => cases hstate
  | submitted b tag =>
    obtain ⟨hname, -⟩ := PipelineState.building.inj hstate
    obtain ⟨hb, hphase⟩ := isBuildOf_of_prepare hp
    have hbuilds := hdeployed.others .build (by decide) (by decide) (by decide)
    have hb' : s'.IsBuildOf r.appId b := hb.congr hbuilds
    obtain ⟨l, hl, hlatest⟩ := exists_isLatest hid hb'
    refine ⟨b, l, _, hname, hb', hphase, hl, perform_status s' r.appId, ?_⟩
    rw [hlatest]
    have hpos : 0 < order.fanOut.count.toNat := by
      rw [Except.ok.inj (hof.count.symm.trans hcount)]
      exact hn
    obtain ⟨i, hmem, hreplicas⟩ := exists_replicas_pos hi hpos
    obtain ⟨dc, hdc, hlabels, hlt⟩ := available_lt_replicas hdeployed hmem hreplicas
    refine tellsOf_stateOf ⟨_, mem_instancesOf hid hdc ?_, hlt⟩ l.phase
    rw [hlabels, FanOut.appId_of_mem_instances hi hmem, hof.labels, Labels.appId_base]

/-! ## After a launch -/

/-- Right after a launch that waits for a build, the state of the task tells of the latest build that
    the application has, unless the task has a pod. -/
theorem taskStatus_of_launch {l : Launched} {p : PendingTask}
    (h : s.perform (d.launch r) = (.ok l, s')) (hp : l.pending = some p) :
    ∃ b latest st, b.name = p.watch.build ∧ s'.IsBuildOf r.appId b ∧ b.phase.isTerminal = false ∧
      s'.IsLatest r.appId latest ∧ s'.perform (taskStatus r.appId) = (.ok st, s') ∧
      (s'.find? .pod r.appId.text = none → TaskTellsOf latest.phase st) ∧
      ∀ pod, s'.find? .pod r.appId.text = some pod → st = stateOfPhase (podPhase pod) := by
  obtain ⟨b, s₁, hprepare, -, -, hwatch, rfl⟩ := launch_eq_ok h hp
  obtain ⟨hb, hphase⟩ := isBuildOf_of_prepare hprepare
  have hb' : IsBuildOf (s₁.watch .build (Labels.appSelector r.appId)).2 r.appId b := hb.congr rfl
  obtain ⟨latest, hlatest, hlast⟩ := exists_isLatest (AppId.isPlain_appId r) hb'
  refine ⟨b, latest, _, by rw [hwatch], hb', hphase, hlatest, perform_taskStatus _ r.appId, ?_, ?_⟩
  · intro hnone
    rw [hnone, hlast]
    exact taskTellsOf_stateWithoutPod latest.phase
  · intro pod hpod
    rw [hpod]

end Deployer

end Slipway

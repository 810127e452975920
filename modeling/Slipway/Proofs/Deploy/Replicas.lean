import Mathlib.Algebra.Order.BigOperators.Group.List
import Mathlib.Algebra.Order.Ring.Int
import Slipway.Proofs.Cluster.Deployments
import Slipway.Proofs.Deploy.Placed
import Slipway.Proofs.Dict.Entries
import Slipway.Proofs.Session.Runs

/-
  The replicas of an application. A deployment gives each instance of the request its labels and
  its replicas and leaves all other deployments as they are (`deploy_eq_ok`), those of the same
  application included that earlier requests had and this one has not. So afterwards the
  application has as many replicas as the request asks for and those besides
  (`totalReplicas_deploy`). In a managed run all of them come from earlier requests for the same
  application (`deployedBy_of_shape?`), and the total is what is asked for exactly if they have no
  replicas (`totalReplicas_ofRun`).
-/

namespace Slipway

open Deployer

/-! ## Sums -/

namespace Cluster

variable {s s' : Cluster} {id : AppId}

/-- The deployments there are, as names with shapes. -/
def deployments (s : Cluster) : List (String × Shape) :=
  (s.objects.of .deploymentConfig).entries.map fun e => (e.1, e.2.shape)

/-- The replicas that the deployments with the label of an application have together, of those
    whose names are asked for. -/
def replicasOf (s : Cluster) (id : AppId) (names : String → Bool) : Int :=
  ((s.deployments.filter fun e =>
    names e.1 && e.2.labels.get? Labels.appIdKey == some id.text).map fun e =>
      e.2.replicas.toInt).sum

/-- The replicas that the deployments with the label of an application have together. -/
def totalReplicas (s : Cluster) (id : AppId) : Int := s.replicasOf id fun _ => true

theorem mem_deployments_iff {name : String} {sh : Shape} :
    (name, sh) ∈ s.deployments ↔ s.shape? name = some sh := by
  unfold deployments shape? find?
  rw [List.mem_map, Option.map_eq_some_iff]
  constructor
  · rintro ⟨⟨n, dc⟩, hdc, he⟩
    cases he
    exact ⟨dc, Dict.mem_entries_iff.1 hdc, rfl⟩
  · rintro ⟨dc, hdc, rfl⟩
    exact ⟨(name, dc), Dict.mem_entries_iff.2 hdc, rfl⟩

theorem nodup_deployments (s : Cluster) : s.deployments.Nodup := by
  refine List.Nodup.of_map Prod.fst ?_
  have hk : s.deployments.map Prod.fst = (s.objects.of .deploymentConfig).keys := by
    unfold deployments Dict.keys
    rw [List.map_map]
    rfl
  rw [hk]
  exact Dict.nodup_keys _

/-- What an instance is deployed as. -/
def placed (i : Instance) : String × Shape := (i.id.text, ⟨i.labels, i.replicas⟩)

/-- Deployments are those of the instances and those of other names as they were. -/
theorem deployments_perm {is : List Instance} (hnodup : (is.map fun i => i.id.text).Nodup)
    (hmem : ∀ i ∈ is, s'.shape? i.id.text = some ⟨i.labels, i.replicas⟩)
    (hother : ∀ name, name ∉ is.map (fun i => i.id.text) →
      s'.find? .deploymentConfig name = s.find? .deploymentConfig name) :
    s'.deployments.Perm (is.map placed ++
      s.deployments.filter fun e => e.1 ∉ is.map fun i => i.id.text) := by
  have hplaced : (is.map placed).map Prod.fst = is.map fun i => i.id.text := by
    rw [List.map_map]
    rfl
  refine (List.perm_ext_iff_of_nodup (nodup_deployments s') ?_).2 ?_
  · refine List.Nodup.append (List.Nodup.of_map Prod.fst (hplaced ▸ hnodup))
      ((nodup_deployments s).filter _) ?_
    intro e he hf
    have hname : e.1 ∈ is.map fun i => i.id.text :=
      hplaced ▸ List.mem_map.2 ⟨e, he, rfl⟩
    exact of_decide_eq_true (List.mem_filter.1 hf).2 hname
  · rintro ⟨name, sh⟩
    rw [mem_deployments_iff, List.mem_append, List.mem_filter, mem_deployments_iff,
      decide_eq_true_iff]
    by_cases hn : name ∈ is.map fun i => i.id.text
    · obtain ⟨i, hi, rfl⟩ := List.mem_map.1 hn
      rw [hmem i hi]
      constructor
      · intro h
        cases h
        exact .inl (List.mem_map.2 ⟨i, hi, rfl⟩)
      · rintro (h | h)
        · obtain ⟨j, hj, he⟩ := List.mem_map.1 h
          have hid : j.id.text = i.id.text := congrArg Prod.fst he
          have hij : j = i := List.inj_on_of_nodup_map hnodup hj hi hid
          cases hij
          exact congrArg some (congrArg Prod.snd he)
        · exact absurd hn h.2
    · rw [shape?_of_find? (hother name hn)]
      constructor
      · exact fun h => .inr ⟨h, hn⟩
      · rintro (h | h)
        · exact absurd (hplaced ▸ List.mem_map.2 ⟨_, h, rfl⟩) hn
        · exact h.1

/-- The application has the replicas of the instances and those of other names besides. -/
theorem totalReplicas_of_perm {is : List Instance}
    (h : s'.deployments.Perm (is.map placed ++
      s.deployments.filter fun e => e.1 ∉ is.map fun i => i.id.text))
    (hlabels : ∀ i ∈ is, i.labels.get? Labels.appIdKey = some id.text) :
    s'.totalReplicas id = (is.map fun i => i.replicas.toInt).sum +
      s.replicasOf id fun name => name ∉ is.map fun i => i.id.text := by
  have hall : (is.map placed).filter (fun e =>
      true && e.2.labels.get? Labels.appIdKey == some id.text) = is.map placed := by
    refine List.filter_eq_self.2 fun e he => ?_
    obtain ⟨i, hi, rfl⟩ := List.mem_map.1 he
    simpa [placed] using hlabels i hi
  unfold totalReplicas replicasOf
  rw [((h.filter _).map _).sum_eq, List.filter_append, List.map_append, List.sum_append, hall,
    List.map_map, List.filter_filter]
  congr 3
  refine List.filter_congr fun e _ => ?_
  dsimp only
  rw [Bool.true_and, Bool.and_comm]

end Cluster

/-! ## One deployment -/

namespace Deployer

open Cluster Resource

variable {s s' : Cluster} {d : Deployer} {r : Request} {o : DeployOutcome}

/-- A rollout changes neither labels nor replicas. -/
theorem shape_afterRollOut (source : ImageSource) (dc : DeploymentConfig) :
    (afterRollOut source dc).shape = dc.shape := by
  cases source <;> rfl

/-- What a deployment that succeeds has done to the deployments there are: its instances have their
    labels and replicas, and all others are as they were. -/
theorem deploy_eq_ok (h : s.perform (d.deploy r) = (.ok o, s')) :
    ∃ order is, DeployOrder.ofRequest d.config r = .ok order ∧
      order.fanOut.instances = .ok is ∧ o.instances = is.map (·.id) ∧
      (∀ i ∈ is, s'.shape? i.id.text = some ⟨i.labels, i.replicas⟩) ∧
      ∀ name, name ∉ is.map (fun i => i.id.text) →
        s'.find? .deploymentConfig name = s.find? .deploymentConfig name := by
  obtain ⟨order, prepared, s₁, is, ho, hp, -, hi, rfl, hdeployed⟩ := deploy_steps h
  have hprepare : s₁.objects.of .deploymentConfig = s.objects.of .deploymentConfig := by
    have hobjects := objects_of_perform (k := .deploymentConfig) (only_prepare (d := d) (r := r)
      (fun c hc => hc.not_changes (by decide) (by decide) (by decide)) r.appId
      (Labels.base r.appId r)) s
    rwa [hp] at hobjects
  refine ⟨order, is, ho, hi, rfl, fun i hi' => ?_, fun name hn => ?_⟩
  · obtain ⟨x, hx, hwant, -⟩ := hdeployed.deployments.mem i hi'
    rw [shape?, hx, Option.map_some, ← shape_unstamped, hwant, shape_afterRollOut]
    rfl
  · rw [hdeployed.deployments.other name fun i hi' he => hn (List.mem_map.2 ⟨i, hi', he⟩),
      find?_congr hprepare]

/-- After a deployment the application has as many replicas as the request asks for, and those of
    deployments that were there before and are not of this request. -/
theorem totalReplicas_deploy (h : s.perform (d.deploy r) = (.ok o, s')) :
    ∃ n, r.count = .ok n ∧ s'.totalReplicas r.appId = n.toNat +
      s.replicasOf r.appId fun name => name ∉ o.instances.map (·.text) := by
  obtain ⟨order, is, ho, hi, hids, hmem, hother⟩ := deploy_eq_ok h
  have horder := DeployOrder.ofRequest_eq_ok ho
  refine ⟨order.fanOut.count, horder.count, ?_⟩
  have hperm := deployments_perm (FanOut.nodup_ids hi) hmem hother
  have hlabels : ∀ i ∈ is, i.labels.get? Labels.appIdKey = some r.appId.text := fun i hi' => by
    rw [FanOut.appId_of_mem_instances hi hi', horder.labels, Labels.appId_base]
  rw [totalReplicas_of_perm hperm hlabels, FanOut.sum_replicas hi, hids, List.map_map]
  rfl

end Deployer

/-! ## Runs -/

section Runs

open Cluster

variable {run : List Event} {P : String → Shape → Prop}

theorem kept_allShapes (P : String → Shape → Prop) :
    Kept (σ := Cluster) (Call.Shapes P) (fun _ => True) (AllShapes P) where
  answer _ _ hc hs := shapes_answer hc hs
  opened _ _ _ _ _ _ := trivial
  poll id s _ hs := by
    have ho : (poll id s).2.objects = s.objects := objects_poll id s
    exact AllShapes.congr hs (shape?_congr (congrArg (fun o => o.of .deploymentConfig) ho))
  close _ _ _ hs := hs

theorem shapes_of_builds {c : Call} (h : c.Builds) : c.Shapes P := by
  cases c with
  | create k x => rcases h with rfl | rfl <;> trivial
  | replace k name x => rcases h with rfl | rfl <;> trivial
  | _ => trivial

theorem only_shapes_reconcile {k : Kind} (hk : k ≠ .deploymentConfig) (x : Resource k) :
    (Reconcile.reconcile x).Only (Call.Shapes P) := by
  refine (Reconcile.only_reconcile x).mono fun c hc => ?_
  cases c with
  | create j y =>
    obtain rfl : j = k := hc
    cases j <;> trivial
  | replace j name y =>
    obtain rfl : j = k := hc
    cases j <;> trivial
  | _ => trivial

/-- The deployments of a request have the shapes of its instances. -/
theorem only_shapes_deploy {d : Deployer} {r : Request}
    (h : ∀ order is i, DeployOrder.ofRequest d.config r = .ok order →
      order.fanOut.instances = .ok is → i ∈ is → P i.id.text ⟨i.labels, i.replicas⟩) :
    (d.deploy r).Only (Call.Shapes P) := by
  rw [deploy_eq]
  refine Action.only_ofResult_bind fun order ho => ?_
  refine Action.only_bind (only_prepare (fun _ => shapes_of_builds) _ _) fun prepared => ?_
  refine only_runInstances (fun x => only_shapes_reconcile (by decide) x)
    (fun x => only_shapes_reconcile (by decide) x) (fun _ => trivial) fun is hi i hmem => ?_
  have hP := h order is i ho hi hmem
  exact Reconcile.only_reconcile_of (fun _ => trivial) (fun _ => trivial) (fun _ _ => trivial) hP
    fun _ => hP

/-- A deployment is as an event of a run made it for an instance of a request of an application. -/
def DeployedBy (run : List Event) (id : AppId) (name : String) (sh : Shape) : Prop :=
  ∃ d r order is i, Event.step d (.deploy r) ∈ run ∧ r.appId = id ∧
    DeployOrder.ofRequest d.config r = .ok order ∧ order.fanOut.instances = .ok is ∧ i ∈ is ∧
    placed i = (name, sh)

/-- Where a deployment bears the label of an application, an event of the run made it for that
    application. -/
def DeployedByRun (run : List Event) (name : String) (sh : Shape) : Prop :=
  ∃ id, DeployedBy run id name sh ∧ sh.labels.get? Labels.appIdKey = some id.text

theorem only_shapes_step {d : Deployer} {st : Step} (hm : (Event.step d st).IsManaged)
    (he : Event.step d st ∈ run) : st.Only d (Call.Shapes (DeployedByRun run)) := by
  have hpod : ∀ x : Pod, (Reconcile.reconcile x).Only (Call.Shapes (DeployedByRun run)) :=
    only_shapes_reconcile (by decide)
  cases st with
  | deploy r =>
    refine only_shapes_deploy fun order is i ho hi hmem => ?_
    have horder := DeployOrder.ofRequest_eq_ok ho
    refine ⟨r.appId, ⟨d, r, order, is, i, he, rfl, ho, hi, hmem, rfl⟩, ?_⟩
    rw [FanOut.appId_of_mem_instances hi hmem, horder.labels, Labels.appId_base]
  | prepare r id mode => exact only_prepare (fun _ => shapes_of_builds) _ _
  | launch r handle =>
    show (d.launch r).Only _
    rw [launch_eq]
    refine Action.only_bind (Action.only_ofResult _) fun order => ?_
    exact Action.only_bind (only_prepare (fun _ => shapes_of_builds) _ _) fun prepared =>
      only_runTask order prepared hpod fun _ _ => trivial
  | undeploy id => exact only_undeploy id (fun _ _ => trivial) fun _ _ _ => trivial
  | cancel id => exact only_deleteIfPresent _ trivial
  | status id => exact only_status id fun _ _ => trivial
  | taskStatus id => exact only_taskStatus id (fun _ => trivial) fun _ _ => trivial
  | reconcile | call => exact hm.elim
  | wait | detach | watch | watchState | watchClose | watchCompletion | watchEvents => trivial

/-- Every deployment there is after a run was made by an event of the run, for the application whose
    label it bears. -/
theorem deployedBy_of_shape? (hm : ∀ e ∈ run, e.IsManaged) {name : String} {sh : Shape}
    (h : (Session.ofRun run).platform.shape? name = some sh) : DeployedByRun run name sh := by
  refine Session.ofRun_keeps (I := AllShapes (DeployedByRun run)) ?_ ?_ name sh h
  · intro name sh hsh
    cases hsh
  · intro e he s hs
    cases e with
    | step d st =>
      exact Session.step_keeps (kept_allShapes _) (fun pod => only_shapes_reconcile (by decide) pod)
        (only_shapes_step (hm _ he) he) hs
    | act a =>
      exact hs.congr (shape?_congr (Event.objects_of_act (by decide) (by decide) a (hm _ he) s))

theorem nonneg_of_deployedBy {id : AppId} {name : String} {sh : Shape}
    (h : DeployedBy run id name sh) : 0 ≤ sh.replicas.toInt := by
  obtain ⟨d, r, order, is, i, -, -, -, hi, hmem, hplaced⟩ := h
  cases hplaced
  exact FanOut.nonneg_of_mem_instances hi hmem

/-- A deployment of an application that has the name of none of the given instances. -/
def IsLeft (s : Cluster) (id : AppId) (ids : List AppId) (name : String) (sh : Shape) : Prop :=
  s.shape? name = some sh ∧ sh.labels.get? Labels.appIdKey = some id.text ∧
    name ∉ ids.map (·.text)

theorem deployedBy_of_isLeft (hm : ∀ e ∈ run, e.IsManaged) {id : AppId} {ids : List AppId}
    {name : String} {sh : Shape} (h : IsLeft (Session.ofRun run).platform id ids name sh) :
    DeployedBy run id name sh := by
  obtain ⟨hsh, hlabel, -⟩ := h
  obtain ⟨id', hby, hlabel'⟩ := deployedBy_of_shape? hm hsh
  rw [hlabel] at hlabel'
  have hid : id = id' := congrArg AppId.mk (Option.some.inj hlabel')
  rwa [hid]

/-- Where no deployment has less than no replicas, there are none together exactly if none has
    any. -/
theorem replicasOf_eq_zero_iff {s : Cluster} {id : AppId} {ids : List AppId}
    (hs : ∀ name sh, IsLeft s id ids name sh → 0 ≤ sh.replicas.toInt) :
    (s.replicasOf id fun name => name ∉ ids.map (·.text)) = 0 ↔
      ∀ name sh, IsLeft s id ids name sh → sh.replicas = 0 := by
  have hmem : ∀ name sh, (name, sh) ∈ s.deployments.filter (fun e =>
      decide (e.1 ∉ ids.map (·.text)) && e.2.labels.get? Labels.appIdKey == some id.text) ↔
        IsLeft s id ids name sh := fun name sh => by
    rw [List.mem_filter, mem_deployments_iff, Bool.and_eq_true, decide_eq_true_iff, beq_iff_eq,
      IsLeft]
    exact and_congr_right fun _ => and_comm
  unfold replicasOf
  constructor
  · intro hsum name sh hleft
    refine Int32.toInt_inj.1 (List.all_zero_of_le_zero_le_of_sum_eq_zero ?_ hsum ?_)
    · intro x hx
      obtain ⟨⟨name, sh⟩, he, rfl⟩ := List.mem_map.1 hx
      exact hs name sh ((hmem name sh).1 he)
    · exact List.mem_map.2 ⟨(name, sh), (hmem name sh).2 hleft, rfl⟩
  · intro hzero
    refine List.sum_eq_zero fun x hx => ?_
    obtain ⟨⟨name, sh⟩, he, rfl⟩ := List.mem_map.1 hx
    have hsh : sh.replicas = 0 := hzero name sh ((hmem name sh).1 he)
    exact congrArg Int32.toInt hsh

/-- After a deployment in a managed run the application has as many replicas as the request asks
    for, and those of the deployments besides that have the name of none of its instances. These
    were made for earlier requests for the same application and are stored just as they were. So the
    total is what is asked for exactly if none of them has any replicas. -/
theorem totalReplicas_ofRun {d : Deployer} {r : Request} {o : DeployOutcome} {s' : Cluster}
    (hm : ∀ e ∈ run, e.IsManaged)
    (h : (d.deploy r).run (Session.ofRun run).platform = (some (.ok o), s')) :
    ∃ n, r.count = .ok n ∧
      s'.totalReplicas r.appId = n.toNat + ((Session.ofRun run).platform.replicasOf r.appId
        fun name => name ∉ o.instances.map (·.text)) ∧
      (∀ name sh, IsLeft (Session.ofRun run).platform r.appId o.instances name sh →
        DeployedBy run r.appId name sh ∧ ∃ dc : DeploymentConfig, dc.shape = sh ∧
          (Session.ofRun run).platform.find? .deploymentConfig name = some dc ∧
          s'.find? .deploymentConfig name = some dc) ∧
      (s'.totalReplicas r.appId = n.toNat ↔
        ∀ name sh, IsLeft (Session.ofRun run).platform r.appId o.instances name sh →
          sh.replicas = 0) := by
  have hperform := run_eq_some_iff.1 h
  obtain ⟨n, hn, htotal⟩ := totalReplicas_deploy hperform
  have hnonneg : ∀ name sh, IsLeft (Session.ofRun run).platform r.appId o.instances name sh →
      0 ≤ sh.replicas.toInt := fun name sh hleft =>
    nonneg_of_deployedBy (deployedBy_of_isLeft hm hleft)
  refine ⟨n, hn, htotal, fun name sh hleft => ⟨deployedBy_of_isLeft hm hleft, ?_⟩, ?_⟩
  · obtain ⟨order, is, -, -, hids, -, hother⟩ := deploy_eq_ok hperform
    obtain ⟨hsh, -, hname⟩ := hleft
    obtain ⟨dc, hdc, hshape⟩ := Option.map_eq_some_iff.1 hsh
    rw [hids, List.map_map] at hname
    exact ⟨dc, hshape, hdc, (hother name hname).trans hdc⟩
  · rw [← replicasOf_eq_zero_iff hnonneg, htotal]
    omega

end Runs

/-! ## An application that becomes smaller -/

/-- A request for an image as a number of instances. -/
def Request.ofImage (properties : List (String × String)) : Request where
  name := "ticker"
  artifact := .image "ticker:1.0"
  properties := Dict.ofList properties

/-- The run in which `ticker` is deployed as three instances. -/
def deployedThree : List Event := [.step (Deployer.ofContent [])
  (.deploy (.ofImage [(Keys.indexed, "true"), (Keys.count, "3")]))]

/-- A request for `ticker` as one instance. -/
def tickerOne : Request := .ofImage [(Keys.indexed, "true"), (Keys.count, "1")]

theorem exists_deploy_deployedThree : ∃ o s',
    ((Deployer.ofContent []).deploy tickerOne).run (Session.ofRun deployedThree).platform =
      (some (.ok o), s') ∧ s'.totalReplicas tickerOne.appId = 3 := by
  have hok : view? (fun o : DeployOutcome => some o.instances.length)
      (((Deployer.ofContent []).deploy tickerOne).run (Session.ofRun deployedThree).platform) =
      some 1 := by
    decide +kernel
  have htotal : (((Deployer.ofContent []).deploy tickerOne).run
      (Session.ofRun deployedThree).platform).2.totalReplicas tickerOne.appId = 3 := by
    decide +kernel
  obtain ⟨o, s', h, -⟩ := exists_of_view? hok
  rw [h] at htotal
  exact ⟨o, s', h, htotal⟩

/-- One instance is asked for, and the deployment of another one from before is stored as it was. -/
theorem totalReplicas_ofRun_deployedThree : ∃ o s' n,
    ((Deployer.ofContent []).deploy tickerOne).run (Session.ofRun deployedThree).platform =
      (some (.ok o), s') ∧ tickerOne.count = .ok n ∧
    s'.totalReplicas tickerOne.appId =
      n.toNat + ((Session.ofRun deployedThree).platform.replicasOf tickerOne.appId
        fun name => name ∉ o.instances.map (·.text)) ∧
    ∃ dc : DeploymentConfig, dc.shape.replicas = 1 ∧
      (Session.ofRun deployedThree).platform.find? .deploymentConfig "ticker-2" = some dc ∧
      s'.find? .deploymentConfig "ticker-2" = some dc := by
  have hids : view? (fun o : DeployOutcome => some (o.instances.map (·.text)))
      (((Deployer.ofContent []).deploy tickerOne).run (Session.ofRun deployedThree).platform) =
      some ["ticker-0"] := by
    decide +kernel
  obtain ⟨o, s', h, hids⟩ := exists_of_view? hids
  have hlabels : ((Session.ofRun deployedThree).platform.shape? "ticker-2").map
      (fun sh => (sh.labels.get? Labels.appIdKey, sh.replicas)) = some (some "ticker", 1) := by
    decide +kernel
  obtain ⟨sh, hsh, hlabels⟩ := Option.map_eq_some_iff.1 hlabels
  obtain ⟨hlabel, hreplicas⟩ := Prod.mk.inj hlabels
  have hm : ∀ e ∈ deployedThree, e.IsManaged := by simp [deployedThree, Event.IsManaged]
  have hleft : IsLeft (Session.ofRun deployedThree).platform tickerOne.appId o.instances
      "ticker-2" sh := by
    refine ⟨hsh, hlabel, ?_⟩
    rw [Option.some.inj hids]
    decide
  obtain ⟨n, hn, htotal, hstored, -⟩ := totalReplicas_ofRun hm h
  obtain ⟨-, dc, rfl, hbefore, hafter⟩ := hstored _ _ hleft
  exact ⟨o, s', n, h, hn, htotal, dc, hreplicas, hbefore, hafter⟩

/-- One instance is asked for, and the replicas of two that were deployed before are still there. -/
theorem totalReplicas_ne_count : ∃ o s',
    ((Deployer.ofContent []).deploy tickerOne).run (Session.ofRun deployedThree).platform =
      (some (.ok o), s') ∧ tickerOne.count = .ok 1 ∧ s'.totalReplicas tickerOne.appId = 3 := by
  obtain ⟨o, s', h, htotal⟩ := exists_deploy_deployedThree
  exact ⟨o, s', h, rfl, htotal⟩

end Slipway

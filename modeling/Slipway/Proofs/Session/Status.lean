import Slipway.Proofs.Deploy.Replicas
import Slipway.Proofs.Deploy.Status
import Slipway.Proofs.Session.Origins
import Slipway.Proofs.Session.Reached

/-
  What is told right after a build was started or followed, in every managed run
  (`status_of_started`). Builds carry the time of the version under which they were first stored
  (`Since`), so that one which was just started is the youngest, as long as the clock of the platform
  has not begun anew (`isYoungest_of_new`). A deployment that follows an earlier build while a later
  one has ended is not told as being built, nor is a task as being launched that has a pod from
  before (`status_of_other`).
-/

namespace Slipway

open Cluster

/-! ## The times of builds -/

namespace BuildHistory

/-- The time that a version stands for grows with the version, within an hour. -/
theorem compareAge_of_clock {a b : Build} {v w : Nat}
    (ha : a.metadata.creationTimestamp = some (clock v))
    (hb : b.metadata.creationTimestamp = some (clock w)) (hlt : v < w) (hw : w < 3600) :
    compareAge b a = .gt := by
  have hseconds : ∀ n, n < 3600 → (clock n).seconds = 1735689600 + (n : Int) := by
    intro n hn
    show (1735689600 : Int) + ((n / 60 % 60 * 60 + n % 60 : Nat) : Int) = _
    omega
  have htime : compareTimes b.metadata.creationTimestamp a.metadata.creationTimestamp = .gt := by
    rw [ha, hb]
    show (compare (clock w).seconds (clock v).seconds).then _ = .gt
    rw [hseconds v (by omega), hseconds w hw, Int.compare_eq_gt.2 (by omega)]
    rfl
  unfold compareAge
  rw [htime]
  rfl

end BuildHistory

namespace Cluster

variable {s q q' : Cluster} {id : AppId} {b : Build} {name : String}

/-- Versions were only counted up since, and every build carries the time of a version, one that is
    new of a later version than there was before. -/
structure Since (s q : Cluster) : Prop where
  version_le : s.version ≤ q.version
  timed : ∀ name b, q.find? .build name = some b → ∃ v, v ≤ q.version ∧
    b.metadata.creationTimestamp = some (clock v) ∧
    (s.find? .build name = none → s.version < v)

theorem Since.congr (h : Since s q) (hv : q.version ≤ q'.version)
    (ho : q'.objects.of .build = q.objects.of .build) : Since s q' := by
  refine ⟨Nat.le_trans h.version_le hv, fun name b hb => ?_⟩
  obtain ⟨v, hle, htime, hnew⟩ := h.timed name b ((find?_congr ho name).symm.trans hb)
  exact ⟨v, Nat.le_trans hle hv, htime, hnew⟩

/-- Nothing is new at the beginning. -/
theorem Since.refl_of (h : Since s q) : Since q q := by
  refine ⟨Nat.le_refl _, fun name b hb => ?_⟩
  obtain ⟨v, hle, htime, -⟩ := h.timed name b hb
  refine ⟨v, hle, htime, fun hnone => ?_⟩
  rw [hb] at hnone
  cases hnone

theorem since_empty : Since {} {} := by
  refine ⟨Nat.le_refl _, fun name b hb => ?_⟩
  cases hb

theorem kept_since (s : Cluster) :
    Kept (σ := Cluster) Call.ByDeployer (fun _ => True) (Since s) where
  answer c q hc h := by
    refine ⟨Nat.le_trans h.version_le (version_le_answer c q), fun name b hb => ?_⟩
    have hle := version_le_answer c q
    cases source_of_find? hb with
    | before hb =>
      obtain ⟨v, hv, htime, hnew⟩ := h.timed name b hb
      exact ⟨v, Nat.le_trans hv hle, htime, hnew⟩
    | created r hcall =>
      subst hcall
      exact absurd rfl hc
    | replaced r hcall hy =>
      subst hcall
      exact absurd rfl hc.1
    | marked hcall hy =>
      subst hcall
      exact absurd rfl hc
    | @started base bc hcall hbc =>
      have hversion : (answer c q).2.version = q.version + 1 := by
        rcases hcall with rfl | ⟨file, content, rfl⟩
        · exact version_startBuild hbc
        · exact version_startBuild hbc
      have hlater := h.version_le
      exact ⟨q.version + 1, Nat.le_of_eq hversion.symm, rfl, fun _ => Nat.lt_succ_of_le hlater⟩
  opened _ _ _ _ _ _ := trivial
  poll id q _ h := h.congr (Nat.le_of_eq (version_poll id q).symm)
    (congrArg (fun o => o.of .build) (objects_poll id q))
  close _ _ _ h := h.congr (Nat.le_refl _) rfl

theorem Since.act {a : Act} (h : Since s q) (hm : (Event.act a).IsManaged)
    (ha : q.act a = some q') : Since s q' := by
  have hle := version_le_act ha
  refine ⟨Nat.le_trans h.version_le hle, fun name b hb => ?_⟩
  cases source_of_act ha hb with
  | before hb =>
    obtain ⟨v, hv, htime, hnew⟩ := h.timed name b hb
    exact ⟨v, Nat.le_trans hv hle, htime, hnew⟩
  | inserted r hact =>
    subst hact
    exact hm.elim
  | @moved _ phase image c hact hc =>
    obtain ⟨v, hv, htime, hnew⟩ := h.timed name c hc
    refine ⟨v, Nat.le_trans hv hle, ?_, hnew⟩
    exact (creationTimestamp_stamp q (r := movedTo phase image c) ⟨_, htime, rfl⟩).trans htime

/-- After a managed run every build carries the time of a version that was counted. -/
theorem since_ofRun {run : List Event} (hm : ∀ e ∈ run, e.IsManaged) :
    Since {} (Session.ofRun run).platform := by
  have hpod : ∀ pod : Pod, (Reconcile.reconcile pod).Only Call.ByDeployer :=
    only_byDeployer_reconcile (by decide)
  refine Session.ofRun_keeps since_empty fun e he s hs => ?_
  cases e with
  | step d st => exact Session.step_keeps (kept_since {}) hpod (only_byDeployer (hm _ he)) hs
  | act a =>
    rw [Event.apply_act]
    rcases ha : s.platform.act a with _ | q
    · exact hs
    · exact Session.settle_keeps (kept_since {}) hpod (fun _ _ => trivial) (hs.act (hm _ he) ha)

/-- A build that was just started is the youngest of its application, as long as the clock has not
    begun anew. -/
theorem isYoungest_of_new {P : Build → Prop} (hs : Since s s) (h : Since s q)
    (hchange : BuildChange s q P fun _ _ => False) (hhour : q.version < 3600)
    (hnone : s.find? .build name = none) (hb : q.find? .build name = some b) :
    q.IsYoungest id b := by
  rintro b' ⟨⟨other, hb'⟩, -⟩ hne
  have hon : other ≠ name := by
    rintro rfl
    exact hne (Option.some.inj (hb'.symm.trans hb))
  have hbefore : s.find? .build other = some b' := by
    cases hchange with
    | none ho =>
      rw [find?_congr ho, hnone] at hb
      cases hb
    | @started base bc c hstarted hc =>
      have hname : name = c.name := Classical.byContradiction fun hn => by
        rw [hstarted.find?_of_ne hn, hnone] at hb
        cases hb
      rwa [hstarted.find?_of_ne (hname ▸ hon)] at hb'
    | moved hmoved hfalse => exact hfalse.elim
  obtain ⟨v, hv, htime, -⟩ := hs.timed other b' hbefore
  obtain ⟨w, hw, htime', hnew⟩ := h.timed name b hb
  have hlt := hnew hnone
  unfold BuildHistory.notYounger
  rw [BuildHistory.compareAge_of_clock htime htime' (by omega) (by omega)]
  rfl

end Cluster

/-! ## Right after a start -/

/-- A build that was started or followed, and the latest build of its application. -/
structure Cluster.Attended (s' : Cluster) (id : AppId) (name : String) (b l : Build) : Prop where
  find?_eq : s'.find? .build name = some b
  isBuildOf : s'.IsBuildOf id b
  phase_eq : b.phase.isTerminal = false
  isLatest : s'.IsLatest id l

variable {run : List Event} {d : Deployer} {r : Request} {s' : Cluster} {name : String}

theorem Deployer.deploy_attended (hm : ∀ e ∈ run, e.IsManaged) {n : UInt32}
    (hcount : r.count = .ok n) (hn : 0 < n.toNat) {o : DeployOutcome}
    (h : (d.deploy r).run (Session.ofRun run).platform = (some (.ok o), s'))
    {mode : CompletionMode} (hstate : o.state = .building name mode) :
    ∃ b l st, s'.Attended r.appId name b l ∧
      (Deployer.status r.appId).run s' = (some (.ok st), s') ∧ TellsOf l.phase st.state := by
  have hperform := run_eq_some_iff.1 h
  have hchange := deploy_buildChange (Q := fun _ _ => False) (Session.ofRun run).platform d r
  rw [hperform] at hchange
  obtain ⟨b, l, st, rfl, hb, hphase, hl, hst, htells⟩ :=
    status_of_deploy hcount hn hperform hstate
  have ⟨⟨other, hfind⟩, _⟩ := hb
  have hname := (hchange.numbered (numbered_ofRun hm)).name_eq hfind
  exact ⟨b, l, st, ⟨hname ▸ hfind, hb, hphase, hl⟩, run_eq_some_iff.2 hst, htells⟩

theorem Deployer.launch_attended (hm : ∀ e ∈ run, e.IsManaged) {launched : Launched}
    {p : PendingTask}
    (h : (d.launch r).run (Session.ofRun run).platform = (some (.ok launched), s'))
    (hp : launched.pending = some p) :
    ∃ b l st, s'.Attended r.appId p.watch.build b l ∧
      (Deployer.taskStatus r.appId).run s' = (some (.ok st), s') ∧
      (s'.find? .pod r.appId.text = none → TaskTellsOf l.phase st) ∧
      ∀ pod, s'.find? .pod r.appId.text = some pod → st = stateOfPhase (podPhase pod) := by
  have hperform := run_eq_some_iff.1 h
  have hchange := launch_buildChange (Q := fun _ _ => False) (Session.ofRun run).platform d r
  rw [hperform] at hchange
  obtain ⟨b, l, st, hbuild, hb, hphase, hl, hst, hnone, hsome⟩ := taskStatus_of_launch hperform hp
  have ⟨⟨other, hfind⟩, _⟩ := hb
  have hname := (hchange.numbered (numbered_ofRun hm)).name_eq hfind
  rw [← hbuild]
  exact ⟨b, l, st, ⟨hname ▸ hfind, hb, hphase, hl⟩, run_eq_some_iff.2 hst, hnone, hsome⟩

/-- A build that is the youngest of its application is the latest one. -/
theorem Cluster.Attended.phase_latest {id : AppId} {b l : Build} (h : s'.Attended id name b l)
    (hyoungest : s'.IsYoungest id b) : l.phase.isTerminal = false := by
  rw [h.isLatest.eq_of_isYoungest h.isBuildOf hyoungest]
  exact h.phase_eq

/-- The build that an action of a deployer started is the latest one, as long as the clock has not
    begun anew. -/
theorem Cluster.Attended.phase_of_new (hm : ∀ e ∈ run, e.IsManaged) {α : Type} {a : Action α}
    (honly : a.Only Call.ByDeployer) {P : Build → Prop}
    (hchange : BuildChange (Session.ofRun run).platform
      ((Session.ofRun run).platform.perform a).2 P fun _ _ => False)
    (hs' : ((Session.ofRun run).platform.perform a).2 = s') {id : AppId} {b l : Build}
    (h : s'.Attended id name b l) (hnone : (Session.ofRun run).platform.find? .build name = none)
    (hhour : s'.version < 3600) : l.phase.isTerminal = false := by
  have hsince := (since_ofRun hm).refl_of
  have hafter := perform_keeps (fun c q => (kept_since (Session.ofRun run).platform).answer c q)
    honly hsince
  rw [hs'] at hchange hafter
  exact h.phase_latest (isYoungest_of_new hsince hafter hchange hhour hnone h.find?_eq)

/-- What is told right after a deployment that waits for a build is that the application is being
    built exactly if its latest build has not ended, and so it is if the build that is waited for is
    the youngest, in particular if it was just started. The same is told right after a launch, unless
    the task has a pod from before: then its state goes by the phase of the pod. -/
theorem status_of_started (run : List Event) (hm : ∀ e ∈ run, e.IsManaged) (d : Deployer)
    (r : Request) :
    let s := (Session.ofRun run).platform
    (∀ n o s' name mode, r.count = .ok n → 0 < n.toNat →
      (d.deploy r).run s = (some (.ok o), s') → o.state = .building name mode →
      ∃ b l st, s'.Attended r.appId name b l ∧
        (Deployer.status r.appId).run s' = (some (.ok st), s') ∧
        Deployer.TellsOf l.phase st.state ∧
        (s'.IsYoungest r.appId b → st.state = .building) ∧
        (s.find? .build name = none → s'.version < 3600 → st.state = .building)) ∧
    ∀ launched p s', (d.launch r).run s = (some (.ok launched), s') → launched.pending = some p →
      ∃ b l st, s'.Attended r.appId p.watch.build b l ∧
        (Deployer.taskStatus r.appId).run s' = (some (.ok st), s') ∧
        (s'.find? .pod r.appId.text = none → Deployer.TaskTellsOf l.phase st ∧
          (s'.IsYoungest r.appId b → st = .launching) ∧
          (s.find? .build p.watch.build = none → s'.version < 3600 → st = .launching)) ∧
        ∀ pod, s'.find? .pod r.appId.text = some pod →
          st = Deployer.stateOfPhase (Deployer.podPhase pod) := by
  intro s
  constructor
  · intro n o s' name mode hcount hn h hstate
    obtain ⟨b, l, st, hb, hst, htells⟩ := Deployer.deploy_attended hm hcount hn h hstate
    refine ⟨b, l, st, hb, hst, htells, fun hyoungest => ?_, fun hnone hhour => ?_⟩
    · exact htells.building_iff.2 (hb.phase_latest hyoungest)
    · exact htells.building_iff.2 (hb.phase_of_new hm
        (@only_byDeployer d (.deploy r) trivial) (deploy_buildChange s d r)
        (congrArg Prod.snd (run_eq_some_iff.1 h)) hnone hhour)
  · intro launched p s' h hp
    obtain ⟨b, l, st, hb, hst, hnone, hsome⟩ := Deployer.launch_attended hm h hp
    refine ⟨b, l, st, hb, hst, fun hpod => ⟨hnone hpod, fun hyoungest => ?_, ?_⟩, hsome⟩
    · exact (hnone hpod).launching_iff.2 (hb.phase_latest hyoungest)
    · intro hnew hhour
      exact (hnone hpod).launching_iff.2 (hb.phase_of_new hm
        (@only_byDeployer d (.launch r "") trivial) (launch_buildChange s d r)
        (congrArg Prod.snd (run_eq_some_iff.1 h)) hnew hhour)

/-- A deployment and a launch of other content than the one that was deployed before each start a
    build, and it is told that they did. -/
theorem status_of_started_ticker :
    let s := (Session.ofRun deployedOnce).platform
    (∃ o s' st, ((Deployer.ofContent [0]).deploy (.ticker [])).run s = (some (.ok o), s') ∧
      o.state = .building "ticker-2" .trigger ∧
      (Deployer.status (Request.ticker []).appId).run s' = (some (.ok st), s') ∧
      st.state = .building) ∧
    ∃ l s', ((Deployer.ofContent [0]).launch (.ticker [])).run s = (some (.ok l), s') ∧
      l.state = .building "ticker-2" .watch ∧
      (Deployer.taskStatus (Request.ticker []).appId).run s' = (some (.ok .launching), s') := by
  intro s
  have hm : ∀ e ∈ deployedOnce, e.IsManaged := by simp [deployedOnce, Event.IsManaged]
  have hnone : ∀ name, name = "ticker-2" → s.find? .build name = none := by
    rintro name rfl
    exact Option.isNone_iff_eq_none.1 (by decide +kernel)
  obtain ⟨hdeploy, hlaunch⟩ :=
    status_of_started deployedOnce hm (Deployer.ofContent [0]) (.ticker [])
  constructor
  · have hview : view? (fun o : DeployOutcome => some o.state)
        (((Deployer.ofContent [0]).deploy (.ticker [])).run s) =
          some (.building "ticker-2" .trigger) := by
      decide +kernel
    have hversion : (((Deployer.ofContent [0]).deploy (.ticker [])).run s).2.version < 3600 := by
      decide +kernel
    obtain ⟨o, s', h, hstate⟩ := exists_of_view? hview
    rw [h] at hversion
    obtain ⟨-, -, st, -, hst, -, -, hnew⟩ :=
      hdeploy 1 o s' _ _ rfl (by decide) h (Option.some.inj hstate)
    exact ⟨o, s', st, h, Option.some.inj hstate, hst, hnew (hnone _ rfl) hversion⟩
  · have hview : view? (fun l : Launched => l.pending.map fun p => (p.watch.build, l.state))
        (((Deployer.ofContent [0]).launch (.ticker [])).run s) =
          some ("ticker-2", .building "ticker-2" .watch) := by
      decide +kernel
    have hafter : (((Deployer.ofContent [0]).launch (.ticker [])).run s).2.version < 3600 ∧
        ((((Deployer.ofContent [0]).launch (.ticker [])).run s).2.find? .pod
          (Request.ticker []).appId.text).isNone = true := by
      decide +kernel
    obtain ⟨l, s', h, hpending⟩ := exists_of_view? hview
    obtain ⟨p, hp, hbuild⟩ := Option.map_eq_some_iff.1 hpending
    obtain ⟨hname, hstate⟩ := Prod.mk.inj hbuild
    rw [h] at hafter
    obtain ⟨b, latest, st, -, hst, hnopod, -⟩ := hlaunch l p s' h hp
    obtain ⟨-, -, hnew⟩ := hnopod (Option.isNone_iff_eq_none.1 hafter.2)
    rw [hnew (hnone _ hname) hafter.1] at hst
    exact ⟨l, s', h, hstate, hst⟩

/-- `ticker` is deployed with some content and then with other content, and the second build
    completes. -/
def secondCompleted : List Event := [
  .step (Deployer.ofContent []) (.deploy (.ticker [])),
  .step (Deployer.ofContent [0]) (.deploy (.ticker [])),
  .act (.setBuildPhase "ticker-2" .complete none)]

/-- `ticker` is launched as an image, for which a pod is created at once. -/
def launchedImage : List Event :=
  [.step (Deployer.ofContent []) (.launch (.ofImage []) "task")]

/-- A deployment follows a build that goes on, and the application is told to be deployed, as its
    latest build has completed. A launch waits for a build, and nothing is known of the task, as its
    pod from before has no phase. -/
theorem status_of_other :
    (∃ o s' st, ((Deployer.ofContent []).deploy (.ticker [])).run
        (Session.ofRun secondCompleted).platform = (some (.ok o), s') ∧
      (Request.ticker []).count = .ok 1 ∧ o.state = .building "ticker-1" .trigger ∧
      (Deployer.status (Request.ticker []).appId).run s' = (some (.ok st), s') ∧
      st.state = .deploying) ∧
    ∃ l s', ((Deployer.ofContent []).launch (.ticker [])).run
        (Session.ofRun launchedImage).platform = (some (.ok l), s') ∧
      l.pending.map (·.watch.build) = some "ticker-1" ∧
      (Deployer.taskStatus (Request.ticker []).appId).run s' = (some (.ok .unknown), s') := by
  constructor
  · have hview : view? (fun o : DeployOutcome => some o.state)
        (((Deployer.ofContent []).deploy (.ticker [])).run
          (Session.ofRun secondCompleted).platform) = some (.building "ticker-1" .trigger) := by
      decide +kernel
    obtain ⟨o, s', h, hstate⟩ := exists_of_view? hview
    have hstatus : view? (fun st : AppStatus => some st.state)
        ((Deployer.status (Request.ticker []).appId).run
          (((Deployer.ofContent []).deploy (.ticker [])).run
            (Session.ofRun secondCompleted).platform).2) = some .deploying := by
      decide +kernel
    rw [h, run_eq_some_iff.2 (Deployer.perform_status _ _)] at hstatus
    exact ⟨o, s', _, h, rfl, Option.some.inj hstate,
      run_eq_some_iff.2 (Deployer.perform_status _ _), Option.some.inj hstatus⟩
  · have hview : view? (fun l : Launched => l.pending.map (·.watch.build))
        (((Deployer.ofContent []).launch (.ticker [])).run
          (Session.ofRun launchedImage).platform) = some "ticker-1" := by
      decide +kernel
    obtain ⟨l, s', h, hpending⟩ := exists_of_view? hview
    have hstatus : view? (fun st : TaskState => some st)
        ((Deployer.taskStatus (Request.ticker []).appId).run
          (((Deployer.ofContent []).launch (.ticker [])).run
            (Session.ofRun launchedImage).platform).2) = some .unknown := by
      decide +kernel
    rw [h, run_eq_some_iff.2 (Deployer.perform_taskStatus _ _)] at hstatus
    refine ⟨l, s', h, hpending, ?_⟩
    rw [run_eq_some_iff.2 (Deployer.perform_taskStatus _ _), Option.some.inj hstatus]

end Slipway

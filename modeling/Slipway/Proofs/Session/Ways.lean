import Slipway.Proofs.Deploy.Attempts
import Slipway.Proofs.Pipeline.Followed
import Slipway.Proofs.Session.Launches

/-
  Two ways to the pod of a task whose build is not done yet. Whoever launched the task can wait for
  it until the build is complete, or detach it and launch it again afterwards. The first way goes
  through the listener, which carries on with the order that it was given at the launch
  (`LeftBy.advance`); the second chooses a build anew and comes upon the same one
  (`LeftBy.launch`). Both create the same pod, and neither starts a second build
  (`launch_ways_agree`). They part where builds or pods are stored under names that are not their
  own (`launch_ways_part`).
-/

namespace Slipway

open Cluster BuildWatch

variable {s t u q : Cluster} {d : Deployer} {r : Request} {l : Launched} {p : PendingTask}
  {b : Build} {image : Option String} {handle : String}

/-! ## What a launch leaves -/

namespace Deployer

/-- The image that a completed build of a request is used for: the one that it reports, or the tag
    that it pushes to where it reports none. -/
def imageFor (d : Deployer) (r : Request) (image : Option String) : String :=
  (image.filter (· ≠ "")).getD (BuildPlan.outputTag d.config r r.appId)

/-- A platform after a launch that waits for a build: it is there and listened for, it is the one to
    be used again when it has ended, and nothing stays in the way of the pod. -/
structure LeftBy (d : Deployer) (r : Request) (p : PendingTask) (b : Build) (t : Cluster) :
    Prop where
  order_eq : TaskOrder.ofRequest d.config r = .ok p.order
  tag_eq : p.imageStreamTag = BuildPlan.outputTag d.config r r.appId
  find?_eq : t.find? .build p.watch.build = some b
  dated : b.Dated
  named : t.BuildsNamed p.watch.selector
  listed : t.Listed p.watch
  soundAt : t.SoundAt .pod p.order.id.text
  again : ∀ {q q' b'}, q.objects.of .build = t.objects.of .build →
    Moved q q' p.watch.build b b' →
    b'.metadata.creationTimestamp = b.metadata.creationTimestamp →
    b'.phase.isTerminal = true → b'.phase ≠ .failed →
    q'.perform (d.prepare r r.appId (Labels.base r.appId r)) =
      (.ok (.reused b'.name (b'.builtImage p.imageStreamTag)), q')

theorem leftBy_of_launch (hforced : BuildHistory.forcesBuild r d.config ≠ .ok true)
    (hnamed : s.BuildsNamed (Labels.appSelector r.appId)) (hdated : s.AllDated)
    (hpod : s.SoundAt .pod r.appId.text) (hfresh : s.Fresh)
    (h : s.perform (d.launch r) = (.ok l, t)) (hp : l.pending = some p) :
    ∃ b, LeftBy d r p b t ∧ Listening p.watch none false t ∧
      t.buildsStarted ≤ s.buildsStarted + 1 := by
  obtain ⟨hselector, htag, hnamed', hlistening, hlisted⟩ := launch_listens hnamed hfresh h hp
  obtain ⟨b, s₁, hprepare, horder, -, hwatch, rfl⟩ := launch_eq_ok h hp
  obtain ⟨hid, -⟩ := TaskOrder.ofRequest_eq_ok horder
  obtain ⟨hnamed₁, hfind, -, -, -⟩ := submitted_of_prepare hnamed hprepare
  have hbuild : p.watch.build = b.name := by rw [hwatch]
  have hdated₁ : s₁.AllDated := by
    have hkeeps := perform_keeps (kept_allObjects fun _ _ _ _ _ _ hs h => h.dated hs).answer
      (Action.only_true (d.prepare r r.appId (Labels.base r.appId r))) hdated
    rwa [hprepare] at hkeeps
  have hpods : s₁.objects.of .pod = s.objects.of .pod := by
    have hkeeps := objects_of_perform (k := .pod)
      (only_prepare (d := d) (r := r)
        (fun _ hc => hc.not_changes (k := .pod) (by decide) (by decide) (by decide)) r.appId
        (Labels.base r.appId r)) s
    rwa [hprepare] at hkeeps
  obtain ⟨n, hn, hstarted, -⟩ := prepare_attempt hprepare
  have hfind' : s₁.find? .build p.watch.build = some b := by rw [hbuild, hfind]
  rw [← hselector] at hnamed'
  refine ⟨b, ⟨horder, htag, hfind', hdated₁ .build _ b hfind, hnamed', hlisted, ?_, ?_⟩,
    hlistening, ?_⟩
  · rw [hid]
    exact fun x hx => hpod x ((find?_congr hpods _).symm.trans hx)
  · intro q q' b' hq hmoved htime hterminal hphase
    exact prepare_of_moved hforced (AppId.isPlain_appId r) (Labels.appId_base _ _) hprepare hnamed₁
      hq (hbuild ▸ hmoved) htime hterminal hphase
  · show s₁.buildsStarted ≤ _
    omega

/-- A launch that uses a build again creates the pod with its image. -/
theorem launch_of_reused {name reference : String} {order : TaskOrder} {pod : Pod}
    (horder : TaskOrder.ofRequest d.config r = .ok order)
    (hprepare : s.perform (d.prepare r r.appId (Labels.base r.appId r)) =
      (.ok (.reused name reference), t))
    (hpod : t.perform (order.createPod reference) = (.ok pod, u)) :
    s.perform (d.launch r) = (.ok ⟨r.appId, .deployed reference, none⟩, u) := by
  obtain ⟨hid, hlabels⟩ := TaskOrder.ofRequest_eq_ok horder
  rw [launch_eq, perform_ofResult_bind horder, hid, hlabels]
  refine perform_bind_eq_ok.2 ⟨_, t, hprepare, perform_bind_eq_ok.2 ⟨pod, u, hpod, ?_⟩⟩
  rw [← hid]
  rfl

namespace LeftBy

/-- The build completes. -/
theorem exists_completed (h : LeftBy d r p b t) (hu : u.objects = t.objects)
    (image : Option String) :
    ∃ q b', u.setBuildPhase p.watch.build .complete image = some q ∧
      Moved u q p.watch.build b b' ∧
      b'.metadata.creationTimestamp = b.metadata.creationTimestamp ∧ b'.phase = .complete ∧
      b'.builtImage p.imageStreamTag = d.imageFor r image ∧
      q.SoundAt .pod p.order.id.text ∧ q.log = u.log := by
  have hfind : u.find? .build p.watch.build = some b :=
    (find?_congr (by rw [hu]) _).trans h.find?_eq
  obtain ⟨q, hq, hmoved, hobjects, hlog⟩ := exists_setBuildPhase hfind .complete image
  refine ⟨q, _, hq, hmoved, creationTimestamp_stamp u (r := movedTo .complete image b) h.dated, rfl,
    ?_, fun x hx => h.soundAt x ?_, hlog⟩
  · rw [imageFor, ← h.tag_eq]
    rfl
  · rw [← hx, find?_congr (hobjects .pod (by decide)), find?_congr (by rw [hu])]

theorem createPod (h : q.SoundAt .pod p.order.id.text) (image : String) :
    ∃ pod z, q.perform (p.order.createPod image) = (.ok pod, z) ∧
      stateOfPod pod = .deployed image ∧ p.order.HasPod image z ∧ StartsNone q z := by
  obtain ⟨pod, z, hcreated, hunstamped, hpod⟩ := p.order.createPod_of_soundAt h image
  have hnone := startsNone_reconcile q (Bundle.taskPod p.order.id p.order.labels image
    p.order.environment p.order.settings)
  have hz : q.perform (Reconcile.reconcile (Bundle.taskPod p.order.id p.order.labels image
    p.order.environment p.order.settings)) = (.ok pod, z) := hcreated
  rw [hz] at hnone
  exact ⟨pod, z, hcreated, Session.stateOfPod_of_unstamped hunstamped, hpod, hnone⟩

/-- Once the build is complete, launching again creates the pod at once. -/
theorem launch (h : LeftBy d r p b t) (hu : u.objects = t.objects)
    (hq : u.setBuildPhase p.watch.build .complete image = some q) :
    ∃ z, q.perform (d.launch r) = (.ok ⟨r.appId, .deployed (d.imageFor r image), none⟩, z) ∧
      p.order.HasPod (d.imageFor r image) z ∧ StartsNone u z := by
  obtain ⟨q', b', hq', hmoved, htime, hphase, himage, hsound, hlog⟩ := h.exists_completed hu image
  obtain rfl : q = q' := Option.some.inj (hq.symm.trans hq')
  have hprepare := h.again (by rw [hu]) hmoved htime (by rw [hphase]; rfl)
    (by rw [hphase]; decide)
  rw [himage] at hprepare
  obtain ⟨pod, z, hcreated, -, hpod, hnone⟩ := createPod hsound (d.imageFor r image)
  exact ⟨z, launch_of_reused h.order_eq hprepare hcreated, hpod,
    (StartsNone.of_log_eq hlog).trans hnone⟩

/-- Once the build is complete, a follower that listens for it creates the pod in its turn. -/
theorem advance (h : LeftBy d r p b t) (hu : u.objects = t.objects)
    (hlistening : Listening p.watch none false u)
    (hq : u.setBuildPhase p.watch.build .complete image = some q) :
    ∃ pod z, (Session.followerOf p).advance Continuation.run q =
        ({ Session.followerOf p with fired := 1, progress := .finished (.ok (.pod pod)) }, z) ∧
      stateOfPod pod = .deployed (d.imageFor r image) ∧
      p.order.HasPod (d.imageFor r image) z ∧ StartsNone u z := by
  obtain ⟨q', b', hq', hmoved, -, hphase, himage, hsound, hlog⟩ := h.exists_completed hu image
  obtain rfl : q = q' := Option.some.inj (hq.symm.trans hq')
  have hbuilds : u.objects.of .build = t.objects.of .build := by rw [hu]
  obtain ⟨b₀, hb₀, hlisted⟩ := h.listed
  obtain ⟨b'', hb'', -, hlistening'⟩ := hlistening.setBuildPhase_of_terminal
    (h.named.congr hbuilds) ⟨b₀, (find?_congr hbuilds _).trans hb₀, hlisted⟩ hq rfl
  obtain rfl : b' = b'' := Option.some.inj (hmoved.find?_self.symm.trans hb'')
  obtain ⟨q₁, huntouched, -, hadvance⟩ := Follower.advance_of_complete Continuation.run
    (f := Session.followerOf p) rfl hlistening' hphase
  have hsound₁ : q₁.SoundAt .pod p.order.id.text := fun x hx =>
    hsound x ((find?_congr (by rw [huntouched.objects_eq]) _).symm.trans hx)
  obtain ⟨pod, z, hcreated, hstate, hpod, hnone⟩ := createPod hsound₁ (d.imageFor r image)
  have hrun : ((Session.followerOf p).continuation.run b').run q₁ = (some (.ok (.pod pod)), z) := by
    refine run_eq_some_iff.2 (perform_bind_eq_ok.2 ⟨pod, z, ?_, rfl⟩)
    rw [← hcreated, ← himage]
    rfl
  rw [hrun] at hadvance
  exact ⟨pod, z, hadvance, hstate, hpod,
    ((StartsNone.of_log_eq hlog).trans (.of_log_eq huntouched.log_eq)).trans hnone⟩

end LeftBy

end Deployer

/-! ## One launch in a session of its own -/

namespace Session

/-- A session that begins on a platform as it stands. -/
def ofPlatform (s : Cluster) : Session Cluster := { platform := s }

/-- A session with one launch, whose task waits under a handle. -/
def waitingFor (l : Launched) (p : PendingTask) (handle : String) (s : Cluster) :
    Session Cluster where
  platform := s
  followers := [followerOf p]
  launches := Dict.empty.insert handle { state := l.state, follower := some 0 }

/-- A session with one launch that was detached. -/
def letGo (l : Launched) (p : PendingTask) (handle : String) (s : Cluster) : Session Cluster where
  platform := s
  followers := [{ followerOf p with progress := .closed }]
  launches := (Dict.empty.insert handle { state := l.state, follower := some 0 }).erase handle

/-- A task is launched, and its build completes while somebody waits for it. -/
def attended (d : Deployer) (r : Request) (handle build : String) (image : Option String) :
    List Event :=
  [.step d (.launch r handle), .act (.setBuildPhase build .complete image)]

/-- A task is launched and detached before its build completes. -/
def abandoned (d : Deployer) (r : Request) (handle build : String) (image : Option String) :
    List Event :=
  [.step d (.launch r handle), .step d (.detach handle), .act (.setBuildPhase build .complete image)]

theorem exists_apply_launch (h : s.perform (d.launch r) = (.ok l, t)) (hp : l.pending = some p)
    (hlistening : Listening p.watch none false t) (handle : String) :
    ∃ u, Untouched t u ∧ Listening p.watch none false u ∧
      (Event.step d (.launch r handle)).apply (ofPlatform s) = waitingFor l p handle u := by
  obtain ⟨u, hadvance, huntouched, hlistening'⟩ :=
    Follower.advance_of_listening Continuation.run (f := followerOf p) rfl hlistening
  have hlaunch : ((ofPlatform s).launch d r handle).2 = waitingFor l p handle t := by
    unfold Session.launch ofPlatform
    rw [run_eq_some_iff.2 h]
    dsimp only
    rw [hp]
    rfl
  refine ⟨u, huntouched, hlistening', ?_⟩
  show ((ofPlatform s).launch d r handle).2.settle = _
  rw [hlaunch]
  unfold settle waitingFor
  dsimp only [settleAll]
  rw [hadvance]

/-- A task that is detached leaves nothing that listens. -/
theorem apply_detach (d : Deployer) (l : Launched) (p : PendingTask) (handle : String)
    (u : Cluster) : (Event.step d (.detach handle)).apply (waitingFor l p handle u) =
      letGo l p handle (Cluster.close p.watch.watch u) := by
  show ((waitingFor l p handle u).detach handle).2.settle = _
  unfold detach waitingFor
  dsimp only
  rw [Dict.get?_insert_self]
  rfl

/-- Waiting for a task whose build completes gives the state of the pod that is created then. -/
theorem exists_step_wait {a : Act} {pod : Pod} {z : Cluster} (ha : u.act a = some q)
    (hadvance : (followerOf p).advance Continuation.run q =
      ({ followerOf p with fired := 1, progress := .finished (.ok (.pod pod)) }, z))
    (d : Deployer) (l : Launched) (handle : String) :
    ∃ s', ((Event.act a).apply (waitingFor l p handle u)).step d (.wait handle) =
      (.state (stateOfPod pod), s') ∧ s'.platform = z := by
  have hact : (Event.act a).apply (waitingFor l p handle u) = { waitingFor l p handle z with
      followers := [{ followerOf p with fired := 1, progress := .finished (.ok (.pod pod)) }] } := by
    have ha : (waitingFor l p handle u).platform.act a = some q := ha
    rw [Event.apply_act, ha]
    unfold settle waitingFor
    dsimp only [settleAll]
    rw [hadvance]
  rw [hact]
  unfold step take wait waitingFor
  dsimp only
  rw [Dict.get?_insert_self]
  exact ⟨_, rfl, rfl⟩

/-- What happens after a task was detached is not followed, so that a launch starts from it. -/
theorem exists_step_launch {a : Act} {l' : Launched} {z : Cluster} (ha : u.act a = some q)
    (h : q.perform (d.launch r) = (.ok l', z)) (hp : l'.pending = none) (l : Launched)
    (p : PendingTask) (handle again : String) :
    ∃ s', ((Event.act a).apply (letGo l p handle u)).step d (.launch r again) =
      (.launched l', s') ∧ s'.platform = z := by
  have hact : (Event.act a).apply (letGo l p handle u) = letGo l p handle q := by
    have ha : (letGo l p handle u).platform.act a = some q := ha
    rw [Event.apply_act, ha]
    rfl
  rw [hact]
  unfold step take Session.launch letGo
  dsimp only
  rw [run_eq_some_iff.2 h]
  dsimp only
  rw [hp]
  exact ⟨_, rfl, rfl⟩

end Session

/-! ## Both ways -/

open Session Deployer

/-- A task whose launch waits for a build gets the same pod in both ways: if it is waited for while
    the build completes, and if it is detached and launched again when the build is complete. This
    holds on the platform of any run on which the builds of the application, and what there is under
    the name of the pod, are stored under their own names. The first launch starts one build at
    most, and no other is started in either way. -/
theorem launch_ways_agree {run : List Event} {before : Session Cluster}
    (hrun : (ofRun run).platform = s)
    (hforced : BuildHistory.forcesBuild r d.config ≠ .ok true)
    (hbuilds : s.BuildsNamed (Labels.appSelector r.appId))
    (hpod : ∀ x, s.find? .pod r.appId.text = some x → x.name = r.appId.text)
    (h : (ofPlatform s).step d (.launch r handle) = (.launched l, before))
    (hp : l.pending = some p) (image : Option String) (again : String) :
    ∃ order s₁ s₂, TaskOrder.ofRequest d.config r = .ok order ∧
      ((ofPlatform s).after (attended d r handle p.watch.build image)).step d (.wait handle) =
        (.state (.deployed (d.imageFor r image)), s₁) ∧
      ((ofPlatform s).after (abandoned d r handle p.watch.build image)).step d (.launch r again) =
        (.launched ⟨r.appId, .deployed (d.imageFor r image), none⟩, s₂) ∧
      order.HasPod (d.imageFor r image) s₁.platform ∧
      AlikeAt .pod r.appId.text s₁.platform s₂.platform ∧
      before.platform.buildsStarted ≤ s.buildsStarted + 1 ∧
      StartsNone before.platform s₁.platform ∧ StartsNone before.platform s₂.platform := by
  subst hrun
  obtain ⟨t, hlaunch⟩ : ∃ t, (ofRun run).platform.perform (d.launch r) = (.ok l, t) := by
    obtain ⟨t, hlaunch, -⟩ := launch_eq_launched (congrArg Prod.fst h) hp
    exact ⟨t, hlaunch⟩
  have hsound : (ofRun run).platform.SoundAt .pod r.appId.text := fun x hx =>
    ⟨hpod x hx, allIdentified_ofRun run _ _ x hx⟩
  obtain ⟨b, hleft, hlistening, hstarted⟩ := leftBy_of_launch hforced hbuilds
    (allDated_ofRun run) hsound (fresh_ofRun run) hlaunch hp
  obtain ⟨u, huntouched, hlistening', happly⟩ :=
    exists_apply_launch hlaunch hp hlistening handle
  obtain rfl : waitingFor l p handle u = before := happly.symm.trans (congrArg Prod.snd h)
  obtain ⟨q, -, hq, -⟩ := hleft.exists_completed huntouched.objects_eq image
  obtain ⟨pod, z₁, hadvance, hstate, hpod₁, hnone₁⟩ :=
    hleft.advance huntouched.objects_eq hlistening' hq
  obtain ⟨s₁, hwait, rfl⟩ :=
    exists_step_wait (a := .setBuildPhase p.watch.build .complete image) hq hadvance d l handle
  have hclosed : (Cluster.close p.watch.watch u).objects = t.objects := huntouched.objects_eq
  obtain ⟨q', -, hq', -⟩ := hleft.exists_completed hclosed image
  obtain ⟨z₂, hagain, hpod₂, hnone₂⟩ := hleft.launch hclosed hq'
  obtain ⟨s₂, hlaunched, rfl⟩ :=
    exists_step_launch (a := .setBuildPhase p.watch.build .complete image) hq' hagain rfl l p handle
      again
  refine ⟨p.order, s₁, s₂, hleft.order_eq, ?_, ?_, hpod₁, ?_, ?_, hnone₁, hnone₂⟩
  · rw [← hstate, ← hwait, attended, after, List.foldl_cons, List.foldl_cons, List.foldl_nil,
      happly]
  · rw [← hlaunched, abandoned, after, List.foldl_cons, List.foldl_cons, List.foldl_cons,
      List.foldl_nil, happly, apply_detach]
  · obtain ⟨pod₁, hfind₁, hunstamped₁⟩ := hpod₁
    obtain ⟨pod₂, hfind₂, hunstamped₂⟩ := hpod₂
    rw [(TaskOrder.ofRequest_eq_ok hleft.order_eq).1] at hfind₁ hfind₂
    exact alikeAt_of_some hfind₁ hfind₂ (hunstamped₁.trans hunstamped₂.symm)
  · have hsame : u.buildsStarted = t.buildsStarted := by
      unfold buildsStarted
      rw [huntouched.log_eq]
    exact hsame ▸ hstarted

/-- `ticker` is launched on the platform of a run. -/
def launchedOn (run : List Event) : Reply × Session Cluster :=
  (ofPlatform (ofRun run).platform).step (Deployer.ofContent []) (.launch (.ticker []) "task")

/-- `ticker` is launched on the platform of a run and waited for while its build completes. -/
def attendedOn (run : List Event) (build : String) : Reply × Session Cluster :=
  ((ofPlatform (ofRun run).platform).after (attended (Deployer.ofContent []) (.ticker []) "task"
    build (some "registry/ticker:1"))).step (Deployer.ofContent []) (.wait "task")

/-- `ticker` is launched on the platform of a run, detached, and launched again when its build is
    complete. -/
def abandonedOn (run : List Event) (build : String) : Reply × Session Cluster :=
  ((ofPlatform (ofRun run).platform).after (abandoned (Deployer.ofContent []) (.ticker []) "task"
    build (some "registry/ticker:1"))).step (Deployer.ofContent []) (.launch (.ticker []) "again")

theorem forcesBuild_ticker :
    BuildHistory.forcesBuild (.ticker []) (Deployer.ofContent []).config ≠ .ok true := by
  decide +kernel

/-- The build of `ticker` has failed, so that the next launch starts another. -/
def tickerFailed : List Event := deployedOnce ++ [.act (.setBuildPhase "ticker-1" .failed none)]

theorem awaited?_tickerFailed : (launchedOn tickerFailed).1.awaited? = some "ticker-2" := by
  decide +kernel

theorem launch_ways_agree_tickerFailed : ∃ l p,
    (launchedOn tickerFailed).1 = .launched l ∧ l.pending = some p ∧ p.watch.build = "ticker-2" ∧
      (attendedOn tickerFailed "ticker-2").1 = .state (.deployed "registry/ticker:1") ∧
      (abandonedOn tickerFailed "ticker-2").1 =
        .launched ⟨(Request.ticker []).appId, .deployed "registry/ticker:1", none⟩ ∧
      AlikeAt .pod (Request.ticker []).appId.text (attendedOn tickerFailed "ticker-2").2.platform
        (abandonedOn tickerFailed "ticker-2").2.platform := by
  obtain ⟨l, p, hl, hp, hbuild⟩ := Reply.awaited?_eq_some awaited?_tickerFailed
  have hm : ∀ e ∈ tickerFailed, e.IsManaged := by
    simp [tickerFailed, deployedOnce, Event.IsManaged]
  obtain ⟨_, s₁, s₂, -, hwait, hagain, -, halike, -⟩ := launch_ways_agree rfl forcesBuild_ticker
    ((numbered_ofRun hm).buildsNamed _) (fun x hx => ((sound_ofRun hm).podsSound _ x hx).1)
    (Prod.ext hl rfl) hp (some "registry/ticker:1") "again"
  rw [hbuild] at hwait hagain
  refine ⟨l, p, hl, hp, hbuild, congrArg Prod.fst hwait, congrArg Prod.fst hagain, ?_⟩
  unfold attendedOn abandonedOn
  rw [hwait, hagain]
  exact halike

/-- A pod that is stored as `ticker` gets another name. -/
def podRenamed : List Event := [.act (.insert .pod ⟨{ name := some "ticker" }, none, none⟩),
  .step (Deployer.ofContent []) (.call (.replace .pod "ticker"
    ⟨{ name := some "other", resourceVersion := some "1" }, none, none⟩))]

/-- A build of `ticker` that runs. -/
def tickerBuild (name : String) (version : Option String) : Build where
  metadata := {
    name := some name
    resourceVersion := version
    labels := some (Labels.base (Request.ticker []).appId (.ticker [])) }
  spec := { strategy := { source := some {
    env := [{ name := Labels.fingerprintVariable, value := some (Fingerprint.of []).text }] } } }
  status := some { phase := .running }

/-- A build that is stored as `ticker-2` gets the name of another one. -/
def buildRenamed : List Event := [.act (.insert .build (tickerBuild "ticker-1" none)),
  .act (.insert .build (tickerBuild "ticker-2" none)),
  .step (Deployer.ofContent []) (.call (.replace .build "ticker-2"
    (tickerBuild "ticker-1" (some "2"))))]

/-- The state of a pipeline that a reply tells. -/
def Reply.state? : Reply → Option PipelineState
  | launched l => some l.state
  | state s => some s
  | _ => none

/-- What is not stored under its own name parts the two ways. A pod that is stored as `ticker` and
    has another name is not deleted, so that the pod of the task can not be created. Of two builds
    with one name only one is completed, and the other is followed when the task is launched
    again. -/
theorem launch_ways_part :
    BuildHistory.forcesBuild (.ticker []) (Deployer.ofContent []).config ≠ .ok true ∧
      (launchedOn podRenamed).1.awaited? = some "ticker-1" ∧
      (attendedOn podRenamed "ticker-1").1.failure? = some (.alreadyExists .pod "ticker") ∧
      (launchedOn buildRenamed).1.awaited? = some "ticker-1" ∧
      (attendedOn buildRenamed "ticker-1").1.state? = some (.deployed "registry/ticker:1") ∧
      (abandonedOn buildRenamed "ticker-1").1.state? = some (.building "ticker-1" .watch) := by
  refine ⟨forcesBuild_ticker, ?_, ?_, ?_, ?_, ?_⟩
  · decide +kernel
  · decide +kernel
  · decide +kernel
  · decide +kernel
  · decide +kernel

end Slipway

import Slipway.Proofs.Deploy.Instances
import Slipway.Proofs.Labels.Selector
import Slipway.Proofs.Session.Endings

/-
  What comes of a launch that waits for a build, in every managed run (`outcome_ofRun`). Until its
  waiting ends its watch is open. If the build takes its last phase first and is complete then, the
  pod of the task is created, exactly once and with the image of the build. In all other cases it
  never is. Whoever still holds the handle and waits is told what came of it; of a build that fails
  after the watches were ended this is that the watch was closed (`watchClosed_tickerFailsUnseen`).
-/

namespace Slipway

open Cluster BuildWatch

/-! ## The launch -/

section Launch

variable {s s' : Cluster} {d : Deployer} {r : Request} {b : Build} {tag : String}

/-- A build that was submitted is there and has not ended, and the selector of its application
    selects it. -/
theorem Deployer.submitted_of_prepare (hs : s.BuildsNamed (Labels.appSelector r.appId))
    (h : s.perform (d.prepare r r.appId (Labels.base r.appId r)) = (.ok (.submitted b tag), s')) :
    s'.BuildsNamed (Labels.appSelector r.appId) ∧ s'.find? .build b.name = some b ∧
      b.phase.isTerminal = false ∧
      Labels.satisfies b.labels (Labels.appSelector r.appId) = true ∧
      tag = BuildPlan.outputTag d.config r r.appId := by
  have hp := prepare_provision d r r.appId (Labels.base r.appId r) s
  rw [h] at hp
  generalize hout : (.submitted b tag : Prepared) = out at hp
  cases hp with
  | ready hi => cases hout
  | @earlier content b₀ hc he =>
    have hmem := BuildHistory.mem_of_toReuse? he
    unfold ofEarlier at hout
    split at hout
    · cases hout
    next hphase =>
      cases hout
      exact ⟨hs, hs.find?_of_mem_matching hmem, Bool.eq_false_iff.2 hphase,
        (List.mem_filter.1 hmem).2, rfl⟩
  | commissioned hc he hb =>
    cases hout
    obtain ⟨bc, hstarted⟩ := hb.started
    refine ⟨hstarted.buildsNamed hs, hstarted.find?_self, by rw [hb.phase_eq]; rfl, ?_, rfl⟩
    rw [Labels.satisfies_appSelector (AppId.isPlain_appId r), hb.labels_eq, Labels.appId_base]

/-- What prepares an image creates no pod. -/
theorem Call.Builds.operation?_ne {c : Call} (h : c.Builds) (name : String) :
    c.operation? ≠ some (.create .pod name) := by
  cases c with
  | create k x =>
    intro he
    obtain ⟨hk, -⟩ := Operation.create.inj (Option.some.inj he)
    exact absurd (hk ▸ h) (by decide : ¬ (Kind.pod = .imageStream ∨ Kind.pod = .buildConfig))
  | _ => simp [operation?]

/-- A watch that is newly opened on a build that has not ended is listened on. -/
theorem Cluster.listening_watch {w : BuildWatch} (hfresh : s.Fresh)
    (hs : s.BuildsNamed w.selector) (hw : w.watch = ⟨s.watchCount⟩) (hb : s.find? .build w.build = some b)
    (hphase : b.phase.isTerminal = false) :
    Listening w none false (s.watch .build w.selector).2 := by
  refine ⟨⟨_, hw ▸ hfresh.subscription?_watch w.selector, rfl, rfl, rfl, ?_⟩, ?_⟩
  · refine List.findSome?_eq_none_iff.2 fun e he => ?_
    obtain ⟨b', hb', rfl⟩ := List.mem_map.1 he
    have hfind := hs.find?_of_mem_matching hb'
    rw [endOf?, if_neg]
    rintro ⟨hname, ht⟩
    rw [hname, hb] at hfind
    rw [← Option.some.inj hfind, hphase] at ht
    cases ht
  · rw [hw]
    exact Nat.lt_succ_self _

/-- What a launch comes to that waits for a build. It listens for a build that is there, and it
    creates no pod itself. -/
structure Deployer.Awaits (d : Deployer) (r : Request) (s s' : Cluster) (l : Launched)
    (p : PendingTask) : Prop where
  order_eq : TaskOrder.ofRequest d.config r = .ok p.order
  tag_eq : p.imageStreamTag = BuildPlan.outputTag d.config r r.appId
  state_eq : l.state = .building p.watch.build .watch
  numbered : s'.Numbered
  listening : Listening p.watch none false s'
  listed : s'.Listed p.watch
  records : Records (.create .pod r.appId.text) 0 s s'

/-- A launch that waits for a build listens for one that is there. -/
theorem Deployer.launch_listens (hs : s.BuildsNamed (Labels.appSelector r.appId))
    (hfresh : s.Fresh) {l : Launched} {p : PendingTask}
    (h : s.perform (d.launch r) = (.ok l, s')) (hp : l.pending = some p) :
    p.watch.selector = Labels.appSelector r.appId ∧
      p.imageStreamTag = BuildPlan.outputTag d.config r r.appId ∧
      s'.BuildsNamed (Labels.appSelector r.appId) ∧ Listening p.watch none false s' ∧
      s'.Listed p.watch := by
  obtain ⟨b, s₁, hprepare, -, -, hwatch, rfl⟩ := launch_eq_ok h hp
  obtain ⟨hnamed, hfind, hphase, hsatisfies, htag⟩ := submitted_of_prepare hs hprepare
  have hfresh₁ : s₁.Fresh := by
    have hkeeps := perform_keeps kept_fresh.answer
      (only_byDeployer_prepare d r r.appId (Labels.base r.appId r)) hfresh
    rwa [hprepare] at hkeeps
  have hbuild : p.watch.build = b.name := by rw [hwatch]
  have hselector : p.watch.selector = Labels.appSelector r.appId := by rw [hwatch]
  refine ⟨hselector, htag, hnamed.congr rfl, ?_, b, hbuild ▸ hfind, hselector ▸ hsatisfies⟩
  rw [← hselector] at hnamed ⊢
  exact listening_watch hfresh₁ hnamed (by rw [hwatch]) (hbuild ▸ hfind) hphase

theorem Deployer.launch_awaits (hs : s.Numbered) (hfresh : s.Fresh) {l : Launched}
    {p : PendingTask} (h : s.perform (d.launch r) = (.ok l, s')) (hp : l.pending = some p) :
    d.Awaits r s s' l p := by
  obtain ⟨-, htag, -, hlistening, hlisted⟩ := launch_listens (hs.buildsNamed _) hfresh h hp
  obtain ⟨b, s₁, hprepare, horder, hstate, hwatch, rfl⟩ := launch_eq_ok h hp
  have hchange := prepare_buildChange (Q := fun _ _ => True) s d r r.appId
  have hquiet : (d.prepare r r.appId (Labels.base r.appId r)).Only
      fun c => c.operation? ≠ some (.create .pod r.appId.text) :=
    only_prepare (fun c hc => hc.operation?_ne r.appId.text) r.appId (Labels.base r.appId r)
  have hrecords := records_perform hquiet s
  rw [hprepare] at hchange hrecords
  have hbuild : p.watch.build = b.name := by rw [hwatch]
  exact ⟨horder, htag, by rw [hstate, hbuild], (hchange.numbered hs).congr rfl, hlistening,
    hlisted, hrecords⟩

end Launch

namespace Session

variable {s : Session Cluster} {d : Deployer} {r : Request} {handle : String} {l : Launched}
  {p : PendingTask} {n : Nat}

/-- A handle of a launch leads to the follower of a number. -/
def Holds (s : Session Cluster) (handle : String) (n : Nat) : Prop :=
  (s.launches.get? handle).bind (·.follower) = some n

instance (s : Session Cluster) (handle : String) (n : Nat) : Decidable (s.Holds handle n) :=
  inferInstanceAs (Decidable (_ = _))

theorem holds_of_get? {l : LaunchHandle} {n : Nat} (h : s.launches.get? handle = some l)
    (hn : l.follower = some n) : s.Holds handle n :=
  Option.bind_eq_some_iff.2 ⟨l, h, hn⟩

theorem launch_eq_launched (h : (s.launch d r handle).1 = .launched l) (hp : l.pending = some p) :
    ∃ q, s.platform.perform (d.launch r) = (.ok l, q) ∧
      (s.launch d r handle).2 = { s with
        platform := q
        followers := s.followers ++ [followerOf p]
        launches := s.launches.insert handle
          { state := l.state, follower := some s.followers.length } } := by
  unfold launch at h ⊢
  rw [run_eq_perform] at h ⊢
  rcases hl : s.platform.perform (d.launch r) with ⟨e | l', q⟩
  · rw [hl] at h
    cases h
  · rw [hl] at h
    obtain rfl : l' = l := Reply.launched.inj h
    refine ⟨q, rfl, ?_⟩
    dsimp only
    rw [hp]
    rfl

/-- A launch that waits for a build leaves a follower that does. -/
theorem waiting_of_launch (hs : s.Sound) (hnumbered : s.platform.Numbered)
    (h : (s.step d (.launch r handle)).1 = .launched l) (hp : l.pending = some p) :
    d.Awaits r s.platform (s.take d (.launch r handle)).2.platform l p ∧
      ((Event.step d (.launch r handle)).apply s).launches.get? handle =
        some { state := l.state, follower := some s.followers.length } ∧
      Course ((Event.step d (.launch r handle)).apply s) s.followers.length p
        ((Event.step d (.launch r handle)).turnOf s.followers.length s) none := by
  have hm : (Event.step d (.launch r handle)).IsManaged := trivial
  have hlaunched : (s.launch d r handle).1 = .launched l := h
  obtain ⟨q, hperform, hlaunch⟩ := launch_eq_launched hlaunched hp
  have hawaits := Deployer.launch_awaits hnumbered hs.fresh hperform hp
  have htake : (s.take d (.launch r handle)).2 = _ := hlaunch
  have hpoised : (s.take d (.launch r handle)).2.Poised s.followers.length p none false := by
    refine ⟨hs.take hm, ?_, ?_, ?_⟩
    · rw [htake, List.getElem?_append_right (Nat.le_refl _), Nat.sub_self,
        List.getElem?_cons_zero]
    · rintro ⟨name, w, hw, hn⟩
      rw [htake] at hw
      exact Nat.lt_irrefl _ (hs.led _ ⟨name, w, hw, hn⟩)
    · rw [htake]
      exact hawaits.listening
  obtain ⟨hsettle, hturn⟩ := hpoised.settle
  have hbuilds : (s.take d (.launch r handle)).2.settle.platform.objects.of .build =
      q.objects.of .build := by
    rw [objects_of_settle .build (by decide), htake]
  obtain ⟨b, hb, hsatisfies⟩ := hawaits.listed
  refine ⟨?_, ?_, .waiting ⟨hsettle, ?_, b, ?_, hsatisfies⟩ hturn⟩
  · rw [htake]
    exact hawaits
  · show (s.take d (.launch r handle)).2.launches.get? handle = _
    rw [htake, Dict.get?_insert, if_pos rfl]
  · exact hawaits.numbered.congr hbuilds
  · exact (find?_congr hbuilds _).trans hb

/-! ## What comes of it -/

/-- The state that a pod of a task is told by is that its image is deployed. -/
theorem stateOfPod_of_unstamped {pod : Pod} {id : AppId} {labels environment : Attributes}
    {image : String} {settings : ContainerSettings}
    (h : pod.unstamped =
      (Bundle.taskPod id labels image environment settings).stored.unstamped) :
    stateOfPod pod = .deployed image := by
  unfold stateOfPod
  rw [Resource.spec_eq_of_unstamped h]
  rfl

theorem resultOf?_eq_some {f : Follower Continuation Yield} {result : Result Yield}
    (hf : s.followers[n]? = some f) (hr : f.progress = .finished result) :
    s.resultOf? n = some result := by
  rw [resultOf?, hf]
  dsimp only
  rw [hr]

theorem wait_of_holds (h : s.Holds handle n) :
    (s.wait handle).1 = match s.resultOf? n with
      | some result => replyToWait result
      | none => .pending := by
  obtain ⟨l, hl, hn⟩ := Option.bind_eq_some_iff.1 h
  rw [wait, hl]
  dsimp only
  rw [hn]
  dsimp only
  cases s.resultOf? n <;> rfl

end Session

/-- Somebody listens on a watch that was not ended. -/
def Cluster.IsOpen (s : Cluster) (id : WatchId .build) : Prop :=
  ∃ w, s.subscription? id = some w ∧ w.hasSource = true ∧ w.isOpen = true

/-- What has come of a launch that waits for a build, by what ended its waiting first, if anything
    did, and by all that was recorded for it. -/
structure Launched.Outcome (id : AppId) (p : PendingTask) (n : Nat) (end? : Option Ending)
    (work : List Operation) (s : Session Cluster) : Prop where
  /-- Its pod is created at most once, -/
  created_le : work.count (.create .pod id.text) ≤ 1
  /-- and that exactly if the build was complete when it took its last phase, and nothing else had
      ended the waiting before; -/
  created_iff : work.count (.create .pod id.text) = 1 ↔
    ∃ t, end? = some (.phase t) ∧ t.phase = .complete
  /-- then its image is the one that the build told, or the image stream tag of the launch. -/
  complete : ∀ ⦃t⦄, end? = some (.phase t) → t.phase = .complete →
    (∃ pod, s.resultOf? n = some (.ok (.pod pod)) ∧
      pod.unstamped = (Bundle.taskPod id p.order.labels (t.builtImage p.imageStreamTag)
        p.order.environment p.order.settings).stored.unstamped) ∧
    ∀ ⦃handle⦄, s.Holds handle n →
      (s.wait handle).1 = .state (.deployed (t.builtImage p.imageStreamTag))
  /-- If the build ended otherwise, this is what is waited for, -/
  failure : ∀ ⦃t⦄, end? = some (.phase t) → t.phase ≠ .complete → ∀ ⦃handle⦄, s.Holds handle n →
    (s.wait handle).1 = .failed (.buildFailed p.watch.build t.phase (message t))
  /-- and if the watches were ended before, that they were. -/
  dropped : end? = some .dropped → ∀ ⦃handle⦄, s.Holds handle n →
    (s.wait handle).1 = .failed (.watchClosed p.watch.selector p.watch.build)
  /-- The watch is open just as long as nothing has ended the waiting. -/
  isOpen_iff : s.platform.IsOpen p.watch.watch ↔ end? = none

/-- Only how often the pod was created matters. -/
theorem Launched.Outcome.of_count_eq {id : AppId} {p : PendingTask} {n : Nat}
    {end? : Option Ending} {work work' : List Operation} {s : Session Cluster}
    (h : Outcome id p n end? work s)
    (hw : work'.count (.create .pod id.text) = work.count (.create .pod id.text)) :
    Outcome id p n end? work' s :=
  { h with
    created_le := hw ▸ h.created_le
    created_iff := hw ▸ h.created_iff }

namespace Session

variable {s : Session Cluster} {n : Nat} {p : PendingTask} {end? : Option Ending}
  {work : List Operation}

theorem Waiting.isOpen (h : s.Waiting n p) : s.platform.IsOpen p.watch.watch := by
  obtain ⟨⟨w, hw, -, hopen, hsource, -⟩, -⟩ := h.listening
  exact ⟨w, hw, hsource, hopen⟩

theorem not_isOpen_of_closed {q : Cluster} {id : WatchId .build} (h : Closed id q) :
    ¬ q.IsOpen id := by
  rintro ⟨w, hw, -, hopen⟩
  obtain ⟨w', hw', hclosed⟩ := h
  obtain rfl : w = w' := Option.some.inj (hw.symm.trans hw')
  rw [hopen] at hclosed
  cases hclosed

/-- The course of a task tells what has come of it. -/
theorem Course.outcome (h : s.Course n p work end?) :
    Launched.Outcome p.order.id p n end? work s := by
  cases h with
  | waiting hwaiting hwork =>
    refine ⟨?_, ?_, fun _ ht => ?_, fun _ ht => ?_, fun ht => ?_, ?_⟩
    · rw [hwork]
      exact Nat.zero_le 1
    · rw [hwork]
      constructor
      · intro hcount
        cases hcount
      · rintro ⟨t, ht, -⟩
        cases ht
    · cases ht
    · cases ht
    · cases ht
    · exact ⟨fun _ => rfl, fun _ => hwaiting.isOpen⟩
  | @fared x hfared =>
    obtain ⟨f, hended, hf, hfate⟩ := hfared
    have hclosed : s.platform.IsOpen p.watch.watch ↔ some x = none := by
      rw [← hf]
      exact ⟨fun hopen => absurd hopen (not_isOpen_of_closed hended.closed), fun hx => nomatch hx⟩
    have hwait : ∀ {result handle}, f.progress = .finished result → s.Holds handle n →
        (s.wait handle).1 = replyToWait result := fun hprogress hholds => by
      rw [wait_of_holds hholds, resultOf?_eq_some hended.follower hprogress]
    refine ⟨hfate.le_one, hfate.eq_one_iff.trans ?_, fun t ht hc => ?_,
      fun t ht hc handle hholds => ?_, fun ht handle hholds => ?_, hclosed⟩
    · simp only [Option.some.injEq]
    · cases ht
      obtain ⟨pod, hprogress, hpod⟩ := hfate.of_complete hc
      refine ⟨⟨pod, resultOf?_eq_some hended.follower hprogress, hpod⟩, fun handle hholds => ?_⟩
      rw [hwait hprogress hholds]
      exact congrArg Reply.state (stateOfPod_of_unstamped hpod)
    · cases ht
      rw [hwait (hfate.of_failure hc) hholds, message_eq]
      rfl
    · cases ht
      rw [hwait hfate.of_dropped hholds]
      rfl

end Session

/-! ## Runs -/

variable {before after : List Event} {d : Deployer} {r : Request} {handle : String} {l : Launched}
  {p : PendingTask}

open Session

/-- What comes of a launch that waits for a build in every managed run: the handle that is kept
    leads to a follower of the task, and its outcome is told by what ended its waiting first. All
    that the launch and the turns of the follower record counts as work for it. -/
theorem Launched.outcome_ofRun
    (hm : ∀ e ∈ before ++ .step d (.launch r handle) :: after, e.IsManaged)
    (hl : ((ofRun before).step d (.launch r handle)).1 = .launched l) (hp : l.pending = some p) :
    ∃ n, (ofRun (before ++ [.step d (.launch r handle)])).launches.get? handle =
        some { state := .building p.watch.build .watch, follower := some n } ∧
      TaskOrder.ofRequest d.config r = .ok p.order ∧
      p.imageStreamTag = BuildPlan.outputTag d.config r r.appId ∧
      Outcome r.appId p n
        (firstEnding? n p.watch.build (ofRun (before ++ [.step d (.launch r handle)])) after)
        ((Event.step d (.launch r handle)).ownWork (ofRun before) ++
          workOf n (ofRun before) (.step d (.launch r handle) :: after))
        (ofRun (before ++ .step d (.launch r handle) :: after)) := by
  have hbefore : ∀ e ∈ before, e.IsManaged := fun e he => hm e (List.mem_append_left _ he)
  have hafter : ∀ e ∈ after, e.IsManaged := fun e he =>
    hm e (List.mem_append_right _ (.tail _ he))
  obtain ⟨hawaits, hhandle, hcourse⟩ :=
    waiting_of_launch (sound_ofRun hbefore) (numbered_ofRun hbefore) hl hp
  rw [hawaits.state_eq] at hhandle
  refine ⟨(ofRun before).followers.length, ?_, hawaits.order_eq, hawaits.tag_eq, ?_⟩
  · rw [ofRun_concat]
    exact hhandle
  · obtain ⟨hid, -⟩ := TaskOrder.ofRequest_eq_ok hawaits.order_eq
    cases hcourse with
    | waiting hwaiting hturn =>
      have houtcome := (hwaiting.after hafter).outcome
      rw [hid] at houtcome
      rw [ofRun_concat, ofRun_append, workOf, hturn, List.nil_append]
      refine houtcome.of_count_eq ?_
      rw [List.count_append, Event.ownWork, Event.begun?]
      dsimp only
      rw [hawaits.records.count_drop, Nat.zero_add]

/-! ## A launch whose build completes, and one whose watch ends before -/

/-- Launches `ticker`, which has no build yet. -/
def launchTicker : Event := .step (Deployer.ofContent []) (.launch (.ticker []) "task")

/-- The build of `ticker` runs while `ticker` is deployed too, and completes. What happens then
    comes too late. -/
def tickerCompletes : List Event := [.act (.setBuildPhase "ticker-1" .running none),
  .step (Deployer.ofContent []) (.deploy (.ticker [])),
  .act (.setBuildPhase "ticker-1" .complete (some "registry/ticker:1")), .act .dropWatches,
  .act (.setBuildPhase "ticker-1" .failed none)]

/-- The build that a launch waits for. -/
def Reply.awaited? : Reply → Option String
  | launched l => l.pending.map (·.watch.build)
  | _ => none

theorem Reply.awaited?_eq_some {reply : Reply} {build : String} (h : reply.awaited? = some build) :
    ∃ l p, reply = .launched l ∧ l.pending = some p ∧ p.watch.build = build := by
  unfold awaited? at h
  split at h
  next l =>
    obtain ⟨p, hp, hbuild⟩ := Option.map_eq_some_iff.1 h
    exact ⟨l, p, rfl, hp, hbuild⟩
  · cases h

theorem awaited?_launchTicker :
    ((ofRun []).step (Deployer.ofContent []) (.launch (.ticker []) "task")).1.awaited? =
      some "ticker-1" := by
  decide +kernel

/-- The last phase of a build, and the image that it told. -/
def Ending.image? : Ending → Option (BuildPhase × String)
  | phase t => t.outputImage?.map fun image => (t.phase, image)
  | _ => none

theorem Ending.image?_eq_some {end? : Option Ending} {phase : BuildPhase} {image : String}
    (h : end?.bind image? = some (phase, image)) :
    ∃ t, end? = some (.phase t) ∧ t.phase = phase ∧ ∀ tag, t.builtImage tag = image := by
  obtain ⟨x, rfl, hx⟩ := Option.bind_eq_some_iff.1 h
  unfold image? at hx
  split at hx
  next t =>
    obtain ⟨image, himage, he⟩ := Option.map_eq_some_iff.1 hx
    cases he
    refine ⟨t, rfl, rfl, fun tag => ?_⟩
    rw [Resource.builtImage, himage]
    rfl
  · cases hx

theorem Launched.outcome_ofRun_tickerCompletes : ∃ l p,
    ((ofRun []).step (Deployer.ofContent []) (.launch (.ticker []) "task")).1 = .launched l ∧
      l.pending = some p ∧ p.watch.build = "ticker-1" ∧
      ((ofRun (launchTicker :: tickerCompletes)).wait "task").1 =
        .state (.deployed "registry/ticker:1") := by
  obtain ⟨l, p, hl, hp, hbuild⟩ := Reply.awaited?_eq_some awaited?_launchTicker
  have hm : ∀ e ∈ [] ++ launchTicker :: tickerCompletes, e.IsManaged := by
    simp [launchTicker, tickerCompletes, Event.IsManaged]
  obtain ⟨n, hn, -, -, houtcome⟩ := outcome_ofRun hm hl hp
  have hfirst : (ofRun [launchTicker]).Holds "task" 0 := by decide +kernel
  have hsame : (ofRun [launchTicker]).Holds "task" n := holds_of_get? hn rfl
  obtain rfl : n = 0 := Option.some.inj (hsame.symm.trans hfirst)
  have hend : (firstEnding? 0 "ticker-1" (ofRun [launchTicker]) tickerCompletes).bind
      Ending.image? = some (.complete, "registry/ticker:1") := by
    decide +kernel
  have hlast : (ofRun (launchTicker :: tickerCompletes)).Holds "task" 0 := by decide +kernel
  obtain ⟨t, ht, hphase, himage⟩ := Ending.image?_eq_some hend
  rw [← hbuild] at ht
  refine ⟨l, p, hl, hp, hbuild, ?_⟩
  rw [← himage p.imageStreamTag]
  exact (houtcome.complete ht hphase).2 hlast

/-- The watches are ended while the build of `ticker` is new, and then it fails. -/
def tickerFailsUnseen : List Event :=
  [.act .dropWatches, .act (.setBuildPhase "ticker-1" .failed none)]

/-- What a reply tells that went wrong. -/
def Reply.failure? : Reply → Option Failure
  | failed f => some f
  | _ => none

/-- A build that is waited for fails, which is the first phase that ends it, and waiting does not
    tell so: the watch was ended before. -/
theorem watchClosed_tickerFailsUnseen :
    ((ofRun []).step (Deployer.ofContent []) (.launch (.ticker []) "task")).1.awaited? =
        some "ticker-1" ∧
      ((ofRun [launchTicker, .act .dropWatches]).platform.find? .build "ticker-1").map
        Resource.phase = some .new ∧
      ((ofRun (launchTicker :: tickerFailsUnseen)).platform.find? .build "ticker-1").map
        Resource.phase = some .failed ∧
      ((ofRun (launchTicker :: tickerFailsUnseen)).wait "task").1.failure? =
        some (.watchClosed "ph.io/app-id=ticker" "ticker-1") := by
  refine ⟨awaited?_launchTicker, ?_, ?_, ?_⟩
  · decide +kernel
  · decide +kernel
  · decide +kernel

end Slipway

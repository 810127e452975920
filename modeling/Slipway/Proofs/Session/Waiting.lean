import Slipway.Proofs.BuildWatch.Listening
import Slipway.Proofs.Session.Turns

/-
  The follower of a task that waits for a build. It listens on a watch of its own until its waiting
  ends (`Poised.take`, `Poised.settle`). If its build has taken its last phase, or the watch was
  ended, it comes to its end in its turn (`Poised.settle_of_phase`, `Poised.settle_of_dropped`); if
  it is detached, it is closed at once (`Poised.ended_of_detach`). Its watch is closed then, what
  comes of the task is its fate, and nothing changes it any more (`Ended.apply`).
-/

namespace Slipway

open Cluster BuildWatch

/-! ## Fates -/

/-- What ends the waiting for a build. -/
inductive Ending where
  /-- The build took a phase that is its last; it is given as it was stored then. -/
  | phase (t : Build)
  | detached
  | dropped

/-- What comes of a task that waits, by what ends its waiting: how its follower ends, and how often
    it creates the pod. -/
inductive Fate (p : PendingTask) : Ending → Progress Yield → Nat → Prop
  | complete {t : Build} {pod : Pod} (ht : t.phase = .complete)
    (hpod : pod.unstamped = (Bundle.taskPod p.order.id p.order.labels
      (t.builtImage p.imageStreamTag) p.order.environment p.order.settings).stored.unstamped) :
    Fate p (.phase t) (.finished (.ok (.pod pod))) 1
  | failure {t : Build} (ht : t.phase ≠ .complete) :
    Fate p (.phase t) (.finished (.error (failureOf p.watch.build t))) 0
  | detached : Fate p .detached .closed 0
  | dropped :
    Fate p .dropped (.finished (.error (.watchClosed p.watch.selector p.watch.build))) 0

/-- A follower can do nothing more. -/
def Progress.IsOver {α : Type} : Progress α → Prop
  | following | stuck => False
  | closed | finished _ => True

namespace Fate

variable {p : PendingTask} {x : Ending} {t : Build} {progress : Progress Yield} {k : Nat}

theorem isOver (h : Fate p x progress k) : progress.IsOver := by
  cases h <;> trivial

theorem le_one (h : Fate p x progress k) : k ≤ 1 := by
  cases h <;> decide

theorem eq_one_iff (h : Fate p x progress k) :
    k = 1 ↔ ∃ t, x = .phase t ∧ t.phase = .complete := by
  cases h with
  | @complete t pod ht hpod => exact ⟨fun _ => ⟨t, rfl, ht⟩, fun _ => rfl⟩
  | failure ht =>
    refine iff_of_false Nat.zero_ne_one ?_
    rintro ⟨_, ⟨⟩, hc⟩
    exact absurd hc ht
  | detached =>
    refine iff_of_false Nat.zero_ne_one ?_
    rintro ⟨_, ⟨⟩, -⟩
  | dropped =>
    refine iff_of_false Nat.zero_ne_one ?_
    rintro ⟨_, ⟨⟩, -⟩

theorem of_complete (h : Fate p (.phase t) progress k) (ht : t.phase = .complete) :
    ∃ pod, progress = .finished (.ok (.pod pod)) ∧
      pod.unstamped = (Bundle.taskPod p.order.id p.order.labels
        (t.builtImage p.imageStreamTag) p.order.environment p.order.settings).stored.unstamped := by
  cases h with
  | complete _ hpod => exact ⟨_, rfl, hpod⟩
  | failure hc => exact absurd ht hc

theorem of_failure (h : Fate p (.phase t) progress k) (ht : t.phase ≠ .complete) :
    progress = .finished (.error (failureOf p.watch.build t)) := by
  cases h with
  | complete hc _ => exact absurd hc ht
  | failure _ => rfl

theorem of_dropped (h : Fate p .dropped progress k) :
    progress = .finished (.error (.watchClosed p.watch.selector p.watch.build)) := by
  cases h
  rfl

end Fate

namespace Session

variable {s : Session Cluster} {n : Nat} {p : PendingTask} {end? : Option Build} {dropped : Bool}
  {d : Deployer} {st : Step} {f : Follower Continuation Yield}

/-! ## Followers that listen -/

/-- The follower of a task that waits. -/
def followerOf (p : PendingTask) : Follower Continuation Yield where
  watch := p.watch
  continuation := .task p

/-- The follower of a number has a task to go on with that waits, and listens on a watch that only
    the launch can close. -/
structure Poised (s : Session Cluster) (n : Nat) (p : PendingTask) (end? : Option Build)
    (dropped : Bool) : Prop where
  sound : s.Sound
  follower : s.followers[n]? = some (followerOf p)
  unwatched : ¬ s.Watches n
  listening : Listening p.watch end? dropped s.platform

/-- Different followers have different watches. -/
theorem Sound.number_ne (h : s.Sound) (hn : s.followers[n]? = some f) {m : Nat}
    {g : Follower Continuation Yield} (hm : s.followers[m]? = some g) (hmn : m ≠ n) :
    g.watch.watch.number ≠ f.watch.watch.number := by
  intro he
  have hlt : m < s.watchNumbers.length := by
    rw [watchNumbers, List.length_map]
    exact (List.getElem?_eq_some_iff.1 hm).1
  refine hmn ((List.getElem?_inj hlt (h.sorted.imp Nat.ne_of_lt)).1 ?_)
  rw [watchNumbers, List.getElem?_map, List.getElem?_map, hm, hn]
  exact congrArg some he

theorem Poised.lt_length (h : s.Poised n p end? dropped) : n < s.followers.length :=
  (List.getElem?_eq_some_iff.1 h.follower).1

/-- A step that does not stop it leaves a follower listening. -/
theorem Poised.take (h : s.Poised n p end? dropped) (hm : (Event.step d st).IsManaged)
    (hst : ¬ st.Stops s n) : (s.take d st).2.Poised n p end? dropped := by
  have hlistening : Listening p.watch end? dropped (s.take d st).2.platform := by
    refine take_keeps (kept_listening p.watch end? dropped) (only_byDeployer hm) ?_ h.listening
    intro m g hstops hg
    exact h.sound.number_ne h.follower hg fun hmn => hst (hmn ▸ hstops)
  refine ⟨h.sound.take hm, ?_, ?_, hlistening⟩
  · exact (take_follower hm h.follower).resolve_right fun hstops => hst hstops.1
  · intro hwatches
    cases take_tended hm s with
    | alone hf hw => exact h.unwatched (hw n hwatches)
    | added hf hw hle hlt =>
      rcases hw n hwatches with hn | hn
      · exact h.unwatched hn
      · exact absurd h.lt_length (hn ▸ Nat.lt_irrefl _)
    | stopped hstops hg hf hw => exact h.unwatched (hw n hwatches)

/-! ## The turn of a follower that listens -/

theorem only_task (c : Continuation) (b : Build) : (c.run b).Only Call.ByDeployer :=
  c.only_run b fun pod => only_byDeployer_reconcile (by decide) pod

theorem settleAll_keeps_byDeployer {q : Nat → Prop} {I : Cluster → Prop}
    (hI : Kept Call.ByDeployer q I) (fs : List (Follower Continuation Yield))
    (hf : ∀ f ∈ fs, q f.watch.watch.number) {s : Cluster} (hs : I s) : I (settleAll fs s).2 :=
  settleAll_keeps hI (fun pod => only_byDeployer_reconcile (by decide) pod) fs hf hs

theorem Poised.platformAt (h : s.Poised n p end? dropped) :
    Listening p.watch end? dropped (s.platformAt n) ∧ (s.platformAt n).PodsSound := by
  constructor
  · refine settleAll_keeps_byDeployer (kept_listening _ _ _) _ (fun g hg => ?_) h.listening
    obtain ⟨m, hm⟩ := List.mem_iff_getElem?.1 hg
    rw [List.getElem?_take] at hm
    split at hm
    next hlt => exact h.sound.number_ne h.follower hm (Nat.ne_of_lt hlt)
    · cases hm
  · exact settleAll_keeps_byDeployer kept_podsSound _ (fun _ _ => trivial) h.sound.podsSound

/-- While nothing decides, a follower listens on, and its turn leaves no record. -/
theorem Poised.settle (h : s.Poised n p none false) :
    s.settle.Poised n p none false ∧ s.turnOf n = [] := by
  have hn := h.follower
  obtain ⟨s', hadvance, huntouched, hlistening⟩ :=
    Follower.advance_of_listening Continuation.run (f := followerOf p) rfl h.platformAt.1
  obtain ⟨hfollower, hplatform⟩ := settle_of_turn hn
  rw [hadvance] at hfollower hplatform
  refine ⟨⟨h.sound.settle, hfollower, h.unwatched, ?_⟩, ?_⟩
  · rw [hplatform]
    refine settleAll_keeps_byDeployer (kept_listening _ _ _) _ (fun g hg => ?_) hlistening
    obtain ⟨m, hm⟩ := List.mem_iff_getElem?.1 hg
    rw [List.getElem?_drop] at hm
    have hne : n + 1 + m ≠ n := by omega
    exact h.sound.number_ne hn hm hne
  · unfold turnOf
    rw [hn]
    dsimp only
    rw [hadvance, huntouched.log_eq, List.drop_length]

/-! ## Followers that have ended -/

/-- The follower of a number has come to its end, and its watch is closed. -/
structure Ended (s : Session Cluster) (n : Nat) (f : Follower Continuation Yield) : Prop where
  follower : s.followers[n]? = some f
  isOver : f.progress.IsOver
  closed : Closed f.watch.watch s.platform

theorem close_of_isOver (h : f.progress.IsOver) (s : Cluster) : f.close s = (f, s) := by
  unfold Follower.close
  split
  next hf => exact (hf ▸ h).elim
  next hf => exact (hf ▸ h).elim
  · rfl

theorem advance_of_isOver (h : f.progress.IsOver) (s : Cluster) :
    f.advance Continuation.run s = (f, s) :=
  Follower.advance_of_not_following (fun hf => (hf ▸ h).elim) s

theorem Ended.take (h : s.Ended n f) (hm : (Event.step d st).IsManaged) :
    (s.take d st).2.Ended n f := by
  refine ⟨?_, h.isOver, take_keeps (kept_closed _) (only_byDeployer hm)
    (fun _ _ _ _ => trivial) h.closed⟩
  rcases take_follower hm h.follower with hn | ⟨-, hn⟩
  · exact hn
  · rw [hn, close_of_isOver h.isOver]

theorem Ended.settle (h : s.Ended n f) : s.settle.Ended n f ∧ s.turnOf n = [] := by
  have hadvance := advance_of_isOver h.isOver (s.platformAt n)
  obtain ⟨hfollower, -⟩ := settle_of_turn h.follower
  rw [hadvance] at hfollower
  refine ⟨⟨hfollower, h.isOver, ?_⟩, ?_⟩
  · exact settleAll_keeps_byDeployer (kept_closed _) _ (fun _ _ => trivial) h.closed
  · unfold turnOf
    rw [h.follower]
    dsimp only
    rw [hadvance, List.drop_length]

/-- What has ended stays as it is, and nothing more is done for it. -/
theorem Ended.apply (h : s.Ended n f) {e : Event} (hm : e.IsManaged) :
    (e.apply s).Ended n f ∧ e.turnOf n s = [] := by
  cases e with
  | step d st => exact (h.take hm).settle
  | act a =>
    rw [Event.apply_eq, Event.turnOf, Event.begun?]
    rcases ha : s.platform.act a with _ | q
    · exact ⟨h, rfl⟩
    · have hq : Ended { s with platform := q } n f :=
        ⟨h.follower, h.isOver, h.closed.of_acted (act_acted hm ha)⟩
      exact hq.settle

/-! ## How a follower comes to its end -/

/-- A follower has ended as its fate is by what ended its waiting, and recorded some operations. -/
def Fared (s : Session Cluster) (n : Nat) (p : PendingTask) (x : Ending)
    (work : List Operation) : Prop :=
  ∃ f, s.Ended n f ∧ f.watch = p.watch ∧
    Fate p x f.progress (work.count (.create .pod p.order.id.text))

/-- A follower that ends in its turn has ended, and its record is what the turn adds. -/
theorem Poised.fared (h : s.Poised n p end? dropped) {x : Ending} {q : Cluster}
    {progress : Progress Yield} {k m : Nat}
    (hadvance : (followerOf p).advance Continuation.run (s.platformAt n) =
      ({ followerOf p with fired := k, progress }, q))
    (hclosed : Closed p.watch.watch q)
    (hrecords : Records (.create .pod p.order.id.text) m (s.platformAt n) q)
    (hfate : Fate p x progress m) : s.settle.Fared n p x (s.turnOf n) := by
  have hn := h.follower
  obtain ⟨hfollower, hplatform⟩ := settle_of_turn hn
  rw [hadvance] at hfollower hplatform
  refine ⟨_, ⟨hfollower, hfate.isOver, ?_⟩, rfl, ?_⟩
  · rw [hplatform]
    exact settleAll_keeps_byDeployer (kept_closed _) _ (fun _ _ => trivial) hclosed
  · unfold turnOf
    rw [hn]
    dsimp only
    rw [hadvance, hrecords.count_drop]
    exact hfate

/-- Where the build of a task is complete, the pod is created with its image. -/
theorem afterBuild_of_podsSound {q : Cluster} (hq : q.PodsSound) (p : PendingTask) (t : Build) :
    ∃ pod q', ((followerOf p).continuation.run t).run q = (some (.ok (.pod pod)), q') ∧
      pod.unstamped = (Bundle.taskPod p.order.id p.order.labels (t.builtImage p.imageStreamTag)
        p.order.environment p.order.settings).stored.unstamped ∧
      Records (.create .pod p.order.id.text) 1 q q' := by
  obtain ⟨pod, q', hpod, hunstamped, hrecords⟩ :=
    p.order.createPod_of_podsSound hq (t.builtImage p.imageStreamTag)
  refine ⟨pod, q', ?_, hunstamped, hrecords⟩
  exact run_eq_some_iff.2 (perform_bind_eq_ok.2 ⟨pod, q', hpod, rfl⟩)

theorem Poised.settle_of_phase {t : Build} (h : s.Poised n p (some t) dropped) :
    s.settle.Fared n p (.phase t) (s.turnOf n) := by
  obtain ⟨hlistening, hpods⟩ := h.platformAt
  by_cases ht : t.phase = .complete
  · obtain ⟨q, huntouched, hclosed, hadvance⟩ :=
      Follower.advance_of_complete Continuation.run (f := followerOf p) rfl hlistening ht
    obtain ⟨pod, q', hrun, hpod, hrecords⟩ := afterBuild_of_podsSound
      (hpods.congr (by rw [huntouched.objects_eq])) p t
    rw [hrun] at hadvance
    refine h.fared hadvance ?_ ?_ (.complete ht hpod)
    · have hkeeps := (only_task (followerOf p).continuation t).keeps
        (kept_closed p.watch.watch).answer hclosed
      rwa [hrun] at hkeeps
    · exact (records_of_log_eq huntouched.log_eq).trans hrecords
  · obtain ⟨q, hadvance, huntouched, hclosed⟩ :=
      Follower.advance_of_failure Continuation.run (f := followerOf p) rfl hlistening ht
    exact h.fared hadvance hclosed (records_of_log_eq huntouched.log_eq) (.failure ht)

theorem Poised.settle_of_dropped (h : s.Poised n p none true) :
    s.settle.Fared n p .dropped (s.turnOf n) := by
  obtain ⟨q, hadvance, huntouched, hclosed⟩ :=
    Follower.advance_of_dropped Continuation.run (f := followerOf p) rfl h.platformAt.1
  exact h.fared hadvance hclosed (records_of_log_eq huntouched.log_eq) .dropped

/-- A follower that is detached is closed at once. -/
theorem Poised.ended_of_detach (h : s.Poised n p end? dropped) {handle : String}
    {l : LaunchHandle} (hl : s.launches.get? handle = some l) (hn : l.follower = some n)
    (hw : l.waitedFor = false) :
    (s.take d (.detach handle)).2.Ended n { followerOf p with progress := .closed } := by
  obtain ⟨⟨sub, hsub, -⟩, -⟩ := h.listening
  have hdetach : (s.take d (.detach handle)).2 =
      closeFollower { s with launches := s.launches.erase handle } n := by
    show (s.detach handle).2 = _
    unfold detach
    rw [hl]
    dsimp only
    rw [hw, hn]
    rfl
  have hclose : closeFollower { s with launches := s.launches.erase handle } n =
      { s with
        platform := close p.watch.watch s.platform
        followers := s.followers.set n { followerOf p with progress := .closed }
        launches := s.launches.erase handle } := by
    unfold closeFollower
    dsimp only
    rw [h.follower]
    rfl
  rw [hdetach, hclose]
  exact ⟨List.getElem?_set_self h.lt_length, trivial, closed_close hsub⟩

end Session

end Slipway

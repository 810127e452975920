import Slipway.Proofs.Cluster.Pods
import Slipway.Proofs.Deploy.Order
import Slipway.Proofs.Pipeline.Calls
import Slipway.Proofs.Session.Runs

/-
  The followers and the watches of a managed session. Steps make only the calls of a deployer
  (`only_byDeployer`). They leave the followers alone but for one that they add, with a watch of its
  own that is newly opened, or one that they stop (`take_tended`), so that a follower is kept as it
  is or closed (`take_follower`).
-/

namespace Slipway

open Cluster

variable {d : Deployer} {st : Step}

/-! ## Calls -/

theorem Call.Builds.byDeployer {c : Call} (h : c.Builds) : c.ByDeployer := by
  have hne : ∀ k : Kind, k = .imageStream ∨ k = .buildConfig → k ≠ .build ∧ k ≠ .pod := by
    rintro k (rfl | rfl) <;> decide
  cases c with
  | get | list | instantiateBuild | submitBinaryBuild => trivial
  | watch | rollout => exact h.elim
  | create k r => exact (hne k h).1
  | delete k name => exact (hne k h).1
  | awaitDeleted k name uid => exact (hne k h).1
  | replace k name r => exact ⟨(hne k h).1, fun hk => absurd hk (hne k h).2⟩

theorem only_byDeployer_reconcile {k : Kind} (hk : k ≠ .build) (x : Resource k) :
    (Reconcile.reconcile x).Only Call.ByDeployer :=
  Reconcile.only_reconcile_of (fun _ => trivial) (fun _ => hk) (fun _ _ => hk) hk
    fun _ => ⟨hk, fun _ => rfl⟩

theorem only_byDeployer_prepare (d : Deployer) (r : Request) (id : AppId) (labels : Attributes) :
    (d.prepare r id labels).Only Call.ByDeployer :=
  Deployer.only_prepare (fun _ hc => hc.byDeployer) id labels

/-- A step of a managed run makes only the calls of a deployer. -/
theorem only_byDeployer (hm : (Event.step d st).IsManaged) : st.Only d Call.ByDeployer := by
  cases st with
  | reconcile | call => exact hm.elim
  | deploy r =>
    show (d.deploy r).Only _
    rw [Deployer.deploy_eq]
    refine Action.only_bind (Action.only_ofResult _) fun order => ?_
    refine Action.only_bind (only_byDeployer_prepare d _ _ _) fun prepared => ?_
    exact Deployer.only_runInstances (only_byDeployer_reconcile (by decide))
      (only_byDeployer_reconcile (by decide)) (fun _ => trivial)
      fun _ _ _ _ => only_byDeployer_reconcile (by decide) _
  | prepare r id mode => exact only_byDeployer_prepare d _ _ _
  | launch r handle =>
    show (d.launch r).Only _
    rw [Deployer.launch_eq]
    refine Action.only_bind (Action.only_ofResult _) fun order => ?_
    exact Action.only_bind (only_byDeployer_prepare d _ _ _) fun prepared =>
      Deployer.only_runTask order prepared (only_byDeployer_reconcile (by decide))
        fun _ _ => trivial
  | undeploy id =>
    refine Deployer.only_undeploy id (fun _ _ => trivial) fun k name hk => ?_
    rcases hk with rfl | rfl | rfl <;> exact fun h => nomatch h
  | cancel id => exact Deployer.only_deleteIfPresent _ fun h => nomatch h
  | status id => exact Deployer.only_status id fun _ _ => trivial
  | taskStatus id => exact Deployer.only_taskStatus id (fun _ => trivial) fun _ _ => trivial
  | wait | detach | watch | watchState | watchClose | watchCompletion | watchEvents => trivial

/-! ## Launches and watches -/

theorem kept_watchCount (n : Nat) :
    Kept (σ := Cluster) Call.ByDeployer (fun _ => True) fun s => n ≤ s.watchCount where
  answer _ s hc h := Nat.le_trans h (heard_answer hc s).watchCount_le
  opened _ _ _ _ _ _ := trivial
  poll id s _ h := Nat.le_trans h (Nat.le_of_eq (watchCount_poll s id).symm)
  close _ _ _ h := h

namespace Deployer

variable {s s' : Cluster} {r : Request} {l : Launched} {p : PendingTask}

/-- A launch that waits for a build prepared an image for which it does, and opened a watch for this
    build then. -/
theorem launch_eq_ok (h : s.perform (d.launch r) = (.ok l, s')) (hp : l.pending = some p) :
    ∃ b s₁, s.perform (d.prepare r r.appId (Labels.base r.appId r)) =
        (.ok (.submitted b p.imageStreamTag), s₁) ∧
      TaskOrder.ofRequest d.config r = .ok p.order ∧ l.state = .building b.name .watch ∧
      p.watch = ⟨⟨s₁.watchCount⟩, Labels.appSelector r.appId, b.name⟩ ∧
      s' = (s₁.watch .build (Labels.appSelector r.appId)).2 := by
  rw [launch_eq] at h
  obtain ⟨order, s₀, horder, hprepare⟩ := perform_bind_eq_ok.1 h
  obtain ⟨ho, rfl⟩ := Prod.mk.inj horder
  obtain ⟨hid, hlabels⟩ := TaskOrder.ofRequest_eq_ok ho
  obtain ⟨prepared, s₁, hprepared, hrun⟩ := perform_bind_eq_ok.1 hprepare
  rw [hid, hlabels] at hprepared
  cases prepared with
  | submitted b tag =>
    obtain ⟨w, s₂, hw, hpure⟩ := perform_bind_eq_ok.1 hrun
    cases hw
    cases hpure
    cases hp
    refine ⟨b, s₁, hprepared, ho, rfl, ?_, ?_⟩
    · rw [hid]
    · rw [hid]
      rfl
  | reused build image =>
    obtain ⟨pod, s₂, -, hpure⟩ := perform_bind_eq_ok.1 hrun
    cases hpure
    cases hp
  | noBuild image =>
    obtain ⟨pod, s₂, -, hpure⟩ := perform_bind_eq_ok.1 hrun
    cases hpure
    cases hp

end Deployer

/-! ## What a step does to the followers -/

namespace Session

variable {σ : Type} [Platform σ] {s s' : Session σ} {n : Nat}

omit [Platform σ] in
/-- The handle of a watch leads to the follower of a number. -/
def Watches (s : Session σ) (n : Nat) : Prop :=
  ∃ handle h, s.watches.get? handle = some h ∧ h.follower = n

omit [Platform σ] in
theorem Watches.of_insert {handle : String} {h : WatchHandle}
    (hw : s'.watches = s.watches.insert handle h) (hn : s'.Watches n) :
    s.Watches n ∨ n = h.follower := by
  obtain ⟨name, h', hh', rfl⟩ := hn
  rw [hw, Dict.get?_insert] at hh'
  split at hh'
  · cases hh'
    exact .inr rfl
  · exact .inl ⟨name, h', hh', rfl⟩

/-- The numbers of the watches that the followers have. -/
def watchNumbers (s : Session σ) : List Nat := s.followers.map (·.watch.watch.number)

/-- What a step does to the followers by itself: it leaves them alone, adds one with a watch that is
    newly opened, or stops one. -/
inductive Tended (st : Step) (s s' : Session Cluster) : Prop
  | alone (hf : s'.followers = s.followers) (hw : ∀ n, s'.Watches n → s.Watches n)
  | added {f : Follower Continuation Yield} (hf : s'.followers = s.followers ++ [f])
    (hw : ∀ n, s'.Watches n → s.Watches n ∨ n = s.followers.length)
    (hle : s.platform.watchCount ≤ f.watch.watch.number)
    (hlt : f.watch.watch.number < s'.platform.watchCount)
  | stopped {n : Nat} {f : Follower Continuation Yield} (hst : st.Stops s n)
    (hn : s.followers[n]? = some f)
    (hf : s'.followers = s.followers.set n (f.close s.platform).1)
    (hw : ∀ n, s'.Watches n → s.Watches n)

theorem watches_closeFollower (s : Session σ) (n : Nat) :
    (s.closeFollower n).watches = s.watches := by
  unfold closeFollower
  split <;> rfl

theorem followers_closeFollower (s : Session σ) (n : Nat) :
    (s.closeFollower n).followers = match s.followers[n]? with
      | none => s.followers
      | some f => s.followers.set n (f.close s.platform).1 := by
  unfold closeFollower
  rcases s.followers[n]? with _ | f <;> rfl

theorem Tended.of_stops {st : Step} {s s' : Session Cluster} (hst : st.Stops s n)
    (hf : s'.followers = match s.followers[n]? with
      | none => s.followers
      | some f => s.followers.set n (f.close s.platform).1)
    (hw : ∀ m, s'.Watches m → s.Watches m) : Tended st s s' := by
  split at hf
  · exact .alone hf hw
  next f hn => exact .stopped hst hn hf hw

theorem launch_tended (d : Deployer) (r : Request) (handle : String) (s : Session Cluster) :
    Tended (.launch r handle) s (s.launch d r handle).2 := by
  unfold launch
  rw [run_eq_perform]
  rcases hl : s.platform.perform (d.launch r) with ⟨e | l, q⟩
  · exact .alone rfl fun _ h => h
  dsimp only
  rcases hp : l.pending with _ | p
  · exact .alone rfl fun _ h => h
  · obtain ⟨b, s₁, hprepare, -, -, hw, rfl⟩ := Deployer.launch_eq_ok hl hp
    have hle : s.platform.watchCount ≤ s₁.watchCount := by
      have h := Cluster.perform_keeps (kept_watchCount s.platform.watchCount).answer
        (only_byDeployer_prepare d r r.appId (Labels.base r.appId r)) (Nat.le_refl _)
      rwa [hprepare] at h
    refine .added rfl (fun _ h => .inl h) ?_ ?_
    · rw [hw]
      exact hle
    · rw [hw]
      exact Nat.lt_succ_self _

theorem watch_tended (selector build : String) (c : Continuation) (handle : String)
    (s : Session Cluster) :
    Tended (.watch selector build c handle) s (s.watch selector build c handle).2 := by
  refine .added rfl (fun _ h => ?_) (Nat.le_refl _) (Nat.lt_succ_self _)
  exact h.of_insert rfl

theorem wait_tended (handle : String) (s : Session Cluster) :
    Tended (.wait handle) s (s.wait handle).2 := by
  unfold wait
  split
  · exact .alone rfl fun _ h => h
  · split
    · exact .alone rfl fun _ h => h
    · split <;> exact .alone rfl fun _ h => h

theorem detach_tended (handle : String) (s : Session Cluster) :
    Tended (.detach handle) s (s.detach handle).2 := by
  unfold detach
  split
  · exact .alone rfl fun _ h => h
  next h hh =>
    split
    · exact .alone rfl fun _ h => h
    next hwaited =>
      dsimp only
      split
      next n hn =>
        have hst : (Step.detach handle).Stops s n := ⟨h, hh, hn, Bool.eq_false_iff.2 hwaited⟩
        refine .of_stops hst (followers_closeFollower _ n) fun m hm => ?_
        obtain ⟨name, h', hh', hf⟩ := hm
        rw [watches_closeFollower] at hh'
        exact ⟨name, h', hh', hf⟩
      · exact .alone rfl fun _ h => h

omit [Platform σ] in
/-- A handle of a watch that is changed leads where it led before. -/
theorem Watches.of_replaced {handle : String} {h h' : WatchHandle} (hn : s'.Watches n)
    (hw : s'.watches = s.watches.insert handle h') (hh : s.watches.get? handle = some h)
    (hf : h.follower = h'.follower) : s.Watches n := by
  rcases hn.of_insert hw with hn | rfl
  · exact hn
  · exact ⟨handle, h, hh, hf⟩

theorem watchClose_tended (handle : String) (s : Session Cluster) :
    Tended (.watchClose handle) s (s.watchClose handle).2 := by
  unfold watchClose
  split
  · exact .alone rfl fun _ h => h
  next h hh =>
    split
    · have hst : (Step.watchClose handle).Stops s h.follower := ⟨h, hh, rfl⟩
      have hw := congrArg (·.insert handle { h with isHeld := false })
        (watches_closeFollower s h.follower)
      exact .of_stops hst (followers_closeFollower s _) fun m hm => hm.of_replaced hw hh rfl
    · exact .alone rfl fun _ h => h

theorem watchCompletion_tended (handle : String) (s : Session Cluster) :
    Tended (.watchCompletion handle) s (s.watchCompletion handle).2 := by
  unfold watchCompletion
  split
  · exact .alone rfl fun _ h => h
  next h hh =>
    split
    · exact .alone rfl fun _ h => h
    · split <;> exact .alone rfl fun m hm => hm.of_replaced rfl hh rfl

/-- A step of a managed run leaves the followers alone, adds one with a watch of its own, or stops
    one. -/
theorem take_tended (hm : (Event.step d st).IsManaged) (s : Session Cluster) :
    Tended st s (s.take d st).2 := by
  cases st with
  | reconcile | call => exact hm.elim
  | deploy | prepare | undeploy | cancel | status | taskStatus | watchState =>
    exact .alone rfl fun _ h => h
  | launch r handle => exact launch_tended d r handle s
  | watch selector build c handle => exact watch_tended selector build c handle s
  | wait handle => exact wait_tended handle s
  | detach handle => exact detach_tended handle s
  | watchClose handle => exact watchClose_tended handle s
  | watchCompletion handle => exact watchCompletion_tended handle s
  | watchEvents k selector count =>
    show Tended _ s (s.watchEvents k selector count).2
    exact .alone rfl fun _ h => h

/-- A follower is kept as it is by a step, or the step stops it and it is closed. -/
theorem take_follower (hm : (Event.step d st).IsManaged) {s : Session Cluster} {n : Nat}
    {f : Follower Continuation Yield} (hn : s.followers[n]? = some f) :
    (s.take d st).2.followers[n]? = some f ∨
      st.Stops s n ∧ (s.take d st).2.followers[n]? = some (f.close s.platform).1 := by
  have hlt : n < s.followers.length := (List.getElem?_eq_some_iff.1 hn).1
  cases take_tended hm s with
  | alone hf hw => exact .inl (by rw [hf, hn])
  | added hf hw hle hlt' => exact .inl (by rw [hf, List.getElem?_append_left hlt, hn])
  | @stopped m g hstops hg hf hw =>
    rw [hf]
    by_cases hmn : m = n
    · subst hmn
      obtain rfl : f = g := Option.some.inj (hn.symm.trans hg)
      exact .inr ⟨hstops, List.getElem?_set_self hlt⟩
    · exact .inl (by rw [List.getElem?_set_ne hmn, hn])

end Session

end Slipway

import Slipway.Proofs.Program.Run
import Slipway.Session

/-
  What the steps of a session keep. `Kept p q I` says that a property of the platform outlasts the
  calls with `p` and the reading and closing of the watches whose numbers satisfy `q`. A step that
  makes only such calls then keeps it, unless it closes another watch (`take_keeps`), and so do the
  followers that go on after the step (`settle_keeps`), as their continuations create pods and
  nothing else (`Continuation.only_run`).
-/

namespace Slipway

variable {σ κ α : Type} [Platform σ] {p : Call → Prop} {q : Nat → Prop} {I : σ → Prop}

/-- A property of a platform that calls with `p` and the events of watches with `q` leave alone,
    all watches that are newly opened among them. -/
structure Kept (p : Call → Prop) (q : Nat → Prop) (I : σ → Prop) : Prop where
  answer : ∀ c s, p c → I s → I (Platform.answer c s).2
  opened : ∀ (k : Kind) selector s id, I s →
    (Platform.answer (.watch k selector) s).1 = some (.ok id) → q (WatchId.number (k := k) id)
  poll : ∀ {k : Kind} (id : WatchId k) s, q id.number → I s → I (Platform.poll id s).2
  close : ∀ {k : Kind} (id : WatchId k) s, q id.number → I s → I (Platform.close id s)

/-! ## Followers -/

theorem follow_keeps (hI : Kept p q I) (w : BuildWatch) (hw : q w.watch.number) (fuel : Nat)
    {s : σ} (hs : I s) : I (w.follow fuel s).2 := by
  induction fuel generalizing s with
  | zero => exact hs
  | succ fuel ih =>
    have hp := hI.poll w.watch s hw hs
    unfold BuildWatch.follow
    split
    next heq => rwa [heq] at hp
    next heq =>
      rw [heq] at hp
      exact hI.close _ _ hw hp
    next heq =>
      rw [heq] at hp
      split
      · exact ih hp
      · exact hI.close _ _ hw hp
      · exact hI.close _ _ hw hp

theorem advance_keeps (hI : Kept p q I) {run : κ → Build → Action α} (f : Follower κ α)
    (hf : q f.watch.watch.number) (hrun : ∀ b, (run f.continuation b).Only p) {s : σ} (hs : I s) :
    I (f.advance run s).2 := by
  have hf := follow_keeps hI f.watch hf (Platform.backlog s + 1) hs
  unfold Follower.advance
  split
  · split
    next heq => rwa [heq] at hf
    next heq => rwa [heq] at hf
    next b s₁ heq =>
      rw [heq] at hf
      have hr := (hrun b).keeps hI.answer hf
      dsimp only
      split
      next heq' => rwa [heq'] at hr
      next heq' => rwa [heq'] at hr
  · exact hs

theorem close_keeps (hI : Kept p q I) (f : Follower κ α) (hf : q f.watch.watch.number) {s : σ}
    (hs : I s) : I (f.close s).2 := by
  unfold Follower.close
  split
  · exact hI.close _ _ hf hs
  · exact hs
  · exact hs

/-- What follows a build creates a pod or makes no call at all. -/
theorem Continuation.only_run (c : Continuation) (b : Build)
    (hpod : ∀ pod : Pod, (Reconcile.reconcile pod).Only p) : (c.run b).Only p := by
  cases c with
  | task t =>
    exact Action.only_bind (hpod _) fun _ => Action.only_pure _
  | tell expected failure =>
    cases failure with
    | none => exact Action.only_pure _
    | some text => exact Action.only_throw _

/-! ## Steps -/

/-- Every call that a step makes by itself satisfies `p`. -/
def Step.Only (d : Deployer) (p : Call → Prop) : Step → Prop
  | deploy r => (d.deploy r).Only p
  | prepare r id _ => (d.prepare r id (Labels.base id r)).Only p
  | undeploy id => (Deployer.undeploy id).Only p
  | cancel id => (Deployer.cancel id).Only p
  | status id => (Deployer.status id).Only p
  | taskStatus id => (Deployer.taskStatus id).Only p
  | launch r _ => (d.launch r).Only p
  | watch selector _ _ _ => p (.watch .build selector)
  | watchEvents k selector _ => p (.watch k selector)
  | reconcile _ object => (Reconcile.reconcile object).Only p
  | call c => p c
  | wait _ | detach _ | watchState _ | watchClose _ | watchCompletion _ => True

/-- A step stops the follower of a number, if it has not finished: a task that is not waited for is
    detached, or a watch that is held is closed. -/
def Step.Stops (s : Session σ) (n : Nat) : Step → Prop
  | detach handle => ∃ h, s.launches.get? handle = some h ∧ h.follower = some n ∧
      h.waitedFor = false
  | watchClose handle => ∃ h, s.watches.get? handle = some h ∧ h.follower = n
  | _ => False

namespace Session

variable {s : Session σ}

theorem settleAll_keeps (hI : Kept p q I) (hpod : ∀ pod : Pod, (Reconcile.reconcile pod).Only p)
    (fs : List (Follower Continuation Yield)) (hf : ∀ f ∈ fs, q f.watch.watch.number) {s : σ}
    (hs : I s) : I (settleAll fs s).2 := by
  induction fs generalizing s with
  | nil => exact hs
  | cons f fs ih =>
    refine ih (fun f' hf' => hf f' (.tail _ hf')) ?_
    exact advance_keeps hI f (hf f (.head _)) (fun b => f.continuation.only_run b hpod) hs

theorem settle_keeps (hI : Kept p q I) (hpod : ∀ pod : Pod, (Reconcile.reconcile pod).Only p)
    (hf : ∀ f ∈ s.followers, q f.watch.watch.number) (hs : I s.platform) :
    I s.settle.platform :=
  settleAll_keeps hI hpod s.followers hf hs

theorem perform_keeps (hI : Kept p q I) {a : Action α} (ha : a.Only p) (write : α → Reply)
    (hs : I s.platform) : I (s.perform a write).2.platform :=
  ha.keeps hI.answer hs

theorem closeFollower_keeps (hI : Kept p q I) (n : Nat)
    (hf : ∀ f, s.followers[n]? = some f → q f.watch.watch.number) (hs : I s.platform) :
    I (s.closeFollower n).platform := by
  unfold closeFollower
  split
  · exact hs
  next f heq => exact close_keeps hI f (hf f heq) hs

theorem launch_platform (d : Deployer) (r : Request) (handle : String) (s : Session σ) :
    (s.launch d r handle).2.platform = ((d.launch r).run s.platform).2 := by
  unfold launch
  rcases (d.launch r).run s.platform with ⟨_ | _ | l, q⟩
  · rfl
  · rfl
  · dsimp only
    cases l.pending <;> rfl

omit [Platform σ] in
theorem wait_platform (handle : String) (s : Session σ) :
    (s.wait handle).2.platform = s.platform := by
  unfold wait
  split
  · rfl
  · split
    · rfl
    · split <;> rfl

theorem detach_keeps (hI : Kept p q I) (handle : String)
    (hf : ∀ n f, (Step.detach handle).Stops s n → s.followers[n]? = some f →
      q f.watch.watch.number) (hs : I s.platform) : I (s.detach handle).2.platform := by
  unfold detach
  split
  · exact hs
  next h hh =>
    split
    · exact hs
    next hw =>
      dsimp only
      split
      next n hn =>
        refine closeFollower_keeps hI _ (fun f => hf n f ⟨h, hh, hn, ?_⟩) hs
        exact Bool.eq_false_iff.2 hw
      · exact hs

theorem watch_platform (selector build : String) (c : Continuation) (handle : String)
    (s : Session σ) : (s.watch selector build c handle).2.platform =
      ((BuildWatch.start selector build).run s.platform).2 := by
  unfold watch
  rcases (BuildWatch.start selector build).run s.platform with ⟨_ | _ | w, q⟩ <;> rfl

theorem watchClose_keeps (hI : Kept p q I) (handle : String)
    (hf : ∀ n f, (Step.watchClose handle).Stops s n → s.followers[n]? = some f →
      q f.watch.watch.number) (hs : I s.platform) : I (s.watchClose handle).2.platform := by
  unfold watchClose
  split
  · exact hs
  next h hh =>
    split
    · exact closeFollower_keeps hI _ (fun f => hf _ f ⟨h, hh, rfl⟩) hs
    · exact hs

omit [Platform σ] in
theorem watchCompletion_platform (handle : String) (s : Session σ) :
    (s.watchCompletion handle).2.platform = s.platform := by
  unfold watchCompletion
  split
  · rfl
  · split
    · rfl
    · split <;> rfl

theorem takeEvents_keeps (hI : Kept p q I) {k : Kind} (id : WatchId k) (hid : q id.number)
    (n : Nat) {s : σ} (hs : I s) : I (takeEvents id n s).2.2 := by
  induction n generalizing s with
  | zero => exact hs
  | succ n ih =>
    have hp := hI.poll id s hid hs
    unfold takeEvents
    split
    next heq =>
      rw [heq] at hp
      exact ih hp
    next heq => rwa [heq] at hp
    next heq => rwa [heq] at hp

theorem watchEvents_keeps (hI : Kept p q I) (k : Kind) (selector : String) (count : Nat)
    (h : p (.watch k selector)) (hs : I s.platform) :
    I (s.watchEvents k selector count).2.platform := by
  have ha := (Action.only_ask h).keeps hI.answer hs
  have hopened := hI.opened k selector s.platform
  rw [← Action.run_ask] at hopened
  unfold watchEvents
  split
  next result q heq =>
    rw [heq] at ha hopened
    split
    next id =>
      have hid := hopened id hs rfl
      exact hI.close _ _ hid (takeEvents_keeps hI _ hid count ha)
    · exact ha

/-- What outlasts the calls of a step outlasts the step, if it outlasts that the step stops a
    follower. -/
theorem take_keeps (hI : Kept p q I) {d : Deployer} {st : Step} (h : st.Only d p)
    (hf : ∀ n f, st.Stops s n → s.followers[n]? = some f → q f.watch.watch.number)
    (hs : I s.platform) : I (s.take d st).2.platform := by
  cases st with
  | deploy r => exact perform_keeps hI h _ hs
  | prepare r id mode => exact perform_keeps hI h _ hs
  | undeploy id => exact perform_keeps hI h _ hs
  | cancel id => exact perform_keeps hI h _ hs
  | status id => exact perform_keeps hI h _ hs
  | taskStatus id => exact perform_keeps hI h _ hs
  | launch r handle =>
    have hr : I ((d.launch r).run s.platform).2 := h.keeps hI.answer hs
    rwa [← launch_platform d r handle] at hr
  | wait handle =>
    have hw := wait_platform handle s
    rwa [← hw] at hs
  | detach handle => exact detach_keeps hI handle hf hs
  | watch selector build c handle =>
    have hr : I ((BuildWatch.start selector build).run s.platform).2 :=
      (Action.only_bind (Action.only_ask h) fun _ => Action.only_pure _).keeps hI.answer hs
    rwa [← watch_platform selector build c handle] at hr
  | watchState handle => exact hs
  | watchClose handle => exact watchClose_keeps hI handle hf hs
  | watchCompletion handle =>
    have hw := watchCompletion_platform handle s
    rwa [← hw] at hs
  | reconcile k object => exact perform_keeps hI h _ hs
  | call c => exact perform_keeps hI (Action.only_ask h) _ hs
  | watchEvents k selector count => exact watchEvents_keeps hI k selector count h hs

/-- What outlasts all events of watches outlasts a step and what it causes. -/
theorem step_keeps (hI : Kept p (fun _ => True) I)
    (hpod : ∀ pod : Pod, (Reconcile.reconcile pod).Only p) {d : Deployer} {st : Step}
    (h : st.Only d p) (hs : I s.platform) : I (s.step d st).2.platform :=
  settle_keeps hI hpod (fun _ _ => trivial) (take_keeps hI h (fun _ _ _ _ => trivial) hs)

end Session

end Slipway

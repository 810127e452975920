import Slipway.Proofs.Cluster.Builds
import Slipway.Proofs.Session.Managed

/-
  What holds of the followers and the watches after every managed run (`sound_ofRun`). Followers
  have different watches, all of them opened before, and the handles of watches lead to followers
  that are there. No watch has a number that is still to be given, and pods are stored under their
  own names. All of it outlasts what an event does by itself (`Sound.take`, `Sound.act`) and the
  followers that go on afterwards (`Sound.settle`).
-/

namespace Slipway

open Cluster

/-! ## Acts -/

namespace Cluster

variable {s s' : Cluster} {id : WatchId .build}

/-- A build that is moved to a phase is told to the watches. -/
theorem setBuildPhase_told {s s' : Cluster} {name : String} {phase : BuildPhase}
    {image : Option String} (h : s.setBuildPhase name phase image = some s') :
    ∃ b b', Moved s s' name b b' ∧ b'.phase = phase ∧
      (∀ id : WatchId .build, s'.subscription? id = (s.subscription? id).map (told b')) ∧
      s'.watchCount = s.watchCount := by
  obtain ⟨b, hb, rfl⟩ := Option.map_eq_some_iff.1 h
  exact ⟨b, _, ⟨hb, rfl, rfl, rfl⟩, rfl, subscription?_notify _ _, rfl⟩

/-- What an act does on a platform besides to its builds: it changes the watches one by one, those
    that are closed stay so, and no pod is touched. -/
structure Acted (s s' : Cluster) : Prop where
  watches : ∃ f : Subscription .build → Subscription .build,
    (∀ w, w.isOpen = false → (f w).isOpen = false) ∧
      ∀ id, s'.subscription? id = (s.subscription? id).map f
  watchCount_eq : s'.watchCount = s.watchCount
  pods_eq : s'.objects.of .pod = s.objects.of .pod

theorem Acted.of_eq (hs : s'.subscriptions = s.subscriptions) (hn : s'.watchCount = s.watchCount)
    (ho : s'.objects = s.objects) : Acted s s' := by
  refine ⟨⟨fun w => w, fun _ h => h, fun id => ?_⟩, hn, by rw [ho]⟩
  rw [Option.map_id']
  exact subscription?_congr (by rw [hs]) id

theorem act_acted {a : Act} (hm : (Event.act a).IsManaged) (h : s.act a = some s') :
    Acted s s' := by
  cases a with
  | insert k object => exact hm.elim
  | injectConflict k name =>
    cases h
    exact .of_eq rfl rfl rfl
  | terminateGracefully k name =>
    cases h
    exact .of_eq rfl rfl rfl
  | dropWatches =>
    cases h
    refine ⟨⟨fun w => { w with hasSource := false }, fun _ hw => ?_, ?_⟩, rfl, rfl⟩
    · exact hw
    · exact subscription?_dropWatches s
  | setBuildPhase name phase image =>
    obtain ⟨b, hb, rfl⟩ := Option.map_eq_some_iff.1 h
    refine ⟨⟨told _, fun w hw => ?_, subscription?_notify _ _⟩, rfl, ?_⟩
    · rw [isOpen_told]
      exact hw
    · have hne : Kind.pod ≠ Kind.build := by decide
      exact objects_of_store_of_ne _ _ _ hne

theorem Closed.of_acted (h : Closed id s) (ha : Acted s s') : Closed id s' := by
  obtain ⟨sub, hsub, hopen⟩ := h
  obtain ⟨f, hf, hs⟩ := ha.watches
  exact ⟨f sub, by rw [hs, hsub]; rfl, hf sub hopen⟩

end Cluster

/-! ## Followers that go on -/

section Settle

variable {σ κ α : Type} [Platform σ]

theorem Follower.watch_advance (run : κ → Build → Action α) (f : Follower κ α) (s : σ) :
    (f.advance run s).1.watch = f.watch := by
  unfold advance
  split
  · split
    · rfl
    · rfl
    · dsimp only
      split <;> rfl
  · rfl

theorem Follower.watch_close (f : Follower κ α) (s : σ) : (f.close s).1.watch = f.watch := by
  unfold close
  split <;> rfl

namespace Session

theorem map_watch_settleAll (fs : List (Follower Continuation Yield)) (s : σ) :
    (settleAll fs s).1.map (·.watch) = fs.map (·.watch) := by
  induction fs generalizing s with
  | nil => rfl
  | cons f fs ih =>
    show (f.advance Continuation.run s).1.watch :: (settleAll fs _).1.map (·.watch) = _
    rw [ih, Follower.watch_advance]
    rfl

theorem map_watch_settle (s : Session σ) :
    s.settle.followers.map (·.watch) = s.followers.map (·.watch) :=
  map_watch_settleAll s.followers s.platform

omit [Platform σ] in
theorem watchNumbers_eq_map (s : Session σ) :
    s.watchNumbers = (s.followers.map (·.watch)).map (·.watch.number) := by
  rw [List.map_map]
  rfl

theorem watchNumbers_settle (s : Session σ) : s.settle.watchNumbers = s.watchNumbers := by
  rw [watchNumbers_eq_map, map_watch_settle, watchNumbers_eq_map]

end Session

end Settle

/-! ## Sound sessions -/

namespace Session

/-- The followers have watches of their own, and handles lead to followers. -/
structure Sound (s : Session Cluster) : Prop where
  fresh : s.platform.Fresh
  podsSound : s.platform.PodsSound
  sorted : s.watchNumbers.Pairwise (· < ·)
  given : ∀ n ∈ s.watchNumbers, n < s.platform.watchCount
  led : ∀ n, s.Watches n → n < s.followers.length

variable {s s' : Session Cluster} {d : Deployer} {st : Step}

theorem map_set_eq {α β : Type} {xs : List α} {n : Nat} {x y : α} {f : α → β}
    (hn : xs[n]? = some x) (hf : f y = f x) : (xs.set n y).map f = xs.map f := by
  obtain ⟨hlt, rfl⟩ := List.getElem?_eq_some_iff.1 hn
  have hlt' : n < (xs.map f).length := by rwa [List.length_map]
  have hx : f xs[n] = (xs.map f)[n] := (List.getElem_map f).symm
  rw [List.map_set, hf, hx, List.set_getElem_self]

theorem Sound.of_followers_eq (h : s.Sound) (hfresh : s'.platform.Fresh)
    (hpods : s'.platform.PodsSound) (hcount : s.platform.watchCount ≤ s'.platform.watchCount)
    (hnumbers : s'.watchNumbers = s.watchNumbers) (hw : ∀ n, s'.Watches n → s.Watches n) :
    s'.Sound where
  fresh := hfresh
  podsSound := hpods
  sorted := hnumbers ▸ h.sorted
  given n hn := Nat.lt_of_lt_of_le (h.given n (hnumbers ▸ hn)) hcount
  led n hn := by
    have hlength := congrArg List.length hnumbers
    unfold watchNumbers at hlength
    rw [List.length_map, List.length_map] at hlength
    rw [hlength]
    exact h.led n (hw n hn)

theorem Sound.take (h : s.Sound) (hm : (Event.step d st).IsManaged) :
    (s.take d st).2.Sound := by
  have honly := only_byDeployer hm
  have hfresh := take_keeps kept_fresh honly (fun _ _ _ _ => trivial) h.fresh
  have hpods := take_keeps kept_podsSound honly (fun _ _ _ _ => trivial) h.podsSound
  have hcount := take_keeps (kept_watchCount _) honly (fun _ _ _ _ => trivial)
    (Nat.le_refl s.platform.watchCount)
  cases take_tended hm s with
  | alone hf hw =>
    refine h.of_followers_eq hfresh hpods hcount ?_ hw
    unfold watchNumbers
    rw [hf]
  | stopped hst hn hf hw =>
    refine h.of_followers_eq hfresh hpods hcount ?_ hw
    unfold watchNumbers
    rw [hf]
    exact map_set_eq hn (by rw [Follower.watch_close])
  | @added f hf hw hle hlt =>
    have hnumbers : (s.take d st).2.watchNumbers = s.watchNumbers ++ [f.watch.watch.number] := by
      unfold watchNumbers
      rw [hf, List.map_append, List.map_singleton]
    have hgiven : ∀ n ∈ s.watchNumbers, n < f.watch.watch.number := fun n hn =>
      Nat.lt_of_lt_of_le (h.given n hn) hle
    refine ⟨hfresh, hpods, ?_, fun n hn => ?_, fun n hn => ?_⟩
    · rw [hnumbers, List.pairwise_append]
      refine ⟨h.sorted, List.pairwise_singleton _ _, fun n hn m hm => ?_⟩
      rw [List.mem_singleton.1 hm]
      exact hgiven n hn
    · rw [hnumbers, List.mem_append, List.mem_singleton] at hn
      rcases hn with hn | rfl
      · exact Nat.lt_trans (hgiven n hn) hlt
      · exact hlt
    · rw [hf, List.length_append, List.length_singleton]
      rcases hw n hn with hn | rfl
      · exact Nat.lt_succ_of_lt (h.led n hn)
      · exact Nat.lt_succ_self _

theorem Sound.act {a : Act} {q : Cluster} (h : s.Sound) (hm : (Event.act a).IsManaged)
    (ha : s.platform.act a = some q) : Session.Sound { s with platform := q } := by
  have hacted := act_acted hm ha
  obtain ⟨f, -, hf⟩ := hacted.watches
  exact h.of_followers_eq (h.fresh.of_map hf hacted.watchCount_eq)
    (h.podsSound.congr hacted.pods_eq) (Nat.le_of_eq hacted.watchCount_eq.symm) rfl fun _ hn => hn

theorem Sound.settle (h : s.Sound) : s.settle.Sound := by
  have hpod := fun pod : Pod => only_byDeployer_reconcile (k := .pod) (by decide) pod
  have hkeeps : ∀ {I : Cluster → Prop}, Kept Call.ByDeployer (fun _ => True) I →
      I s.platform → I s.settle.platform := fun hI =>
    settle_keeps hI hpod fun _ _ => trivial
  exact h.of_followers_eq (hkeeps kept_fresh h.fresh) (hkeeps kept_podsSound h.podsSound)
    (hkeeps (kept_watchCount _) (Nat.le_refl _)) (watchNumbers_settle s) fun _ hn => hn

theorem Sound.apply {e : Event} (h : s.Sound) (hm : e.IsManaged) : (e.apply s).Sound := by
  cases e with
  | step d st => exact (h.take hm).settle
  | act a =>
    rw [Event.apply_act]
    rcases ha : s.platform.act a with _ | q
    · exact h
    · exact (h.act hm ha).settle

theorem sound_ofRun {run : List Event} (hm : ∀ e ∈ run, e.IsManaged) : (ofRun run).Sound := by
  induction run using List.reverseRecOn with
  | nil =>
    show Sound { platform := {} }
    refine ⟨fun _ _ => rfl, fun _ _ hx => ?_, .nil, fun _ hn => ?_, fun n hn => ?_⟩
    · cases hx
    · cases hn
    · obtain ⟨_, _, h, -⟩ := hn
      cases h
  | append_singleton run e ih =>
    rw [ofRun_concat]
    exact (ih fun e' he' => hm e' (List.mem_append_left _ he')).apply (hm e (by simp))

end Session

end Slipway

import Slipway.Proofs.BuildWatch.Stream
import Slipway.Proofs.Cluster.Stored
import Slipway.Proofs.Session.Keeps

/-
  The watches that a platform in memory keeps. A call tells them an object that it has written, or
  opens one (`announced_answer`), and gives no number again (`kept_fresh`). What deployers call tells
  a watch on builds no more than builds that are new (`heard_answer`), so nothing that decides comes
  of it (`kept_listening`). Following a build on a watch that listens is following it on the stream of
  its queue: it goes on while nothing decides (`advance_of_listening`), and otherwise the watch is
  closed and the outcome is that of the event that decides (`advance_of_completed`,
  `advance_of_failure`) or of the end of the watch (`advance_of_dropped`).
-/

namespace Slipway

/-- The calls that deployers make. Builds are started by them and otherwise left alone, and a pod is
    replaced by one of its own name. -/
def Call.ByDeployer : Call → Prop
  | create k _ | delete k _ | awaitDeleted k _ _ => k ≠ .build
  | replace k name r => k ≠ .build ∧ (k = .pod → r.name = name)
  | get _ _ | list _ _ | watch _ _ | instantiateBuild _ | submitBinaryBuild _ _ _ | rollout _ =>
    True

namespace Cluster

open BuildWatch

variable {j k : Kind} {s s' : Cluster} {id : WatchId .build} {w : Subscription .build}

/-- The watch of an id. -/
def subscription? (s : Cluster) (id : WatchId k) : Option (Subscription k) :=
  (s.subscriptions.of k).find? (·.id = id)

/-- A watch after an object was told. -/
def told (r : Resource k) (w : Subscription k) : Subscription k :=
  if w.hasSource && w.isOpen && Labels.satisfies r.labels w.selector then
    { w with queue := w.queue ++ [r] }
  else w

theorem id_told (r : Resource k) (w : Subscription k) : (told r w).id = w.id := by
  unfold told
  split <;> rfl

theorem isOpen_told (r : Resource k) (w : Subscription k) : (told r w).isOpen = w.isOpen := by
  unfold told
  split <;> rfl

theorem find?_map_of_id {ws : List (Subscription k)} {f : Subscription k → Subscription k}
    (hf : ∀ w, (f w).id = w.id) (id : WatchId k) :
    (ws.map f).find? (·.id = id) = (ws.find? (·.id = id)).map f := by
  rw [List.find?_map]
  congr 2
  funext w
  rw [Function.comp_apply, hf]

/-! ## Calls -/

theorem subscription?_congr (h : s'.subscriptions.of k = s.subscriptions.of k)
    (id : WatchId k) : s'.subscription? id = s.subscription? id := by
  unfold subscription?
  rw [h]

theorem subscription?_notify (s : Cluster) (r : Resource k) (id : WatchId k) :
    (s.notify r).subscription? id = (s.subscription? id).map (told r) := by
  unfold subscription? notify
  rw [PerKind.of_put_self]
  exact find?_map_of_id (id_told r) id

theorem subscription?_notify_of_ne (s : Cluster) (r : Resource j) (hj : k ≠ j) (id : WatchId k) :
    (s.notify r).subscription? id = s.subscription? id :=
  subscription?_congr (PerKind.of_put_of_ne _ _ hj) id

theorem subscription?_watch {selector : String} {w : Subscription k} {id : WatchId k}
    (h : s.subscription? id = some w) :
    (s.watch j selector).2.subscription? id = some w := by
  by_cases hj : k = j
  · subst hj
    unfold subscription? Cluster.watch
    rw [PerKind.of_put_self, List.find?_append, ← subscription?, h]
    rfl
  · rw [← h]
    exact subscription?_congr (PerKind.of_put_of_ne _ _ hj) id

/-- The watches are what they were. -/
structure SameWatches (s s' : Cluster) : Prop where
  subscriptions_eq : s'.subscriptions = s.subscriptions
  watchCount_eq : s'.watchCount = s.watchCount

theorem sameWatches_delete (s : Cluster) (k : Kind) (name : String) :
    SameWatches s (s.delete k name).2 := by
  unfold delete
  split
  · exact ⟨rfl, rfl⟩
  · dsimp only
    split <;> exact ⟨rfl, rfl⟩

theorem sameWatches_awaitDeleted (s : Cluster) (k : Kind) (name uid : String) :
    SameWatches s (s.awaitDeleted k name uid) := by
  unfold awaitDeleted
  dsimp only
  split
  · split <;> exact ⟨rfl, rfl⟩
  · exact ⟨rfl, rfl⟩

theorem sameWatches_rollout (s : Cluster) (name : String) :
    SameWatches s (s.rollout name).2 := by
  unfold rollout
  split <;> exact ⟨rfl, rfl⟩

/-- What a call does to the watches: it tells them an object it has written, or it opens one. -/
inductive Announced (c : Call) (s s' : Cluster) : Prop
  | nothing (hs : s'.subscriptions = s.subscriptions) (hn : s'.watchCount = s.watchCount)
  /-- Only calls that no deployer makes write builds like any other object. -/
  | object {k : Kind} (hk : c.ByDeployer → k ≠ .build) (r : Resource k)
    (hs : s'.subscriptions = (s.notify r).subscriptions) (hn : s'.watchCount = s.watchCount)
  | newBuild (b : Build) (hb : b.phase = .new)
    (hs : s'.subscriptions = (s.notify b).subscriptions) (hn : s'.watchCount = s.watchCount)
  | opened (k : Kind) (selector : String) (hs : s' = (s.watch k selector).2)

theorem announced_startBuild (c : Call) (s : Cluster) (base : String) (op : Operation) :
    Announced c s (s.startBuild base op).2 := by
  unfold startBuild
  split
  · exact .nothing rfl rfl
  · exact .newBuild _ rfl rfl rfl

theorem announced_answer (c : Call) (s : Cluster) : Announced c s (answer c s).2 := by
  cases c with
  | get | list => exact .nothing rfl rfl
  | watch k selector => exact .opened k selector rfl
  | instantiateBuild name => exact announced_startBuild _ s name _
  | submitBinaryBuild name fileName content => exact announced_startBuild _ s name _
  | create k r =>
    show Announced _ s (s.create r).2
    unfold create
    dsimp only
    split
    · exact .nothing rfl rfl
    · exact .object id _ rfl rfl
  | replace k name r =>
    show Announced _ s (s.replace name r).2
    unfold replace
    split
    · exact .nothing rfl rfl
    · split
      · exact .nothing rfl rfl
      · exact .object And.left _ rfl rfl
  | delete k name =>
    obtain ⟨hs, hn⟩ := sameWatches_delete s k name
    exact .nothing hs hn
  | awaitDeleted k name uid =>
    obtain ⟨hs, hn⟩ := sameWatches_awaitDeleted s k name uid
    exact .nothing hs hn
  | rollout name =>
    obtain ⟨hs, hn⟩ := sameWatches_rollout s name
    exact .nothing hs hn

/-- What a call of a deployer does to the watches: it tells them an object it has written, and of
    builds only new ones, or it opens one. -/
inductive Heard (s s' : Cluster) : Prop
  | nothing (hs : s'.subscriptions = s.subscriptions) (hn : s'.watchCount = s.watchCount)
  | object {k : Kind} (hk : k ≠ .build) (r : Resource k)
    (hs : s'.subscriptions = (s.notify r).subscriptions) (hn : s'.watchCount = s.watchCount)
  | newBuild (b : Build) (hb : b.phase = .new)
    (hs : s'.subscriptions = (s.notify b).subscriptions) (hn : s'.watchCount = s.watchCount)
  | opened (k : Kind) (selector : String) (hs : s' = (s.watch k selector).2)

theorem heard_answer {c : Call} (hc : c.ByDeployer) (s : Cluster) : Heard s (answer c s).2 := by
  cases announced_answer c s with
  | nothing hs hn => exact .nothing hs hn
  | object hk r hs hn => exact .object (hk hc) r hs hn
  | newBuild b hb hs hn => exact .newBuild b hb hs hn
  | opened k selector hs => exact .opened k selector hs

theorem Heard.watchCount_le (h : Heard s s') : s.watchCount ≤ s'.watchCount := by
  cases h with
  | nothing hs hn => exact Nat.le_of_eq hn.symm
  | object hk r hs hn => exact Nat.le_of_eq hn.symm
  | newBuild b hb hs hn => exact Nat.le_of_eq hn.symm
  | opened k selector hs => exact hs ▸ Nat.le_succ _

/-- A watch on builds hears of a new build at most. -/
theorem Heard.subscription? (h : Heard s s') (hw : s.subscription? id = some w) :
    s'.subscription? id = some w ∨
      ∃ b : Build, b.phase = .new ∧ s'.subscription? id = some (told b w) := by
  cases h with
  | nothing hs hn => exact .inl ((subscription?_congr (by rw [hs]) id).trans hw)
  | object hk r hs hn =>
    have he : s'.subscription? id = (s.notify r).subscription? id :=
      subscription?_congr (by rw [hs]) id
    exact .inl (he.trans ((subscription?_notify_of_ne s r (Ne.symm hk) id).trans hw))
  | newBuild b hb hs hn =>
    have he : s'.subscription? id = (s.notify b).subscription? id :=
      subscription?_congr (by rw [hs]) id
    refine .inr ⟨b, hb, he.trans ?_⟩
    rw [subscription?_notify, hw]
    rfl
  | opened k selector hs => exact .inl (hs ▸ subscription?_watch hw)

theorem subscription?_dropWatches (s : Cluster) (id : WatchId k) :
    s.dropWatches.subscription? id =
      (s.subscription? id).map fun w => { w with hasSource := false } := by
  unfold subscription? dropWatches
  rw [PerKind.of_ofFun]
  exact find?_map_of_id (fun _ => by rfl) id

/-! ## Reading and closing -/

theorem id_of_subscription? {id : WatchId k} {w : Subscription k}
    (h : s.subscription? id = some w) : w.id = id := by
  have hp := List.find?_some h
  exact of_decide_eq_true hp

section Update

variable {f : Subscription k → Subscription k} {g : Subscription j → Subscription j}

theorem subscription?_update (s : Cluster) (hf : ∀ w, (f w).id = w.id) (other id : WatchId k) :
    (s.updateSubscription other f).subscription? id =
      (s.subscription? id).map fun w => if w.id = other then f w else w := by
  unfold subscription? updateSubscription
  rw [PerKind.of_put_self]
  refine find?_map_of_id (fun w => ?_) id
  split
  · exact hf w
  · rfl

theorem subscription?_update_self (hf : ∀ w, (f w).id = w.id) {id : WatchId k}
    {w : Subscription k} (h : s.subscription? id = some w) :
    (s.updateSubscription id f).subscription? id = some (f w) := by
  rw [subscription?_update s hf, h, Option.map_some, if_pos (id_of_subscription? h)]

/-- The watches of other kinds or of other numbers are left alone. -/
theorem subscription?_update_of_ne (s : Cluster) (hg : ∀ w, (g w).id = w.id) {other : WatchId j}
    {id : WatchId k} (hn : k = j → other.number ≠ id.number) :
    (s.updateSubscription other g).subscription? id = s.subscription? id := by
  by_cases hk : k = j
  · subst hk
    rw [subscription?_update s hg]
    rcases hw : s.subscription? id with _ | w
    · rfl
    · have hne : w.id ≠ other := by
        rintro rfl
        exact hn rfl (congrArg WatchId.number (id_of_subscription? hw))
      rw [Option.map_some, if_neg hne]
  · exact subscription?_congr (PerKind.of_put_of_ne _ _ hk) id

end Update

theorem subscription?_poll_of_ne (s : Cluster) {other : WatchId j} {id : WatchId k}
    (hn : k = j → other.number ≠ id.number) :
    (poll other s).2.subscription? id = s.subscription? id := by
  unfold poll
  split
  · rfl
  · split
    · exact subscription?_update_of_ne s (fun _ => by rfl) hn
    · rfl

theorem subscription?_close_of_ne (s : Cluster) {other : WatchId j} {id : WatchId k}
    (hn : k = j → other.number ≠ id.number) :
    (close other s).subscription? id = s.subscription? id :=
  subscription?_update_of_ne s (fun _ => by rfl) hn

section Queue

variable {id : WatchId k} {w : Subscription k}

theorem poll_cons {r : Resource k} {rest : List (Resource k)} (h : s.subscription? id = some w)
    (hq : w.queue = r :: rest) : ∃ s', poll id s = (.event (.ok r), s') ∧
      s'.subscription? id = some { w with queue := rest } := by
  refine ⟨s.updateSubscription id fun w => { w with queue := rest }, ?_, ?_⟩
  · unfold subscription? at h
    unfold poll
    rw [h]
    dsimp only
    rw [hq]
  · exact subscription?_update_self (fun _ => by rfl) h

theorem poll_nil (h : s.subscription? id = some w) (hq : w.queue = []) :
    poll id s = (if w.hasSource then .waiting else .ended, s) := by
  unfold subscription? at h
  unfold poll
  rw [h]
  dsimp only
  rw [hq]

end Queue

theorem watchCount_poll (s : Cluster) (other : WatchId k) :
    (poll other s).2.watchCount = s.watchCount := by
  unfold poll
  split
  · rfl
  · split <;> rfl

/-! ## Listening -/

/-- Somebody listens on a watch. By what it was told and has not read yet the build has ended as
    `end?` tells, and more can come unless the watch was dropped. -/
structure Listening (w : BuildWatch) (end? : Option Build) (dropped : Bool) (s : Cluster) :
    Prop where
  watch : ∃ sub, s.subscription? w.watch = some sub ∧ sub.selector = w.selector ∧
    sub.isOpen = true ∧ sub.hasSource = !dropped ∧
    decisive? w.build (sub.queue.map .ok) = end?
  number_lt : w.watch.number < s.watchCount

/-- Nobody listens on a watch any more. -/
def Closed (id : WatchId .build) (s : Cluster) : Prop :=
  ∃ sub, s.subscription? id = some sub ∧ sub.isOpen = false

section Kept

variable {w : BuildWatch} {end? : Option Build} {dropped : Bool}

/-- A build that has not ended decides nothing. -/
theorem decisive?_concat {build : String} {bs : List Build} {b : Build}
    (hb : b.name = build → b.phase.isTerminal = false) :
    decisive? build ((bs ++ [b]).map .ok) = decisive? build (bs.map .ok) := by
  have hnone : decisive? build [.ok b] = none := by
    have he : endOf? build (.ok b) = none := by
      rw [endOf?, if_neg]
      rintro ⟨hname, ht⟩
      rw [hb hname] at ht
      cases ht
    rw [decisive?, List.findSome?_cons, he]
    rfl
  rw [List.map_append, List.map_singleton]
  rcases hd : decisive? build (bs.map .ok) with _ | t
  · rw [decisive?_append_of_none hd, hnone]
  · exact decisive?_append hd

/-- Where no more is told than a build that has not ended, it is listened on. -/
theorem Listening.of_told {b : Build} (h : Listening w end? dropped s)
    (hb : b.name = w.build → b.phase.isTerminal = false)
    (hs : ∀ sub, s.subscription? w.watch = some sub →
      s'.subscription? w.watch = some sub ∨ s'.subscription? w.watch = some (told b sub))
    (hn : s.watchCount ≤ s'.watchCount) : Listening w end? dropped s' := by
  obtain ⟨⟨sub, hsub, hselector, hopen, hsource, hend⟩, hlt⟩ := h
  refine ⟨?_, Nat.lt_of_lt_of_le hlt hn⟩
  rcases hs sub hsub with hs | hs
  · exact ⟨sub, hs, hselector, hopen, hsource, hend⟩
  · refine ⟨told b sub, hs, ?_⟩
    unfold told
    split
    · exact ⟨hselector, hopen, hsource, (decisive?_concat hb).trans hend⟩
    · exact ⟨hselector, hopen, hsource, hend⟩

theorem Listening.congr (h : Listening w end? dropped s)
    (hs : s'.subscription? w.watch = s.subscription? w.watch)
    (hn : s.watchCount ≤ s'.watchCount) : Listening w end? dropped s' := by
  obtain ⟨⟨sub, hsub, hrest⟩, hlt⟩ := h
  exact ⟨⟨sub, hs.trans hsub, hrest⟩, Nat.lt_of_lt_of_le hlt hn⟩

/-- What deployers call and what happens to other watches leaves a watch listening. -/
theorem kept_listening (w : BuildWatch) (end? : Option Build) (dropped : Bool) :
    Kept (σ := Cluster) Call.ByDeployer (· ≠ w.watch.number) (Listening w end? dropped) where
  answer c s hc h := by
    obtain ⟨⟨sub, hsub, -⟩, -⟩ := id h
    have hheard := heard_answer hc s
    rcases hheard.subscription? hsub with hs | ⟨b, hphase, hs⟩
    · exact h.congr (hs.trans hsub.symm) hheard.watchCount_le
    · refine h.of_told (b := b) (fun _ => by rw [hphase]; rfl) (fun sub' hsub' => .inr ?_)
        hheard.watchCount_le
      obtain rfl : sub = sub' := Option.some.inj (hsub.symm.trans hsub')
      exact hs
  opened k selector s id h ho := by
    have hid : (⟨s.watchCount⟩ : WatchId k) = id := Except.ok.inj (Option.some.inj ho)
    rw [← hid]
    exact (Nat.ne_of_lt h.number_lt).symm
  poll id s hid h :=
    h.congr (subscription?_poll_of_ne s fun _ => hid) (Nat.le_of_eq (watchCount_poll s id).symm)
  close id s hid h := h.congr (subscription?_close_of_ne s fun _ => hid) (Nat.le_refl _)

theorem Closed.update {id : WatchId .build} {other : WatchId k}
    {f : Subscription k → Subscription k} (h : Closed id s) (hid : ∀ w, (f w).id = w.id)
    (hf : ∀ w, w.isOpen = false → (f w).isOpen = false) :
    Closed id (s.updateSubscription other f) := by
  obtain ⟨sub, hsub, hopen⟩ := h
  by_cases hk : Kind.build = k
  · subst hk
    refine ⟨_, (subscription?_update s hid other id).trans (by rw [hsub]; rfl), ?_⟩
    dsimp only
    split
    · exact hf sub hopen
    · exact hopen
  · exact ⟨sub, (subscription?_congr (PerKind.of_put_of_ne _ _ hk) id).trans hsub, hopen⟩

/-- A watch that is closed stays so. -/
theorem kept_closed (id : WatchId .build) :
    Kept (σ := Cluster) Call.ByDeployer (fun _ => True) (Closed id) where
  answer c s hc h := by
    obtain ⟨sub, hsub, hopen⟩ := h
    rcases (heard_answer hc s).subscription? hsub with hs | ⟨b, -, hs⟩
    · exact ⟨sub, hs, hopen⟩
    · exact ⟨told b sub, hs, (isOpen_told b sub).trans hopen⟩
  opened _ _ _ _ _ _ := trivial
  poll other s _ h := by
    show Closed id (poll other s).2
    unfold poll
    split
    · exact h
    · split
      · exact h.update (fun _ => by rfl) fun _ hw => by exact hw
      · exact h
  close _ _ _ h := h.update (fun _ => by rfl) fun _ _ => by rfl

end Kept

/-! ## New watches -/

/-- No watch on objects of a kind has a number that is still to be given. -/
def FreshOn (k : Kind) (s : Cluster) : Prop :=
  ∀ id : WatchId k, s.watchCount ≤ id.number → s.subscription? id = none

namespace FreshOn

theorem of_map {f : Subscription k → Subscription k} (h : s.FreshOn k)
    (hs : ∀ id, s'.subscription? id = (s.subscription? id).map f)
    (hn : s'.watchCount = s.watchCount) : s'.FreshOn k := by
  intro id hid
  rw [hn] at hid
  rw [hs, h id hid]
  rfl

theorem congr (h : s.FreshOn k) (hs : s'.subscriptions.of k = s.subscriptions.of k)
    (hn : s'.watchCount = s.watchCount) : s'.FreshOn k :=
  h.of_map (f := id) (fun id => by rw [subscription?_congr hs, Option.map_id, id_eq]) hn

/-- A watch that is opened begins with all that its selector matches. -/
theorem subscription?_watch (h : s.FreshOn k) (selector : String) :
    (s.watch k selector).2.subscription? ⟨s.watchCount⟩ =
      some { id := ⟨s.watchCount⟩, selector, queue := s.matching k selector } := by
  have hnone := h ⟨s.watchCount⟩ (Nat.le_refl _)
  unfold subscription? at hnone ⊢
  unfold Cluster.watch
  rw [PerKind.of_put_self, List.find?_append, hnone, Option.none_or, List.find?_cons_of_pos]
  exact decide_eq_true rfl

theorem watch (h : s.FreshOn k) (j : Kind) (selector : String) :
    (s.watch j selector).2.FreshOn k := by
  intro id hid
  have hlt : s.watchCount < id.number := hid
  have hnone := h id (Nat.le_of_lt hlt)
  by_cases hk : k = j
  · subst hk
    have hne : (⟨s.watchCount⟩ : WatchId k) ≠ id := by
      rintro rfl
      exact Nat.lt_irrefl _ hlt
    unfold subscription? at hnone ⊢
    unfold Cluster.watch
    rw [PerKind.of_put_self, List.find?_append, hnone, Option.none_or, List.find?_cons_of_neg]
    · rfl
    · exact fun hid => hne (of_decide_eq_true hid)
  · exact (subscription?_congr (PerKind.of_put_of_ne _ _ hk) id).trans hnone

theorem update {f : Subscription j → Subscription j} (h : s.FreshOn k)
    (hf : ∀ w, (f w).id = w.id) (other : WatchId j) : (s.updateSubscription other f).FreshOn k := by
  by_cases hk : k = j
  · subst hk
    exact h.of_map (subscription?_update s hf other) rfl
  · exact h.congr (PerKind.of_put_of_ne _ _ hk) rfl

theorem notify (h : s.FreshOn k) (r : Resource j) : (s.notify r).FreshOn k := by
  by_cases hk : k = j
  · subst hk
    exact h.of_map (subscription?_notify s r) rfl
  · exact h.congr (PerKind.of_put_of_ne _ _ hk) rfl

/-- No call gives a number again. -/
theorem answer (h : s.FreshOn k) (c : Call) : (answer c s).2.FreshOn k := by
  cases announced_answer c s with
  | nothing hs hn => exact h.congr (by rw [hs]) hn
  | object hk r hs hn => exact (h.notify r).congr (by rw [hs]) hn
  | newBuild b hb hs hn => exact (h.notify b).congr (by rw [hs]) hn
  | opened j selector hs =>
    rw [hs]
    exact h.watch j selector

theorem poll (h : s.FreshOn k) (other : WatchId j) : (poll other s).2.FreshOn k := by
  unfold Cluster.poll
  split
  · exact h
  · split
    · exact h.update (fun _ => by rfl) other
    · exact h

theorem close (h : s.FreshOn k) (other : WatchId j) : (close other s).FreshOn k :=
  h.update (fun _ => by rfl) other

theorem act {a : Act} (h : s.FreshOn k) (ha : s.act a = some s') : s'.FreshOn k := by
  cases a with
  | insert | injectConflict | terminateGracefully =>
    cases ha
    exact h.congr rfl rfl
  | setBuildPhase name phase image =>
    obtain ⟨b, -, rfl⟩ := Option.map_eq_some_iff.1 ha
    exact (h.notify _).congr rfl rfl
  | dropWatches =>
    cases ha
    exact h.of_map (subscription?_dropWatches s) rfl

end FreshOn

/-- No watch on builds has a number that is still to be given. -/
def Fresh (s : Cluster) : Prop :=
  ∀ id : WatchId .build, s.watchCount ≤ id.number → s.subscription? id = none

theorem Fresh.of_map {f : Subscription .build → Subscription .build} (h : s.Fresh)
    (hs : ∀ id, s'.subscription? id = (s.subscription? id).map f)
    (hn : s'.watchCount = s.watchCount) : s'.Fresh :=
  FreshOn.of_map h hs hn

/-- A watch on builds that is opened begins with all that its selector matches. -/
theorem Fresh.subscription?_watch (h : s.Fresh) (selector : String) :
    (s.watch .build selector).2.subscription? ⟨s.watchCount⟩ =
      some { id := ⟨s.watchCount⟩, selector, queue := s.matching .build selector } :=
  FreshOn.subscription?_watch h selector

theorem Fresh.act {a : Act} (h : s.Fresh) (ha : s.act a = some s') : s'.Fresh :=
  FreshOn.act h ha

theorem kept_fresh {p : Call → Prop} : Kept (σ := Cluster) p (fun _ => True) Fresh where
  answer c _ _ h := FreshOn.answer h c
  opened _ _ _ _ _ _ := trivial
  poll other _ _ h := FreshOn.poll h other
  close other _ _ h := FreshOn.close h other

/-! ## Following -/

/-- Nothing changed but the watches. -/
structure Untouched (s s' : Cluster) : Prop where
  objects_eq : s'.objects = s.objects
  log_eq : s'.log = s.log
  watchCount_eq : s'.watchCount = s.watchCount

theorem Untouched.refl (s : Cluster) : Untouched s s := ⟨rfl, rfl, rfl⟩

theorem Untouched.trans {s'' : Cluster} (h : Untouched s s') (h' : Untouched s' s'') :
    Untouched s s'' :=
  ⟨h'.objects_eq.trans h.objects_eq, h'.log_eq.trans h.log_eq,
    h'.watchCount_eq.trans h.watchCount_eq⟩

theorem untouched_poll (s : Cluster) (id : WatchId k) : Untouched s (poll id s).2 := by
  unfold poll
  split
  · exact .refl s
  · split
    · exact ⟨rfl, rfl, rfl⟩
    · exact .refl s

theorem untouched_close (s : Cluster) (id : WatchId k) : Untouched s (close id s) :=
  ⟨rfl, rfl, rfl⟩

theorem closed_close {id : WatchId .build} {sub : Subscription .build}
    (h : s.subscription? id = some sub) : Closed id (close id s) :=
  ⟨_, subscription?_update_self (fun _ => by rfl) h, rfl⟩

theorem le_foldl_add {ι : Type} (f : ι → Nat) {xs : List ι} {x : ι} (hx : x ∈ xs) (n : Nat) :
    f x ≤ xs.foldl (fun n x => n + f x) n := by
  have hle : ∀ (ys : List ι) (n : Nat), n ≤ ys.foldl (fun n x => n + f x) n := by
    intro ys
    induction ys with
    | nil => exact fun n => Nat.le_refl n
    | cons y ys ih => exact fun n => Nat.le_trans (Nat.le_add_right n _) (ih _)
  induction xs generalizing n with
  | nil => cases hx
  | cons y ys ih =>
    rcases List.mem_cons.1 hx with rfl | hx
    · exact Nat.le_trans (Nat.le_add_left _ n) (hle ys _)
    · exact ih hx _

/-- The queue of a watch is part of the backlog. -/
theorem length_queue_le_backlog {id : WatchId k} {sub : Subscription k}
    (h : s.subscription? id = some sub) : sub.queue.length ≤ Platform.backlog s := by
  have hsub : sub.queue.length ≤ s.backlogOf k :=
    le_foldl_add (fun w : Subscription k => w.queue.length) (List.mem_of_find?_eq_some h) 0
  exact Nat.le_trans hsub (le_foldl_add s.backlogOf (Kind.mem_all k) 1)

end Cluster

end Slipway

import Slipway.Proofs.Cluster.Updates
import Slipway.Proofs.Cluster.Watches
import Slipway.Proofs.Labels.Selector

/-
  What the selector of an application finds on a platform in memory. A move tells the watches the
  one object that it writes, or none (`telling_move`), and each of them takes what its selector
  matches and hands it out in this order. So at any time what was read from a watch, and then what
  it holds, is what it began with and what it was told until it was ended (`relays_turns`). As the
  selector of an application selects what bears its label, listings and watches by it give what
  belongs to the application and nothing else (`appSelector_exact`).
-/

namespace Slipway

variable {j k : Kind} {app app' : AppId}

/-- An object is labelled with an application. -/
def Resource.belongsTo (app : AppId) (r : Resource k) : Bool :=
  r.labels.get? Labels.appIdKey == some app.text

namespace Labels

theorem satisfies_appSelector_eq (h : app.IsPlain) :
    (fun r : Resource k => satisfies r.labels (appSelector app)) = Resource.belongsTo app := by
  funext r
  rw [Bool.eq_iff_iff, satisfies_appSelector h, Resource.belongsTo, beq_iff_eq]

/-- No labels are selected for two applications. -/
theorem eq_of_satisfies {labels : Attributes} (h : app.IsPlain) (h' : app'.IsPlain)
    (hs : satisfies labels (appSelector app) = true)
    (hs' : satisfies labels (appSelector app') = true) : app = app' := by
  rw [satisfies_appSelector h] at hs
  rw [satisfies_appSelector h', hs, Option.some.injEq] at hs'
  cases app
  cases app'
  exact congrArg AppId.mk hs'

end Labels

/-- Something that happens to a platform whose watches are read. -/
inductive Turn where
  | move (m : Move)
  | poll (k : Kind) (id : WatchId k)
  | close (k : Kind) (id : WatchId k)

/-- The move tells the watches what it writes. They are not told of what is put there by the world
    outside, counted up for a rollout or deleted. -/
def Move.isTold : Move → Bool
  | .call (.create _ _) | .call (.replace _ _ _) | .call (.instantiateBuild _)
  | .call (.submitBinaryBuild _ _ _) | .act (.setBuildPhase _ _ _) => true
  | _ => false

def Turn.endsWatches : Turn → Bool
  | .move (.act .dropWatches) => true
  | _ => false

theorem Turn.endsWatches_of_isTold {m : Move} (h : m.isTold = true) :
    (Turn.move m).endsWatches = false := by
  cases m with
  | call c => rfl
  | act a =>
    cases a with
    | setBuildPhase => rfl
    | insert | injectConflict | terminateGracefully | dropWatches => cases h

namespace Cluster

variable {s s' : Cluster} {id : WatchId k} {w w' w'' : Subscription k} {m : Move} {t : Turn}
  {ts : List Turn}

def turn (s : Cluster) : Turn → Cluster
  | .move m => s.move m
  | .poll _ id => (poll id s).2
  | .close _ id => close id s

/-- An empty platform after a sequence of turns. -/
def ofTurns (ts : List Turn) : Cluster := ts.foldl turn {}

/-- The object of a kind that is told to the watches at a turn, as it is stored then. -/
def announced? (s : Cluster) (k : Kind) : Turn → Option (Resource k)
  | .move m =>
    if m.isTold then
      (s.written? m).bind fun x => if x.1 = k then (s.move m).find? k x.2 else none
    else none
  | _ => none

/-- What is told to the watches on a kind, until all watches are ended. -/
def announced (k : Kind) : Cluster → List Turn → List (Resource k)
  | _, [] => []
  | s, t :: ts =>
    (s.announced? k t).toList ++ if t.endsWatches then [] else announced k (s.turn t) ts

/-- What is read from a watch at a turn. -/
def heard? (id : WatchId k) (s : Cluster) : Turn → Option (Result (Resource k))
  | .poll j other =>
    if j = k ∧ other.number = id.number then
      match (poll id s).1 with
      | .event e => some e
      | .waiting | .ended => none
    else none
  | _ => none

/-- What is read from a watch. -/
def heard (id : WatchId k) : Cluster → List Turn → List (Result (Resource k))
  | _, [] => []
  | s, t :: ts => (heard? id s t).toList ++ heard id (s.turn t) ts

/-! ## Moves -/

/-- What a move does to the watches: it tells them the object that it writes, it opens one, it ends
    them all, or it leaves them alone. -/
inductive Telling (s : Cluster) (m : Move) : Prop
  | object {k : Kind} {name : String} (r : Resource k) (htold : m.isTold = true)
    (hwritten : s.written? m = some (k, name)) (hfind : (s.move m).find? k name = some r)
    (hs : (s.move m).subscriptions = (s.notify r).subscriptions)
  | opened {k : Kind} {selector : String} (hm : m = .call (.watch k selector))
  | ended (hm : m = .act .dropWatches)
  | nothing (htold : m.isTold = true → s.written? m = none)
    (hends : (Turn.move m).endsWatches = false) (hs : (s.move m).subscriptions = s.subscriptions)

/-- A move that stores an object, and notifies the watches of it, tells them this object. -/
theorem telling_of_notify {name : String} {r : Resource k} (htold : m.isTold = true)
    (hwritten : s.written? m = some (k, name)) (hmove : s.move m = s'.notify r)
    (hfind : s'.find? k name = some r) (hs : s'.subscriptions = s.subscriptions) :
    Telling s m := by
  refine .object r htold hwritten ?_ ?_
  · rw [hmove]
    exact hfind
  · rw [hmove]
    unfold notify
    rw [hs]

theorem telling_startBuild {base : String} {op : Operation} (htold : m.isTold = true)
    (hmove : s.move m = (s.startBuild base op).2)
    (hwritten : s.written? m = (s.startBuild base op).1.toOption.map fun b => (.build, b.name)) :
    Telling s m := by
  unfold startBuild at hmove hwritten
  split at hmove
  next hnone =>
    rw [hnone] at hwritten
    exact .nothing (fun _ => hwritten) (Turn.endsWatches_of_isTold htold) (by rw [hmove])
  next bc hbc =>
    rw [hbc] at hwritten
    exact telling_of_notify htold hwritten hmove (find?_store_self _ _ _) rfl

theorem telling_create (s : Cluster) (r : Resource k) : Telling s (.call (.create k r)) := by
  have hmove : s.move (.call (.create k r)) = (s.create r).2 := rfl
  have hwritten : s.written? (.call (.create k r)) =
      (s.create r).1.toOption.map fun _ => (k, r.name) := rfl
  unfold create at hmove hwritten
  dsimp only at hmove hwritten
  split at hmove
  next htaken =>
    rw [if_pos htaken] at hwritten
    exact .nothing (fun _ => hwritten) rfl (by rw [hmove])
  next hfree =>
    rw [if_neg hfree] at hwritten
    exact telling_of_notify rfl hwritten hmove (find?_store_self _ _ _) rfl

theorem telling_replace (s : Cluster) (name : String) (r : Resource k) :
    Telling s (.call (.replace k name r)) := by
  have hmove : s.move (.call (.replace k name r)) = (s.replace name r).2 := rfl
  have hwritten : s.written? (.call (.replace k name r)) =
      (s.replace name r).1.toOption.map fun _ => (k, name) := rfl
  unfold replace at hmove hwritten
  split at hmove
  next hnone =>
    rw [hnone] at hwritten
    exact .nothing (fun _ => hwritten) rfl (by rw [hmove])
  next x hx =>
    rw [hx] at hwritten
    dsimp only at hwritten
    split at hmove
    next hstale =>
      rw [if_pos hstale] at hwritten
      exact .nothing (fun _ => hwritten) rfl (by rw [hmove])
    next hcurrent =>
      rw [if_neg hcurrent] at hwritten
      exact telling_of_notify rfl hwritten hmove (find?_store_self _ _ _) rfl

theorem telling_setBuildPhase (s : Cluster) (name : String) (phase : BuildPhase)
    (image : Option String) : Telling s (.act (.setBuildPhase name phase image)) := by
  have hmove : s.move (.act (.setBuildPhase name phase image)) =
      (s.setBuildPhase name phase image).getD s := rfl
  have hwritten : s.written? (.act (.setBuildPhase name phase image)) =
      (s.find? .build name).map fun _ => (.build, name) := rfl
  unfold setBuildPhase at hmove
  cases hb : s.find? .build name with
  | none =>
    rw [hb] at hmove hwritten
    exact .nothing (fun _ => hwritten) rfl (by rw [hmove]; rfl)
  | some b =>
    rw [hb] at hmove hwritten
    exact telling_of_notify rfl hwritten hmove (find?_store_self _ _ _) rfl

theorem telling_move (s : Cluster) (m : Move) : Telling s m := by
  cases m with
  | call c =>
    cases c with
    | get | list => exact .nothing nofun rfl rfl
    | watch k selector => exact .opened rfl
    | instantiateBuild name => exact telling_startBuild rfl rfl rfl
    | submitBinaryBuild name file content => exact telling_startBuild rfl rfl rfl
    | create k r => exact telling_create s r
    | replace k name r => exact telling_replace s name r
    | delete k name => exact .nothing nofun rfl (sameWatches_delete s k name).subscriptions_eq
    | awaitDeleted k name uid =>
      exact .nothing nofun rfl (sameWatches_awaitDeleted s k name uid).subscriptions_eq
    | rollout name => exact .nothing nofun rfl (sameWatches_rollout s name).subscriptions_eq
  | act a =>
    cases a with
    | injectConflict | terminateGracefully | insert => exact .nothing nofun rfl rfl
    | dropWatches => exact .ended rfl
    | setBuildPhase name phase image => exact telling_setBuildPhase s name phase image

/-! ## Watches -/

/-- From one state to another a watch was told objects, of which it has taken those that its
    selector matches unless it was ended before, and some of what it held was read. -/
structure Relays (w w' : Subscription k) (told : List (Resource k))
    (heard : List (Result (Resource k))) (ended : Bool) : Prop where
  selector_eq : w'.selector = w.selector
  isOpen_eq : w'.isOpen = w.isOpen
  hasSource_eq : w'.hasSource = (w.hasSource && !ended)
  queue_eq : heard ++ w'.queue.map .ok = (w.queue ++ if w.hasSource then
    told.filter fun r => Labels.satisfies r.labels w.selector else []).map .ok

theorem Relays.refl (w : Subscription k) : Relays w w [] [] false where
  selector_eq := rfl
  isOpen_eq := rfl
  hasSource_eq := by rw [Bool.not_false, Bool.and_true]
  queue_eq := by rw [List.filter_nil, ite_self, List.append_nil, List.nil_append]

theorem Relays.trans {told told' : List (Resource k)} {heard heard' : List (Result (Resource k))}
    {ended ended' : Bool} (h : Relays w w' told heard ended)
    (h' : Relays w' w'' told' heard' ended') :
    Relays w w'' (told ++ if ended then [] else told') (heard ++ heard') (ended || ended') where
  selector_eq := h'.selector_eq.trans h.selector_eq
  isOpen_eq := h'.isOpen_eq.trans h.isOpen_eq
  hasSource_eq := by rw [h'.hasSource_eq, h.hasSource_eq, Bool.not_or, Bool.and_assoc]
  queue_eq := by
    rw [List.append_assoc, h'.queue_eq, List.map_append, ← List.append_assoc, h.queue_eq,
      ← List.map_append, h.selector_eq, h.hasSource_eq]
    cases w.hasSource <;> cases ended <;> simp

theorem relays_told (r : Resource k) (hopen : w.isOpen = true) :
    Relays w (told r w) [r] [] false where
  selector_eq := by
    unfold told
    split <;> rfl
  isOpen_eq := isOpen_told r w
  hasSource_eq := by
    unfold told
    split <;> exact (Bool.and_true _).symm
  queue_eq := by
    unfold told
    rw [hopen, Bool.and_true, List.filter_singleton]
    cases w.hasSource <;> cases Labels.satisfies r.labels w.selector <;> simp

theorem relays_move (h : s.subscription? id = some w) (hopen : w.isOpen = true) (m : Move) :
    ∃ w', (s.move m).subscription? id = some w' ∧
      Relays w w' (s.announced? k (.move m)).toList [] (Turn.move m).endsWatches := by
  cases telling_move s m with
  | @object j name r htold hwritten hfind hs =>
    have hsub : (s.move m).subscription? id = (s.notify r).subscription? id :=
      subscription?_congr (by rw [hs]) id
    rw [Turn.endsWatches_of_isTold htold, announced?, if_pos htold, hwritten, Option.bind_some]
    by_cases hj : k = j
    · subst hj
      rw [if_pos rfl, hfind]
      refine ⟨told r w, hsub.trans ?_, relays_told r hopen⟩
      rw [subscription?_notify, h, Option.map_some]
    · rw [if_neg fun he => hj he.symm]
      exact ⟨w, hsub.trans ((subscription?_notify_of_ne s r hj id).trans h), .refl w⟩
  | opened hm =>
    subst hm
    exact ⟨w, subscription?_watch h, .refl w⟩
  | ended hm =>
    subst hm
    refine ⟨{ w with hasSource := false }, ?_, rfl, rfl, (Bool.and_false _).symm, ?_⟩
    · exact (subscription?_dropWatches s id).trans (congrArg _ h)
    · exact (Relays.refl w).queue_eq
  | nothing htold hends hs =>
    have hnone : s.announced? k (.move m) = none := by
      unfold announced?
      dsimp only
      split
      next hm => rw [htold hm, Option.bind_none]
      · rfl
    rw [hnone, hends]
    exact ⟨w, (subscription?_congr (by rw [hs]) id).trans h, .refl w⟩

/-- The watch that is polled hands out what it has held for longest. -/
theorem relays_poll_self (h : s.subscription? id = some w) :
    ∃ w', (poll id s).2.subscription? id = some w' ∧
      Relays w w' [] (heard? id s (.poll k id)).toList false := by
  rw [heard?, if_pos ⟨rfl, rfl⟩]
  cases hq : w.queue with
  | nil =>
    rw [poll_nil h hq]
    refine ⟨w, h, ?_⟩
    cases w.hasSource <;> exact .refl w
  | cons r rest =>
    obtain ⟨s', hpoll, hs'⟩ := poll_cons h hq
    rw [hpoll]
    refine ⟨_, hs', rfl, rfl, (Bool.and_true _).symm, ?_⟩
    rw [List.filter_nil, ite_self, List.append_nil, hq]
    rfl

theorem relays_poll (h : s.subscription? id = some w) (j : Kind) (other : WatchId j) :
    ∃ w', (poll other s).2.subscription? id = some w' ∧
      Relays w w' [] (heard? id s (.poll j other)).toList false := by
  by_cases hself : j = k ∧ other.number = id.number
  · obtain ⟨rfl, hnumber⟩ := hself
    obtain rfl : other = id := congrArg WatchId.mk hnumber
    exact relays_poll_self h
  · have hne : k = j → other.number ≠ id.number := fun hj hnumber => hself ⟨hj.symm, hnumber⟩
    rw [heard?, if_neg hself]
    exact ⟨w, (subscription?_poll_of_ne s hne).trans h, .refl w⟩

/-- At a turn a watch that is not closed takes what is told to it, and it hands out what is read. -/
theorem relays_turn (h : s.subscription? id = some w) (hopen : w.isOpen = true)
    (hne : t ≠ .close k id) :
    ∃ w', (s.turn t).subscription? id = some w' ∧
      Relays w w' (s.announced? k t).toList (heard? id s t).toList t.endsWatches := by
  cases t with
  | move m => exact relays_move h hopen m
  | poll j other => exact relays_poll h j other
  | close j other =>
    have hnumber : k = j → other.number ≠ id.number := by
      rintro rfl hnumber
      obtain rfl : other = id := congrArg WatchId.mk hnumber
      exact hne rfl
    exact ⟨w, (subscription?_close_of_ne s hnumber).trans h, .refl w⟩

theorem relays_turns (h : s.subscription? id = some w) (hopen : w.isOpen = true)
    (hts : Turn.close k id ∉ ts) :
    ∃ w', (ts.foldl turn s).subscription? id = some w' ∧
      Relays w w' (announced k s ts) (heard id s ts) (ts.any Turn.endsWatches) := by
  induction ts generalizing s w with
  | nil => exact ⟨w, h, .refl w⟩
  | cons t ts ih =>
    obtain ⟨hne, hts⟩ := not_or.1 (List.mem_cons.not.1 hts)
    obtain ⟨w₁, h₁, hrelays₁⟩ := relays_turn h hopen (Ne.symm hne)
    obtain ⟨w₂, h₂, hrelays₂⟩ := ih h₁ (hrelays₁.isOpen_eq.trans hopen) hts
    exact ⟨w₂, h₂, hrelays₁.trans hrelays₂⟩

/-! ## Runs -/

theorem FreshOn.turn (h : s.FreshOn k) (t : Turn) : (s.turn t).FreshOn k := by
  cases t with
  | move m =>
    cases m with
    | call c => exact h.answer c
    | act a =>
      unfold Cluster.turn move
      dsimp only
      cases ha : s.act a with
      | none => exact h
      | some s' => exact h.act ha
  | poll j other => exact h.poll other
  | close j other => exact h.close other

theorem freshOn_ofTurns (k : Kind) (ts : List Turn) : (ofTurns ts).FreshOn k := by
  have hempty : FreshOn k {} := by
    intro id _
    unfold subscription?
    rw [PerKind.of_ofFun]
    rfl
  have hturns : ∀ s : Cluster, s.FreshOn k → (ts.foldl Cluster.turn s).FreshOn k := by
    induction ts with
    | nil => exact fun s h => h
    | cons t ts ih => exact fun s h => ih _ (h.turn t)
  exact hturns {} hempty

theorem heard_append (id : WatchId k) (s : Cluster) (ts ts' : List Turn) :
    heard id s (ts ++ ts') = heard id s ts ++ heard id (ts.foldl turn s) ts' := by
  induction ts generalizing s with
  | nil => rfl
  | cons t ts ih => rw [List.cons_append, heard, heard, ih, List.append_assoc, List.foldl_cons]

/-- By polling on, all that a watch holds is read. -/
theorem heard_polls (h : s.subscription? id = some w) :
    heard id s (.replicate w.queue.length (.poll k id)) = w.queue.map .ok := by
  induction hq : w.queue generalizing s w with
  | nil => rfl
  | cons r rest ih =>
    obtain ⟨s', hpoll, hs'⟩ := poll_cons h hq
    have hread : heard? id s (.poll k id) = some (.ok r) := by
      rw [heard?, if_pos ⟨rfl, rfl⟩, hpoll]
    have hturn : s.turn (.poll k id) = s' := congrArg Prod.snd hpoll
    rw [List.length_cons, List.replicate_succ, heard, hread, hturn, ih hs' rfl]
    rfl

/-- What is read from a watch that is not closed is what it began with and what was told to it, in
    this order, and by reading on all of it is read. -/
theorem heard_watch (hs : s.FreshOn k) (selector : String)
    (hts : Turn.close k ⟨s.watchCount⟩ ∉ ts) :
    let id : WatchId k := ⟨s.watchCount⟩
    let s' := (s.watch k selector).2
    let events := ((s.objects.of k).values ++ announced k s' ts).filter fun r =>
      Labels.satisfies r.labels selector
    heard id s' ts <+: events.map .ok ∧
      ∃ n, heard id s' (ts ++ .replicate n (.poll k id)) = events.map .ok := by
  intro id s' events
  obtain ⟨w, hw, hrelays⟩ := relays_turns (hs.subscription?_watch selector) rfl hts
  have hevents : heard id s' ts ++ w.queue.map .ok = events.map .ok := by
    rw [hrelays.queue_eq, if_pos rfl]
    exact congrArg _ (List.filter_append _ _).symm
  refine ⟨⟨_, hevents⟩, w.queue.length, ?_⟩
  rw [heard_append, heard_polls hw, hevents]

/-! ## Applications -/

theorem matching_appSelector (h : app.IsPlain) (s : Cluster) (k : Kind) :
    s.matching k (Labels.appSelector app) =
      (s.objects.of k).values.filter (Resource.belongsTo app) :=
  congrArg (fun p => (s.objects.of k).values.filter p) (Labels.satisfies_appSelector_eq h)

/-- The selector of an application selects the labels that have its id, so no two applications
    select the same object. A listing by it answers with the objects of the kind that bear this
    label. A watch by it tells those that there are when it is opened and those that it is told
    until all watches are ended: nothing else is read from it while it is open, and all of them are
    by reading on. -/
theorem appSelector_exact (name : String) (group : Option String) :
    let app := AppId.ofParts name group
    let selector := Labels.appSelector app
    (∀ labels, Labels.satisfies labels selector = true ↔
      labels.get? Labels.appIdKey = some app.text) ∧
    (∀ name' group' labels, Labels.satisfies labels selector = true →
      Labels.satisfies labels (Labels.appSelector (.ofParts name' group')) = true →
      app = .ofParts name' group') ∧
    (∀ k s, (answer (.list k selector) s).1 =
      .ok ((s.objects.of k).values.filter (Resource.belongsTo app))) ∧
    ∀ k before, ∃ id s, answer (.watch k selector) (ofTurns before) = (.ok id, s) ∧
      ∀ after, Turn.close k id ∉ after →
        let events := (((ofTurns before).objects.of k).values ++ announced k s after).filter
          (Resource.belongsTo app)
        heard id s after <+: events.map .ok ∧
        ∃ n, heard id s (after ++ .replicate n (.poll k id)) = events.map .ok := by
  intro app selector
  have hplain : app.IsPlain := AppId.isPlain_ofParts name group
  refine ⟨Labels.satisfies_appSelector hplain, fun name' group' labels hs hs' => ?_,
    fun k s => ?_, fun k before => ⟨_, _, rfl, fun after hafter => ?_⟩⟩
  · exact Labels.eq_of_satisfies hplain (AppId.isPlain_ofParts name' group') hs hs'
  · exact congrArg Except.ok (matching_appSelector hplain s k)
  · have hheard := heard_watch (freshOn_ofTurns k before) selector hafter
    rwa [Labels.satisfies_appSelector_eq hplain] at hheard

/-- An image stream with labels. -/
def labelledStream (name : String) (labels : Attributes) : ImageStream :=
  ⟨.ofLabels name labels, { }, none⟩

/-- Image streams of the application without a name, of another one and of none. -/
def unnamedApp : List Turn :=
  let labels (app : String) : Attributes := Dict.empty.insert Labels.appIdKey app
  [.move (.call (.create .imageStream (labelledStream "first" (labels "")))),
    .move (.call (.create .imageStream (labelledStream "ticker" (labels "ticker")))),
    .move (.act (.insert .imageStream (labelledStream "unlabelled" ∅)))]

/-- One more of either application comes later, and one of the first when all watches were ended. -/
def unnamedAppRead : List Turn :=
  let labels (app : String) : Attributes := Dict.empty.insert Labels.appIdKey app
  [.poll .imageStream ⟨0⟩,
    .move (.call (.create .imageStream (labelledStream "other-ticker" (labels "ticker")))),
    .move (.call (.create .imageStream (labelledStream "second" (labels "")))),
    .move (.act .dropWatches),
    .move (.call (.create .imageStream (labelledStream "third" (labels "")))),
    .poll .imageStream ⟨0⟩]

theorem appSelector_exact_unnamedApp :
    (AppId.ofParts "--" none).text = "" ∧
    ∃ id s, answer (.watch .imageStream (Labels.appSelector (.ofParts "--" none)))
        (ofTurns unnamedApp) = (.ok id, s) ∧
      Turn.close .imageStream id ∉ unnamedAppRead ∧
      (heard id s unnamedAppRead).map (·.toOption.map Resource.name) =
        [some "first", some "second"] ∧
      heard id s unnamedAppRead <+:
        ((((ofTurns unnamedApp).objects.of .imageStream).values ++
          announced .imageStream s unnamedAppRead).filter
            (Resource.belongsTo (.ofParts "--" none))).map .ok := by
  obtain ⟨-, -, -, hwatch⟩ := appSelector_exact "--" none
  obtain ⟨id, s, hopened, hread⟩ := hwatch .imageStream unnamedApp
  cases hopened
  have hclose : Turn.close .imageStream ⟨(ofTurns unnamedApp).watchCount⟩ ∉ unnamedAppRead := by
    simp [unnamedAppRead]
  exact ⟨by decide +kernel, _, _, rfl, hclose, by decide +kernel, (hread _ hclose).1⟩

end Cluster

end Slipway

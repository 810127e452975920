import Slipway.Proofs.Deploy.Order
import Slipway.Proofs.Pipeline.Prepare
import Slipway.Proofs.Session.Runs

/-
  Where the builds of a run come from. An event of a managed run starts at most one build, and one
  that is made for the event's own request (`Order.Makes`), or moves one build on
  (`Event.buildChange`). So after a run every build was started by an event of the run
  (`exists_startedBy`), under a name that no build had before, and it still pushes to the tag of
  that event's request (`outputTag?_of_startedBy`).
-/

namespace Slipway

open Cluster Deployer

/-- What an event needs an image of: a request under an id, on behalf of a deployer. -/
structure Order where
  deployer : Deployer
  request : Request
  id : AppId

namespace Order

/-- The tag that a build for the request pushes to. -/
def tag (o : Order) : String := BuildPlan.outputTag o.deployer.config o.request o.id

/-- A build is made for an order: it pushes to its tag, bears its labels, and carries the
    fingerprint of its content, for which no earlier build of the platform could be used. -/
structure Makes (o : Order) (s : Cluster) (b : Build) : Prop where
  outputTag?_eq : b.outputTag? = some o.tag
  labels_eq : b.labels = Labels.base o.id o.request
  content : ∃ content, BuildHistory.carries (Fingerprint.of content) b = true ∧
    BuildHistory.toReuse? o.request o.deployer.config
      (s.matching .build (Labels.appSelector o.id)) (Fingerprint.of content) = .ok none

end Order

namespace Event

def order? : Event → Option Order
  | step d (.deploy r) => some ⟨d, r, r.appId⟩
  | step d (.launch r _) => some ⟨d, r, r.appId⟩
  | step d (.prepare r id _) => some ⟨d, r, id⟩
  | _ => none

end Event

/-! ## One event -/

section Change

variable {s : Cluster} {d : Deployer} {r : Request} {Q : String → BuildPhase → Prop}

theorem prepare_buildChange (s : Cluster) (d : Deployer) (r : Request) (id : AppId) :
    BuildChange s (s.perform (d.prepare r id (Labels.base id r))).2
      (Order.Makes ⟨d, r, id⟩ s) Q := by
  have hp := prepare_provision d r id (Labels.base id r) s
  rcases hout : s.perform (d.prepare r id (Labels.base id r)) with ⟨p, s'⟩
  rw [hout] at hp
  cases hp with
  | failed hbuilds => exact .none hbuilds
  | ready hi => exact .none rfl
  | earlier hc he => exact .none rfl
  | @commissioned content b _ hc he hb =>
    obtain ⟨bc, hs⟩ := hb.started
    exact .started hs ⟨hb.outputTag?_eq, hb.labels_eq, content, hb.carries, he⟩

/-- What follows an image changes no build. -/
theorem buildChange_bind {α β : Type} {P : Build → Prop} {a : Action α} {f : α → Action β}
    (ha : BuildChange s (s.perform a).2 P Q) (hf : ∀ x, (f x).Only fun c => ¬ c.Changes .build) :
    BuildChange s (s.perform (a >>= f)).2 P Q := by
  rw [perform_bind]
  rcases hs : s.perform a with ⟨e | x, s₁⟩
  · rwa [hs] at ha
  · rw [hs] at ha
    exact ha.of_builds_eq (objects_of_perform (hf x) s₁)

theorem deploy_buildChange (s : Cluster) (d : Deployer) (r : Request) :
    BuildChange s (s.perform (d.deploy r)).2 (Order.Makes ⟨d, r, r.appId⟩ s) Q := by
  rw [deploy_eq, perform_bind, perform_ofResult]
  rcases ho : DeployOrder.ofRequest d.config r with e | order
  · exact .none rfl
  · have horder := DeployOrder.ofRequest_eq_ok ho
    dsimp only
    rw [horder.id, horder.labels]
    exact buildChange_bind (prepare_buildChange s d r r.appId) fun prepared =>
      runInstances_not_changes (by decide) (by decide) (by decide) order prepared

theorem launch_buildChange (s : Cluster) (d : Deployer) (r : Request) :
    BuildChange s (s.perform (d.launch r)).2 (Order.Makes ⟨d, r, r.appId⟩ s) Q := by
  rw [launch_eq, perform_bind, perform_ofResult]
  rcases ho : TaskOrder.ofRequest d.config r with e | order
  · exact .none rfl
  · obtain ⟨hid, hlabels⟩ := TaskOrder.ofRequest_eq_ok ho
    dsimp only
    rw [hid, hlabels]
    exact buildChange_bind (prepare_buildChange s d r r.appId) fun prepared =>
      only_runTask order prepared (fun pod => Reconcile.only_not_changes pod (by decide))
        fun _ _ => not_false

end Change

namespace Event

/-- The steps that neither ask for an image nor make calls from outside leave builds alone. -/
theorem only_of_order?_none {d : Deployer} {st : Step} (hm : (step d st).IsManaged)
    (ho : (step d st).order? = none) : st.Only d fun c => ¬ c.Changes .build := by
  cases st with
  | deploy | prepare | launch => cases ho
  | reconcile | call => exact hm.elim
  | undeploy id =>
    refine only_undeploy id (fun _ _ => not_false) fun k name hk hc => ?_
    rcases hk with rfl | rfl | rfl <;> cases hc
  | cancel id =>
    refine only_deleteIfPresent _ fun hc => ?_
    cases hc
  | status id => exact only_status id fun _ _ => not_false
  | taskStatus id => exact only_taskStatus id (fun _ => not_false) fun _ _ => not_false
  | watch | watchEvents => exact not_false
  | wait | detach | watchState | watchClose | watchCompletion => trivial

theorem take_buildChange (d : Deployer) (st : Step) (hm : (step d st).IsManaged)
    (s : Session Cluster) {Q : String → BuildPhase → Prop} :
    BuildChange s.platform (s.take d st).2.platform
      (fun b => ∃ o, (step d st).order? = some o ∧ o.Makes s.platform b) Q := by
  rcases ho : (step d st).order? with _ | o
  · exact .none (Session.take_keeps (kept_objects .build _) (only_of_order?_none hm ho)
      (fun _ _ _ _ => trivial) rfl)
  · cases st with
    | deploy r =>
      cases ho
      have hs : (s.take d (.deploy r)).2.platform = (s.platform.perform (d.deploy r)).2 :=
        congrArg Prod.snd (run_eq_perform _ _)
      rw [hs]
      exact (deploy_buildChange s.platform d r).mono fun b hb => ⟨_, rfl, hb⟩
    | prepare r id mode =>
      cases ho
      have hs : (s.take d (.prepare r id mode)).2.platform =
          (s.platform.perform (d.prepare r id (Labels.base id r))).2 :=
        congrArg Prod.snd (run_eq_perform _ _)
      rw [hs]
      exact (prepare_buildChange s.platform d r id).mono fun b hb => ⟨_, rfl, hb⟩
    | launch r handle =>
      cases ho
      have hs : (s.take d (.launch r handle)).2.platform = (s.platform.perform (d.launch r)).2 :=
        (Session.launch_platform d r handle s).trans (congrArg Prod.snd (run_eq_perform _ _))
      rw [hs]
      exact (launch_buildChange s.platform d r).mono fun b hb => ⟨_, rfl, hb⟩
    | _ => cases ho

/-- An event moves the build of a name to a phase. -/
def Moves (e : Event) (name : String) (phase : BuildPhase) : Prop :=
  ∃ image, e = act (.setBuildPhase name phase image)

theorem act_buildChange {P : Build → Prop} (a : Act) (hm : (act a).IsManaged)
    (s : Session Cluster) :
    BuildChange s.platform ((act a).apply s).platform P (act a).Moves := by
  rw [apply_act]
  rcases ha : s.platform.act a with _ | q
  · exact .none rfl
  refine BuildChange.of_builds_eq ?_ (objects_of_settle .build (by decide) _)
  cases a with
  | insert k object => exact hm.elim
  | injectConflict k name =>
    cases ha
    exact .none rfl
  | terminateGracefully k name =>
    cases ha
    exact .none rfl
  | dropWatches =>
    cases ha
    exact .none rfl
  | setBuildPhase name phase image =>
    obtain ⟨b, b', hb, rfl⟩ := setBuildPhase_eq_some ha
    exact .moved hb ⟨image, rfl⟩

/-- An event does one thing to the builds at most. One that it starts is made for the event's own
    request, and one that it moves is moved from outside. -/
theorem buildChange (e : Event) (hm : e.IsManaged) (s : Session Cluster) :
    BuildChange s.platform (e.apply s).platform
      (fun b => ∃ o, e.order? = some o ∧ o.Makes s.platform b) e.Moves := by
  cases e with
  | step d st =>
    exact (take_buildChange d st hm s).of_builds_eq (objects_of_settle .build (by decide) _)
  | act a => exact act_buildChange a hm s

end Event

/-! ## Runs -/

variable {run : List Event} {name : String} {b : Build} {o : Order}

theorem numbered_ofRun (hm : ∀ e ∈ run, e.IsManaged) :
    (Session.ofRun run).platform.Numbered :=
  Session.ofRun_keeps numbered_empty fun e he s hs => (e.buildChange (hm e he) s).numbered hs

/-- A build was started by the event of a run that an order belongs to: its name was free before
    that event and taken after it. -/
def StartedBy (run : List Event) (name : String) (o : Order) : Prop :=
  ∃ before e after, run = before ++ e :: after ∧ e.order? = some o ∧
    (Session.ofRun before).platform.find? .build name = none ∧
    ((Session.ofRun (before ++ [e])).platform.find? .build name).isSome

theorem StartedBy.concat (h : StartedBy run name o) (e : Event) :
    StartedBy (run ++ [e]) name o := by
  obtain ⟨before, e', after, rfl, ho, hn, hs⟩ := h
  exact ⟨before, e', after ++ [e], by simp, ho, hn, hs⟩

/-- Every build that is there after a run was started by an event of the run. -/
theorem exists_startedBy (hm : ∀ e ∈ run, e.IsManaged)
    (hb : (Session.ofRun run).platform.find? .build name = some b) :
    ∃ o, StartedBy run name o := by
  induction run using List.reverseRecOn generalizing b with
  | nil => cases hb
  | append_singleton run e ih =>
    have hrun : ∀ e' ∈ run, e'.IsManaged := fun e' he' => hm e' (List.mem_append_left _ he')
    have hc := e.buildChange (hm e (by simp)) (Session.ofRun run)
    rw [← Session.ofRun_concat] at hc
    rcases hn : (Session.ofRun run).platform.find? .build name with _ | b₀
    · obtain ⟨o, ho, -⟩ := hc.of_new hn hb
      exact ⟨o, run, e, [], rfl, ho, hn, by rw [hb]; rfl⟩
    · obtain ⟨o, ho⟩ := ih hrun hn
      exact ⟨o, ho.concat e⟩

/-- A build that an event of a run started is still there, and pushes to the tag of the request of
    that event. -/
theorem exists_find?_of_startedBy (hm : ∀ e ∈ run, e.IsManaged) (h : StartedBy run name o) :
    ∃ b, (Session.ofRun run).platform.find? .build name = some b ∧ b.outputTag? = some o.tag := by
  obtain ⟨before, e, after, rfl, ho, hn, hs⟩ := h
  induction after using List.reverseRecOn with
  | nil =>
    obtain ⟨b, hb⟩ := Option.isSome_iff_exists.1 hs
    have hc := e.buildChange (hm e (by simp)) (Session.ofRun before)
    rw [← Session.ofRun_concat] at hc
    obtain ⟨o', ho', hmakes⟩ := hc.of_new hn hb
    rw [ho] at ho'
    cases ho'
    exact ⟨b, hb, hmakes.outputTag?_eq⟩
  | append_singleton after e' ih =>
    have happend : before ++ e :: (after ++ [e']) = (before ++ e :: after) ++ [e'] := by simp
    rw [happend] at hm ⊢
    have hrun : ∀ e' ∈ before ++ e :: after, e'.IsManaged := fun e' he' =>
      hm e' (List.mem_append_left _ he')
    obtain ⟨b, hb, htag⟩ := ih hrun
    have hc := e'.buildChange (hm e' (by simp)) (Session.ofRun (before ++ e :: after))
    rw [← Session.ofRun_concat] at hc
    obtain ⟨b', hb', hspec, -⟩ := hc.exists_find? (numbered_ofRun hrun) hb
    refine ⟨b', hb', ?_⟩
    unfold Resource.outputTag? at htag ⊢
    rwa [hspec]

theorem outputTag?_of_startedBy (hm : ∀ e ∈ run, e.IsManaged) (h : StartedBy run name o)
    (hb : (Session.ofRun run).platform.find? .build name = some b) :
    b.outputTag? = some o.tag := by
  obtain ⟨b', hb', htag⟩ := exists_find?_of_startedBy hm h
  rw [hb'] at hb
  cases hb
  exact htag

end Slipway

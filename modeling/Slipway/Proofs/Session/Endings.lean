import Slipway.Proofs.Session.Origins
import Slipway.Proofs.Session.Waiting

/-
  How the waiting of a task ends. An event ends it by moving the build to its last phase, by
  detaching the task, or by ending the watches (`Event.ending?`). The first event that does so
  brings the follower of the task to its end; until then it waits (`Waiting.apply`), and afterwards
  nothing changes (`Ended.after`). So what has come of the task is told by what ended its waiting
  first (`Waiting.after`).
-/

namespace Slipway

open Cluster BuildWatch

/-- What an event ends the waiting of the follower of a number with, which waits for a build of a
    name. A task that is waited for can not be detached. -/
def Event.ending? (e : Event) (n : Nat) (build : String) (s : Session Cluster) : Option Ending :=
  match e with
  | act (.setBuildPhase name phase _) =>
    if name = build ∧ phase.isTerminal then
      ((e.apply s).platform.find? .build build).map .phase
    else none
  | act .dropWatches => some .dropped
  | step _ (.detach handle) =>
    match s.launches.get? handle with
    | some l => if l.follower = some n ∧ l.waitedFor = false then some .detached else none
    | none => none
  | _ => none

/-! ## Phases of builds -/

namespace Cluster

variable {s s' : Cluster} {w : BuildWatch} {name : String} {phase : BuildPhase}
  {image : Option String}

/-- The build of a watch is one that its selector matches. -/
def Listed (s : Cluster) (w : BuildWatch) : Prop :=
  ∃ b, s.find? .build w.build = some b ∧ Labels.satisfies b.labels w.selector = true

theorem Listening.setBuildPhase_of_none (h : Listening w none false s) (hs : s.Numbered)
    (ha : s.setBuildPhase name phase image = some s')
    (hphase : ¬ (name = w.build ∧ phase.isTerminal = true)) : Listening w none false s' := by
  obtain ⟨b, b', hmoved, hb', htold, hcount⟩ := setBuildPhase_told ha
  refine h.of_told (b := b') (fun hname => ?_) (fun sub hsub => .inr ?_) (Nat.le_of_eq hcount.symm)
  · rw [hmoved.name_eq, hs.name_eq hmoved.find?_eq] at hname
    rw [hb']
    exact Bool.eq_false_iff.2 fun ht => hphase ⟨hname, ht⟩
  · rw [htold, hsub]
    rfl

/-- The watch of a build is told the last phase of the build. -/
theorem Listening.setBuildPhase_of_terminal (h : Listening w none false s)
    (hs : s.BuildsNamed w.selector) (hlisted : s.Listed w) (ha : s.setBuildPhase w.build phase image = some s')
    (hphase : phase.isTerminal = true) :
    ∃ t, s'.find? .build w.build = some t ∧ t.phase = phase ∧ Listening w (some t) false s' := by
  obtain ⟨b, t, hmoved, ht, htold, hcount⟩ := setBuildPhase_told ha
  obtain ⟨⟨sub, hsub, hselector, hopen, hsource, hend⟩, hlt⟩ := h
  obtain ⟨b', hb', hsatisfies⟩ := hlisted
  obtain rfl : b = b' := Option.some.inj (hmoved.find?_eq.symm.trans hb')
  have hname : t.name = w.build := hmoved.name_eq.trans (hs _ b hb' hsatisfies)
  have hmatch : (sub.hasSource && sub.isOpen && Labels.satisfies t.labels sub.selector) = true := by
    rw [hsource, hopen, hselector, hmoved.labels_eq, hsatisfies]
    rfl
  refine ⟨t, hmoved.find?_self, ht, ⟨told t sub, ?_, ?_⟩, hcount ▸ hlt⟩
  · rw [htold, hsub]
    rfl
  · unfold told
    rw [if_pos hmatch]
    refine ⟨hselector, hopen, hsource, ?_⟩
    have hdecisive : endOf? w.build (.ok t) = some t := by
      rw [endOf?, if_pos ⟨hname, ht ▸ hphase⟩]
    rw [List.map_append, decisive?_append_of_none hend, decisive?, List.map_singleton,
      List.findSome?_cons, hdecisive]

theorem Listening.dropWatches (h : Listening w none false s) :
    Listening w none true s.dropWatches := by
  obtain ⟨⟨sub, hsub, hselector, hopen, -, hend⟩, hlt⟩ := h
  refine ⟨⟨_, (subscription?_dropWatches s _).trans (by rw [hsub]; rfl), ?_⟩, hlt⟩
  exact ⟨hselector, hopen, rfl, hend⟩

end Cluster

namespace Session

variable {s : Session Cluster} {n : Nat} {p : PendingTask} {e : Event} {es : List Event}
  {d : Deployer} {st : Step} {f : Follower Continuation Yield}

/-! ## One event -/

/-- A task waits for a build that is there. -/
structure Waiting (s : Session Cluster) (n : Nat) (p : PendingTask) : Prop
    extends s.Poised n p none false where
  numbered : s.platform.Numbered
  listed : s.platform.Listed p.watch

theorem Poised.of_act {end₁ end₂ : Option Build} {dropped₁ dropped₂ : Bool} {a : Act}
    {q : Cluster} (h : s.Poised n p end₁ dropped₁) (hm : (Event.act a).IsManaged)
    (ha : s.platform.act a = some q) (hq : Listening p.watch end₂ dropped₂ q) :
    Poised { s with platform := q } n p end₂ dropped₂ :=
  ⟨h.sound.act hm ha, h.follower, h.unwatched, hq⟩

/-- Where the follower listens on, the task waits on. -/
theorem Waiting.of_poised (h : s.Waiting n p) (hm : e.IsManaged)
    (hp : (e.apply s).Poised n p none false) : (e.apply s).Waiting n p := by
  have hchange := e.buildChange hm s
  obtain ⟨b, hb, hsatisfies⟩ := h.listed
  obtain ⟨b', hb', -, hlabels⟩ := hchange.exists_find? h.numbered hb
  exact ⟨hp, hchange.numbered h.numbered, b', hb', hlabels ▸ hsatisfies⟩

/-- What has come of a task: it waits, and nothing was done for it, or its waiting has ended. -/
inductive Course (s : Session Cluster) (n : Nat) (p : PendingTask) (work : List Operation) :
    Option Ending → Prop
  | waiting (h : s.Waiting n p) (hw : work = []) : Course s n p work none
  | fared {x : Ending} (h : s.Fared n p x work) : Course s n p work (some x)

theorem Waiting.of_begun (h : s.Waiting n p) (hm : e.IsManaged) {s' : Session Cluster}
    (he : e.begun? s = some s') (hs' : s'.Poised n p none false) :
    Course (e.apply s) n p (e.turnOf n s) none := by
  have happly : e.apply s = s'.settle := by rw [Event.apply_eq, he]
  have hturn : e.turnOf n s = s'.turnOf n := by rw [Event.turnOf, he]
  obtain ⟨hsettle, hnil⟩ := hs'.settle
  exact .waiting (h.of_poised hm (happly ▸ hsettle)) (hturn.trans hnil)

/-- A step leaves a task waiting, unless it detaches it. -/
theorem Waiting.step (h : s.Waiting n p) (hm : (Event.step d st).IsManaged) :
    Course ((Event.step d st).apply s) n p ((Event.step d st).turnOf n s)
      ((Event.step d st).ending? n p.watch.build s) := by
  have hpoised : ¬ st.Stops s n → Course ((Event.step d st).apply s) n p
      ((Event.step d st).turnOf n s) none := fun hst =>
    h.of_begun hm rfl (h.toPoised.take hm hst)
  cases st with
  | detach handle =>
    unfold Event.ending?
    dsimp only
    split
    next l hl =>
      split
      next hstops =>
        obtain ⟨hn, hw⟩ := hstops
        obtain ⟨hended, hturn⟩ := (h.toPoised.ended_of_detach (d := d) hl hn hw).settle
        refine .fared ⟨_, hended, rfl, ?_⟩
        rw [Event.turnOf, Event.begun?]
        dsimp only
        rw [hturn]
        exact .detached
      next hstops =>
        refine hpoised ?_
        rintro ⟨l', hl', hn, hw⟩
        obtain rfl : l = l' := Option.some.inj (hl.symm.trans hl')
        exact hstops ⟨hn, hw⟩
    next hl =>
      refine hpoised ?_
      rintro ⟨l', hl', -⟩
      rw [hl] at hl'
      cases hl'
  | watchClose handle =>
    refine hpoised ?_
    rintro ⟨w, hw, hn⟩
    exact h.unwatched ⟨handle, w, hw, hn⟩
  | _ => exact hpoised not_false

/-- An act leaves a task waiting, unless it moves its build to the last phase or ends the
    watches. -/
theorem Waiting.act (h : s.Waiting n p) {a : Act} (hm : (Event.act a).IsManaged) :
    Course ((Event.act a).apply s) n p ((Event.act a).turnOf n s)
      ((Event.act a).ending? n p.watch.build s) := by
  have hbegun : ∀ {q}, s.platform.act a = some q →
      (Event.act a).begun? s = some { s with platform := q } := fun ha => by
    rw [Event.begun?, ha]
    rfl
  have hsettle : ∀ {q}, s.platform.act a = some q →
      (Event.act a).apply s = settle { s with platform := q } := fun ha => by
    rw [Event.apply_eq, hbegun ha]
  have hturn : ∀ {q}, s.platform.act a = some q →
      (Event.act a).turnOf n s = turnOf { s with platform := q } n := fun ha => by
    rw [Event.turnOf, hbegun ha]
  cases a with
  | insert k object => exact hm.elim
  | injectConflict k name =>
    exact h.of_begun hm rfl (h.toPoised.of_act hm rfl (h.listening.congr rfl (Nat.le_refl _)))
  | terminateGracefully k name =>
    exact h.of_begun hm rfl (h.toPoised.of_act hm rfl (h.listening.congr rfl (Nat.le_refl _)))
  | dropWatches =>
    exact .fared (h.toPoised.of_act hm rfl h.listening.dropWatches).settle_of_dropped
  | setBuildPhase name phase image =>
    rcases ha : s.platform.setBuildPhase name phase image with _ | q
    · -- there is no such build, so it is not the one that is waited for
      have hne : name ≠ p.watch.build := by
        rintro rfl
        obtain ⟨b, hb, -⟩ := h.listed
        have hnone := Option.map_eq_none_iff.1 ha
        rw [hb] at hnone
        cases hnone
      have hnone : s.platform.act (.setBuildPhase name phase image) = none := ha
      rw [Event.ending?, if_neg fun hc => hne hc.1, Event.apply_eq, Event.turnOf, Event.begun?,
        hnone]
      exact .waiting h rfl
    · by_cases hc : name = p.watch.build ∧ phase.isTerminal = true
      · obtain ⟨rfl, hphase⟩ := hc
        obtain ⟨t, ht, -, hlistening⟩ :=
          h.listening.setBuildPhase_of_terminal (h.numbered.buildsNamed _) h.listed ha hphase
        have hfind : (settle { s with platform := q }).platform.find? .build p.watch.build =
            some t :=
          (find?_congr (objects_of_settle .build (by decide) _) _).trans ht
        rw [Event.ending?, if_pos ⟨rfl, hphase⟩, hsettle ha, hturn ha, hfind]
        exact .fared (h.toPoised.of_act hm ha hlistening).settle_of_phase
      · rw [Event.ending?, if_neg hc]
        exact h.of_begun hm (hbegun ha)
          (h.toPoised.of_act hm ha (h.listening.setBuildPhase_of_none h.numbered ha hc))

/-- An event leaves a task waiting, or it ends its waiting and brings it to its fate. -/
theorem Waiting.apply (h : s.Waiting n p) (hm : e.IsManaged) :
    Course (e.apply s) n p (e.turnOf n s) (e.ending? n p.watch.build s) := by
  cases e with
  | step d st => exact h.step hm
  | act a => exact h.act hm

/-! ## The course of events -/

/-- What ended the waiting first in the course of some events, if anything did. -/
def firstEnding? (n : Nat) (build : String) : Session Cluster → List Event → Option Ending
  | _, [] => none
  | s, e :: es =>
    match e.ending? n build s with
    | some x => some x
    | none => firstEnding? n build (e.apply s) es

theorem Ended.after (h : s.Ended n f) (hm : ∀ e ∈ es, e.IsManaged) :
    (s.after es).Ended n f ∧ workOf n s es = [] := by
  induction es generalizing s with
  | nil => exact ⟨h, rfl⟩
  | cons e es ih =>
    obtain ⟨he, hturn⟩ := h.apply (hm e (.head _))
    obtain ⟨hes, hwork⟩ := ih he fun e' he' => hm e' (.tail _ he')
    refine ⟨hes, ?_⟩
    rw [workOf, hturn, hwork]
    rfl

/-- What has come of a task in the course of some events is told by what ended its waiting
    first. -/
theorem Waiting.after (h : s.Waiting n p) (hm : ∀ e ∈ es, e.IsManaged) :
    Course (s.after es) n p (workOf n s es) (firstEnding? n p.watch.build s es) := by
  induction es generalizing s with
  | nil => exact .waiting h rfl
  | cons e es ih =>
    have hes : ∀ e' ∈ es, e'.IsManaged := fun e' he' => hm e' (.tail _ he')
    have hcourse := h.apply (hm e (.head _))
    rw [workOf, firstEnding?]
    rcases hx : e.ending? n p.watch.build s with _ | x
    · rw [hx] at hcourse
      cases hcourse with
      | waiting hwaiting hturn =>
        rw [hturn, List.nil_append]
        exact ih hwaiting hes
    · rw [hx] at hcourse
      cases hcourse with
      | fared hfared =>
        obtain ⟨f, hended, hf, hfate⟩ := hfared
        obtain ⟨hafter, hwork⟩ := hended.after hes
        rw [hwork, List.append_nil]
        exact .fared ⟨f, hafter, hf, hfate⟩

end Session

end Slipway

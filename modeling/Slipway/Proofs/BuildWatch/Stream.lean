import Mathlib.Logic.Basic
import Slipway.Proofs.Program.Run
import Slipway.Session

/-
  Following a build on any stream of events. A `Feed` is a world in which one stream is told, which
  may end or stay open. What comes of following is decided by the first event that tells the end of
  the build, by `decisive?`: errors, other builds and earlier phases are passed over
  (`follow_feed`). If the build is complete, the stream is dropped and then the continuation runs,
  once and with this very build; otherwise it never runs (`advance_feed`).
-/

namespace Slipway

variable {σ κ α : Type} {k : Kind}

/-! ## Streams -/

/-- A world, and the stream of builds that is told in it: the events that come, and whether it ends
    after them. -/
structure Feed (σ : Type) where
  world : σ
  events : List (Result Build)
  ended : Bool

namespace Feed

/-- The next event of the stream. Of other kinds nothing is told. -/
def poll : (k : Kind) → Feed σ → Poll k × Feed σ
  | .build, s =>
    match s.events with
    | e :: rest => (.event e, { s with events := rest })
    | [] => (if s.ended then .ended else .waiting, s)
  | _, s => (.waiting, s)

/-- Drops the stream. The world learns of it, and nothing more is told. -/
def drop [Platform σ] (s : Feed σ) (id : WatchId k) : Feed σ :=
  { s with world := Platform.close id s.world, events := [] }

instance [Platform σ] : Platform (Feed σ) where
  answer c s := ((Platform.answer c s.world).1, { s with world := (Platform.answer c s.world).2 })
  poll {k} _ s := s.poll k
  close id s := s.drop id
  backlog s := s.events.length

theorem program_run_world [Platform σ] (p : Program α) (s : Feed σ) :
    p.run s = ((p.run s.world).1, { s with world := (p.run s.world).2 }) := by
  induction p generalizing s with
  | done x => rfl
  | call c next ih =>
    have ha : Platform.answer c s =
      ((Platform.answer c s.world).1, { s with world := (Platform.answer c s.world).2 }) := rfl
    simp only [Program.run]
    rw [ha]
    rcases Platform.answer c s.world with ⟨_ | r, q⟩
    · rfl
    · exact ih r _

/-- An action works on the world and leaves the stream alone. -/
theorem run_world [Platform σ] (a : Action α) (s : Feed σ) :
    a.run s = ((a.run s.world).1, { s with world := (a.run s.world).2 }) :=
  program_run_world _ s

end Feed

/-! ## The event that decides -/

namespace BuildWatch

/-- The build that an event tells the end of, if it is the build that is followed. -/
def endOf? (build : String) : Result Build → Option Build
  | .error _ => none
  | .ok b => if b.name = build ∧ b.phase.isTerminal then some b else none

/-- The build as the first event tells it that tells its end. -/
def decisive? (build : String) (events : List (Result Build)) : Option Build :=
  events.findSome? (endOf? build)

theorem decisive?_append {build : String} {es rest : List (Result Build)} {t : Build}
    (h : decisive? build es = some t) : decisive? build (es ++ rest) = some t := by
  rw [decisive?, List.findSome?_append, ← decisive?, h]
  rfl

theorem decisive?_append_of_none {build : String} {es rest : List (Result Build)}
    (h : decisive? build es = none) : decisive? build (es ++ rest) = decisive? build rest := by
  rw [decisive?, List.findSome?_append, ← decisive?, h]
  rfl

/-- The failure that the end of a build means which is not complete. It tells the phase and the
    message, which is empty where there is none. -/
def failureOf (build : String) (t : Build) : Failure :=
  .buildFailed build t.phase (((t.status : Option BuildStatus).bind BuildStatus.message).getD "")

theorem message_eq (t : Build) :
    message t = ((t.status : Option BuildStatus).bind BuildStatus.message).getD "" := by
  unfold message
  cases (t.status : Option BuildStatus) <;> rfl

theorem verdict_of_none {build : String} {e : Result Build} (h : endOf? build e = none) :
    verdict build e = .passed := by
  cases e with
  | error e => rfl
  | ok b =>
    have hn : ¬ (b.name = build ∧ b.phase.isTerminal = true) := by
      intro hb
      rw [endOf?, if_pos hb] at h
      cases h
    rw [verdict, if_pos]
    rwa [not_and_or] at hn

theorem verdict_of_some {build : String} {e : Result Build} {t : Build}
    (h : endOf? build e = some t) :
    verdict build e =
      if t.phase = .complete then .completed t else .failed (failureOf build t) := by
  cases e with
  | error e => cases h
  | ok b =>
    by_cases hb : b.name = build ∧ b.phase.isTerminal = true
    · rw [endOf?, if_pos hb] at h
      cases h
      have hn : ¬ (t.name ≠ build ∨ ¬ t.phase.isTerminal = true) := by
        rw [not_or, not_not, not_not]
        exact hb
      rw [verdict, if_neg hn, failureOf, message_eq]
      have ht := hb.2
      revert ht
      cases t.phase <;> intro ht <;> first | rfl | cases ht
    · rw [endOf?, if_neg hb] at h
      cases h

/-- Following a build on a stream ends with the first event that tells the end of the build; then,
    or when the stream has ended without it, the stream is dropped. -/
theorem follow_feed [Platform σ] (w : BuildWatch) (s : Feed σ) {fuel : Nat}
    (hfuel : s.events.length < fuel) :
    w.follow fuel s = match decisive? w.build s.events with
      | some t =>
        (if t.phase = .complete then .completed t else .failed (failureOf w.build t),
          s.drop w.watch)
      | none =>
        if s.ended then (.failed (.watchClosed w.selector w.build), s.drop w.watch)
        else (.pending, { s with events := [] }) := by
  obtain ⟨q, events, ended⟩ := s
  induction events generalizing fuel with
  | nil =>
    obtain ⟨fuel, rfl⟩ := Nat.exists_eq_succ_of_ne_zero (Nat.ne_of_gt hfuel)
    cases ended <;> rfl
  | cons e es ih =>
    obtain ⟨fuel, rfl⟩ := Nat.exists_eq_succ_of_ne_zero (Nat.ne_of_gt (Nat.zero_lt_of_lt hfuel))
    have hp : Platform.poll w.watch (⟨q, e :: es, ended⟩ : Feed σ) = (.event e, ⟨q, es, ended⟩) :=
      rfl
    rw [follow, hp]
    dsimp only
    rcases he : endOf? w.build e with _ | t
    · have hd : decisive? w.build (e :: es) = decisive? w.build es := by
        rw [decisive?, List.findSome?_cons, he]
        rfl
      rw [verdict_of_none he, hd]
      exact ih (Nat.lt_of_succ_lt_succ hfuel)
    · have hd : decisive? w.build (e :: es) = some t := by
        rw [decisive?, List.findSome?_cons, he]
      rw [verdict_of_some he, hd]
      by_cases hc : t.phase = .complete
      · rw [if_pos hc]
        dsimp only
        rw [if_pos hc]
        rfl
      · rw [if_neg hc]
        dsimp only
        rw [if_neg hc]
        rfl

end BuildWatch

/-! ## Followers -/

/-- How far a follower has come whose continuation ran. -/
def Progress.ofRun : Option (Result α) → Progress α
  | some r => .finished r
  | none => .stuck

namespace Follower

open BuildWatch

variable [Platform σ] {run : κ → Build → Action α} {f : Follower κ α}

section Outcome

variable {τ : Type} [Platform τ] {s s' : τ}

theorem advance_of_completed {t : Build} (hf : f.progress = .following)
    (h : f.watch.follow (Platform.backlog s + 1) s = (.completed t, s')) :
    f.advance run s =
      ({ f with fired := f.fired + 1, progress := .ofRun ((run f.continuation t).run s').1 },
        ((run f.continuation t).run s').2) := by
  rw [advance, hf]
  dsimp only
  rw [h]
  dsimp only
  rcases (run f.continuation t).run s' with ⟨_ | r, q⟩ <;> rfl

theorem advance_of_failed {e : Failure} (hf : f.progress = .following)
    (h : f.watch.follow (Platform.backlog s + 1) s = (.failed e, s')) :
    f.advance run s = ({ f with progress := .finished (.error e) }, s') := by
  rw [advance, hf]
  dsimp only
  rw [h]

theorem advance_of_pending (hf : f.progress = .following)
    (h : f.watch.follow (Platform.backlog s + 1) s = (.pending, s')) :
    f.advance run s = (f, s') := by
  rw [advance, hf]
  dsimp only
  rw [h]

end Outcome

/-- A follower that does not follow any more does nothing. -/
theorem advance_of_not_following {τ : Type} [Platform τ] (hf : f.progress ≠ .following) (s : τ) :
    f.advance run s = (f, s) := by
  unfold advance
  split
  next h => exact absurd h hf
  next => rfl

theorem advance_complete (hf : f.progress = .following) {s : Feed σ} {t : Build}
    (ht : decisive? f.watch.build s.events = some t) (hc : t.phase = .complete) :
    f.advance run s =
      ({ f with
          fired := f.fired + 1
          progress := .ofRun
            ((run f.continuation t).run (Platform.close f.watch.watch s.world)).1 },
        { s with
          world := ((run f.continuation t).run (Platform.close f.watch.watch s.world)).2
          events := [] }) := by
  have h := follow_feed f.watch s (Nat.lt_succ_self _)
  rw [ht] at h
  dsimp only at h
  rw [if_pos hc] at h
  rw [advance_of_completed hf h, Feed.run_world]
  rfl

theorem advance_failure (hf : f.progress = .following) {s : Feed σ} {t : Build}
    (ht : decisive? f.watch.build s.events = some t) (hc : t.phase ≠ .complete) :
    f.advance run s = ({ f with progress := .finished (.error (failureOf f.watch.build t)) },
      s.drop f.watch.watch) := by
  have h := follow_feed f.watch s (Nat.lt_succ_self _)
  rw [ht] at h
  dsimp only at h
  rw [if_neg hc] at h
  exact advance_of_failed hf h

theorem advance_ended (hf : f.progress = .following) {s : Feed σ}
    (ht : decisive? f.watch.build s.events = none) (hs : s.ended = true) :
    f.advance run s =
      ({ f with progress := .finished (.error (.watchClosed f.watch.selector f.watch.build)) },
        s.drop f.watch.watch) := by
  have h := follow_feed f.watch s (Nat.lt_succ_self _)
  rw [ht] at h
  dsimp only at h
  rw [if_pos hs] at h
  exact advance_of_failed hf h

theorem advance_open (hf : f.progress = .following) {s : Feed σ}
    (ht : decisive? f.watch.build s.events = none) (hs : s.ended = false) :
    f.advance run s = (f, { s with events := [] }) := by
  have h := follow_feed f.watch s (Nat.lt_succ_self _)
  rw [ht] at h
  dsimp only at h
  rw [if_neg (Bool.eq_false_iff.1 hs)] at h
  exact advance_of_pending hf h

/-- Of a stream that tells the end of the build, what comes after it makes no difference, nor
    whether the stream ends. -/
theorem advance_congr (hf : f.progress = .following) {s s₂ : Feed σ} {t : Build}
    (hw : s₂.world = s.world) (ht : decisive? f.watch.build s.events = some t)
    (ht₂ : decisive? f.watch.build s₂.events = some t) :
    (f.advance run s₂).1 = (f.advance run s).1 ∧
      (f.advance run s₂).2.world = (f.advance run s).2.world := by
  by_cases hc : t.phase = .complete
  · rw [advance_complete hf ht hc, advance_complete hf ht₂ hc, hw]
    exact ⟨rfl, rfl⟩
  · rw [advance_failure hf ht hc, advance_failure hf ht₂ hc]
    refine ⟨rfl, ?_⟩
    show Platform.close f.watch.watch s₂.world = Platform.close f.watch.watch s.world
    rw [hw]

/-- What comes of following a build on a stream of events, by the event that decides.
    - If it tells that the build is complete, the stream is dropped; then the continuation runs
      once, with this build, and its result is the outcome.
    - If it tells another end, the outcome is this failure and the continuation does not run.
    - If there is none and the stream has ended, the outcome is that the watch was closed.
    - If there is none and the stream is open, the build is followed on.
    - What comes after the event that decides makes no difference.
    - What has an outcome never runs again, on this stream or on any other. -/
theorem advance_feed (run : κ → Build → Action α) (hf : f.progress = .following) (s : Feed σ) :
    (∀ t, decisive? f.watch.build s.events = some t → t.phase = .complete →
      f.advance run s =
        ({ f with
            fired := f.fired + 1
            progress := .ofRun
              ((run f.continuation t).run (Platform.close f.watch.watch s.world)).1 },
          { s with
            world := ((run f.continuation t).run (Platform.close f.watch.watch s.world)).2
            events := [] })) ∧
    (∀ t, decisive? f.watch.build s.events = some t → t.phase ≠ .complete →
      f.advance run s = ({ f with progress := .finished (.error (failureOf f.watch.build t)) },
        s.drop f.watch.watch)) ∧
    (decisive? f.watch.build s.events = none → s.ended = true →
      f.advance run s =
        ({ f with progress := .finished (.error (.watchClosed f.watch.selector f.watch.build)) },
          s.drop f.watch.watch)) ∧
    (decisive? f.watch.build s.events = none → s.ended = false →
      f.advance run s = (f, { s with events := [] })) ∧
    (∀ es rest rest₂ ended₂, s.events = es ++ rest → decisive? f.watch.build es ≠ none →
      (f.advance run { s with events := es ++ rest₂, ended := ended₂ }).1 =
          (f.advance run s).1 ∧
        (f.advance run { s with events := es ++ rest₂, ended := ended₂ }).2.world =
          (f.advance run s).2.world) ∧
    ((f.advance run s).1.progress ≠ .following → ∀ s₂ : Feed σ,
      (f.advance run s).1.advance run s₂ = ((f.advance run s).1, s₂)) := by
  refine ⟨fun t => advance_complete hf, fun t => advance_failure hf, advance_ended hf,
    advance_open hf, fun es rest rest₂ ended₂ he hd => ?_,
    fun h s₂ => advance_of_not_following h s₂⟩
  obtain ⟨t, ht⟩ := Option.ne_none_iff_exists'.1 hd
  refine advance_congr hf rfl ?_ (decisive?_append ht)
  rw [he]
  exact decisive?_append ht

end Follower

/-! ## A stream with all that can come -/

/-- A build of a name in a phase, of which nothing else is known. -/
def Build.inPhase (name : String) (phase : BuildPhase) : Build where
  metadata := { name := some name }
  spec := ({} : BuildRecipe)
  status := some ({ phase } : BuildStatus)

/-- An error, the end of another build, and of `ticker-1` that it runs, that it is complete, and
    then that it failed. -/
def Feed.noisy : Feed Cluster where
  world := {}
  events := [.error (.config (.custom "the stream stumbled")),
    .ok (Build.inPhase "clock-1" .complete), .ok (Build.inPhase "ticker-1" .running),
    .ok (Build.inPhase "ticker-1" .complete), .ok (Build.inPhase "ticker-1" .failed)]
  ended := true

/-- Follows `ticker-1` to tell the image that it makes. -/
def Follower.ofTicker : Follower Continuation Yield where
  watch := ⟨⟨0⟩, "ph.io/app-id=ticker", "ticker-1"⟩
  continuation := .tell "ticker:latest" none

theorem Follower.advance_feed_noisy :
    (Follower.ofTicker.advance Continuation.run Feed.noisy).1 =
      { Follower.ofTicker with
        fired := 1
        progress := .finished (.ok (.image "ticker:latest")) } := by
  rw [(advance_feed Continuation.run rfl Feed.noisy).1 (Build.inPhase "ticker-1" .complete)
    rfl rfl]
  rfl

end Slipway

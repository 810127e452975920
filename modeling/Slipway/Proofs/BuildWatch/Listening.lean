import Slipway.Proofs.Cluster.Watches

/-
  Following a build on a platform in memory. A watch that is listened on tells its queue one build
  after the other (`teller_of_subscription?`), so following it is decided by the first build in the
  queue that tells the end (`follow_of_teller`). A follower goes on while nothing decides
  (`advance_of_listening`). Otherwise its watch is closed, and the continuation runs if the build
  is complete (`advance_of_complete`) and never if it ended otherwise (`advance_of_failure`) or the
  watch was dropped (`advance_of_dropped`).
-/

namespace Slipway

namespace BuildWatch

variable {σ : Type} [Platform σ] {w : BuildWatch} {ended : Bool}
  {T : List (Result Build) → σ → Prop}

/-- A watch tells events one after the other in worlds with `T`, and then that it waits for more or
    has ended. -/
structure Teller (w : BuildWatch) (ended : Bool) (T : List (Result Build) → σ → Prop) : Prop where
  event : ∀ {e es s}, T (e :: es) s → ∃ s', Platform.poll w.watch s = (.event e, s') ∧ T es s'
  rest : ∀ {s}, T [] s → ∃ s',
    Platform.poll w.watch s = (if ended then .ended else .waiting, s') ∧ T [] s'

/-- What comes of following a build by the event that decides, if any. Unless more can come the
    watch is closed. -/
def conclusion (w : BuildWatch) (ended : Bool) (end? : Option Build) (s : σ) : Outcome × σ :=
  match end? with
  | some t =>
    (if t.phase = .complete then .completed t else .failed (failureOf w.build t),
      Platform.close w.watch s)
  | none =>
    if ended then (.failed (.watchClosed w.selector w.build), Platform.close w.watch s)
    else (.pending, s)

/-- Following a build ends with the first event that tells the end of the build; then, or when the
    events have ended without it, the watch is closed. -/
theorem follow_of_teller (hT : Teller w ended T) {es : List (Result Build)} {s : σ} (hs : T es s)
    {fuel : Nat} (hfuel : es.length < fuel) :
    ∃ rest s', T rest s' ∧ (decisive? w.build es = none → rest = []) ∧
      w.follow fuel s = w.conclusion ended (decisive? w.build es) s' := by
  induction es generalizing s fuel with
  | nil =>
    obtain ⟨fuel, rfl⟩ := Nat.exists_eq_succ_of_ne_zero (Nat.ne_of_gt hfuel)
    obtain ⟨s', hp, hs'⟩ := hT.rest hs
    refine ⟨[], s', hs', fun _ => rfl, ?_⟩
    rw [follow, hp]
    cases ended <;> rfl
  | cons e es ih =>
    obtain ⟨fuel, rfl⟩ := Nat.exists_eq_succ_of_ne_zero (Nat.ne_of_gt (Nat.zero_lt_of_lt hfuel))
    obtain ⟨s', hp, hs'⟩ := hT.event hs
    rw [follow, hp]
    dsimp only
    rcases he : endOf? w.build e with _ | t
    · have hd : decisive? w.build (e :: es) = decisive? w.build es := by
        rw [decisive?, List.findSome?_cons, he]
        rfl
      rw [verdict_of_none he, hd]
      exact ih hs' (Nat.lt_of_succ_lt_succ hfuel)
    · have hd : decisive? w.build (e :: es) = some t := by
        rw [decisive?, List.findSome?_cons, he]
      refine ⟨es, s', hs', fun hnone => ?_, ?_⟩
      · rw [hd] at hnone
        cases hnone
      rw [verdict_of_some he, hd]
      by_cases hc : t.phase = .complete
      · rw [conclusion, if_pos hc]
        dsimp only
        rw [if_pos hc]
      · rw [conclusion, if_neg hc]
        dsimp only
        rw [if_neg hc]

end BuildWatch

open BuildWatch

namespace Cluster

variable {s s' : Cluster} {w : BuildWatch} {sub : Subscription .build}

/-- A platform on which a watch has yet to tell some builds, and which has not changed otherwise. -/
def Tells (s : Cluster) (w : BuildWatch) (sub : Subscription .build) (es : List (Result Build))
    (s' : Cluster) : Prop :=
  ∃ q, es = q.map .ok ∧ s'.subscription? w.watch = some { sub with queue := q } ∧ Untouched s s'

theorem teller_of_subscription? (s : Cluster) (w : BuildWatch) (sub : Subscription .build) :
    Teller w (!sub.hasSource) (Tells s w sub) where
  event {e es s'} h := by
    obtain ⟨q, he, hsub, hs⟩ := h
    cases q with
    | nil => cases he
    | cons b q =>
      cases he
      have hu := hs.trans (untouched_poll s' w.watch)
      obtain ⟨s'', hp, hsub'⟩ := poll_cons hsub rfl
      rw [hp] at hu
      exact ⟨s'', hp, q, rfl, hsub', hu⟩
  rest {s'} h := by
    obtain ⟨q, he, hsub, hs⟩ := h
    obtain rfl : q = [] := List.map_eq_nil_iff.1 he.symm
    refine ⟨s', ?_, [], rfl, hsub, hs⟩
    have hp : poll w.watch s' = _ := poll_nil hsub rfl
    show poll w.watch s' = _
    rw [hp]
    cases sub.hasSource <;> rfl

variable {end? : Option Build} {dropped : Bool}

/-- What comes of following a build on a watch that is listened on: the platform before the watch is
    closed, if it is, and the outcome. -/
theorem Listening.follow (h : Listening w end? dropped s) :
    ∃ s', Untouched s s' ∧ Closed w.watch (close w.watch s') ∧
      (end? = none → Listening w none dropped s') ∧
      w.follow (Platform.backlog s + 1) s = w.conclusion dropped end? s' := by
  obtain ⟨⟨sub, hsub, hselector, hopen, hsource, hend⟩, hlt⟩ := h
  have hfuel : (sub.queue.map (.ok : Build → Result Build)).length < Platform.backlog s + 1 := by
    rw [List.length_map]
    exact Nat.lt_succ_of_le (length_queue_le_backlog hsub)
  obtain ⟨rest, s', ⟨q, hq, hsub', hs'⟩, hrest, hfollow⟩ := follow_of_teller
    (teller_of_subscription? s w sub) ⟨sub.queue, rfl, hsub, .refl s⟩ hfuel
  have hended : (!sub.hasSource) = dropped := by rw [hsource, Bool.not_not]
  rw [hend, hended] at hfollow
  refine ⟨s', hs', closed_close hsub', fun hnone => ?_, hfollow⟩
  obtain rfl : q = [] := by
    rw [hrest (hend.trans hnone)] at hq
    exact List.map_eq_nil_iff.1 hq.symm
  exact ⟨⟨_, hsub', hselector, hopen, hsource, rfl⟩, hs'.watchCount_eq ▸ hlt⟩

end Cluster

/-! ## Followers -/

namespace Follower

open Cluster

variable {κ α : Type} {f : Follower κ α} {s : Cluster} {t : Build} {dropped : Bool}
  (run : κ → Build → Action α)

/-- While nothing decides, a follower goes on. -/
theorem advance_of_listening (hf : f.progress = .following)
    (h : Listening f.watch none false s) :
    ∃ s', f.advance run s = (f, s') ∧ Untouched s s' ∧ Listening f.watch none false s' := by
  obtain ⟨s', hs', -, hlistening, hfollow⟩ := h.follow
  exact ⟨s', advance_of_pending hf hfollow, hs', hlistening rfl⟩

/-- A follower whose watch was dropped before anything decided fails. -/
theorem advance_of_dropped (hf : f.progress = .following) (h : Listening f.watch none true s) :
    ∃ s', f.advance run s =
        ({ f with progress := .finished (.error (.watchClosed f.watch.selector f.watch.build)) },
          s') ∧
      Untouched s s' ∧ Closed f.watch.watch s' := by
  obtain ⟨s', hs', hclosed, -, hfollow⟩ := h.follow
  exact ⟨_, advance_of_failed hf hfollow, hs'.trans (untouched_close _ _), hclosed⟩

/-- A follower whose build ended but is not complete fails. -/
theorem advance_of_failure (hf : f.progress = .following)
    (h : Listening f.watch (some t) dropped s) (ht : t.phase ≠ .complete) :
    ∃ s', f.advance run s =
        ({ f with progress := .finished (.error (failureOf f.watch.build t)) }, s') ∧
      Untouched s s' ∧ Closed f.watch.watch s' := by
  obtain ⟨s', hs', hclosed, -, hfollow⟩ := h.follow
  rw [conclusion, if_neg ht] at hfollow
  exact ⟨_, advance_of_failed hf hfollow, hs'.trans (untouched_close _ _), hclosed⟩

/-- A follower whose build is complete runs its continuation, after its watch was closed. -/
theorem advance_of_complete (hf : f.progress = .following)
    (h : Listening f.watch (some t) dropped s) (ht : t.phase = .complete) :
    ∃ s', Untouched s s' ∧ Closed f.watch.watch s' ∧ f.advance run s =
      ({ f with fired := f.fired + 1, progress := .ofRun ((run f.continuation t).run s').1 },
        ((run f.continuation t).run s').2) := by
  obtain ⟨s', hs', hclosed, -, hfollow⟩ := h.follow
  rw [conclusion, if_pos ht] at hfollow
  exact ⟨_, hs'.trans (untouched_close _ _), hclosed, advance_of_completed hf hfollow⟩

end Follower

end Slipway

import Slipway.Proofs.Cluster.Log
import Slipway.Proofs.Session.Sound

/-
  What one follower does. After an event the followers go on one after the other, so the turn of
  one comes on the platform that those before it leave (`platformAt`, `settle_of_turn`). What it
  records then is its work (`turnOf`); all that is recorded after an event is the work of the
  followers (`log_settle`).
-/

namespace Slipway

open Cluster

namespace Session

/-! ## The turn of a follower -/

section Turn

variable {σ : Type} [Platform σ] {s : Session σ} {n : Nat} {f : Follower Continuation Yield}

theorem settleAll_append (fs gs : List (Follower Continuation Yield)) (p : σ) :
    settleAll (fs ++ gs) p =
      ((settleAll fs p).1 ++ (settleAll gs (settleAll fs p).2).1,
        (settleAll gs (settleAll fs p).2).2) := by
  induction fs generalizing p with
  | nil => rfl
  | cons f fs ih =>
    rw [List.cons_append, settleAll, settleAll]
    dsimp only
    rw [ih]
    rfl

/-- The platform when the turn of the follower of a number comes. -/
def platformAt (s : Session σ) (n : Nat) : σ := (settleAll (s.followers.take n) s.platform).2

omit [Platform σ] in
theorem followers_split (hn : s.followers[n]? = some f) :
    s.followers = s.followers.take n ++ f :: s.followers.drop (n + 1) := by
  obtain ⟨hlt, rfl⟩ := List.getElem?_eq_some_iff.1 hn
  rw [List.getElem_cons_drop, List.take_append_drop]

theorem settleAll_of_turn (hn : s.followers[n]? = some f) :
    settleAll s.followers s.platform =
      ((settleAll (s.followers.take n) s.platform).1 ++
        (f.advance Continuation.run (s.platformAt n)).1 ::
          (settleAll (s.followers.drop (n + 1))
            (f.advance Continuation.run (s.platformAt n)).2).1,
        (settleAll (s.followers.drop (n + 1))
          (f.advance Continuation.run (s.platformAt n)).2).2) := by
  have h := settleAll_append (s.followers.take n) (f :: s.followers.drop (n + 1)) s.platform
  rwa [← followers_split hn] at h

/-- A follower goes on in its turn, and those after it go on after it. -/
theorem settle_of_turn (hn : s.followers[n]? = some f) :
    s.settle.followers[n]? = some (f.advance Continuation.run (s.platformAt n)).1 ∧
      s.settle.platform = (settleAll (s.followers.drop (n + 1))
        (f.advance Continuation.run (s.platformAt n)).2).2 := by
  have h := settleAll_of_turn hn
  have hlt : n < s.followers.length := (List.getElem?_eq_some_iff.1 hn).1
  have hlength : (settleAll (s.followers.take n) s.platform).1.length = n := by
    have hmap := congrArg List.length (map_watch_settleAll (s.followers.take n) s.platform)
    rw [List.length_map, List.length_map, List.length_take,
      Nat.min_eq_left (Nat.le_of_lt hlt)] at hmap
    exact hmap
  constructor
  · show (settleAll s.followers s.platform).1[n]? = _
    rw [h, List.getElem?_append_right (Nat.le_of_eq hlength), hlength, Nat.sub_self,
      List.getElem?_cons_zero]
  · show (settleAll s.followers s.platform).2 = _
    rw [h]

end Turn

/-! ## The work of a follower -/

variable {s : Session Cluster} {n : Nat}

/-- What the follower of a number records in its turn. -/
def turnOf (s : Session Cluster) (n : Nat) : List Operation :=
  match s.followers[n]? with
  | some f =>
    let before := s.platformAt n
    (f.advance Continuation.run before).2.log.drop before.log.length
  | none => []

theorem log_platformAt_succ (s : Session Cluster) (n : Nat) :
    (s.platformAt (n + 1)).log = (s.platformAt n).log ++ s.turnOf n := by
  unfold turnOf
  rcases hn : s.followers[n]? with _ | f
  · have htake : s.followers.take (n + 1) = s.followers.take n := by
      rw [List.take_add_one, hn]
      simp
    rw [List.append_nil]
    unfold platformAt
    rw [htake]
  · have hp : s.platformAt (n + 1) = (f.advance Continuation.run (s.platformAt n)).2 := by
      unfold platformAt
      rw [List.take_add_one, hn, Option.toList_some, settleAll_append]
      rfl
    have hprefix := advance_keeps (kept_log (s.platformAt n).log) f trivial
      (fun b => f.continuation.only_run b fun pod =>
        (Reconcile.only_reconcile pod).mono fun _ _ => trivial)
      (List.prefix_refl _)
    rw [hp]
    exact (List.prefix_iff_eq_append.1 hprefix).symm

/-- All that is recorded when the followers go on is the work of one of them. -/
theorem log_settle (s : Session Cluster) :
    s.settle.platform.log =
      s.platform.log ++ (List.range s.followers.length).flatMap s.turnOf := by
  have h : ∀ n, (s.platformAt n).log = s.platform.log ++ (List.range n).flatMap s.turnOf := by
    intro n
    induction n with
    | zero => exact (List.append_nil _).symm
    | succ n ih =>
      rw [log_platformAt_succ, ih, List.range_succ, List.flatMap_append, List.append_assoc]
      simp
  have hall := h s.followers.length
  unfold platformAt at hall
  rwa [List.take_length] at hall

end Session

/-! ## The work of an event -/

namespace Event

/-- The session after what an event does by itself, before the followers go on; none if it does
    nothing. -/
def begun? (e : Event) (s : Session Cluster) : Option (Session Cluster) :=
  match e with
  | step d st => some (s.take d st).2
  | act a => (s.platform.act a).map fun platform => { s with platform }

theorem apply_eq (e : Event) (s : Session Cluster) :
    e.apply s = match e.begun? s with
      | some s' => s'.settle
      | none => s := by
  cases e with
  | step d st => rfl
  | act a =>
    rw [apply_act, begun?]
    cases s.platform.act a <;> rfl

/-- What an event records by itself. -/
def ownWork (e : Event) (s : Session Cluster) : List Operation :=
  match e.begun? s with
  | some s' => s'.platform.log.drop s.platform.log.length
  | none => []

/-- What the follower of a number records after an event. -/
def turnOf (e : Event) (n : Nat) (s : Session Cluster) : List Operation :=
  match e.begun? s with
  | some s' => s'.turnOf n
  | none => []

end Event

namespace Session

/-- The session after some events. -/
def after (s : Session Cluster) (es : List Event) : Session Cluster :=
  es.foldl (fun s e => e.apply s) s

theorem ofRun_append (before es : List Event) :
    ofRun (before ++ es) = (ofRun before).after es := by
  unfold ofRun after
  rw [List.foldl_append]

/-- What the follower of a number records in the course of some events. -/
def workOf (n : Nat) : Session Cluster → List Event → List Operation
  | _, [] => []
  | s, e :: es => e.turnOf n s ++ workOf n (e.apply s) es

end Session

end Slipway

import Slipway.BuildHistory
import Slipway.Platform

/-
  Following one build on a watch until it ends. What follows a completed build runs once, after
  the watch was closed.
-/

namespace Slipway

/-- A build that is followed, and the watch on which its events come. -/
structure BuildWatch where
  watch : WatchId .build
  selector : String
  build : String
  deriving DecidableEq, Repr

namespace BuildWatch

/-- Opens a watch. -/
def start (selector build : String) : Action BuildWatch := do
  pure ⟨← Action.ask (.watch .build selector), selector, build⟩

/-- What an event means for the build that is followed. -/
inductive Verdict where
  | passed
  | failed (e : Failure)
  | completed (b : Build)

def message (b : Build) : String :=
  match (b.status : Option BuildStatus) with
  | some s => s.message.getD ""
  | none => ""

/-- Errors, other builds and phases that are not the last are passed over. -/
def verdict (build : String) : Result Build → Verdict
  | .error _ => .passed
  | .ok b =>
    if b.name ≠ build ∨ ¬ b.phase.isTerminal then .passed
    else if b.phase.isFailure then .failed (.buildFailed build b.phase (message b))
    else .completed b

/-- What has come of a watch. -/
inductive Outcome where
  | pending
  | failed (e : Failure)
  | completed (b : Build)

/-- The outcome of a watch by the events told so far, and whether no more can come. -/
def outcome (w : BuildWatch) (ended : Bool) : List (Result Build) → Outcome
  | [] => if ended then .failed (.watchClosed w.selector w.build) else .pending
  | e :: es =>
    match verdict w.build e with
    | .passed => w.outcome ended es
    | .failed f => .failed f
    | .completed b => .completed b

/-- Takes events from a watch until the outcome shows; then the watch is closed. -/
def follow [Platform σ] (w : BuildWatch) : Nat → σ → Outcome × σ
  | 0, s => (.pending, s)
  | fuel + 1, s =>
    match Platform.poll w.watch s with
    | (.waiting, s) => (.pending, s)
    | (.ended, s) => (.failed (.watchClosed w.selector w.build), Platform.close w.watch s)
    | (.event e, s) =>
      match verdict w.build e with
      | .passed => w.follow fuel s
      | .failed f => (.failed f, Platform.close w.watch s)
      | .completed b => (.completed b, Platform.close w.watch s)

end BuildWatch

end Slipway

import Slipway.Failure
import Slipway.Resource

/-
  Working on a platform. A `Program` is a tree of calls, each followed by what depends on its
  answer; so what a program does can be told without knowing the platform. A platform answers
  calls and delivers the events of the watches that were opened on it.
-/

namespace Slipway

inductive Call where
  /-- The object of a name, if there is one. -/
  | get (k : Kind) (name : String)
  | create (k : Kind) (object : Resource k)
  /-- Puts an object, which has to carry the current version, in the place of another. -/
  | replace (k : Kind) (name : String) (object : Resource k)
  /-- Begins a deletion; the object may stay on for a while. -/
  | delete (k : Kind) (name : String)
  /-- Waits until the object of a name and an identity is gone. -/
  | awaitDeleted (k : Kind) (name uid : String)
  | list (k : Kind) (selector : String)
  /-- Opens a watch on the objects that a selector matches, beginning with those there are. -/
  | watch (k : Kind) (selector : String)
  /-- Starts a build of a build configuration. -/
  | instantiateBuild (name : String)
  /-- Starts a build of a build configuration with an uploaded file. -/
  | submitBinaryBuild (name fileName : String) (content : Bytes)
  /-- Rolls out the latest version of a deployment. -/
  | rollout (name : String)

/-- The number by which a platform knows a watch. -/
structure WatchId (k : Kind) where
  number : Nat
  deriving DecidableEq, Repr

namespace Call

def Answer : Call → Type
  | get k _ => Option (Resource k)
  | create k _ => Resource k
  | replace k _ _ => Resource k
  | delete _ _ => Unit
  | awaitDeleted _ _ _ => Unit
  | list k _ => List (Resource k)
  | watch k _ => WatchId k
  | instantiateBuild _ => Build
  | submitBinaryBuild _ _ _ => Build
  | rollout _ => DeploymentConfig

/-- Whether a call may change what is on the platform. -/
def mutates : Call → Bool
  | create _ _ | replace _ _ _ | delete _ _ | instantiateBuild _ | submitBinaryBuild _ _ _
  | rollout _ => true
  | get _ _ | awaitDeleted _ _ _ | list _ _ | watch _ _ => false

end Call

inductive Program (α : Type) where
  | done (a : α)
  | call (c : Call) (next : Result c.Answer → Program α)

namespace Program

def bind : Program α → (α → Program β) → Program β
  | done a, f => f a
  | call c next, f => call c fun answer => (next answer).bind f

instance : Monad Program where
  pure := done
  bind := bind

end Program

/-- A program that may fail. -/
abbrev Action (α : Type) := ExceptT Failure Program α

namespace Action

/-- Makes a call and passes its failure on. -/
def ask (c : Call) : Action c.Answer := ExceptT.mk (.call c .done)

/-- Makes a call and goes on with its answer, be it a failure. -/
def attempt (c : Call) : Action (Result c.Answer) := ExceptT.mk (.call c fun r => .done (.ok r))

def ofResult (r : Result α) : Action α := ExceptT.mk (.done r)

def get (k : Kind) (name : String) : Action (Option (Resource k)) := ask (.get k name)
def list (k : Kind) (selector : String) : Action (List (Resource k)) := ask (.list k selector)

end Action

/-- What a watch has to tell at the moment. -/
inductive Poll (k : Kind) where
  | event (e : Result (Resource k))
  /-- Nothing yet. -/
  | waiting
  | ended

/-- Something that answers calls. -/
class Platform (σ : Type) where
  /-- The answer to a call; none if it never comes. -/
  answer : (c : Call) → σ → Option (Result c.Answer) × σ
  poll : WatchId k → σ → Poll k × σ
  close : WatchId k → σ → σ
  /-- An upper bound for the number of events that watches can tell as things stand. -/
  backlog : σ → Nat

namespace Program

/-- Runs a program on a platform; none if a call is never answered. -/
def run [Platform σ] : Program α → σ → Option α × σ
  | done a, s => (some a, s)
  | call c next, s =>
    match Platform.answer c s with
    | (some r, s) => (next r).run s
    | (none, s) => (none, s)

end Program

/-- Runs an action on a platform. -/
def Action.run [Platform σ] (a : Action α) (s : σ) : Option (Result α) × σ :=
  Program.run (ExceptT.run a) s

end Slipway

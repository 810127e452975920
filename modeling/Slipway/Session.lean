import Slipway.Cluster
import Slipway.Task

/-
  Work on a platform over time: one step after the other, with the builds followed in the
  background. After each step every follower goes on as far as it can. A launch or a watch is kept
  under a name, its handle; a follower goes on when its handle is lost.
-/

namespace Slipway

/-- What runs when a build that is followed completes. -/
inductive Continuation where
  | task (p : PendingTask)
  /-- Tells the image that was built, or fails as arranged. -/
  | tell (expected : String) (failure : Option String)

/-- What a continuation gives. -/
inductive Yield where
  | pod (p : Pod)
  | image (reference : String)

def Continuation.run (c : Continuation) (b : Build) : Action Yield :=
  match c with
  | task p => do pure (.pod (← p.afterBuild b))
  | tell expected none => pure (.image (b.builtImage expected))
  | tell _ (some text) => throw (.config (.custom text))

inductive Progress (α : Type) where
  | following
  /-- The continuation waits for an answer that never comes. -/
  | stuck
  | closed
  | finished (r : Result α)

def Progress.isFinished : Progress α → Bool
  | finished _ => true
  | _ => false

/-- A build that is followed in the background, what is to run when it completes, and how often
    that began. -/
structure Follower (κ α : Type) where
  watch : BuildWatch
  continuation : κ
  fired : Nat := 0
  progress : Progress α := .following

namespace Follower

/-- Goes on as far as the platform allows; `run` carries out the continuation. -/
def advance [Platform σ] (run : κ → Build → Action α) (f : Follower κ α) (s : σ) :
    Follower κ α × σ :=
  match f.progress with
  | .following =>
    match f.watch.follow (Platform.backlog s + 1) s with
    | (.pending, s) => (f, s)
    | (.failed e, s) => ({ f with progress := .finished (.error e) }, s)
    | (.completed b, s) =>
      let f := { f with fired := f.fired + 1 }
      match (run f.continuation b).run s with
      | (some r, s) => ({ f with progress := .finished r }, s)
      | (none, s) => ({ f with progress := .stuck }, s)
  | _ => (f, s)

/-- Stops a follower that has not finished. -/
def close [Platform σ] (f : Follower κ α) (s : σ) : Follower κ α × σ :=
  match f.progress with
  | .following => ({ f with progress := .closed }, Platform.close f.watch.watch s)
  | .stuck => ({ f with progress := .closed }, s)
  | _ => (f, s)

end Follower

/-- A launched task. Once it is waited for it can no longer be detached. -/
structure LaunchHandle where
  state : PipelineState
  follower : Option Nat
  waitedFor : Bool := false

/-- A watch, until it is closed or its completion is awaited. -/
structure WatchHandle where
  follower : Nat
  isHeld : Bool := true
  waitedFor : Bool := false

structure Session (σ : Type) where
  platform : σ
  followers : List (Follower Continuation Yield) := []
  launches : Dict LaunchHandle := ∅
  watches : Dict WatchHandle := ∅

inductive Step where
  | deploy (r : Request)
  | prepare (r : Request) (id : AppId) (mode : CompletionMode)
  | undeploy (id : AppId)
  | cancel (id : AppId)
  | status (id : AppId)
  | taskStatus (id : AppId)
  | launch (r : Request) (handle : String)
  | wait (handle : String)
  | detach (handle : String)
  | watch (selector build : String) (continuation : Continuation) (handle : String)
  | watchState (handle : String)
  | watchClose (handle : String)
  | watchCompletion (handle : String)
  | reconcile (k : Kind) (object : Resource k)
  | call (c : Call)
  | watchEvents (k : Kind) (selector : String) (count : Nat)

/-- Whether a watch has more to tell. -/
inductive Rest where
  | unknown
  | waiting
  | ended

inductive Reply where
  | ok
  /-- The step can never end as things stand. -/
  | pending
  /-- There is no such handle. -/
  | noHandle
  | failed (f : Failure)
  | deployed (o : DeployOutcome)
  | prepared (p : Prepared) (state : PipelineState)
  | status (s : AppStatus)
  | taskState (s : TaskState)
  | launched (l : Launched)
  | state (s : PipelineState)
  | watching (w : BuildWatch)
  | watchState (finished : Option Bool) (fired : Option Nat)
  | image (reference : String)
  | answer (c : Call) (a : c.Answer)
  | events (k : Kind) (es : List (Result (Resource k))) (rest : Rest)

/-- The reply to a run that may have failed or be waiting still. -/
def Reply.ofRun (write : α → Reply) : Option (Result α) → Reply
  | some (.ok a) => write a
  | some (.error f) => failed f
  | none => pending

namespace Session

variable {σ : Type} [Platform σ]

/-- Runs an action on the platform. -/
def perform (s : Session σ) (a : Action α) (write : α → Reply) : Reply × Session σ :=
  let (r, platform) := a.run s.platform
  (Reply.ofRun write r, { s with platform })

/-- Lets every follower go on, the first one first. -/
def settleAll : List (Follower Continuation Yield) → σ →
    List (Follower Continuation Yield) × σ
  | [], p => ([], p)
  | f :: fs, p =>
    let (f, p) := f.advance Continuation.run p
    let (fs, p) := settleAll fs p
    (f :: fs, p)

def settle (s : Session σ) : Session σ :=
  let (followers, platform) := settleAll s.followers s.platform
  { s with followers, platform }

def addFollower (s : Session σ) (f : Follower Continuation Yield) : Nat × Session σ :=
  (s.followers.length, { s with followers := s.followers ++ [f] })

def closeFollower (s : Session σ) (n : Nat) : Session σ :=
  match s.followers[n]? with
  | none => s
  | some f =>
    let (f, platform) := f.close s.platform
    { s with followers := s.followers.set n f, platform }

/-- The result of a follower that has finished. -/
def resultOf? (s : Session σ) (n : Nat) : Option (Result Yield) :=
  match s.followers[n]? with
  | some f =>
    match f.progress with
    | .finished r => some r
    | _ => none
  | none => none

def launch (d : Deployer) (r : Request) (handle : String) (s : Session σ) :
    Reply × Session σ :=
  let (result, platform) := (d.launch r).run s.platform
  let s := { s with platform }
  match result with
  | some (.ok l) =>
    let (follower, s) := match l.pending with
      | some p =>
        let (n, s) := s.addFollower { watch := p.watch, continuation := .task p }
        (some n, s)
      | none => (none, s)
    (.launched l, { s with launches := s.launches.insert handle { state := l.state, follower } })
  | r => (Reply.ofRun .launched r, s)

/-- The reply to waiting for a task whose follower has finished. -/
def replyToWait : Result Yield → Reply
  | .ok (.pod p) => .state (stateOfPod p)
  | .ok (.image reference) => .image reference
  | .error e => .failed e

def wait (handle : String) (s : Session σ) : Reply × Session σ :=
  match s.launches.get? handle with
  | none => (.noHandle, s)
  | some h =>
    match h.follower with
    | none => (.state h.state, { s with launches := s.launches.erase handle })
    | some n =>
      match s.resultOf? n with
      | some r => (replyToWait r, { s with launches := s.launches.erase handle })
      | none =>
        (.pending, { s with launches := s.launches.insert handle { h with waitedFor := true } })

def detach (handle : String) (s : Session σ) : Reply × Session σ :=
  match s.launches.get? handle with
  | none => (.noHandle, s)
  | some h =>
    if h.waitedFor then (.noHandle, s)
    else
      let s := { s with launches := s.launches.erase handle }
      (.state h.state, match h.follower with
        | some n => s.closeFollower n
        | none => s)

def watch (selector build : String) (c : Continuation) (handle : String) (s : Session σ) :
    Reply × Session σ :=
  let (result, platform) := (BuildWatch.start selector build).run s.platform
  let s := { s with platform }
  match result with
  | some (.ok w) =>
    let (n, s) := s.addFollower { watch := w, continuation := c }
    (.watching w, { s with watches := s.watches.insert handle { follower := n } })
  | r => (Reply.ofRun .watching r, s)

def watchState (handle : String) (s : Session σ) : Reply :=
  match s.watches.get? handle with
  | none => .watchState none none
  | some h =>
    match s.followers[h.follower]? with
    | none => .watchState none none
    | some f =>
      let finished := if h.isHeld && !h.waitedFor then some f.progress.isFinished else none
      .watchState finished (some f.fired)

def watchClose (handle : String) (s : Session σ) : Reply × Session σ :=
  match s.watches.get? handle with
  | none => (.noHandle, s)
  | some h =>
    if h.isHeld && !h.waitedFor then
      let s := s.closeFollower h.follower
      (.ok, { s with watches := s.watches.insert handle { h with isHeld := false } })
    else (.noHandle, s)

def watchCompletion (handle : String) (s : Session σ) : Reply × Session σ :=
  match s.watches.get? handle with
  | none => (.noHandle, s)
  | some h =>
    if !h.isHeld then (.noHandle, s)
    else
      match s.resultOf? h.follower with
      | some r =>
        (replyToWait r, { s with watches := s.watches.insert handle { h with isHeld := false } })
      | none =>
        (.pending, { s with watches := s.watches.insert handle { h with waitedFor := true } })

/-- Takes up to a number of events from a watch. -/
def takeEvents {k : Kind} (id : WatchId k) :
    Nat → σ → List (Result (Resource k)) × Rest × σ
  | 0, p => ([], .unknown, p)
  | n + 1, p =>
    match Platform.poll id p with
    | (.event e, p) =>
      let (es, rest, p) := takeEvents id n p
      (e :: es, rest, p)
    | (.waiting, p) => ([], .waiting, p)
    | (.ended, p) => ([], .ended, p)

def watchEvents (k : Kind) (selector : String) (count : Nat) (s : Session σ) :
    Reply × Session σ :=
  let (result, platform) := (Action.ask (.watch k selector)).run s.platform
  match result with
  | some (.ok id) =>
    let (es, rest, platform) := takeEvents id count platform
    (.events k es rest, { s with platform := Platform.close id platform })
  | r => (Reply.ofRun (fun _ => .ok) r, { s with platform })

/-- Carries out a step, without what it causes in the background. -/
def take (d : Deployer) (step : Step) (s : Session σ) : Reply × Session σ :=
  match step with
  | .deploy r => s.perform (d.deploy r) .deployed
  | .prepare r id mode =>
    s.perform (d.prepare r id (Labels.base id r)) fun p => .prepared p (p.state mode)
  | .undeploy id => s.perform (Deployer.undeploy id) fun _ => .ok
  | .cancel id => s.perform (Deployer.cancel id) fun _ => .ok
  | .status id => s.perform (Deployer.status id) .status
  | .taskStatus id => s.perform (Deployer.taskStatus id) .taskState
  | .launch r handle => s.launch d r handle
  | .wait handle => s.wait handle
  | .detach handle => s.detach handle
  | .watch selector build c handle => s.watch selector build c handle
  | .watchState handle => (s.watchState handle, s)
  | .watchClose handle => s.watchClose handle
  | .watchCompletion handle => s.watchCompletion handle
  | .reconcile k object =>
    s.perform (Reconcile.reconcile object) fun r => .answer (.create k object) r
  | .call c => s.perform (Action.ask c) (.answer c)
  | .watchEvents k selector count => s.watchEvents k selector count

/-- Carries out a step and all that it causes. -/
def step (d : Deployer) (st : Step) (s : Session σ) : Reply × Session σ :=
  let (r, s) := s.take d st
  (r, s.settle)

end Session

/-! ## The world outside of a cluster in memory -/

inductive Act where
  | insert (k : Kind) (object : Resource k)
  | injectConflict (k : Kind) (name : String)
  | terminateGracefully (k : Kind) (name : String)
  | setBuildPhase (name : String) (phase : BuildPhase) (image : Option String)
  | dropWatches

/-- Carries out an act; none if there is no such build. -/
def Cluster.act (s : Cluster) : Act → Option Cluster
  | .insert _ object => some (s.insert object)
  | .injectConflict k name => some (s.injectConflict k name)
  | .terminateGracefully k name => some (s.terminateGracefully k name)
  | .setBuildPhase name phase image => s.setBuildPhase name phase image
  | .dropWatches => some s.dropWatches

/-- An act and all that it causes. -/
def Session.act (s : Session Cluster) (a : Act) : Option (Session Cluster) :=
  (s.platform.act a).map fun platform => Session.settle { s with platform }

end Slipway

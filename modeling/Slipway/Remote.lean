import Slipway.PerKind
import Slipway.Platform
import Slipway.Remote.Watcher

/-
  The platform behind the cluster API.
-/

namespace Slipway

/-- A watch on the objects that a selector matches. -/
structure Listener (k : Kind) where
  id : WatchId k
  selector : String
  watcher : Watcher k := .fresh

structure Remote where
  connection : Connection
  listeners : PerKind fun k => List (Listener k) := PerKind.ofFun fun _ => []
  watchCount : Nat := 0

namespace Remote

variable {k : Kind}

/-- The failure of a call on an object. Conflicts and missing objects are told apart by the code
    in the status. -/
def failure (k : Kind) (name : String) : ApiFault → Failure
  | .status s =>
    if s.code = 404 then .notFound k name
    else if s.code = 409 then .alreadyExists k name
    else .api (.status s)
  | f => .api f

def perform (s : Remote) (q : Query α) (fail : ApiFault → Failure) :
    Option (Result α) × Remote :=
  let (r, connection) := s.connection.perform q
  (r.map fun r => r.mapError fail, { s with connection })

/-- An object is absent if the status gives that reason. -/
def get (s : Remote) (k : Kind) (name : String) : Option (Result (Option (Resource k))) × Remote :=
  let (r, connection) := s.connection.perform (Query.get s.connection.targetNamespace k name)
  let found : Option (Result (Option (Resource k))) := r.map fun r =>
    match r with
    | .ok object => .ok (some object)
    | .error (.status status) =>
      if status.reason = "NotFound" then .ok none else .error (failure k name (.status status))
    | .error f => .error (failure k name f)
  (found, { s with connection })

/-- Watches the object of a name until there is none, or another one. -/
def followGone (name uid : String) : Nat → Bool → Watcher k → Connection →
    Option (Result Unit) × Connection
  | 0, _, _, c => (none, c)
  | fuel + 1, seen, w, c =>
    match w.next (.named name) (w.patience c) c with
    | (none, _, c) => (none, c)
    | (some signal, w, c) =>
      match signal with
      | .found r | .changed r =>
        if r.metadata.uid = some uid then followGone name uid fuel true w c else (some (.ok ()), c)
      | .complete => if seen then followGone name uid fuel seen w c else (some (.ok ()), c)
      | .gone _ => (some (.ok ()), c)
      | .failed => (some (.error .wait), c)

def awaitDeleted (s : Remote) (k : Kind) (name uid : String) : Option (Result Unit) × Remote :=
  let c := s.connection
  let (r, connection) :=
    followGone name uid (2 * c.backlog + 3) false (Watcher.fresh : Watcher k) c
  (r, { s with connection })

def watch (s : Remote) (k : Kind) (selector : String) : WatchId k × Remote :=
  let id : WatchId k := ⟨s.watchCount⟩
  (id, { s with
    listeners := s.listeners.put k (s.listeners.of k ++ [{ id, selector }])
    watchCount := s.watchCount + 1 })

def answer (c : Call) (s : Remote) : Option (Result c.Answer) × Remote :=
  let ns := s.connection.targetNamespace
  match c with
  | .get k name => s.get k name
  | .create k r => s.perform (Query.create ns r) (failure k (r.metadata.name.getD ""))
  | .replace k name r => s.perform (Query.replace ns name r) (failure k name)
  | .delete k name => s.perform (Query.delete ns k name) (failure k name)
  | .awaitDeleted k name uid => s.awaitDeleted k name uid
  | .list k selector =>
    let (r, s) := s.perform (Query.list ns k [(Selection.labels selector).parameter]) .api
    (r.map fun r => r.map fun l => (l.items : List (Resource k)), s)
  | .watch k selector =>
    let (id, s) := s.watch k selector
    (some (.ok id), s)
  | .instantiateBuild name => s.perform (Query.build ns name) (failure .buildConfig name)
  | .submitBinaryBuild name fileName content =>
    s.perform (Query.binaryBuild ns name fileName content) (failure .buildConfig name)
  | .rollout name => s.perform (Query.rollout ns name) (failure .deploymentConfig name)

/-! ## Watches -/

/-- The next event of a watch: an object that was found or changed, or a failure. -/
def nextEvent (selector : String) : Nat → Watcher k → Connection →
    Poll k × Watcher k × Connection
  | 0, w, c => (.waiting, w, c)
  | fuel + 1, w, c =>
    match w.next (.labels selector) (w.patience c) c with
    | (none, w, c) => (.waiting, w, c)
    | (some signal, w, c) =>
      match signal with
      | .found r | .changed r => (.event (.ok r), w, c)
      | .failed => (.event (.error .watch), w, c)
      | .complete | .gone _ => nextEvent selector fuel w c

def poll (id : WatchId k) (s : Remote) : Poll k × Remote :=
  match (s.listeners.of k).find? (·.id = id) with
  | none => (.ended, s)
  | some l =>
    let fuel := 2 * (l.watcher.backlog + s.connection.backlog) + 3
    let (p, watcher, connection) := nextEvent l.selector fuel l.watcher s.connection
    let listeners := s.listeners.put k ((s.listeners.of k).map fun m =>
      if m.id = id then { m with watcher } else m)
    (p, { s with connection, listeners })

def close (id : WatchId k) (s : Remote) : Remote :=
  { s with listeners := s.listeners.put k ((s.listeners.of k).filter fun l => l.id ≠ id) }

def backlogOf (s : Remote) (k : Kind) : Nat :=
  (s.listeners.of k).foldl (fun n l => n + l.watcher.backlog) 0

def backlog (s : Remote) : Nat :=
  2 * Kind.all.foldl (fun n k => n + s.backlogOf k) s.connection.backlog + 3

instance : Platform Remote where
  answer := answer
  poll := poll
  close := close
  backlog := backlog

end Remote

end Slipway

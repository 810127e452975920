import Slipway.BuildHistory
import Slipway.PerKind
import Slipway.Platform

/-
  A platform in memory. Every change of an object gives it a new version, and a watch receives
  the matching objects that exist when it is opened and those that change later. Conflicts on
  creation and deletions that take their time can be arranged beforehand.
-/

namespace Slipway

/-- A change that was carried out. -/
inductive Operation where
  | create (k : Kind) (name : String)
  | replace (k : Kind) (name : String)
  | delete (k : Kind) (name : String)
  | awaitDeleted (k : Kind) (name : String)
  | instantiate (buildConfig : String)
  | binary (buildConfig : String)
  | rollout (deploymentConfig : String)
  deriving DecidableEq, Repr

def Operation.text : Operation → String
  | create k n => "create " ++ k.name ++ "/" ++ n
  | replace k n => "replace " ++ k.name ++ "/" ++ n
  | delete k n => "delete " ++ k.name ++ "/" ++ n
  | awaitDeleted k n => "await-deleted " ++ k.name ++ "/" ++ n
  | instantiate n => "instantiate BuildConfig/" ++ n
  | binary n => "binary BuildConfig/" ++ n
  | rollout n => "rollout DeploymentConfig/" ++ n

/-- A watch: the events not told yet, whether more can come, and whether somebody listens. -/
structure Subscription (k : Kind) where
  id : WatchId k
  selector : String
  queue : List (Resource k)
  hasSource : Bool := true
  isOpen : Bool := true

structure Cluster where
  objects : PerKind fun k => Dict (Resource k) := PerKind.ofFun fun _ => ∅
  subscriptions : PerKind fun k => List (Subscription k) := PerKind.ofFun fun _ => []
  /-- The creations that report a conflict, once each. -/
  conflicts : List (Kind × String) := []
  /-- The objects whose deletion takes until it is waited for. -/
  terminating : List (Kind × String) := []
  version : Nat := 0
  watchCount : Nat := 0
  log : List Operation := []

namespace Cluster

instance : Inhabited Cluster := ⟨{}⟩

variable {k : Kind}

def find? (s : Cluster) (k : Kind) (name : String) : Option (Resource k) :=
  (s.objects.of k).get? name

def store (s : Cluster) (name : String) (r : Resource k) : Cluster :=
  { s with objects := s.objects.put k ((s.objects.of k).insert name r) }

def discard (s : Cluster) (k : Kind) (name : String) : Cluster :=
  { s with objects := s.objects.put k ((s.objects.of k).erase name) }

def record (s : Cluster) (op : Operation) : Cluster := { s with log := s.log ++ [op] }

/-- The time that a version stands for. -/
def clock (version : Nat) : Timestamp :=
  .in2025 (version / 60 % 60 * 60 + version % 60) (by omega)

def deletionTime : Timestamp := .in2025 3600 (by decide)

/-- The metadata of an object under a new version. An identity and a time of creation are given
    where there are none. -/
def stampMetadata (version : Nat) (m : Metadata) : Metadata :=
  { m with
    resourceVersion := some (Text.decimal version)
    uid := m.uid.or (some ("uid-" ++ Text.decimal version))
    creationTimestamp := m.creationTimestamp.or (some (clock version)) }

/-- An object under the next version, as it is kept. -/
def stamp (s : Cluster) (r : Resource k) : Resource k × Cluster :=
  let r := r.stored
  ({ r with metadata := stampMetadata (s.version + 1) r.metadata },
    { s with version := s.version + 1 })

def matching (s : Cluster) (k : Kind) (selector : String) : List (Resource k) :=
  (s.objects.of k).values.filter fun r => Labels.satisfies r.labels selector

/-- Tells a changed object to the watches that it matches. -/
def notify (s : Cluster) (r : Resource k) : Cluster :=
  { s with subscriptions := s.subscriptions.put k ((s.subscriptions.of k).map fun w =>
      if w.hasSource && w.isOpen && Labels.satisfies r.labels w.selector then
        { w with queue := w.queue ++ [r] }
      else w) }

/-! ## Calls -/

def create (s : Cluster) (r : Resource k) : Result (Resource k) × Cluster :=
  let name := r.name
  let s' := { s with conflicts := s.conflicts.filter (· ≠ (k, name)) }
  if s.conflicts.contains (k, name) || (s.find? k name).isSome then
    (.error (.alreadyExists k name), s')
  else
    let (r, s') := s'.stamp r
    (.ok r, ((s'.store name r).record (.create k name)).notify r)

/-- An object is replaced only by one that carries its version. -/
def replace (s : Cluster) (name : String) (r : Resource k) : Result (Resource k) × Cluster :=
  match s.find? k name with
  | none => (.error (.notFound k name), s)
  | some existing =>
    if existing.metadata.resourceVersion ≠ r.metadata.resourceVersion then
      (.error (.alreadyExists k name), s)
    else
      let metadata := { r.metadata with
        creationTimestamp := existing.metadata.creationTimestamp
        uid := existing.metadata.uid }
      let (r, s) := s.stamp { r with metadata }
      (.ok r, ((s.store name r).record (.replace k name)).notify r)

def delete (s : Cluster) (k : Kind) (name : String) : Result Unit × Cluster :=
  match s.find? k name with
  | none => (.error (.notFound k name), s)
  | some existing =>
    let s := if s.terminating.contains (k, name) then
        let metadata := { existing.metadata with deletionTimestamp := some deletionTime }
        s.store name { existing with metadata }
      else s.discard k name
    (.ok (), s.record (.delete k name))

/-- Ends the deletion of an object, if it is still the same. -/
def awaitDeleted (s : Cluster) (k : Kind) (name uid : String) : Cluster :=
  let s := { s with terminating := s.terminating.filter (· ≠ (k, name)) }
  match s.find? k name with
  | some existing =>
    if existing.metadata.uid = some uid then (s.discard k name).record (.awaitDeleted k name) else s
  | none => s

def watch (s : Cluster) (k : Kind) (selector : String) : WatchId k × Cluster :=
  let id : WatchId k := ⟨s.watchCount⟩
  (id, { s with
    subscriptions := s.subscriptions.put k
      (s.subscriptions.of k ++ [{ id, selector, queue := s.matching k selector }])
    watchCount := s.watchCount + 1 })

/-- The number of the next build of a build configuration. -/
def nextBuildNumber (s : Cluster) (buildConfig : String) : Nat :=
  ((s.objects.of .build).keys.filter (Text.startsWith (buildConfig ++ "-"))).length + 1

/-- The build that a build configuration starts. -/
def newBuild (bc : BuildConfig) (buildConfig : String) (number : Nat) : Build :=
  let status : BuildStatus := { phase := .new }
  { metadata := {
      name := some (buildConfig ++ "-" ++ Text.decimal number)
      labels := bc.metadata.labels
      annotations :=
        some (Dict.empty.insert BuildHistory.numberAnnotation (Text.decimal number)) }
    spec := (bc.spec : BuildConfigSpec).recipe
    status := some status }

def startBuild (s : Cluster) (buildConfig : String) (op : Operation) : Result Build × Cluster :=
  match s.find? .buildConfig buildConfig with
  | none => (.error (.notFound .buildConfig buildConfig), s)
  | some bc =>
    let b := newBuild bc buildConfig (s.nextBuildNumber buildConfig)
    let name := b.name
    let (b, s) := s.stamp b
    (.ok b, ((s.store name b).record op).notify b)

/-- Counts up the version that is rolled out. The answer is the object as it was told to be. -/
def rollout (s : Cluster) (name : String) : Result DeploymentConfig × Cluster :=
  match s.find? .deploymentConfig name with
  | none => (.error (.notFound .deploymentConfig name), s)
  | some dc =>
    let status : DeploymentStatus := (dc.status : Option DeploymentStatus).getD {}
    let status := { status with latestVersion := status.latestVersion + 1 }
    let dc : DeploymentConfig := { dc with status := some status }
    let (stamped, s) := s.stamp dc
    (.ok dc, (s.store name stamped).record (.rollout name))

/-- Answers a call. Nothing here takes time. -/
def answer : (c : Call) → Cluster → Result c.Answer × Cluster
  | .get k name, s => (.ok (s.find? k name), s)
  | .create _ r, s => s.create r
  | .replace _ name r, s => s.replace name r
  | .delete k name, s => s.delete k name
  | .awaitDeleted k name uid, s => (.ok (), s.awaitDeleted k name uid)
  | .list k selector, s => (.ok (s.matching k selector), s)
  | .watch k selector, s => let (id, s) := s.watch k selector; (.ok id, s)
  | .instantiateBuild name, s => s.startBuild name (.instantiate name)
  | .submitBinaryBuild name _ _, s => s.startBuild name (.binary name)
  | .rollout name, s => s.rollout name

/-! ## Watches -/

def updateSubscription (s : Cluster) (id : WatchId k) (f : Subscription k → Subscription k) :
    Cluster :=
  { s with subscriptions := s.subscriptions.put k ((s.subscriptions.of k).map fun w =>
      if w.id = id then f w else w) }

def poll (id : WatchId k) (s : Cluster) : Poll k × Cluster :=
  match (s.subscriptions.of k).find? (·.id = id) with
  | none => (.ended, s)
  | some w =>
    match w.queue with
    | r :: rest => (.event (.ok r), s.updateSubscription id fun w => { w with queue := rest })
    | [] => (if w.hasSource then .waiting else .ended, s)

def close (id : WatchId k) (s : Cluster) : Cluster :=
  s.updateSubscription id fun w => { w with queue := [], isOpen := false }

def backlogOf (s : Cluster) (k : Kind) : Nat :=
  (s.subscriptions.of k).foldl (fun n w => n + w.queue.length) 0

instance : Platform Cluster where
  answer c s := let (r, s) := answer c s; (some r, s)
  poll := poll
  close := close
  backlog s := Kind.all.foldl (fun n k => n + s.backlogOf k) 1

/-! ## Acts of the world outside -/

/-- Stores an object without anyone being told. -/
def insert (s : Cluster) (r : Resource k) : Cluster :=
  let name := r.name
  let (r, s) := s.stamp r
  s.store name r

def injectConflict (s : Cluster) (k : Kind) (name : String) : Cluster :=
  { s with conflicts := if s.conflicts.contains (k, name) then s.conflicts
      else s.conflicts ++ [(k, name)] }

def terminateGracefully (s : Cluster) (k : Kind) (name : String) : Cluster :=
  { s with terminating := if s.terminating.contains (k, name) then s.terminating
      else s.terminating ++ [(k, name)] }

/-- Moves a build to a phase; none if there is no such build. -/
def setBuildPhase (s : Cluster) (name : String) (phase : BuildPhase) (image : Option String) :
    Option Cluster :=
  (s.find? .build name).map fun b =>
    let status : BuildStatus := {
      phase
      message := if phase.isFailure then some ("build " ++ phase.name) else none
      outputImage := image }
    let b : Build := { b with status := some status }
    let (b, s) := s.stamp b
    (s.store name b).notify b

/-- Ends all watches. What they were told before can still be read. -/
def dropWatches (s : Cluster) : Cluster :=
  { s with subscriptions := PerKind.ofFun fun k =>
      (s.subscriptions.of k).map fun w => { w with hasSource := false } }

/-- The number of watches that somebody listens to and that have not been ended. -/
def openWatches (s : Cluster) : Nat :=
  Kind.all.foldl (fun n k =>
    n + ((s.subscriptions.of k).filter fun w => w.hasSource && w.isOpen).length) 0

end Cluster

end Slipway
